import ReplicatedSpace.Proofs.Schedule

/-!
Whom the name server is asked for. A coordinator keeps the service and the qualifier of its
settings through discoveries, failures and delays that are set, so every question of a client is for
the service and the qualifier in the settings of that client.
-/
namespace ReplicatedSpace

/-- A coordinator looks for the service and the qualifier of these settings. -/
def Coordinator.Serves (settings : Settings) (coordinator : Coordinator) : Prop :=
  coordinator.service = settings.serviceName ∧ coordinator.qualifier = settings.qualifier

theorem Coordinator.Serves.setDelay {settings : Settings} {coordinator changed : Coordinator}
    {qualifier : String} {delay : Span} (serves : coordinator.Serves settings)
    (set : coordinator.setDelay qualifier delay = .ok changed) : changed.Serves settings := by
  unfold Coordinator.setDelay at set
  split at set
  · cases set
  · cases set
    exact serves

namespace Timeline

variable {world : World} {settings : List Settings} {timeline later : Timeline}

theorem Deed.serves {coordinator : Coordinator} {task : Task} {effect : Effect}
    {events : List Event} {client : Client} {own : Settings}
    (deed : Deed world timeline coordinator task effect events client)
    (serves : coordinator.Serves own) : client.coordinator.Serves own := by
  rcases deed.coordinator with same | same | ⟨replicas, same⟩ | ⟨handle, same⟩ <;>
    exact same ▸ serves

theorem Deed.lookup {coordinator : Coordinator} {task : Task} {effect : Effect}
    {events : List Event} {client : Client} {service : String} {qualifier : Option String}
    (deed : Deed world timeline coordinator task effect events client)
    (asked : .lookup service qualifier ∈ events) :
    service = coordinator.service ∧ qualifier = coordinator.qualifier := by
  cases deed with
  | found => simpa using asked
  | lost _ _ _ _ ends => cases ends <;> simpa using asked
  | decided _ _ _ ends => cases ends <;> simp at asked
  | _ => simp at asked

/-- Every coordinator looks for what its settings say, and nothing else was looked for. -/
structure Seeking (settings : List Settings) (timeline : Timeline) : Prop where
  clients : ∀ (index : Nat) (client : Client), timeline.clients[index]? = some client →
    ∃ own, settings[index]? = some own ∧ client.coordinator.Serves own
  past : ∀ moment ∈ timeline.past, ∀ service qualifier, moment.event = .lookup service qualifier →
    ∃ own, settings[moment.client]? = some own ∧
      service = own.serviceName ∧ qualifier = own.qualifier

theorem Seeking.moves (seeking : timeline.Seeking settings)
    (moves : timeline.Moves world later) : later.Seeking settings := by
  constructor
  · intro index client found
    rcases moves.client? found with found | ⟨_, _, _, _, busy, deed, _⟩
    · exact seeking.clients index client found
    · obtain ⟨own, listed, serves⟩ := seeking.clients index _ busy
      exact ⟨own, listed, deed.serves serves⟩
  cases moves with
  | client proceeds leads =>
    rename_i mover step
    obtain ⟨coordinator, task, effect, events, changed, busy, deed, same⟩ :=
      deed_of_proceed? proceeds leads
    subst same
    obtain ⟨own, listed, serves⟩ := seeking.clients mover _ busy
    intro moment present service qualifier lookup
    rw [enact, carry_past] at present
    rcases List.mem_append.mp present with fresh | old
    · obtain ⟨event, told, same⟩ := List.mem_map.mp (List.mem_reverse.mp fresh)
      subst same
      have lookup : event = .lookup service qualifier := lookup
      obtain ⟨ofService, ofQualifier⟩ := deed.lookup (lookup ▸ told)
      exact ⟨own, listed, ofService.trans serves.1, ofQualifier.trans serves.2⟩
    · exact seeking.past moment old service qualifier lookup
  | flight fires leads =>
    obtain ⟨_, moments, past, others⟩ := (lands_of_fire? fires leads).past
    intro moment present service qualifier lookup
    rw [past] at present
    rcases List.mem_append.mp present with fresh | old
    · have other := (others moment fresh).1
      rw [lookup] at other
      cases other
    · exact seeking.past moment old service qualifier lookup
  | clock => exact seeking.past
  | shuffle => exact seeking.past

theorem Seeking.requests {mover : Nat} (seeking : timeline.Seeking settings)
    (requests : timeline.Requests mover later) : later.Seeking settings := by
  cases requests with
  | operation free operation argument retries start =>
    constructor
    · intro index client found
      rcases client?_of_submit found with found | ⟨_, earlier, own, renewed⟩
      · exact seeking.clients index client found
      · subst renewed
        exact seeking.clients index earlier own
    · have past : (timeline.submit mover operation argument retries start).past =
          timeline.past := by
        unfold submit
        split <;> rfl
      rw [past]
      exact seeking.past
  | delay free qualifier delay =>
    cases own : timeline.clients[mover]? with
    | none =>
      have same : timeline.requestDelay mover qualifier delay = timeline := by
        simp [requestDelay, setDelay, own]
      rw [same]
      exact seeking
    | some mine =>
      rcases timeline.setDelay_cases mover own qualifier delay with
        ⟨_, same⟩ | ⟨changed, set, same⟩
      · rw [same]
        exact seeking
      rw [same]
      constructor
      · intro index client found
        simp only [setClient, log, List.getElem?_set] at found
        split at found
        · rename_i here
          subst here
          split at found
          · cases found
            obtain ⟨settings, listed, serves⟩ := seeking.clients mover mine own
            exact ⟨settings, listed, serves.setDelay set⟩
          · cases found
        · exact seeking.clients index client found
      · intro moment present service qualifier lookup
        rcases List.mem_cons.mp present with same | old
        · rw [same] at lookup
          cases lookup
        · exact seeking.past moment old service qualifier lookup

/-- Whatever happens, the name server is asked for the service and the qualifier that the settings
of the asking client have. -/
theorem Reached.seeking (reached : timeline.Reached world settings) :
    timeline.Seeking settings := by
  induction reached with
  | opening =>
    constructor
    · intro index client found
      simp only [Timeline.opening, List.getElem?_map, Option.map_eq_some_iff] at found
      obtain ⟨own, listed, same⟩ := found
      subst same
      exact ⟨own, listed, rfl, rfl⟩
    · intro moment absent
      cases absent
  | moves _ moves seeking => exact seeking.moves moves
  | requests _ requests seeking => exact seeking.requests requests

end Timeline
end ReplicatedSpace
