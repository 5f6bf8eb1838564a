import ReplicatedSpace.Message
import ReplicatedSpace.Proofs.Records

/-!
Every message is read back from its text: each of its parts is, and its members have names of their
own.
-/
namespace ReplicatedSpace

open Json (Codec Member Members)

namespace Json

theorem oneText_faithful (name : String) :
    (Members.cons (.required name text) .nil).Faithful :=
  ⟨text_faithful.required name, List.not_mem_nil, trivial⟩

theorem twoTexts_faithful {first second : String} (differ : first ≠ second) :
    (Members.cons (.required first text) (.cons (.required second text) .nil)).Faithful := by
  refine ⟨text_faithful.required first, ?_, oneText_faithful second⟩
  simpa [Members.names, Member.required] using differ

end Json

theorem Replica.codec_faithful : Replica.codec.Faithful :=
  (Json.twoTexts_faithful (by decide)).codec.map fun _ => rfl

theorem LookupReply.codec_faithful : LookupReply.codec.Faithful := by
  have members : (Members.cons (.required "servers" (Json.list Replica.codec)) .nil).Faithful :=
    ⟨(Json.list_faithful Replica.codec_faithful).required _, List.not_mem_nil, trivial⟩
  exact members.codec.map fun _ => rfl

theorem Registration.codec_faithful : Registration.codec.Faithful := by
  have members : (Members.cons (.required "service" Json.text)
      (.cons (.required "qualifier" Json.text) (.cons (.required "address" Json.text)
        .nil))).Faithful :=
    ⟨Json.text_faithful.required _, by decide, Json.twoTexts_faithful (by decide)⟩
  exact members.codec.map fun _ => rfl

theorem Withdrawal.codec_faithful : Withdrawal.codec.Faithful :=
  (Json.twoTexts_faithful (by decide)).codec.map fun _ => rfl

theorem SequenceNumber.codec_faithful : SequenceNumber.codec.Faithful :=
  Json.word64_faithful.map fun _ => rfl

theorem NumberReply.codec_faithful : NumberReply.codec.Faithful := by
  have members : (Members.cons (.required "seq" SequenceNumber.codec) .nil).Faithful :=
    ⟨SequenceNumber.codec_faithful.required _, List.not_mem_nil, trivial⟩
  exact members.codec.map fun _ => rfl

theorem Json.textAndNumber_faithful {name : String} (differs : name ≠ "seq") :
    (Members.cons (.required name Json.text)
      (.cons (.required "seq" SequenceNumber.codec) .nil)).Faithful := by
  refine ⟨Json.text_faithful.required name, ?_, SequenceNumber.codec_faithful.required _,
    List.not_mem_nil, trivial⟩
  simpa [Members.names, Member.required] using differs

theorem PutRequest.codec_faithful : PutRequest.codec.Faithful :=
  (Json.textAndNumber_faithful (by decide)).codec.map fun _ => rfl

theorem ReadRequest.codec_faithful : ReadRequest.codec.Faithful :=
  (Json.oneText_faithful _).codec.map fun _ => rfl

theorem TakeRequest.codec_faithful : TakeRequest.codec.Faithful :=
  (Json.textAndNumber_faithful (by decide)).codec.map fun _ => rfl

theorem TupleReply.codec_faithful : TupleReply.codec.Faithful :=
  (Json.oneText_faithful _).codec.map fun _ => rfl

theorem StateReply.codec_faithful : StateReply.codec.Faithful := by
  have members : (Members.cons (.required "tuples" (Json.list Json.text)) .nil).Faithful :=
    ⟨(Json.list_faithful Json.text_faithful).required _, List.not_mem_nil, trivial⟩
  exact members.codec.map fun _ => rfl

theorem Operation.codec_faithful : Operation.codec.Faithful := by
  have visible : Json.isBlank '\x22' = false := by decide
  constructor
  · intro operation rest _
    have name : ofNameOrShape operation.name.toList = .ok operation := by
      rw [ofNameOrShape, String.ofList_toList, ofName?_name]
    simp [codec, readJson, Json.quote, Json.dropBlanks_cons visible, Json.readQuoted_quoted, name]
  · intro operation
    exact ⟨'\x22', _, rfl, visible, by decide, by decide⟩

theorem Settings.codec_faithful : Settings.codec.Faithful := by
  have members : (Members.cons (.withFallback "service_name" Json.text standard.serviceName)
      (.cons (.whenPresent "qualifier" Json.text)
      (.cons (.withFallback "name_server" Json.text standard.nameServer)
      (.cons (.withFallback "sequencer" Json.text standard.sequencer)
      (.cons (.withFallback "retries" Json.word32 standard.retries)
      (.cons (.withFallback "stagger_ms" Json.word64 standard.staggerMillis)
      (.cons (.withFallback "log_level" Json.text standard.logLevel) .nil))))))).Faithful :=
    ⟨Json.text_faithful.withFallback .., by decide, Json.text_faithful.whenPresent _, by decide,
      Json.text_faithful.withFallback .., by decide, Json.text_faithful.withFallback ..,
      by decide, Json.word32_faithful.withFallback .., by decide,
      Json.word64_faithful.withFallback .., by decide, Json.text_faithful.withFallback ..,
      List.not_mem_nil, trivial⟩
  exact members.codec.map fun _ => rfl

theorem MessageType.codec_faithful (type : MessageType) : type.codec.Faithful := by
  cases type with
  | lookupReply => exact LookupReply.codec_faithful
  | registration => exact Registration.codec_faithful
  | withdrawal => exact Withdrawal.codec_faithful
  | numberReply => exact NumberReply.codec_faithful
  | putRequest => exact PutRequest.codec_faithful
  | readRequest => exact ReadRequest.codec_faithful
  | takeRequest => exact TakeRequest.codec_faithful
  | tupleReply => exact TupleReply.codec_faithful
  | stateReply => exact StateReply.codec_faithful
  | replica => exact Replica.codec_faithful
  | operation => exact Operation.codec_faithful
  | settings => exact Settings.codec_faithful

/-- The members of settings that are written, among them a qualifier only if there is one. -/
def Settings.parts (settings : Settings) : List (List Char) :=
  Json.entry "service_name" (Json.quote settings.serviceName.toList) ::
  ((settings.qualifier.map fun qualifier =>
    Json.entry "qualifier" (Json.quote qualifier.toList)).toList ++
  [Json.entry "name_server" (Json.quote settings.nameServer.toList),
    Json.entry "sequencer" (Json.quote settings.sequencer.toList),
    Json.entry "retries" (Nat.repr settings.retries.toNat).toList,
    Json.entry "stagger_ms" (Nat.repr settings.staggerMillis.toNat).toList,
    Json.entry "log_level" (Json.quote settings.logLevel.toList)])

theorem Settings.write_eq (settings : Settings) :
    Settings.codec.write settings = '\x7b' :: Json.joinComma settings.parts ++ ['\x7d'] := by
  obtain ⟨service, qualifier, nameServer, sequencer, retries, stagger, level⟩ := settings
  cases qualifier with
  | none => rfl
  | some qualifier => rfl

/-- Every value of every type is read back from its text, of which nothing is left, whatever its
texts, lists and numbers are. Settings without a qualifier are written without that member. -/
theorem json_round_trip :
    (∀ (type : MessageType) (value : type.Value),
      type.codec.read (type.codec.encode value).toList = .ok (value, []) ∧
        type.codec.decode (type.codec.encode value) = .ok value) ∧
    ∀ settings : Settings, (Settings.codec.encode settings).toList =
      '\x7b' :: Json.joinComma settings.parts ++ ['\x7d'] := by
  constructor
  · intro type value
    exact type.codec_faithful.decode_encode value
  · intro settings
    rw [Codec.encode, String.toList_ofList]
    exact settings.write_eq

end ReplicatedSpace
