import ReplicatedSpace.Json.Record
import ReplicatedSpace.Replica
import ReplicatedSpace.Settings

/-!
The bodies exchanged with the name server, the sequencer and the replicas, and their codecs.
-/
namespace ReplicatedSpace

open Json (Codec Member Members)

structure LookupReply where
  servers : List Replica

structure Registration where
  service : String
  qualifier : String
  address : String

structure Withdrawal where
  service : String
  address : String

structure NumberReply where
  seq : SequenceNumber

structure PutRequest where
  tuple : String
  seq : SequenceNumber

structure ReadRequest where
  pattern : String

structure TakeRequest where
  pattern : String
  seq : SequenceNumber

structure TupleReply where
  tuple : String

structure StateReply where
  tuples : List String

private def twoTexts (first second : String) : Members [String, String] :=
  .cons (.required first Json.text) (.cons (.required second Json.text) .nil)

def Replica.codec : Codec Replica :=
  (twoTexts "address" "qualifier").codec.map (fun row => ⟨row.1, row.2.1⟩)
    (fun replica => (replica.address, replica.qualifier, ()))

def LookupReply.codec : Codec LookupReply :=
  (Members.cons (.required "servers" (Json.list Replica.codec)) .nil).codec.map (fun row => ⟨row.1⟩)
    (fun reply => (reply.servers, ()))

def Registration.codec : Codec Registration :=
  (Members.cons (.required "service" Json.text) (twoTexts "qualifier" "address")).codec.map
    (fun row => ⟨row.1, row.2.1, row.2.2.1⟩)
    (fun registration =>
      (registration.service, registration.qualifier, registration.address, ()))

def Withdrawal.codec : Codec Withdrawal :=
  (twoTexts "service" "address").codec.map (fun row => ⟨row.1, row.2.1⟩)
    (fun withdrawal => (withdrawal.service, withdrawal.address, ()))

def SequenceNumber.codec : Codec SequenceNumber := Json.word64.map SequenceNumber.mk (·.value)

def NumberReply.codec : Codec NumberReply :=
  (Members.cons (.required "seq" SequenceNumber.codec) .nil).codec.map (fun row => ⟨row.1⟩)
    (fun reply => (reply.seq, ()))

private def textAndNumber (name : String) : Members [String, SequenceNumber] :=
  .cons (.required name Json.text) (.cons (.required "seq" SequenceNumber.codec) .nil)

def PutRequest.codec : Codec PutRequest :=
  (textAndNumber "tuple").codec.map (fun row => ⟨row.1, row.2.1⟩)
    (fun request => (request.tuple, request.seq, ()))

def ReadRequest.codec : Codec ReadRequest :=
  (Members.cons (.required "pattern" Json.text) .nil).codec.map (fun row => ⟨row.1⟩)
    (fun request => (request.pattern, ()))

def TakeRequest.codec : Codec TakeRequest :=
  (textAndNumber "pattern").codec.map (fun row => ⟨row.1, row.2.1⟩)
    (fun request => (request.pattern, request.seq, ()))

def TupleReply.codec : Codec TupleReply :=
  (Members.cons (.required "tuple" Json.text) .nil).codec.map (fun row => ⟨row.1⟩)
    (fun reply => (reply.tuple, ()))

def StateReply.codec : Codec StateReply :=
  (Members.cons (.required "tuples" (Json.list Json.text)) .nil).codec.map (fun row => ⟨row.1⟩)
    (fun reply => (reply.tuples, ()))

namespace Operation

def ofNameOrShape (name : List Char) : Except Json.Fault Operation :=
  match ofName? (.ofList name) with
  | some operation => .ok operation
  | none => .error .shape

/-- An operation is a text, or an object whose one member has that name and the value `null`. -/
def readJson (text : List Char) : Json.Parsed Operation :=
  match Json.dropBlanks text with
  | [] => .error .truncated
  | mark :: rest =>
    if mark = '\x7b' then
      match Json.readText rest with
      | .error fault => .error fault
      | .ok (name, behind) =>
        match ofNameOrShape name with
        | .error fault => .error fault
        | .ok operation =>
          match Json.takeMark ':' behind with
          | .error fault => .error fault
          | .ok value =>
            match Json.dropBlanks value with
            | [] => .error .truncated
            | first :: more =>
              if first = 'n' then
                match Json.takeWord "ull".toList more with
                | .error fault => .error fault
                | .ok tail =>
                  match Json.takeMark '\x7d' tail with
                  | .error fault => .error fault
                  | .ok outside => .ok (operation, outside)
              else .error (Json.misfit (first :: more))
    else if mark = '\x22' then
      match Json.readQuoted rest with
      | .error fault => .error fault
      | .ok (name, behind) =>
        match ofNameOrShape name with
        | .error fault => .error fault
        | .ok operation => .ok (operation, behind)
    else .error .malformed

theorem length_readJson_lt {text rest : List Char} {operation : Operation}
    (read : readJson text = .ok (operation, rest)) : rest.length < text.length := by
  have shorter := Json.length_dropBlanks_le text
  unfold readJson at read
  split at read
  · simp at read
  · rename_i start
    rw [start, List.length_cons] at shorter
    split at read
    · split at read
      · simp at read
      · rename_i name
        have := Json.length_readText_lt name
        split at read
        · simp at read
        · split at read
          · simp at read
          · rename_i value colon
            have := Json.length_takeMark_lt colon
            have within := Json.length_dropBlanks_le value
            split at read
            · simp at read
            · rename_i inside
              rw [inside, List.length_cons] at within
              split at read
              · split at read
                · simp at read
                · rename_i word
                  have := Json.length_takeWord_le word
                  split at read
                  · simp at read
                  · rename_i closed
                    have := Json.length_takeMark_lt closed
                    simp only [Except.ok.injEq, Prod.mk.injEq] at read
                    obtain ⟨_, rfl⟩ := read
                    omega
              · simp at read
    · split at read
      · split at read
        · simp at read
        · rename_i name
          have := Json.length_readQuoted_lt name
          split at read
          · simp at read
          · simp only [Except.ok.injEq, Prod.mk.injEq] at read
            obtain ⟨_, rfl⟩ := read
            omega
      · simp at read

def codec : Codec Operation :=
  ⟨fun operation => Json.quote operation.name.toList, readJson, length_readJson_lt⟩

end Operation

/-- Every field of the settings has a fallback. -/
def Settings.codec : Codec Settings :=
  let texts (name fallback : String) := Member.withFallback name Json.text fallback
  (Members.cons (texts "service_name" standard.serviceName)
    (.cons (.whenPresent "qualifier" Json.text)
    (.cons (texts "name_server" standard.nameServer)
    (.cons (texts "sequencer" standard.sequencer)
    (.cons (.withFallback "retries" Json.word32 standard.retries)
    (.cons (.withFallback "stagger_ms" Json.word64 standard.staggerMillis)
    (.cons (texts "log_level" standard.logLevel) .nil))))))).codec.map
    (fun row => ⟨row.1, row.2.1, row.2.2.1, row.2.2.2.1, row.2.2.2.2.1, row.2.2.2.2.2.1,
      row.2.2.2.2.2.2.1⟩)
    (fun settings => (settings.serviceName, settings.qualifier, settings.nameServer,
      settings.sequencer, settings.retries, settings.staggerMillis, settings.logLevel, ()))

/-- The types of which texts are exchanged. -/
inductive MessageType
  | lookupReply
  | registration
  | withdrawal
  | numberReply
  | putRequest
  | readRequest
  | takeRequest
  | tupleReply
  | stateReply
  | replica
  | operation
  | settings

namespace MessageType

@[reducible] def Value : MessageType → Type
  | lookupReply => LookupReply
  | registration => Registration
  | withdrawal => Withdrawal
  | numberReply => NumberReply
  | putRequest => PutRequest
  | readRequest => ReadRequest
  | takeRequest => TakeRequest
  | tupleReply => TupleReply
  | stateReply => StateReply
  | replica => Replica
  | operation => Operation
  | settings => Settings

def codec : (type : MessageType) → Codec type.Value
  | lookupReply => LookupReply.codec
  | registration => Registration.codec
  | withdrawal => Withdrawal.codec
  | numberReply => NumberReply.codec
  | putRequest => PutRequest.codec
  | readRequest => ReadRequest.codec
  | takeRequest => TakeRequest.codec
  | tupleReply => TupleReply.codec
  | stateReply => StateReply.codec
  | replica => Replica.codec
  | operation => Operation.codec
  | settings => Settings.codec

def recode (type : MessageType) (text : String) : Except Json.Fault String :=
  (type.codec.decode text).map type.codec.encode

end MessageType
end ReplicatedSpace
