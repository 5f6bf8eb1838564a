import ReplicatedSpace.Message
import ReplicatedSpace.Proofs.Members

/-!
All spellings of a message agree. A message that is a record is read from any object that holds its
members, in any order and among any others, and from the array of its members. It is not read when
a member stands twice, when one that is needed is missing, or when anything stands behind it.
-/
namespace ReplicatedSpace

open Json (Codec IsGap Layout Quoted Shape Spelled Tree)

namespace Json.Layout

def oneText (name : String) : Layout [String] where
  members := .cons (.required name text) .nil
  meanings := (Tree.text?, ())
  means := .cons text_means.stopping List.not_mem_nil .nil

def twoTexts {first second : String} (differ : first ≠ second) : Layout [String, String] where
  members := .cons (.required first text) (oneText second).members
  meanings := (Tree.text?, (oneText second).meanings)
  means := .cons text_means.stopping (mt List.mem_singleton.mp differ) (oneText second).means

def number : Layout [SequenceNumber] where
  members := .cons (.required "seq" SequenceNumber.codec) .nil
  meanings := (fun tree => tree.word64?.map .mk, ())
  means := .cons (word64_means.map _ _) List.not_mem_nil .nil

def textAndNumber {name : String} (differs : name ≠ "seq") :
    Layout [String, SequenceNumber] where
  members := .cons (.required name text) number.members
  meanings := (Tree.text?, number.meanings)
  means := .cons text_means.stopping (mt List.mem_singleton.mp differs) number.means

def oneList {α : Type} (name : String) {item : Codec α} {meaning : Tree → Option α}
    (means : item.Means Tree.Stops meaning) : Layout [List α] where
  members := .cons (.required name (list item)) .nil
  meanings := (Tree.list? meaning, ())
  means := .cons (list_means means).stopping List.not_mem_nil .nil

end Json.Layout

def Replica.shape : Shape Replica where
  types := [String, String]
  layout := .twoTexts (show "address" ≠ "qualifier" by decide)
  into row := ⟨row.1, row.2.1⟩
  row replica := (replica.address, replica.qualifier, ())
  into_row _ := rfl
  row_into _ := rfl

def LookupReply.shape : Shape LookupReply where
  types := [List Replica]
  layout := .oneList "servers" Replica.shape.codec_means.stopping
  into row := ⟨row.1⟩
  row reply := (reply.servers, ())
  into_row _ := rfl
  row_into _ := rfl

def Registration.shape : Shape Registration where
  types := [String, String, String]
  layout :=
    let others := Layout.twoTexts (show "qualifier" ≠ "address" by decide)
    { members := .cons (.required "service" Json.text) others.members
      meanings := (Tree.text?, others.meanings)
      means := .cons Json.text_means.stopping (by decide) others.means }
  into row := ⟨row.1, row.2.1, row.2.2.1⟩
  row registration :=
    (registration.service, registration.qualifier, registration.address, ())
  into_row _ := rfl
  row_into _ := rfl

def Withdrawal.shape : Shape Withdrawal where
  types := [String, String]
  layout := .twoTexts (show "service" ≠ "address" by decide)
  into row := ⟨row.1, row.2.1⟩
  row withdrawal := (withdrawal.service, withdrawal.address, ())
  into_row _ := rfl
  row_into _ := rfl

def NumberReply.shape : Shape NumberReply where
  types := [SequenceNumber]
  layout := .number
  into row := ⟨row.1⟩
  row reply := (reply.seq, ())
  into_row _ := rfl
  row_into _ := rfl

def PutRequest.shape : Shape PutRequest where
  types := [String, SequenceNumber]
  layout := .textAndNumber (show "tuple" ≠ "seq" by decide)
  into row := ⟨row.1, row.2.1⟩
  row request := (request.tuple, request.seq, ())
  into_row _ := rfl
  row_into _ := rfl

def ReadRequest.shape : Shape ReadRequest where
  types := [String]
  layout := .oneText "pattern"
  into row := ⟨row.1⟩
  row request := (request.pattern, ())
  into_row _ := rfl
  row_into _ := rfl

def TakeRequest.shape : Shape TakeRequest where
  types := [String, SequenceNumber]
  layout := .textAndNumber (show "pattern" ≠ "seq" by decide)
  into row := ⟨row.1, row.2.1⟩
  row request := (request.pattern, request.seq, ())
  into_row _ := rfl
  row_into _ := rfl

def TupleReply.shape : Shape TupleReply where
  types := [String]
  layout := .oneText "tuple"
  into row := ⟨row.1⟩
  row reply := (reply.tuple, ())
  into_row _ := rfl
  row_into _ := rfl

def StateReply.shape : Shape StateReply where
  types := [List String]
  layout := .oneList "tuples" Json.text_means.stopping
  into row := ⟨row.1⟩
  row reply := (reply.tuples, ())
  into_row _ := rfl
  row_into _ := rfl

open Json (Member Members word32_means word64_means text_means optional_means) in
def Settings.layout :
    Layout [String, Option String, String, String, UInt32, UInt64, String] where
  members :=
    let texts (name fallback : String) := Member.withFallback name Json.text fallback
    .cons (texts "service_name" standard.serviceName)
      (.cons (.whenPresent "qualifier" Json.text)
      (.cons (texts "name_server" standard.nameServer)
      (.cons (texts "sequencer" standard.sequencer)
      (.cons (.withFallback "retries" Json.word32 standard.retries)
      (.cons (.withFallback "stagger_ms" Json.word64 standard.staggerMillis)
      (.cons (texts "log_level" standard.logLevel) .nil))))))
  meanings := (Tree.text?, Tree.optional? Tree.text?, Tree.text?, Tree.text?, Tree.word32?,
    Tree.word64?, Tree.text?, ())
  means :=
    .cons text_means.stopping (by decide)
      (.cons (optional_means text_means.stopping) (by decide)
      (.cons text_means.stopping (by decide)
      (.cons text_means.stopping (by decide)
      (.cons word32_means (by decide)
      (.cons word64_means (by decide)
      (.cons text_means.stopping (by decide) .nil))))))

def Settings.shape : Shape Settings where
  types := [String, Option String, String, String, UInt32, UInt64, String]
  layout := layout
  into row := ⟨row.1, row.2.1, row.2.2.1, row.2.2.2.1, row.2.2.2.2.1, row.2.2.2.2.2.1,
    row.2.2.2.2.2.2.1⟩
  row settings := (settings.serviceName, settings.qualifier, settings.nameServer,
    settings.sequencer, settings.retries, settings.staggerMillis, settings.logLevel, ())
  into_row _ := rfl
  row_into _ := rfl

namespace MessageType

/-- All messages but operations are records. -/
def shape : (type : MessageType) → type ≠ .operation → Shape type.Value
  | lookupReply, _ => LookupReply.shape
  | registration, _ => Registration.shape
  | withdrawal, _ => Withdrawal.shape
  | numberReply, _ => NumberReply.shape
  | putRequest, _ => PutRequest.shape
  | readRequest, _ => ReadRequest.shape
  | takeRequest, _ => TakeRequest.shape
  | tupleReply, _ => TupleReply.shape
  | stateReply, _ => StateReply.shape
  | replica, _ => Replica.shape
  | operation, isRecord => (isRecord rfl).elim
  | settings, _ => Settings.shape

theorem codec_shape (type : MessageType) (isRecord : type ≠ .operation) :
    type.codec = (type.shape isRecord).codec := by
  cases type with
  | operation => exact (isRecord rfl).elim
  | _ => rfl

theorem codec_means (type : MessageType) (isRecord : type ≠ .operation) :
    type.codec.Means (fun _ _ => True) (type.shape isRecord).value? :=
  type.codec_shape isRecord ▸ (type.shape isRecord).codec_means

/-- Whatever blanks stand between its parts, however its texts and numbers are written and whatever
else it holds, an object is read as the value that it holds, and an array as the value whose members
it lists. An object with a declared name twice or without a needed one has a fault, and so has every
text behind which there is more than blanks. -/
theorem decode_of_spelled (type : MessageType) (isRecord : type ≠ .operation)
    {gap gap' : List Char} (blank : IsGap gap) (blank' : IsGap gap') :
    (∀ (trees : List (String × Tree)) (text : List Char), Spelled (.value (.object trees)) text →
      ∀ value, type.codec.decode (.ofList (gap ++ (text ++ gap'))) = .ok value ↔
        (type.shape isRecord).Holds trees value) ∧
    (∀ (items : List Tree) (text : List Char), Spelled (.value (.array items)) text →
      ∀ value, type.codec.decode (.ofList (gap ++ (text ++ gap'))) = .ok value ↔
        (type.shape isRecord).Lists items value) ∧
    (∀ (trees : List (String × Tree)) (text : List Char), Spelled (.value (.object trees)) text →
      ((∃ name ∈ (type.shape isRecord).names, 1 < (trees.map Prod.fst).count name) ∨
        ∃ name ∈ (type.shape isRecord).needed, name ∉ trees.map Prod.fst) →
      ∃ fault, type.codec.decode (.ofList (gap ++ (text ++ gap'))) = .error fault) ∧
    ∀ (tree : Tree) (text rest : List Char), Spelled (.value tree) text → ¬ IsGap rest →
      ∃ fault, type.codec.decode (.ofList (gap ++ (text ++ rest))) = .error fault := by
  have means := type.codec_means isRecord
  have ofObject (trees : List (String × Tree)) (text : List Char)
      (spelled : Spelled (.value (.object trees)) text) (value : type.Value) :
      type.codec.decode (.ofList (gap ++ (text ++ gap'))) = .ok value ↔
        (type.shape isRecord).Holds trees value := by
    rw [means.decode_eq_ok_iff spelled blank, (type.shape isRecord).value?_object]
    exact and_iff_right blank'
  refine ⟨ofObject, ?_, ?_, ?_⟩
  · intro items text spelled value
    rw [means.decode_eq_ok_iff spelled blank, (type.shape isRecord).value?_array]
    exact and_iff_right blank'
  · intro trees text spelled wrong
    refine Codec.exists_fault fun value read => ?_
    have holds := (ofObject trees text spelled value).mp read
    rcases wrong with ⟨name, declared, twice⟩ | ⟨name, need, missing⟩
    · exact absurd (Json.Members.Holds.count_le holds declared) (by omega)
    · exact missing (Json.Members.Holds.mem_of_needed holds need)
  · intro tree text rest spelled visible
    exact Codec.exists_fault fun value read =>
      visible ((means.decode_eq_ok_iff spelled blank).mp read).1

/-- The number of a reply behind an unknown member, no number, and a bracket behind the reply. -/
theorem number_behind_unknown :
    numberReply.codec.decode "\x7b\x22x\x22:[null],\n\x22seq\x22:7\x7d" = .ok ⟨⟨7⟩⟩ ∧
    (∃ fault, numberReply.codec.decode "\x7b\x7d" = .error fault) ∧
    ∃ fault, numberReply.codec.decode "\x7b\x22x\x22:[null],\n\x22seq\x22:7\x7d]" =
      .error fault := by
  have nameX : Quoted ['x'] "x".toList := .plain (by decide) (by decide) (by decide) .nil
  have nameSeq : Quoted ['s', 'e', 'q'] "seq".toList :=
    .plain (by decide) (by decide) (by decide) (.plain (by decide) (by decide) (by decide)
      (.plain (by decide) (by decide) (by decide) .nil))
  have isWhole : Json.Number.IsWhole ['7'] :=
    ⟨by decide, List.forall_mem_singleton.mpr (by decide), by decide⟩
  have seven : Spelled (.value (.number (.plain ['7']))) ['7'] :=
    .number (.positive rfl (@Json.Number.Unsigned.mk false _ _ _ _ none isWhole .none .none))
  have spelled : Spelled (.value (.object
      [("x", .array [.null]), ("seq", .number (.plain ['7']))]))
      "\x7b\x22x\x22:[null],\n\x22seq\x22:7\x7d".toList :=
    .object (.member (.first .nil) nameX .nil .nil
      (.array (.item (.first .nil) .null (.endItems .nil)))
      (.member (.further .nil (show IsGap ['\n'] by decide)) nameSeq .nil .nil seven
        (.endMembers .nil)))
  have empty : Spelled (.value (.object [])) ['\x7b', '\x7d'] := .object (.endMembers .nil)
  obtain ⟨reads, -, missing, behind⟩ :=
    decode_of_spelled .numberReply nofun IsGap.nil IsGap.nil
  refine ⟨?_, ?_, ?_⟩
  · have same := reads _ _ spelled ⟨⟨7⟩⟩
    rw [List.nil_append, List.append_nil, String.ofList_toList] at same
    exact same.mpr ⟨.inl ⟨.number (.plain ['7']), rfl, by decide⟩, trivial⟩
  · have fault := missing [] _ empty (.inr ⟨"seq", by decide, List.not_mem_nil⟩)
    exact fault
  · have fault := behind _ _ [']'] spelled (by decide)
    exact fault

end MessageType
end ReplicatedSpace
