import DigitalSolutions.Persistence.OwnProperties
import DigitalSolutions.Persistence.Schema

namespace DigitalSolutions
namespace Observability

open Persistence OwnProperties

/-!
# Redaction of audit metadata

What stands under a key that sounds like a secret is replaced before an audit
record is written.  The rewriting treats every object alike, and a date is an
object without properties.
-/

/-- A value of the metadata.  An object is given by its properties, in the order of
their enumeration. -/
inductive AuditValue
  | null
  | bool (value : Bool)
  /-- The literal of a number, or nothing for one that is not finite. -/
  | number (literal : Option String)
  | string (text : String)
  /-- The time of a date, or nothing for an invalid one. -/
  | date (time : Option Time)
  | array (elements : List AuditValue)
  | object (entries : List (String × AuditValue))

/-! ## The forbidden keys -/

/-- A letter in either case, or `.?`. -/
inductive PatternItem
  | letter (character : Char)
  | gap

/-- `.`, which stands for one code unit that ends no line. -/
def isDot (character : Char) : Bool :=
  character.toNat < 0x10000 && ! ['\n', '\r', Char.ofNat 0x2028, Char.ofNat 0x2029].contains character

def matchesAt : List PatternItem -> List Char -> Bool
  | [], _ => true
  | .gap :: rest, [] => matchesAt rest []
  | .gap :: rest, character :: text => matchesAt rest (character :: text) || isDot character && matchesAt rest text
  | .letter _ :: _, [] => false
  | .letter expected :: rest, character :: text => character.toLower = expected && matchesAt rest text

def word (text : String) : List PatternItem := text.toList.map PatternItem.letter

def wordPair (first second : String) : List PatternItem := word first ++ .gap :: word second

/-- The alternatives of `FORBIDDEN_AUDIT_METADATA_KEY`. -/
def forbiddenAuditMetadataKey : List (List PatternItem) :=
  [word "password", word "passphrase", word "secret", word "token", wordPair "api" "key", wordPair "access" "key",
    wordPair "private" "key", wordPair "license" "key", word "authorization", word "cookie", word "signature",
    wordPair "checkout" "url", word "payload", wordPair "request" "body"]

def isForbidden (key : String) : Bool :=
  key.toList.tails.any fun text => forbiddenAuditMetadataKey.any fun items => matchesAt items text

/-! ## The redaction -/

def redactionMarker : AuditValue := .string "[REDACTED]"

mutual

def redactAuditMetadata : AuditValue -> AuditValue
  | .array elements => .array (redactElements elements)
  | .object entries => .object (fromEntries (redactEntries entries))
  | .date _ => .object (fromEntries [])
  | value => value

def redactElements : List AuditValue -> List AuditValue
  | [] => []
  | element :: rest => redactAuditMetadata element :: redactElements rest

def redactEntries : List (String × AuditValue) -> List (String × AuditValue)
  | [] => []
  | (key, nested) :: rest =>
    (key, if isForbidden key then redactionMarker else redactAuditMetadata nested) :: redactEntries rest

end

/-! ## What is written -/

section Written

variable (toISOString : Time -> String)

mutual

/-- What `JSON.stringify` makes of a value. -/
def AuditValue.json : AuditValue -> Json
  | .null => .null
  | .bool value => .bool value
  | .number (some literal) => .number literal
  | .number none => .null
  | .string text => .string text
  | .date (some time) => .string (toISOString time)
  | .date none => .null
  | .array elements => .array (AuditValue.jsonElements elements)
  | .object entries => .object (AuditValue.jsonEntries entries)

def AuditValue.jsonElements : List AuditValue -> List Json
  | [] => []
  | element :: rest => AuditValue.json element :: AuditValue.jsonElements rest

def AuditValue.jsonEntries : List (String × AuditValue) -> List (String × Json)
  | [] => []
  | (key, nested) :: rest => (key, AuditValue.json nested) :: AuditValue.jsonEntries rest

end

end Written

/-- `metadata ?? {}`, redacted and written. -/
def writtenMetadata (toISOString : Time -> String) (metadata : Option AuditValue) : Json :=
  (redactAuditMetadata (metadata.getD (.object []))).json toISOString

/-! ## Places in a value -/

mutual

/-- Every object has keys that an object can have. -/
def AuditValue.WellFormed : AuditValue -> Prop
  | .array elements => WellFormedElements elements
  | .object entries => OwnKeys (entries.map Prod.fst) ∧ WellFormedEntries entries
  | _ => True

def WellFormedElements : List AuditValue -> Prop
  | [] => True
  | element :: rest => AuditValue.WellFormed element ∧ WellFormedElements rest

def WellFormedEntries : List (String × AuditValue) -> Prop
  | [] => True
  | (_, nested) :: rest => AuditValue.WellFormed nested ∧ WellFormedEntries rest

end

inductive PathStep
  | key (name : String)
  | index (position : Nat)

def PathStep.Open : PathStep -> Prop
  | .key name => isForbidden name = false
  | .index _ => True

def AuditValue.child : AuditValue -> PathStep -> Option AuditValue
  | .object entries, .key name => (entries.find? fun entry => entry.1 = name).map Prod.snd
  | .array elements, .index position => elements[position]?
  | _, _ => none

/-- What stands at the end of a path. -/
def AuditValue.at (value : AuditValue) : List PathStep -> Option AuditValue
  | [] => some value
  | step :: rest => (value.child step).bind fun nested => nested.at rest

/-- A value and what is kept of it: an array of the same length, an object with the
same keys in the same order, and otherwise what is written alike. -/
def Kept (toISOString : Time -> String) (value kept : AuditValue) : Prop :=
  match value with
  | .array elements => Exists fun others => kept = .array others ∧ others.length = elements.length
  | .object entries => Exists fun others => kept = .object others ∧ others.map Prod.fst = entries.map Prod.fst
  | leaf => kept.json toISOString = leaf.json toISOString

/-- What is wanted of a redaction. -/
structure Redacts (toISOString : Time -> String) (value redacted : AuditValue) : Prop where
  /-- Under a forbidden key there is the marker and nothing else. -/
  complete : forall path name rest nested, isForbidden name = true ->
    redacted.at (path ++ .key name :: rest) = some nested -> rest = [] ∧ nested = redactionMarker
  /-- What is not below a forbidden key is kept. -/
  lossless : forall path nested, (forall step, step ∈ path -> PathStep.Open step) ->
    value.at path = some nested -> Exists fun kept => redacted.at path = some kept ∧ Kept toISOString nested kept
  idempotent : redactAuditMetadata redacted = redacted

/-- Every date stands below a forbidden key. -/
def DatesHidden (value : AuditValue) : Prop :=
  forall path time, (forall step, step ∈ path -> PathStep.Open step) -> value.at path ≠ some (.date time)

/-! ## What the redaction does to the parts -/

variable {entries : List (String × AuditValue)} {elements : List AuditValue} {value nested : AuditValue}
  {path rest : List PathStep} {step : PathStep} {name : String} {toISOString : Time -> String}

theorem keys_redactEntries (entries : List (String × AuditValue)) :
    (redactEntries entries).map Prod.fst = entries.map Prod.fst := by
  induction entries with
  | nil => rfl
  | cons entry later inductionHypothesis =>
    rw [redactEntries, List.map_cons, List.map_cons, inductionHypothesis]

theorem redactElements_eq_map (elements : List AuditValue) :
    redactElements elements = elements.map redactAuditMetadata := by
  induction elements with
  | nil => rfl
  | cons element later inductionHypothesis => rw [redactElements, inductionHypothesis, List.map_cons]

/-- The properties of an object keep their order. -/
theorem redact_object (wellFormed : (AuditValue.object entries).WellFormed) :
    redactAuditMetadata (.object entries) = .object (redactEntries entries) := by
  have own : OwnKeys ((redactEntries entries).map Prod.fst) := by
    rw [keys_redactEntries]
    exact wellFormed.1
  rw [redactAuditMetadata, fromEntries_eq own]

theorem named_of_find {entry : String × AuditValue}
    (found : entries.find? (fun entry => entry.1 = name) = some entry) : entry.1 = name := by
  have matched := List.find?_some found
  exact of_decide_eq_true matched

theorem find_redactEntries (entries : List (String × AuditValue)) (name : String) :
    (redactEntries entries).find? (fun entry => entry.1 = name) =
      (entries.find? fun entry => entry.1 = name).map fun entry =>
        (entry.1, if isForbidden entry.1 then redactionMarker else redactAuditMetadata entry.2) := by
  induction entries with
  | nil => rfl
  | cons entry later inductionHypothesis =>
    rw [redactEntries, List.find?_cons, List.find?_cons, inductionHypothesis]
    by_cases same : entry.1 = name
    · simp only [same, decide_true, Option.map_some]
    · simp only [same, decide_false]

theorem wellFormed_of_mem (wellFormed : WellFormedElements elements) (member : value ∈ elements) :
    value.WellFormed := by
  induction elements with
  | nil => cases member
  | cons element later inductionHypothesis =>
    rcases List.mem_cons.mp member with rfl | inLater
    · exact wellFormed.1
    · exact inductionHypothesis wellFormed.2 inLater

theorem wellFormed_of_mem_entries {entry : String × AuditValue} (wellFormed : WellFormedEntries entries)
    (member : entry ∈ entries) : entry.2.WellFormed := by
  induction entries with
  | nil => cases member
  | cons first later inductionHypothesis =>
    rcases List.mem_cons.mp member with rfl | inLater
    · exact wellFormed.1
    · exact inductionHypothesis wellFormed.2 inLater

theorem wellFormed_child (wellFormed : value.WellFormed) (isChild : value.child step = some nested) :
    nested.WellFormed := by
  unfold AuditValue.child at isChild
  split at isChild
  · rename_i entries name
    rcases Option.map_eq_some_iff.mp isChild with ⟨entry, found, rfl⟩
    exact wellFormed_of_mem_entries wellFormed.2 (List.mem_of_find?_eq_some found)
  · rename_i elements position
    exact wellFormed_of_mem wellFormed (List.mem_of_getElem? isChild)
  · cases isChild

/-- What stands under a key that is not forbidden, or at an index, is redacted. -/
theorem child_redact (wellFormed : value.WellFormed) (isOpen : step.Open) :
    (redactAuditMetadata value).child step = (value.child step).map redactAuditMetadata := by
  cases value with
  | object entries =>
    rw [redact_object wellFormed]
    cases step with
    | index position => rfl
    | key name =>
      rw [AuditValue.child, AuditValue.child, find_redactEntries]
      cases found : entries.find? (fun entry => entry.1 = name) with
      | none => rfl
      | some entry =>
        have named : entry.1 = name := named_of_find found
        have notForbidden : isForbidden entry.1 = false := by
          rw [named]
          exact isOpen
        simp only [Option.map_some, notForbidden, Bool.false_eq_true, if_false]
  | array elements =>
    rw [redactAuditMetadata, redactElements_eq_map]
    cases step with
    | key name => rfl
    | index position => rw [AuditValue.child, AuditValue.child, List.getElem?_map]
  | null => cases step <;> rfl
  | bool flag => cases step <;> rfl
  | number literal => cases step <;> rfl
  | string text => cases step <;> rfl
  | date time => cases step <;> rfl

/-- What stands under a forbidden key is the marker. -/
theorem child_redact_forbidden (wellFormed : value.WellFormed) (forbidden : isForbidden name = true)
    (isChild : (redactAuditMetadata value).child (.key name) = some nested) : nested = redactionMarker := by
  cases value with
  | object entries =>
    rw [redact_object wellFormed, AuditValue.child, find_redactEntries] at isChild
    rcases Option.map_eq_some_iff.mp isChild with ⟨redacted, found, rfl⟩
    rcases Option.map_eq_some_iff.mp found with ⟨entry, original, rfl⟩
    have named : entry.1 = name := named_of_find original
    have isKey : isForbidden entry.1 = true := by
      rw [named]
      exact forbidden
    exact if_pos isKey
  | array elements => cases isChild
  | null => cases isChild
  | bool flag => cases isChild
  | number literal => cases isChild
  | string text => cases isChild
  | date time => cases isChild

theorem at_redact (wellFormed : value.WellFormed) (isOpen : forall step, step ∈ path -> PathStep.Open step) :
    (redactAuditMetadata value).at path = (value.at path).map redactAuditMetadata := by
  induction path generalizing value with
  | nil => rfl
  | cons step later inductionHypothesis =>
    rw [AuditValue.at, AuditValue.at, child_redact wellFormed (isOpen step List.mem_cons_self)]
    cases isChild : value.child step with
    | none => rfl
    | some nested =>
      exact inductionHypothesis (wellFormed_child wellFormed isChild)
        (fun other member => isOpen other (List.mem_cons_of_mem step member))

theorem at_marker (found : redactionMarker.at path = some nested) : path = [] ∧ nested = redactionMarker := by
  cases path with
  | nil => exact ⟨rfl, (Option.some.inj found).symm⟩
  | cons step later => cases step <;> cases found

theorem complete_redact (wellFormed : value.WellFormed) (forbidden : isForbidden name = true)
    (found : (redactAuditMetadata value).at (path ++ .key name :: rest) = some nested) :
    rest = [] ∧ nested = redactionMarker := by
  induction path generalizing value with
  | nil =>
    rcases Option.bind_eq_some_iff.mp found with ⟨child, isChild, inChild⟩
    rw [child_redact_forbidden wellFormed forbidden isChild] at inChild
    exact at_marker inChild
  | cons step later inductionHypothesis =>
    rcases Option.bind_eq_some_iff.mp found with ⟨child, isChild, inChild⟩
    by_cases isOpen : step.Open
    · rw [child_redact wellFormed isOpen] at isChild
      rcases Option.map_eq_some_iff.mp isChild with ⟨original, isOriginal, rfl⟩
      exact inductionHypothesis (wellFormed_child wellFormed isOriginal) inChild
    · cases step with
      | index position => exact absurd trivial isOpen
      | key other =>
        have otherForbidden : isForbidden other = true := by
          cases known : isForbidden other with
          | true => rfl
          | false => exact absurd known isOpen
        rw [child_redact_forbidden wellFormed otherForbidden isChild] at inChild
        have nothing : later ++ .key name :: rest = [] := (at_marker inChild).1
        rw [List.append_eq_nil_iff] at nothing
        cases nothing.2

/-! ## Redacting again -/

mutual

theorem redact_redact (value : AuditValue) (wellFormed : value.WellFormed) :
    redactAuditMetadata (redactAuditMetadata value) = redactAuditMetadata value := by
  match value with
  | .object entries =>
    have own : OwnKeys ((redactEntries entries).map Prod.fst) := by
      rw [keys_redactEntries]
      exact wellFormed.1
    rw [redact_object wellFormed, redactAuditMetadata, redact_redactEntries entries wellFormed.2, fromEntries_eq own]
  | .array elements =>
    rw [redactAuditMetadata, redactAuditMetadata, redact_redactElements elements wellFormed]
  | .null => rfl
  | .bool flag => rfl
  | .number literal => rfl
  | .string text => rfl
  | .date time => rfl

theorem redact_redactElements (elements : List AuditValue) (wellFormed : WellFormedElements elements) :
    redactElements (redactElements elements) = redactElements elements := by
  match elements with
  | [] => rfl
  | element :: later =>
    rw [redactElements, redactElements, redact_redact element wellFormed.1,
      redact_redactElements later wellFormed.2]

theorem redact_redactEntries (entries : List (String × AuditValue)) (wellFormed : WellFormedEntries entries) :
    redactEntries (redactEntries entries) = redactEntries entries := by
  match entries with
  | [] => rfl
  | (key, nested) :: later =>
    rw [redactEntries, redactEntries, redact_redactEntries later wellFormed.2]
    by_cases forbidden : isForbidden key = true
    · simp only [forbidden, if_true]
    · rw [if_neg forbidden, if_neg forbidden, redact_redact nested wellFormed.1]

end

/-! ## When nothing is lost -/

theorem kept_redact (wellFormed : value.WellFormed) (noDate : forall time, value ≠ .date time) :
    Kept toISOString value (redactAuditMetadata value) := by
  cases value with
  | object entries => exact ⟨redactEntries entries, redact_object wellFormed, keys_redactEntries entries⟩
  | array elements =>
    refine ⟨redactElements elements, rfl, ?_⟩
    rw [redactElements_eq_map, List.length_map]
  | date time => exact absurd rfl (noDate time)
  | null => rfl
  | bool flag => rfl
  | number literal => rfl
  | string text => rfl

theorem wellFormed_at (wellFormed : value.WellFormed) (found : value.at path = some nested) : nested.WellFormed := by
  induction path generalizing value with
  | nil =>
    cases found
    exact wellFormed
  | cons step later inductionHypothesis =>
    rcases Option.bind_eq_some_iff.mp found with ⟨child, isChild, inChild⟩
    exact inductionHypothesis (wellFormed_child wellFormed isChild) inChild

/-- A date that is not hidden is written as an empty object. -/
theorem not_kept_date (time : Option Time) :
    ¬ Kept toISOString (.date time) (redactAuditMetadata (.date time)) := by
  intro kept
  cases time with
  | none => cases kept
  | some time => cases kept

/-- A redaction is complete and idempotent in every case, and keeps everything else
exactly if every date stands below a forbidden key. -/
theorem redactAuditMetadata_redacts_iff (toISOString : Time -> String) (value : AuditValue)
    (wellFormed : value.WellFormed) :
    Redacts toISOString value (redactAuditMetadata value) ↔ DatesHidden value := by
  constructor
  · intro redacts path time isOpen found
    rcases redacts.lossless path (.date time) isOpen found with ⟨kept, isKept, alike⟩
    rw [at_redact wellFormed isOpen, found] at isKept
    cases isKept
    exact not_kept_date time alike
  · intro hidden
    constructor
    · intro path name rest nested forbidden found
      exact complete_redact wellFormed forbidden found
    · intro path nested isOpen found
      refine ⟨redactAuditMetadata nested, ?_, ?_⟩
      · rw [at_redact wellFormed isOpen, found]
        rfl
      · apply kept_redact (wellFormed_at wellFormed found)
        rintro time rfl
        exact hidden path time isOpen found
    · exact redact_redact value wellFormed

/-- The expiry of a licence is lost. -/
theorem redactAuditMetadata_loses_date :
    ¬ Redacts (fun _ => "2026-01-31T00:00:00.000Z") (.object [("expiresAt", .date (some 1769817600000))])
      (redactAuditMetadata (.object [("expiresAt", .date (some 1769817600000))])) := by
  intro redacts
  have plain : isForbidden "expiresAt" = false := by decide
  have isOpen : forall step, step ∈ [PathStep.key "expiresAt"] -> PathStep.Open step := by
    intro step member
    cases List.mem_singleton.mp member
    exact plain
  rcases redacts.lossless [.key "expiresAt"] (.date (some 1769817600000)) isOpen rfl with ⟨kept, isKept, alike⟩
  cases isKept
  cases alike

def loginMetadata : AuditValue :=
  .object [("method", .string "password"), ("attempts", .number (some "2")),
    ("apiKey", .object [("createdAt", .date (some 0))])]

theorem loginMetadata_wellFormed : loginMetadata.WellFormed := by
  refine ⟨⟨by decide, [], ["method", "attempts", "apiKey"], rfl, nofun, List.Pairwise.nil, by decide⟩, trivial, trivial,
    ⟨⟨by decide, [], ["createdAt"], rfl, nofun, List.Pairwise.nil, by decide⟩, trivial, trivial⟩, trivial⟩

theorem redactAuditMetadata_redacts_login :
    Redacts (fun _ => "1970-01-01T00:00:00.000Z") loginMetadata (redactAuditMetadata loginMetadata) ↔
      DatesHidden loginMetadata :=
  redactAuditMetadata_redacts_iff _ loginMetadata loginMetadata_wellFormed

end Observability
end DigitalSolutions
