import DigitalSolutions.Persistence.JsonText
import DigitalSolutions.Persistence.OwnProperties

namespace DigitalSolutions
namespace Persistence

open Foundation OwnProperties

/-!
# When canonical texts are equal

Two values are compared by the texts of their canonical forms.  The canonical
form of an object lists its keys by a collation, and two different keys that the
collation takes for equal stay in the order in which they came.
-/

namespace Json

/-! ## Values up to the order of keys -/

mutual

/-- Equality up to the order of the keys, at every depth. -/
def Alike : Json -> Json -> Prop
  | .array elements, .array others => AlikeElements elements others
  | .object entries, .object others =>
    Exists fun middle : List (String × Json) => AlikeEntries entries middle ∧ middle.Perm others
  | .null, .null => True
  | .bool value, .bool other => value = other
  | .number literal, .number other => literal = other
  | .string text, .string other => text = other
  | _, _ => False

def AlikeElements : List Json -> List Json -> Prop
  | [], [] => True
  | element :: rest, other :: others => Alike element other ∧ AlikeElements rest others
  | _, _ => False

def AlikeEntries : List (String × Json) -> List (String × Json) -> Prop
  | [], [] => True
  | (key, value) :: rest, other :: others => key = other.1 ∧ Alike value other.2 ∧ AlikeEntries rest others
  | _, _ => False

end

section Values

variable (rounded : String -> String)

mutual

/-- A value as the runtime has it: numbers print as they are stored, and an object
has keys that an object can have. -/
def IsValue : Json -> Prop
  | .null | .bool _ | .string _ => True
  | .number literal => PrintedNumber rounded literal
  | .array elements => IsValueElements elements
  | .object entries => OwnKeys (entries.map Prod.fst) ∧ IsValueEntries entries

def IsValueElements : List Json -> Prop
  | [] => True
  | element :: rest => IsValue element ∧ IsValueElements rest

def IsValueEntries : List (String × Json) -> Prop
  | [] => True
  | (_, value) :: rest => IsValue value ∧ IsValueEntries rest

end

end Values

section Collation

variable (localeCompare : String -> String -> Int)

/-- The collation is a consistent comparison. -/
structure Collation : Prop where
  opposite : forall left right, localeCompare left right ≤ 0 ↔ 0 ≤ localeCompare right left
  transitive : forall first second third, localeCompare first second ≤ 0 -> localeCompare second third ≤ 0 ->
    localeCompare first third ≤ 0

/-- `JSON.stringify(canonicalJson(left)) === JSON.stringify(canonicalJson(right))`. -/
def jsonEquivalentText (left right : Json) : Bool :=
  stringify (canonicalJson localeCompare left) = stringify (canonicalJson localeCompare right)

mutual

/-- The collation tells the names of every object apart.  Array indices have an
order of their own. -/
def NamesApart : Json -> Prop
  | .array elements => NamesApartElements elements
  | .object entries =>
    (forall first second, first ∈ entries -> second ∈ entries -> isName first = true -> isName second = true ->
      localeCompare first.1 second.1 = 0 -> first.1 = second.1) ∧ NamesApartEntries entries
  | _ => True

def NamesApartElements : List Json -> Prop
  | [] => True
  | element :: rest => NamesApart element ∧ NamesApartElements rest

def NamesApartEntries : List (String × Json) -> Prop
  | [] => True
  | (_, value) :: rest => NamesApart value ∧ NamesApartEntries rest

end

/-- The order in which the entries of an object are sorted. -/
def keyUpTo (left right : String × Json) : Prop := localeCompare left.1 right.1 ≤ 0

instance : DecidableRel (keyUpTo localeCompare) :=
  fun left right => inferInstanceAs (Decidable (localeCompare left.1 right.1 ≤ 0))

end Collation

/-! ## An equivalence -/

theorem alikeEntries_iff {entries others : List (String × Json)} :
    AlikeEntries entries others ↔
      List.Forall₂ (fun entry other => entry.1 = other.1 ∧ Alike entry.2 other.2) entries others := by
  induction entries generalizing others with
  | nil =>
    cases others with
    | nil => exact iff_of_true trivial List.Forall₂.nil
    | cons other rest =>
      constructor
      · nofun
      · nofun
  | cons entry later inductionHypothesis =>
    cases others with
    | nil =>
      constructor
      · nofun
      · nofun
    | cons other rest => rw [AlikeEntries, inductionHypothesis, List.forall₂_cons, and_assoc]

theorem keys_of_alike {entries others : List (String × Json)} (alike : AlikeEntries entries others) :
    others.map Prod.fst = entries.map Prod.fst := by
  have same := alikeEntries_iff.mp alike
  induction same with
  | nil => rfl
  | cons first rest inductionHypothesis =>
    rw [List.map_cons, List.map_cons, first.1, inductionHypothesis (alikeEntries_iff.mpr rest)]

mutual

theorem alike_refl (value : Json) : Alike value value := by
  match value with
  | .null => trivial
  | .bool flag => rfl
  | .number literal => rfl
  | .string text => rfl
  | .array elements => exact alikeElements_refl elements
  | .object entries => exact ⟨entries, alikeEntries_refl entries, List.Perm.refl entries⟩

theorem alikeElements_refl (elements : List Json) : AlikeElements elements elements := by
  match elements with
  | [] => trivial
  | element :: rest => exact ⟨alike_refl element, alikeElements_refl rest⟩

theorem alikeEntries_refl (entries : List (String × Json)) : AlikeEntries entries entries := by
  match entries with
  | [] => trivial
  | (key, value) :: rest => exact ⟨rfl, alike_refl value, alikeEntries_refl rest⟩

end

mutual

theorem alike_symm (left right : Json) (alike : Alike left right) : Alike right left := by
  match left, right, alike with
  | .null, .null, _ => trivial
  | .bool _, .bool _, same => exact Eq.symm same
  | .number _, .number _, same => exact Eq.symm same
  | .string _, .string _, same => exact Eq.symm same
  | .array elements, .array others, same => exact alikeElements_symm elements others same
  | .object entries, .object others, ⟨middle, same, placed⟩ =>
    have back := alikeEntries_iff.mp (alikeEntries_symm entries middle same)
    rcases List.perm_comp_forall₂ placed.symm back with ⟨other, sameOther, placedOther⟩
    exact ⟨other, alikeEntries_iff.mpr sameOther, placedOther⟩

theorem alikeElements_symm (elements others : List Json) (alike : AlikeElements elements others) :
    AlikeElements others elements := by
  match elements, others, alike with
  | [], [], _ => trivial
  | element :: rest, other :: later, ⟨same, sameRest⟩ =>
    exact ⟨alike_symm element other same, alikeElements_symm rest later sameRest⟩

theorem alikeEntries_symm (entries others : List (String × Json)) (alike : AlikeEntries entries others) :
    AlikeEntries others entries := by
  match entries, others, alike with
  | [], [], _ => trivial
  | (key, value) :: rest, (_, other) :: later, ⟨sameKey, same, sameRest⟩ =>
    exact ⟨sameKey.symm, alike_symm value other same, alikeEntries_symm rest later sameRest⟩

end

mutual

theorem alike_trans (left middle right : Json) (first : Alike left middle) (second : Alike middle right) :
    Alike left right := by
  match left, middle, right, first, second with
  | .null, .null, .null, _, _ => trivial
  | .bool _, .bool _, .bool _, same, other => exact Eq.trans same other
  | .number _, .number _, .number _, same, other => exact Eq.trans same other
  | .string _, .string _, .string _, same, other => exact Eq.trans same other
  | .array elements, .array others, .array last, same, other => exact alikeElements_trans elements others last same other
  | .object entries, .object others, .object last, ⟨one, same, placed⟩, ⟨two, other, placedOther⟩ =>
    rcases List.perm_comp_forall₂ placed (alikeEntries_iff.mp other) with ⟨three, sameThree, placedThree⟩
    exact ⟨three, alikeEntries_trans entries one three same (alikeEntries_iff.mpr sameThree),
      placedThree.trans placedOther⟩

theorem alikeElements_trans (elements others last : List Json) (first : AlikeElements elements others)
    (second : AlikeElements others last) : AlikeElements elements last := by
  match elements, others, last, first, second with
  | [], [], [], _, _ => trivial
  | element :: rest, other :: later, final :: finals, ⟨same, sameRest⟩, ⟨next, nextRest⟩ =>
    exact ⟨alike_trans element other final same next, alikeElements_trans rest later finals sameRest nextRest⟩

theorem alikeEntries_trans (entries others last : List (String × Json)) (first : AlikeEntries entries others)
    (second : AlikeEntries others last) : AlikeEntries entries last := by
  match entries, others, last, first, second with
  | [], [], [], _, _ => trivial
  | (_, value) :: rest, (_, other) :: later, (_, final) :: finals, ⟨sameKey, same, sameRest⟩,
    ⟨nextKey, next, nextRest⟩ =>
    exact ⟨sameKey.trans nextKey, alike_trans value other final same next,
      alikeEntries_trans rest later finals sameRest nextRest⟩

end

/-! ## The canonical form -/

section Canonical

variable {localeCompare : String -> String -> Int} {rounded : String -> String}
  {entries others : List (String × Json)}

theorem canonicalEntries_eq_map (entries : List (String × Json)) :
    canonicalEntries localeCompare entries =
      entries.map fun entry => (entry.1, canonicalJson localeCompare entry.2) := by
  induction entries with
  | nil => rfl
  | cons entry rest inductionHypothesis => rw [canonicalEntries, inductionHypothesis, List.map_cons]

theorem keys_canonicalEntries (entries : List (String × Json)) :
    (canonicalEntries localeCompare entries).map Prod.fst = entries.map Prod.fst := by
  rw [canonicalEntries_eq_map, List.map_map]
  rfl

/-- The canonical entries of an object, in the order in which they are written. -/
def sortedEntries (localeCompare : String -> String -> Int) (entries : List (String × Json)) : List (String × Json) :=
  inOrder ((canonicalEntries localeCompare entries).insertionSort (keyUpTo localeCompare))

theorem canonicalJson_object (entries : List (String × Json)) :
    canonicalJson localeCompare (.object entries) = .object (sortedEntries localeCompare entries) := rfl

theorem perm_sortedEntries (entries : List (String × Json)) :
    (sortedEntries localeCompare entries).Perm (canonicalEntries localeCompare entries) :=
  (perm_inOrder _).trans (List.perm_insertionSort _ _)

mutual

theorem alike_canonical (value : Json) : Alike value (canonicalJson localeCompare value) := by
  match value with
  | .null => trivial
  | .bool flag => rfl
  | .number literal => rfl
  | .string text => rfl
  | .array elements => exact alikeElements_canonical elements
  | .object entries =>
    exact ⟨canonicalEntries localeCompare entries, alikeEntries_canonical entries,
      (perm_sortedEntries entries).symm⟩

theorem alikeElements_canonical (elements : List Json) :
    AlikeElements elements (canonicalElements localeCompare elements) := by
  match elements with
  | [] => trivial
  | element :: rest => exact ⟨alike_canonical element, alikeElements_canonical rest⟩

theorem alikeEntries_canonical (entries : List (String × Json)) :
    AlikeEntries entries (canonicalEntries localeCompare entries) := by
  match entries with
  | [] => trivial
  | (key, value) :: rest => exact ⟨rfl, alike_canonical value, alikeEntries_canonical rest⟩

end

/-- Values with one canonical form are equal up to the order of keys. -/
theorem alike_of_canonical {left right : Json}
    (same : canonicalJson localeCompare left = canonicalJson localeCompare right) : Alike left right := by
  have forward : Alike left (canonicalJson localeCompare right) := by
    rw [← same]
    exact alike_canonical left
  exact alike_trans left _ right forward (alike_symm right _ (alike_canonical right))

/-! ### Texts -/

theorem isValueEntries_iff : IsValueEntries rounded entries ↔
    forall entry, entry ∈ entries -> IsValue rounded entry.2 := by
  induction entries with
  | nil => exact iff_of_true trivial nofun
  | cons entry rest inductionHypothesis =>
    rw [IsValueEntries, inductionHypothesis, List.forall_mem_cons]

mutual

theorem isValue_canonical (value : Json) (isValue : IsValue rounded value) :
    IsValue rounded (canonicalJson localeCompare value) := by
  match value with
  | .null => trivial
  | .bool flag => trivial
  | .number literal => exact isValue
  | .string text => trivial
  | .array elements => exact isValueElements_canonical elements isValue
  | .object entries =>
    have each := isValueEntries_iff.mp (isValueEntries_canonical entries isValue.2)
    have distinct : (((canonicalEntries localeCompare entries).insertionSort
        (keyUpTo localeCompare)).map Prod.fst).Nodup := by
      have same := (List.perm_insertionSort (keyUpTo localeCompare)
        (canonicalEntries localeCompare entries)).map Prod.fst
      rw [keys_canonicalEntries] at same
      exact same.nodup_iff.mpr isValue.1.distinct
    refine ⟨ownKeys_inOrder distinct, isValueEntries_iff.mpr ?_⟩
    intro entry listed
    exact each entry ((perm_sortedEntries entries).mem_iff.mp listed)

theorem isValueElements_canonical (elements : List Json) (areValues : IsValueElements rounded elements) :
    IsValueElements rounded (canonicalElements localeCompare elements) := by
  match elements with
  | [] => trivial
  | element :: rest =>
    exact ⟨isValue_canonical element areValues.1, isValueElements_canonical rest areValues.2⟩

theorem isValueEntries_canonical (entries : List (String × Json)) (areValues : IsValueEntries rounded entries) :
    IsValueEntries rounded (canonicalEntries localeCompare entries) := by
  match entries with
  | [] => trivial
  | (key, value) :: rest => exact ⟨isValue_canonical value areValues.1, isValueEntries_canonical rest areValues.2⟩

end

mutual

theorem printable_of_isValue (value : Json) (isValue : IsValue rounded value) : Printable rounded value := by
  match value with
  | .null => trivial
  | .bool flag => trivial
  | .number literal => exact isValue
  | .string text => trivial
  | .array elements => exact printableElements_of_isValue elements isValue
  | .object entries =>
    exact ⟨printableEntries_of_isValue entries isValue.2, congrArg Json.object (fromEntries_eq isValue.1)⟩

theorem printableElements_of_isValue (elements : List Json) (areValues : IsValueElements rounded elements) :
    PrintableElements rounded elements := by
  match elements with
  | [] => trivial
  | element :: rest => exact ⟨printable_of_isValue element areValues.1, printableElements_of_isValue rest areValues.2⟩

theorem printableEntries_of_isValue (entries : List (String × Json)) (areValues : IsValueEntries rounded entries) :
    PrintableEntries rounded entries := by
  match entries with
  | [] => trivial
  | (key, value) :: rest => exact ⟨printable_of_isValue value areValues.1, printableEntries_of_isValue rest areValues.2⟩

end

/-- The texts are equal exactly if the canonical forms are. -/
theorem jsonEquivalentText_iff {left right : Json} (leftValue : IsValue rounded left)
    (rightValue : IsValue rounded right) :
    jsonEquivalentText localeCompare left right = true ↔
      canonicalJson localeCompare left = canonicalJson localeCompare right := by
  rw [jsonEquivalentText, decide_eq_true_eq]
  constructor
  · exact stringify_injective (printable_of_isValue _ (isValue_canonical left leftValue))
      (printable_of_isValue _ (isValue_canonical right rightValue))
  · exact congrArg stringify

/-! ### Names that the collation takes for equal -/

theorem Collation.total (collation : Collation localeCompare) : Std.Total (keyUpTo localeCompare) := by
  constructor
  intro left right
  have opposite := collation.opposite left.1 right.1
  unfold keyUpTo
  omega

theorem Collation.trans (collation : Collation localeCompare) : IsTrans (String × Json) (keyUpTo localeCompare) :=
  ⟨fun first second third => collation.transitive first.1 second.1 third.1⟩

theorem Collation.alike_iff (collation : Collation localeCompare) {left right : String × Json} :
    (keyUpTo localeCompare left right ∧ keyUpTo localeCompare right left) ↔ localeCompare left.1 right.1 = 0 := by
  have opposite := collation.opposite right.1 left.1
  unfold keyUpTo
  omega

theorem names_sortedEntries (collation : Collation localeCompare) (entries : List (String × Json)) :
    (sortedEntries localeCompare entries).filter isName =
      ((canonicalEntries localeCompare entries).filter isName).insertionSort (keyUpTo localeCompare) := by
  have := collation.total
  have := collation.trans
  rw [sortedEntries, names_inOrder, filter_insertionSort]

theorem keys_sort (entries : List (String × Json)) :
    (((canonicalEntries localeCompare entries).insertionSort (keyUpTo localeCompare)).map Prod.fst).Perm
      (entries.map Prod.fst) := by
  have same := (List.perm_insertionSort (keyUpTo localeCompare) (canonicalEntries localeCompare entries)).map Prod.fst
  rwa [keys_canonicalEntries] at same

/-- Names that are told apart have one order, in whatever order they come. -/
theorem sortedEntries_perm (collation : Collation localeCompare) (distinct : (entries.map Prod.fst).Nodup)
    (apart : forall first second, first ∈ entries -> second ∈ entries -> isName first = true ->
      isName second = true -> localeCompare first.1 second.1 = 0 -> first.1 = second.1)
    (same : others.Perm entries) : sortedEntries localeCompare others = sortedEntries localeCompare entries := by
  have := collation.total
  have := collation.trans
  have sameForms : (canonicalEntries localeCompare others).Perm (canonicalEntries localeCompare entries) := by
    rw [canonicalEntries_eq_map, canonicalEntries_eq_map]
    exact same.map _
  have sameSorted := (List.perm_insertionSort (keyUpTo localeCompare) (canonicalEntries localeCompare others)).trans
    (sameForms.trans (List.perm_insertionSort (keyUpTo localeCompare) (canonicalEntries localeCompare entries)).symm)
  have distinctForms : ((canonicalEntries localeCompare entries).map Prod.fst).Nodup := by
    rw [keys_canonicalEntries]
    exact distinct
  have forgets : ForgetsOrder (keyUpTo localeCompare) ((canonicalEntries localeCompare entries).filter isName) := by
    rw [forgetsOrder_iff (keyUpTo localeCompare) (distinctForms.of_map.filter _)]
    intro first second isFirst isSecond forward backward
    rcases List.mem_filter.mp isFirst with ⟨firstListed, firstName⟩
    rcases List.mem_filter.mp isSecond with ⟨secondListed, secondName⟩
    apply eq_of_key distinctForms firstListed secondListed
    rw [canonicalEntries_eq_map] at firstListed secondListed
    rcases List.mem_map.mp firstListed with ⟨one, oneListed, rfl⟩
    rcases List.mem_map.mp secondListed with ⟨two, twoListed, rfl⟩
    exact apart one two oneListed twoListed firstName secondName (collation.alike_iff.mp ⟨forward, backward⟩)
  apply (inOrder_eq_iff ((keys_sort entries).nodup_iff.mpr distinct) sameSorted).mpr
  rw [filter_insertionSort, filter_insertionSort]
  exact forgets _ (sameForms.filter _)

/-- Whether names are told apart is a matter of the keys. -/
theorem namesApart_of_keys (sameKeys : others.map Prod.fst = entries.map Prod.fst)
    (apart : forall first second, first ∈ entries -> second ∈ entries -> isName first = true ->
      isName second = true -> localeCompare first.1 second.1 = 0 -> first.1 = second.1) :
    forall first second, first ∈ others -> second ∈ others -> isName first = true -> isName second = true ->
      localeCompare first.1 second.1 = 0 -> first.1 = second.1 := by
  have counterpart : forall entry, entry ∈ others -> Exists fun other : String × Json =>
      other ∈ entries ∧ other.1 = entry.1 := by
    intro entry listed
    have isKey : entry.1 ∈ entries.map Prod.fst := by
      rw [← sameKeys]
      exact List.mem_map_of_mem listed
    exact List.mem_map.mp isKey
  intro first second isFirst isSecond firstName secondName same
  rcases counterpart first isFirst with ⟨one, oneListed, oneKey⟩
  rcases counterpart second isSecond with ⟨two, twoListed, twoKey⟩
  unfold isName at firstName secondName
  rw [← oneKey, ← twoKey] at same ⊢
  rw [← oneKey] at firstName
  rw [← twoKey] at secondName
  exact apart one two oneListed twoListed firstName secondName same

mutual

theorem canonical_of_alike (collation : Collation localeCompare) (left right : Json)
    (leftValue : IsValue rounded left) (apart : NamesApart localeCompare left) (alike : Alike left right) :
    canonicalJson localeCompare left = canonicalJson localeCompare right := by
  match left, right, alike with
  | .null, .null, _ => rfl
  | .bool _, .bool _, same => exact congrArg Json.bool same
  | .number _, .number _, same => exact congrArg Json.number same
  | .string _, .string _, same => exact congrArg Json.string same
  | .array elements, .array others, same =>
    exact congrArg Json.array (canonicalElements_of_alike collation elements others leftValue apart same)
  | .object entries, .object others, ⟨middle, same, placed⟩ =>
    have sameForms := canonicalEntries_of_alike collation entries middle leftValue.2 apart.2 same
    have distinct : (middle.map Prod.fst).Nodup := by
      rw [keys_of_alike same]
      exact leftValue.1.distinct
    have apartMiddle : forall first second, first ∈ middle -> second ∈ middle -> isName first = true ->
        isName second = true -> localeCompare first.1 second.1 = 0 -> first.1 = second.1 :=
      namesApart_of_keys (keys_of_alike same) apart.1
    have ordered := sortedEntries_perm collation distinct apartMiddle placed.symm
    rw [canonicalJson_object, canonicalJson_object, ordered, sortedEntries, sortedEntries, sameForms]

theorem canonicalElements_of_alike (collation : Collation localeCompare) (elements others : List Json)
    (areValues : IsValueElements rounded elements) (apart : NamesApartElements localeCompare elements)
    (alike : AlikeElements elements others) :
    canonicalElements localeCompare elements = canonicalElements localeCompare others := by
  match elements, others, alike with
  | [], [], _ => rfl
  | element :: rest, other :: later, ⟨same, sameRest⟩ =>
    rw [canonicalElements, canonicalElements, canonical_of_alike collation element other areValues.1 apart.1 same,
      canonicalElements_of_alike collation rest later areValues.2 apart.2 sameRest]

theorem canonicalEntries_of_alike (collation : Collation localeCompare) (entries others : List (String × Json))
    (areValues : IsValueEntries rounded entries) (apart : NamesApartEntries localeCompare entries)
    (alike : AlikeEntries entries others) :
    canonicalEntries localeCompare entries = canonicalEntries localeCompare others := by
  match entries, others, alike with
  | [], [], _ => rfl
  | (key, value) :: rest, (otherKey, other) :: later, ⟨sameKey, same, sameRest⟩ =>
    cases sameKey
    rw [canonicalEntries, canonicalEntries, canonical_of_alike collation value other areValues.1 apart.1 same,
      canonicalEntries_of_alike collation rest later areValues.2 apart.2 sameRest]

end

/-- Entries that are the same but for their order, and have the same keys in the
same order, are the same. -/
theorem eq_of_perm_of_keys {Value : Type} {entries others : List (String × Value)} (same : others.Perm entries)
    (sameKeys : others.map Prod.fst = entries.map Prod.fst) (distinct : (entries.map Prod.fst).Nodup) :
    others = entries := by
  induction entries generalizing others with
  | nil => exact List.perm_nil.mp same
  | cons entry rest inductionHypothesis =>
    cases others with
    | nil => cases sameKeys
    | cons other later =>
      rw [List.map_cons, List.map_cons, List.cons.injEq] at sameKeys
      have isEntry : other = entry :=
        eq_of_key distinct (same.mem_iff.mp List.mem_cons_self) List.mem_cons_self sameKeys.1
      rw [isEntry] at same ⊢
      rw [inductionHypothesis same.cons_inv sameKeys.2 (List.nodup_cons.mp distinct).2]

/-- The object with some entries in another order is another value of the kind. -/
theorem reordered_value (isValue : IsValue rounded (.object entries)) (same : others.Perm entries) :
    IsValue rounded (.object (inOrder others)) ∧ Alike (.object entries) (.object (inOrder others)) := by
  have distinct : (others.map Prod.fst).Nodup := (same.map Prod.fst).nodup_iff.mpr isValue.1.distinct
  constructor
  · refine ⟨ownKeys_inOrder distinct, isValueEntries_iff.mpr ?_⟩
    intro entry listed
    exact isValueEntries_iff.mp isValue.2 entry (same.mem_iff.mp ((perm_inOrder others).mem_iff.mp listed))
  · exact ⟨entries, alikeEntries_refl entries, same.symm.trans (perm_inOrder others).symm⟩

theorem canonicalEntries_names (entries : List (String × Json)) :
    (canonicalEntries localeCompare entries).filter isName =
      canonicalEntries localeCompare (entries.filter isName) := by
  rw [canonicalEntries_eq_map, canonicalEntries_eq_map, List.filter_map]
  rfl

/-- Two names that the collation takes for equal stay in the order in which they
come, and so give two canonical forms. -/
theorem names_apart_of_exact (collation : Collation localeCompare) (isValue : IsValue rounded (.object entries))
    (exactly : forall other, IsValue rounded other -> Alike (.object entries) other ->
      canonicalJson localeCompare (.object entries) = canonicalJson localeCompare other)
    {first second : String × Json} (isFirst : first ∈ entries) (isSecond : second ∈ entries)
    (firstName : isName first = true) (secondName : isName second = true)
    (equal : localeCompare first.1 second.1 = 0) : first.1 = second.1 := by
  by_contra different
  have differ : first ≠ second := fun same => different (congrArg Prod.fst same)
  rcases exists_perm_pair isFirst isSecond differ with ⟨rest, placed⟩
  have swapped : (second :: first :: rest).Perm entries := (List.Perm.swap first second rest).trans placed.symm
  have oneForm : forall {others : List (String × Json)}, others.Perm entries ->
      ((canonicalEntries localeCompare (others.filter isName)).insertionSort (keyUpTo localeCompare)) =
        (sortedEntries localeCompare entries).filter isName := by
    intro others same
    rcases reordered_value isValue same with ⟨otherValue, alike⟩
    have sameForm := exactly _ otherValue alike
    rw [canonicalJson_object, canonicalJson_object, Json.object.injEq] at sameForm
    rw [sameForm, names_sortedEntries collation, canonicalEntries_names, names_inOrder]
  have := collation.total
  have := collation.trans
  have inFront : forall {left right : String × Json} (rest : List (String × Json)), isName left = true -> isName right = true ->
      localeCompare left.1 right.1 = 0 ->
      List.Sublist [(left.1, canonicalJson localeCompare left.2), (right.1, canonicalJson localeCompare right.2)]
        ((canonicalEntries localeCompare ((left :: right :: rest).filter isName)).insertionSort
          (keyUpTo localeCompare)) := by
    intro left right rest leftName rightName same
    rw [List.filter_cons, if_pos leftName, List.filter_cons, if_pos rightName, canonicalEntries_eq_map]
    apply List.pair_sublist_insertionSort
    · exact same.le
    · exact List.Sublist.cons_cons _ (List.Sublist.cons_cons _ (List.nil_sublist _))
  have distinct : ((sortedEntries localeCompare entries).filter isName).Nodup := by
    apply List.Nodup.filter
    apply List.Nodup.of_map Prod.fst
    have sameKeys := (perm_inOrder ((canonicalEntries localeCompare entries).insertionSort
      (keyUpTo localeCompare))).map Prod.fst
    exact sameKeys.nodup_iff.mpr ((keys_sort entries).nodup_iff.mpr isValue.1.distinct)
  have equalBack : localeCompare second.1 first.1 = 0 :=
    collation.alike_iff.mp (collation.alike_iff.mpr equal).symm
  have forward := inFront rest firstName secondName equal
  have backward := inFront rest secondName firstName equalBack
  rw [oneForm placed.symm] at forward
  rw [oneForm swapped] at backward
  exact not_pair_sublist_swap distinct forward backward

mutual

theorem namesApart_of_exact (collation : Collation localeCompare) (value : Json) (isValue : IsValue rounded value)
    (exactly : forall other, IsValue rounded other -> Alike value other ->
      canonicalJson localeCompare value = canonicalJson localeCompare other) : NamesApart localeCompare value := by
  match value with
  | .null => trivial
  | .bool flag => trivial
  | .number literal => trivial
  | .string text => trivial
  | .array elements =>
    apply namesApartElements_of_exact collation elements isValue
    intro others areValues alike
    exact Json.array.inj (exactly (.array others) areValues alike)
  | .object entries =>
    constructor
    · intro first second isFirst isSecond firstName secondName equal
      exact names_apart_of_exact collation isValue exactly isFirst isSecond firstName secondName equal
    · apply namesApartEntries_of_exact collation entries isValue.2
      intro others areValues alike
      have sameKeys := keys_of_alike alike
      have own : OwnKeys (others.map Prod.fst) := by
        rw [sameKeys]
        exact isValue.1
      have sameForm := exactly (.object others) ⟨own, areValues⟩ ⟨others, alike, List.Perm.refl others⟩
      rw [canonicalJson_object, canonicalJson_object, Json.object.injEq] at sameForm
      have same : (canonicalEntries localeCompare entries).Perm (canonicalEntries localeCompare others) := by
        have placed := (@perm_sortedEntries localeCompare entries).symm
        rw [sameForm] at placed
        exact placed.trans (perm_sortedEntries others)
      apply eq_of_perm_of_keys same
      · rw [keys_canonicalEntries, keys_canonicalEntries, sameKeys]
      · rw [keys_canonicalEntries]
        exact own.distinct

theorem namesApartElements_of_exact (collation : Collation localeCompare) (elements : List Json)
    (areValues : IsValueElements rounded elements)
    (exactly : forall others, IsValueElements rounded others -> AlikeElements elements others ->
      canonicalElements localeCompare elements = canonicalElements localeCompare others) :
    NamesApartElements localeCompare elements := by
  match elements with
  | [] => trivial
  | element :: rest =>
    constructor
    · apply namesApart_of_exact collation element areValues.1
      intro other isValue alike
      exact (List.cons.inj (exactly (other :: rest) ⟨isValue, areValues.2⟩ ⟨alike, alikeElements_refl rest⟩)).1
    · apply namesApartElements_of_exact collation rest areValues.2
      intro others areOthers alike
      exact (List.cons.inj (exactly (element :: others) ⟨areValues.1, areOthers⟩ ⟨alike_refl element, alike⟩)).2

theorem namesApartEntries_of_exact (collation : Collation localeCompare) (entries : List (String × Json))
    (areValues : IsValueEntries rounded entries)
    (exactly : forall others, IsValueEntries rounded others -> AlikeEntries entries others ->
      canonicalEntries localeCompare entries = canonicalEntries localeCompare others) :
    NamesApartEntries localeCompare entries := by
  match entries with
  | [] => trivial
  | (key, value) :: rest =>
    constructor
    · apply namesApart_of_exact collation value areValues.1
      intro other isValue alike
      have same := (List.cons.inj (exactly ((key, other) :: rest) ⟨isValue, areValues.2⟩
        ⟨rfl, alike, alikeEntries_refl rest⟩)).1
      exact congrArg Prod.snd same
    · apply namesApartEntries_of_exact collation rest areValues.2
      intro others areOthers alike
      exact (List.cons.inj (exactly ((key, value) :: others) ⟨areValues.1, areOthers⟩
        ⟨rfl, alike_refl value, alike⟩)).2

end

/-- `é` as one character, and as a letter with a combining accent. -/
def composed : String := "\u00e9"

def decomposed : String := "e\u0301"

/-- How a collation places the keys: the spellings of `é` in one place, before other words. -/
def placeOf (key : String) : Int :=
  if key = composed ∨ key = decomposed then 1 else if key = "items" then 2 else if key = "status" then 3 else 0

def accentCompare (left right : String) : Int := placeOf left - placeOf right

theorem accentCompare_collation : Collation accentCompare := by
  constructor
  · intro left right
    unfold accentCompare
    omega
  · intro first second third
    unfold accentCompare
    omega

def spelledEntries : List (String × Json) := [(composed, .bool true), (decomposed, .bool false)]

def spelledAgain : List (String × Json) := [(decomposed, .bool false), (composed, .bool true)]

theorem ownKeys_names {keys : List String} (distinct : keys.Nodup)
    (names : forall key, key ∈ keys -> arrayIndex? key = none) : OwnKeys keys :=
  ⟨distinct, [], keys, rfl, nofun, List.Pairwise.nil, names⟩

theorem spelled_isValue : IsValue id (.object spelledEntries) :=
  ⟨ownKeys_names (by decide) (by decide), trivial, trivial, trivial⟩

theorem spelledAgain_isValue : IsValue id (.object spelledAgain) :=
  ⟨ownKeys_names (by decide) (by decide), trivial, trivial, trivial⟩

def plainEntries : List (String × Json) := [("status", .string "PAID"), ("items", .array [.object [("a", .null)]])]

def plainReordered : List (String × Json) := [("items", .array [.object [("a", .null)]]), ("status", .string "PAID")]

theorem plainItems_isValue : IsValue id (.array [.object [("a", .null)]]) :=
  ⟨⟨ownKeys_names (by decide) (by decide), trivial, trivial⟩, trivial⟩

theorem namesApart_of_distinct {entries : List (String × Json)} (apart : forall left, left ∈ entries.map Prod.fst ->
    forall right, right ∈ entries.map Prod.fst -> accentCompare left right = 0 -> left = right)
    (nested : NamesApartEntries accentCompare entries) : NamesApart accentCompare (.object entries) := by
  refine ⟨?_, nested⟩
  intro first second isFirst isSecond _ _ same
  exact apart first.1 (List.mem_map_of_mem isFirst) second.1 (List.mem_map_of_mem isSecond) same

end Canonical

end Json

end Persistence
end DigitalSolutions
