import Mathlib

namespace DigitalSolutions
namespace Foundation

/-!
# What a stable sort owes to the order of its input

Sorting by a total preorder forgets the order of the input exactly if no two
different elements are alike under it.
-/

section Forgetting

variable {Item : Type} (precedes : Item -> Item -> Prop) [DecidableRel precedes]

/-- Two elements cannot stand in both orders in a list without repetitions. -/
theorem not_pair_sublist_swap {items : List Item} (distinct : items.Nodup) {first second : Item}
    (forward : List.Sublist [first, second] items) : ¬ List.Sublist [second, first] items := by
  induction items with
  | nil => cases forward
  | cons item rest inductionHypothesis =>
    rw [List.nodup_cons] at distinct
    intro backward
    cases forward with
    | cons _ later =>
      cases backward with
      | cons _ alsoLater => exact inductionHypothesis distinct.2 later alsoLater
      | cons_cons _ alone => exact distinct.1 (later.subset (List.mem_cons_of_mem _ List.mem_cons_self))
    | cons_cons _ alone =>
      cases backward with
      | cons _ later => exact distinct.1 (later.subset (List.mem_cons_of_mem _ List.mem_cons_self))
      | cons_cons _ alsoAlone => exact distinct.1 (alone.subset List.mem_cons_self)

omit [DecidableRel precedes] in
/-- Two members can be moved to the front. -/
theorem exists_perm_pair {items : List Item} {first second : Item} (firstMember : first ∈ items)
    (secondMember : second ∈ items) (different : first ≠ second) :
    Exists fun rest => items.Perm (first :: second :: rest) := by
  rcases List.append_of_mem firstMember with ⟨before, after, rfl⟩
  have remains : second ∈ before ++ after := by
    rcases List.mem_append.mp secondMember with early | late
    · exact List.mem_append_left _ early
    · rcases List.mem_cons.mp late with same | later
      · exact absurd same.symm different
      · exact List.mem_append_right _ later
  rcases List.append_of_mem remains with ⟨left, right, split⟩
  refine ⟨left ++ right, ?_⟩
  apply List.perm_middle.trans
  apply List.Perm.cons
  rw [split]
  exact List.perm_middle

variable [Std.Total precedes] [IsTrans Item precedes]

/-- The sort gives one list for all orders of the items. -/
def ForgetsOrder (items : List Item) : Prop :=
  forall others : List Item, others.Perm items -> others.insertionSort precedes = items.insertionSort precedes

theorem forgetsOrder_iff {items : List Item} (distinct : items.Nodup) :
    ForgetsOrder precedes items ↔
      forall first second, first ∈ items -> second ∈ items -> precedes first second ->
        precedes second first -> first = second := by
  constructor
  · intro forgets first second firstMember secondMember forward backward
    by_contra different
    rcases exists_perm_pair firstMember secondMember different with ⟨rest, placed⟩
    have swapped : (second :: first :: rest).Perm items := (List.Perm.swap first second rest).trans placed.symm
    have inFront : forall {left right : Item}, precedes left right ->
        List.Sublist [left, right] ((left :: right :: rest).insertionSort precedes) := by
      intro left right ordered
      apply List.pair_sublist_insertionSort ordered
      exact List.Sublist.cons_cons left (List.Sublist.cons_cons right (List.nil_sublist rest))
    have sorted : (items.insertionSort precedes).Nodup :=
      (List.perm_insertionSort precedes items).nodup_iff.mpr distinct
    refine @not_pair_sublist_swap Item _ sorted first second ?_ ?_
    · rw [← forgets _ placed.symm]
      exact inFront forward
    · rw [← forgets _ swapped]
      exact inFront backward
  · intro apart others same
    have sorted : (others.insertionSort precedes).Perm (items.insertionSort precedes) :=
      (List.perm_insertionSort precedes others).trans (same.trans (List.perm_insertionSort precedes items).symm)
    apply List.Perm.eq_of_pairwise _ (List.pairwise_insertionSort precedes others)
      (List.pairwise_insertionSort precedes items) sorted
    intro first second firstMember secondMember
    exact apart first second (same.mem_iff.mp (List.mem_insertionSort _ |>.mp firstMember))
      (List.mem_insertionSort _ |>.mp secondMember)

end Forgetting

/-! ## Filtering what is sorted -/

section Sorted

variable {Entry : Type} (before : Entry -> Entry -> Prop) [DecidableRel before]

theorem orderedInsert_first {entry : Entry} {entries : List Entry}
    (first : forall other, other ∈ entries -> before entry other) :
    entries.orderedInsert before entry = entry :: entries := by
  cases entries with
  | nil => rfl
  | cons other rest => exact List.orderedInsert_cons_of_le before rest (first other List.mem_cons_self)

theorem filter_orderedInsert [IsTrans Entry before] (keep : Entry -> Bool) (entry : Entry)
    {entries : List Entry} (sorted : entries.Pairwise before) :
    (entries.orderedInsert before entry).filter keep =
      if keep entry then (entries.filter keep).orderedInsert before entry else entries.filter keep := by
  induction entries with
  | nil => cases kept : keep entry with
    | true => simp only [List.orderedInsert_nil, List.filter_cons, kept, if_true, List.filter_nil]
    | false => simp only [List.orderedInsert_nil, List.filter_cons, kept, Bool.false_eq_true, if_false,
        List.filter_nil]
  | cons other rest inductionHypothesis =>
    rw [List.pairwise_cons] at sorted
    by_cases isFirst : before entry other
    · have first : forall later, later ∈ (other :: rest).filter keep -> before entry later := by
        intro later member
        rcases List.mem_cons.mp (List.mem_filter.mp member).1 with rfl | inRest
        · exact isFirst
        · exact trans_of before isFirst (sorted.1 later inRest)
      rw [List.orderedInsert_cons_of_le before rest isFirst, List.filter_cons, orderedInsert_first before first]
    · rw [List.orderedInsert_of_not_le before rest isFirst, List.filter_cons, inductionHypothesis sorted.2]
      cases isKept : keep other with
      | true =>
        simp only [if_true, List.filter_cons, isKept]
        split
        · rw [List.orderedInsert_of_not_le before _ isFirst]
        · rfl
      | false =>
        simp only [Bool.false_eq_true, if_false, List.filter_cons, isKept]

/-- Sorting keeps the order of equals, so it does not matter what is filtered
first. -/
theorem filter_insertionSort [IsTrans Entry before] [Std.Total before] (keep : Entry -> Bool)
    (entries : List Entry) :
    (entries.insertionSort before).filter keep = (entries.filter keep).insertionSort before := by
  induction entries with
  | nil => rfl
  | cons entry rest inductionHypothesis =>
    rw [List.insertionSort_cons, filter_orderedInsert before keep entry (List.pairwise_insertionSort before rest),
      inductionHypothesis, List.filter_cons]
    split
    · rfl
    · rfl

end Sorted

end Foundation
end DigitalSolutions
