import Mathlib

namespace DigitalSolutions
namespace Foundation

/-!
# Newest first

A listing shows the newest of the eligible items, at most as many as its limit.
Of items with one time any may be shown.  A query that reads a bounded number of
rows before it filters them gives such a listing exactly where the rows it reads
hold enough eligible ones, or where it leaves none of them unread.
-/

variable {Item : Type} (time : Item -> Int)

def NewerFirst (left right : Item) : Prop := time right ≤ time left

/-- The listed items are the newest of the eligible ones, in order. -/
structure Newest (eligible : List Item) (limit : Nat) (listed : List Item) : Prop where
  ordered : listed.Pairwise (NewerFirst time)
  full : listed.length = min limit eligible.length
  chosen : Exists fun rest => (listed ++ rest).Perm eligible ∧
    forall item, item ∈ listed -> forall other, other ∈ rest -> NewerFirst time item other

variable {time} {eligible others listed rows : List Item} {limit : Nat}

theorem Newest.perm (newest : Newest time eligible limit listed) (same : eligible.Perm others) :
    Newest time others limit listed := by
  rcases newest.chosen with ⟨rest, all, newer⟩
  exact
    { ordered := newest.ordered
      full := by rw [newest.full, same.length_eq]
      chosen := ⟨rest, all.trans same, newer⟩ }

/-- The first `read` rows hold enough that is kept, or nothing kept is left. -/
def Covers (keep : Item -> Bool) (read limit : Nat) (rows : List Item) : Prop :=
  limit ≤ ((rows.take read).filter keep).length ∨ (rows.drop read).filter keep = []

variable {keep : Item -> Bool} {read : Nat}

theorem filter_split (keep : Item -> Bool) (read : Nat) (rows : List Item) :
    rows.filter keep = (rows.take read).filter keep ++ (rows.drop read).filter keep := by
  rw [← List.filter_append, List.take_append_drop]

/-- Covering is a matter of how many are listed. -/
theorem covers_iff_length : Covers keep read limit rows ↔
    (((rows.take read).filter keep).take limit).length = min limit (rows.filter keep).length := by
  rw [filter_split keep read rows, List.length_take, List.length_append]
  constructor
  · rintro (enough | none)
    · omega
    · rw [none, List.length_nil, Nat.add_zero]
  · intro full
    by_cases enough : limit ≤ ((rows.take read).filter keep).length
    · exact Or.inl enough
    · exact Or.inr (List.length_eq_zero_iff.mp (by omega))

/-- A bounded read before a filter lists the newest exactly where it covers them. -/
theorem newest_page_iff (sorted : rows.Pairwise (NewerFirst time)) :
    Newest time (rows.filter keep) limit (((rows.take read).filter keep).take limit) ↔
      Covers keep read limit rows := by
  constructor
  · intro newest
    exact covers_iff_length.mpr newest.full
  · intro covers
    have kept := sorted.filter keep
    have split : rows.filter keep = ((rows.take read).filter keep).take limit ++
        (((rows.take read).filter keep).drop limit ++ (rows.drop read).filter keep) := by
      rw [← List.append_assoc, List.take_append_drop, ← filter_split]
    rw [split] at kept
    rcases List.pairwise_append.mp kept with ⟨ordered, _, newer⟩
    exact { ordered, full := covers_iff_length.mp covers, chosen := ⟨_, split ▸ List.Perm.refl _, newer⟩ }

/-- Sorting by a time that falls gives the newest first. -/
theorem pairwise_newestFirst (time : Item -> Int) (rows : List Item) :
    (rows.mergeSort fun left right => decide (time right ≤ time left)).Pairwise (NewerFirst time) := by
  have sorted : (rows.mergeSort fun left right => decide (time right ≤ time left)).Pairwise
      (fun left right => decide (time right ≤ time left) = true) := by
    apply List.pairwise_mergeSort
    · intro first second third
      simp only [decide_eq_true_eq]
      omega
    · intro first second
      simp only [Bool.or_eq_true, decide_eq_true_eq]
      omega
  apply sorted.imp
  intro left right ordered
  change time right ≤ time left
  exact of_decide_eq_true ordered

end Foundation
end DigitalSolutions
