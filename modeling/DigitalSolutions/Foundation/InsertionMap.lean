import Mathlib

namespace DigitalSolutions
namespace Foundation

/-!
# Maps that remember the order of their keys

A map whose keys are listed in the order in which they were first set.
Setting a key again replaces its value in place, so no key is listed twice.
-/

namespace InsertionMap

variable {Key Value : Type} [DecidableEq Key]

def find (key : Key) : List (Key × Value) -> Option Value
  | [] => none
  | (stored, value) :: rest => if stored = key then some value else find key rest

def put (key : Key) (value : Value) : List (Key × Value) -> List (Key × Value)
  | [] => [(key, value)]
  | (stored, old) :: rest =>
    if stored = key then (stored, value) :: rest else (stored, old) :: put key value rest

theorem find_put (key other : Key) (value : Value) (entries : List (Key × Value)) :
    find other (put key value entries) = if key = other then some value else find other entries := by
  induction entries with
  | nil => rfl
  | cons head tail inductionHypothesis =>
    rcases head with ⟨stored, old⟩
    by_cases replaced : stored = key
    · subst replaced
      by_cases same : stored = other
      · simp only [put, find, same, if_true]
      · simp only [put, find, same, if_true, if_false]
    · simp only [put, find, replaced, if_false]
      by_cases found : stored = other
      · have distinct : ¬ key = other := fun same => replaced (found.trans same.symm)
        simp only [found, distinct, if_true, if_false]
      · simp only [found, if_false]
        exact inductionHypothesis

theorem find_isSome_iff (key : Key) (entries : List (Key × Value)) :
    (find key entries).isSome = true ↔ key ∈ entries.map Prod.fst := by
  induction entries with
  | nil => simp [find]
  | cons head tail inductionHypothesis =>
    rcases head with ⟨stored, old⟩
    by_cases found : stored = key
    · simp [find, found]
    · simp only [find, found, if_false, List.map_cons, List.mem_cons]
      rw [inductionHypothesis]
      constructor
      · exact Or.inr
      · rintro (same | later)
        · exact absurd same.symm found
        · exact later

theorem keys_put (key : Key) (value : Value) (entries : List (Key × Value)) :
    (put key value entries).map Prod.fst =
      if key ∈ entries.map Prod.fst then entries.map Prod.fst else entries.map Prod.fst ++ [key] := by
  induction entries with
  | nil => rfl
  | cons head tail inductionHypothesis =>
    rcases head with ⟨stored, old⟩
    by_cases replaced : stored = key
    · simp [put, replaced]
    · simp only [put, replaced, if_false, List.map_cons, List.mem_cons, inductionHypothesis,
        Ne.symm replaced, false_or]
      split
      · rfl
      · rfl

end InsertionMap

structure InsertionMap (Key Value : Type) where
  entries : List (Key × Value)
  distinct : (entries.map Prod.fst).Nodup

namespace InsertionMap

variable {Key Value : Type} [DecidableEq Key]

def empty : InsertionMap Key Value := ⟨[], List.nodup_nil⟩

def keys (map : InsertionMap Key Value) : List Key := map.entries.map Prod.fst

def get? (map : InsertionMap Key Value) (key : Key) : Option Value := find key map.entries

def has (map : InsertionMap Key Value) (key : Key) : Bool := (map.get? key).isSome

def set (map : InsertionMap Key Value) (key : Key) (value : Value) : InsertionMap Key Value where
  entries := put key value map.entries
  distinct := by
    rw [keys_put]
    split
    · exact map.distinct
    · rename_i fresh
      apply List.nodup_append.mpr
      refine ⟨map.distinct, List.nodup_singleton key, ?_⟩
      intro stored member other isKey same
      exact fresh (List.mem_singleton.mp isKey ▸ same ▸ member)

def remove (map : InsertionMap Key Value) (key : Key) : InsertionMap Key Value where
  entries := map.entries.filter fun entry => decide (entry.1 ≠ key)
  distinct := (List.Sublist.map Prod.fst List.filter_sublist).nodup map.distinct

@[simp] theorem get?_empty (key : Key) : (empty : InsertionMap Key Value).get? key = none := rfl

theorem get?_set (map : InsertionMap Key Value) (key other : Key) (value : Value) :
    (map.set key value).get? other = if key = other then some value else map.get? other :=
  find_put key other value map.entries

theorem has_iff (map : InsertionMap Key Value) (key : Key) :
    map.has key = true ↔ Exists fun value => map.get? key = some value := by
  unfold has
  rw [Option.isSome_iff_exists]

theorem mem_keys_iff (map : InsertionMap Key Value) (key : Key) :
    key ∈ map.keys ↔ map.has key = true :=
  (find_isSome_iff key map.entries).symm

end InsertionMap
end Foundation
end DigitalSolutions
