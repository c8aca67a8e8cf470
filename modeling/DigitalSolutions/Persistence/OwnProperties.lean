import DigitalSolutions.Foundation.StableSorting
import DigitalSolutions.Persistence.Json

namespace DigitalSolutions
namespace Persistence

open Foundation

/-!
# The properties of an object

An object enumerates its properties in an order of its own: array indices first,
ascending, then the other keys in the order in which they were given.  An object
that is built from the properties of another one keeps their order.
-/

namespace OwnProperties

variable {Value : Type}
variable {entries : List (String × Value)}

/-- A key that is given again keeps its place. -/
def put (entries : List (String × Value)) (entry : String × Value) : List (String × Value) :=
  if entries.any (fun other => other.1 = entry.1) then
    entries.map fun other => if other.1 = entry.1 then entry else other
  else entries ++ [entry]

def index (key : String) : Nat := (Json.arrayIndex? key).getD 0

/-- The order in which the properties are enumerated. -/
def inOrder (entries : List (String × Value)) : List (String × Value) :=
  (entries.filter fun entry => (Json.arrayIndex? entry.1).isSome).insertionSort
      (fun left right => index left.1 ≤ index right.1) ++
    entries.filter fun entry => (Json.arrayIndex? entry.1).isNone

/-- `Object.entries(Object.fromEntries(entries))`. -/
def fromEntries (entries : List (String × Value)) : List (String × Value) := inOrder (entries.foldl put [])

/-- The keys that an object can have, in the order of their enumeration. -/
structure OwnKeys (keys : List String) : Prop where
  distinct : keys.Nodup
  ordered : Exists fun indices : List String => Exists fun names : List String => keys = indices ++ names ∧
    (forall key, key ∈ indices -> (Json.arrayIndex? key).isSome = true) ∧
    indices.Pairwise (fun left right => index left ≤ index right) ∧
    forall key, key ∈ names -> Json.arrayIndex? key = none

theorem foldl_put {added : List (String × Value)} (distinct : ((entries ++ added).map Prod.fst).Nodup) :
    added.foldl put entries = entries ++ added := by
  induction added generalizing entries with
  | nil => exact (List.append_nil entries).symm
  | cons entry rest inductionHypothesis =>
    have fresh : entries.any (fun other => other.1 = entry.1) = false := by
      apply List.any_eq_false.mpr
      intro other listed same
      rw [List.map_append] at distinct
      exact List.disjoint_of_nodup_append distinct (List.mem_map_of_mem listed)
        (of_decide_eq_true same ▸ List.mem_map_of_mem List.mem_cons_self)
    have assoc : entries ++ entry :: rest = (entries ++ [entry]) ++ rest := by
      rw [List.append_assoc, List.singleton_append]
    rw [assoc] at distinct
    rw [List.foldl_cons, put, fresh, if_neg Bool.false_ne_true, inductionHypothesis distinct, assoc]

theorem inOrder_eq (own : OwnKeys (entries.map Prod.fst)) :
    inOrder entries = entries := by
  rcases own.ordered with ⟨indices, names, split, areIndices, ascending, areNames⟩
  rcases List.map_eq_append_iff.mp split with ⟨indexed, named, rfl, rfl, rfl⟩
  have allIndexed : indexed.filter (fun entry => (Json.arrayIndex? entry.1).isSome) = indexed := by
    apply List.filter_eq_self.mpr
    intro entry listed
    exact areIndices entry.1 (List.mem_map_of_mem listed)
  have noneIndexed : named.filter (fun entry => (Json.arrayIndex? entry.1).isSome) = [] := by
    apply List.filter_eq_nil_iff.mpr
    intro entry listed isIndex
    rw [areNames entry.1 (List.mem_map_of_mem listed)] at isIndex
    cases isIndex
  have noneNamed : indexed.filter (fun entry => (Json.arrayIndex? entry.1).isNone) = [] := by
    apply List.filter_eq_nil_iff.mpr
    intro entry listed isName
    have isIndex := areIndices entry.1 (List.mem_map_of_mem listed)
    rw [Option.isNone_iff_eq_none.mp isName] at isIndex
    cases isIndex
  have allNamed : named.filter (fun entry => (Json.arrayIndex? entry.1).isNone) = named := by
    apply List.filter_eq_self.mpr
    intro entry listed
    rw [areNames entry.1 (List.mem_map_of_mem listed)]
    rfl
  have sorted : indexed.insertionSort (fun left right => index left.1 ≤ index right.1) = indexed := by
    rw [List.pairwise_map] at ascending
    exact ascending.insertionSort_eq
  rw [inOrder, List.filter_append, List.filter_append, allIndexed, noneIndexed, noneNamed, allNamed,
    List.append_nil, List.nil_append, sorted]

/-- An object that is built of the properties that an object can have, has them in
their order. -/
theorem fromEntries_eq (own : OwnKeys (entries.map Prod.fst)) :
    fromEntries entries = entries := by
  have put : entries.foldl put [] = entries := foldl_put own.distinct
  rw [fromEntries, put, inOrder_eq own]

/-! ## Array indices -/

/-- The value of a decimal numeral, digit by digit from its end. -/
theorem foldl_digits (digits : List Char) (value : Nat) :
    digits.foldl (fun value digit => 10 * value + (digit.toNat - '0'.toNat)) value =
      Nat.ofDigits 10 ((digits.map fun digit => digit.toNat - '0'.toNat).reverse) + 10 ^ digits.length * value := by
  induction digits generalizing value with
  | nil => simp only [List.foldl_nil, List.map_nil, List.reverse_nil, Nat.ofDigits_nil, List.length_nil, Nat.pow_zero,
      Nat.one_mul, Nat.zero_add]
  | cons digit rest inductionHypothesis =>
    rw [List.foldl_cons, inductionHypothesis, List.map_cons, List.reverse_cons, Nat.ofDigits_append,
      Nat.ofDigits_singleton, List.length_reverse, List.length_map, List.length_cons, Nat.pow_succ]
    ring

theorem arrayIndex_digits {key : String} {value : Nat} (isIndex : Json.arrayIndex? key = some value) :
    (forall digit, digit ∈ key.toList -> digit.isDigit = true) ∧
      (key.toList = ['0'] ∨ key.toList.head? ≠ some '0') ∧ key.toList ≠ [] ∧
      Nat.ofDigits 10 ((key.toList.map fun digit => digit.toNat - '0'.toNat).reverse) = value := by
  unfold Json.arrayIndex? at isIndex
  dsimp only at isIndex
  split at isIndex
  · cases isIndex
  · rename_i numeral
    split at isIndex
    · simp only [Bool.or_eq_true, decide_eq_true_eq, Bool.and_eq_true, not_or, not_and, Bool.not_eq_true',
        Bool.not_eq_false, List.isEmpty_iff, ne_eq, not_not] at numeral
      rcases numeral with ⟨⟨nonempty, digits⟩, leading⟩
      refine ⟨List.all_eq_true.mp digits, ?_, nonempty, ?_⟩
      · by_cases zero : key.toList.head? = some '0'
        · rcases List.length_eq_one_iff.mp (leading zero) with ⟨digit, isDigit⟩
          rw [isDigit] at zero ⊢
          exact Or.inl (congrArg (fun digit => [digit]) (Option.some.inj zero))
        · exact Or.inr zero
      · have total := foldl_digits key.toList 0
        rw [Nat.mul_zero, Nat.add_zero] at total
        rw [← total]
        exact Option.some.inj isIndex
    · cases isIndex

theorem digit_bounds {digit : Char} (isDigit : digit.isDigit = true) :
    '0'.toNat ≤ digit.toNat ∧ digit.toNat ≤ '9'.toNat := by
  simp only [Char.isDigit, Bool.and_eq_true, decide_eq_true_eq, ge_iff_le] at isDigit
  exact ⟨isDigit.1, isDigit.2⟩

/-- The digits can be read off their values. -/
theorem map_digits_restore {text : List Char} (digits : forall digit, digit ∈ text -> digit.isDigit = true) :
    (text.map fun digit => digit.toNat - '0'.toNat).map (fun value => Char.ofNat ('0'.toNat + value)) = text := by
  have same : forall digit, digit ∈ text ->
      ((fun value => Char.ofNat ('0'.toNat + value)) ∘ fun digit : Char => digit.toNat - '0'.toNat) digit =
        id digit := by
    intro digit listed
    have bounds := digit_bounds (digits digit listed)
    have code : '0'.toNat + (digit.toNat - '0'.toNat) = digit.toNat := Nat.add_sub_of_le bounds.1
    rw [Function.comp_apply, code, Char.ofNat_toNat, id]
  rw [List.map_map, List.map_congr_left same, List.map_id]

/-- The digits of an index are those of its key. -/
theorem digits_arrayIndex {key : String} {value : Nat} (isIndex : Json.arrayIndex? key = some value)
    (notZero : key.toList ≠ ['0']) :
    Nat.digits 10 value = (key.toList.map fun digit => digit.toNat - '0'.toNat).reverse := by
  rcases arrayIndex_digits isIndex with ⟨digits, leading, _, total⟩
  have zero : '0'.toNat = 48 := by decide
  have nine : '9'.toNat = 57 := by decide
  rw [← total]
  apply Nat.digits_ofDigits 10 (by decide)
  · intro place member
    rcases List.mem_map.mp (List.mem_reverse.mp member) with ⟨digit, listed, rfl⟩
    have bounds := digit_bounds (digits digit listed)
    omega
  · intro nonempty
    rw [List.getLast_reverse]
    generalize key.toList = text at *
    cases text with
    | nil => exact absurd rfl nonempty
    | cons first rest =>
      have bounds := digit_bounds (digits first List.mem_cons_self)
      have notLeading : first ≠ '0' := by
        rintro rfl
        rcases leading with same | other
        · exact notZero same
        · exact other rfl
      intro isZero
      have code : first.toNat = '0'.toNat := by
        have place : first.toNat - '0'.toNat = 0 := isZero
        omega
      exact notLeading (Char.toNat_inj.mp code)

/-- A key is the numeral of its index. -/
theorem arrayIndex_injective {left right : String} {value : Nat} (isLeft : Json.arrayIndex? left = some value)
    (isRight : Json.arrayIndex? right = some value) : left = right := by
  have zeroAlone : forall {key other : String}, Json.arrayIndex? key = some value ->
      Json.arrayIndex? other = some value -> key.toList = ['0'] -> other.toList = ['0'] := by
    intro key other isKey isOther zero
    by_contra notZero
    have total := (arrayIndex_digits isKey).2.2.2
    rw [zero] at total
    have isZero : value = 0 := total.symm
    have digits := digits_arrayIndex isOther notZero
    rw [isZero, Nat.digits_zero] at digits
    exact (arrayIndex_digits isOther).2.2.1 (List.map_eq_nil_iff.mp (List.reverse_eq_nil_iff.mp digits.symm))
  apply String.toList_inj.mp
  by_cases zero : left.toList = ['0']
  · rw [zero, zeroAlone isLeft isRight zero]
  · have rightNotZero : right.toList ≠ ['0'] := fun same => zero (zeroAlone isRight isLeft same)
    have same := (digits_arrayIndex isLeft zero).symm.trans (digits_arrayIndex isRight rightNotZero)
    rw [← map_digits_restore (arrayIndex_digits isLeft).1, ← map_digits_restore (arrayIndex_digits isRight).1,
      List.reverse_inj.mp same]

/-! ## Properties in another order -/

def isName (entry : String × Value) : Bool := (Json.arrayIndex? entry.1).isNone

def indexUpTo (left right : String × Value) : Prop := index left.1 ≤ index right.1

instance : DecidableRel (@indexUpTo Value) :=
  fun left right => inferInstanceAs (Decidable (index left.1 ≤ index right.1))

instance : Std.Total (@indexUpTo Value) := ⟨fun left right => Nat.le_total (index left.1) (index right.1)⟩

instance : IsTrans (String × Value) indexUpTo := ⟨fun _ _ _ => Nat.le_trans⟩

/-- Properties with one key are one property. -/
theorem eq_of_key (distinct : (entries.map Prod.fst).Nodup) {first second : String × Value}
    (isFirst : first ∈ entries) (isSecond : second ∈ entries) (same : first.1 = second.1) :
    first = second :=
  List.inj_on_of_nodup_map distinct isFirst isSecond same

theorem perm_inOrder (entries : List (String × Value)) : (inOrder entries).Perm entries := by
  have sorted : ((entries.filter fun entry => (Json.arrayIndex? entry.1).isSome).insertionSort
      fun left right => index left.1 ≤ index right.1).Perm
      (entries.filter fun entry => (Json.arrayIndex? entry.1).isSome) := List.perm_insertionSort _ _
  have others : (entries.filter fun entry => (Json.arrayIndex? entry.1).isNone) =
      entries.filter fun entry => !(Json.arrayIndex? entry.1).isSome := by
    apply List.filter_congr
    intro entry _
    cases Json.arrayIndex? entry.1 <;> rfl
  rw [inOrder, others]
  exact (sorted.append_right _).trans (List.filter_append_perm _ entries)

theorem ownKeys_inOrder (distinct : (entries.map Prod.fst).Nodup) :
    OwnKeys ((inOrder entries).map Prod.fst) := by
  constructor
  · exact ((perm_inOrder entries).map Prod.fst).nodup_iff.mpr distinct
  · refine ⟨_, _, List.map_append, ?_, ?_, ?_⟩
    · intro key listed
      rcases List.mem_map.mp listed with ⟨entry, inSorted, rfl⟩
      exact (List.mem_filter.mp ((List.mem_insertionSort _).mp inSorted)).2
    · rw [List.pairwise_map]
      exact List.pairwise_insertionSort indexUpTo _
    · intro key listed
      rcases List.mem_map.mp listed with ⟨entry, inNames, rfl⟩
      exact Option.isNone_iff_eq_none.mp (List.mem_filter.mp inNames).2

theorem names_inOrder (entries : List (String × Value)) : (inOrder entries).filter isName = entries.filter isName := by
  have noIndices : ((entries.filter fun entry => (Json.arrayIndex? entry.1).isSome).insertionSort
      fun left right => index left.1 ≤ index right.1).filter isName = [] := by
    apply List.filter_eq_nil_iff.mpr
    intro entry listed named
    have isIndex := (List.mem_filter.mp ((List.mem_insertionSort _).mp listed)).2
    rw [isName, Option.isNone_iff_eq_none] at named
    rw [named] at isIndex
    cases isIndex
  rw [inOrder, List.filter_append, noIndices, List.nil_append, List.filter_filter]
  apply List.filter_congr
  intro entry _
  exact Bool.and_self _

/-- The order that an object has depends on the order of its names alone. -/
theorem inOrder_eq_iff {others : List (String × Value)} (distinct : (entries.map Prod.fst).Nodup)
    (same : others.Perm entries) :
    inOrder others = inOrder entries ↔ others.filter isName = entries.filter isName := by
  constructor
  · intro sameOrder
    rw [← names_inOrder others, sameOrder, names_inOrder]
  · intro sameNames
    have indices := same.filter fun entry => (Json.arrayIndex? entry.1).isSome
    have distinctIndices : (entries.filter fun entry => (Json.arrayIndex? entry.1).isSome).Nodup :=
      distinct.of_map.filter _
    have forgets : ForgetsOrder indexUpTo (entries.filter fun entry => (Json.arrayIndex? entry.1).isSome) := by
      rw [forgetsOrder_iff indexUpTo distinctIndices]
      intro first second isFirst isSecond forward backward
      rcases List.mem_filter.mp isFirst with ⟨inEntries, firstIndex⟩
      rcases List.mem_filter.mp isSecond with ⟨alsoInEntries, secondIndex⟩
      rcases Option.isSome_iff_exists.mp firstIndex with ⟨value, isValue⟩
      rcases Option.isSome_iff_exists.mp secondIndex with ⟨other, isOther⟩
      have sameIndex : value = other := by
        have equal : index first.1 = index second.1 := Nat.le_antisymm forward backward
        unfold index at equal
        rw [isValue, isOther] at equal
        exact equal
      rw [← sameIndex] at isOther
      exact eq_of_key distinct inEntries alsoInEntries (arrayIndex_injective isValue isOther)
    exact congrArg₂ (· ++ ·) (forgets _ indices) sameNames

end OwnProperties

end Persistence
end DigitalSolutions
