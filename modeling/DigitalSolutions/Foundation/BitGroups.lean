import Mathlib

namespace DigitalSolutions
namespace Foundation

/-!
# Regrouping bits

A number is written with a fixed count of binary digits.  The digits of a run
of numbers stand behind each other in one text, which is cut into pieces of
another size; a last short piece is filled up, or left out.
-/

variable {bits : List Char}

/-- A number in binary, with leading zeros up to a width. -/
def binary (width value : Nat) : List Char := (Nat.toDigits 2 value).leftpad width '0'

/-- The number that binary digits write. -/
def ofBinary (bits : List Char) : Nat := Nat.ofDigitChars 2 bits 0

def IsBinary (bits : List Char) : Prop := forall bit, bit ∈ bits -> bit = '0' ∨ bit = '1'

theorem isBinary_toDigits (value : Nat) : IsBinary (Nat.toDigits 2 value) := by
  induction value using Nat.strongRecOn with
  | ind value inductionHypothesis =>
    intro bit member
    by_cases small : value < 2
    · rw [Nat.toDigits_of_lt_base small, List.mem_singleton] at member
      have cases : value = 0 ∨ value = 1 := by omega
      rcases cases with rfl | rfl
      · exact Or.inl member
      · exact Or.inr member
    · rw [Nat.toDigits_of_base_le Nat.one_lt_two (by omega), List.mem_append, List.mem_singleton] at member
      rcases member with earlier | last
      · exact inductionHypothesis (value / 2) (by omega) bit earlier
      · rcases Nat.mod_two_eq_zero_or_one value with even | odd
        · rw [even] at last
          exact Or.inl last
        · rw [odd] at last
          exact Or.inr last

theorem isBinary_binary (width value : Nat) : IsBinary (binary width value) := by
  intro bit member
  rcases List.mem_append.mp member with filling | digit
  · exact Or.inl (List.eq_of_mem_replicate filling)
  · exact isBinary_toDigits value bit digit

theorem length_binary {width value : Nat} (positive : 0 < width) (fits : value < 2 ^ width) :
    (binary width value).length = width := by
  have short : (Nat.toDigits 2 value).length ≤ width := (Nat.length_toDigits_le_iff Nat.one_lt_two positive).mpr fits
  rw [binary, List.length_leftpad, Nat.max_eq_left short]

@[simp] theorem ofBinary_binary (width value : Nat) : ofBinary (binary width value) = value := by
  rw [ofBinary, binary, List.leftpad, Nat.ofDigitChars_append, Nat.ofDigitChars_replicate_zero, Nat.mul_zero,
    Nat.ofDigitChars_toDigits Nat.one_lt_two (by omega)]

/-! ## Digits of one value -/

theorem ofDigitChars_two (bits : List Char) (start : Nat) :
    Nat.ofDigitChars 2 bits start = 2 ^ bits.length * start + ofBinary bits := by
  induction bits generalizing start with
  | nil => simp [ofBinary]
  | cons bit later inductionHypothesis =>
    rw [ofBinary, Nat.ofDigitChars_cons, Nat.ofDigitChars_cons, inductionHypothesis,
      inductionHypothesis (2 * 0 + _), List.length_cons, Nat.pow_succ]
    ring

theorem ofBinary_cons (bit : Char) (later : List Char) :
    ofBinary (bit :: later) = 2 ^ later.length * (bit.toNat - '0'.toNat) + ofBinary later := by
  rw [ofBinary, Nat.ofDigitChars_cons, ofDigitChars_two, Nat.mul_zero, Nat.zero_add]

theorem isBinary_tail {bit : Char} {later : List Char} (digits : IsBinary (bit :: later)) : IsBinary later :=
  fun other member => digits other (List.mem_cons_of_mem bit member)

theorem ofBinary_lt (digits : IsBinary bits) : ofBinary bits < 2 ^ bits.length := by
  induction bits with
  | nil => exact Nat.one_pos
  | cons bit later inductionHypothesis =>
    have tail := inductionHypothesis (isBinary_tail digits)
    rw [ofBinary_cons, List.length_cons, Nat.pow_succ]
    rcases digits bit List.mem_cons_self with rfl | rfl
    · rw [Nat.sub_self, Nat.mul_zero, Nat.zero_add]
      omega
    · rw [show '1'.toNat - '0'.toNat = 1 from rfl]
      omega

/-- Digit texts of one length with one value are the same. -/
theorem ofBinary_inj {left right : List Char} (leftDigits : IsBinary left) (rightDigits : IsBinary right)
    (sameLength : left.length = right.length) (same : ofBinary left = ofBinary right) : left = right := by
  induction left generalizing right with
  | nil => exact (List.eq_nil_of_length_eq_zero sameLength.symm).symm
  | cons bit later inductionHypothesis =>
    cases right with
    | nil => cases sameLength
    | cons other rest =>
      have lengths : later.length = rest.length := Nat.succ.inj sameLength
      have small := ofBinary_lt (isBinary_tail leftDigits)
      have otherSmall := ofBinary_lt (isBinary_tail rightDigits)
      rw [ofBinary_cons, ofBinary_cons, lengths] at same
      rw [lengths] at small
      have one : '1'.toNat - '0'.toNat = 1 := rfl
      rcases leftDigits bit List.mem_cons_self with rfl | rfl <;>
        rcases rightDigits other List.mem_cons_self with rfl | rfl
      · rw [inductionHypothesis (isBinary_tail leftDigits) (isBinary_tail rightDigits) lengths (by omega)]
      · rw [one, Nat.sub_self] at same
        omega
      · rw [one, Nat.sub_self] at same
        omega
      · rw [inductionHypothesis (isBinary_tail leftDigits) (isBinary_tail rightDigits) lengths (by omega)]

theorem binary_ofBinary {width : Nat} (digits : IsBinary bits) (positive : 0 < width)
    (isWidth : bits.length = width) : binary width (ofBinary bits) = bits := by
  have fits : ofBinary bits < 2 ^ width := by
    rw [← isWidth]
    exact ofBinary_lt digits
  apply ofBinary_inj (isBinary_binary width (ofBinary bits)) digits
  · rw [length_binary positive fits, isWidth]
  · exact ofBinary_binary width (ofBinary bits)

/-! ## Pieces -/

section Pieces

variable {Element : Type} {size : Nat}

/-- The first pieces of a list, each but the last of full size. -/
def pieces (size : Nat) : Nat -> List Element -> List (List Element)
  | 0, _ => []
  | count + 1, list => list.take size :: pieces size count (list.drop size)

/-- All pieces, of which the last may be short: the loop goes on as long as a
piece begins within the list. -/
def everyPiece (size : Nat) (list : List Element) : List (List Element) :=
  pieces size ((list.length + size - 1) / size) list

/-- The pieces of full size: the loop goes on as long as a piece ends within
the list. -/
def wholePieces (size : Nat) (list : List Element) : List (List Element) := pieces size (list.length / size) list

/-- Pieces that are filled up make the list with the filling behind it. -/
theorem flatten_filled_pieces (filling : Element) {count : Nat} {list : List Element}
    (enough : list.length ≤ count * size) :
    ((pieces size count list).map (List.rightpad size filling)).flatten =
      list ++ List.replicate (count * size - list.length) filling := by
  induction count generalizing list with
  | zero =>
    have isEmpty : list = [] := List.eq_nil_of_length_eq_zero (by omega)
    rw [isEmpty]
    simp [pieces]
  | succ count inductionHypothesis =>
    rw [Nat.succ_mul] at enough
    have rest : (list.drop size).length ≤ count * size := by
      rw [List.length_drop]
      omega
    rw [pieces, List.map_cons, List.flatten_cons, inductionHypothesis rest, List.rightpad, List.length_take,
      List.length_drop, Nat.succ_mul]
    by_cases long : size ≤ list.length
    · have noFilling : size - min size list.length = 0 := by omega
      have sameFilling : count * size - (list.length - size) = count * size + size - list.length := by omega
      rw [noFilling, List.replicate_zero, List.append_nil, ← List.append_assoc, List.take_append_drop, sameFilling]
    · have short : list.length ≤ size := by omega
      have fillings : size - min size list.length + (count * size - (list.length - size)) =
          count * size + size - list.length := by omega
      rw [List.take_of_length_le short, List.drop_of_length_le short, List.nil_append, List.append_assoc,
        List.replicate_append_replicate, fillings]

theorem everyPiece_reaches (positive : 0 < size) (list : List Element) :
    list.length ≤ (list.length + size - 1) / size * size := by
  have divided := Nat.div_add_mod (list.length + size - 1) size
  have remainder := Nat.mod_lt (list.length + size - 1) positive
  rw [Nat.mul_comm] at divided
  omega

/-- The filling is shorter than a piece. -/
theorem flatten_filled_everyPiece (filling : Element) (positive : 0 < size) (list : List Element) :
    Exists fun count => count < size ∧
      ((everyPiece size list).map (List.rightpad size filling)).flatten = list ++ List.replicate count filling := by
  have below := Nat.div_mul_le_self (list.length + size - 1) size
  refine ⟨_, ?_, flatten_filled_pieces filling (everyPiece_reaches positive list)⟩
  omega

/-- Rows of one size are the pieces of the list that they make. -/
theorem pieces_flatten {rows : List (List Element)} (full : forall row, row ∈ rows -> row.length = size)
    (rest : List Element) : pieces size rows.length (rows.flatten ++ rest) = rows := by
  induction rows with
  | nil => rfl
  | cons row later inductionHypothesis =>
    have isFull : row.length = size := full row List.mem_cons_self
    rw [List.length_cons, pieces, List.flatten_cons, List.append_assoc, List.take_left' isFull,
      List.drop_left' isFull, inductionHypothesis (fun other member => full other (List.mem_cons_of_mem row member))]

theorem length_flatten_rows {rows : List (List Element)} (full : forall row, row ∈ rows -> row.length = size) :
    rows.flatten.length = rows.length * size := by
  induction rows with
  | nil => simp
  | cons row later inductionHypothesis =>
    rw [List.flatten_cons, List.length_append, full row List.mem_cons_self,
      inductionHypothesis (fun other member => full other (List.mem_cons_of_mem row member)), List.length_cons,
      Nat.succ_mul, Nat.add_comm]

/-- What is left over behind the last full row does not show. -/
theorem wholePieces_flatten {rows : List (List Element)} (full : forall row, row ∈ rows -> row.length = size)
    {rest : List Element} (short : rest.length < size) : wholePieces size (rows.flatten ++ rest) = rows := by
  have count : (rows.flatten ++ rest).length / size = rows.length := by
    rw [List.length_append, length_flatten_rows full, Nat.mul_comm, Nat.mul_add_div (by omega),
      Nat.div_eq_of_lt short, Nat.add_zero]
  rw [wholePieces, count, pieces_flatten full]

/-- The pieces of a list make it up again. -/
theorem flatten_pieces {count : Nat} {list : List Element} (enough : list.length ≤ count * size) :
    (pieces size count list).flatten = list := by
  induction count generalizing list with
  | zero =>
    have isEmpty : list.length = 0 := by omega
    exact (List.eq_nil_of_length_eq_zero isEmpty).symm
  | succ count inductionHypothesis =>
    rw [Nat.succ_mul] at enough
    have rest : (list.drop size).length ≤ count * size := by
      rw [List.length_drop]
      omega
    rw [pieces, List.flatten_cons, inductionHypothesis rest, List.take_append_drop]

theorem flatten_everyPiece (positive : 0 < size) (list : List Element) : (everyPiece size list).flatten = list :=
  flatten_pieces (everyPiece_reaches positive list)

theorem mem_pieces {count : Nat} {list piece : List Element} (member : piece ∈ pieces size count list) :
    piece.length ≤ size ∧ forall element, element ∈ piece -> element ∈ list := by
  induction count generalizing list with
  | zero => cases member
  | succ count inductionHypothesis =>
    rcases List.mem_cons.mp member with rfl | later
    · refine ⟨List.length_take_le size list, ?_⟩
      intro element inPiece
      exact List.mem_of_mem_take inPiece
    · rcases inductionHypothesis later with ⟨short, within⟩
      exact ⟨short, fun element inPiece => List.mem_of_mem_drop (within element inPiece)⟩

end Pieces

/-! ## Numbers of another width -/

/-- The numbers that the pieces of a text of bits write, the last piece filled
up with zeros. -/
def groups (size : Nat) (bits : List Char) : List Nat :=
  (everyPiece size bits).map (fun piece => ofBinary (piece.rightpad size '0'))

/-- The numbers that the pieces of full size write. -/
def wholeGroups (size : Nat) (bits : List Char) : List Nat := (wholePieces size bits).map ofBinary

variable {size width : Nat}

theorem isBinary_flatMap (width : Nat) (numbers : List Nat) : IsBinary (numbers.flatMap (binary width)) := by
  intro bit member
  rcases List.mem_flatMap.mp member with ⟨number, _, inNumber⟩
  exact isBinary_binary width number bit inNumber

/-- A filled piece of bits has full size. -/
theorem filled_piece {piece : List Char} (digits : IsBinary bits) (member : piece ∈ everyPiece size bits) :
    (piece.rightpad size '0').length = size ∧ IsBinary (piece.rightpad size '0') := by
  rcases mem_pieces member with ⟨short, within⟩
  constructor
  · rw [List.length_rightpad, Nat.max_eq_left short]
  · intro bit inFilled
    rcases List.mem_append.mp inFilled with inPiece | filling
    · exact digits bit (within bit inPiece)
    · exact Or.inl (List.eq_of_mem_replicate filling)

theorem groups_lt (digits : IsBinary bits) {group : Nat} (member : group ∈ groups size bits) :
    group < 2 ^ size := by
  rcases List.mem_map.mp member with ⟨piece, inPieces, rfl⟩
  rcases filled_piece digits inPieces with ⟨isSize, filledDigits⟩
  have small := ofBinary_lt filledDigits
  rwa [isSize] at small

/-- The groups hold the bits, and fewer zeros behind them than one group has. -/
theorem flatMap_groups (digits : IsBinary bits) (positive : 0 < size) :
    Exists fun count => count < size ∧
      (groups size bits).flatMap (binary size) = bits ++ List.replicate count '0' := by
  rcases flatten_filled_everyPiece '0' positive bits with ⟨count, short, flattened⟩
  refine ⟨count, short, ?_⟩
  rw [groups, List.flatMap_map, ← flattened, List.flatMap_def]
  apply congrArg List.flatten
  apply List.map_congr_left
  intro piece inPieces
  rcases filled_piece digits inPieces with ⟨isSize, filledDigits⟩
  exact binary_ofBinary filledDigits positive isSize

/-- Numbers regrouped to no larger width are read back. -/
theorem wholeGroups_groups {numbers : List Nat} (fits : forall number, number ∈ numbers -> number < 2 ^ width)
    (positive : 0 < size) (narrower : size ≤ width) :
    wholeGroups width ((groups size (numbers.flatMap (binary width))).flatMap (binary size)) = numbers := by
  rcases flatMap_groups (isBinary_flatMap width numbers) positive with ⟨count, short, regrouped⟩
  have full : forall row, row ∈ numbers.map (binary width) -> row.length = width := by
    intro row member
    rcases List.mem_map.mp member with ⟨number, listed, rfl⟩
    exact length_binary (by omega) (fits number listed)
  have remainder : (List.replicate count '0').length < width := by
    rw [List.length_replicate]
    omega
  rw [regrouped, List.flatMap_def, wholeGroups, wholePieces_flatten full remainder, List.map_map]
  have sameNumbers : ofBinary ∘ binary width = id := funext (ofBinary_binary width)
  rw [sameNumbers, List.map_id]

end Foundation
end DigitalSolutions
