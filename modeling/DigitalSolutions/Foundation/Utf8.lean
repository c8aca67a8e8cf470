import Mathlib

namespace DigitalSolutions
namespace Foundation

/-!
# Text in UTF-8

The decoder takes any bytes: where no character can be read it puts the
replacement character.
-/

def utf8Bytes (text : String) : List UInt8 := text.toList.flatMap String.utf8EncodeChar

/-- A character that is read so far: how many bytes it needs, the bits it has
and the range of its next byte. -/
structure Unfinished where
  needed : Nat
  code : Nat
  lower : Nat
  upper : Nat
  deriving DecidableEq

def replacementCharacter : Char := Char.ofNat 0xFFFD

/-- A byte where a character begins. -/
def beginCharacter (byte : Nat) : List Char × Option Unfinished :=
  if byte < 0x80 then ([Char.ofNat byte], none)
  else if byte < 0xC2 then ([replacementCharacter], none)
  else if byte < 0xE0 then ([], some ⟨1, byte - 0xC0, 0x80, 0xBF⟩)
  else if byte < 0xF0 then
    ([], some ⟨2, byte - 0xE0, if byte = 0xE0 then 0xA0 else 0x80, if byte = 0xED then 0x9F else 0xBF⟩)
  else if byte < 0xF5 then
    ([], some ⟨3, byte - 0xF0, if byte = 0xF0 then 0x90 else 0x80, if byte = 0xF4 then 0x8F else 0xBF⟩)
  else ([replacementCharacter], none)

/-- A byte that does not continue a character begins another one. -/
def decodeByte (byte : Nat) : Option Unfinished -> List Char × Option Unfinished
  | none => beginCharacter byte
  | some unfinished =>
    if unfinished.lower ≤ byte ∧ byte ≤ unfinished.upper then
      let code := 64 * unfinished.code + (byte - 0x80)
      if unfinished.needed = 1 then ([Char.ofNat code], none)
      else ([], some ⟨unfinished.needed - 1, code, 0x80, 0xBF⟩)
    else (replacementCharacter :: (beginCharacter byte).1, (beginCharacter byte).2)

def decodeFrom : Option Unfinished -> List UInt8 -> List Char
  | none, [] => []
  | some _, [] => [replacementCharacter]
  | state, byte :: rest => (decodeByte byte.toNat state).1 ++ decodeFrom (decodeByte byte.toNat state).2 rest

/-- `Buffer.toString("utf8")`. -/
def utf8Text (bytes : List UInt8) : String := String.ofList (decodeFrom none bytes)

/-! ## What was encoded is decoded -/

variable {needed code lower upper : Nat} {rest : List UInt8}

theorem decodeFrom_cons (state : Option Unfinished) (value : Nat) (small : value < 256) :
    decodeFrom state (UInt8.ofNat value :: rest) =
      (decodeByte value state).1 ++ decodeFrom (decodeByte value state).2 rest := by
  have isValue : (UInt8.ofNat value).toNat = value := by
    rw [UInt8.toNat_ofNat']
    exact Nat.mod_eq_of_lt small
  cases state with
  | none => rw [decodeFrom, isValue]
  | some unfinished => rw [decodeFrom, isValue]

/-- A byte in the range goes on with its character. -/
theorem decodeFrom_more {value : Nat} (small : value < 64) (above : lower ≤ value + 0x80)
    (below : value + 0x80 ≤ upper) :
    decodeFrom (some ⟨needed + 2, code, lower, upper⟩) (UInt8.ofNat (value + 0x80) :: rest) =
      decodeFrom (some ⟨needed + 1, 64 * code + value, 0x80, 0xBF⟩) rest := by
  have step : decodeByte (value + 0x80) (some ⟨needed + 2, code, lower, upper⟩) =
      ([], some ⟨needed + 1, 64 * code + value, 0x80, 0xBF⟩) := by
    rw [decodeByte, if_pos ⟨above, below⟩, if_neg (Nat.succ_succ_ne_one needed), Nat.add_sub_cancel]
    rfl
  rw [decodeFrom_cons _ _ (by omega), step, List.nil_append]

/-- The last byte of a character completes it. -/
theorem decodeFrom_last {value : Nat} (small : value < 64) (above : lower ≤ value + 0x80)
    (below : value + 0x80 ≤ upper) :
    decodeFrom (some ⟨1, code, lower, upper⟩) (UInt8.ofNat (value + 0x80) :: rest) =
      Char.ofNat (64 * code + value) :: decodeFrom none rest := by
  have step : decodeByte (value + 0x80) (some ⟨1, code, lower, upper⟩) =
      ([Char.ofNat (64 * code + value)], none) := by
    rw [decodeByte, if_pos ⟨above, below⟩, if_pos rfl, Nat.add_sub_cancel]
  rw [decodeFrom_cons _ _ (by omega), step, List.singleton_append]

theorem decodeFrom_first {value : Nat} (small : value < 256) {unfinished : Unfinished}
    (begins : beginCharacter value = ([], some unfinished)) :
    decodeFrom none (UInt8.ofNat value :: rest) = decodeFrom (some unfinished) rest := by
  rw [decodeFrom_cons _ _ small, decodeByte, begins, List.nil_append]

theorem begin_two {value : Nat} (above : 2 ≤ value) (below : value < 32) :
    beginCharacter (value + 0xC0) = ([], some ⟨1, value, 0x80, 0xBF⟩) := by
  rw [beginCharacter, if_neg (by omega), if_neg (by omega), if_pos (by omega), Nat.add_sub_cancel]

theorem begin_three {value : Nat} (below : value < 16) :
    beginCharacter (value + 0xE0) =
      ([], some ⟨2, value, if value = 0 then 0xA0 else 0x80, if value = 13 then 0x9F else 0xBF⟩) := by
  have isFirst : value + 0xE0 = 0xE0 ↔ value = 0 := by omega
  have isThirteenth : value + 0xE0 = 0xED ↔ value = 13 := by omega
  rw [beginCharacter, if_neg (by omega), if_neg (by omega), if_neg (by omega), if_pos (by omega),
    Nat.add_sub_cancel]
  simp only [isFirst, isThirteenth]

theorem begin_four {value : Nat} (below : value < 5) :
    beginCharacter (value + 0xF0) =
      ([], some ⟨3, value, if value = 0 then 0x90 else 0x80, if value = 4 then 0x8F else 0xBF⟩) := by
  have isFirst : value + 0xF0 = 0xF0 ↔ value = 0 := by omega
  have isFourth : value + 0xF0 = 0xF4 ↔ value = 4 := by omega
  rw [beginCharacter, if_neg (by omega), if_neg (by omega), if_neg (by omega), if_neg (by omega),
    if_pos (by omega), Nat.add_sub_cancel]
  simp only [isFirst, isFourth]

theorem scalar_code (character : Char) :
    character.toNat < 0xD800 ∨ 0xDFFF < character.toNat ∧ character.toNat < 0x110000 := character.valid

theorem decodeFrom_character (character : Char) (rest : List UInt8) :
    decodeFrom none (String.utf8EncodeChar character ++ rest) = character :: decodeFrom none rest := by
  have scalar := scalar_code character
  have isCode : character.val.toNat = character.toNat := rfl
  have same : Char.ofNat character.toNat = character := Char.ofNat_toNat character
  unfold String.utf8EncodeChar
  rw [isCode]
  generalize character.toNat = code at scalar same
  rw [← same]
  dsimp only
  split
  · rename_i one
    rw [List.singleton_append, decodeFrom_cons _ _ (by omega), decodeByte, beginCharacter, if_pos (by omega)]
    rfl
  · split
    · rename_i two
      have sameCode : 64 * (code / 64 % 32) + code % 64 = code := by omega
      rw [List.cons_append, List.cons_append, List.nil_append,
        decodeFrom_first (by omega) (begin_two (by omega) (by omega)),
        decodeFrom_last (by omega) (by omega) (by omega), sameCode]
    · split
      · rename_i three
        have sameCode : 64 * (64 * (code / 4096 % 16) + code / 64 % 64) + code % 64 = code := by omega
        rw [List.cons_append, List.cons_append, List.cons_append, List.nil_append,
          decodeFrom_first (by omega) (begin_three (by omega)),
          decodeFrom_more (by omega) (by split <;> omega) (by split <;> omega),
          decodeFrom_last (by omega) (by omega) (by omega), sameCode]
      · have sameCode :
            64 * (64 * (64 * (code / 262144 % 8) + code / 4096 % 64) + code / 64 % 64) + code % 64 = code := by
          omega
        rw [List.cons_append, List.cons_append, List.cons_append, List.cons_append, List.nil_append,
          decodeFrom_first (by omega) (begin_four (by omega)),
          decodeFrom_more (by omega) (by split <;> omega) (by split <;> omega),
          decodeFrom_more (by omega) (by omega) (by omega),
          decodeFrom_last (by omega) (by omega) (by omega), sameCode]

theorem decodeFrom_encoded (characters : List Char) :
    decodeFrom none (characters.flatMap String.utf8EncodeChar) = characters := by
  induction characters with
  | nil => rfl
  | cons character rest inductionHypothesis =>
    rw [List.flatMap_cons, decodeFrom_character, inductionHypothesis]

theorem utf8Text_utf8Bytes (text : String) : utf8Text (utf8Bytes text) = text := by
  rw [utf8Text, utf8Bytes, decodeFrom_encoded, String.ofList_toList]

theorem utf8Bytes_injective {left right : String} (same : utf8Bytes left = utf8Bytes right) : left = right := by
  rw [← utf8Text_utf8Bytes left, ← utf8Text_utf8Bytes right, same]

end Foundation
end DigitalSolutions
