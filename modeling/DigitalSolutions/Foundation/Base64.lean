import Mathlib

namespace DigitalSolutions
namespace Foundation

/-!
# Base64

Bytes are regrouped into digits of six bits.  The two alphabets differ in
their last two digits and in padding.  The decoder is the lenient one of
Node: it takes both alphabets, stops at the first padding character and skips
what is no digit.
-/

/-- The six-bit digits of a run of bytes; a last short group is filled up with
zero bits. -/
def sextets : List UInt8 -> List Nat
  | [] => []
  | [first] => [first.toNat / 4, first.toNat % 4 * 16]
  | [first, second] =>
    [first.toNat / 4, first.toNat % 4 * 16 + second.toNat / 16, second.toNat % 16 * 4]
  | first :: second :: third :: rest =>
    first.toNat / 4 :: (first.toNat % 4 * 16 + second.toNat / 16) ::
      (second.toNat % 16 * 4 + third.toNat / 64) :: third.toNat % 64 :: sextets rest

/-- The bytes that six-bit digits hold; the bits of a last incomplete byte are
dropped. -/
def ofSextets : List Nat -> List UInt8
  | first :: second :: third :: fourth :: rest =>
    UInt8.ofNat (first * 4 + second / 16) :: UInt8.ofNat (second % 16 * 16 + third / 4) ::
      UInt8.ofNat (third % 4 * 64 + fourth) :: ofSextets rest
  | [first, second, third] =>
    [UInt8.ofNat (first * 4 + second / 16), UInt8.ofNat (second % 16 * 16 + third / 4)]
  | [first, second] => [UInt8.ofNat (first * 4 + second / 16)]
  | _ => []

theorem ofSextets_sextets (bytes : List UInt8) : ofSextets (sextets bytes) = bytes := by
  have whole : forall {byte : UInt8} {value : Nat}, value = byte.toNat -> UInt8.ofNat value = byte := by
    rintro byte _ rfl
    exact UInt8.ofNat_toNat
  induction bytes using sextets.induct with
  | case1 => rfl
  | case2 first =>
    simp only [sextets, ofSextets]
    rw [whole (show _ = first.toNat by omega)]
  | case3 first second =>
    have := second.toNat_lt
    simp only [sextets, ofSextets]
    rw [whole (show _ = first.toNat by omega), whole (show _ = second.toNat by omega)]
  | case4 first second third rest inductionHypothesis =>
    have := second.toNat_lt
    have := third.toNat_lt
    simp only [sextets, ofSextets, inductionHypothesis]
    rw [whole (show _ = first.toNat by omega), whole (show _ = second.toNat by omega),
      whole (show _ = third.toNat by omega)]

theorem sextets_lt {bytes : List UInt8} {sextet : Nat} (member : sextet ∈ sextets bytes) : sextet < 64 := by
  induction bytes using sextets.induct with
  | case1 => exact absurd member List.not_mem_nil
  | case2 first =>
    have := first.toNat_lt
    simp only [sextets, List.mem_cons, List.not_mem_nil, or_false] at member
    omega
  | case3 first second =>
    have := first.toNat_lt
    have := second.toNat_lt
    simp only [sextets, List.mem_cons, List.not_mem_nil, or_false] at member
    omega
  | case4 first second third rest inductionHypothesis =>
    have := first.toNat_lt
    have := second.toNat_lt
    have := third.toNat_lt
    simp only [sextets, List.mem_cons] at member
    rcases member with same | same | same | same | later
    · omega
    · omega
    · omega
    · omega
    · exact inductionHypothesis later

/-! ## The alphabets -/

def base64Digit (sextet : Nat) : Char :=
  if sextet < 26 then Char.ofNat (65 + sextet)
  else if sextet < 52 then Char.ofNat (71 + sextet)
  else if sextet < 62 then Char.ofNat (sextet - 4)
  else if sextet = 62 then '+' else '/'

def base64urlDigit (sextet : Nat) : Char :=
  if sextet = 62 then '-' else if sextet = 63 then '_' else base64Digit sextet

/-- The digit a character stands for in either alphabet. -/
def sextetOf (character : Char) : Option Nat :=
  if 'A' ≤ character ∧ character ≤ 'Z' then some (character.toNat - 65)
  else if 'a' ≤ character ∧ character ≤ 'z' then some (character.toNat - 71)
  else if '0' ≤ character ∧ character ≤ '9' then some (character.toNat + 4)
  else if character = '+' ∨ character = '-' then some 62
  else if character = '/' ∨ character = '_' then some 63
  else none

/-- The digits of an alphabet are read back and are no padding. -/
def ReadsBack (digit : Nat -> Char) : Prop :=
  forall sextet, sextet < 64 -> sextetOf (digit sextet) = some sextet ∧ digit sextet ≠ '='

theorem readsBack_base64Digit : ReadsBack base64Digit := by
  intro sextet small
  revert sextet
  decide

theorem readsBack_base64urlDigit : ReadsBack base64urlDigit := by
  intro sextet small
  revert sextet
  decide

def padding (bytes : List UInt8) : List Char :=
  match bytes.length % 3 with
  | 1 => ['=', '=']
  | 2 => ['=']
  | _ => []

/-- `bytes.toString("base64")`. -/
def base64Text (bytes : List UInt8) : String :=
  String.ofList ((sextets bytes).map base64Digit ++ padding bytes)

/-- `bytes.toString("base64url")`. -/
def base64urlText (bytes : List UInt8) : String := String.ofList ((sextets bytes).map base64urlDigit)

/-- `Buffer.from(text, "base64")`. -/
def base64Bytes (text : String) : List UInt8 :=
  ofSextets ((text.toList.takeWhile (fun character => character ≠ '=')).filterMap sextetOf)

theorem filterMap_sextetOf {digit : Nat -> Char} (readsBack : ReadsBack digit) {digits : List Nat}
    (small : forall sextet, sextet ∈ digits -> sextet < 64) :
    (digits.map digit).filterMap sextetOf = digits := by
  rw [List.filterMap_map]
  have same : digits.filterMap (sextetOf ∘ digit) = digits.filterMap some :=
    List.filterMap_congr (fun sextet member => (readsBack sextet (small sextet member)).1)
  rw [same, List.filterMap_some]

theorem base64Bytes_digits {digit : Nat -> Char} (readsBack : ReadsBack digit) (bytes : List UInt8)
    {filling : List Char} (filled : filling.head?.all (fun character => character = '=') = true) :
    base64Bytes (String.ofList ((sextets bytes).map digit ++ filling)) = bytes := by
  have digits : forall character, character ∈ (sextets bytes).map digit -> decide (character ≠ '=') = true := by
    intro character member
    rcases List.mem_map.mp member with ⟨sextet, listed, rfl⟩
    exact decide_eq_true (readsBack sextet (sextets_lt listed)).2
  have stops : filling.takeWhile (fun character => character ≠ '=') = [] := by
    cases filling with
    | nil => rfl
    | cons first rest =>
      have isPadding : first = '=' := by simpa using filled
      simp [isPadding]
  unfold base64Bytes
  rw [String.toList_ofList, List.takeWhile_append_of_pos digits, stops, List.append_nil,
    filterMap_sextetOf readsBack (fun _ => sextets_lt), ofSextets_sextets]

theorem base64Bytes_base64Text (bytes : List UInt8) : base64Bytes (base64Text bytes) = bytes := by
  apply base64Bytes_digits readsBack_base64Digit
  unfold padding
  split <;> rfl

theorem base64Bytes_base64urlText (bytes : List UInt8) : base64Bytes (base64urlText bytes) = bytes := by
  have read := base64Bytes_digits readsBack_base64urlDigit bytes (rfl : ([] : List Char).head?.all _ = true)
  rwa [List.append_nil] at read

end Foundation
end DigitalSolutions
