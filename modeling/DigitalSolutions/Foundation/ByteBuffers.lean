import Mathlib

namespace DigitalSolutions
namespace Foundation

/-!
# Byte buffers

Numbers are stored in a buffer in little-endian order.  A read that reaches
beyond the end of its buffer has no value.
-/

variable {bytes : List UInt8} {offset width : Nat}

/-- The bytes of a number, the least significant first. -/
def littleEndian : Nat -> Nat -> List UInt8
  | 0, _ => []
  | width + 1, value => UInt8.ofNat value :: littleEndian width (value / 256)

def ofLittleEndian : List UInt8 -> Nat
  | [] => 0
  | byte :: rest => byte.toNat + 256 * ofLittleEndian rest

@[simp] theorem length_littleEndian (width value : Nat) : (littleEndian width value).length = width := by
  induction width generalizing value with
  | zero => rfl
  | succ width inductionHypothesis => rw [littleEndian, List.length_cons, inductionHypothesis]

theorem ofLittleEndian_littleEndian {value : Nat} (fits : value < 256 ^ width) :
    ofLittleEndian (littleEndian width value) = value := by
  induction width generalizing value with
  | zero =>
    have isZero : value = 0 := by omega
    rw [isZero]
    rfl
  | succ width inductionHypothesis =>
    have smaller : value / 256 < 256 ^ width := by
      apply Nat.div_lt_of_lt_mul
      rw [pow_succ, Nat.mul_comm] at fits
      exact fits
    rw [littleEndian, ofLittleEndian, inductionHypothesis smaller, UInt8.toNat_ofNat']
    omega

theorem ofLittleEndian_lt (bytes : List UInt8) : ofLittleEndian bytes < 256 ^ bytes.length := by
  induction bytes with
  | nil => exact Nat.one_pos
  | cons byte rest inductionHypothesis =>
    have small : byte.toNat < 256 := byte.toNat_lt
    rw [ofLittleEndian, List.length_cons, pow_succ]
    omega

/-- The bytes from one position up to another. -/
def slice (bytes : List UInt8) (start stop : Nat) : List UInt8 := (bytes.drop start).take (stop - start)

theorem length_slice {start stop : Nat} (within : stop ≤ bytes.length) :
    (slice bytes start stop).length = stop - start := by
  rw [slice, List.length_take, List.length_drop]
  omega

theorem slice_first (front rest : List UInt8) : slice (front ++ rest) 0 front.length = front := by
  rw [slice, List.drop_zero, Nat.sub_zero, List.take_left]

theorem slice_append_right {front : List UInt8} {start : Nat} (reaches : front.length ≤ start)
    (rest : List UInt8) (stop : Nat) :
    slice (front ++ rest) start stop = slice rest (start - front.length) (stop - front.length) := by
  have sameLength : stop - front.length - (start - front.length) = stop - start := by omega
  rw [slice, slice, List.drop_append, List.drop_of_length_le reaches, List.nil_append, sameLength]

theorem slice_to_end (bytes : List UInt8) (start : Nat) : slice bytes start bytes.length = bytes.drop start := by
  rw [slice]
  apply List.take_of_length_le
  rw [List.length_drop]

/-- A number of the given width at a position. -/
def readLittleEndian (width : Nat) (bytes : List UInt8) (offset : Nat) : Option Nat :=
  if offset + width ≤ bytes.length then some (ofLittleEndian ((bytes.drop offset).take width)) else none

theorem readLittleEndian_isSome (within : offset + width ≤ bytes.length) :
    Exists fun value => readLittleEndian width bytes offset = some value :=
  ⟨_, if_pos within⟩

theorem within_of_readLittleEndian {value : Nat} (read : readLittleEndian width bytes offset = some value) :
    offset + width ≤ bytes.length := by
  unfold readLittleEndian at read
  split at read
  · assumption
  · cases read

theorem lt_of_readLittleEndian {value : Nat} (read : readLittleEndian width bytes offset = some value) :
    value < 256 ^ width := by
  have within := within_of_readLittleEndian read
  rw [readLittleEndian, if_pos within] at read
  have isWidth : ((bytes.drop offset).take width).length = width := by
    rw [List.length_take, List.length_drop]
    omega
  have small := ofLittleEndian_lt ((bytes.drop offset).take width)
  rw [isWidth] at small
  rw [← Option.some.inj read]
  exact small

theorem readLittleEndian_drop (width : Nat) (bytes : List UInt8) {start : Nat} (within : start ≤ bytes.length)
    (offset : Nat) :
    readLittleEndian width (bytes.drop start) offset = readLittleEndian width bytes (start + offset) := by
  have sameBound : offset + width ≤ (bytes.drop start).length ↔ start + offset + width ≤ bytes.length := by
    rw [List.length_drop]
    omega
  simp only [readLittleEndian, sameBound, List.drop_drop]

theorem readLittleEndian_append_right (width : Nat) {front : List UInt8} (reaches : front.length ≤ offset)
    (rest : List UInt8) :
    readLittleEndian width (front ++ rest) offset = readLittleEndian width rest (offset - front.length) := by
  have start : front.length ≤ (front ++ rest).length := by
    rw [List.length_append]
    omega
  have sameOffset : front.length + (offset - front.length) = offset := Nat.add_sub_cancel' reaches
  have skipped := readLittleEndian_drop width (front ++ rest) start (offset - front.length)
  rw [List.drop_left, sameOffset] at skipped
  exact skipped.symm

/-- A number that was written is read back. -/
theorem readLittleEndian_written {value : Nat} (fits : value < 256 ^ width) (rest : List UInt8) :
    readLittleEndian width (littleEndian width value ++ rest) 0 = some value := by
  have within : 0 + width ≤ (littleEndian width value ++ rest).length := by
    rw [List.length_append, length_littleEndian]
    omega
  have isWritten : (littleEndian width value ++ rest).take width = littleEndian width value := by
    apply List.take_left'
    exact length_littleEndian width value
  rw [readLittleEndian, if_pos within, List.drop_zero, isWritten, ofLittleEndian_littleEndian fits]

theorem readLittleEndian_append_left (width : Nat) {front : List UInt8}
    (within : offset + width ≤ front.length) (rest : List UInt8) :
    readLittleEndian width (front ++ rest) offset = readLittleEndian width front offset := by
  have room : offset + width ≤ (front ++ rest).length := by
    rw [List.length_append]
    omega
  have enough : width ≤ (front.drop offset).length := by
    rw [List.length_drop]
    omega
  rw [readLittleEndian, readLittleEndian, if_pos room, if_pos within, List.drop_append_of_le_length (by omega),
    List.take_append_of_le_length enough]

/-- What is read begins with its least significant byte. -/
theorem first_of_readLittleEndian {value : Nat}
    (read : readLittleEndian (width + 1) bytes offset = some value) :
    bytes[offset]? = some (UInt8.ofNat value) := by
  have within := within_of_readLittleEndian read
  rw [readLittleEndian, if_pos within] at read
  have inRange : offset < bytes.length := by omega
  rw [List.drop_eq_getElem_cons inRange, List.take_succ_cons, ofLittleEndian] at read
  rw [List.getElem?_eq_getElem inRange, ← Option.some.inj read]
  apply congrArg some
  apply UInt8.toNat_inj.mp
  have small : bytes[offset].toNat < 256 := bytes[offset].toNat_lt
  rw [UInt8.toNat_ofNat']
  omega

end Foundation
end DigitalSolutions
