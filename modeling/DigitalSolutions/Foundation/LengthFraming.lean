import DigitalSolutions.Foundation.ByteBuffers

namespace DigitalSolutions
namespace Foundation

/-!
# Streams of frames

A frame is its length, in four bytes with the most significant first, and so
many bytes.  A frame without bytes ends the stream.
-/

def bigEndian (width value : Nat) : List UInt8 := (littleEndian width value).reverse

def ofBigEndian (bytes : List UInt8) : Nat := ofLittleEndian bytes.reverse

theorem length_bigEndian (width value : Nat) : (bigEndian width value).length = width := by
  rw [bigEndian, List.length_reverse, length_littleEndian]

theorem ofBigEndian_bigEndian {width value : Nat} (fits : value < 256 ^ width) :
    ofBigEndian (bigEndian width value) = value := by
  rw [ofBigEndian, bigEndian, List.reverse_reverse, ofLittleEndian_littleEndian fits]

def frame (chunk : List UInt8) : List UInt8 := bigEndian 4 chunk.length ++ chunk

/-- The bytes of the frames up to the end, read by so many turns at most. -/
def unframe : Nat -> List UInt8 -> Option (List UInt8)
  | 0, _ => none
  | turns + 1, bytes =>
    if bytes.length < 4 then none
    else
      let length := ofBigEndian (bytes.take 4)
      let rest := bytes.drop 4
      if length = 0 then some []
      else if rest.length < length then none
      else (unframe turns (rest.drop length)).map fun later => rest.take length ++ later

/-- What a reader of the stream gets, when the stream has ended. -/
def decodeStream (bytes : List UInt8) : Option (List UInt8) := unframe (bytes.length + 1) bytes

theorem unframe_nil (turns : Nat) : unframe turns [] = none := by
  cases turns with
  | zero => rfl
  | succ turns => rfl

theorem unframe_frame {chunk : List UInt8} (fits : chunk.length < 256 ^ 4) (turns : Nat) (rest : List UInt8) :
    unframe (turns + 1) (frame chunk ++ rest) =
      if chunk = [] then some [] else (unframe turns rest).map fun later => chunk ++ later := by
  have isLength := length_bigEndian 4 chunk.length
  have room : ¬ (frame chunk ++ rest).length < 4 := by
    rw [frame, List.length_append, List.length_append, isLength]
    omega
  have first : (frame chunk ++ rest).take 4 = bigEndian 4 chunk.length := by
    rw [frame, List.append_assoc]
    exact List.take_left' isLength
  have second : (frame chunk ++ rest).drop 4 = chunk ++ rest := by
    rw [frame, List.append_assoc]
    exact List.drop_left' isLength
  have enough : ¬ (chunk ++ rest).length < chunk.length := by
    rw [List.length_append]
    omega
  rw [unframe, if_neg room]
  simp only [first, second, ofBigEndian_bigEndian fits, if_neg enough, List.length_eq_zero_iff, List.take_left,
    List.drop_left]

theorem unframe_frames {chunks : List (List UInt8)}
    (fits : forall chunk, chunk ∈ chunks -> chunk.length < 256 ^ 4) {turns : Nat} (enough : chunks.length < turns) :
    unframe turns (chunks.flatMap frame) =
      if [] ∈ chunks then some (chunks.takeWhile fun chunk => chunk ≠ []).flatten else none := by
  induction chunks generalizing turns with
  | nil => exact unframe_nil turns
  | cons chunk rest inductionHypothesis =>
    obtain ⟨more, rfl⟩ : Exists fun more => turns = more + 1 := ⟨turns - 1, by omega⟩
    have later := inductionHypothesis (fun other member => fits other (List.mem_cons_of_mem chunk member))
      (Nat.lt_of_succ_lt_succ enough)
    rw [List.flatMap_cons, unframe_frame (fits chunk List.mem_cons_self), later]
    by_cases empty : chunk = []
    · rw [if_pos empty, empty, if_pos List.mem_cons_self]
      rfl
    · have inRest : [] ∈ chunk :: rest ↔ [] ∈ rest := by
        rw [List.mem_cons]
        exact ⟨fun either => either.resolve_left fun same => empty same.symm, Or.inr⟩
      have taken : (chunk :: rest).takeWhile (fun chunk => chunk ≠ []) =
          chunk :: rest.takeWhile fun chunk => chunk ≠ [] :=
        List.takeWhile_cons_of_pos (decide_eq_true empty)
      simp only [if_neg empty, inRest, taken, List.flatten_cons]
      split
      · rfl
      · rfl

/-- A reader gets the chunks up to the first one that is empty. -/
theorem decodeStream_frames {chunks : List (List UInt8)}
    (fits : forall chunk, chunk ∈ chunks -> chunk.length < 256 ^ 4) :
    decodeStream (chunks.flatMap frame) =
      if [] ∈ chunks then some (chunks.takeWhile fun chunk => chunk ≠ []).flatten else none := by
  apply unframe_frames fits
  have longer : chunks.length ≤ (chunks.flatMap frame).length := by
    clear fits
    induction chunks with
    | nil => exact Nat.le_refl 0
    | cons chunk rest inductionHypothesis =>
      rw [List.flatMap_cons, List.length_append, frame, List.length_append, length_bigEndian, List.length_cons]
      omega
  omega

/-- The reader gets all there is exactly when nothing follows an empty chunk. -/
theorem takeWhile_flatten_iff {chunks source : List (List UInt8)} (begins : chunks <+: source) :
    (chunks.takeWhile fun chunk => chunk ≠ []).flatten = source.flatten ↔
      forall chunk, chunk ∈ source.drop (chunks.takeWhile fun chunk => chunk ≠ []).length -> chunk = [] := by
  obtain ⟨rest, isSource⟩ := (List.takeWhile_prefix fun chunk : List UInt8 => chunk ≠ []).trans begins
  rw [← isSource, List.drop_left, List.flatten_append]
  constructor
  · intro same
    have nothing : rest.flatten = [] := by
      apply List.length_eq_zero_iff.mp
      have lengths := congrArg List.length same
      rw [List.length_append] at lengths
      omega
    exact List.flatten_eq_nil_iff.mp nothing
  · intro empty
    rw [List.flatten_eq_nil_iff.mpr empty, List.append_nil]

end Foundation
end DigitalSolutions
