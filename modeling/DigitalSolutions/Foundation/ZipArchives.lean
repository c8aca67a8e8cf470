import DigitalSolutions.Foundation.ByteBuffers

namespace DigitalSolutions
namespace Foundation
namespace Zip

/-!
# Archives

An archive ends with a record that says where its central directory is.  The
record is found from the end: its last field is the length of the comment that
follows it, and nothing follows the comment.
-/

def entrySignature : Nat := 0x02014b50

def endSignature : Nat := 0x06054b50

/-! ## The format -/

/-- An entry of the central directory. -/
structure Entry where
  /-- From the version that made the entry to its uncompressed size. -/
  header : List UInt8
  /-- From the disk of the entry to the offset of its local header. -/
  attributes : List UInt8
  name : List UInt8
  extra : List UInt8
  comment : List UInt8
  header_length : header.length = 24
  attributes_length : attributes.length = 12
  name_fits : name.length < 256 ^ 2
  extra_fits : extra.length < 256 ^ 2
  comment_fits : comment.length < 256 ^ 2

def Entry.encode (entry : Entry) : List UInt8 :=
  littleEndian 4 entrySignature ++ (entry.header ++
    (littleEndian 2 entry.name.length ++ (littleEndian 2 entry.extra.length ++
      (littleEndian 2 entry.comment.length ++ (entry.attributes ++
        (entry.name ++ (entry.extra ++ entry.comment)))))))

/-- An archive without the extension for large ones. -/
structure Archive where
  /-- What stands in front of the directory, the entries themselves among it. -/
  body : List UInt8
  entries : List Entry
  comment : List UInt8
  entries_fit : entries.length < 256 ^ 2 - 1
  directory_fits : (entries.flatMap Entry.encode).length < 256 ^ 4 - 1
  body_fits : body.length < 256 ^ 4 - 1
  comment_fits : comment.length < 256 ^ 2

namespace Archive

variable (archive : Archive)

def directory : List UInt8 := archive.entries.flatMap Entry.encode

def endRecord : List UInt8 :=
  littleEndian 4 endSignature ++ (littleEndian 2 0 ++ (littleEndian 2 0 ++
    (littleEndian 2 archive.entries.length ++ (littleEndian 2 archive.entries.length ++
      (littleEndian 4 archive.directory.length ++ (littleEndian 4 archive.body.length ++
        littleEndian 2 archive.comment.length))))))

def encode : List UInt8 := archive.body ++ (archive.directory ++ (archive.endRecord ++ archive.comment))

/-- Where the record at the end begins. -/
def endOffset : Nat := archive.body.length + archive.directory.length

end Archive

/-! ## Records in bytes -/

/-- At the offset stands a record whose comment is the rest of the bytes. -/
structure EndsAt (bytes : List UInt8) (offset : Nat) : Prop where
  signature : readLittleEndian 4 bytes offset = some endSignature
  comment : Exists fun length =>
    readLittleEndian 2 bytes (offset + 20) = some length ∧ offset + 22 + length = bytes.length

/-- The record that is found from the end. -/
structure LastEnd (bytes : List UInt8) (offset : Nat) : Prop where
  ends : EndsAt bytes offset
  last : forall later, offset < later -> ¬ EndsAt bytes later

/-- The fields of a record at the end. -/
structure EndFields where
  disk : Nat
  directoryDisk : Nat
  diskEntries : Nat
  entries : Nat
  directorySize : Nat
  directoryOffset : Nat
  deriving DecidableEq

structure EndFieldsAt (bytes : List UInt8) (offset : Nat) (fields : EndFields) : Prop where
  disk : readLittleEndian 2 bytes (offset + 4) = some fields.disk
  directoryDisk : readLittleEndian 2 bytes (offset + 6) = some fields.directoryDisk
  diskEntries : readLittleEndian 2 bytes (offset + 8) = some fields.diskEntries
  entries : readLittleEndian 2 bytes (offset + 10) = some fields.entries
  directorySize : readLittleEndian 4 bytes (offset + 12) = some fields.directorySize
  directoryOffset : readLittleEndian 4 bytes (offset + 16) = some fields.directoryOffset

/-- At the offset stands an entry with this name, and another may follow. -/
structure EntryAt (bytes : List UInt8) (offset : Nat) (name : List UInt8) (next : Nat) : Prop where
  fixed : offset + 46 ≤ bytes.length
  signature : readLittleEndian 4 bytes offset = some entrySignature
  lengths : Exists fun nameLength => Exists fun extraLength => Exists fun commentLength =>
    readLittleEndian 2 bytes (offset + 28) = some nameLength ∧
    readLittleEndian 2 bytes (offset + 30) = some extraLength ∧
    readLittleEndian 2 bytes (offset + 32) = some commentLength ∧
    name = slice bytes (offset + 46) (offset + 46 + nameLength) ∧
    next = offset + 46 + nameLength + extraLength + commentLength
  within : next ≤ bytes.length

/-- One of so many entries from the offset on has a name with the property. -/
inductive NamedFrom (bytes : List UInt8) (named : List UInt8 -> Prop) : Nat -> Nat -> Prop
  | here {offset next count : Nat} {name : List UInt8} (entry : EntryAt bytes offset name next)
    (isNamed : named name) : NamedFrom bytes named offset (count + 1)
  | later {offset next count : Nat} {name : List UInt8} (entry : EntryAt bytes offset name next)
    (rest : NamedFrom bytes named next count) : NamedFrom bytes named offset (count + 1)

variable {bytes : List UInt8} {offset other start : Nat}

theorem LastEnd.unique (left : LastEnd bytes offset) (right : LastEnd bytes other) : offset = other := by
  rcases Nat.lt_trichotomy offset other with before | same | after
  · exact absurd right.ends (left.last other before)
  · exact same
  · exact absurd left.ends (right.last offset after)

theorem EndsAt.within (ends : EndsAt bytes offset) : offset + 22 ≤ bytes.length := by
  rcases ends.comment with ⟨length, _, isEnd⟩
  omega

/-- The rest of some bytes has the records that stand in it. -/
theorem endsAt_drop (within : start ≤ bytes.length) :
    EndsAt (bytes.drop start) offset ↔ EndsAt bytes (start + offset) := by
  have bound : forall length : Nat, offset + 22 + length = (bytes.drop start).length ↔
      start + offset + 22 + length = bytes.length := by
    intro length
    rw [List.length_drop]
    omega
  constructor
  · rintro ⟨signature, length, comment, isEnd⟩
    rw [readLittleEndian_drop _ _ within] at signature comment
    exact ⟨signature, length, comment, (bound length).mp isEnd⟩
  · rintro ⟨signature, length, comment, isEnd⟩
    refine ⟨?_, length, ?_, (bound length).mpr isEnd⟩
    · rw [readLittleEndian_drop _ _ within]
      exact signature
    · rw [readLittleEndian_drop _ _ within]
      exact comment

theorem lastEnd_drop (within : start ≤ bytes.length) :
    LastEnd (bytes.drop start) offset ↔ LastEnd bytes (start + offset) := by
  constructor
  · rintro ⟨ends, last⟩
    refine ⟨(endsAt_drop within).mp ends, ?_⟩
    intro later after laterEnds
    have sameLater : start + (later - start) = later := by omega
    apply last (later - start) (by omega)
    rw [endsAt_drop within, sameLater]
    exact laterEnds
  · rintro ⟨ends, last⟩
    refine ⟨(endsAt_drop within).mpr ends, ?_⟩
    intro later after laterEnds
    exact last (start + later) (by omega) ((endsAt_drop within).mp laterEnds)

/-- A record stands in what can be a record with its comment at the end. -/
theorem EndsAt.near (ends : EndsAt bytes offset) : bytes.length ≤ offset + 22 + 65535 := by
  rcases ends.comment with ⟨length, read, isEnd⟩
  have small : length < 256 ^ 2 := lt_of_readLittleEndian read
  omega

theorem endFieldsAt_drop (within : start ≤ bytes.length) {fields : EndFields} :
    EndFieldsAt (bytes.drop start) offset fields ↔ EndFieldsAt bytes (start + offset) fields := by
  constructor
  · rintro ⟨disk, directoryDisk, diskEntries, entries, directorySize, directoryOffset⟩
    rw [readLittleEndian_drop _ _ within] at disk directoryDisk diskEntries entries directorySize directoryOffset
    exact ⟨disk, directoryDisk, diskEntries, entries, directorySize, directoryOffset⟩
  · rintro ⟨disk, directoryDisk, diskEntries, entries, directorySize, directoryOffset⟩
    constructor <;> rw [readLittleEndian_drop _ _ within] <;> assumption

theorem EntryAt.unique {left right : List UInt8} {next following : Nat} (first : EntryAt bytes offset left next)
    (second : EntryAt bytes offset right following) : left = right ∧ next = following := by
  rcases first.lengths with ⟨_, _, _, name, extra, comment, isLeft, isNext⟩
  rcases second.lengths with ⟨_, _, _, otherName, otherExtra, otherComment, isRight, isFollowing⟩
  rw [name] at otherName
  rw [extra] at otherExtra
  rw [comment] at otherComment
  cases otherName
  cases otherExtra
  cases otherComment
  exact ⟨isLeft.trans isRight.symm, isNext.trans isFollowing.symm⟩

/-- Only what the first entry is named, or what one of the others is. -/
theorem namedFrom_succ_iff {named : List UInt8 -> Prop} {count next : Nat} {name : List UInt8}
    (entry : EntryAt bytes offset name next) :
    NamedFrom bytes named offset (count + 1) ↔ named name ∨ NamedFrom bytes named next count := by
  constructor
  · rintro (⟨first, isNamed⟩ | ⟨first, rest⟩)
    · rw [(entry.unique first).1]
      exact Or.inl isNamed
    · rw [(entry.unique first).2]
      exact Or.inr rest
  · rintro (isNamed | rest)
    · exact .here entry isNamed
    · exact .later entry rest

/-! ## What an archive holds -/

theorem Entry.length_encode (entry : Entry) :
    entry.encode.length = 46 + entry.name.length + entry.extra.length + entry.comment.length := by
  simp only [Entry.encode, List.length_append, length_littleEndian, entry.header_length, entry.attributes_length]
  omega

theorem Entry.entryAt (entry : Entry) (front rest : List UInt8) :
    EntryAt (front ++ (entry.encode ++ rest)) front.length entry.name (front.length + entry.encode.length) where
  fixed := by
    rw [List.length_append, List.length_append, entry.length_encode]
    omega
  signature := by
    rw [readLittleEndian_append_right 4 (Nat.le_refl _), Nat.sub_self, Entry.encode, List.append_assoc]
    exact readLittleEndian_written (by decide) _
  lengths := by
    have skipped : forall k, readLittleEndian 2 (front ++ (entry.encode ++ rest)) (front.length + k) =
        readLittleEndian 2 (entry.encode ++ rest) k := by
      intro k
      rw [readLittleEndian_append_right 2 (Nat.le_add_right _ _), Nat.add_sub_cancel_left]
    refine ⟨entry.name.length, entry.extra.length, entry.comment.length, ?_, ?_, ?_, ?_, ?_⟩
    · rw [skipped]
      simp only [Entry.encode, List.append_assoc, readLittleEndian_append_right, length_littleEndian,
        entry.header_length, Nat.reduceLeDiff, Nat.reduceSub]
      exact readLittleEndian_written entry.name_fits _
    · rw [skipped]
      simp only [Entry.encode, List.append_assoc, readLittleEndian_append_right, length_littleEndian,
        entry.header_length, Nat.reduceLeDiff, Nat.reduceSub]
      exact readLittleEndian_written entry.extra_fits _
    · rw [skipped]
      simp only [Entry.encode, List.append_assoc, readLittleEndian_append_right, length_littleEndian,
        entry.header_length, Nat.reduceLeDiff, Nat.reduceSub]
      exact readLittleEndian_written entry.comment_fits _
    · have stop : front.length + 46 + entry.name.length - front.length = entry.name.length + 46 := by omega
      rw [slice_append_right (Nat.le_add_right _ _), Nat.add_sub_cancel_left, stop]
      simp only [Entry.encode, List.append_assoc, slice_append_right, length_littleEndian,
        entry.header_length, entry.attributes_length, Nat.reduceLeDiff, Nat.reduceSub, Nat.reduceSubDiff]
      rw [slice_first]
    · rw [entry.length_encode]
      omega
  within := by
    rw [List.length_append, List.length_append]
    omega

/-- Among the entries of a directory, one is named so. -/
theorem namedFrom_entries_iff {named : List UInt8 -> Prop} (entries : List Entry) (front : List UInt8) :
    NamedFrom (front ++ entries.flatMap Entry.encode) named front.length entries.length ↔
      Exists fun entry => entry ∈ entries ∧ named entry.name := by
  induction entries generalizing front with
  | nil =>
    constructor
    · nofun
    · rintro ⟨_, member, _⟩
      cases member
  | cons entry rest inductionHypothesis =>
    have stands := entry.entryAt front (rest.flatMap Entry.encode)
    have later := inductionHypothesis (front ++ entry.encode)
    rw [List.append_assoc, List.length_append] at later
    rw [List.flatMap_cons, List.length_cons, namedFrom_succ_iff stands, later, List.exists_mem_cons_iff]

namespace Archive

variable (archive : Archive)

theorem length_endRecord : archive.endRecord.length = 22 := by
  simp only [endRecord, List.length_append, length_littleEndian]

theorem length_encode : archive.encode.length = archive.endOffset + 22 + archive.comment.length := by
  rw [encode, List.length_append, List.length_append, List.length_append, length_endRecord, endOffset]
  omega

theorem encode_end : archive.encode.drop archive.endOffset = archive.endRecord ++ archive.comment := by
  rw [encode, ← List.append_assoc]
  apply List.drop_left'
  exact List.length_append

theorem endOffset_le : archive.endOffset ≤ archive.encode.length := by
  rw [length_encode]
  omega

/-- What the record at the end tells. -/
def endFields : EndFields where
  disk := 0
  directoryDisk := 0
  diskEntries := archive.entries.length
  entries := archive.entries.length
  directorySize := archive.directory.length
  directoryOffset := archive.body.length

theorem endFieldsAt : EndFieldsAt archive.encode archive.endOffset archive.endFields := by
  have entriesFit : archive.entries.length < 256 ^ 2 := Nat.lt_of_lt_of_le archive.entries_fit (Nat.sub_le _ _)
  have directoryFits : archive.directory.length < 256 ^ 4 :=
    Nat.lt_of_lt_of_le archive.directory_fits (Nat.sub_le _ _)
  have bodyFits : archive.body.length < 256 ^ 4 := Nat.lt_of_lt_of_le archive.body_fits (Nat.sub_le _ _)
  have here : EndFieldsAt (archive.encode.drop archive.endOffset) 0 archive.endFields := by
    rw [encode_end]
    constructor
    all_goals
      simp only [endRecord, List.append_assoc, readLittleEndian_append_right, length_littleEndian,
        Nat.reduceLeDiff, Nat.reduceAdd, Nat.reduceSub]
    · exact readLittleEndian_written (by decide) _
    · exact readLittleEndian_written (by decide) _
    · exact readLittleEndian_written entriesFit _
    · exact readLittleEndian_written entriesFit _
    · exact readLittleEndian_written directoryFits _
    · exact readLittleEndian_written bodyFits _
  exact (endFieldsAt_drop archive.endOffset_le).mp here

theorem slice_directory :
    slice archive.encode archive.body.length (archive.body.length + archive.directory.length) =
      archive.directory := by
  rw [encode, slice_append_right (Nat.le_refl _), Nat.sub_self, Nat.add_sub_cancel_left, slice_first]

theorem named_iff {named : List UInt8 -> Prop} :
    NamedFrom archive.directory named 0 archive.entries.length ↔
      Exists fun entry => entry ∈ archive.entries ∧ named entry.name :=
  namedFrom_entries_iff archive.entries []

end Archive

end Zip
end Foundation
end DigitalSolutions
