import DigitalSolutions.Catalog.StandaloneContract
import DigitalSolutions.Foundation.Utf8
import DigitalSolutions.Foundation.ZipArchives

namespace DigitalSolutions
namespace Catalog

open Foundation Persistence Platform Distribution

/-!
# The entry point of a package

A package is an archive whose directory names the file that is started.  Two
parts of it are asked for: its end, and the directory that the end points to.
-/

inductive EntryPointFault
  | contract (fault : ContractFault)
  /-- `RangeError [ERR_OUT_OF_RANGE]`. -/
  | outOfRange
  deriving DecidableEq

def maxCentralDirectoryBytes : Nat := 16 * 1024 * 1024

def zipEocdSearchBytes : Nat := 65557

/-! ## Ranges -/

structure ContentRange where
  start : Nat
  stop : Nat
  total : Nat
  deriving DecidableEq

structure RangeResponse where
  status : Nat
  contentRange : Option String
  body : List UInt8

/-- What is answered to the requests of a verification, by their number, the
address and the range that is asked for. -/
abbrev RangeFetcher : Type := Nat -> String -> String -> Option RangeResponse

structure RangeBytes extends ContentRange where
  bytes : List UInt8

def invalid {Value : Type} : Except EntryPointFault Value := .error (.contract .invalid)

def unavailable {Value : Type} : Except EntryPointFault Value := .error (.contract .unavailable)

def isSafe (value : Nat) : Bool := value < 2 ^ 53

/-- The digits up to a separator, and what follows it. -/
def numberUpTo (separator : Char) (text : List Char) : Option (Nat × List Char) :=
  match decimal? (text.takeWhile Char.isDigit), text.dropWhile Char.isDigit with
  | some value, next :: rest => if next = separator then some (value, rest) else none
  | _, _ => none

/-- `/^bytes (\d+)-(\d+)\/(\d+)$/`. -/
def contentRange? (text : List Char) : Option ContentRange :=
  if "bytes ".toList.isPrefixOf text then
    match numberUpTo '-' (text.drop 6) with
    | none => none
    | some (start, rest) =>
      match numberUpTo '/' rest with
      | none => none
      | some (stop, rest) => (decimal? rest).map fun total => ⟨start, stop, total⟩
  else none

def parseContentRange (value : Option String) : Except EntryPointFault ContentRange :=
  match contentRange? (value.getD "").toList with
  | none => unavailable
  | some range =>
    if !isSafe range.start || !isSafe range.stop || !isSafe range.total || range.stop < range.start ||
        range.total ≤ range.stop then unavailable
    else .ok range

def fetchRange (fetcher : RangeFetcher) (request : Nat) (url range : String) :
    Except EntryPointFault RangeBytes :=
  match fetcher request url range with
  | none => unavailable
  | some response =>
    if response.status ≠ 206 then unavailable
    else
      match parseContentRange response.contentRange with
      | .error fault => .error fault
      | .ok parsed =>
        if response.body.length ≠ parsed.stop - parsed.start + 1 then unavailable
        else .ok { parsed with bytes := response.body }

/-! ## Reading the archive -/

def readUInt (width : Nat) (view : List UInt8) (offset : Nat) : Except EntryPointFault Nat :=
  match readLittleEndian width view offset with
  | some value => .ok value
  | none => .error .outOfRange

/-- The loop of `findEndOfCentralDirectory` over the offsets below a bound. -/
def searchBelow (view : List UInt8) : Nat -> Except EntryPointFault Nat
  | 0 => invalid
  | offset + 1 => do
    if (<- readUInt 4 view offset) ≠ Zip.endSignature then searchBelow view offset
    else
      let commentLength <- readUInt 2 view (offset + 20)
      if offset + 22 + commentLength = view.length then .ok offset else searchBelow view offset

def findEndOfCentralDirectory (bytes : List UInt8) : Except EntryPointFault Nat :=
  searchBelow bytes (bytes.length + 1 - 22)

/-- The loop of `centralDirectoryHasRootEntryPoint`. -/
def walkDirectory (view : List UInt8) (entryPoint : String) : Nat -> Nat -> Except EntryPointFault Bool
  | 0, _ => .ok false
  | expectedEntries + 1, offset => do
    if offset + 46 > view.length then invalid
    else if (<- readUInt 4 view offset) ≠ Zip.entrySignature then invalid
    else
      let fileNameLength <- readUInt 2 view (offset + 28)
      let extraLength <- readUInt 2 view (offset + 30)
      let commentLength <- readUInt 2 view (offset + 32)
      let nameStart := offset + 46
      let nameEnd := nameStart + fileNameLength
      let next := nameEnd + extraLength + commentLength
      if nameEnd > view.length ∨ next > view.length then invalid
      else if utf8Text (slice view nameStart nameEnd) = entryPoint then .ok true
      else walkDirectory view entryPoint expectedEntries next

def centralDirectoryHasRootEntryPoint (bytes : List UInt8) (expectedEntries : Nat) (entryPoint : String) :
    Except EntryPointFault Bool :=
  walkDirectory bytes entryPoint expectedEntries 0

/-- The reads behind the record that was found. -/
def readEndFields (eocd : List UInt8) (eocdOffset : Nat) : Except EntryPointFault Zip.EndFields := do
  let disk <- readUInt 2 eocd (eocdOffset + 4)
  let directoryDisk <- readUInt 2 eocd (eocdOffset + 6)
  let diskEntries <- readUInt 2 eocd (eocdOffset + 8)
  let entries <- readUInt 2 eocd (eocdOffset + 10)
  let directorySize <- readUInt 4 eocd (eocdOffset + 12)
  let directoryOffset <- readUInt 4 eocd (eocdOffset + 16)
  return { disk, directoryDisk, diskEntries, entries, directorySize, directoryOffset }

/-- The record is one that the verification goes on with. -/
def isAdmissible (size : Nat) (fields : Zip.EndFields) : Bool :=
  !(fields.disk ≠ 0 || fields.directoryDisk ≠ 0 || fields.diskEntries ≠ fields.entries ||
    fields.entries ≤ 0 || fields.entries = 0xffff || fields.directorySize ≤ 0 ||
    fields.directorySize = 0xffffffff || fields.directoryOffset = 0xffffffff ||
    fields.directorySize > maxCentralDirectoryBytes || fields.directoryOffset + fields.directorySize > size)

/-- The text of a `Range` header. -/
def rangeHeader (start stop : Nat) : String := "bytes=" ++ toString start ++ "-" ++ toString stop

/-- What is left of `verifyPackageRootEntryPoint` when the end of the package
has come. -/
def verifyDirectory (fetcher : RangeFetcher) (asset : GitHubAsset) (tail : RangeBytes) (entryPoint : String) :
    Except EntryPointFault Unit := do
  let size := asset.size.toNat
  if tail.total ≠ size then invalid
  else
    let eocdOffset <- findEndOfCentralDirectory tail.bytes
    let fields <- readEndFields tail.bytes eocdOffset
    if !isAdmissible size fields then invalid
    else
      let central <- fetchRange fetcher 1 asset.browserDownloadUrl
        (rangeHeader fields.directoryOffset (fields.directoryOffset + fields.directorySize - 1))
      if central.total ≠ size then invalid
      else if !(<- centralDirectoryHasRootEntryPoint central.bytes fields.entries entryPoint) then invalid
      else .ok ()

/-- The size of an asset is a positive safe integer. -/
def verifyPackageRootEntryPoint (platform : GitHubPlatform) (fetcher : RangeFetcher) (asset : GitHubAsset)
    (repository tag entryPoint : String) : Except EntryPointFault Unit := do
  match validateGitHubReleaseAssetUrl platform asset.browserDownloadUrl repository tag with
  | .error fault => .error (.contract fault)
  | .ok () =>
    let size := asset.size.toNat
    let tailLength := min size zipEocdSearchBytes
    let tail <- fetchRange fetcher 0 asset.browserDownloadUrl (rangeHeader (size - tailLength) (size - 1))
    verifyDirectory fetcher asset tail entryPoint

/-! ## What the reads find -/

variable {view : List UInt8} {entryPoint : String} {offset bound count : Nat}

theorem entryPoint_bind_ok_iff {Value Result : Type} {first : Except EntryPointFault Value}
    {rest : Value -> Except EntryPointFault Result} {result : Result} :
    (first >>= rest) = .ok result ↔ Exists fun value => first = .ok value ∧ rest value = .ok result := by
  cases first with
  | error fault =>
    constructor
    · nofun
    · rintro ⟨_, ⟨⟩, _⟩
  | ok value =>
    constructor
    · intro done
      exact ⟨value, rfl, done⟩
    · rintro ⟨_, ⟨⟩, done⟩
      exact done

theorem entryPoint_ok_bind {Value Result : Type} (value : Value)
    (rest : Value -> Except EntryPointFault Result) : (Except.ok value >>= rest) = rest value := rfl

theorem readUInt_ok_iff {width value : Nat} :
    readUInt width view offset = .ok value ↔ readLittleEndian width view offset = some value := by
  unfold readUInt
  split
  · rename_i read found
    rw [found, Except.ok.injEq, Option.some.injEq]
  · rename_i missing
    rw [missing]
    constructor <;> nofun

theorem readUInt_within {width : Nat} (within : offset + width ≤ view.length) :
    Exists fun value => readUInt width view offset = .ok value ∧
      readLittleEndian width view offset = some value := by
  rcases readLittleEndian_isSome within with ⟨value, read⟩
  exact ⟨value, readUInt_ok_iff.mpr read, read⟩

/-! ### The end -/

theorem searchBelow_here (ends : Zip.EndsAt view offset) : searchBelow view (offset + 1) = .ok offset := by
  rcases ends.comment with ⟨length, comment, isEnd⟩
  rw [searchBelow, readUInt_ok_iff.mpr ends.signature, entryPoint_ok_bind, if_neg (fun other => other rfl),
    readUInt_ok_iff.mpr comment, entryPoint_ok_bind, if_pos isEnd]

theorem searchBelow_further (within : offset + 22 ≤ view.length) (other : ¬ Zip.EndsAt view offset) :
    searchBelow view (offset + 1) = searchBelow view offset := by
  have short : offset + 4 ≤ view.length := by omega
  rcases readUInt_within short with ⟨signature, reads, read⟩
  have room : offset + 20 + 2 ≤ view.length := by omega
  rcases readUInt_within room with ⟨length, readsLength, readLength⟩
  rw [searchBelow, reads, entryPoint_ok_bind]
  split
  · rfl
  · rename_i isSignature
    rw [readsLength, entryPoint_ok_bind]
    apply if_neg
    intro isEnd
    rw [not_not] at isSignature
    rw [isSignature] at read
    exact other ⟨read, length, readLength, isEnd⟩

/-- The search ends at the last record below its bound, or finds none. -/
theorem searchBelow_spec (within : bound + 21 ≤ view.length ∨ bound = 0) :
    (Exists fun offset => searchBelow view bound = .ok offset ∧ offset < bound ∧ Zip.EndsAt view offset ∧
      forall later, offset < later -> later < bound -> ¬ Zip.EndsAt view later) ∨
    searchBelow view bound = invalid ∧ forall offset, offset < bound -> ¬ Zip.EndsAt view offset := by
  induction bound with
  | zero => exact Or.inr ⟨rfl, fun offset below => absurd below (Nat.not_lt_zero offset)⟩
  | succ offset inductionHypothesis =>
    have inView : offset + 22 ≤ view.length := by omega
    by_cases ends : Zip.EndsAt view offset
    · refine Or.inl ⟨offset, searchBelow_here ends, Nat.lt_succ_self offset, ends, ?_⟩
      intro later after below
      omega
    · rw [searchBelow_further inView ends]
      have notHere : forall other, other < offset + 1 -> ¬ other < offset -> ¬ Zip.EndsAt view other := by
        intro other below notBelow
        have isHere : other = offset := by omega
        rw [isHere]
        exact ends
      rcases inductionHypothesis (Or.inl (by omega)) with ⟨found, isFound, below, foundEnds, none⟩ | ⟨isNone, none⟩
      · refine Or.inl ⟨found, isFound, by omega, foundEnds, ?_⟩
        intro later after laterBelow
        by_cases lower : later < offset
        · exact none later after lower
        · exact notHere later laterBelow lower
      · refine Or.inr ⟨isNone, ?_⟩
        intro other otherBelow
        by_cases lower : other < offset
        · exact none other lower
        · exact notHere other otherBelow lower

theorem findEndOfCentralDirectory_spec (bytes : List UInt8) :
    (Exists fun offset => findEndOfCentralDirectory bytes = .ok offset ∧ Zip.LastEnd bytes offset) ∨
    findEndOfCentralDirectory bytes = invalid ∧ forall offset, ¬ Zip.EndsAt bytes offset := by
  have within : bytes.length + 1 - 22 + 21 ≤ bytes.length ∨ bytes.length + 1 - 22 = 0 := by omega
  have below : forall offset, Zip.EndsAt bytes offset -> offset < bytes.length + 1 - 22 := by
    intro offset ends
    have inBytes := ends.within
    omega
  rcases searchBelow_spec within with ⟨offset, found, _, ends, none⟩ | ⟨isNone, none⟩
  · refine Or.inl ⟨offset, found, ends, ?_⟩
    intro later after laterEnds
    exact none later after (below later laterEnds) laterEnds
  · refine Or.inr ⟨isNone, ?_⟩
    intro offset ends
    exact none offset (below offset ends) ends

theorem findEndOfCentralDirectory_ok_iff {bytes : List UInt8} :
    findEndOfCentralDirectory bytes = .ok offset ↔ Zip.LastEnd bytes offset := by
  rcases findEndOfCentralDirectory_spec bytes with ⟨found, isFound, last⟩ | ⟨isNone, none⟩
  · rw [isFound, Except.ok.injEq]
    constructor
    · rintro rfl
      exact last
    · intro other
      exact last.unique other
  · rw [isNone]
    constructor
    · nofun
    · intro last
      exact absurd last.ends (none offset)

/-! ### The directory -/

/-- The name of an entry is the entry point. -/
def Names (entryPoint : String) (name : List UInt8) : Prop := utf8Text name = entryPoint

/-- One turn of the loop, where an entry stands. -/
theorem walkDirectory_entry {name : List UInt8} {next : Nat} (entry : Zip.EntryAt view offset name next) :
    walkDirectory view entryPoint (count + 1) offset =
      if utf8Text name = entryPoint then .ok true else walkDirectory view entryPoint count next := by
  rcases entry.lengths with ⟨nameLength, extraLength, commentLength, readName, readExtra, readComment, rfl, rfl⟩
  have within := entry.within
  have fits : ¬ (offset + 46 + nameLength > view.length ∨
      offset + 46 + nameLength + extraLength + commentLength > view.length) := by omega
  rw [walkDirectory, if_neg (Nat.not_lt_of_le entry.fixed), readUInt_ok_iff.mpr entry.signature,
    entryPoint_ok_bind, if_neg (fun other => other rfl), readUInt_ok_iff.mpr readName, entryPoint_ok_bind,
    readUInt_ok_iff.mpr readExtra, entryPoint_ok_bind, readUInt_ok_iff.mpr readComment, entryPoint_ok_bind]
  exact if_neg fits

/-- Where no entry stands, the loop throws. -/
theorem walkDirectory_broken (broken : forall name next, ¬ Zip.EntryAt view offset name next) :
    walkDirectory view entryPoint (count + 1) offset = invalid := by
  rw [walkDirectory]
  split
  · rfl
  · rename_i notShort
    have fixed : offset + 46 ≤ view.length := by omega
    rcases readUInt_within (by omega : offset + 4 ≤ view.length) with ⟨signature, readsSignature, readSignature⟩
    rcases readUInt_within (by omega : offset + 28 + 2 ≤ view.length) with ⟨nameLength, readsName, readName⟩
    rcases readUInt_within (by omega : offset + 30 + 2 ≤ view.length) with ⟨extraLength, readsExtra, readExtra⟩
    rcases readUInt_within (by omega : offset + 32 + 2 ≤ view.length) with
      ⟨commentLength, readsComment, readComment⟩
    rw [readsSignature, readsName, readsExtra, readsComment, entryPoint_ok_bind]
    split
    · rfl
    · rename_i isSignature
      rw [not_not] at isSignature
      rw [isSignature] at readSignature
      simp only [entryPoint_ok_bind]
      apply if_pos
      by_contra fits
      apply broken (slice view (offset + 46) (offset + 46 + nameLength))
        (offset + 46 + nameLength + extraLength + commentLength)
      exact ⟨fixed, readSignature,
        ⟨nameLength, extraLength, commentLength, readName, readExtra, readComment, rfl, rfl⟩, by omega⟩

theorem walkDirectory_spec (view : List UInt8) (entryPoint : String) (count offset : Nat) :
    (walkDirectory view entryPoint count offset = .ok true ↔
      Zip.NamedFrom view (Names entryPoint) offset count) ∧
    walkDirectory view entryPoint count offset ≠ .error .outOfRange := by
  induction count generalizing offset with
  | zero => exact ⟨⟨nofun, nofun⟩, nofun⟩
  | succ count inductionHypothesis =>
    by_cases stands : Exists fun name => Exists fun next => Zip.EntryAt view offset name next
    · rcases stands with ⟨name, next, entry⟩
      rcases inductionHypothesis next with ⟨later, inRange⟩
      rw [walkDirectory_entry entry, Zip.namedFrom_succ_iff entry]
      split
      · rename_i isNamed
        exact ⟨⟨fun _ => Or.inl isNamed, fun _ => rfl⟩, nofun⟩
      · rename_i otherName
        refine ⟨?_, inRange⟩
        rw [later]
        exact ⟨Or.inr, fun either => either.resolve_left otherName⟩
    · have broken : forall name next, ¬ Zip.EntryAt view offset name next :=
        fun name next entry => stands ⟨name, next, entry⟩
      rw [walkDirectory_broken broken]
      refine ⟨⟨nofun, ?_⟩, nofun⟩
      rintro (⟨entry, _⟩ | ⟨entry, _⟩)
      · exact absurd entry (broken _ _)
      · exact absurd entry (broken _ _)

end Catalog
end DigitalSolutions
