import DigitalSolutions.Catalog.RootEntryPoint

namespace DigitalSolutions
namespace Catalog

open Foundation Persistence Platform Distribution

/-!
# Packages and the servers that answer for them

The end of a package and its directory come as two ranges.  What a server
answers names its range, and the verification reads the bytes as if they were
those that it had asked for.
-/

variable {bytes tail central : List UInt8} {entryPoint : String} {fetcher : RangeFetcher}
variable {start stop total size : Nat}
variable {fields : Zip.EndFields}
variable {offset : Nat}

/-! ## What a verification accepts -/

theorem readEndFields_ok_iff :
    readEndFields tail offset = .ok fields ↔ Zip.EndFieldsAt tail offset fields := by
  simp only [readEndFields, entryPoint_bind_ok_iff, readUInt_ok_iff]
  constructor
  · rintro ⟨disk, readDisk, directoryDisk, readDirectoryDisk, diskEntries, readDiskEntries, entries, readEntries,
      directorySize, readSize, directoryOffset, readOffset, same⟩
    cases same
    exact ⟨readDisk, readDirectoryDisk, readDiskEntries, readEntries, readSize, readOffset⟩
  · intro at_
    exact ⟨_, at_.disk, _, at_.directoryDisk, _, at_.diskEntries, _, at_.entries, _, at_.directorySize, _,
      at_.directoryOffset, rfl⟩

/-- The last record of some bytes is one that the verification goes on with. -/
def Shows (size : Nat) (tail : List UInt8) (fields : Zip.EndFields) : Prop :=
  Exists fun offset => Zip.LastEnd tail offset ∧ Zip.EndFieldsAt tail offset fields ∧
    isAdmissible size fields = true

/-- The entry point is named in the directory that the record of the bytes
points to. -/
def Lists (entryPoint : String) (bytes : List UInt8) : Prop :=
  Exists fun fields => Shows bytes.length bytes fields ∧
    Zip.NamedFrom (slice bytes fields.directoryOffset (fields.directoryOffset + fields.directorySize))
      (Names entryPoint) 0 fields.entries

theorem verifyDirectory_ok_iff {asset : GitHubAsset} {tail : RangeBytes} :
    verifyDirectory fetcher asset tail entryPoint = .ok () ↔
      tail.total = asset.size.toNat ∧ Exists fun fields => Shows asset.size.toNat tail.bytes fields ∧
        Exists fun central => fetchRange fetcher 1 asset.browserDownloadUrl
            (rangeHeader fields.directoryOffset (fields.directoryOffset + fields.directorySize - 1)) = .ok central ∧
          central.total = asset.size.toNat ∧
          Zip.NamedFrom central.bytes (Names entryPoint) 0 fields.entries := by
  rw [verifyDirectory]
  split
  · rename_i otherTotal
    constructor
    · nofun
    · rintro ⟨sameTotal, _⟩
      exact absurd sameTotal otherTotal
  · rename_i sameTotal
    rw [not_not] at sameTotal
    simp only [sameTotal, true_and, entryPoint_bind_ok_iff, findEndOfCentralDirectory_ok_iff, readEndFields_ok_iff]
    constructor
    · rintro ⟨offset, last, fields, fieldsAt, done⟩
      split at done
      · cases done
      · rename_i admissible
        rcases entryPoint_bind_ok_iff.mp done with ⟨central, fetched, done⟩
        split at done
        · cases done
        · rename_i centralTotal
          rcases entryPoint_bind_ok_iff.mp done with ⟨found, walked, done⟩
          cases found with
          | false => cases done
          | true =>
            rw [Bool.not_eq_true', Bool.not_eq_false] at admissible
            exact ⟨fields, ⟨offset, last, fieldsAt, admissible⟩, central, fetched, not_not.mp centralTotal,
              (walkDirectory_spec _ _ _ _).1.mp walked⟩
    · rintro ⟨fields, ⟨offset, last, fieldsAt, admissible⟩, central, fetched, centralTotal, named⟩
      refine ⟨offset, last, fields, fieldsAt, ?_⟩
      have walked : centralDirectoryHasRootEntryPoint central.bytes fields.entries entryPoint = .ok true :=
        (walkDirectory_spec _ _ _ _).1.mpr named
      rw [admissible, if_neg (by decide), fetched, entryPoint_ok_bind, if_neg (not_not.mpr centralTotal), walked]
      rfl

/-! ## What the header of a range names -/

theorem decimal?_toDigits (value : Nat) : decimal? (Nat.toDigits 10 value) = some value := by
  have digits : (Nat.toDigits 10 value).all Char.isDigit = true :=
    List.all_eq_true.mpr fun _ member => Nat.isDigit_of_mem_toDigits (by decide) (by decide) member
  have isSome : (Nat.toDigits 10 value).isEmpty = false := by
    rw [List.isEmpty_eq_false_iff]
    exact Nat.toDigits_ne_nil
  have isValue := @Nat.ofDigitChars_toDigits 10 value (by decide) (by decide)
  rw [Nat.ofDigitChars_eq_foldl] at isValue
  rw [decimal?, isSome, digits, if_neg (by decide), isValue]

theorem numberUpTo_toDigits (value : Nat) {separator : Char} (notDigit : separator.isDigit = false)
    (rest : List Char) : numberUpTo separator (Nat.toDigits 10 value ++ separator :: rest) = some (value, rest) := by
  have digits : forall digit, digit ∈ Nat.toDigits 10 value -> digit.isDigit = true :=
    fun _ member => Nat.isDigit_of_mem_toDigits (by decide) (by decide) member
  have taken : (Nat.toDigits 10 value ++ separator :: rest).takeWhile Char.isDigit = Nat.toDigits 10 value := by
    rw [List.takeWhile_append_of_pos digits, List.takeWhile_cons_of_neg (by rw [notDigit]; decide), List.append_nil]
  have dropped : (Nat.toDigits 10 value ++ separator :: rest).dropWhile Char.isDigit = separator :: rest := by
    rw [List.dropWhile_append_of_pos digits, List.dropWhile_cons_of_neg (by rw [notDigit]; decide)]
  rw [numberUpTo, taken, dropped, decimal?_toDigits]
  exact if_pos rfl

/-- The text of a `Content-Range` header. -/
def contentRangeHeader (range : ContentRange) : String :=
  "bytes " ++ toString range.start ++ "-" ++ toString range.stop ++ "/" ++ toString range.total

theorem contentRange?_header (range : ContentRange) :
    contentRange? (contentRangeHeader range).toList = some range := by
  have text : (contentRangeHeader range).toList =
      "bytes ".toList ++ (Nat.toDigits 10 range.start ++ '-' :: (Nat.toDigits 10 range.stop ++
        '/' :: Nat.toDigits 10 range.total)) := by
    simp only [contentRangeHeader, String.toList_append, Nat.toString_eq_ofList_toDigits, String.toList_ofList,
      List.append_assoc]
    rfl
  have begins : "bytes ".toList.isPrefixOf (contentRangeHeader range).toList = true := by
    rw [List.isPrefixOf_iff_prefix, text]
    exact List.prefix_append _ _
  have rest : (contentRangeHeader range).toList.drop 6 =
      Nat.toDigits 10 range.start ++ '-' :: (Nat.toDigits 10 range.stop ++ '/' :: Nat.toDigits 10 range.total) := by
    rw [text]
    rfl
  rw [contentRange?, if_pos begins, rest, numberUpTo_toDigits _ (by decide)]
  simp only [numberUpTo_toDigits range.stop (by decide : '/'.isDigit = false), decimal?_toDigits, Option.map_some]

/-! ## Servers -/

/-- The answer with some bytes of a package, which are named in its header. -/
def rangeAnswer (bytes : List UInt8) (start stop : Nat) : RangeResponse where
  status := 206
  contentRange := some (contentRangeHeader ⟨start, stop, bytes.length⟩)
  body := slice bytes start (stop + 1)

/-- Every answer has the bytes that it names. -/
def Honest (bytes : List UInt8) (fetcher : RangeFetcher) : Prop :=
  forall request url range, Exists fun start => Exists fun stop => start ≤ stop ∧ stop < bytes.length ∧
    fetcher request url range = some (rangeAnswer bytes start stop)

/-- What is asked for is what is answered. -/
def Exact (bytes : List UInt8) (fetcher : RangeFetcher) : Prop :=
  forall request url start stop, start ≤ stop -> stop < bytes.length ->
    fetcher request url (rangeHeader start stop) = some (rangeAnswer bytes start stop)

theorem fetchRange_answer {request : Nat} {url range : String} (safe : isSafe bytes.length = true)
    (ordered : start ≤ stop) (within : stop < bytes.length)
    (answered : fetcher request url range = some (rangeAnswer bytes start stop)) :
    fetchRange fetcher request url range = .ok ⟨⟨start, stop, bytes.length⟩, slice bytes start (stop + 1)⟩ := by
  have isLength : (slice bytes start (stop + 1)).length = stop - start + 1 := by
    rw [length_slice within]
    omega
  have small : bytes.length < 2 ^ 53 := of_decide_eq_true safe
  have safeStart : isSafe start = true := decide_eq_true (by omega)
  have safeStop : isSafe stop = true := decide_eq_true (by omega)
  have inOrder : decide (stop < start) = false := decide_eq_false (by omega)
  have inTotal : decide (bytes.length ≤ stop) = false := decide_eq_false (by omega)
  have parsed : parseContentRange (rangeAnswer bytes start stop).contentRange = .ok ⟨start, stop, bytes.length⟩ := by
    rw [parseContentRange, rangeAnswer, Option.getD_some, contentRange?_header]
    simp only [safe, safeStart, safeStop, inOrder, inTotal, Bool.not_true, Bool.or_self, Bool.false_eq_true, if_false]
  have isPartial : (rangeAnswer bytes start stop).status = 206 := rfl
  rw [fetchRange, answered]
  dsimp only
  rw [if_neg (not_not.mpr isPartial), parsed]
  exact if_neg (not_not.mpr isLength)

variable {platform : GitHubPlatform} {asset : GitHubAsset} {repository tag : String}

theorem verifyPackageRootEntryPoint_ok_iff
    (address : validateGitHubReleaseAssetUrl platform asset.browserDownloadUrl repository tag = .ok ()) :
    verifyPackageRootEntryPoint platform fetcher asset repository tag entryPoint = .ok () ↔
      Exists fun tail => fetchRange fetcher 0 asset.browserDownloadUrl
          (rangeHeader (asset.size.toNat - min asset.size.toNat zipEocdSearchBytes) (asset.size.toNat - 1)) =
            .ok tail ∧ verifyDirectory fetcher asset tail entryPoint = .ok () := by
  rw [verifyPackageRootEntryPoint, address]
  exact entryPoint_bind_ok_iff

/-! ## Servers that answer what is asked for -/

/-- A record stands so near to the end that the rest of the bytes has it. -/
theorem shows_drop (far : start + zipEocdSearchBytes ≤ bytes.length ∨ start = 0) :
    Shows size (bytes.drop start) fields ↔ Shows size bytes fields := by
  unfold zipEocdSearchBytes at far
  have within : start ≤ bytes.length := by omega
  constructor
  · rintro ⟨offset, last, fieldsAt, admissible⟩
    exact ⟨start + offset, (Zip.lastEnd_drop within).mp last, (Zip.endFieldsAt_drop within).mp fieldsAt, admissible⟩
  · rintro ⟨offset, last, fieldsAt, admissible⟩
    have near := last.ends.near
    have sameOffset : start + (offset - start) = offset := by omega
    rw [← sameOffset] at last fieldsAt
    exact ⟨offset - start, (Zip.lastEnd_drop within).mpr last, (Zip.endFieldsAt_drop within).mpr fieldsAt,
      admissible⟩

theorem directory_of_admissible (admissible : isAdmissible size fields = true) :
    0 < fields.directorySize ∧ fields.directoryOffset + fields.directorySize ≤ size := by
  simp only [isAdmissible, Bool.not_eq_true', Bool.or_eq_false_iff, decide_eq_false_iff_not] at admissible
  omega

theorem verify_exact_iff (safe : isSafe bytes.length = true) (positive : 0 < bytes.length)
    (announced : asset.size = bytes.length)
    (address : validateGitHubReleaseAssetUrl platform asset.browserDownloadUrl repository tag = .ok ())
    (exact_ : Exact bytes fetcher) :
    verifyPackageRootEntryPoint platform fetcher asset repository tag entryPoint = .ok () ↔
      Lists entryPoint bytes := by
  have isSize : asset.size.toNat = bytes.length := by
    rw [announced]
    rfl
  obtain ⟨start, isStart⟩ : Exists fun start => bytes.length - min bytes.length zipEocdSearchBytes = start :=
    ⟨_, rfl⟩
  have far : start + zipEocdSearchBytes ≤ bytes.length ∨ start = 0 := by omega
  have ordered : start ≤ bytes.length - 1 := by
    rw [← isStart, zipEocdSearchBytes]
    omega
  have tail := fetchRange_answer safe ordered (Nat.sub_lt positive Nat.one_pos)
    (exact_ 0 asset.browserDownloadUrl start (bytes.length - 1) ordered (Nat.sub_lt positive Nat.one_pos))
  rw [Nat.sub_add_cancel positive, slice_to_end] at tail
  have directory : forall fields, Shows bytes.length bytes fields ->
      fetchRange fetcher 1 asset.browserDownloadUrl
        (rangeHeader fields.directoryOffset (fields.directoryOffset + fields.directorySize - 1)) =
      .ok ⟨⟨fields.directoryOffset, fields.directoryOffset + fields.directorySize - 1, bytes.length⟩,
        slice bytes fields.directoryOffset (fields.directoryOffset + fields.directorySize)⟩ := by
    rintro fields ⟨_, _, _, admissible⟩
    rcases directory_of_admissible admissible with ⟨some, within⟩
    have fetched := fetchRange_answer safe (by omega) (by omega)
      (exact_ 1 asset.browserDownloadUrl fields.directoryOffset
        (fields.directoryOffset + fields.directorySize - 1) (by omega) (by omega))
    rw [Nat.sub_add_cancel (by omega)] at fetched
    exact fetched
  simp only [verifyPackageRootEntryPoint_ok_iff address, isSize, isStart, tail, Except.ok.injEq, exists_eq_left',
    verifyDirectory_ok_iff, shows_drop far, true_and]
  constructor
  · rintro ⟨fields, shows_, central, fetched, _, named⟩
    rw [directory fields shows_] at fetched
    cases fetched
    exact ⟨fields, shows_, named⟩
  · rintro ⟨fields, shows_, named⟩
    exact ⟨fields, shows_, _, directory fields shows_, rfl, named⟩

/-! ## Servers that answer something else -/

/-- Some bytes of a package that a server may answer with. -/
def Part (bytes part : List UInt8) : Prop :=
  Exists fun start => Exists fun stop => start ≤ stop ∧ stop < bytes.length ∧ part = slice bytes start (stop + 1)

/-- One part of a package ends with a record, and another begins with as many
entries as the record counts, one of which is named so. -/
def Misleading (entryPoint : String) (bytes : List UInt8) : Prop :=
  Exists fun tail => Exists fun central => Exists fun fields =>
    Part bytes tail ∧ Part bytes central ∧ Shows bytes.length tail fields ∧
    Zip.NamedFrom central (Names entryPoint) 0 fields.entries

theorem misleading_of_verified (safe : isSafe bytes.length = true) (announced : asset.size = bytes.length)
    (address : validateGitHubReleaseAssetUrl platform asset.browserDownloadUrl repository tag = .ok ())
    (honest : Honest bytes fetcher)
    (verified : verifyPackageRootEntryPoint platform fetcher asset repository tag entryPoint = .ok ()) :
    Misleading entryPoint bytes := by
  have isSize : asset.size.toNat = bytes.length := by
    rw [announced]
    rfl
  have isPart : forall request url range answer, fetchRange fetcher request url range = .ok answer ->
      Part bytes answer.bytes := by
    intro request url range answer fetched
    rcases honest request url range with ⟨start, stop, ordered, within, answered⟩
    rw [fetchRange_answer safe ordered within answered] at fetched
    cases fetched
    exact ⟨start, stop, ordered, within, rfl⟩
  rcases (verifyPackageRootEntryPoint_ok_iff address).mp verified with ⟨tail, fetchedTail, verifiedTail⟩
  rcases verifyDirectory_ok_iff.mp verifiedTail with ⟨_, fields, shows_, central, fetched, _, named⟩
  rw [isSize] at shows_
  exact ⟨tail.bytes, central.bytes, fields, isPart _ _ _ _ fetchedTail, isPart _ _ _ _ fetched, shows_, named⟩

/-- A server that answers the first request with one part and the others with
another one. -/
def answering (first others : RangeResponse) : RangeFetcher
  | 0, _, _ => some first
  | _ + 1, _, _ => some others

theorem verified_of_misleading (safe : isSafe bytes.length = true) (announced : asset.size = bytes.length)
    (address : validateGitHubReleaseAssetUrl platform asset.browserDownloadUrl repository tag = .ok ())
    (misleading : Misleading entryPoint bytes) :
    Exists fun fetcher => Honest bytes fetcher ∧
      verifyPackageRootEntryPoint platform fetcher asset repository tag entryPoint = .ok () := by
  have isSize : asset.size.toNat = bytes.length := by
    rw [announced]
    rfl
  rcases misleading with ⟨_, _, fields, ⟨start, stop, ordered, within, rfl⟩, ⟨from_, upTo, inOrder, inBytes, rfl⟩,
    shows_, named⟩
  refine ⟨answering (rangeAnswer bytes start stop) (rangeAnswer bytes from_ upTo), ?_, ?_⟩
  · intro request url range
    cases request with
    | zero => exact ⟨start, stop, ordered, within, rfl⟩
    | succ request => exact ⟨from_, upTo, inOrder, inBytes, rfl⟩
  · rw [verifyPackageRootEntryPoint_ok_iff address]
    refine ⟨_, fetchRange_answer safe ordered within rfl, ?_⟩
    rw [verifyDirectory_ok_iff, isSize]
    exact ⟨rfl, fields, shows_, _, fetchRange_answer safe inOrder inBytes rfl, rfl, named⟩

/-- A package is safe from all honest servers if it lists the entry point, or
has no parts that mislead; and a server that answers what is asked for never
does. -/
theorem entryPoint_sound_iff (platform : GitHubPlatform) (asset : GitHubAsset)
    (repository tag entryPoint : String) (bytes : List UInt8) (safe : isSafe bytes.length = true)
    (positive : 0 < bytes.length) (announced : asset.size = bytes.length)
    (address : validateGitHubReleaseAssetUrl platform asset.browserDownloadUrl repository tag = .ok ()) :
    (forall fetcher, Exact bytes fetcher ->
      verifyPackageRootEntryPoint platform fetcher asset repository tag entryPoint = .ok () ->
        Lists entryPoint bytes) ∧
    ((forall fetcher, Honest bytes fetcher ->
        verifyPackageRootEntryPoint platform fetcher asset repository tag entryPoint = .ok () ->
          Lists entryPoint bytes) ↔
      (Misleading entryPoint bytes -> Lists entryPoint bytes)) := by
  constructor
  · intro fetcher exact_
    exact (verify_exact_iff safe positive announced address exact_).mp
  · constructor
    · intro sound misleading
      rcases verified_of_misleading safe announced address misleading with ⟨fetcher, honest, verified⟩
      exact sound fetcher honest verified
    · intro listed fetcher honest verified
      exact listed (misleading_of_verified safe announced address honest verified)

/-! ## Archives -/

theorem isAdmissible_endFields {archive : Zip.Archive}
    (limited : archive.directory.length ≤ maxCentralDirectoryBytes) (some : archive.entries ≠ []) :
    isAdmissible archive.encode.length archive.endFields = true := by
  have entries : 0 < archive.entries.length := List.length_pos_iff.mpr some
  have entriesFit := archive.entries_fit
  have bodyFits := archive.body_fits
  have long := archive.length_encode
  have directory : 0 < archive.directory.length := by
    rcases List.exists_cons_of_ne_nil some with ⟨entry, rest, isCons⟩
    have first := entry.length_encode
    rw [Zip.Archive.directory, isCons, List.flatMap_cons, List.length_append]
    omega
  unfold maxCentralDirectoryBytes at limited
  unfold Zip.Archive.endOffset at long
  simp only [isAdmissible, Bool.not_eq_true', Bool.or_eq_false_iff, decide_eq_false_iff_not]
  simp only [Zip.Archive.endFields, maxCentralDirectoryBytes]
  omega

/-- An archive whose own record is the last one lists what its entries are
named. -/
theorem lists_encode_iff {archive : Zip.Archive} (limited : archive.directory.length ≤ maxCentralDirectoryBytes)
    (last : Zip.LastEnd archive.encode archive.endOffset) :
    Lists entryPoint archive.encode ↔
      Exists fun entry => entry ∈ archive.entries ∧ utf8Text entry.name = entryPoint := by
  constructor
  · rintro ⟨fields, ⟨offset, isLast, fieldsAt, _⟩, named⟩
    cases isLast.unique last
    have read := readEndFields_ok_iff.mpr fieldsAt
    rw [readEndFields_ok_iff.mpr archive.endFieldsAt] at read
    cases read
    rw [Zip.Archive.endFields, Zip.Archive.slice_directory] at named
    exact archive.named_iff.mp named
  · rintro ⟨entry, member, isNamed⟩
    refine ⟨archive.endFields, ⟨archive.endOffset, last, archive.endFieldsAt, ?_⟩, ?_⟩
    · exact isAdmissible_endFields limited (List.ne_nil_of_mem member)
    · rw [Zip.Archive.endFields, Zip.Archive.slice_directory]
      exact archive.named_iff.mpr ⟨entry, member, isNamed⟩

theorem isSafe_encode {archive : Zip.Archive} (limited : archive.directory.length ≤ maxCentralDirectoryBytes) :
    isSafe archive.encode.length = true := by
  have bodyFits := archive.body_fits
  have commentFits := archive.comment_fits
  unfold maxCentralDirectoryBytes at limited
  rw [archive.length_encode, Zip.Archive.endOffset]
  exact decide_eq_true (by omega)

theorem verify_encode_iff {archive : Zip.Archive} (limited : archive.directory.length ≤ maxCentralDirectoryBytes)
    (last : Zip.LastEnd archive.encode archive.endOffset) (announced : asset.size = archive.encode.length)
    (address : validateGitHubReleaseAssetUrl platform asset.browserDownloadUrl repository tag = .ok ())
    (exact_ : Exact archive.encode fetcher) :
    verifyPackageRootEntryPoint platform fetcher asset repository tag entryPoint = .ok () ↔
      Exists fun entry => entry ∈ archive.entries ∧ utf8Text entry.name = entryPoint := by
  have positive : 0 < archive.encode.length := by
    rw [archive.length_encode]
    omega
  rw [verify_exact_iff (isSafe_encode limited) positive announced address exact_, lists_encode_iff limited last]

/-! ## Any bytes -/

theorem findEndOfCentralDirectory_inRange (bytes : List UInt8) :
    findEndOfCentralDirectory bytes ≠ .error .outOfRange := by
  rcases findEndOfCentralDirectory_spec bytes with ⟨offset, found, _⟩ | ⟨isNone, _⟩
  · rw [found]
    nofun
  · rw [isNone]
    nofun

theorem readEndFields_of_ends (ends : Zip.EndsAt bytes offset) :
    Exists fun fields => readEndFields bytes offset = .ok fields := by
  have within := ends.within
  rcases readUInt_within (by omega : offset + 4 + 2 ≤ bytes.length) with ⟨disk, readsDisk, _⟩
  rcases readUInt_within (by omega : offset + 6 + 2 ≤ bytes.length) with ⟨directoryDisk, readsDirectoryDisk, _⟩
  rcases readUInt_within (by omega : offset + 8 + 2 ≤ bytes.length) with ⟨diskEntries, readsDiskEntries, _⟩
  rcases readUInt_within (by omega : offset + 10 + 2 ≤ bytes.length) with ⟨entries, readsEntries, _⟩
  rcases readUInt_within (by omega : offset + 12 + 4 ≤ bytes.length) with ⟨directorySize, readsSize, _⟩
  rcases readUInt_within (by omega : offset + 16 + 4 ≤ bytes.length) with ⟨directoryOffset, readsOffset, _⟩
  refine ⟨⟨disk, directoryDisk, diskEntries, entries, directorySize, directoryOffset⟩, ?_⟩
  simp only [readEndFields, readsDisk, readsDirectoryDisk, readsDiskEntries, readsEntries, readsSize, readsOffset,
    entryPoint_ok_bind]
  rfl

theorem fetchRange_inRange (request : Nat) (url range : String) :
    fetchRange fetcher request url range ≠ .error .outOfRange := by
  have parses : forall value, parseContentRange value ≠ .error .outOfRange := by
    intro value
    unfold parseContentRange
    split
    · nofun
    · split
      · nofun
      · nofun
  unfold fetchRange
  split
  · nofun
  · split
    · nofun
    · split
      · rename_i parsed
        rintro ⟨⟩
        exact parses _ parsed
      · split
        · nofun
        · nofun

/-- What follows a step that stays in range. -/
theorem inRange_bind {Value Result : Type} {first : Except EntryPointFault Value}
    {rest : Value -> Except EntryPointFault Result} (firstInRange : first ≠ .error .outOfRange)
    (restInRange : forall value, first = .ok value -> rest value ≠ .error .outOfRange) :
    (first >>= rest) ≠ .error .outOfRange := by
  cases first with
  | error fault =>
    intro same
    exact firstInRange (congrArg Except.error (Except.error.inj same))
  | ok value => exact restInRange value rfl

theorem verifyDirectory_inRange (tail : RangeBytes) :
    verifyDirectory fetcher asset tail entryPoint ≠ .error .outOfRange := by
  rw [verifyDirectory]
  split
  · nofun
  · apply inRange_bind (findEndOfCentralDirectory_inRange tail.bytes)
    intro offset found
    rcases readEndFields_of_ends (findEndOfCentralDirectory_ok_iff.mp found).ends with ⟨fields, read⟩
    rw [read, entryPoint_ok_bind]
    split
    · nofun
    · apply inRange_bind (fetchRange_inRange 1 _ _)
      intro central _
      split
      · nofun
      · apply inRange_bind (walkDirectory_spec _ _ _ _).2
        intro found _
        split
        · nofun
        · nofun

theorem verifyPackageRootEntryPoint_inRange (platform : GitHubPlatform) (fetcher : RangeFetcher)
    (asset : GitHubAsset) (repository tag entryPoint : String) :
    verifyPackageRootEntryPoint platform fetcher asset repository tag entryPoint ≠ .error .outOfRange := by
  rw [verifyPackageRootEntryPoint]
  split
  · nofun
  · apply inRange_bind (fetchRange_inRange 0 _ _)
    intro tail _
    exact verifyDirectory_inRange tail

theorem rootEntryPoint_checked :
    (forall platform fetcher (asset : GitHubAsset) repository tag entryPoint (archive : Zip.Archive),
      archive.directory.length ≤ maxCentralDirectoryBytes -> Zip.LastEnd archive.encode archive.endOffset ->
      asset.size = archive.encode.length ->
      validateGitHubReleaseAssetUrl platform asset.browserDownloadUrl repository tag = .ok () ->
      Exact archive.encode fetcher ->
      (verifyPackageRootEntryPoint platform fetcher asset repository tag entryPoint = .ok () ↔
        Exists fun entry => entry ∈ archive.entries ∧ utf8Text entry.name = entryPoint) ∧
      ((forall entry, entry ∈ archive.entries -> Exists fun text => entry.name = utf8Bytes text) ->
        (verifyPackageRootEntryPoint platform fetcher asset repository tag entryPoint = .ok () ↔
          Exists fun entry => entry ∈ archive.entries ∧ entry.name = utf8Bytes entryPoint))) ∧
    (forall platform fetcher (asset : GitHubAsset) repository tag entryPoint,
      verifyPackageRootEntryPoint platform fetcher asset repository tag entryPoint ≠ .error .outOfRange) ∧
    forall bytes : List UInt8,
      findEndOfCentralDirectory bytes ≠ .error .outOfRange ∧
      (forall offset, findEndOfCentralDirectory bytes = .ok offset ↔ Zip.LastEnd bytes offset) ∧
      forall expectedEntries entryPoint,
        centralDirectoryHasRootEntryPoint bytes expectedEntries entryPoint ≠ .error .outOfRange ∧
        (centralDirectoryHasRootEntryPoint bytes expectedEntries entryPoint = .ok true ->
          Zip.NamedFrom bytes (Names entryPoint) 0 expectedEntries) := by
  refine ⟨?_, verifyPackageRootEntryPoint_inRange, ?_⟩
  · intro platform fetcher asset repository tag entryPoint archive limited last announced address exact_
    have verified := @verify_encode_iff entryPoint fetcher platform asset repository tag archive limited last
      announced address exact_
    refine ⟨verified, ?_⟩
    intro texts
    rw [verified]
    apply exists_congr
    intro entry
    apply and_congr_right
    intro member
    rcases texts entry member with ⟨text, isText⟩
    rw [isText, utf8Text_utf8Bytes]
    constructor
    · rintro rfl
      rfl
    · exact utf8Bytes_injective
  · intro bytes
    refine ⟨findEndOfCentralDirectory_inRange bytes, fun offset => findEndOfCentralDirectory_ok_iff, ?_⟩
    intro expectedEntries entryPoint
    exact ⟨(walkDirectory_spec _ _ _ _).2, (walkDirectory_spec _ _ _ _).1.mp⟩

/-! ## Packages -/

namespace Package

def address : String :=
  "https://github.com/jan2xo/BKE_AIR_STACK/releases/download/v1.0.0/AirStack-1.0.0-Windows-x64.update.zip"

def addressing : GitHubPlatform where
  fetchRelease _ _ := .error .unavailable
  fetchAsset _ := .error .unavailable
  parseUrl raw :=
    if raw = address then
      some ⟨"https:", "github.com",
        "/jan2xo/BKE_AIR_STACK/releases/download/v1.0.0/AirStack-1.0.0-Windows-x64.update.zip"⟩
    else none
  sha256 _ := ""
  parseJson _ := none
  safeInteger _ := none
  hasRootEntryPoint _ _ := .error .unavailable

def packageAsset (bytes : List UInt8) : GitHubAsset where
  name := "AirStack-1.0.0-Windows-x64.update.zip"
  size := bytes.length
  digest := ""
  browserDownloadUrl := address

abbrev verify (fetcher : RangeFetcher) (bytes : List UInt8) : Except EntryPointFault Unit :=
  verifyPackageRootEntryPoint addressing fetcher (packageAsset bytes) "jan2xo/BKE_AIR_STACK" "v1.0.0" "App.exe"

theorem address_valid (bytes : List UInt8) :
    validateGitHubReleaseAssetUrl addressing (packageAsset bytes).browserDownloadUrl "jan2xo/BKE_AIR_STACK" "v1.0.0" =
      .ok () := by
  change validateGitHubReleaseAssetUrl addressing address "jan2xo/BKE_AIR_STACK" "v1.0.0" = .ok ()
  decide +kernel

def appEntry : Zip.Entry where
  header := List.replicate 24 0
  attributes := List.replicate 12 0
  name := utf8Bytes "App.exe"
  extra := []
  comment := []
  header_length := by decide
  attributes_length := by decide
  name_fits := by decide
  extra_fits := by decide
  comment_fits := by decide

def otherEntry : Zip.Entry :=
  { appEntry with
    name := utf8Bytes "Other.exe"
    name_fits := by decide }

def plain : Zip.Archive where
  body := []
  entries := [otherEntry, appEntry]
  comment := []
  entries_fit := by decide
  directory_fits := by decide +kernel
  body_fits := by decide
  comment_fits := by decide

/-- A package that holds another one. -/
def nesting : Zip.Archive where
  body := plain.encode
  entries := [otherEntry]
  comment := []
  entries_fit := by decide
  directory_fits := by decide +kernel
  body_fits := by decide +kernel
  comment_fits := by decide

/-- The range that a server is asked for. -/
def requested? (text : List Char) : Option (Nat × Nat) :=
  if "bytes=".toList.isPrefixOf text then
    match numberUpTo '-' (text.drop 6) with
    | none => none
    | some (start, rest) => (decimal? rest).map fun stop => (start, stop)
  else none

def server (bytes : List UInt8) : RangeFetcher := fun _ _ range =>
  (requested? range.toList).map fun asked => rangeAnswer bytes asked.1 asked.2

theorem requested?_rangeHeader (start stop : Nat) :
    requested? (rangeHeader start stop).toList = some (start, stop) := by
  have text : (rangeHeader start stop).toList =
      "bytes=".toList ++ (Nat.toDigits 10 start ++ '-' :: Nat.toDigits 10 stop) := by
    simp only [rangeHeader, String.toList_append, Nat.toString_eq_ofList_toDigits, String.toList_ofList,
      List.append_assoc]
    rfl
  have begins : "bytes=".toList.isPrefixOf (rangeHeader start stop).toList = true := by
    rw [List.isPrefixOf_iff_prefix, text]
    exact List.prefix_append _ _
  have rest : (rangeHeader start stop).toList.drop 6 =
      Nat.toDigits 10 start ++ '-' :: Nat.toDigits 10 stop := by
    rw [text]
    rfl
  rw [requested?, if_pos begins, rest, numberUpTo_toDigits _ (by decide)]
  simp only [decimal?_toDigits, Option.map_some]

theorem exact_server (bytes : List UInt8) : Exact bytes (server bytes) := by
  intro request url start stop _ _
  rw [server, requested?_rangeHeader]
  rfl

theorem last_plain : Zip.LastEnd plain.encode plain.endOffset :=
  findEndOfCentralDirectory_ok_iff.mp (by decide +kernel)

theorem last_nesting : Zip.LastEnd nesting.encode nesting.endOffset :=
  findEndOfCentralDirectory_ok_iff.mp (by decide +kernel)

theorem rootEntryPoint_checked_plain : verify (server plain.encode) plain.encode = .ok () := by
  have checked := rootEntryPoint_checked.1 addressing (server plain.encode) (packageAsset plain.encode)
    "jan2xo/BKE_AIR_STACK" "v1.0.0" "App.exe" plain (by decide +kernel) last_plain rfl (address_valid plain.encode)
    (exact_server plain.encode)
  apply checked.1.mpr
  exact ⟨appEntry, List.mem_cons_of_mem _ List.mem_cons_self, utf8Text_utf8Bytes "App.exe"⟩

theorem entryPoint_sound_iff_plain :
    Lists "App.exe" plain.encode ∧
      ((forall fetcher, Honest plain.encode fetcher -> verify fetcher plain.encode = .ok () ->
          Lists "App.exe" plain.encode) ↔
        (Misleading "App.exe" plain.encode -> Lists "App.exe" plain.encode)) := by
  have sound := entryPoint_sound_iff addressing (packageAsset plain.encode) "jan2xo/BKE_AIR_STACK" "v1.0.0" "App.exe"
    plain.encode (by decide +kernel) (by decide +kernel) rfl (address_valid plain.encode)
  refine ⟨?_, sound.2⟩
  apply (lists_encode_iff (by decide +kernel) last_plain).mpr
  exact ⟨appEntry, List.mem_cons_of_mem _ List.mem_cons_self, utf8Text_utf8Bytes "App.exe"⟩

/-- Answers the end with that of the package inside. -/
def nestedServer : RangeFetcher :=
  answering (rangeAnswer nesting.encode 0 (plain.encode.length - 1))
    (rangeAnswer nesting.encode 0 (plain.directory.length - 1))

theorem verified_not_listed_when_nested :
    Honest nesting.encode nestedServer ∧ verify nestedServer nesting.encode = .ok () ∧
      ¬ Lists "App.exe" nesting.encode := by
  refine ⟨?_, by decide +kernel, ?_⟩
  · intro request url range
    cases request with
    | zero => exact ⟨0, plain.encode.length - 1, Nat.zero_le _, by decide +kernel, rfl⟩
    | succ request => exact ⟨0, plain.directory.length - 1, Nat.zero_le _, by decide +kernel, rfl⟩
  · rw [lists_encode_iff (by decide +kernel) last_nesting]
    rintro ⟨entry, member, isNamed⟩
    cases List.mem_singleton.mp member
    have isOther : utf8Text otherEntry.name = "Other.exe" := utf8Text_utf8Bytes "Other.exe"
    rw [isOther] at isNamed
    exact absurd isNamed (by decide)

/-! ### A record that begins in another one -/

/-- The comment goes on with a record that begins in the length of the
comment. -/
def straddlingHead : List UInt8 :=
  littleEndian 2 0x0605 ++ (List.replicate 16 0 ++ littleEndian 2 19260)

def straddling : Zip.Archive where
  body := []
  entries := [appEntry]
  comment := straddlingHead ++ List.replicate 19260 0
  entries_fit := by decide
  directory_fits := by decide +kernel
  body_fits := by decide
  comment_fits := by
    rw [List.length_append, List.length_replicate]
    decide

theorem comment_straddling {byte : UInt8} (member : byte ∈ straddling.comment) : byte ≠ 0x50 := by
  have head : forall byte, byte ∈ straddlingHead -> byte ≠ 0x50 := by decide +kernel
  rcases List.mem_append.mp member with inHead | inRest
  · exact head byte inHead
  · rw [List.eq_of_mem_replicate inRest]
    decide

/-- A record begins with a byte that the comment does not have. -/
theorem first_of_endsAt {bytes : List UInt8} (ends : Zip.EndsAt bytes offset) :
    bytes[offset]? = some 0x50 := by
  have isFirst : UInt8.ofNat Zip.endSignature = 0x50 := by decide
  rw [first_of_readLittleEndian ends.signature, isFirst]

/-- From the length of the comment on. -/
theorem drop_straddling :
    straddling.encode.drop (straddling.endOffset + 20) =
      (littleEndian 2 19280 ++ straddlingHead) ++ List.replicate 19260 0 := by
  have isLength : straddling.comment.length = 19280 := by
    rw [straddling, List.length_append, List.length_replicate]
    rfl
  rw [← List.drop_drop, straddling.encode_end, Zip.Archive.endRecord, isLength]
  rfl

theorem last_straddling : Zip.LastEnd straddling.encode (straddling.endOffset + 20) := by
  have within : straddling.endOffset + 20 ≤ straddling.encode.length := by
    rw [straddling.length_encode]
    omega
  constructor
  · have here : Zip.EndsAt (straddling.encode.drop (straddling.endOffset + 20)) 0 := by
      rw [drop_straddling]
      refine ⟨?_, 19260, ?_, ?_⟩
      · rw [readLittleEndian_append_left 4 (by decide)]
        decide
      · rw [readLittleEndian_append_left 2 (by decide)]
        decide
      · rw [List.length_append, List.length_replicate]
        rfl
    exact (Zip.endsAt_drop within).mp here
  · intro later after ends
    have far : straddling.endOffset + 20 + (later - (straddling.endOffset + 20)) = later := by omega
    have begins := first_of_endsAt ends
    rw [← far, ← List.getElem?_drop, drop_straddling, List.append_assoc] at begins
    have next : later - (straddling.endOffset + 20) = later - (straddling.endOffset + 20) - 1 + 1 := by omega
    rw [next] at begins
    have member : (0x50 : UInt8) ∈ (0x4B : UInt8) :: straddling.comment := List.mem_of_getElem? begins
    rcases List.mem_cons.mp member with first | inComment
    · exact absurd first (by decide)
    · exact comment_straddling inComment rfl

theorem listed_not_verified_when_straddling :
    (forall offset, ¬ Zip.EndsAt straddling.comment offset) ∧
    (Exists fun entry => entry ∈ straddling.entries ∧ utf8Text entry.name = "App.exe") ∧
    straddling.directory.length ≤ maxCentralDirectoryBytes ∧
    Exact straddling.encode (server straddling.encode) ∧
    verify (server straddling.encode) straddling.encode ≠ .ok () := by
  have limited : straddling.directory.length ≤ maxCentralDirectoryBytes := by decide +kernel
  have positive : 0 < straddling.encode.length := by
    rw [straddling.length_encode]
    omega
  refine ⟨?_, ⟨appEntry, List.mem_cons_self, utf8Text_utf8Bytes "App.exe"⟩, limited, exact_server _, ?_⟩
  · intro offset ends
    exact comment_straddling (List.mem_of_getElem? (first_of_endsAt ends)) rfl
  · intro verified
    have listed := (verify_exact_iff (isSafe_encode limited) positive rfl (address_valid straddling.encode)
      (exact_server straddling.encode)).mp verified
    rcases listed with ⟨fields, ⟨offset, last, fieldsAt, admissible⟩, _⟩
    cases last.unique last_straddling
    have within : straddling.endOffset + 20 ≤ straddling.encode.length := by
      rw [straddling.length_encode]
      omega
    have here : Zip.EndFieldsAt (straddling.encode.drop (straddling.endOffset + 20)) 0 fields :=
      (Zip.endFieldsAt_drop within).mpr fieldsAt
    have noEntries := here.entries
    rw [drop_straddling, readLittleEndian_append_left 2 (by decide)] at noEntries
    have isZero : fields.entries = 0 := by
      apply Option.some.inj
      rw [← noEntries]
      decide
    simp only [isAdmissible, isZero, Nat.le_refl, decide_true, Bool.or_true, Bool.true_or, Bool.not_true,
      Bool.false_eq_true] at admissible

end Package

end Catalog
end DigitalSolutions
