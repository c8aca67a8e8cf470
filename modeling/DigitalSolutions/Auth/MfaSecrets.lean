import DigitalSolutions.Foundation.BitGroups
import DigitalSolutions.Foundation.Checks
import DigitalSolutions.Platform.Text

namespace DigitalSolutions
namespace Auth

open Foundation Platform

/-!
# MFA secrets and recovery codes

Both are bytes written in Base32.  A secret is decoded leniently: separators
are dropped and letters are upper-cased before each is looked up.  A recovery
code is never decoded; what is typed is reduced to its letters and digits and
compared by its hash.
-/

variable {char : Char}
variable {code : String} {original : List Char} {drawn : List UInt8}

inductive MfaFailure
  | message (text : String)
  | typeError
  deriving DecidableEq

def invalidMfaSecret : MfaFailure := .message "INVALID_MFA_SECRET"

def alphabet : List Char := "ABCDEFGHIJKLMNOPQRSTUVWXYZ234567".toList

/-- `alphabet[index]` as it is appended to a text. -/
def letterAt (index : Nat) : List Char :=
  match alphabet[index]? with
  | some letter => [letter]
  | none => "undefined".toList

def base32Encode (input : List UInt8) : String :=
  let bits := input.flatMap (fun byte => binary 8 byte.toNat)
  String.ofList ((groups 5 bits).flatMap letterAt)

/-- What the pattern `=|\s|-` matches. -/
def isSeparator (char : Char) : Bool := char = '=' || isWhiteSpace char || char = '-'

/-- `alphabet.indexOf(char)`, which is not negative. -/
def alphabetIndex (char : Char) : Except MfaFailure Nat :=
  match alphabet.idxOf? char with
  | none => .error invalidMfaSecret
  | some index => .ok index

def base32Decode (value : String) : Except MfaFailure (List UInt8) := do
  let chars := toUpperCase (String.ofList (value.toList.filter (fun char => !isSeparator char)))
  let indices <- chars.toList.mapM alphabetIndex
  let bits := indices.flatMap (binary 5)
  return (wholeGroups 8 bits).map UInt8.ofNat

/-- A secret of twenty drawn bytes. -/
def generateTotpSecret (drawn : List UInt8) : String := base32Encode drawn

/-! ## Recovery codes -/

def isLineTerminator (char : Char) : Bool := char.toNat ∈ [0x0A, 0x0D, 0x2028, 0x2029]

/-- The matches of `.{1,5}` in a text; where there are none, `match` gives `null`. -/
def matchFives (text : String) : List String :=
  ((text.toList.splitOnP isLineTerminator).flatMap (everyPiece 5)).map String.ofList

def recoveryCode (drawn : List UInt8) : Except MfaFailure String :=
  match matchFives (base32Encode drawn) with
  | [] => .error .typeError
  | fives => .ok ("-".intercalate fives)

/-- One code for each draw of ten bytes. -/
def generateRecoveryCodes (draws : List (List UInt8)) : Except MfaFailure (List String) := draws.mapM recoveryCode

/-- What `[A-Z2-7]` matches under the flag `i`.  Without the flag `u` no other
character folds into the class. -/
def isCodeCharacter (char : Char) : Bool :=
  ('A' ≤ char && char ≤ 'Z') || ('a' ≤ char && char ≤ 'z') || ('2' ≤ char && char ≤ '7')

def normalizeRecoveryCode (code : String) : String := toUpperCase (String.ofList (code.toList.filter isCodeCharacter))

def hashRecoveryCode (hmac : String -> String) (code : String) : String := hmac (normalizeRecoveryCode code)

/-! ## Letters -/

theorem letterAt_spec {index : Nat} (small : index < 2 ^ 5) :
    Exists fun letter => letterAt index = [letter] ∧ letter ∈ alphabet ∧ alphabetIndex letter = .ok index := by
  have found : forall index, index < 32 -> (alphabet[index]?.map alphabetIndex) = some (.ok index) := by decide
  have inAlphabet : index < alphabet.length := small
  refine ⟨alphabet[index], ?_, List.getElem_mem inAlphabet, ?_⟩
  · rw [letterAt, List.getElem?_eq_getElem inAlphabet]
  · have isFound := found index small
    rw [List.getElem?_eq_getElem inAlphabet] at isFound
    exact Option.some.inj isFound

/-- A run of groups is written in letters that are looked up again. -/
theorem letters_read {indices : List Nat} (small : forall index, index ∈ indices -> index < 2 ^ 5) :
    (forall letter, letter ∈ indices.flatMap letterAt -> letter ∈ alphabet) ∧
      (indices.flatMap letterAt).mapM alphabetIndex = .ok indices := by
  induction indices with
  | nil => exact ⟨nofun, rfl⟩
  | cons index later inductionHypothesis =>
    rcases inductionHypothesis (fun other member => small other (List.mem_cons_of_mem index member)) with
      ⟨laterLetters, laterRead⟩
    rcases letterAt_spec (small index List.mem_cons_self) with ⟨letter, isLetter, inAlphabet, isIndex⟩
    rw [List.flatMap_cons, isLetter, List.singleton_append]
    constructor
    · intro other member
      rcases List.mem_cons.mp member with rfl | inLater
      · exact inAlphabet
      · exact laterLetters other inLater
    · rw [List.mapM_cons, isIndex, laterRead]
      rfl

theorem alphabetIndex_of_mem (member : char ∈ alphabet) :
    Exists fun index => alphabetIndex char = .ok index := by
  cases found : alphabet.idxOf? char with
  | none => exact absurd member (List.idxOf?_eq_none_iff.mp found)
  | some index => exact ⟨index, by rw [alphabetIndex, found]⟩

theorem alphabetIndex_of_not_mem (foreign : char ∉ alphabet) :
    alphabetIndex char = .error invalidMfaSecret := by
  rw [alphabetIndex, List.idxOf?_eq_none_iff.mpr foreign]

/-- A look-up of characters fails exactly if one of them is not in the alphabet. -/
theorem mapM_alphabetIndex (chars : List Char) :
    ((forall char, char ∈ chars -> char ∈ alphabet) -> Exists fun indices => chars.mapM alphabetIndex = .ok indices) ∧
      ((Exists fun char => char ∈ chars ∧ char ∉ alphabet) -> chars.mapM alphabetIndex = .error invalidMfaSecret) := by
  induction chars with
  | nil =>
    constructor
    · intro _
      exact ⟨[], rfl⟩
    · rintro ⟨_, ⟨⟩, _⟩
  | cons first later inductionHypothesis =>
    rw [List.mapM_cons]
    constructor
    · intro letters
      rcases alphabetIndex_of_mem (letters first List.mem_cons_self) with ⟨index, isIndex⟩
      rcases inductionHypothesis.1 (fun char member => letters char (List.mem_cons_of_mem first member)) with
        ⟨indices, areIndices⟩
      exact ⟨index :: indices, by rw [isIndex, areIndices]; rfl⟩
    · rintro ⟨char, member, foreign⟩
      by_cases inAlphabet : first ∈ alphabet
      · rcases alphabetIndex_of_mem inAlphabet with ⟨index, isIndex⟩
        have inLater : char ∈ later := by
          rcases List.mem_cons.mp member with rfl | inLater
          · exact absurd inAlphabet foreign
          · exact inLater
        rw [isIndex, inductionHypothesis.2 ⟨char, inLater, foreign⟩]
        rfl
      · rw [alphabetIndex_of_not_mem inAlphabet]
        rfl

/-! ## What is read of a text -/

/-- The characters outside ASCII that are upper-cased to letters of the
alphabet. -/
def foldedLetters : List Char := ['ß', 'ı', 'ſ', 'ﬀ', 'ﬁ', 'ﬂ', 'ﬃ', 'ﬄ', 'ﬅ', 'ﬆ']

/-- A character that is no separator and no Base32 character in either case. -/
def Foreign (char : Char) : Prop := isSeparator char = false ∧ isCodeCharacter char = false

/-- A character that is upper-cased to letters of the alphabet. -/
def IsRead (char : Char) : Prop := forall upper, upper ∈ upperCase char -> upper ∈ alphabet

instance (char : Char) : Decidable (IsRead char) :=
  decidable_of_iff ((upperCase char).all (fun upper => decide (upper ∈ alphabet)) = true) (by simp [IsRead])

theorem isRead_ascii : forall code, code < 128 ->
    (IsRead (Char.ofNat code) ↔ isCodeCharacter (Char.ofNat code) = true ∨ Char.ofNat code ∈ foldedLetters) := by
  decide +kernel

theorem ascii_of_letter : forall letter, letter ∈ alphabet -> letter.toNat < 128 := forall_of_all (by decide)

theorem ascii_of_code (isCode : isCodeCharacter char = true) : char.toNat < 128 := by
  have bound : 'Z'.toNat = 90 ∧ 'z'.toNat = 122 ∧ '7'.toNat = 55 := ⟨rfl, rfl, rfl⟩
  simp only [isCodeCharacter, Bool.or_eq_true, Bool.and_eq_true, decide_eq_true_eq] at isCode
  rcases isCode with (⟨_, upper⟩ | ⟨_, lower⟩) | ⟨_, digit⟩
  · have small : char.toNat ≤ 'Z'.toNat := upper
    omega
  · have small : char.toNat ≤ 'z'.toNat := lower
    omega
  · have small : char.toNat ≤ '7'.toNat := digit
    omega

theorem isSeparator_of_code (isCode : isCodeCharacter char = true) : isSeparator char = false := by
  have inAscii : forall code, code < 128 -> isCodeCharacter (Char.ofNat code) = true ->
      isSeparator (Char.ofNat code) = false := by decide +kernel
  have kept := inAscii char.toNat (ascii_of_code isCode)
  rw [Char.ofNat_toNat] at kept
  exact kept isCode

theorem isRead_folded : forall folded, folded ∈ foldedLetters -> IsRead folded := forall_of_all (by decide)

theorem upperCase_other (outside : 128 ≤ char.toNat) (plain : char ∉ foldedLetters) :
    upperCase char = [char] := by
  have notLower : ¬('a' ≤ char ∧ char ≤ 'z') := by
    rintro ⟨_, below⟩
    have small : char.toNat ≤ 'z'.toNat := below
    have isCode : 'z'.toNat = 122 := rfl
    omega
  simp only [foldedLetters, List.mem_cons, List.not_mem_nil, or_false, not_or] at plain
  rcases plain with ⟨eszett, dotless, long, ff, fi, fl, ffi, ffl, longT, st⟩
  unfold upperCase
  rw [if_neg notLower, if_neg eszett, if_neg ff, if_neg fi, if_neg fl, if_neg ffi, if_neg ffl,
    if_neg (not_or.mpr ⟨longT, st⟩), if_neg dotless, if_neg long]

/-- Which characters are read as letters of the alphabet. -/
theorem isRead_iff (char : Char) : IsRead char ↔ isCodeCharacter char = true ∨ char ∈ foldedLetters := by
  by_cases ascii : char.toNat < 128
  · have read := isRead_ascii char.toNat ascii
    rwa [Char.ofNat_toNat] at read
  · by_cases folded : char ∈ foldedLetters
    · exact iff_of_true (isRead_folded char folded) (Or.inr folded)
    · have notRead : ¬IsRead char := by
        intro letters
        rw [IsRead, upperCase_other (by omega) folded] at letters
        exact ascii (ascii_of_letter char (letters char (List.mem_singleton.mpr rfl)))
      have noCode : ¬(isCodeCharacter char = true ∨ char ∈ foldedLetters) := by
        rintro (isCode | isFolded)
        · exact ascii (ascii_of_code isCode)
        · exact folded isFolded
      exact iff_of_false notRead noCode

/-- The characters that are looked up. -/
def readChars (value : String) : List Char :=
  (value.toList.filter (fun char => !isSeparator char)).flatMap upperCase

theorem base32Decode_eq (value : String) :
    base32Decode value = do
      let indices <- (readChars value).mapM alphabetIndex
      return (wholeGroups 8 (indices.flatMap (binary 5))).map UInt8.ofNat := by
  unfold base32Decode
  simp only [toUpperCase, String.toList_ofList]
  rfl

/-- A text is decoded unless a character of it is neither dropped nor read as letters. -/
theorem foreign_read_iff (value : String) :
    (Exists fun char => char ∈ readChars value ∧ char ∉ alphabet) ↔
      Exists fun char => char ∈ value.toList ∧ Foreign char ∧ char ∉ foldedLetters := by
  constructor
  · rintro ⟨upper, member, noLetter⟩
    rcases List.mem_flatMap.mp member with ⟨char, kept, isUpper⟩
    rcases List.mem_filter.mp kept with ⟨inValue, noSeparator⟩
    have unread : ¬(isCodeCharacter char = true ∨ char ∈ foldedLetters) := by
      intro read
      exact noLetter ((isRead_iff char).mpr read upper isUpper)
    rcases not_or.mp unread with ⟨noCode, noFolded⟩
    have isKept : isSeparator char = false := by simpa using noSeparator
    exact ⟨char, inValue, ⟨isKept, Bool.eq_false_iff.mpr noCode⟩, noFolded⟩
  · rintro ⟨char, inValue, ⟨noSeparator, noCode⟩, noFolded⟩
    have unread : ¬IsRead char := by
      intro letters
      rcases (isRead_iff char).mp letters with isCode | isFolded
      · rw [noCode] at isCode
        cases isCode
      · exact noFolded isFolded
    have kept : char ∈ value.toList.filter (fun char => !isSeparator char) :=
      List.mem_filter.mpr ⟨inValue, by simpa using noSeparator⟩
    simp only [IsRead, not_forall] at unread
    rcases unread with ⟨upper, isUpper, noLetter⟩
    exact ⟨upper, List.mem_flatMap.mpr ⟨char, kept, isUpper⟩, noLetter⟩

theorem base32Decode_error_iff (value : String) :
    base32Decode value = .error invalidMfaSecret ↔
      Exists fun char => char ∈ value.toList ∧ Foreign char ∧ char ∉ foldedLetters := by
  rw [← foreign_read_iff, base32Decode_eq]
  rcases mapM_alphabetIndex (readChars value) with ⟨reads, fails⟩
  constructor
  · intro failed
    by_contra noForeign
    have letters : forall char, char ∈ readChars value -> char ∈ alphabet := by
      intro char member
      by_contra foreign
      exact noForeign ⟨char, member, foreign⟩
    rcases reads letters with ⟨indices, read⟩
    rw [read] at failed
    cases failed
  · intro foreign
    rw [fails foreign]
    rfl

/-! ## Encoded and decoded again -/

/-- One letter in upper or lower case. -/
def SameLetter (letter other : Char) : Prop := other = letter ∨ other = lowerCase letter ∨ [other] = upperCase letter

/-- A text written again with letters in either case and with separators in
between. -/
inductive Respelled : List Char -> List Char -> Prop
  | nil : Respelled [] []
  | separator {original written : List Char} {char : Char} (dropped : isSeparator char = true)
    (later : Respelled original written) : Respelled original (char :: written)
  | letter {original written : List Char} {letter other : Char} (same : SameLetter letter other)
    (later : Respelled original written) : Respelled (letter :: original) (other :: written)

theorem Respelled.refl (original : List Char) : Respelled original original := by
  induction original with
  | nil => exact .nil
  | cons letter later inductionHypothesis => exact .letter (Or.inl rfl) inductionHypothesis

theorem Respelled.append_left (front : List Char) {written : List Char}
    (respelled : Respelled original written) : Respelled (front ++ original) (front ++ written) := by
  induction front with
  | nil => exact respelled
  | cons letter later inductionHypothesis => exact .letter (Or.inl rfl) inductionHypothesis

/-- A letter of the alphabet is read in either case. -/
theorem letter_read {letter other : Char} (inAlphabet : letter ∈ alphabet) (same : SameLetter letter other) :
    isCodeCharacter other = true ∧ upperCase other = [letter] := by
  have upperRead : forall letter, letter ∈ alphabet -> isCodeCharacter letter = true ∧ upperCase letter = [letter] :=
    forall_of_all (by decide)
  have lowerRead : forall letter, letter ∈ alphabet ->
      isCodeCharacter (lowerCase letter) = true ∧ upperCase (lowerCase letter) = [letter] :=
    forall_of_all (by decide)
  rcases same with rfl | rfl | isUpper
  · exact upperRead other inAlphabet
  · exact lowerRead letter inAlphabet
  · rw [(upperRead letter inAlphabet).2] at isUpper
    cases isUpper
    exact upperRead letter inAlphabet

/-- A reader that drops separators and keeps Base32 characters reads the
letters that were written. -/
theorem respelled_read {keep : Char -> Bool}
    (drops : forall char, isSeparator char = true -> keep char = false)
    (keeps : forall char, isCodeCharacter char = true -> keep char = true) {written : List Char}
    (respelled : Respelled original written)
    (letters : forall letter, letter ∈ original -> letter ∈ alphabet) :
    (written.filter keep).flatMap upperCase = original := by
  induction respelled with
  | nil => rfl
  | @separator original written char dropped later inductionHypothesis =>
    rw [List.filter_cons_of_neg (Bool.eq_false_iff.mp (drops char dropped)), inductionHypothesis letters]
  | @letter original written letter other same later inductionHypothesis =>
    rcases letter_read (letters letter List.mem_cons_self) same with ⟨isCode, isUpper⟩
    rw [List.filter_cons_of_pos (keeps other isCode), List.flatMap_cons, isUpper,
      inductionHypothesis (fun char member => letters char (List.mem_cons_of_mem letter member)),
      List.singleton_append]

theorem readChars_respelled {value : String} (respelled : Respelled original value.toList)
    (letters : forall letter, letter ∈ original -> letter ∈ alphabet) : readChars value = original := by
  apply respelled_read _ _ respelled letters
  · intro char dropped
    rw [dropped, Bool.not_true]
  · intro char isCode
    rw [isSeparator_of_code isCode, Bool.not_false]

/-- The groups of five bits that an encoding is written from. -/
def encodedGroups (input : List UInt8) : List Nat := groups 5 ((input.map UInt8.toNat).flatMap (binary 8))

theorem toList_base32Encode (input : List UInt8) :
    (base32Encode input).toList = (encodedGroups input).flatMap letterAt := by
  rw [encodedGroups, List.flatMap_map, base32Encode, String.toList_ofList]

theorem encodedGroups_lt (input : List UInt8) : forall group, group ∈ encodedGroups input -> group < 2 ^ 5 :=
  fun _ member => groups_lt (isBinary_flatMap 8 _) member

theorem base32Encode_letters (input : List UInt8) :
    forall letter, letter ∈ (base32Encode input).toList -> letter ∈ alphabet := by
  rw [toList_base32Encode]
  exact (letters_read (encodedGroups_lt input)).1

/-- However an encoding is spelled, its bytes are read back. -/
theorem base32Decode_respelled {input : List UInt8} {value : String}
    (respelled : Respelled (base32Encode input).toList value.toList) : base32Decode value = .ok input := by
  have fits : forall number, number ∈ input.map UInt8.toNat -> number < 2 ^ 8 := by
    intro number member
    rcases List.mem_map.mp member with ⟨byte, _, rfl⟩
    exact byte.toNat_lt
  have isRead : readChars value = (base32Encode input).toList :=
    readChars_respelled respelled (base32Encode_letters input)
  have sameBytes : UInt8.ofNat ∘ UInt8.toNat = id := by
    funext byte
    exact UInt8.ofNat_toNat
  rw [base32Decode_eq, isRead, toList_base32Encode, (letters_read (encodedGroups_lt input)).2]
  change Except.ok ((wholeGroups 8 ((encodedGroups input).flatMap (binary 5))).map UInt8.ofNat) = Except.ok input
  rw [encodedGroups, wholeGroups_groups fits (by omega) (by omega), List.map_map, sameBytes, List.map_id]

theorem base32Decode_base32Encode (input : List UInt8) : base32Decode (base32Encode input) = .ok input :=
  base32Decode_respelled (Respelled.refl _)

theorem base32Encode_injective : Function.Injective base32Encode := by
  intro left right same
  have read := base32Decode_base32Encode left
  rw [same, base32Decode_base32Encode right] at read
  exact (Except.ok.inj read).symm

/-! ## Codes as they are typed -/

/-- However the letters of a code are typed, they are what it is normalised to. -/
theorem normalizeRecoveryCode_respelled {input : List UInt8}
    (respelled : Respelled (base32Encode input).toList code.toList) :
    normalizeRecoveryCode code = base32Encode input := by
  have isRead : (code.toList.filter isCodeCharacter).flatMap upperCase = (base32Encode input).toList := by
    apply respelled_read _ (fun _ isCode => isCode) respelled (base32Encode_letters input)
    intro char dropped
    by_contra isCode
    rw [isSeparator_of_code (Bool.not_eq_false _ ▸ isCode)] at dropped
    cases dropped
  rw [normalizeRecoveryCode, toUpperCase, String.toList_ofList, isRead, String.ofList_toList]

theorem respelled_intercalate (fives : List (List Char)) : Respelled fives.flatten (['-'].intercalate fives) := by
  induction fives with
  | nil => exact .nil
  | cons five later inductionHypothesis =>
    cases later with
    | nil =>
      rw [List.flatten_cons, List.flatten_nil, List.append_nil, List.intercalate_singleton]
      exact Respelled.refl five
    | cons next rest =>
      rw [List.flatten_cons, List.intercalate_cons_cons, List.append_assoc]
      exact Respelled.append_left five (.separator rfl inductionHypothesis)

theorem matchFives_base32Encode (input : List UInt8) :
    matchFives (base32Encode input) = (everyPiece 5 (base32Encode input).toList).map String.ofList := by
  have noTerminator : forall letter, letter ∈ alphabet -> isLineTerminator letter = false := forall_of_all (by decide)
  have oneLine : (base32Encode input).toList.splitOnP isLineTerminator = [(base32Encode input).toList] :=
    List.splitOnP_eq_singleton (fun letter member => noTerminator letter (base32Encode_letters input letter member))
  rw [matchFives, oneLine, List.flatMap_singleton]

/-- A recovery code is the encoding with dashes in it. -/
theorem respelled_recoveryCode (made : recoveryCode drawn = .ok code) :
    Respelled (base32Encode drawn).toList code.toList := by
  unfold recoveryCode at made
  rw [matchFives_base32Encode] at made
  split at made
  case h_1 => cases made
  case h_2 fives _ =>
    cases made
    rw [String.toList_intercalate, List.map_map]
    have sameFives : String.toList ∘ String.ofList = id := by
      funext five
      exact String.toList_ofList
    rw [sameFives, List.map_id]
    have joined := respelled_intercalate (everyPiece 5 (base32Encode drawn).toList)
    rwa [flatten_everyPiece (by omega)] at joined

theorem normalizeRecoveryCode_recoveryCode (made : recoveryCode drawn = .ok code) :
    normalizeRecoveryCode code = base32Encode drawn :=
  normalizeRecoveryCode_respelled (respelled_recoveryCode made)

/-- Codes are normalised alike only if they come from the same bytes. -/
theorem drawn_of_normalized {otherDrawn : List UInt8} {other : String}
    (made : recoveryCode drawn = .ok code) (otherMade : recoveryCode otherDrawn = .ok other)
    (same : normalizeRecoveryCode code = normalizeRecoveryCode other) : drawn = otherDrawn := by
  apply base32Encode_injective
  calc
    base32Encode drawn = normalizeRecoveryCode code := (normalizeRecoveryCode_recoveryCode made).symm
    _ = normalizeRecoveryCode other := same
    _ = base32Encode otherDrawn := normalizeRecoveryCode_recoveryCode otherMade

theorem generateRecoveryCodes_normalized {draws : List (List UInt8)} {codes : List String}
    (made : generateRecoveryCodes draws = .ok codes) : codes.map normalizeRecoveryCode = draws.map base32Encode := by
  induction draws generalizing codes with
  | nil =>
    cases made
    rfl
  | cons drawn later inductionHypothesis =>
    rw [generateRecoveryCodes, List.mapM_cons] at made
    rcases check_bind_ok_iff.mp made with ⟨code, isCode, rest⟩
    rcases check_bind_ok_iff.mp rest with ⟨others, areOthers, joined⟩
    cases joined
    rw [List.map_cons, List.map_cons, normalizeRecoveryCode_recoveryCode isCode, inductionHypothesis areOthers]

/-- Where no two of the drawn bytes are the same, no two codes have the same
hash, whatever the letters they are typed in. -/
theorem generateRecoveryCodes_hashes_nodup {hmac : String -> String} (noCollision : Function.Injective hmac)
    {draws : List (List UInt8)} {codes : List String} (distinct : draws.Nodup)
    (made : generateRecoveryCodes draws = .ok codes) : (codes.map (hashRecoveryCode hmac)).Nodup := by
  have hashes : codes.map (hashRecoveryCode hmac) = draws.map (hmac ∘ base32Encode) := by
    rw [← List.map_map, ← generateRecoveryCodes_normalized made, List.map_map]
    rfl
  rw [hashes]
  exact List.Nodup.map (noCollision.comp base32Encode_injective) distinct

/-! ## Base32 is exact up to folded letters -/

/-- What Base32 promises about some bytes and a text. -/
structure Base32Exact (input : List UInt8) (text : String) : Prop where
  decodes : base32Decode (base32Encode input) = .ok input
  respelled : Respelled (base32Encode input).toList text.toList -> base32Decode text = .ok input
  injective : forall other, base32Encode other = base32Encode input -> other = input
  /-- Codes from other bytes are normalised to something else. -/
  distinct : forall other code otherCode, other.length = input.length -> other ≠ input ->
    recoveryCode input = .ok code -> recoveryCode other = .ok otherCode ->
    normalizeRecoveryCode otherCode ≠ normalizeRecoveryCode code
  refuses : (Exists fun char => char ∈ text.toList ∧ Foreign char) -> base32Decode text = .error invalidMfaSecret

/-- A text with a foreign character has one that is not upper-cased to
letters of the alphabet. -/
def ShowsForeign (text : String) : Prop :=
  (Exists fun char => char ∈ text.toList ∧ Foreign char) ->
    Exists fun char => char ∈ text.toList ∧ Foreign char ∧ char ∉ foldedLetters

/-- Encoding, decoding and normalising are exact for all bytes; a text is
refused for its foreign characters exactly if not all of them are folded. -/
theorem base32Exact_iff (input : List UInt8) (text : String) : Base32Exact input text ↔ ShowsForeign text := by
  constructor
  · intro exactly foreign
    exact (base32Decode_error_iff text).mp (exactly.refuses foreign)
  · intro shows
    constructor
    · exact base32Decode_base32Encode input
    · exact base32Decode_respelled
    · intro other same
      exact base32Encode_injective same
    · intro other code otherCode _ different made otherMade same
      exact different (drawn_of_normalized otherMade made same)
    · intro foreign
      exact (base32Decode_error_iff text).mpr (shows foreign)

/-- The letter `ß` is decoded as `SS`. -/
theorem base32Decode_eszett : base32Decode "ß" = .ok [0x94] ∧ ¬Base32Exact [] "ß" := by
  have decoded : base32Decode "ß" = .ok [0x94] := by decide +kernel
  refine ⟨decoded, ?_⟩
  intro exactly
  have refused := exactly.refuses ⟨'ß', by decide, by decide, by decide⟩
  rw [decoded] at refused
  cases refused

end Auth
end DigitalSolutions
