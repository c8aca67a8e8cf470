import Mathlib

namespace DigitalSolutions
namespace Foundation
namespace Url

/-!
# References that begin with a slash

A reference is resolved against the address of a page.  One slash stays at the
origin of the page, two lead to another authority.  On the way, tabs and line
breaks are taken out, dot segments are followed, and what may not stand in its
place is percent-encoded.
-/

variable {Origin : Type}
variable {segments path before : List (List Char)} {fragment : List Char}

/-! ## Characters -/

def isSlash (character : Char) : Bool := character = '/' || character = '\\'

def isTabOrNewline (character : Char) : Bool := character = '\t' || character = '\n' || character = '\r'

/-- A control character or a space. -/
def isEdge (character : Char) : Bool := character.toNat ≤ 0x20

/-- What is encoded everywhere, of the characters that are not named. -/
def isBeyond (character : Char) : Bool := character.toNat < 0x20 || 0x7E < character.toNat

def inPath (character : Char) : Bool :=
  isBeyond character || [' ', '"', '#', '<', '>', '?', '^', '\x60', '\x7b', '\x7d'].contains character

def inQuery (character : Char) : Bool := isBeyond character || [' ', '"', '#', '<', '>', '\''].contains character

def inFragment (character : Char) : Bool := isBeyond character || [' ', '"', '<', '>', '\x60'].contains character

def hexDigit (value : Nat) : Char := if value < 10 then Char.ofNat (48 + value) else Char.ofNat (55 + value)

def percentByte (byte : UInt8) : List Char := ['%', hexDigit (byte.toNat / 16), hexDigit (byte.toNat % 16)]

/-- The characters of a set are written as the bytes of their UTF-8. -/
def percentEncode (set : Char -> Bool) (text : List Char) : List Char :=
  text.flatMap fun character =>
    if set character then (String.utf8EncodeChar character).flatMap percentByte else [character]

/-! ## Paths -/

/-- What stands between the slashes. -/
def segmentsOf : List Char -> List (List Char)
  | [] => [[]]
  | character :: rest =>
    if isSlash character then [] :: segmentsOf rest
    else
      match segmentsOf rest with
      | [] => [[character]]
      | segment :: more => (character :: segment) :: more

def lower (text : List Char) : List Char := text.map Char.toLower

def isSingleDot (segment : List Char) : Bool :=
  lower segment = ['.'] || lower segment = ['%', '2', 'e']

def isDoubleDot (segment : List Char) : Bool :=
  lower segment = ['.', '.'] || lower segment = ['.', '%', '2', 'e'] || lower segment = ['%', '2', 'e', '.'] ||
    lower segment = ['%', '2', 'e', '%', '2', 'e']

/-- A segment of dots, with or without an encoding. -/
def isDots (segment : List Char) : Bool := isSingleDot segment || isDoubleDot segment

/-- Where a segment leads from a path. -/
def turn (path : List (List Char)) (segment : List Char) : List (List Char) :=
  if isDoubleDot segment then path.dropLast
  else if isSingleDot segment then path
  else path ++ [percentEncode inPath segment]

/-- Dots at the end leave an empty segment. -/
def ending (segments : List (List Char)) : List (List Char) :=
  if (segments.getLast?.map isDots).getD false then [[]] else []

def follow (segments : List (List Char)) : List (List Char) := segments.foldl turn [] ++ ending segments

def pathname (path : List (List Char)) : List Char := path.flatMap fun segment => '/' :: segment

/-! ## References -/

structure Located (Origin : Type) where
  origin : Origin
  path : List (List Char)
  query : List Char
  fragment : List Char
  deriving DecidableEq

/-- `search` and `hash`. -/
def marked (mark : Char) (text : List Char) : List Char := if text = [] then [] else mark :: text

/-- The text of what follows the origin. -/
def Located.text (located : Located Origin) : List Char :=
  pathname located.path ++ (marked '?' located.query ++ marked '#' located.fragment)

def isPathEnd (character : Char) : Bool := character = '?' || character = '#'

def queryOf : List Char -> List Char
  | '?' :: rest => rest.takeWhile fun character => character ≠ '#'
  | _ => []

def fragmentOf (text : List Char) : List Char := (text.dropWhile fun character => character ≠ '#').drop 1

/-- The path of a reference as it is written, behind its first slash. -/
def rawPath (text : List Char) : List (List Char) := segmentsOf (text.takeWhile fun character => !isPathEnd character)

/-- What a text behind the first slash of a path leads to. -/
def locate (origin : Origin) (text : List Char) : Located Origin :=
  let rest := text.dropWhile fun character => !isPathEnd character
  { origin
    path := follow (rawPath text)
    query := percentEncode inQuery (queryOf rest)
    fragment := percentEncode inFragment (fragmentOf rest) }

/-- A text without what a parser takes out of it first. -/
def clean (text : List Char) : List Char :=
  (((text.dropWhile isEdge).reverse.dropWhile isEdge).reverse).filter fun character => !isTabOrNewline character

/-- Where the path of a reference is read, and for which origin.  An authority
belongs to a page, of which it takes the scheme. -/
def destination (authority : Origin -> List Char -> Option Origin) (base : Origin) (text : List Char) :
    Option (Origin × List Char) :=
  match clean text with
  | [] => none
  | first :: rest =>
    if isSlash first then
      match rest with
      | [] => some (base, [])
      | second :: more =>
        if isSlash second then
          let named := more.dropWhile isSlash
          let name := named.takeWhile fun character => !isSlash character && !isPathEnd character
          let behind := named.dropWhile fun character => !isSlash character && !isPathEnd character
          (authority base name).map fun origin =>
            (origin, if (behind.head?.map isSlash).getD false then behind.drop 1 else behind)
        else some (base, rest)
    else none

/-- Resolves a reference that begins with a slash. -/
def resolve (authority : Origin -> List Char -> Option Origin) (base : Origin) (text : List Char) :
    Option (Located Origin) :=
  (destination authority base text).map fun found => locate found.1 found.2

/-! ## What percent-encoding writes -/

variable {set : Char -> Bool} {text segment : List Char} {character : Char}

/-- A character that encodes a byte. -/
def isEncoding (character : Char) : Bool := character = '%' || (List.range 16).any fun value => character = hexDigit value

theorem encodings (character : Char) (encodes : isEncoding character = true) :
    inPath character = false ∧ inQuery character = false ∧ inFragment character = false ∧
      isSlash character = false := by
  simp only [isEncoding, Bool.or_eq_true, decide_eq_true_eq, List.any_eq_true, List.mem_range] at encodes
  rcases encodes with rfl | ⟨value, small, rfl⟩
  · decide
  · have all : forall value : Fin 16, inPath (hexDigit value) = false ∧ inQuery (hexDigit value) = false ∧
        inFragment (hexDigit value) = false ∧ isSlash (hexDigit value) = false := by decide
    exact all ⟨value, small⟩

theorem isEncoding_of_percentByte {byte : UInt8} (member : character ∈ percentByte byte) :
    isEncoding character = true := by
  have small : byte.toNat < 256 := byte.toNat_lt
  have digit : forall value, value < 16 -> isEncoding (hexDigit value) = true := by
    intro value below
    rw [isEncoding, Bool.or_eq_true, List.any_eq_true]
    exact Or.inr ⟨value, List.mem_range.mpr below, decide_eq_true rfl⟩
  simp only [percentByte, List.mem_cons, List.not_mem_nil, or_false] at member
  rcases member with rfl | rfl | rfl
  · decide
  · exact digit _ (by omega)
  · exact digit _ (Nat.mod_lt _ (by decide))

theorem mem_percentEncode (member : character ∈ percentEncode set text) :
    character ∈ text ∧ set character = false ∨ isEncoding character = true := by
  rcases List.mem_flatMap.mp member with ⟨original, inText, written⟩
  split at written
  · rcases List.mem_flatMap.mp written with ⟨byte, _, inByte⟩
    exact Or.inr (isEncoding_of_percentByte inByte)
  · rename_i outside
    cases List.mem_singleton.mp written
    exact Or.inl ⟨inText, Bool.eq_false_iff.mpr outside⟩

theorem percentEncode_of_outside (outside : forall character, character ∈ text -> set character = false) :
    percentEncode set text = text := by
  induction text with
  | nil => rfl
  | cons character rest inductionHypothesis =>
    have restOutside : forall other, other ∈ rest -> set other = false :=
      fun other member => outside other (List.mem_cons_of_mem character member)
    have sameRest := inductionHypothesis restOutside
    rw [percentEncode] at sameRest
    rw [percentEncode, List.flatMap_cons, outside character List.mem_cons_self, sameRest]
    rfl

theorem percentEncode_eq_nil_iff : percentEncode set text = [] ↔ text = [] := by
  constructor
  · intro empty
    cases text with
    | nil => rfl
    | cons character rest =>
      rw [percentEncode, List.flatMap_cons, List.append_eq_nil_iff] at empty
      have nothing := empty.1
      split at nothing
      · rw [List.flatMap_eq_nil_iff] at nothing
        cases bytes : String.utf8EncodeChar character with
        | nil => exact absurd bytes String.utf8EncodeChar_ne_nil
        | cons byte more =>
          rw [bytes] at nothing
          cases nothing byte List.mem_cons_self
      · cases nothing
  · rintro rfl
    rfl

/-- Only a dot is written as the byte of one. -/
theorem eq_dot_of_byte {byte : UInt8} {more : List UInt8} (bytes : String.utf8EncodeChar character = byte :: more)
    (isDot : byte.toNat = 0x2E) : character = '.' := by
  have scalar : character.toNat < 0xD800 ∨ 0xDFFF < character.toNat ∧ character.toNat < 0x110000 :=
    character.valid
  have isCode : character.val.toNat = character.toNat := rfl
  have isFirst : forall value : Nat, UInt8.ofNat value = byte -> value < 256 -> value = 0x2E := by
    intro value same small
    rw [← isDot, ← same, UInt8.toNat_ofNat']
    omega
  have code : character.toNat = 0x2E := by
    unfold String.utf8EncodeChar at bytes
    rw [isCode] at bytes
    dsimp only at bytes
    split at bytes
    · exact isFirst _ (List.cons.inj bytes).1 (by omega)
    · split at bytes
      · have impossible := isFirst _ (List.cons.inj bytes).1 (by omega)
        omega
      · split at bytes
        · have impossible := isFirst _ (List.cons.inj bytes).1 (by omega)
          omega
        · have impossible := isFirst _ (List.cons.inj bytes).1 (by omega)
          omega
  have same := Char.ofNat_toNat character
  rw [code] at same
  exact same.symm

theorem percentByte_infix (inSet : set character = true) (member : character ∈ text) :
    Exists fun byte => Exists fun more => String.utf8EncodeChar character = byte :: more ∧
      percentByte byte <:+: percentEncode set text := by
  rcases List.append_of_mem member with ⟨before, after, rfl⟩
  cases bytes : String.utf8EncodeChar character with
  | nil => exact absurd bytes String.utf8EncodeChar_ne_nil
  | cons byte more =>
    refine ⟨byte, more, rfl, percentEncode set before,
      more.flatMap percentByte ++ percentEncode set after, ?_⟩
    simp only [percentEncode, List.flatMap_append, List.flatMap_cons, inSet, if_true, bytes, List.append_assoc]

theorem encoded_dot {byte : UInt8} (dots : isDots text = true) (within : percentByte byte <:+: text) :
    byte.toNat = 0x2E := by
  have small : byte.toNat < 256 := byte.toNat_lt
  have lowered : (percentByte byte).map Char.toLower <:+: lower text := within.map Char.toLower
  have isPercent : Char.toLower '%' = '%' := by decide
  have parts : Char.toLower (hexDigit (byte.toNat / 16)) = '2' ∧ Char.toLower (hexDigit (byte.toNat % 16)) = 'e' := by
    simp only [isDots, isSingleDot, isDoubleDot, Bool.or_eq_true, decide_eq_true_eq] at dots
    simp only [percentByte, List.map_cons, List.map_nil, isPercent] at lowered
    rcases dots with (isText | isText) | ((isText | isText) | isText) | isText
    · rw [isText] at lowered
      simp [List.infix_cons_iff, List.cons_prefix_cons] at lowered
    · rw [isText] at lowered
      simpa [List.infix_cons_iff, List.cons_prefix_cons] using lowered
    · rw [isText] at lowered
      simp [List.infix_cons_iff, List.cons_prefix_cons] at lowered
    all_goals
      rw [isText] at lowered
      simpa [List.infix_cons_iff, List.cons_prefix_cons] using lowered
  have digits : forall value : Fin 16, (Char.toLower (hexDigit value) = '2' -> value = 2) ∧
      (Char.toLower (hexDigit value) = 'e' -> value = 14) := by decide
  have high := (digits ⟨byte.toNat / 16, by omega⟩).1 parts.1
  have low := (digits ⟨byte.toNat % 16, by omega⟩).2 parts.2
  have highValue : byte.toNat / 16 = 2 := congrArg Fin.val high
  have lowValue : byte.toNat % 16 = 14 := congrArg Fin.val low
  omega

/-- An encoded segment is one of dots only if it was one before. -/
theorem isDots_percentEncode (dots : isDots (percentEncode inPath segment) = true) : isDots segment = true := by
  have outside : forall character, character ∈ segment -> inPath character = false := by
    intro character member
    by_contra inSet
    rcases percentByte_infix (Bool.not_eq_false _ ▸ inSet) member with ⟨byte, more, bytes, within⟩
    have isDot := eq_dot_of_byte bytes (encoded_dot dots within)
    rw [isDot] at inSet
    exact inSet (by decide)
  rw [percentEncode_of_outside outside] at dots
  exact dots

/-! ## Normal references -/

/-- A segment as it stands in a path that has been followed. -/
structure NormalSegment (segment : List Char) : Prop where
  outside : forall character, character ∈ segment -> inPath character = false
  noSlash : forall character, character ∈ segment -> isSlash character = false
  notDots : isDots segment = false

structure Located.Normal (located : Located Origin) : Prop where
  path : located.path ≠ []
  segments : forall segment, segment ∈ located.path -> NormalSegment segment
  query : forall character, character ∈ located.query -> inQuery character = false
  fragment : forall character, character ∈ located.fragment -> inFragment character = false

theorem normalSegment_nil : NormalSegment [] :=
  ⟨fun _ member => absurd member List.not_mem_nil, fun _ member => absurd member List.not_mem_nil, by decide⟩

theorem normalSegment_percentEncode (noSlash : forall character, character ∈ segment -> isSlash character = false)
    (notDots : isDots segment = false) : NormalSegment (percentEncode inPath segment) where
  outside character member := by
    rcases mem_percentEncode member with ⟨_, outside⟩ | encodes
    · exact outside
    · exact (encodings character encodes).1
  noSlash character member := by
    rcases mem_percentEncode member with ⟨original, _⟩ | encodes
    · exact noSlash character original
    · exact (encodings character encodes).2.2.2
  notDots := by
    by_contra dots
    rw [isDots_percentEncode (Bool.not_eq_false _ ▸ dots)] at notDots
    cases notDots

theorem segmentsOf_ne_nil (text : List Char) : segmentsOf text ≠ [] := by
  cases text with
  | nil => nofun
  | cons character rest =>
    rw [segmentsOf]
    split
    · nofun
    · split
      · nofun
      · nofun

theorem noSlash_segmentsOf {text segment : List Char} (member : segment ∈ segmentsOf text) :
    forall character, character ∈ segment -> isSlash character = false ∧ character ∈ text := by
  induction text generalizing segment with
  | nil =>
    cases List.mem_singleton.mp member
    nofun
  | cons first rest inductionHypothesis =>
    rw [segmentsOf] at member
    have later : forall other, other ∈ segmentsOf rest -> forall character, character ∈ other ->
        isSlash character = false ∧ character ∈ first :: rest :=
      fun other inRest character inOther =>
        ⟨(inductionHypothesis inRest character inOther).1,
          List.mem_cons_of_mem first (inductionHypothesis inRest character inOther).2⟩
    split at member
    · rcases List.mem_cons.mp member with rfl | inRest
      · nofun
      · exact later segment inRest
    · rename_i notSlash
      have firstToo : isSlash first = false ∧ first ∈ first :: rest :=
        ⟨Bool.eq_false_iff.mpr notSlash, List.mem_cons_self⟩
      split at member
      · cases List.mem_singleton.mp member
        intro character inSegment
        cases List.mem_singleton.mp inSegment
        exact firstToo
      · rename_i head more isCons
        rcases List.mem_cons.mp member with rfl | inMore
        · intro character inSegment
          rcases List.mem_cons.mp inSegment with rfl | inHead
          · exact firstToo
          · exact later head (isCons ▸ List.mem_cons_self) character inHead
        · exact later segment (isCons ▸ List.mem_cons_of_mem head inMore)

theorem turn_plain (path : List (List Char)) (notDots : isDots segment = false) :
    turn path segment = path ++ [percentEncode inPath segment] := by
  rw [isDots, Bool.or_eq_false_iff] at notDots
  rw [turn, notDots.1, notDots.2]
  rfl

theorem follow_ne_nil (some : segments ≠ []) : follow segments ≠ [] := by
  obtain ⟨before, last, rfl⟩ : Exists fun before => Exists fun last => segments = before ++ [last] :=
    ⟨_, _, (List.dropLast_append_getLast some).symm⟩
  intro nothing
  rw [follow, List.append_eq_nil_iff, List.foldl_append, ending, List.getLast?_concat] at nothing
  cases dots : isDots last with
  | true =>
    simp only [Option.map_some, dots, Option.getD_some, if_true] at nothing
    cases nothing.2
  | false =>
    rw [List.foldl_cons, List.foldl_nil, turn_plain _ dots] at nothing
    cases List.append_eq_nil_iff.mp nothing.1 with
    | intro _ isEmpty => cases isEmpty

theorem normal_turn (noSlash : forall character, character ∈ segment -> isSlash character = false)
    (normal : forall other, other ∈ path -> NormalSegment other) :
    forall other, other ∈ turn path segment -> NormalSegment other := by
  intro other member
  unfold turn at member
  split at member
  · exact normal other ((List.dropLast_sublist path).mem member)
  · rename_i notDouble
    split at member
    · exact normal other member
    · rename_i notSingle
      rcases List.mem_append.mp member with inPath | isNew
      · exact normal other inPath
      · cases List.mem_singleton.mp isNew
        apply normalSegment_percentEncode noSlash
        rw [isDots, Bool.eq_false_iff.mpr notDouble, Bool.eq_false_iff.mpr notSingle]
        rfl

theorem follow_normal
    (noSlash : forall segment, segment ∈ segments -> forall character, character ∈ segment ->
      isSlash character = false) :
    forall segment, segment ∈ follow segments -> NormalSegment segment := by
  have turned : forall path : List (List Char), (forall segment, segment ∈ path -> NormalSegment segment) ->
      forall segment, segment ∈ segments.foldl turn path -> NormalSegment segment := by
    induction segments with
    | nil => exact fun path normal => normal
    | cons segment rest inductionHypothesis =>
      intro path normal
      have later : forall other, other ∈ rest -> forall character, character ∈ other ->
          isSlash character = false :=
        fun other member => noSlash other (List.mem_cons_of_mem segment member)
      exact inductionHypothesis later _ (normal_turn (noSlash segment List.mem_cons_self) normal)
  intro segment member
  rcases List.mem_append.mp member with inTurned | isEnding
  · exact turned [] (fun _ impossible => absurd impossible List.not_mem_nil) segment inTurned
  · unfold ending at isEnding
    split at isEnding
    · cases List.mem_singleton.mp isEnding
      exact normalSegment_nil
    · cases isEnding

theorem locate_normal (origin : Origin) (text : List Char) : (locate origin text).Normal where
  path := follow_ne_nil (segmentsOf_ne_nil _)
  segments := follow_normal fun _ member character inSegment => (noSlash_segmentsOf member character inSegment).1
  query character member := by
    rcases mem_percentEncode member with ⟨_, outside⟩ | encodes
    · exact outside
    · exact (encodings character encodes).2.1
  fragment character member := by
    rcases mem_percentEncode member with ⟨_, outside⟩ | encodes
    · exact outside
    · exact (encodings character encodes).2.2.1

/-! ## Resolving what was resolved -/

/-- A path whose text begins with two slashes. -/
def Doubled (path : List (List Char)) : Prop :=
  Exists fun next => Exists fun rest => path = [] :: next :: rest

instance (path : List (List Char)) : Decidable (Doubled path) :=
  match path with
  | [] :: next :: rest => isTrue ⟨next, rest, rfl⟩
  | [] => isFalse (by rintro ⟨_, _, ⟨⟩⟩)
  | [_] => isFalse (by rintro ⟨_, _, ⟨⟩⟩)
  | (_ :: _) :: _ :: _ => isFalse (by rintro ⟨_, _, ⟨⟩⟩)

theorem clean_of_plain (plain : forall character, character ∈ text -> isEdge character = false) :
    clean text = text := by
  have dropped : forall other : List Char, (forall character, character ∈ other -> isEdge character = false) ->
      other.dropWhile isEdge = other := by
    intro other notEdge
    cases other with
    | nil => rfl
    | cons first rest => exact List.dropWhile_cons_of_neg (by rw [notEdge first List.mem_cons_self]; decide)
  have kept : forall character, character ∈ text -> (!isTabOrNewline character) = true := by
    intro character member
    rw [Bool.not_eq_true']
    by_contra removed
    rw [Bool.not_eq_false, isTabOrNewline, Bool.or_eq_true, Bool.or_eq_true, decide_eq_true_eq, decide_eq_true_eq,
      decide_eq_true_eq] at removed
    have notEdge := plain character member
    rcases removed with (rfl | rfl) | rfl
    · exact absurd notEdge (by decide)
    · exact absurd notEdge (by decide)
    · exact absurd notEdge (by decide)
  rw [clean, dropped text plain, dropped text.reverse fun character member => plain character (List.mem_reverse.mp member),
    List.reverse_reverse, List.filter_eq_self.mpr kept]

/-- A space is the only edge among the characters that are not beyond. -/
theorem not_isEdge (inside : isBeyond character = false) (notSpace : character ≠ ' ') : isEdge character = false := by
  rw [isBeyond, Bool.or_eq_false_iff, decide_eq_false_iff_not, decide_eq_false_iff_not] at inside
  rw [isEdge, decide_eq_false_iff_not]
  intro edge
  have isCode : character.toNat = 32 := by omega
  have same := Char.ofNat_toNat character
  rw [isCode] at same
  exact notSpace same.symm

theorem not_isEdge_of_outside (outside : inPath character = false ∨ inQuery character = false ∨
    inFragment character = false) : isEdge character = false := by
  have either : isBeyond character = false ∧ character ≠ ' ' := by
    rcases outside with outside | outside | outside
    · rw [inPath, Bool.or_eq_false_iff] at outside
      exact ⟨outside.1, fun isSpace => absurd outside.2 (by rw [isSpace]; decide)⟩
    · rw [inQuery, Bool.or_eq_false_iff] at outside
      exact ⟨outside.1, fun isSpace => absurd outside.2 (by rw [isSpace]; decide)⟩
    · rw [inFragment, Bool.or_eq_false_iff] at outside
      exact ⟨outside.1, fun isSpace => absurd outside.2 (by rw [isSpace]; decide)⟩
  exact not_isEdge either.1 either.2

theorem mem_marked {mark : Char} (member : character ∈ marked mark text) : character = mark ∨ character ∈ text := by
  unfold marked at member
  split at member
  · cases member
  · exact List.mem_cons.mp member

theorem mem_pathname (member : character ∈ pathname path) :
    character = '/' ∨ Exists fun segment => segment ∈ path ∧ character ∈ segment := by
  rcases List.mem_flatMap.mp member with ⟨segment, inPath, inSegment⟩
  rcases List.mem_cons.mp inSegment with isSlash | within
  · exact Or.inl isSlash
  · exact Or.inr ⟨segment, inPath, within⟩

variable {located : Located Origin}

theorem Located.Normal.notEdge (normal : located.Normal) :
    forall character, character ∈ located.text -> isEdge character = false := by
  intro character member
  rcases List.mem_append.mp member with inPathname | inMarked
  · rcases mem_pathname inPathname with rfl | ⟨segment, inPath, inSegment⟩
    · decide
    · exact not_isEdge_of_outside (Or.inl ((normal.segments segment inPath).outside character inSegment))
  · rcases List.mem_append.mp inMarked with inSearch | inHash
    · rcases mem_marked inSearch with rfl | inQuery
      · decide
      · exact not_isEdge_of_outside (Or.inr (Or.inl (normal.query character inQuery)))
    · rcases mem_marked inHash with rfl | inFragment
      · decide
      · exact not_isEdge_of_outside (Or.inr (Or.inr (normal.fragment character inFragment)))

theorem segmentsOf_pathname (noSlash : forall character, character ∈ segment -> isSlash character = false)
    (others : forall other, other ∈ path -> forall character, character ∈ other -> isSlash character = false) :
    segmentsOf (segment ++ pathname path) = segment :: path := by
  induction path generalizing segment with
  | nil =>
    induction segment with
    | nil => rfl
    | cons character rest inductionHypothesis =>
      have first := noSlash character List.mem_cons_self
      have restNoSlash : forall other, other ∈ rest -> isSlash other = false :=
        fun other member => noSlash other (List.mem_cons_of_mem character member)
      rw [List.cons_append, segmentsOf, first, inductionHypothesis restNoSlash]
      rfl
  | cons next more nextHypothesis =>
    have later := nextHypothesis (others next List.mem_cons_self)
      fun other member => others other (List.mem_cons_of_mem next member)
    induction segment with
    | nil =>
      have isFirst : isSlash '/' = true := by decide
      rw [List.nil_append, pathname, List.flatMap_cons, List.cons_append, segmentsOf, isFirst]
      exact congrArg ([] :: ·) later
    | cons character rest inductionHypothesis =>
      have first := noSlash character List.mem_cons_self
      have restNoSlash : forall other, other ∈ rest -> isSlash other = false :=
        fun other member => noSlash other (List.mem_cons_of_mem character member)
      rw [List.cons_append, segmentsOf, first, inductionHypothesis restNoSlash]
      rfl

theorem follow_of_normal (some : path ≠ [])
    (normal : forall segment, segment ∈ path -> NormalSegment segment) : follow path = path := by
  have turned : forall before : List (List Char), path.foldl turn before = before ++ path := by
    clear some
    induction path with
    | nil => exact fun before => (List.append_nil before).symm
    | cons segment rest inductionHypothesis =>
      intro before
      have first := normal segment List.mem_cons_self
      have later : forall other, other ∈ rest -> NormalSegment other :=
        fun other member => normal other (List.mem_cons_of_mem segment member)
      rw [List.foldl_cons, turn_plain before first.notDots, percentEncode_of_outside first.outside,
        inductionHypothesis later, List.append_assoc, List.singleton_append]
  have noEnding : ending path = [] := by
    rw [ending, List.getLast?_eq_some_getLast some, Option.map_some,
      (normal _ (List.getLast_mem some)).notDots]
    rfl
  rw [follow, turned, noEnding, List.append_nil, List.nil_append]

theorem isPathEnd_of_inPath (outside : inPath character = false) : isPathEnd character = false := by
  by_contra ends
  rw [Bool.not_eq_false, isPathEnd, Bool.or_eq_true, decide_eq_true_eq, decide_eq_true_eq] at ends
  rcases ends with rfl | rfl
  · exact absurd outside (by decide)
  · exact absurd outside (by decide)

/-- A text of a path ends where a query or a fragment begins. -/
theorem takeWhile_marked {path query : List Char}
    (within : forall character, character ∈ path -> isPathEnd character = false) :
    (path ++ (marked '?' query ++ marked '#' fragment)).takeWhile (fun character => !isPathEnd character) = path ∧
    (path ++ (marked '?' query ++ marked '#' fragment)).dropWhile (fun character => !isPathEnd character) =
      marked '?' query ++ marked '#' fragment := by
  have inside : forall character, character ∈ path -> (!isPathEnd character) = true := by
    intro character member
    rw [within character member]
    rfl
  have ends : (marked '?' query ++ marked '#' fragment).takeWhile (fun character => !isPathEnd character) = [] ∧
      (marked '?' query ++ marked '#' fragment).dropWhile (fun character => !isPathEnd character) =
        marked '?' query ++ marked '#' fragment := by
    unfold marked
    split
    · split
      · exact ⟨rfl, rfl⟩
      · exact ⟨rfl, rfl⟩
    · exact ⟨rfl, rfl⟩
  constructor
  · rw [List.takeWhile_append_of_pos inside, ends.1, List.append_nil]
  · rw [List.dropWhile_append_of_pos inside, ends.2]

theorem fragmentOf_marked {before : List Char}
    (noMark : forall character, character ∈ before -> character ≠ '#') :
    fragmentOf (before ++ marked '#' fragment) = fragment := by
  have inside : forall character, character ∈ before -> decide (character ≠ '#') = true :=
    fun character member => decide_eq_true (noMark character member)
  rw [fragmentOf, List.dropWhile_append_of_pos inside, marked]
  split
  · rename_i empty
    rw [empty]
    rfl
  · rfl

theorem queryOf_marked {query : List Char}
    (noMark : forall character, character ∈ query -> character ≠ '#') :
    queryOf (marked '?' query ++ marked '#' fragment) = query := by
  have inside : forall character, character ∈ query -> decide (character ≠ '#') = true :=
    fun character member => decide_eq_true (noMark character member)
  have ends : (marked '#' fragment).takeWhile (fun character => character ≠ '#') = [] := by
    unfold marked
    split
    · rfl
    · rfl
  by_cases empty : query = []
  · have isMarked : marked '?' query = [] := if_pos empty
    rw [isMarked, empty, List.nil_append]
    unfold marked
    split
    · rfl
    · rfl
  · have isMarked : marked '?' query = '?' :: query := if_neg empty
    rw [isMarked, List.cons_append, queryOf, List.takeWhile_append_of_pos inside, ends, List.append_nil]

/-- What was resolved is located again where it was. -/
theorem Located.Normal.locate (normal : located.Normal) (origin : Origin) :
    locate origin located.text.tail = { located with origin } := by
  rcases located with ⟨before, path, query, fragment⟩
  cases path with
  | nil => exact absurd rfl normal.path
  | cons segment more =>
    have isTail : (Located.text ⟨before, segment :: more, query, fragment⟩).tail =
        (segment ++ pathname more) ++ (marked '?' query ++ marked '#' fragment) := by
      rw [Located.text, pathname, List.flatMap_cons]
      simp only [List.cons_append, List.tail_cons, List.append_assoc]
      rfl
    have inside : forall character, character ∈ segment ++ pathname more -> isPathEnd character = false := by
      intro character member
      rcases List.mem_append.mp member with inSegment | inMore
      · exact isPathEnd_of_inPath ((normal.segments segment List.mem_cons_self).outside character inSegment)
      · rcases mem_pathname inMore with rfl | ⟨other, isOther, inOther⟩
        · decide
        · exact isPathEnd_of_inPath
            ((normal.segments other (List.mem_cons_of_mem segment isOther)).outside character inOther)
    have noMark : forall character, character ∈ query -> character ≠ '#' := by
      rintro character member rfl
      exact absurd (normal.query '#' member) (by decide)
    have queryNoMark : forall character, character ∈ marked '?' query -> character ≠ '#' := by
      intro character member
      rcases mem_marked member with rfl | inQuery
      · decide
      · exact noMark character inQuery
    have samePath : follow (segmentsOf (segment ++ pathname more)) = segment :: more := by
      rw [segmentsOf_pathname (normal.segments segment List.mem_cons_self).noSlash
        fun other member => (normal.segments other (List.mem_cons_of_mem segment member)).noSlash]
      exact follow_of_normal normal.path normal.segments
    rw [isTail, Url.locate, rawPath, (takeWhile_marked inside).1, (takeWhile_marked inside).2, samePath,
      queryOf_marked noMark, fragmentOf_marked queryNoMark, percentEncode_of_outside normal.query,
      percentEncode_of_outside normal.fragment]

theorem isSlash_of_marked {query : List Char} {first : Char} {rest : List Char}
    (begins : marked '?' query ++ marked '#' fragment = first :: rest) : isSlash first = false := by
  unfold marked at begins
  split at begins
  · split at begins
    · cases begins
    · cases begins
      decide
  · cases begins
    decide

/-- A text that begins with exactly one slash. -/
def OneSlash (text : List Char) : Prop :=
  Exists fun rest => text = '/' :: rest ∧ forall first more, rest = first :: more -> isSlash first = false

theorem not_oneSlash_of_doubled (doubled : Doubled located.path) : ¬ OneSlash located.text := by
  rcases located with ⟨before, path, query, fragment⟩
  rcases doubled with ⟨next, more, rfl⟩
  rintro ⟨rest, isCons, notSlash⟩
  have isRest := (List.cons.inj isCons).2
  exact absurd (notSlash '/' _ isRest.symm) (by decide)

theorem Located.Normal.oneSlash (normal : located.Normal) (single : ¬ Doubled located.path) :
    OneSlash located.text := by
  rcases located with ⟨before, path, query, fragment⟩
  cases path with
  | nil => exact absurd rfl normal.path
  | cons segment more =>
    refine ⟨(segment ++ pathname more) ++ (marked '?' query ++ marked '#' fragment), ?_, ?_⟩
    · simp only [Located.text, pathname, List.flatMap_cons, List.cons_append, List.append_assoc]
    · intro first rest begins
      cases segment with
      | cons character others =>
        rw [← (List.cons.inj begins).1]
        exact (normal.segments (character :: others) List.mem_cons_self).noSlash character List.mem_cons_self
      | nil =>
        cases more with
        | cons next others => exact absurd ⟨next, others, rfl⟩ single
        | nil => exact isSlash_of_marked begins

theorem destination_oneSlash (cleaned : clean text = text) (single : OneSlash text)
    (authority : Origin -> List Char -> Option Origin) (base : Origin) :
    destination authority base text = some (base, text.tail) := by
  have isSlashFirst : isSlash '/' = true := by decide
  rcases single with ⟨rest, rfl, notSlash⟩
  rw [destination, cleaned]
  cases rest with
  | nil => simp only [isSlashFirst, if_true, List.tail_cons]
  | cons first more =>
    simp only [isSlashFirst, if_true, notSlash first more rfl, Bool.false_eq_true, if_false, List.tail_cons]

/-- A reference with one slash goes to where it was resolved, from any page. -/
theorem Located.Normal.destination (normal : located.Normal) (single : ¬ Doubled located.path)
    (authority : Origin -> List Char -> Option Origin) (base : Origin) :
    destination authority base located.text = some (base, located.text.tail) :=
  destination_oneSlash (clean_of_plain normal.notEdge) (normal.oneSlash single) authority base

theorem Located.Normal.resolve (normal : located.Normal) (single : ¬ Doubled located.path)
    (authority : Origin -> List Char -> Option Origin) (base : Origin) :
    resolve authority base located.text = some { located with origin := base } := by
  rw [Url.resolve, normal.destination single, Option.map_some, normal.locate]

/-! ### Backslashes -/

theorem not_mem_percentEncode (noBackslash : '\\' ∉ text) : '\\' ∉ percentEncode set text := by
  intro member
  rcases mem_percentEncode member with ⟨inText, _⟩ | encodes
  · exact noBackslash inText
  · exact absurd encodes (by decide)

theorem queryOf_subset (text : List Char) : forall character, character ∈ queryOf text -> character ∈ text := by
  intro character member
  unfold queryOf at member
  split at member
  · exact List.mem_cons_of_mem _ ((List.takeWhile_sublist _).mem member)
  · cases member

theorem fragmentOf_subset (text : List Char) : forall character, character ∈ fragmentOf text -> character ∈ text :=
  fun _ member => (List.dropWhile_sublist _).mem (List.mem_of_mem_drop member)

/-- Only what was written with a backslash has one. -/
theorem noBackslash_locate (origin : Origin) (noBackslash : '\\' ∉ text) : '\\' ∉ (locate origin text).text := by
  have notBehind : '\\' ∉ text.dropWhile fun character => !isPathEnd character :=
    fun member => noBackslash ((List.dropWhile_sublist _).mem member)
  intro member
  rcases List.mem_append.mp member with inPathname | inMarked
  · rcases mem_pathname inPathname with isSlash | ⟨segment, inPath, inSegment⟩
    · exact absurd isSlash (by decide)
    · exact absurd (((locate_normal origin text).segments segment inPath).noSlash _ inSegment) (by decide)
  · rcases List.mem_append.mp inMarked with inSearch | inHash
    · rcases mem_marked inSearch with isMark | inQuery
      · exact absurd isMark (by decide)
      · exact not_mem_percentEncode (fun written => notBehind (queryOf_subset _ _ written)) inQuery
    · rcases mem_marked inHash with isMark | inFragment
      · exact absurd isMark (by decide)
      · exact not_mem_percentEncode (fun written => notBehind (fragmentOf_subset _ _ written)) inFragment

theorem clean_sublist (text : List Char) : (clean text).Sublist text := by
  apply List.filter_sublist.trans
  rw [← List.reverse_sublist, List.reverse_reverse]
  exact (List.dropWhile_sublist _).trans (List.reverse_sublist.mpr (List.dropWhile_sublist _))

theorem destination_sublist {authority : Origin -> List Char -> Option Origin} {base origin : Origin}
    {behind : List Char} (found : destination authority base text = some (origin, behind)) : behind.Sublist text := by
  apply List.Sublist.trans _ (clean_sublist text)
  unfold destination at found
  split at found
  · cases found
  · rename_i first rest isCons
    rw [isCons]
    split at found
    · split at found
      · cases found
        exact List.nil_sublist _
      · rename_i second more
        split at found
        · rcases Option.map_eq_some_iff.mp found with ⟨_, _, same⟩
          cases same
          apply List.Sublist.cons
          apply List.Sublist.cons
          split
          · exact (List.drop_sublist 1 _).trans ((List.dropWhile_sublist _).trans (List.dropWhile_sublist _))
          · exact (List.dropWhile_sublist _).trans (List.dropWhile_sublist _)
        · cases found
          exact List.sublist_cons_self _ _
    · cases found

/-! ## Paths that begin with two slashes -/

/-- The number of segments that are left of a path, one segment later. -/
def climb (depth : Nat) (segment : List Char) : Nat :=
  if isDoubleDot segment then depth - 1 else if isSingleDot segment then depth else depth + 1

/-- Never goes up beyond the segments that are counted. -/
def keeps : Nat -> List (List Char) -> Bool
  | _, [] => true
  | depth, segment :: rest => (!isDoubleDot segment || 0 < depth) && keeps (climb depth segment) rest

/-- An empty segment that others follow: all in front of it is gone up again,
and it is kept by those that follow. -/
def WrittenDoubled (segments : List (List Char)) : Prop :=
  Exists fun before => Exists fun after => segments = before ++ [] :: after ∧ after ≠ [] ∧
    before.foldl climb 0 = 0 ∧ keeps 0 after = true

theorem length_turns (segments path : List (List Char)) :
    (segments.foldl turn path).length = segments.foldl climb path.length := by
  induction segments generalizing path with
  | nil => rfl
  | cons segment rest inductionHypothesis =>
    have one : (turn path segment).length = climb path.length segment := by
      unfold turn climb
      split
      · exact List.length_dropLast
      · split
        · rfl
        · rw [List.length_append, List.length_singleton]
    rw [List.foldl_cons, List.foldl_cons, inductionHypothesis, one]

theorem length_turn (path : List (List Char)) (segment : List Char) :
    (turn path segment).length = climb path.length segment := length_turns [segment] path

/-- A segment that is kept changes nothing in front. -/
theorem turn_append (base : List (List Char)) (kept : (!isDoubleDot segment || 0 < path.length) = true) :
    turn (base ++ path) segment = base ++ turn path segment := by
  unfold turn
  split
  · rename_i double
    rw [double, Bool.not_true, Bool.false_or, decide_eq_true_eq, List.length_pos_iff] at kept
    exact List.dropLast_append_of_ne_nil kept
  · split
    · rfl
    · exact List.append_assoc ..

/-- Segments that are kept stay in front. -/
theorem turns_of_keeps (base : List (List Char)) (kept : keeps path.length segments = true) :
    segments.foldl turn (base ++ path) = base ++ segments.foldl turn path := by
  induction segments generalizing path with
  | nil => rfl
  | cons segment rest inductionHypothesis =>
    rw [keeps, Bool.and_eq_true, ← length_turn] at kept
    rw [List.foldl_cons, List.foldl_cons, turn_append base kept.1]
    exact inductionHypothesis kept.2

theorem ending_append (some : segments ≠ []) (before : List (List Char)) :
    ending (before ++ segments) = ending segments := by
  rw [ending, List.getLast?_append_of_ne_nil before some, ending]

/-- Where segments are not kept, they are all gone up again. -/
theorem gone_of_not_keeps {depth : Nat} (gone : keeps depth segments = false) :
    Exists fun front => Exists fun double => Exists fun after => segments = front ++ double :: after ∧
      isDoubleDot double = true ∧ front.foldl climb (depth + 1) = 1 := by
  induction segments generalizing depth with
  | nil => cases gone
  | cons segment rest inductionHypothesis =>
    rw [keeps, Bool.and_eq_false_iff] at gone
    by_cases here : isDoubleDot segment = true ∧ depth = 0
    · rw [here.2]
      exact ⟨[], segment, rest, rfl, here.1, rfl⟩
    · have goneLater : keeps (climb depth segment) rest = false := by
        rcases gone with atOnce | later
        · rw [Bool.or_eq_false_iff, Bool.not_eq_false', decide_eq_false_iff_not, Nat.not_lt, Nat.le_zero] at atOnce
          exact absurd atOnce here
        · exact later
      have climbed : climb (depth + 1) segment = climb depth segment + 1 := by
        unfold climb
        split
        · rename_i double
          have some : depth ≠ 0 := fun zero => here ⟨double, zero⟩
          omega
        · split
          · rfl
          · rfl
      rcases inductionHypothesis goneLater with ⟨front, double, after, rfl, isDouble, up⟩
      refine ⟨segment :: front, double, after, rfl, isDouble, ?_⟩
      rw [List.foldl_cons, climbed]
      exact up

theorem doubled_of_written (written : WrittenDoubled segments) :
    Doubled (follow segments) := by
  rcases written with ⟨before, after, rfl, some, level, kept⟩
  have start : before.foldl turn [] = [] := List.length_eq_zero_iff.mp ((length_turns before []).trans level)
  have stands : ([] : List Char) :: after ≠ [] := by nofun
  have isEnding : ending ([] :: after) = ending after := ending_append some [[]]
  have empty : turn [] [] = [[]] := by decide
  have turned : (before ++ [] :: after).foldl turn [] = [] :: after.foldl turn [] := by
    rw [List.foldl_append, start, List.foldl_cons, empty]
    exact turns_of_keeps [[]] kept
  rw [follow, turned, ending_append stands, isEnding, List.cons_append]
  rcases List.exists_cons_of_ne_nil (follow_ne_nil some) with ⟨next, rest, isCons⟩
  rw [follow] at isCons
  exact ⟨next, rest, congrArg ([] :: ·) isCons⟩

theorem not_doubled_single : ¬ Doubled [[]] := by
  rintro ⟨next, rest, isCons⟩
  cases isCons

/-- Segments that lead back to the start may be left out. -/
theorem follow_of_level {after : List (List Char)} (level : before.foldl climb 0 = 0) (some : after ≠ []) :
    follow (before ++ after) = follow after := by
  have start : before.foldl turn [] = [] := List.length_eq_zero_iff.mp ((length_turns before []).trans level)
  rw [follow, List.foldl_append, start, ending_append some, follow]

theorem WrittenDoubled.behind {after : List (List Char)} (level : before.foldl climb 0 = 0)
    (written : WrittenDoubled after) : WrittenDoubled (before ++ after) := by
  rcases written with ⟨front, rest, rfl, some, frontLevel, kept⟩
  refine ⟨before ++ front, rest, (List.append_assoc ..).symm, some, ?_, kept⟩
  rw [List.foldl_append, level, frontLevel]

/-- Segments that lead back to the start with dots at their end. -/
theorem follow_level (level : before.foldl climb 0 = 0)
    (dots : (before.getLast?.map isDots).getD false = true) : follow before = [[]] := by
  have start : before.foldl turn [] = [] := List.length_eq_zero_iff.mp ((length_turns before []).trans level)
  rw [follow, start, ending, if_pos dots]
  rfl

theorem written_of_doubled (segments : List (List Char)) (doubled : Doubled (follow segments)) :
    WrittenDoubled segments := by
  induction size : segments.length using Nat.strongRecOn generalizing segments with
  | _ count inductionHypothesis =>
    -- whatever leads back to the start is left out, and what follows it is shorter
    have behind : forall before after, segments = before ++ after -> before ≠ [] ->
        before.foldl climb 0 = 0 -> (before.getLast?.map isDots).getD false = true -> WrittenDoubled segments := by
      rintro before after rfl nonempty level dots
      by_cases some : after = []
      · rw [some, List.append_nil, follow_level level dots] at doubled
        exact absurd doubled not_doubled_single
      · rw [follow_of_level level some] at doubled
        have shorter : after.length < count := by
          have positive := List.length_pos_iff.mpr nonempty
          rw [← size, List.length_append]
          omega
        exact (inductionHypothesis after.length shorter after doubled rfl).behind level
    cases segments with
    | nil =>
      rcases doubled with ⟨next, rest, isCons⟩
      cases isCons
    | cons segment rest =>
      cases dots : isDots segment with
      | true =>
        refine behind [segment] rest rfl (by nofun) ?_ ?_
        · rw [isDots, Bool.or_eq_true] at dots
          rw [List.foldl_cons, List.foldl_nil, climb]
          split
          · rfl
          · rename_i notDouble
            rw [if_pos (dots.resolve_right notDouble)]
        · rw [List.getLast?_singleton, Option.map_some, dots]
          rfl
      | false =>
        have plain := turn_plain [] dots
        cases kept : keeps 0 rest with
        | false =>
          rcases gone_of_not_keeps kept with ⟨front, double, after, rfl, isDouble, up⟩
          have climbed : climb 0 segment = 1 := by
            rw [isDots, Bool.or_eq_false_iff] at dots
            rw [climb, dots.1, dots.2]
            rfl
          refine behind (segment :: (front ++ [double])) after (by simp) (by nofun) ?_ ?_
          · rw [List.foldl_cons, climbed, List.foldl_append, up, List.foldl_cons, List.foldl_nil, climb, if_pos isDouble]
          · rw [← List.cons_append, List.getLast?_concat, Option.map_some, isDots, isDouble, Bool.or_true]
            rfl
        | true =>
          have turned : (segment :: rest).foldl turn [] = percentEncode inPath segment :: rest.foldl turn [] := by
            rw [List.foldl_cons, plain]
            exact turns_of_keeps [percentEncode inPath segment] kept
          by_cases some : rest = []
          · rw [some, follow, ending, List.foldl_cons, plain, List.getLast?_singleton, Option.map_some, dots] at doubled
            rcases doubled with ⟨next, others, isCons⟩
            have lengths := congrArg List.length isCons
            simp at lengths
          · have isEnding : ending (segment :: rest) = ending rest := ending_append some [segment]
            rcases doubled with ⟨next, others, isCons⟩
            rw [follow, turned, List.cons_append, List.cons.injEq] at isCons
            refine ⟨[], rest, ?_, some, rfl, kept⟩
            rw [percentEncode_eq_nil_iff.mp isCons.1, List.nil_append]

end Url
end Foundation
end DigitalSolutions
