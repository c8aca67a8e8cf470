import DigitalSolutions.Persistence.Json

namespace DigitalSolutions
namespace Persistence

/-!
# JSON as text

`JSON.stringify` and `JSON.parse`.  A number is kept as the text JavaScript
prints for it.  The parser prints a safe integer itself; how another literal
is rounded and printed is left to a parameter.  A text with no escaped lone
surrogates is read exactly.
-/

variable {entries others : List (String × Json)} {text remaining : List Char} {fuel : Nat}
variable {after : List Char}

namespace Json

/-! ## Printing -/

def hexDigit (value : Nat) : Char :=
  if value < 10 then Char.ofNat (48 + value) else Char.ofNat (87 + value)

/-- The escapes with a letter of their own. -/
def shortEscapes : List (Char × Char) :=
  [('"', '"'), ('\\', '\\'), ('\x08', 'b'), ('\t', 't'), ('\n', 'n'), ('\x0c', 'f'), ('\r', 'r')]

def escaped (character : Char) : List Char :=
  match shortEscapes.lookup character with
  | some letter => ['\\', letter]
  | none =>
    if character.toNat < 0x20 then
      ['\\', 'u', '0', '0', hexDigit (character.toNat / 16), hexDigit (character.toNat % 16)]
    else [character]

def quoted (text : String) : List Char := '"' :: (text.toList.flatMap escaped ++ ['"'])

mutual

def printed : Json -> List Char
  | .null => ['n', 'u', 'l', 'l']
  | .bool true => ['t', 'r', 'u', 'e']
  | .bool false => ['f', 'a', 'l', 's', 'e']
  | .number literal => literal.toList
  | .string value => quoted value
  | .array elements => '[' :: (printedElements elements ++ [']'])
  | .object entries => '\x7b' :: (printedEntries entries ++ ['\x7d'])

def printedElements : List Json -> List Char
  | [] => []
  | [element] => printed element
  | element :: rest => printed element ++ ',' :: printedElements rest

def printedEntries : List (String × Json) -> List Char
  | [] => []
  | [(key, value)] => quoted key ++ ':' :: printed value
  | (key, value) :: rest => quoted key ++ ':' :: (printed value ++ ',' :: printedEntries rest)

end

/-- `JSON.stringify`. -/
def stringify (value : Json) : String := String.ofList value.printed

/-! ## Reading -/

def isJsonSpace (character : Char) : Bool :=
  character = ' ' || character = '\t' || character = '\n' || character = '\r'

def skipSpace (text : List Char) : List Char := text.dropWhile isJsonSpace

def hexValue (character : Char) : Option Nat :=
  if '0' ≤ character ∧ character ≤ '9' then some (character.toNat - 48)
  else if 'a' ≤ character ∧ character ≤ 'f' then some (character.toNat - 87)
  else if 'A' ≤ character ∧ character ≤ 'F' then some (character.toNat - 55)
  else none

/-- A UTF-16 code unit in four hexadecimal digits. -/
def readUnit : List Char -> Option (Nat × List Char)
  | first :: second :: third :: fourth :: rest => do
    let a <- hexValue first
    let b <- hexValue second
    let c <- hexValue third
    let d <- hexValue fourth
    return (4096 * a + 256 * b + 16 * c + d, rest)
  | _ => none

def isHighSurrogate (unit : Nat) : Bool := 0xD800 ≤ unit && unit < 0xDC00

def isLowSurrogate (unit : Nat) : Bool := 0xDC00 ≤ unit && unit < 0xE000

/-- The character of a code unit, together with the low surrogate that may
follow a high one. -/
def joinUnits (unit : Nat) (text : List Char) : Char × List Char :=
  let next := match text with
    | '\\' :: 'u' :: rest => readUnit rest
    | _ => none
  match next with
  | some (low, rest) =>
    if isHighSurrogate unit && isLowSurrogate low then
      (Char.ofNat (0x10000 + 0x400 * (unit - 0xD800) + (low - 0xDC00)), rest)
    else if isHighSurrogate unit || isLowSurrogate unit then (Char.ofNat 0xFFFD, text)
    else (Char.ofNat unit, text)
  | none =>
    if isHighSurrogate unit || isLowSurrogate unit then (Char.ofNat 0xFFFD, text)
    else (Char.ofNat unit, text)

/-- What follows a backslash. -/
def readEscape : List Char -> Option (Char × List Char)
  | 'u' :: rest => do
    let (unit, after) <- readUnit rest
    return joinUnits unit after
  | '/' :: rest => some ('/', rest)
  | letter :: rest => ((shortEscapes.find? (fun entry => entry.2 = letter)).map Prod.fst).map (fun character =>
      (character, rest))
  | [] => none

/-- The characters up to the closing quotation mark. -/
def readString : Nat -> List Char -> Option (List Char × List Char)
  | 0, _ => none
  | _ + 1, [] => none
  | fuel + 1, character :: rest =>
    if character = '"' then some ([], rest)
    else if character = '\\' then do
      let (first, after) <- readEscape rest
      let (text, remaining) <- readString fuel after
      return (first :: text, remaining)
    else if character.toNat < 0x20 then none
    else do
      let (text, remaining) <- readString fuel rest
      return (character :: text, remaining)

/-! ### Numbers -/

def isNumberCharacter (character : Char) : Bool :=
  character.isDigit || character = '-' || character = '+' || character = '.' || character = 'e' ||
    character = 'E'

/-- A run of digits and what follows it. -/
def readDigits (text : List Char) : Option (List Char × List Char) :=
  let digits := text.takeWhile Char.isDigit
  if digits.isEmpty then none else some (digits, text.dropWhile Char.isDigit)

def readFraction : List Char -> Option (List Char)
  | '.' :: rest => (readDigits rest).map Prod.snd
  | rest => some rest

def readExponent : List Char -> Option (List Char)
  | 'e' :: '+' :: rest | 'e' :: '-' :: rest | 'E' :: '+' :: rest | 'E' :: '-' :: rest
  | 'e' :: rest | 'E' :: rest => (readDigits rest).map Prod.snd
  | rest => some rest

def withoutSign : List Char -> List Char
  | '-' :: rest => rest
  | rest => rest

def isNumberLiteral (text : List Char) : Bool :=
  match readDigits (withoutSign text) with
  | none => false
  | some (whole, rest) =>
    (whole = ['0'] || whole.head? ≠ some '0') && (readFraction rest).bind readExponent = some []

/-- The integer that a text of digits is, if it is one. -/
def decimal (digits : List Char) : Option Nat :=
  if digits.isEmpty || !digits.all Char.isDigit then none else some (Nat.ofDigitChars 10 digits 0)

def integerOf (literal : String) : Option Int :=
  match literal.toList with
  | '-' :: digits => (decimal digits).map (fun value => -(value : Int))
  | digits => (decimal digits).map Int.ofNat

/-- `Number.isSafeInteger` of an integer. -/
def isSafeInteger (value : Int) : Bool := -(2 ^ 53) < value && value < 2 ^ 53

section Parsing

-- how the runtime rounds and prints a literal that is no safe integer
variable (rounded : String -> String)

def numberOf (literal : List Char) : Json :=
  match (integerOf (String.ofList literal)).filter isSafeInteger with
  | some value => .number (toString value)
  | none => .number (rounded (String.ofList literal))

/-- Give a property a value: a key keeps the place where it came first. -/
def putMember (entries : List (String × Json)) (member : String × Json) : List (String × Json) :=
  if entries.any (fun entry => entry.1 = member.1) then
    entries.map (fun entry => if entry.1 = member.1 then member else entry)
  else entries ++ [member]

def objectOf (members : List (String × Json)) : Json :=
  .object (ownPropertyOrder (members.foldl putMember []))

mutual

def parseValue : Nat -> List Char -> Option (Json × List Char)
  | 0, _ => none
  | fuel + 1, text =>
    match skipSpace text with
    | 'n' :: 'u' :: 'l' :: 'l' :: rest => some (.null, rest)
    | 't' :: 'r' :: 'u' :: 'e' :: rest => some (.bool true, rest)
    | 'f' :: 'a' :: 'l' :: 's' :: 'e' :: rest => some (.bool false, rest)
    | '"' :: rest => (readString fuel rest).map (fun read => (.string (String.ofList read.1), read.2))
    | '[' :: rest =>
      match skipSpace rest with
      | ']' :: after => some (.array [], after)
      | inside => (parseElements fuel inside).map (fun read => (.array read.1, read.2))
    | '\x7b' :: rest =>
      match skipSpace rest with
      | '\x7d' :: after => some (objectOf [], after)
      | inside => (parseMembers fuel inside).map (fun read => (objectOf read.1, read.2))
    | other =>
      let literal := other.takeWhile isNumberCharacter
      if isNumberLiteral literal then some (numberOf rounded literal, other.dropWhile isNumberCharacter)
      else none

def parseElements : Nat -> List Char -> Option (List Json × List Char)
  | 0, _ => none
  | fuel + 1, text => do
    let (element, rest) <- parseValue fuel text
    match skipSpace rest with
    | ',' :: after =>
      let (others, remaining) <- parseElements fuel after
      return (element :: others, remaining)
    | ']' :: remaining => return ([element], remaining)
    | _ => none

def parseMembers : Nat -> List Char -> Option (List (String × Json) × List Char)
  | 0, _ => none
  | fuel + 1, text =>
    match skipSpace text with
    | '"' :: quotedKey => do
      let (key, afterKey) <- readString fuel quotedKey
      match skipSpace afterKey with
      | ':' :: valueText =>
        let (value, rest) <- parseValue fuel valueText
        match skipSpace rest with
        | ',' :: after =>
          let (others, remaining) <- parseMembers fuel after
          return ((String.ofList key, value) :: others, remaining)
        | '\x7d' :: remaining => return ([(String.ofList key, value)], remaining)
        | _ => none
      | _ => none
    | _ => none

end

/-- `JSON.parse`, where it does not throw. -/
def parse (text : String) : Option Json :=
  match parseValue rounded (2 * text.toList.length + 2) text.toList with
  | some (value, rest) => if (skipSpace rest).isEmpty then some value else none
  | none => none

/-! ## What was printed is read -/

theorem hexValue_hexDigit {value : Nat} (small : value < 16) : hexValue (hexDigit value) = some value := by
  revert value
  decide

/-- A code unit that is no surrogate is a character of its own. -/
theorem joinUnits_of_lt {unit : Nat} (small : unit < 0xD800) (rest : List Char) :
    joinUnits unit rest = (Char.ofNat unit, rest) := by
  have notHigh : isHighSurrogate unit = false := by
    unfold isHighSurrogate
    rw [Bool.and_eq_false_iff]
    exact Or.inl (decide_eq_false (by omega))
  have notLow : isLowSurrogate unit = false := by
    unfold isLowSurrogate
    rw [Bool.and_eq_false_iff]
    exact Or.inl (decide_eq_false (by omega))
  unfold joinUnits
  simp only [notHigh, notLow, Bool.false_and, Bool.or_self, Bool.false_eq_true, if_false]
  split <;> rfl

theorem readEscape_control {character : Char} (control : character.toNat < 0x20) (rest : List Char) :
    readEscape ('u' :: '0' :: '0' :: hexDigit (character.toNat / 16) :: hexDigit (character.toNat % 16) :: rest) =
      some (character, rest) := by
  have zero : hexValue '0' = some 0 := by decide
  have high : hexValue (hexDigit (character.toNat / 16)) = some (character.toNat / 16) :=
    hexValue_hexDigit (by omega)
  have low : hexValue (hexDigit (character.toNat % 16)) = some (character.toNat % 16) :=
    hexValue_hexDigit (by omega)
  have unit : 4096 * 0 + 256 * 0 + 16 * (character.toNat / 16) + character.toNat % 16 = character.toNat := by
    omega
  simp only [readEscape, readUnit, zero, high, low, unit, Option.bind_eq_bind, Option.bind_some, Option.pure_def,
    joinUnits_of_lt (show character.toNat < 0xD800 by omega), Char.ofNat_toNat]

/-- The two ways a character is printed inside a text. -/
theorem escaped_cases (character : Char) :
    (Exists fun after => escaped character = '\\' :: after ∧
      forall rest, readEscape (after ++ rest) = some (character, rest)) ∨
    (escaped character = [character] ∧ character ≠ '"' ∧ character ≠ '\\' ∧ ¬ character.toNat < 0x20) := by
  unfold escaped
  cases found : shortEscapes.lookup character with
  | some letter =>
    refine Or.inl ⟨[letter], rfl, ?_⟩
    intro rest
    have listed : (character, letter) ∈ shortEscapes := by
      rcases List.lookup_eq_some_iff.mp found with ⟨before, after, split, _⟩
      rw [split]
      exact List.mem_append_right _ List.mem_cons_self
    simp only [shortEscapes, List.mem_cons, Prod.mk.injEq, List.not_mem_nil, or_false] at listed
    rcases listed with ⟨rfl, rfl⟩ | ⟨rfl, rfl⟩ | ⟨rfl, rfl⟩ | ⟨rfl, rfl⟩ | ⟨rfl, rfl⟩ | ⟨rfl, rfl⟩ | ⟨rfl, rfl⟩
      <;> rfl
  | none =>
    have plain : forall entry, entry ∈ shortEscapes -> character ≠ entry.1 := by
      intro entry listed same
      have missing := List.lookup_eq_none_iff.mp found entry listed
      simp [same] at missing
    by_cases control : character.toNat < 0x20
    · dsimp only
      rw [if_pos control]
      exact Or.inl ⟨_, rfl, readEscape_control control⟩
    · dsimp only
      rw [if_neg control]
      exact Or.inr ⟨rfl, plain ('"', '"') (by decide), plain ('\\', '\\') (by decide), control⟩

theorem readString_quoted (text rest : List Char) (enough : text.length < fuel) :
    readString fuel (text.flatMap escaped ++ '"' :: rest) = some (text, rest) := by
  induction text generalizing fuel with
  | nil =>
    rcases fuel with _ | fuel
    · omega
    · rfl
  | cons character text inductionHypothesis =>
    rcases fuel with _ | fuel
    · omega
    have later : readString fuel (text.flatMap escaped ++ '"' :: rest) = some (text, rest) :=
      inductionHypothesis (by simpa using enough)
    rw [List.flatMap_cons, List.append_assoc]
    rcases escaped_cases character with ⟨after, shown, reads⟩ | ⟨shown, noQuote, noBackslash, printable⟩
    · rw [shown, List.cons_append, readString, if_neg (by decide), if_pos rfl, reads]
      simp only [Option.bind_eq_bind, Option.bind_some, later, Option.pure_def]
    · rw [shown, List.singleton_append, readString, if_neg noQuote, if_neg noBackslash, if_neg printable, later]
      rfl

/-! ### Values -/

/-- A literal that the parser takes and prints as it is. -/
structure PrintedNumber (literal : String) : Prop where
  characters : forall character, character ∈ literal.toList -> isNumberCharacter character = true
  valid : isNumberLiteral literal.toList = true
  same : numberOf rounded literal.toList = .number literal

mutual

/-- A value as the runtime has it: numbers print as they are stored, and an
object has each key once, in the order of enumeration. -/
def Printable : Json -> Prop
  | .null | .bool _ | .string _ => True
  | .number literal => PrintedNumber rounded literal
  | .array elements => PrintableElements elements
  | .object entries => PrintableEntries entries ∧ objectOf entries = .object entries

def PrintableElements : List Json -> Prop
  | [] => True
  | element :: rest => Printable element ∧ PrintableElements rest

def PrintableEntries : List (String × Json) -> Prop
  | [] => True
  | (_, value) :: rest => Printable value ∧ PrintableEntries rest

end

/-- What may follow a value: nothing, or a character no number goes on with. -/
def Follows (rest : List Char) : Prop :=
  rest.head?.all (fun character => !isNumberCharacter character) = true

/-- A first character that begins a value: it is no space and closes nothing. -/
def Begins (text : List Char) : Prop :=
  Exists fun character => Exists fun rest => text = character :: rest ∧ isJsonSpace character = false ∧
    character ≠ ']' ∧ character ≠ '\x7d'

theorem Begins.skipSpace (begins : Begins text) (rest : List Char) :
    skipSpace (text ++ rest) = text ++ rest := by
  rcases begins with ⟨character, after, rfl, noSpace, _⟩
  simp only [Json.skipSpace, List.cons_append, List.dropWhile_cons, noSpace, Bool.false_eq_true, if_false]

theorem Begins.length (begins : Begins text) : 1 ≤ text.length := by
  rcases begins with ⟨character, after, rfl, _⟩
  exact Nat.le_add_left _ _

theorem isNumberCharacter_begins {character : Char} (isNumber : isNumberCharacter character = true) :
    isJsonSpace character = false ∧ character ≠ ']' ∧ character ≠ '\x7d' ∧ character ≠ 'n' ∧
      character ≠ 't' ∧ character ≠ 'f' ∧ character ≠ '"' ∧ character ≠ '[' ∧ character ≠ '\x7b' := by
  have differs : forall other, isNumberCharacter other = false -> character ≠ other := by
    rintro other isOther rfl
    rw [isNumber] at isOther
    cases isOther
  have noSpace : isJsonSpace character = false := by
    simp only [isJsonSpace, Bool.or_eq_false_iff, decide_eq_false_iff_not]
    exact ⟨⟨⟨differs _ (by decide), differs _ (by decide)⟩, differs _ (by decide)⟩, differs _ (by decide)⟩
  exact ⟨noSpace, differs _ (by decide), differs _ (by decide), differs _ (by decide), differs _ (by decide),
    differs _ (by decide), differs _ (by decide), differs _ (by decide), differs _ (by decide)⟩

variable {rounded}

theorem PrintedNumber.nonempty {literal : String} (printed : PrintedNumber rounded literal) :
    Exists fun first => Exists fun rest => literal.toList = first :: rest ∧ isNumberCharacter first = true := by
  cases shape : literal.toList with
  | nil =>
    have valid := printed.valid
    rw [shape] at valid
    cases valid
  | cons first rest =>
    exact ⟨first, rest, rfl, printed.characters first (shape ▸ List.mem_cons_self)⟩

/-- A literal is read up to its last character. -/
theorem parseValue_number {literal : String} (printed : PrintedNumber rounded literal) (rest : List Char)
    (follows : Follows rest) (fuel : Nat) :
    parseValue rounded (fuel + 1) (literal.toList ++ rest) = some (.number literal, rest) := by
  have taken : (literal.toList ++ rest).takeWhile isNumberCharacter = literal.toList ∧
      (literal.toList ++ rest).dropWhile isNumberCharacter = rest := by
    rw [List.takeWhile_append_of_pos printed.characters, List.dropWhile_append_of_pos printed.characters]
    cases rest with
    | nil => exact ⟨List.append_nil _, rfl⟩
    | cons next others =>
      have stops : isNumberCharacter next = false := by simpa [Follows] using follows
      simp only [List.takeWhile_cons, List.dropWhile_cons, stops, Bool.false_eq_true, if_false, List.append_nil,
        and_self]
  rcases printed.nonempty with ⟨first, others, shape, isNumber⟩
  rcases isNumberCharacter_begins isNumber with ⟨noSpace, _, _, n, t, f, quote, bracket, brace⟩
  have start : skipSpace (literal.toList ++ rest) = literal.toList ++ rest := by
    rw [shape]
    simp only [skipSpace, List.cons_append, List.dropWhile_cons, noSpace, Bool.false_eq_true, if_false]
  have begins : forall {character : Char} {text : List Char}, literal.toList ++ rest = character :: text ->
      first = character := by
    intro character text same
    rw [shape, List.cons_append] at same
    exact (List.cons.inj same).1
  rw [parseValue, start]
  split
  case h_1 same => exact absurd (begins same) n
  case h_2 same => exact absurd (begins same) t
  case h_3 same => exact absurd (begins same) f
  case h_4 same => exact absurd (begins same) quote
  case h_5 same => exact absurd (begins same) bracket
  case h_6 same => exact absurd (begins same) brace
  case h_7 => rw [taken.1, taken.2, if_pos printed.valid, printed.same]

theorem begins_quoted (text : String) : Begins (quoted text) :=
  ⟨'"', _, rfl, by decide, by decide, by decide⟩

theorem begins_printed {value : Json} (printable : Printable rounded value) : Begins value.printed := by
  cases value with
  | null => exact ⟨'n', _, rfl, by decide, by decide, by decide⟩
  | bool flag =>
    cases flag with
    | false => exact ⟨'f', _, rfl, by decide, by decide, by decide⟩
    | true => exact ⟨'t', _, rfl, by decide, by decide, by decide⟩
  | number literal =>
    rcases PrintedNumber.nonempty printable with ⟨first, rest, shape, isNumber⟩
    rcases isNumberCharacter_begins isNumber with ⟨noSpace, bracket, brace, _⟩
    exact ⟨first, rest, shape, noSpace, bracket, brace⟩
  | string text => exact begins_quoted text
  | array elements => exact ⟨'[', _, rfl, by decide, by decide, by decide⟩
  | object entries => exact ⟨'\x7b', _, rfl, by decide, by decide, by decide⟩

theorem begins_append (begins : Begins text) (rest : List Char) : Begins (text ++ rest) := by
  rcases begins with ⟨character, after, rfl, noSpace, bracket, brace⟩
  exact ⟨character, after ++ rest, rfl, noSpace, bracket, brace⟩

/-- What is printed between the brackets begins like its first value. -/
theorem begins_printedElements {element : Json} {others : List Json}
    (printable : PrintableElements rounded (element :: others)) :
    Begins (printedElements (element :: others)) := by
  have begins := begins_printed printable.1
  cases others with
  | nil => exact begins
  | cons next rest => exact begins_append begins _

theorem begins_printedEntries {key : String} {value : Json} :
    Begins (printedEntries ((key, value) :: others)) := by
  cases others with
  | nil => exact begins_append (begins_quoted key) _
  | cons next rest => exact begins_append (begins_quoted key) _

theorem length_le_quoted (text : String) : text.toList.length + 2 ≤ (quoted text).length := by
  have each : forall characters : List Char, characters.length ≤ (characters.flatMap escaped).length := by
    intro characters
    induction characters with
    | nil => exact Nat.le_refl _
    | cons character rest inductionHypothesis =>
      have one : 1 ≤ (escaped character).length := by
        rcases escaped_cases character with ⟨after, shown, _⟩ | ⟨shown, _⟩
        · rw [shown, List.length_cons]
          omega
        · rw [shown, List.length_singleton]
      rw [List.flatMap_cons, List.length_append, List.length_cons]
      omega
  have counted := each text.toList
  simp only [quoted, List.length_cons, List.length_append, List.length_nil]
  omega

/-- A text behind its opening quotation mark. -/
theorem readString_text (text : String) (rest : List Char) (enough : (quoted text).length ≤ fuel + 1) :
    Exists fun after => quoted text ++ rest = '"' :: after ∧ readString fuel after = some (text.toList, rest) := by
  have counted := length_le_quoted text
  refine ⟨text.toList.flatMap escaped ++ '"' :: rest, ?_, readString_quoted text.toList rest (by omega)⟩
  rw [quoted, List.cons_append, List.append_assoc, List.singleton_append]

/-- One element and what follows it. -/
theorem parseElements_cons {element : Json}
    (read : parseValue rounded fuel text = some (element, ',' :: after)) {others : List Json}
    (later : parseElements rounded fuel after = some (others, remaining)) :
    parseElements rounded (fuel + 1) text = some (element :: others, remaining) := by
  have start : skipSpace (',' :: after) = ',' :: after := rfl
  rw [parseElements, read]
  simp only [Option.bind_eq_bind, Option.bind_some, start, later, Option.pure_def]

theorem parseElements_last {fuel : Nat} {text after : List Char} {element : Json}
    (read : parseValue rounded fuel text = some (element, ']' :: after)) :
    parseElements rounded (fuel + 1) text = some ([element], after) := by
  have start : skipSpace (']' :: after) = ']' :: after := rfl
  rw [parseElements, read]
  simp only [Option.bind_eq_bind, Option.bind_some, start, Option.pure_def]

/-- A key with its colon. -/
theorem parseMembers_key (key : String) (valueText : List Char) (enough : (quoted key).length ≤ fuel + 1) :
    parseMembers rounded (fuel + 1) (quoted key ++ ':' :: valueText) =
      (parseValue rounded fuel valueText).bind (fun read =>
        match skipSpace read.2 with
        | ',' :: after => (parseMembers rounded fuel after).bind (fun later =>
          some ((key, read.1) :: later.1, later.2))
        | '\x7d' :: remaining => some ([(key, read.1)], remaining)
        | _ => none) := by
  rcases readString_text key (':' :: valueText) enough with ⟨after, shown, read⟩
  have start : skipSpace ('"' :: after) = '"' :: after := rfl
  have colon : skipSpace (':' :: valueText) = ':' :: valueText := rfl
  rw [parseMembers, shown, start]
  simp only [read, Option.bind_eq_bind, Option.bind_some, colon, Option.pure_def, String.ofList_toList]

/-- Brackets around elements. -/
theorem parseValue_array {inside rest : List Char} {elements : List Json} (begins : Begins inside)
    (read : parseElements rounded fuel (inside ++ rest) = some (elements, remaining)) :
    parseValue rounded (fuel + 1) ('[' :: (inside ++ rest)) = some (.array elements, remaining) := by
  have start : skipSpace ('[' :: (inside ++ rest)) = '[' :: (inside ++ rest) := rfl
  have inner := begins.skipSpace rest
  rcases begins with ⟨first, after, rfl, _, bracket, _⟩
  rw [parseValue, start]
  simp only [inner]
  split
  · rename_i same
    exact absurd (List.cons.inj same).1 bracket
  · rw [read, Option.map_some]

/-- Braces around members. -/
theorem parseValue_object {inside rest : List Char} {members : List (String × Json)}
    (begins : Begins inside)
    (read : parseMembers rounded fuel (inside ++ rest) = some (members, remaining)) :
    parseValue rounded (fuel + 1) ('\x7b' :: (inside ++ rest)) = some (objectOf members, remaining) := by
  have start : skipSpace ('\x7b' :: (inside ++ rest)) = '\x7b' :: (inside ++ rest) := rfl
  have inner := begins.skipSpace rest
  rcases begins with ⟨first, after, rfl, _, _, brace⟩
  rw [parseValue, start]
  simp only [inner]
  split
  · rename_i same
    exact absurd (List.cons.inj same).1 brace
  · rw [read, Option.map_some]

theorem parseMembers_cons {key : String} {value : Json} (enough : (quoted key).length ≤ fuel + 1)
    (read : parseValue rounded fuel text = some (value, ',' :: after))
    (later : parseMembers rounded fuel after = some (others, remaining)) :
    parseMembers rounded (fuel + 1) (quoted key ++ ':' :: text) = some ((key, value) :: others, remaining) := by
  have start : skipSpace (',' :: after) = ',' :: after := rfl
  rw [parseMembers_key key text enough, read, Option.bind_some]
  simp only [start, later, Option.bind_some]

theorem parseMembers_last {key : String} {value : Json} (enough : (quoted key).length ≤ fuel + 1)
    (read : parseValue rounded fuel text = some (value, '\x7d' :: after)) :
    parseMembers rounded (fuel + 1) (quoted key ++ ':' :: text) = some ([(key, value)], after) := by
  have start : skipSpace ('\x7d' :: after) = '\x7d' :: after := rfl
  rw [parseMembers_key key text enough, read, Option.bind_some]
  simp only [start]

theorem follows_closing {character : Char} (closing : isNumberCharacter character = false) (rest : List Char) :
    Follows (character :: rest) := by
  simp only [Follows, List.head?_cons, Option.all_some, closing, Bool.not_false]

mutual

theorem parseValue_printed : forall (value : Json) (fuel : Nat) (rest : List Char), Printable rounded value ->
    Follows rest -> 2 * value.printed.length ≤ fuel + 1 ->
    parseValue rounded (fuel + 1) (value.printed ++ rest) = some (value, rest)
  | .null, _, _, _, _, _ => rfl
  | .bool true, _, _, _, _, _ => rfl
  | .bool false, _, _, _, _, _ => rfl
  | .number _, fuel, rest, printable, follows, _ => parseValue_number printable rest follows fuel
  | .string text, fuel, rest, _, _, enough => by
    rw [printed] at enough ⊢
    have counted := length_le_quoted text
    rcases readString_text text rest (show (quoted text).length ≤ fuel + 1 by omega) with ⟨after, shown, read⟩
    have start : skipSpace ('"' :: after) = '"' :: after := rfl
    rw [parseValue, shown, start]
    simp only [read, Option.map_some, String.ofList_toList]
  | .array [], _, _, _, _, _ => rfl
  | .array (element :: others), fuel, rest, printable, _, enough => by
    rw [printed] at enough ⊢
    simp only [List.length_cons, List.length_append, List.length_nil] at enough
    rw [List.cons_append, List.append_assoc, List.singleton_append]
    exact parseValue_array (begins_printedElements printable)
      (parseElements_printed (element :: others) fuel rest printable (List.cons_ne_nil _ _) (by omega))
  | .object [], _, _, _, _, _ => rfl
  | .object ((key, value) :: others), fuel, rest, printable, _, enough => by
    rw [printed] at enough ⊢
    simp only [List.length_cons, List.length_append, List.length_nil] at enough
    have members := parseMembers_printed ((key, value) :: others) fuel rest printable.1
      (List.cons_ne_nil _ _) (by omega)
    rw [List.cons_append, List.append_assoc, List.singleton_append,
      parseValue_object begins_printedEntries members, printable.2]

theorem parseElements_printed : forall (elements : List Json) (fuel : Nat) (rest : List Char),
    PrintableElements rounded elements -> elements ≠ [] -> 2 * (printedElements elements).length < fuel ->
    parseElements rounded fuel (printedElements elements ++ ']' :: rest) = some (elements, rest)
  | [], _, _, _, nonempty, _ => absurd rfl nonempty
  | element :: others, fuel, rest, printable, _, enough => by
    have positive : 1 ≤ element.printed.length := (begins_printed printable.1).length
    rcases others with _ | ⟨next, others⟩
    · rw [printedElements] at enough ⊢
      rcases fuel with _ | _ | fuel
      · omega
      · omega
      exact parseElements_last (parseValue_printed element fuel (']' :: rest) printable.1
        (follows_closing (by decide) rest) (by omega))
    · have split : printedElements (element :: next :: others) =
          element.printed ++ ',' :: printedElements (next :: others) := by
        rw [printedElements]
        exact List.cons_ne_nil _ _
      rw [split] at enough ⊢
      simp only [List.length_append, List.length_cons] at enough
      rcases fuel with _ | _ | fuel
      · omega
      · omega
      rw [List.append_assoc, List.cons_append]
      exact parseElements_cons (parseValue_printed element fuel _ printable.1
          (follows_closing (by decide) _) (by omega))
        (parseElements_printed (next :: others) (fuel + 1) rest printable.2 (List.cons_ne_nil _ _) (by omega))

theorem parseMembers_printed : forall (entries : List (String × Json)) (fuel : Nat) (rest : List Char),
    PrintableEntries rounded entries -> entries ≠ [] -> 2 * (printedEntries entries).length < fuel ->
    parseMembers rounded fuel (printedEntries entries ++ '\x7d' :: rest) = some (entries, rest)
  | [], _, _, _, nonempty, _ => absurd rfl nonempty
  | (key, value) :: others, fuel, rest, printable, _, enough => by
    have positive : 1 ≤ value.printed.length := (begins_printed printable.1).length
    rcases others with _ | ⟨⟨nextKey, next⟩, others⟩
    · rw [printedEntries] at enough ⊢
      simp only [List.length_append, List.length_cons] at enough
      rcases fuel with _ | _ | fuel
      · omega
      · omega
      rw [List.append_assoc, List.cons_append]
      exact parseMembers_last (by omega) (parseValue_printed value fuel ('\x7d' :: rest) printable.1
        (follows_closing (by decide) rest) (by omega))
    · have split : printedEntries ((key, value) :: (nextKey, next) :: others) =
          quoted key ++ ':' :: (value.printed ++ ',' :: printedEntries ((nextKey, next) :: others)) := by
        rw [printedEntries]
        exact List.cons_ne_nil _ _
      rw [split] at enough ⊢
      simp only [List.length_append, List.length_cons] at enough
      rcases fuel with _ | _ | fuel
      · omega
      · omega
      rw [List.append_assoc, List.cons_append, List.append_assoc, List.cons_append]
      exact parseMembers_cons (by omega)
        (parseValue_printed value fuel _ printable.1 (follows_closing (by decide) _) (by omega))
        (parseMembers_printed ((nextKey, next) :: others) (fuel + 1) rest printable.2 (List.cons_ne_nil _ _)
          (by omega))

end

/-- `JSON.parse` inverts `JSON.stringify`. -/
theorem parse_stringify {value : Json} (printable : Printable rounded value) :
    parse rounded (stringify value) = some value := by
  have read := parseValue_printed value (2 * value.printed.length + 1) [] printable rfl (by omega)
  rw [List.append_nil] at read
  rw [parse, stringify, String.toList_ofList, read]
  rfl

/-- `JSON.stringify` tells values apart. -/
theorem stringify_injective {left right : Json} (leftPrintable : Printable rounded left)
    (rightPrintable : Printable rounded right) (same : stringify left = stringify right) : left = right := by
  have read := parse_stringify leftPrintable
  rw [same, parse_stringify rightPrintable] at read
  exact (Option.some.inj read).symm

/-! ### Values that are printable -/

theorem isDigit_toDigits {value : Nat} (character : Char) (member : character ∈ Nat.toDigits 10 value) :
    character.isDigit = true :=
  Nat.isDigit_of_mem_toDigits (by decide) (by decide) member

/-- Only zero is printed with a leading zero. -/
theorem head_toDigits (value : Nat) : value = 0 ∨ (Nat.toDigits 10 value).head? ≠ some '0' := by
  induction value using Nat.strongRecOn with
  | ind value inductionHypothesis =>
    by_cases small : value < 10
    · rw [Nat.toDigits_of_lt_base small]
      by_cases zero : value = 0
      · exact Or.inl zero
      · exact Or.inr (by simpa using zero)
    · rcases inductionHypothesis (value / 10) (by omega) with zero | leading
      · omega
      · refine Or.inr ?_
        rw [Nat.toDigits_of_base_le (by omega) (by omega)]
        cases shape : Nat.toDigits 10 (value / 10) with
        | nil => exact absurd shape Nat.toDigits_ne_nil
        | cons first rest => simpa [shape] using leading

theorem decimal_toDigits (value : Nat) : decimal (Nat.toDigits 10 value) = some value := by
  have nonempty : (Nat.toDigits 10 value).isEmpty = false := by simp
  have digits : (Nat.toDigits 10 value).all Char.isDigit = true := List.all_eq_true.mpr isDigit_toDigits
  rw [decimal, nonempty, digits, Nat.ofDigitChars_ten_toDigits]
  rfl

/-- Digits have no sign to be dropped. -/
theorem withoutSign_digits (digits : forall character, character ∈ text -> character.isDigit = true) :
    withoutSign text = text := by
  unfold withoutSign
  split
  · exact absurd (digits '-' List.mem_cons_self) (by decide)
  · rfl

theorem integerOf_toString (value : Nat) : integerOf (toString value) = some (value : Int) := by
  have digits := decimal_toDigits value
  rw [integerOf, Nat.toString_eq_repr, Nat.toList_repr]
  split
  · rename_i rest shape
    exact absurd (isDigit_toDigits '-' (shape ▸ List.mem_cons_self)) (by decide)
  · rw [digits]
    rfl

theorem isNumberLiteral_toDigits (value : Nat) : isNumberLiteral (Nat.toDigits 10 value) = true := by
  have all : (Nat.toDigits 10 value).takeWhile Char.isDigit = Nat.toDigits 10 value :=
    List.takeWhile_eq_self_iff.mpr isDigit_toDigits
  have none : (Nat.toDigits 10 value).dropWhile Char.isDigit = [] :=
    List.dropWhile_eq_nil_iff.mpr isDigit_toDigits
  have nonempty : (Nat.toDigits 10 value).isEmpty = false := by simp
  have read : readDigits (withoutSign (Nat.toDigits 10 value)) = some (Nat.toDigits 10 value, []) := by
    rw [withoutSign_digits isDigit_toDigits, readDigits, all, none, nonempty]
    rfl
  have leading : (Nat.toDigits 10 value = ['0'] || (Nat.toDigits 10 value).head? ≠ some '0') = true := by
    rcases head_toDigits value with rfl | leading
    · rfl
    · rw [Bool.or_eq_true, decide_eq_true_iff, decide_eq_true_iff]
      exact Or.inr leading
  unfold isNumberLiteral
  rw [read]
  dsimp only
  rw [leading]
  rfl

/-- A natural number in the safe range is printed by its digits. -/
theorem printedNumber_natural {value : Nat} (safe : value < 2 ^ 53) :
    PrintedNumber rounded (toString value) := by
  have isSafe : isSafeInteger (value : Int) = true := by
    rw [isSafeInteger, Bool.and_eq_true, decide_eq_true_iff, decide_eq_true_iff]
    omega
  constructor
  · intro character member
    rw [Nat.toString_eq_repr, Nat.toList_repr] at member
    simp only [isNumberCharacter, isDigit_toDigits character member, Bool.true_or]
  · rw [Nat.toString_eq_repr, Nat.toList_repr]
    exact isNumberLiteral_toDigits value
  · rw [numberOf, String.ofList_toList, integerOf_toString, Option.filter_some, isSafe]
    rfl

theorem foldl_putMember {members : List (String × Json)}
    (distinct : ((entries ++ members).map Prod.fst).Nodup) :
    members.foldl putMember entries = entries ++ members := by
  induction members generalizing entries with
  | nil => exact (List.append_nil _).symm
  | cons member rest inductionHypothesis =>
    have fresh : entries.any (fun entry => entry.1 = member.1) = false := by
      apply List.any_eq_false.mpr
      intro entry listed same
      rw [List.map_append] at distinct
      exact List.disjoint_of_nodup_append distinct (List.mem_map_of_mem listed)
        (of_decide_eq_true same ▸ List.mem_map_of_mem List.mem_cons_self)
    rw [List.foldl_cons, putMember, fresh, if_neg Bool.false_ne_true, inductionHypothesis, List.append_assoc,
      List.singleton_append]
    rwa [List.append_assoc, List.singleton_append]

/-- Names that are no array indices keep their order. -/
theorem ownPropertyOrder_names (names : forall entry, entry ∈ entries -> arrayIndex? entry.1 = none) :
    ownPropertyOrder entries = entries := by
  have indexed : entries.filter (fun entry => (arrayIndex? entry.1).isSome) = [] := by
    apply List.filter_eq_nil_iff.mpr
    intro entry listed isIndex
    rw [names entry listed] at isIndex
    cases isIndex
  have named : entries.filter (fun entry => (arrayIndex? entry.1).isNone) = entries := by
    apply List.filter_eq_self.mpr
    intro entry listed
    rw [names entry listed]
    rfl
  rw [ownPropertyOrder, indexed, named]
  rfl

/-- Distinct names that are no array indices. -/
structure PlainNames (entries : List (String × Json)) : Prop where
  distinct : (entries.map Prod.fst).Nodup
  named : forall name, name ∈ entries.map Prod.fst -> arrayIndex? name = none

theorem PlainNames.perm (plain : PlainNames entries) (same : others.Perm entries) : PlainNames others := by
  have sameNames := same.map Prod.fst
  refine ⟨sameNames.nodup_iff.mpr plain.distinct, ?_⟩
  intro name listed
  exact plain.named name (sameNames.mem_iff.mp listed)

/-- Such names are enumerated as they were put. -/
theorem PlainNames.ownPropertyOrder (plain : PlainNames entries) :
    ownPropertyOrder entries = entries :=
  ownPropertyOrder_names (fun _ listed => plain.named _ (List.mem_map_of_mem listed))

theorem PlainNames.objectOf (plain : PlainNames entries) :
    objectOf entries = .object entries := by
  have put : entries.foldl putMember [] = entries := foldl_putMember plain.distinct
  rw [Json.objectOf, put, plain.ownPropertyOrder]

/-- Members with such names and printable values. -/
theorem PlainNames.printable (plain : PlainNames entries)
    (values : forall entry, entry ∈ entries -> Printable rounded entry.2) :
    Printable rounded (.object entries) := by
  refine ⟨?_, plain.objectOf⟩
  have each : forall members : List (String × Json),
      (forall entry, entry ∈ members -> Printable rounded entry.2) -> PrintableEntries rounded members := by
    intro members printable
    induction members with
    | nil => trivial
    | cons entry rest inductionHypothesis =>
      refine ⟨printable entry List.mem_cons_self, inductionHypothesis ?_⟩
      intro other listed
      exact printable other (List.mem_cons_of_mem _ listed)
  exact each entries values

theorem printable_array {elements : List Json}
    (values : forall element, element ∈ elements -> Printable rounded element) :
    Printable rounded (.array elements) := by
  induction elements with
  | nil => trivial
  | cons element rest inductionHypothesis =>
    refine ⟨values element List.mem_cons_self, inductionHypothesis ?_⟩
    intro other listed
    exact values other (List.mem_cons_of_mem _ listed)

end Parsing

end Json

end Persistence
end DigitalSolutions
