import Mathlib

namespace DigitalSolutions
namespace Platform

/-!
# Text as JavaScript treats it

Trimming and upper-casing on the characters of a text.  Upper case is exact
for every character whose upper case consists of ASCII letters, which is all
that the patterns and codes compared in upper case can hold.
-/

/-- The characters `trim` removes. -/
def isWhiteSpace (character : Char) : Bool :=
  character.toNat ∈ [0x09, 0x0A, 0x0B, 0x0C, 0x0D, 0x20, 0xA0, 0x1680, 0x2000, 0x2001, 0x2002, 0x2003,
    0x2004, 0x2005, 0x2006, 0x2007, 0x2008, 0x2009, 0x200A, 0x2028, 0x2029, 0x202F, 0x205F, 0x3000,
    0xFEFF]

def trim (text : String) : String :=
  String.ofList ((text.toList.dropWhile isWhiteSpace).reverse.dropWhile isWhiteSpace).reverse

def isBlank (text : String) : Bool := text.toList.all isWhiteSpace

/-- The upper case of one character, which may be longer than it. -/
def upperCase (character : Char) : List Char :=
  if 'a' ≤ character ∧ character ≤ 'z' then [Char.ofNat (character.toNat - 32)]
  else if character = 'ß' then ['S', 'S']
  else if character = 'ﬀ' then ['F', 'F']
  else if character = 'ﬁ' then ['F', 'I']
  else if character = 'ﬂ' then ['F', 'L']
  else if character = 'ﬃ' then ['F', 'F', 'I']
  else if character = 'ﬄ' then ['F', 'F', 'L']
  else if character = 'ﬅ' ∨ character = 'ﬆ' then ['S', 'T']
  else if character = 'ı' then ['I']
  else if character = 'ſ' then ['S']
  else [character]

def toUpperCase (text : String) : String := String.ofList (text.toList.flatMap upperCase)

/-- The lower case of one character, exact where it consists of ASCII letters. -/
def lowerCase (character : Char) : Char :=
  if 'A' ≤ character ∧ character ≤ 'Z' then Char.ofNat (character.toNat + 32)
  else if character.toNat = 0x212A then 'k'
  else character

def toLowerCase (text : String) : String := String.ofList (text.toList.map lowerCase)

/-- `text.length`, which counts UTF-16 code units. -/
def utf16Length (text : String) : Nat :=
  (text.toList.map (fun character => if character.toNat < 0x10000 then 1 else 2)).sum

/-- `text.slice(-4)`. -/
def lastFour (text : String) : String :=
  String.ofList (text.toList.drop (text.toList.length - 4))

end Platform
end DigitalSolutions
