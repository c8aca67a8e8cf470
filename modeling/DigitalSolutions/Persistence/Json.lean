import Mathlib

namespace DigitalSolutions
namespace Persistence

/-!
# JSON columns

Snapshots are stored as JSON and compared with `jsonEquivalent`, which
serialises both sides after sorting the keys of every object.  The repository
states the pair `canonicalJson` and `jsonEquivalent` twice, once beside the
settlement repositories and once beside the refund revocation; both copies
are this one.

A number is kept as the text JavaScript prints for it, so two numbers are
serialised alike exactly when their literals agree.  On a canonical value
`JSON.stringify` is injective, and the comparison is made on the values.
-/

inductive Json
  | null
  | bool (value : Bool)
  | number (literal : String)
  | string (value : String)
  | array (elements : List Json)
  | object (entries : List (String × Json))

namespace Json

mutual

def decideEq : (left right : Json) -> Decidable (left = right)
  | .null, .null => isTrue rfl
  | .bool left, .bool right => decidable_of_iff (left = right) (by simp)
  | .number left, .number right => decidable_of_iff (left = right) (by simp)
  | .string left, .string right => decidable_of_iff (left = right) (by simp)
  | .array left, .array right =>
    match decideElements left right with
    | isTrue same => isTrue (by rw [same])
    | isFalse different => isFalse (by simpa using different)
  | .object left, .object right =>
    match decideEntries left right with
    | isTrue same => isTrue (by rw [same])
    | isFalse different => isFalse (by simpa using different)
  | .null, .bool _ | .null, .number _ | .null, .string _ | .null, .array _ | .null, .object _
  | .bool _, .null | .bool _, .number _ | .bool _, .string _ | .bool _, .array _ | .bool _, .object _
  | .number _, .null | .number _, .bool _ | .number _, .string _ | .number _, .array _
  | .number _, .object _
  | .string _, .null | .string _, .bool _ | .string _, .number _ | .string _, .array _
  | .string _, .object _
  | .array _, .null | .array _, .bool _ | .array _, .number _ | .array _, .string _
  | .array _, .object _
  | .object _, .null | .object _, .bool _ | .object _, .number _ | .object _, .string _
  | .object _, .array _ => isFalse (by simp)

def decideElements : (left right : List Json) -> Decidable (left = right)
  | [], [] => isTrue rfl
  | [], _ :: _ => isFalse (by simp)
  | _ :: _, [] => isFalse (by simp)
  | left :: lefts, right :: rights =>
    match decideEq left right, decideElements lefts rights with
    | isTrue sameHead, isTrue sameTail => isTrue (by rw [sameHead, sameTail])
    | isFalse different, _ => isFalse (by simp [different])
    | _, isFalse different => isFalse (by simp [different])

def decideEntries : (left right : List (String × Json)) -> Decidable (left = right)
  | [], [] => isTrue rfl
  | [], _ :: _ => isFalse (by simp)
  | _ :: _, [] => isFalse (by simp)
  | (leftKey, left) :: lefts, (rightKey, right) :: rights =>
    if sameKey : leftKey = rightKey then
      match decideEq left right, decideEntries lefts rights with
      | isTrue sameHead, isTrue sameTail => isTrue (by rw [sameKey, sameHead, sameTail])
      | isFalse different, _ => isFalse (by simp [different])
      | _, isFalse different => isFalse (by simp [different])
    else isFalse (by simp [sameKey])

end

instance : DecidableEq Json := decideEq

/-- The property keys that JavaScript enumerates first, in ascending order:
the decimal numerals below `2 ^ 32 - 1` without a leading zero. -/
def arrayIndex? (key : String) : Option Nat :=
  let digits := key.toList
  if digits.isEmpty || !digits.all Char.isDigit || (digits.head? = some '0' && digits.length ≠ 1) then
    none
  else
    let index := digits.foldl (fun value digit => 10 * value + (digit.toNat - '0'.toNat)) 0
    if index < 2 ^ 32 - 1 then some index else none

/-- The enumeration order of the object `Object.fromEntries` builds. -/
def ownPropertyOrder (entries : List (String × Json)) : List (String × Json) :=
  let indexed := entries.filter (fun entry => (arrayIndex? entry.1).isSome)
  let named := entries.filter (fun entry => (arrayIndex? entry.1).isNone)
  indexed.insertionSort (fun left right =>
    (arrayIndex? left.1).getD 0 ≤ (arrayIndex? right.1).getD 0) ++ named

section Canonical

variable (localeCompare : String -> String -> Int)

mutual

/-- Sort the keys of every object.  The comparison of two keys is the
collation of the runtime, so it stays a parameter. -/
def canonicalJson : Json -> Json
  | .array elements => .array (canonicalElements elements)
  | .object entries =>
    .object (ownPropertyOrder ((canonicalEntries entries).insertionSort
      (fun left right => localeCompare left.1 right.1 ≤ 0)))
  | value => value

def canonicalElements : List Json -> List Json
  | [] => []
  | element :: rest => canonicalJson element :: canonicalElements rest

def canonicalEntries : List (String × Json) -> List (String × Json)
  | [] => []
  | (key, nested) :: rest => (key, canonicalJson nested) :: canonicalEntries rest

end

def jsonEquivalent (left right : Json) : Bool :=
  canonicalJson localeCompare left = canonicalJson localeCompare right

end Canonical

end Json

end Persistence
end DigitalSolutions
