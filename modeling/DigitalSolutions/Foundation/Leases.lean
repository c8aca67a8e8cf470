import Mathlib

namespace DigitalSolutions
namespace Foundation

/-!
# Leases

A lease store gives a key to one token at a time.  It frees a key when the
holder releases it, and when the lease has run out.  Nothing else is assumed
of it: a map in memory and a remote store with conditional writes are both
lease stores.

A holder that is past its expiry may still be listed, and counts as absent.
-/

structure LeaseStore (State Key Token : Type) where
  /-- The arguments are the instant, the key, the time to live and the token. -/
  acquire : Int -> Key -> Int -> Token -> State -> Option State
  release : Key -> Token -> State -> State
  /-- Who holds a key, and until when. -/
  holder : State -> Key -> Option (Token × Int)

namespace LeaseStore

variable {State Key Token : Type} [DecidableEq Key] [DecidableEq Token]
variable (store : LeaseStore State Key Token)

/-- Nobody holds the key at this instant. -/
def Free (state : State) (now : Int) (key : Key) : Prop :=
  forall token expiry, store.holder state key = some (token, expiry) -> expiry ≤ now

/-- The token holds the key at this instant, until the expiry. -/
def Holds (state : State) (now : Int) (key : Key) (token : Token) (expiry : Int) : Prop :=
  store.holder state key = some (token, expiry) ∧ now < expiry

structure Lawful : Prop where
  acquire_isSome : forall {state : State} {now : Int} {key : Key} (ttl : Int) (token : Token),
    store.Free state now key -> (store.acquire now key ttl token state).isSome = true
  free_of_acquire : forall {state later : State} {now : Int} {key : Key} {ttl : Int} {token : Token},
    store.acquire now key ttl token state = some later -> store.Free state now key
  holder_acquire : forall {state later : State} {now : Int} {key : Key} {ttl : Int} {token : Token},
    store.acquire now key ttl token state = some later ->
    store.holder later = Function.update (store.holder state) key (some (token, now + ttl))
  holder_release : forall (state : State) (key : Key) (token : Token) (other : Key),
    store.holder (store.release key token state) other =
      if other = key ∧ (store.holder state key).map Prod.fst = some token then none
      else store.holder state other

variable {store} {state later : State} {now : Int} {key other : Key} {token rival : Token} {ttl expiry : Int}

instance (state : State) (now : Int) (key : Key) : Decidable (store.Free state now key) :=
  match held : store.holder state key with
  | none => isTrue (by intro token expiry holds; rw [held] at holds; cases holds)
  | some (token, expiry) =>
    if past : expiry ≤ now then
      isTrue (by intro token expiry holds; rw [held] at holds; cases holds; exact past)
    else isFalse (fun free => past (free token expiry held))

omit [DecidableEq Key] [DecidableEq Token] in
theorem Holds.not_free (holds : store.Holds state now key token expiry) : ¬ store.Free state now key :=
  fun free => Int.not_le.mpr holds.2 (free token expiry holds.1)

/-- The token that acquires a key holds it. -/
theorem Lawful.holder_self (lawful : store.Lawful)
    (acquired : store.acquire now key ttl token state = some later) :
    store.holder later key = some (token, now + ttl) := by
  rw [lawful.holder_acquire acquired, Function.update_self]

/-- Nobody else's lease is touched by an acquisition. -/
theorem Lawful.holds_acquire (lawful : store.Lawful)
    (acquired : store.acquire now key ttl token state = some later)
    (holds : store.Holds state now other rival expiry) : store.Holds later now other rival expiry := by
  have different : other ≠ key := by
    rintro rfl
    exact holds.not_free (lawful.free_of_acquire acquired)
  refine ⟨?_, holds.2⟩
  rw [lawful.holder_acquire acquired, Function.update_of_ne different]
  exact holds.1

/-- Nobody else's lease is touched by a release. -/
theorem Lawful.holds_release (lawful : store.Lawful) (different : rival ≠ token)
    (holds : store.Holds state now other rival expiry) :
    store.Holds (store.release key token state) now other rival expiry := by
  refine ⟨?_, holds.2⟩
  rw [lawful.holder_release, if_neg]
  · exact holds.1
  · rintro ⟨rfl, held⟩
    rw [holds.1, Option.map_some, Option.some.injEq] at held
    exact different held

/-- What a release takes away was held under the released token. -/
theorem Lawful.released_eq (lawful : store.Lawful)
    (held : store.holder state other = some (rival, expiry))
    (gone : store.holder (store.release key token state) other ≠ some (rival, expiry)) :
    rival = token := by
  by_contra different
  apply gone
  rw [lawful.holder_release, if_neg]
  · exact held
  · rintro ⟨rfl, isHeld⟩
    rw [held, Option.map_some, Option.some.injEq] at isHeld
    exact different isHeld

/-! ## A map in memory -/

/-- Leases kept in a map: `acquire` refuses a key whose entry has not run out,
`release` deletes the entry of its own token. -/
def ofMap : LeaseStore (Key -> Option (Token × Int)) Key Token where
  acquire now key ttl token entries :=
    match entries key with
    | some (_, expiry) =>
      if now < expiry then none else some (Function.update entries key (some (token, now + ttl)))
    | none => some (Function.update entries key (some (token, now + ttl)))
  release key token entries :=
    if (entries key).map Prod.fst = some token then Function.update entries key none else entries
  holder entries := entries

theorem ofMap_lawful : (ofMap : LeaseStore (Key -> Option (Token × Int)) Key Token).Lawful where
  acquire_isSome := by
    intro entries now key ttl token free
    simp only [ofMap]
    cases held : entries key with
    | none => rfl
    | some pair =>
      rcases pair with ⟨rival, expiry⟩
      have past : ¬ now < expiry := Int.not_lt.mpr (free rival expiry held)
      simp only [past, if_false, Option.isSome_some]
  free_of_acquire := by
    intro entries later now key ttl token acquired rival expiry held
    simp only [ofMap] at acquired held
    rw [held] at acquired
    by_contra unexpired
    simp only [Int.not_le.mp unexpired, if_true, reduceCtorEq] at acquired
  holder_acquire := by
    intro entries later now key ttl token acquired
    simp only [ofMap] at acquired ⊢
    split at acquired
    · split at acquired
      · cases acquired
      · exact (Option.some.inj acquired).symm
    · exact (Option.some.inj acquired).symm
  holder_release := by
    intro entries key token other
    simp only [ofMap]
    by_cases held : (entries key).map Prod.fst = some token
    · by_cases same : other = key
      · subst same
        simp only [held, if_true, true_and, Function.update_self]
      · simp only [held, same, if_true, false_and, if_false, Function.update_of_ne same]
    · simp only [held, and_false, if_false]

end LeaseStore

end Foundation
end DigitalSolutions
