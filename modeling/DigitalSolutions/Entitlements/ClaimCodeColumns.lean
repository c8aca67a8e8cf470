import DigitalSolutions.Persistence.Schema

namespace DigitalSolutions
namespace Entitlements

open Persistence

/-!
# The columns of a claim code

The table keeps the state of a code in seven columns, and three CHECK
constraints say which combinations of them may be stored.  Elsewhere a state
is one of four shapes that carry their own columns.  Here the two are
compared: every shape satisfies the constraints, every row that satisfies
them has a shape, and the three statements that change a code do to the
columns of an available code what they do to its shape.
-/

structure ClaimCodeColumns where
  status : ClaimCodeStatus
  codeCiphertext : Option String
  claimedAt : Option Time
  claimedByUserId : Option Id
  claimedToAccountId : Option Id
  entitlementId : Option Id
  revokedAt : Option Time
  deriving DecidableEq

namespace ClaimCodeColumns

/-! ## The constraints -/

/-- `ClaimCode_claim_shape_check`. -/
def claimShape (row : ClaimCodeColumns) : Bool :=
  row.status ≠ .claimed || (row.claimedAt.isSome && row.claimedByUserId.isSome &&
    row.claimedToAccountId.isSome && row.entitlementId.isSome)

/-- `ClaimCode_revoked_shape_check`. -/
def revokedShape (row : ClaimCodeColumns) : Bool :=
  row.status ≠ .revoked || row.revokedAt.isSome

/-- `ClaimCode_secret_shape_check`. -/
def secretShape (row : ClaimCodeColumns) : Bool :=
  (row.status = .available && row.codeCiphertext.isSome) ||
    (row.status ≠ .available && row.codeCiphertext.isNone)

def admitted (row : ClaimCodeColumns) : Bool :=
  row.claimShape && row.revokedShape && row.secretShape

/-! ## The statements

Each is an UPDATE guarded by the status, so it meets available codes only. -/

def expire (row : ClaimCodeColumns) : ClaimCodeColumns :=
  { row with status := .expired, codeCiphertext := none }

def revoke (revokedAt : Time) (row : ClaimCodeColumns) : ClaimCodeColumns :=
  { row with status := .revoked, revokedAt := some revokedAt, codeCiphertext := none }

def claim (claimedAt : Time) (userId accountId entitlementId : Id) (row : ClaimCodeColumns) :
    ClaimCodeColumns :=
  { row with
    status := .claimed
    claimedAt := some claimedAt
    claimedByUserId := some userId
    claimedToAccountId := some accountId
    entitlementId := some entitlementId
    codeCiphertext := none }

/-- The shape of a row, if it has one. -/
def shape (row : ClaimCodeColumns) : Option ClaimCodeState :=
  match row.status with
  | .available => row.codeCiphertext.map .available
  | .claimed =>
    match row.codeCiphertext, row.claimedAt, row.claimedByUserId, row.claimedToAccountId,
        row.entitlementId with
    | none, some claimedAt, some userId, some accountId, some entitlementId =>
      some (.claimed claimedAt userId accountId entitlementId)
    | _, _, _, _, _ => none
  | .revoked => if row.codeCiphertext.isNone then row.revokedAt.map .revoked else none
  | .expired => if row.codeCiphertext.isNone then some .expired else none

end ClaimCodeColumns

/-- The columns of a state as its statements leave them. -/
def columnsOf : ClaimCodeState -> ClaimCodeColumns
  | .available codeCiphertext => ⟨.available, some codeCiphertext, none, none, none, none, none⟩
  | .claimed claimedAt userId accountId entitlementId =>
    ⟨.claimed, none, some claimedAt, some userId, some accountId, some entitlementId, none⟩
  | .revoked revokedAt => ⟨.revoked, none, none, none, none, none, some revokedAt⟩
  | .expired => ⟨.expired, none, none, none, none, none, none⟩

@[simp] theorem columnsOf_status (state : ClaimCodeState) :
    (columnsOf state).status = state.status := by
  cases state <;> rfl

theorem shape_columnsOf (state : ClaimCodeState) : (columnsOf state).shape = some state := by
  cases state <;> rfl

/-- The constraints admit exactly the rows that have a shape. -/
theorem admitted_iff_shape (row : ClaimCodeColumns) :
    row.admitted = true ↔ row.shape.isSome = true := by
  rcases row with ⟨status, codeCiphertext, claimedAt, userId, accountId, entitlementId, revokedAt⟩
  cases status with
  | available => cases codeCiphertext <;> simp [ClaimCodeColumns.admitted, ClaimCodeColumns.shape,
      ClaimCodeColumns.claimShape, ClaimCodeColumns.revokedShape, ClaimCodeColumns.secretShape]
  | claimed =>
    cases codeCiphertext <;> cases claimedAt <;> cases userId <;> cases accountId <;>
      cases entitlementId <;> rfl
  | revoked => cases codeCiphertext <;> cases revokedAt <;> rfl
  | expired => cases codeCiphertext <;> rfl

/-- A stored code still has its ciphertext exactly if it is available. -/
theorem ciphertext_iff_available (state : ClaimCodeState) :
    (columnsOf state).codeCiphertext.isSome = true ↔ state.status = .available := by
  have admits : (columnsOf state).admitted = true := by
    rw [admitted_iff_shape, shape_columnsOf]
    rfl
  simp only [ClaimCodeColumns.admitted, ClaimCodeColumns.secretShape, Bool.and_eq_true,
    Bool.or_eq_true, decide_eq_true_eq, columnsOf_status] at admits
  rcases admits.2 with ⟨available, stored⟩ | ⟨spent, erased⟩
  · exact ⟨fun _ => available, fun _ => stored⟩
  · constructor
    · intro stored
      rw [Option.isNone_iff_eq_none.mp erased] at stored
      cases stored
    · intro available
      exact absurd available spent

end Entitlements
end DigitalSolutions
