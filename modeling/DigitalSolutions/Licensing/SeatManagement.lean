import DigitalSolutions.Accounts.CustomerRecords
import DigitalSolutions.Foundation.Serializable
import DigitalSolutions.Platform.Text

namespace DigitalSolutions
namespace Licensing

open Foundation Persistence Platform

/-!
# Seats of a licence

A seat is a row that assigns a licence to a user; removing it deletes the row.
Both operations run in serializable transactions that first lock the row of
the licence.
-/

inductive AccountsMemberRole
  | owner | billing | licenseManager | member
  deriving DecidableEq

structure AccountMembership where
  accountId : Id
  userId : Id
  role : AccountsMemberRole
  deriving DecidableEq

inductive AccountMembership.Key
  | pair (accountId userId : Id)
  deriving DecidableEq

instance : Keyed AccountMembership AccountMembership.Key where
  keys membership := [.pair membership.accountId membership.userId]

structure LicenseAssignment where
  id : Id
  licenseId : Id
  userId : Id
  createdAt : Time
  deriving DecidableEq

inductive LicenseAssignment.Key
  | id (value : Id) | seat (licenseId userId : Id)
  deriving DecidableEq

instance : Keyed LicenseAssignment LicenseAssignment.Key where
  keys assignment := [.id assignment.id, .seat assignment.licenseId assignment.userId]

structure LicenseEvent where
  licenseId : Id
  type : String
  metadata : Json
  deriving DecidableEq

structure SeatAuditLog where
  actorId : Id
  accountId : Id
  action : String
  targetType : String
  targetId : Id
  metadata : Json
  deriving DecidableEq

structure SeatStore where
  users : Table Accounts.User
  accounts : Table Accounts.CustomerAccount
  memberships : Table AccountMembership
  licenses : Table License
  assignments : Table LicenseAssignment
  activations : Table DeviceActivation
  licenseEvents : List LicenseEvent
  auditLogs : List SeatAuditLog
  deriving DecidableEq

inductive SeatError
  | message (text : String)
  | uniqueViolation | missingUser
  deriving DecidableEq

abbrev SeatTx (Value : Type) := Transaction SeatError SeatStore Value

structure LicenseSeatAssignmentSnapshot where
  assignmentId : Id
  userId : Id
  email : String
  name : Option String
  createdAt : Time
  deriving DecidableEq

structure LicenseSeatSnapshot where
  licenseId : Id
  accountId : Id
  productId : Id
  maxSeats : Int
  assignedSeats : Nat
  availableSeats : Int
  assignments : List LicenseSeatAssignmentSnapshot
  deriving DecidableEq

inductive SeatStatus
  | assigned | existing | removed | notAssigned
  deriving DecidableEq

structure SeatOutcome where
  status : SeatStatus
  value : LicenseSeatSnapshot
  deriving DecidableEq

/-! ## Reading a licence with its seats -/

/-- A licence that the actor may manage, with its assignments by age and their
users. -/
structure ManageableLicense where
  license : License
  assignments : List LicenseAssignment
  shown : List LicenseSeatAssignmentSnapshot
  role : AccountsMemberRole

namespace SeatStore

variable (store : SeatStore)

def seats (licenseId : Id) : List LicenseAssignment :=
  store.assignments.select fun assignment => assignment.licenseId = licenseId

def seatAssignment (assignment : LicenseAssignment) : Option LicenseSeatAssignmentSnapshot :=
  (store.users.lookup (.id assignment.userId)).map fun user =>
    ⟨assignment.id, user.id, user.email, user.name, assignment.createdAt⟩

/-- Whether a user belongs to the account, is active and has a verified
address. -/
def isAccountMember (accountId targetUserId : Id) : Bool :=
  (store.users.lookup (.id targetUserId)).any fun user =>
    user.lifecycleState = .active && user.emailVerified.isSome &&
      ((store.accounts.lookup (.id accountId)).any (fun account => account.ownerId = user.id) ||
        (store.memberships.lookup (.pair accountId user.id)).isSome)

end SeatStore

def effectiveRole (ownerId actorId : Id) (membershipRole : Option AccountsMemberRole) :
    Option AccountsMemberRole :=
  if ownerId = actorId then some .owner else membershipRole

/-- `roleHasAccountsCapability(role, "ASSIGN_LICENSE")`, which a package decides. -/
abbrev AssignLicenseCapability := AccountsMemberRole -> Bool

variable (assignLicense : AssignLicenseCapability)

def requireManageableLicense (store : SeatStore) (actorId licenseId : Id) :
    Except SeatError ManageableLicense :=
  match store.licenses.lookup (.id licenseId) with
  | none => .error (.message "NOT_FOUND")
  | some license =>
    match store.accounts.lookup (.id license.accountId) with
    | none => .error (.message "NOT_FOUND")
    | some account =>
      let assignments := (store.seats licenseId).insertionSort fun left right =>
        left.createdAt ≤ right.createdAt
      match assignments.mapM store.seatAssignment with
      | none => .error .missingUser
      | some shown =>
        if account.lifecycleState ≠ .active then .error (.message "ACCOUNT_NOT_ACTIVE")
        else if license.status ≠ .active then .error (.message "LICENSE_NOT_ACTIVE")
        else
          match effectiveRole account.ownerId actorId
              ((store.memberships.lookup (.pair account.id actorId)).map AccountMembership.role) with
          | none => .error (.message "ACCOUNT_ROLE_FORBIDDEN")
          | some role =>
            if assignLicense role then .ok ⟨license, assignments, shown, role⟩
            else .error (.message "ACCOUNT_ROLE_FORBIDDEN")

def snapshot (manageable : ManageableLicense) : LicenseSeatSnapshot where
  licenseId := manageable.license.id
  accountId := manageable.license.accountId
  productId := manageable.license.productId
  maxSeats := manageable.license.maxSeats
  assignedSeats := manageable.assignments.length
  availableSeats := max 0 (manageable.license.maxSeats - manageable.assignments.length)
  assignments := manageable.shown

def readLicenseSeatState (store : SeatStore) (actorId licenseId : Id) :
    Except SeatError LicenseSeatSnapshot :=
  (requireManageableLicense assignLicense store actorId licenseId).map snapshot

/-! ## The two operations -/

structure SeatInput where
  actorId : Id
  licenseId : Id
  targetUserId : Id

/-- What the database fills in: the id of a new row and its date. -/
structure SeatDraw where
  assignmentId : Id
  now : Time

/-- The row event and the audit entry that either operation leaves. -/
def recordSeatChange (license : License) (actorId targetUserId : Id) (event action : String)
    (targetId : Id) (store : SeatStore) : SeatStore :=
  { store with
    licenseEvents := store.licenseEvents ++ [⟨license.id, event,
      .object [("userId", .string targetUserId), ("actorId", .string actorId)]⟩]
    auditLogs := store.auditLogs ++ [⟨actorId, license.accountId, action, "LicenseAssignment", targetId,
      .object [("licenseId", .string license.id), ("userId", .string targetUserId)]⟩] }

def assignLicenseSeat (input : SeatInput) (draw : SeatDraw) : SeatTx SeatOutcome := do
  let actorId := trim input.actorId
  let targetUserId := trim input.targetUserId
  if actorId = "" ∨ targetUserId = "" then
    throw (.message "INVALID_INPUT")
  else
    let store <- get
    let manageable <- liftM (requireManageableLicense assignLicense store actorId input.licenseId)
    if store.isAccountMember manageable.license.accountId targetUserId = false then
      throw (.message "TARGET_NOT_ACCOUNT_MEMBER")
    else if manageable.assignments.any (fun assignment => assignment.userId = targetUserId) then
      return ⟨.existing, snapshot manageable⟩
    else if manageable.license.maxSeats ≤ manageable.assignments.length then
      throw (.message "LICENSE_SEAT_LIMIT")
    else
      let assignments <- Transaction.orFail .uniqueViolation (store.assignments.insert
        ⟨draw.assignmentId, manageable.license.id, targetUserId, draw.now⟩)
      set (recordSeatChange manageable.license actorId targetUserId "SEAT_ASSIGNED"
        "LICENSE_SEAT_ASSIGNED" manageable.license.id { store with assignments })
      let written <- get
      let refreshed <- liftM
        (requireManageableLicense assignLicense written actorId manageable.license.id)
      return ⟨.assigned, snapshot refreshed⟩

def removeLicenseSeat (input : SeatInput) : SeatTx SeatOutcome := do
  let actorId := trim input.actorId
  let targetUserId := trim input.targetUserId
  if actorId = "" ∨ targetUserId = "" then
    throw (.message "INVALID_INPUT")
  else
    let store <- get
    let manageable <- liftM (requireManageableLicense assignLicense store actorId input.licenseId)
    match manageable.assignments.find? (fun assignment => assignment.userId = targetUserId) with
    | none => return ⟨.notAssigned, snapshot manageable⟩
    | some existing =>
      set (recordSeatChange manageable.license actorId targetUserId "SEAT_REMOVED"
        "LICENSE_SEAT_REMOVED" existing.id
        { store with assignments := store.assignments.delete fun row => row.id = existing.id })
      let written <- get
      let refreshed <- liftM
        (requireManageableLicense assignLicense written actorId manageable.license.id)
      return ⟨.removed, snapshot refreshed⟩

/-! ## What runs concurrently -/

/-- A licence has the seats it had, or is new and has room for its seats. -/
def SeatStore.keepsSeats (before after : SeatStore) : Bool :=
  after.assignments = before.assignments && after.licenses.rows.all fun license =>
    (before.licenses.rows.any fun old => old.id = license.id && old.maxSeats = license.maxSeats) ||
      ((before.seats license.id).isEmpty && 0 ≤ license.maxSeats)

inductive SeatCall
  | assign (input : SeatInput) (draw : SeatDraw)
  | remove (input : SeatInput)
  /-- What other code does to users, accounts, devices and licences.  It assigns no seat,
  and the number of seats of a licence is fixed when the licence is issued. -/
  | elsewhere (after : SeatStore)

def seatTransaction : SeatCall -> SeatTx (Option SeatOutcome)
  | .assign input draw => some <$> assignLicenseSeat assignLicense input draw
  | .remove input => some <$> removeLicenseSeat assignLicense input
  | .elsewhere after => do
    let store <- get
    if store.keepsSeats after then
      set after
      return none
    else throw (.message "NOT_MODELLED")

def seatMachine : Machine (Shared SeatStore SeatCall) (SessionMove SeatCall) (SessionRefusal SeatError) :=
  Shared.machine (seatTransaction assignLicense)

end Licensing
end DigitalSolutions
