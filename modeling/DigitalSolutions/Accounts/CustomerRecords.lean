import DigitalSolutions.Foundation.Transaction
import DigitalSolutions.Persistence.Schema

namespace DigitalSolutions
namespace Accounts

open Foundation Persistence

/-!
# Customers and what is kept about them

The rows that the customer lifecycle reads and writes.  Of the rows that only
have to be counted, the columns that tell whose they are.
-/

inductive CustomerLifecycleState
  | active | suspended | closureRequested | closed | privacyReview | pseudonymized | purgeEligible
  deriving DecidableEq

inductive GlobalRole
  | customer | admin
  deriving DecidableEq

structure User where
  id : Id
  email : String
  name : Option String
  emailVerified : Option Time
  role : GlobalRole
  suspendedAt : Option Time
  lifecycleState : CustomerLifecycleState
  privacyRequestedAt : Option Time
  pseudonymizedAt : Option Time
  retentionExpiresAt : Option Time
  legalHoldAt : Option Time
  legalHoldReason : Option String
  emailHash : Option String
  deriving DecidableEq

inductive User.Key
  | id (value : Id) | email (value : String)
  deriving DecidableEq

instance : Keyed User User.Key where
  keys user := [.id user.id, .email user.email]

inductive AccountType
  | individual | organization
  deriving DecidableEq

structure CustomerAccount where
  id : Id
  type : AccountType
  displayName : String
  ownerId : Id
  billingEmail : String
  taxId : Option String
  lifecycleState : CustomerLifecycleState
  privacyRequestedAt : Option Time
  pseudonymizedAt : Option Time
  retentionExpiresAt : Option Time
  legalHoldAt : Option Time
  legalHoldReason : Option String
  deriving DecidableEq

inductive CustomerAccount.Key
  | id (value : Id)
  deriving DecidableEq

instance : Keyed CustomerAccount CustomerAccount.Key where
  keys account := [.id account.id]

/-- A row of one of the tables that hold credentials and tokens of a user. -/
structure UserSecret where
  userId : Id
  secretHash : String
  deriving DecidableEq

structure OutboxMail where
  recipient : String
  payload : Json
  deriving DecidableEq

structure Membership where
  accountId : Id
  userId : Id
  deriving DecidableEq

/-- An acceptance of a legal document, by a user and perhaps for an account. -/
structure LegalAcceptance where
  userId : Id
  customerAccountId : Option Id
  deriving DecidableEq

structure AuditLog where
  actorId : Id
  action : String
  targetType : String
  targetId : Id
  metadata : Json
  deriving DecidableEq

structure CustomerStore where
  users : Table User
  accounts : Table CustomerAccount
  sessions : List UserSecret
  passwordCredentials : List UserSecret
  passwordResetTokens : List UserSecret
  /-- By their identifiers, which are addresses. -/
  verificationTokens : List String
  emailOutbox : List OutboxMail
  /-- By their accounts. -/
  carts : List Id
  /-- By their accounts. -/
  invitations : List Id
  memberships : List Membership
  /-- License assignments, by their users. -/
  assignments : List Id
  orders : Table Order
  payments : Table Payment
  licenses : Table License
  subscriptions : Table Subscription
  /-- Trials, by their accounts. -/
  trials : List Id
  legalAcceptances : List LegalAcceptance
  auditLogs : List AuditLog

namespace CustomerStore

def empty : CustomerStore where
  users := ∅
  accounts := ∅
  sessions := []
  passwordCredentials := []
  passwordResetTokens := []
  verificationTokens := []
  emailOutbox := []
  carts := []
  invitations := []
  memberships := []
  assignments := []
  orders := ∅
  payments := ∅
  licenses := ∅
  subscriptions := ∅
  trials := []
  legalAcceptances := []
  auditLogs := []

def ownedAccounts (store : CustomerStore) (userId : Id) : List CustomerAccount :=
  store.accounts.select fun account => account.ownerId = userId

def ownedIds (store : CustomerStore) (userId : Id) : List Id :=
  (store.ownedAccounts userId).map CustomerAccount.id

end CustomerStore

/-! ## What the packages decide -/

/-- The facts that the retention policy is asked about. -/
structure RetentionFacts where
  userId : Id
  administratorProtected : Bool
  organizationAccounts : Nat
  memberships : Nat
  licenseAssignments : Nat
  orders : Nat
  licenses : Nat
  subscriptions : Nat
  trials : Nat
  legalAcceptances : Nat
  activeSubscriptions : Nat
  unresolvedPayments : Nat
  legalHold : Bool
  retentionActive : Bool
  pseudonymized : Bool
  deriving DecidableEq

structure RetentionBlockerReport where
  userId : Id
  blockers : List String
  canPseudonymize : Bool
  canMarkPurgeEligible : Bool
  canPurge : Bool
  deriving DecidableEq

structure PolicyFailure where
  code : String
  blockers : List String
  deriving DecidableEq

structure PrivacyDeletionFacts where
  administratorProtected : Bool
  legalHold : Bool
  retentionExpiresAt : Time
  now : Time

structure LegalHoldFacts where
  administratorProtected : Bool
  enabled : Bool
  reason : Option String
  now : Time

structure LegalHold where
  legalHoldAt : Option Time
  legalHoldReason : Option String
  deriving DecidableEq

structure FinalPurgeFacts where
  userId : Id
  confirmation : String
  lifecycleState : CustomerLifecycleState
  canPurge : Bool
  blockers : List String

/-- What pseudonymization writes, by table. -/
structure MinimizationPlan where
  normalizedEmailHashSource : String
  emailOutboxUpdate : OutboxMail
  userUpdate : User -> User
  customerAccountUpdate : CustomerAccount -> CustomerAccount
  auditAction : String
  auditTargetType : String
  auditMetadata : Json

/-- The decisions of the accounts and privacy packages, and the keyed hash of
the host. -/
structure CustomerPolicies where
  evaluate : RetentionFacts -> Except String RetentionBlockerReport
  requestPrivacyDeletion : PrivacyDeletionFacts -> Except PolicyFailure Unit
  legalHold : LegalHoldFacts -> Except PolicyFailure LegalHold
  pseudonymize : CustomerLifecycleState -> Bool -> List String -> Except PolicyFailure Unit
  markPurgeEligible : Bool -> List String -> Except PolicyFailure Unit
  finalPurge : FinalPurgeFacts -> Except PolicyFailure Unit
  planPrivacyCustomerMinimization : Id -> String -> Time -> MinimizationPlan
  hmacSha256 : String -> String

inductive CustomerError
  | lifecycle (code : String) (blockers : List String)
  | message (text : String)
  | recordNotFound | uniqueViolation | foreignKeyViolation
  deriving DecidableEq

abbrev CustomerTx (Value : Type) := Transaction CustomerError CustomerStore Value

/-- `requireLifecycleDecision`. -/
def requireLifecycleDecision {Value : Type} (result : Except PolicyFailure Value) :
    Except CustomerError Value :=
  match result with
  | .ok value => .ok value
  | .error failure => .error (.lifecycle failure.code failure.blockers)

/-- No deletion step is decided for a user that is reported under legal hold. -/
structure CustomerPolicies.RefusesHeld (policies : CustomerPolicies) : Prop where
  privacyDeletion : forall facts : PrivacyDeletionFacts, facts.legalHold = true ->
    Exists fun failure => policies.requestPrivacyDeletion facts = .error failure
  pseudonymize : forall facts report state, facts.legalHold = true ->
    policies.evaluate facts = .ok report ->
    Exists fun failure => policies.pseudonymize state report.canPseudonymize report.blockers = .error failure
  markPurgeEligible : forall facts report, facts.legalHold = true ->
    policies.evaluate facts = .ok report ->
    Exists fun failure => policies.markPurgeEligible report.canMarkPurgeEligible report.blockers = .error failure
  finalPurge : forall facts report userId confirmation state, facts.legalHold = true ->
    policies.evaluate facts = .ok report ->
    Exists fun failure =>
      policies.finalPurge ⟨userId, confirmation, state, report.canPurge, report.blockers⟩ = .error failure

end Accounts
end DigitalSolutions
