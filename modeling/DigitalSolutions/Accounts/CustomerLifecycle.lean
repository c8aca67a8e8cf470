import DigitalSolutions.Accounts.CustomerRecords
import DigitalSolutions.Foundation.Processes

namespace DigitalSolutions
namespace Accounts

open Foundation Persistence

/-!
# The lifecycle operations of a customer

An operation first reads and decides, and then writes in one transaction.
What it read stays in its hands between the two.
-/

variable (policies : CustomerPolicies)

/-! ## What is read first -/

def countsAsActive (subscription : Subscription) : Bool :=
  subscription.status = .active || subscription.status = .pastDue || subscription.status = .pending

/-- An order that is pending, or has a payment that may still move. -/
def isUnresolved (store : CustomerStore) (order : Order) : Bool :=
  order.status = .pending || (store.payments.rows.any fun payment => payment.orderId = order.id &&
    (payment.status = .pending || payment.status = .paid || payment.status = .partiallyRefunded))

def retentionFacts (user : User) (now : Time) (store : CustomerStore) : RetentionFacts :=
  let accounts := store.ownedAccounts user.id
  let owned := fun accountId => (store.ownedIds user.id).contains accountId
  { userId := user.id
    administratorProtected := user.role = .admin
    organizationAccounts := (accounts.filter fun account => account.type = .organization).length
    memberships := (store.memberships.filter fun membership => membership.userId = user.id).length
    licenseAssignments := (store.assignments.filter fun userId => userId = user.id).length
    orders := (store.orders.select fun order => owned order.accountId).length
    licenses := (store.licenses.select fun license => owned license.accountId).length
    subscriptions := (store.subscriptions.select fun subscription => owned subscription.accountId).length
    trials := (store.trials.filter owned).length
    legalAcceptances :=
      (store.legalAcceptances.filter fun acceptance => acceptance.userId = user.id).length +
        (store.legalAcceptances.filter fun acceptance => acceptance.customerAccountId.any owned).length
    activeSubscriptions := (store.subscriptions.select fun subscription =>
      owned subscription.accountId && countsAsActive subscription).length
    unresolvedPayments := (store.orders.select fun order =>
      owned order.accountId && isUnresolved store order).length
    legalHold := user.legalHoldAt.isSome || accounts.any fun account => account.legalHoldAt.isSome
    retentionActive := (user.retentionExpiresAt :: accounts.map CustomerAccount.retentionExpiresAt).any
      fun date => date.any fun expiresAt => expiresAt > now
    pseudonymized := user.pseudonymizedAt.isSome }

def findUser (userId : Id) (store : CustomerStore) : Except CustomerError User :=
  match store.users.lookup (.id userId) with
  | some user => .ok user
  | none => .error (.lifecycle "NOT_FOUND" [])

def customerRetentionBlockers (userId : Id) (now : Time) (store : CustomerStore) :
    Except CustomerError RetentionBlockerReport := do
  let user <- findUser userId store
  match policies.evaluate (retentionFacts user now store) with
  | .ok report => .ok report
  | .error code => .error (.message code)

/-! ## Points of the operations -/

structure LifecycleCall where
  userId : Id
  actorId : Id

inductive LifecycleRequest
  | requestPrivacyDeletion (retentionExpiresAt : Time)
  | setLegalHold (enabled : Bool) (reason : Option String)
  | pseudonymizeCustomer
  | markPurgeEligible
  | executeFinalPurge (confirmation : String)

/-- What an operation has in hand when it comes to write. -/
inductive LifecycleDeed
  | privacyReview (now retentionExpiresAt : Time) (accountIds : List Id)
  | legalHold (enabled : Bool) (hold : LegalHold) (accountIds : List Id)
  | pseudonymization (report : RetentionBlockerReport)
  | purgeEligibility (report : RetentionBlockerReport)
  | finalPurge (confirmation : String) (report : RetentionBlockerReport)

inductive LifecyclePoint
  | called (call : LifecycleCall) (request : LifecycleRequest)
  | writing (call : LifecycleCall) (deed : LifecycleDeed)

/-- The reads and decisions before the transaction. -/
def prepare (call : LifecycleCall) (request : LifecycleRequest) (now : Time) (store : CustomerStore) :
    Except CustomerError LifecycleDeed :=
  match request with
  | .requestPrivacyDeletion retentionExpiresAt => do
    requireLifecycleDecision
      (policies.requestPrivacyDeletion ⟨false, false, retentionExpiresAt, now⟩)
    let user <- findUser call.userId store
    requireLifecycleDecision (policies.requestPrivacyDeletion
      ⟨user.role = .admin, user.legalHoldAt.isSome, retentionExpiresAt, now⟩)
    return .privacyReview now retentionExpiresAt (store.ownedIds call.userId)
  | .setLegalHold enabled reason => do
    let user <- findUser call.userId store
    let hold <- requireLifecycleDecision
      (policies.legalHold ⟨user.role = .admin, enabled, reason, now⟩)
    return .legalHold enabled hold (store.ownedIds call.userId)
  | .pseudonymizeCustomer => do
    let report <- customerRetentionBlockers policies call.userId now store
    return .pseudonymization report
  | .markPurgeEligible => do
    let report <- customerRetentionBlockers policies call.userId now store
    requireLifecycleDecision (policies.markPurgeEligible report.canMarkPurgeEligible report.blockers)
    return .purgeEligibility report
  | .executeFinalPurge confirmation => do
    requireLifecycleDecision
      (policies.finalPurge ⟨call.userId, confirmation, .purgeEligible, true, []⟩)
    let report <- customerRetentionBlockers policies call.userId now store
    return .finalPurge confirmation report

/-! ## What is written -/

def updateUser (userId : Id) (data : User -> User)
    (keeps : forall user, (data user).id = user.id ∧ (data user).email = user.email) : CustomerTx Unit := do
  let store <- get
  let _ <- Transaction.orFail .recordNotFound (store.users.lookup (.id userId))
  set { store with users := store.users.update (fun user => user.id = userId) data (by
    intro user _
    simp only [Keyed.keys, (keeps user).1, (keeps user).2]) }

def updateAccounts (where' : CustomerAccount -> Bool) (data : CustomerAccount -> CustomerAccount)
    (keeps : forall account, (data account).id = account.id) (store : CustomerStore) : CustomerStore :=
  { store with accounts := store.accounts.update where' data (by
      intro account _
      simp only [Keyed.keys, keeps account]) }

def audit (call : LifecycleCall) (action targetType : String) (metadata : Json)
    (store : CustomerStore) : CustomerStore :=
  { store with auditLogs := store.auditLogs ++ [⟨call.actorId, action, targetType, call.userId, metadata⟩] }

def dropSessions (userId : Id) (store : CustomerStore) : CustomerStore :=
  { store with sessions := store.sessions.filter fun session => session.userId ≠ userId }

def writePrivacyReview (call : LifecycleCall) (now retentionExpiresAt : Time) (accountIds : List Id) :
    CustomerTx Unit := do
  modify (dropSessions call.userId)
  updateUser call.userId (fun user =>
    { user with
      lifecycleState := .privacyReview
      privacyRequestedAt := some now
      retentionExpiresAt := some retentionExpiresAt
      suspendedAt := some now }) (fun _ => ⟨rfl, rfl⟩)
  modify (updateAccounts (fun account => accountIds.contains account.id) (fun account =>
    { account with
      lifecycleState := .privacyReview
      privacyRequestedAt := some now
      retentionExpiresAt := some retentionExpiresAt }) (fun _ => rfl))
  modify (audit call "PRIVACY_DELETION_REQUESTED" "User" (.object [("retentionConfigured", .bool true)]))

def writeLegalHold (call : LifecycleCall) (enabled : Bool) (hold : LegalHold) (accountIds : List Id) :
    CustomerTx Unit := do
  updateUser call.userId (fun user =>
    { user with legalHoldAt := hold.legalHoldAt, legalHoldReason := hold.legalHoldReason })
    (fun _ => ⟨rfl, rfl⟩)
  modify (updateAccounts (fun account => accountIds.contains account.id) (fun account =>
    { account with legalHoldAt := hold.legalHoldAt, legalHoldReason := hold.legalHoldReason })
    (fun _ => rfl))
  modify (audit call (if enabled then "LEGAL_HOLD_APPLIED" else "LEGAL_HOLD_REMOVED") "User"
    (.object [("reasonCode", .string (if enabled then "ADMINISTRATIVE" else "RELEASED"))]))

/-- The credentials and addresses of a user, minimized. -/
def minimizeSecrets (user : User) (plan : MinimizationPlan) (store : CustomerStore) : CustomerStore :=
  { dropSessions user.id store with
    passwordCredentials := store.passwordCredentials.filter fun secret => secret.userId ≠ user.id
    passwordResetTokens := store.passwordResetTokens.filter fun secret => secret.userId ≠ user.id
    verificationTokens := store.verificationTokens.filter fun identifier => identifier ≠ user.email
    emailOutbox := store.emailOutbox.map fun mail =>
      if mail.recipient = user.email then plan.emailOutboxUpdate else mail }

def writePseudonymization (call : LifecycleCall) (report : RetentionBlockerReport) (now : Time) :
    CustomerTx Unit := do
  let store <- get
  let user <- Transaction.orFail .recordNotFound (store.users.lookup (.id call.userId))
  liftM (requireLifecycleDecision
    (policies.pseudonymize user.lifecycleState report.canPseudonymize report.blockers))
  let plan := policies.planPrivacyCustomerMinimization user.id user.email now
  let accountIds := store.ownedIds call.userId
  let users <- Transaction.orFail .uniqueViolation (store.users.amend (fun row => row.id = user.id)
    fun row =>
      { plan.userUpdate row with emailHash := some (policies.hmacSha256 plan.normalizedEmailHashSource) })
  let accounts <- Transaction.orFail .uniqueViolation (store.accounts.amend
    (fun account => accountIds.contains account.id) plan.customerAccountUpdate)
  set (audit call plan.auditAction plan.auditTargetType plan.auditMetadata
    { minimizeSecrets user plan store with users, accounts })

def writePurgeEligibility (call : LifecycleCall) (report : RetentionBlockerReport) : CustomerTx Unit := do
  updateUser call.userId (fun user => { user with lifecycleState := .purgeEligible }) (fun _ => ⟨rfl, rfl⟩)
  modify (updateAccounts (fun account => account.ownerId = call.userId)
    (fun account => { account with lifecycleState := .purgeEligible }) (fun _ => rfl))
  modify (audit call "CUSTOMER_MARKED_PURGE_ELIGIBLE" "User"
    (.object [("blockerCount", .number (toString report.blockers.length))]))

/-- A row that the database keeps for one of the accounts, or for the user. -/
def isReferenced (userId : Id) (accountIds : List Id) (store : CustomerStore) : Bool :=
  (store.orders.rows.any fun order => accountIds.contains order.accountId) ||
    (store.licenses.rows.any fun license => accountIds.contains license.accountId) ||
    (store.subscriptions.rows.any fun subscription => accountIds.contains subscription.accountId) ||
    store.trials.any accountIds.contains ||
    (store.legalAcceptances.any fun acceptance => acceptance.userId = userId ||
      acceptance.customerAccountId.any accountIds.contains) ||
    store.assignments.contains userId

/-- The rows that are deleted with a user and its accounts. -/
def purge (userId : Id) (accountIds : List Id) (store : CustomerStore) : CustomerStore :=
  { dropSessions userId store with
    users := store.users.delete fun user => user.id = userId
    accounts := store.accounts.delete fun account => accountIds.contains account.id
    passwordCredentials := store.passwordCredentials.filter fun secret => secret.userId ≠ userId
    passwordResetTokens := store.passwordResetTokens.filter fun secret => secret.userId ≠ userId
    carts := store.carts.filter fun accountId => !accountIds.contains accountId
    invitations := store.invitations.filter fun accountId => !accountIds.contains accountId
    memberships := store.memberships.filter fun membership =>
      membership.userId ≠ userId && !accountIds.contains membership.accountId }

def writeFinalPurge (call : LifecycleCall) (confirmation : String) (report : RetentionBlockerReport) :
    CustomerTx Unit := do
  let store <- get
  let user <- Transaction.orFail .recordNotFound (store.users.lookup (.id call.userId))
  liftM (requireLifecycleDecision (policies.finalPurge
    ⟨call.userId, confirmation, user.lifecycleState, report.canPurge, report.blockers⟩))
  let accountIds := store.ownedIds call.userId
  if isReferenced call.userId accountIds store then throw .foreignKeyViolation
  else set (audit call "CUSTOMER_FINAL_PURGE_EXECUTED" "PurgedUser"
    (.object [("integrityVerified", .bool true)]) (purge call.userId accountIds store))

def commitDeed (call : LifecycleCall) (now : Time) : LifecycleDeed -> CustomerTx Unit
  | .privacyReview requestedAt retentionExpiresAt accountIds =>
    writePrivacyReview call requestedAt retentionExpiresAt accountIds
  | .legalHold enabled hold accountIds => writeLegalHold call enabled hold accountIds
  | .pseudonymization report => writePseudonymization policies call report now
  | .purgeEligibility report => writePurgeEligibility call report
  | .finalPurge confirmation report => writeFinalPurge policies call confirmation report

/-! ## Operations at the same time -/

/-- Whether nobody is under legal hold who was not before. -/
def placesNoHold (before after : CustomerStore) : Bool :=
  after.users.rows.all fun user => user.legalHoldAt.isNone ||
    before.users.rows.any fun old => old.id = user.id && old.legalHoldAt.isSome

def advanceLifecycle (store : CustomerStore) (point : LifecyclePoint) (now : Time) :
    CustomerStore × Option LifecyclePoint :=
  match point with
  | .called call request =>
    match prepare policies call request now store with
    | .ok deed => (store, some (.writing call deed))
    | .error _ => (store, none)
  | .writing call deed =>
    match (commitDeed policies call now deed).run store with
    | .ok ((), after) => (after, none)
    | .error _ => (store, none)

/-- Any number of lifecycle operations on the customers of the site, beside
whatever else is done there that places no legal hold. -/
def lifecycleProtocol : Protocol CustomerStore (LifecycleCall × LifecycleRequest) LifecyclePoint Time
    CustomerStore Unit where
  enter entry := .called entry.1 entry.2
  advance store point now := .ok (advanceLifecycle policies store point now)
  ambient store elsewhere := if placesNoHold store elsewhere then .ok elsewhere else .error ()

end Accounts
end DigitalSolutions
