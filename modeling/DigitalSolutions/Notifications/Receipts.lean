import DigitalSolutions.Foundation.Processes
import DigitalSolutions.Persistence.Json
import DigitalSolutions.Persistence.Schema

namespace DigitalSolutions
namespace Notifications

open Foundation Persistence

/-!
# Notifications and their receipts

A user has at most one receipt of a notification.  A request reads the
notification with the receipt, asks the inbox policy for the transition, and
upserts the receipt, all outside a transaction.  The policy is a capability of
another package and stands here as a parameter.
-/

inductive NotificationsReceiptState
  | unread | read | dismissed
  deriving DecidableEq

inductive ReceiptAction
  | markRead | dismiss
  deriving DecidableEq

structure NotificationMessage where
  id : Id
  idempotencyKey : String
  sourceModule : String
  sourceEvent : String
  sourceReference : Option String
  audienceKind : String
  audiencePrincipalId : Option Id
  audienceAccountId : Option Id
  audienceSegmentKey : Option String
  audienceVisitorId : Option String
  title : String
  body : String
  category : String
  priority : String
  trigger : Option String
  placementHint : Option String
  attributes : Json
  data : Option Json
  productId : Option Id
  createdAt : Time
  expiresAt : Option Time
  deriving DecidableEq

inductive NotificationMessage.Key
  | id (value : Id) | idempotencyKey (value : String)
  deriving DecidableEq

instance : Keyed NotificationMessage NotificationMessage.Key where
  keys row := [.id row.id, .idempotencyKey row.idempotencyKey]

structure NotificationReceipt where
  notificationId : Id
  userId : Id
  state : NotificationsReceiptState
  readAt : Option Time
  dismissedAt : Option Time
  deriving DecidableEq

/-- The primary key of a receipt. -/
structure NotificationReceipt.Key where
  notificationId : Id
  userId : Id
  deriving DecidableEq

instance : Keyed NotificationReceipt NotificationReceipt.Key where
  keys receipt := [⟨receipt.notificationId, receipt.userId⟩]

/-- An account with its owner and the users of its memberships. -/
structure AccountRow where
  id : Id
  displayName : String
  ownerId : Id
  memberIds : List Id
  deriving DecidableEq

structure NotificationStore where
  messages : Table NotificationMessage
  receipts : Table NotificationReceipt
  accounts : List AccountRow
  deriving DecidableEq

/-! ## The inbox policy -/

inductive NotificationsAudience
  | principal (principalId : Id)
  | account (accountId : Id)
  | administrators
  | segment (segmentKey : String)
  | allUsers
  | allActiveClients
  | visitor (visitorId : Option String)
  deriving DecidableEq

structure NotificationsPrincipalContext where
  principalId : Id
  role : String
  accountIds : List Id
  segmentKeys : List String
  activeClient : Bool
  visitorId : Option String
  deriving DecidableEq

/-- What the policy sees of a row: its audience, read from the columns, and its
attributes as an object. -/
structure NotificationsDurableSnapshot where
  row : NotificationMessage
  audience : NotificationsAudience
  attributes : List (String × Json)
  deriving DecidableEq

inductive Visibility
  | visible
  | hidden (code : String)
  deriving DecidableEq

inductive ReceiptTransition
  | failed (code : String)
  | unchanged (state : NotificationsReceiptState)
  | changed (state : NotificationsReceiptState)
  deriving DecidableEq

structure NotificationsInboxPolicyCapability where
  visibility : Time -> NotificationsDurableSnapshot -> NotificationsPrincipalContext ->
    Option NotificationsReceiptState -> Visibility
  transitionReceipt : NotificationsReceiptState -> ReceiptAction -> ReceiptTransition

/-- What the policy documents: a receipt goes from UNREAD to READ and to
DISMISSED, and what is dismissed is not visible. -/
structure PolicyContract (inbox : NotificationsInboxPolicyCapability) : Prop where
  read : inbox.transitionReceipt .read .markRead = .unchanged .read
  dismissed : forall action, inbox.transitionReceipt .dismissed action = .unchanged .dismissed
  marks : forall state next, inbox.transitionReceipt state .markRead = .changed next -> next = .read
  dismisses : forall state next, inbox.transitionReceipt state .dismiss = .changed next -> next = .dismissed
  hides : forall now snapshot principal,
    inbox.visibility now snapshot principal (some .dismissed) ≠ .visible

/-! ## Snapshots -/

inductive NotificationError
  | message (text : String)
  | uniqueViolation
  deriving DecidableEq

def audienceCorrupt : NotificationError := .message "NOTIFICATION_AUDIENCE_CORRUPT"

/-- A column that the audience needs. -/
def required (column : Option String) : Except NotificationError String :=
  match column with
  | some value => if value = "" then .error audienceCorrupt else .ok value
  | none => .error audienceCorrupt

def rowAudience (row : NotificationMessage) : Except NotificationError NotificationsAudience :=
  if row.audienceKind = "PRINCIPAL" then do return .principal (← required row.audiencePrincipalId)
  else if row.audienceKind = "ACCOUNT" then do return .account (← required row.audienceAccountId)
  else if row.audienceKind = "ADMINISTRATORS" then .ok .administrators
  else if row.audienceKind = "SEGMENT" then do return .segment (← required row.audienceSegmentKey)
  else if row.audienceKind = "ALL_USERS" then .ok .allUsers
  else if row.audienceKind = "ALL_ACTIVE_CLIENTS" then .ok .allActiveClients
  else if row.audienceKind = "VISITOR" then .ok (.visitor row.audienceVisitorId)
  else .error audienceCorrupt

def rowSnapshot (row : NotificationMessage) : Except NotificationError NotificationsDurableSnapshot := do
  let audience ← rowAudience row
  let attributes := match row.attributes with
    | .object entries => entries
    | _ => []
  return { row, audience, attributes }

/-- The receipt of a user, and its state when there is none. -/
def receiptState (store : NotificationStore) (notificationId userId : Id) : NotificationsReceiptState :=
  ((store.receipts.lookup ⟨notificationId, userId⟩).map NotificationReceipt.state).getD .unread

/-! ## Listings -/

structure WebNotificationItem where
  id : Id
  source : String
  event : String
  title : String
  body : String
  category : String
  priority : String
  createdAt : Time
  expiresAt : Option Time
  state : NotificationsReceiptState
  audience : NotificationsAudience
  accountId : Option Id
  accountName : Option String
  productId : Option Id
  data : Option Json
  deriving DecidableEq

def candidateWhere (principal : NotificationsPrincipalContext) (row : NotificationMessage) : Bool :=
  (row.audienceKind = "PRINCIPAL" && row.audiencePrincipalId = some principal.principalId) ||
    row.audienceKind = "ALL_USERS" ||
    (row.audienceKind = "ACCOUNT" && row.audienceAccountId.any (principal.accountIds.contains ·)) ||
    (principal.role = "ADMIN" && row.audienceKind = "ADMINISTRATORS") ||
    (principal.activeClient && row.audienceKind = "ALL_ACTIVE_CLIENTS") ||
    (row.audienceKind = "SEGMENT" && row.audienceSegmentKey.any (principal.segmentKeys.contains ·))

def listLimit (limit : Option Int) : Nat := (min (max (limit.getD 100) 1) 200).toNat

/-- One row of the page: nothing when the policy hides it. -/
def listItem (inbox : NotificationsInboxPolicyCapability) (now : Time) (store : NotificationStore)
    (principal : NotificationsPrincipalContext) (includeDismissed : Bool) (row : NotificationMessage) :
    Except NotificationError (Option WebNotificationItem) := do
  let state := receiptState store row.id principal.principalId
  let snapshot ← rowSnapshot row
  let visibility := inbox.visibility now snapshot principal (some state)
  if visibility ≠ .visible ∧ ¬ (includeDismissed = true ∧ visibility = .hidden "DISMISSED") then
    return none
  let account := row.audienceAccountId.bind fun accountId =>
    store.accounts.find? fun account => account.id = accountId
  return some
    { id := row.id
      source := row.sourceModule
      event := row.sourceEvent
      title := row.title
      body := row.body
      category := row.category
      priority := row.priority
      createdAt := row.createdAt
      expiresAt := row.expiresAt
      state
      audience := snapshot.audience
      accountId := row.audienceAccountId
      accountName := account.map AccountRow.displayName
      productId := row.productId
      data := row.data }

/-- The loop over the rows ends when the limit is reached. -/
def listItems (inbox : NotificationsInboxPolicyCapability) (now : Time) (store : NotificationStore)
    (principal : NotificationsPrincipalContext) (includeDismissed : Bool) :
    Nat -> List NotificationMessage -> Except NotificationError (List WebNotificationItem)
  | 0, _ => .ok []
  | _ + 1, [] => .ok []
  | limit + 1, row :: rows => do
    match ← listItem inbox now store principal includeDismissed row with
    | none => listItems inbox now store principal includeDismissed (limit + 1) rows
    | some item => return item :: (← listItems inbox now store principal includeDismissed limit rows)

/-- Of rows with one creation time the earlier inserted stands for whatever the
database returns first. -/
def listNotificationsForPrincipal (inbox : NotificationsInboxPolicyCapability) (now : Time)
    (principal : NotificationsPrincipalContext) (limit : Option Int) (includeDismissed : Bool)
    (store : NotificationStore) : Except NotificationError (List WebNotificationItem) :=
  let rows := (store.messages.select (candidateWhere principal)).mergeSort
    (fun left right => right.createdAt ≤ left.createdAt)
  listItems inbox now store principal includeDismissed (listLimit limit)
    (rows.take (min (listLimit limit * 3) 600))

/-! ## Receipts -/

def principalContext (store : NotificationStore) (userId : Id) (role : String) :
    NotificationsPrincipalContext :=
  { principalId := userId
    role
    accountIds := (store.accounts.filter fun account =>
      account.ownerId = userId || account.memberIds.contains userId).map AccountRow.id
    segmentKeys := []
    activeClient := false
    visitorId := none }

def agentNotificationPrincipal (userId accountId : Id) : NotificationsPrincipalContext :=
  { principalId := userId
    role := "CUSTOMER"
    accountIds := [accountId]
    segmentKeys := []
    activeClient := true
    visitorId := none }

/-- What a request decides from what it has read: the receipt's state as it was
read, and the state to write. -/
def decideReceipt (inbox : NotificationsInboxPolicyCapability) (now : Time)
    (principal : NotificationsPrincipalContext) (userId notificationId : Id) (action : ReceiptAction)
    (store : NotificationStore) : Option (NotificationsReceiptState × NotificationsReceiptState) :=
  match store.messages.lookup (.id notificationId) with
  | none => none
  | some row =>
    let current := receiptState store row.id userId
    match rowSnapshot row with
    | .error _ => none
    | .ok snapshot =>
      let shown := if current = .dismissed then none else some current
      if inbox.visibility now snapshot principal shown ≠ .visible then none
      else
        match inbox.transitionReceipt current action with
        | .failed _ => none
        | .unchanged _ => none
        | .changed state => some (current, state)

def upsertReceipt (notificationId userId : Id) (state : NotificationsReceiptState) (now : Time)
    (receipts : Table NotificationReceipt) : Table NotificationReceipt :=
  match receipts.insert
    { notificationId
      userId
      state
      readAt := if state = .read then some now else none
      dismissedAt := if state = .dismissed then some now else none } with
  | some created => created
  | none =>
    receipts.update (fun receipt => receipt.notificationId = notificationId ∧ receipt.userId = userId)
      fun receipt =>
        { receipt with
          state
          readAt := if state = .read then some now else receipt.readAt
          dismissedAt := if state = .dismissed then some now else receipt.dismissedAt }

/-! ## Concurrent requests -/

inductive ReceiptCall
  | web (userId : Id) (role : String) (notificationId : Id) (action : ReceiptAction)
  | agent (userId accountId notificationId : Id) (action : ReceiptAction)

inductive ReceiptPoint
  | identifying (userId : Id) (role : String) (notificationId : Id) (action : ReceiptAction)
  | reading (principal : NotificationsPrincipalContext) (userId notificationId : Id) (action : ReceiptAction)
  | upserting (userId notificationId : Id) (current state : NotificationsReceiptState)
  deriving DecidableEq

/-- The clock, and whether the access throws. -/
structure ReceiptDraw where
  now : Time
  throws : Bool

/-- What others do to the tables: notifications are created and ended, accounts
and memberships change. -/
inductive NotificationEvent
  | persisted (row : NotificationMessage)
  | ended (id : Id) (now : Time)
  | accounts (rows : List AccountRow)

/-- One access.  What throws ends the request. -/
def receiptStep (inbox : NotificationsInboxPolicyCapability) (store : NotificationStore) (draw : ReceiptDraw) :
    ReceiptPoint -> NotificationStore × Option ReceiptPoint
  | .identifying userId role notificationId action =>
    (store, some (.reading (principalContext store userId role) userId notificationId action))
  | .reading principal userId notificationId action =>
    match decideReceipt inbox draw.now principal userId notificationId action store with
    | none => (store, none)
    | some (current, state) => (store, some (.upserting userId notificationId current state))
  | .upserting userId notificationId _ state =>
    ({ store with receipts := upsertReceipt notificationId userId state draw.now store.receipts }, none)

def notificationEvent (store : NotificationStore) :
    NotificationEvent -> Except NotificationError NotificationStore
  | .persisted row =>
    match store.messages.insert row with
    | none => .error .uniqueViolation
    | some messages => .ok { store with messages }
  | .ended id now =>
    .ok { store with
      messages := store.messages.update (fun row => row.id = id) fun row => { row with expiresAt := some now } }
  | .accounts rows => .ok { store with accounts := rows }

def receiptProtocol (inbox : NotificationsInboxPolicyCapability) :
    Protocol NotificationStore ReceiptCall ReceiptPoint ReceiptDraw NotificationEvent NotificationError where
  enter
    | .web userId role notificationId action => .identifying userId role notificationId action
    | .agent userId accountId notificationId action =>
      .reading (agentNotificationPrincipal userId accountId) userId notificationId action
  advance store point draw := .ok (if draw.throws then (store, none) else receiptStep inbox store draw point)
  ambient := notificationEvent

end Notifications
end DigitalSolutions
