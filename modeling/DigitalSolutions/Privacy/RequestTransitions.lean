import DigitalSolutions.Foundation.Processes
import DigitalSolutions.Foundation.Table
import DigitalSolutions.Persistence.Json
import DigitalSolutions.Persistence.Schema

namespace DigitalSolutions
namespace Privacy

open Foundation Persistence

/-!
# Transitions of privacy requests

A request is created with its first event.  A transition reads the request,
asks the privacy package for a plan, and writes the planned status and event;
all of it in one transaction at the default isolation level, so other
transactions may commit between the read and the write.  The update waits for
the lock of the row and then writes whatever the row holds by then.
-/

inductive PrivacyRequestType
  | access | correction | export | deletion | restriction | objection | breachReport
  deriving DecidableEq

/-- `PrivacyRequest_status_valid` and the constraints of the event columns. -/
inductive PrivacyRequestStatus
  | open | inReview | fulfilled | rejected | cancelled
  deriving DecidableEq

structure PrivacyRequest where
  id : Id
  userId : Id
  customerAccountId : Option Id
  requestType : PrivacyRequestType
  status : PrivacyRequestStatus
  summary : String
  responseSummary : Option String
  ipAddress : Option String
  userAgent : Option String
  reviewedById : Option Id
  reviewedAt : Option Time
  closedAt : Option Time
  deriving DecidableEq

inductive PrivacyRequest.Key
  | id (value : Id)
  deriving DecidableEq

instance : Keyed PrivacyRequest PrivacyRequest.Key where
  keys request := [.id request.id]

structure PrivacyRequestEvent where
  privacyRequestId : Id
  actorId : Option Id
  eventType : String
  fromStatus : Option PrivacyRequestStatus
  toStatus : Option PrivacyRequestStatus
  metadata : Json
  deriving DecidableEq

structure PrivacyAuditLog where
  actorId : Option Id
  accountId : Option Id
  action : String
  targetType : String
  targetId : Id
  metadata : Json
  deriving DecidableEq

/-- The events are append-only: triggers refuse every update and deletion. -/
structure PrivacyStore where
  requests : Table PrivacyRequest
  events : List PrivacyRequestEvent
  auditLogs : List PrivacyAuditLog
  deriving DecidableEq

/-! ## What the privacy package plans -/

structure CreationFacts where
  userId : Id
  accountId : Option Id
  requestType : PrivacyRequestType
  summary : String
  ipAddress : Option String
  userAgent : Option String

structure PlannedEvent where
  actorId : Option Id
  eventType : String
  fromStatus : Option PrivacyRequestStatus
  toStatus : Option PrivacyRequestStatus
  metadata : Json

structure PlannedAudit where
  actorId : Option Id
  accountId : Option Id
  action : String
  targetType : String
  metadata : Json

structure CreationPlan where
  userId : Id
  accountId : Option Id
  requestType : PrivacyRequestType
  status : PrivacyRequestStatus
  summary : String
  ipAddress : Option String
  userAgent : Option String
  event : PlannedEvent
  audit : PlannedAudit

structure TransitionFacts where
  actorId : Id
  accountId : Option Id
  currentStatus : PrivacyRequestStatus
  targetStatus : PrivacyRequestStatus
  responseSummary : String

structure TransitionPlan where
  status : PrivacyRequestStatus
  responseSummary : Option String
  reviewedById : Option Id
  shouldClose : Bool
  event : PlannedEvent
  audit : PlannedAudit

structure PrivacyRequestPolicy where
  planPrivacyRequestCreation : CreationFacts -> Except String CreationPlan
  planPrivacyRequestTransition : TransitionFacts -> Except String TransitionPlan

/-- The package plans exactly the legal transitions of the status it is given,
and its events say what it plans. -/
structure PrivacyRequestPolicy.Plans (policy : PrivacyRequestPolicy)
    (legal : PrivacyRequestStatus -> PrivacyRequestStatus -> Prop) : Prop where
  creation : forall {facts plan}, policy.planPrivacyRequestCreation facts = .ok plan ->
    plan.event.toStatus = some plan.status
  transition : forall {facts plan}, policy.planPrivacyRequestTransition facts = .ok plan ->
    plan.status = facts.targetStatus ∧ plan.event.fromStatus = some facts.currentStatus ∧
      plan.event.toStatus = some facts.targetStatus
  legal : forall facts, (Exists fun plan => policy.planPrivacyRequestTransition facts = .ok plan) ↔
    legal facts.currentStatus facts.targetStatus

/-! ## The two operations -/

structure TransitionInput where
  actorId : Id
  requestId : Id
  status : PrivacyRequestStatus
  responseSummary : String

inductive PrivacyCall
  | create (facts : CreationFacts) (requestId : Id)
  | transition (input : TransitionInput)

/-- Where an operation stands.  A creation commits at once; a transition has
read the request, and holds what it read with the plan made of it. -/
inductive PrivacyPoint
  | creating (facts : CreationFacts) (requestId : Id)
  | opened (input : TransitionInput)
  | planned (input : TransitionInput) (current : PrivacyRequest) (plan : TransitionPlan)

inductive PrivacyRefusal
  | message (text : String)
  | uniqueViolation | recordNotFound
  deriving DecidableEq

variable (policy : PrivacyRequestPolicy)

def recordEvent (requestId : Id) (event : PlannedEvent) (audit : PlannedAudit) (store : PrivacyStore) :
    PrivacyStore :=
  { store with
    events := store.events ++ [⟨requestId, event.actorId, event.eventType, event.fromStatus,
      event.toStatus, event.metadata⟩]
    auditLogs := store.auditLogs ++ [⟨audit.actorId, audit.accountId, audit.action, audit.targetType,
      requestId, audit.metadata⟩] }

def createPrivacyRequest (facts : CreationFacts) (requestId : Id) (store : PrivacyStore) :
    Except PrivacyRefusal PrivacyStore :=
  match policy.planPrivacyRequestCreation facts with
  | .error text => .error (.message text)
  | .ok plan =>
    match store.requests.insert
      { id := requestId
        userId := plan.userId
        customerAccountId := plan.accountId
        requestType := plan.requestType
        status := plan.status
        summary := plan.summary
        responseSummary := none
        ipAddress := plan.ipAddress
        userAgent := plan.userAgent
        reviewedById := none
        reviewedAt := none
        closedAt := none } with
    | none => .error .uniqueViolation
    | some requests =>
      .ok (recordEvent requestId { plan.event with fromStatus := none } plan.audit
        { store with requests })

/-- The read of a transition, and its plan. -/
def planTransition (input : TransitionInput) (store : PrivacyStore) :
    Except PrivacyRefusal (PrivacyRequest × TransitionPlan) :=
  match store.requests.lookup (.id input.requestId) with
  | none => .error .recordNotFound
  | some current =>
    match policy.planPrivacyRequestTransition
      { actorId := input.actorId
        accountId := current.customerAccountId
        currentStatus := current.status
        targetStatus := input.status
        responseSummary := input.responseSummary } with
    | .error text => .error (.message text)
    | .ok plan => .ok (current, plan)

/-- The writes of a transition. -/
def writeTransition (input : TransitionInput) (plan : TransitionPlan) (now : Time)
    (store : PrivacyStore) : Except PrivacyRefusal PrivacyStore :=
  match store.requests.lookup (.id input.requestId) with
  | none => .error .recordNotFound
  | some _ =>
    .ok (recordEvent input.requestId plan.event plan.audit
      { store with
        requests := store.requests.update (fun request => request.id = input.requestId) fun request =>
          { request with
            status := plan.status
            responseSummary := plan.responseSummary
            reviewedById := plan.reviewedById
            reviewedAt := some now
            closedAt := if plan.shouldClose then some now else none } })

def advancePrivacy (store : PrivacyStore) (point : PrivacyPoint) (now : Time) :
    Except PrivacyRefusal (PrivacyStore × Option PrivacyPoint) :=
  match point with
  | .creating facts requestId =>
    match createPrivacyRequest policy facts requestId store with
    | .ok after => .ok (after, none)
    | .error _ => .ok (store, none)
  | .opened input =>
    match planTransition policy input store with
    | .ok (current, plan) => .ok (store, some (.planned input current plan))
    | .error _ => .ok (store, none)
  | .planned input _ plan =>
    match writeTransition input plan now store with
    | .ok after => .ok (after, none)
    | .error _ => .ok (store, none)

/-- Nothing else writes the requests and their events. -/
def privacyProtocol : Protocol PrivacyStore PrivacyCall PrivacyPoint Time Empty PrivacyRefusal where
  enter
    | .create facts requestId => .creating facts requestId
    | .transition input => .opened input
  advance := advancePrivacy policy
  ambient _ event := nomatch event

end Privacy
end DigitalSolutions
