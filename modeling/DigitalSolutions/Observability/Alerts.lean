import DigitalSolutions.Foundation.Processes
import DigitalSolutions.Persistence.Json
import DigitalSolutions.Persistence.Schema

namespace DigitalSolutions
namespace Observability

open Foundation Persistence

/-!
# Alerts of the health cards

Every card that is not healthy raises an alert, or refreshes the one that is
active under its fingerprint.  Operators acknowledge and resolve alerts by id.
The table is unique in fingerprint and status together, whatever the status.
-/

inductive HealthState
  | healthy | warning | critical
  deriving DecidableEq

inductive ObservabilityAlertSeverity
  | info | warning | error | critical
  deriving DecidableEq

inductive ObservabilityAlertStatus
  | opened | acknowledged | resolved
  deriving DecidableEq

structure ObservabilityCard where
  key : String
  label : String
  state : HealthState
  summary : String
  /-- As JSON, the way an alert keeps them. -/
  metrics : Json
  deriving DecidableEq

structure ObservabilityAlert where
  id : Id
  fingerprint : String
  source : String
  title : String
  detail : Option String
  severity : ObservabilityAlertSeverity
  status : ObservabilityAlertStatus
  firstSeenAt : Time
  lastSeenAt : Time
  acknowledgedAt : Option Time
  resolvedAt : Option Time
  acknowledgedById : Option Id
  resolvedById : Option Id
  metadata : Json
  deriving DecidableEq

inductive ObservabilityAlert.Key
  | id (value : Id) | fingerprint (value : String) (status : ObservabilityAlertStatus)
  deriving DecidableEq

instance : Keyed ObservabilityAlert ObservabilityAlert.Key where
  keys alert := [.id alert.id, .fingerprint alert.fingerprint alert.status]

inductive AlertAction
  | acknowledge | resolve
  deriving DecidableEq

structure AlertAuditLog where
  actorId : Id
  action : String
  targetType : String
  targetId : Id
  deriving DecidableEq

structure AlertStore where
  alerts : Table ObservabilityAlert
  auditLogs : List AlertAuditLog
  deriving DecidableEq

namespace ObservabilityAlert

def isActive (alert : ObservabilityAlert) : Bool :=
  alert.status = .opened || alert.status = .acknowledged

end ObservabilityAlert

/-! ## Raising alerts -/

def HealthState.text : HealthState -> String
  | .healthy => "HEALTHY"
  | .warning => "WARNING"
  | .critical => "CRITICAL"

def HealthState.severity : HealthState -> ObservabilityAlertSeverity
  | .critical => .critical
  | _ => .warning

namespace ObservabilityCard

variable (card : ObservabilityCard)

def fingerprint : String := "monitoring:" ++ card.key ++ ":" ++ card.state.text

def metadata : Json := .object [("metrics", card.metrics)]

def newAlert (id : Id) (now : Time) : ObservabilityAlert where
  id := id
  fingerprint := card.fingerprint
  source := card.key
  title := card.label ++ " health is " ++ card.state.text
  detail := some card.summary
  severity := card.state.severity
  status := .opened
  firstSeenAt := now
  lastSeenAt := now
  acknowledgedAt := none
  resolvedAt := none
  acknowledgedById := none
  resolvedById := none
  metadata := card.metadata

end ObservabilityCard

/-- `findActive`, which takes the first one. -/
def findActive (fingerprint : String) (store : AlertStore) : Option ObservabilityAlert :=
  (store.alerts.select fun alert => alert.fingerprint = fingerprint && alert.isActive &&
    (alert.severity = .warning || alert.severity = .critical)).head?

def refreshAlert (id : Id) (card : ObservabilityCard) (now : Time) (store : AlertStore) : AlertStore :=
  { store with
    alerts := store.alerts.update (fun alert => alert.id = id) fun alert =>
      { alert with lastSeenAt := now, detail := some card.summary, metadata := card.metadata } }

/-- The insertion, which the unique index may refuse. -/
def createAlert (card : ObservabilityCard) (id : Id) (now : Time) (store : AlertStore) : Option AlertStore :=
  (store.alerts.insert (card.newAlert id now)).map fun alerts => { store with alerts }

/-! ## Deciding on alerts -/

namespace AlertAction

def status : AlertAction -> ObservabilityAlertStatus
  | .acknowledge => .acknowledged
  | .resolve => .resolved

def apply (action : AlertAction) (adminId : Id) (now : Time) (alert : ObservabilityAlert) :
    ObservabilityAlert :=
  match action with
  | .acknowledge =>
    { alert with status := .acknowledged, acknowledgedAt := some now, acknowledgedById := some adminId }
  | .resolve => { alert with status := .resolved, resolvedAt := some now, resolvedById := some adminId }

def auditText : AlertAction -> String
  | .acknowledge => "OBSERVABILITY_ALERT_ACKNOWLEDGE"
  | .resolve => "OBSERVABILITY_ALERT_RESOLVE"

end AlertAction

/-- The update by id; there has to be an alert, and the unique index may refuse. -/
def decideAlert (id : Id) (action : AlertAction) (adminId : Id) (now : Time) (store : AlertStore) :
    Option AlertStore :=
  match store.alerts.lookup (.id id) with
  | none => none
  | some _ =>
    (store.alerts.amend (fun alert => alert.id = id) (action.apply adminId now)).map fun alerts =>
      { store with alerts }

def auditDecision (id : Id) (action : AlertAction) (adminId : Id) (store : AlertStore) : AlertStore :=
  { store with auditLogs := store.auditLogs ++ [⟨adminId, action.auditText, "ObservabilityAlert", id⟩] }

/-! ## Concurrent requests -/

inductive AlertCall
  /-- `syncObservabilityAlerts`, for the cards of a snapshot. -/
  | sync (cards : List ObservabilityCard)
  | decide (id : Id) (action : AlertAction) (adminId : Id)

inductive AlertPoint
  | starting (cards : List ObservabilityCard)
  | finding (now : Time) (cards : List ObservabilityCard)
  | refreshing (now : Time) (id : Id) (card : ObservabilityCard) (cards : List ObservabilityCard)
  | creating (now : Time) (card : ObservabilityCard) (cards : List ObservabilityCard)
  | deciding (id : Id) (action : AlertAction) (adminId : Id)
  | auditing (id : Id) (action : AlertAction) (adminId : Id)
  deriving DecidableEq

/-- The clock, the id of a new row, and whether the access throws. -/
structure AlertDraw where
  now : Time
  fresh : Id
  throws : Bool

/-- One access.  What throws ends the request. -/
def alertStep (store : AlertStore) (draw : AlertDraw) : AlertPoint -> AlertStore × Option AlertPoint
  | .starting cards => (store, some (.finding draw.now cards))
  | .finding _ [] => (store, none)
  | .finding now (card :: cards) =>
    if card.state = .healthy then (store, some (.finding now cards))
    else
      match findActive card.fingerprint store with
      | some existing => (store, some (.refreshing now existing.id card cards))
      | none => (store, some (.creating now card cards))
  | .refreshing now id card cards =>
    match store.alerts.lookup (.id id) with
    | some _ => (refreshAlert id card now store, some (.finding now cards))
    | none => (store, none)
  | .creating now card cards =>
    match createAlert card draw.fresh now store with
    | some after => (after, some (.finding now cards))
    | none => (store, none)
  | .deciding id action adminId =>
    match decideAlert id action adminId draw.now store with
    | some after => (after, some (.auditing id action adminId))
    | none => (store, none)
  | .auditing id action adminId => (auditDecision id action adminId store, none)

def alertProtocol : Protocol AlertStore AlertCall AlertPoint AlertDraw Empty Empty where
  enter
    | .sync cards => .starting cards
    | .decide id action adminId => .deciding id action adminId
  advance store point draw := .ok (if draw.throws then (store, none) else alertStep store draw point)
  ambient _ event := nomatch event

end Observability
end DigitalSolutions
