import DigitalSolutions.Foundation.StableSorting
import DigitalSolutions.Foundation.Sweeps
import DigitalSolutions.Licensing.RenewalSweeps
import DigitalSolutions.Storefront.RenewalRecovery
import DigitalSolutions.Storefront.WebhookSafety

namespace DigitalSolutions
namespace Storefront

open Foundation Persistence Platform Payments Licensing

/-!
# The retries of failed webhooks as a sweep

A run of the payment operations takes the failed webhooks that were received
first.  A retry that fails again leaves its row where it was: what it changes
is the last attempt, and the sweep does not look at that.
-/

variable {host : Host} {ingestion : IngestionPackage} {handlerId : Nat} {webhookId : Id}
variable {first second third before after : Table WebhookEvent} {names : List Id}

/-! ## The job -/

/-- What happens at the statements of a retry. -/
inductive RetryStatement
  | advance (moment : Moment)
  /-- The processing fails by itself. -/
  | abort (code : PaymentErrorCode) (retryable : Bool)

def RetryStatement.step (handlerId : Nat) : RetryStatement -> IntakeStep
  | .advance moment => .advance handlerId moment
  | .abort code retryable => .abort handlerId code retryable

/-- `retryStoredWebhook`, as far as its statements go; the next one throws. -/
def retrySteps (handlerId : Nat) (statements : List RetryStatement) (webhookId : Id) : List IntakeStep :=
  .retry handlerId webhookId :: statements.map (RetryStatement.step handlerId) ++ [.crash handlerId]

def awaitsRetry (row : WebhookEvent) : Bool :=
  row.status = .failed && row.resolutionStatus = .open &&
    (row.lastErrorCode = some .processingRetryable || row.lastErrorCode = some .providerUnavailable)

def ReceivedBefore (left right : WebhookEvent) : Prop := left.receivedAt ≤ right.receivedAt

instance : DecidableRel ReceivedBefore :=
  fun left right => inferInstanceAs (Decidable (left.receivedAt ≤ right.receivedAt))

def paymentOperations (host : Host) (ingestion : IngestionPackage) (handlerId : Nat) :
    Job Intake (Id -> List RetryStatement) Id where
  limit := 20
  backlog state := Sweep.waiting WebhookEvent.id awaitsRetry (List.insertionSort ReceivedBefore)
    state.db.webhookEvents.rows
  run statements state := (intake host ingestion).run state
    ((retryCandidates state.db.webhookEvents).flatMap fun webhook =>
      retrySteps handlerId (statements webhook.id) webhook.id)

theorem attempts_paymentOperations (state : Intake) :
    (paymentOperations host ingestion handlerId).attempts state =
      (retryCandidates state.db.webhookEvents).map WebhookEvent.id := by
  rw [retryCandidates, List.map_take]
  rfl

/-! ## Rows in their places -/

/-- The columns that the query orders by and that name the row. -/
structure SamePlace (old new : WebhookEvent) : Prop where
  terms : webhookTerms new = webhookTerms old
  receivedAt : new.receivedAt = old.receivedAt

/-- Rows are changed in their places, and only named ones. -/
def ChangedOnly (names : List Id) (before after : Table WebhookEvent) : Prop :=
  Exists fun change : WebhookEvent -> WebhookEvent =>
    (forall row, SamePlace row (change row)) ∧
    (forall row, row ∈ before -> row.id ∉ names -> change row = row) ∧
    after.rows = before.rows.map change

theorem ChangedOnly.refl (names : List Id) (table : Table WebhookEvent) : ChangedOnly names table table :=
  ⟨fun row => row, fun _ => ⟨rfl, rfl⟩, fun _ _ _ => rfl, (List.map_id _).symm⟩

theorem ChangedOnly.trans {others : List Id} (left : ChangedOnly names first second)
    (right : ChangedOnly others second third) : ChangedOnly (names ++ others) first third := by
  rcases left with ⟨earlier, earlierPlaces, earlierOnly, secondRows⟩
  rcases right with ⟨later, laterPlaces, laterOnly, thirdRows⟩
  refine ⟨later ∘ earlier, ?_, ?_, ?_⟩
  · intro row
    exact ⟨(laterPlaces (earlier row)).terms.trans (earlierPlaces row).terms,
      (laterPlaces (earlier row)).receivedAt.trans (earlierPlaces row).receivedAt⟩
  · intro row member other
    rw [List.mem_append, not_or] at other
    have unchanged := earlierOnly row member other.1
    have inSecond : row ∈ second := (Table.mem_of_rows secondRows).mpr ⟨row, member, unchanged⟩
    rw [Function.comp_apply, unchanged, laterOnly row inSecond other.2]
  · rw [thirdRows, secondRows, List.map_map]

theorem ChangedOnly.mono {others : List Id} (changed : ChangedOnly names first second)
    (more : forall name, name ∈ names -> name ∈ others) : ChangedOnly others first second := by
  rcases changed with ⟨change, places, only, rows⟩
  exact ⟨change, places, fun row member other => only row member fun inNames => other (more row.id inNames), rows⟩

/-- Changes of the same rows, one after the other. -/
theorem ChangedOnly.again (left : ChangedOnly names first second) (right : ChangedOnly names second third) :
    ChangedOnly names first third := by
  apply (left.trans right).mono
  intro name member
  rcases List.mem_append.mp member with inLeft | inRight
  · exact inLeft
  · exact inRight

theorem changedOnly_update {selected : WebhookEvent -> Bool} {change : WebhookEvent -> WebhookEvent}
    (rows : after.rows = before.rows.map fun row => if selected row then change row else row)
    (places : forall row, SamePlace row (change row))
    (only : forall row, row ∈ before -> selected row = true -> row.id ∈ names) : ChangedOnly names before after := by
  refine ⟨_, ?_, ?_, rows⟩
  · intro row
    split
    · exact places row
    · exact ⟨rfl, rfl⟩
  · intro row member other
    exact if_neg fun isSelected => other (only row member isSelected)

theorem ChangedOnly.origin (changed : ChangedOnly names before after) {row : WebhookEvent}
    (member : row ∈ after) : Exists fun old => old ∈ before ∧ webhookTerms old = webhookTerms row := by
  rcases changed with ⟨change, places, _, rows⟩
  rcases (Table.mem_of_rows rows).mp member with ⟨old, inBefore, rfl⟩
  exact ⟨old, inBefore, (places old).terms.symm⟩

/-! ## One retry -/

/-- All rows are of the provider that the host is configured with. -/
def Configured (host : Host) (table : Table WebhookEvent) : Prop :=
  forall row, row ∈ table -> row.provider = host.environment.paymentProvider

theorem Configured.changed (configured : Configured host before) (changed : ChangedOnly names before after) :
    Configured host after := by
  intro row member
  rcases changed.origin member with ⟨old, inBefore, sameTerms⟩
  have sameKey := webhookKey_of_terms sameTerms
  simp only [webhookKey, Prod.mk.injEq] at sameKey
  rw [← sameKey.1]
  exact configured old inBefore

/-- The key belongs to no other row than this one. -/
structure Aims (host : Host) (webhookId : Id) (table : Table WebhookEvent) (key : EventKey) : Prop where
  configured : key.1 = host.environment.paymentProvider
  only : forall row, row ∈ table -> webhookKey row = key -> row.id = webhookId

theorem Aims.changed {key : EventKey} (aims : Aims host webhookId before key)
    (changed : ChangedOnly names before after) : Aims host webhookId after key where
  configured := aims.configured
  only row member isKey := by
    rcases changed.origin member with ⟨old, inBefore, sameTerms⟩
    rw [← webhookId_of_terms sameTerms]
    exact aims.only old inBefore ((webhookKey_of_terms sameTerms).trans isKey)

/-- A handler that retries a row refers to no other. -/
def Retries (host : Host) (webhookId : Id) (table : Table WebhookEvent) : Handler -> Prop
  | .restoring webhook => webhook.id = webhookId ∧ Aims host webhookId table (webhookKey webhook)
  | .reopeningStored reopened event => reopened = webhookId ∧ Aims host webhookId table (eventKey event)
  | .processing event => Aims host webhookId table (eventKey event)
  | .failing event _ _ => Aims host webhookId table (eventKey event)
  | _ => False

/-- The handler has ended, or goes on with its retry. -/
def Retrying (host : Host) (handlerId : Nat) (webhookId : Id) (state : Intake) : Prop :=
  forall handler, state.handlers handlerId = some handler ->
    Retries host webhookId state.db.webhookEvents handler

theorem retrying_stop (state : Intake) (db : Db) :
    Retrying host handlerId webhookId { state.stop handlerId with db } := by
  intro handler stands
  have gone : (state.stop handlerId).handlers handlerId = none := Function.update_self ..
  rw [gone] at stands
  cases stands

theorem retrying_goTo {state : Intake} {db : Db} {handler : Handler}
    (retries : Retries host webhookId db.webhookEvents handler) :
    Retrying host handlerId webhookId { state.goTo handlerId handler with db } := by
  intro other stands
  have here : (state.goTo handlerId handler).handlers handlerId = some handler := Function.update_self ..
  rw [here] at stands
  cases stands
  exact retries

theorem eventKey_of_restored {webhook : WebhookEvent} {event : VerifiedEvent} {payments restored : PaymentsStore}
    (commits : (ownerEventForStoredWebhook webhook).Commits payments event restored) :
    eventKey event = webhookKey webhook := by
  rcases ownerEventForStoredWebhook_commits commits with ⟨existing, found, rfl, _⟩ | ⟨_, stored, _, rfl, _, _⟩
  · have key := payments.providerEvents.lookup_key found
    simp only [Keyed.keys, List.mem_cons, List.not_mem_nil, or_false, reduceCtorEq, false_or,
      PaymentProviderEvent.Key.event.injEq] at key
    exact Prod.ext key.1.symm key.2.symm
  · rfl

/-- The effect of one statement of a retry. -/
theorem retrying_advance (moment : Moment) {state : Intake} {handler : Handler}
    (retries : Retries host webhookId state.db.webhookEvents handler) :
    ChangedOnly [webhookId] state.db.webhookEvents
        (Storefront.advance host moment handlerId state handler).db.webhookEvents ∧
      Retrying host handlerId webhookId (Storefront.advance host moment handlerId state handler) := by
  have same : ChangedOnly [webhookId] state.db.webhookEvents state.db.webhookEvents := ChangedOnly.refl _ _
  have named : forall row : WebhookEvent, row.id = webhookId -> row.id ∈ [webhookId] :=
    fun row isRow => List.mem_singleton.mpr isRow
  cases handler with
  | conflicting eventId => exact retries.elim
  | checking event => exact retries.elim
  | reopening reopened event => exact retries.elim
  | restoring webhook =>
    simp only [Storefront.advance]
    split
    · exact ⟨same, retrying_stop state state.db⟩
    · rename_i event payments restored
      refine ⟨same, retrying_goTo ⟨retries.1, ?_⟩⟩
      rw [eventKey_of_restored restored]
      exact retries.2
  | reopeningStored reopened event =>
    rcases retries with ⟨rfl, aims⟩
    have changed : ChangedOnly [reopened] state.db.webhookEvents
        (reopenStored moment reopened state.db.webhookEvents) := by
      apply changedOnly_update rfl
      · intro row
        exact ⟨rfl, rfl⟩
      · intro row _ selected
        exact named row (of_decide_eq_true selected)
    exact ⟨changed, retrying_goTo (aims.changed changed)⟩
  | processing event =>
    simp only [Storefront.advance]
    split
    · rename_i requests db processed
      rcases processVerifiedEvent_marks processed with ⟨_, change, marks, rows⟩
      refine ⟨changedOnly_update rows ?_ ?_, retrying_stop state db⟩
      · intro row
        cases marks with
        | ignored unknown => exact ⟨rfl, rfl⟩
        | processed supported outcome => exact ⟨rfl, rfl⟩
      · intro row member selected
        simp only [Bool.and_eq_true, decide_eq_true_eq] at selected
        exact named row (retries.only row member (Prod.ext selected.1 selected.2))
    · exact ⟨same, retrying_goTo retries⟩
  | failing event code retryable =>
    simp only [Storefront.advance]
    split
    · rename_i answer webhookEvents recorded
      rcases updateWebhook_commits recorded with ⟨_, wrote⟩
      refine ⟨changedOnly_update (congrArg Table.rows wrote) ?_ ?_, retrying_stop state _⟩
      · intro row
        exact ⟨rfl, rfl⟩
      · intro row member selected
        simp only [Bool.and_eq_true, decide_eq_true_eq] at selected
        have isKey : webhookKey row = eventKey event :=
          Prod.ext (selected.1.trans retries.configured.symm) selected.2
        exact named row (retries.only row member isKey)
    · exact ⟨same, retrying_stop state state.db⟩

/-- What holds from one statement of a retry to the next. -/
structure Progress (host : Host) (handlerId : Nat) (webhookId : Id) (before after : Intake) : Prop where
  changed : ChangedOnly [webhookId] before.db.webhookEvents after.db.webhookEvents
  retrying : Retrying host handlerId webhookId after

theorem progress_statement {before : Intake} (retrying : Retrying host handlerId webhookId before)
    (statement : RetryStatement) : Progress host handlerId webhookId before
      ((intake host ingestion).attempt before (statement.step handlerId)) := by
  apply Machine.attempt_elim (motive := fun after => Progress host handlerId webhookId before after)
  · exact ⟨ChangedOnly.refl _ _, retrying⟩
  · intro after accepted
    cases statement with
    | advance moment =>
      cases intakeStep_moves accepted with
      | started _ _ _ opens => cases opens
      | advanced _ _ handler stands =>
        rcases retrying_advance moment (retrying handler stands) with ⟨changed, goesOn⟩
        exact ⟨changed, goesOn⟩
    | abort code retryable =>
      cases intakeStep_moves accepted with
      | started _ _ _ opens => cases opens
      | aborted _ _ _ event stands =>
        have aims : Aims host webhookId before.db.webhookEvents (eventKey event) := retrying _ stands
        exact ⟨ChangedOnly.refl _ _, retrying_goTo aims⟩

theorem progress_statements (statements : List RetryStatement) {before : Intake}
    (retrying : Retrying host handlerId webhookId before) : Progress host handlerId webhookId before
      ((intake host ingestion).run before (statements.map (RetryStatement.step handlerId))) := by
  induction statements generalizing before with
  | nil => exact ⟨ChangedOnly.refl _ _, retrying⟩
  | cons statement rest inductionHypothesis =>
    have first : Progress host handlerId webhookId before
        ((intake host ingestion).attempt before (statement.step handlerId)) := progress_statement retrying statement
    have later := inductionHypothesis first.retrying
    exact ⟨first.changed.again later.changed, later.retrying⟩

/-- A retry that is admitted has read its row. -/
theorem retry_moves {before after : Intake}
    (accepted : (intake host ingestion).step before (.retry handlerId webhookId) = .ok after) :
    Exists fun webhook => before.db.webhookEvents.lookup (.id webhookId) = some webhook ∧
      after = before.goTo handlerId (.restoring webhook) := by
  cases intakeStep_moves accepted with
  | started _ _ _ opens _ webhook found =>
    cases opens
    exact ⟨webhook, found, rfl⟩

theorem progress_retry {before : Intake} (configured : Configured host before.db.webhookEvents)
    (idle : before.handlers handlerId = none) : Progress host handlerId webhookId before
      ((intake host ingestion).attempt before (.retry handlerId webhookId)) := by
  apply Machine.attempt_elim (motive := fun after => Progress host handlerId webhookId before after)
  · refine ⟨ChangedOnly.refl _ _, ?_⟩
    intro handler stands
    rw [idle] at stands
    cases stands
  · intro after accepted
    rcases retry_moves accepted with ⟨webhook, found, rfl⟩
    have member := before.db.webhookEvents.lookup_mem found
    have isWebhook : webhook.id = webhookId := by
      have key := before.db.webhookEvents.lookup_key found
      simpa [Keyed.keys, eq_comm] using key
    refine ⟨ChangedOnly.refl _ _, retrying_goTo ⟨isWebhook, configured webhook member, ?_⟩⟩
    intro row rowMember isKey
    rw [row_eq_of_key rowMember member isKey]
    exact isWebhook

/-- What a retry leaves behind. -/
structure Retried (host : Host) (handlerId : Nat) (names : List Id) (before after : Intake) : Prop where
  changed : ChangedOnly names before.db.webhookEvents after.db.webhookEvents
  idle : after.handlers handlerId = none

theorem retried_retrySteps {before : Intake} (configured : Configured host before.db.webhookEvents)
    (idle : before.handlers handlerId = none) (statements : List RetryStatement) (webhookId : Id) :
    Retried host handlerId [webhookId] before
      ((intake host ingestion).run before (retrySteps handlerId statements webhookId)) := by
  have started : Progress host handlerId webhookId before
      ((intake host ingestion).attempt before (.retry handlerId webhookId)) := progress_retry configured idle
  have went : Progress host handlerId webhookId _ ((intake host ingestion).run
      ((intake host ingestion).attempt before (.retry handlerId webhookId))
      (statements.map (RetryStatement.step handlerId))) := progress_statements statements started.retrying
  rw [retrySteps, List.cons_append, Machine.run_cons, Machine.run_append]
  exact ⟨started.changed.again went.changed, Function.update_self ..⟩

theorem retried_all (statements : Id -> List RetryStatement) (webhooks : List WebhookEvent) {before : Intake}
    (configured : Configured host before.db.webhookEvents) (idle : before.handlers handlerId = none) :
    Retried host handlerId (webhooks.map WebhookEvent.id) before
      ((intake host ingestion).run before (webhooks.flatMap fun webhook =>
        retrySteps handlerId (statements webhook.id) webhook.id)) := by
  induction webhooks generalizing before with
  | nil => exact ⟨ChangedOnly.refl _ _, idle⟩
  | cons webhook rest inductionHypothesis =>
    rw [List.flatMap_cons, Machine.run_append]
    have first : Retried host handlerId [webhook.id] before ((intake host ingestion).run before
        (retrySteps handlerId (statements webhook.id) webhook.id)) :=
      retried_retrySteps configured idle (statements webhook.id) webhook.id
    have later := inductionHypothesis (configured.changed first.changed) first.idle
    exact ⟨first.changed.trans later.changed, later.idle⟩

/-! ## The backlog -/

instance : IsTrans WebhookEvent ReceivedBefore := ⟨fun _ _ _ => Int.le_trans⟩

instance : Std.Total ReceivedBefore := ⟨fun left right => Int.le_total left.receivedAt right.receivedAt⟩

theorem query_received : Sweep.QueryOrder (List.insertionSort ReceivedBefore) :=
  ⟨List.perm_insertionSort ReceivedBefore, fun keep rows => (filter_insertionSort ReceivedBefore keep rows).symm⟩

theorem nodup_webhookIds (table : Table WebhookEvent) : (table.rows.map WebhookEvent.id).Nodup := by
  have unique : forall row : WebhookEvent, WebhookEvent.Key.id row.id ∈ Keyed.keys row :=
    fun row => List.mem_cons_self
  exact table.nodup_column unique

/-- The rows are the provider's, and the handler has nothing else to do. -/
structure Ready (host : Host) (handlerId : Nat) (state : Intake) : Prop where
  configured : Configured host state.db.webhookEvents
  idle : state.handlers handlerId = none

theorem paymentOperations_sweeps :
    (paymentOperations host ingestion handlerId).Sweeps (Ready host handlerId) where
  kept statements state ready := by
    have retried : Retried host handlerId _ state
        ((paymentOperations host ingestion handlerId).run statements state) :=
      retried_all statements _ ready.configured ready.idle
    exact ⟨ready.configured.changed retried.changed, retried.idle⟩
  distinct state _ := Sweep.nodup_waiting query_received (nodup_webhookIds state.db.webhookEvents)
  leaves statements state ready := by
    have retried : Retried host handlerId _ state
        ((paymentOperations host ingestion handlerId).run statements state) :=
      retried_all statements _ ready.configured ready.idle
    rcases retried.changed with ⟨change, places, only, rows⟩
    rw [← @attempts_paymentOperations host ingestion handlerId] at only
    have arrives : forall row, row ∈ state.db.webhookEvents.rows ->
        awaitsRetry (change row) = true -> awaitsRetry row = true := by
      intro row member waiting
      by_cases taken : row.id ∈ (paymentOperations host ingestion handlerId).attempts state
      · rcases List.mem_map.mp (List.mem_of_mem_take taken) with ⟨other, inBacklog, sameId⟩
        have inFiltered := List.mem_filter.mp ((query_received.permuted _).mem_iff.mp inBacklog)
        rw [row_eq_of_id member inFiltered.1 sameId.symm]
        exact inFiltered.2
      · rw [only row member taken] at waiting
        exact waiting
    have mapped : forall some : List WebhookEvent, (forall row, row ∈ some -> row ∈ state.db.webhookEvents.rows) ->
        (some.map change).insertionSort ReceivedBefore = (some.insertionSort ReceivedBefore).map change := by
      intro some _
      refine (List.map_insertionSort ReceivedBefore ReceivedBefore change some ?_).symm
      intro left _ right _
      rw [ReceivedBefore, ReceivedBefore, (places left).receivedAt, (places right).receivedAt]
    have changed := Sweep.waiting_of_change 20 query_received mapped (nodup_webhookIds state.db.webhookEvents)
      (fun row _ => webhookId_of_terms (places row).terms) arrives (fun row member => only row member)
    rw [← rows] at changed
    exact changed

/-! ## Both jobs -/

theorem retries_swept (host : Host) (ingestion : IngestionPackage) (handlerId : Nat) (renewalHost : RenewalHost)
    (issues : IssuesRenewals renewalHost.issuer) :
    (forall state fails turns, Ready host handlerId state ->
      (paymentOperations host ingestion handlerId).Assigned fails turns state ->
      (paymentOperations host ingestion handlerId).Swept fails turns state) ∧
    forall store fails turns, (preparedRenewalRecovery renewalHost).Assigned fails turns store ->
      (preparedRenewalRecovery renewalHost).Swept fails turns store := by
  constructor
  · intro state fails turns ready assigned
    exact paymentOperations_sweeps.swept ready assigned
  · intro store fails turns assigned
    exact (preparedRenewalRecovery_sweeps issues).swept trivial assigned

/-! ## Twenty in front -/

def waitingWebhook (number : Nat) : WebhookEvent :=
  { receivedWebhook (Reference.moment "received" number)
      (Reference.delivery (toString number) .paymentPaid "a" "pay" 9) with
    status := .failed
    lastErrorCode := some .processingRetryable }

def waitingWebhooks : Table WebhookEvent := ⟨(List.range 21).map waitingWebhook, by decide +kernel⟩

def waitingIntake : Intake := ⟨{ Db.empty with webhookEvents := waitingWebhooks }, fun _ => none, []⟩

theorem stop_of_idle {state : Intake} (idle : state.handlers handlerId = none) : state.stop handlerId = state := by
  have same : Function.update state.handlers handlerId none = state.handlers :=
    Function.update_eq_self_iff.mpr idle.symm
  rw [Intake.stop, same]

/-- A retry that throws at once leaves everything as it is. -/
theorem run_thrown {state : Intake} (idle : state.handlers handlerId = none) (webhookId : Id) :
    (intake host ingestion).run state (retrySteps handlerId [] webhookId) = state := by
  have crashes : forall other, (intake host ingestion).run other [.crash handlerId] = other.stop handlerId :=
    fun _ => rfl
  rw [retrySteps, List.cons_append, Machine.run_cons, List.map_nil, List.nil_append, crashes]
  apply Machine.attempt_elim (motive := fun after : Intake => after.stop handlerId = state)
  · exact stop_of_idle idle
  · intro after accepted
    rcases retry_moves accepted with ⟨webhook, found, rfl⟩
    rw [← stop_of_idle idle]
    simp only [Intake.stop, Intake.goTo, Function.update_idem]

theorem run_thrown_all {state : Intake} (idle : state.handlers handlerId = none) (webhooks : List WebhookEvent) :
    (intake host ingestion).run state (webhooks.flatMap fun webhook => retrySteps handlerId [] webhook.id) =
      state := by
  induction webhooks with
  | nil => rfl
  | cons webhook rest inductionHypothesis =>
    rw [List.flatMap_cons, Machine.run_append, run_thrown idle]
    exact inductionHypothesis

def lastWebhook : Id := (waitingWebhook 20).id

def operationOf (number : Nat) : RenewalOperationId := ⟨toString number, "license:item:s", some "hash:laptop"⟩

/-- The device of an operation may have been released since. -/
def preparedOperation (number : Nat) (device : String) : CommercialLeaseOperation where
  operationId := operationOf number
  licenseId := "license:item:s"
  status := .prepared
  metadata := ⟨toString number, none, none, none, 0, 0, .successorLeasePending device⟩
  completedAt := none

def renewedLicense : License where
  id := "license:item:s"
  publicId := "public"
  keyHash := "hash"
  keyLastFour := "last"
  keyCiphertext := some "key"
  accountId := "a"
  orderId := "order:s"
  orderItemId := "item:s"
  productId := "p"
  editionId := none
  purchasePlanId := none
  subscriptionId := none
  status := .active
  maxSeats := 1
  maxDevicesPerSeat := 1
  expiresAt := none
  createdAt := 0

def renewalsOf (leaseOperations : Table CommercialLeaseOperation) : RenewalStore where
  licensing :=
    { emptyRenewals.licensing with
      licenses := ⟨[renewedLicense], List.pairwise_singleton _ _⟩
      deviceActivations := laptopDevices
      leaseOperations }
  leases := laptopLeases
  settled := []

def releasedRenewals : RenewalStore :=
  renewalsOf ⟨(List.range 20).map (preparedOperation · "hash:released") ++ [preparedOperation 20 "hash:laptop"],
    by decide +kernel⟩

def quietTurn : RecoveryTurn := ⟨[], fun operationId => renewalDraw 0 ("renewed:" ++ operationId.orderId)⟩

theorem retries_starve_behind_twenty :
    (paymentOperations Reference.host Reference.ingestion 0).Starved (fun webhookId => webhookId ≠ lastWebhook)
      (fun _ _ => []) waitingIntake lastWebhook ∧
    (preparedRenewalRecovery renewalHost).Starved (fun operationId => operationId ≠ operationOf 20)
      (fun _ => quietTurn) releasedRenewals (operationOf 20) ∧
    (recoveryIssue renewalHost (recoveryCandidate releasedRenewals (preparedOperation 20 "hash:laptop"))).isSome =
      true := by
  refine ⟨?_, ?_, by decide +kernel⟩
  · apply Job.starved_of_fixed
    · intro run
      exact run_thrown_all rfl _
    · decide +kernel
    · decide +kernel
    · decide +kernel
  · apply Job.starved_of_fixed
    · intro run
      apply recoverAll_unbound
      decide +kernel
    · decide +kernel
    · decide +kernel
    · decide +kernel

/-! ## Room for the rest -/

/-- Nineteen operations without their device leave room for one in each run. -/
def roomyRenewals : RenewalStore :=
  renewalsOf ⟨(List.range 19).map (preparedOperation · "hash:released") ++
    [preparedOperation 19 "hash:laptop", preparedOperation 20 "hash:laptop"], by decide +kernel⟩

def released (operationId : RenewalOperationId) : Bool :=
  operationId ≠ operationOf 19 && operationId ≠ operationOf 20

theorem assigned_roomyRenewals :
    (preparedRenewalRecovery renewalHost).Assigned released (fun _ => quietTurn) roomyRenewals := by
  apply Job.assigned_of_first
  · decide +kernel
  · apply Job.assigned_of_first
    · decide +kernel
    · apply Job.assigned_of_fixed
      · intro run
        apply recoverAll_unbound
        decide +kernel
      · decide +kernel

theorem assigned_waitingIntake :
    (paymentOperations Reference.host Reference.ingestion 0).Assigned (fun webhookId => webhookId ≠ lastWebhook)
      (fun _ _ => []) waitingIntake := by
  apply Job.assigned_of_fixed
  · intro run
    exact run_thrown_all rfl _
  · decide +kernel

theorem retries_swept_with_room :
    (preparedRenewalRecovery renewalHost).InTime (fun _ => quietTurn) roomyRenewals ∧
    ¬ (paymentOperations Reference.host Reference.ingestion 0).InTime (fun _ _ => []) waitingIntake := by
  have configured : Configured Reference.host waitingIntake.db.webhookEvents := by
    intro row member
    rcases List.mem_map.mp member with ⟨number, _, rfl⟩
    rfl
  have ready : Ready Reference.host 0 waitingIntake := ⟨configured, rfl⟩
  rcases retries_swept Reference.host Reference.ingestion 0 renewalHost RenewingIssuer.issuesRenewals with
    ⟨webhooks, renewals⟩
  constructor
  · apply (renewals roomyRenewals released _ assigned_roomyRenewals).inTime.mpr
    rw [Job.HasRoom]
    decide +kernel
  · rw [(webhooks waitingIntake _ _ ready assigned_waitingIntake).inTime, Job.HasRoom]
    decide +kernel

end Storefront
end DigitalSolutions
