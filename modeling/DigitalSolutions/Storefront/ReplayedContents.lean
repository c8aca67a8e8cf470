import DigitalSolutions.Storefront.OwnerEvents

namespace DigitalSolutions
namespace Storefront

open Foundation Persistence Platform Payments

/-!
# What was verified first stays

A claim takes the fingerprint of an owner event from the stored webhook and
its contents from the delivery, and it commits before the delivery is
refused.  A stored webhook that has no owner event is therefore given the
contents of whatever delivery comes next, and a retry works with these.
-/

variable {host : Host} {ingestion : IngestionPackage} {before after : Intake} {step : IntakeStep}
variable {handlerId : Nat} {handler : Handler}

/-- The package refuses a delivery exactly when the claimed event has another
fingerprint. -/
def RefusesExactly (package : IngestionPackage) : Prop :=
  forall {Failure Store : Type}
    (handle : ProviderEventClaim -> Transaction Failure Store ProviderEventClaimResult)
    (input : ProviderEventClaim) (before after : Store) (result : IngestResult),
    ((package.ingest input).connect handle).Commits before result after ->
    (result = .failed ∧ after = before) ∨
    Exists fun claimed => (handle input).Commits before claimed after ∧
      ((result = .rejected ∧ claimed.record.eventFingerprint ≠ input.eventFingerprint) ∨
        (result = .accepted (snapshot claimed.record) (if claimed.created then .created else .existing) ∧
          claimed.record.eventFingerprint = input.eventFingerprint))

/-- The event that a handler works on. -/
def Handler.event : Handler -> Option VerifiedEvent
  | .checking event | .reopening _ event | .reopeningStored _ event | .processing event
  | .failing event _ _ => some event
  | .conflicting _ | .restoring _ => none

/-- A handler works on an owner event, and a retry has read its row. -/
structure Attached (db : Db) (handler : Handler) : Prop where
  event : forall event, handler.event = some event -> Exists fun owner =>
    owner ∈ db.payments.providerEvents ∧ event = snapshot owner
  row : forall webhook, handler = .restoring webhook -> Exists fun row =>
    row ∈ db.webhookEvents ∧ webhookTerms row = webhookTerms webhook

structure Verified (intake : Intake) : Prop where
  faithful : Faithful intake.db.webhookEvents intake.db.payments.providerEvents
  stored : Stored intake.db.webhookEvents intake.db.payments.providerEvents
  handlers : forall handlerId handler, intake.handlers handlerId = some handler -> Attached intake.db handler

theorem Attached.grown {first second : Db} (attached : Attached first handler)
    (grown : Grown first second) : Attached second handler where
  event event isEvent := by
    rcases attached.event event isEvent with ⟨owner, member, isSnapshot⟩
    exact ⟨owner, grown.owners owner member, isSnapshot⟩
  row webhook isRestoring := by
    rcases attached.row webhook isRestoring with ⟨row, member, sameTerms⟩
    rcases grown.rows row member with ⟨later, laterMember, sameLater⟩
    exact ⟨later, laterMember, sameLater.trans sameTerms⟩

/-- A handler that goes on with the same event. -/
theorem Attached.onward {db : Db} {later : Handler} (attached : Attached db handler)
    (same : later.event = handler.event) (moves : forall webhook, later ≠ .restoring webhook) :
    Attached db later where
  event event isEvent := attached.event event (same.symm.trans isEvent)
  row webhook isRestoring := absurd isRestoring (moves webhook)

/-- The tables have developed, and one handler may have moved. -/
theorem Verified.moved (verified : Verified before)
    (faithful : Faithful after.db.webhookEvents after.db.payments.providerEvents)
    (stored : Stored after.db.webhookEvents after.db.payments.providerEvents)
    (grown : Grown before.db after.db) {next : Option Handler}
    (handlers : after.handlers = Function.update before.handlers handlerId next)
    (attached : forall later, next = some later -> Attached after.db later) : Verified after where
  faithful := faithful
  stored := stored
  handlers other handler stands := by
    rcases eq_some_of_update handlers stands with ⟨_, isNext⟩ | ⟨_, old⟩
    · exact attached handler isNext
    · exact (verified.handlers other handler old).grown grown

theorem grown_of_same (rows : SameRows before.db.webhookEvents after.db.webhookEvents)
    (owners : after.db.payments.providerEvents = before.db.payments.providerEvents) :
    Grown before.db after.db := by
  refine ⟨rows.grows, ?_⟩
  intro owner member
  rw [owners]
  exact member

/-- The rows keep their terms, and there is no new owner event. -/
theorem Verified.kept (verified : Verified before)
    (rows : SameRows before.db.webhookEvents after.db.webhookEvents)
    (owners : after.db.payments.providerEvents = before.db.payments.providerEvents)
    {next : Option Handler} (handlers : after.handlers = Function.update before.handlers handlerId next)
    (attached : forall later, next = some later -> Attached before.db later) :
    Verified after ∧ Grown before.db after.db := by
  have grown := grown_of_same rows owners
  refine ⟨verified.moved ?_ ?_ grown handlers fun later isNext => (attached later isNext).grown grown, grown⟩
  · rw [owners]
    exact verified.faithful.same rows
  · rw [owners]
    exact verified.stored.same rows

/-! ## One step -/

/-- What a step has done. -/
def Develops (before after : Intake) : Prop := Verified after ∧ Grown before.db after.db

theorem sameRows_update {table later : Table WebhookEvent} {selected : WebhookEvent -> Bool}
    {change : WebhookEvent -> WebhookEvent}
    (rows : later.rows = table.rows.map fun row => if selected row then change row else row)
    (keeps : forall row, webhookTerms (change row) = webhookTerms row) : SameRows table later :=
  Table.sameColumn_update rows keeps

/-- A delivery goes on with the owner event that it has claimed. -/
theorem deliver_develops (exact' : RefusesExactly ingestion) (verified : Verified before)
    {moment : Moment} {input : ProviderEventClaim}
    (fits : Fits before.db.webhookEvents before.db.payments.providerEvents input)
    (accepted : (intake host ingestion).step before (.deliver handlerId moment input) = .ok after) :
    Develops before after ∧ before.handlers handlerId = none ∧
      forall handler event, after.handlers handlerId = some handler -> handler.event = some event ->
        Exists fun claimed => Exists fun operational =>
          ClaimCommit moment input before.db claimed after.db operational ∧
          claimed.record.eventFingerprint = input.eventFingerprint := by
  cases intakeStep_moves accepted with
  | started _ _ _ opens => cases opens
  | delivered _ _ _ free configured result db ran =>
    have goes : forall handler, Function.update before.handlers handlerId (ingested input result) handlerId =
        some handler -> ingested input result = some handler := by
      intro handler stands
      rwa [Function.update_self] at stands
    rcases exact' (claimEvent moment) input before.db db result ran with ⟨rfl, rfl⟩ | ⟨claimed, commits, answer⟩
    · refine ⟨⟨verified.moved verified.faithful verified.stored (Grown.refl _) rfl (by rintro _ ⟨⟩),
        Grown.refl before.db⟩, free, ?_⟩
      intro handler event stands
      cases goes handler stands
    · rcases claimEvent_commits commits with ⟨operational, commit⟩
      rcases faithful_claim commit verified.faithful verified.stored fits with ⟨faithful, stored, grown⟩
      have recordMember := (claimEvent_owners commit).2.1
      have attached : forall handler, handler.event = some (snapshot claimed.record) ->
          (forall webhook, handler ≠ .restoring webhook) -> Attached db handler := by
        intro handler isEvent moves
        refine ⟨?_, fun webhook isRestoring => absurd isRestoring (moves webhook)⟩
        intro event isOther
        rw [isEvent, Option.some.injEq] at isOther
        exact ⟨claimed.record, recordMember, isOther.symm⟩
      rcases answer with ⟨rfl, differs⟩ | ⟨accepts, sameFingerprint⟩
      · refine ⟨⟨verified.moved faithful stored grown rfl ?_, grown⟩, free, ?_⟩
        · rintro _ ⟨⟩
          exact ⟨by rintro _ ⟨⟩, by rintro _ ⟨⟩⟩
        · intro handler event stands isEvent
          cases goes handler stands
          cases isEvent
      · refine ⟨⟨verified.moved faithful stored grown rfl ?_, grown⟩, free,
          fun handler event stands isEvent => ⟨claimed, operational, commit, sameFingerprint⟩⟩
        intro later isNext
        rw [accepts] at isNext
        cases isNew : claimed.created with
        | true =>
          rw [isNew, if_pos rfl] at isNext
          cases isNext
          exact attached _ rfl fun webhook => Handler.noConfusion
        | false =>
          rw [isNew, if_neg Bool.false_ne_true] at isNext
          cases isNext
          exact attached _ rfl fun webhook => Handler.noConfusion

/-- A handler that stops. -/
theorem Verified.stopped (verified : Verified before)
    (rows : SameRows before.db.webhookEvents after.db.webhookEvents)
    (owners : after.db.payments.providerEvents = before.db.payments.providerEvents)
    (handlers : after.handlers = Function.update before.handlers handlerId none) :
    Develops before after := by
  refine verified.kept rows owners handlers ?_
  intro later isNext
  cases isNext

/-- A handler that goes on with the event that it works on. -/
theorem Verified.onward (verified : Verified before)
    (rows : SameRows before.db.webhookEvents after.db.webhookEvents)
    (owners : after.db.payments.providerEvents = before.db.payments.providerEvents) {later : Handler}
    (stands : before.handlers handlerId = some handler)
    (handlers : after.handlers = Function.update before.handlers handlerId (some later))
    (same : later.event = handler.event) (moves : forall webhook, later ≠ .restoring webhook) :
    Develops before after := by
  refine verified.kept rows owners handlers ?_
  intro other isNext
  cases isNext
  exact (verified.handlers handlerId handler stands).onward same moves

theorem advance_develops (verified : Verified before) {moment : Moment}
    (stands : before.handlers handlerId = some handler) :
    Develops before (advance host moment handlerId before handler) := by
  have moves : forall (later : Handler) event, later.event = some event ->
      forall webhook, later ≠ .restoring webhook := by
    rintro later event isEvent webhook rfl
    cases isEvent
  cases handler with
  | conflicting eventId => exact verified.stopped (sameRows_update rfl fun _ => rfl) rfl rfl
  | checking event =>
    rw [advance]
    split
    · exact verified.stopped (Table.SameColumn.refl _ _) rfl rfl
    · rename_i webhook found
      split
      · exact verified.stopped (Table.SameColumn.refl _ _) rfl rfl
      · exact verified.onward (Table.SameColumn.refl _ _) rfl stands rfl rfl (moves _ event rfl)
  | reopening webhookId event =>
    exact verified.onward (sameRows_update rfl fun _ => rfl) rfl stands rfl rfl (moves _ event rfl)
  | restoring webhook =>
    rw [advance]
    cases run : (ownerEventForStoredWebhook webhook).run before.db.payments with
    | error failure => exact verified.stopped (Table.SameColumn.refl _ _) rfl rfl
    | ok pair =>
      rcases pair with ⟨event, payments⟩
      rcases (verified.handlers handlerId _ stands).row webhook rfl with ⟨row, member, sameTerms⟩
      rcases faithful_restored run verified.faithful verified.stored member sameTerms with
        ⟨faithful, stored, grown, owner, ownerMember, isSnapshot⟩
      refine ⟨verified.moved faithful stored grown rfl ?_, grown⟩
      intro later isNext
      cases isNext
      refine ⟨?_, by rintro _ ⟨⟩⟩
      intro other isEvent
      cases isEvent
      exact ⟨owner, ownerMember, isSnapshot⟩
  | reopeningStored webhookId event =>
    exact verified.onward (sameRows_update rfl fun _ => rfl) rfl stands rfl rfl (moves _ event rfl)
  | processing event =>
    rw [advance]
    cases run : (processVerifiedEvent host moment event).run before.db with
    | error failure =>
      exact verified.onward (Table.SameColumn.refl _ _) rfl stands rfl rfl (moves _ event rfl)
    | ok pair =>
      rcases pair with ⟨requests, db⟩
      rcases processVerifiedEvent_webhooks run with ⟨_, change, _, keeps, rows⟩
      have owners : db.payments.providerEvents = before.db.payments.providerEvents := by
        rcases event_providerEvents (processVerifiedEvent_commits run) with same | ⟨_, same⟩
        · exact same.1
        · exact same
      exact verified.stopped (sameRows_update rows keeps) owners rfl
  | failing event code retryable =>
    rw [advance]
    cases run : (recordFailure moment host.environment.paymentProvider event.eventId code retryable).run
        before.db.webhookEvents with
    | error failure => exact verified.stopped (Table.SameColumn.refl _ _) rfl rfl
    | ok pair =>
      rcases pair with ⟨answer, webhookEvents⟩
      have wrote := (updateWebhook_commits run).2
      refine verified.stopped ?_ rfl rfl
      simp only [wrote]
      exact sameRows_update rfl fun _ => rfl

/-- What none of the handlers does. -/
theorem Verified.bystander (verified : Verified before)
    (rows : SameRows before.db.webhookEvents after.db.webhookEvents)
    (owners : after.db.payments.providerEvents = before.db.payments.providerEvents)
    (handlers : after.handlers = before.handlers) : Develops before after := by
  have unmoved : after.handlers = Function.update before.handlers 0 (before.handlers 0) := by
    rw [handlers, Function.update_eq_self]
  exact verified.kept rows owners unmoved fun later stands => verified.handlers 0 later stands

/-- A delivery meets no stored webhook without an owner event, or says what the
webhook says. -/
def Fitting (intake : Intake) : IntakeStep -> Prop
  | .deliver _ _ input => Fits intake.db.webhookEvents intake.db.payments.providerEvents input
  | _ => True

theorem intakeStep_develops (exact' : RefusesExactly ingestion) (verified : Verified before)
    (fitting : Fitting before step) (accepted : (intake host ingestion).step before step = .ok after) :
    Develops before after := by
  cases intakeStep_moves accepted with
  | delivered => exact (deliver_develops exact' verified fitting accepted).1
  | started _ handlerId webhookId _ _ webhook found =>
    refine verified.kept (Table.SameColumn.refl _ _) rfl rfl ?_
    rintro _ ⟨⟩
    refine ⟨by rintro _ ⟨⟩, ?_⟩
    rintro _ ⟨⟩
    exact ⟨webhook, Table.lookup_mem _ found, rfl⟩
  | advanced handlerId moment handler stands => exact advance_develops verified stands
  | aborted handlerId code retryable event stands =>
    exact verified.onward (Table.SameColumn.refl _ _) rfl stands rfl rfl fun webhook => Handler.noConfusion
  | crashed handlerId => exact verified.stopped (Table.SameColumn.refl _ _) rfl rfl
  | acknowledged webhookId => exact verified.bystander (sameRows_update rfl fun _ => rfl) rfl rfl
  | elsewhere transaction foreign db ran =>
    have same := commit_webhooks ran foreign
    refine verified.bystander ?_ same.2 rfl
    simp only [same.1]
    exact Table.SameColumn.refl _ _

/-! ## Every run -/

/-- Handlers start on these tables. -/
def Intake.starting (db : Db) : Intake := ⟨db, fun _ => none, []⟩

def intakeRun (host : Host) (ingestion : IngestionPackage) (db : Db) (steps : List IntakeStep) : Intake :=
  (intake host ingestion).run (Intake.starting db) steps

/-- The fingerprint that the tables have of an event before a delivery of it.
In place of one that was never stored stands the payload. -/
inductive FirstFingerprint (db : Db) (input : ProviderEventClaim) : String -> Prop
  | owned {owner : PaymentProviderEvent} (member : owner ∈ db.payments.providerEvents)
      (isKey : ownerKey owner = (input.provider, input.eventId)) :
      FirstFingerprint db input owner.eventFingerprint
  | stored {row : WebhookEvent} {stored : StoredEvent} {fingerprint : String} (member : row ∈ db.webhookEvents)
      (isKey : webhookKey row = (input.provider, input.eventId)) (isStored : row.normalizedData = some stored)
      (isFingerprint : present stored.eventFingerprint = some fingerprint) :
      FirstFingerprint db input fingerprint
  | legacy {row : WebhookEvent} (member : row ∈ db.webhookEvents)
      (isKey : webhookKey row = (input.provider, input.eventId))
      (unowned : forall owner, owner ∈ db.payments.providerEvents ->
        ownerKey owner ≠ (input.provider, input.eventId))
      (without : row.normalizedData.bind (fun event => present event.eventFingerprint) = none)
      (differs : row.payloadHash ≠ input.payloadHash) :
      FirstFingerprint db input "LEGACY_EVENT_FINGERPRINT_MISMATCH"

structure ContentsKept (host : Host) (ingestion : IngestionPackage) (db : Db) (steps : List IntakeStep) :
    Prop where
  owners : forall past rest, steps = past ++ rest ->
    forall owner, owner ∈ (intakeRun host ingestion db past).db.payments.providerEvents ->
      owner ∈ (intakeRun host ingestion db steps).db.payments.providerEvents
  faithful : Faithful (intakeRun host ingestion db steps).db.webhookEvents
    (intakeRun host ingestion db steps).db.payments.providerEvents
  worked : forall handlerId handler event, (intakeRun host ingestion db steps).handlers handlerId = some handler ->
    handler.event = some event -> Exists fun row =>
      row ∈ (intakeRun host ingestion db steps).db.webhookEvents ∧ webhookKey row = eventKey event ∧
      forall stored, row.normalizedData = some stored -> verifiedContents event = storedContents stored
  refused : forall past handlerId moment input rest, steps = past ++ .deliver handlerId moment input :: rest ->
    (intakeRun host ingestion db past).handlers handlerId = none ->
    forall first, FirstFingerprint (intakeRun host ingestion db past).db input first ->
    first ≠ input.eventFingerprint -> forall handler,
      (intakeRun host ingestion db (past ++ [.deliver handlerId moment input])).handlers handlerId = some handler ->
      handler.event = none

/-- The claimed event has the fingerprint that the tables had. -/
theorem FirstFingerprint.claimed {db stored : Db} {moment : Moment} {input : ProviderEventClaim}
    {result : ProviderEventClaimResult} {operational : WebhookEvent} {first : String}
    (isFirst : FirstFingerprint db input first) (commit : ClaimCommit moment input db result stored operational)
    (faithful : Faithful stored.webhookEvents stored.payments.providerEvents) (grown : Grown db stored) :
    result.record.eventFingerprint = first := by
  rcases claimEvent_owners commit with ⟨_, recordMember, recordKey, operationalMember, operationalKey⟩
  cases isFirst with
  | @owned owner member isKey =>
    have same : result.record = owner := by
      simp only [ownerKey, Prod.mk.injEq] at isKey
      have occupied : PaymentProviderEvent.Key.event input.provider input.eventId ∈ Keyed.keys owner := by
        simp [Keyed.keys, isKey.1, isKey.2]
      exact Table.eq_of_common_key _ recordMember (grown.owners owner member)
        (Table.lookup_key _ commit.record) occupied
    rw [same]
  | @stored row event fingerprint member isKey isStored isFingerprint =>
    rcases grown.rows row member with ⟨later, laterMember, sameTerms⟩
    have laterKey := (webhookKey_of_terms sameTerms).trans (isKey.trans recordKey.symm)
    exact (faithful result.record recordMember later laterMember laterKey event
      ((data_of_terms sameTerms).trans isStored)).fingerprint _ isFingerprint
  | @legacy row member isKey unowned without differs =>
    have isOperational : operational = row := by
      rcases claimEvent_rows commit with ⟨_, inserted, isNew⟩ | ⟨_, same⟩
      · have old := (Table.mem_insert inserted).mpr (Or.inl member)
        exact row_eq_of_key operationalMember old (operationalKey.trans isKey.symm)
      · rw [same] at operationalMember
        exact row_eq_of_key operationalMember member (operationalKey.trans isKey.symm)
    subst isOperational
    rcases owners_of_claim commit.providerEvents with same | ⟨_, inserted⟩
    · rw [same] at recordMember
      exact absurd recordKey (unowned result.record recordMember)
    · rcases (Table.mem_insert inserted).mp recordMember with old | isNew
      · exact absurd recordKey (unowned result.record old)
      · rw [isNew]
        simp only [ownerEvent, operationalFingerprint, without, differs, if_false]

/-- What a database holds before its first delivery. -/
structure Beginning (db : Db) : Prop where
  faithful : Faithful db.webhookEvents db.payments.providerEvents
  stored : Stored db.webhookEvents db.payments.providerEvents

theorem Beginning.verified {db : Db} (beginning : Beginning db) : Verified (Intake.starting db) where
  faithful := beginning.faithful
  stored := beginning.stored
  handlers _ _ stands := nomatch stands

theorem verified_run (exact' : RefusesExactly ingestion) {steps : List IntakeStep} (verified : Verified before)
    (admitted : (intake host ingestion).Admits Fitting before steps) :
    Verified ((intake host ingestion).run before steps) ∧
      Grown before.db ((intake host ingestion).run before steps).db := by
  have preserved : forall state step next, (Verified state ∧ Grown before.db state.db) -> Fitting state step ->
      (intake host ingestion).step state step = .ok next -> Verified next ∧ Grown before.db next.db := by
    rintro state step next ⟨verified, grown⟩ fitting accepted
    rcases intakeStep_develops exact' verified fitting accepted with ⟨later, onward⟩
    exact ⟨later, grown.trans onward⟩
  exact Machine.run_invariant_of_admits preserved ⟨verified, Grown.refl before.db⟩ admitted

/-- What was verified first stays in every run whose deliveries say what the
stored webhooks without an owner event say. -/
theorem contents_kept_of_fitting (host : Host) (ingestion : IngestionPackage)
    (exact' : RefusesExactly ingestion) (db : Db) (beginning : Beginning db) (steps : List IntakeStep)
    (admitted : (intake host ingestion).Admits Fitting (Intake.starting db) steps) :
    ContentsKept host ingestion db steps where
  owners past rest split owner member := by
    subst split
    have verified := (verified_run exact' beginning.verified admitted.left).1
    rw [intakeRun, Machine.run_append]
    exact (verified_run exact' verified admitted.right).2.owners owner member
  faithful := (verified_run exact' beginning.verified admitted).1.faithful
  worked handlerId handler event stands isEvent := by
    have verified := (verified_run exact' beginning.verified admitted).1
    rcases (verified.handlers handlerId handler stands).event event isEvent with ⟨owner, member, rfl⟩
    rcases verified.stored owner member with ⟨row, rowMember, isKey⟩
    refine ⟨row, rowMember, isKey, ?_⟩
    intro stored isStored
    exact (verified.faithful owner member row rowMember isKey stored isStored).contents
  refused past handlerId moment input rest split free first isFirst differs handler stands := by
    subst split
    have verified := (verified_run exact' beginning.verified admitted.left).1
    have fitting : Fitting (intakeRun host ingestion db past) (.deliver handlerId moment input) :=
      admitted.right.1
    rw [intakeRun, Machine.run_concat] at stands
    revert stands
    apply Machine.attempt_elim (motive := fun next : Intake => next.handlers handlerId = some handler ->
      handler.event = none)
    · intro stands
      rw [intakeRun] at free
      rw [free] at stands
      cases stands
    · intro next accepted stands
      rcases deliver_develops exact' verified fitting accepted with ⟨⟨later, grown⟩, _, goes⟩
      by_contra works
      rcases Option.ne_none_iff_exists'.mp works with ⟨event, isEvent⟩
      rcases goes handler event stands isEvent with ⟨claimed, operational, commit, same⟩
      exact differs ((isFirst.claimed commit later.faithful grown).symm.trans same)

/-! ## A stored webhook without an owner event -/

theorem refusesExactly_reference : RefusesExactly Reference.ingestion := by
  intro Failure Store handle input before after result commits
  simp only [Reference.ingestion, Program.connect, Transaction.commits_bind] at commits
  rcases commits with ⟨claimed, middle, called, commits⟩
  split at commits
  · rename_i differs
    rcases Transaction.commits_pure.mp commits with ⟨rfl, rfl⟩
    exact Or.inr ⟨claimed, called, Or.inl ⟨rfl, differs⟩⟩
  · rename_i same
    rcases Transaction.commits_pure.mp commits with ⟨rfl, rfl⟩
    exact Or.inr ⟨claimed, called, Or.inr ⟨rfl, not_not.mp same⟩⟩

/-- A webhook that failed before the payments package owned its events. -/
def failedWebhook : WebhookEvent :=
  { receivedWebhook (Reference.moment "first" 10) paidDelivery with
    status := .failed
    lastErrorCode := some .processingRetryable }

def unowned : Db :=
  { Db.empty with webhookEvents := ⟨[failedWebhook], List.pairwise_singleton _ _⟩ }

theorem beginning_unowned : Beginning unowned where
  faithful owner member := absurd member (Table.not_mem_empty owner)
  stored owner member := absurd member (Table.not_mem_empty owner)

/-- The event with another amount and another fingerprint. -/
def otherDelivery : ProviderEventClaim :=
  { paidDelivery with
    id := "event:other"
    payloadHash := "payload:other"
    eventFingerprint := "event:other"
    amountMinor := some 1 }

/-- A delivery is refused as a conflict, and the stored webhook is retried. -/
def refusedAndRetried : List IntakeStep :=
  [.deliver 0 (Reference.moment "second" 20) otherDelivery,
    .advance 0 (Reference.moment "second" 21),
    .retry 1 failedWebhook.id,
    .advance 1 (Reference.moment "third" 30)]

/-- The retry works with the amount of the refused delivery. -/
theorem contents_not_kept_when_unowned :
    RefusesExactly Reference.ingestion ∧ Beginning unowned ∧
      ¬ ContentsKept Reference.host Reference.ingestion unowned refusedAndRetried := by
  refine ⟨refusesExactly_reference, beginning_unowned, ?_⟩
  intro kept
  have works : ((intakeRun Reference.host Reference.ingestion unowned refusedAndRetried).handlers 1).bind
      Handler.event = some (snapshot (ownerEvent (Reference.moment "second" 20) failedWebhook otherDelivery)) := by
    decide +kernel
  rcases Option.bind_eq_some_iff.mp works with ⟨handler, stands, isEvent⟩
  rcases kept.worked 1 handler _ stands isEvent with ⟨row, member, _, agrees⟩
  have data : forall row, row ∈ (intakeRun Reference.host Reference.ingestion unowned
      refusedAndRetried).db.webhookEvents.rows -> row.normalizedData = some (storedEvent paidDelivery) := by
    decide +kernel
  have same := agrees _ (data row member)
  exact absurd (congrArg EventContents.amountMinor same) (by decide)

/-- `Fitting`, as a check. -/
def fitting (intake : Intake) : IntakeStep -> Bool
  | .deliver _ _ input => intake.db.webhookEvents.rows.all fun row =>
      !decide (webhookKey row = (input.provider, input.eventId)) ||
        intake.db.payments.providerEvents.rows.any (fun owner =>
          ownerKey owner = (input.provider, input.eventId)) ||
        row.normalizedData.all fun stored => deliveredContents input = storedContents stored
  | _ => true

theorem fitting_spec {intake : Intake} (checked : fitting intake step = true) : Fitting intake step := by
  cases step with
  | deliver handlerId moment input =>
    simp only [fitting, List.all_eq_true, Bool.or_eq_true, Bool.not_eq_true', decide_eq_false_iff_not,
      List.any_eq_true, decide_eq_true_eq] at checked
    intro row member isKey without stored isStored
    rcases checked row member with (other | ⟨owner, ownerMember, sameKey⟩) | agrees
    · exact absurd isKey other
    · exact absurd sameKey (without owner ownerMember)
    · rw [isStored] at agrees
      exact of_decide_eq_true agrees
  | retry handlerId webhookId => trivial
  | sweep handlerId webhookId => trivial
  | advance handlerId moment => trivial
  | abort handlerId code retryable => trivial
  | crash handlerId => trivial
  | acknowledge webhookId => trivial
  | transaction transaction => trivial

/-- The retry comes first, then the delivery that is refused. -/
def retriedAndRefused : List IntakeStep :=
  [.retry 1 failedWebhook.id,
    .advance 1 (Reference.moment "second" 20),
    .deliver 0 (Reference.moment "third" 30) otherDelivery,
    .advance 0 (Reference.moment "third" 31),
    .advance 1 (Reference.moment "second" 32),
    .deliver 2 (Reference.moment "fourth" 40) paidDelivery]

theorem contents_kept_of_fitting_retried_and_refused :
    (intakeRun Reference.host Reference.ingestion unowned retriedAndRefused).db.payments.providerEvents.rows.map
        PaymentProviderEvent.amountMinor = [some 1000] ∧
      ContentsKept Reference.host Reference.ingestion unowned retriedAndRefused := by
  refine ⟨by decide +kernel, ?_⟩
  apply contents_kept_of_fitting Reference.host Reference.ingestion refusesExactly_reference unowned
    beginning_unowned
  have checked : (intake Reference.host Reference.ingestion).Admits
      (fun intake step => fitting intake step = true) (Intake.starting unowned) retriedAndRefused := by
    decide +kernel
  exact checked.mono fun _ _ => fitting_spec

end Storefront
end DigitalSolutions
