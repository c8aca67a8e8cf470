import DigitalSolutions.Storefront.WebhookIntake

namespace DigitalSolutions
namespace Storefront

open Foundation Persistence Platform Entitlements Orders Payments

/-!
# No webhook is lost while the handlers stay alive

A row in state `received` is refused by a redelivery, by the retry and by the
sweep alike, so somebody has to hold it.  While no handler stops between
setting a row to `received` and answering it, somebody does.  A handler that
stops there leaves a row that nothing ever takes up again.
-/

variable {host : Host} {before after : Intake} {step : IntakeStep}

section Turns

variable {handlerId : Nat} {ingestion : IngestionPackage} {moment : Moment}
variable {table : Table WebhookEvent} {event : VerifiedEvent} {next : Option Handler}
variable {input : ProviderEventClaim} {claimed : ProviderEventClaimResult}
variable {row operational : WebhookEvent} {handler : Handler} {db stored : Db} {key : EventKey}

theorem webhookKey_of_terms {left right : WebhookEvent}
    (same : webhookTerms left = webhookTerms right) : webhookKey left = webhookKey right := by
  simp only [webhookTerms, Prod.mk.injEq] at same
  simp only [webhookKey, same]

theorem webhookId_of_terms {left right : WebhookEvent}
    (same : webhookTerms left = webhookTerms right) : left.id = right.id := by
  simp only [webhookTerms, Prod.mk.injEq] at same
  exact same.1

/-- A row is found again by its key. -/
theorem row_eq_of_key {left right : WebhookEvent} (inLeft : left ∈ table) (inRight : right ∈ table)
    (same : webhookKey left = webhookKey right) : left = right := by
  simp only [webhookKey, Prod.mk.injEq] at same
  have common : WebhookEvent.Key.event left.provider left.externalEventId ∈ Keyed.keys right := by
    simp [Keyed.keys, same.1, same.2]
  exact table.eq_of_common_key inLeft inRight (by simp [Keyed.keys]) common

theorem row_eq_of_id {left right : WebhookEvent} (inLeft : left ∈ table) (inRight : right ∈ table)
    (same : left.id = right.id) : left = right := by
  have common : WebhookEvent.Key.id left.id ∈ Keyed.keys right := by simp [Keyed.keys, same]
  exact table.eq_of_common_key inLeft inRight (by simp [Keyed.keys]) common

theorem Grounded.mono {first second : Table WebhookEvent} (same : SameRows first second)
    (grounded : Grounded first handler) : Grounded second handler := by
  intro key aims
  rcases grounded key aims with ⟨row, member, rowKey, rowId⟩
  rcases same.after member with ⟨later, laterMember, sameTerms⟩
  refine ⟨later, laterMember, (webhookKey_of_terms sameTerms).trans rowKey, ?_⟩
  intro webhookId refers
  exact (webhookId_of_terms sameTerms).trans (rowId webhookId refers)

/-! ## Soundness -/

/-- The part of soundness that is about the tables. -/
structure SoundTables (host : Host) (webhookEvents : Table WebhookEvent)
    (providerEvents : Table PaymentProviderEvent) : Prop where
  configured : forall row, row ∈ webhookEvents -> row.provider = host.environment.paymentProvider
  stored : forall row, row ∈ webhookEvents -> row.normalizedData.isSome = true
  owned : forall row, row ∈ webhookEvents -> Exists fun owner =>
    owner ∈ providerEvents ∧ ownerKey owner = webhookKey row
  known : forall owner, owner ∈ providerEvents -> Exists fun row =>
    row ∈ webhookEvents ∧ webhookKey row = ownerKey owner

theorem Sound.tables (sound : Sound host before) :
    SoundTables host before.db.webhookEvents before.db.payments.providerEvents :=
  ⟨sound.configured, sound.stored, sound.owned, sound.known⟩

/-- Tables stay sound when rows keep their terms and owners are only added. -/
theorem SoundTables.same {first second : Table WebhookEvent} {owners laterOwners : Table PaymentProviderEvent}
    (sound : SoundTables host first owners) (same : SameRows first second)
    (added : OwnersAdded second owners laterOwners) : SoundTables host second laterOwners where
  configured := by
    intro row member
    rcases same.before member with ⟨old, oldMember, sameTerms⟩
    have sameKey := webhookKey_of_terms sameTerms
    simp only [webhookKey, Prod.mk.injEq] at sameKey
    rw [← sameKey.1]
    exact sound.configured old oldMember
  stored := by
    intro row member
    rcases same.before member with ⟨old, oldMember, sameTerms⟩
    simp only [webhookTerms, Prod.mk.injEq] at sameTerms
    rw [← sameTerms.2.2.2]
    exact sound.stored old oldMember
  owned := by
    intro row member
    rcases same.before member with ⟨old, oldMember, sameTerms⟩
    rcases sound.owned old oldMember with ⟨owner, ownerMember, sameKey⟩
    exact ⟨owner, added.kept owner ownerMember, sameKey.trans (webhookKey_of_terms sameTerms)⟩
  known := by
    intro owner member
    rcases added.added owner member with old | known
    · rcases sound.known owner old with ⟨row, rowMember, sameKey⟩
      rcases same.after rowMember with ⟨later, laterMember, sameTerms⟩
      exact ⟨later, laterMember, (webhookKey_of_terms sameTerms).trans sameKey⟩
    · exact known

/-- Handlers stay grounded when the one that moved is. -/
private theorem grounded_update {later : Table WebhookEvent} {handlers : Nat -> Option Handler}
    (grounded : forall other handler, handlers other = some handler -> Grounded table handler)
    (rows : forall handler, Grounded table handler -> Grounded later handler)
    (moved : forall handler, next = some handler -> Grounded later handler) (other : Nat)
    (handler : Handler) (stands : Function.update handlers handlerId next other = some handler) :
    Grounded later handler := by
  by_cases same : other = handlerId
  · subst same
    rw [Function.update_self] at stands
    exact moved handler stands
  · rw [Function.update_of_ne same] at stands
    exact rows handler (grounded other handler stands)

private theorem finite_update {handlers : Nat -> Option Handler}
    (finite : Exists fun bound => forall other, bound ≤ other -> handlers other = none) :
    Exists fun bound => forall other, bound ≤ other ->
      Function.update handlers handlerId next other = none := by
  rcases finite with ⟨bound, none⟩
  refine ⟨max bound (handlerId + 1), fun other large => ?_⟩
  have different : other ≠ handlerId := by omega
  rw [Function.update_of_ne different]
  exact none other (by omega)

/-- A handler that processes an event is grounded in the row of the event. -/
private theorem grounded_processing (member : row ∈ table) (key : webhookKey row = eventKey event) :
    Grounded table (.processing event) := by
  intro aimed aims
  rw [Handler.target, Option.some.injEq] at aims
  exact ⟨row, member, key.trans aims, fun _ refers => nomatch refers⟩

/-- A step that keeps what the rows say and only adds owner events keeps
soundness, when the handler it moves is grounded. -/
private theorem Sound.same (sound : Sound host before)
    (same : SameRows before.db.webhookEvents after.db.webhookEvents)
    (owners : OwnersAdded after.db.webhookEvents before.db.payments.providerEvents
      after.db.payments.providerEvents)
    (handlers : after.handlers = Function.update before.handlers handlerId next)
    (moved : forall later, next = some later -> Grounded before.db.webhookEvents later) :
    Sound host after := by
  have tables := sound.tables.same same owners
  exact
    { configured := tables.configured
      stored := tables.stored
      owned := tables.owned
      known := tables.known
      grounded := by
        intro other handler stands
        rw [handlers] at stands
        exact grounded_update sound.grounded (fun _ => Grounded.mono same)
          (fun later moves => (moved later moves).mono same) other handler stands
      finite := by
        rw [handlers]
        exact finite_update sound.finite }

theorem Turn.sound (turn : Turn host before step after) (sound : Sound host before) : Sound host after := by
  cases turn with
  | created handlerId free event row inserted stored configured key owners owned handlers =>
    have grows : forall handler, Grounded before.db.webhookEvents handler ->
        Grounded after.db.webhookEvents handler := by
      intro handler grounded aimed aims
      rcases grounded aimed aims with ⟨old, member, facts⟩
      exact ⟨old, (Table.mem_insert inserted).mpr (Or.inl member), facts⟩
    have newMember : row ∈ after.db.webhookEvents := (Table.mem_insert inserted).mpr (Or.inr rfl)
    exact
      { configured := by
          intro other member
          rcases (Table.mem_insert inserted).mp member with old | rfl
          · exact sound.configured other old
          · exact configured
        stored := by
          intro other member
          rcases (Table.mem_insert inserted).mp member with old | rfl
          · exact sound.stored other old
          · exact stored
        owned := by
          intro other member
          rcases (Table.mem_insert inserted).mp member with old | rfl
          · rcases sound.owned other old with ⟨owner, ownerMember, sameKey⟩
            exact ⟨owner, owners.kept owner ownerMember, sameKey⟩
          · exact owned
        known := by
          intro owner member
          rcases owners.added owner member with old | known
          · rcases sound.known owner old with ⟨other, otherMember, sameKey⟩
            exact ⟨other, (Table.mem_insert inserted).mpr (Or.inl otherMember), sameKey⟩
          · exact known
        grounded := by
          intro other handler stands
          rw [handlers] at stands
          refine grounded_update sound.grounded grows ?_ other handler stands
          intro later moves
          cases moves
          exact grounded_processing newMember key
        finite := by
          rw [handlers]
          exact finite_update sound.finite }
  | moved handlerId next rows owners handlers holds grounded aims =>
    exact sound.same (rows.map Prod.fst) owners handlers grounded
  | reopened handlerId handler stands quiet webhookId refers event aims selected change rows selects
      receives keeps owners handlers =>
    refine sound.same (Table.sameColumn_update rows keeps) (by rw [owners]; exact OwnersAdded.same _ _)
      handlers ?_
    intro next moves
    cases moves
    rcases sound.grounded handlerId handler stands (eventKey event) aims with ⟨row, member, key, _⟩
    exact grounded_processing member key
  | answered handlerId handler stands event holds selected change rows selects answers keeps owners
      handlers =>
    refine sound.same (Table.sameColumn_update rows keeps) (by rw [owners]; exact OwnersAdded.same _ _)
      handlers ?_
    intro next impossible
    cases impossible
  | crashed handlerId isCrash db handlers =>
    refine sound.same (by rw [db]; exact Table.SameColumn.refl _ _)
      (by rw [db]; exact OwnersAdded.same _ _) handlers ?_
    intro next impossible
    cases impossible

/-! ## Every step is a turn -/

section Steps

/-- A claim either stores a new row, or finds one and leaves the rows alone. -/
theorem claimEvent_rows (commit : ClaimCommit moment input db claimed stored operational) :
    (claimed.created = true ∧
      db.webhookEvents.insert (receivedWebhook moment input) = some stored.webhookEvents ∧
      operational = receivedWebhook moment input) ∨
    (claimed.created = false ∧ stored.webhookEvents = db.webhookEvents) := by
  have rows := commit.webhookEvents
  have created := commit.created
  unfold Table.insertOrIgnore at rows created
  cases inserted : db.webhookEvents.insert (receivedWebhook moment input) with
  | none =>
    simp only [inserted] at rows created
    exact Or.inr ⟨by simpa using created, rows⟩
  | some table =>
    simp only [inserted] at rows created
    refine Or.inl ⟨by simpa using created, by rw [rows], ?_⟩
    have found := commit.found
    rw [rows, Table.lookup_insert inserted, if_pos (by simp [Keyed.keys, receivedWebhook])] at found
    exact (Option.some.inj found).symm

/-- The owner events after a claim, and the one of the claimed key. -/
theorem claimEvent_owners (commit : ClaimCommit moment input db claimed stored operational) :
    OwnersAdded stored.webhookEvents db.payments.providerEvents stored.payments.providerEvents ∧
      claimed.record ∈ stored.payments.providerEvents ∧
      ownerKey claimed.record = (input.provider, input.eventId) ∧
      operational ∈ stored.webhookEvents ∧
      webhookKey operational = (input.provider, input.eventId) := by
  have operationalMember := Table.lookup_mem _ commit.found
  have operationalKey := webhookKey_of_lookup commit.found
  have recordKey := ownerKey_of_lookup commit.record
  refine ⟨?_, Table.lookup_mem _ commit.record, recordKey, operationalMember, operationalKey⟩
  have owners := commit.providerEvents
  unfold insertOwnerEvent at owners
  split at owners
  · rw [Option.some.injEq] at owners
    rw [← owners]
    exact OwnersAdded.same _ _
  · exact
      { kept := fun event member => (Table.mem_insert owners).mpr (Or.inl member)
        added := by
          intro event member
          rcases (Table.mem_insert owners).mp member with old | rfl
          · exact Or.inl old
          · exact Or.inr ⟨operational, operationalMember, operationalKey⟩ }

/-- The stored event of a first delivery carries the fingerprint it came with. -/
theorem fingerprint_of_created (commit : ClaimCommit moment input db claimed stored operational)
    (known : forall owner, owner ∈ db.payments.providerEvents -> Exists fun row =>
      row ∈ db.webhookEvents ∧ webhookKey row = ownerKey owner)
    (inserted : db.webhookEvents.insert (receivedWebhook moment input) = some stored.webhookEvents)
    (isNew : operational = receivedWebhook moment input) :
    claimed.record.eventFingerprint = input.eventFingerprint := by
  have free : db.payments.providerEvents.lookup (.event input.provider input.eventId) = none := by
    rw [Table.lookup_eq_none]
    intro owner member occupied
    rcases known owner member with ⟨row, rowMember, sameKey⟩
    simp only [Keyed.keys, List.mem_cons, reduceCtorEq, PaymentProviderEvent.Key.event.injEq,
      List.not_mem_nil, or_false, false_or] at occupied
    simp only [webhookKey, ownerKey, Prod.mk.injEq] at sameKey
    have taken : WebhookEvent.Key.event input.provider input.eventId ∈ Keyed.keys row := by
      simp [Keyed.keys, occupied, sameKey]
    have absent := Table.lookup_eq_none_of_insert inserted
      (by simp [Keyed.keys, receivedWebhook] :
        WebhookEvent.Key.event input.provider input.eventId ∈
          Keyed.keys (receivedWebhook moment input))
    exact (db.webhookEvents.lookup_eq_none.mp absent row rowMember) taken
  have owners := commit.providerEvents
  unfold insertOwnerEvent at owners
  have ownerFree : db.payments.providerEvents.lookup
      (.event (ownerEvent moment operational input).provider
        (ownerEvent moment operational input).eventId) = none := free
  rw [ownerFree] at owners
  have record := commit.record
  rw [Table.lookup_insert owners, if_pos (by simp [Keyed.keys, ownerEvent]), Option.some.injEq] at record
  rw [← record, isNew]
  simp only [ownerEvent, operationalFingerprint, receivedWebhook, storedEvent, Option.bind_some]
  split
  · rename_i text isPresent
    exact (Option.some.inj (present_eq_some.mp isPresent).1).symm
  · rw [if_pos trivial]

/-- A step that leaves the rows alone and moves one handler that holds nothing. -/
private theorem moved_quietly {next : Handler}
    (rows : Table.SameColumn webhookState before.db.webhookEvents after.db.webhookEvents)
    (owners : OwnersAdded after.db.webhookEvents before.db.payments.providerEvents
      after.db.payments.providerEvents)
    (handlers : after.handlers = Function.update before.handlers handlerId (some next))
    (quiet : forall handler, before.handlers handlerId = some handler -> handler.held = none)
    (grounded : Grounded before.db.webhookEvents next)
    (aims : forall key, next.target = some key ->
      (Exists fun handler => before.handlers handlerId = some handler ∧ handler.target = some key) ∨
      Exists fun row => row ∈ before.db.webhookEvents ∧ webhookKey row = key ∧ row.status = .failed)
    (unheld : next.held = none) (uncommitted : committedKey host before step = none) :
    Turn host before step after := by
  refine .moved handlerId (some next) rows owners handlers ?_ ?_ ?_ ?_ uncommitted
  · intro handler key stands holds
    rw [quiet handler stands] at holds
    cases holds
  · rintro _ ⟨⟩
    exact grounded
  · rintro _ key ⟨⟩
    exact aims key
  · rintro _ key ⟨⟩ holds
    rw [unheld] at holds
    cases holds

/-- A handler that holds nothing stops, or none moves at all. -/
private theorem stopped_quietly
    (rows : Table.SameColumn webhookState before.db.webhookEvents after.db.webhookEvents)
    (owners : OwnersAdded after.db.webhookEvents before.db.payments.providerEvents
      after.db.payments.providerEvents)
    (handlers : after.handlers = Function.update before.handlers handlerId none)
    (quiet : forall handler, before.handlers handlerId = some handler -> handler.held = none)
    (uncommitted : committedKey host before step = none) : Turn host before step after := by
  refine .moved handlerId none rows owners handlers ?_ ?_ ?_ ?_ uncommitted
  · intro handler key stands holds
    rw [quiet handler stands] at holds
    cases holds
  · rintro _ ⟨⟩
  · rintro _ _ ⟨⟩
  · rintro _ _ ⟨⟩

/-- A handler goes on from the event it holds to the record of its failure. -/
private theorem failed_turn (stands : before.handlers handlerId = some (.processing event))
    (sound : Sound host before) (code : PaymentErrorCode) (retryable : Bool)
    (uncommitted : committedKey host before step = none) :
    Turn host before step (before.goTo handlerId (.failing event code retryable)) := by
  refine .moved handlerId (some (.failing event code retryable)) (Table.SameColumn.refl _ _)
    (OwnersAdded.same _ _) rfl ?_ ?_ ?_ ?_ uncommitted
  · intro handler key standsHandler holds
    rw [stands, Option.some.injEq] at standsHandler
    rw [← standsHandler] at holds
    exact ⟨_, rfl, holds⟩
  · rintro _ ⟨⟩ key aims
    exact sound.grounded handlerId _ stands key aims
  · rintro _ key ⟨⟩ aims
    exact Or.inl ⟨_, stands, aims⟩
  · rintro _ key ⟨⟩ holds
    exact ⟨_, stands, holds⟩

private theorem quiet_of_stands (stands : before.handlers handlerId = some handler)
    (quiet : handler.held = none) :
    forall other, before.handlers handlerId = some other -> other.held = none := by
  intro other standsOther
  rw [stands, Option.some.injEq] at standsOther
  rw [← standsOther]
  exact quiet

/-- A handler that is not processing an event commits none. -/
private theorem uncommitted_of_handler (stands : before.handlers handlerId = some handler)
    (elsewhere : forall event, handler ≠ .processing event) :
    committedKey host before (.advance handlerId moment) = none := by
  rw [committedKey, stands]
  cases handler with
  | processing event => exact absurd rfl (elsewhere event)
  | _ => rfl

private theorem deliver_turn (lawful : ingestion.Lawful) (sound : Sound host before)
    (free : before.handlers handlerId = none)
    (configured : input.provider = host.environment.paymentProvider) {result : IngestResult}
    (ran : ((ingestion.ingest input).connect (claimEvent moment)).Commits before.db result db) :
    Turn host before (.deliver handlerId moment input)
      { before with db, handlers := Function.update before.handlers handlerId (ingested input result) } := by
  have quiet : forall handler, before.handlers handlerId = some handler -> handler.held = none := by
    intro handler stands
    rw [free] at stands
    cases stands
  rcases lawful (claimEvent moment) input before.db db result ran with
    ⟨rfl, rfl⟩ | ⟨claimed, commits, answer⟩
  · exact stopped_quietly (Table.SameColumn.refl _ _) (OwnersAdded.same _ _) rfl quiet rfl
  rcases claimEvent_commits commits with ⟨operational, commit⟩
  rcases claimEvent_owners commit with ⟨owners, recordMember, recordKey, rowMember, rowKey⟩
  have snapshotKey : eventKey (snapshot claimed.record) = (input.provider, input.eventId) := recordKey
  rcases claimEvent_rows commit with ⟨created, inserted, isNew⟩ | ⟨existing, rows⟩
  · have sameFingerprint := fingerprint_of_created commit sound.known inserted isNew
    rw [created, if_pos rfl] at answer
    rcases answer with ⟨_, differs⟩ | rfl
    · exact absurd sameFingerprint differs
    · exact .created handlerId free (snapshot claimed.record) (receivedWebhook moment input) inserted
        rfl configured (by rw [snapshotKey]; rfl) owners
        ⟨claimed.record, recordMember, by rw [recordKey]; rfl⟩ rfl rfl rfl
  · have sameRows : Table.SameColumn webhookState before.db.webhookEvents db.webhookEvents := by
      rw [rows]
      exact Table.SameColumn.refl _ _
    rw [existing, if_neg Bool.false_ne_true] at answer
    rcases answer with ⟨rfl, _⟩ | rfl
    · exact moved_quietly sameRows owners rfl quiet (by rintro _ ⟨⟩) (by rintro _ ⟨⟩) rfl rfl
    · exact moved_quietly sameRows owners rfl quiet (by rintro _ ⟨⟩) (by rintro _ ⟨⟩) rfl rfl

/-- The statement that reads the row of a retry is a turn. -/
private theorem startRetry_turn {webhookId : Id} (opens : step.retries = some (handlerId, webhookId))
    (free : before.handlers handlerId = none) {webhook : WebhookEvent}
    (found : before.db.webhookEvents.lookup (.id webhookId) = some webhook)
    (admitted : retryable webhook = true) :
    Turn host before step (before.goTo handlerId (.restoring webhook)) := by
  have member := Table.lookup_mem _ found
  have failed : webhook.status = .failed := by
    simp only [retryable, Bool.and_eq_true, decide_eq_true_eq] at admitted
    exact admitted.1
  refine moved_quietly (Table.SameColumn.refl _ _) (OwnersAdded.same _ _) rfl ?_ ?_ ?_ rfl ?_
  · intro handler stands
    rw [free] at stands
    cases stands
  · intro key aims
    rw [Handler.target, Option.some.injEq] at aims
    refine ⟨webhook, member, aims, ?_⟩
    intro id refers
    exact Option.some.inj refers
  · intro key aims
    rw [Handler.target, Option.some.injEq] at aims
    exact Or.inr ⟨webhook, member, aims, failed⟩
  · cases step <;> first | rfl | cases opens

/-- A row whose status stays as it is. -/
private theorem sameState_update {selected : WebhookEvent -> Bool} {change : WebhookEvent -> WebhookEvent}
    {later : Table WebhookEvent}
    (rows : later.rows = table.rows.map (fun row => if selected row then change row else row))
    (keeps : forall row, webhookState (change row) = webhookState row) :
    Table.SameColumn webhookState table later :=
  Table.sameColumn_update rows keeps

/-- The events of two keys are one when the keys are. -/
private theorem key_selects (row : WebhookEvent) :
    (decide (row.provider = event.provider) && decide (row.externalEventId = event.eventId)) = true ↔
      webhookKey row = eventKey event := by
  simp only [Bool.and_eq_true, decide_eq_true_eq, webhookKey, eventKey, Prod.mk.injEq]

private theorem isSome_of_grounded (member : row ∈ table) (key : webhookKey row = eventKey event) :
    (table.lookup (.event event.provider event.eventId)).isSome = true := by
  simp only [webhookKey, eventKey, Prod.mk.injEq] at key
  have found : table.lookup (.event event.provider event.eventId) = some row :=
    table.lookup_of_mem member (by simp [Keyed.keys, key.1, key.2])
  rw [found]
  rfl

/-- Processing an event answers it or moves on to the record of its failure. -/
private theorem processing_turn (stands : before.handlers handlerId = some (.processing event))
    (sound : Sound host before) :
    Turn host before (.advance handlerId moment)
      (advance host moment handlerId before (.processing event)) := by
  rw [advance]
  cases run : (processVerifiedEvent host moment event).run before.db with
  | ok pair =>
    rcases pair with ⟨requests, db⟩
    rcases processVerifiedEvent_webhooks run with ⟨_, change, answers, keeps, rows⟩
    have owners : db.payments.providerEvents = before.db.payments.providerEvents := by
      rcases event_providerEvents (processVerifiedEvent_commits run) with same | ⟨_, same⟩
      · exact same.1
      · exact same
    refine .answered handlerId (.processing event) stands event rfl _ change rows key_selects ?_ keeps
      owners rfl ?_
    · intro row received
      rw [answers row] at received
      split at received <;> cases received
    · by_cases unknown : event.type = .unknown
      · refine Or.inr ⟨by simp only [committedKey, stands, run, unknown, if_true], fun row processed => ?_⟩
        rw [answers row, if_pos unknown] at processed
        cases processed
      · refine Or.inl ⟨by simp only [committedKey, stands, run, unknown, if_false], fun row => ?_⟩
        rw [answers row, if_neg unknown]
  | error failure =>
    exact failed_turn stands sound _ _ (by simp only [committedKey, stands, run])

/-- The record of a failure finds its row and answers the event. -/
private theorem failing_turn {code : PaymentErrorCode} {retryable : Bool}
    (stands : before.handlers handlerId = some (.failing event code retryable))
    (sound : Sound host before) :
    Turn host before (.advance handlerId moment)
      (advance host moment handlerId before (.failing event code retryable)) := by
  rcases sound.grounded handlerId _ stands (eventKey event) rfl with ⟨row, member, key, _⟩
  have configured : host.environment.paymentProvider = event.provider := by
    rw [← sound.configured row member]
    simp only [webhookKey, eventKey, Prod.mk.injEq] at key
    exact key.1
  have known := isSome_of_grounded member key
  rw [advance, configured]
  have recorded : (recordFailure moment event.provider event.eventId code retryable).Commits
      before.db.webhookEvents () _ := updateWebhook_of_known known
  rw [recorded]
  refine .answered handlerId (.failing event code retryable) stands event rfl _ _ rfl key_selects ?_
    (fun _ => rfl) rfl rfl (Or.inr ⟨uncommitted_of_handler stands (fun _ => Handler.noConfusion), ?_⟩)
  · intro row received
    cases received
  · intro row processed
    cases processed

/-- A retry finds the owner event of its row, or restores it. -/
private theorem restoring_turn {webhook : WebhookEvent}
    (stands : before.handlers handlerId = some (.restoring webhook)) (sound : Sound host before) :
    Turn host before (.advance handlerId moment)
      (advance host moment handlerId before (.restoring webhook)) := by
  have uncommitted : committedKey host before (.advance handlerId moment) = none :=
    uncommitted_of_handler stands (fun _ => Handler.noConfusion)
  have quiet := quiet_of_stands stands rfl
  rw [advance]
  cases run : (ownerEventForStoredWebhook webhook).run before.db.payments with
  | error failure =>
    exact stopped_quietly (Table.SameColumn.refl _ _) (OwnersAdded.same _ _) rfl quiet uncommitted
  | ok pair =>
    rcases pair with ⟨event, payments⟩
    have moves : eventKey event = webhookKey webhook ∧
        OwnersAdded before.db.webhookEvents before.db.payments.providerEvents
          payments.providerEvents := by
      rcases ownerEventForStoredWebhook_commits run with
        ⟨existing, found, rfl, rfl⟩ | ⟨_, stored, _, rfl, inserted, _⟩
      · exact ⟨ownerKey_of_lookup found, OwnersAdded.same _ _⟩
      · rcases sound.grounded handlerId _ stands (webhookKey webhook) rfl with ⟨row, member, key, _⟩
        refine ⟨rfl, ?_⟩
        exact
          { kept := fun owner old => (Table.mem_insert inserted).mpr (Or.inl old)
            added := by
              intro owner ownerMember
              rcases (Table.mem_insert inserted).mp ownerMember with old | rfl
              · exact Or.inl old
              · exact Or.inr ⟨row, member, key⟩ }
    refine moved_quietly (Table.SameColumn.refl _ _) moves.2 rfl quiet ?_ ?_ rfl uncommitted
    · intro key aims
      rw [Handler.target, moves.1] at aims
      exact sound.grounded handlerId _ stands key aims
    · intro key aims
      rw [Handler.target, moves.1] at aims
      exact Or.inl ⟨_, stands, aims⟩

/-- A repeated delivery looks at the row, and reopens it only when it failed. -/
private theorem checking_turn (stands : before.handlers handlerId = some (.checking event)) :
    Turn host before (.advance handlerId moment)
      (advance host moment handlerId before (.checking event)) := by
  have uncommitted : committedKey host before (.advance handlerId moment) = none :=
    uncommitted_of_handler stands (fun _ => Handler.noConfusion)
  have quiet := quiet_of_stands stands rfl
  rw [advance]
  cases found : before.db.webhookEvents.lookup (.event event.provider event.eventId) with
  | none => exact stopped_quietly (Table.SameColumn.refl _ _) (OwnersAdded.same _ _) rfl quiet uncommitted
  | some webhook =>
    by_cases failed : webhook.status = .failed
    · have member := Table.lookup_mem _ found
      have key : webhookKey webhook = eventKey event := webhookKey_of_lookup found
      simp only [failed, ne_eq, not_true_eq_false, if_false]
      refine moved_quietly (Table.SameColumn.refl _ _) (OwnersAdded.same _ _) rfl quiet ?_ ?_ rfl
        uncommitted
      · intro aimed aims
        rw [Handler.target, Option.some.injEq] at aims
        exact ⟨webhook, member, key.trans aims, fun _ refers => Option.some.inj refers⟩
      · intro aimed aims
        rw [Handler.target, Option.some.injEq] at aims
        exact Or.inr ⟨webhook, member, key.trans aims, failed⟩
    · simp only [failed, ne_eq, not_false_eq_true, if_true]
      exact stopped_quietly (Table.SameColumn.refl _ _) (OwnersAdded.same _ _) rfl quiet uncommitted

private theorem advance_turn (stands : before.handlers handlerId = some handler)
    (sound : Sound host before) :
    Turn host before (.advance handlerId moment) (advance host moment handlerId before handler) := by
  cases handler with
  | conflicting eventId =>
    exact stopped_quietly (sameState_update rfl (fun _ => rfl)) (OwnersAdded.same _ _) rfl
      (quiet_of_stands stands rfl) (uncommitted_of_handler stands (fun _ => Handler.noConfusion))
  | checking event => exact checking_turn stands
  | reopening webhookId event =>
    exact .reopened handlerId _ stands rfl webhookId rfl event rfl _ _ rfl (fun _ => decide_eq_true_iff)
      (fun _ => rfl) (fun _ => rfl) rfl rfl ⟨moment, rfl⟩
      (uncommitted_of_handler stands (fun _ => Handler.noConfusion)) rfl
  | restoring webhook => exact restoring_turn stands sound
  | reopeningStored webhookId event =>
    exact .reopened handlerId _ stands rfl webhookId rfl event rfl _ _ rfl (fun _ => decide_eq_true_iff)
      (fun _ => rfl) (fun _ => rfl) rfl rfl ⟨moment, rfl⟩
      (uncommitted_of_handler stands (fun _ => Handler.noConfusion)) rfl
  | processing event => exact processing_turn stands sound
  | failing event code retryable => exact failing_turn stands sound

/-- The other transactions touch neither webhook rows nor owner events. -/
theorem commit_webhooks {transaction : HostTransaction} {answer : Unit}
    (commits : (commit host transaction).Commits db answer stored)
    (elsewhere : ofHandlers transaction = false) :
    stored.webhookEvents = db.webhookEvents ∧
      stored.payments.providerEvents = db.payments.providerEvents := by
  have unhandled : ¬ ofHandlers transaction = true := by
    rw [elsewhere]
    exact Bool.false_ne_true
  cases commit_writes commits with
  | claimed handlers => exact absurd handlers unhandled
  | restored handlers => exact absurd handlers unhandled
  | processed handlers => exact absurd handlers unhandled
  | webhooks handlers => exact absurd handlers unhandled
  | consumed moment input result consumes => cases consumes <;> exact ⟨rfl, rfl⟩
  | created _ _ _ wrote => exact ⟨by rw [wrote], by rw [wrote]⟩
  | attempted _ wrote => exact ⟨by rw [wrote], by rw [wrote]⟩
  | cancelled _ _ _ _ wrote => exact ⟨by rw [wrote]; rfl, by rw [wrote]; rfl⟩
  | swept _ wrote => exact ⟨by rw [wrote]; rfl, by rw [wrote]; rfl⟩
  | paymentsOnly wrote => exact ⟨by rw [wrote], by rw [wrote]⟩
  | revealed _ _ _ _ _ _ wrote => exact ⟨by rw [wrote], by rw [wrote]⟩
  | leased _ _ _ _ wrote => exact ⟨by rw [wrote], by rw [wrote]⟩
  | deactivated _ _ _ _ wrote => exact ⟨by rw [wrote], by rw [wrote]⟩

/-- A step that touches no handler and keeps every status is a turn. -/
private theorem bystander_turn (sound : Sound host before)
    (rows : Table.SameColumn webhookState before.db.webhookEvents after.db.webhookEvents)
    (owners : after.db.payments.providerEvents = before.db.payments.providerEvents)
    (handlers : after.handlers = before.handlers) (uncommitted : committedKey host before step = none) :
    Turn host before step after := by
  rcases sound.finite with ⟨bound, free⟩
  have idle := free bound (le_refl bound)
  have unmoved : after.handlers = Function.update before.handlers bound none := by
    rw [handlers]
    exact update_none_of_free idle
  refine stopped_quietly rows ?_ unmoved ?_ uncommitted
  · rw [owners]
    exact OwnersAdded.same _ _
  · intro handler stands
    rw [idle] at stands
    cases stands

theorem intakeStep_turn (lawful : ingestion.Lawful) (sound : Sound host before)
    (accepted : (intake host ingestion).step before step = .ok after) :
    Turn host before step after := by
  cases intakeStep_moves accepted with
  | delivered handlerId moment input free configured result db ran =>
    exact deliver_turn lawful sound free configured ran
  | started _ handlerId webhookId opens free webhook found admitted =>
    exact startRetry_turn opens free found admitted
  | advanced handlerId moment handler stands => exact advance_turn stands sound
  | aborted handlerId code retryable event stands => exact failed_turn stands sound code retryable rfl
  | crashed handlerId => exact .crashed handlerId rfl rfl rfl
  | acknowledged webhookId => exact bystander_turn sound (sameState_update rfl (fun _ => rfl)) rfl rfl rfl
  | elsewhere transaction foreign db ran =>
    have same := commit_webhooks ran foreign
    refine bystander_turn sound ?_ same.2 rfl rfl
    change Table.SameColumn webhookState before.db.webhookEvents db.webhookEvents
    rw [same.1]
    exact Table.SameColumn.refl _ _

end Steps

/-! ## Somebody holds every received row -/

/-- A handler is processing the event of the row, or about to record that it
failed. -/
def Held (intake : Intake) (row : WebhookEvent) : Prop :=
  Exists fun handlerId => Exists fun handler =>
    intake.handlers handlerId = some handler ∧ handler.held = some (webhookKey row)

def Watched (intake : Intake) : Prop :=
  forall row, row ∈ intake.db.webhookEvents -> row.status = .received -> Held intake row

/-- The condition: a handler that stops holds no event. -/
def Surviving (intake : Intake) : IntakeStep -> Prop
  | .crash handlerId => forall handler, intake.handlers handlerId = some handler -> handler.held = none
  | _ => True

/-- A row held by a handler other than the one that moved is still held. -/
private theorem held_of_other {later : WebhookEvent}
    (handlers : after.handlers = Function.update before.handlers handlerId next) (held : Held before row)
    (sameKey : webhookKey later = webhookKey row)
    (moved : forall handler, before.handlers handlerId = some handler ->
      handler.held = some (webhookKey row) ->
      Exists fun next' => next = some next' ∧ next'.held = some (webhookKey row)) :
    Held after later := by
  rcases held with ⟨other, handler, stands, holds⟩
  by_cases same : other = handlerId
  · subst same
    rcases moved handler stands holds with ⟨next', isNext, holdsNext⟩
    refine ⟨other, next', ?_, by rw [sameKey, holdsNext]⟩
    rw [handlers, Function.update_self, isNext]
  · refine ⟨other, handler, ?_, by rw [sameKey, holds]⟩
    rw [handlers, Function.update_of_ne same, stands]

theorem Turn.watched (turn : Turn host before step after) (sound : Sound host before)
    (watched : Watched before) (survives : Surviving before step) : Watched after := by
  cases turn with
  | created handlerId free event row inserted stored configured key owners owned handlers =>
    intro other member received
    rcases (Table.mem_insert inserted).mp member with old | rfl
    · refine held_of_other handlers (watched other old received) rfl ?_
      intro handler stands
      rw [free] at stands
      cases stands
    · refine ⟨handlerId, .processing event, ?_, congrArg some key.symm⟩
      rw [handlers, Function.update_self]
  | moved handlerId next rows owners handlers holds grounded aims =>
    intro row member received
    rcases rows.before member with ⟨old, oldMember, sameState⟩
    simp only [webhookState, Prod.mk.injEq] at sameState
    have held := watched old oldMember (sameState.2.trans received)
    exact held_of_other handlers held (webhookKey_of_terms sameState.1).symm
      (fun handler stands holding => holds handler _ stands holding)
  | reopened handlerId handler stands quiet webhookId refers event aims selected change rows selects
      receives keeps owners handlers =>
    intro row member received
    rcases (Table.mem_of_rows rows).mp member with ⟨old, oldMember, became⟩
    by_cases chosen : selected old = true
    · rw [if_pos chosen] at became
      rcases sound.grounded handlerId handler stands _ aims with ⟨aimed, aimedMember, aimedKey, aimedId⟩
      have sameRow : old = aimed := row_eq_of_id oldMember aimedMember
        (((selects old).mp chosen).trans (aimedId webhookId refers).symm)
      have sameKey : webhookKey row = eventKey event := by
        rw [← became, webhookKey_of_terms (keeps old), sameRow, aimedKey]
      refine ⟨handlerId, .processing event, ?_, congrArg some sameKey.symm⟩
      rw [handlers, Function.update_self]
    · rw [if_neg chosen] at became
      subst became
      refine held_of_other handlers (watched old oldMember received) rfl ?_
      intro other standsOther holds
      rw [stands, Option.some.injEq] at standsOther
      rw [← standsOther, quiet] at holds
      cases holds
  | answered handlerId handler stands event holds selected change rows selects answers keeps owners
      handlers =>
    intro row member received
    rcases (Table.mem_of_rows rows).mp member with ⟨old, oldMember, became⟩
    by_cases chosen : selected old = true
    · rw [if_pos chosen] at became
      rw [← became] at received
      exact absurd received (answers old)
    · rw [if_neg chosen] at became
      subst became
      refine held_of_other handlers (watched old oldMember received) rfl ?_
      intro other standsOther holding
      rw [stands, Option.some.injEq] at standsOther
      rw [← standsOther, holds, Option.some.injEq] at holding
      exact absurd ((selects old).mpr holding.symm) chosen
  | crashed handlerId isCrash db handlers =>
    subst isCrash
    intro row member received
    rw [db] at member
    refine held_of_other handlers (watched row member received) rfl ?_
    intro handler stands holding
    rw [survives handler stands] at holding
    cases holding

/-! ## Runs -/

theorem sound_opening : Sound host Intake.opening where
  configured := fun _ member => absurd member (Table.not_mem_empty _)
  stored := fun _ member => absurd member (Table.not_mem_empty _)
  owned := fun _ member => absurd member (Table.not_mem_empty _)
  known := fun _ member => absurd member (Table.not_mem_empty _)
  grounded := by
    intro handlerId handler stands
    cases stands
  finite := ⟨0, fun _ _ => rfl⟩

theorem sound_run (lawful : ingestion.Lawful) {state : Intake} (sound : Sound host state)
    (steps : List IntakeStep) :
    Sound host ((intake host ingestion).run state steps) :=
  Machine.run_invariant
    (fun _ _ _ sound accepted => (intakeStep_turn lawful sound accepted).sound sound) sound steps

/-- Redeliveries, retries and sweeps, and the statements they lead to. -/
def IntakeStep.door : IntakeStep -> Bool
  | .deliver .. | .retry .. | .sweep .. | .advance .. => true
  | _ => false

/-- Some redelivery, retry or sweep gets the event processed. -/
def TakenUp (host : Host) (ingestion : IngestionPackage) (state : Intake) (row : WebhookEvent) : Prop :=
  Exists fun steps : List IntakeStep => (forall step, step ∈ steps -> step.door = true) ∧
    Held ((intake host ingestion).run state steps) row

/-- An acknowledged duplicate has a row. -/
def Known (state : Intake) : Prop :=
  forall key, key ∈ state.duplicates ->
    Exists fun row => row ∈ state.db.webhookEvents ∧ webhookKey row = key

/-- Every stored event is finished, is held by a handler, or is in a state
from which a door takes it up. -/
structure NoneLost (host : Host) (ingestion : IngestionPackage) (state : Intake) : Prop where
  known : Known state
  kept : forall row, row ∈ state.db.webhookEvents ->
    (row.status = .processed ∨ row.status = .ignored) ∨ Held state row ∨
      TakenUp host ingestion state row

/-- The retry door takes every failed row. -/
theorem takenUp_of_failed {state : Intake} (sound : Sound host state)
    (member : row ∈ state.db.webhookEvents) (failed : row.status = .failed) (moment : Moment) :
    TakenUp host ingestion state row := by
  rcases sound.finite with ⟨handlerId, finite⟩
  have free := finite handlerId (le_refl handlerId)
  rcases sound.owned row member with ⟨owner, ownerMember, ownerKeyed⟩
  have found : state.db.webhookEvents.lookup (.id row.id) = some row :=
    Table.lookup_of_mem _ member (by simp [Keyed.keys])
  have owned : state.db.payments.providerEvents.lookup (.event row.provider row.externalEventId) =
      some owner := by
    simp only [ownerKey, webhookKey, Prod.mk.injEq] at ownerKeyed
    exact Table.lookup_of_mem _ ownerMember (by simp [Keyed.keys, ownerKeyed])
  have admitted : retryable row = true := by simp [retryable, failed, sound.stored row member]
  refine ⟨[.retry handlerId row.id, .advance handlerId moment, .advance handlerId moment], ?_, ?_⟩
  · intro step isStep
    simp only [List.mem_cons, List.not_mem_nil, or_false] at isStep
    rcases isStep with rfl | rfl | rfl <;> rfl
  -- The three statements of the retry up to the point where it holds the row.
  have started : (intake host ingestion).step state (.retry handlerId row.id) =
      .ok (state.goTo handlerId (.restoring row)) := by
    change intakeStep host ingestion state (.retry handlerId row.id) = _
    rw [intakeStep, free, if_neg (by simp), startRetry, found]
    simp only [admitted, Bool.true_eq_false, if_false]
  have restored : (ownerEventForStoredWebhook row).run state.db.payments =
      .ok (snapshot owner, state.db.payments) := by
    change (ownerEventForStoredWebhook row).Commits _ _ _
    unfold ownerEventForStoredWebhook
    rw [Transaction.commits_bind]
    refine ⟨_, _, Transaction.commits_get.mpr ⟨rfl, rfl⟩, ?_⟩
    rw [owned]
    exact Transaction.commits_pure.mpr ⟨rfl, rfl⟩
  let waiting := (state.goTo handlerId (.restoring row)).goTo handlerId
    (.reopeningStored row.id (snapshot owner))
  have second : (intake host ingestion).step (state.goTo handlerId (.restoring row))
      (.advance handlerId moment) = .ok waiting := by
    change intakeStep host ingestion _ (.advance handlerId moment) = _
    rw [intakeStep]
    simp only [Intake.goTo, Function.update_self, advance, restored]
    rfl
  have third : (intake host ingestion).step waiting (.advance handlerId moment) =
      .ok (advance host moment handlerId waiting (.reopeningStored row.id (snapshot owner))) := by
    change intakeStep host ingestion _ (.advance handlerId moment) = _
    rw [intakeStep]
    simp only [waiting, Intake.goTo, Function.update_self]
  simp only [Machine.run_cons, Machine.run_nil, Machine.attempt_ok started, Machine.attempt_ok second,
    Machine.attempt_ok third]
  refine ⟨handlerId, .processing (snapshot owner), ?_, ?_⟩
  · simp only [advance, Intake.goTo, Function.update_self]
  · exact congrArg some ownerKeyed

/-- A duplicate is acknowledged only for an event that has a row. -/
theorem intakeStep_duplicates (accepted : (intake host ingestion).step before step = .ok after) :
    after.duplicates = before.duplicates ∨ Exists fun row => row ∈ before.db.webhookEvents ∧
      after.duplicates = webhookKey row :: before.duplicates := by
  cases intakeStep_moves accepted with
  | advanced handlerId moment handler stands =>
    cases handler with
    | checking event =>
      rw [advance]
      split
      · exact Or.inl rfl
      · rename_i row found
        split
        · exact Or.inr ⟨row, Table.lookup_mem _ found, by rw [webhookKey_of_lookup found]⟩
        · exact Or.inl rfl
    | restoring webhook => rw [advance]; split <;> exact Or.inl rfl
    | processing event => rw [advance]; split <;> exact Or.inl rfl
    | failing event code retryable => rw [advance]; split <;> exact Or.inl rfl
    | _ => exact Or.inl rfl
  | _ => exact Or.inl rfl

/-- The key of a row is never lost. -/
theorem Turn.keys (turn : Turn host before step after) (member : row ∈ before.db.webhookEvents) :
    Exists fun later => later ∈ after.db.webhookEvents ∧ webhookKey later = webhookKey row := by
  cases turn with
  | created _ _ _ _ inserted => exact ⟨row, (Table.mem_insert inserted).mpr (Or.inl member), rfl⟩
  | moved _ _ rows =>
    rcases rows.after member with ⟨later, laterMember, sameState⟩
    simp only [webhookState, Prod.mk.injEq] at sameState
    exact ⟨later, laterMember, webhookKey_of_terms sameState.1⟩
  | reopened _ _ _ _ _ _ _ _ _ _ rows _ _ keeps =>
    rcases (Table.sameColumn_update rows keeps).after member with ⟨later, laterMember, sameTerms⟩
    exact ⟨later, laterMember, webhookKey_of_terms sameTerms⟩
  | answered _ _ _ _ _ _ _ rows _ _ keeps =>
    rcases (Table.sameColumn_update rows keeps).after member with ⟨later, laterMember, sameTerms⟩
    exact ⟨later, laterMember, webhookKey_of_terms sameTerms⟩
  | crashed _ _ db => exact ⟨row, by rw [db]; exact member, rfl⟩

theorem known_step (lawful : ingestion.Lawful) (sound : Sound host before) (known : Known before)
    (accepted : (intake host ingestion).step before step = .ok after) : Known after := by
  have turn := intakeStep_turn lawful sound accepted
  have earlier : forall key, key ∈ before.duplicates ->
      Exists fun row => row ∈ after.db.webhookEvents ∧ webhookKey row = key := by
    intro key member
    rcases known key member with ⟨row, rowMember, rowKey⟩
    rcases turn.keys rowMember with ⟨later, laterMember, sameKey⟩
    exact ⟨later, laterMember, sameKey.trans rowKey⟩
  intro key member
  rcases intakeStep_duplicates accepted with same | ⟨row, rowMember, grown⟩
  · rw [same] at member
    exact earlier key member
  · rw [grown] at member
    rcases List.mem_cons.mp member with rfl | old
    · exact turn.keys rowMember
    · exact earlier key old

/-- In every run in which no handler stops while it holds an event, no stored
event is lost. -/
theorem none_lost_of_surviving (host : Host) (ingestion : IngestionPackage)
    (lawful : ingestion.Lawful) (steps : List IntakeStep)
    (admitted : (intake host ingestion).Admits Surviving Intake.opening steps) :
    NoneLost host ingestion ((intake host ingestion).run Intake.opening steps) := by
  have keeps : forall state step next, (Sound host state ∧ Known state) ∧ Watched state ->
      Surviving state step -> (intake host ingestion).step state step = .ok next ->
      (Sound host next ∧ Known next) ∧ Watched next := by
    rintro state step next ⟨⟨sound, known⟩, watched⟩ survives accepted
    have turn := intakeStep_turn lawful sound accepted
    exact ⟨⟨turn.sound sound, known_step lawful sound known accepted⟩,
      turn.watched sound watched survives⟩
  have opening : (Sound host Intake.opening ∧ Known Intake.opening) ∧ Watched Intake.opening :=
    ⟨⟨sound_opening, fun _ member => absurd member List.not_mem_nil⟩,
      fun _ member => absurd member (Table.not_mem_empty _)⟩
  rcases Machine.run_invariant_of_admits keeps opening admitted with ⟨⟨sound, known⟩, watched⟩
  refine ⟨known, ?_⟩
  intro row member
  cases status : row.status with
  | received => exact Or.inr (Or.inl (watched row member status))
  | processed => exact Or.inl (Or.inl rfl)
  | ignored => exact Or.inl (Or.inr rfl)
  | failed => exact Or.inr (Or.inr (takenUp_of_failed sound member status ⟨0, fun _ => ""⟩))

instance (state : Intake) (step : IntakeStep) : Decidable (Surviving state step) :=
  match step with
  | .crash handlerId =>
    match stands : state.handlers handlerId with
    | none => isTrue (by intro handler other; rw [stands] at other; cases other)
    | some handler =>
      if quiet : handler.held = none then
        isTrue (by intro other known; rw [stands] at known; cases known; exact quiet)
      else isFalse (fun survives => quiet (survives handler stands))
  | .deliver .. | .retry .. | .sweep .. | .advance .. | .abort .. | .acknowledge _ | .transaction _ =>
    isTrue trivial

def paidDelivery : ProviderEventClaim := Reference.delivery "paid" .paymentPaid "a" "pay" 9

/-- A delivery whose order does not exist fails, and a redelivery takes the
event up again; a handler that has nothing to do stops in between. -/
def redelivered : List IntakeStep :=
  [.deliver 0 (Reference.moment "first" 10) paidDelivery,
    .advance 0 (Reference.moment "first" 11),
    .advance 0 (Reference.moment "first" 12),
    .crash 0,
    .deliver 1 (Reference.moment "second" 20) paidDelivery,
    .advance 1 (Reference.moment "second" 21),
    .advance 1 (Reference.moment "second" 22)]

theorem none_lost_in_redelivered :
    NoneLost Reference.host Reference.ingestion
      ((intake Reference.host Reference.ingestion).run Intake.opening redelivered) :=
  none_lost_of_surviving Reference.host Reference.ingestion Reference.ingestion_lawful redelivered
    (by decide +kernel)

end Turns

/-! ## Which handler moves -/

/-- The handler that a step is about. -/
def IntakeStep.handlerId : IntakeStep -> Option Nat
  | .deliver handlerId .. | .retry handlerId _ | .sweep handlerId _ | .advance handlerId _
  | .abort handlerId .. | .crash handlerId => some handlerId
  | .acknowledge _ | .transaction _ => none

theorem advance_handlers {moment : Moment} {handlerId other : Nat} (different : other ≠ handlerId)
    (intake : Intake) (handler : Handler) :
    (advance host moment handlerId intake handler).handlers other = intake.handlers other := by
  have stops : (intake.stop handlerId).handlers other = intake.handlers other :=
    Function.update_of_ne different _ _
  have goes : forall next, (intake.goTo handlerId next).handlers other = intake.handlers other :=
    fun next => Function.update_of_ne different _ _
  cases handler with
  | conflicting eventId => exact stops
  | checking event =>
    rw [advance]
    split
    · exact stops
    · split
      · exact stops
      · exact goes _
  | reopening webhookId event => exact goes _
  | restoring webhook =>
    rw [advance]
    split
    · exact stops
    · exact goes _
  | reopeningStored webhookId event => exact goes _
  | processing event =>
    rw [advance]
    split
    · exact stops
    · exact goes _
  | failing event code retryable =>
    rw [advance]
    split
    · exact stops
    · exact stops

/-- A step moves no handler but its own. -/
theorem intakeStep_handlers {ingestion : IngestionPackage} {other : Nat}
    (accepted : (intake host ingestion).step before step = .ok after)
    (absent : step.handlerId ≠ some other) : after.handlers other = before.handlers other := by
  have different : forall handlerId, step.handlerId = some handlerId -> other ≠ handlerId := by
    rintro handlerId named rfl
    exact absent named
  cases intakeStep_moves accepted with
  | delivered handlerId => exact Function.update_of_ne (different handlerId rfl) _ _
  | started _ handlerId webhookId opens =>
    refine Function.update_of_ne (different handlerId ?_) _ _
    cases step <;> cases opens <;> rfl
  | advanced handlerId moment handler => exact advance_handlers (different handlerId rfl) before handler
  | aborted handlerId => exact Function.update_of_ne (different handlerId rfl) _ _
  | crashed handlerId => exact Function.update_of_ne (different handlerId rfl) _ _
  | acknowledged webhookId => rfl
  | elsewhere transaction => rfl

/-- A handler that no step of a run is about does not move. -/
theorem run_handlers (ingestion : IngestionPackage) {other : Nat} (state : Intake) (steps : List IntakeStep)
    (absent : forall step, step ∈ steps -> step.handlerId ≠ some other) :
    ((intake host ingestion).run state steps).handlers other = state.handlers other := by
  have only : (intake host ingestion).Admits (fun _ step => step.handlerId ≠ some other) state steps := by
    induction steps generalizing state with
    | nil => trivial
    | cons step rest inductionHypothesis =>
      exact ⟨absent step List.mem_cons_self,
        inductionHypothesis _ (fun later member => absent later (List.mem_cons_of_mem _ member))⟩
  have keeps : forall now step next, now.handlers other = state.handlers other ->
      step.handlerId ≠ some other -> (intake host ingestion).step now step = .ok next ->
      next.handlers other = state.handlers other := by
    intro now step next same apart accepted
    exact (intakeStep_handlers accepted apart).trans same
  exact Machine.run_invariant_of_admits keeps rfl only

/-! ## What a crash leaves behind -/

/-- A received row that no handler aims at. -/
def Stuck (key : EventKey) (state : Intake) : Prop :=
  (Exists fun row => row ∈ state.db.webhookEvents ∧ webhookKey row = key ∧ row.status = .received) ∧
  forall handlerId handler, state.handlers handlerId = some handler -> handler.target ≠ some key

private theorem targets_update {key : EventKey} {handlerId : Nat} {next : Option Handler}
    (handlers : after.handlers = Function.update before.handlers handlerId next)
    (others : forall other handler, before.handlers other = some handler -> handler.target ≠ some key)
    (moved : forall handler, next = some handler -> handler.target ≠ some key) (other : Nat)
    (handler : Handler) (stands : after.handlers other = some handler) :
    handler.target ≠ some key := by
  rw [handlers] at stands
  by_cases same : other = handlerId
  · subst same
    rw [Function.update_self] at stands
    exact moved handler stands
  · rw [Function.update_of_ne same] at stands
    exact others other handler stands

/-- Whatever happens next, a stuck event stays stuck. -/
theorem Turn.stuck (turn : Turn host before step after) {key : EventKey} (stuck : Stuck key before) :
    Stuck key after := by
  rcases stuck with ⟨⟨row, member, rowKey, received⟩, targets⟩
  cases turn with
  | created handlerId free event new inserted stored configured newKey owners owned handlers =>
    have newMember : new ∈ after.db.webhookEvents := (Table.mem_insert inserted).mpr (Or.inr rfl)
    refine ⟨⟨row, (Table.mem_insert inserted).mpr (Or.inl member), rowKey, received⟩, ?_⟩
    refine targets_update handlers targets ?_
    intro handler moves aims
    cases moves
    rw [Handler.target, Option.some.injEq] at aims
    have sameKey : webhookKey row = webhookKey new := rowKey.trans (aims.symm.trans newKey.symm)
    have taken : WebhookEvent.Key.event row.provider row.externalEventId ∈ Keyed.keys new := by
      simp only [webhookKey, Prod.mk.injEq] at sameKey
      simp [Keyed.keys, sameKey]
    have absent := Table.lookup_eq_none_of_insert inserted taken
    exact (before.db.webhookEvents.lookup_eq_none.mp absent row member) (by simp [Keyed.keys])
  | moved handlerId next rows owners handlers holds grounded aims =>
    rcases rows.after member with ⟨later, laterMember, sameState⟩
    simp only [webhookState, Prod.mk.injEq] at sameState
    refine ⟨⟨later, laterMember, (webhookKey_of_terms sameState.1).trans rowKey,
      sameState.2.trans received⟩, ?_⟩
    refine targets_update handlers targets ?_
    intro handler moves aimed
    rcases aims handler key moves aimed with ⟨old, stands, oldAims⟩ | ⟨failed, inTable, failedKey, status⟩
    · exact targets handlerId old stands oldAims
    · rw [row_eq_of_key inTable member (failedKey.trans rowKey.symm), received] at status
      cases status
  | reopened handlerId handler stands quiet webhookId refers event aims selected change rows selects
      receives keeps owners handlers =>
    refine ⟨⟨if selected row then change row else row, ?_, ?_, ?_⟩, ?_⟩
    · exact (Table.mem_of_rows rows).mpr ⟨row, member, rfl⟩
    · split
      · exact (webhookKey_of_terms (keeps row)).trans rowKey
      · exact rowKey
    · split
      · exact receives row
      · exact received
    · refine targets_update handlers targets ?_
      intro later moves aimed
      cases moves
      exact targets handlerId handler stands (aims.trans aimed)
  | answered handlerId handler stands event holds selected change rows selects answers keeps owners
      handlers =>
    have aims := Handler.target_of_held holds
    have passedBy : ¬ selected row = true := by
      intro chosen
      have sameKey := (selects row).mp chosen
      rw [← sameKey, rowKey] at aims
      exact targets handlerId handler stands aims
    refine ⟨⟨row, (Table.mem_of_rows rows).mpr ⟨row, member, if_neg passedBy⟩, rowKey, received⟩, ?_⟩
    refine targets_update handlers targets ?_
    intro later moves
    cases moves
  | crashed handlerId isCrash db handlers =>
    refine ⟨⟨row, by rw [db]; exact member, rowKey, received⟩, ?_⟩
    refine targets_update handlers targets ?_
    intro later moves
    cases moves

/-- A stuck event is lost: no schedule from here ever gets it processed. -/
theorem not_noneLost_of_stuck {ingestion : IngestionPackage} (lawful : ingestion.Lawful)
    {state : Intake} (sound : Sound host state) {key : EventKey} (stuck : Stuck key state) :
    ¬ NoneLost host ingestion state := by
  have unheld : forall later, Stuck key later -> forall row, webhookKey row = key -> ¬ Held later row := by
    rintro later ⟨_, targets⟩ row rowKey ⟨handlerId, handler, stands, holds⟩
    rw [rowKey] at holds
    exact targets handlerId handler stands (Handler.target_of_held holds)
  intro kept
  rcases stuck with ⟨⟨row, member, rowKey, received⟩, targets⟩
  rcases kept.kept row member with finished | held | ⟨steps, _, held⟩
  · rw [received] at finished
    rcases finished with processed | ignored
    · cases processed
    · cases ignored
  · exact unheld state ⟨⟨row, member, rowKey, received⟩, targets⟩ row rowKey held
  · have keeps : forall state step next, Sound host state ∧ Stuck key state ->
        (intake host ingestion).step state step = .ok next -> Sound host next ∧ Stuck key next := by
      rintro state step next ⟨sound, stuck⟩ accepted
      have turn := intakeStep_turn lawful sound accepted
      exact ⟨turn.sound sound, turn.stuck stuck⟩
    have later := Machine.run_invariant keeps ⟨sound, ⟨⟨row, member, rowKey, received⟩, targets⟩⟩ steps
    exact unheld _ later.2 row rowKey held

/-- The process stops right after it has stored the event. -/
def stoppedDelivery : List IntakeStep :=
  [.deliver 0 (Reference.moment "first" 10) paidDelivery, .crash 0]

/-- The provider delivers the event again. -/
def secondDelivery : List IntakeStep :=
  [.deliver 1 (Reference.moment "second" 20) paidDelivery,
    .advance 1 (Reference.moment "second" 21)]

/-- After the stop the event is stored as received and no handler is left. -/
theorem stuck_after_stoppedDelivery :
    (forall handlerId, ((intake Reference.host Reference.ingestion).run Intake.opening
      stoppedDelivery).handlers handlerId = none) ∧
    Stuck ("mock", "paid")
      ((intake Reference.host Reference.ingestion).run Intake.opening stoppedDelivery) := by
  have gone : forall handlerId, ((intake Reference.host Reference.ingestion).run Intake.opening
      stoppedDelivery).handlers handlerId = none := by
    intro handlerId
    by_cases first : handlerId = 0
    · subst first
      decide +kernel
    · have absent : forall step, step ∈ stoppedDelivery -> step.handlerId ≠ some handlerId := by
        simpa [stoppedDelivery, IntakeStep.handlerId] using Ne.symm first
      rw [run_handlers Reference.ingestion Intake.opening stoppedDelivery absent]
      rfl
  have found : ((((intake Reference.host Reference.ingestion).run Intake.opening
      stoppedDelivery).db.webhookEvents.rows.find? fun row =>
        webhookKey row = ("mock", "paid") ∧ row.status = .received)).isSome = true := by
    decide +kernel
  rcases Option.isSome_iff_exists.mp found with ⟨row, isRow⟩
  have facts := List.find?_some isRow
  simp only [decide_eq_true_eq] at facts
  refine ⟨gone, ⟨row, List.mem_of_find?_eq_some isRow, facts⟩, ?_⟩
  intro handlerId handler stands
  rw [gone] at stands
  cases stands

theorem event_lost_after_stoppedDelivery :
    let reference := intake Reference.host Reference.ingestion
    (forall handlerId, (reference.run Intake.opening stoppedDelivery).handlers handlerId = none) ∧
    ¬ NoneLost Reference.host Reference.ingestion (reference.run Intake.opening stoppedDelivery) ∧
    ("mock", "paid") ∈ (reference.run Intake.opening (stoppedDelivery ++ secondDelivery)).duplicates ∧
    ¬ NoneLost Reference.host Reference.ingestion
      (reference.run Intake.opening (stoppedDelivery ++ secondDelivery)) := by
  intro reference
  rcases stuck_after_stoppedDelivery with ⟨gone, stuck⟩
  have sound : forall steps, Sound Reference.host (reference.run Intake.opening steps) :=
    sound_run Reference.ingestion_lawful sound_opening
  have later : Stuck ("mock", "paid")
      (reference.run Intake.opening (stoppedDelivery ++ secondDelivery)) := by
    have keeps : forall state step next,
        Sound Reference.host state ∧ Stuck ("mock", "paid") state ->
        reference.step state step = .ok next ->
        Sound Reference.host next ∧ Stuck ("mock", "paid") next := by
      rintro state step next ⟨sound, stuck⟩ accepted
      have turn := intakeStep_turn Reference.ingestion_lawful sound accepted
      exact ⟨turn.sound sound, turn.stuck stuck⟩
    rw [Machine.run_append]
    exact (Machine.run_invariant keeps ⟨sound stoppedDelivery, stuck⟩ secondDelivery).2
  refine ⟨gone, ?_, by decide +kernel, ?_⟩
  · exact not_noneLost_of_stuck Reference.ingestion_lawful (sound stoppedDelivery) stuck
  · exact not_noneLost_of_stuck Reference.ingestion_lawful
      (sound (stoppedDelivery ++ secondDelivery)) later

end Storefront
end DigitalSolutions
