import DigitalSolutions.Storefront.WebhookSafety

namespace DigitalSolutions
namespace Storefront

open Foundation Persistence Platform Orders Payments

/-!
# What the status of a stored webhook says

The status check of a redelivery or a retry and the reset of the row are two
statements, and the reset selects by the identifier alone.  While every reset
meets a row that is still `failed`, at most one handler holds an event, and
`processed` means that the effect has been committed.  A reset that meets a
row which another handler has answered in the meantime undoes that answer.
-/

variable {host : Host} {step : IntakeStep}

/-- The storefront together with the events whose effect has been committed. -/
structure Audit where
  intake : Intake
  committed : List EventKey

def Audit.opening : Audit := ⟨Intake.opening, []⟩

def auditStep (host : Host) (ingestion : IngestionPackage) (state : Audit) (step : IntakeStep) :
    Except TransactionError Audit :=
  match intakeStep host ingestion state.intake step with
  | .error failure => .error failure
  | .ok intake =>
    .ok ⟨intake, (committedKey host state.intake step).toList ++ state.committed⟩

def audit (host : Host) (ingestion : IngestionPackage) : Machine Audit IntakeStep TransactionError where
  step := auditStep host ingestion

/-- A committed event is `processed`, and a `processed` event is committed. -/
structure Truthful (state : Audit) : Prop where
  kept : forall key, key ∈ state.committed -> Exists fun row =>
    row ∈ state.intake.db.webhookEvents ∧ webhookKey row = key ∧ row.status = .processed
  earned : forall row, row ∈ state.intake.db.webhookEvents -> row.status = .processed ->
    webhookKey row ∈ state.committed

/-- The condition: a reset meets a row that is still `failed`. -/
def StillFailed (intake : Intake) : IntakeStep -> Prop
  | .advance handlerId _ =>
    forall handler, intake.handlers handlerId = some handler ->
      forall webhookId, handler.reopens = some webhookId ->
        forall row, row ∈ intake.db.webhookEvents.rows -> row.id = webhookId -> row.status = .failed
  | _ => True

/-- A held row is `received`, and one handler at most holds it. -/
structure Exclusive (intake : Intake) : Prop where
  received : forall handlerId handler, intake.handlers handlerId = some handler ->
    forall row, row ∈ intake.db.webhookEvents -> handler.held = some (webhookKey row) ->
      row.status = .received
  single : forall first firstHandler second secondHandler key,
    intake.handlers first = some firstHandler -> firstHandler.held = some key ->
    intake.handlers second = some secondHandler -> secondHandler.held = some key -> first = second

section Moves

variable {before after : Intake}

/-- Only handlers whose event is known to be unheld take up a new event. -/
theorem Exclusive.single_of_moved {handlerId : Nat} {next : Option Handler}
    (exclusive : Exclusive before)
    (handlers : after.handlers = Function.update before.handlers handlerId next)
    (unheld : forall later key, next = some later -> later.held = some key ->
      forall other handler, other ≠ handlerId -> before.handlers other = some handler ->
        handler.held ≠ some key)
    (first : Nat) (firstHandler : Handler) (second : Nat) (secondHandler : Handler) (key : EventKey)
    (standsFirst : after.handlers first = some firstHandler) (holdsFirst : firstHandler.held = some key)
    (standsSecond : after.handlers second = some secondHandler)
    (holdsSecond : secondHandler.held = some key) : first = second := by
  rcases eq_some_of_update handlers standsFirst with ⟨isFirst, nextFirst⟩ | ⟨otherFirst, oldFirst⟩
  · rcases eq_some_of_update handlers standsSecond with ⟨isSecond, _⟩ | ⟨otherSecond, oldSecond⟩
    · exact isFirst.trans isSecond.symm
    · exact absurd holdsSecond
        (unheld firstHandler key nextFirst holdsFirst second secondHandler otherSecond oldSecond)
  · rcases eq_some_of_update handlers standsSecond with ⟨isSecond, nextSecond⟩ | ⟨_, oldSecond⟩
    · exact absurd holdsFirst
        (unheld secondHandler key nextSecond holdsSecond first firstHandler otherFirst oldFirst)
    · exact exclusive.single first firstHandler second secondHandler key oldFirst holdsFirst oldSecond
        holdsSecond

/-- Nobody refers to an event before its row is there. -/
theorem not_target_of_insert {table later : Table WebhookEvent} {row : WebhookEvent}
    {handler : Handler} (inserted : table.insert row = some later) (grounded : Grounded table handler) :
    handler.target ≠ some (webhookKey row) := by
  intro aims
  rcases grounded (webhookKey row) aims with ⟨old, member, sameKey, _⟩
  have taken : WebhookEvent.Key.event old.provider old.externalEventId ∈ Keyed.keys row := by
    simp only [webhookKey, Prod.mk.injEq] at sameKey
    simp [Keyed.keys, sameKey]
  have absent := Table.lookup_eq_none_of_insert inserted taken
  exact (table.lookup_eq_none.mp absent old member) (by simp [Keyed.keys])

/-- The row that a reset is about to select is `failed`, so nobody holds it. -/
private theorem unheld_of_stillFailed {handlerId : Nat} {handler : Handler} {webhookId : Id}
    {key : EventKey} {moment : Moment} (sound : Sound host before) (exclusive : Exclusive before)
    (fresh : StillFailed before (.advance handlerId moment))
    (stands : before.handlers handlerId = some handler) (resets : handler.reopens = some webhookId)
    (refers : handler.webhookId = some webhookId) (aims : handler.target = some key) :
    (Exists fun row => row ∈ before.db.webhookEvents ∧ webhookKey row = key ∧ row.id = webhookId) ∧
    forall other holder, before.handlers other = some holder -> holder.held ≠ some key := by
  rcases sound.grounded handlerId handler stands key aims with ⟨row, member, sameKey, sameId⟩
  have failed : row.status = .failed :=
    fresh handler stands webhookId resets row member (sameId webhookId refers)
  refine ⟨⟨row, member, sameKey, sameId webhookId refers⟩, ?_⟩
  intro other holder standsOther holds
  have received := exclusive.received other holder standsOther row member (by rw [sameKey, holds])
  rw [failed] at received
  cases received

theorem Turn.exclusive (turn : Turn host before step after) (sound : Sound host before)
    (exclusive : Exclusive before) (fresh : StillFailed before step) : Exclusive after := by
  cases turn with
  | created handlerId free event row inserted stored configured key owners owned handlers received =>
    have newMember : row ∈ after.db.webhookEvents := (Table.mem_insert inserted).mpr (Or.inr rfl)
    constructor
    · intro other handler stands held member holds
      rcases (Table.mem_insert inserted).mp member with old | rfl
      · rcases eq_some_of_update handlers stands with ⟨_, next⟩ | ⟨_, standsBefore⟩
        · cases next
          rw [Handler.held, Option.some.injEq] at holds
          rw [row_eq_of_key member newMember (holds.symm.trans key.symm)]
          exact received
        · exact exclusive.received other handler standsBefore held old holds
      · exact received
    · refine exclusive.single_of_moved handlers ?_
      intro later aimed next holdsLater other handler different stands holds
      cases next
      rw [Handler.held, Option.some.injEq] at holdsLater
      rw [← holdsLater, ← key] at holds
      exact not_target_of_insert inserted (sound.grounded other handler stands)
        (Handler.target_of_held holds)
  | moved handlerId next rows owners handlers holds grounded aims heldBefore =>
    constructor
    · intro other handler stands row member holding
      rcases rows.before member with ⟨old, oldMember, sameState⟩
      simp only [webhookState, Prod.mk.injEq] at sameState
      rw [← webhookKey_of_terms sameState.1] at holding
      rw [← sameState.2]
      rcases eq_some_of_update handlers stands with ⟨_, isNext⟩ | ⟨_, standsBefore⟩
      · rcases heldBefore handler _ isNext holding with ⟨earlier, standsBefore, holdsBefore⟩
        exact exclusive.received handlerId earlier standsBefore old oldMember holdsBefore
      · exact exclusive.received other handler standsBefore old oldMember holding
    · refine exclusive.single_of_moved handlers ?_
      intro later key isNext holdsLater other handler different stands holding
      rcases heldBefore later key isNext holdsLater with ⟨earlier, standsBefore, holdsBefore⟩
      exact different
        (exclusive.single other handler handlerId earlier key stands holding standsBefore holdsBefore)
  | reopened handlerId handler stands quiet webhookId refers event aims selected change rows selects
      receives keeps owners handlers advances uncommitted resets =>
    rcases advances with ⟨moment, rfl⟩
    rcases unheld_of_stillFailed sound exclusive fresh stands resets refers aims with
      ⟨⟨aimed, aimedMember, aimedKey, aimedId⟩, unheld⟩
    constructor
    · intro other later standsLater row member holding
      rcases (Table.mem_of_rows rows).mp member with ⟨old, oldMember, became⟩
      by_cases chosen : selected old = true
      · rw [if_pos chosen] at became
        rw [← became]
        exact receives old
      · rw [if_neg chosen] at became
        subst became
        rcases eq_some_of_update handlers standsLater with ⟨_, next⟩ | ⟨_, standsBefore⟩
        · cases next
          rw [Handler.held, Option.some.injEq] at holding
          have isAimed := row_eq_of_key oldMember aimedMember (holding.symm.trans aimedKey.symm)
          rw [isAimed] at chosen
          exact absurd ((selects aimed).mpr aimedId) chosen
        · exact exclusive.received other later standsBefore old oldMember holding
    · refine exclusive.single_of_moved handlers ?_
      intro later key next holdsLater other holder different standsOther holding
      cases next
      rw [Handler.held] at holdsLater
      rw [← holdsLater] at holding
      exact unheld other holder standsOther holding
  | answered handlerId handler stands event holds selected change rows selects answers keeps owners
      handlers =>
    constructor
    · intro other later standsLater row member holding
      rcases eq_some_of_update handlers standsLater with ⟨_, next⟩ | ⟨different, standsBefore⟩
      · cases next
      · rcases (Table.mem_of_rows rows).mp member with ⟨old, oldMember, became⟩
        by_cases chosen : selected old = true
        · rw [if_pos chosen] at became
          rw [← became, webhookKey_of_terms (keeps old), (selects old).mp chosen] at holding
          exact absurd
            (exclusive.single other later handlerId handler _ standsBefore holding stands holds) different
        · rw [if_neg chosen] at became
          subst became
          exact exclusive.received other later standsBefore old oldMember holding
    · refine exclusive.single_of_moved handlers ?_
      intro later key next
      cases next
  | crashed handlerId isCrash db handlers =>
    constructor
    · intro other later standsLater row member holding
      rw [db] at member
      rcases eq_some_of_update handlers standsLater with ⟨_, next⟩ | ⟨_, standsBefore⟩
      · cases next
      · exact exclusive.received other later standsBefore row member holding
    · refine exclusive.single_of_moved handlers ?_
      intro later key next
      cases next

/-- One step keeps the statuses truthful. -/
theorem Turn.truthful {committed : List EventKey} (turn : Turn host before step after)
    (sound : Sound host before) (exclusive : Exclusive before) (fresh : StillFailed before step)
    (truthful : Truthful ⟨before, committed⟩) :
    Truthful ⟨after, (committedKey host before step).toList ++ committed⟩ := by
  cases turn with
  | created handlerId free event row inserted stored configured key owners owned handlers received
      uncommitted =>
    rw [uncommitted]
    constructor
    · intro aimed member
      rcases truthful.kept aimed member with ⟨old, oldMember, facts⟩
      exact ⟨old, (Table.mem_insert inserted).mpr (Or.inl oldMember), facts⟩
    · intro other member processed
      rcases (Table.mem_insert inserted).mp member with old | rfl
      · exact truthful.earned other old processed
      · rw [received] at processed
        cases processed
  | moved handlerId next rows owners handlers holds grounded aims heldBefore uncommitted =>
    rw [uncommitted]
    constructor
    · intro key member
      rcases truthful.kept key member with ⟨old, oldMember, oldKey, processed⟩
      rcases rows.after oldMember with ⟨later, laterMember, sameState⟩
      simp only [webhookState, Prod.mk.injEq] at sameState
      exact ⟨later, laterMember, (webhookKey_of_terms sameState.1).trans oldKey,
        sameState.2.trans processed⟩
    · intro row member processed
      rcases rows.before member with ⟨old, oldMember, sameState⟩
      simp only [webhookState, Prod.mk.injEq] at sameState
      have earned := truthful.earned old oldMember (sameState.2.trans processed)
      rw [webhookKey_of_terms sameState.1] at earned
      exact earned
  | reopened handlerId handler stands quiet webhookId refers event aims selected change rows selects
      receives keeps owners handlers advances uncommitted resets =>
    rcases advances with ⟨moment, rfl⟩
    rw [uncommitted]
    constructor
    · intro key member
      rcases truthful.kept key member with ⟨old, oldMember, oldKey, processed⟩
      have passedBy : ¬ selected old = true := by
        intro chosen
        have failed := fresh handler stands webhookId resets old oldMember ((selects old).mp chosen)
        rw [processed] at failed
        cases failed
      exact ⟨old, (Table.mem_of_rows rows).mpr ⟨old, oldMember, if_neg passedBy⟩, oldKey, processed⟩
    · intro row member processed
      rcases (Table.mem_of_rows rows).mp member with ⟨old, oldMember, became⟩
      by_cases chosen : selected old = true
      · rw [if_pos chosen] at became
        rw [← became, receives old] at processed
        cases processed
      · rw [if_neg chosen] at became
        exact became ▸ truthful.earned old oldMember (by rw [became]; exact processed)
  | answered handlerId handler stands event holds selected change rows selects answers keeps owners
      handlers ledger =>
    rcases ledger with ⟨isCommitted, processes⟩ | ⟨uncommitted, unprocessed⟩
    · rw [isCommitted]
      -- the answer keeps every row that has been processed already
      have kept : forall old key, old ∈ before.db.webhookEvents -> webhookKey old = key ->
          selected old = true ∨ old.status = .processed ->
          Exists fun row => row ∈ after.db.webhookEvents ∧ webhookKey row = key ∧
            row.status = .processed := by
        intro old key oldMember oldKey either
        by_cases chosen : selected old = true
        · exact ⟨change old, (Table.mem_of_rows rows).mpr ⟨old, oldMember, if_pos chosen⟩,
            (webhookKey_of_terms (keeps old)).trans oldKey, processes old⟩
        · rcases either with isChosen | processed
          · exact absurd isChosen chosen
          · exact ⟨old, (Table.mem_of_rows rows).mpr ⟨old, oldMember, if_neg chosen⟩, oldKey, processed⟩
      constructor
      · intro key member
        rcases List.mem_cons.mp member with rfl | member
        · rcases sound.grounded handlerId handler stands _ (Handler.target_of_held holds) with
            ⟨old, oldMember, oldKey, _⟩
          exact kept old _ oldMember oldKey (Or.inl ((selects old).mpr oldKey))
        · rcases truthful.kept key member with ⟨old, oldMember, oldKey, processed⟩
          exact kept old key oldMember oldKey (Or.inr processed)
      · intro row member processed
        rcases (Table.mem_of_rows rows).mp member with ⟨old, oldMember, became⟩
        by_cases chosen : selected old = true
        · rw [if_pos chosen] at became
          have sameKey : webhookKey row = eventKey event := by
            rw [← became, webhookKey_of_terms (keeps old)]
            exact (selects old).mp chosen
          exact List.mem_cons.mpr (Or.inl sameKey)
        · rw [if_neg chosen] at became
          subst became
          exact List.mem_cons.mpr (Or.inr (truthful.earned old oldMember processed))
    · rw [uncommitted]
      constructor
      · intro key member
        rcases truthful.kept key member with ⟨old, oldMember, oldKey, processed⟩
        have passedBy : ¬ selected old = true := by
          intro chosen
          have received := exclusive.received handlerId handler stands old oldMember
            (by rw [(selects old).mp chosen, holds])
          rw [processed] at received
          cases received
        exact ⟨old, (Table.mem_of_rows rows).mpr ⟨old, oldMember, if_neg passedBy⟩, oldKey, processed⟩
      · intro row member processed
        rcases (Table.mem_of_rows rows).mp member with ⟨old, oldMember, became⟩
        by_cases chosen : selected old = true
        · rw [if_pos chosen] at became
          rw [← became] at processed
          exact absurd processed (unprocessed old)
        · rw [if_neg chosen] at became
          exact became ▸ truthful.earned old oldMember (by rw [became]; exact processed)
  | crashed handlerId isCrash db handlers =>
    subst isCrash
    constructor
    · intro key member
      rw [db]
      exact truthful.kept key member
    · intro row member processed
      rw [db] at member
      exact truthful.earned row member processed

end Moves

/-- In every run in which every reset meets a row that is still `failed`, the
statuses of the stored webhooks are truthful. -/
theorem truthful_of_stillFailed (host : Host) (ingestion : IngestionPackage)
    (lawful : ingestion.Lawful) (steps : List IntakeStep)
    (admitted : (audit host ingestion).Admits (fun state => StillFailed state.intake) Audit.opening
      steps) :
    Truthful ((audit host ingestion).run Audit.opening steps) := by
  have keeps : forall state step next,
      Sound host state.intake ∧ Exclusive state.intake ∧ Truthful state ->
      StillFailed state.intake step -> (audit host ingestion).step state step = .ok next ->
      Sound host next.intake ∧ Exclusive next.intake ∧ Truthful next := by
    rintro state step next ⟨sound, exclusive, truthful⟩ fresh accepted
    change auditStep host ingestion state step = .ok next at accepted
    unfold auditStep at accepted
    split at accepted
    · cases accepted
    · rename_i intake moved
      cases accepted
      have turn := intakeStep_turn lawful sound moved
      exact ⟨turn.sound sound, turn.exclusive sound exclusive fresh,
        turn.truthful sound exclusive fresh truthful⟩
  have exclusive : Exclusive Intake.opening := by
    constructor
    · intro handlerId handler stands
      cases stands
    · intro first firstHandler second secondHandler key stands
      cases stands
  have truthful : Truthful Audit.opening :=
    ⟨fun _ member => absurd member List.not_mem_nil,
      fun _ member => absurd member (Table.not_mem_empty _)⟩
  exact (Machine.run_invariant_of_admits keeps ⟨sound_opening, exclusive, truthful⟩ admitted).2.2

instance (intake : Intake) (step : IntakeStep) : Decidable (StillFailed intake step) :=
  match step with
  | .advance handlerId _ =>
    match stands : intake.handlers handlerId with
    | none => isTrue (by intro handler other; rw [stands] at other; cases other)
    | some handler =>
      match resets : handler.reopens with
      | none => isTrue (by
          intro other known webhookId aims
          rw [stands] at known
          cases known
          rw [resets] at aims
          cases aims)
      | some webhookId =>
        if failed : forall row, row ∈ intake.db.webhookEvents.rows -> row.id = webhookId ->
            row.status = .failed then
          isTrue (by
            intro other known aimed aims
            rw [stands] at known
            cases known
            rw [resets] at aims
            cases aims
            exact failed)
        else isFalse (fun fresh => failed (fresh handler stands webhookId resets))
  | .deliver .. | .retry .. | .sweep .. | .abort .. | .crash _ | .acknowledge _ | .transaction _ =>
    isTrue trivial

/-- The delivery comes before its order: it fails, and can be taken up again
once the order is there. -/
def failedFirst : List IntakeStep :=
  [.deliver 0 (Reference.moment "first" 10) paidDelivery,
    .advance 0 (Reference.moment "first" 11),
    .advance 0 (Reference.moment "first" 12),
    .transaction (.createPendingOrder
      (Reference.checkout "a" 0 .accountEntitlement .oneTime 1 none Reference.unrenewing)),
    .transaction (.recordCheckoutAttempt (Reference.attempt "a" 0))]

/-- One redelivery reopens the row and processes the event. -/
def redeliveredOnce : List IntakeStep :=
  [.deliver 1 (Reference.moment "second" 20) paidDelivery,
    .advance 1 (Reference.moment "second" 21),
    .advance 1 (Reference.moment "second" 22),
    .advance 1 (Reference.moment "second" 23)]

theorem truthful_after_redeliveredOnce :
    Truthful ((audit Reference.host Reference.ingestion).run Audit.opening
      (failedFirst ++ redeliveredOnce)) :=
  truthful_of_stillFailed Reference.host Reference.ingestion Reference.ingestion_lawful
    (failedFirst ++ redeliveredOnce) (by decide +kernel)

/-- Two redeliveries see the failed row.  The first commits the effect; the
second then resets the row, and its transaction is aborted. -/
def crossedRedeliveries : List IntakeStep :=
  [.deliver 1 (Reference.moment "second" 20) paidDelivery,
    .advance 1 (Reference.moment "second" 21),
    .deliver 2 (Reference.moment "third" 22) paidDelivery,
    .advance 2 (Reference.moment "third" 23),
    .advance 1 (Reference.moment "second" 24),
    .advance 1 (Reference.moment "second" 25),
    .advance 2 (Reference.moment "third" 26),
    .abort 2 .processingRetryable true,
    .advance 2 (Reference.moment "third" 27)]

theorem audit_intake (ingestion : IngestionPackage) (state : Audit) (steps : List IntakeStep) :
    ((audit host ingestion).run state steps).intake =
      (intake host ingestion).run state.intake steps := by
  induction steps generalizing state with
  | nil => rfl
  | cons step rest inductionHypothesis =>
    rw [Machine.run_cons, Machine.run_cons, inductionHypothesis]
    congr 1
    simp only [Machine.attempt, audit, intake, auditStep]
    cases intakeStep host ingestion state.intake step <;> rfl

/-- Nobody is left, the effect is committed, and the row is `failed`. -/
theorem committed_left_failed_by_crossedRedeliveries :
    let state := (audit Reference.host Reference.ingestion).run Audit.opening
      (failedFirst ++ crossedRedeliveries)
    Reference.ingestion.Lawful ∧ (forall handlerId, state.intake.handlers handlerId = none) ∧
    ("mock", "paid") ∈ state.committed ∧
    (forall row, row ∈ state.intake.db.webhookEvents.rows -> row.status = .failed) ∧
    ¬ Truthful state := by
  intro state
  have committed : ("mock", "paid") ∈ state.committed := by decide +kernel
  have failed : forall row, row ∈ state.intake.db.webhookEvents.rows -> row.status = .failed := by
    decide +kernel
  refine ⟨Reference.ingestion_lawful, ?_, committed, failed, ?_⟩
  · intro handlerId
    by_cases small : handlerId < 3
    · have stopped : forall few, few < 3 -> state.intake.handlers few = none := by decide +kernel
      exact stopped handlerId small
    · have absent : forall step, step ∈ failedFirst ++ crossedRedeliveries ->
          step.handlerId ≠ some handlerId := by
        simp only [failedFirst, crossedRedeliveries, List.cons_append, List.nil_append, List.forall_mem_cons,
          IntakeStep.handlerId, ne_eq, Option.some.injEq, reduceCtorEq, not_false_eq_true,
          List.not_mem_nil, IsEmpty.forall_iff, implies_true, and_true, true_and]
        omega
      change ((audit Reference.host Reference.ingestion).run Audit.opening _).intake.handlers handlerId = none
      rw [audit_intake, run_handlers Reference.ingestion _ _ absent]
      rfl
  · intro truthful
    rcases truthful.kept _ committed with ⟨row, member, _, processed⟩
    rw [failed row member] at processed
    cases processed

end Storefront
end DigitalSolutions
