import DigitalSolutions.EmailOutbox.OutboxWrites

namespace DigitalSolutions
namespace EmailOutbox

open Foundation Persistence Protocol

/-!
# How often an email is handed over

An attempt is counted when its outcome is recorded.  A worker that dies after
it has handed a message over leaves the count as it was, and its claim expires
without a trace of the attempt; a worker that outlives its claim sends what
another may have sent already.  Prompt workers that record what they have done
hand a row over once for each number that it counts.
-/

variable {maxAttempts : Nat} {store after : OutboxStore} {point : OutboxPoint} {input : OutboxInput}
variable {crowd : OutboxCrowd} {record : EmailOutboxRecord} {run : DispatchRun} {process : Nat}
variable {later : Option OutboxPoint}

/-- The row is processed under the claim of this run. -/
def HoldsClaim (store : OutboxStore) (run : DispatchRun) (record : EmailOutboxRecord) : Prop :=
  Exists fun row => row ∈ store.outbox ∧ heldBy record.id run.workerId row = true

/-- The row that a worker is at, once it has claimed it. -/
def OutboxPoint.work : OutboxPoint -> Option (DispatchRun × EmailOutboxRecord)
  | .sending run record _ | .recording run record _ _ => some (run, record)
  | _ => none

/-- A row is handed over at most as often as it may be attempted, and never
once it is sent or given up; only the holder of its claim changes its outcome;
and no two workers hold an unexpired claim on it. -/
structure OutboxSafe (maxAttempts : Nat) (crowd : OutboxCrowd) : Prop where
  bounded : forall id,
    (crowd.store.handOvers.filter fun handOver => handOver.id = id).length ≤ maxAttempts
  unsettled : forall process run record rest row, crowd.processes process = some (.sending run record rest) ->
    row ∈ crowd.store.outbox -> row.id = record.id -> row.status ≠ .sent ∧ row.status ≠ .permanentlyFailed
  current : forall process run record failure rest input after later row,
    crowd.processes process = some (.recording run record failure rest) ->
    ¬ HoldsClaim crowd.store run record -> row ∈ crowd.store.outbox ->
    advanceOutbox maxAttempts crowd.store (.recording run record failure rest) input = .ok (after, later) ->
    row ∈ after.outbox
  alone : forall left right here there run other record record', crowd.processes left = some here ->
    crowd.processes right = some there -> here.work = some (run, record) ->
    there.work = some (other, record') -> record.id = record'.id -> HoldsClaim crowd.store run record ->
    HoldsClaim crowd.store other record' -> left = right

/-- The row is sent or given up, and was handed over so many times. -/
def Settled (id : Id) (count : Nat) (store : OutboxStore) : Prop :=
  (Exists fun row => row ∈ store.outbox ∧ row.id = id ∧
    (row.status = .sent ∨ row.status = .permanentlyFailed)) ∧
  (store.handOvers.filter fun handOver => handOver.id = id).length = count

/-! ## The condition -/

/-- A claim has not expired when it is made, or at any time while it is held;
and no worker dies between the answer of the provider and its record. -/
def Prompt (crowd : OutboxCrowd) : OutboxMove -> Prop
  | .advance process _ => forall run record rest row,
    crowd.processes process = some (.claiming run record rest) -> row ∈ crowd.store.outbox ->
    claimable record row = true -> crowd.store.now ≤ run.claimExpiresAt
  | .stop process => forall run record failure rest,
    crowd.processes process = some (.recording run record failure rest) ->
    ¬ HoldsClaim crowd.store run record
  | .ambient (.tick later) => forall process point run record, crowd.processes process = some point ->
    point.work = some (run, record) -> HoldsClaim crowd.store run record -> later ≤ run.claimExpiresAt
  | _ => True

/-! ## The outline -/

/-- The row as the claim of the run left it, in time. -/
structure Held (store : OutboxStore) (run : DispatchRun) (record : EmailOutboxRecord) : Prop where
  placed : Exists fun row => row ∈ store.outbox ∧ row.id = record.id ∧
    row.delivery = (.processing, record.attempts, some run.workerId, some run.claimExpiresAt)
  timely : store.now ≤ run.claimExpiresAt

def HandOver.number (handOver : HandOver) : Id × Nat := (handOver.id, handOver.attempts)

/-- Every attempt that was handed over has a number of its row. -/
structure Tallied (maxAttempts : Nat) (store : OutboxStore) : Prop where
  counted : forall handOver, handOver ∈ store.handOvers -> handOver.attempts < maxAttempts ∧
    Exists fun row => row ∈ store.outbox ∧ row.id = handOver.id ∧ handOver.attempts ≤ row.attempts
  distinct : (store.handOvers.map HandOver.number).Nodup

structure Unsent (maxAttempts : Nat) (store : OutboxStore) (record : EmailOutboxRecord) : Prop where
  left : record.attempts < maxAttempts
  unlisted : (record.id, record.attempts) ∉ store.handOvers.map HandOver.number

structure Standing (maxAttempts : Nat) (store : OutboxStore) (process : Nat) (point : OutboxPoint) : Prop where
  named : forall run, point.run = some run -> run.workerId ∈ store.workers
  past : forall run limit, point = .recovering run limit -> run.claimedAt ≤ store.now
  held : forall run record, point.work = some (run, record) -> Held store run record
  unsent : forall run record rest, point = .sending run record rest -> Unsent maxAttempts store record

/-- Workers have names of their own, and an attempt that is not counted yet
has a worker that is about to record it. -/
structure Staffed (crowd : OutboxCrowd) : Prop where
  unshared : Unshared OutboxPoint.ticket crowd
  recorded : forall handOver row, handOver ∈ crowd.store.handOvers -> row ∈ crowd.store.outbox ->
    row.id = handOver.id -> handOver.attempts = row.attempts ->
    Exists fun process => Exists fun run => Exists fun record => Exists fun failure => Exists fun rest =>
      crowd.processes process = some (.recording run record failure rest) ∧ record.id = row.id

theorem Held.row {row : EmailOutboxRow} (held : Held store run record) (member : row ∈ store.outbox)
    (isId : row.id = record.id) :
    row.delivery = (.processing, record.attempts, some run.workerId, some run.claimExpiresAt) := by
  rcases held.placed with ⟨other, otherMember, otherId, delivery⟩
  rw [row_eq_of_id member otherMember (isId.trans otherId.symm)]
  exact delivery

theorem delivery_eq {row : EmailOutboxRow} {status : EmailOutboxStatus} {attempts : Nat}
    {claimedBy : Option String} {claimExpiresAt : Option Time}
    (delivery : row.delivery = (status, attempts, claimedBy, claimExpiresAt)) :
    row.status = status ∧ row.attempts = attempts ∧ row.claimedBy = claimedBy ∧
      row.claimExpiresAt = claimExpiresAt := by
  rw [EmailOutboxRow.delivery, Prod.mk.injEq, Prod.mk.injEq, Prod.mk.injEq] at delivery
  exact delivery

theorem Held.holds (held : Held store run record) :
    HoldsClaim store run record := by
  rcases held.placed with ⟨row, member, isId, delivery⟩
  have parts := delivery_eq delivery
  refine ⟨row, member, ?_⟩
  rw [heldBy, isId, parts.1, parts.2.2.1, decide_eq_true rfl, decide_eq_true rfl, decide_eq_true rfl]
  rfl

theorem run_of_work (works : point.work = some (run, record)) : point.run = some run := by
  cases point with
  | sending other row rest =>
    cases works
    rfl
  | recording other row failure rest =>
    cases works
    rfl
  | _ => cases works

/-- Why an access writes a row that is held: it is the holder's record. -/
theorem holder_of_selects {row : EmailOutboxRow} (standing : Standing maxAttempts store process point)
    (held : Held store run record) (member : row ∈ store.outbox) (isId : row.id = record.id)
    (selected : point.selects maxAttempts row = true) :
    Exists fun own => Exists fun ownRecord => Exists fun failure => Exists fun rest =>
      point = .recording own ownRecord failure rest ∧ own.workerId = run.workerId ∧
        ownRecord.id = record.id := by
  have parts := delivery_eq (held.row member isId)
  have status : forall {other}, row.status = other -> other = .processing := fun isOther =>
    isOther.symm.trans parts.1
  cases point with
  | called request =>
    cases request with
    | dispatchEmailOutbox limit claimTtlMs => cases selected
    | emailLifecycle dryRun =>
      cases dryRun with
      | true => cases selected
      | false =>
        simp only [OutboxPoint.selects, retires, Bool.and_eq_true, Bool.or_eq_true, decide_eq_true_eq]
          at selected
        rcases selected.2 with waits | waits <;> cases status waits
  | recovering own limit =>
    simp only [OutboxPoint.selects, expired, Bool.and_eq_true, parts.2.2.2, Option.any_some,
      decide_eq_true_eq] at selected
    have past := standing.past own limit rfl
    exact absurd (selected.2.trans_le past) (not_lt.mpr held.timely)
  | claiming own ownRecord rest =>
    simp only [OutboxPoint.selects, skips, claimable, Bool.and_eq_true, Bool.not_eq_true',
      Bool.or_eq_false_iff, Bool.and_eq_false_iff, decide_eq_false_iff_not, decide_eq_true_eq, not_not]
      at selected
    have sameStatus := selected.2.1.2
    rcases selected.1.1 with waits | waits <;> cases status (sameStatus.trans waits)
  | recording own ownRecord failure rest =>
    simp only [OutboxPoint.selects, heldBy, Bool.and_eq_true, decide_eq_true_eq] at selected
    have sameWorker := selected.2.symm.trans parts.2.2.1
    rw [Option.some.injEq] at sameWorker
    exact ⟨own, ownRecord, failure, rest, rfl, sameWorker, selected.1.1.symm.trans isId⟩
  | promoting =>
    simp only [OutboxPoint.selects, promotes, Bool.and_eq_true, decide_eq_true_eq] at selected
    cases status selected.1
  | _ => cases selected

/-! ## One access -/

theorem Held.stays (held : Held store run record) (effect : RowsEffect maxAttempts store point after)
    (clock : after.now = store.now)
    (unselected : forall row, row ∈ store.outbox -> row.id = record.id ->
      point.selects maxAttempts row = false) : Held after run record := by
  rcases held.placed with ⟨row, member, isId, delivery⟩
  have stays := effect.stays member (unselected row member isId)
  exact ⟨⟨row, stays, isId, delivery⟩, clock ▸ held.timely⟩

theorem ticket_eq (isRun : point.run = some run) : point.ticket = some run.workerId := by
  rw [OutboxPoint.ticket, isRun]
  rfl

/-- The same row is held by the same worker. -/
theorem worker_eq_of_held {other : DispatchRun} {record' : EmailOutboxRecord}
    (held : Held store run record) (alsoHeld : Held store other record') (same : record.id = record'.id) :
    run.workerId = other.workerId := by
  rcases held.placed with ⟨row, member, isId, delivery⟩
  have mine := (delivery_eq delivery).2.2.1
  have theirs := (delivery_eq (alsoHeld.row member (isId.trans same))).2.2.1
  rw [mine, Option.some.injEq] at theirs
  exact theirs

/-- A row that can be claimed has not been handed over with its number. -/
theorem unsent_of_claims {rest : List EmailOutboxRecord} {row : EmailOutboxRow}
    (holds : Holds (Tallied maxAttempts) (Standing maxAttempts) crowd) (staffed : Staffed crowd)
    (member : row ∈ crowd.store.outbox)
    (selected : (OutboxPoint.claiming run record rest).selects maxAttempts row = true) :
    Unsent maxAttempts crowd.store record := by
  simp only [OutboxPoint.selects, skips, claimable, Bool.and_eq_true, Bool.not_eq_true',
    Bool.or_eq_false_iff, Bool.and_eq_false_iff, decide_eq_false_iff_not, decide_eq_true_eq, not_not]
    at selected
  rcases selected with ⟨⟨waits, left⟩, ⟨isId, sameStatus⟩, sameAttempts⟩
  refine ⟨not_le.mp left, ?_⟩
  intro listed
  rcases List.mem_map.mp listed with ⟨handOver, handed, isNumber⟩
  rw [HandOver.number, Prod.mk.injEq] at isNumber
  rcases staffed.recorded handOver row handed member (isId.trans isNumber.1.symm)
      (isNumber.2.trans sameAttempts.symm) with ⟨worker, own, ownRecord, failure, ownRest, stands, ownId⟩
  have held := (holds.points worker _ stands).held own ownRecord rfl
  have processing := (delivery_eq (held.row member ownId.symm)).1
  rw [sameStatus] at processing
  rcases waits with waits | waits <;> cases waits.symm.trans processing

/-- What a worker has in hand after an access of its own is so. -/
theorem standing_next {next : OutboxPoint}
    (holds : Holds (Tallied maxAttempts) (Standing maxAttempts) crowd) (staffed : Staffed crowd)
    (prompt : Prompt crowd (.advance process input)) (here : crowd.processes process = some point)
    (advanced : advanceOutbox maxAttempts crowd.store point input = .ok (after, some next)) :
    Standing maxAttempts after process next := by
  have standing := holds.points process point here
  have effect := effect_of_advance advanced
  have logs := logs_of_advance advanced
  have named : forall run, point.run = some run -> run.workerId ∈ after.workers :=
    fun run isRun => logs.workers _ (standing.named run isRun)
  cases follows_of_advance advanced with
  | starts request limit claimTtlMs scheduled => exact ⟨by rintro _ ⟨⟩, by rintro _ _ ⟨⟩, by rintro _ _ ⟨⟩, by rintro _ _ _ ⟨⟩⟩
  | draws limit claimTtlMs scheduled run fresh drawn started =>
    refine ⟨?_, ?_, by rintro _ _ ⟨⟩, by rintro _ _ _ ⟨⟩⟩
    · intro own isRun
      cases isRun
      exact drawn
    · intro own limit isPoint
      cases isPoint
      rw [started, logs.now]
  | recovers run limit => exact ⟨named, by rintro _ _ ⟨⟩, by rintro _ _ ⟨⟩, by rintro _ _ _ ⟨⟩⟩
  | turns _ run record rest same =>
    refine ⟨?_, by rintro _ _ ⟨⟩, by rintro _ _ ⟨⟩, by rintro _ _ _ ⟨⟩⟩
    intro own isRun
    cases isRun
    exact named run same
  | ends => exact ⟨by rintro _ ⟨⟩, by rintro _ _ ⟨⟩, by rintro _ _ ⟨⟩, by rintro _ _ _ ⟨⟩⟩
  | claims run record rest row member selected =>
    have unsent := unsent_of_claims holds staffed member selected
    have written := effect.written member selected
    have claims : claimable record row = true := by
      rw [OutboxPoint.selects, Bool.and_eq_true] at selected
      exact selected.2
    have parts := claims
    simp only [claimable, Bool.and_eq_true, decide_eq_true_eq] at parts
    refine ⟨named, by rintro _ _ ⟨⟩, ?_, ?_⟩
    · intro own ownRecord works
      cases works
      refine ⟨⟨_, written, parts.1.1, ?_⟩, ?_⟩
      · rw [← parts.2]
        rfl
      · rw [logs.now]
        exact prompt run record rest row here member claims
    · intro own ownRecord ownRest isPoint
      cases isPoint
      refine ⟨unsent.left, ?_⟩
      rcases logs.handOvers with same | ⟨_, _, _, isPoint, _⟩
      · rw [same]
        exact unsent.unlisted
      · cases isPoint
  | sends run record failure rest =>
    refine ⟨named, by rintro _ _ ⟨⟩, ?_, by rintro _ _ _ ⟨⟩⟩
    intro own ownRecord works
    cases works
    exact (standing.held run record rfl).stays effect logs.now fun _ _ _ => rfl

/-- The access of one worker leaves the row that another holds alone. -/
theorem standing_spared {other : Nat} {bystander : OutboxPoint}
    (holds : Holds (Tallied maxAttempts) (Standing maxAttempts) crowd)
    (unshared : Unshared OutboxPoint.ticket crowd) (here : crowd.processes process = some point)
    (different : other ≠ process) (stands : crowd.processes other = some bystander)
    (advanced : advanceOutbox maxAttempts crowd.store point input = .ok (after, later)) :
    Standing maxAttempts after other bystander := by
  have standing := holds.points process point here
  have others := holds.points other bystander stands
  have effect := effect_of_advance advanced
  have logs := logs_of_advance advanced
  have apart : forall own run record, point.run = some own -> bystander.work = some (run, record) ->
      own.workerId ≠ run.workerId := by
    intro own run record isRun works sameWorker
    apply different
    apply unshared other process bystander point run.workerId stands here
    · exact ticket_eq (run_of_work works)
    · rw [ticket_eq isRun, sameWorker]
  refine ⟨fun run isRun => logs.workers _ (others.named run isRun), ?_, ?_, ?_⟩
  · intro run limit isPoint
    rw [logs.now]
    exact others.past run limit isPoint
  · intro run record works
    have held := others.held run record works
    apply held.stays effect logs.now
    intro row member isId
    by_contra selected
    rw [Bool.not_eq_false] at selected
    rcases holder_of_selects standing held member isId selected with
      ⟨own, ownRecord, failure, rest, rfl, sameWorker, _⟩
    exact apart own run record rfl works sameWorker
  · intro run record rest isPoint
    have unsent := others.unsent run record rest isPoint
    refine ⟨unsent.left, ?_⟩
    rcases logs.handOvers with same | ⟨own, ownRecord, ownRest, rfl, added⟩
    · rw [same]
      exact unsent.unlisted
    · rw [added, List.map_cons, List.mem_cons]
      rintro (isOwn | listed)
      · rw [HandOver.number, Prod.mk.injEq] at isOwn
        have works : bystander.work = some (run, record) := isPoint ▸ rfl
        have ownHeld := standing.held own ownRecord rfl
        have held := others.held run record works
        exact apart own run record rfl works (worker_eq_of_held ownHeld held isOwn.1.symm)
      · exact unsent.unlisted listed

/-- What an access writes to a row with the number of attempts it had, or one more. -/
theorem attempts_after (standing : Standing maxAttempts store process point) {row : EmailOutboxRow}
    (member : row ∈ store.outbox) (selected : point.selects maxAttempts row = true) :
    ((forall run record failure rest, point ≠ .recording run record failure rest) ∧
        (point.written maxAttempts store.now row).attempts = row.attempts) ∨
      (point.written maxAttempts store.now row).attempts = row.attempts + 1 := by
  cases point with
  | called request =>
    cases request with
    | dispatchEmailOutbox limit claimTtlMs => cases selected
    | emailLifecycle dryRun =>
      cases dryRun with
      | true => cases selected
      | false => exact Or.inl ⟨by rintro _ _ _ _ ⟨⟩, rfl⟩
  | recording run record failure rest =>
    right
    have isId : row.id = record.id := by
      simp only [OutboxPoint.selects, heldBy, Bool.and_eq_true, decide_eq_true_eq] at selected
      exact selected.1.1
    have attempts := (delivery_eq ((standing.held run record rfl).row member isId)).2.1
    cases failure with
    | none => exact congrArg Nat.succ attempts.symm
    | some failureCode => exact congrArg Nat.succ attempts.symm
  | recovering run limit => exact Or.inl ⟨by rintro _ _ _ _ ⟨⟩, rfl⟩
  | claiming run record rest => exact Or.inl ⟨by rintro _ _ _ _ ⟨⟩, rfl⟩
  | promoting => exact Or.inl ⟨by rintro _ _ _ _ ⟨⟩, rfl⟩
  | _ => cases selected

theorem attempts_grow (standing : Standing maxAttempts store process point)
    (effect : RowsEffect maxAttempts store point after) {row : EmailOutboxRow}
    (member : row ∈ store.outbox) : Exists fun later => later ∈ after.outbox ∧ later.id = row.id ∧
      row.attempts ≤ later.attempts := by
  by_cases selected : point.selects maxAttempts row = true
  · refine ⟨_, effect.written member selected, written_id, ?_⟩
    rcases attempts_after standing member selected with ⟨_, same⟩ | more
    · exact same.ge
    · rw [more]
      exact Nat.le_succ _
  · rw [Bool.not_eq_true] at selected
    exact ⟨row, effect.stays member selected, rfl, le_rfl⟩

/-- An access keeps the tally. -/
theorem tallied_after (holds : Holds (Tallied maxAttempts) (Standing maxAttempts) crowd)
    (here : crowd.processes process = some point)
    (advanced : advanceOutbox maxAttempts crowd.store point input = .ok (after, later)) :
    Tallied maxAttempts after := by
  have standing := holds.points process point here
  have effect := effect_of_advance advanced
  have tallied := holds.store
  have counted : forall handOver : HandOver, (Exists fun row => row ∈ crowd.store.outbox ∧ row.id = handOver.id ∧
      handOver.attempts ≤ row.attempts) -> Exists fun row => row ∈ after.outbox ∧
      row.id = handOver.id ∧ handOver.attempts ≤ row.attempts := by
    rintro handOver ⟨row, member, isId, least⟩
    rcases attempts_grow standing effect member with ⟨grown, grownMember, sameId, more⟩
    exact ⟨grown, grownMember, sameId.trans isId, least.trans more⟩
  rcases (logs_of_advance advanced).handOvers with same | ⟨run, record, rest, rfl, added⟩
  · refine ⟨?_, same ▸ tallied.distinct⟩
    intro handOver handed
    rw [same] at handed
    have before := tallied.counted handOver handed
    exact ⟨before.1, counted handOver before.2⟩
  · have unsent := standing.unsent run record rest rfl
    refine ⟨?_, ?_⟩
    · intro handOver handed
      rw [added, List.mem_cons] at handed
      rcases handed with rfl | old
      · refine ⟨unsent.left, counted _ ?_⟩
        rcases (standing.held run record rfl).placed with ⟨row, member, isId, delivery⟩
        exact ⟨row, member, isId, (delivery_eq delivery).2.1.ge⟩
      · have before := tallied.counted handOver old
        exact ⟨before.1, counted handOver before.2⟩
    · rw [added, List.map_cons, List.nodup_cons]
      exact ⟨unsent.unlisted, tallied.distinct⟩

/-! ## Who records an attempt -/

/-- The worker of an attempt that is not counted yet is at a row that no other
access writes. -/
theorem recorded_after {handOver : HandOver} {row : EmailOutboxRow}
    (holds : Holds (Tallied maxAttempts) (Standing maxAttempts) crowd) (staffed : Staffed crowd)
    (here : crowd.processes process = some point)
    (advanced : advanceOutbox maxAttempts crowd.store point input = .ok (after, later))
    (handed : handOver ∈ crowd.store.handOvers) (member : row ∈ after.outbox)
    (isId : row.id = handOver.id) (isLast : handOver.attempts = row.attempts) :
    Exists fun worker => Exists fun run => Exists fun record => Exists fun failure => Exists fun rest =>
      worker ≠ process ∧ crowd.processes worker = some (.recording run record failure rest) ∧
        record.id = row.id := by
  have standing := holds.points process point here
  -- The row was there with this number of attempts; else its record has just counted the attempt.
  have before : Exists fun old => old ∈ crowd.store.outbox ∧ old.id = row.id ∧
      old.attempts = row.attempts ∧ forall run record failure rest,
        point = .recording run record failure rest -> record.id ≠ row.id := by
    rcases (effect_of_advance advanced).origin member with ⟨old, unselected⟩ | ⟨old, oldMember, selected, rfl⟩
    · refine ⟨row, old, rfl, rfl, ?_⟩
      rintro run record failure rest rfl same
      have held := standing.held run record rfl
      have parts := delivery_eq (held.row old same.symm)
      simp only [OutboxPoint.selects, heldBy, parts.1, parts.2.2.1, same, decide_true, Bool.and_self]
        at unselected
      cases unselected
    · rcases attempts_after standing oldMember selected with ⟨others, same⟩ | more
      · refine ⟨old, oldMember, written_id.symm, same.symm, ?_⟩
        intro run record failure rest isPoint
        exact absurd isPoint (others run record failure rest)
      · rcases (holds.store.counted handOver handed).2 with ⟨known, knownMember, knownId, least⟩
        have isOld : known = old := row_eq_of_id knownMember oldMember
          (knownId.trans (isId.symm.trans written_id))
        rw [isOld] at least
        omega
  rcases before with ⟨old, oldMember, sameId, sameAttempts, others⟩
  rcases staffed.recorded handOver old handed oldMember (sameId.trans isId)
      (isLast.trans sameAttempts.symm) with ⟨worker, run, record, failure, rest, stands, isRecord⟩
  refine ⟨worker, run, record, failure, rest, ?_, stands, isRecord.trans sameId⟩
  rintro rfl
  rw [here, Option.some.injEq] at stands
  exact others run record failure rest stands (isRecord.trans sameId)

theorem names_kept_unshared {next : OutboxCrowd} {move : OutboxMove}
    (holds : Holds (Tallied maxAttempts) (Standing maxAttempts) crowd)
    (unshared : Unshared OutboxPoint.ticket crowd)
    (accepted : (outboxProtocol maxAttempts).machine.step crowd move = .ok next) :
    Unshared OutboxPoint.ticket next := by
  refine unshared.step (fun _ => rfl) ?_ accepted
  intro process point input after later number here advanced isNumber
  cases follows_of_advance advanced with
  | starts request limit claimTtlMs scheduled => cases isNumber
  | draws limit claimTtlMs scheduled run fresh drawn started =>
    right
    intro other bystander stands isTicket
    rw [OutboxPoint.ticket, Option.map_eq_some_iff] at isTicket
    rcases isTicket with ⟨own, isRun, same⟩
    cases isNumber
    have known := (holds.points other bystander stands).named own isRun
    rw [same] at known
    exact fresh known
  | recovers run limit => exact Or.inl isNumber
  | turns _ run record rest same =>
    left
    rw [ticket_eq same]
    exact isNumber
  | ends => cases isNumber
  | claims run record rest row member selected => exact Or.inl isNumber
  | sends run record failure rest => exact Or.inl isNumber

theorem staffed_kept :
    Keeps (outboxProtocol maxAttempts) Prompt (Tallied maxAttempts) (Standing maxAttempts) Staffed := by
  intro crowd move next holds staffed prompt accepted
  refine ⟨names_kept_unshared holds staffed.unshared accepted, ?_⟩
  intro handOver row handed member isId isLast
  cases move with
  | start process call =>
    rcases step_start accepted with ⟨idle, rfl⟩
    rcases staffed.recorded handOver row handed member isId isLast with
      ⟨worker, run, record, failure, rest, stands, isRecord⟩
    have different : worker ≠ process := by
      rintro rfl
      rw [idle] at stands
      cases stands
    exact ⟨worker, run, record, failure, rest, (Function.update_of_ne different _ _).trans stands, isRecord⟩
  | advance process input =>
    rcases step_advance accepted with ⟨point, store, later, here, advanced, rfl⟩
    have older : handOver ∈ crowd.store.handOvers -> Exists fun worker => Exists fun run =>
        Exists fun record => Exists fun failure => Exists fun rest =>
          (crowd.place store process later).processes worker = some (.recording run record failure rest) ∧
            record.id = row.id := by
      intro old
      rcases recorded_after holds staffed here advanced old member isId isLast with
        ⟨worker, run, record, failure, rest, different, stands, isRecord⟩
      exact ⟨worker, run, record, failure, rest, (Function.update_of_ne different _ _).trans stands,
        isRecord⟩
    rcases (logs_of_advance advanced).handOvers with same | ⟨run, record, rest, rfl, added⟩
    · exact older (same ▸ handed)
    · have listed := handed
      change handOver ∈ store.handOvers at listed
      rw [added, List.mem_cons] at listed
      rcases listed with rfl | old
      · cases advanced
        exact ⟨process, run, record, _, rest, Function.update_self _ _ _, isId.symm⟩
      · exact older old
  | stop process =>
    rw [step_stop accepted] at handed member ⊢
    rcases staffed.recorded handOver row handed member isId isLast with
      ⟨worker, run, record, failure, rest, stands, isRecord⟩
    have different : worker ≠ process := by
      rintro rfl
      have held := (holds.points worker _ stands).held run record rfl
      exact prompt run record failure rest stands held.holds
    exact ⟨worker, run, record, failure, rest, (Function.update_of_ne different _ _).trans stands, isRecord⟩
  | ambient event =>
    rcases step_ambient accepted with ⟨passed, same⟩
    have passes := passes_of_passOutbox passed
    rw [passes.handOvers] at handed
    rcases passes.origin row member with ⟨old, oldMember, sameId, delivery⟩ | isNew
    · have attempts := (delivery_eq delivery).2.1
      rcases staffed.recorded handOver old handed oldMember (sameId.trans isId)
          (isLast.trans attempts.symm) with ⟨worker, run, record, failure, rest, stands, isRecord⟩
      exact ⟨worker, run, record, failure, rest, same ▸ stands, isRecord.trans sameId⟩
    · rcases (holds.store.counted handOver handed).2 with ⟨known, knownMember, knownId, _⟩
      exact absurd (knownId.trans isId.symm) (isNew known knownMember)

/-! ## Every run -/

theorem delivery_outlined : (outboxProtocol maxAttempts).Outlined (Among Prompt Staffed)
    (Tallied maxAttempts) (Standing maxAttempts) where
  enters _ _ _ _ _ := ⟨by rintro _ ⟨⟩, by rintro _ _ ⟨⟩, by rintro _ _ ⟨⟩, by rintro _ _ _ ⟨⟩⟩
  advances crowd process point input after later holds allows here advanced := by
    refine ⟨tallied_after holds here advanced, ?_⟩
    rintro next rfl
    exact standing_next holds allows.2 allows.1 here advanced
  spares crowd process point input after later holds allows here advanced other bystander different
      stands :=
    standing_spared holds allows.2.unshared here different stands advanced
  ambient crowd event after holds allows passed := by
    have passes := passes_of_passOutbox passed
    refine ⟨⟨?_, passes.handOvers ▸ holds.store.distinct⟩, ?_⟩
    · intro handOver handed
      rw [passes.handOvers] at handed
      rcases holds.store.counted handOver handed with ⟨least, row, member, isId, counted⟩
      rcases passes.kept row member with ⟨later, laterMember, sameId, delivery⟩
      have attempts := (delivery_eq delivery).2.1
      exact ⟨least, later, laterMember, sameId.trans isId, counted.trans attempts.ge⟩
    · intro other bystander stands
      have standing := holds.points other bystander stands
      refine ⟨?_, ?_, ?_, ?_⟩
      · intro run isRun
        rw [passes.workers]
        exact standing.named run isRun
      · intro run limit isPoint
        exact (standing.past run limit isPoint).trans passes.clock
      · intro run record works
        have held := standing.held run record works
        rcases held.placed with ⟨row, member, isId, delivery⟩
        rcases passes.kept row member with ⟨later, laterMember, sameId, same⟩
        refine ⟨⟨later, laterMember, sameId.trans isId, same.trans delivery⟩, ?_⟩
        cases event with
        | tick moment =>
          have isMoment : after.now = moment := by
            simp only [outboxProtocol, passOutbox] at passed
            split at passed
            · cases passed
              rfl
            · cases passed
          rw [isMoment]
          exact allows.1 other bystander run record stands works held.holds
        | queue email =>
          cases passed
          exact held.timely
        | minimize email recipient payload =>
          cases passed
          exact held.timely
      · intro run record rest isPoint
        have unsent := standing.unsent run record rest isPoint
        exact ⟨unsent.left, passes.handOvers ▸ unsent.unlisted⟩

/-- Nothing writes a row that is sent or given up. -/
theorem unsettled_of_selects {row : EmailOutboxRow} (selected : point.selects maxAttempts row = true) :
    row.status ≠ .sent ∧ row.status ≠ .permanentlyFailed := by
  have status : row.status = .pending ∨ row.status = .failed ∨ row.status = .processing := by
    cases point with
    | called request =>
      cases request with
      | dispatchEmailOutbox limit claimTtlMs => cases selected
      | emailLifecycle dryRun =>
        cases dryRun with
        | true => cases selected
        | false =>
          simp only [OutboxPoint.selects, retires, Bool.and_eq_true, Bool.or_eq_true, decide_eq_true_eq]
            at selected
          exact selected.2.imp_right Or.inl
    | recovering run limit =>
      simp only [OutboxPoint.selects, expired, Bool.and_eq_true, decide_eq_true_eq] at selected
      exact Or.inr (Or.inr selected.1)
    | claiming run record rest =>
      simp only [OutboxPoint.selects, skips, claimable, Bool.and_eq_true, Bool.not_eq_true',
        Bool.or_eq_false_iff, Bool.and_eq_false_iff, decide_eq_false_iff_not, decide_eq_true_eq, not_not]
        at selected
      rw [selected.2.1.2]
      exact selected.1.1.imp_right Or.inl
    | recording run record failure rest =>
      simp only [OutboxPoint.selects, heldBy, Bool.and_eq_true, decide_eq_true_eq] at selected
      exact Or.inr (Or.inr selected.1.2)
    | promoting =>
      simp only [OutboxPoint.selects, promotes, Bool.and_eq_true, decide_eq_true_eq] at selected
      exact Or.inr (Or.inl selected.1)
    | _ => cases selected
  rcases status with isStatus | isStatus | isStatus <;> rw [isStatus] <;> decide

/-- A row that is sent or given up stays so, and is not handed over again. -/
theorem settled_stays {next : OutboxCrowd} {move : OutboxMove} {id : Id} {count : Nat}
    (holds : Holds (Tallied maxAttempts) (Standing maxAttempts) crowd)
    (accepted : (outboxProtocol maxAttempts).machine.step crowd move = .ok next)
    (settled : Settled id count crowd.store) : Settled id count next.store := by
  cases move with
  | start process call =>
    rcases step_start accepted with ⟨_, rfl⟩
    exact settled
  | advance process input =>
    rcases step_advance accepted with ⟨point, store, later, here, advanced, rfl⟩
    rcases settled with ⟨⟨row, member, isId, status⟩, counted⟩
    refine ⟨⟨row, (effect_of_advance advanced).stays member ?_, isId, status⟩, ?_⟩
    · by_contra selected
      rw [Bool.not_eq_false] at selected
      have unsettled := unsettled_of_selects selected
      exact status.elim unsettled.1 unsettled.2
    · change (store.handOvers.filter _).length = count
      rcases (logs_of_advance advanced).handOvers with same | ⟨run, record, rest, rfl, added⟩
      · rw [same]
        exact counted
      · have other : record.id ≠ id := by
          intro same
          have held := (holds.points process _ here).held run record rfl
          have processing := (delivery_eq (held.row member (isId.trans same.symm))).1
          rcases status with isStatus | isStatus <;> cases isStatus.symm.trans processing
        rw [added, List.filter_cons_of_neg]
        · exact counted
        · simpa only [decide_eq_true_eq] using other
  | stop process =>
    rw [step_stop accepted]
    exact settled
  | ambient event =>
    have passes := passes_of_passOutbox (step_ambient accepted).1
    rcases settled with ⟨⟨row, member, isId, status⟩, counted⟩
    rcases passes.kept row member with ⟨later, laterMember, sameId, delivery⟩
    have sameStatus := (delivery_eq delivery).1
    refine ⟨⟨later, laterMember, sameId.trans isId, ?_⟩, passes.handOvers ▸ counted⟩
    rw [sameStatus]
    exact status

theorem safe_of_holds (holds : Holds (Tallied maxAttempts) (Standing maxAttempts) crowd)
    (staffed : Staffed crowd) : OutboxSafe maxAttempts crowd := by
  refine ⟨?_, ?_, ?_, ?_⟩
  · intro id
    apply length_le_of_numbered 0 maxAttempts
    · exact (List.filter_sublist.map _).nodup holds.store.distinct
    · intro handOver member
      rw [List.mem_filter, decide_eq_true_eq] at member
      refine ⟨member.2, Nat.zero_le _, ?_⟩
      rw [Nat.zero_add]
      exact (holds.store.counted handOver member.1).1
  · intro process run record rest row stands member isId
    have held := (holds.points process _ stands).held run record rfl
    rw [(delivery_eq (held.row member isId)).1]
    decide
  · intro process run record failure rest input after later row stands unheld member advanced
    apply (effect_of_advance advanced).stays member
    by_contra selected
    rw [Bool.not_eq_false] at selected
    exact unheld ⟨row, member, selected⟩
  · intro left right here there run other record record' leftStands rightStands works alsoWorks same
      holding alsoHolding
    rcases holding with ⟨row, member, held⟩
    rcases alsoHolding with ⟨row', member', held'⟩
    simp only [heldBy, Bool.and_eq_true, decide_eq_true_eq] at held held'
    have isRow := row_eq_of_id member member' (held.1.1.trans (same.trans held'.1.1.symm))
    have sameWorker := held.2.symm.trans ((congrArg EmailOutboxRow.claimedBy isRow).trans held'.2)
    apply staffed.unshared left right here there run.workerId leftStands rightStands
    · exact ticket_eq (run_of_work works)
    · rw [ticket_eq (run_of_work alsoWorks), sameWorker]

/-- In every run of prompt workers, a row is handed over at most as often as
it may be attempted, never once it is sent or given up, and its outcome is
written by the holder of its claim, of whom there is one. -/
theorem outbox_safe_of_prompt (maxAttempts : Nat) (now : Time) (before after : List OutboxMove)
    (prompt : (outboxProtocol maxAttempts).machine.Admits Prompt
      (Crowd.opening (OutboxStore.opening now)) (before ++ after)) :
    OutboxSafe maxAttempts ((outboxProtocol maxAttempts).machine.run
      (Crowd.opening (OutboxStore.opening now)) (before ++ after)) ∧
    forall id count, Settled id count ((outboxProtocol maxAttempts).machine.run
        (Crowd.opening (OutboxStore.opening now)) before).store ->
      Settled id count ((outboxProtocol maxAttempts).machine.run
        (Crowd.opening (OutboxStore.opening now)) (before ++ after)).store := by
  have tallied : Tallied maxAttempts (OutboxStore.opening now) :=
    ⟨fun _ handed => absurd handed List.not_mem_nil, List.nodup_nil⟩
  have initially : Holds (Tallied maxAttempts) (Standing maxAttempts)
      (Crowd.opening (OutboxStore.opening now)) := holds_opening tallied
  have staffed : Staffed (Crowd.opening (OutboxStore.opening now)) :=
    ⟨unshared_opening _, fun _ _ handed => absurd handed List.not_mem_nil⟩
  have reached := delivery_outlined.run_among staffed_kept initially staffed prompt
  refine ⟨safe_of_holds reached.1 reached.2, ?_⟩
  intro id count settled
  refine delivery_outlined.run_final staffed_kept ?_ initially staffed prompt settled
  intro crowd move next holds _ _ accepted
  exact settled_stays holds accepted

/-! ## Messages handed over too often -/

def accepting (worker : String) : OutboxInput := ⟨worker, none⟩

def queuedNotice : List OutboxMove :=
  [.ambient (.queue ⟨"email", "SECURITY_NEW_SESSION", "admin@example.test", "New session", [], none⟩)]

/-- A worker claims the row, and is about to send it. -/
def claimsBy (process : Nat) (worker : String) : List OutboxMove :=
  [.start process (.dispatchEmailOutbox 20 none), .advance process (accepting worker),
    .advance process (accepting worker), .advance process (accepting worker),
    .advance process (accepting worker), .advance process (accepting worker)]

/-- The provider accepts the message; the worker dies; six minutes pass. -/
def diesSending (process : Nat) (worker : String) (minute : Int) : List OutboxMove :=
  claimsBy process worker ++
    [.advance process (accepting worker), .stop process, .ambient (.tick (minute * 60000))]

def sixDeaths : List OutboxMove :=
  queuedNotice ++ diesSending 1 "first" 6 ++ diesSending 2 "second" 12 ++ diesSending 3 "third" 18 ++
    diesSending 4 "fourth" 24 ++ diesSending 5 "fifth" 30 ++ diesSending 6 "sixth" 36

/-- One worker waits so long with its message that another sends it. -/
def outlivedClaim : List OutboxMove :=
  queuedNotice ++ claimsBy 1 "first" ++ [.ambient (.tick (6 * 60000))] ++ claimsBy 2 "second" ++
    [.advance 2 (accepting "second"), .advance 2 (accepting "second")]

/-- The worker is about to hand over a row that is sent. -/
def resends (crowd : OutboxCrowd) (process : Nat) : Bool :=
  match crowd.processes process with
  | some (.sending _ record _) =>
    crowd.store.outbox.rows.any fun row => row.id = record.id && row.status = .sent
  | _ => false

theorem not_safe_of_resends (process : Nat) (again : resends crowd process = true) :
    ¬ OutboxSafe maxAttempts crowd := by
  intro safe
  unfold resends at again
  split at again
  · rename_i run record rest stands
    rw [List.any_eq_true] at again
    rcases again with ⟨row, member, isRow⟩
    rw [Bool.and_eq_true, decide_eq_true_eq, decide_eq_true_eq] at isRow
    exact (safe.unsettled process run record rest row stands member isRow.1).1 isRow.2
  · cases again

/-- Workers that die between the answer and its record hand a row over without
end; and one that outlives its claim sends a row that has been sent. -/
theorem outbox_unsafe_when_late :
    ¬ OutboxSafe 5 ((outboxProtocol 5).machine.run (Crowd.opening (OutboxStore.opening 0)) sixDeaths) ∧
    ¬ OutboxSafe 5 ((outboxProtocol 5).machine.run (Crowd.opening (OutboxStore.opening 0)) outlivedClaim) := by
  refine ⟨?_, not_safe_of_resends 1 ?_⟩
  · intro safe
    have most := safe.bounded "email"
    revert most
    decide +kernel
  · decide +kernel

/-- One dispatch that is not disturbed. -/
def sentOnce : List OutboxMove :=
  queuedNotice ++ claimsBy 1 "first" ++ [.advance 1 (accepting "first"), .advance 1 (accepting "first")]

/-- A check of the condition where nobody dies and no time passes. -/
def checksPrompt (crowd : OutboxCrowd) : OutboxMove -> Bool
  | .start _ _ => true
  | .advance process _ =>
    match crowd.processes process with
    | some (.claiming run _ _) => crowd.store.now ≤ run.claimExpiresAt
    | _ => true
  | .ambient (.queue _) => true
  | _ => false

theorem prompt_of_checks (crowd : OutboxCrowd) (move : OutboxMove)
    (checks : checksPrompt crowd move = true) : Prompt crowd move := by
  cases move with
  | start process call => trivial
  | advance process input =>
    intro run record rest row here _ _
    simp only [checksPrompt, here, decide_eq_true_eq] at checks
    exact checks
  | stop process => cases checks
  | ambient event =>
    cases event with
    | tick later => cases checks
    | queue email => trivial
    | minimize email recipient payload => cases checks

theorem outbox_safe_of_prompt_sentOnce :
    OutboxSafe 5 ((outboxProtocol 5).machine.run (Crowd.opening (OutboxStore.opening 0)) (sentOnce ++ [])) ∧
    forall id count, Settled id count ((outboxProtocol 5).machine.run
        (Crowd.opening (OutboxStore.opening 0)) sentOnce).store ->
      Settled id count ((outboxProtocol 5).machine.run
        (Crowd.opening (OutboxStore.opening 0)) (sentOnce ++ [])).store := by
  have checked : (outboxProtocol 5).machine.Admits (fun crowd move => checksPrompt crowd move = true)
      (Crowd.opening (OutboxStore.opening 0)) (sentOnce ++ []) := by
    decide +kernel
  exact outbox_safe_of_prompt 5 0 sentOnce [] (checked.mono prompt_of_checks)

end EmailOutbox
end DigitalSolutions
