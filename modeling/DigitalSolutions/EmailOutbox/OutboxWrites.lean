import DigitalSolutions.EmailOutbox.OutboxDispatch

namespace DigitalSolutions
namespace EmailOutbox

open Foundation Persistence

/-!
# What a dispatch writes

Every access writes the rows that its point selects.  The worker of a run is
drawn once, and every claim and every outcome of the run carries its name.
-/

variable {maxAttempts : Nat} {store after : OutboxStore} {point : OutboxPoint} {input : OutboxInput}

namespace OutboxPoint

/-- The rows that the access of a point writes. -/
def selects (maxAttempts : Nat) : OutboxPoint -> EmailOutboxRow -> Bool
  | .called (.emailLifecycle false), row => retires row
  | .recovering run _, row => expired run.claimedAt row
  | .claiming _ record _, row => !skips maxAttempts record && claimable record row
  | .recording run record _ _, row => heldBy record.id run.workerId row
  | .promoting, row => promotes row
  | _, _ => false

/-- What the access of a point writes to a row. -/
def written (maxAttempts : Nat) (now : Time) : OutboxPoint -> EmailOutboxRow -> EmailOutboxRow
  | .called (.emailLifecycle false), row => retiredRow row
  | .recovering _ _, row => recoveredRow row
  | .claiming run _ _, row => claimedRow run.workerId run.claimedAt run.claimExpiresAt row
  | .recording _ record none _, row => sentRow now (record.attempts + 1) row
  | .recording _ record (some failureCode) _, row =>
    failedRow (if maxAttempts ≤ record.attempts + 1 then .permanentlyFailed else .failed)
      (record.attempts + 1) failureCode row
  | .promoting, row => promotedRow row
  | _, row => row

def rewritten (maxAttempts : Nat) (point : OutboxPoint) (now : Time) (row : EmailOutboxRow) :
    EmailOutboxRow :=
  if point.selects maxAttempts row then point.written maxAttempts now row else row

/-- The run that a worker is on. -/
def run : OutboxPoint -> Option DispatchRun
  | .recovering run _ | .listing run _ | .claiming run _ _ | .sending run _ _ | .recording run _ _ _ => some run
  | _ => none

/-- Workers are named by what they have drawn. -/
def ticket (point : OutboxPoint) : Option String := point.run.map DispatchRun.workerId

end OutboxPoint

theorem written_id {now : Time} {row : EmailOutboxRow} :
    (point.written maxAttempts now row).id = row.id := by
  cases point with
  | called request =>
    cases request with
    | dispatchEmailOutbox limit claimTtlMs => rfl
    | emailLifecycle dryRun => cases dryRun <;> rfl
  | recording run record failure rest => cases failure <;> rfl
  | _ => rfl

theorem row_eq_of_id {outbox : Table EmailOutboxRow} {left right : EmailOutboxRow}
    (leftMember : left ∈ outbox) (rightMember : right ∈ outbox) (same : left.id = right.id) :
    left = right := by
  have leftKey : EmailOutboxRow.Key.id left.id ∈ Keyed.keys left := List.mem_cons_self
  have rightKey : EmailOutboxRow.Key.id left.id ∈ Keyed.keys right := same ▸ List.mem_cons_self
  exact outbox.eq_of_common_key leftMember rightMember leftKey rightKey

/-! ## The rows -/

/-- What an access does to the outbox. -/
def RowsEffect (maxAttempts : Nat) (store : OutboxStore) (point : OutboxPoint) (after : OutboxStore) :
    Prop :=
  forall row, row ∈ after.outbox ↔
    Exists fun old => old ∈ store.outbox ∧ point.rewritten maxAttempts store.now old = row

theorem RowsEffect.of_rows
    (wrote : after.outbox.rows = store.outbox.rows.map (point.rewritten maxAttempts store.now)) :
    RowsEffect maxAttempts store point after :=
  fun _ => Table.mem_of_rows wrote

theorem RowsEffect.still (same : after.outbox = store.outbox)
    (unselected : forall row, row ∈ store.outbox -> point.selects maxAttempts row = false) :
    RowsEffect maxAttempts store point after := by
  intro row
  rw [same]
  constructor
  · intro member
    refine ⟨row, member, ?_⟩
    simp only [OutboxPoint.rewritten, unselected row member, Bool.false_eq_true, if_false]
  · rintro ⟨old, member, isRow⟩
    simp only [OutboxPoint.rewritten, unselected old member, Bool.false_eq_true, if_false] at isRow
    exact isRow ▸ member

theorem effect_of_advance {later : Option OutboxPoint}
    (advanced : advanceOutbox maxAttempts store point input = .ok (after, later)) :
    RowsEffect maxAttempts store point after := by
  cases point with
  | called request =>
    cases request with
    | dispatchEmailOutbox limit claimTtlMs =>
      cases advanced
      exact .still rfl fun _ _ => rfl
    | emailLifecycle dryRun =>
      cases dryRun with
      | true =>
        cases advanced
        exact .still rfl fun _ _ => rfl
      | false =>
        cases advanced
        exact .of_rows rfl
  | starting limit claimTtlMs scheduled =>
    simp only [advanceOutbox] at advanced
    split at advanced
    · cases advanced
    · cases advanced
      exact .still rfl fun _ _ => rfl
  | recovering run limit =>
    cases advanced
    exact .of_rows rfl
  | listing run limit =>
    cases advanced
    exact .still rfl fun _ _ => rfl
  | claiming run record rest =>
    simp only [advanceOutbox] at advanced
    split at advanced
    · rename_i skipped
      cases advanced
      apply RowsEffect.still rfl
      intro row _
      simp only [OutboxPoint.selects, skipped, Bool.not_true, Bool.false_and]
    · rename_i unskipped
      rw [Bool.not_eq_true] at unskipped
      split at advanced
      · rename_i nobody
        cases advanced
        apply RowsEffect.still rfl
        intro row member
        by_contra selected
        rw [Bool.not_eq_false, OutboxPoint.selects, Bool.and_eq_true] at selected
        have listed := List.mem_filter.mpr ⟨member, selected.2⟩
        rw [List.isEmpty_iff] at nobody
        rw [Table.select] at nobody
        rw [nobody] at listed
        cases listed
      · cases advanced
        apply RowsEffect.of_rows
        apply List.map_congr_left
        intro row _
        simp only [OutboxPoint.rewritten, OutboxPoint.selects, OutboxPoint.written, unskipped,
          Bool.not_false, Bool.true_and]
  | sending run record rest =>
    cases advanced
    exact .still rfl fun _ _ => rfl
  | recording run record failure rest =>
    cases advanced
    cases failure with
    | none => exact .of_rows rfl
    | some failureCode => exact .of_rows rfl
  | promoting =>
    cases advanced
    exact .of_rows rfl

namespace RowsEffect

theorem stays (effect : RowsEffect maxAttempts store point after) {row : EmailOutboxRow}
    (member : row ∈ store.outbox) (unselected : point.selects maxAttempts row = false) :
    row ∈ after.outbox := by
  refine (effect row).mpr ⟨row, member, ?_⟩
  simp only [OutboxPoint.rewritten, unselected, Bool.false_eq_true, if_false]

theorem written (effect : RowsEffect maxAttempts store point after) {row : EmailOutboxRow}
    (member : row ∈ store.outbox) (selected : point.selects maxAttempts row = true) :
    point.written maxAttempts store.now row ∈ after.outbox := by
  refine (effect _).mpr ⟨row, member, ?_⟩
  simp only [OutboxPoint.rewritten, selected, if_true]

/-- Where a row of the outbox comes from. -/
theorem origin (effect : RowsEffect maxAttempts store point after) {row : EmailOutboxRow}
    (member : row ∈ after.outbox) :
    (row ∈ store.outbox ∧ point.selects maxAttempts row = false) ∨
    Exists fun old => old ∈ store.outbox ∧ point.selects maxAttempts old = true ∧
      row = point.written maxAttempts store.now old := by
  rcases (effect row).mp member with ⟨old, oldMember, isRow⟩
  unfold OutboxPoint.rewritten at isRow
  split at isRow
  · rename_i selected
    exact Or.inr ⟨old, oldMember, selected, isRow.symm⟩
  · rename_i unselected
    subst isRow
    exact Or.inl ⟨oldMember, Bool.eq_false_iff.mpr unselected⟩

end RowsEffect

/-! ## The rest of the store -/

/-- What an access does besides: a worker draws its name, or hands a message over. -/
structure LogsEffect (store : OutboxStore) (point : OutboxPoint) (after : OutboxStore) : Prop where
  now : after.now = store.now
  workers : forall worker, worker ∈ store.workers -> worker ∈ after.workers
  handOvers : after.handOvers = store.handOvers ∨ Exists fun run => Exists fun record => Exists fun rest =>
    point = .sending run record rest ∧
      after.handOvers = ⟨record.id, record.attempts, record.message⟩ :: store.handOvers

theorem logs_of_advance {later : Option OutboxPoint}
    (advanced : advanceOutbox maxAttempts store point input = .ok (after, later)) :
    LogsEffect store point after := by
  have still : forall {other : OutboxStore}, other.now = store.now -> other.workers = store.workers ->
      other.handOvers = store.handOvers -> LogsEffect store point other :=
    fun clock workers handOvers => ⟨clock, fun worker drawn => workers ▸ drawn, Or.inl handOvers⟩
  cases point with
  | called request =>
    cases request with
    | dispatchEmailOutbox limit claimTtlMs =>
      cases advanced
      exact still rfl rfl rfl
    | emailLifecycle dryRun =>
      cases dryRun <;> cases advanced <;> exact still rfl rfl rfl
  | starting limit claimTtlMs scheduled =>
    simp only [advanceOutbox] at advanced
    split at advanced
    · cases advanced
    · cases advanced
      exact ⟨rfl, fun worker drawn => List.mem_cons_of_mem _ drawn, Or.inl rfl⟩
  | claiming run record rest =>
    simp only [advanceOutbox] at advanced
    split at advanced
    · cases advanced
      exact still rfl rfl rfl
    · split at advanced
      · cases advanced
        exact still rfl rfl rfl
      · cases advanced
        exact still rfl rfl rfl
  | sending run record rest =>
    cases advanced
    exact ⟨rfl, fun worker drawn => drawn, Or.inr ⟨run, record, rest, rfl, rfl⟩⟩
  | recording run record failure rest =>
    cases advanced
    cases failure <;> exact still rfl rfl rfl
  | recovering run limit =>
    cases advanced
    exact still rfl rfl rfl
  | listing run limit =>
    cases advanced
    exact still rfl rfl rfl
  | promoting =>
    cases advanced
    exact still rfl rfl rfl

/-! ## The next point -/

/-- Where an access leads. -/
inductive Follows (maxAttempts : Nat) (store after : OutboxStore) : OutboxPoint -> OutboxPoint -> Prop
  | starts (request : OutboxRequest) (limit : Nat) (claimTtlMs : Option Int) (scheduled : Bool) :
      Follows maxAttempts store after (.called request) (.starting limit claimTtlMs scheduled)
  | draws (limit : Nat) (claimTtlMs : Option Int) (scheduled : Bool) (run : DispatchRun)
      (fresh : run.workerId ∉ store.workers) (drawn : run.workerId ∈ after.workers)
      (started : run.claimedAt = store.now) :
      Follows maxAttempts store after (.starting limit claimTtlMs scheduled) (.recovering run limit)
  | recovers (run : DispatchRun) (limit : Nat) :
      Follows maxAttempts store after (.recovering run limit) (.listing run limit)
  | turns (point : OutboxPoint) (run : DispatchRun) (record : EmailOutboxRecord)
      (rest : List EmailOutboxRecord) (same : point.run = some run) :
      Follows maxAttempts store after point (.claiming run record rest)
  | ends (point : OutboxPoint) : Follows maxAttempts store after point .promoting
  | claims (run : DispatchRun) (record : EmailOutboxRecord) (rest : List EmailOutboxRecord)
      (row : EmailOutboxRow) (member : row ∈ store.outbox)
      (selected : (OutboxPoint.claiming run record rest).selects maxAttempts row = true) :
      Follows maxAttempts store after (.claiming run record rest) (.sending run record rest)
  | sends (run : DispatchRun) (record : EmailOutboxRecord) (failure : Option String)
      (rest : List EmailOutboxRecord) :
      Follows maxAttempts store after (.sending run record rest) (.recording run record failure rest)

theorem follows_of_next {run : DispatchRun} {rest : List EmailOutboxRecord} {next : OutboxPoint}
    (same : point.run = some run) (isNext : nextRecord run rest = some next) :
    Follows maxAttempts store after point next := by
  unfold nextRecord at isNext
  split at isNext
  · split at isNext
    · cases isNext
      exact .ends point
    · cases isNext
  · cases isNext
    exact .turns point run _ _ same

theorem follows_of_advance {next : OutboxPoint}
    (advanced : advanceOutbox maxAttempts store point input = .ok (after, some next)) :
    Follows maxAttempts store after point next := by
  cases point with
  | called request =>
    cases request with
    | dispatchEmailOutbox limit claimTtlMs =>
      cases advanced
      exact .starts _ limit claimTtlMs false
    | emailLifecycle dryRun =>
      cases dryRun with
      | true => cases advanced
      | false =>
        cases advanced
        exact .starts _ 100 none true
  | starting limit claimTtlMs scheduled =>
    simp only [advanceOutbox] at advanced
    split at advanced
    · cases advanced
    · rename_i fresh
      cases advanced
      exact .draws limit claimTtlMs scheduled _ fresh List.mem_cons_self rfl
  | recovering run limit =>
    cases advanced
    exact .recovers run limit
  | listing run limit =>
    simp only [advanceOutbox, Except.ok.injEq, Prod.mk.injEq, Option.bind_eq_some_iff] at advanced
    rcases advanced with ⟨_, records, _, isNext⟩
    exact follows_of_next rfl isNext
  | claiming run record rest =>
    simp only [advanceOutbox] at advanced
    split at advanced
    · simp only [Except.ok.injEq, Prod.mk.injEq] at advanced
      exact follows_of_next rfl advanced.2
    · rename_i unskipped
      rw [Bool.not_eq_true] at unskipped
      split at advanced
      · simp only [Except.ok.injEq, Prod.mk.injEq] at advanced
        exact follows_of_next rfl advanced.2
      · rename_i somebody
        cases advanced
        rw [List.isEmpty_iff] at somebody
        rcases List.exists_mem_of_ne_nil _ somebody with ⟨row, listed⟩
        have isRow := List.mem_filter.mp listed
        apply Follows.claims run record rest row isRow.1
        rw [OutboxPoint.selects, unskipped, isRow.2]
        rfl
  | sending run record rest =>
    cases advanced
    exact .sends run record _ rest
  | recording run record failure rest =>
    simp only [advanceOutbox, Except.ok.injEq, Prod.mk.injEq] at advanced
    exact follows_of_next rfl advanced.2
  | promoting => cases advanced

/-! ## What else happens -/

/-- What the dispatch knows a row by: its status, its attempts and its claim. -/
def EmailOutboxRow.delivery (row : EmailOutboxRow) :
    EmailOutboxStatus × Nat × Option String × Option Time :=
  (row.status, row.attempts, row.claimedBy, row.claimExpiresAt)

/-- Other parts of the site add rows, and rewrite who they are for. -/
structure Passes (store after : OutboxStore) : Prop where
  clock : store.now ≤ after.now
  workers : after.workers = store.workers
  handOvers : after.handOvers = store.handOvers
  kept : forall row, row ∈ store.outbox -> Exists fun later => later ∈ after.outbox ∧
    later.id = row.id ∧ later.delivery = row.delivery
  origin : forall row, row ∈ after.outbox ->
    (Exists fun old => old ∈ store.outbox ∧ old.id = row.id ∧ old.delivery = row.delivery) ∨
      forall old, old ∈ store.outbox -> old.id ≠ row.id

theorem passes_of_passOutbox {event : OutboxEvent} (passed : passOutbox store event = .ok after) :
    Passes store after := by
  cases event with
  | tick later =>
    simp only [passOutbox] at passed
    split at passed
    · rename_i forward
      cases passed
      exact ⟨forward, rfl, rfl, fun row member => ⟨row, member, rfl, rfl⟩,
        fun row member => Or.inl ⟨row, member, rfl, rfl⟩⟩
    · cases passed
  | queue email =>
    cases passed
    refine ⟨le_refl store.now, rfl, rfl, ?_, ?_⟩
    · intro row member
      refine ⟨row, ?_, rfl, rfl⟩
      unfold enqueue
      cases inserted : store.outbox.insert (queuedRow email store.now) with
      | none => exact member
      | some outbox => exact (Table.mem_insert inserted).mpr (Or.inl member)
    · intro row member
      unfold enqueue at member
      cases inserted : store.outbox.insert (queuedRow email store.now) with
      | none =>
        rw [inserted] at member
        exact Or.inl ⟨row, member, rfl, rfl⟩
      | some outbox =>
        rw [inserted] at member
        rcases (Table.mem_insert inserted).mp member with old | isNew
        · exact Or.inl ⟨row, old, rfl, rfl⟩
        · right
          intro old oldMember same
          have taken : EmailOutboxRow.Key.id old.id ∈ Keyed.keys (queuedRow email store.now) :=
            same ▸ isNew ▸ List.mem_cons_self
          exact Table.fits_of_insert inserted old oldMember _ List.mem_cons_self taken
  | minimize email recipient payload =>
    cases passed
    have rows : forall row, row ∈ (minimizeRecipient email recipient payload store).outbox ↔
        Exists fun old => old ∈ store.outbox ∧ (if decide (old.recipient = email) = true then
          minimizedRow recipient payload old else old) = row :=
      fun _ => Table.mem_of_rows rfl
    refine ⟨le_refl store.now, rfl, rfl, ?_, ?_⟩
    · intro row member
      refine ⟨_, (rows _).mpr ⟨row, member, rfl⟩, ?_⟩
      split
      · exact ⟨rfl, rfl⟩
      · exact ⟨rfl, rfl⟩
    · intro row member
      rcases (rows row).mp member with ⟨old, oldMember, rfl⟩
      refine Or.inl ⟨old, oldMember, ?_⟩
      split
      · exact ⟨rfl, rfl⟩
      · exact ⟨rfl, rfl⟩

end EmailOutbox
end DigitalSolutions
