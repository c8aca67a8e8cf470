import DigitalSolutions.Backups.BackupSteps

namespace DigitalSolutions
namespace Backups

open Foundation Persistence

/-!
# Who holds an operation

A worker holds the operation that it has claimed until it has written what
became of it.  Nothing in the store says so but the status and the number of
attempts, and the writes do not look at these.
-/

variable {environment : BackupEnvironment} {before after : BackupStore} {draw : BackupDraw}
variable {table : Table BackupOperation}

/-! ## Rewriting one operation -/

theorem operation_eq {left right : BackupOperation} (leftMember : left ∈ table)
    (rightMember : right ∈ table) (same : left.id = right.id) : left = right := by
  have inLeft : BackupOperation.Key.id left.id ∈ Keyed.keys left := List.mem_cons_self
  have inRight : BackupOperation.Key.id left.id ∈ Keyed.keys right := by
    rw [same]
    exact List.mem_cons_self
  exact table.eq_of_common_key leftMember rightMember inLeft inRight

/-- The row of one operation is another one of it. -/
structure Rewritten (before after : Table BackupOperation) (target later : BackupOperation) : Prop where
  member : target ∈ before
  rows : forall row, row ∈ after ↔ row = later ∨ (row ∈ before ∧ row.id ≠ target.id)
  id : later.id = target.id
  type : later.type = target.type
  backupId : later.backupId = target.backupId
  maxAttempts : later.maxAttempts = target.maxAttempts

theorem rewritten_of_rows {before after : Table BackupOperation} {target : BackupOperation} {id : Id}
    {change : BackupOperation -> BackupOperation} (member : target ∈ before) (isTarget : target.id = id)
    (rows : after.rows = before.rows.map fun row => if row.id = id then change row else row)
    (sameId : (change target).id = target.id) (type : (change target).type = target.type)
    (backupId : (change target).backupId = target.backupId)
    (maxAttempts : (change target).maxAttempts = target.maxAttempts) :
    Rewritten before after target (change target) := by
  subst isTarget
  refine ⟨member, ?_, sameId, type, backupId, maxAttempts⟩
  intro row
  rw [Table.mem_of_rows rows]
  constructor
  · rintro ⟨old, oldMember, rfl⟩
    by_cases same : old.id = target.id
    · rw [if_pos same, operation_eq oldMember member same]
      exact Or.inl rfl
    · rw [if_neg same]
      exact Or.inr ⟨oldMember, same⟩
  · rintro (rfl | ⟨oldMember, different⟩)
    · exact ⟨target, member, if_pos rfl⟩
    · exact ⟨row, oldMember, if_neg different⟩

namespace Rewritten

variable {before after : Table BackupOperation} {target later row : BackupOperation}

theorem later_mem (rewritten : Rewritten before after target later) : later ∈ after :=
  (rewritten.rows later).mpr (Or.inl rfl)

theorem keeps (rewritten : Rewritten before after target later) (member : row ∈ before)
    (different : row.id ≠ target.id) : row ∈ after :=
  (rewritten.rows row).mpr (Or.inr ⟨member, different⟩)

end Rewritten

/-! ## Holding an operation -/

/-- The operation whose outcome a worker has still to write. -/
def BackupPoint.held : BackupPoint -> Option BackupOperation
  | .executing operation _ | .succeeding operation | .failing operation _ => some operation
  | _ => none

/-- The row is that of the claim under which the operation is held. -/
structure HeldAs (row operation : BackupOperation) : Prop where
  id : row.id = operation.id
  status : row.status = .processing
  attempts : row.attempts = operation.attempts
  maxAttempts : row.maxAttempts = operation.maxAttempts
  type : row.type = operation.type
  backupId : row.backupId = operation.backupId

/-- Every worker holds its operation under the current claim, and none holds the
operation of another. -/
structure Claims (crowd : Crowd BackupStore BackupPoint) : Prop where
  held : forall process point operation, crowd.processes process = some point ->
    point.held = some operation -> Exists fun row => row ∈ crowd.store.operations ∧ HeldAs row operation
  unique : forall left right leftPoint rightPoint leftOperation rightOperation,
    crowd.processes left = some leftPoint -> crowd.processes right = some rightPoint ->
    leftPoint.held = some leftOperation -> rightPoint.held = some rightOperation ->
    leftOperation.id = rightOperation.id -> left = right

/-- A step keeps the claims if it leaves alone the rows that others hold. -/
theorem Claims.place {crowd : Crowd BackupStore BackupPoint} {process : Nat} {next : Option BackupPoint}
    (claims : Claims crowd)
    (spares : forall row, row ∈ crowd.store.operations ->
      (Exists fun other => Exists fun point => Exists fun operation => other ≠ process ∧
        crowd.processes other = some point ∧ point.held = some operation ∧ row.id = operation.id) ->
      row ∈ after.operations)
    (mine : forall point operation, next = some point -> point.held = some operation ->
      Exists fun row => row ∈ after.operations ∧ HeldAs row operation)
    (alone : forall point operation, next = some point -> point.held = some operation ->
      forall other otherPoint held, other ≠ process -> crowd.processes other = some otherPoint ->
        otherPoint.held = some held -> held.id ≠ operation.id) :
    Claims (crowd.place after process next) where
  held other point operation stands isHeld := by
    rcases eq_some_of_update rfl stands with ⟨rfl, isPoint⟩ | ⟨different, already⟩
    · exact mine point operation isPoint isHeld
    · rcases claims.held other point operation already isHeld with ⟨row, member, heldAs⟩
      exact ⟨row, spares row member ⟨other, point, operation, different, already, isHeld, heldAs.id⟩, heldAs⟩
  unique left right leftPoint rightPoint leftOperation rightOperation leftStands rightStands leftHeld
      rightHeld same := by
    rcases eq_some_of_update rfl leftStands with ⟨isLeft, isPoint⟩ | ⟨leftDifferent, leftAlready⟩
    · rcases eq_some_of_update rfl rightStands with ⟨isRight, _⟩ | ⟨rightDifferent, rightAlready⟩
      · exact isLeft.trans isRight.symm
      · exact absurd same.symm (alone leftPoint leftOperation isPoint leftHeld right rightPoint
          rightOperation rightDifferent rightAlready rightHeld)
    · rcases eq_some_of_update rfl rightStands with ⟨_, isPoint⟩ | ⟨_, rightAlready⟩
      · exact absurd same (alone rightPoint rightOperation isPoint rightHeld left leftPoint
          leftOperation leftDifferent leftAlready leftHeld)
      · exact claims.unique left right leftPoint rightPoint leftOperation rightOperation leftAlready
          rightAlready leftHeld rightHeld same

/-- A process that holds what it held before, or nothing. -/
theorem Claims.move {crowd : Crowd BackupStore BackupPoint} {process : Nat} {point : BackupPoint}
    {next : Option BackupPoint} (claims : Claims crowd) (here : crowd.processes process = some point)
    (sameRows : forall row, row ∈ crowd.store.operations -> row ∈ after.operations)
    (holds : forall later operation, next = some later -> later.held = some operation ->
      point.held = some operation) : Claims (crowd.place after process next) := by
  apply claims.place
  · intro row member _
    exact sameRows row member
  · intro later operation isNext isHeld
    rcases claims.held process point operation here (holds later operation isNext isHeld) with
      ⟨row, member, heldAs⟩
    exact ⟨row, sameRows row member, heldAs⟩
  · intro later operation isNext isHeld other otherPoint held different stands otherHeld same
    exact different (claims.unique other process otherPoint point held operation stands here otherHeld
      (holds later operation isNext isHeld) same)

/-- What a process writes about the operation that it holds, when it then holds
it no longer. -/
theorem Claims.rewrite {crowd : Crowd BackupStore BackupPoint} {process : Nat} {next : Option BackupPoint}
    {target later : BackupOperation} (claims : Claims crowd)
    (rewritten : Rewritten crowd.store.operations after.operations target later)
    (untouched : forall other point operation, other ≠ process -> crowd.processes other = some point ->
      point.held = some operation -> operation.id ≠ target.id)
    (mine : forall point operation, next = some point -> point.held = some operation ->
      HeldAs later operation ∧ operation.id = target.id) : Claims (crowd.place after process next) := by
  apply claims.place
  · rintro row member ⟨other, point, operation, different, stands, isHeld, isRow⟩
    apply rewritten.keeps member
    rw [isRow]
    exact untouched other point operation different stands isHeld
  · intro point operation isNext isHeld
    exact ⟨later, rewritten.later_mem, (mine point operation isNext isHeld).1⟩
  · intro point operation isNext isHeld other otherPoint held different stands otherHeld
    rw [(mine point operation isNext isHeld).2]
    exact untouched other otherPoint held different stands otherHeld

/-! ## The number of attempts -/

/-- What may still be claimed has an attempt left. -/
def Bounded (table : Table BackupOperation) : Prop :=
  forall row, row ∈ table -> row.attempts ≤ row.maxAttempts ∧
    (row.status = .pending ∨ row.status = .retrying -> row.attempts < row.maxAttempts)

theorem Bounded.rewritten {before after : Table BackupOperation} {target later : BackupOperation}
    (bounded : Bounded before) (rewritten : Rewritten before after target later)
    (within : later.attempts ≤ later.maxAttempts)
    (left : later.status = .pending ∨ later.status = .retrying -> later.attempts < later.maxAttempts) :
    Bounded after := by
  intro row member
  rcases (rewritten.rows row).mp member with rfl | ⟨old, _⟩
  · exact ⟨within, left⟩
  · exact bounded row old

theorem Bounded.inserted {before after : Table BackupOperation} {id backupId : Id}
    {type : BackupOperationType} {dryRun : Bool} {idempotencyKey : String} {now : Time}
    (bounded : Bounded before)
    (inserted : before.insert (newOperation id backupId type dryRun idempotencyKey now) = some after) :
    Bounded after := by
  intro row member
  rcases (Table.mem_insert inserted).mp member with old | rfl
  · exact bounded row old
  · exact ⟨Nat.zero_le 3, fun _ => Nat.zero_lt_succ 2⟩

/-! ## What an access does to the operations -/

/-- The operations after an access, and what the process then holds. -/
inductive Turn (draw : BackupDraw) (before after : Table BackupOperation) :
    BackupPoint -> Option BackupPoint -> Prop
  | kept {point : BackupPoint} {next : Option BackupPoint} (same : after = before)
      (holds : forall later operation, next = some later -> later.held = some operation ->
        point.held = some operation) : Turn draw before after point next
  | added {point : BackupPoint} {next : Option BackupPoint} {id backupId : Id} {type : BackupOperationType}
      {dryRun : Bool} {idempotencyKey : String}
      (inserted : before.insert (newOperation id backupId type dryRun idempotencyKey draw.now) = some after)
      (idle : forall later, next = some later -> later.held = none) : Turn draw before after point next
  | claimed {workerId : String} {row operation : BackupOperation}
      (claimable : row.status = .pending ∨ row.status = .retrying)
      (rewritten : Rewritten before after row operation) (status : operation.status = .processing)
      (attempts : operation.attempts = row.attempts + 1) :
      Turn draw before after (.claiming workerId) (some (.executing operation .loading))
  | succeeded {operation row later : BackupOperation} (heldAs : HeldAs row operation)
      (rewritten : Rewritten before after row later) (status : later.status = .succeeded)
      (attempts : later.attempts = row.attempts) :
      Turn draw before after (.succeeding operation) (some (.auditing operation))
  | failed {operation row later : BackupOperation} {code : String} (steady : draw.throws = false)
      (heldAs : HeldAs row operation) (rewritten : Rewritten before after row later)
      (status : later.status = if isRetried operation code then .retrying else .failed)
      (attempts : later.attempts = row.attempts) :
      Turn draw before after (.failing operation code) (some (.failingArchive operation code))
  | released {now : Time} {operation later : BackupOperation} {abandoned : List BackupOperation}
      (steady : draw.throws = false) (rewritten : Rewritten before after operation later)
      (status : later.status = if operation.maxAttempts ≤ operation.attempts then .failed else .retrying)
      (attempts : later.attempts = operation.attempts) :
      Turn draw before after (.releasing now (operation :: abandoned)) (some (.releasing now abandoned))

theorem isClaimable_status {now : Time} {row : BackupOperation} (claimable : isClaimable now row = true) :
    row.status = .pending ∨ row.status = .retrying := by
  rw [isClaimable, Bool.and_eq_true, Bool.or_eq_true, decide_eq_true_eq, decide_eq_true_eq] at claimable
  exact claimable.1

/-- Every access takes such a turn, if the process holds its operation, the audit
does not throw and an abandoned operation is released as it was found. -/
theorem Access.turn {point : BackupPoint} {next : Option BackupPoint}
    (access : Access environment before draw point after next)
    (holds : forall operation, point.held = some operation ->
      Exists fun row => row ∈ before.operations ∧ HeldAs row operation)
    (audited : forall operation, point = .auditing operation -> draw.throws = false)
    (found : forall now operation abandoned, point = .releasing now (operation :: abandoned) ->
      draw.throws = false -> operation ∈ before.operations) :
    Turn draw before.operations after.operations point next := by
  cases access with
  | ended _ => exact .kept rfl (by rintro _ _ ⟨⟩)
  | claimed done =>
    rcases claimBackupOperation_ok done with ⟨row, member, claimable, rfl, rows, _⟩
    exact .claimed (isClaimable_status claimable) (rewritten_of_rows member rfl rows rfl rfl rfl rfl) rfl rfl
  | @worked operation task _ result done =>
    have frame := workStep_frame environment.platform operation before draw task
    rw [done] at frame
    refine .kept frame.2.2 ?_
    rintro later held ⟨⟩ isHeld
    cases result with
    | next task => exact isHeld
    | done => exact isHeld
    | thrown code => exact isHeld
  | threw =>
    refine .kept rfl ?_
    rintro later held ⟨⟩ isHeld
    exact isHeld
  | succeeded =>
    rcases holds _ rfl with ⟨row, member, heldAs⟩
    exact .succeeded heldAs
      (rewritten_of_rows member heldAs.id before.operations.rows_update rfl rfl rfl rfl) rfl rfl
  | unrecorded _ =>
    refine .kept rfl ?_
    rintro later held ⟨⟩ isHeld
    exact isHeld
  | unaudited throws =>
    rw [audited _ rfl] at throws
    cases throws
  | failed steady =>
    rcases holds _ rfl with ⟨row, member, heldAs⟩
    exact .failed steady heldAs
      (rewritten_of_rows member heldAs.id before.operations.rows_update rfl rfl rfl rfl) rfl rfl
  | archiveFailed =>
    refine .kept (failArchive_frame _ _ before).2.2.1 ?_
    rintro _ _ ⟨⟩
  | found =>
    refine .kept rfl ?_
    rintro later held ⟨⟩ ⟨⟩
  | released steady =>
    have member := found _ _ _ rfl steady
    exact .released steady
      (rewritten_of_rows member rfl before.operations.rows_update rfl rfl rfl rfl) rfl rfl
  | requested done => exact .added (createBackup_ok done).2.1 (by rintro _ ⟨⟩)
  | operationRequested _ done => exact .added (createOperation_ok done).1 (by rintro _ ⟨⟩)
  | retained =>
    refine .kept rfl ?_
    rintro later held ⟨⟩ ⟨⟩
  | expired =>
    refine .kept rfl ?_
    rintro later held ⟨⟩ ⟨⟩
  | queued done =>
    refine .added (createOperation_ok done).1 ?_
    rintro later ⟨⟩
    rfl
  | resumed =>
    refine .kept rfl ?_
    rintro later held ⟨⟩ ⟨⟩

namespace Turn

variable {crowd : Crowd BackupStore BackupPoint} {process : Nat} {point : BackupPoint}
variable {next : Option BackupPoint}

/-- The claims stay exclusive, if no operation is released that is held. -/
theorem claims (turn : Turn draw crowd.store.operations after.operations point next) (claims : Claims crowd)
    (here : crowd.processes process = some point)
    (unheld : forall now operation abandoned, point = .releasing now (operation :: abandoned) ->
      draw.throws = false -> forall other point held, crowd.processes other = some point ->
        point.held = some held -> held.id ≠ operation.id) :
    Claims (crowd.place after process next) := by
  have others : forall operation row, point.held = some operation -> HeldAs row operation ->
      forall other point held, other ≠ process -> crowd.processes other = some point ->
        point.held = some held -> held.id ≠ row.id := by
    intro operation row isHeld heldAs other otherPoint held different stands otherHeld same
    exact different (claims.unique other process otherPoint point held operation stands here otherHeld isHeld
      (same.trans heldAs.id))
  cases turn with
  | kept same holds =>
    apply claims.move here _ holds
    intro row member
    rw [same]
    exact member
  | added inserted idle =>
    apply claims.place
    · intro row member _
      exact (Table.mem_insert inserted).mpr (Or.inl member)
    · intro later operation isNext isHeld
      rw [idle later isNext] at isHeld
      cases isHeld
    · intro later operation isNext isHeld
      rw [idle later isNext] at isHeld
      cases isHeld
  | @claimed workerId row operation claimable rewritten status attempts =>
    -- The row of an operation that is held could not be claimed.
    have free : forall other point held, crowd.processes other = some point -> point.held = some held ->
        held.id ≠ row.id := by
      intro other point held stands isHeld same
      rcases claims.held other point held stands isHeld with ⟨old, member, heldAs⟩
      rw [operation_eq member rewritten.member (heldAs.id.trans same)] at heldAs
      rcases claimable with isPending | isRetrying
      · exact absurd (isPending.symm.trans heldAs.status) (by decide)
      · exact absurd (isRetrying.symm.trans heldAs.status) (by decide)
    apply claims.rewrite rewritten
    · intro other otherPoint held _ stands isHeld
      exact free other otherPoint held stands isHeld
    · rintro later held ⟨⟩ ⟨⟩
      exact ⟨⟨rfl, status, rfl, rfl, rfl, rfl⟩, rewritten.id⟩
  | succeeded heldAs rewritten _ _ =>
    apply claims.rewrite rewritten (others _ _ rfl heldAs)
    rintro later held ⟨⟩ ⟨⟩
  | failed _ heldAs rewritten _ _ =>
    apply claims.rewrite rewritten (others _ _ rfl heldAs)
    rintro later held ⟨⟩ ⟨⟩
  | released steady rewritten _ _ =>
    apply claims.rewrite rewritten
    · intro other otherPoint held _ stands isHeld
      exact unheld _ _ _ rfl steady other otherPoint held stands isHeld
    · rintro later held ⟨⟩ ⟨⟩

theorem bounded {before after : Table BackupOperation} (turn : Turn draw before after point next)
    (bounded : Bounded before) : Bounded after := by
  cases turn with
  | kept same _ =>
    rw [same]
    exact bounded
  | added inserted _ => exact bounded.inserted inserted
  | claimed claimable rewritten status attempts =>
    have left := (bounded _ rewritten.member).2 claimable
    apply bounded.rewritten rewritten
    · rw [attempts, rewritten.maxAttempts]
      omega
    · intro isLeft
      rw [status] at isLeft
      exact absurd isLeft (by decide)
  | succeeded heldAs rewritten status attempts =>
    apply bounded.rewritten rewritten
    · rw [attempts, rewritten.maxAttempts]
      exact (bounded _ rewritten.member).1
    · intro isLeft
      rw [status] at isLeft
      exact absurd isLeft (by decide)
  | @failed operation row later code steady heldAs rewritten status attempts =>
    apply bounded.rewritten rewritten
    · rw [attempts, rewritten.maxAttempts]
      exact (bounded _ rewritten.member).1
    · intro isLeft
      rw [attempts, rewritten.maxAttempts, heldAs.attempts, heldAs.maxAttempts]
      cases retried : isRetried operation code with
      | true =>
        rw [isRetried, Bool.and_eq_true, decide_eq_true_eq] at retried
        exact retried.1
      | false =>
        rw [status, retried] at isLeft
        exact absurd isLeft (by decide)
  | @released now operation later abandoned steady rewritten status attempts =>
    apply bounded.rewritten rewritten
    · rw [attempts, rewritten.maxAttempts]
      exact (bounded _ rewritten.member).1
    · intro isLeft
      rw [attempts, rewritten.maxAttempts]
      by_contra exhausted
      rw [status, if_pos (by omega)] at isLeft
      exact absurd isLeft (by decide)

/-- What is neither to be claimed nor claimed is not written any more. -/
theorem settled {before after : Table BackupOperation} {row : BackupOperation}
    (turn : Turn draw before after point next) (member : row ∈ before)
    (claimed : forall operation, point.held = some operation -> operation.id = row.id -> row.status = .processing)
    (found : forall now operation abandoned, point = .releasing now (operation :: abandoned) ->
      operation.status = .processing)
    (settled : row.status ≠ .pending ∧ row.status ≠ .processing ∧ row.status ≠ .retrying) : row ∈ after := by
  cases turn with
  | kept same _ =>
    rw [same]
    exact member
  | added inserted _ => exact (Table.mem_insert inserted).mpr (Or.inl member)
  | claimed claimable rewritten _ _ =>
    apply rewritten.keeps member
    intro same
    rw [← operation_eq member rewritten.member same] at claimable
    rcases claimable with isPending | isRetrying
    · exact settled.1 isPending
    · exact settled.2.2 isRetrying
  | succeeded heldAs rewritten _ _ =>
    apply rewritten.keeps member
    intro same
    exact settled.2.1 (claimed _ rfl (heldAs.id.symm.trans same.symm))
  | failed _ heldAs rewritten _ _ =>
    apply rewritten.keeps member
    intro same
    exact settled.2.1 (claimed _ rfl (heldAs.id.symm.trans same.symm))
  | released _ rewritten _ _ =>
    apply rewritten.keeps member
    intro same
    have isFound := found _ _ _ rfl
    rw [← operation_eq member rewritten.member same] at isFound
    exact settled.2.1 isFound

end Turn

/-! ## Counting the claims of an operation -/

/-- The attempts that the row of an operation has counted. -/
def attemptsOf (table : Table BackupOperation) (id : Id) : Nat :=
  ((table.lookup (.id id)).map BackupOperation.attempts).getD 0

theorem attemptsOf_mem {row : BackupOperation} (member : row ∈ table) :
    attemptsOf table row.id = row.attempts := by
  rw [attemptsOf, table.lookup_of_mem member List.mem_cons_self]
  rfl

theorem attemptsOf_le {id : Id} {bound : Nat}
    (each : forall row, row ∈ table -> row.id = id -> row.attempts ≤ bound) :
    attemptsOf table id ≤ bound := by
  unfold attemptsOf
  cases found : table.lookup (.id id) with
  | none => exact Nat.zero_le bound
  | some row =>
    apply each row (table.lookup_mem found)
    have occupied := table.lookup_key found
    simp only [Keyed.keys, List.mem_cons, BackupOperation.Key.id.injEq, reduceCtorEq, List.not_mem_nil,
      or_false] at occupied
    exact occupied.symm

/-- A rewriting that counts no attempt back. -/
theorem Rewritten.attempts_le {before after : Table BackupOperation} {target later : BackupOperation}
    (rewritten : Rewritten before after target later) (grown : target.attempts ≤ later.attempts) (id : Id) :
    attemptsOf before id ≤ attemptsOf after id := by
  apply attemptsOf_le
  rintro row member rfl
  by_cases same : row.id = target.id
  · rw [same, ← rewritten.id, attemptsOf_mem rewritten.later_mem,
      operation_eq member rewritten.member same]
    exact grown
  · rw [attemptsOf_mem (rewritten.keeps member same)]

theorem Turn.attempts_le {before after : Table BackupOperation} {point : BackupPoint}
    {next : Option BackupPoint} (turn : Turn draw before after point next) (id : Id) :
    attemptsOf before id ≤ attemptsOf after id := by
  cases turn with
  | kept same _ => rw [same]
  | added inserted _ =>
    apply attemptsOf_le
    rintro row member rfl
    rw [attemptsOf_mem ((Table.mem_insert inserted).mpr (Or.inl member))]
  | claimed _ rewritten _ attempts => exact rewritten.attempts_le (by omega) id
  | succeeded _ rewritten _ attempts => exact rewritten.attempts_le (by omega) id
  | failed _ _ rewritten _ attempts => exact rewritten.attempts_le (by omega) id
  | released _ rewritten _ attempts => exact rewritten.attempts_le (by omega) id

/-- The move claims the operation. -/
def claims (id : Id) (crowd : Crowd BackupStore BackupPoint) :
    CrowdMove BackupCall BackupDraw LiveEvent -> Bool
  | .advance process draw =>
    match crowd.processes process with
    | some (.claiming workerId) =>
      match claimBackupOperation workerId draw crowd.store with
      | .ok (_, operation) => operation.id = id
      | .error _ => false
    | _ => false
  | _ => false

end Backups
end DigitalSolutions
