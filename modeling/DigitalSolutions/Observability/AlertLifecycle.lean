import DigitalSolutions.Observability.Alerts

namespace DigitalSolutions
namespace Observability

open Foundation Persistence

/-!
# The lifecycle of an alert

Alerts can be decided on as long as each fingerprint has one alert.  A second
one, raised after the first was resolved or while it was being acknowledged,
cannot be brought to the status of the first.
-/

variable {before after : AlertStore} {draw : AlertDraw}

abbrev AlertMove := CrowdMove AlertCall AlertDraw Empty

/-- Statuses only move on. -/
inductive Forward : ObservabilityAlertStatus -> ObservabilityAlertStatus -> Prop
  | stays (status : ObservabilityAlertStatus) : Forward status status
  | acknowledged : Forward .opened .acknowledged
  | resolved (status : ObservabilityAlertStatus) : Forward status .resolved

/-- The only alert of its fingerprint. -/
def SingleRow (alerts : Table ObservabilityAlert) : Prop :=
  forall left right, left ∈ alerts -> right ∈ alerts -> left.fingerprint = right.fingerprint -> left = right

/-! ## What an access writes -/

/-- The alerts after an access. -/
inductive AlertWrite (before after : Table ObservabilityAlert) : AlertPoint -> Prop
  | kept {point : AlertPoint} (same : after = before) : AlertWrite before after point
  | refreshed {point : AlertPoint} {change : ObservabilityAlert -> ObservabilityAlert}
      (rows : after.rows = before.rows.map change)
      (same : forall alert, (change alert).id = alert.id ∧ (change alert).fingerprint = alert.fingerprint ∧
        (change alert).status = alert.status) : AlertWrite before after point
  | created {now : Time} {card : ObservabilityCard} {cards : List ObservabilityCard} {id : Id}
      (inserted : before.insert (card.newAlert id now) = some after) :
      AlertWrite before after (.creating now card cards)
  | decided {id : Id} {action : AlertAction} {adminId : Id} {now : Time}
      (rows : after.rows = before.rows.map fun alert =>
        if alert.id = id then action.apply adminId now alert else alert) :
      AlertWrite before after (.deciding id action adminId)

theorem alertStep_write (store : AlertStore) (draw : AlertDraw) (point : AlertPoint) :
    AlertWrite store.alerts (alertStep store draw point).1.alerts point := by
  cases point with
  | starting cards => exact .kept rfl
  | finding now cards =>
    cases cards with
    | nil => exact .kept rfl
    | cons card cards =>
      simp only [alertStep]
      split
      · exact .kept rfl
      · split
        · exact .kept rfl
        · exact .kept rfl
  | refreshing now id card cards =>
    simp only [alertStep]
    split
    · refine .refreshed store.alerts.rows_update ?_
      intro alert
      split
      · exact ⟨rfl, rfl, rfl⟩
      · exact ⟨rfl, rfl, rfl⟩
    · exact .kept rfl
  | creating now card cards =>
    simp only [alertStep, createAlert]
    cases inserted : store.alerts.insert (card.newAlert draw.fresh now) with
    | none => exact .kept rfl
    | some alerts => exact .created inserted
  | deciding id action adminId =>
    simp only [alertStep, decideAlert]
    cases found : store.alerts.lookup (.id id) with
    | none => exact .kept rfl
    | some alert =>
      cases amended : store.alerts.amend (fun alert => alert.id = id) (action.apply adminId draw.now) with
      | none => exact .kept rfl
      | some alerts =>
        have rows := store.alerts.rows_amend amended
        simp only [decide_eq_true_eq] at rows
        exact .decided rows
  | auditing id action adminId => exact .kept rfl

theorem apply_fingerprint (action : AlertAction) (adminId : Id) (now : Time) (alert : ObservabilityAlert) :
    (action.apply adminId now alert).id = alert.id ∧
      (action.apply adminId now alert).fingerprint = alert.fingerprint ∧
      (action.apply adminId now alert).status = action.status := by
  cases action <;> exact ⟨rfl, rfl, rfl⟩

/-! ## Conditions on a run -/

/-- An alert is not created beside one that has been acknowledged or resolved,
and what has been resolved is not acknowledged. -/
def Orderly (crowd : Crowd AlertStore AlertPoint) : AlertMove -> Prop
  | .advance process draw =>
    match crowd.processes process with
    | some (.creating _ card _) => draw.throws = false -> forall alert, alert ∈ crowd.store.alerts ->
        alert.fingerprint = card.fingerprint -> alert.status = .opened
    | some (.deciding id .acknowledge _) => draw.throws = false -> forall alert,
        alert ∈ crowd.store.alerts -> alert.id = id -> alert.status ≠ .resolved
    | _ => True
  | _ => True

/-- What `Orderly` says about a write. -/
structure OrderlyWrite (alerts : Table ObservabilityAlert) (point : AlertPoint) : Prop where
  created : forall now card cards, point = .creating now card cards -> forall alert, alert ∈ alerts ->
    alert.fingerprint = card.fingerprint -> alert.status = .opened
  acknowledged : forall id adminId, point = .deciding id .acknowledge adminId -> forall alert,
    alert ∈ alerts -> alert.id = id -> alert.status ≠ .resolved

theorem orderly_write {crowd : Crowd AlertStore AlertPoint} {process : Nat} {point : AlertPoint}
    (orderly : Orderly crowd (.advance process draw)) (here : crowd.processes process = some point)
    (steady : draw.throws = false) : OrderlyWrite crowd.store.alerts point where
  created := by
    rintro now card cards rfl
    simp only [Orderly, here] at orderly
    exact orderly steady
  acknowledged := by
    rintro id adminId rfl
    simp only [Orderly, here] at orderly
    exact orderly steady

namespace AlertWrite

variable {before after : Table ObservabilityAlert} {point : AlertPoint}

theorem singleRow (write : AlertWrite before after point) (orderly : OrderlyWrite before point)
    (single : SingleRow before) : SingleRow after := by
  have mapped : forall change : ObservabilityAlert -> ObservabilityAlert,
      after.rows = before.rows.map change ->
      (forall alert, (change alert).fingerprint = alert.fingerprint) -> SingleRow after := by
    intro change rows same left right leftMember rightMember sameFingerprint
    rcases (Table.mem_of_rows rows).mp leftMember with ⟨left, leftOld, rfl⟩
    rcases (Table.mem_of_rows rows).mp rightMember with ⟨right, rightOld, rfl⟩
    rw [same, same] at sameFingerprint
    rw [single left right leftOld rightOld sameFingerprint]
  cases write with
  | kept same =>
    rw [same]
    exact single
  | refreshed rows same => exact mapped _ rows fun alert => (same alert).2.1
  | @created now card cards id inserted =>
    -- An open alert would have taken the entry of the new one.
    have alone : forall alert, alert ∈ before -> alert.fingerprint ≠ card.fingerprint := by
      intro alert member same
      have isOpen := orderly.created now card cards rfl alert member same
      apply Table.fits_of_insert inserted alert member (.fingerprint alert.fingerprint alert.status)
      · exact List.mem_cons_of_mem _ List.mem_cons_self
      · rw [same, isOpen]
        exact List.mem_cons_of_mem _ List.mem_cons_self
    intro left right leftMember rightMember same
    rcases (Table.mem_insert inserted).mp leftMember with leftOld | rfl
    · rcases (Table.mem_insert inserted).mp rightMember with rightOld | rfl
      · exact single left right leftOld rightOld same
      · exact absurd same (alone left leftOld)
    · rcases (Table.mem_insert inserted).mp rightMember with rightOld | rfl
      · exact absurd same.symm (alone right rightOld)
      · rfl
  | decided rows =>
    apply mapped _ rows
    intro alert
    split
    · exact (apply_fingerprint _ _ _ alert).2.1
    · rfl

theorem forward (write : AlertWrite before after point) (orderly : OrderlyWrite before point)
    {alert : ObservabilityAlert} (member : alert ∈ before) :
    Exists fun later => later ∈ after ∧ later.id = alert.id ∧ Forward alert.status later.status := by
  cases write with
  | kept same =>
    rw [same]
    exact ⟨alert, member, rfl, .stays _⟩
  | @refreshed _ change rows same =>
    refine ⟨change alert, (Table.mem_of_rows rows).mpr ⟨alert, member, rfl⟩, (same alert).1, ?_⟩
    rw [(same alert).2.2]
    exact .stays _
  | created inserted => exact ⟨alert, (Table.mem_insert inserted).mpr (Or.inl member), rfl, .stays _⟩
  | @decided id action adminId now rows =>
    by_cases isDecided : alert.id = id
    · have applied := apply_fingerprint action adminId now alert
      refine ⟨action.apply adminId now alert, (Table.mem_of_rows rows).mpr ⟨alert, member, if_pos isDecided⟩,
        applied.1, ?_⟩
      rw [applied.2.2]
      cases action with
      | resolve => exact .resolved _
      | acknowledge =>
        have unresolved := orderly.acknowledged id adminId rfl alert member isDecided
        cases status : alert.status with
        | opened => exact .acknowledged
        | acknowledged => exact .stays _
        | resolved => exact absurd status unresolved
    · exact ⟨alert, (Table.mem_of_rows rows).mpr ⟨alert, member, if_neg isDecided⟩, rfl, .stays _⟩

end AlertWrite

/-! ## Alerts that can be decided on -/

/-- The unique index does not stand in the way of a decision. -/
theorem decideAlert_some {store : AlertStore} {alert : ObservabilityAlert} (single : SingleRow store.alerts)
    (member : alert ∈ store.alerts) (action : AlertAction) (adminId : Id) (now : Time) :
    Exists fun after => decideAlert alert.id action adminId now store = some after ∧
      Exists fun later => later ∈ after.alerts ∧ later.id = alert.id ∧ later.status = action.status := by
  have found : store.alerts.lookup (.id alert.id) = some alert :=
    store.alerts.lookup_of_mem member List.mem_cons_self
  have consistent : (store.alerts.rows.map fun row =>
      if decide (row.id = alert.id) = true then action.apply adminId now row else row).Pairwise Apart := by
    rw [List.pairwise_map]
    apply List.Pairwise.imp_of_mem _ store.alerts.consistent
    intro left right leftMember rightMember apart key inLeft inRight
    have differentId : left.id ≠ right.id := by
      intro same
      apply apart (.id left.id) List.mem_cons_self
      rw [same]
      exact List.mem_cons_self
    have differentFingerprint : left.fingerprint ≠ right.fingerprint := by
      intro same
      exact differentId (congrArg ObservabilityAlert.id (single left right leftMember rightMember same))
    have keys : forall row : ObservabilityAlert, Exists fun status => Keyed.keys
        (if decide (row.id = alert.id) = true then action.apply adminId now row else row) =
          [ObservabilityAlert.Key.id row.id, .fingerprint row.fingerprint status] := by
      intro row
      split
      · have applied := apply_fingerprint action adminId now row
        exact ⟨action.status, by simp only [Keyed.keys, applied.1, applied.2.1, applied.2.2]⟩
      · exact ⟨row.status, rfl⟩
    rcases keys left with ⟨leftStatus, isLeft⟩
    rcases keys right with ⟨rightStatus, isRight⟩
    rw [isLeft] at inLeft
    rw [isRight] at inRight
    simp only [List.mem_cons, List.not_mem_nil, or_false] at inLeft inRight
    rcases inLeft with rfl | rfl
    · rcases inRight with same | same
      · exact differentId (ObservabilityAlert.Key.id.inj same)
      · cases same
    · rcases inRight with same | same
      · cases same
      · exact differentFingerprint (ObservabilityAlert.Key.fingerprint.inj same).1
  cases amended : store.alerts.amend (fun row => row.id = alert.id) (action.apply adminId now) with
  | none =>
    unfold Table.amend at amended
    rw [dif_pos consistent] at amended
    cases amended
  | some alerts =>
    have applied := apply_fingerprint action adminId now alert
    refine ⟨{ store with alerts }, ?_, action.apply adminId now alert, ?_, applied.1, applied.2.2⟩
    · simp only [decideAlert, found, amended, Option.map_some]
    · refine (store.alerts.mem_amend amended).mpr ⟨alert, member, if_pos ?_⟩
      exact decide_eq_true rfl

/-! ## Runs -/

def alertRun (moves : List AlertMove) : Crowd AlertStore AlertPoint :=
  alertProtocol.machine.run (Crowd.opening ⟨∅, []⟩) moves

structure AlertsKept (moves : List AlertMove) : Prop where
  active : forall left right, left ∈ (alertRun moves).store.alerts -> right ∈ (alertRun moves).store.alerts ->
    left.isActive = true -> right.isActive = true -> left.fingerprint = right.fingerprint -> left = right
  forward : forall past move rest, moves = past ++ move :: rest -> forall alert,
    alert ∈ (alertRun past).store.alerts ->
    Exists fun later => later ∈ (alertRun (past ++ [move])).store.alerts ∧ later.id = alert.id ∧
      Forward alert.status later.status
  decided : forall alert, alert ∈ (alertRun moves).store.alerts -> alert.isActive = true ->
    forall action adminId now, Exists fun after =>
      decideAlert alert.id action adminId now (alertRun moves).store = some after ∧
      Exists fun later => later ∈ after.alerts ∧ later.id = alert.id ∧ later.status = action.status

/-- The write of an accepted move. -/
theorem step_write {crowd next : Crowd AlertStore AlertPoint} {move : AlertMove} (orderly : Orderly crowd move)
    (accepted : alertProtocol.machine.step crowd move = .ok next) :
    Exists fun point => AlertWrite crowd.store.alerts next.store.alerts point ∧
      OrderlyWrite crowd.store.alerts point := by
  have idle : OrderlyWrite crowd.store.alerts (.starting []) := by
    refine ⟨?_, ?_⟩
    · rintro now card cards ⟨⟩
    · rintro id adminId ⟨⟩
  rcases Protocol.step_store accepted with same | ⟨process, draw, point, later, rfl, here, advanced⟩ |
    ⟨event, _⟩
  · exact ⟨.starting [], .kept (congrArg AlertStore.alerts same), idle⟩
  · have done := Except.ok.inj advanced
    cases throws : draw.throws with
    | true =>
      rw [throws, if_pos rfl] at done
      exact ⟨.starting [], .kept (congrArg AlertStore.alerts (congrArg Prod.fst done).symm), idle⟩
    | false =>
      rw [throws, if_neg Bool.false_ne_true] at done
      have write := alertStep_write crowd.store draw point
      rw [done] at write
      exact ⟨point, write, orderly_write orderly here throws⟩
  · exact nomatch event

theorem singleRow_run {moves : List AlertMove}
    (admitted : alertProtocol.machine.Admits Orderly (Crowd.opening ⟨∅, []⟩) moves) :
    SingleRow (alertRun moves).store.alerts := by
  have preserved : forall crowd move next, SingleRow (Crowd.store crowd).alerts -> Orderly crowd move ->
      alertProtocol.machine.step crowd move = .ok next -> SingleRow next.store.alerts := by
    intro crowd move next single orderly accepted
    rcases step_write orderly accepted with ⟨point, write, orderlyWrite⟩
    exact write.singleRow orderlyWrite single
  have initially : SingleRow (Crowd.opening ⟨∅, []⟩ : Crowd AlertStore AlertPoint).store.alerts := by
    intro left right leftMember
    exact absurd leftMember (Table.not_mem_empty left)
  exact Machine.run_invariant_of_admits preserved initially admitted

def databaseCard : ObservabilityCard := ⟨"database", "Database", .critical, "unreachable", .null⟩

/-- A snapshot with the card is synchronised. -/
def raise (id : Id) : List AlertMove :=
  [.start 0 (.sync [databaseCard])] ++ List.replicate 4 (.advance 0 ⟨0, id, false⟩)

def act (id : Id) (action : AlertAction) : List AlertMove :=
  [.start 1 (.decide id action "admin"), .advance 1 ⟨1, "", false⟩, .advance 1 ⟨1, "", false⟩]

/-- `Orderly`, as a check. -/
def orderly (crowd : Crowd AlertStore AlertPoint) : AlertMove -> Bool
  | .advance process _ =>
    match crowd.processes process with
    | some (.creating _ card _) => crowd.store.alerts.rows.all fun alert =>
        !decide (alert.fingerprint = card.fingerprint) || decide (alert.status = .opened)
    | some (.deciding id .acknowledge _) => crowd.store.alerts.rows.all fun alert =>
        !decide (alert.id = id) || !decide (alert.status = .resolved)
    | _ => true
  | _ => true

theorem orderly_spec {crowd : Crowd AlertStore AlertPoint} {move : AlertMove}
    (checked : orderly crowd move = true) : Orderly crowd move := by
  cases move with
  | start process call => trivial
  | stop process => trivial
  | ambient event => trivial
  | advance process draw =>
    simp only [orderly] at checked
    simp only [Orderly]
    split
    · rename_i here
      simp only [here, List.all_eq_true, Bool.or_eq_true, Bool.not_eq_true', decide_eq_false_iff_not,
        decide_eq_true_eq] at checked
      intro _ alert member same
      exact (checked alert member).resolve_left (fun different => different same)
    · rename_i here
      simp only [here, List.all_eq_true, Bool.or_eq_true, Bool.not_eq_true', decide_eq_false_iff_not] at checked
      intro _ alert member same
      exact (checked alert member).resolve_left (fun different => different same)
    · trivial

/-- Raised, refreshed, acknowledged and resolved. -/
def oneLifecycle : List AlertMove :=
  raise "first" ++ raise "second" ++ act "first" .acknowledge ++ act "first" .resolve

end Observability
end DigitalSolutions
