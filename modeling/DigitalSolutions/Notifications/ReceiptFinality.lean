import DigitalSolutions.Notifications.Receipts

namespace DigitalSolutions
namespace Notifications

open Foundation Persistence

/-!
# Receipts move forward

A receipt moves forward as long as it is, when a request upserts it, what the
request has read: the upsert itself looks at nothing.
-/

variable {inbox : NotificationsInboxPolicyCapability}
variable {crowd : Crowd NotificationStore ReceiptPoint} {state current : NotificationsReceiptState}
variable {principal : NotificationsPrincipalContext} {store : NotificationStore} {now : Time}
variable {action : ReceiptAction}
variable {notificationId : Id}

abbrev ReceiptMove := CrowdMove ReceiptCall ReceiptDraw NotificationEvent

def NotificationsReceiptState.rank : NotificationsReceiptState -> Nat
  | .unread => 0
  | .read => 1
  | .dismissed => 2

/-- A later state of a receipt. -/
structure Onward (old new : NotificationReceipt) : Prop where
  sameKey : new.notificationId = old.notificationId ∧ new.userId = old.userId
  state : old.state.rank ≤ new.state.rank
  readAt : forall time, old.readAt = some time -> new.readAt = some time
  /-- What is dismissed changes no more. -/
  dismissed : old.state = .dismissed -> new = old

namespace Onward

theorem refl (receipt : NotificationReceipt) : Onward receipt receipt :=
  ⟨⟨rfl, rfl⟩, Nat.le_refl _, fun _ same => same, fun _ => rfl⟩

theorem trans {first second third : NotificationReceipt} (left : Onward first second)
    (right : Onward second third) : Onward first third where
  sameKey := ⟨right.sameKey.1.trans left.sameKey.1, right.sameKey.2.trans left.sameKey.2⟩
  state := Nat.le_trans left.state right.state
  readAt time isRead := right.readAt time (left.readAt time isRead)
  dismissed isDismissed := by
    have same := left.dismissed isDismissed
    subst same
    exact right.dismissed isDismissed

end Onward

/-! ## An upsert -/

/-- What an upsert makes of the receipts that are there. -/
theorem mem_upsertReceipt {userId : Id} {receipts : Table NotificationReceipt}
    {receipt : NotificationReceipt} (member : receipt ∈ receipts) :
    Exists fun later => later ∈ upsertReceipt notificationId userId state now receipts ∧
      (later = receipt ∨ (receipt.notificationId = notificationId ∧ receipt.userId = userId ∧
        later = { receipt with
          state
          readAt := if state = .read then some now else receipt.readAt
          dismissedAt := if state = .dismissed then some now else receipt.dismissedAt })) := by
  unfold upsertReceipt
  split
  · rename_i created inserted
    exact ⟨receipt, (Table.mem_insert inserted).mpr (Or.inl member), Or.inl rfl⟩
  · refine ⟨_, (Table.mem_of_rows receipts.rows_update).mpr ⟨receipt, member, rfl⟩, ?_⟩
    split
    · rename_i chosen
      exact Or.inr ⟨chosen.1, chosen.2, rfl⟩
    · exact Or.inl rfl

/-! ## Conditions on a run -/

/-- Since a request has read the receipt no other request has dismissed it, or
marked it as read if the request is to do so. -/
def AsRead (crowd : Crowd NotificationStore ReceiptPoint) : ReceiptMove -> Prop
  | .advance process draw =>
    match crowd.processes process with
    | some (.upserting userId notificationId current state) => draw.throws = false -> forall receipt,
        receipt ∈ crowd.store.receipts -> receipt.notificationId = notificationId ->
        receipt.userId = userId ->
        (receipt.state = .dismissed -> current = .dismissed) ∧
          (state = .read -> receipt.readAt ≠ none -> current = .read)
    | _ => True
  | _ => True

/-- What a request is about to write, the policy has decided. -/
def Decided (inbox : NotificationsInboxPolicyCapability) : ReceiptPoint -> Prop
  | .upserting _ _ current state => Exists fun action =>
      inbox.transitionReceipt current action = .changed state
  | _ => True

theorem decided_of_decideReceipt {userId : Id}
    (decided : decideReceipt inbox now principal userId notificationId action store = some (current, state)) :
    inbox.transitionReceipt current action = .changed state := by
  unfold decideReceipt at decided
  split at decided
  · cases decided
  · rename_i row found
    simp only at decided
    split at decided
    · cases decided
    · rename_i snapshot taken
      generalize visibility : (inbox.visibility now snapshot principal _) = shown at decided
      split at decided
      · cases decided
      · split at decided
        · cases decided
        · cases decided
        · rename_i next transition
          cases decided
          exact transition

section Contract

variable (contract : PolicyContract inbox)
include contract

/-- Requests write onto receipts that were neither dismissed nor, for a mark,
read when they were read. -/
theorem decided_current (decided : inbox.transitionReceipt current action = .changed state) :
    current ≠ .dismissed ∧ (state = .read -> current ≠ .read) ∧ state ≠ .unread := by
  refine ⟨?_, ?_, ?_⟩
  · rintro rfl
    rw [contract.dismissed] at decided
    cases decided
  · rintro rfl rfl
    cases action with
    | markRead =>
      rw [contract.read] at decided
      cases decided
    | dismiss => cases contract.dismisses _ _ decided
  · rintro rfl
    cases action with
    | markRead => cases contract.marks _ _ decided
    | dismiss => cases contract.dismisses _ _ decided

/-- An upsert moves the receipts forward that are as they were read. -/
theorem onward_upsert {userId : Id} {receipts : Table NotificationReceipt} {receipt : NotificationReceipt}
    (decided : inbox.transitionReceipt current action = .changed state)
    (asRead : receipt.notificationId = notificationId -> receipt.userId = userId ->
      (receipt.state = .dismissed -> current = .dismissed) ∧
        (state = .read -> receipt.readAt ≠ none -> current = .read)) (member : receipt ∈ receipts) :
    Exists fun later => later ∈ upsertReceipt notificationId userId state now receipts ∧
      Onward receipt later := by
  rcases mem_upsertReceipt member with ⟨later, laterMember, rfl | ⟨sameNotification, sameUser, isLater⟩⟩
  · exact ⟨later, laterMember, Onward.refl later⟩
  · refine ⟨later, laterMember, ?_⟩
    have known := decided_current contract decided
    have fresh := asRead sameNotification sameUser
    have live : receipt.state ≠ .dismissed := fun isDismissed => known.1 (fresh.1 isDismissed)
    subst isLater
    refine ⟨⟨rfl, rfl⟩, ?_, ?_, ?_⟩
    · cases state with
      | unread => exact absurd rfl known.2.2
      | read =>
        cases isState : receipt.state with
        | unread => exact Nat.zero_le 1
        | read => exact Nat.le_refl 1
        | dismissed => exact absurd isState live
      | dismissed =>
        cases receipt.state with
        | unread => exact Nat.zero_le 2
        | read => exact Nat.le_succ 1
        | dismissed => exact Nat.le_refl 2
    · intro time isRead
      by_cases marks : state = .read
      · have wasRead := fresh.2 marks (by rw [isRead]; exact Option.some_ne_none time)
        exact absurd wasRead (known.2.1 marks)
      · simp only [marks, if_false]
        exact isRead
    · intro isDismissed
      exact absurd isDismissed live

end Contract

/-! ## Runs -/

def receiptRun (inbox : NotificationsInboxPolicyCapability) (moves : List ReceiptMove) :
    Crowd NotificationStore ReceiptPoint :=
  (receiptProtocol inbox).machine.run (Crowd.opening ⟨∅, ∅, []⟩) moves

/-- What requests are about to write, the policy has decided, in every run. -/
theorem outlined : Protocol.Outlined (receiptProtocol inbox) (fun _ _ => True) (fun _ => True)
    (fun _ _ point => Decided inbox point) where
  enters crowd process call _ _ := by
    cases call <;> exact trivial
  advances crowd process point draw after later _ _ _ advanced := by
    refine ⟨trivial, ?_⟩
    intro next isNext
    have done := Except.ok.inj advanced
    split at done
    · cases done
      cases isNext
    · cases point with
      | identifying userId role notificationId action =>
        cases done
        cases isNext
        trivial
      | reading principal userId notificationId action =>
        simp only [receiptStep] at done
        split at done
        · cases done
          cases isNext
        · rename_i current state decided
          cases done
          cases isNext
          exact ⟨action, decided_of_decideReceipt decided⟩
      | upserting userId notificationId current state =>
        cases done
        cases isNext
  spares crowd process point draw after later holds _ _ _ other bystander _ stands :=
    holds.points other bystander stands
  ambient crowd event after holds _ _ := ⟨trivial, fun other bystander stands => holds.points other bystander stands⟩

/-- Each receipt is still there, and has moved forward. -/
def AllOnward (before after : Table NotificationReceipt) : Prop :=
  forall receipt, receipt ∈ before -> Exists fun later => later ∈ after ∧ Onward receipt later

theorem AllOnward.of_eq {before after : Table NotificationReceipt} (same : after = before) :
    AllOnward before after := by
  intro receipt member
  rw [same]
  exact ⟨receipt, member, Onward.refl receipt⟩

theorem AllOnward.trans {first second third : Table NotificationReceipt} (left : AllOnward first second)
    (right : AllOnward second third) : AllOnward first third := by
  intro receipt member
  rcases left receipt member with ⟨middle, middleMember, toMiddle⟩
  rcases right middle middleMember with ⟨later, laterMember, toLater⟩
  exact ⟨later, laterMember, toMiddle.trans toLater⟩

/-- One access moves the receipts forward. -/
theorem onward_receiptStep (contract : PolicyContract inbox) {process : Nat} {draw : ReceiptDraw}
    {point : ReceiptPoint} (asRead : AsRead crowd (.advance process draw))
    (here : crowd.processes process = some point) (steady : draw.throws = false)
    (decided : Decided inbox point) :
    AllOnward crowd.store.receipts (receiptStep inbox crowd.store draw point).1.receipts := by
  cases point with
  | identifying userId role notificationId action => exact .of_eq rfl
  | reading principal userId notificationId action =>
    apply AllOnward.of_eq
    simp only [receiptStep]
    split
    · rfl
    · rfl
  | upserting userId notificationId current state =>
    simp only [AsRead, here] at asRead
    rcases decided with ⟨action, decided⟩
    intro receipt member
    exact onward_upsert contract decided (asRead steady receipt member) member

/-- What others do leaves the receipts alone. -/
theorem notificationEvent_receipts {before after : NotificationStore} {event : NotificationEvent}
    (changed : notificationEvent before event = .ok after) : after.receipts = before.receipts := by
  cases event with
  | persisted row =>
    simp only [notificationEvent] at changed
    split at changed
    · cases changed
    · cases changed
      rfl
  | ended id now =>
    cases changed
    rfl
  | accounts rows =>
    cases changed
    rfl

theorem onward_step (contract : PolicyContract inbox) {next : Crowd NotificationStore ReceiptPoint}
    {move : ReceiptMove}
    (decided : forall process point, crowd.processes process = some point -> Decided inbox point)
    (asRead : AsRead crowd move) (accepted : (receiptProtocol inbox).machine.step crowd move = .ok next) :
    AllOnward crowd.store.receipts next.store.receipts := by
  rcases Protocol.step_store accepted with same | ⟨process, draw, point, later, rfl, here, advanced⟩ |
    ⟨event, rfl, changed⟩
  · exact .of_eq (congrArg NotificationStore.receipts same)
  · have done := Except.ok.inj advanced
    cases throws : draw.throws with
    | true =>
      rw [throws, if_pos rfl] at done
      exact .of_eq (congrArg NotificationStore.receipts (congrArg Prod.fst done).symm)
    | false =>
      rw [throws, if_neg Bool.false_ne_true] at done
      have onward := onward_receiptStep contract asRead here throws (decided process point here)
      rw [done] at onward
      exact onward
  · exact .of_eq (notificationEvent_receipts changed)

theorem onward_run (contract : PolicyContract inbox) {moves : List ReceiptMove}
    (decided : forall process point, crowd.processes process = some point -> Decided inbox point)
    (admitted : (receiptProtocol inbox).machine.Admits AsRead crowd moves) :
    AllOnward crowd.store.receipts ((receiptProtocol inbox).machine.run crowd moves).store.receipts := by
  have preserved : forall state move next,
      (Protocol.Holds (fun _ => True) (fun _ _ point => Decided inbox point) state ∧
        AllOnward crowd.store.receipts (Crowd.store state).receipts) -> AsRead state move ->
      (receiptProtocol inbox).machine.step state move = .ok next ->
      Protocol.Holds (fun _ => True) (fun _ _ point => Decided inbox point) next ∧
        AllOnward crowd.store.receipts next.store.receipts := by
    rintro state move next ⟨holds, onward⟩ asRead accepted
    refine ⟨outlined.step holds trivial accepted, ?_⟩
    exact onward.trans (onward_step contract holds.points asRead accepted)
  exact (Machine.run_invariant_of_admits preserved ⟨⟨trivial, decided⟩, .of_eq rfl⟩ admitted).2

/-! ## Listings -/

/-- A dismissed notification is no item of a listing that does not ask for it. -/
theorem listItem_dismissed (contract : PolicyContract inbox) {row : NotificationMessage}
    {item : WebNotificationItem} (listed : listItem inbox now store principal false row = .ok (some item)) :
    item.id = row.id ∧ receiptState store row.id principal.principalId ≠ .dismissed := by
  cases taken : rowSnapshot row with
  | error reason =>
    simp only [listItem, taken, bind, Except.bind] at listed
    cases listed
  | ok snapshot =>
    simp only [listItem, taken, bind, Except.bind, pure, Except.pure, Bool.false_eq_true, false_and,
      not_false_eq_true, and_true] at listed
    split at listed
    · cases listed
    · rename_i visible
      rw [not_ne_iff] at visible
      cases listed
      refine ⟨rfl, ?_⟩
      intro isDismissed
      rw [isDismissed] at visible
      exact contract.hides _ _ _ visible

theorem listItems_undismissed (contract : PolicyContract inbox) {limit : Nat}
    {rows : List NotificationMessage} {items : List WebNotificationItem}
    (listed : listItems inbox now store principal false limit rows = .ok items) :
    forall item, item ∈ items -> receiptState store item.id principal.principalId ≠ .dismissed := by
  induction rows generalizing limit items with
  | nil =>
    intro item member
    cases limit <;> cases listed <;> cases member
  | cons row rows inductionHypothesis =>
    cases limit with
    | zero =>
      cases listed
      intro item member
      cases member
    | succ limit =>
      cases first : listItem inbox now store principal false row with
      | error reason =>
        simp only [listItems, first, bind, Except.bind] at listed
        cases listed
      | ok shown =>
        cases shown with
        | none =>
          simp only [listItems, first, bind, Except.bind] at listed
          exact inductionHypothesis listed
        | some head =>
          simp only [listItems, first, bind, Except.bind, pure, Except.pure] at listed
          split at listed
          · cases listed
          · rename_i tail rest
            cases listed
            intro item member
            rcases List.mem_cons.mp member with rfl | inTail
            · have known := listItem_dismissed contract first
              rw [known.1]
              exact known.2
            · exact inductionHypothesis rest item inTail

/-! ## The receipts of a run -/

structure ReceiptsKept (inbox : NotificationsInboxPolicyCapability) (moves : List ReceiptMove) : Prop where
  onward : forall past rest, moves = past ++ rest ->
    AllOnward (receiptRun inbox past).store.receipts (receiptRun inbox moves).store.receipts
  hidden : forall past rest, moves = past ++ rest -> forall receipt,
    receipt ∈ (receiptRun inbox past).store.receipts -> receipt.state = .dismissed ->
    forall now principal limit items, principal.principalId = receipt.userId ->
    listNotificationsForPrincipal inbox now principal limit false (receiptRun inbox moves).store = .ok items ->
    forall item, item ∈ items -> item.id ≠ receipt.notificationId

/-- The receipts in every run whose requests write onto what they have read. -/
theorem receipts_kept_of_asRead (inbox : NotificationsInboxPolicyCapability) (contract : PolicyContract inbox)
    (moves : List ReceiptMove)
    (admitted : (receiptProtocol inbox).machine.Admits AsRead (Crowd.opening ⟨∅, ∅, []⟩) moves) :
    ReceiptsKept inbox moves := by
  have onward : forall past rest, moves = past ++ rest ->
      AllOnward (receiptRun inbox past).store.receipts (receiptRun inbox moves).store.receipts := by
    intro past rest split
    subst split
    have decided : Protocol.Holds (fun _ => True) (fun _ _ point => Decided inbox point)
        (receiptRun inbox past) := by
      apply outlined.run (Protocol.holds_opening trivial)
      exact Machine.admits_all (fun _ _ => trivial) _ past
    rw [receiptRun, receiptRun, Machine.run_append]
    exact onward_run contract decided.points admitted.right
  refine ⟨onward, ?_⟩
  intro past rest split receipt member isDismissed now principal limit items isUser listed item inItems same
  rcases onward past rest split receipt member with ⟨later, laterMember, toLater⟩
  have isLater := toLater.dismissed isDismissed
  subst isLater
  apply listItems_undismissed contract listed item inItems
  have found : (receiptRun inbox moves).store.receipts.lookup ⟨later.notificationId, later.userId⟩ = some later :=
    Table.lookup_of_mem _ laterMember List.mem_cons_self
  rw [receiptState, same, isUser, found, Option.map_some, isDismissed, Option.getD_some]

/-! ## A mark that comes after a dismissal, and a receipt's whole way -/

/-- A policy that shows everybody what is not dismissed. -/
def openInbox : NotificationsInboxPolicyCapability where
  visibility _ _ _ state := if state = some .dismissed then .hidden "DISMISSED" else .visible
  transitionReceipt
    | .unread, .markRead => .changed .read
    | .read, .markRead => .unchanged .read
    | .dismissed, _ => .unchanged .dismissed
    | _, .dismiss => .changed .dismissed

theorem openInbox_contract : PolicyContract openInbox where
  read := rfl
  dismissed action := by cases action <;> rfl
  marks state next transition := by
    cases state <;> cases transition
    rfl
  dismisses state next transition := by cases state <;> cases transition <;> rfl
  hides now snapshot principal visible := by cases visible

def invoiceReady : NotificationMessage :=
  { id := "notification"
    idempotencyKey := "invoice-ready:1"
    sourceModule := "billing"
    sourceEvent := "INVOICE_READY"
    sourceReference := none
    audienceKind := "ALL_USERS"
    audiencePrincipalId := none
    audienceAccountId := none
    audienceSegmentKey := none
    audienceVisitorId := none
    title := "Invoice"
    body := "Ready"
    category := "BILLING"
    priority := "NORMAL"
    trigger := none
    placementHint := none
    attributes := .object []
    data := none
    productId := none
    createdAt := 0
    expiresAt := none }

def accessAt (process : Nat) (now : Time) : ReceiptMove := .advance process ⟨now, false⟩

/-- The web marks the notification as read, and has read it before the agent
dismisses it. -/
def dismissedMeanwhile : List ReceiptMove :=
  [.ambient (.persisted invoiceReady), .start 0 (.web "user" "CUSTOMER" "notification" .markRead),
    accessAt 0 1, accessAt 0 2, .start 1 (.agent "user" "account" "notification" .dismiss), accessAt 1 3,
    accessAt 1 4]

theorem receipts_not_kept_when_marked_late : ¬ ReceiptsKept openInbox (dismissedMeanwhile ++ [accessAt 0 5]) := by
  intro kept
  have wasDismissed : (⟨"notification", "user", .dismissed, none, some 4⟩ : NotificationReceipt) ∈
      (receiptRun openInbox dismissedMeanwhile).store.receipts := by
    decide +kernel
  rcases kept.onward dismissedMeanwhile _ rfl _ wasDismissed with ⟨later, member, onward⟩
  have isRead : forall receipt, receipt ∈
      (receiptRun openInbox (dismissedMeanwhile ++ [accessAt 0 5])).store.receipts.rows ->
      receipt.state = .read := by
    decide +kernel
  have isDismissed := congrArg NotificationReceipt.state (onward.dismissed rfl)
  rw [isRead later member] at isDismissed
  cases isDismissed

/-- `AsRead`, as a check. -/
def asRead (crowd : Crowd NotificationStore ReceiptPoint) : ReceiptMove -> Bool
  | .advance process _ =>
    match crowd.processes process with
    | some (.upserting userId notificationId current state) => crowd.store.receipts.rows.all fun receipt =>
        !decide (receipt.notificationId = notificationId ∧ receipt.userId = userId) ||
          (!decide (receipt.state = .dismissed) || decide (current = .dismissed)) &&
            (!decide (state = .read ∧ receipt.readAt ≠ none) || decide (current = .read))
    | _ => true
  | _ => true

theorem asRead_spec {move : ReceiptMove} (checked : asRead crowd move = true) : AsRead crowd move := by
  cases move with
  | start process call => trivial
  | stop process => trivial
  | ambient event => trivial
  | advance process draw =>
    simp only [asRead] at checked
    simp only [AsRead]
    split
    · rename_i here
      simp only [here, List.all_eq_true, Bool.or_eq_true, Bool.and_eq_true, Bool.not_eq_true',
        decide_eq_false_iff_not, decide_eq_true_eq] at checked
      intro _ receipt member sameNotification sameUser
      rcases checked receipt member with other | ⟨dismissed, read⟩
      · exact absurd ⟨sameNotification, sameUser⟩ other
      · exact ⟨fun isDismissed => dismissed.resolve_left (fun live => live isDismissed),
          fun marks hasRead => read.resolve_left (fun unmarked => unmarked ⟨marks, hasRead⟩)⟩
    · trivial

/-- Marked by the web, dismissed by the agent while another mark is on its way,
and dismissed again. -/
def wholeWay : List ReceiptMove :=
  [.ambient (.persisted invoiceReady), .start 0 (.web "user" "CUSTOMER" "notification" .markRead),
    accessAt 0 1, accessAt 0 2, accessAt 0 3, .start 0 (.web "user" "CUSTOMER" "notification" .dismiss),
    accessAt 0 4, accessAt 0 5, .start 1 (.agent "user" "account" "notification" .markRead), accessAt 1 6,
    accessAt 0 7, .start 1 (.agent "user" "account" "notification" .dismiss), accessAt 1 8]

theorem receipts_kept_of_asRead_whole_way :
    (receiptRun openInbox wholeWay).store.receipts.rows =
      [⟨"notification", "user", .dismissed, some 3, some 7⟩] ∧ ReceiptsKept openInbox wholeWay := by
  refine ⟨by decide +kernel, ?_⟩
  apply receipts_kept_of_asRead openInbox openInbox_contract
  have checked : (receiptProtocol openInbox).machine.Admits (fun crowd move => asRead crowd move = true)
      (Crowd.opening ⟨∅, ∅, []⟩) wholeWay := by
    decide +kernel
  exact checked.mono fun _ _ => asRead_spec

end Notifications
end DigitalSolutions
