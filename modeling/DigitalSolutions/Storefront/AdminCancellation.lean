import DigitalSolutions.Storefront.Lockstep

namespace DigitalSolutions
namespace Storefront

open Foundation Persistence Commerce Orders Payments

/-!
# Cancellations against settlements and refunds

The administrator route is the one cancellation that does not run in a
transaction.  It reads the order, checks that it is pending, and later writes
the status by the identifier alone.  The machine of this module runs the two
statements as separate steps between the transactions of the storefront.
-/

/-- An administrator's request after its read, with the row it has seen. -/
structure CancelRequest where
  requestId : Id
  seen : Order
  deriving DecidableEq

structure Counter where
  db : Db
  requests : List CancelRequest
  deriving DecidableEq

namespace Counter

def opening : Counter := ⟨Db.empty, []⟩

end Counter

inductive CancelStep
  | transaction (transaction : HostTransaction)
  | adminRead (requestId orderId : Id)
  | adminWrite (requestId : Id)

def requestOf (counter : Counter) (requestId : Id) : Option CancelRequest :=
  counter.requests.find? (fun request => request.requestId = requestId)

def closeRequest (requestId : Id) (counter : Counter) : Counter :=
  { counter with
    requests := counter.requests.filter (fun request => request.requestId ≠ requestId) }

def dbPart : Transaction.Part Counter Db where
  get := Counter.db
  set db counter := { counter with db }

def cancelStep (host : Host) : CancelStep -> Tx Counter Unit
  | .transaction transaction => (commit host transaction).within dbPart
  | .adminRead requestId orderId => do
    let seen <- (adminCancelRead orderId).within dbPart
    modify (fun counter => { counter with requests := ⟨requestId, seen⟩ :: counter.requests })
  | .adminWrite requestId => do
    let counter <- get
    let request <- Transaction.orFail (.message "NO_REQUEST") (requestOf counter requestId)
    (adminCancelWrite request.seen.id).within dbPart
    modify (closeRequest requestId)

/-- The storefront with an office in which administrators cancel orders. -/
def office (host : Host) : Machine Counter CancelStep TransactionError :=
  Machine.ofTransactions (cancelStep host)

/-- The step is a cancellation of the order, and it reports success. -/
def ReportsCancelled (counter : Counter) (orderId : Id) : CancelStep -> Prop
  | .transaction (.cancelOrder moment id permits) =>
    id = orderId ∧ Exists fun after => (cancelOrder moment id permits).Commits counter.db () after
  | .transaction (.cancelAgentPendingOrder moment id accountId) =>
    id = orderId ∧ Exists fun after =>
      (cancelAgentPendingOrder moment id accountId).Commits counter.db .cancelled after
  | .adminWrite requestId => Exists fun request => requestOf counter requestId = some request ∧
    request.seen.id = orderId ∧ Exists fun after =>
      (adminCancelWrite orderId).Commits counter.db () after
  | _ => False

/-- Money is never undone in a schedule: an order that is paid or refunded at
some point is one of the two at the end, a refunded one is still refunded,
and whatever reported a cancellation had found a pending order. -/
def MoneyKept (host : Host) (steps : List CancelStep) : Prop :=
  (forall earlier later, steps = earlier ++ later ->
    forall order, order ∈ ((office host).run Counter.opening earlier).db.commerce.orders ->
      order.status = .paid ∨ order.status = .refunded ->
      Exists fun row => row ∈ ((office host).run Counter.opening steps).db.commerce.orders ∧
        row.id = order.id ∧ (row.status = .paid ∨ row.status = .refunded) ∧
        (order.status = .refunded -> row.status = .refunded)) ∧
  (forall earlier step later, steps = earlier ++ step :: later -> forall orderId,
    ReportsCancelled ((office host).run Counter.opening earlier) orderId step ->
    Exists fun order =>
      ((office host).run Counter.opening earlier).db.commerce.orders.lookup (.id orderId) = some order ∧
      order.status = .pending)

/-- The condition: when an administrator's write runs, the order is the row
that the request has read. -/
def Undisturbed (counter : Counter) : CancelStep -> Prop
  | .adminWrite requestId => forall request, requestOf counter requestId = some request ->
    counter.db.commerce.orders.lookup (.id request.seen.id) = some request.seen
  | _ => True

/-! ## What keeps the books -/

/-- The books are kept, and every open request has seen a pending order. -/
structure Staffed (counter : Counter) : Prop where
  booked : Booked counter.db.commerce
  pending : forall request, request ∈ counter.requests -> request.seen.status = .pending

theorem staffed_opening : Staffed Counter.opening where
  booked := booked_empty
  pending := nofun

section Steps

variable {host : Host} {before after : Counter}

theorem adminCancelRead_commits {db stored : Db} {orderId : Id} {order : Order}
    (commits : (adminCancelRead orderId).Commits db order stored) :
    db.commerce.orders.lookup (.id orderId) = some order ∧ order.status = .pending ∧ stored = db := by
  unfold adminCancelRead at commits
  simp only [Transaction.commits_bind, Transaction.commits_get, Transaction.commits_orFail] at commits
  rcases commits with ⟨_, _, ⟨rfl, rfl⟩, found, _, ⟨isOrder, rfl⟩, commits⟩
  rcases Transaction.commits_ite.mp commits with ⟨_, commits⟩ | ⟨pending, commits⟩
  · simp only [Transaction.commits_bind, Transaction.not_commits_throw, false_and,
      exists_false] at commits
  · rcases Transaction.commits_pure.mp commits with ⟨rfl, rfl⟩
    exact ⟨isOrder, not_not.mp pending, rfl⟩

theorem adminCancelWrite_commits {db stored : Db} {orderId : Id} {answer : Unit}
    (commits : (adminCancelWrite orderId).Commits db answer stored) :
    stored = { db with commerce := cancelOrderRow orderId db.commerce } := by
  unfold adminCancelWrite at commits
  simp only [Transaction.commits_bind, Transaction.commits_get, Transaction.commits_orFail,
    Transaction.commits_set] at commits
  rcases commits with ⟨_, _, ⟨rfl, rfl⟩, _, _, ⟨_, rfl⟩, rfl⟩
  exact rfl

/-- One step of the office makes moves of the commerce tables, as long as an
administrator's write finds the order it has read. -/
theorem cancelStep_commerce {step : CancelStep} (staffed : Staffed before)
    (undisturbed : Undisturbed before step)
    (commits : (cancelStep host step).Commits before () after) :
    CommerceMoves before.db.commerce after.db.commerce ∧
      (forall request, request ∈ after.requests -> request.seen.status = .pending) := by
  cases step with
  | transaction transaction =>
    rcases Transaction.commits_within.mp commits with ⟨db, committed, rfl⟩
    exact ⟨commit_commerce committed, staffed.pending⟩
  | adminRead requestId orderId =>
    simp only [cancelStep, Transaction.commits_bind, Transaction.commits_within,
      Transaction.commits_modify] at commits
    rcases commits with ⟨seen, _, ⟨db, read, rfl⟩, rfl⟩
    rcases adminCancelRead_commits read with ⟨_, pending, rfl⟩
    refine ⟨Relation.ReflTransGen.refl, ?_⟩
    intro request member
    rcases List.mem_cons.mp member with rfl | old
    · exact pending
    · exact staffed.pending request old
  | adminWrite requestId =>
    simp only [cancelStep, Transaction.commits_bind, Transaction.commits_get, Transaction.commits_orFail,
      Transaction.commits_within, Transaction.commits_modify] at commits
    rcases commits with ⟨_, _, ⟨rfl, rfl⟩, request, _, ⟨opened, rfl⟩, _, _, ⟨db, wrote, rfl⟩, rfl⟩
    have pending := staffed.pending request (List.mem_of_find?_eq_some opened)
    have unchanged := undisturbed request opened
    rw [adminCancelWrite_commits wrote]
    refine ⟨Relation.ReflTransGen.single (.cancel request.seen unchanged pending), ?_⟩
    intro other member
    exact staffed.pending other (List.mem_filter.mp member).1

theorem Staffed.step {step : CancelStep} (staffed : Staffed before)
    (undisturbed : Undisturbed before step)
    (accepted : (office host).step before step = .ok after) : Staffed after := by
  have moves := cancelStep_commerce staffed undisturbed (Machine.ofTransactions_step.mp accepted)
  exact ⟨commerceMoves_booked moves.1 staffed.booked, moves.2⟩

theorem staffed_run {state : Counter} (staffed : Staffed state) {steps : List CancelStep}
    (admitted : (office host).Admits Undisturbed state steps) :
    Staffed ((office host).run state steps) :=
  Machine.run_invariant_of_admits
    (fun _ _ _ staffed undisturbed accepted => staffed.step undisturbed accepted) staffed admitted

/-- Seen through one order, a schedule is a sequence of joint moves. -/
theorem office_moves {state : Counter} (staffed : Staffed state) {steps : List CancelStep}
    (admitted : (office host).Admits Undisturbed state steps) (orderId : Id) :
    Relation.ReflTransGen JointMove (joint state.db.commerce orderId)
      (joint ((office host).run state steps).db.commerce orderId) := by
  have keeps : forall counter step next,
      (Staffed counter ∧ Relation.ReflTransGen JointMove (joint state.db.commerce orderId)
        (joint counter.db.commerce orderId)) ->
      Undisturbed counter step -> (office host).step counter step = .ok next ->
      Staffed next ∧ Relation.ReflTransGen JointMove (joint state.db.commerce orderId)
        (joint next.db.commerce orderId) := by
    rintro counter step next ⟨staffed, path⟩ undisturbed accepted
    have moves := cancelStep_commerce staffed undisturbed (Machine.ofTransactions_step.mp accepted)
    exact ⟨staffed.step undisturbed accepted,
      path.trans (commerceMoves_joint moves.1 staffed.booked orderId)⟩
  exact (Machine.run_invariant_of_admits keeps ⟨staffed, Relation.ReflTransGen.refl⟩ admitted).2

/-- A cancellation that reports success has found a pending order. -/
theorem pending_of_reportsCancelled {step : CancelStep} {orderId : Id} (staffed : Staffed before)
    (undisturbed : Undisturbed before step) (reports : ReportsCancelled before orderId step) :
    Exists fun order => before.db.commerce.orders.lookup (.id orderId) = some order ∧
      order.status = .pending := by
  cases step with
  | transaction transaction =>
    cases transaction with
    | cancelOrder moment id permits =>
      rcases reports with ⟨rfl, after, committed⟩
      exact (cancelOrder_commits committed).1
    | cancelAgentPendingOrder moment id accountId =>
      rcases reports with ⟨rfl, after, committed⟩
      rcases cancelAgentPendingOrder_commits committed with ⟨impossible, _⟩ | ⟨_, pending, _⟩
      · cases impossible
      · exact pending
    | _ => exact reports.elim
  | adminRead requestId id => exact reports.elim
  | adminWrite requestId =>
    rcases reports with ⟨request, opened, rfl, _⟩
    exact ⟨request.seen, undisturbed request opened,
      staffed.pending request (List.mem_of_find?_eq_some opened)⟩

end Steps

/-- Along the edges of an order, paid leads to paid or refunded only. -/
theorem OrderMove.kept {status later : OrderStatus} (money : status = .paid ∨ status = .refunded)
    (path : Relation.ReflTransGen OrderMove status later) :
    (later = .paid ∨ later = .refunded) ∧ (status = .refunded -> later = .refunded) := by
  induction path with
  | refl => exact ⟨money, id⟩
  | tail _ move inductionHypothesis =>
    rcases inductionHypothesis with ⟨paid | refunded, final⟩
    · subst paid
      cases move
      exact ⟨Or.inr rfl, fun _ => rfl⟩
    · subst refunded
      cases move

/-- As long as no administrator's write finds another row than the one its
request has read, no schedule undoes money. -/
theorem money_kept_of_undisturbed (host : Host) (steps : List CancelStep)
    (admitted : (office host).Admits Undisturbed Counter.opening steps) : MoneyKept host steps := by
  constructor
  · intro earlier later same order member money
    subst same
    have staffed := staffed_run staffed_opening admitted.left
    have moves := office_moves staffed admitted.right order.id
    rw [← Machine.run_append] at moves
    have found : ((office host).run Counter.opening earlier).db.commerce.orders.lookup
        (.id order.id) = some order :=
      Table.lookup_of_mem _ member (by simp [Keyed.keys])
    rcases staffed.booked.linked.invoiced order member with ⟨invoice, invoiced⟩
    rcases order_of_moves moves (joint_eq_some found invoiced) with ⟨books, reached, path⟩
    rcases Option.bind_eq_some_iff.mp reached with ⟨row, rowFound, reached⟩
    rcases Option.map_eq_some_iff.mp reached with ⟨_, _, rfl⟩
    have kept := OrderMove.kept money path
    exact ⟨row, Table.lookup_mem _ rowFound, order_id_of_lookup rowFound, kept.1, kept.2⟩
  · intro earlier step later same orderId reports
    subst same
    have staffed := staffed_run staffed_opening admitted.left
    exact pending_of_reportsCancelled staffed admitted.right.1 reports

/-- An administrator cancels a pending order, and a payment arrives late. -/
def quietOffice : List CancelStep :=
  [.transaction (.createPendingOrder
      (Reference.checkout "a" 0 .accountEntitlement .oneTime 1 none Reference.unrenewing)),
    .transaction (.recordCheckoutAttempt (Reference.attempt "a" 0)),
    .adminRead "request" "order:a",
    .adminWrite "request",
    .transaction (.claimEvent (Reference.moment "claim" 10)
      (Reference.delivery "paid" .paymentPaid "a" "pay" 9)),
    .transaction (.processVerifiedEvent (Reference.moment "paid" 11) "event:paid")]

/-- The payment is settled between the administrator's read and write. -/
def crossedOffice : List CancelStep :=
  [.transaction (.createPendingOrder
      (Reference.checkout "a" 0 .accountEntitlement .oneTime 1 none Reference.unrenewing)),
    .transaction (.recordCheckoutAttempt (Reference.attempt "a" 0)),
    .transaction (.claimEvent (Reference.moment "claim" 10)
      (Reference.delivery "paid" .paymentPaid "a" "pay" 9)),
    .adminRead "request" "order:a",
    .transaction (.processVerifiedEvent (Reference.moment "paid" 11) "event:paid"),
    .adminWrite "request"]

instance (counter : Counter) (step : CancelStep) : Decidable (Undisturbed counter step) :=
  match step with
  | .adminWrite requestId =>
    match found : requestOf counter requestId with
    | none => isTrue (by intro request other; rw [found] at other; cases other)
    | some request =>
      if same : counter.db.commerce.orders.lookup (.id request.seen.id) = some request.seen then
        isTrue (by intro other known; rw [found] at known; cases known; exact same)
      else isFalse (fun undisturbed => same (undisturbed request found))
  | .transaction _ | .adminRead _ _ => isTrue trivial

theorem money_kept_in_quietOffice : MoneyKept Reference.host quietOffice :=
  money_kept_of_undisturbed Reference.host quietOffice (by decide +kernel)

/-- A settled order ends up cancelled. -/
theorem money_undone_in_crossedOffice : ¬ MoneyKept Reference.host crossedOffice := by
  intro kept
  let settled : Order :=
    { (Reference.checkout "a" 0 .accountEntitlement .oneTime 1 none Reference.unrenewing).order with
      status := .paid, paidAt := some 9 }
  have member : settled ∈ ((office Reference.host).run Counter.opening
      (crossedOffice.take 5)).db.commerce.orders := by decide +kernel
  have allCancelled : ∀ row ∈ ((office Reference.host).run Counter.opening
      crossedOffice).db.commerce.orders.rows, row.status = .cancelled := by decide +kernel
  rcases kept.1 (crossedOffice.take 5) (crossedOffice.drop 5) rfl settled member (Or.inl rfl) with
    ⟨row, rowMember, _, money, _⟩
  rw [allCancelled row rowMember] at money
  rcases money with paid | refunded
  · cases paid
  · cases refunded

end Storefront
end DigitalSolutions
