import DigitalSolutions.Commerce.Settlement

namespace DigitalSolutions
namespace Commerce

open Foundation Persistence

/-!
# The joint state of an order, its invoice and its redemption

Three rows describe one purchase.  This module says which joint states are
sound and which joint moves the purchase may make, without saying which code
path makes them.  The code is connected to it by the simulation over the
storefront's transactions.
-/

variable {before after : Option Joint} {redemption : Option OfferRedemptionStatus}

/-- The moves of an order.  Nothing leads out of `refunded`. -/
inductive OrderMove : OrderStatus -> OrderStatus -> Prop
  | pay : OrderMove .pending .paid
  | cancel : OrderMove .pending .cancelled
  | payLate : OrderMove .cancelled .paid
  | refund : OrderMove .paid .refunded

/-- An order that was refunded stays refunded along every sequence of moves. -/
theorem OrderMove.refunded_final {status : OrderStatus}
    (path : Relation.ReflTransGen OrderMove .refunded status) : status = .refunded := by
  rcases Relation.ReflTransGen.cases_head path with same | ⟨next, first, _⟩
  · exact same.symm
  · cases first

structure Joint where
  order : OrderStatus
  invoice : InvoiceStatus
  redemption : Option OfferRedemptionStatus
  deriving DecidableEq

/-- The accounting rules between the three rows. -/
structure Lockstep (joint : Joint) : Prop where
  draft : joint.invoice = .draft ↔ joint.order = .pending ∨ joint.order = .cancelled
  final : joint.invoice = .final ↔ joint.order = .paid
  void : joint.invoice = .void ↔ joint.order = .refunded
  applied : joint.order = .paid -> forall status, joint.redemption = some status -> status = .applied
  returned : joint.order = .refunded -> forall status, joint.redemption = some status ->
    status = .refunded
  released : joint.redemption = some .released -> joint.order = .cancelled

/-- A reservation that is still open belongs to an order that is unpaid. -/
theorem Lockstep.reserved {joint : Joint} (holds : Lockstep joint)
    (reserved : joint.redemption = some .reserved) :
    joint.order = .pending ∨ joint.order = .cancelled := by
  cases status : joint.invoice with
  | draft => exact holds.draft.mp status
  | final =>
    have impossible := holds.applied (holds.final.mp status) _ reserved
    cases impossible
  | void =>
    have impossible := holds.returned (holds.void.mp status) _ reserved
    cases impossible

/-- The moves of a purchase.  A settlement may be repeated on a paid order,
where it finds everything done. -/
inductive JointMove : Option Joint -> Option Joint -> Prop
  | create (redemption : Option OfferRedemptionStatus)
    (reserved : forall status, redemption = some status -> status = .reserved) :
    JointMove none (some ⟨.pending, .draft, redemption⟩)
  | settle (joint : Joint)
    (payable : joint.order = .pending ∨ joint.order = .cancelled ∨ joint.order = .paid)
    (redeemable : forall status, joint.redemption = some status -> status = .reserved ∨
      status = .applied ∨ (status = .released ∧ joint.order = .cancelled)) :
    JointMove (some joint) (some ⟨.paid, .final, joint.redemption.map (fun _ => .applied)⟩)
  | cancel (invoice : InvoiceStatus) (redemption : Option OfferRedemptionStatus) :
    JointMove (some ⟨.pending, invoice, redemption⟩) (some ⟨.cancelled, invoice, redemption⟩)
  | release (invoice : InvoiceStatus) :
    JointMove (some ⟨.cancelled, invoice, some .reserved⟩) (some ⟨.cancelled, invoice, some .released⟩)
  | refund (invoice : InvoiceStatus) (redemption : Option OfferRedemptionStatus) :
    JointMove (some ⟨.paid, invoice, redemption⟩)
      (some ⟨.refunded, .void, redemption.map (fun _ => .refunded)⟩)

/-- Every purchase that exists is in lockstep. -/
def InLockstep (state : Option Joint) : Prop := forall joint, state = some joint -> Lockstep joint

theorem inLockstep_none : InLockstep none := by
  intro joint impossible
  cases impossible

theorem inLockstep_some {joint : Joint} : InLockstep (some joint) ↔ Lockstep joint := by
  constructor
  · intro holds
    exact holds joint rfl
  · intro holds other same
    cases same
    exact holds

private theorem Lockstep.paid (applied : forall status, redemption = some status -> status = .applied) :
    Lockstep ⟨.paid, .final, redemption⟩ where
  draft := by simp
  final := by simp
  void := by simp
  applied := fun _ => applied
  returned := nofun
  released := by
    intro released
    have impossible := applied _ released
    cases impossible

private theorem Lockstep.refunded
    (refunded : forall status, redemption = some status -> status = .refunded) :
    Lockstep ⟨.refunded, .void, redemption⟩ where
  draft := by simp
  final := by simp
  void := by simp
  applied := nofun
  returned := fun _ => refunded
  released := by
    intro released
    have impossible := refunded _ released
    cases impossible

private theorem map_constant {source : Option OfferRedemptionStatus}
    {target status : OfferRedemptionStatus} (mapped : source.map (fun _ => target) = some status) :
    status = target := by
  rcases Option.map_eq_some_iff.mp mapped with ⟨_, _, same⟩
  exact same.symm

/-- One move keeps the accounting rules. -/
theorem JointMove.lockstep (move : JointMove before after) (holds : InLockstep before) :
    InLockstep after := by
  rw [InLockstep] at holds
  cases move with
  | create redemption reserved =>
    rw [inLockstep_some]
    exact
      { draft := by simp
        final := by simp
        void := by simp
        applied := nofun
        returned := nofun
        released := by
          intro released
          have impossible := reserved _ released
          cases impossible }
  | settle joint payable redeemable =>
    rw [inLockstep_some]
    exact Lockstep.paid (fun status mapped => map_constant mapped)
  | cancel invoice redemption =>
    have old := holds _ rfl
    rw [inLockstep_some]
    exact
      { draft := ⟨fun _ => Or.inr rfl, fun _ => old.draft.mpr (Or.inl rfl)⟩
        final := ⟨fun final => absurd (old.final.mp final) nofun, nofun⟩
        void := ⟨fun void => absurd (old.void.mp void) nofun, nofun⟩
        applied := nofun
        returned := nofun
        released := fun _ => rfl }
  | release invoice =>
    have old := holds _ rfl
    rw [inLockstep_some]
    exact
      { draft := old.draft
        final := old.final
        void := old.void
        applied := nofun
        returned := nofun
        released := fun _ => rfl }
  | refund invoice redemption =>
    rw [inLockstep_some]
    exact Lockstep.refunded (fun status mapped => map_constant mapped)

/-- One move moves the order along at most one edge, and never removes it. -/
theorem JointMove.order (move : JointMove before after) {joint : Joint} (existed : before = some joint) :
    Exists fun next => after = some next ∧ Relation.ReflTransGen OrderMove joint.order next.order := by
  cases move with
  | create redemption reserved => cases existed
  | settle other payable redeemable =>
    cases existed
    refine ⟨_, rfl, ?_⟩
    rcases payable with pending | cancelled | paid
    · rw [pending]
      exact Relation.ReflTransGen.single .pay
    · rw [cancelled]
      exact Relation.ReflTransGen.single .payLate
    · rw [paid]
  | cancel invoice redemption =>
    cases existed
    exact ⟨_, rfl, Relation.ReflTransGen.single .cancel⟩
  | release invoice =>
    cases existed
    exact ⟨_, rfl, Relation.ReflTransGen.refl⟩
  | refund invoice redemption =>
    cases existed
    exact ⟨_, rfl, Relation.ReflTransGen.single .refund⟩

/-- A sequence of moves keeps the accounting rules. -/
theorem lockstep_of_moves (moves : Relation.ReflTransGen JointMove before after)
    (holds : InLockstep before) :
    InLockstep after := by
  induction moves with
  | refl => exact holds
  | tail _ move inductionHypothesis => exact move.lockstep inductionHypothesis

/-- A sequence of moves moves the order along the edges of `OrderMove`. -/
theorem order_of_moves (moves : Relation.ReflTransGen JointMove before after) {joint : Joint}
    (existed : before = some joint) :
    Exists fun next => after = some next ∧ Relation.ReflTransGen OrderMove joint.order next.order := by
  induction moves with
  | refl => exact ⟨joint, existed, Relation.ReflTransGen.refl⟩
  | tail _ move inductionHypothesis =>
    rcases inductionHypothesis with ⟨middle, reached, path⟩
    rcases move.order reached with ⟨next, same, step⟩
    exact ⟨next, same, path.trans step⟩

/-! ## The joint state in the tables -/

def joint (store : CommerceStore) (orderId : Id) : Option Joint :=
  (store.orders.lookup (.id orderId)).bind (fun order =>
    (store.invoices.lookup (.orderId orderId)).map (fun invoice =>
      { order := order.status
        invoice := invoice.status
        redemption := (store.offerRedemptions.lookup (.orderId orderId)).map OfferRedemption.status }))

/-- Every order has its invoice, and every redemption was reserved for an
order that existed by then. -/
structure Linked (store : CommerceStore) : Prop where
  invoiced : forall order, order ∈ store.orders ->
    Exists fun invoice => store.invoices.lookup (.orderId order.id) = some invoice
  redeemed : forall redemption, redemption ∈ store.offerRedemptions ->
    Exists fun order => order ∈ store.orders ∧ order.id = redemption.orderId ∧
      order.createdAt ≤ redemption.reservedAt

end Commerce
end DigitalSolutions
