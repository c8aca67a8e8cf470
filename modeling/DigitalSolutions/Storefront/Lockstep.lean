import DigitalSolutions.Commerce.Bookkeeping
import DigitalSolutions.Storefront.CommerceWrites
import DigitalSolutions.Storefront.Reference

namespace DigitalSolutions
namespace Storefront

open Foundation Persistence Commerce Orders Payments Scheduler

/-!
# The storefront keeps its three books in lockstep

Every committed transaction moves every purchase along the joint moves.  The
sweep is the case that needs the dates: it releases a reservation only when
the order is at least as old, so the order is cancelled by the same sweep.
-/

variable {before after : CommerceStore}
variable {order : Order} {orderId : Id} {store : CommerceStore}
variable {redemption : Option OfferRedemption} {cutoff : Time}
variable {row : OfferRedemption}

/-! ## Links between the rows -/

theorem linked_of_samePurchases (same : SamePurchases before after) (linked : Linked before) :
    Linked after where
  invoiced := by
    intro order member
    rcases same.orders.before member with ⟨old, oldMember, sameTerms⟩
    rcases linked.invoiced old oldMember with ⟨invoice, found⟩
    rcases same.invoices.after (before.invoices.lookup_mem found) with ⟨row, rowMember, sameInvoice⟩
    have sameId : old.id = order.id := Table.eq_of_mask sameTerms (fun _ => rfl)
    have sameOrder : row.orderId = invoice.orderId := Table.eq_of_mask sameInvoice (fun _ => rfl)
    have ofOrder : old.id = invoice.orderId := by
      simpa [Keyed.keys] using before.invoices.lookup_key found
    refine ⟨row, after.invoices.lookup_of_mem rowMember ?_⟩
    simp [Keyed.keys, sameOrder, ← ofOrder, sameId]
  redeemed := by
    intro redemption member
    rcases same.offerRedemptions.before member with ⟨old, oldMember, sameTerms⟩
    rcases linked.redeemed old oldMember with ⟨order, orderMember, sameId, earlier⟩
    rcases same.orders.after orderMember with ⟨row, rowMember, sameOrder⟩
    have rowId : row.id = order.id := Table.eq_of_mask sameOrder (fun _ => rfl)
    have rowCreated : row.createdAt = order.createdAt := Table.eq_of_mask sameOrder (fun _ => rfl)
    have oldId : old.orderId = redemption.orderId := Table.eq_of_mask sameTerms (fun _ => rfl)
    have oldReserved : old.reservedAt = redemption.reservedAt :=
      Table.eq_of_mask sameTerms (fun _ => rfl)
    exact ⟨row, rowMember, rowId.trans (sameId.trans oldId), by
      rw [rowCreated, ← oldReserved]
      exact earlier⟩

theorem mem_insertRedemption {table inserted : Table OfferRedemption}
    (done : insertRedemption redemption table = some inserted) :
    row ∈ inserted ↔ row ∈ table ∨ redemption = some row := by
  cases redemption with
  | none =>
    cases done
    simp only [reduceCtorEq, or_false]
  | some new =>
    rw [Table.mem_insert done, Option.some.injEq, eq_comm (a := row)]

theorem linked_of_created {rows : CheckoutRows} (created : Created rows before after)
    (linked : Linked before) : Linked after where
  invoiced := by
    intro order member
    rcases (Table.mem_insert created.orders).mp member with old | rfl
    · rcases linked.invoiced order old with ⟨invoice, found⟩
      refine ⟨invoice, after.invoices.lookup_of_mem ?_ (before.invoices.lookup_key found)⟩
      exact (Table.mem_insert created.invoices).mpr (Or.inl (before.invoices.lookup_mem found))
    · refine ⟨rows.invoice, after.invoices.lookup_of_mem ?_ ?_⟩
      · exact (Table.mem_insert created.invoices).mpr (Or.inr rfl)
      · simp [Keyed.keys, rows.invoice_of_order]
  redeemed := by
    intro redemption member
    rcases (mem_insertRedemption created.offerRedemptions).mp member with old | new
    · rcases linked.redeemed redemption old with ⟨order, orderMember, facts⟩
      exact ⟨order, (Table.mem_insert created.orders).mpr (Or.inl orderMember), facts⟩
    · refine ⟨rows.order, (Table.mem_insert created.orders).mpr (Or.inr rfl), ?_, ?_⟩
      · exact (rows.redemption_of_order redemption new).symm
      · exact rows.reserved_after_creation redemption new

theorem CommerceMove.linked (move : CommerceMove before after) (linked : Linked before) :
    Linked after := by
  rcases move.purchases with same | ⟨rows, created⟩
  · exact linked_of_samePurchases same linked
  · exact linked_of_created created linked

/-! ## The moves of one purchase -/

theorem joint_eq_some {invoice : Invoice} (found : store.orders.lookup (.id orderId) = some order)
    (invoiced : store.invoices.lookup (.orderId orderId) = some invoice) :
    joint store orderId = some ⟨order.status, invoice.status,
      (store.offerRedemptions.lookup (.orderId orderId)).map OfferRedemption.status⟩ := by
  simp only [joint, found, invoiced, Option.bind_some, Option.map_some]

theorem joint_congr {first second : CommerceStore}
    (orders : second.orders.lookup (.id orderId) = first.orders.lookup (.id orderId))
    (invoices : second.invoices.lookup (.orderId orderId) = first.invoices.lookup (.orderId orderId))
    (redemptions : second.offerRedemptions.lookup (.orderId orderId) =
      first.offerRedemptions.lookup (.orderId orderId)) :
    joint second orderId = joint first orderId := by
  simp only [joint, orders, invoices, redemptions]

theorem order_id_of_lookup (found : store.orders.lookup (.id orderId) = some order) : order.id = orderId :=
  (lookup_self found).1

theorem invoice_order_of_lookup {invoice : Invoice}
    (found : store.invoices.lookup (.orderId orderId) = some invoice) : invoice.orderId = orderId := by
  have key := store.invoices.lookup_key found
  simpa [Keyed.keys, eq_comm] using key

theorem redemption_order_of_lookup {redemption : OfferRedemption}
    (found : store.offerRedemptions.lookup (.orderId orderId) = some redemption) :
    redemption.orderId = orderId := by
  have key := store.offerRedemptions.lookup_key found
  simpa [Keyed.keys, eq_comm] using key

section Settle

variable {input : SettleInput} {invoice : Invoice}

/-- A settlement leaves every other purchase alone. -/
theorem joint_settledStore_other (settleable : Settleable before input order invoice)
    (other : orderId ≠ order.id) :
    joint (settledStore order invoice (before.offerRedemptions.lookup (.orderId order.id))
      input.settledAt before) orderId = joint before orderId := by
  apply joint_congr
  · rw [settledStore_orders]
    split
    · refine Table.lookup_of_unselected rfl (fun _ _ => rfl) (fun row found => ?_)
      simpa [order_id_of_lookup found] using other
    · rfl
  · rw [settledStore_invoices]
    split
    · refine Table.lookup_of_unselected rfl (fun _ _ => rfl) (fun row found => ?_)
      simp only [decide_eq_false_iff_not]
      intro sameId
      have inBoth : Invoice.Key.id invoice.id ∈ Keyed.keys row := by simp [Keyed.keys, sameId]
      have sameRow : row = invoice := before.invoices.eq_of_common_key (before.invoices.lookup_mem found)
        (before.invoices.lookup_mem settleable.invoiced) inBoth (by simp [Keyed.keys])
      apply other
      rw [← invoice_order_of_lookup found, sameRow, invoice_order_of_lookup settleable.invoiced]
    · rfl
  · rw [settledStore_offerRedemptions]
    split
    · refine Table.lookup_of_unselected rfl (fun _ _ => rfl) (fun row found => ?_)
      simp only [decide_eq_false_iff_not]
      intro sameId
      rcases Option.map_eq_some_iff.mp sameId.symm with ⟨redemption, ofOrder, sameId⟩
      have inBoth : OfferRedemption.Key.id redemption.id ∈ Keyed.keys row := by
        simp [Keyed.keys, sameId]
      have sameRow : row = redemption := before.offerRedemptions.eq_of_common_key
        (before.offerRedemptions.lookup_mem found) (before.offerRedemptions.lookup_mem ofOrder) inBoth
        (by simp [Keyed.keys])
      apply other
      rw [← redemption_order_of_lookup found, sameRow, redemption_order_of_lookup ofOrder]
    · rfl

private theorem settled_invoice (settleable : Settleable before input order invoice) : Exists fun row =>
      (settledStore order invoice redemption input.settledAt before).invoices.lookup
        (.orderId order.id) = some row ∧ row.status = .final := by
  have invoiced := settleable.invoiced
  rw [settledStore_invoices]
  by_cases waits : awaitsPayment order = true
  · refine ⟨{ invoice with status := .final, issuedAt := some input.settledAt }, ?_, rfl⟩
    rw [if_pos waits, finaliseInvoice, Table.lookup_update, invoiced]
    simp only [Option.map_some, decide_true, if_true]
  · refine ⟨invoice, by rw [if_neg waits, invoiced], ?_⟩
    have fits := settleable.invoiceFits
    rcases settleable.status with pending | paid | cancelled
    · exact absurd (by simp [awaitsPayment, pending]) waits
    · simpa [invoiceFits, waits, paid] using fits
    · exact absurd (by simp [awaitsPayment, cancelled]) waits

/-- A redemption that a settlement accepts was reserved, applied already, or
released by a local cancellation. -/
theorem redeemable_of_redemptionFits (fits : redemptionFits order (some row) = true) :
    row.status = .reserved ∨ row.status = .applied ∨
      (row.status = .released ∧ order.status = .cancelled) := by
  simp only [redemptionFits, releasedAfterLocalCancellation, Option.map_some, Option.some.injEq,
    Bool.or_eq_true, Bool.and_eq_true, decide_eq_true_eq] at fits
  tauto

private theorem settled_redemption (settleable : Settleable before input order invoice) :
    ((settledStore order invoice (before.offerRedemptions.lookup (.orderId order.id))
      input.settledAt before).offerRedemptions.lookup (.orderId order.id)).map OfferRedemption.status =
        (before.offerRedemptions.lookup (.orderId order.id)).map (fun _ => .applied) := by
  have fits := settleable.redemptionFits
  rw [settledStore_offerRedemptions]
  cases found : before.offerRedemptions.lookup (.orderId order.id) with
  | none =>
    have idle : appliesRedemption order none = false := by
      simp [appliesRedemption, releasedAfterLocalCancellation]
    simp only [idle, Bool.false_eq_true, if_false, found, Option.map_none]
  | some row =>
    rw [found] at fits
    by_cases applies : appliesRedemption order (some row) = true
    · rw [if_pos applies, applyRedemption, Table.lookup_update, found]
      simp only [Option.map_some, decide_true, if_true]
    · rw [if_neg applies, found]
      rcases redeemable_of_redemptionFits fits with reserved | applied | ⟨released, cancelled⟩
      · exact absurd (by simp [appliesRedemption, reserved]) applies
      · simp only [Option.map_some, applied]
      · exact absurd (by simp [appliesRedemption, releasedAfterLocalCancellation, released, cancelled])
          applies

/-- The settled purchase is paid in all three books. -/
theorem joint_settledStore_self (settleable : Settleable before input order invoice) :
    joint (settledStore order invoice (before.offerRedemptions.lookup (.orderId order.id))
      input.settledAt before) order.id =
        some ⟨.paid, .final, (before.offerRedemptions.lookup (.orderId order.id)).map
          (fun _ => .applied)⟩ := by
  rcases settledStore_paid settleable with ⟨paidOrder, found, paid⟩
  rcases settled_invoice settleable with ⟨finalInvoice, invoiced, final⟩
  rw [joint_eq_some found invoiced, settled_redemption settleable, paid, final]

/-- A settlement is one move of the settled purchase. -/
theorem settle_moves (settleable : Settleable before input order invoice) (orderId : Id) :
    Relation.ReflTransGen JointMove (joint before orderId)
      (joint (settledStore order invoice (before.offerRedemptions.lookup (.orderId order.id))
        input.settledAt before) orderId) := by
  by_cases same : orderId = order.id
  · subst same
    have found := (lookup_self settleable.found).2
    rw [joint_settledStore_self settleable, joint_eq_some found settleable.invoiced]
    refine Relation.ReflTransGen.single ?_
    have move := JointMove.settle ⟨order.status, invoice.status,
      (before.offerRedemptions.lookup (.orderId order.id)).map OfferRedemption.status⟩
      (by have status := settleable.status; tauto) (by
        intro status mapped
        rcases Option.map_eq_some_iff.mp mapped with ⟨row, ofOrder, rfl⟩
        have fits := settleable.redemptionFits
        rw [ofOrder] at fits
        exact redeemable_of_redemptionFits fits)
    simpa only [Option.map_map, Function.comp_def] using move
  · rw [joint_settledStore_other settleable same]

end Settle

/-- A cancellation is one move of the cancelled purchase. -/
theorem cancel_moves (found : before.orders.lookup (.id order.id) = some order)
    (pending : order.status = .pending) (linked : Linked before) (orderId : Id) :
    Relation.ReflTransGen JointMove (joint before orderId)
      (joint (cancelOrderRow order.id before) orderId) := by
  by_cases same : orderId = order.id
  · subst same
    rcases linked.invoiced order (before.orders.lookup_mem found) with ⟨invoice, invoiced⟩
    have cancelled : (cancelOrderRow order.id before).orders.lookup (.id order.id) =
        some { order with status := .cancelled } := by
      rw [cancelOrderRow, Table.lookup_update, found]
      simp only [Option.map_some, decide_true, if_true]
    have stillInvoiced : (cancelOrderRow order.id before).invoices.lookup (.orderId order.id) =
        some invoice := invoiced
    rw [joint_eq_some found invoiced, joint_eq_some cancelled stillInvoiced, pending]
    exact Relation.ReflTransGen.single (.cancel _ _)
  · have unchanged : joint (cancelOrderRow order.id before) orderId = joint before orderId := by
      apply joint_congr
      · refine Table.lookup_of_unselected rfl (fun _ _ => rfl) (fun row found => ?_)
        simpa [order_id_of_lookup found] using same
      · rfl
      · rfl
    rw [unchanged]

/-- A refund is one move of the refunded purchase. -/
theorem refund_moves (found : before.orders.lookup (.id order.id) = some order)
    (paid : order.status = .paid) (linked : Linked before) (orderId : Id) :
    Relation.ReflTransGen JointMove (joint before orderId)
      (joint (refundCommerce order.id before) orderId) := by
  by_cases same : orderId = order.id
  · subst same
    rcases linked.invoiced order (before.orders.lookup_mem found) with ⟨invoice, invoiced⟩
    have refunded : (refundCommerce order.id before).orders.lookup (.id order.id) =
        some { order with status := .refunded } := by
      rw [refundCommerce, Table.lookup_update, found]
      simp only [Option.map_some, decide_true, if_true]
    have voided : (refundCommerce order.id before).invoices.lookup (.orderId order.id) =
        some { invoice with status := .void } := by
      rw [refundCommerce, Table.lookup_update, invoiced]
      simp only [Option.map_some, invoice_order_of_lookup invoiced, decide_true, if_true]
    have returned : ((refundCommerce order.id before).offerRedemptions.lookup (.orderId order.id)).map
        OfferRedemption.status = ((before.offerRedemptions.lookup (.orderId order.id)).map
          OfferRedemption.status).map (fun _ => .refunded) := by
      rw [refundCommerce, Table.lookup_update]
      cases ofOrder : before.offerRedemptions.lookup (.orderId order.id) with
      | none => rfl
      | some row =>
        simp only [Option.map_some, redemption_order_of_lookup ofOrder, decide_true, if_true]
    rw [joint_eq_some found invoiced, joint_eq_some refunded voided, returned, paid]
    exact Relation.ReflTransGen.single (.refund _ _)
  · have unchanged : joint (refundCommerce order.id before) orderId = joint before orderId := by
      apply joint_congr
      · refine Table.lookup_of_unselected rfl (fun _ _ => rfl) (fun row found => ?_)
        simpa [order_id_of_lookup found] using same
      · refine Table.lookup_of_unselected rfl (fun _ _ => rfl) (fun row found => ?_)
        simpa [invoice_order_of_lookup found] using same
      · refine Table.lookup_of_unselected rfl (fun _ _ => rfl) (fun row found => ?_)
        simpa [redemption_order_of_lookup found] using same
    rw [unchanged]

/-- What the sweep does to the status of one order. -/
def sweptStatus (cutoff : Time) (order : Order) : OrderStatus :=
  if order.status = .pending ∧ order.createdAt < cutoff then .cancelled else order.status

/-- What the sweep does to the status of one redemption. -/
def sweptRedemption (cutoff : Time) (redemption : OfferRedemption) : OfferRedemptionStatus :=
  if redemption.status = .reserved ∧ redemption.reservedAt < cutoff then .released
  else redemption.status

theorem joint_sweep {now : Time} {invoice : Invoice}
    (found : before.orders.lookup (.id orderId) = some order)
    (invoiced : before.invoices.lookup (.orderId orderId) = some invoice) :
    joint (releaseReservations cutoff now (abandonOrders cutoff before)) orderId =
      some ⟨sweptStatus cutoff order, invoice.status,
        (before.offerRedemptions.lookup (.orderId orderId)).map (sweptRedemption cutoff)⟩ := by
  have order' : (abandonOrders cutoff before).orders.lookup (.id orderId) =
      some { order with status := sweptStatus cutoff order } := by
    rw [abandonOrders, Table.lookup_update, found]
    by_cases old : order.status = .pending ∧ order.createdAt < cutoff
    · simp [sweptStatus, old]
    · have kept : (decide (order.status = .pending) && decide (order.createdAt < cutoff)) = false := by
        simpa using old
      simp only [sweptStatus, old, kept, Bool.false_eq_true, if_false, Option.map_some]
  have redemption' : ((releaseReservations cutoff now
      (abandonOrders cutoff before)).offerRedemptions.lookup (.orderId orderId)).map
        OfferRedemption.status =
      (before.offerRedemptions.lookup (.orderId orderId)).map (sweptRedemption cutoff) := by
    rw [releaseReservations, Table.lookup_update]
    change Option.map _ (Option.map _ (before.offerRedemptions.lookup (.orderId orderId))) = _
    rw [Option.map_map]
    congr 1
    funext row
    by_cases old : row.status = .reserved ∧ row.reservedAt < cutoff
    · simp [sweptRedemption, old]
    · have kept : (decide (row.status = .reserved) && decide (row.reservedAt < cutoff)) = false := by
        simpa using old
      simp only [Function.comp, sweptRedemption, old, kept, Bool.false_eq_true, if_false]
  have sweptOrder : (releaseReservations cutoff now (abandonOrders cutoff before)).orders.lookup
      (.id orderId) = some { order with status := sweptStatus cutoff order } := order'
  have sweptInvoice : (releaseReservations cutoff now (abandonOrders cutoff before)).invoices.lookup
      (.orderId orderId) = some invoice := invoiced
  rw [joint_eq_some sweptOrder sweptInvoice, redemption']

theorem joint_eq_none_of_missing (missing : store.orders.lookup (.id orderId) = none) :
    joint store orderId = none := by
  simp only [joint, missing, Option.bind_none]

/-- The first statement of the sweep cancels an old pending order. -/
private theorem abandon_moves {invoice : InvoiceStatus} {redemption : Option OfferRedemptionStatus} :
    Relation.ReflTransGen JointMove (some ⟨order.status, invoice, redemption⟩)
      (some ⟨sweptStatus cutoff order, invoice, redemption⟩) := by
  by_cases old : order.status = .pending ∧ order.createdAt < cutoff
  · rw [sweptStatus, if_pos old, old.1]
    exact Relation.ReflTransGen.single (.cancel _ _)
  · rw [sweptStatus, if_neg old]

/-- Where the sweep releases a reservation, it has cancelled the order. -/
private theorem sweptStatus_of_stale (earlier : order.createdAt ≤ row.reservedAt)
    (unpaid : order.status = .pending ∨ order.status = .cancelled) (old : row.reservedAt < cutoff) :
    sweptStatus cutoff order = .cancelled := by
  have orderOld : order.createdAt < cutoff := lt_of_le_of_lt earlier old
  rcases unpaid with pending | cancelled
  · rw [sweptStatus, if_pos ⟨pending, orderOld⟩]
  · rw [sweptStatus, if_neg (by simp [cancelled]), cancelled]

/-- The last statement of the sweep releases old reservations of orders that
are cancelled by then. -/
private theorem release_moves {invoice : InvoiceStatus}
    (earlier : forall row, redemption = some row -> order.createdAt ≤ row.reservedAt)
    (unpaid : redemption.map OfferRedemption.status = some .reserved ->
      order.status = .pending ∨ order.status = .cancelled) :
    Relation.ReflTransGen JointMove
      (some ⟨sweptStatus cutoff order, invoice, redemption.map OfferRedemption.status⟩)
      (some ⟨sweptStatus cutoff order, invoice, redemption.map (sweptRedemption cutoff)⟩) := by
  cases redemption with
  | none => exact Relation.ReflTransGen.refl
  | some row =>
    simp only [Option.map_some]
    by_cases stale : row.status = .reserved ∧ row.reservedAt < cutoff
    · have reserved : (some row).map OfferRedemption.status = some .reserved := by
        rw [Option.map_some, stale.1]
      rw [sweptStatus_of_stale (earlier row rfl) (unpaid reserved) stale.2, sweptRedemption,
        if_pos stale, stale.1]
      exact Relation.ReflTransGen.single (.release invoice)
    · rw [sweptRedemption, if_neg stale]

/-- The sweep cancels, releases, does both, or passes by. -/
theorem sweep_moves {now : Time} (linked : Linked before) (lockstep : InLockstep (joint before orderId)) :
    Relation.ReflTransGen JointMove (joint before orderId)
      (joint (releaseReservations cutoff now (abandonOrders cutoff before)) orderId) := by
  cases found : before.orders.lookup (.id orderId) with
  | none =>
    have stillMissing : (releaseReservations cutoff now (abandonOrders cutoff before)).orders.lookup
        (.id orderId) = none := by
      change (abandonOrders cutoff before).orders.lookup (.id orderId) = none
      rw [abandonOrders, Table.lookup_update, found]
      rfl
    rw [joint_eq_none_of_missing found, joint_eq_none_of_missing stillMissing]
  | some order =>
    rcases linked.invoiced order (before.orders.lookup_mem found) with ⟨invoice, invoiced⟩
    rw [order_id_of_lookup found] at invoiced
    rw [joint_sweep found invoiced]
    rw [joint_eq_some found invoiced] at lockstep ⊢
    have holds := inLockstep_some.mp lockstep
    refine abandon_moves.trans (release_moves ?_ holds.reserved)
    intro row ofOrder
    rcases linked.redeemed row (before.offerRedemptions.lookup_mem ofOrder) with
      ⟨owner, ownerMember, ownerId, earlier⟩
    have ownerFound : before.orders.lookup (.id orderId) = some owner :=
      before.orders.lookup_of_mem ownerMember
        (by simp [Keyed.keys, ownerId, redemption_order_of_lookup ofOrder])
    rw [Option.some.inj (found.symm.trans ownerFound)]
    exact earlier

private theorem lookup_insertRedemption {table inserted : Table OfferRedemption}
    (done : insertRedemption redemption table = some inserted)
    (owned : forall row, redemption = some row -> row.orderId ≠ orderId) :
    inserted.lookup (.orderId orderId) = table.lookup (.orderId orderId) := by
  cases redemption with
  | none => rw [Option.some.inj done]
  | some row =>
    rw [Table.lookup_insert done, if_neg]
    simpa [Keyed.keys, eq_comm] using owned row rfl

/-- A checkout starts its own purchase and touches no other. -/
theorem create_moves {rows : CheckoutRows} (created : Created rows before after)
    (linked : Linked before) (orderId : Id) :
    Relation.ReflTransGen JointMove (joint before orderId) (joint after orderId) := by
  have orders := Table.lookup_insert created.orders (.id orderId)
  have invoices := Table.lookup_insert created.invoices (.orderId orderId)
  by_cases same : orderId = rows.order.id
  · subst same
    have missing : before.orders.lookup (.id rows.order.id) = none :=
      Table.lookup_eq_none_of_insert created.orders (by simp [Keyed.keys])
    have unredeemed : before.offerRedemptions.lookup (.orderId rows.order.id) = none := by
      rw [Table.lookup_eq_none]
      intro row member occupied
      rcases linked.redeemed row member with ⟨owner, ownerMember, ownerId, _⟩
      have ofOrder : row.orderId = rows.order.id := by simpa [Keyed.keys, eq_comm] using occupied
      have absent := before.orders.lookup_eq_none.mp missing owner ownerMember
      exact absent (by simp [Keyed.keys, ownerId, ofOrder])
    have redeemed : after.offerRedemptions.lookup (.orderId rows.order.id) = rows.redemption := by
      have done := created.offerRedemptions
      cases offered : rows.redemption with
      | none =>
        rw [offered] at done
        rw [← Option.some.inj done, unredeemed]
      | some row =>
        rw [offered, insertRedemption] at done
        rw [Table.lookup_insert done, if_pos]
        simp [Keyed.keys, rows.redemption_of_order row offered]
    rw [if_pos (by simp [Keyed.keys])] at orders
    rw [if_pos (by simp [Keyed.keys, rows.invoice_of_order])] at invoices
    rw [joint_eq_none_of_missing missing, joint_eq_some orders invoices, redeemed, rows.order_pending,
      rows.invoice_draft]
    refine Relation.ReflTransGen.single (.create _ ?_)
    intro status mapped
    rcases Option.map_eq_some_iff.mp mapped with ⟨row, offered, rfl⟩
    exact rows.redemption_reserved row offered
  · have unchanged : joint after orderId = joint before orderId := by
      apply joint_congr
      · rw [orders, if_neg]
        simpa [Keyed.keys] using same
      · rw [invoices, if_neg]
        simpa [Keyed.keys, rows.invoice_of_order] using same
      · refine lookup_insertRedemption created.offerRedemptions (fun row offered => ?_)
        rw [rows.redemption_of_order row offered]
        exact Ne.symm same
    rw [unchanged]

/-! ## The storefront refines the joint moves -/

/-- What every reachable commerce store satisfies. -/
structure Booked (store : CommerceStore) : Prop where
  linked : Linked store
  lockstep : forall orderId, InLockstep (joint store orderId)

theorem CommerceMove.joint (move : CommerceMove before after) (booked : Booked before) (orderId : Id) :
    Relation.ReflTransGen JointMove (Commerce.joint before orderId) (Commerce.joint after orderId) := by
  cases move with
  | create rows after created => exact create_moves created booked.linked orderId
  | settle input order invoice settleable => exact settle_moves settleable orderId
  | cancel order found pending => exact cancel_moves found pending booked.linked orderId
  | sweep cutoff now => exact sweep_moves booked.linked (booked.lockstep orderId)
  | refund order found paid => exact refund_moves found paid booked.linked orderId

theorem CommerceMove.booked (move : CommerceMove before after) (booked : Booked before) :
    Booked after where
  linked := move.linked booked.linked
  lockstep := fun orderId => lockstep_of_moves (move.joint booked orderId) (booked.lockstep orderId)

theorem commerceMoves_booked (moves : CommerceMoves before after) (booked : Booked before) :
    Booked after := by
  induction moves with
  | refl => exact booked
  | tail _ move inductionHypothesis => exact move.booked inductionHypothesis

theorem commerceMoves_joint (moves : CommerceMoves before after) (booked : Booked before)
    (orderId : Id) :
    Relation.ReflTransGen JointMove (joint before orderId) (joint after orderId) := by
  induction moves with
  | refl => exact Relation.ReflTransGen.refl
  | tail earlier move inductionHypothesis =>
    exact inductionHypothesis.trans (move.joint (commerceMoves_booked earlier booked) orderId)

theorem booked_empty : Booked Db.empty.commerce where
  linked :=
    { invoiced := fun _ member => absurd member (Table.not_mem_empty _)
      redeemed := fun _ member => absurd member (Table.not_mem_empty _) }
  lockstep := fun _ => inLockstep_none

/-- Seen through one order, every transaction is a sequence of joint moves. -/
theorem storefront_refines_jointMoves (host : Host) (orderId : Id) :
    (storefront host).Refines (fun db : Db => joint db.commerce orderId) JointMove
      (fun db => Booked db.commerce) where
  keeps := by
    intro db transaction next booked committed
    exact commerceMoves_booked (commit_commerce (storefront_step.mp committed)) booked
  simulates := by
    intro db transaction next booked committed
    exact commerceMoves_joint (commit_commerce (storefront_step.mp committed)) booked orderId

/-- The invoice and the redemption of an order agree with its status. -/
def BooksAgree (store : CommerceStore) (order : Order) : Prop :=
  (Exists fun invoice => store.invoices.lookup (.orderId order.id) = some invoice ∧
    (invoice.status = .draft ↔ order.status = .pending ∨ order.status = .cancelled) ∧
    (invoice.status = .final ↔ order.status = .paid) ∧
    (invoice.status = .void ↔ order.status = .refunded)) ∧
  (forall redemption, store.offerRedemptions.lookup (.orderId order.id) = some redemption ->
    (order.status = .paid -> redemption.status = .applied) ∧
    (redemption.status = .released -> order.status = .cancelled))

theorem booksAgree_of_booked (booked : Booked before) (member : order ∈ before.orders) :
    BooksAgree before order := by
  have found : before.orders.lookup (.id order.id) = some order :=
    before.orders.lookup_of_mem member (by simp [Keyed.keys])
  rcases booked.linked.invoiced order member with ⟨invoice, invoiced⟩
  have lockstep := booked.lockstep order.id _ (joint_eq_some found invoiced)
  refine ⟨⟨invoice, invoiced, lockstep.draft, lockstep.final, lockstep.void⟩, ?_⟩
  intro redemption redeemed
  rw [redeemed] at lockstep
  constructor
  · intro paid
    exact lockstep.applied paid redemption.status rfl
  · intro released
    exact lockstep.released (congrArg some released)

/-- The next transaction moves an order along its edges, if it moves it. -/
theorem order_moves_of_booked {host : Host} {before : Db} (booked : Booked before.commerce)
    (member : order ∈ before.commerce.orders) (next : HostTransaction) :
    Exists fun later => later ∈ ((storefront host).attempt before next).commerce.orders ∧
      later.id = order.id ∧ Relation.ReflTransGen OrderMove order.status later.status := by
  have found : before.commerce.orders.lookup (.id order.id) = some order :=
    before.commerce.orders.lookup_of_mem member (by simp [Keyed.keys])
  rcases booked.linked.invoiced order member with ⟨invoice, invoiced⟩
  have moves := (storefront_refines_jointMoves host order.id).attempt booked next
  rcases order_of_moves moves (joint_eq_some found invoiced) with ⟨joint, reached, path⟩
  rcases Option.bind_eq_some_iff.mp reached with ⟨later, laterFound, reached⟩
  rcases Option.map_eq_some_iff.mp reached with ⟨_, _, rfl⟩
  have laterId := order_id_of_lookup laterFound
  exact ⟨later, Table.lookup_mem _ laterFound, laterId, path⟩

/-- An order is cancelled locally before its payment is delivered. -/
def latePayment : List HostTransaction :=
  [.createPendingOrder (Reference.checkout "a" 0 .accountEntitlement .oneTime 1 none Reference.unrenewing),
    .recordCheckoutAttempt (Reference.attempt "a" 0),
    .cancelOrder (Reference.moment "cancel" 5) "order:a" (fun _ => true),
    .claimEvent (Reference.moment "claim" 10) (Reference.delivery "paid" .paymentPaid "a" "pay" 9)]

def locallyCancelledOrder : Order :=
  { (Reference.checkout "a" 0 .accountEntitlement .oneTime 1 none Reference.unrenewing).order with
    status := .cancelled }

end Storefront
end DigitalSolutions
