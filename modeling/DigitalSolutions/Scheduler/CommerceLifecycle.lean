import DigitalSolutions.Orders.Cancellation

namespace DigitalSolutions
namespace Scheduler

open Foundation Persistence Commerce Orders

/-!
# The commerce lifecycle sweep

Three updates in one batch: old pending orders are cancelled, old live
attempts expire, old reservations are released.  The second update selects by
the status of the order, and it runs after the first.
-/

def day : Int := 86400000

def abandonOrders (cutoff : Time) (store : CommerceStore) : CommerceStore :=
  { store with
    orders := store.orders.update (fun row => row.status = .pending && row.createdAt < cutoff)
      (fun row => { row with status := .cancelled }) }

/-- `staleAttemptWhere`, evaluated against the orders at hand. -/
def staleAttempt (store : CommerceStore) (cutoff : Time) (attempt : PaymentAttempt) : Bool :=
  liveAttempt attempt && attempt.createdAt < cutoff &&
    (store.orders.lookup (.id attempt.orderId)).any (fun order => order.status = .pending)

def expireAttempts (store : CommerceStore) (cutoff : Time) (payments : HostPaymentsStore) :
    HostPaymentsStore :=
  { payments with
    paymentAttempts := payments.paymentAttempts.update (staleAttempt store cutoff)
      (fun row => { row with status := .expired }) }

def releaseReservations (cutoff now : Time) (store : CommerceStore) : CommerceStore :=
  { store with
    offerRedemptions := store.offerRedemptions.update
      (fun row => row.status = .reserved && row.reservedAt < cutoff)
      (fun row => { row with status := .released, releasedAt := some now }) }

/-- `commerceLifecycle` outside a dry run. -/
def commerceLifecycle (now : Time) (db : Db) : Db :=
  let cutoff := now - day
  let abandoned := abandonOrders cutoff db.commerce
  { db with
    commerce := releaseReservations cutoff now abandoned
    hostPayments := expireAttempts abandoned cutoff db.hostPayments }

end Scheduler
end DigitalSolutions
