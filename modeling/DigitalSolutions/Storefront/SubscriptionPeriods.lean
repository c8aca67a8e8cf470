import DigitalSolutions.Licensing.Periods
import DigitalSolutions.Storefront.Reference
import DigitalSolutions.Storefront.System

namespace DigitalSolutions
namespace Storefront

open Foundation Persistence Platform Licensing

/-!
# Subscriptions through their renewals

The licensing tables as a machine of fulfilments.  A schedule is a history of
purchases and renewals, each with the shop it was fulfilled from and the
moment it took effect, in any order and at any distance.
-/

structure Fulfillment where
  commerce : CommerceStore
  moment : Moment
  orderId : Id
  evidence : PaymentEvidence
  target : LicensingFulfillmentTarget

def fulfillOrder (package : LicensingPackage) (environment : Environment) (fulfillment : Fulfillment) :
    Tx LicensingStore Unit := do
  let _ <- fulfillOrderLicensing package environment fulfillment.commerce fulfillment.moment
    fulfillment.orderId fulfillment.evidence fulfillment.target

def licensingMachine (package : LicensingPackage) (environment : Environment) :
    Machine LicensingStore Fulfillment TransactionError :=
  Machine.ofTransactions (fulfillOrder package environment)

variable {package : LicensingPackage} {environment : Environment}

theorem licensingMachine_step (lawful : package.Lawful) {before after : LicensingStore}
    {fulfillment : Fulfillment}
    (committed : (licensingMachine package environment).step before fulfillment = .ok after) :
    Exists fun order => OrderFulfilled package environment fulfillment.commerce fulfillment.moment
      fulfillment.target order before after := by
  have commits := Machine.ofTransactions_step.mp committed
  unfold fulfillOrder at commits
  simp only [Transaction.commits_bind, Transaction.commits_pure] at commits
  rcases commits with ⟨requests, _, fulfilled, _, rfl⟩
  rcases fulfillOrderLicensing_commits lawful fulfilled with ⟨order, _, fulfilled⟩
  exact ⟨order, fulfilled⟩

theorem dated_run (lawful : package.Lawful) (renews : package.renewalExpiration = renewalExpiration)
    (environment : Environment) {history : List Fulfillment}
    (priced : forall fulfillment, fulfillment ∈ history -> Priced fulfillment.commerce) :
    Dated ((licensingMachine package environment).run Db.empty.licensing history) := by
  have admitted : forall store, (licensingMachine package environment).Admits
      (fun _ fulfillment => Priced fulfillment.commerce) store history := by
    intro store
    induction history generalizing store with
    | nil => exact trivial
    | cons fulfillment rest inductionHypothesis =>
      refine ⟨priced fulfillment List.mem_cons_self, ?_⟩
      exact inductionHypothesis (fun other member => priced other (List.mem_cons_of_mem _ member)) _
  have keeps : forall store fulfillment next, Dated store -> Priced fulfillment.commerce ->
      (licensingMachine package environment).step store fulfillment = .ok next -> Dated next := by
    intro store fulfillment next dated priced committed
    rcases licensingMachine_step lawful committed with ⟨order, fulfilled⟩
    exact fulfilled.dated renews priced dated
  exact Machine.run_invariant_of_admits keeps (Dated.empty rfl rfl) (admitted _)

/-- A monthly subscription and an order that renews it. -/
def subscriptionShop : CommerceStore :=
  ((storefront Reference.host).run Db.empty
    [.createPendingOrder (Reference.checkout "s" 0 .accountEntitlement .subscription 1 none Reference.unrenewing),
      .createPendingOrder (Reference.checkout "r" 0 .accountEntitlement .subscription 1
        (some "subscription:item:s") Reference.renewing)]).commerce

def fulfilledAt (orderId : Id) (now : Time) : Fulfillment :=
  ⟨subscriptionShop, Reference.moment "fulfilled" now, orderId, ⟨none, none⟩, ⟨none, none⟩⟩

/-- The purchase at the epoch, an early renewal and one after a lapse. -/
def renewedOnce : List Fulfillment := [fulfilledAt "order:s" 0, fulfilledAt "order:r" 1000]

def renewedLate : LicensingStore :=
  (licensingMachine Reference.licensing Reference.environment).run Db.empty.licensing
    (renewedOnce ++ [fulfilledAt "order:r" 6000000000])

end Storefront
end DigitalSolutions
