import DigitalSolutions.Entitlements.DurableRights
import DigitalSolutions.Platform.Environment

namespace DigitalSolutions
namespace Entitlements

open Foundation Persistence Platform

/-!
# Revocation of the rights of a refunded order

`revokeOrderEntitlements` finds the rights whose source is an item of the
order and revokes them one by one with the same evidence.  A right that was
claimed with a code has the code as its source, so this query does not see it.
-/

structure OrderEntitlementRevocationEvidence where
  revocationReference : String
  revocationSnapshot : Json
  revokedAt : Time
  deriving DecidableEq

/-- The rights granted for the items of an order, in the order of their
identifiers. -/
def rightsOfOrder (store : EntitlementsStore) (items : List OrderItem) (orderId : Id) :
    List Entitlement :=
  (store.entitlements.select (fun entitlement =>
    items.any (fun item => entitlement.sourceReference = .commerce orderId item.id))).insertionSort
      (fun left right => left.id ≤ right.id)

def revokeInput (evidence : OrderEntitlementRevocationEvidence) (entitlement : Entitlement) :
    RevokeInput where
  entitlementId := entitlement.id
  revocationReference := evidence.revocationReference
  revocationSnapshot := evidence.revocationSnapshot
  revokedAt := evidence.revokedAt

def revokeEach (package : EntitlementsPackage) (environment : Environment)
    (evidence : OrderEntitlementRevocationEvidence) :
    List Entitlement -> Tx EntitlementsStore Unit
  | [] => return
  | entitlement :: rest => do
    let result <- (package.revoke (revokeInput evidence entitlement)).connect
      (revoke environment.localeCompare)
    match result with
    | .failed => throw .retryable
    | .rejected _ => throw (.payment .reconciliationRequired)
    | .revoked | .existing => revokeEach package environment evidence rest

def revokeOrderEntitlements (package : EntitlementsPackage) (environment : Environment)
    (items : List OrderItem) (orderId : Id) (evidence : OrderEntitlementRevocationEvidence) :
    Tx EntitlementsStore Nat := do
  let store <- get
  let rows := rightsOfOrder store items orderId
  revokeEach package environment evidence rows
  return rows.length

variable {package : EntitlementsPackage} {environment : Environment}
variable {evidence : OrderEntitlementRevocationEvidence} {before after : EntitlementsStore}

/-- The loop leaves none of its rights active. -/
theorem revokeEach_commits (lawful : package.Lawful) (entitlements : List Entitlement) {answer : Unit}
    (commits : (revokeEach package environment evidence entitlements).Commits before answer after) :
    OnlyRevoked before after ∧ forall entitlement, entitlement ∈ entitlements ->
      forall row, row ∈ after.entitlements -> row.id = entitlement.id -> row.state ≠ .active := by
  induction entitlements generalizing before with
  | nil =>
    rcases Transaction.commits_pure.mp commits with ⟨_, rfl⟩
    exact ⟨OnlyRevoked.refl _, fun _ member => absurd member List.not_mem_nil⟩
  | cons head rest inductionHypothesis =>
    rw [revokeEach, Transaction.commits_bind] at commits
    rcases commits with ⟨result, middle, called, commits⟩
    have onward : result.accepted ∧
        (revokeEach package environment evidence rest).Commits middle answer after := by
      cases result with
      | revoked => exact ⟨trivial, commits⟩
      | existing => exact ⟨trivial, commits⟩
      | rejected code => exact absurd commits Transaction.not_commits_throw
      | failed => exact absurd commits Transaction.not_commits_throw
    rcases lawful.revoke_relays _ _ _ _ _ called onward.1 with ⟨stored, revoked, same⟩
    rw [same] at revoked
    have accepted : result = .revoked ∨ result = .existing := by
      cases result with
      | revoked => exact Or.inl rfl
      | existing => exact Or.inr rfl
      | rejected code => exact absurd onward.1 id
      | failed => exact absurd onward.1 id
    rcases revoke_revokes accepted revoked with ⟨first, headInactive⟩
    rcases inductionHypothesis onward.2 with ⟨later, restInactive⟩
    refine ⟨first.trans later, fun entitlement member => ?_⟩
    rcases List.mem_cons.mp member with rfl | inRest
    · intro row rowMember named active
      exact headInactive row (later.active row rowMember active) named active
    · exact restInactive entitlement inRest

/-- After the revocation no right of an item of the order is active. -/
theorem revokeOrderEntitlements_commits (lawful : package.Lawful) {items : List OrderItem} {orderId : Id}
    {count : Nat}
    (commits : (revokeOrderEntitlements package environment items orderId evidence).Commits before
      count after) :
    OnlyRevoked before after ∧ forall row, row ∈ after.entitlements -> forall item, item ∈ items ->
      row.sourceReference = .commerce orderId item.id -> row.state ≠ .active := by
  unfold revokeOrderEntitlements at commits
  simp only [Transaction.commits_bind, Transaction.commits_get, Transaction.commits_pure] at commits
  rcases commits with ⟨_, _, ⟨rfl, rfl⟩, _, _, revoked, _, rfl⟩
  rcases revokeEach_commits lawful _ revoked with ⟨only, inactive⟩
  refine ⟨only, fun row member item isItem source active => ?_⟩
  have before' := only.active row member active
  refine inactive row ?_ row member rfl active
  unfold rightsOfOrder
  rw [List.mem_insertionSort, Table.mem_select]
  refine ⟨before', List.any_eq_true.mpr ⟨item, isItem, decide_eq_true source⟩⟩

end Entitlements
end DigitalSolutions
