import DigitalSolutions.Persistence.CanonicalJson
import DigitalSolutions.Persistence.Stores

namespace DigitalSolutions
namespace Entitlements

open Foundation Persistence

/-!
# Durable rights: granting and revoking

The two repositories that the entitlements package is handed: `grant` of
`createEntitlementsRepository` and `revoke` of the refund revocation.  Both
are idempotent in the same way.  The first call writes, a repetition with the
same evidence is recognised, and a repetition with other evidence is refused.
-/

variable {localeCompare : String -> String -> Int} {before after : EntitlementsStore}

structure GrantInput where
  subjectId : Id
  resourceId : Id
  sourceReference : SourceReference
  quantity : Nat
  scopeSnapshot : Json
  grantSnapshot : Json
  validFrom : Time
  validUntil : Option Time
  deriving DecidableEq

inductive GrantResult
  | granted (value : Entitlement)
  | existing (value : Entitlement)
  | rejected
  | failed
  deriving DecidableEq

def grantedRow (moment : Moment) (input : GrantInput) : Entitlement where
  id := moment.draw (.entitlementId input.sourceReference)
  subjectId := input.subjectId
  resourceId := input.resourceId
  sourceReference := input.sourceReference
  state := .active
  quantity := input.quantity
  scopeSnapshot := input.scopeSnapshot
  grantSnapshot := input.grantSnapshot
  validFrom := input.validFrom
  validUntil := input.validUntil
  createdAt := moment.now

/-- The row already grants what the input asks for.  Its status is not
compared: a revoked right still counts as granted by its source. -/
def sameGrant (localeCompare : String -> String -> Int) (row : Entitlement) (input : GrantInput) :
    Bool :=
  row.subjectId = input.subjectId
    && row.resourceId = input.resourceId
    && row.quantity = input.quantity
    && Json.jsonEquivalent localeCompare row.scopeSnapshot input.scopeSnapshot
    && Json.jsonEquivalent localeCompare row.grantSnapshot input.grantSnapshot
    && row.validFrom = input.validFrom
    && row.validUntil = input.validUntil

/-- `grant`.  The conflict clause names the source reference only; a clash of
the drawn identifier is an error of the statement. -/
def grant (localeCompare : String -> String -> Int) (moment : Moment) (input : GrantInput) :
    Tx EntitlementsStore GrantResult := do
  let store <- get
  match store.entitlements.lookup (.sourceReference input.sourceReference) with
  | none =>
    let entitlements <- Transaction.orFail .uniqueViolation
      (store.entitlements.insert (grantedRow moment input))
    set { store with entitlements }
    return .granted (grantedRow moment input)
  | some row => return if sameGrant localeCompare row input then .existing row else .rejected

/-- A grant either inserts the one active row for its source, or finds the
source taken and writes nothing. -/
theorem grant_commits {moment : Moment} {input : GrantInput} {result : GrantResult}
    (commits : (grant localeCompare moment input).Commits before result after) :
    (before.entitlements.lookup (.sourceReference input.sourceReference) = none ∧
      result = .granted (grantedRow moment input) ∧
      before.entitlements.insert (grantedRow moment input) = some after.entitlements ∧
      after.claimCodes = before.claimCodes) ∨
    (Exists fun row =>
      before.entitlements.lookup (.sourceReference input.sourceReference) = some row ∧
      (result = .existing row ∨ result = .rejected) ∧ after = before) := by
  unfold grant at commits
  rw [Transaction.commits_get_bind] at commits
  split at commits
  case h_1 free =>
    simp only [Transaction.commits_bind, Transaction.commits_orFail, Transaction.commits_set,
      Transaction.commits_pure] at commits
    rcases commits with ⟨entitlements, _, ⟨inserted, rfl⟩, _, _, rfl, rfl, rfl⟩
    exact Or.inl ⟨free, rfl, inserted, rfl⟩
  case h_2 row taken =>
    rw [Transaction.commits_pure] at commits
    refine Or.inr ⟨row, taken, ?_, commits.2.symm⟩
    by_cases same : sameGrant localeCompare row input = true
    · exact Or.inl (by rw [← commits.1, if_pos same])
    · exact Or.inr (by rw [← commits.1, if_neg same])

/-! ## Revocation -/

structure RevokeInput where
  entitlementId : Id
  revocationReference : String
  revocationSnapshot : Json
  revokedAt : Time
  deriving DecidableEq

inductive RevokeRejection
  | notFound | revocationConflict
  deriving DecidableEq

inductive RevokeResult
  | revoked | existing
  | rejected (code : RevokeRejection)
  | failed
  deriving DecidableEq

def revokedRow (input : RevokeInput) (row : Entitlement) : Entitlement :=
  { row with state := .revoked input.revokedAt input.revocationReference input.revocationSnapshot }

/-- `revoke`: an active right is revoked with its evidence, and a right that
is revoked already is accepted only with the same evidence. -/
def revoke (localeCompare : String -> String -> Int) (input : RevokeInput) :
    Tx EntitlementsStore RevokeResult := do
  let store <- get
  match store.entitlements.lookup (.id input.entitlementId) with
  | none => return .rejected .notFound
  | some row =>
    match row.state with
    | .active =>
      set { store with
        entitlements := store.entitlements.update (fun other => other.id = input.entitlementId)
          (revokedRow input) }
      return .revoked
    | .revoked revokedAt reference evidence =>
      if reference = input.revocationReference ∧ revokedAt = input.revokedAt ∧
          Json.jsonEquivalent localeCompare evidence input.revocationSnapshot = true then
        return .existing
      else
        return .rejected .revocationConflict

/-- An accepted revocation leaves the right revoked and every other row as it
was; a rejected one writes nothing. -/
theorem revoke_commits {input : RevokeInput} {result : RevokeResult}
    (commits : (revoke localeCompare input).Commits before result after) :
    after.claimCodes = before.claimCodes ∧
    ((after.entitlements = before.entitlements ∧ (forall row,
        row ∈ before.entitlements -> row.id = input.entitlementId ->
        (result = .revoked ∨ result = .existing) -> row.state ≠ .active)) ∨
      after.entitlements = before.entitlements.update (fun other => other.id = input.entitlementId)
        (revokedRow input)) := by
  unfold revoke at commits
  rw [Transaction.commits_get_bind] at commits
  split at commits
  case h_1 missing =>
    rw [Transaction.commits_pure] at commits
    rcases commits with ⟨rfl, rfl⟩
    exact ⟨rfl, Or.inl ⟨rfl, fun row member same _ =>
      absurd (by simp [Keyed.keys, same]) (before.entitlements.lookup_eq_none.mp missing row member)⟩⟩
  case h_2 found row taken =>
    split at commits
    case h_1 active =>
      simp only [Transaction.commits_bind, Transaction.commits_set, Transaction.commits_pure]
        at commits
      rcases commits with ⟨_, _, rfl, _, rfl⟩
      exact ⟨rfl, Or.inr rfl⟩
    case h_2 revokedAt reference evidence inactive =>
      have unchanged : after = before := by
        rcases Transaction.commits_ite.mp commits with ⟨_, commits⟩ | ⟨_, commits⟩ <;>
          exact (Transaction.commits_pure.mp commits).2.symm
      subst unchanged
      refine ⟨rfl, Or.inl ⟨rfl, fun other member same _ active => ?_⟩⟩
      have sameRow : after.entitlements.lookup (.id input.entitlementId) = some other :=
        after.entitlements.lookup_of_mem member (by simp [Keyed.keys, same])
      rw [taken, Option.some.injEq] at sameRow
      rw [sameRow, active] at inactive
      cases inactive

/-! ## What never changes -/

/-- The terms of a right: all of it but its status. -/
def entitlementTerms (entitlement : Entitlement) : Entitlement := { entitlement with state := .active }

/-- Rights were revoked and nothing else happened to them. -/
structure OnlyRevoked (before after : EntitlementsStore) : Prop where
  claimCodes : after.claimCodes = before.claimCodes
  terms : Table.SameColumn entitlementTerms before.entitlements after.entitlements
  active : forall row, row ∈ after.entitlements -> row.state = .active -> row ∈ before.entitlements

theorem OnlyRevoked.refl (store : EntitlementsStore) : OnlyRevoked store store :=
  ⟨rfl, Table.SameColumn.refl _ _, fun _ member _ => member⟩

theorem OnlyRevoked.trans {first second third : EntitlementsStore} (left : OnlyRevoked first second)
    (right : OnlyRevoked second third) : OnlyRevoked first third where
  claimCodes := right.claimCodes.trans left.claimCodes
  terms := left.terms.trans right.terms
  active := fun row member active => left.active row (right.active row member active) active

/-- An accepted revocation. -/
theorem revoke_revokes {input : RevokeInput} {result : RevokeResult}
    (accepted : result = .revoked ∨ result = .existing)
    (commits : (revoke localeCompare input).Commits before result after) :
    OnlyRevoked before after ∧ forall row, row ∈ after.entitlements -> row.id = input.entitlementId ->
      row.state ≠ .active := by
  rcases revoke_commits commits with ⟨codes, ⟨same, inactive⟩ | wrote⟩
  · constructor
    · exact ⟨codes, by rw [same]; exact Table.SameColumn.refl _ _, fun row member _ => same ▸ member⟩
    · intro row member named
      exact inactive row (same ▸ member) named accepted
  · have wroteRows : after.entitlements.rows = before.entitlements.rows.map (fun row =>
        if decide (row.id = input.entitlementId) = true then revokedRow input row else row) := by
      rw [wrote]
      rfl
    refine ⟨⟨codes, Table.sameColumn_update wroteRows (fun _ => rfl), ?_⟩, ?_⟩
    · intro row member active
      rcases (Table.mem_of_rows wroteRows).mp member with ⟨old, oldMember, became⟩
      split at became
      · rw [← became] at active
        cases active
      · exact became ▸ oldMember
    · intro row member named active
      rcases (Table.mem_of_rows wroteRows).mp member with ⟨old, oldMember, became⟩
      split at became
      · rw [← became] at active
        cases active
      · rename_i other
        exact other (decide_eq_true (became ▸ named))

/-! ## The package in front of the repositories -/

/-- `@bke/entitlements/logic/durable-right-grant` and `-revocation`. -/
structure EntitlementsPackage where
  grant : GrantInput -> Program GrantInput (fun _ => GrantResult) GrantResult
  revoke : RevokeInput -> Program RevokeInput (fun _ => RevokeResult) RevokeResult

def GrantResult.accepted : GrantResult -> Prop
  | granted _ | existing _ => True
  | rejected | failed => False

def RevokeResult.accepted : RevokeResult -> Prop
  | revoked | existing => True
  | rejected _ | failed => False

/-- What the host relies on: an accepted call went through the repository
once, unchanged, and its answer is the repository's. -/
structure EntitlementsPackage.Lawful (package : EntitlementsPackage) : Prop where
  grant_relays : Program.Relays package.grant GrantResult.accepted Eq
  revoke_relays : Program.Relays package.revoke RevokeResult.accepted Eq

end Entitlements
end DigitalSolutions
