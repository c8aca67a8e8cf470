import DigitalSolutions.Providers.ProviderPlatform

namespace DigitalSolutions
namespace Providers

open Foundation Persistence

/-!
# What an access writes

Which accesses change the active credentials of a configuration, and what the
others leave alone.
-/

variable {runtime : ProviderRuntime}
variable {configurationId : Id} {before after : Table ExternalProviderCredential}
variable {row : ExternalProviderCredential} {call : ProviderCall}

/-! ## The active credentials -/

theorem credential_eq_of_id {table : Table ExternalProviderCredential} {left right : ExternalProviderCredential}
    (leftMember : left ∈ table) (rightMember : right ∈ table) (same : left.id = right.id) : left = right := by
  have leftKey : ExternalProviderCredential.Key.id left.id ∈ Keyed.keys left := List.mem_cons_self
  have rightKey : ExternalProviderCredential.Key.id left.id ∈ Keyed.keys right := same ▸ List.mem_cons_self
  exact table.eq_of_common_key leftMember rightMember leftKey rightKey

theorem configuration_of_activeKey {credentialType : ProviderCredentialKind}
    (listed : ExternalProviderCredential.Key.active configurationId credentialType ∈ Keyed.keys row) :
    row.configurationId = configurationId := by
  simp only [Keyed.keys, List.mem_cons, reduceCtorEq, false_or] at listed
  split at listed
  · rw [List.mem_singleton, ExternalProviderCredential.Key.active.injEq] at listed
    exact listed.1.symm
  · cases listed

/-- The selection that `activeCredentials` makes. -/
def isActiveOf (configurationId : Id) (row : ExternalProviderCredential) : Bool :=
  row.configurationId = configurationId && row.revokedAt.isNone

theorem isActiveOf_eq_false (other : row.configurationId ≠ configurationId) :
    isActiveOf configurationId row = false := by
  rw [isActiveOf, decide_eq_false other, Bool.false_and]

theorem isPrior_iff {prior : Option ExternalProviderCredential} :
    (prior.any fun old => row.id = old.id) = true ↔
      Exists fun old => prior = some old ∧ row.id = old.id := by
  cases prior with
  | none => simp only [Option.any_none, Bool.false_eq_true, reduceCtorEq, false_and, exists_false]
  | some old => simp only [Option.any_some, decide_eq_true_eq, Option.some.injEq, exists_eq_left']

/-- Replacing a credential leaves the other configurations their credentials. -/
theorem replaceCredential_others {credentialId other : Id} {rotatedAt : Time}
    {replacement : CredentialReplacement}
    (done : replaceCredential call configurationId credentialId rotatedAt replacement before = some after)
    (different : other ≠ configurationId) :
    after.select (isActiveOf other) = before.select (isActiveOf other) := by
  simp only [replaceCredential, Option.bind_eq_bind, Option.bind_eq_some_iff, Option.pure_def,
    Option.some.injEq] at done
  rcases done with ⟨revoked, wrote, inserted, done, rfl⟩
  have priorConfiguration : forall old,
      before.lookup (.active configurationId replacement.credentialType) = some old ->
      old ∈ before ∧ old.configurationId = configurationId := fun old found =>
    ⟨before.lookup_mem found, configuration_of_activeKey (before.lookup_key found)⟩
  have revokedSame : revoked.select (isActiveOf other) = before.select (isActiveOf other) := by
    have outside : forall row, row ∈ before ->
        (before.lookup (.active configurationId replacement.credentialType)).any
          (fun old => row.id = old.id) = true -> row.configurationId ≠ other := by
      intro row member isPrior
      rcases isPrior_iff.mp isPrior with ⟨old, found, sameId⟩
      have prior := priorConfiguration old found
      rw [credential_eq_of_id member prior.1 sameId, prior.2]
      exact Ne.symm different
    apply Table.select_of_rows (before.rows_amend wrote)
    · intro row member
      split
      · rename_i isPrior
        rw [isActiveOf_eq_false (outside row member isPrior)]
        exact isActiveOf_eq_false (outside row member isPrior)
      · rfl
    · intro row member isActive
      split
      · rename_i isPrior
        rw [isActiveOf_eq_false (outside row member isPrior)] at isActive
        cases isActive
      · rfl
  have insertedSame : inserted.select (isActiveOf other) = revoked.select (isActiveOf other) :=
    Table.select_insert done (isActiveOf_eq_false (Ne.symm different))
  rw [← revokedSame, ← insertedSame]
  apply Table.select_of_rows rfl
  · intro row member
    split
    · rfl
    · rfl
  · intro row member isActive
    split
    · rename_i isPrior
      rcases isPrior_iff.mp isPrior with ⟨old, found, sameId⟩
      have prior := priorConfiguration old found
      have kept : { old with revokedAt := some rotatedAt } ∈ inserted := by
        apply (Table.mem_insert done).mpr
        left
        apply (before.mem_amend wrote).mpr
        refine ⟨old, prior.1, ?_⟩
        rw [if_pos]
        exact isPrior_iff.mpr ⟨old, found, rfl⟩
      have isOld := credential_eq_of_id member kept sameId
      rw [isOld, isActiveOf, Option.isNone_some, Bool.and_false] at isActive
      cases isActive
    · rfl

theorem replaceCredentials_others {other : Id} {rotatedAt : Time}
    {replacements : List (CredentialReplacement × Id)}
    (done : replaceCredentials call configurationId rotatedAt replacements before = some after)
    (different : other ≠ configurationId) :
    after.select (isActiveOf other) = before.select (isActiveOf other) := by
  induction replacements generalizing before with
  | nil =>
    cases done
    rfl
  | cons head rest inductionHypothesis =>
    rcases head with ⟨replacement, credentialId⟩
    simp only [replaceCredentials, Option.bind_eq_bind, Option.bind_eq_some_iff] at done
    rcases done with ⟨replaced, first, later⟩
    rw [inductionHypothesis later, replaceCredential_others first different]

theorem revoke_others {other : Id} {revokedAt : Time}
    (done : before.amend (fun row => row.configurationId = configurationId && row.revokedAt.isNone)
      (fun row => { row with revokedAt := some revokedAt }) = some after)
    (different : other ≠ configurationId) :
    after.select (isActiveOf other) = before.select (isActiveOf other) := by
  have outside : forall row : ExternalProviderCredential,
      (row.configurationId = configurationId && row.revokedAt.isNone) = true -> row.configurationId ≠ other := by
    intro row chosen
    rw [Bool.and_eq_true, decide_eq_true_eq] at chosen
    rw [chosen.1]
    exact Ne.symm different
  apply Table.select_of_rows (before.rows_amend done)
  · intro row member
    split
    · rename_i chosen
      rw [isActiveOf_eq_false (outside row chosen)]
      exact isActiveOf_eq_false (outside row chosen)
    · rfl
  · intro row member isActive
    split
    · rename_i chosen
      rw [isActiveOf_eq_false (outside row chosen)] at isActive
      cases isActive
    · rfl

/-! ## The accesses, one by one -/

/-- What one access does to the store, by the point that makes it. -/
inductive ProviderEffect (store : ProviderStore) : ProviderPoint -> ProviderStore -> Prop
  | still {point : ProviderPoint} {after : ProviderStore}
      (configurations : after.configurations = store.configurations)
      (credentials : after.credentials = store.credentials) (verdicts : after.verdicts = store.verdicts) :
      ProviderEffect store point after
  | saved {call : ProviderCall} {secrets : List (ProviderCredentialKind × String)} {sender : SenderIdentity}
      {existing : ExternalProviderConfiguration} {rotatedAt : Time}
      {replacements : List (CredentialReplacement × Id)} {credentials : Table ExternalProviderCredential}
      (found : store.configurations.lookup (.context call.provider call.environment) = some existing)
      (asked : replacements ≠ [] -> (secrets.any fun entry => entry.2 ≠ "") = true)
      (replaced : replaceCredentials call existing.id rotatedAt replacements store.credentials = some credentials) :
      ProviderEffect store (.called call (.saveConfiguration secrets sender))
        { updateConfiguration existing.id (savedRow call sender rotatedAt) (fun _ => rfl) store with credentials }
  | created {call : ProviderCall} {secrets : List (ProviderCredentialKind × String)} {sender : SenderIdentity}
      {id : Id} {rotatedAt : Time} {replacements : List (CredentialReplacement × Id)}
      {configurations : Table ExternalProviderConfiguration} {credentials : Table ExternalProviderCredential}
      (inserted : store.configurations.insert (newRow call id sender rotatedAt) = some configurations)
      (replaced : replaceCredentials call id rotatedAt replacements store.credentials = some credentials) :
      ProviderEffect store (.called call (.saveConfiguration secrets sender))
        { store with configurations, credentials }
  | judged (call : ProviderCall) (row : ExternalProviderConfiguration)
      (credentials : List ExternalProviderCredential) :
      ProviderEffect store (.validating call row credentials)
        { store with verdicts := (row.id, credentials) :: store.verdicts }
  | recorded (call : ProviderCall) (validation : Validation) (now : Time) :
      ProviderEffect store (.recording call validation)
        (storeRecordValidation call validation.configurationId validation.status validation.code now store)
  | switched (call : ProviderCall) (id : Id) (enabled : Bool) :
      ProviderEffect store (.enabling call id enabled) (storeSetEnabled call id enabled store)
  | revoked {call : ProviderCall} {id : Id} {now : Time} {after : ProviderStore}
      (done : storeRevokeCredentials call id now store = some after) :
      ProviderEffect store (.revoking call id) after

theorem prepareReplacements_asked {secrets : List (ProviderCredentialKind × String)}
    {nonce : Nat -> String} {replacements : List CredentialReplacement}
    (prepared : prepareReplacements runtime call secrets nonce = .ok replacements)
    (replaces : replacements ≠ []) : (secrets.any fun entry => entry.2 ≠ "") = true := by
  by_contra unasked
  have nothing : (secrets.filter fun entry => entry.2 ≠ "") = [] := by
    apply List.filter_eq_nil_iff.mpr
    intro entry member isAsked
    exact unasked (List.any_eq_true.mpr ⟨entry, member, isAsked⟩)
  unfold prepareReplacements at prepared
  split at prepared
  · cases prepared
  · split at prepared
    · cases prepared
    · rw [nothing] at prepared
      cases prepared
      exact replaces rfl

theorem saveConfiguration_effect {secrets : List (ProviderCredentialKind × String)}
    {sender : SenderIdentity} {input : ProviderInput} {store : ProviderStore} :
    ProviderEffect store (.called call (.saveConfiguration secrets sender))
      (saveConfiguration runtime call secrets sender input store).1 := by
  unfold saveConfiguration
  split
  · exact .still rfl rfl rfl
  · rename_i replacements prepared
    split
    · exact .still rfl rfl rfl
    · rename_i id saved done
      unfold storeSaveConfiguration at done
      simp only [Option.bind_eq_bind, Option.pure_def] at done
      split at done
      · rename_i existing found
        simp only [Option.bind_eq_some_iff, Option.some.injEq, Prod.mk.injEq] at done
        rcases done with ⟨credentials, replaced, _, rfl⟩
        refine .saved found ?_ replaced
        intro numbered
        apply prepareReplacements_asked prepared
        intro isEmpty
        subst isEmpty
        exact numbered rfl
      · simp only [Option.bind_eq_some_iff, Option.some.injEq, Prod.mk.injEq] at done
        rcases done with ⟨configurations, inserted, credentials, replaced, _, rfl⟩
        exact .created inserted replaced

theorem advance_effect {store : ProviderStore} {point : ProviderPoint} {input : ProviderInput} :
    ProviderEffect store point (advanceProvider runtime store point input).1 := by
  cases point with
  | called call request =>
    simp only [advanceProvider]
    split
    · exact .still rfl rfl rfl
    · cases request with
      | saveConfiguration secrets sender => exact saveConfiguration_effect
      | setState enabled => exact .still rfl rfl rfl
      | revokeCredentials => exact .still rfl rfl rfl
      | validateConfiguration => exact .still rfl rfl rfl
  | located call request row => exact .still rfl rfl rfl
  | validating call row credentials =>
    simp only [advanceProvider]
    split
    · exact .judged call row credentials
    · exact .still rfl rfl rfl
  | recording call validation => exact .recorded call validation input.now
  | enabling call id enabled => exact .switched call id enabled
  | revoking call id =>
    simp only [advanceProvider]
    split
    · exact .still rfl rfl rfl
    · rename_i after done
      exact .revoked done
  | emitting event succeeded =>
    simp only [advanceProvider]
    split
    · exact .still rfl rfl rfl
    · exact .still rfl rfl rfl
    · exact .still rfl rfl rfl

end Providers
end DigitalSolutions
