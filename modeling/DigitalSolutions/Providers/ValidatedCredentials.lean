import DigitalSolutions.Providers.ProviderWrites

namespace DigitalSolutions
namespace Providers

open Foundation Persistence

/-!
# Enabled providers have validated credentials

An enabled configuration should hold the credentials that a validation has
found valid last.  This fails when the credentials of a configuration that is
enabled are replaced, and when credentials change between the reads of a
validation, or of an enabling, and what it writes.  Every other run keeps it.
-/

variable {runtime : ProviderRuntime}
variable {after store before : ProviderStore} {point : ProviderPoint}
variable {credentials : List ExternalProviderCredential} {row : ExternalProviderConfiguration}
variable {crowd : Crowd ProviderStore ProviderPoint}

/-- The active credentials of a configuration are complete, and are the ones
that were found valid last. -/
structure Validated (store : ProviderStore) (id : Id) (provider : ProviderName) : Prop where
  complete : forall kind, kind ∈ requiredProviderCredentials provider ->
    Exists fun credential => credential ∈ activeCredentials store id ∧ credential.credentialType = kind
  last : store.lastValid id = some (activeCredentials store id)

/-- No result is about to be recorded for credentials that it is not about. -/
def RecordsOwn (crowd : Crowd ProviderStore ProviderPoint) : Prop :=
  forall process call validation, crowd.processes process = some (.recording call validation) ->
    activeCredentials crowd.store validation.configurationId = validation.credentials

/-- Every enabled configuration is validated, and no result goes astray. -/
structure ProvidersValidated (crowd : Crowd ProviderStore ProviderPoint) : Prop where
  enabled : forall row, row ∈ crowd.store.configurations -> row.enabled = true ->
    Validated crowd.store row.id row.provider
  recordsOwn : RecordsOwn crowd

/-! ## The condition -/

/-- The operation has read the configuration, and will write what depends on
its credentials. -/
def ProviderPoint.Engaged (id : Id) : ProviderPoint -> Prop
  | .located _ .validateConfiguration row => row.id = id
  | .located _ (.setState true) row => row.id = id ∧ row.validationStatus = .valid
  | .validating _ row _ => row.id = id
  | .recording _ validation => validation.configurationId = id
  | .enabling _ enabledId true => enabledId = id
  | .emitting _ (some (_, validation)) => validation.configurationId = id
  | _ => False

/-- The access changes which credentials of the configuration are active. -/
def ProviderPoint.Rotates (store : ProviderStore) (id : Id) : ProviderPoint -> Prop
  | .called call (.saveConfiguration secrets _) => (secrets.any fun entry => entry.2 ≠ "") = true ∧
      Exists fun row => store.configurations.lookup (.context call.provider call.environment) = some row ∧
        row.id = id
  | .revoking _ revokedId => revokedId = id
  | _ => False

def ProviderPoint.saves : ProviderPoint -> Bool
  | .called _ (.saveConfiguration _ _) => true
  | _ => false

/-- Credentials are replaced while their configuration is disabled, and change
while no validation or enabling of it is under way. -/
def Undisturbing (crowd : Crowd ProviderStore ProviderPoint) :
    CrowdMove (ProviderCall × ProviderRequest) ProviderInput Empty -> Prop
  | .advance process _ => forall point id, crowd.processes process = some point ->
      point.Rotates crowd.store id ->
      (forall other bystander, crowd.processes other = some bystander -> ¬ bystander.Engaged id) ∧
      (point.saves = true -> forall row, row ∈ crowd.store.configurations -> row.id = id ->
        row.enabled = false)
  | _ => True

/-! ## What others do -/

/-- A change that leaves a configuration its credentials, and finds no others
valid. -/
structure Spares (before after : ProviderStore) (id : Id) : Prop where
  active : activeCredentials after id = activeCredentials before id
  last : after.lastValid id = before.lastValid id ∨
    after.lastValid id = some (activeCredentials before id)

def Known (store : ProviderStore) (id : Id) (provider : ProviderName) : Prop :=
  Exists fun row => row ∈ store.configurations ∧ row.id = id ∧ row.provider = provider

theorem Validated.spared {id : Id} {provider : ProviderName} (validated : Validated before id provider)
    (spares : Spares before after id) :
    Validated after id provider := by
  refine ⟨?_, ?_⟩
  · rw [spares.active]
    exact validated.complete
  · rw [spares.active]
    rcases spares.last with same | found
    · exact same.trans validated.last
    · exact found

theorem configuration_eq_of_id {table : Table ExternalProviderConfiguration}
    {left right : ExternalProviderConfiguration} (leftMember : left ∈ table) (rightMember : right ∈ table)
    (same : left.id = right.id) : left = right := by
  have leftKey : ExternalProviderConfiguration.Key.id left.id ∈ Keyed.keys left := List.mem_cons_self
  have rightKey : ExternalProviderConfiguration.Key.id left.id ∈ Keyed.keys right :=
    same ▸ List.mem_cons_self
  exact table.eq_of_common_key leftMember rightMember leftKey rightKey

theorem Known.of_rows {id : Id} {provider : ProviderName}
    {change : ExternalProviderConfiguration -> ExternalProviderConfiguration}
    (known : Known before id provider)
    (wrote : after.configurations.rows = before.configurations.rows.map change)
    (keeps : forall row, (change row).id = row.id ∧ (change row).provider = row.provider) :
    Known after id provider := by
  rcases known with ⟨row, member, isId, isProvider⟩
  have written : change row ∈ after.configurations := (Table.mem_of_rows wrote).mpr ⟨row, member, rfl⟩
  exact ⟨change row, written, (keeps row).1.trans isId, (keeps row).2.trans isProvider⟩

theorem ProviderEffect.known (effect : ProviderEffect store point after) {id : Id}
    {provider : ProviderName} (known : Known store id provider) : Known after id provider := by
  have updated : forall other data keeps, (forall row : ExternalProviderConfiguration,
      (data row).id = row.id ∧ (data row).provider = row.provider) ->
      Known (updateConfiguration other data keeps store) id provider := by
    intro other data keeps same
    apply known.of_rows rfl
    intro row
    split
    · exact same row
    · exact ⟨rfl, rfl⟩
  cases effect with
  | still configurations credentials verdicts =>
    unfold Known
    rw [configurations]
    exact known
  | @saved call secrets sender existing rotatedAt replacements credentials found asked replaced =>
    exact updated existing.id (savedRow call sender rotatedAt) (fun _ => rfl) fun _ => ⟨rfl, rfl⟩
  | created inserted replaced =>
    rcases known with ⟨row, member, rest⟩
    exact ⟨row, (Table.mem_insert inserted).mpr (Or.inl member), rest⟩
  | judged call row credentials => exact known
  | recorded call validation now => exact updated _ _ _ fun _ => ⟨rfl, rfl⟩
  | switched call enabledId enabled => exact updated _ _ _ fun _ => ⟨rfl, rfl⟩
  | @revoked call revokedId now after done =>
    simp only [storeRevokeCredentials, Option.bind_eq_bind, Option.bind_eq_some_iff, Option.pure_def,
      Option.some.injEq] at done
    rcases done with ⟨credentials, _, rfl⟩
    exact updated revokedId (disabledRow call) (fun _ => rfl) fun _ => ⟨rfl, rfl⟩

/-- An access that does not rotate the credentials of a configuration spares it. -/
theorem ProviderEffect.spares (effect : ProviderEffect store point after) {id : Id}
    {provider : ProviderName} (known : Known store id provider) (still : ¬ point.Rotates store id)
    (read : forall call row credentials, point = .validating call row credentials ->
      activeCredentials store row.id = credentials) : Spares store after id := by
  cases effect with
  | still configurations credentials verdicts =>
    refine ⟨?_, Or.inl ?_⟩
    · unfold activeCredentials
      rw [credentials]
    · unfold ProviderStore.lastValid
      rw [verdicts]
  | @saved call secrets sender existing rotatedAt replacements credentials found asked replaced =>
    refine ⟨?_, Or.inl rfl⟩
    by_cases here : id = existing.id
    · have nothing : replacements = [] := by
        by_contra replaces
        exact still ⟨asked replaces, existing, found, here.symm⟩
      subst nothing
      cases replaced
      rfl
    · exact replaceCredentials_others replaced here
  | @created call secrets sender newId rotatedAt replacements configurations credentials inserted replaced =>
    refine ⟨?_, Or.inl rfl⟩
    apply replaceCredentials_others replaced
    rintro rfl
    rcases known with ⟨row, member, isId, _⟩
    have fits := Table.fits_of_insert inserted row member
    have taken : ExternalProviderConfiguration.Key.id row.id ∈
        Keyed.keys (newRow call id sender rotatedAt) := isId ▸ List.mem_cons_self
    exact fits _ List.mem_cons_self taken
  | judged call row credentials =>
    refine ⟨rfl, ?_⟩
    by_cases here : row.id = id
    · right
      rw [← here, read call row credentials rfl]
      simp only [ProviderStore.lastValid, List.find?_cons, decide_true, Option.map_some]
    · left
      simp only [ProviderStore.lastValid, List.find?_cons, here, decide_false]
  | recorded call validation now => exact ⟨rfl, Or.inl rfl⟩
  | switched call enabledId enabled => exact ⟨rfl, Or.inl rfl⟩
  | @revoked call revokedId now after done =>
    simp only [storeRevokeCredentials, Option.bind_eq_bind, Option.bind_eq_some_iff, Option.pure_def,
      Option.some.injEq] at done
    rcases done with ⟨credentials, amended, rfl⟩
    refine ⟨?_, Or.inl rfl⟩
    exact revoke_others amended fun here => still here.symm

/-! ## The outline -/

/-- A configuration that is enabled or marked valid is validated. -/
def Sound (store : ProviderStore) : Prop :=
  forall row, row ∈ store.configurations -> row.enabled = true ∨ row.validationStatus = .valid ->
    Validated store row.id row.provider

/-- What an operation has read is still so where it matters. -/
def Reads (store : ProviderStore) (_ : Nat) : ProviderPoint -> Prop
  | .called _ _ | .revoking _ _ => True
  | .located call request row => row.provider = call.provider ∧ Known store row.id call.provider ∧
      (request = .setState true -> row.validationStatus = .valid -> Validated store row.id call.provider)
  | .validating call row credentials => row.provider = call.provider ∧ Known store row.id call.provider ∧
      activeCredentials store row.id = credentials
  | .recording call validation => Known store validation.configurationId call.provider ∧
      activeCredentials store validation.configurationId = validation.credentials ∧
      (validation.status = .valid -> Validated store validation.configurationId call.provider)
  | .enabling call id enabled => Known store id call.provider ∧
      (enabled = true -> Validated store id call.provider)
  | .emitting _ succeeded => forall call validation, succeeded = some (call, validation) ->
      Known store validation.configurationId call.provider ∧
        activeCredentials store validation.configurationId = validation.credentials

/-- A change that spares what an operation is engaged with leaves it right. -/
theorem Reads.spared {process : Nat} (reads : Reads before process point)
    (known : forall id provider, Known before id provider -> Known after id provider)
    (spares : forall id provider, Known before id provider -> point.Engaged id -> Spares before after id) :
    Reads after process point := by
  cases point with
  | called call request => trivial
  | revoking call id => trivial
  | located call request row =>
    rcases reads with ⟨sameProvider, isKnown, validated⟩
    refine ⟨sameProvider, known _ _ isKnown, ?_⟩
    intro isEnabling isValid
    subst isEnabling
    exact (validated rfl isValid).spared (spares row.id _ isKnown ⟨rfl, isValid⟩)
  | validating call row credentials =>
    rcases reads with ⟨sameProvider, isKnown, active⟩
    exact ⟨sameProvider, known _ _ isKnown, (spares row.id _ isKnown rfl).active.trans active⟩
  | recording call validation =>
    rcases reads with ⟨isKnown, active, validated⟩
    have spared := spares validation.configurationId _ isKnown rfl
    exact ⟨known _ _ isKnown, spared.active.trans active, fun isValid => (validated isValid).spared spared⟩
  | enabling call id enabled =>
    rcases reads with ⟨isKnown, validated⟩
    refine ⟨known _ _ isKnown, ?_⟩
    intro isEnabled
    subst isEnabled
    exact (validated rfl).spared (spares id _ isKnown rfl)
  | emitting event succeeded =>
    intro call validation isSome
    subst isSome
    rcases reads call validation rfl with ⟨isKnown, active⟩
    exact ⟨known _ _ isKnown, (spares validation.configurationId _ isKnown rfl).active.trans active⟩

theorem decrypted_kinds {start values : List (ProviderCredentialKind × String)}
    {kind : ProviderCredentialKind}
    (decrypted : credentials.foldlM (fun values credential => do
      let material <- providerKeyMaterial runtime credential.encryptionKeyVersion
      match runtime.openCredential credential.encryptedValue material credential.encryptionKeyVersion with
      | some plaintext => .ok (InsertionMap.put credential.credentialType plaintext values)
      | none => .error "PROVIDER_CREDENTIAL_DECRYPT_FAILED") start = (.ok values : Except String _))
    (found : (InsertionMap.find kind values).isSome = true) :
    (InsertionMap.find kind start).isSome = true ∨
      Exists fun credential => credential ∈ credentials ∧ credential.credentialType = kind := by
  induction credentials generalizing start with
  | nil =>
    cases decrypted
    exact Or.inl found
  | cons credential rest inductionHypothesis =>
    rw [List.foldlM_cons] at decrypted
    cases material : providerKeyMaterial runtime credential.encryptionKeyVersion with
    | error message =>
      rw [material] at decrypted
      cases decrypted
    | ok key =>
      rw [material] at decrypted
      cases opened : runtime.openCredential credential.encryptedValue key credential.encryptionKeyVersion with
      | none =>
        simp only [bind, Except.bind, opened] at decrypted
        cases decrypted
      | some plaintext =>
        simp only [bind, Except.bind, opened] at decrypted
        rcases inductionHypothesis decrypted with inStart | ⟨other, member, isKind⟩
        · rw [InsertionMap.find_put] at inStart
          split at inStart
          · rename_i isKind
            exact Or.inr ⟨credential, List.mem_cons_self, isKind⟩
          · exact Or.inl inStart
        · exact Or.inr ⟨other, List.mem_cons_of_mem _ member, isKind⟩

/-- Credentials that pass the checks of a validation are complete. -/
theorem checkConfiguration_complete {call : ProviderCall} {verdict : Except String Unit}
    (checked : checkConfiguration runtime call row credentials verdict = .ok ()) :
    forall kind, kind ∈ requiredProviderCredentials row.provider ->
      Exists fun credential => credential ∈ credentials ∧ credential.credentialType = kind := by
  intro kind required
  simp only [checkConfiguration, decryptConfiguration, bind, Except.bind] at checked
  split at checked
  · cases checked
  · split at checked
    · cases checked
    · rename_i values decrypted
      split at decrypted
      · cases decrypted
      · rename_i all decryptedAll
        split at decrypted
        · cases decrypted
        · rename_i present
          cases decrypted
          have found : (InsertionMap.find kind values).isSome = true := by
            by_contra missing
            apply present
            refine List.any_eq_true.mpr ⟨kind, required, ?_⟩
            rw [Option.isNone_iff_eq_none, ← Option.not_isSome_iff_eq_none]
            exact missing
          rcases decrypted_kinds decryptedAll found with inStart | inCredentials
          · cases inStart
          · exact inCredentials

theorem Known.provider {provider : ProviderName} (known : Known store row.id provider)
    (member : row ∈ store.configurations) : row.provider = provider := by
  rcases known with ⟨other, otherMember, sameId, isProvider⟩
  rw [configuration_eq_of_id member otherMember sameId.symm]
  exact isProvider

/-- An access that rotates nothing under way, and nothing enabled, keeps the
store sound. -/
theorem ProviderEffect.sound {process : Nat} (effect : ProviderEffect store point after)
    (sound : Sound store) (reads : Reads store process point)
    (disabled : forall id, point.Rotates store id -> point.saves = true ->
      forall row, row ∈ store.configurations -> row.id = id -> row.enabled = false) : Sound after := by
  have known : forall old, old ∈ store.configurations -> Known store old.id old.provider :=
    fun old member => ⟨old, member, rfl, rfl⟩
  have read : forall call row credentials, point = .validating call row credentials ->
      activeCredentials store row.id = credentials := by
    rintro call row credentials rfl
    exact reads.2.2
  have unrotated : forall old, old ∈ store.configurations -> ¬ point.Rotates store old.id ->
      old.enabled = true ∨ old.validationStatus = .valid -> Validated after old.id old.provider :=
    fun old member still holds => (sound old member holds).spared
      (effect.spares (known old member) still read)
  cases effect with
  | still configurations credentials verdicts =>
    intro row member holds
    rw [configurations] at member
    have validated := sound row member holds
    refine validated.spared ⟨?_, Or.inl ?_⟩
    · unfold activeCredentials
      rw [credentials]
    · unfold ProviderStore.lastValid
      rw [verdicts]
  | @saved call secrets sender existing rotatedAt replacements credentials found asked replaced =>
    intro row member holds
    rcases List.mem_map.mp ((Table.mem_rows _).mpr member) with ⟨old, oldMember, isRow⟩
    rw [Table.mem_rows] at oldMember
    subst isRow
    by_cases here : old.id = existing.id
    · simp only [here, decide_true, if_true, savedRow, reduceCtorEq, or_false] at holds ⊢
      by_cases rotates : (secrets.any fun entry => entry.2 ≠ "") = true
      · have off := disabled existing.id ⟨rotates, existing, found, rfl⟩ rfl old oldMember here
        rw [off] at holds
        cases holds
      · have still : ¬ ProviderPoint.Rotates store old.id
            (.called call (.saveConfiguration secrets sender)) := fun rotated => rotates rotated.1
        exact here ▸ unrotated old oldMember still (Or.inl holds)
    · simp only [here, decide_false, Bool.false_eq_true, if_false] at holds ⊢
      apply unrotated old oldMember _ holds
      rintro ⟨_, other, otherFound, otherId⟩
      rw [found, Option.some.injEq] at otherFound
      subst otherFound
      exact here otherId.symm
  | @created call secrets sender newId rotatedAt replacements configurations credentials inserted replaced =>
    intro row member holds
    rcases (Table.mem_insert inserted).mp member with old | isNew
    · apply unrotated row old _ holds
      rintro ⟨_, other, otherFound, _⟩
      have free : store.configurations.lookup (.context call.provider call.environment) = none := by
        apply Table.lookup_eq_none_of_insert inserted
        exact List.mem_cons_of_mem _ List.mem_cons_self
      rw [free] at otherFound
      cases otherFound
    · subst isNew
      rcases holds with isEnabled | isValid
      · cases isEnabled
      · cases isValid
  | judged call row credentials =>
    intro other member holds
    exact unrotated other member id holds
  | recorded call validation now =>
    intro row member holds
    rcases List.mem_map.mp ((Table.mem_rows _).mpr member) with ⟨old, oldMember, isRow⟩
    rw [Table.mem_rows] at oldMember
    subst isRow
    by_cases here : old.id = validation.configurationId
    · simp only [here, decide_true, if_true] at holds ⊢
      rcases holds with wasEnabled | isValid
      · exact here ▸ unrotated old oldMember id (Or.inl wasEnabled)
      · have isProvider := Known.provider (here ▸ reads.1) oldMember
        have validated := reads.2.2 isValid
        rw [isProvider]
        exact validated.spared ⟨rfl, Or.inl rfl⟩
    · simp only [here, decide_false, Bool.false_eq_true, if_false] at holds ⊢
      exact unrotated old oldMember id holds
  | switched call enabledId enabled =>
    intro row member holds
    rcases List.mem_map.mp ((Table.mem_rows _).mpr member) with ⟨old, oldMember, isRow⟩
    rw [Table.mem_rows] at oldMember
    subst isRow
    by_cases here : old.id = enabledId
    · simp only [here, decide_true, if_true] at holds ⊢
      rcases holds with isEnabled | wasValid
      · have isProvider := Known.provider (here ▸ reads.1) oldMember
        have validated := reads.2 isEnabled
        rw [isProvider]
        exact validated.spared ⟨rfl, Or.inl rfl⟩
      · exact here ▸ unrotated old oldMember id (Or.inr wasValid)
    · simp only [here, decide_false, Bool.false_eq_true, if_false] at holds ⊢
      exact unrotated old oldMember id holds
  | @revoked call revokedId now after done =>
    intro row member holds
    simp only [storeRevokeCredentials, Option.bind_eq_bind, Option.bind_eq_some_iff, Option.pure_def,
      Option.some.injEq] at done
    rcases done with ⟨credentials, amended, rfl⟩
    rcases List.mem_map.mp ((Table.mem_rows _).mpr member) with ⟨old, oldMember, isRow⟩
    rw [Table.mem_rows] at oldMember
    subst isRow
    by_cases here : old.id = revokedId
    · simp only [here, decide_true, if_true, disabledRow, Bool.false_eq_true, reduceCtorEq, or_self] at holds
    · simp only [here, decide_false, Bool.false_eq_true, if_false] at holds ⊢
      exact unrotated old oldMember (fun rotated => here rotated.symm) holds

theorem mayEnable_valid {provider : ProviderName} (may : mayEnable provider row credentials = true) :
    row.validationStatus = .valid := by
  rw [mayEnable, Bool.and_eq_true, decide_eq_true_eq] at may
  exact may.1

/-- What an operation has in hand after an access is so. -/
theorem reads_next {process : Nat} {next : ProviderPoint} {input : ProviderInput} (sound : Sound store)
    (reads : Reads store process point)
    (advanced : advanceProvider runtime store point input = (after, some next)) :
    Reads after process next := by
  cases point with
  | called call request =>
    simp only [advanceProvider] at advanced
    split at advanced
    · cases advanced
      intro call validation isSome
      cases isSome
    · split at advanced
      · rename_i secrets sender
        simp only [saveConfiguration] at advanced
        split at advanced
        · cases advanced
        · split at advanced
          · cases advanced
          · cases advanced
            intro call validation isSome
            cases isSome
      · simp only [locate, Prod.mk.injEq, Option.map_eq_some_iff] at advanced
        rcases advanced with ⟨rfl, row, found, rfl⟩
        have member := store.configurations.lookup_mem found
        have listed := store.configurations.lookup_key found
        simp only [Keyed.keys, List.mem_cons, reduceCtorEq, List.not_mem_nil, or_false, false_or,
          ExternalProviderConfiguration.Key.context.injEq] at listed
        refine ⟨listed.1.symm, ⟨row, member, rfl, listed.1.symm⟩, ?_⟩
        intro _ isValid
        rw [listed.1]
        exact sound row member (Or.inr isValid)
  | located call request row =>
    rcases reads with ⟨sameProvider, isKnown, validated⟩
    simp only [advanceProvider, Prod.mk.injEq] at advanced
    rcases advanced with ⟨rfl, isNext⟩
    cases request with
    | saveConfiguration secrets sender => cases isNext
    | setState enabled =>
      simp only [afterReads] at isNext
      split at isNext
      · cases isNext
      · rename_i may
        cases isNext
        refine ⟨isKnown, ?_⟩
        intro isEnabled
        subst isEnabled
        apply validated rfl
        apply mayEnable_valid
        by_contra mayNot
        exact may ⟨rfl, Bool.eq_false_iff.mpr mayNot⟩
    | revokeCredentials =>
      cases isNext
      trivial
    | validateConfiguration =>
      cases isNext
      exact ⟨sameProvider, isKnown, rfl⟩
  | validating call row credentials =>
    rcases reads with ⟨sameProvider, isKnown, active⟩
    simp only [advanceProvider] at advanced
    split at advanced
    · rename_i checked
      cases advanced
      refine ⟨isKnown, active, ?_⟩
      intro _
      refine ⟨?_, ?_⟩
      · have complete := checkConfiguration_complete checked
        rw [sameProvider] at complete
        change forall kind, _ -> Exists fun credential => credential ∈ activeCredentials store row.id ∧ _
        rw [active]
        exact complete
      · change _ = some (activeCredentials store row.id)
        rw [active]
        simp only [ProviderStore.lastValid, List.find?_cons, decide_true, Option.map_some]
    · cases advanced
      refine ⟨isKnown, active, ?_⟩
      intro isValid
      cases isValid
  | recording call validation =>
    simp only [advanceProvider, Prod.mk.injEq, Option.some.injEq] at advanced
    rcases advanced with ⟨rfl, rfl⟩
    intro announced announcedValidation isSome
    split at isSome
    · cases isSome
      exact ⟨(ProviderEffect.recorded call validation input.now).known reads.1, reads.2.1⟩
    · cases isSome
  | enabling call id enabled =>
    simp only [advanceProvider, Prod.mk.injEq, Option.some.injEq] at advanced
    rcases advanced with ⟨_, rfl⟩
    intro announced validation isSome
    cases isSome
  | revoking call id =>
    simp only [advanceProvider] at advanced
    split at advanced
    · cases advanced
    · cases advanced
      intro announced validation isSome
      cases isSome
  | emitting event succeeded =>
    simp only [advanceProvider] at advanced
    split at advanced
    · cases advanced
    · cases advanced
    · rename_i call validation _
      cases advanced
      rcases reads call validation rfl with ⟨isKnown, active⟩
      refine ⟨isKnown, active, ?_⟩
      intro isValid
      cases isValid

theorem providers_outlined : (providerProtocol runtime).Outlined Undisturbing Sound Reads where
  enters _ _ _ _ _ := trivial
  advances crowd process point input after later holds allows here advanced := by
    simp only [providerProtocol, Except.ok.injEq] at advanced
    have reads := holds.points process point here
    have effect : ProviderEffect crowd.store point after := by
      have done : ProviderEffect crowd.store point
          (advanceProvider runtime crowd.store point input).1 := advance_effect
      rw [advanced] at done
      exact done
    refine ⟨effect.sound holds.store reads ?_, ?_⟩
    · intro id rotates saves
      exact (allows point id here rotates).2 saves
    · intro next isNext
      subst isNext
      exact reads_next holds.store reads advanced
  spares crowd process point input after later holds allows here advanced other bystander _ stands := by
    simp only [providerProtocol, Except.ok.injEq] at advanced
    have reads := holds.points process point here
    have effect : ProviderEffect crowd.store point after := by
      have done : ProviderEffect crowd.store point
          (advanceProvider runtime crowd.store point input).1 := advance_effect
      rw [advanced] at done
      exact done
    apply (holds.points other bystander stands).spared fun id provider => effect.known
    intro id provider known engaged
    apply effect.spares known
    · intro rotates
      exact (allows point id here rotates).1 other bystander stands engaged
    · rintro call row credentials rfl
      exact reads.2.2
  ambient _ event _ _ _ _ := nomatch event

/-- In every run that replaces credentials while their configuration is
disabled, and changes them while no validation or enabling of it is under way,
enabled configurations are validated, and no result is recorded for
credentials that it is not about. -/
theorem providers_validated_of_undisturbed (runtime : ProviderRuntime)
    (moves : List (CrowdMove (ProviderCall × ProviderRequest) ProviderInput Empty))
    (undisturbed : (providerProtocol runtime).machine.Admits Undisturbing
      (Crowd.opening ProviderStore.empty) moves) :
    ProvidersValidated ((providerProtocol runtime).machine.run (Crowd.opening ProviderStore.empty) moves) := by
  have initially : Sound ProviderStore.empty := by
    intro row member
    exact absurd member (Table.not_mem_empty row)
  have outlined : (providerProtocol runtime).Outlined Undisturbing Sound Reads := providers_outlined
  have holds := outlined.run (Protocol.holds_opening initially) undisturbed
  refine ⟨fun row member enabled => holds.store row member (Or.inl enabled), ?_⟩
  intro process call validation stands
  exact (holds.points process (.recording call validation) stands).2.1

/-! ## Credentials that no validation has seen -/

/-- A runtime whose cipher puts the key and the nonce before the text. -/
def sampleRuntime : ProviderRuntime where
  deploymentEnvironment := "development"
  localProductionSimulation := false
  currentVersion := 1
  currentKey := some "0123456789abcdef0123456789abcdef"
  previousKeys _ := none
  resendSenderDomain := "mail.example.test"
  sealCredential plaintext material _ nonce := material ++ nonce ++ plaintext
  openCredential encrypted material _ :=
    if startsWith material encrypted then
      some (String.ofList (encrypted.toList.drop (material.toList.length + 1)))
    else none

def sampleCall (request : ProviderRequest) : ProviderCall × ProviderRequest :=
  (⟨"admin", .payMongo, .test⟩, request)

def saving (secrets : List (ProviderCredentialKind × String)) : ProviderCall × ProviderRequest :=
  sampleCall (.saveConfiguration secrets ⟨none, none, none⟩)

/-- An access that the provider and the sink do not fail. -/
def smoothly (now : Time) : ProviderInput where
  now
  draw index := "drawn" ++ toString (10 * now + index)
  nonce _ := "n"
  verdict := .ok ()
  sink := .ok ()

abbrev ProviderMove := CrowdMove (ProviderCall × ProviderRequest) ProviderInput Empty

/-- The configuration is saved and validated. -/
def validatedOnce : List ProviderMove :=
  [.start 0 (saving [(.secretKey, "sk_test_first"), (.webhookSecret, "whsk_first")]),
    .advance 0 (smoothly 1), .advance 0 (smoothly 2),
    .start 1 (sampleCall .validateConfiguration), .advance 1 (smoothly 3), .advance 1 (smoothly 4),
    .advance 1 (smoothly 5), .advance 1 (smoothly 6), .advance 1 (smoothly 7)]

def enabledNext : List ProviderMove :=
  [.start 2 (sampleCall (.setState true)), .advance 2 (smoothly 11), .advance 2 (smoothly 12),
    .advance 2 (smoothly 13), .advance 2 (smoothly 14)]

def replacedNext : List ProviderMove :=
  [.start 3 (saving [(.secretKey, "sk_test_second")]), .advance 3 (smoothly 21), .advance 3 (smoothly 22)]

/-- A validation has its answer, and is about to record it. -/
def judgedNext : List ProviderMove :=
  [.start 4 (sampleCall .validateConfiguration), .advance 4 (smoothly 31), .advance 4 (smoothly 32),
    .advance 4 (smoothly 33)]

/-- An enabled configuration has other credentials than those found valid last. -/
def enablesUnvalidated (crowd : Crowd ProviderStore ProviderPoint) : Bool :=
  crowd.store.configurations.rows.any fun row =>
    row.enabled && crowd.store.lastValid row.id ≠ some (activeCredentials crowd.store row.id)

theorem not_validated_of_enabled (enables : enablesUnvalidated crowd = true) :
    ¬ ProvidersValidated crowd := by
  intro validated
  rcases List.any_eq_true.mp enables with ⟨row, member, isRow⟩
  rw [Bool.and_eq_true, decide_eq_true_eq] at isRow
  exact isRow.2 (validated.enabled row member isRow.1).last

/-- The process is about to record a result for other credentials. -/
def recordsForeign (crowd : Crowd ProviderStore ProviderPoint) (process : Nat) : Bool :=
  match crowd.processes process with
  | some (.recording _ validation) =>
    activeCredentials crowd.store validation.configurationId ≠ validation.credentials
  | _ => false

theorem not_validated_of_foreign (process : Nat) (foreign : recordsForeign crowd process = true) :
    ¬ ProvidersValidated crowd := by
  intro validated
  unfold recordsForeign at foreign
  split at foreign
  · rename_i call validation stands
    rw [decide_eq_true_eq] at foreign
    exact foreign (validated.recordsOwn process call validation stands)
  · cases foreign

/-- Credentials replaced after the configuration is enabled are in use without
a validation; replaced during a validation, they receive its result. -/
theorem unvalidated_by_replacement :
    (¬ ProvidersValidated ((providerProtocol sampleRuntime).machine.run
      (Crowd.opening ProviderStore.empty) (validatedOnce ++ enabledNext ++ replacedNext))) ∧
    ¬ ProvidersValidated ((providerProtocol sampleRuntime).machine.run
      (Crowd.opening ProviderStore.empty) (validatedOnce ++ judgedNext ++ replacedNext)) := by
  refine ⟨not_validated_of_enabled ?_, not_validated_of_foreign 4 ?_⟩
  · decide +kernel
  · decide +kernel

theorem providers_validated_of_undisturbed_enabledOnce :
    ProvidersValidated ((providerProtocol sampleRuntime).machine.run (Crowd.opening ProviderStore.empty)
      (validatedOnce ++ enabledNext)) := by
  refine providers_validated_of_undisturbed sampleRuntime _
    ⟨trivial, ?_, ?_, trivial, ?_, ?_, ?_, ?_, ?_, trivial, ?_, ?_, ?_, ?_, trivial⟩
  · rintro point id here rotates
    cases here
    rcases rotates with ⟨_, row, found, _⟩
    cases found
  all_goals
    intro point id here rotates
    cases here
    cases rotates

end Providers
end DigitalSolutions
