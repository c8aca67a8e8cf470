import DigitalSolutions.Distribution.UpdateRollback

namespace DigitalSolutions
namespace Distribution

open Foundation Persistence Platform

/-!
# Supported clients trust the key that signs

Activation and retirement each check that some active key is trusted by every
client that a release supports.  The invariant joins both checks with what
registration has verified, and is all that serving needs: the key it chooses
is another one, but always one that the client trusts.
-/

variable {platform : UpdatePlatform} {before after : UpdateStore}
variable {release : LicensingAgentUpdateRelease} {store : UpdateStore}
variable {request : LicensingAgentUpdateRequest}

/-- What is known of every stored key. -/
structure KeyChecked (platform : UpdatePlatform) (key : LicensingAgentUpdateKey) : Prop where
  wellFormed : safeKeyId key.keyId = true
  version : platform.semver.valid key.trustedFromVersion = true
  material : SigningMaterial platform key

/-- An active key is trusted by every client that the release supports. -/
def HasKey (platform : UpdatePlatform) (keys : Table LicensingAgentUpdateKey)
    (minimumSupportedVersion : String) : Prop :=
  Exists fun key => key ∈ keys ∧ key.status = .active ∧
    platform.semver.lte key.trustedFromVersion minimumSupportedVersion = true

structure Covered (platform : UpdatePlatform) (store : UpdateStore) : Prop where
  keys : forall key, key ∈ store.keys -> KeyChecked platform key
  releases : forall release, release ∈ store.releases -> ReleaseChecked platform release
  artifacts : forall artifact, artifact ∈ store.artifacts -> Exists fun release =>
    release ∈ store.releases ∧ release.id = artifact.releaseId ∧ ArtifactChecked release.version
      artifact.architecture artifact.artifactId artifact.sha256 artifact.sizeBytes
  covered : forall release, release ∈ store.releases -> release.active = true ->
    HasKey platform store.keys release.minimumSupportedVersion

theorem covered_empty : Covered platform UpdateStore.empty where
  keys := fun _ member => absurd member (Table.not_mem_empty _)
  releases := fun _ member => absurd member (Table.not_mem_empty _)
  artifacts := fun _ member => absurd member (Table.not_mem_empty _)
  covered := fun _ member => absurd member (Table.not_mem_empty _)

/-! ## Each part of the invariant is kept -/

theorem key_eq_of_id {keys : Table LicensingAgentUpdateKey} {first second : LicensingAgentUpdateKey}
    (firstMember : first ∈ keys) (secondMember : second ∈ keys) (same : first.id = second.id) :
    first = second := by
  have firstKey : LicensingAgentUpdateKey.Key.id first.id ∈ Keyed.keys first := by simp [Keyed.keys]
  have secondKey : LicensingAgentUpdateKey.Key.id first.id ∈ Keyed.keys second := by
    simp [Keyed.keys, same]
  exact keys.eq_of_common_key firstMember secondMember firstKey secondKey

/-- Changing the status of a key leaves what was checked about it. -/
theorem KeyChecked.of_rows {keys written : Table LicensingAgentUpdateKey} {id : Id}
    {data : LicensingAgentUpdateKey -> LicensingAgentUpdateKey}
    (wrote : written.rows = keys.rows.map fun row => if row.id = id then data row else row)
    (keeps : forall row, KeyChecked platform row -> KeyChecked platform (data row))
    (checked : forall key, key ∈ keys -> KeyChecked platform key) :
    forall key, key ∈ written -> KeyChecked platform key := by
  intro key member
  rcases (Table.mem_of_rows wrote).mp member with ⟨old, oldMember, same⟩
  rw [← same]
  split
  · exact keeps old (checked old oldMember)
  · exact checked old oldMember

theorem Covered.keys_step (covered : Covered platform before) (effect : UpdateEffect platform before after) :
    forall key, key ∈ after.keys -> KeyChecked platform key := by
  cases effect with
  | kept => exact covered.keys
  | keyStaged wellFormed version material staged inserted =>
    intro key member
    rcases (Table.mem_insert inserted).mp member with old | isNew
    · exact covered.keys key old
    · exact isNew ▸ ⟨wellFormed, version, material⟩
  | keyActivated now member usable wrote =>
    exact KeyChecked.of_rows wrote (fun _ checked => ⟨checked.1, checked.2, checked.3⟩) covered.keys
  | keyRetired now member spared wrote =>
    exact KeyChecked.of_rows wrote (fun _ checked => ⟨checked.1, checked.2, checked.3⟩) covered.keys
  | releaseRegistered => exact covered.keys
  | releaseActivated => exact covered.keys
  | releaseDeactivated => exact covered.keys

theorem ReleaseChecked.of_identity {old row : LicensingAgentUpdateRelease}
    (checked : ReleaseChecked platform old) (same : identity row = identity old) :
    ReleaseChecked platform row := by
  have version : row.version = old.version := congrArg ReleaseIdentity.version same
  have minimum : row.minimumSupportedVersion = old.minimumSupportedVersion :=
    congrArg ReleaseIdentity.minimumSupportedVersion same
  have revision : row.revision = old.revision := congrArg ReleaseIdentity.revision same
  have tag : row.releaseTag = old.releaseTag := congrArg ReleaseIdentity.releaseTag same
  constructor
  · exact version ▸ checked.version
  · exact minimum ▸ checked.minimum
  · rw [version, minimum]
    exact checked.ordered
  · exact revision ▸ checked.revision
  · rw [version, tag]
    exact checked.tag

theorem Covered.releases_step (covered : Covered platform before)
    (effect : UpdateEffect platform before after) :
    forall release, release ∈ after.releases -> ReleaseChecked platform release := by
  intro row member
  cases moved : effect.releases with
  | registered checked inactive never inserted =>
    rcases (Table.mem_insert inserted).mp member with old | isNew
    · exact covered.releases row old
    · exact isNew ▸ checked
  | moved change wrote move =>
    rcases (Table.mem_of_rows wrote).mp member with ⟨old, oldMember, rfl⟩
    exact (covered.releases old oldMember).of_identity (move old oldMember).identity

theorem Covered.artifacts_step (covered : Covered platform before)
    (effect : UpdateEffect platform before after) :
    forall artifact, artifact ∈ after.artifacts -> Exists fun release =>
      release ∈ after.releases ∧ release.id = artifact.releaseId ∧ ArtifactChecked release.version
        artifact.architecture artifact.artifactId artifact.sha256 artifact.sizeBytes := by
  have kept := effect.releases.kept rfl
  have stillThere : forall artifact, artifact ∈ before.artifacts -> Exists fun release =>
      release ∈ after.releases ∧ release.id = artifact.releaseId ∧ ArtifactChecked release.version
        artifact.architecture artifact.artifactId artifact.sha256 artifact.sizeBytes := by
    intro artifact member
    rcases covered.artifacts artifact member with ⟨old, oldMember, belongs, checked⟩
    rcases kept old oldMember with ⟨row, rowMember, same, _⟩
    have sameId : row.id = old.id := congrArg ReleaseIdentity.id same
    have sameVersion : row.version = old.version := congrArg ReleaseIdentity.version same
    refine ⟨row, rowMember, sameId.trans belongs, ?_⟩
    rw [sameVersion]
    exact checked
  cases effect with
  | kept => exact stillThere
  | keyStaged => exact stillThere
  | keyActivated => exact stillThere
  | keyRetired => exact stillThere
  | releaseRegistered checked inactive never inserted grown =>
    intro artifact member
    rcases grown artifact member with old | ⟨belongs, verified⟩
    · exact stillThere artifact old
    · exact ⟨_, (Table.mem_insert inserted).mpr (Or.inr rfl), belongs.symm, verified⟩
  | releaseActivated => exact stillThere
  | releaseDeactivated => exact stillThere

/-- A key that an active release needs is not retired. -/
theorem hasKey_of_spared {key : LicensingAgentUpdateKey}
    (spared : stillRequired platform key before = false) (member : release ∈ before.releases)
    (active : release.active = true) :
    Exists fun other => other ∈ before.keys ∧ other.status = .active ∧ other.id ≠ key.id ∧
      platform.semver.lte other.trustedFromVersion release.minimumSupportedVersion = true := by
  unfold stillRequired at spared
  have selected : release ∈ before.releases.select fun release => release.active := by
    rw [Table.mem_select]
    exact ⟨member, active⟩
  have needed := List.any_eq_false.mp spared release selected
  simp only [Bool.not_eq_true', Bool.not_eq_false, List.any_eq_true, Table.mem_select, Bool.and_eq_true,
    decide_eq_true_eq, covers] at needed
  rcases needed with ⟨other, ⟨otherMember, otherActive, different⟩, _, trusted⟩
  exact ⟨other, otherMember, otherActive, different, trusted⟩

theorem Covered.covered_step (covered : Covered platform before)
    (effect : UpdateEffect platform before after) :
    forall release, release ∈ after.releases -> release.active = true ->
      HasKey platform after.keys release.minimumSupportedVersion := by
  intro row member active
  -- Where the keys stay, a release that is active now was active or has just been checked.
  have released : after.keys = before.keys ->
      HasKey platform after.keys row.minimumSupportedVersion := by
    intro sameKeys
    rw [sameKeys]
    cases moved : effect.releases with
    | registered checked inactive never inserted =>
      rcases (Table.mem_insert inserted).mp member with old | isNew
      · exact covered.covered row old active
      · rw [isNew, inactive] at active
        cases active
    | moved change wrote move =>
      rcases (Table.mem_of_rows wrote).mp member with ⟨old, oldMember, rfl⟩
      have minimum : (change old).minimumSupportedVersion = old.minimumSupportedVersion :=
        congrArg ReleaseIdentity.minimumSupportedVersion (move old oldMember).identity
      rw [minimum]
      rcases (move old oldMember).origin_active active with wasActive | may
      · exact covered.covered old oldMember wasActive
      · rcases List.any_eq_true.mp may.signed with ⟨key, selected, trusted⟩
        rw [Table.mem_select, decide_eq_true_eq] at selected
        exact ⟨key, selected.1, selected.2, (Bool.and_eq_true_iff.mp trusted).2⟩
  cases effect with
  | kept => exact released rfl
  | keyStaged wellFormed version material staged inserted =>
    rcases covered.covered row member active with ⟨key, keyMember, keyActive, trusted⟩
    exact ⟨key, (Table.mem_insert inserted).mpr (Or.inl keyMember), keyActive, trusted⟩
  | @keyActivated now key keys keyMember usable wrote =>
    rcases covered.covered row member active with ⟨other, otherMember, otherActive, trusted⟩
    refine ⟨_, (Table.mem_of_rows wrote).mpr ⟨other, otherMember, rfl⟩, ?_, ?_⟩
    · split
      · rfl
      · exact otherActive
    · split
      · exact trusted
      · exact trusted
  | @keyRetired now key keys keyMember spared wrote =>
    have remaining : Exists fun other => other ∈ before.keys ∧ other.status = .active ∧
        other.id ≠ key.id ∧
        platform.semver.lte other.trustedFromVersion row.minimumSupportedVersion = true := by
      by_cases keyActive : key.status = .active
      · exact hasKey_of_spared (spared keyActive) member active
      · rcases covered.covered row member active with ⟨other, otherMember, otherActive, trusted⟩
        refine ⟨other, otherMember, otherActive, ?_, trusted⟩
        intro same
        exact keyActive (key_eq_of_id otherMember keyMember same ▸ otherActive)
    rcases remaining with ⟨other, otherMember, otherActive, different, trusted⟩
    refine ⟨other, (Table.mem_of_rows wrote).mpr ⟨other, otherMember, ?_⟩, otherActive, trusted⟩
    rw [if_neg different]
  | releaseRegistered => exact released rfl
  | releaseActivated => exact released rfl
  | releaseDeactivated => exact released rfl

theorem Covered.step (covered : Covered platform before) (effect : UpdateEffect platform before after) :
    Covered platform after where
  keys := covered.keys_step effect
  releases := covered.releases_step effect
  artifacts := covered.artifacts_step effect
  covered := covered.covered_step effect

theorem perform_covered {call : UpdateCall} {answer : Json} (covered : Covered platform before)
    (commits : (perform platform call).Commits before answer after) : Covered platform after := by
  rcases perform_effect commits with ⟨middle, effect, written⟩
  have stepped := covered.step effect
  rw [written]
  exact ⟨stepped.keys, stepped.releases, stepped.artifacts, stepped.covered⟩

/-! ## Serving -/

/-- Signing material that was checked yields an Ed25519 key whose public half is
the stored one. -/
theorem assertLicensingAgentSigningMaterial_key {publicKey privateValue : String}
    (material : assertLicensingAgentSigningMaterial platform publicKey privateValue = .ok ()) :
    Exists fun privateKey => parsePrivateKey platform privateValue = .ok privateKey ∧
      privateKey.asymmetricKeyType = "ed25519" ∧
      platform.publicKeyBytes privateKey = some (platform.decodeBase64 publicKey) := by
  unfold assertLicensingAgentSigningMaterial at material
  simp only at material
  split at material
  · cases material
  · rcases bind_ok_iff.mp material with ⟨raw, derived, compared⟩
    simp only [rawEd25519PublicKeyFromPrivate, bind_ok_iff] at derived
    rcases derived with ⟨privateKey, parsed, exported⟩
    refine ⟨privateKey, parsed, ?_, ?_⟩
    · unfold parsePrivateKey at parsed
      simp only at parsed
      split at parsed
      · cases parsed
      · split at parsed
        · cases parsed
        · rename_i isEd25519
          cases parsed
          exact not_not.mp isEd25519
    · split at compared
      · cases compared
      · rename_i same
        split at exported
        · cases exported
        · rename_i bytes found
          split at exported
          · cases exported
          · cases exported
            rw [found, not_not.mp same]

/-- The policy is signed with the private half of the key. -/
def SignedBy (platform : UpdatePlatform) (key : LicensingAgentUpdateKey)
    (policy : SignedLicensingAgentUpdatePolicy) : Prop :=
  policy.signingKeyId = key.keyId ∧ Exists fun privateKey =>
    platform.publicKeyBytes privateKey = some (platform.decodeBase64 key.publicKey) ∧
    Exists fun signature => policy.signature = platform.encodeBase64 signature ∧
      platform.verify privateKey (canonicalUnsignedPolicy platform policy.toUnsignedPolicy) signature = true

/-- A request that a release with these versions answers. -/
structure Supported (platform : UpdatePlatform) (release : LicensingAgentUpdateRelease)
    (architecture : LicensingAgentArchitecture) (request : LicensingAgentUpdateRequest) : Prop where
  valid : platform.semver.valid (trim request.currentVersion) = true
  atLeast : platform.semver.lte release.minimumSupportedVersion (trim request.currentVersion) = true
  atMost : platform.semver.lte (trim request.currentVersion) release.version = true
  windows : toLowerCase (trim request.platform) = "windows"
  architecture : normalizeLicensingAgentArchitecture request.architecture = .ok architecture

theorem checkUpdatePolicy_ok (artifact : LicensingAgentUpdateArtifact) {key : LicensingAgentUpdateKey}
    {privateValue : String} (supported : Supported platform release artifact.architecture request)
    (checked : ReleaseChecked platform release) (wellFormed : safeKeyId key.keyId = true)
    (verified : ArtifactChecked release.version artifact.architecture artifact.artifactId artifact.sha256
      artifact.size)
    (material : assertLicensingAgentSigningMaterial platform key.publicKey privateValue = .ok ()) :
    checkUpdatePolicy platform request
      { latestVersion := release.version
        minimumSupportedVersion := release.minimumSupportedVersion
        revision := release.revision
        releaseTag := release.releaseTag
        publishedAt := release.publishedAt
        artifact
        signingKeyId := key.keyId
        signingPublicKey := key.publicKey
        signingPrivateKey := privateValue } = .ok artifact.architecture := by
  have notNewer : platform.semver.gt (trim request.currentVersion) release.version = false := by
    have atMost := supported.atMost
    simp only [Semver.lte, Semver.gt, decide_eq_true_eq, decide_eq_false_iff_not] at atMost ⊢
    omega
  have positive : ¬ release.revision < 1 := by
    have atLeast := checked.revision.2
    omega
  have sized : ¬ artifact.size < 2 ∧ ¬ artifact.size > licensingAgentMaxInstallerBytes :=
    ⟨not_lt.mpr verified.size.2.1, not_lt.mpr verified.size.2.2⟩
  simp only [checkUpdatePolicy, bind_ok_iff, reject_ok_iff, supported.valid, supported.windows,
    supported.architecture, checked.version, checked.minimum, checked.ordered, notNewer,
    checked.revision.1, positive, wellFormed, verified.sha256, verified.size.1, sized.1, sized.2,
    checked.tag, verified.artifactId, material, Bool.true_eq_false, Bool.false_eq_true, ne_eq,
    not_true_eq_false, not_false_eq_true, or_self, true_and, exists_const, Except.ok.injEq,
    exists_eq_left']

theorem signLicensingAgentUpdatePolicy_ok (signs : platform.Ed25519)
    {configuration : LicensingAgentUpdatePolicyConfiguration} (issuedAt : Time)
    {architecture : LicensingAgentArchitecture} {privateKey : PrivateKey}
    (passed : checkUpdatePolicy platform request configuration = .ok architecture)
    (parsed : parsePrivateKey platform configuration.signingPrivateKey = .ok privateKey)
    (isEd25519 : privateKey.asymmetricKeyType = "ed25519") :
    signLicensingAgentUpdatePolicy platform request configuration issuedAt =
      .ok { unsignedPolicy platform request configuration issuedAt architecture with
        signature := platform.encodeBase64 (platform.sign privateKey (canonicalUnsignedPolicy platform
          (unsignedPolicy platform request configuration issuedAt architecture))) } := by
  have verifies := signs privateKey (canonicalUnsignedPolicy platform
    (unsignedPolicy platform request configuration issuedAt architecture)) isEd25519
  simp only [signLicensingAgentUpdatePolicy, bind_ok_iff, reject_ok_iff, passed, parsed, verifies,
    Bool.true_eq_false, not_false_eq_true, exists_const, true_and, Except.ok.injEq, exists_eq_left']

/-- What a client of this version needs from a policy: it is about the release,
and signed by an active key that the client trusts. -/
structure Acceptable (platform : UpdatePlatform) (store : UpdateStore)
    (release : LicensingAgentUpdateRelease) (version : String) (policy : SignedLicensingAgentUpdatePolicy) :
    Prop where
  latest : policy.latestVersion = release.version ∧ policy.releaseId = release.releaseTag ∧
    policy.revision = release.revision
  trusted : Exists fun key => key ∈ store.keys ∧ key.status = .active ∧
    platform.semver.lte key.trustedFromVersion version = true ∧ SignedBy platform key policy

/-- Every supported client of every active release is served a policy that it
can verify. -/
def ServesSupported (platform : UpdatePlatform) (store : UpdateStore) : Prop :=
  forall release, release ∈ store.releases -> release.active = true ->
    forall artifact, artifact ∈ store.artifacts -> artifact.releaseId = release.id ->
    forall request, Supported platform release artifact.architecture request ->
    forall issuedAt, Exists fun policy =>
      resolveSignedLicensingAgentUpdate platform release.audience request issuedAt store = .ok policy ∧
      Acceptable platform store release (trim request.currentVersion) policy

/-- The join finds the active release and its installer. -/
theorem activeRelease_head {artifact : LicensingAgentUpdateArtifactRow}
    (member : release ∈ store.releases) (active : release.active = true)
    (artifactMember : artifact ∈ store.artifacts) (belongs : artifact.releaseId = release.id) :
    (activeRelease store release.audience artifact.architecture).head? = some (release, artifact) := by
  have only : forall pair, pair ∈ activeRelease store release.audience artifact.architecture ->
      pair = (release, artifact) := by
    rintro ⟨other, otherArtifact⟩ joined
    simp only [activeRelease, List.mem_flatMap, Table.mem_select, List.mem_map, Bool.and_eq_true,
      decide_eq_true_eq, Prod.mk.injEq] at joined
    rcases joined with ⟨found, ⟨foundMember, audience, foundActive⟩, row, ⟨rowMember, rowBelongs, fits⟩,
      rfl, rfl⟩
    have sameRelease := active_release_unique foundMember member foundActive active audience
    subst sameRelease
    have rowKey : LicensingAgentUpdateArtifactRow.Key.architecture artifact.releaseId artifact.architecture
        ∈ Keyed.keys row := by simp [Keyed.keys, rowBelongs, belongs, fits]
    have artifactKey : LicensingAgentUpdateArtifactRow.Key.architecture artifact.releaseId
        artifact.architecture ∈ Keyed.keys artifact := by simp [Keyed.keys]
    rw [store.artifacts.eq_of_common_key rowMember artifactMember rowKey artifactKey]
  have present : (release, artifact) ∈ activeRelease store release.audience artifact.architecture := by
    simp only [activeRelease, List.mem_flatMap, Table.mem_select, List.mem_map, Bool.and_eq_true,
      decide_eq_true_eq]
    exact ⟨release, ⟨member, rfl, active⟩, artifact, ⟨artifactMember, belongs, rfl⟩, rfl⟩
  cases joined : activeRelease store release.audience artifact.architecture with
  | nil =>
    rw [joined] at present
    cases present
  | cons pair rest =>
    have isPair := only pair (joined ▸ List.mem_cons_self)
    rw [isPair]
    rfl

/-- The key that signs for a supported client is active, and trusted by it. -/
theorem compatibleKeys_head (lawful : platform.semver.Lawful) {minimum version : String}
    (checked : forall key, key ∈ store.keys -> KeyChecked platform key)
    (hasKey : HasKey platform store.keys minimum) (minimumValid : platform.semver.valid minimum = true)
    (versionValid : platform.semver.valid version = true)
    (atLeast : platform.semver.lte minimum version = true) :
    Exists fun key => (compatibleKeys platform store version).head? = some key ∧ key ∈ store.keys ∧
      key.status = .active ∧ platform.semver.lte key.trustedFromVersion version = true := by
  have listed : forall key, key ∈ compatibleKeys platform store version ↔
      (key ∈ store.keys ∧ key.status = .active) ∧ platform.semver.valid key.trustedFromVersion = true ∧
        platform.semver.lte key.trustedFromVersion version = true := by
    intro key
    rw [compatibleKeys, (List.perm_insertionSort _ _).mem_iff, List.mem_filter, Table.mem_select,
      decide_eq_true_eq, Bool.and_eq_true]
  rcases hasKey with ⟨cover, coverMember, coverActive, trusted⟩
  have coverValid := (checked cover coverMember).version
  have coverListed := (listed cover).mpr ⟨⟨coverMember, coverActive⟩, coverValid,
    lawful.trans _ _ _ coverValid minimumValid versionValid trusted atLeast⟩
  cases sorted : compatibleKeys platform store version with
  | nil =>
    rw [sorted] at coverListed
    cases coverListed
  | cons key rest =>
    have chosen := (listed key).mp (sorted ▸ List.mem_cons_self)
    exact ⟨key, rfl, chosen.1.1, chosen.1.2, chosen.2.2⟩

/-- The configuration that the authority signs from. -/
def servedConfiguration (release : LicensingAgentUpdateRelease) (artifact : LicensingAgentUpdateArtifactRow)
    (key : LicensingAgentUpdateKey) (signingPrivateKey : String) :
    LicensingAgentUpdatePolicyConfiguration where
  latestVersion := release.version
  minimumSupportedVersion := release.minimumSupportedVersion
  revision := release.revision
  releaseTag := release.releaseTag
  publishedAt := release.publishedAt
  artifact := ⟨artifact.architecture, artifact.artifactId, artifact.sha256, artifact.sizeBytes⟩
  signingKeyId := key.keyId
  signingPublicKey := key.publicKey
  signingPrivateKey := signingPrivateKey

theorem Covered.serves (lawful : platform.semver.Lawful) (signs : platform.Ed25519)
    (covered : Covered platform store) : ServesSupported platform store := by
  intro release member active artifact artifactMember belongs request supported issuedAt
  have checked := covered.releases release member
  have verified : ArtifactChecked release.version artifact.architecture artifact.artifactId artifact.sha256
      artifact.sizeBytes := by
    rcases covered.artifacts artifact artifactMember with ⟨owner, ownerMember, ownerId, verified⟩
    rw [← release_eq_of_id ownerMember member (ownerId.trans belongs)]
    exact verified
  have joined := activeRelease_head member active artifactMember belongs
  rcases compatibleKeys_head lawful covered.keys (covered.covered release member active) checked.minimum
      supported.valid supported.atLeast with
    ⟨key, chosen, keyMember, keyActive, trusted⟩
  rcases (covered.keys key keyMember).material with ⟨privateValue, resolved, material⟩
  rcases assertLicensingAgentSigningMaterial_key material with ⟨privateKey, parsed, isEd25519, publicHalf⟩
  have wellFormed := (covered.keys key keyMember).wellFormed
  have passed := checkUpdatePolicy_ok
    ⟨artifact.architecture, artifact.artifactId, artifact.sha256, artifact.sizeBytes⟩ supported checked
    wellFormed verified material
  have signed := signLicensingAgentUpdatePolicy_ok signs issuedAt passed parsed isEd25519
  have answered : forall policy, signLicensingAgentUpdatePolicy platform request
      (servedConfiguration release artifact key privateValue) issuedAt = .ok policy ->
      resolveSignedLicensingAgentUpdate platform release.audience request issuedAt store = .ok policy := by
    intro policy issued
    simp only [resolveSignedLicensingAgentUpdate, bind_ok_iff, reject_ok_iff, required_ok_iff,
      supported.valid, supported.windows, supported.architecture, Bool.true_eq_false, ne_eq,
      not_true_eq_false, not_false_eq_true, exists_const, true_and, Except.ok.injEq, exists_eq_left',
      joined, chosen, Option.some.injEq, verified.size.1, resolved]
    exact issued
  refine ⟨_, answered _ signed, ⟨rfl, rfl, rfl⟩, key, keyMember, keyActive, trusted, rfl, privateKey,
    publicHalf, ?_⟩
  exact ⟨_, rfl, signs privateKey _ isEd25519⟩

theorem covered_afterMoves (moves : List (SessionMove UpdateCall)) :
    Covered platform (afterMoves platform moves).store :=
  Shared.run_invariant (fun _ _ _ _ covered commits => perform_covered covered commits)
    covered_empty moves

/-- Every supported client can verify what it is served: in every state that
the mutations lead to, and so after every retirement or activation that is
accepted. -/
theorem supported_clients_served (lawful : platform.semver.Lawful) (signs : platform.Ed25519)
    (moves : List (SessionMove UpdateCall)) :
    ServesSupported platform (afterMoves platform moves).store ∧
      forall move next, (updateMachine platform).step (afterMoves platform moves) move = .ok next ->
        ServesSupported platform next.store := by
  refine ⟨(covered_afterMoves moves).serves lawful signs, ?_⟩
  intro move next accepted
  have reached : afterMoves platform (moves ++ [move]) = next := by
    unfold afterMoves
    rw [Machine.run_concat]
    exact Machine.attempt_ok accepted
  exact reached ▸ (covered_afterMoves (moves ++ [move])).serves lawful signs

theorem samplePlatform_ed25519 : samplePlatform.Ed25519 := by
  intro key message _
  exact decide_eq_true rfl

theorem supported_clients_served_sample :
    ServesSupported samplePlatform (afterMoves samplePlatform sampleMoves).store ∧
      forall move next, (updateMachine samplePlatform).step (afterMoves samplePlatform sampleMoves) move =
        .ok next -> ServesSupported samplePlatform next.store :=
  supported_clients_served plainSemver_lawful samplePlatform_ed25519 sampleMoves

end Distribution
end DigitalSolutions
