import DigitalSolutions.Distribution.UpdateAdmin

namespace DigitalSolutions
namespace Distribution

open Foundation Persistence

/-!
# What a mutation does

A committed call has either replayed its operation, and then changed nothing,
or run its body and recorded the operation.  The bodies write in a few shapes,
which the results about the authority take one by one.
-/

variable (platform : UpdatePlatform)
variable {context : UpdateContext}
variable {version keyId : String} {releaseId : Id}

/-! ## Calls as mutations -/

def UpdateMutation.action : UpdateMutation -> UpdateAction
  | .registerKey _ _ _ => .keyStaged
  | .activateKey _ => .keyActivated
  | .retireKey _ => .keyRetired
  | .registerRelease _ _ _ => .releaseRegistered
  | .activateRelease _ => .releaseActivated
  | .deactivateRelease _ => .releaseDeactivated

namespace UpdateCall

def action (call : UpdateCall) : UpdateAction := call.mutation.action

def request (call : UpdateCall) : Json :=
  match call.mutation with
  | .registerKey keyId publicKey trustedFromVersion =>
    keyRegistrationRequest keyId publicKey trustedFromVersion
  | .activateKey keyId | .retireKey keyId => keyRequest keyId
  | .registerRelease version minimumSupportedVersion revision =>
    releaseRegistrationRequest call.context version minimumSupportedVersion revision
  | .activateRelease releaseId | .deactivateRelease releaseId => releaseRequest releaseId

def execute (call : UpdateCall) : UpdateTx Json :=
  match call.mutation with
  | .registerKey keyId publicKey trustedFromVersion =>
    stageKey platform call.context keyId publicKey trustedFromVersion
  | .activateKey keyId => activateKey platform call.context keyId
  | .retireKey keyId => retireKey platform call.context keyId
  | .registerRelease version minimumSupportedVersion revision =>
    recordRelease platform call.context version minimumSupportedVersion revision
  | .activateRelease releaseId => activateRelease platform call.context releaseId
  | .deactivateRelease releaseId => deactivateRelease call.context releaseId

/-- What is checked before the transaction. -/
def Admissible (call : UpdateCall) : Prop :=
  match call.mutation with
  | .registerKey keyId _ trustedFromVersion =>
    safeKeyId keyId = true ∧ platform.semver.valid trustedFromVersion = true
  | .registerRelease version minimumSupportedVersion revision =>
    (platform.semver.valid version = true ∧ platform.semver.valid minimumSupportedVersion = true) ∧
      platform.semver.gt minimumSupportedVersion version = false ∧
      isSafeInteger revision = true ∧ 1 ≤ revision
  | _ => True

end UpdateCall

variable {platform}
variable {call : UpdateCall} {before after : UpdateStore} {answer : Json}

theorem perform_commits : (perform platform call).Commits before answer after ↔
    call.Admissible platform ∧
      (mutation platform call.context call.action call.request (call.execute platform)).Commits
        before answer after := by
  rcases call with ⟨context, request⟩
  cases request with
  | registerKey keyId publicKey trustedFromVersion =>
    simp only [perform, registerLicensingAgentUpdateKey, Transaction.commits_ite,
      Transaction.not_commits_throw, and_false, false_or, Bool.not_eq_false, UpdateCall.Admissible,
      and_assoc]
    exact Iff.rfl
  | registerRelease version minimumSupportedVersion revision =>
    simp only [perform, registerLicensingAgentUpdateRelease, Transaction.commits_ite,
      Transaction.not_commits_throw, and_false, false_or, Bool.not_eq_false, UpdateCall.Admissible,
      not_or, Bool.not_eq_true, Int.not_lt, and_assoc]
    exact Iff.rfl
  | activateKey keyId => exact (iff_of_eq (true_and _)).symm
  | retireKey keyId => exact (iff_of_eq (true_and _)).symm
  | activateRelease releaseId => exact (iff_of_eq (true_and _)).symm
  | deactivateRelease releaseId => exact (iff_of_eq (true_and _)).symm

/-- The operation that a call records. -/
def recorded (context : UpdateContext) (action : UpdateAction) (request result : Json) :
    LicensingAgentUpdateOperation where
  id := context.draw .operation
  operationId := context.operationId
  action
  actorId := context.actorId
  metadata := ⟨request, result⟩
  createdAt := context.now

theorem mutation_commits {action : UpdateAction} {request : Json} {execute : UpdateTx Json} :
    (mutation platform context action request execute).Commits before answer after ↔
      (Exists fun existing => before.operations.lookup (.operationId context.operationId) = some existing ∧
        replays platform existing action request = true ∧ existing.metadata.result = answer ∧
        before = after) ∨
      (before.operations.lookup (.operationId context.operationId) = none ∧
        Exists fun middle => execute.Commits before answer middle ∧
          Exists fun operations =>
            middle.operations.insert (recorded context action request answer) = some operations ∧
            { middle with operations } = after) := by
  unfold mutation
  rw [Transaction.commits_bind]
  cases found : before.operations.lookup (.operationId context.operationId) with
  | some existing =>
    simp only [Transaction.commits_get, Option.some.injEq, reduceCtorEq, false_and, or_false,
      exists_eq_left']
    constructor
    · rintro ⟨store, middle, ⟨rfl, rfl⟩, rest⟩
      simp only [found, Transaction.commits_ite, Transaction.not_commits_throw, and_false, or_false,
        Transaction.commits_pure] at rest
      exact rest
    · rintro ⟨matched, same, kept⟩
      refine ⟨before, before, ⟨rfl, rfl⟩, ?_⟩
      simp only [found, Transaction.commits_ite, Transaction.commits_pure]
      exact Or.inl ⟨matched, same, kept⟩
  | none =>
    simp only [Transaction.commits_get, reduceCtorEq, false_and, exists_false, false_or, true_and]
    constructor
    · rintro ⟨store, middle, ⟨rfl, rfl⟩, rest⟩
      simp only [found, Transaction.commits_bind, Transaction.commits_get, Transaction.commits_orFail,
        Transaction.commits_set, Transaction.commits_pure] at rest
      rcases rest with ⟨result, executed, done, _, _, ⟨rfl, rfl⟩, operations, _, ⟨inserted, rfl⟩, _, _,
        written, rfl, rfl⟩
      exact ⟨executed, done, operations, inserted, written⟩
    · rintro ⟨executed, done, operations, inserted, written⟩
      refine ⟨before, before, ⟨rfl, rfl⟩, ?_⟩
      simp only [found, Transaction.commits_bind, Transaction.commits_get, Transaction.commits_orFail,
        Transaction.commits_set, Transaction.commits_pure]
      exact ⟨answer, executed, done, executed, executed, ⟨rfl, rfl⟩, operations, executed,
        ⟨inserted, rfl⟩, ⟨⟩, after, written, rfl, rfl⟩

/-! ## What the bodies write -/

/-- The private key that belongs to a stored public key is configured. -/
def SigningMaterial (platform : UpdatePlatform) (key : LicensingAgentUpdateKey) : Prop :=
  Exists fun privateKey =>
    resolveLicensingAgentUpdatePrivateKey platform key.privateKeyReference = .ok privateKey ∧
    assertLicensingAgentSigningMaterial platform key.publicKey privateKey = .ok ()

/-- What registration checks about a release. -/
structure ReleaseChecked (platform : UpdatePlatform) (release : LicensingAgentUpdateRelease) : Prop where
  version : platform.semver.valid release.version = true
  minimum : platform.semver.valid release.minimumSupportedVersion = true
  ordered : platform.semver.gt release.minimumSupportedVersion release.version = false
  revision : isSafeInteger release.revision = true ∧ 1 ≤ release.revision
  tag : licensingAgentReleaseTag platform release.version = .ok release.releaseTag

/-- What registration checks about an installer of a release. -/
structure ArtifactChecked (version : String) (architecture : LicensingAgentArchitecture)
    (artifactId sha256 : String) (size : Int) : Prop where
  artifactId : artifactId = licensingAgentArtifactId version architecture
  sha256 : isSha256 sha256 = true
  size : isSafeInteger size = true ∧ 2 ≤ size ∧ size ≤ licensingAgentMaxInstallerBytes

/-- The changes that the body of a mutation can make. -/
inductive UpdateEffect (platform : UpdatePlatform) (before : UpdateStore) : UpdateStore -> Prop where
  | kept : UpdateEffect platform before before
  | keyStaged {key : LicensingAgentUpdateKey} {keys : Table LicensingAgentUpdateKey}
      (wellFormed : safeKeyId key.keyId = true)
      (version : platform.semver.valid key.trustedFromVersion = true)
      (material : SigningMaterial platform key) (staged : key.status = .staged)
      (inserted : before.keys.insert key = some keys) :
      UpdateEffect platform before { before with keys }
  | keyActivated (now : Time) {key : LicensingAgentUpdateKey} {keys : Table LicensingAgentUpdateKey}
      (member : key ∈ before.keys) (usable : key.status ≠ .retired)
      (wrote : keys.rows = before.keys.rows.map fun row => if row.id = key.id then
        { row with status := .active, activatedAt := some (row.activatedAt.getD now) } else row) :
      UpdateEffect platform before { before with keys }
  | keyRetired (now : Time) {key : LicensingAgentUpdateKey} {keys : Table LicensingAgentUpdateKey}
      (member : key ∈ before.keys)
      (spared : key.status = .active -> stillRequired platform key before = false)
      (wrote : keys.rows = before.keys.rows.map fun row => if row.id = key.id then
        { row with status := .retired, retiredAt := some now } else row) :
      UpdateEffect platform before { before with keys }
  | releaseRegistered {release : LicensingAgentUpdateRelease}
      {releases : Table LicensingAgentUpdateRelease} {artifacts : Table LicensingAgentUpdateArtifactRow}
      (checked : ReleaseChecked platform release) (inactive : release.active = false)
      (never : release.activatedAt = none)
      (inserted : before.releases.insert release = some releases)
      (grown : forall artifact, artifact ∈ artifacts -> artifact ∈ before.artifacts ∨
        artifact.releaseId = release.id ∧ ArtifactChecked release.version artifact.architecture
          artifact.artifactId artifact.sha256 artifact.sizeBytes) :
      UpdateEffect platform before { before with releases, artifacts }
  | releaseActivated {target : LicensingAgentUpdateRelease} {actorId : Id} {now : Time}
      {middle releases : Table LicensingAgentUpdateRelease}
      (member : target ∈ before.releases) (inactive : target.active = false)
      (signed : (before.keys.select fun key => key.status = .active).any
        (fun key => platform.semver.valid key.trustedFromVersion &&
          platform.semver.lte key.trustedFromVersion target.minimumSupportedVersion) = true)
      (forward : rollsBack platform target before = false)
      (retired : retireCurrent target now before = some middle)
      (written : setRelease target.id (activated actorId now) middle = some releases) :
      UpdateEffect platform before { before with releases }
  | releaseDeactivated {release : LicensingAgentUpdateRelease} {now : Time}
      {releases : Table LicensingAgentUpdateRelease} (member : release ∈ before.releases)
      (written : setRelease release.id (deactivated now) before.releases = some releases) :
      UpdateEffect platform before { before with releases }

/-- No body touches the records of operations. -/
theorem UpdateEffect.operations (effect : UpdateEffect platform before after) :
    after.operations = before.operations := by
  cases effect <;> rfl

theorem stageKey_effect {publicKey trustedFromVersion : String} (wellFormed : safeKeyId keyId = true)
    (version : platform.semver.valid trustedFromVersion = true)
    (commits : (stageKey platform context keyId publicKey trustedFromVersion).Commits before answer after) :
    UpdateEffect platform before after := by
  simp only [stageKey, Transaction.commits_bind, Transaction.commits_liftM, Transaction.commits_get,
    Transaction.commits_orFail, Transaction.commits_set, Transaction.commits_pure] at commits
  rcases commits with ⟨reference, _, ⟨_, rfl⟩, privateKey, _, ⟨resolved, rfl⟩, _, _, ⟨material, rfl⟩,
    _, _, ⟨rfl, rfl⟩, keys, _, ⟨inserted, rfl⟩, _, _, rfl, _, rfl⟩
  refine .keyStaged ?_ ?_ ?_ ?_ inserted
  · exact wellFormed
  · exact version
  · exact ⟨privateKey, resolved, material⟩
  · rfl

theorem activateKey_effect (commits : (activateKey platform context keyId).Commits before answer after) :
    UpdateEffect platform before after := by
  simp only [activateKey, Transaction.commits_get, Transaction.commits_bind, Transaction.commits_liftM,
    Transaction.commits_orFail, Transaction.commits_set, Transaction.commits_pure, reject_ok_iff] at commits
  rcases commits with ⟨_, _, ⟨rfl, rfl⟩, key, _, ⟨found, rfl⟩, _, _, ⟨usable, rfl⟩, _, _, ⟨_, rfl⟩, _, _, ⟨_, rfl⟩, _, _, rfl,
    _, rfl⟩
  refine .keyActivated context.now (before.keys.lookup_mem found) usable ?_
  simp only [setKey, Table.update, decide_eq_true_eq]

theorem retireKey_effect (commits : (retireKey platform context keyId).Commits before answer after) :
    UpdateEffect platform before after := by
  simp only [retireKey, Transaction.commits_get, Transaction.commits_bind, Transaction.commits_liftM,
    Transaction.commits_ite, Transaction.commits_orFail, Transaction.commits_set,
    Transaction.commits_pure, reject_ok_iff] at commits
  rcases commits with ⟨_, _, ⟨rfl, rfl⟩, key, _, ⟨found, rfl⟩, ⟨_, _, rfl⟩ | ⟨_, _, _, ⟨spared, rfl⟩, _, _, rfl, _, rfl⟩⟩
  · exact .kept
  · refine .keyRetired context.now (before.keys.lookup_mem found) ?_ ?_
    · intro active
      exact Bool.eq_false_iff.mpr fun required => spared ⟨active, required⟩
    · simp only [setKey, Table.update, decide_eq_true_eq]

theorem assetSize?_checked {asset : Json} {size : Int} (measured : assetSize? asset = some size) :
    isSafeInteger size = true ∧ 2 ≤ size ∧ size ≤ licensingAgentMaxInstallerBytes := by
  unfold assetSize? at measured
  split at measured
  · rename_i literal _
    have bounded := Option.filter_eq_some_iff.mp measured
    have safe : (safeInteger? literal) = some size := bounded.1
    unfold safeInteger? at safe
    have integral := (Option.filter_eq_some_iff.mp safe).2
    have limits := bounded.2
    rw [Bool.and_eq_true, decide_eq_true_eq, decide_eq_true_eq] at limits
    exact ⟨integral, limits⟩
  · cases measured

/-- What the verification of a release vouches for. -/
theorem inspectAssets_checked {assets : List Json} {artifacts : List LicensingAgentUpdateArtifact}
    (inspected : inspectAssets version assets = .ok artifacts) :
    forall artifact, artifact ∈ artifacts ->
      ArtifactChecked version artifact.architecture artifact.artifactId artifact.sha256 artifact.size := by
  induction assets generalizing artifacts with
  | nil =>
    cases inspected
    intro artifact member
    cases member
  | cons asset rest inductionHypothesis =>
    unfold inspectAssets at inspected
    split at inspected
    · cases inspected
    · simp only at inspected
      split at inspected
      · exact inductionHypothesis inspected
      · rename_i architecture _
        split at inspected
        · rename_i size digest measured
          cases later : inspectAssets version rest with
          | error fault =>
            rw [later] at inspected
            cases inspected
          | ok others =>
            rw [later] at inspected
            cases inspected
            intro artifact member
            rcases List.mem_cons.mp member with isFirst | isLater
            · subst isFirst
              exact ⟨rfl, digest, assetSize?_checked measured⟩
            · exact inductionHypothesis later artifact isLater
        · cases inspected

theorem inspectLicensingAgentGitHubRelease_checked {audience : LicensingAgentUpdateAudience}
    {fetched : Except UpdateError GitHubResponse} {verified : VerifiedLicensingAgentGitHubRelease}
    (inspected : inspectLicensingAgentGitHubRelease platform version audience fetched = .ok verified) :
    licensingAgentReleaseTag platform version = .ok verified.releaseTag ∧
      forall artifact, artifact ∈ verified.artifacts ->
        ArtifactChecked version artifact.architecture artifact.artifactId artifact.sha256 artifact.size := by
  simp only [inspectLicensingAgentGitHubRelease, bind_ok_iff, reject_ok_iff, required_ok_iff] at inspected
  rcases inspected with ⟨releaseTag, tagged, response, _, _, _, release, _, _, _, _, _, prerelease, _,
    published, _, assets, _, _, _, publishedAt, _, artifacts, inspected, _, _, isVerified⟩
  cases isVerified
  exact ⟨tagged, inspectAssets_checked inspected⟩

theorem insertArtifacts_commits {artifacts : List (LicensingAgentUpdateArtifact × Nat)} {done : Unit}
    (commits : (insertArtifacts context releaseId artifacts).Commits before done after) :
    after = { before with artifacts := after.artifacts } ∧
      forall row, row ∈ after.artifacts -> row ∈ before.artifacts ∨
        row.releaseId = releaseId ∧ Exists fun artifact => artifact ∈ artifacts.map Prod.fst ∧
          (⟨row.architecture, row.artifactId, row.sha256, row.sizeBytes⟩ : LicensingAgentUpdateArtifact) =
            artifact := by
  induction artifacts generalizing before with
  | nil =>
    simp only [insertArtifacts, Transaction.commits_pure] at commits
    rcases commits with ⟨_, rfl⟩
    exact ⟨rfl, fun row member => Or.inl member⟩
  | cons head rest inductionHypothesis =>
    rcases head with ⟨artifact, index⟩
    simp only [insertArtifacts, Transaction.commits_get, Transaction.commits_bind,
      Transaction.commits_liftM, Transaction.commits_orFail, Transaction.commits_set] at commits
    rcases commits with ⟨_, _, ⟨rfl, rfl⟩, _, _, ⟨_, rfl⟩, inserted, _, ⟨stored, rfl⟩, _, _, rfl, later⟩
    rcases inductionHypothesis later with ⟨same, rows⟩
    refine ⟨same, ?_⟩
    intro row member
    rcases rows row member with earlier | ⟨belongs, other, among, isOther⟩
    · rcases (Table.mem_insert stored).mp earlier with old | isNew
      · exact Or.inl old
      · subst isNew
        exact Or.inr ⟨rfl, artifact, List.mem_cons_self, rfl⟩
    · exact Or.inr ⟨belongs, other, List.mem_cons_of_mem _ among, isOther⟩

theorem recordRelease_effect {minimumSupportedVersion : String} {revision : Int}
    (versions : platform.semver.valid version = true ∧
      platform.semver.valid minimumSupportedVersion = true)
    (ordered : platform.semver.gt minimumSupportedVersion version = false)
    (revised : isSafeInteger revision = true ∧ 1 ≤ revision)
    (commits : (recordRelease platform context version minimumSupportedVersion revision).Commits
      before answer after) : UpdateEffect platform before after := by
  simp only [recordRelease, Transaction.commits_bind, Transaction.commits_liftM, Transaction.commits_get,
    Transaction.commits_orFail, Transaction.commits_set, Transaction.commits_pure] at commits
  rcases commits with ⟨verified, _, ⟨inspected, rfl⟩, _, _, ⟨rfl, rfl⟩, _, _, ⟨_, rfl⟩, releases, _,
    ⟨inserted, rfl⟩, _, _, rfl, _, _, installed, _, rfl⟩
  have checked := inspectLicensingAgentGitHubRelease_checked inspected
  have added := insertArtifacts_commits installed
  rw [added.1]
  refine .releaseRegistered ?_ ?_ ?_ inserted ?_
  · exact ⟨versions.1, versions.2, ordered, revised, checked.1⟩
  · rfl
  · rfl
  · intro row member
    rcases added.2 row member with old | ⟨belongs, artifact, among, isArtifact⟩
    · exact Or.inl old
    · rw [List.zipIdx_map_fst] at among
      have verifiedArtifact := checked.2 artifact among
      rw [← isArtifact] at verifiedArtifact
      exact Or.inr ⟨belongs, verifiedArtifact⟩

theorem activateRelease_effect
    (commits : (activateRelease platform context releaseId).Commits before answer after) :
    UpdateEffect platform before after := by
  simp only [activateRelease, Transaction.commits_get, Transaction.commits_bind,
    Transaction.commits_liftM, Transaction.commits_ite, Transaction.commits_orFail,
    Transaction.commits_set, Transaction.commits_pure, reject_ok_iff] at commits
  rcases commits with ⟨_, _, ⟨rfl, rfl⟩, target, _, ⟨found, rfl⟩, _, _, ⟨_, rfl⟩, ⟨_, _, rfl⟩ | ⟨inactive, rest⟩⟩
  · exact .kept
  · rcases rest with ⟨_, _, ⟨_, rfl⟩, _, _, ⟨signed, rfl⟩, _, _, ⟨forward, rfl⟩, middle, _, ⟨retired, rfl⟩,
      releases, _, ⟨written, rfl⟩, _, _, rfl, _, rfl⟩
    refine .releaseActivated (before.releases.lookup_mem found) ?_ ?_ ?_ retired written
    · exact Bool.eq_false_iff.mpr inactive
    · exact Bool.not_eq_false _ ▸ signed
    · exact Bool.eq_false_iff.mpr forward

theorem deactivateRelease_effect
    (commits : (deactivateRelease context releaseId).Commits before answer after) :
    UpdateEffect platform before after := by
  simp only [deactivateRelease, Transaction.commits_get, Transaction.commits_bind,
    Transaction.commits_liftM, Transaction.commits_orFail, Transaction.commits_set,
    Transaction.commits_pure] at commits
  rcases commits with ⟨_, _, ⟨rfl, rfl⟩, release, _, ⟨found, rfl⟩, _, _, ⟨_, rfl⟩, releases, _, ⟨written, rfl⟩, _, _, rfl, _, rfl⟩
  exact .releaseDeactivated (before.releases.lookup_mem found) written

theorem execute_effect (admissible : call.Admissible platform)
    (commits : (call.execute platform).Commits before answer after) :
    UpdateEffect platform before after := by
  rcases call with ⟨context, request⟩
  cases request with
  | registerKey keyId publicKey trustedFromVersion =>
    exact stageKey_effect admissible.1 admissible.2 commits
  | activateKey keyId => exact activateKey_effect commits
  | retireKey keyId => exact retireKey_effect commits
  | registerRelease version minimumSupportedVersion revision =>
    exact recordRelease_effect admissible.1 admissible.2.1 admissible.2.2 commits
  | activateRelease releaseId => exact activateRelease_effect commits
  | deactivateRelease releaseId => exact deactivateRelease_effect commits

/-- Beside the records of operations, a committed call does one of the changes
above, or none. -/
theorem perform_effect (commits : (perform platform call).Commits before answer after) :
    Exists fun middle => UpdateEffect platform before middle ∧
      after = { middle with operations := after.operations } := by
  rcases perform_commits.mp commits with ⟨admissible, mutated⟩
  rcases mutation_commits.mp mutated with ⟨_, _, _, _, same⟩ | ⟨_, middle, executed, operations, _, written⟩
  · exact ⟨before, .kept, same ▸ rfl⟩
  · exact ⟨middle, execute_effect admissible executed, by rw [← written]⟩

end Distribution
end DigitalSolutions
