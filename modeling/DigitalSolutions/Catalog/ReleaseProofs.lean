import DigitalSolutions.Catalog.ReleaseSteps

namespace DigitalSolutions
namespace Catalog

open Foundation Persistence Platform

/-!
# The proofs of a published standalone release

A publication proves the release that its request has read.  It is the release
that is then published as long as no other change of the same version commits
in between.
-/

variable {platform : GitHubPlatform} {before after : ReleaseStore}
variable {evidence : SupplyChainEvidence} {patch : OpenPatch} {version : ProductVersion}
variable {selected : Selected} {row : SupplyChainVerificationEvidence}

/-- The stored proofs of a version are those of one architecture value: one at
least for each architecture that it requires, all of the version, and no other. -/
structure Carries (store : ReleaseStore) (version : ProductVersion) (architecture : ReleaseArchitecture)
    (evidence : SupplyChainEvidence) : Prop where
  member : evidence ∈ store.evidence
  owned : evidence.versionId = version.id
  every : forall required, required ∈ releaseArchitectures architecture ->
    Exists fun row => row ∈ store.verification ∧ isContractEvidence evidence.id row = true ∧
      Exists fun proof => row.metadata = .contract proof ∧ proof.version = version.version ∧
        proof.architecture = required
  only : forall row, row ∈ store.verification -> isContractEvidence evidence.id row = true ->
    Exists fun proof => row.metadata = .contract proof ∧ proof.version = version.version ∧
      proof.architecture ∈ releaseArchitectures architecture

structure Proven (store : ReleaseStore) (version : ProductVersion) : Prop where
  windows : version.operatingSystem = "Windows"
  released : ReleaseLifecycle.stable.index ≤ version.lifecycle.index
  carried : Exists fun architecture => Exists fun evidence =>
    ReleaseArchitecture.ofText version.architecture = some architecture ∧
      Carries store version architecture evidence

/-- Every published version of a standalone product is proven. -/
def ReleasesProven (store : ReleaseStore) : Prop :=
  forall version, version ∈ store.versions -> version.publishedAt.isSome = true ->
    forall product, product ∈ store.products -> product.id = version.productId ->
      product.launcherExecutionType = some .standalone -> Proven store version

/-! ## What a version is, apart from being offered -/

/-- A version but for its flags. -/
def releaseOf (version : ProductVersion) : ProductVersion :=
  { version with active := false, isLatest := false }

theorem columns_of_release {left right : ProductVersion} (same : releaseOf left = releaseOf right) :
    left.id = right.id ∧ left.productId = right.productId ∧ left.version = right.version ∧
      left.lifecycle = right.lifecycle ∧ left.operatingSystem = right.operatingSystem ∧
      left.architecture = right.architecture ∧ left.publishedAt = right.publishedAt := by
  simp only [releaseOf, ProductVersion.mk.injEq] at same
  rcases same with ⟨sameId, sameProduct, sameVersion, _, _, _, sameLifecycle, _, _, sameSystem,
    sameArchitecture, _, samePublished, _⟩
  exact ⟨sameId, sameProduct, sameVersion, sameLifecycle, sameSystem, sameArchitecture, samePublished⟩

/-! ## What a checked change has established -/

/-- What a publication has checked of the release that it has read. -/
structure PublicationChecked (patch : OpenPatch) : Prop where
  released : (patch.input.lifecycle.getD patch.read.version.lifecycle).isStable = true
  proved : patch.read.product.launcherExecutionType = some .standalone ->
    patch.input.operatingSystem.getD patch.read.version.operatingSystem = "Windows" ∧
    Exists fun architecture => Exists fun evidence =>
      ReleaseArchitecture.ofText (patch.input.architecture.getD patch.read.version.architecture) =
        some architecture ∧
      patch.read.supplyChainEvidence = some evidence ∧
      patch.proofs.map StandaloneReleaseContractProof.architecture = releaseArchitectures architecture ∧
      forall proof, proof ∈ patch.proofs -> proof.version = patch.read.version.version

theorem checkPatch_ok {input : ReleasePatch} {read : ReleaseRead}
    {proofs : List StandaloneReleaseContractProof} (done : checkPatch platform input read = .ok proofs) :
    (read.version.publishedAt.isSome = true -> input.operatingSystem = none ∧ input.architecture = none) ∧
      input.lifecycle.all (checkTransition read.version.lifecycle) = true ∧
      (input.published = some true -> PublicationChecked ⟨input, read, proofs⟩) := by
  unfold checkPatch at done
  split at done
  · cases done
  · rename_i compatible
    split at done
    · cases done
    · rename_i stable
      split at done
      · cases done
      · rename_i verified proved
        split at done
        · rename_i transition
          cases done
          refine ⟨?_, transition, ?_⟩
          · intro isPublished
            simp only [isPublished, Bool.and_true, Bool.or_eq_true, Option.isSome_iff_ne_none, not_or,
              not_not] at compatible
            exact compatible
          · intro publishes
            simp only [publishes, true_and, Bool.not_eq_false] at stable
            refine ⟨stable, ?_⟩
            intro standalone
            dsimp only at standalone ⊢
            simp only [standaloneProofs, publishes, standalone, and_self, if_true] at proved
            split at proved
            · cases proved
            · rename_i architecture parsed
              split at proved
              · cases proved
              · rename_i checked
                split at proved
                · rename_i fetched outcome
                  cases proved
                  simp only [not_or, not_not] at checked
                  rcases Option.ne_none_iff_exists'.mp checked.2.1 with ⟨evidence, isEvidence⟩
                  have contract := verifyGitHubStandaloneReleaseContract_ok platform outcome
                  exact ⟨checked.2.2, architecture, evidence, parsed, isEvidence, contract.1, contract.2⟩
                · cases proved
        · cases done

/-- A publication holds what the store still says of its version. -/
structure StillRead (store : ReleaseStore) (patch : OpenPatch) : Prop where
  version : Exists fun version => version ∈ store.versions ∧
    releaseOf version = releaseOf patch.read.version
  product : patch.read.product ∈ store.products
  ofProduct : patch.read.product.id = patch.read.version.productId
  evidence : patch.read.supplyChainEvidence = store.evidence.lookup (.versionId patch.versionId)

/-- The version is one of a standalone product. -/
def IsStandalone (store : ReleaseStore) (version : ProductVersion) : Prop :=
  Exists fun product => product ∈ store.products ∧ product.id = version.productId ∧
    product.launcherExecutionType = some .standalone

/-- Any other change: if the version is published by now, it was so at the
read. -/
structure PublishedAtRead (store : ReleaseStore) (patch : OpenPatch) : Prop where
  version : Exists fun version => version ∈ store.versions ∧ version.id = patch.versionId ∧
    (version.publishedAt.isSome = true -> patch.read.version.publishedAt.isSome = true ∧
      (IsStandalone store version ->
        ReleaseLifecycle.stable.index ≤ patch.read.version.lifecycle.index))

/-- The proofs to be replaced are proofs of the release, and all that are there. -/
def ReplacesAll (store : ReleaseStore) (patch : OpenPatch) (selected : Selected) : Prop :=
  patch.proves = true -> forall evidence, patch.read.supplyChainEvidence = some evidence ->
    forall row, (row ∈ selected.replaced -> isContractEvidence evidence.id row = true) ∧
      (row ∈ store.verification -> isContractEvidence evidence.id row = true -> row ∈ selected.replaced)

/-- What a process relies on from its checks to its commit. -/
structure ChecksHold (platform : GitHubPlatform) (store : ReleaseStore) (patch : OpenPatch) : Prop where
  checked : checkPatch platform patch.input patch.read = .ok patch.proofs
  publication : patch.publishes = true -> StillRead store patch
  other : patch.publishes = false -> PublishedAtRead store patch

structure ProofsInHand (platform : GitHubPlatform) (store : ReleaseStore) (point : ReleasePoint) : Prop where
  holds : forall patch, point.patch = some patch -> ChecksHold platform store patch
  replaces : forall patch selected, point = .committing patch selected -> ReplacesAll store patch selected
  electing : forall patch, point = .electing patch -> patch.publishes = false

theorem PublicationChecked.of_patch
    (checked : checkPatch platform patch.input patch.read = .ok patch.proofs)
    (publishes : patch.publishes = true) : PublicationChecked patch :=
  (checkPatch_ok checked).2.2 (of_decide_eq_true publishes)

/-! ## What a commit writes -/

theorem releaseOf_written {now : Time} (other : version.id ≠ patch.versionId) :
    releaseOf (writtenVersion patch selected now version) = releaseOf version := by
  unfold writtenVersion
  rw [if_neg other]
  split
  · rfl
  · split
    · rfl
    · rfl

/-- The proofs of other versions are not touched. -/
theorem verification_elsewhere {fresh : Nat -> Id}
    (read : patch.read.supplyChainEvidence = before.evidence.lookup (.versionId patch.versionId))
    (replaces : ReplacesAll before patch selected) (member : evidence ∈ before.evidence)
    (other : evidence.versionId ≠ patch.versionId)
    (isContract : isContractEvidence evidence.id row = true) :
    row ∈ writtenVerification patch selected fresh before.verification ↔ row ∈ before.verification := by
  have elsewhere : row.evidenceId = evidence.id := by
    simp only [isContractEvidence, Bool.and_eq_true, decide_eq_true_eq] at isContract
    exact isContract.1
  unfold writtenVerification
  split
  · rename_i mine isMine
    split
    · rename_i proves
      have apart : evidence.id ≠ mine.id := by
        intro same
        have found := lookup_evidence (isMine ▸ read).symm
        exact other ((evidence_owner member found.1 same).trans found.2)
      rw [List.mem_append, List.mem_filter]
      constructor
      · rintro (kept | new)
        · exact kept.1
        · rcases List.mem_mapIdx.mp new with ⟨index, bound, rfl⟩
          exact absurd elsewhere.symm apart
      · intro here
        refine Or.inl ⟨here, ?_⟩
        rw [Bool.not_eq_true', List.contains_eq_mem, decide_eq_false_iff_not]
        intro chosen
        have contract := (replaces proves mine isMine row).1 chosen
        simp only [isContractEvidence, Bool.and_eq_true, decide_eq_true_eq] at contract
        exact apart (elsewhere.symm.trans contract.1)
    · rfl
  · rfl

/-- After a publication the proofs of its version are those it has verified. -/
theorem verification_here {fresh : Nat -> Id} (replaces : ReplacesAll before patch selected)
    (proves : patch.proves = true) (isEvidence : patch.read.supplyChainEvidence = some evidence)
    (isContract : isContractEvidence evidence.id row = true) :
    row ∈ writtenVerification patch selected fresh before.verification ↔
      Exists fun index => Exists fun proof => patch.proofs[index]? = some proof ∧
        row = contractEvidence evidence.id (fresh index) proof := by
  simp only [writtenVerification, isEvidence, proves, if_true, List.mem_append, List.mem_filter,
    List.mem_mapIdx, Bool.not_eq_true', List.contains_eq_mem, decide_eq_false_iff_not]
  constructor
  · rintro (⟨here, kept⟩ | ⟨index, bound, rfl⟩)
    · exact absurd ((replaces proves evidence isEvidence row).2 here isContract) kept
    · exact ⟨index, patch.proofs[index], List.getElem?_eq_getElem bound, rfl⟩
  · rintro ⟨index, proof, found, rfl⟩
    rcases List.getElem?_eq_some_iff.mp found with ⟨bound, rfl⟩
    exact Or.inr ⟨index, bound, rfl⟩

theorem Carries.of_verification {later : ProductVersion} {architecture : ReleaseArchitecture}
    (carries : Carries before version architecture evidence) (sameId : later.id = version.id)
    (sameVersion : later.version = version.version) (sameEvidence : after.evidence = before.evidence)
    (untouched : forall row, isContractEvidence evidence.id row = true ->
      (row ∈ after.verification ↔ row ∈ before.verification)) :
    Carries after later architecture evidence where
  member := sameEvidence ▸ carries.member
  owned := carries.owned.trans sameId.symm
  every required isRequired := by
    rcases carries.every required isRequired with ⟨row, member, isContract, proof, isProof, ofVersion,
      ofArchitecture⟩
    exact ⟨row, (untouched row isContract).mpr member, isContract, proof, isProof,
      ofVersion.trans sameVersion.symm, ofArchitecture⟩
  only row member isContract := by
    rcases carries.only row ((untouched row isContract).mp member) isContract with ⟨proof, isProof,
      ofVersion, ofArchitecture⟩
    exact ⟨proof, isProof, ofVersion.trans sameVersion.symm, ofArchitecture⟩

/-- A version that is the same release stays proven. -/
theorem Proven.of_release {later : ProductVersion} (proven : Proven before version)
    (same : releaseOf later = releaseOf version) (sameEvidence : after.evidence = before.evidence)
    (untouched : forall evidence, evidence ∈ before.evidence -> evidence.versionId = version.id ->
      forall row, isContractEvidence evidence.id row = true ->
        (row ∈ after.verification ↔ row ∈ before.verification)) : Proven after later := by
  rcases columns_of_release same with ⟨sameId, _, sameVersion, sameLifecycle, sameSystem,
    sameArchitecture, _⟩
  rcases proven.carried with ⟨architecture, evidence, parsed, carries⟩
  refine ⟨sameSystem.trans proven.windows, sameLifecycle ▸ proven.released, architecture, evidence, ?_, ?_⟩
  · rw [sameArchitecture]
    exact parsed
  · exact carries.of_verification sameId sameVersion sameEvidence
      (untouched evidence carries.member carries.owned)

theorem stable_index {lifecycle : ReleaseLifecycle} (stable : lifecycle.isStable = true) :
    ReleaseLifecycle.stable.index ≤ lifecycle.index := by
  cases lifecycle <;> first | decide | cases stable

theorem transition_index {current target : ReleaseLifecycle} (allowed : checkTransition current target = true)
    (released : ReleaseLifecycle.stable.index ≤ current.index) :
    ReleaseLifecycle.stable.index ≤ target.index := by
  simp only [checkTransition, Bool.or_eq_true, Bool.and_eq_true, decide_eq_true_eq] at allowed
  rcases allowed with ((rfl | next) | ⟨rfl, _⟩) | ⟨rfl, _⟩
  · exact released
  · omega
  · decide
  · decide

end Catalog
end DigitalSolutions
