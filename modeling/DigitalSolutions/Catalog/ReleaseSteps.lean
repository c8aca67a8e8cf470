import DigitalSolutions.Catalog.ReleasePatch

namespace DigitalSolutions
namespace Catalog

open Foundation Persistence Platform

/-!
# What the accesses of a release change do

An access commits a change, switches the licensing of a version, or leaves the
store as it is.
-/

variable {platform : GitHubPlatform} {before after : ReleaseStore}
variable {patch : OpenPatch} {selected : Selected} {draw : ReleaseDraw}
variable {store : ReleaseStore} {versionId : Id}

/-! ## Rows and their keys -/

theorem version_eq {left right : ProductVersion} (leftMember : left ∈ store.versions)
    (rightMember : right ∈ store.versions) (same : left.id = right.id) : left = right := by
  have inLeft : ProductVersion.Key.id left.id ∈ Keyed.keys left := List.mem_cons_self
  have inRight : ProductVersion.Key.id left.id ∈ Keyed.keys right := by
    rw [same]
    exact List.mem_cons_self
  exact store.versions.eq_of_common_key leftMember rightMember inLeft inRight

theorem product_eq {left right : ReleaseProduct} (leftMember : left ∈ store.products)
    (rightMember : right ∈ store.products) (same : left.id = right.id) : left = right := by
  have inRight : left.id ∈ Keyed.keys right := by
    rw [same]
    exact List.mem_singleton_self _
  exact store.products.eq_of_common_key leftMember rightMember (List.mem_singleton_self _) inRight

theorem lookup_version {version : ProductVersion}
    (found : store.versions.lookup (.id versionId) = some version) :
    version ∈ store.versions ∧ version.id = versionId := by
  have key := store.versions.lookup_key found
  simp only [Keyed.keys, List.mem_cons, ProductVersion.Key.id.injEq, reduceCtorEq, List.not_mem_nil,
    or_false] at key
  exact ⟨store.versions.lookup_mem found, key.symm⟩

theorem lookup_evidence {evidence : SupplyChainEvidence}
    (found : store.evidence.lookup (.versionId versionId) = some evidence) :
    evidence ∈ store.evidence ∧ evidence.versionId = versionId := by
  have key := store.evidence.lookup_key found
  simp only [Keyed.keys, List.mem_cons, SupplyChainEvidence.Key.versionId.injEq, reduceCtorEq,
    List.not_mem_nil, or_false, false_or] at key
  exact ⟨store.evidence.lookup_mem found, key.symm⟩

/-- An evidence row belongs to one version. -/
theorem evidence_owner {left right : SupplyChainEvidence} (leftMember : left ∈ store.evidence)
    (rightMember : right ∈ store.evidence) (same : left.id = right.id) :
    left.versionId = right.versionId := by
  have inLeft : SupplyChainEvidence.Key.id left.id ∈ Keyed.keys left := List.mem_cons_self
  have inRight : SupplyChainEvidence.Key.id left.id ∈ Keyed.keys right := by
    rw [same]
    exact List.mem_cons_self
  rw [store.evidence.eq_of_common_key leftMember rightMember inLeft inRight]

/-! ## The checks -/

theorem readRelease_ok {read : ReleaseRead} (done : readRelease versionId before = .ok read) :
    read.version ∈ before.versions ∧ read.product ∈ before.products ∧
      read.product.id = read.version.productId ∧
      read.supplyChainEvidence = before.evidence.lookup (.versionId read.version.id) := by
  unfold readRelease at done
  split at done
  · cases done
  · rename_i version found
    split at done
    · cases done
    · rename_i product foundProduct
      cases done
      have key := List.mem_singleton.mp (before.products.lookup_key foundProduct)
      exact ⟨(lookup_version found).1, before.products.lookup_mem foundProduct, key.symm, rfl⟩

theorem openTransaction_patch (patch : OpenPatch) : (openTransaction patch).patch = some patch := by
  unfold openTransaction
  split
  · rfl
  · split
    · rfl
    · rfl

theorem publishes_of_openTransaction (opens : openTransaction patch ≠ .clearing patch) :
    patch.publishes = false := by
  apply Bool.eq_false_iff.mpr
  intro publishes
  exact opens (if_pos publishes)

/-! ## The commit -/

/-- What a commit leaves in the store. -/
structure Committed (patch : OpenPatch) (selected : Selected) (draw : ReleaseDraw)
    (before after : ReleaseStore) : Prop where
  versions : after.versions.rows = before.versions.rows.map (writtenVersion patch selected draw.now)
  verification : after.verification =
    writtenVerification patch selected draw.fresh before.verification
  products : after.products = before.products
  evidence : after.evidence = before.evidence

theorem commitPatch_ok {patch : OpenPatch} {selected : Selected} {draw : ReleaseDraw}
    (done : commitPatch patch selected draw before = .ok after) :
    Committed patch selected draw before after := by
  unfold commitPatch at done
  split at done
  · cases done
  · split at done
    · cases done
      refine ⟨List.map_congr_left ?_, rfl, rfl, rfl⟩
      intro version _
      exact if_pos rfl
    · cases done

theorem version_id_written (now : Time) (version : ProductVersion) :
    (writtenVersion patch selected now version).id = version.id := by
  have keys := keys_writtenVersion patch selected now version
  simp only [Keyed.keys, List.cons.injEq, ProductVersion.Key.id.injEq] at keys
  exact keys.1

theorem productId_written (now : Time) (version : ProductVersion) :
    (writtenVersion patch selected now version).productId = version.productId := by
  have keys := keys_writtenVersion patch selected now version
  simp only [Keyed.keys, List.cons.injEq, ProductVersion.Key.version.injEq] at keys
  exact keys.2.1.1

theorem version_written (now : Time) (version : ProductVersion) :
    (writtenVersion patch selected now version).version = version.version := by
  have keys := keys_writtenVersion patch selected now version
  simp only [Keyed.keys, List.cons.injEq, ProductVersion.Key.version.injEq] at keys
  exact keys.2.1.2

/-- The switch of the licensing of a version. -/
structure Switched (versionId : Id) (active : Bool) (before after : ReleaseStore) : Prop where
  versions : after.versions.rows = before.versions.rows.map fun version =>
    if version.id = versionId then { version with active } else version
  verification : after.verification = before.verification
  products : after.products = before.products
  evidence : after.evidence = before.evidence

theorem switchLicensing_ok {active : Bool} (done : switchLicensing versionId active before = .ok after) :
    Switched versionId active before after := by
  unfold switchLicensing at done
  split at done
  · cases done
  · cases done
    exact ⟨before.versions.rows_update, rfl, rfl, rfl⟩

/-- What one access does. -/
theorem advanceRelease_cases {point : ReleasePoint} {next : Option ReleasePoint}
    (advanced : advanceRelease platform before point draw = .ok (after, next)) :
    (Exists fun patch => Exists fun selected => point = .committing patch selected ∧
      commitPatch patch selected draw before = .ok after ∧ next = none) ∨
    (Exists fun versionId => Exists fun active => point = .licensing versionId active ∧
      Switched versionId active before after ∧ next = none) ∨ after = before := by
  cases point with
  | called versionId input =>
    simp only [advanceRelease] at advanced
    split at advanced
    · cases advanced
      exact Or.inr (Or.inr rfl)
    · split at advanced
      · cases advanced
        exact Or.inr (Or.inr rfl)
      · cases advanced
        exact Or.inr (Or.inr rfl)
  | clearing patch =>
    simp only [advanceRelease] at advanced
    split at advanced
    · split at advanced
      · cases advanced
        exact Or.inr (Or.inr rfl)
      · cases advanced
        exact Or.inr (Or.inr rfl)
    · cases advanced
      exact Or.inr (Or.inr rfl)
  | replacing patch cleared =>
    cases advanced
    exact Or.inr (Or.inr rfl)
  | electing patch =>
    simp only [advanceRelease] at advanced
    split at advanced
    · cases advanced
      exact Or.inr (Or.inr rfl)
    · cases advanced
  | committing patch selected =>
    simp only [advanceRelease] at advanced
    split at advanced
    · rename_i written wrote
      cases advanced
      exact Or.inl ⟨patch, selected, rfl, wrote, rfl⟩
    · cases advanced
      exact Or.inr (Or.inr rfl)
  | licensing versionId active =>
    simp only [advanceRelease] at advanced
    split at advanced
    · rename_i written wrote
      cases advanced
      exact Or.inr (Or.inl ⟨versionId, active, rfl, switchLicensing_ok wrote, rfl⟩)
    · cases advanced
      exact Or.inr (Or.inr rfl)

end Catalog
end DigitalSolutions
