import DigitalSolutions.Catalog.ReleaseProofs

namespace DigitalSolutions
namespace Catalog

open Foundation Persistence Platform

/-!
# The latest release of a product

A commit of a release change writes rows of one product.  What it makes of the
marker of the latest version depends on what its queries have selected, and on
two things that they do not look at: whether a published version is active, and
whether the fallback of a retired version meets another latest version.
-/

variable {platform : GitHubPlatform} {before after : ReleaseStore} {productId : Id}
variable {patch : OpenPatch} {selected : Selected} {draw : ReleaseDraw}
variable {version : ProductVersion} {store : ReleaseStore}

/-- Of a product one version at most is the latest, and it is eligible. -/
structure LatestOf (store : ReleaseStore) (productId : Id) : Prop where
  eligible : forall version, version ∈ store.versions -> version.productId = productId ->
    version.isLatest = true -> version.isEligible = true
  only : forall left right, left ∈ store.versions -> right ∈ store.versions ->
    left.productId = productId -> right.productId = productId ->
    left.isLatest = true -> right.isLatest = true -> left = right

def LatestKept (store : ReleaseStore) : Prop := forall productId, LatestOf store productId

def SomeLatest (store : ReleaseStore) (productId : Id) : Prop :=
  Exists fun version => version ∈ store.versions ∧ version.productId = productId ∧ version.isLatest = true

def SomeEligible (store : ReleaseStore) (productId : Id) : Prop :=
  Exists fun version => version ∈ store.versions ∧ version.productId = productId ∧
    version.isEligible = true

/-! ## Rows of one product -/

/-- The product has the versions it had, as they were. -/
def SameProduct (productId : Id) (before after : ReleaseStore) : Prop :=
  forall version, version.productId = productId -> (version ∈ after.versions ↔ version ∈ before.versions)

theorem sameProduct_of_rows {change : ProductVersion -> ProductVersion}
    (rows : after.versions.rows = before.versions.rows.map change)
    (keeps : forall version, (change version).productId = version.productId)
    (untouched : forall version, version ∈ before.versions -> version.productId = productId ->
      change version = version) : SameProduct productId before after := by
  intro version ofProduct
  rw [Table.mem_of_rows rows]
  constructor
  · rintro ⟨row, member, rfl⟩
    rw [untouched row member ((keeps row).symm.trans ofProduct)]
    exact member
  · intro member
    exact ⟨version, member, untouched version member ofProduct⟩

theorem LatestOf.same (latest : LatestOf before productId) (same : SameProduct productId before after) :
    LatestOf after productId where
  eligible version member ofProduct isLatest :=
    latest.eligible version ((same version ofProduct).mp member) ofProduct isLatest
  only left right leftMember rightMember ofLeft ofRight :=
    latest.only left right ((same left ofLeft).mp leftMember) ((same right ofRight).mp rightMember) ofLeft
      ofRight

theorem mem_fallbackCandidates :
    version ∈ fallbackCandidates patch store ↔ version ∈ store.versions ∧
      version.productId = patch.productId ∧ version.id ≠ patch.versionId ∧ version.isEligible = true := by
  simp only [fallbackCandidates, Table.mem_select, Bool.and_eq_true, decide_eq_true_eq, and_assoc]

theorem isFirst_none :
    isFirst patch store none = true ↔ forall version, version ∉ fallbackCandidates patch store := by
  rw [isFirst, List.isEmpty_iff, List.eq_nil_iff_forall_not_mem]

theorem isFirst_some {chosen : Id} :
    isFirst patch store (some chosen) = true ↔ Exists fun version =>
      version ∈ fallbackCandidates patch store ∧ version.id = chosen ∧
        forall other, other ∈ fallbackCandidates patch store -> other.precedes version = false := by
  simp only [isFirst, List.any_eq_true, Bool.and_eq_true, decide_eq_true_eq, List.all_eq_true,
    Bool.not_eq_true']

theorem mem_fallbackCandidates_same (same : SameProduct patch.productId before after)
    (version : ProductVersion) :
    version ∈ fallbackCandidates patch after ↔ version ∈ fallbackCandidates patch before := by
  rw [mem_fallbackCandidates, mem_fallbackCandidates]
  constructor
  · rintro ⟨member, ofProduct, rest⟩
    exact ⟨(same version ofProduct).mp member, ofProduct, rest⟩
  · rintro ⟨member, ofProduct, rest⟩
    exact ⟨(same version ofProduct).mpr member, ofProduct, rest⟩

/-- Which row is a first row depends on the versions of the product alone. -/
theorem isFirst_same (same : SameProduct patch.productId before after) {chosen : Option Id}
    (first : isFirst patch before chosen = true) : isFirst patch after chosen = true := by
  have candidates := mem_fallbackCandidates_same same
  cases chosen with
  | none =>
    rw [isFirst_none] at first ⊢
    intro version member
    exact first version ((candidates version).mp member)
  | some chosen =>
    rw [isFirst_some] at first ⊢
    rcases first with ⟨version, member, isChosen, rest⟩
    refine ⟨version, (candidates version).mpr member, isChosen, ?_⟩
    intro other otherMember
    exact rest other ((candidates other).mp otherMember)

/-! ## What an open change relies on -/

structure ReadHolds (platform : GitHubPlatform) (store : ReleaseStore) (patch : OpenPatch) : Prop where
  member : patch.read.version ∈ store.versions
  checked : checkPatch platform patch.input patch.read = .ok patch.proofs

/-- The cleared versions are of the product, and all that are latest. -/
structure ClearsAll (store : ReleaseStore) (patch : OpenPatch) (cleared : List Id) : Prop where
  ofProduct : forall versionId, versionId ∈ cleared -> Exists fun version =>
    version ∈ store.versions ∧ version.id = versionId ∧ version.productId = patch.productId
  all : forall version, version ∈ store.versions -> isOtherLatest patch version = true ->
    version.id ∈ cleared

/-- What has been selected is still so. -/
structure SelectionHolds (store : ReleaseStore) (patch : OpenPatch) (selected : Selected) : Prop where
  publication : patch.publishes = true -> selected.fallback = none ∧ ClearsAll store patch selected.cleared
  retirement : patch.publishes = false -> selected.cleared = [] ∧
    if patch.retires then isFirst patch store selected.fallback = true else selected.fallback = none

def StillSelected (platform : GitHubPlatform) (store : ReleaseStore) : ReleasePoint -> Prop
  | .called _ _ | .licensing _ _ => True
  | .clearing patch => ReadHolds platform store patch ∧ patch.publishes = true
  | .replacing patch cleared =>
    ReadHolds platform store patch ∧ patch.publishes = true ∧ ClearsAll store patch cleared
  | .electing patch => ReadHolds platform store patch ∧ patch.publishes = false ∧ patch.retires = true
  | .committing patch selected => ReadHolds platform store patch ∧ SelectionHolds store patch selected

theorem ReadHolds.same (read : ReadHolds platform before patch)
    (same : SameProduct patch.productId before after) : ReadHolds platform after patch :=
  ⟨(same patch.read.version rfl).mpr read.member, read.checked⟩

theorem ClearsAll.same {cleared : List Id} (clears : ClearsAll before patch cleared)
    (same : SameProduct patch.productId before after) : ClearsAll after patch cleared where
  ofProduct versionId member := by
    rcases clears.ofProduct versionId member with ⟨version, versionMember, isVersion, ofProduct⟩
    exact ⟨version, (same version ofProduct).mpr versionMember, isVersion, ofProduct⟩
  all version member isOther := by
    have ofProduct : version.productId = patch.productId := by
      simp only [isOtherLatest, Bool.and_eq_true, decide_eq_true_eq] at isOther
      exact isOther.1.1
    exact clears.all version ((same version ofProduct).mp member) isOther

theorem SelectionHolds.same (holds : SelectionHolds before patch selected)
    (same : SameProduct patch.productId before after) : SelectionHolds after patch selected where
  publication publishes :=
    ⟨(holds.publication publishes).1, (holds.publication publishes).2.same same⟩
  retirement publishes := by
    refine ⟨(holds.retirement publishes).1, ?_⟩
    have chosen := (holds.retirement publishes).2
    split
    · rename_i retires
      rw [if_pos retires] at chosen
      exact isFirst_same same chosen
    · rename_i retires
      rw [if_neg retires] at chosen
      exact chosen

/-- What changes of other products do spares an open change. -/
theorem StillSelected.same {point : ReleasePoint} (holds : StillSelected platform before point)
    (same : forall rival, point.patch = some rival -> SameProduct rival.productId before after) :
    StillSelected platform after point := by
  cases point with
  | called versionId input => trivial
  | licensing versionId active => trivial
  | clearing patch => exact ⟨holds.1.same (same patch rfl), holds.2⟩
  | replacing patch cleared =>
    exact ⟨holds.1.same (same patch rfl), holds.2.1, holds.2.2.same (same patch rfl)⟩
  | electing patch => exact ⟨holds.1.same (same patch rfl), holds.2⟩
  | committing patch selected =>
    exact ⟨holds.1.same (same patch rfl), holds.2.same (same patch rfl)⟩

/-! ## The rows of a commit -/

theorem written_cases (patch : OpenPatch) (selected : Selected) (now : Time) (version : ProductVersion) :
    (version.id = patch.versionId ∧ writtenVersion patch selected now version = patched patch now version) ∨
    version.id ≠ patch.versionId ∧
      ((selected.fallback = some version.id ∧
          writtenVersion patch selected now version = { version with isLatest := true }) ∨
        (version.id ∈ selected.cleared ∧
          writtenVersion patch selected now version = { version with isLatest := false }) ∨
        (selected.fallback ≠ some version.id ∧ version.id ∉ selected.cleared ∧
          writtenVersion patch selected now version = version)) := by
  unfold writtenVersion
  by_cases same : version.id = patch.versionId
  · exact Or.inl ⟨same, if_pos same⟩
  · refine Or.inr ⟨same, ?_⟩
    rw [if_neg same]
    by_cases isFallback : selected.fallback = some version.id
    · exact Or.inl ⟨isFallback, if_pos isFallback⟩
    · rw [if_neg isFallback]
      by_cases isCleared : version.id ∈ selected.cleared
      · exact Or.inr (Or.inl ⟨isCleared, if_pos (List.contains_iff_mem.mpr isCleared)⟩)
      · refine Or.inr (Or.inr ⟨isFallback, isCleared, if_neg ?_⟩)
        intro contained
        exact isCleared (List.contains_iff_mem.mp contained)

/-- A commit writes rows of its product only. -/
theorem commit_sameProduct (read : ReadHolds platform before patch)
    (holds : SelectionHolds before patch selected) (committed : Committed patch selected draw before after)
    (other : productId ≠ patch.productId) : SameProduct productId before after := by
  apply sameProduct_of_rows committed.versions (productId_written draw.now)
  intro version member ofProduct
  have elsewhere : version.productId ≠ patch.productId := by
    rw [ofProduct]
    exact other
  rcases written_cases patch selected draw.now version with
    ⟨same, _⟩ | ⟨_, ⟨isFallback, _⟩ | ⟨isCleared, _⟩ | ⟨_, _, unwritten⟩⟩
  · rw [version_eq member read.member same] at elsewhere
    exact absurd rfl elsewhere
  · cases publishes : patch.publishes with
    | true =>
      rw [(holds.publication publishes).1] at isFallback
      cases isFallback
    | false =>
      have chosen := (holds.retirement publishes).2
      split at chosen
      · rw [isFallback, isFirst_some] at chosen
        rcases chosen with ⟨first, firstMember, isFirst', _⟩
        have candidate := mem_fallbackCandidates.mp firstMember
        rw [version_eq candidate.1 member isFirst'] at candidate
        exact absurd candidate.2.1 elsewhere
      · rw [isFallback] at chosen
        cases chosen
  · cases publishes : patch.publishes with
    | true =>
      rcases (holds.publication publishes).2.ofProduct version.id isCleared with
        ⟨cleared, clearedMember, isVersion, ofPatch⟩
      rw [version_eq clearedMember member isVersion] at ofPatch
      exact absurd ofPatch elsewhere
    | false =>
      rw [(holds.retirement publishes).1] at isCleared
      cases isCleared
  · exact unwritten

/-! ## Publications -/

theorem patched_latest (publishes : patch.publishes = true) (now : Time) (version : ProductVersion) :
    (patched patch now version).isLatest = true ∧
      (patched patch now version).publishedAt = some now := by
  have isPublication : patch.input.published = some true := of_decide_eq_true publishes
  simp only [patched, isPublication, if_true, and_self]

/-- After a publication only its version is the latest of the product. -/
theorem latest_of_publication (holds : SelectionHolds before patch selected)
    (publishes : patch.publishes = true) (committed : Committed patch selected draw before after)
    (member : version ∈ after.versions) (ofProduct : version.productId = patch.productId)
    (isLatest : version.isLatest = true) :
    version.id = patch.versionId := by
  rcases (Table.mem_of_rows committed.versions).mp member with ⟨row, rowMember, rfl⟩
  rw [productId_written] at ofProduct
  rw [version_id_written]
  rcases holds.publication publishes with ⟨noFallback, clears⟩
  rcases written_cases patch selected draw.now row with
    ⟨same, _⟩ | ⟨other, ⟨isFallback, _⟩ | ⟨isCleared, written⟩ | ⟨_, notCleared, unwritten⟩⟩
  · exact same
  · rw [noFallback] at isFallback
    cases isFallback
  · rw [written] at isLatest
    cases isLatest
  · rw [unwritten] at isLatest
    refine absurd (clears.all row rowMember ?_) notCleared
    simp only [isOtherLatest, ofProduct, other, isLatest, decide_true, ne_eq, not_false_eq_true,
      Bool.and_self]

theorem LatestOf.publication (read : ReadHolds platform before patch)
    (holds : SelectionHolds before patch selected) (publishes : patch.publishes = true)
    (committed : Committed patch selected draw before after)
    (active : forall version, version ∈ before.versions -> version.id = patch.versionId ->
      version.active = true) : LatestOf after patch.productId where
  eligible version member ofProduct isLatest := by
    have isVersion := latest_of_publication holds publishes committed member ofProduct isLatest
    rcases (Table.mem_of_rows committed.versions).mp member with ⟨row, rowMember, rfl⟩
    rw [version_id_written] at isVersion
    have isRow : row = patch.read.version := version_eq rowMember read.member isVersion
    have released := (PublicationChecked.of_patch read.checked publishes).released
    have kept : patch.input.lifecycle ≠ some .archived := by
      intro archived
      rw [archived] at released
      cases released
    have isActive := active row rowMember isVersion
    rw [isRow] at isActive
    have written : writtenVersion patch selected draw.now row = patched patch draw.now row := if_pos isVersion
    rw [written, ProductVersion.isEligible, (patched_latest publishes _ _).2]
    simp only [patched, if_neg kept, isRow, isActive, released, Option.isSome_some, Bool.and_self]
  only left right leftMember rightMember ofLeft ofRight leftLatest rightLatest := by
    apply version_eq leftMember rightMember
    rw [latest_of_publication holds publishes committed leftMember ofLeft leftLatest,
      latest_of_publication holds publishes committed rightMember ofRight rightLatest]

/-! ## Retirements -/

theorem patched_retired (publishes : patch.publishes = false) (retires : patch.retires = true) (now : Time)
    (version : ProductVersion) :
    (patched patch now version).isLatest = false ∧ (patched patch now version).isEligible = false := by
  have noPublication : patch.input.published ≠ some true := of_decide_eq_false publishes
  simp only [OpenPatch.retires, Bool.or_eq_true, decide_eq_true_eq] at retires
  simp only [patched, ProductVersion.isEligible, if_neg noPublication]
  rcases retires with (archived | deprecated) | unpublished
  · simp only [archived, Option.getD_some, ReleaseLifecycle.isStable, reduceCtorEq, decide_false,
      Bool.or_self, Bool.and_false, or_true, true_or, if_true, and_self]
  · simp only [deprecated, Option.getD_some, ReleaseLifecycle.isStable, reduceCtorEq, decide_false,
      Bool.or_self, Bool.and_false, or_true, if_true, and_self]
  · simp only [unpublished, if_true, true_or, Option.isSome_none, Bool.and_false, Bool.false_and, and_self]

/-- After a retirement the latest version is the fallback. -/
theorem latest_of_retirement (latest : LatestOf before patch.productId)
    (holds : SelectionHolds before patch selected) (publishes : patch.publishes = false)
    (retires : patch.retires = true) (committed : Committed patch selected draw before after)
    (first : forall version, version ∈ before.versions -> isOtherLatest patch version = true ->
      forall other, other ∈ fallbackCandidates patch before -> other.id ≠ version.id ->
        version.precedes other = true) (member : version ∈ after.versions)
    (ofProduct : version.productId = patch.productId) (isLatest : version.isLatest = true) :
    selected.fallback = some version.id := by
  rcases (Table.mem_of_rows committed.versions).mp member with ⟨row, rowMember, rfl⟩
  rw [productId_written] at ofProduct
  rw [version_id_written]
  have chosen := (holds.retirement publishes).2
  rw [if_pos retires] at chosen
  rcases written_cases patch selected draw.now row with
    ⟨same, written⟩ | ⟨other, ⟨isFallback, _⟩ | ⟨_, written⟩ | ⟨notFallback, _, unwritten⟩⟩
  · rw [written, (patched_retired publishes retires _ _).1] at isLatest
    cases isLatest
  · exact isFallback
  · rw [written] at isLatest
    cases isLatest
  · -- A version that was latest before is eligible, and so the fallback is it or comes after it.
    rw [unwritten] at isLatest
    have candidate : row ∈ fallbackCandidates patch before :=
      mem_fallbackCandidates.mpr
        ⟨rowMember, ofProduct, other, latest.eligible row rowMember ofProduct isLatest⟩
    have isOther : isOtherLatest patch row = true := by
      simp only [isOtherLatest, ofProduct, other, isLatest, decide_true, ne_eq, not_false_eq_true,
        Bool.and_self]
    cases isChosen : selected.fallback with
    | none =>
      rw [isChosen, isFirst_none] at chosen
      exact absurd candidate (chosen row)
    | some fallback =>
      rw [isChosen, isFirst_some] at chosen
      rcases chosen with ⟨choice, choiceMember, isChoice, rest⟩
      have different : choice.id ≠ row.id := by
        intro same
        rw [isChosen, ← isChoice, same] at notFallback
        exact notFallback rfl
      have before' := first row rowMember isOther choice choiceMember different
      rw [rest row candidate] at before'
      cases before'

theorem LatestOf.retirement (latest : LatestOf before patch.productId)
    (holds : SelectionHolds before patch selected) (publishes : patch.publishes = false)
    (retires : patch.retires = true) (committed : Committed patch selected draw before after)
    (first : forall version, version ∈ before.versions -> isOtherLatest patch version = true ->
      forall other, other ∈ fallbackCandidates patch before -> other.id ≠ version.id ->
        version.precedes other = true) : LatestOf after patch.productId where
  eligible version member ofProduct isLatest := by
    have isFallback :=
      latest_of_retirement latest holds publishes retires committed first member ofProduct isLatest
    have chosen := (holds.retirement publishes).2
    rw [if_pos retires, isFallback, isFirst_some] at chosen
    rcases chosen with ⟨choice, choiceMember, isChoice, _⟩
    rcases mem_fallbackCandidates.mp choiceMember with ⟨member', _, other, isEligible⟩
    rcases (Table.mem_of_rows committed.versions).mp member with ⟨row, rowMember, rfl⟩
    rw [version_id_written] at isChoice isFallback
    have isRow : choice = row := version_eq member' rowMember isChoice
    subst isRow
    have written : writtenVersion patch selected draw.now choice = { choice with isLatest := true } := by
      rw [writtenVersion, if_neg other, if_pos isFallback]
    rw [written]
    exact isEligible
  only left right leftMember rightMember ofLeft ofRight leftLatest rightLatest := by
    have isLeft :=
      latest_of_retirement latest holds publishes retires committed first leftMember ofLeft leftLatest
    have isRight :=
      latest_of_retirement latest holds publishes retires committed first rightMember ofRight rightLatest
    rw [isLeft] at isRight
    exact version_eq leftMember rightMember (Option.some.inj isRight)

/-- After a retirement some version is the latest, unless none is eligible. -/
theorem someLatest_of_retirement (holds : SelectionHolds before patch selected)
    (publishes : patch.publishes = false) (retires : patch.retires = true)
    (committed : Committed patch selected draw before after)
    (someEligible : SomeEligible after patch.productId) : SomeLatest after patch.productId := by
  have chosen := (holds.retirement publishes).2
  rw [if_pos retires] at chosen
  cases isChosen : selected.fallback with
  | some fallback =>
    rw [isChosen, isFirst_some] at chosen
    rcases chosen with ⟨choice, choiceMember, rfl, _⟩
    rcases mem_fallbackCandidates.mp choiceMember with ⟨member, ofProduct, other, _⟩
    refine ⟨_, (Table.mem_of_rows committed.versions).mpr ⟨choice, member, rfl⟩, ?_, ?_⟩
    · rw [productId_written]
      exact ofProduct
    · rw [writtenVersion, if_neg other, if_pos isChosen]
  | none =>
    rw [isChosen, isFirst_none] at chosen
    rcases someEligible with ⟨version, member, ofProduct, isEligible⟩
    rcases (Table.mem_of_rows committed.versions).mp member with ⟨row, rowMember, rfl⟩
    rw [productId_written] at ofProduct
    rcases written_cases patch selected draw.now row with
      ⟨_, written⟩ | ⟨other, ⟨isFallback, _⟩ | ⟨isCleared, _⟩ | ⟨_, _, unwritten⟩⟩
    · rw [written, (patched_retired publishes retires _ _).2] at isEligible
      cases isEligible
    · rw [isChosen] at isFallback
      cases isFallback
    · rw [(holds.retirement publishes).1] at isCleared
      cases isCleared
    · rw [unwritten] at isEligible
      exact absurd (mem_fallbackCandidates.mpr ⟨rowMember, ofProduct, other, isEligible⟩) (chosen row)

/-! ## Other changes -/

theorem stable_of_transition {current target : ReleaseLifecycle}
    (allowed : checkTransition current target = true) (stable : current.isStable = true)
    (notArchived : target ≠ .archived) (notDeprecated : target ≠ .deprecated) : target.isStable = true := by
  simp only [checkTransition, Bool.or_eq_true, Bool.and_eq_true, decide_eq_true_eq] at allowed
  rcases allowed with ((rfl | next) | ⟨isDeprecated, _⟩) | ⟨isArchived, _⟩
  · exact stable
  · cases current <;> cases target <;>
      first | rfl | exact absurd next (by decide) | exact absurd stable (by decide) | contradiction
  · exact absurd isDeprecated notDeprecated
  · exact absurd isArchived notArchived

/-- A change that neither publishes nor retires keeps what makes its version
eligible. -/
theorem patched_other (publishes : patch.publishes = false) (retires : patch.retires = false)
    (transition : patch.input.lifecycle.all (checkTransition patch.read.version.lifecycle) = true)
    (now : Time) :
    (patched patch now patch.read.version).isLatest = patch.read.version.isLatest ∧
      (patch.read.version.isEligible = true ->
        (patched patch now patch.read.version).isEligible = true) := by
  have noPublication : patch.input.published ≠ some true := of_decide_eq_false publishes
  simp only [OpenPatch.retires, Bool.or_eq_false_iff, decide_eq_false_iff_not] at retires
  rcases retires with ⟨⟨notArchived, notDeprecated⟩, stays⟩
  simp only [patched, ProductVersion.isEligible, if_neg noPublication, notArchived, notDeprecated,
    stays, or_self, if_false, Bool.and_eq_true, true_and]
  rintro ⟨⟨isActive, isPublished⟩, stable⟩
  refine ⟨⟨isActive, isPublished⟩, ?_⟩
  cases isTarget : patch.input.lifecycle with
  | none => exact stable
  | some target =>
    rw [isTarget] at transition notArchived notDeprecated
    exact stable_of_transition transition stable (fun same => notArchived (congrArg some same))
      (fun same => notDeprecated (congrArg some same))

theorem LatestOf.other (latest : LatestOf before patch.productId) (read : ReadHolds platform before patch)
    (holds : SelectionHolds before patch selected) (publishes : patch.publishes = false)
    (retires : patch.retires = false) (committed : Committed patch selected draw before after) :
    LatestOf after patch.productId := by
  have transition := (checkPatch_ok read.checked).2.1
  rcases holds.retirement publishes with ⟨noCleared, noFallback⟩
  rw [retires, if_neg Bool.false_ne_true] at noFallback
  have written : forall row, row ∈ before.versions ->
      (writtenVersion patch selected draw.now row).isLatest = row.isLatest ∧
        (row.isEligible = true -> (writtenVersion patch selected draw.now row).isEligible = true) := by
    intro row member
    rcases written_cases patch selected draw.now row with
      ⟨same, written⟩ | ⟨_, ⟨isFallback, _⟩ | ⟨isCleared, _⟩ | ⟨_, _, unwritten⟩⟩
    · rw [written, version_eq member read.member same]
      exact patched_other publishes retires transition draw.now
    · rw [noFallback] at isFallback
      cases isFallback
    · rw [noCleared] at isCleared
      cases isCleared
    · rw [unwritten]
      exact ⟨rfl, id⟩
  constructor
  · intro version member ofProduct isLatest
    rcases (Table.mem_of_rows committed.versions).mp member with ⟨row, rowMember, rfl⟩
    rw [productId_written] at ofProduct
    rw [(written row rowMember).1] at isLatest
    exact (written row rowMember).2 (latest.eligible row rowMember ofProduct isLatest)
  · intro left right leftMember rightMember ofLeft ofRight leftLatest rightLatest
    rcases (Table.mem_of_rows committed.versions).mp leftMember with ⟨left, member, rfl⟩
    rcases (Table.mem_of_rows committed.versions).mp rightMember with ⟨right, member', rfl⟩
    rw [productId_written] at ofLeft ofRight
    rw [(written left member).1] at leftLatest
    rw [(written right member').1] at rightLatest
    rw [latest.only left right member member' ofLeft ofRight leftLatest rightLatest]

/-- The licensing of a version is switched off only where it is not the latest. -/
theorem LatestOf.switch {versionId : Id} {active : Bool} (latest : LatestOf before productId)
    (switched : Switched versionId active before after)
    (offered : active = false -> forall version, version ∈ before.versions -> version.id = versionId ->
      version.isLatest = false) : LatestOf after productId := by
  have written : forall row : ProductVersion,
      (if row.id = versionId then { row with active } else row).productId = row.productId ∧
      (if row.id = versionId then { row with active } else row).isLatest = row.isLatest := by
    intro row
    split
    · exact ⟨rfl, rfl⟩
    · exact ⟨rfl, rfl⟩
  constructor
  · intro version member ofProduct isLatest
    rcases (Table.mem_of_rows switched.versions).mp member with ⟨row, rowMember, rfl⟩
    rw [(written row).1] at ofProduct
    rw [(written row).2] at isLatest
    have isEligible := latest.eligible row rowMember ofProduct isLatest
    split
    · rename_i same
      cases active with
      | true =>
        simp only [ProductVersion.isEligible, Bool.and_eq_true] at isEligible ⊢
        exact ⟨⟨trivial, isEligible.1.2⟩, isEligible.2⟩
      | false =>
        rw [offered rfl row rowMember same] at isLatest
        cases isLatest
    · exact isEligible
  · intro left right leftMember rightMember ofLeft ofRight leftLatest rightLatest
    rcases (Table.mem_of_rows switched.versions).mp leftMember with ⟨left, member, rfl⟩
    rcases (Table.mem_of_rows switched.versions).mp rightMember with ⟨right, member', rfl⟩
    rw [(written _).1] at ofLeft ofRight
    rw [(written _).2] at leftLatest rightLatest
    rw [latest.only left right member member' ofLeft ofRight leftLatest rightLatest]

end Catalog
end DigitalSolutions
