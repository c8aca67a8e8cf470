import DigitalSolutions.Catalog.LatestRelease
import DigitalSolutions.Catalog.ReleaseProofRuns

namespace DigitalSolutions
namespace Catalog

open Foundation Persistence Platform

/-!
# The latest release over whole runs

The marker of the latest version is kept by orderly writes.  A write is orderly
when no other change of the product is open, and when it meets no state that
the routes do not look for.
-/

variable {platform : GitHubPlatform} {before after : ReleaseStore} {productId : Id}
variable {patch : OpenPatch} {selected : Selected} {draw : ReleaseDraw}
variable {crowd : Crowd ReleaseStore ReleasePoint} {store : ReleaseStore}

/-- The version that the next access at a point writes. -/
def ReleasePoint.writes : ReleasePoint -> Option Id
  | .committing patch _ => some patch.versionId
  | .licensing versionId _ => some versionId
  | .called _ _ | .clearing _ | .replacing _ _ | .electing _ => none

structure OrderlyWrite (crowd : Crowd ReleaseStore ReleasePoint) (process : Nat) (point : ReleasePoint) :
    Prop where
  /-- No other change of the product is between its read and its commit. -/
  alone : forall version, version ∈ crowd.store.versions -> point.writes = some version.id ->
    forall other stands rival, other ≠ process -> crowd.processes other = some stands ->
      stands.patch = some rival -> rival.productId ≠ version.productId
  /-- What is published is active. -/
  active : forall patch selected, point = .committing patch selected -> patch.publishes = true ->
    forall version, version ∈ crowd.store.versions -> version.id = patch.versionId -> version.active = true
  /-- Where another version than the retired one is the latest, it comes before
  all that the fallback is chosen from. -/
  first : forall patch selected, point = .committing patch selected -> patch.retires = true ->
    forall version, version ∈ crowd.store.versions -> isOtherLatest patch version = true ->
      forall other, other ∈ fallbackCandidates patch crowd.store -> other.id ≠ version.id ->
        version.precedes other = true
  /-- The licensing of the latest version is not switched off. -/
  offered : forall versionId, point = .licensing versionId false ->
    forall version, version ∈ crowd.store.versions -> version.id = versionId -> version.isLatest = false

def Orderly (crowd : Crowd ReleaseStore ReleasePoint) : CrowdMove ReleaseCall ReleaseDraw Empty -> Prop
  | .advance process _ => forall point, crowd.processes process = some point -> OrderlyWrite crowd process point
  | _ => True

/-! ## What an access keeps -/

theorem publishes_of_retires (checked : checkPatch platform patch.input patch.read = .ok patch.proofs)
    (retires : patch.retires = true) : patch.publishes = false := by
  apply Bool.eq_false_iff.mpr
  intro publishes
  have isPublication : patch.input.published = some true := of_decide_eq_true publishes
  have released := (PublicationChecked.of_patch checked publishes).released
  simp only [OpenPatch.retires, isPublication, Option.some.injEq, Bool.true_eq_false, decide_false,
    Bool.or_false, Bool.or_eq_true, decide_eq_true_eq] at retires
  rcases retires with archived | deprecated
  · rw [archived] at released
    cases released
  · rw [deprecated] at released
    cases released

theorem LatestKept.commit (latest : LatestKept before) (read : ReadHolds platform before patch)
    (holds : SelectionHolds before patch selected) (committed : Committed patch selected draw before after)
    (active : patch.publishes = true -> forall version, version ∈ before.versions ->
      version.id = patch.versionId -> version.active = true)
    (first : patch.retires = true -> forall version, version ∈ before.versions ->
      isOtherLatest patch version = true -> forall other, other ∈ fallbackCandidates patch before ->
        other.id ≠ version.id -> version.precedes other = true) : LatestKept after := by
  intro productId
  by_cases same : productId = patch.productId
  · subst same
    cases publishes : patch.publishes with
    | true => exact .publication read holds publishes committed (active publishes)
    | false =>
      cases retires : patch.retires with
      | true => exact (latest _).retirement holds publishes retires committed (first retires)
      | false => exact (latest _).other read holds publishes retires committed
  · exact (latest productId).same (commit_sameProduct read holds committed same)

theorem switch_sameProduct {versionId : Id} {active : Bool}
    (switched : Switched versionId active before after)
    (apart : forall version, version ∈ before.versions -> version.id = versionId ->
      productId ≠ version.productId) : SameProduct productId before after := by
  apply sameProduct_of_rows switched.versions
  · intro version
    split
    · rfl
    · rfl
  · intro version member ofProduct
    apply if_neg
    intro same
    exact apart version member same ofProduct.symm

theorem clearsAll_select (store : ReleaseStore) (patch : OpenPatch) :
    ClearsAll store patch ((store.versions.select (isOtherLatest patch)).map ProductVersion.id) where
  ofProduct versionId member := by
    rcases List.mem_map.mp member with ⟨version, chosen, rfl⟩
    rcases store.versions.mem_select.mp chosen with ⟨versionMember, isOther⟩
    simp only [isOtherLatest, Bool.and_eq_true, decide_eq_true_eq] at isOther
    exact ⟨version, versionMember, rfl, isOther.1.1⟩
  all version member isOther :=
    List.mem_map_of_mem (store.versions.mem_select.mpr ⟨member, isOther⟩)

theorem SelectionHolds.of_publication {cleared : List Id}
    {replaced : List SupplyChainVerificationEvidence} (publishes : patch.publishes = true)
    (clears : ClearsAll store patch cleared) : SelectionHolds store patch ⟨cleared, replaced, none⟩ where
  publication _ := ⟨rfl, clears⟩
  retirement publishes' := by
    rw [publishes] at publishes'
    cases publishes'

theorem openTransaction_selected (read : ReadHolds platform store patch) :
    StillSelected platform store (openTransaction patch) := by
  unfold openTransaction
  split
  · rename_i publishes
    exact ⟨read, publishes⟩
  · rename_i publishes
    have noPublication : patch.publishes = false := Bool.eq_false_iff.mpr publishes
    split
    · rename_i retires
      exact ⟨read, noPublication, retires⟩
    · rename_i retires
      refine ⟨read, ?_, fun _ => ⟨rfl, ?_⟩⟩
      · intro publishes'
        exact absurd publishes' publishes
      · rw [if_neg retires]
        rfl

/-- The next point holds what it relies on. -/
theorem advanceRelease_selected {point next : ReleasePoint} (holds : StillSelected platform before point)
    (advanced : advanceRelease platform before point draw = .ok (after, some next)) :
    StillSelected platform after next := by
  cases point with
  | called versionId input =>
    simp only [advanceRelease] at advanced
    split at advanced
    · cases advanced
    · rename_i read done
      split at advanced
      · cases advanced
      · rename_i proofs checked
        cases advanced
        exact openTransaction_selected ⟨(readRelease_ok done).1, checked⟩
  | clearing patch =>
    have clears := clearsAll_select before patch
    simp only [advanceRelease] at advanced
    split at advanced
    · split at advanced
      · cases advanced
      · cases advanced
        exact ⟨holds.1, holds.2, clears⟩
    · cases advanced
      exact ⟨holds.1, .of_publication holds.2 clears⟩
  | replacing patch cleared =>
    cases advanced
    exact ⟨holds.1, .of_publication holds.2.1 holds.2.2⟩
  | electing patch =>
    simp only [advanceRelease] at advanced
    split at advanced
    · rename_i chosen
      cases advanced
      refine ⟨holds.1, ?_, fun _ => ⟨rfl, ?_⟩⟩
      · intro publishes
        rw [holds.2.1] at publishes
        cases publishes
      · rw [if_pos holds.2.2]
        exact chosen
    · cases advanced
  | committing patch selected =>
    simp only [advanceRelease] at advanced
    split at advanced
    · cases advanced
    · cases advanced
  | licensing versionId active =>
    simp only [advanceRelease] at advanced
    split at advanced
    · cases advanced
    · cases advanced

theorem latest_outlined : (releaseProtocol platform).Outlined Orderly LatestKept
    (fun store _ point => StillSelected platform store point) where
  enters crowd process call holds allowed := by
    cases call with
    | patch versionId input => trivial
    | licensing versionId active => trivial
  advances crowd process point draw after later holds allowed here advanced := by
    have selected := holds.points process point here
    have orderly := allowed point here
    constructor
    · rcases advanceRelease_cases advanced with ⟨patch, chosen, rfl, done, _⟩ |
        ⟨versionId, active, rfl, switched, _⟩ | rfl
      · exact holds.store.commit selected.1 selected.2 (commitPatch_ok done) (orderly.active patch chosen rfl)
          (orderly.first patch chosen rfl)
      · intro productId
        apply (holds.store productId).switch switched
        intro isOff
        subst isOff
        exact orderly.offered versionId rfl
      · exact holds.store
    · intro next isNext
      subst isNext
      exact advanceRelease_selected selected advanced
  spares crowd process point draw after later holds allowed here advanced other bystander different stands := by
    have selected := holds.points process point here
    have orderly := allowed point here
    apply (holds.points other bystander stands).same
    intro rival isRival
    rcases advanceRelease_cases advanced with ⟨patch, chosen, rfl, done, _⟩ |
      ⟨versionId, active, rfl, switched, _⟩ | rfl
    · apply commit_sameProduct selected.1 selected.2 (commitPatch_ok done)
      exact orderly.alone patch.read.version selected.1.member rfl other bystander rival different stands
        isRival
    · apply switch_sameProduct switched
      intro version member isVersion
      exact orderly.alone version member (congrArg some isVersion.symm) other bystander rival different
        stands isRival
    · exact fun _ _ => Iff.rfl
  ambient crowd event := nomatch event

/-- The move commits a change that unpublishes, deprecates or archives a version
of the product. -/
def CommitsRetirement (crowd : Crowd ReleaseStore ReleasePoint)
    (move : CrowdMove ReleaseCall ReleaseDraw Empty) (productId : Id) : Prop :=
  Exists fun process => Exists fun draw => Exists fun patch => Exists fun selected => Exists fun after =>
    move = .advance process draw ∧ crowd.processes process = some (.committing patch selected) ∧
      patch.retires = true ∧ patch.productId = productId ∧
      commitPatch patch selected draw crowd.store = .ok after

theorem step_retirement {process : Nat}
    (here : crowd.processes process = some (.committing patch selected))
    (done : commitPatch patch selected draw crowd.store = .ok after) :
    ((releaseProtocol platform).machine.attempt crowd (.advance process draw)).store = after := by
  have accepted : (releaseProtocol platform).machine.step crowd (.advance process draw) =
      .ok (crowd.place after process none) := by
    simp only [Protocol.machine, Protocol.step, here, releaseProtocol, advanceRelease, done]
  rw [Machine.attempt_ok accepted]
  rfl

/-- As long as the writes are orderly, one version of a product at most is the
latest, and it is eligible; and after a retirement some version is the latest
whenever one is eligible. -/
theorem latest_kept_of_orderly (platform : GitHubPlatform) (store : ReleaseStore)
    (initially : LatestKept store) (moves : List (CrowdMove ReleaseCall ReleaseDraw Empty))
    (orderly : (releaseProtocol platform).machine.Admits Orderly (Crowd.opening store) moves) :
    LatestKept ((releaseProtocol platform).machine.run (Crowd.opening store) moves).store ∧
    forall earlier move later productId, moves = earlier ++ move :: later ->
      CommitsRetirement ((releaseProtocol platform).machine.run (Crowd.opening store) earlier) move productId ->
      SomeEligible ((releaseProtocol platform).machine.run (Crowd.opening store) (earlier ++ [move])).store
        productId ->
      SomeLatest ((releaseProtocol platform).machine.run (Crowd.opening store) (earlier ++ [move])).store
        productId := by
  have opening : Protocol.Holds LatestKept (fun store _ point => StillSelected platform store point)
      (Crowd.opening store) := Protocol.holds_opening initially
  refine ⟨(latest_outlined.run opening orderly).store, ?_⟩
  rintro earlier move later _ split ⟨process, draw, patch, selected, after, rfl, here, retires, rfl, done⟩
  subst split
  have holds := (latest_outlined.run opening orderly.left).points process _ here
  rw [Machine.run_concat, step_retirement here done]
  exact someLatest_of_retirement holds.2 (publishes_of_retires holds.1.checked retires) retires
    (commitPatch_ok done)

/-! ## Two latest versions -/

/-- A stable version of a plugin, published when it was released. -/
def pluginVersion (id : Id) (at' : Time) (isLatest : Bool) : ProductVersion where
  id := id
  productId := "plugin"
  version := id
  releaseNotes := none
  changelog := none
  channel := .stable
  lifecycle := .stable
  deprecatedAt := none
  active := true
  operatingSystem := "Windows"
  architecture := "x64"
  isLatest := isLatest
  publishedAt := some at'
  releasedAt := at'

def pluginStore : ReleaseStore where
  products := ⟨[⟨"plugin", some "plugin", some .launcherPlugin⟩], List.pairwise_singleton _ _⟩
  versions := ⟨[pluginVersion "1.0" 1 false, pluginVersion "2.0" 2 false, pluginVersion "3.0" 3 false,
    pluginVersion "4.0" 4 true], by decide⟩
  evidence := ∅
  verification := []

/-- `LatestKept`, as a check of the rows. -/
def latestKept (store : ReleaseStore) : Bool :=
  store.versions.rows.all fun left => !left.isLatest || (left.isEligible &&
    store.versions.rows.all fun right =>
      !right.isLatest || left.productId ≠ right.productId || left.id = right.id)

theorem latestKept_spec : latestKept store = true ↔ LatestKept store := by
  simp only [latestKept, List.all_eq_true, Bool.or_eq_true, Bool.and_eq_true, Bool.not_eq_true',
    decide_eq_true_eq]
  constructor
  · intro checked productId
    constructor
    · intro version member _ isLatest
      rcases checked version member with notLatest | ⟨isEligible, _⟩
      · rw [isLatest] at notLatest
        cases notLatest
      · exact isEligible
    · intro left right leftMember rightMember ofLeft ofRight leftLatest rightLatest
      apply version_eq leftMember rightMember
      rcases checked left leftMember with notLatest | ⟨_, alone⟩
      · rw [leftLatest] at notLatest
        cases notLatest
      · rcases alone right rightMember with (notLatest | different) | same
        · rw [rightLatest] at notLatest
          cases notLatest
        · exact absurd (ofLeft.trans ofRight.symm) different
        · exact same
  · intro kept left leftMember
    cases leftLatest : left.isLatest with
    | false => exact Or.inl rfl
    | true =>
      refine Or.inr ⟨(kept _).eligible left leftMember rfl leftLatest, ?_⟩
      intro right rightMember
      cases rightLatest : right.isLatest with
      | false => exact Or.inl (Or.inl rfl)
      | true =>
        by_cases same : left.productId = right.productId
        · rw [(kept _).only left right leftMember rightMember same rfl leftLatest rightLatest]
          exact Or.inr rfl
        · exact Or.inl (Or.inr same)

def unpublish (versionId : Id) : ReleaseCall :=
  .patch versionId ⟨none, some false, none, none, none, none, none⟩

def drawing (now : Time) (fallback : Option Id) : ReleaseDraw := ⟨now, fun _ => "", fallback⟩

/-- A change that nothing comes between, with the fallback that it finds. -/
def unbroken (call : ReleaseCall) (now : Time) (fallback : Option Id) :
    List (CrowdMove ReleaseCall ReleaseDraw Empty) :=
  [.start 0 call, .advance 0 (drawing now fallback), .advance 0 (drawing now fallback),
    .advance 0 (drawing now fallback)]

def switching (versionId : Id) (active : Bool) : List (CrowdMove ReleaseCall ReleaseDraw Empty) :=
  [.start 0 (.licensing versionId active), .advance 0 (drawing 0 none)]

def pluginRun (moves : List (CrowdMove ReleaseCall ReleaseDraw Empty)) : ReleaseStore :=
  ((releaseProtocol plainGitHub).machine.run (Crowd.opening pluginStore) moves).store

def latestMarks (store : ReleaseStore) : List (Id × Bool) :=
  store.versions.rows.map fun version => (version.id, version.isLatest)

/-- While the licensing of `3.0` is off, the latest version is withdrawn and
`2.0` is elected; when it is on again, the withdrawal of `1.0` elects `3.0` as
well. -/
def twoElections : List (CrowdMove ReleaseCall ReleaseDraw Empty) :=
  switching "3.0" false ++ unbroken (unpublish "4.0") 5 (some "2.0") ++ switching "3.0" true ++
    unbroken (unpublish "1.0") 6 (some "3.0")

/-- No two of these operations overlap. -/
theorem two_latest_by_fallback : LatestKept pluginStore ∧ ¬ LatestKept (pluginRun twoElections) ∧
    latestMarks (pluginRun twoElections) =
      [("1.0", false), ("2.0", true), ("3.0", true), ("4.0", false)] := by
  rw [← latestKept_spec, ← latestKept_spec]
  decide +kernel

/-- The latest version is withdrawn, and an older one is published again. -/
def orderlyChanges : List (CrowdMove ReleaseCall ReleaseDraw Empty) :=
  unbroken (unpublish "4.0") 5 (some "3.0") ++
    unbroken (.patch "1.0" ⟨none, some true, none, none, none, none, none⟩) 6 none

/-- The last three parts of `OrderlyWrite`, as a check of the store. -/
def meetsOrder (store : ReleaseStore) : ReleasePoint -> Bool
  | .committing patch _ =>
    (!patch.publishes || store.versions.rows.all fun version =>
      version.id ≠ patch.versionId || version.active) &&
    (!patch.retires || store.versions.rows.all fun version => !isOtherLatest patch version ||
      (fallbackCandidates patch store).all fun other => other.id = version.id || version.precedes other)
  | .licensing versionId active => active || store.versions.rows.all fun version =>
    version.id ≠ versionId || !version.isLatest
  | _ => true

/-- `OrderlyWrite` of a process that is alone below a bound, as a check. -/
def orderlyWrite (bound : Nat) (crowd : Crowd ReleaseStore ReleasePoint) (process : Nat)
    (point : ReleasePoint) : Bool :=
  ((List.range bound).all fun other => other = process || (crowd.processes other).isNone) &&
    meetsOrder crowd.store point

theorem orderlyWrite_spec {bound : Nat} {process : Nat} {point : ReleasePoint}
    (below : Protocol.Below bound crowd) (checked : orderlyWrite bound crowd process point = true) :
    OrderlyWrite crowd process point := by
  rw [orderlyWrite, Bool.and_eq_true] at checked
  refine ⟨?_, ?_, ?_, ?_⟩
  · intro version _ _ other stands rival different standing
    have idle := List.all_eq_true.mp checked.1 other (List.mem_range.mpr (below other stands standing))
    simp only [standing, different, decide_false, Option.isNone_some, Bool.or_self,
      Bool.false_eq_true] at idle
  · intro patch selected isPoint publishes version member isVersion
    subst isPoint
    simp only [meetsOrder, publishes, Bool.not_true, Bool.false_or, Bool.and_eq_true,
      List.all_eq_true] at checked
    have active := checked.2.1 version member
    simp only [isVersion, ne_eq, not_true_eq_false, decide_false, Bool.false_or] at active
    exact active
  · intro patch selected isPoint retires version member isOther other otherMember different
    subst isPoint
    simp only [meetsOrder, retires, Bool.not_true, Bool.false_or, Bool.and_eq_true,
      List.all_eq_true] at checked
    have first := checked.2.2 version member
    simp only [isOther, Bool.not_true, Bool.false_or, List.all_eq_true, Bool.or_eq_true,
      decide_eq_true_eq] at first
    exact (first other otherMember).resolve_left different
  · intro versionId isPoint version member isVersion
    subst isPoint
    simp only [meetsOrder, Bool.false_or, List.all_eq_true] at checked
    have offered := checked.2 version member
    simp only [isVersion, ne_eq, not_true_eq_false, decide_false, Bool.false_or, Bool.not_eq_true'] at offered
    exact offered

def orderly (bound : Nat) (crowd : Crowd ReleaseStore ReleasePoint) :
    CrowdMove ReleaseCall ReleaseDraw Empty -> Bool
  | .advance process _ => (crowd.processes process).all (orderlyWrite bound crowd process)
  | _ => true

theorem orderly_spec {bound : Nat} {move : CrowdMove ReleaseCall ReleaseDraw Empty}
    (below : Protocol.Below bound crowd) (checked : orderly bound crowd move = true) :
    Orderly crowd move := by
  cases move with
  | advance process draw =>
    intro point here
    rw [orderly, here, Option.all_some] at checked
    exact orderlyWrite_spec below checked
  | start process call => trivial
  | stop process => trivial
  | ambient event => trivial

theorem latest_kept_of_orderly_changes :
    latestMarks (pluginRun orderlyChanges) =
      [("1.0", true), ("2.0", false), ("3.0", false), ("4.0", false)] ∧
    LatestKept (pluginRun orderlyChanges) := by
  refine ⟨by decide +kernel, ?_⟩
  rw [pluginRun]
  have checked : (releaseProtocol plainGitHub).machine.Admits
      (fun crowd move => orderly 1 crowd move = true) (Crowd.opening pluginStore) orderlyChanges := by
    decide +kernel
  refine (latest_kept_of_orderly plainGitHub pluginStore (latestKept_spec.mp (by decide +kernel))
    orderlyChanges ?_).1
  apply (Protocol.admits_below rfl (Protocol.below_opening 1 pluginStore) checked).mono
  intro crowd move both
  exact orderly_spec both.1 both.2

end Catalog
end DigitalSolutions
