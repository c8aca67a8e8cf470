import DigitalSolutions.Catalog.ReleaseProofs

namespace DigitalSolutions
namespace Catalog

open Foundation Persistence Platform

/-!
# Publications among other changes

A version stays proven as long as a publication and another change of the same
version do not overlap.
-/

variable {platform : GitHubPlatform} {before after : ReleaseStore}
variable {patch rival : OpenPatch} {selected : Selected} {draw : ReleaseDraw}
variable {version : ProductVersion} {point : ReleasePoint} {store : ReleaseStore}

theorem publishedAt_written (publishes : patch.publishes = false) {now : Time}
    (published : (writtenVersion patch selected now version).publishedAt.isSome = true) :
    version.publishedAt.isSome = true := by
  by_cases same : version.id = patch.versionId
  · have notPublishes : patch.input.published ≠ some true := of_decide_eq_false publishes
    simp only [writtenVersion, if_pos same, patched, if_neg notPublishes] at published
    split at published
    · cases published
    · exact published
  · rw [(columns_of_release (releaseOf_written same)).2.2.2.2.2.2] at published
    exact published

theorem verification_unproved (fresh : Nat -> Id) (proves : patch.proves = false)
    (rows : List SupplyChainVerificationEvidence) :
    writtenVerification patch selected fresh rows = rows := by
  unfold writtenVerification
  split
  · rw [proves, if_neg Bool.false_ne_true]
  · rfl

theorem proves_eq_false (publishes : patch.publishes = false) : patch.proves = false := by
  rw [OpenPatch.proves, publishes, Bool.false_and, Bool.false_and]

theorem IsStandalone.of_written {now : Time} (sameProducts : after.products = before.products)
    (standalone : IsStandalone after (writtenVersion patch selected now version)) :
    IsStandalone before version := by
  rcases standalone with ⟨product, member, ofVersion, isStandalone⟩
  exact ⟨product, sameProducts ▸ member, ofVersion.trans (productId_written now version), isStandalone⟩

/-! ## The version that is changed -/

/-- What a publication has verified is what is then published. -/
theorem publication_proven (inHand : ChecksHold platform before patch)
    (replaces : ReplacesAll before patch selected) (publishes : patch.publishes = true)
    (committed : Committed patch selected draw before after) (member : version ∈ before.versions)
    (isVersion : version.id = patch.versionId) (standalone : IsStandalone before version) :
    Proven after (writtenVersion patch selected draw.now version) := by
  have read := inHand.publication publishes
  have checked := PublicationChecked.of_patch inHand.checked publishes
  rcases read.version with ⟨stored, storedMember, sameRelease⟩
  have same := columns_of_release sameRelease
  cases version_eq member storedMember (isVersion.trans same.1.symm)
  rcases same with ⟨_, sameProduct, sameVersion, sameLifecycle, sameSystem, sameArchitecture, _⟩
  rcases standalone with ⟨product, productMember, ofVersion, isStandalone⟩
  have isProduct : product = patch.read.product :=
    product_eq productMember read.product (ofVersion.trans (sameProduct.trans read.ofProduct.symm))
  rw [isProduct] at isStandalone
  rcases checked.proved isStandalone with ⟨windows, architecture, evidence, parsed, isEvidence, architectures,
    ofVersions⟩
  have proves : patch.proves = true := by
    rw [OpenPatch.proves, publishes, decide_eq_true isStandalone, isEvidence]
    rfl
  have found := lookup_evidence (isEvidence ▸ read.evidence).symm
  have rows : forall row, isContractEvidence evidence.id row = true -> (row ∈ after.verification ↔
      Exists fun index => Exists fun proof => patch.proofs[index]? = some proof ∧
        row = contractEvidence evidence.id (draw.fresh index) proof) := by
    intro row isContract
    rw [committed.verification]
    exact verification_here replaces proves isEvidence isContract
  have isWritten : writtenVersion patch selected draw.now version = patched patch draw.now version :=
    if_pos isVersion
  refine ⟨?_, ?_, architecture, evidence, ?_, ?_⟩
  · rw [isWritten, patched, sameSystem]
    exact windows
  · rw [isWritten, patched, sameLifecycle]
    exact stable_index checked.released
  · rw [isWritten, patched, sameArchitecture]
    exact parsed
  · refine ⟨committed.evidence ▸ found.1, ?_, ?_, ?_⟩
    · rw [version_id_written, isVersion]
      exact found.2
    · intro required isRequired
      rw [← architectures] at isRequired
      rcases List.mem_map.mp isRequired with ⟨proof, proofMember, ofArchitecture⟩
      rcases List.getElem?_of_mem proofMember with ⟨index, isProof⟩
      have isContract : isContractEvidence evidence.id
          (contractEvidence evidence.id (draw.fresh index) proof) = true := by
        simp only [isContractEvidence, contractEvidence, decide_true, Bool.and_self]
      refine ⟨_, (rows _ isContract).mpr ⟨index, proof, isProof, rfl⟩, isContract, proof, rfl, ?_,
        ofArchitecture⟩
      rw [version_written, sameVersion]
      exact ofVersions proof proofMember
    · intro row rowMember isContract
      rcases (rows row isContract).mp rowMember with ⟨index, proof, isProof, rfl⟩
      have proofMember := List.mem_of_getElem? isProof
      refine ⟨proof, rfl, ?_, ?_⟩
      · rw [version_written, sameVersion]
        exact ofVersions proof proofMember
      · rw [← architectures]
        exact List.mem_map_of_mem proofMember

/-- A published version that is changed without a publication stays the release
that was proven. -/
theorem change_proven (inHand : ChecksHold platform before patch) (publishes : patch.publishes = false)
    (committed : Committed patch selected draw before after) (member : version ∈ before.versions)
    (isVersion : version.id = patch.versionId) (published : version.publishedAt.isSome = true)
    (standalone : IsStandalone before version) (proven : Proven before version) :
    Proven after (writtenVersion patch selected draw.now version) := by
  rcases (inHand.other publishes).version with ⟨stored, storedMember, isStored, atRead⟩
  cases version_eq member storedMember (isVersion.trans isStored.symm)
  rcases atRead published with ⟨publishedAtRead, released⟩
  rcases checkPatch_ok inHand.checked with ⟨compatible, transition, _⟩
  rcases compatible publishedAtRead with ⟨noSystem, noArchitecture⟩
  rcases proven.carried with ⟨architecture, evidence, parsed, carries⟩
  have isWritten : writtenVersion patch selected draw.now version = patched patch draw.now version :=
    if_pos isVersion
  refine ⟨?_, ?_, architecture, evidence, ?_, ?_⟩
  · rw [isWritten, patched, noSystem]
    exact proven.windows
  · rw [isWritten, patched]
    cases isTarget : patch.input.lifecycle with
    | none => exact proven.released
    | some target =>
      rw [isTarget, Option.all_some] at transition
      exact transition_index transition (released standalone)
  · rw [isWritten, patched, noArchitecture]
    exact parsed
  · apply carries.of_verification (version_id_written _ _) (version_written _ _) committed.evidence
    intro row _
    rw [committed.verification, verification_unproved _ (proves_eq_false publishes)]

/-- The other versions keep their proofs. -/
theorem elsewhere_proven (inHand : ChecksHold platform before patch)
    (replaces : ReplacesAll before patch selected)
    (committed : Committed patch selected draw before after) (other : version.id ≠ patch.versionId)
    (proven : Proven before version) :
    Proven after (writtenVersion patch selected draw.now version) := by
  apply proven.of_release (releaseOf_written other) committed.evidence
  intro evidence member owned row isContract
  rw [committed.verification]
  cases publishes : patch.publishes with
  | true =>
    have apart : evidence.versionId ≠ patch.versionId := by
      rw [owned]
      exact other
    exact verification_elsewhere (inHand.publication publishes).evidence replaces member apart isContract
  | false => rw [verification_unproved _ (proves_eq_false publishes)]

theorem ReleasesProven.commit (proven : ReleasesProven before) (inHand : ChecksHold platform before patch)
    (replaces : ReplacesAll before patch selected) (committed : Committed patch selected draw before after) :
    ReleasesProven after := by
  intro later member published product productMember ofVersion isStandalone
  rcases (Table.mem_of_rows committed.versions).mp member with ⟨version, versionMember, rfl⟩
  have standalone : IsStandalone before version :=
    .of_written committed.products ⟨product, productMember, ofVersion, isStandalone⟩
  have already : version.publishedAt.isSome = true -> Proven before version := by
    intro wasPublished
    rcases standalone with ⟨owner, ownerMember, owns, ownerStandalone⟩
    exact proven version versionMember wasPublished owner ownerMember owns ownerStandalone
  by_cases isVersion : version.id = patch.versionId
  · cases publishes : patch.publishes with
    | true =>
      exact publication_proven inHand replaces publishes committed versionMember isVersion standalone
    | false =>
      have wasPublished := publishedAt_written publishes published
      exact change_proven inHand publishes committed versionMember isVersion wasPublished standalone
        (already wasPublished)
  · apply elsewhere_proven inHand replaces committed isVersion
    apply already
    rw [(columns_of_release (releaseOf_written isVersion)).2.2.2.2.2.2] at published
    exact published

/-! ## The other changes -/

theorem StillRead.commit (read : StillRead before rival) (committed : Committed patch selected draw before after)
    (apart : rival.versionId ≠ patch.versionId) : StillRead after rival where
  version := by
    rcases read.version with ⟨version, member, same⟩
    have isVersion : version.id = rival.versionId := (columns_of_release same).1
    refine ⟨_, (Table.mem_of_rows committed.versions).mpr ⟨version, member, rfl⟩, ?_⟩
    rw [releaseOf_written (isVersion ▸ apart)]
    exact same
  product := committed.products ▸ read.product
  ofProduct := read.ofProduct
  evidence := committed.evidence ▸ read.evidence

theorem PublishedAtRead.commit (atRead : PublishedAtRead before rival)
    (committed : Committed patch selected draw before after)
    (quiet : rival.versionId = patch.versionId -> patch.publishes = false) : PublishedAtRead after rival := by
  rcases atRead.version with ⟨version, member, isVersion, offered⟩
  refine ⟨_, (Table.mem_of_rows committed.versions).mpr ⟨version, member, rfl⟩, ?_, ?_⟩
  · rw [version_id_written]
    exact isVersion
  · intro published
    have wasPublished : version.publishedAt.isSome = true := by
      by_cases same : version.id = patch.versionId
      · exact publishedAt_written (quiet (isVersion.symm.trans same)) published
      · rw [(columns_of_release (releaseOf_written same)).2.2.2.2.2.2] at published
        exact published
    refine ⟨(offered wasPublished).1, ?_⟩
    intro standalone
    exact (offered wasPublished).2 (.of_written committed.products standalone)

theorem ReplacesAll.commit {others : Selected} (replaces : ReplacesAll before rival others)
    (read : rival.publishes = true -> StillRead before rival) (inHand : ChecksHold platform before patch)
    (committing : ReplacesAll before patch selected) (committed : Committed patch selected draw before after)
    (apart : rival.publishes = true -> rival.versionId ≠ patch.versionId) :
    ReplacesAll after rival others := by
  intro proves evidence isEvidence row
  have publishes : rival.publishes = true := by
    simp only [OpenPatch.proves, Bool.and_eq_true] at proves
    exact proves.1.1
  have chosen := replaces proves evidence isEvidence row
  refine ⟨(replaces proves evidence isEvidence row).1, ?_⟩
  intro member isContract
  apply (replaces proves evidence isEvidence row).2 ?_ isContract
  rw [committed.verification] at member
  cases mine : patch.publishes with
  | true =>
    have found := lookup_evidence (isEvidence ▸ (read publishes).evidence).symm
    have others' : evidence.versionId ≠ patch.versionId := by
      rw [found.2]
      exact apart publishes
    exact (verification_elsewhere (inHand.publication mine).evidence committing found.1 others'
      isContract).mp member
  | false =>
    rw [verification_unproved _ (proves_eq_false mine)] at member
    exact member

/-! ## The switch of the licensing -/

/-- Every version is the same release as before. -/
structure SameReleases (before after : ReleaseStore) : Prop where
  versions : Exists fun change => after.versions.rows = before.versions.rows.map change ∧
    forall version, releaseOf (change version) = releaseOf version
  verification : after.verification = before.verification
  products : after.products = before.products
  evidence : after.evidence = before.evidence

theorem Switched.same {versionId : Id} {active : Bool} (switched : Switched versionId active before after) :
    SameReleases before after := by
  refine ⟨⟨_, switched.versions, ?_⟩, switched.verification, switched.products, switched.evidence⟩
  intro version
  split
  · rfl
  · rfl

theorem ReleasesProven.same (proven : ReleasesProven before) (same : SameReleases before after) :
    ReleasesProven after := by
  intro later member published product productMember ofVersion isStandalone
  rcases same.versions with ⟨change, rows, unchanged⟩
  rcases (Table.mem_of_rows rows).mp member with ⟨version, versionMember, rfl⟩
  have columns := columns_of_release (unchanged version)
  have already : Proven before version :=
    proven version versionMember (columns.2.2.2.2.2.2 ▸ published) product (same.products ▸ productMember)
      (ofVersion.trans columns.2.1) isStandalone
  apply already.of_release (unchanged version) same.evidence
  intro evidence _ _ row _
  rw [same.verification]

theorem ChecksHold.same (inHand : ChecksHold platform before rival) (same : SameReleases before after) :
    ChecksHold platform after rival := by
  rcases same.versions with ⟨change, rows, unchanged⟩
  refine ⟨inHand.checked, ?_, ?_⟩
  · intro publishes
    have read := inHand.publication publishes
    rcases read.version with ⟨version, member, isRead⟩
    exact ⟨⟨_, (Table.mem_of_rows rows).mpr ⟨version, member, rfl⟩, (unchanged version).trans isRead⟩,
      same.products ▸ read.product, read.ofProduct, same.evidence ▸ read.evidence⟩
  · intro publishes
    rcases (inHand.other publishes).version with ⟨version, member, isVersion, offered⟩
    have columns := columns_of_release (unchanged version)
    refine ⟨_, (Table.mem_of_rows rows).mpr ⟨version, member, rfl⟩, columns.1.trans isVersion, ?_⟩
    intro published
    rw [columns.2.2.2.2.2.2] at published
    refine ⟨(offered published).1, ?_⟩
    rintro ⟨product, productMember, ofVersion, isStandalone⟩
    exact (offered published).2 ⟨product, same.products ▸ productMember, ofVersion.trans columns.2.1,
      isStandalone⟩

theorem ProofsInHand.same (inHand : ProofsInHand platform before point) (same : SameReleases before after) :
    ProofsInHand platform after point := by
  constructor
  · intro rival isRival
    exact (inHand.holds rival isRival).same same
  · intro rival others isPoint proves evidence isEvidence row
    rw [same.verification]
    exact inHand.replaces rival others isPoint proves evidence isEvidence row
  · exact inHand.electing

/-! ## Runs -/

/-- Of two changes of one version neither is a publication, if the one commits
between the read and the commit of the other. -/
def Undisturbed (crowd : Crowd ReleaseStore ReleasePoint) : CrowdMove ReleaseCall ReleaseDraw Empty -> Prop
  | .advance process _ => forall patch selected,
    crowd.processes process = some (.committing patch selected) ->
      forall other point rival, other ≠ process -> crowd.processes other = some point ->
        point.patch = some rival -> rival.versionId = patch.versionId ->
          patch.publishes = false ∧ rival.publishes = false
  | _ => True

theorem ProofsInHand.of_no_patch (none' : point.patch = none) :
    ProofsInHand platform store point := by
  constructor
  · intro patch isPatch
    rw [none'] at isPatch
    cases isPatch
  · intro patch selected isPoint
    rw [isPoint] at none'
    cases none'
  · intro patch isPoint
    rw [isPoint] at none'
    cases none'

/-- A change that does not commit yet relies on its checks alone. -/
theorem ProofsInHand.of_checks (isPatch : point.patch = some patch)
    (holds : ChecksHold platform store patch)
    (replaces : forall selected, point = .committing patch selected -> ReplacesAll store patch selected)
    (electing : point = .electing patch -> patch.publishes = false) :
    ProofsInHand platform store point := by
  constructor
  · intro other isOther
    rw [isPatch, Option.some.injEq] at isOther
    exact isOther ▸ holds
  · intro other selected isPoint
    have same : patch = other := by
      rw [isPoint] at isPatch
      exact (Option.some.inj isPatch).symm
    subst same
    exact replaces selected isPoint
  · intro other isPoint
    have same : patch = other := by
      rw [isPoint] at isPatch
      exact (Option.some.inj isPatch).symm
    subst same
    exact electing isPoint

/-- What was selected is all there is, when nothing is proved. -/
theorem replacesAll_unproved (proves : patch.proves = false) :
    ReplacesAll store patch selected := by
  intro proves'
  rw [proves] at proves'
  cases proves'

theorem readRelease_checksHold {versionId : Id} {input : ReleasePatch} {read : ReleaseRead}
    {proofs : List StandaloneReleaseContractProof} (proven : ReleasesProven before)
    (done : readRelease versionId before = .ok read) (checked : checkPatch platform input read = .ok proofs) :
    ChecksHold platform before ⟨input, read, proofs⟩ := by
  rcases readRelease_ok done with ⟨member, productMember, ofProduct, evidence⟩
  refine ⟨checked, ?_, ?_⟩
  · intro _
    exact ⟨⟨_, member, rfl⟩, productMember, ofProduct, evidence⟩
  · intro _
    refine ⟨_, member, rfl, ?_⟩
    intro published
    refine ⟨published, ?_⟩
    rintro ⟨product, ownerMember, ofVersion, isStandalone⟩
    exact (proven _ member published product ownerMember ofVersion isStandalone).released

/-- What a change that commits does to the other processes. -/
theorem ProofsInHand.commit (inHand : ProofsInHand platform before point)
    (mine : ChecksHold platform before patch) (committing : ReplacesAll before patch selected)
    (committed : Committed patch selected draw before after)
    (undisturbed : forall rival, point.patch = some rival -> rival.versionId = patch.versionId ->
      patch.publishes = false ∧ rival.publishes = false) : ProofsInHand platform after point := by
  have apart : forall rival, point.patch = some rival -> rival.publishes = true ->
      rival.versionId ≠ patch.versionId := by
    intro rival isRival publishes same
    have quiet := (undisturbed rival isRival same).2
    rw [publishes] at quiet
    cases quiet
  constructor
  · intro rival isRival
    have holds := inHand.holds rival isRival
    refine ⟨holds.checked, ?_, ?_⟩
    · intro publishes
      exact (holds.publication publishes).commit committed (apart rival isRival publishes)
    · intro publishes
      exact (holds.other publishes).commit committed fun same => (undisturbed rival isRival same).1
  · intro rival others isPoint
    have isRival : point.patch = some rival := by
      rw [isPoint]
      rfl
    exact (inHand.replaces rival others isPoint).commit (inHand.holds rival isRival).publication mine committing
      committed (apart rival isRival)
  · exact inHand.electing

/-- The next point holds what it relies on, as the one before did. -/
theorem advanceRelease_inHand {next : ReleasePoint} (proven : ReleasesProven before)
    (inHand : ProofsInHand platform before point)
    (advanced : advanceRelease platform before point draw = .ok (after, some next)) :
    ProofsInHand platform after next := by
  cases point with
  | called versionId input =>
    simp only [advanceRelease] at advanced
    split at advanced
    · cases advanced
    · rename_i read done
      split at advanced
      · cases advanced
      · rename_i proofs checked
        cases advanced
        apply ProofsInHand.of_checks (openTransaction_patch _) (readRelease_checksHold proven done checked)
        · intro selected isPoint
          apply replacesAll_unproved
          apply proves_eq_false
          apply publishes_of_openTransaction
          intro isClearing
          rw [isClearing] at isPoint
          cases isPoint
        · intro isPoint
          apply publishes_of_openTransaction
          intro isClearing
          rw [isClearing] at isPoint
          cases isPoint
  | clearing patch =>
    have holds := inHand.holds patch rfl
    simp only [advanceRelease] at advanced
    split at advanced
    · split at advanced
      · cases advanced
      · cases advanced
        apply ProofsInHand.of_checks rfl holds
        · intro selected isPoint
          cases isPoint
        · intro isPoint
          cases isPoint
    · rename_i proves
      cases advanced
      apply ProofsInHand.of_checks rfl holds
      · intro selected _
        exact replacesAll_unproved (Bool.eq_false_iff.mpr proves)
      · intro isPoint
        cases isPoint
  | replacing patch cleared =>
    cases advanced
    apply ProofsInHand.of_checks rfl (inHand.holds patch rfl)
    · intro selected isPoint proves evidence isEvidence row
      cases isPoint
      simp only [isEvidence, List.mem_filter]
      exact ⟨And.right, And.intro⟩
    · intro isPoint
      cases isPoint
  | electing patch =>
    simp only [advanceRelease] at advanced
    split at advanced
    · cases advanced
      apply ProofsInHand.of_checks rfl (inHand.holds patch rfl)
      · intro selected _
        exact replacesAll_unproved (proves_eq_false (inHand.electing patch rfl))
      · intro isPoint
        cases isPoint
    · cases advanced
  | committing patch selected =>
    simp only [advanceRelease] at advanced
    split at advanced
    · cases advanced
    · cases advanced
  | licensing versionId active =>
    simp only [advanceRelease] at advanced
    split at advanced
    · cases advanced
    · cases advanced

theorem releases_outlined : (releaseProtocol platform).Outlined Undisturbed ReleasesProven
    (fun store _ point => ProofsInHand platform store point) where
  enters crowd process call holds allowed := by
    apply ProofsInHand.of_no_patch
    cases call with
    | patch versionId input => rfl
    | licensing versionId active => rfl
  advances crowd process point draw after later holds allowed here advanced := by
    have inHand := holds.points process point here
    constructor
    · rcases advanceRelease_cases advanced with ⟨patch, selected, rfl, done, _⟩ |
        ⟨versionId, active, rfl, switched, _⟩ | rfl
      · exact holds.store.commit (inHand.holds patch rfl) (inHand.replaces patch selected rfl)
          (commitPatch_ok done)
      · exact holds.store.same switched.same
      · exact holds.store
    · intro next isNext
      subst isNext
      exact advanceRelease_inHand holds.store inHand advanced
  spares crowd process point draw after later holds allowed here advanced other bystander different stands := by
    have inHand := holds.points process point here
    have bystands := holds.points other bystander stands
    rcases advanceRelease_cases advanced with ⟨patch, selected, rfl, done, _⟩ |
      ⟨versionId, active, rfl, switched, _⟩ | rfl
    · apply bystands.commit (inHand.holds patch rfl) (inHand.replaces patch selected rfl) (commitPatch_ok done)
      exact fun rival => allowed patch selected here other bystander rival different stands
    · exact bystands.same switched.same
    · exact bystands
  ambient crowd event := nomatch event

/-- As long as no publication overlaps another change of its version, every
published version of a standalone product carries proofs of what it is. -/
theorem releases_proven_of_undisturbed (platform : GitHubPlatform) (store : ReleaseStore)
    (initially : ReleasesProven store) (moves : List (CrowdMove ReleaseCall ReleaseDraw Empty))
    (undisturbed : (releaseProtocol platform).machine.Admits Undisturbed (Crowd.opening store) moves) :
    ReleasesProven ((releaseProtocol platform).machine.run (Crowd.opening store) moves).store := by
  have opening : Protocol.Holds ReleasesProven (fun store _ point => ProofsInHand platform store point)
      (Crowd.opening store) := Protocol.holds_opening initially
  have holds := Machine.run_invariant_of_admits
    (fun crowd move next holds allows accepted => releases_outlined.step holds allows accepted) opening
    undisturbed
  exact holds.store

/-! ## A publication that is overtaken -/

def packageSha256 : String := "bc4a71180870f7945155fbb02f4b0a2e3faa2a62d6d31b7039013055ed19869a"

def metadataSha256 : String := "a1739752f1932281156d43677dec59e1cddc2137388e13f857d474acb9be1062"

def packageName : String := "AirStack-1.0.0-Windows-x64.update.zip"

/-- The bytes of a text in ASCII. -/
def asciiBytes (text : String) : List UInt8 := text.toList.map fun character => character.toNat.toUInt8

/-- The metadata of the package as it is sent, line by line. -/
def metadataBytes : List UInt8 :=
  ["\x7b", "\"schema\":\"bke.update-package.v1\",", "\"productId\":\"airstack\",",
    "\"version\":\"1.0.0\",", "\"platform\":\"windows\",", "\"architecture\":\"x64\",",
    "\"entryPoint\":\"AirStack.exe\",", "\"filename\":\"", packageName, "\",", "\"contentType\":",
    "\"application/vnd.bke.update-package+zip\",", "\"bytes\":1024,", "\"sha256\":\"", packageSha256,
    "\"\x7d"].flatMap asciiBytes

def metadataJson : Json :=
  .object [("schema", .string "bke.update-package.v1"), ("productId", .string "airstack"),
    ("version", .string "1.0.0"), ("platform", .string "windows"), ("architecture", .string "x64"),
    ("entryPoint", .string "AirStack.exe"), ("filename", .string packageName),
    ("contentType", .string packageContentType), ("bytes", .number "1024"),
    ("sha256", .string packageSha256)]

def assetUrl (name : String) : String :=
  "https://github.com/jan2xo/BKE_AIR_STACK/releases/download/v1.0.0/" ++ name

def assetJson (name size digest : String) : Json :=
  .object [("name", .string name), ("size", .number size), ("digest", .string ("sha256:" ++ digest)),
    ("browser_download_url", .string (assetUrl name))]

/-- One release, with a package for `x64`. -/
def releaseJson : Json :=
  .object [("tag_name", .string "v1.0.0"), ("draft", .bool false), ("prerelease", .bool false),
    ("target_commitish", .string "0123456789abcdef0123456789abcdef01234567"),
    ("assets", .array
      [assetJson "AirStack-1.0.0-Windows-x64.update.json" "340" metadataSha256,
        assetJson packageName "1024" packageSha256])]

def hostText : String := "https://github.com"

def plainGitHub : GitHubPlatform where
  fetchRelease repository tag :=
    if repository = "jan2xo/BKE_AIR_STACK" ∧ tag = "v1.0.0" then .ok releaseJson else .error .unavailable
  fetchAsset url :=
    if url = assetUrl "AirStack-1.0.0-Windows-x64.update.json" then .ok (metadataBytes)
    else .error .unavailable
  parseUrl raw :=
    if hostText.toList.isPrefixOf raw.toList then
      some ⟨"https:", "github.com", String.ofList (raw.toList.drop hostText.length)⟩
    else none
  sha256 bytes := if bytes = metadataBytes then metadataSha256 else ""
  parseJson bytes := if bytes = metadataBytes then some metadataJson else none
  safeInteger literal :=
    if literal = "1024" then some 1024 else if literal = "340" then some 340 else none
  hasRootEntryPoint asset entryPoint :=
    if asset.name = packageName ∧ entryPoint = "AirStack.exe" then .ok () else .error .invalid

def stableVersion : ProductVersion where
  id := "version"
  productId := "product"
  version := "1.0.0"
  releaseNotes := none
  changelog := none
  channel := .stable
  lifecycle := .stable
  deprecatedAt := none
  active := true
  operatingSystem := "Windows"
  architecture := "x64"
  isLatest := false
  publishedAt := none
  releasedAt := 0

/-- A standalone product with a version that is not published yet. -/
def unpublishedStore : ReleaseStore where
  products := ⟨[⟨"product", some "airstack", some .standalone⟩], List.pairwise_singleton _ _⟩
  versions := ⟨[stableVersion], List.pairwise_singleton _ _⟩
  evidence := ⟨[⟨"evidence", "version"⟩], List.pairwise_singleton _ _⟩
  verification := []

theorem unpublishedStore_proven : ReleasesProven unpublishedStore := by
  intro version member published
  cases List.mem_singleton.mp member
  cases published

def x64Proof : StandaloneReleaseContractProof where
  productId := "airstack"
  version := "1.0.0"
  repository := "jan2xo/BKE_AIR_STACK"
  tag := "v1.0.0"
  releaseTargetSha := "0123456789abcdef0123456789abcdef01234567"
  platform := "windows"
  architecture := .x64
  entryPoint := "AirStack.exe"
  metadataAsset := "AirStack-1.0.0-Windows-x64.update.json"
  metadataSha256 := metadataSha256
  packageAsset := packageName
  packageSha256 := packageSha256
  packageSize := 1024

theorem plainGitHub_verified :
    verifyGitHubStandaloneReleaseContract plainGitHub ⟨"airstack", "1.0.0", .x64⟩ = .ok [x64Proof] := by
  decide +kernel

def noPatch : ReleasePatch := ⟨none, none, none, none, none, none, none⟩

def publishInput : ReleasePatch := { noPatch with published := some true }

def drawAt (now : Time) : ReleaseDraw := ⟨now, fun _ => "proof", none⟩

/-- The publication after its checks. -/
def publishing : OpenPatch where
  input := publishInput
  read := ⟨stableVersion, ⟨"product", some "airstack", some .standalone⟩, some ⟨"evidence", "version"⟩⟩
  proofs := [x64Proof]

def checkedCrowd : Crowd ReleaseStore ReleasePoint :=
  (Crowd.opening unpublishedStore).place unpublishedStore 0 (some (.clearing publishing))

def checkPublication : List (CrowdMove ReleaseCall ReleaseDraw Empty) :=
  [.start 0 (.patch "version" publishInput), .advance 0 (drawAt 1)]

theorem publishing_checked
    (verified : verifyGitHubStandaloneReleaseContract platform ⟨"airstack", "1.0.0", .x64⟩ = .ok [x64Proof]) :
    checkPatch platform publishInput publishing.read = .ok [x64Proof] := by
  have productId : trim "airstack" = "airstack" := by decide +kernel
  simp only [checkPatch, standaloneProofs, publishing, publishInput, noPatch, stableVersion,
    Option.getD_none, Option.isSome_none, Bool.or_false, Bool.false_and, Bool.false_eq_true, if_false,
    if_true, ReleaseArchitecture.ofText, true_and, and_true, Option.map_some, Option.getD_some, productId]
  simp [verified, ReleaseLifecycle.isStable]

theorem run_checkPublication
    (verified : verifyGitHubStandaloneReleaseContract platform ⟨"airstack", "1.0.0", .x64⟩ = .ok [x64Proof]) :
    (releaseProtocol platform).machine.run (Crowd.opening unpublishedStore) checkPublication =
      checkedCrowd := by
  have read : readRelease "version" unpublishedStore = .ok publishing.read := by decide +kernel
  have advanced : advanceRelease platform unpublishedStore (.called "version" publishInput) (drawAt 1) =
      .ok (unpublishedStore, some (.clearing publishing)) := by
    simp only [advanceRelease, read, publishing_checked verified]
    rfl
  rw [checkPublication, Machine.run_cons, Machine.run_cons, Machine.run_nil]
  apply Machine.attempt_ok
  simp only [Protocol.machine, Protocol.step, Machine.attempt, Crowd.opening, Crowd.place,
    Function.update_self, releaseProtocol, advanced, Function.update_idem]
  rfl

/-- The architecture is changed between the verification and the publication. -/
def overtaking : List (CrowdMove ReleaseCall ReleaseDraw Empty) :=
  [.start 1 (.patch "version" { noPatch with architecture := some "arm64" }), .advance 1 (drawAt 2),
    .advance 1 (drawAt 3), .advance 0 (drawAt 4), .advance 0 (drawAt 5), .advance 0 (drawAt 6)]

/-- The lifecycle is changed after the publication. -/
def following : List (CrowdMove ReleaseCall ReleaseDraw Empty) :=
  [.advance 0 (drawAt 2), .advance 0 (drawAt 3), .advance 0 (drawAt 4),
    .start 1 (.patch "version" { noPatch with lifecycle := some .lts }), .advance 1 (drawAt 5),
    .advance 1 (drawAt 6)]

def releaseRun (moves : List (CrowdMove ReleaseCall ReleaseDraw Empty)) : ReleaseStore :=
  ((releaseProtocol plainGitHub).machine.run (Crowd.opening unpublishedStore) moves).store

/-- What a run does after the checks of the publication. -/
def checkedRun (moves : List (CrowdMove ReleaseCall ReleaseDraw Empty)) : ReleaseStore :=
  ((releaseProtocol plainGitHub).machine.run checkedCrowd moves).store

theorem releaseRun_eq (moves : List (CrowdMove ReleaseCall ReleaseDraw Empty)) :
    releaseRun (checkPublication ++ moves) = checkedRun moves := by
  rw [releaseRun, Machine.run_append, run_checkPublication plainGitHub_verified, checkedRun]

/-- Without a proof for `arm64` no version for it is proven. -/
theorem not_releasesProven_of_architecture {product : ReleaseProduct} (member : version ∈ store.versions)
    (published : version.publishedAt.isSome = true) (isArm64 : version.architecture = "arm64")
    (productMember : product ∈ store.products) (ofVersion : product.id = version.productId)
    (isStandalone : product.launcherExecutionType = some .standalone)
    (proofs : store.verification.all (fun row =>
      match row.metadata with
      | .contract proof => proof.architecture ≠ .arm64
      | .other _ => true) = true) : ¬ ReleasesProven store := by
  intro proven
  rcases (proven version member published product productMember ofVersion isStandalone).carried with
    ⟨architecture, evidence, parsed, carries⟩
  rw [isArm64] at parsed
  have required : .arm64 ∈ releaseArchitectures architecture := by
    rw [← Option.some.inj parsed]
    exact List.mem_singleton_self _
  rcases carries.every .arm64 required with ⟨row, rowMember, _, proof, isProof, _, ofArchitecture⟩
  have checked := List.all_eq_true.mp proofs row rowMember
  rw [isProof] at checked
  exact of_decide_eq_true checked ofArchitecture

/-- A release for `arm64` is published with the proofs of the one for `x64`. -/
theorem release_unproven_when_overtaken : ReleasesProven unpublishedStore ∧
    ¬ ReleasesProven (releaseRun (checkPublication ++ overtaking)) ∧
    (releaseRun (checkPublication ++ overtaking)).versions.rows =
      [{ stableVersion with architecture := "arm64", isLatest := true, publishedAt := some 6 }] ∧
    (releaseRun (checkPublication ++ overtaking)).verification.map SupplyChainVerificationEvidence.artifactHash =
      [packageSha256] := by
  rw [releaseRun_eq]
  refine ⟨unpublishedStore_proven, ?_, by decide +kernel, by decide +kernel⟩
  have member : { stableVersion with architecture := "arm64", isLatest := true, publishedAt := some 6 } ∈
      (checkedRun overtaking).versions := by decide +kernel
  have owner : (⟨"product", some "airstack", some .standalone⟩ : ReleaseProduct) ∈
      (checkedRun overtaking).products := by decide +kernel
  exact not_releasesProven_of_architecture member rfl rfl owner rfl rfl (by decide +kernel)

/-- `Undisturbed`, as a check of the processes below a bound. -/
def undisturbed (bound : Nat) (crowd : Crowd ReleaseStore ReleasePoint) :
    CrowdMove ReleaseCall ReleaseDraw Empty -> Bool
  | .advance process _ =>
    match crowd.processes process with
    | some (.committing patch _) => (List.range bound).all fun other => other = process ||
      match (crowd.processes other).bind ReleasePoint.patch with
      | some rival => rival.versionId ≠ patch.versionId || (!patch.publishes && !rival.publishes)
      | none => true
    | _ => true
  | _ => true

theorem undisturbed_spec {bound : Nat} {crowd : Crowd ReleaseStore ReleasePoint}
    {move : CrowdMove ReleaseCall ReleaseDraw Empty} (below : Protocol.Below bound crowd)
    (checked : undisturbed bound crowd move = true) : Undisturbed crowd move := by
  cases move with
  | advance process draw =>
    intro patch selected here other point rival different stands isRival same
    simp only [undisturbed, here, List.all_eq_true, List.mem_range, Bool.or_eq_true,
      decide_eq_true_eq] at checked
    have rivals := (checked other (below other point stands)).resolve_left different
    rw [stands, Option.bind_some, isRival] at rivals
    simp only [same, ne_eq, not_true_eq_false, decide_false, Bool.false_or, Bool.and_eq_true,
      Bool.not_eq_true'] at rivals
    exact rivals
  | start process call => trivial
  | stop process => trivial
  | ambient event => trivial

theorem releases_proven_of_undisturbed_ordered :
    (releaseRun (checkPublication ++ following)).versions.rows =
      [{ stableVersion with lifecycle := .lts, isLatest := true, publishedAt := some 4 }] ∧
    ReleasesProven (releaseRun (checkPublication ++ following)) := by
  constructor
  · rw [releaseRun_eq]
    decide +kernel
  · rw [releaseRun]
    apply releases_proven_of_undisturbed plainGitHub unpublishedStore unpublishedStore_proven
    have first : (releaseProtocol plainGitHub).machine.Admits
        (fun crowd move => undisturbed 2 crowd move = true) (Crowd.opening unpublishedStore)
        checkPublication := by decide +kernel
    have later : (releaseProtocol plainGitHub).machine.Admits
        (fun crowd move => undisturbed 2 crowd move = true) checkedCrowd following := by
      decide +kernel
    rw [← run_checkPublication plainGitHub_verified] at later
    have checked := first.append later
    apply (Protocol.admits_below rfl (Protocol.below_opening 2 unpublishedStore) checked).mono
    intro crowd move both
    exact undisturbed_spec both.1 both.2

end Catalog
end DigitalSolutions
