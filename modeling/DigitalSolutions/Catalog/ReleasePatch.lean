import DigitalSolutions.Catalog.StandaloneContract
import DigitalSolutions.Foundation.Processes
import DigitalSolutions.Foundation.Table

namespace DigitalSolutions
namespace Catalog

open Foundation Persistence Platform

/-!
# Changing a release

A release is read and checked first, which for a standalone product includes
the verification of its contract at GitHub.  The transaction that follows runs
at the default isolation level: every query in it sees what is committed by
then, and its writes are seen when it commits.  The row locks that it takes
only rule out some of these interleavings.
-/

inductive ReleaseChannel
  | stable | beta
  deriving DecidableEq

/-- `stages`, in their order. -/
inductive ReleaseLifecycle
  | draft | internal | alpha | beta | releaseCandidate | stable | lts | deprecated | archived
  deriving DecidableEq

def ReleaseLifecycle.index : ReleaseLifecycle -> Nat
  | .draft => 0
  | .internal => 1
  | .alpha => 2
  | .beta => 3
  | .releaseCandidate => 4
  | .stable => 5
  | .lts => 6
  | .deprecated => 7
  | .archived => 8

inductive LauncherExecutionType
  | launcherPlugin | standalone
  deriving DecidableEq

structure ReleaseProduct where
  id : Id
  productId : Option String
  launcherExecutionType : Option LauncherExecutionType
  deriving DecidableEq

instance : Keyed ReleaseProduct Id where
  keys product := [product.id]

structure ProductVersion where
  id : Id
  productId : Id
  version : String
  releaseNotes : Option String
  changelog : Option String
  channel : ReleaseChannel
  lifecycle : ReleaseLifecycle
  deprecatedAt : Option Time
  active : Bool
  operatingSystem : String
  architecture : String
  isLatest : Bool
  publishedAt : Option Time
  releasedAt : Time
  deriving DecidableEq

inductive ProductVersion.Key
  | id (value : Id) | version (productId : Id) (value : String)
  deriving DecidableEq

instance : Keyed ProductVersion ProductVersion.Key where
  keys version := [.id version.id, .version version.productId version.version]

structure SupplyChainEvidence where
  id : Id
  versionId : Id
  deriving DecidableEq

inductive SupplyChainEvidence.Key
  | id (value : Id) | versionId (value : Id)
  deriving DecidableEq

instance : Keyed SupplyChainEvidence SupplyChainEvidence.Key where
  keys evidence := [.id evidence.id, .versionId evidence.versionId]

/-- The column `metadata`: the proof of a contract, or what else is recorded. -/
inductive EvidenceMetadata
  | contract (proof : StandaloneReleaseContractProof)
  | other (value : Json)
  deriving DecidableEq

structure SupplyChainVerificationEvidence where
  id : Id
  evidenceId : Id
  kind : String
  artifactHash : String
  result : String
  reference : Option String
  metadata : EvidenceMetadata
  deriving DecidableEq

structure ReleaseStore where
  products : Table ReleaseProduct
  versions : Table ProductVersion
  evidence : Table SupplyChainEvidence
  verification : List SupplyChainVerificationEvidence
  deriving DecidableEq

structure ReleasePatch where
  lifecycle : Option ReleaseLifecycle
  published : Option Bool
  releaseNotes : Option String
  changelog : Option String
  channel : Option ReleaseChannel
  operatingSystem : Option String
  architecture : Option String
  deriving DecidableEq

inductive ReleaseError
  | message (text : String)
  | recordNotFound
  deriving DecidableEq

/-! ## The reads and checks -/

/-- The release with what is included in its first read. -/
structure ReleaseRead where
  version : ProductVersion
  product : ReleaseProduct
  supplyChainEvidence : Option SupplyChainEvidence
  deriving DecidableEq

def readRelease (versionId : Id) (store : ReleaseStore) : Except ReleaseError ReleaseRead :=
  match store.versions.lookup (.id versionId) with
  | none => .error .recordNotFound
  | some version =>
    match store.products.lookup version.productId with
    | none => .error .recordNotFound
    | some product => .ok ⟨version, product, store.evidence.lookup (.versionId version.id)⟩

/-- `["STABLE", "LTS"].includes(lifecycle)`. -/
def ReleaseLifecycle.isStable (lifecycle : ReleaseLifecycle) : Bool :=
  lifecycle = .stable || lifecycle = .lts

def checkTransition (current : ReleaseLifecycle) (target : ReleaseLifecycle) : Bool :=
  target = current || target.index = current.index + 1 ||
    (target = .deprecated && current.index ≥ ReleaseLifecycle.stable.index) ||
    (target = .archived && current = .deprecated)

variable (platform : GitHubPlatform)

/-- The verification of a publication; other changes need no proof. -/
def standaloneProofs (input : ReleasePatch) (read : ReleaseRead) :
    Except ReleaseError (List StandaloneReleaseContractProof) :=
  if input.published = some true ∧ read.product.launcherExecutionType = some .standalone then
    let productId := (read.product.productId.map trim).getD ""
    let operatingSystem := input.operatingSystem.getD read.version.operatingSystem
    match ReleaseArchitecture.ofText (input.architecture.getD read.version.architecture) with
    | none => .error (.message "RELEASE_DISTRIBUTION_CONTRACT_INVALID")
    | some architecture =>
      if productId = "" ∨ read.supplyChainEvidence = none ∨ operatingSystem ≠ "Windows" then
        .error (.message "RELEASE_DISTRIBUTION_CONTRACT_INVALID")
      else
        match verifyGitHubStandaloneReleaseContract platform ⟨productId, read.version.version, architecture⟩ with
        | .ok proofs => .ok proofs
        | .error fault => .error (.message fault.code)
  else .ok []

def checkPatch (input : ReleasePatch) (read : ReleaseRead) :
    Except ReleaseError (List StandaloneReleaseContractProof) :=
  if (input.operatingSystem.isSome || input.architecture.isSome) && read.version.publishedAt.isSome then
    .error (.message "RELEASE_COMPATIBILITY_EDIT_REQUIRES_UNPUBLISH")
  else if input.published = some true ∧
      (input.lifecycle.getD read.version.lifecycle).isStable = false then
    .error (.message "RELEASE_PUBLICATION_REQUIRES_STABLE")
  else
    match standaloneProofs platform input read with
    | .error error => .error error
    | .ok proofs =>
      if input.lifecycle.all (checkTransition read.version.lifecycle) then .ok proofs
      else .error (.message "INVALID_RELEASE_TRANSITION")

/-! ## The transaction -/

/-- A change whose checks have passed. -/
structure OpenPatch where
  input : ReleasePatch
  read : ReleaseRead
  proofs : List StandaloneReleaseContractProof

namespace OpenPatch

def publishes (patch : OpenPatch) : Bool := patch.input.published = some true

/-- Whether a fallback is looked for. -/
def retires (patch : OpenPatch) : Bool :=
  patch.input.lifecycle = some .archived || patch.input.lifecycle = some .deprecated ||
    patch.input.published = some false

/-- Whether the publication replaces the proofs of the release. -/
def proves (patch : OpenPatch) : Bool :=
  patch.publishes && patch.read.product.launcherExecutionType = some .standalone &&
    patch.read.supplyChainEvidence.isSome

def productId (patch : OpenPatch) : Id := patch.read.version.productId

def versionId (patch : OpenPatch) : Id := patch.read.version.id

end OpenPatch

/-- What the queries of the transaction have selected. -/
structure Selected where
  /-- The other versions that were marked latest. -/
  cleared : List Id
  /-- The proofs that are replaced. -/
  replaced : List SupplyChainVerificationEvidence
  fallback : Option Id

def nothingSelected : Selected := ⟨[], [], none⟩

inductive ReleaseCall
  | patch (versionId : Id) (input : ReleasePatch)
  | licensing (versionId : Id) (active : Bool)

inductive ReleasePoint
  | called (versionId : Id) (input : ReleasePatch)
  | clearing (patch : OpenPatch)
  | replacing (patch : OpenPatch) (cleared : List Id)
  | electing (patch : OpenPatch)
  | committing (patch : OpenPatch) (selected : Selected)
  | licensing (versionId : Id) (active : Bool)

/-- The clock, the ids of new rows, and which row a query returns where its
order leaves the choice open. -/
structure ReleaseDraw where
  now : Time
  fresh : Nat -> Id
  choice : Option Id

/-- Where the transaction of a checked change begins. -/
def openTransaction (patch : OpenPatch) : ReleasePoint :=
  if patch.publishes then .clearing patch
  else if patch.retires then .electing patch
  else .committing patch nothingSelected

def isOtherLatest (patch : OpenPatch) (version : ProductVersion) : Bool :=
  version.productId = patch.productId && version.id ≠ patch.versionId && version.isLatest

def isContractEvidence (evidenceId : Id) (row : SupplyChainVerificationEvidence) : Bool :=
  row.evidenceId = evidenceId && row.kind = "GITHUB_RELEASE_CONTRACT"

/-- Active, published and stable: what a customer may be offered. -/
def ProductVersion.isEligible (version : ProductVersion) : Bool :=
  version.active && version.publishedAt.isSome && version.lifecycle.isStable

/-- Strictly before another in the order of the fallback query. -/
def ProductVersion.precedes (version other : ProductVersion) : Bool :=
  match version.publishedAt, other.publishedAt with
  | some mine, some others => others < mine || (mine = others && other.releasedAt < version.releasedAt)
  | _, _ => false

def fallbackCandidates (patch : OpenPatch) (store : ReleaseStore) : List ProductVersion :=
  store.versions.select fun version =>
    version.productId = patch.productId && version.id ≠ patch.versionId && version.isEligible

/-- The chosen id is a first row of the fallback query, or there is none. -/
def isFirst (patch : OpenPatch) (store : ReleaseStore) : Option Id -> Bool
  | none => (fallbackCandidates patch store).isEmpty
  | some chosen => (fallbackCandidates patch store).any fun version => version.id = chosen &&
      (fallbackCandidates patch store).all fun other => !other.precedes version

/-- The columns that the change sets. -/
def patched (patch : OpenPatch) (now : Time) (version : ProductVersion) : ProductVersion :=
  let input := patch.input
  { version with
    lifecycle := input.lifecycle.getD version.lifecycle
    releaseNotes := input.releaseNotes <|> version.releaseNotes
    changelog := input.changelog <|> version.changelog
    channel := input.channel.getD version.channel
    operatingSystem := input.operatingSystem.getD version.operatingSystem
    architecture := input.architecture.getD version.architecture
    active := if input.lifecycle = some .archived then false else version.active
    publishedAt :=
      if input.published = some true then some now
      else if input.published = some false then none
      else version.publishedAt
    isLatest :=
      if input.published = some true then true
      else if input.published = some false ∨ input.lifecycle = some .archived ∨
        input.lifecycle = some .deprecated then false
      else version.isLatest
    deprecatedAt :=
      if input.lifecycle = some .deprecated then some now
      else if input.lifecycle.isSome then none
      else version.deprecatedAt }

/-- What becomes of a row of the versions at the commit. -/
def writtenVersion (patch : OpenPatch) (selected : Selected) (now : Time) (version : ProductVersion) :
    ProductVersion :=
  if version.id = patch.versionId then patched patch now version
  else if selected.fallback = some version.id then { version with isLatest := true }
  else if selected.cleared.contains version.id then { version with isLatest := false }
  else version

theorem keys_writtenVersion (patch : OpenPatch) (selected : Selected) (now : Time)
    (version : ProductVersion) :
    Keyed.keys (writtenVersion patch selected now version) = Keyed.keys version := by
  unfold writtenVersion
  split
  · rfl
  · split
    · rfl
    · split
      · rfl
      · rfl

def contractEvidence (evidenceId id : Id) (proof : StandaloneReleaseContractProof) :
    SupplyChainVerificationEvidence where
  id := id
  evidenceId := evidenceId
  kind := "GITHUB_RELEASE_CONTRACT"
  artifactHash := proof.packageSha256
  result := "VERIFIED"
  reference := some ("https://github.com/" ++ proof.repository ++ "/releases/tag/" ++ proof.tag)
  metadata := .contract proof

/-- The proofs at the commit: what was selected is gone, what was verified is
there. -/
def writtenVerification (patch : OpenPatch) (selected : Selected) (fresh : Nat -> Id)
    (rows : List SupplyChainVerificationEvidence) : List SupplyChainVerificationEvidence :=
  match patch.read.supplyChainEvidence with
  | some evidence =>
    if patch.proves then
      (rows.filter fun row => !(selected.replaced.contains row)) ++
        patch.proofs.mapIdx fun index proof => contractEvidence evidence.id (fresh index) proof
    else rows
  | none => rows

def commitPatch (patch : OpenPatch) (selected : Selected) (draw : ReleaseDraw) (store : ReleaseStore) :
    Except ReleaseError ReleaseStore :=
  match store.versions.lookup (.id patch.versionId) with
  | none => .error .recordNotFound
  | some _ =>
    if selected.fallback.all fun fallback => (store.versions.lookup (.id fallback)).isSome then
      .ok { store with
        versions := store.versions.update (fun _ => true) (writtenVersion patch selected draw.now)
          fun version _ => keys_writtenVersion patch selected draw.now version
        verification := writtenVerification patch selected draw.fresh store.verification }
    else .error .recordNotFound

/-- The other route: the switch of the licensing of a version. -/
def switchLicensing (versionId : Id) (active : Bool) (store : ReleaseStore) :
    Except ReleaseError ReleaseStore :=
  match store.versions.lookup (.id versionId) with
  | none => .error .recordNotFound
  | some _ =>
    .ok { store with
      versions := store.versions.update (fun version => version.id = versionId)
        fun version => { version with active } }

def advanceRelease (store : ReleaseStore) (point : ReleasePoint) (draw : ReleaseDraw) :
    Except ReleaseError (ReleaseStore × Option ReleasePoint) :=
  match point with
  | .called versionId input =>
    match readRelease versionId store with
    | .error _ => .ok (store, none)
    | .ok read =>
      match checkPatch platform input read with
      | .error _ => .ok (store, none)
      | .ok proofs => .ok (store, some (openTransaction ⟨input, read, proofs⟩))
  | .clearing patch =>
    let cleared := (store.versions.select (isOtherLatest patch)).map ProductVersion.id
    if patch.proves then
      if patch.proofs.isEmpty then .ok (store, none) else .ok (store, some (.replacing patch cleared))
    else .ok (store, some (.committing patch ⟨cleared, [], none⟩))
  | .replacing patch cleared =>
    let replaced := match patch.read.supplyChainEvidence with
      | some evidence => store.verification.filter (isContractEvidence evidence.id)
      | none => []
    .ok (store, some (.committing patch ⟨cleared, replaced, none⟩))
  | .electing patch =>
    if isFirst patch store draw.choice then
      .ok (store, some (.committing patch ⟨[], [], draw.choice⟩))
    else .error (.message "NOT_A_FIRST_ROW")
  | .committing patch selected =>
    match commitPatch patch selected draw store with
    | .ok after => .ok (after, none)
    | .error _ => .ok (store, none)
  | .licensing versionId active =>
    match switchLicensing versionId active store with
    | .ok after => .ok (after, none)
    | .error _ => .ok (store, none)

def releaseProtocol :
    Protocol ReleaseStore ReleaseCall ReleasePoint ReleaseDraw Empty ReleaseError where
  enter
    | .patch versionId input => .called versionId input
    | .licensing versionId active => .licensing versionId active
  advance := advanceRelease platform
  ambient _ event := nomatch event

/-- The change that a process has checked and not yet committed. -/
def ReleasePoint.patch : ReleasePoint -> Option OpenPatch
  | .clearing patch | .replacing patch _ | .electing patch | .committing patch _ => some patch
  | .called _ _ | .licensing _ _ => none

end Catalog
end DigitalSolutions
