import DigitalSolutions.Distribution.UpdateContract
import DigitalSolutions.Persistence.Json

namespace DigitalSolutions
namespace Catalog

open Persistence Platform Distribution

/-!
# The contract of a standalone release

A standalone product is distributed from a GitHub release, which has to carry
one update package for every architecture.  What GitHub answers, the hash and
the walk through the directory of a package are parameters.
-/

inductive StandaloneReleaseArchitecture
  | x64 | arm64
  deriving DecidableEq

def StandaloneReleaseArchitecture.text : StandaloneReleaseArchitecture -> String
  | .x64 => "x64"
  | .arm64 => "arm64"

inductive ReleaseArchitecture
  | x64 | arm64 | universal
  deriving DecidableEq

/-- `["x64", "arm64", "universal"].includes(architecture)`. -/
def ReleaseArchitecture.ofText (architecture : String) : Option ReleaseArchitecture :=
  if architecture = "x64" then some .x64
  else if architecture = "arm64" then some .arm64
  else if architecture = "universal" then some .universal
  else none

def releaseArchitectures : ReleaseArchitecture -> List StandaloneReleaseArchitecture
  | .universal => [.x64, .arm64]
  | .x64 => [.x64]
  | .arm64 => [.arm64]

structure StandaloneReleaseContractProof where
  productId : String
  version : String
  repository : String
  tag : String
  releaseTargetSha : String
  platform : String
  architecture : StandaloneReleaseArchitecture
  entryPoint : String
  metadataAsset : String
  metadataSha256 : String
  packageAsset : String
  packageSha256 : String
  packageSize : Int
  deriving DecidableEq

inductive ContractFault
  /-- `RELEASE_DISTRIBUTION_CONTRACT_INVALID`. -/
  | invalid
  /-- `RELEASE_DISTRIBUTION_UNAVAILABLE`. -/
  | unavailable
  deriving DecidableEq

def ContractFault.code : ContractFault -> String
  | .invalid => "RELEASE_DISTRIBUTION_CONTRACT_INVALID"
  | .unavailable => "RELEASE_DISTRIBUTION_UNAVAILABLE"

structure GitHubAsset where
  name : String
  size : Int
  digest : String
  browserDownloadUrl : String

structure ReleaseMetadata where
  entryPoint : String
  filename : String
  bytes : Int
  sha256 : String

/-- The address of an asset, as `URL` reads it. -/
structure AssetUrl where
  protocol : String
  hostname : String
  pathname : String

/-- GitHub and the primitives of the platform. -/
structure GitHubPlatform where
  /-- The release of a repository under a tag. -/
  fetchRelease : String -> String -> Except ContractFault Json
  /-- What lies under the address of an asset. -/
  fetchAsset : String -> Except ContractFault (List UInt8)
  parseUrl : String -> Option AssetUrl
  sha256 : List UInt8 -> String
  /-- `JSON.parse` of the text in UTF-8. -/
  parseJson : List UInt8 -> Option Json
  /-- The value of a number literal, where it is a safe integer. -/
  safeInteger : String -> Option Int
  /-- `verifyPackageRootEntryPoint`, after the check of the address. -/
  hasRootEntryPoint : GitHubAsset -> String -> Except ContractFault Unit

def maxMetadataBytes : Int := 64 * 1024

def packageContentType : String := "application/vnd.bke.update-package+zip"

def releaseMetadataKeys : List String :=
  ["schema", "productId", "version", "platform", "architecture", "entryPoint", "filename",
    "contentType", "bytes", "sha256"]

def githubReleaseRepository (productId : String) : Option String :=
  if productId = "airstack" ∨ productId = "bke-air-stack" then some "jan2xo/BKE_AIR_STACK"
  else if productId = "bke-render-dock" then some "jan2xo/BKE_RENDER_DOCK"
  else none

/-! ## Reading what GitHub sends -/

def asObject : Json -> Except ContractFault (List (String × Json))
  | .object entries => .ok entries
  | _ => .error .invalid

def entry (entries : List (String × Json)) (key : String) : Option Json :=
  (entries.find? fun pair => pair.1 = key).map Prod.snd

def requiredString (entries : List (String × Json)) (key : String) : Except ContractFault String :=
  match entry entries key with
  | some (.string text) => if isBlank text then .error .invalid else .ok text
  | _ => .error .invalid

/-- `if (condition) invalid()`. -/
def refuse (condition : Bool) : Except ContractFault Unit :=
  if condition then .error .invalid else .ok ()

def parseDigest (value : Option Json) : Except ContractFault String :=
  match value with
  | some (.string text) =>
    let digest := String.ofList (text.toList.drop "sha256:".length)
    if text = "sha256:" ++ digest && isSha256 digest then .ok digest else .error .invalid
  | _ => .error .invalid

variable (platform : GitHubPlatform)

def positiveInteger (value : Option Json) : Except ContractFault Int :=
  match value with
  | some (.number literal) =>
    match platform.safeInteger literal with
    | some size => if 0 < size then .ok size else .error .invalid
    | none => .error .invalid
  | _ => .error .invalid

def parseGitHubAsset (value : Json) : Except ContractFault GitHubAsset := do
  let asset <- asObject value
  let name <- requiredString asset "name"
  let digest <- parseDigest (entry asset "digest")
  let browserDownloadUrl <- requiredString asset "browser_download_url"
  let size <- positiveInteger platform (entry asset "size")
  return { name, size, digest, browserDownloadUrl }

def validateGitHubReleaseAssetUrl (raw repository tag : String) : Except ContractFault Unit :=
  match platform.parseUrl raw with
  | none => .error .invalid
  | some url =>
    let path := "/" ++ repository ++ "/releases/download/" ++ tag ++ "/"
    refuse (url.protocol ≠ "https:" || url.hostname ≠ "github.com" ||
      !(path.toList.isPrefixOf url.pathname.toList))

def readBoundedMetadata (asset : GitHubAsset) (repository tag : String) :
    Except ContractFault (List UInt8) := do
  validateGitHubReleaseAssetUrl platform asset.browserDownloadUrl repository tag
  refuse (asset.size > maxMetadataBytes)
  let bytes <- platform.fetchAsset asset.browserDownloadUrl
  refuse (bytes.length = 0 || bytes.length > maxMetadataBytes)
  refuse (bytes.length ≠ asset.size || platform.sha256 bytes ≠ asset.digest)
  return bytes

def parseReleaseMetadata (bytes : List UInt8) (productId version : String)
    (architecture : StandaloneReleaseArchitecture) : Except ContractFault ReleaseMetadata := do
  match platform.parseJson bytes with
  | none => throw .invalid
  | some parsed =>
    let value <- asObject parsed
    refuse (value.length ≠ releaseMetadataKeys.length ||
      value.any fun pair => !(releaseMetadataKeys.contains pair.1))
    let schema <- requiredString value "schema"
    let namedProduct <- requiredString value "productId"
    let namedVersion <- requiredString value "version"
    let namedPlatform <- requiredString value "platform"
    let namedArchitecture <- requiredString value "architecture"
    let entryPoint <- requiredString value "entryPoint"
    let filename <- requiredString value "filename"
    let contentType <- requiredString value "contentType"
    let packageSha256 <- toLowerCase <$> requiredString value "sha256"
    let size <- positiveInteger platform (entry value "bytes")
    refuse (schema ≠ "bke.update-package.v1" || namedProduct ≠ productId || namedVersion ≠ version ||
      namedPlatform ≠ "windows" || namedArchitecture ≠ architecture.text ||
      contentType ≠ packageContentType || size > 4 * 1024 * 1024 * 1024 || !(isSha256 packageSha256) ||
      entryPoint = "." || entryPoint = ".." ||
      entryPoint.toList.any (fun character => "/\\:\x00".toList.contains character) ||
      !(("-Windows-" ++ architecture.text ++ ".update.zip").toList.isSuffixOf filename.toList))
    return { entryPoint, filename, bytes := size, sha256 := packageSha256 }

/-! ## The verification -/

structure ContractInput where
  productId : String
  version : String
  architecture : ReleaseArchitecture

/-- `assets.filter(...)` where exactly one is left. -/
def onlyAsset (assets : List GitHubAsset) (chosen : GitHubAsset -> Bool) :
    Except ContractFault GitHubAsset :=
  match assets.filter chosen with
  | [asset] => .ok asset
  | _ => .error .invalid

/-- The assets of one architecture, verified. -/
def verifiedPackage (input : ContractInput) (repository tag : String) (assets : List GitHubAsset)
    (architecture : StandaloneReleaseArchitecture) :
    Except ContractFault (GitHubAsset × ReleaseMetadata × GitHubAsset) := do
  let suffix := "-Windows-" ++ architecture.text ++ ".update.json"
  let metadataAsset <- onlyAsset assets fun asset => suffix.toList.isSuffixOf asset.name.toList
  let metadataBytes <- readBoundedMetadata platform metadataAsset repository tag
  let metadata <- parseReleaseMetadata platform metadataBytes input.productId input.version architecture
  let packageAsset <- onlyAsset assets fun asset => asset.name = metadata.filename
  validateGitHubReleaseAssetUrl platform packageAsset.browserDownloadUrl repository tag
  refuse (packageAsset.size ≠ metadata.bytes || packageAsset.digest ≠ metadata.sha256)
  platform.hasRootEntryPoint packageAsset metadata.entryPoint
  return (metadataAsset, metadata, packageAsset)

def architectureProof (input : ContractInput) (repository tag releaseTargetSha : String)
    (assets : List GitHubAsset) (architecture : StandaloneReleaseArchitecture) :
    Except ContractFault StandaloneReleaseContractProof := do
  let (metadataAsset, metadata, packageAsset) <-
    verifiedPackage platform input repository tag assets architecture
  return { productId := input.productId, version := input.version, repository, tag, releaseTargetSha
           platform := "windows", architecture, entryPoint := metadata.entryPoint
           metadataAsset := metadataAsset.name, metadataSha256 := metadataAsset.digest
           packageAsset := packageAsset.name, packageSha256 := packageAsset.digest
           packageSize := packageAsset.size }

/-- `/^[a-f0-9]{40}$/`. -/
def isCommitSha (text : String) : Bool :=
  text.toList.length = 40 && text.toList.all fun character =>
    ('a' ≤ character && character ≤ 'f') || ('0' ≤ character && character ≤ '9')

def verifyGitHubStandaloneReleaseContract (input : ContractInput) :
    Except ContractFault (List StandaloneReleaseContractProof) := do
  match githubReleaseRepository input.productId with
  | none => throw .invalid
  | some repository =>
    let tag := "v" ++ input.version
    let release <- (platform.fetchRelease repository tag) >>= asObject
    let namedTag <- requiredString release "tag_name"
    refuse (namedTag ≠ tag || entry release "draft" ≠ some (.bool false) ||
      entry release "prerelease" ≠ some (.bool false))
    let releaseTargetSha <- requiredString release "target_commitish"
    refuse (!(isCommitSha releaseTargetSha))
    match entry release "assets" with
    | some (.array elements) =>
      let assets <- elements.mapM (parseGitHubAsset platform)
      (releaseArchitectures input.architecture).mapM
        (architectureProof platform input repository tag releaseTargetSha assets)
    | _ => throw .invalid

/-! ## What a verification proves -/

theorem contract_bind_ok {Value Result : Type} {first : Except ContractFault Value}
    {rest : Value -> Except ContractFault Result} {result : Result}
    (done : (first >>= rest) = .ok result) :
    Exists fun value => first = .ok value ∧ rest value = .ok result := by
  cases first with
  | error fault => cases done
  | ok value => exact ⟨value, rfl, done⟩

/-- Results that name their arguments are those of the arguments, in order. -/
theorem map_of_mapM {Argument Result : Type} {function : Argument -> Except ContractFault Result}
    (argument : Result -> Argument)
    (named : forall input output, function input = .ok output -> argument output = input)
    {inputs : List Argument} {outputs : List Result} (mapped : inputs.mapM function = .ok outputs) :
    outputs.map argument = inputs ∧
      forall output, output ∈ outputs -> Exists fun input => function input = .ok output := by
  induction inputs generalizing outputs with
  | nil =>
    cases mapped
    exact ⟨rfl, fun _ member => absurd member List.not_mem_nil⟩
  | cons first rest inductionHypothesis =>
    rw [List.mapM_cons] at mapped
    rcases contract_bind_ok mapped with ⟨output, done, later⟩
    rcases contract_bind_ok later with ⟨outputsLater, doneLater, same⟩
    cases same
    rcases inductionHypothesis doneLater with ⟨sameRest, everyRest⟩
    constructor
    · rw [List.map_cons, named first output done, sameRest]
    · intro other member
      rcases List.mem_cons.mp member with rfl | inRest
      · exact ⟨first, done⟩
      · exact everyRest other inRest

theorem architectureProof_ok {input : ContractInput} {repository tag releaseTargetSha : String}
    {assets : List GitHubAsset} {architecture : StandaloneReleaseArchitecture}
    {proof : StandaloneReleaseContractProof}
    (proved : architectureProof platform input repository tag releaseTargetSha assets architecture =
      .ok proof) :
    proof.architecture = architecture ∧ proof.productId = input.productId ∧
      proof.version = input.version ∧ proof.platform = "windows" := by
  rcases contract_bind_ok proved with ⟨package, _, same⟩
  cases same
  exact ⟨rfl, rfl, rfl, rfl⟩

/-- A verified contract has one proof for each architecture, of the product and
the version that were asked for. -/
theorem verifyGitHubStandaloneReleaseContract_ok {input : ContractInput}
    {proofs : List StandaloneReleaseContractProof}
    (verified : verifyGitHubStandaloneReleaseContract platform input = .ok proofs) :
    proofs.map StandaloneReleaseContractProof.architecture = releaseArchitectures input.architecture ∧
      forall proof, proof ∈ proofs -> proof.version = input.version := by
  unfold verifyGitHubStandaloneReleaseContract at verified
  split at verified
  · cases verified
  · rename_i repository _
    rcases contract_bind_ok verified with ⟨release, _, verified⟩
    rcases contract_bind_ok verified with ⟨namedTag, _, verified⟩
    rcases contract_bind_ok verified with ⟨_, _, verified⟩
    rcases contract_bind_ok verified with ⟨releaseTargetSha, _, verified⟩
    rcases contract_bind_ok verified with ⟨_, _, verified⟩
    split at verified
    · rcases contract_bind_ok verified with ⟨assets, _, mapped⟩
      have named := map_of_mapM StandaloneReleaseContractProof.architecture
        (fun architecture proof done => (architectureProof_ok platform done).1) mapped
      refine ⟨named.1, ?_⟩
      intro proof member
      rcases named.2 proof member with ⟨architecture, done⟩
      exact (architectureProof_ok platform done).2.2.1
    · cases verified

end Catalog
end DigitalSolutions
