import DigitalSolutions.Catalog.ReleaseProofRuns
import DigitalSolutions.Foundation.Checks

namespace DigitalSolutions
namespace Catalog

open Foundation Persistence Platform Distribution

/-!
# What the proofs of a standalone release say

A release either fails its verification or yields one proof for each
architecture.  A proof rests on two assets, and each of them is the only one of
its kind, so that neither the order of the assets nor an asset with an
unrelated name can change what comes out.
-/

/-- The ending of the metadata of an architecture. -/
def metadataSuffix (architecture : StandaloneReleaseArchitecture) : String :=
  "-Windows-" ++ architecture.text ++ ".update.json"

/-- The assets, the bytes and the document behind a proof. -/
structure ProvedFrom (platform : GitHubPlatform) (input : ContractInput) (assets : List GitHubAsset)
    (proof : StandaloneReleaseContractProof) (metadataAsset packageAsset : GitHubAsset)
    (bytes : List UInt8) (document : List (String × Json)) : Prop where
  onlyMetadata : assets.filter (fun asset =>
    (metadataSuffix proof.architecture).toList.isSuffixOf asset.name.toList) = [metadataAsset]
  onlyPackage : assets.filter (fun asset => asset.name = proof.packageAsset) = [packageAsset]
  fetched : platform.fetchAsset metadataAsset.browserDownloadUrl = .ok bytes
  hashed : platform.sha256 bytes = metadataAsset.digest
  sized : (bytes.length : Int) = metadataAsset.size
  read : platform.parseJson bytes = some (.object document)
  /-- The document names what was asked for. -/
  namedProduct : entry document "productId" = some (.string input.productId)
  namedVersion : entry document "version" = some (.string input.version)
  namedArchitecture : entry document "architecture" = some (.string proof.architecture.text)
  /-- The document, the asset and the proof agree on the package. -/
  namedFile : entry document "filename" = some (.string packageAsset.name)
  namedDigest : Exists fun text => entry document "sha256" = some (.string text) ∧
    toLowerCase text = packageAsset.digest
  namedSize : Exists fun literal => entry document "bytes" = some (.number literal) ∧
    platform.safeInteger literal = some packageAsset.size
  packageName : proof.packageAsset = packageAsset.name
  packageDigest : proof.packageSha256 = packageAsset.digest
  packageSize : proof.packageSize = packageAsset.size
  metadataName : proof.metadataAsset = metadataAsset.name
  metadataDigest : proof.metadataSha256 = metadataAsset.digest
  product : proof.productId = input.productId
  version : proof.version = input.version

/-- GitHub answers every request for a release with the same document. -/
def GitHubPlatform.serving (platform : GitHubPlatform) (release : List (String × Json)) : GitHubPlatform :=
  { platform with fetchRelease := fun _ _ => .ok (.object release) }

/-- A name that no step of a verification looks for: it ends like no metadata
that is asked for, and no metadata that is read names it as its package. -/
def Unrelated (platform : GitHubPlatform) (input : ContractInput) (elements : List Json) (name : String) : Prop :=
  forall architecture, architecture ∈ releaseArchitectures input.architecture ->
    (metadataSuffix architecture).toList.isSuffixOf name.toList = false ∧
    forall element, element ∈ elements -> forall asset, parseGitHubAsset platform element = .ok asset ->
      (metadataSuffix architecture).toList.isSuffixOf asset.name.toList = true ->
      forall bytes, platform.fetchAsset asset.browserDownloadUrl = .ok bytes ->
      forall metadata,
        parseReleaseMetadata platform bytes input.productId input.version architecture = .ok metadata ->
        name ≠ metadata.filename

/-! ## Reading -/

variable {platform : GitHubPlatform} {input : ContractInput} {repository tag releaseTargetSha : String}
  {assets others : List GitHubAsset}
variable {fault : ContractFault} {entries : List (String × Json)}
variable {architecture : StandaloneReleaseArchitecture} {chosen : GitHubAsset -> Bool}

theorem refuse_ok_iff {condition : Bool} {answer : Unit} : refuse condition = .ok answer ↔ condition = false := by
  cases condition <;> simp only [refuse, if_true, if_false, reduceCtorEq, Bool.false_eq_true]

theorem readBoundedMetadata_ok {asset : GitHubAsset} {bytes : List UInt8}
    (read : readBoundedMetadata platform asset repository tag = .ok bytes) :
    platform.fetchAsset asset.browserDownloadUrl = .ok bytes ∧ platform.sha256 bytes = asset.digest ∧
      (bytes.length : Int) = asset.size := by
  simp only [readBoundedMetadata, check_bind_ok_iff, refuse_ok_iff] at read
  rcases read with ⟨_, _, _, _, _, fetched, _, _, _, checked, same⟩
  cases same
  simp only [Bool.or_eq_false_iff, decide_eq_false_iff_not, not_not] at checked
  exact ⟨fetched, checked.2, checked.1⟩

theorem requiredString_ok {key text : String} (read : requiredString entries key = .ok text) :
    entry entries key = some (.string text) := by
  unfold requiredString at read
  split at read
  · rename_i stored found
    split at read
    · cases read
    · rw [found, Except.ok.inj read]
  · cases read

theorem positiveInteger_ok {value : Option Json} {size : Int} (read : positiveInteger platform value = .ok size) :
    Exists fun literal => value = some (.number literal) ∧ platform.safeInteger literal = some size := by
  unfold positiveInteger at read
  split at read
  · rename_i literal
    split at read
    · rename_i stored found
      split at read
      · exact ⟨literal, rfl, found.trans (congrArg some (Except.ok.inj read))⟩
      · cases read
    · cases read
  · cases read

theorem asObject_ok {value : Json} (read : asObject value = .ok entries) :
    value = .object entries := by
  cases value with
  | object stored => rw [Except.ok.inj read]
  | null => cases read
  | bool flag => cases read
  | number literal => cases read
  | string text => cases read
  | array elements => cases read

theorem map_ok_iff {Value Result : Type} {function : Value -> Result} {first : Except ContractFault Value}
    {result : Result} : function <$> first = .ok result ↔
      Exists fun value => first = .ok value ∧ function value = result := by
  cases first with
  | error fault =>
    constructor
    · nofun
    · rintro ⟨_, ⟨⟩, _⟩
  | ok value =>
    constructor
    · intro done
      exact ⟨value, rfl, Except.ok.inj done⟩
    · rintro ⟨_, ⟨⟩, rfl⟩
      rfl

/-- What the metadata names, where it is accepted. -/
theorem parseReleaseMetadata_ok {bytes : List UInt8} {productId requestedVersion : String}
    {metadata : ReleaseMetadata}
    (read : parseReleaseMetadata platform bytes productId requestedVersion architecture = .ok metadata) :
    Exists fun document => platform.parseJson bytes = some (.object document) ∧
      entry document "productId" = some (.string productId) ∧
      entry document "version" = some (.string requestedVersion) ∧
      entry document "architecture" = some (.string architecture.text) ∧
      entry document "filename" = some (.string metadata.filename) ∧
      (Exists fun text => entry document "sha256" = some (.string text) ∧ toLowerCase text = metadata.sha256) ∧
      Exists fun literal => entry document "bytes" = some (.number literal) ∧
        platform.safeInteger literal = some metadata.bytes := by
  unfold parseReleaseMetadata at read
  split at read
  · cases read
  · rename_i parsed found
    simp only [check_bind_ok_iff, refuse_ok_iff] at read
    rcases read with ⟨document, isObject, _, _, schema, _, namedProduct, product, namedVersion, version, namedPlatform,
      _, namedArchitecture, architectureRead, entryPoint, _, filename, filenameRead, contentType, _, digest,
      digestRead, size, sizeRead, _, checks, same⟩
    cases same
    simp only [Bool.or_eq_false_iff, decide_eq_false_iff_not, not_not] at checks
    have isProduct : namedProduct = productId := by tauto
    have isVersion : namedVersion = requestedVersion := by tauto
    have isArchitecture : namedArchitecture = architecture.text := by tauto
    subst isProduct isVersion isArchitecture
    rw [asObject_ok isObject] at found
    rcases map_ok_iff.mp digestRead with ⟨text, textRead, rfl⟩
    exact ⟨document, found, requiredString_ok product, requiredString_ok version,
      requiredString_ok architectureRead, requiredString_ok filenameRead,
      ⟨text, requiredString_ok textRead, rfl⟩, positiveInteger_ok sizeRead⟩

/-! ## Uniqueness -/

theorem onlyAsset_ok_iff {asset : GitHubAsset} :
    onlyAsset assets chosen = .ok asset ↔ assets.filter chosen = [asset] := by
  unfold onlyAsset
  split
  · rename_i only found
    rw [found, Except.ok.injEq, List.cons.injEq, eq_self, and_true]
  · rename_i _ several
    constructor
    · nofun
    · intro found
      exact absurd found (several asset)

theorem onlyAsset_error (failed : onlyAsset assets chosen = .error fault) : fault = .invalid := by
  unfold onlyAsset at failed
  split at failed
  · cases failed
  · exact (Except.error.inj failed).symm

theorem onlyAsset_perm (same : assets.Perm others) :
    onlyAsset assets chosen = onlyAsset others chosen := by
  have filtered := same.filter chosen
  cases found : onlyAsset assets chosen with
  | ok asset =>
    rw [onlyAsset_ok_iff.mp found] at filtered
    exact (onlyAsset_ok_iff.mpr (List.singleton_perm.mp filtered).symm).symm
  | error fault =>
    cases other : onlyAsset others chosen with
    | ok asset =>
      rw [onlyAsset_ok_iff.mp other] at filtered
      rw [onlyAsset_ok_iff.mpr (List.perm_singleton.mp filtered)] at found
      cases found
    | error otherFault => rw [onlyAsset_error found, onlyAsset_error other]

theorem onlyAsset_append (unrelated : forall asset, asset ∈ others -> chosen asset = false) :
    onlyAsset (assets ++ others) chosen = onlyAsset assets chosen := by
  have none : others.filter chosen = [] := by
    rw [List.filter_eq_nil_iff]
    intro asset member
    rw [unrelated asset member]
    exact Bool.false_ne_true
  unfold onlyAsset
  rw [List.filter_append, none, List.append_nil]

/-- What stands behind the proof of one architecture. -/
theorem architectureProof_from {proof : StandaloneReleaseContractProof}
    (proved : architectureProof platform input repository tag releaseTargetSha assets architecture = .ok proof) :
    Exists fun metadataAsset => Exists fun packageAsset => Exists fun bytes => Exists fun document =>
      ProvedFrom platform input assets proof metadataAsset packageAsset bytes document := by
  rcases check_bind_ok_iff.mp proved with ⟨⟨metadataAsset, metadata, packageAsset⟩, verified, same⟩
  cases same
  simp only [verifiedPackage, check_bind_ok_iff, refuse_ok_iff] at verified
  rcases verified with ⟨_, onlyMetadata, bytes, metadataRead, _, parsed, _, onlyPackage, _, _, _, agreed, _, _, same⟩
  cases same
  simp only [Bool.or_eq_false_iff, decide_eq_false_iff_not, not_not] at agreed
  rcases readBoundedMetadata_ok metadataRead with ⟨fetched, hashed, sized⟩
  rcases parseReleaseMetadata_ok parsed with
    ⟨document, read, namedProduct, namedVersion, namedArchitecture, namedFile, namedDigest, namedSize⟩
  rw [onlyAsset_ok_iff] at onlyMetadata onlyPackage
  have named : packageAsset.name = metadata.filename := by
    have member : packageAsset ∈ assets.filter (fun asset => asset.name = metadata.filename) := by
      rw [onlyPackage]
      exact List.mem_singleton_self packageAsset
    exact of_decide_eq_true (List.mem_filter.mp member).2
  rw [← named] at onlyPackage namedFile
  rw [← agreed.1] at namedSize
  rw [← agreed.2] at namedDigest
  exact ⟨metadataAsset, packageAsset, bytes, document,
    { onlyMetadata, onlyPackage, fetched, hashed, sized, read, namedProduct, namedVersion
      namedArchitecture, namedFile, namedDigest, namedSize, packageName := rfl, packageDigest := rfl
      packageSize := rfl, metadataName := rfl, metadataDigest := rfl, product := rfl, version := rfl }⟩

/-! ## The order of the assets and other assets -/

theorem asObject_error {value : Json} (failed : asObject value = .error fault) :
    fault = .invalid := by
  unfold asObject at failed
  split at failed
  · cases failed
  · exact (Except.error.inj failed).symm

theorem requiredString_error {key : String} (failed : requiredString entries key = .error fault) :
    fault = .invalid := by
  unfold requiredString at failed
  split at failed
  · split at failed
    · exact (Except.error.inj failed).symm
    · cases failed
  · exact (Except.error.inj failed).symm

theorem parseDigest_error {value : Option Json} (failed : parseDigest value = .error fault) :
    fault = .invalid := by
  simp only [parseDigest] at failed
  split at failed
  · split at failed
    · cases failed
    · exact (Except.error.inj failed).symm
  · exact (Except.error.inj failed).symm

theorem positiveInteger_error {value : Option Json}
    (failed : positiveInteger platform value = .error fault) : fault = .invalid := by
  unfold positiveInteger at failed
  split at failed
  · split at failed
    · split at failed
      · cases failed
      · exact (Except.error.inj failed).symm
    · exact (Except.error.inj failed).symm
  · exact (Except.error.inj failed).symm

theorem parseGitHubAsset_error {element : Json}
    (failed : parseGitHubAsset platform element = .error fault) : fault = .invalid := by
  simp only [parseGitHubAsset, check_bind_error_iff] at failed
  rcases failed with notObject | ⟨_, _, noName | ⟨_, _, noDigest | ⟨_, _, noUrl | ⟨_, _, noSize | ⟨_, _, ⟨⟩⟩⟩⟩⟩⟩
  · exact asObject_error notObject
  · exact requiredString_error noName
  · exact parseDigest_error noDigest
  · exact requiredString_error noUrl
  · exact positiveInteger_error noSize

/-- The assets of a release, where each of them is well formed. -/
theorem mapM_parseGitHubAsset (elements : List Json) :
    elements.mapM (parseGitHubAsset platform) =
      if forall element, element ∈ elements -> (parseGitHubAsset platform element).isOk = true then
        .ok (elements.filterMap fun element => (parseGitHubAsset platform element).toOption)
      else .error .invalid := by
  induction elements with
  | nil => rfl
  | cons first rest inductionHypothesis =>
    rw [List.mapM_cons, inductionHypothesis]
    cases read : parseGitHubAsset platform first with
    | error fault =>
      have failing : ¬ forall element, element ∈ first :: rest -> (parseGitHubAsset platform element).isOk = true := by
        intro every
        have firstOk := every first List.mem_cons_self
        rw [read] at firstOk
        cases firstOk
      rw [if_neg failing, parseGitHubAsset_error read]
      rfl
    | ok asset =>
      have split : (forall element, element ∈ first :: rest -> (parseGitHubAsset platform element).isOk = true) ↔
          forall element, element ∈ rest -> (parseGitHubAsset platform element).isOk = true := by
        rw [List.forall_mem_cons, read]
        exact and_iff_right rfl
      rw [check_ok_bind]
      by_cases every : forall element, element ∈ rest -> (parseGitHubAsset platform element).isOk = true
      · rw [if_pos every, if_pos (split.mpr every), check_ok_bind, List.filterMap_cons_some]
        · rfl
        · rw [read]
          rfl
      · rw [if_neg every, if_neg (fun all => every (split.mp all))]
        rfl

/-- An asset whose name is not looked for does not take part in the proof of an
architecture, and the order of the assets does not show. -/
theorem verifiedPackage_unrelated {added : List GitHubAsset} (same : others.Perm (assets ++ added))
    (noMetadata : forall asset, asset ∈ added ->
      (metadataSuffix architecture).toList.isSuffixOf asset.name.toList = false)
    (noPackage : forall asset, asset ∈ added -> forall metadataAsset, metadataAsset ∈ assets ->
      (metadataSuffix architecture).toList.isSuffixOf metadataAsset.name.toList = true ->
      forall bytes, platform.fetchAsset metadataAsset.browserDownloadUrl = .ok bytes ->
      forall metadata,
        parseReleaseMetadata platform bytes input.productId input.version architecture = .ok metadata ->
        asset.name ≠ metadata.filename) :
    verifiedPackage platform input repository tag others architecture =
      verifiedPackage platform input repository tag assets architecture := by
  have foundFirst : onlyAsset others (fun asset =>
      (metadataSuffix architecture).toList.isSuffixOf asset.name.toList) =
      onlyAsset assets fun asset => (metadataSuffix architecture).toList.isSuffixOf asset.name.toList := by
    rw [onlyAsset_perm same, onlyAsset_append noMetadata]
  unfold verifiedPackage
  simp only [metadataSuffix] at foundFirst
  simp only [foundFirst]
  cases found : onlyAsset assets fun asset =>
      ("-Windows-" ++ architecture.text ++ ".update.json").toList.isSuffixOf asset.name.toList with
  | error fault => rfl
  | ok metadataAsset =>
    simp only [check_ok_bind]
    cases metadataRead : readBoundedMetadata platform metadataAsset repository tag with
    | error fault => rfl
    | ok bytes =>
      simp only [check_ok_bind]
      cases parsed : parseReleaseMetadata platform bytes input.productId input.version architecture with
      | error fault => rfl
      | ok metadata =>
        have isMetadata : metadataAsset ∈ assets.filter (fun asset =>
            ("-Windows-" ++ architecture.text ++ ".update.json").toList.isSuffixOf asset.name.toList) := by
          rw [onlyAsset_ok_iff.mp found]
          exact List.mem_singleton_self metadataAsset
        rcases List.mem_filter.mp isMetadata with ⟨member, ending⟩
        have otherName : forall asset, asset ∈ added -> decide (asset.name = metadata.filename) = false := by
          intro asset inAdded
          exact decide_eq_false (noPackage asset inAdded metadataAsset member ending bytes
            (readBoundedMetadata_ok metadataRead).1 metadata parsed)
        simp only [check_ok_bind, onlyAsset_perm same, onlyAsset_append otherName]

/-- Two releases are verified alike when the assets of the one are those of the
other, in any order, and others with unrelated names. -/
theorem architectureProofs_unrelated {elements added changed : List Json}
    (same : changed.Perm (elements ++ added))
    (unrelated : forall element, element ∈ added -> Exists fun asset =>
      parseGitHubAsset platform element = .ok asset ∧ Unrelated platform input elements asset.name) :
    (changed.mapM (parseGitHubAsset platform) >>= fun assets =>
      (releaseArchitectures input.architecture).mapM
        (architectureProof platform input repository tag releaseTargetSha assets)) =
    (elements.mapM (parseGitHubAsset platform) >>= fun assets =>
      (releaseArchitectures input.architecture).mapM
        (architectureProof platform input repository tag releaseTargetSha assets)) := by
  have wellFormed : forall element, element ∈ added -> (parseGitHubAsset platform element).isOk = true := by
    intro element member
    rcases unrelated element member with ⟨asset, read, _⟩
    rw [read]
    rfl
  have alike : (forall element, element ∈ changed -> (parseGitHubAsset platform element).isOk = true) ↔
      forall element, element ∈ elements -> (parseGitHubAsset platform element).isOk = true := by
    constructor
    · intro every element member
      exact every element (same.mem_iff.mpr (List.mem_append_left added member))
    · intro every element member
      rcases List.mem_append.mp (same.mem_iff.mp member) with original | other
      · exact every element original
      · exact wellFormed element other
  rw [mapM_parseGitHubAsset, mapM_parseGitHubAsset]
  by_cases every : forall element, element ∈ elements -> (parseGitHubAsset platform element).isOk = true
  · rw [if_pos every, if_pos (alike.mpr every), check_ok_bind, check_ok_bind]
    have perm := same.filterMap fun element => (parseGitHubAsset platform element).toOption
    rw [List.filterMap_append] at perm
    apply mapM_congr_mem
    intro architecture member
    have ofAdded : forall asset, asset ∈ added.filterMap (fun element =>
        (parseGitHubAsset platform element).toOption) -> Unrelated platform input elements asset.name := by
      intro asset inAdded
      rcases List.mem_filterMap.mp inAdded with ⟨element, fromAdded, read⟩
      rcases unrelated element fromAdded with ⟨other, readOther, notLooked⟩
      rw [readOther] at read
      cases read
      exact notLooked
    have package : verifiedPackage platform input repository tag
        (changed.filterMap fun element => (parseGitHubAsset platform element).toOption) architecture =
        verifiedPackage platform input repository tag
          (elements.filterMap fun element => (parseGitHubAsset platform element).toOption) architecture := by
      apply verifiedPackage_unrelated perm
      · intro asset inAdded
        exact (ofAdded asset inAdded architecture member).1
      · intro asset inAdded metadataAsset inAssets ending bytes fetched metadata parsed
        rcases List.mem_filterMap.mp inAssets with ⟨element, fromElements, read⟩
        exact (ofAdded asset inAdded architecture member).2 element fromElements metadataAsset
          (ok_of_toOption read) ending bytes fetched metadata parsed
    simp only [architectureProof, package]
  · rw [if_neg every, if_neg (fun all => every (alike.mp all))]

/-! ## The proofs of a release -/

theorem requiredString_congr {changed : List (String × Json)} {key : String}
    (same : entry changed key = entry entries key) :
    requiredString changed key = requiredString entries key := by
  unfold requiredString
  rw [same]

/-- A release that is verified has exactly one proof for each architecture, each
of them founded on the assets and the document it names, and the outcome does
not depend on the order of the assets or on others with unrelated names. -/
theorem standaloneRelease_proofs (platform : GitHubPlatform) (input : ContractInput) :
    (forall proofs, verifyGitHubStandaloneReleaseContract platform input = .ok proofs ->
      proofs.map StandaloneReleaseContractProof.architecture = releaseArchitectures input.architecture ∧
      Exists fun repository => githubReleaseRepository input.productId = some repository ∧
        Exists fun release =>
          platform.fetchRelease repository ("v" ++ input.version) = .ok (.object release) ∧
        Exists fun elements => entry release "assets" = some (.array elements) ∧
        Exists fun assets => elements.mapM (parseGitHubAsset platform) = .ok assets ∧
          forall proof, proof ∈ proofs -> Exists fun metadataAsset => Exists fun packageAsset =>
            Exists fun bytes => Exists fun document =>
              ProvedFrom platform input assets proof metadataAsset packageAsset bytes document) ∧
    forall (release changed : List (String × Json)) (elements added changedElements : List Json),
      entry release "assets" = some (.array elements) ->
      entry changed "assets" = some (.array changedElements) ->
      (forall key, key ≠ "assets" -> entry changed key = entry release key) ->
      changedElements.Perm (elements ++ added) ->
      (forall element, element ∈ added -> Exists fun asset =>
        parseGitHubAsset platform element = .ok asset ∧ Unrelated platform input elements asset.name) ->
      verifyGitHubStandaloneReleaseContract (platform.serving changed) input =
        verifyGitHubStandaloneReleaseContract (platform.serving release) input := by
  constructor
  · intro proofs verified
    refine ⟨(verifyGitHubStandaloneReleaseContract_ok platform verified).1, ?_⟩
    unfold verifyGitHubStandaloneReleaseContract at verified
    split at verified
    · cases verified
    · rename_i repository isRepository
      refine ⟨repository, isRepository, ?_⟩
      simp only [check_bind_ok_iff] at verified
      rcases verified with ⟨release, ⟨answer, fetched, isObject⟩, _, _, _, _, releaseTargetSha, _, _, _, verified⟩
      rw [asObject_ok isObject] at fetched
      refine ⟨release, fetched, ?_⟩
      split at verified
      · rename_i elements found
        rcases check_bind_ok_iff.mp verified with ⟨assets, parsed, mapped⟩
        refine ⟨elements, found, assets, parsed, ?_⟩
        have named := map_of_mapM StandaloneReleaseContractProof.architecture
          (fun architecture proof done => (architectureProof_ok platform done).1) mapped
        intro proof member
        rcases named.2 proof member with ⟨architecture, done⟩
        exact architectureProof_from done
      · cases verified
  · intro release changed elements added changedElements found foundChanged sameRest same unrelated
    unfold verifyGitHubStandaloneReleaseContract
    split
    · rfl
    · rename_i repository _
      have sameTag := requiredString_congr (sameRest "tag_name" (by decide))
      have sameTarget := requiredString_congr (sameRest "target_commitish" (by decide))
      have sameDraft := sameRest "draft" (by decide)
      have samePrerelease := sameRest "prerelease" (by decide)
      simp only [GitHubPlatform.serving, asObject, check_ok_bind, sameTag, sameTarget, sameDraft, samePrerelease,
        found, foundChanged]
      apply bind_congr
      intro namedTag
      apply bind_congr
      intro _
      apply bind_congr
      intro releaseTargetSha
      apply bind_congr
      intro _
      exact architectureProofs_unrelated same unrelated

/-! ## A release whose assets are listed in another order -/

deriving instance DecidableEq for GitHubAsset

/-- An asset that the verification does not look for. -/
def notesAsset : Json := assetJson "notes.txt" "340" metadataSha256

def metadataAssetJson : Json := assetJson "AirStack-1.0.0-Windows-x64.update.json" "340" metadataSha256

def packageAssetJson : Json := assetJson packageName "1024" packageSha256

def listingAssets (assets : List Json) : List (String × Json) :=
  [("tag_name", .string "v1.0.0"), ("draft", .bool false), ("prerelease", .bool false),
    ("target_commitish", .string "0123456789abcdef0123456789abcdef01234567"), ("assets", .array assets)]

def x64Input : ContractInput := ⟨"airstack", "1.0.0", .x64⟩

theorem notes_unrelated : Unrelated plainGitHub x64Input [metadataAssetJson, packageAssetJson] "notes.txt" := by
  intro architecture member
  cases List.mem_singleton.mp member
  refine ⟨by decide, ?_⟩
  intro element _ asset _ _ bytes fetched metadata parsed same
  have isMetadata : bytes = metadataBytes := by
    simp only [plainGitHub] at fetched
    split at fetched
    · exact (Except.ok.inj fetched).symm
    · cases fetched
  rcases parseReleaseMetadata_ok parsed with ⟨document, read, _, _, _, namedFile, _⟩
  rw [isMetadata] at read
  have isDocument : metadataJson = .object document := by
    simpa only [plainGitHub, if_true, Option.some.injEq] using read
  cases isDocument
  rw [← same] at namedFile
  exact absurd namedFile (by decide +kernel)

theorem listingAssets_entry (assets others : List Json) {key : String} (other : key ≠ "assets") :
    entry (listingAssets others) key = entry (listingAssets assets) key := by
  simp only [entry, listingAssets, List.find?_cons, decide_eq_false other.symm]

theorem standaloneRelease_proofs_x64 :
    [x64Proof].map StandaloneReleaseContractProof.architecture = releaseArchitectures .x64 ∧
      verifyGitHubStandaloneReleaseContract
          (plainGitHub.serving (listingAssets [packageAssetJson, notesAsset, metadataAssetJson])) x64Input =
        verifyGitHubStandaloneReleaseContract
          (plainGitHub.serving (listingAssets [metadataAssetJson, packageAssetJson])) x64Input := by
  constructor
  · exact ((standaloneRelease_proofs plainGitHub x64Input).1 [x64Proof] plainGitHub_verified).1
  · apply (standaloneRelease_proofs plainGitHub x64Input).2 _ _ [metadataAssetJson, packageAssetJson] [notesAsset]
      [packageAssetJson, notesAsset, metadataAssetJson] rfl rfl (fun key other => listingAssets_entry _ _ other)
    · have rotated : ([packageAssetJson, notesAsset] ++ [metadataAssetJson]).Perm
          ([metadataAssetJson] ++ [packageAssetJson, notesAsset]) := List.perm_append_comm
      exact rotated
    · intro element member
      cases List.mem_singleton.mp member
      exact ⟨⟨"notes.txt", 340, metadataSha256, assetUrl "notes.txt"⟩, ok_of_toOption (by decide +kernel), notes_unrelated⟩

end Catalog
end DigitalSolutions
