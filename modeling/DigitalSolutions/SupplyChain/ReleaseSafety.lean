import DigitalSolutions.SupplyChain.SecurityEvaluation

namespace DigitalSolutions
namespace SupplyChain

open Foundation Persistence

/-!
# When the evaluation depends on the order of the evidence

Among revocations of the same time the first of the list counts, among scans
of the same time the last one.  Revocations are moreover looked for among the
evidence of all hashes, so evidence of another hash can resolve one.
-/

variable (parseDate : String -> Option Int) (engine : SortMethod SupplyChainEvidenceEvent)
variable {latest : String -> Option SupplyChainEvidenceEvent}

/-! ## What is wanted -/

def Releasable (state : SupplyChainSecurityState) : Prop :=
  Exists fun evaluation => evaluateSupplyChainSecurity parseDate engine state = some evaluation ∧
    evaluation.releasable = true

def OrderFree (state : SupplyChainSecurityState) : Prop :=
  forall evidence, evidence.Perm state.evidence ->
    evaluateSupplyChainSecurity parseDate engine { state with evidence } =
      evaluateSupplyChainSecurity parseDate engine state

def HarmfulFor (state : SupplyChainSecurityState) (event : SupplyChainEvidenceEvent) : Prop :=
  event.artifactHash = state.currentHash ∧
    (event.result = "INFECTED" ∨ event.kind = "QUARANTINE" ∨ event.kind = "COMPROMISE")

/-- No harmful event and no evidence of another hash makes a release releasable,
wherever it is added. -/
def FailSafe (state : SupplyChainSecurityState) : Prop :=
  forall before after event, state.evidence = before ++ after ->
    HarmfulFor state event ∨ event.artifactHash ≠ state.currentHash ->
    Releasable parseDate engine { state with evidence := before ++ event :: after } ->
    Releasable parseDate engine state

namespace SupplyChainSecurityState

variable (state : SupplyChainSecurityState)

def revocations : List SupplyChainEvidenceEvent :=
  state.evidence.filter fun item => item.kind ∈ revocationKinds

/-- The scans of an artifact, for the current hash. -/
def scansOf (artifactId : String) : List SupplyChainEvidenceEvent :=
  (state.current.filter fun event => event.kind = "MALWARE_SCAN").filter fun event =>
    artifactIdFor event = some artifactId

/-- The latest scans of an artifact. -/
def LatestScan (artifactId : String) (scan : SupplyChainEvidenceEvent) : Prop :=
  Unsurpassed (verificationTime parseDate) (state.scansOf artifactId) scan

def LatestRevocation (event : SupplyChainEvidenceEvent) : Prop :=
  Unsurpassed (verificationTime parseDate) state.revocations event

/-- Every artifact has a latest scan, and none of its latest scans is not clean. -/
def ScannedClean : Prop :=
  forall artifact, artifact ∈ state.artifacts ->
    (Exists fun scan => state.LatestScan parseDate artifact.id scan) ∧
      forall scan, state.LatestScan parseDate artifact.id scan -> scan.result = "CLEAN"

end SupplyChainSecurityState

/-- What a releasable release has to show. -/
structure Shown (state : SupplyChainSecurityState) : Prop where
  signature : Exists fun item => item ∈ state.current ∧ item.kind = "SIGNATURE" ∧ item.result = "VERIFIED"
  checksum : Exists fun item => item ∈ state.current ∧ item.kind = "CHECKSUM" ∧ item.result = "VERIFIED"
  unrevoked : forall event, state.LatestRevocation parseDate event -> event.result = "RESOLVED"
  scanned : state.ScannedClean parseDate

/-! ## The condition -/

/-- An artifact id of a current scan cannot be converted to a string. -/
def Unreadable (state : SupplyChainSecurityState) : Prop :=
  Exists fun event => event ∈ state.current ∧ event.kind = "MALWARE_SCAN" ∧ artifactIdFor event = none

/-- The revocations that may come first are all resolved or all unresolved. -/
def RevocationsAgree (state : SupplyChainSecurityState) : Prop :=
  forall first second, CanLead (verificationTime parseDate) state.revocations first ->
    CanLead (verificationTime parseDate) state.revocations second ->
    (first.result = "RESOLVED" ↔ second.result = "RESOLVED")

/-- The latest scans decide, whichever of them is taken. -/
def ScansAgree (state : SupplyChainSecurityState) : Prop :=
  state.malwareStatus = some "FAILED" ∨ state.artifacts = [] ∨
    (Exists fun artifact => artifact ∈ state.artifacts ∧
      forall scan, state.LatestScan parseDate artifact.id scan -> scan.result ≠ "CLEAN") ∨
    forall artifact, artifact ∈ state.artifacts ->
      forall scan, state.LatestScan parseDate artifact.id scan -> scan.result = "CLEAN"

/-- Nothing but an unresolved latest revocation stands against the release. -/
structure HeldByRevocation (state : SupplyChainSecurityState) : Prop where
  signature : Exists fun item => item ∈ state.current ∧ item.kind = "SIGNATURE" ∧ item.result = "VERIFIED"
  checksum : Exists fun item => item ∈ state.current ∧ item.kind = "CHECKSUM" ∧ item.result = "VERIFIED"
  scanned : state.ScannedClean parseDate
  artifacts : state.artifacts ≠ []
  harmless : forall item, item ∈ state.current -> item.result ∉ ["INFECTED", "COMPROMISED"] ∧
    item.kind ∉ ["QUARANTINE", "COMPROMISE"] ∧ metadataFlag item.metadata "quarantined" = false ∧
    metadataFlag item.metadata "compromised" = false
  statuses : state.malwareStatus ∉ [some "FAILED", some "INFECTED"] ∧ state.certificateStatus ≠ some "REVOKED"
  dated : forall item, item ∈ state.evidence -> isVerifiedAt item = true
  unresolved : Exists fun event => state.LatestRevocation parseDate event ∧ event.result ≠ "RESOLVED"

/-! ## What the evaluation computes -/

variable {parseDate} {engine}

theorem latestScans_spec (scans : List SupplyChainEvidenceEvent) :
    match scans.foldlM (recordScan parseDate) fun _ => none with
    | some latest => (forall scan, scan ∈ scans -> artifactIdFor scan ≠ none) ∧
      forall artifactId, latest artifactId = latestOf (verificationTime parseDate)
        (scans.filter fun scan => artifactIdFor scan = some artifactId)
    | none => Exists fun scan => scan ∈ scans ∧ artifactIdFor scan = none := by
  induction scans using List.reverseRecOn with
  | nil => exact ⟨by simp, fun _ => rfl⟩
  | append_singleton scans last ih =>
    rw [List.foldlM_append]
    cases found : scans.foldlM (recordScan parseDate) (fun _ => none) with
    | none =>
      rw [found] at ih
      obtain ⟨scan, member, unnamed⟩ := ih
      exact ⟨scan, by simp [member], unnamed⟩
    | some latest =>
      rw [found] at ih
      obtain ⟨named, each⟩ := ih
      cases lastId : artifactIdFor last with
      | none =>
        simp only [Option.bind_eq_bind, Option.bind_some, List.foldlM_cons, recordScan, lastId,
          Option.map_none, Option.bind_none]
        exact ⟨last, by simp, lastId⟩
      | some artifactId =>
        simp only [Option.bind_eq_bind, Option.bind_some, List.foldlM_cons, List.foldlM_nil, recordScan,
          lastId, Option.map_some, Option.pure_def]
        refine ⟨?_, ?_⟩
        · intro scan member
          obtain member | same := List.mem_append.mp member
          · exact named scan member
          · rw [List.mem_singleton.mp same, lastId]
            simp
        · intro other
          rw [List.filter_append]
          by_cases same : other = artifactId
          · rw [same, Function.update_self, each, List.filter_cons_of_pos (by simp [lastId]), List.filter_nil,
              latestOf_append]
          · rw [Function.update_of_ne same, each, List.filter_cons_of_neg (by simpa [lastId] using Ne.symm same),
              List.filter_nil, List.append_nil]

theorem latestScanByArtifact_eq_none_iff {state : SupplyChainSecurityState} :
    state.latestScanByArtifact parseDate = none ↔ Unreadable state := by
  have spec := @latestScans_spec parseDate (state.current.filter fun event => event.kind = "MALWARE_SCAN")
  unfold SupplyChainSecurityState.latestScanByArtifact Unreadable
  cases found : (state.current.filter fun event => event.kind = "MALWARE_SCAN").foldlM (recordScan parseDate)
      (fun _ => none) with
  | none =>
    rw [found] at spec
    simpa [and_assoc] using spec
  | some latest =>
    rw [found] at spec
    simp only [reduceCtorEq, false_iff]
    rintro ⟨event, member, isScan, unnamed⟩
    exact spec.1 event (List.mem_filter.mpr ⟨member, by simpa using isScan⟩) unnamed

theorem latestScanByArtifact_eq {state : SupplyChainSecurityState}
    (found : state.latestScanByArtifact parseDate = some latest) (artifactId : String) :
    latest artifactId = latestOf (verificationTime parseDate) (state.scansOf artifactId) := by
  have spec := @latestScans_spec parseDate (state.current.filter fun event => event.kind = "MALWARE_SCAN")
  unfold SupplyChainSecurityState.latestScanByArtifact at found
  rw [found] at spec
  exact spec.2 artifactId

theorem releasable_assemble_iff {state : SupplyChainSecurityState} {revoked scanCurrent : Bool} :
    (state.assemble revoked scanCurrent).releasable = true ↔
      state.integrityVerified = true ∧ scanCurrent = true ∧ state.quarantined = false ∧ revoked = false ∧
        state.compromised = false ∧ state.auditTrailPresent = true ∧ state.failedMalwareStatus = false ∧
        state.certificateStatus ≠ some "REVOKED" := by
  simp [SupplyChainSecurityState.assemble, List.filter_eq_nil_iff]

theorem evaluate_eq_none_iff {state : SupplyChainSecurityState} :
    evaluateSupplyChainSecurity parseDate engine state = none ↔ Unreadable state := by
  rw [evaluateSupplyChainSecurity, Option.map_eq_none_iff, latestScanByArtifact_eq_none_iff]

/-- A scan of every artifact is the one the loop finds. -/
theorem scanCurrent_iff {state : SupplyChainSecurityState}
    (found : state.latestScanByArtifact parseDate = some latest) :
    state.scanCurrent latest = true ↔ state.malwareStatus ≠ some "FAILED" ∧ state.artifacts ≠ [] ∧
      forall artifact, artifact ∈ state.artifacts -> Exists fun scan =>
        latestOf (verificationTime parseDate) (state.scansOf artifact.id) = some scan ∧ scan.result = "CLEAN" := by
  simp [SupplyChainSecurityState.scanCurrent, SupplyChainSecurityState.failedMalwareStatus,
    latestScanByArtifact_eq found, and_assoc]

/-- The scans are found clean exactly where all of the latest ones are. -/
theorem scanCurrent_iff_scannedClean {state : SupplyChainSecurityState}
    (found : state.latestScanByArtifact parseDate = some latest) (agree : ScansAgree parseDate state) :
    state.scanCurrent latest = true ↔ state.malwareStatus ≠ some "FAILED" ∧ state.artifacts ≠ [] ∧
      state.ScannedClean parseDate := by
  rw [scanCurrent_iff found]
  constructor
  · rintro ⟨working, present, clean⟩
    refine ⟨working, present, ?_⟩
    intro artifact member
    obtain ⟨scan, isLatest, isClean⟩ := clean artifact member
    refine ⟨⟨scan, latestOf_unsurpassed isLatest⟩, ?_⟩
    obtain failed | none | ⟨other, among, unclean⟩ | allClean := agree
    · exact absurd failed working
    · exact absurd none present
    · obtain ⟨otherScan, otherLatest, otherClean⟩ := clean other among
      exact absurd otherClean (unclean otherScan (latestOf_unsurpassed otherLatest))
    · exact allClean artifact member
  · rintro ⟨working, present, clean⟩
    refine ⟨working, present, ?_⟩
    intro artifact member
    obtain ⟨⟨scan, isLatest⟩, allClean⟩ := clean artifact member
    obtain ⟨item, isFound, unsurpassed⟩ :=
      @exists_latestOf _ (verificationTime parseDate) _ (List.ne_nil_of_mem isLatest.1)
    exact ⟨item, isFound, allClean item unsurpassed⟩

theorem revoked_eq_false_iff {state : SupplyChainSecurityState} (agree : RevocationsAgree parseDate state) :
    state.revoked parseDate engine = false ↔
      forall event, CanLead (verificationTime parseDate) state.revocations event -> event.result = "RESOLVED" := by
  cases leads : latestResult parseDate engine state.evidence revocationKinds with
  | none =>
    have empty : state.revocations = [] := engine.eq_nil_of_head leads
    simp [SupplyChainSecurityState.revoked, leads, CanLead, empty]
  | some event =>
    have canLead : CanLead (verificationTime parseDate) state.revocations event := engine.canLead_of_head leads
    simp only [SupplyChainSecurityState.revoked, leads, Option.any_some, decide_eq_false_iff_not, not_not]
    constructor
    · intro resolved other otherLeads
      exact (agree event other canLead otherLeads).mp resolved
    · intro resolved
      exact resolved event canLead

/-! ## The order of the evidence -/

section Order

variable {state : SupplyChainSecurityState} {evidence : List SupplyChainEvidenceEvent}

section Permuted

variable (same : evidence.Perm state.evidence)

include same

theorem current_perm :
    ({ state with evidence } : SupplyChainSecurityState).current.Perm state.current :=
  same.filter _

theorem revocations_perm :
    ({ state with evidence } : SupplyChainSecurityState).revocations.Perm state.revocations :=
  same.filter _

theorem scansOf_perm (artifactId : String) :
    (({ state with evidence } : SupplyChainSecurityState).scansOf artifactId).Perm (state.scansOf artifactId) :=
  ((current_perm same).filter _).filter _

theorem latestScan_perm {artifactId : String}
    {scan : SupplyChainEvidenceEvent} :
    ({ state with evidence } : SupplyChainSecurityState).LatestScan parseDate artifactId scan ↔
      state.LatestScan parseDate artifactId scan :=
  ⟨fun latest => latest.perm (scansOf_perm same artifactId),
    fun latest => latest.perm (scansOf_perm same artifactId).symm⟩

/-- All but the latest revocation and the latest scans is read without regard
to the order. -/
theorem assemble_perm (revoked scanCurrent : Bool) :
    ({ state with evidence } : SupplyChainSecurityState).assemble revoked scanCurrent =
      state.assemble revoked scanCurrent := by
  simp only [SupplyChainSecurityState.assemble, SupplyChainSecurityState.integrityVerified,
    SupplyChainSecurityState.quarantined, SupplyChainSecurityState.compromised,
    SupplyChainSecurityState.auditTrailPresent, SupplyChainSecurityState.failedMalwareStatus,
    (current_perm same).any_eq, same.any_eq, same.all_eq]

theorem unreadable_perm :
    Unreadable { state with evidence } ↔ Unreadable state := by
  unfold Unreadable
  constructor
  · rintro ⟨event, member, rest⟩
    exact ⟨event, (current_perm same).mem_iff.mp member, rest⟩
  · rintro ⟨event, member, rest⟩
    exact ⟨event, (current_perm same).mem_iff.mpr member, rest⟩

end Permuted

theorem RevocationsAgree.perm (agree : RevocationsAgree parseDate state) (same : evidence.Perm state.evidence) :
    RevocationsAgree parseDate { state with evidence } := by
  intro first second firstLeads secondLeads
  exact agree first second (firstLeads.perm (revocations_perm same)) (secondLeads.perm (revocations_perm same))

theorem ScansAgree.perm (agree : ScansAgree parseDate state) (same : evidence.Perm state.evidence) :
    ScansAgree parseDate { state with evidence } := by
  unfold ScansAgree
  simp only [latestScan_perm same]
  exact agree

theorem scannedClean_perm (same : evidence.Perm state.evidence) :
    ({ state with evidence } : SupplyChainSecurityState).ScannedClean parseDate ↔ state.ScannedClean parseDate := by
  simp only [SupplyChainSecurityState.ScannedClean, latestScan_perm same]

/-- Where those that may be taken agree, the order does not matter. -/
theorem orderFree_of_agree (revocations : RevocationsAgree parseDate state) (scans : ScansAgree parseDate state) :
    OrderFree parseDate engine state := by
  intro evidence same
  by_cases unreadable : Unreadable state
  · rw [evaluate_eq_none_iff.mpr unreadable, evaluate_eq_none_iff.mpr ((unreadable_perm same).mpr unreadable)]
  · cases found : state.latestScanByArtifact parseDate with
    | none => exact absurd (latestScanByArtifact_eq_none_iff.mp found) unreadable
    | some latest =>
      cases otherFound : ({ state with evidence } : SupplyChainSecurityState).latestScanByArtifact parseDate with
      | none =>
        exact absurd ((unreadable_perm same).mp (latestScanByArtifact_eq_none_iff.mp otherFound)) unreadable
      | some otherLatest =>
        have revoked : ({ state with evidence } : SupplyChainSecurityState).revoked parseDate engine =
            state.revoked parseDate engine := by
          rw [← Bool.not_inj_iff, Bool.eq_iff_iff, Bool.not_eq_true', Bool.not_eq_true',
            revoked_eq_false_iff revocations, revoked_eq_false_iff (revocations.perm same)]
          constructor
          · intro resolved event leads
            exact resolved event (leads.perm (revocations_perm same).symm)
          · intro resolved event leads
            exact resolved event (leads.perm (revocations_perm same))
        have scanned : ({ state with evidence } : SupplyChainSecurityState).scanCurrent otherLatest =
            state.scanCurrent latest := by
          rw [Bool.eq_iff_iff, scanCurrent_iff_scannedClean found scans,
            scanCurrent_iff_scannedClean otherFound (scans.perm same), scannedClean_perm same]
        simp only [evaluateSupplyChainSecurity, found, otherFound, Option.map_some, revoked, scanned,
          assemble_perm same]

end Order

/-! ## What order-freedom takes -/

section Reordering

variable {state : SupplyChainSecurityState}

/-- The artifact that an event is a current scan of. -/
def scannedArtifact (state : SupplyChainSecurityState) (event : SupplyChainEvidenceEvent) : Option String :=
  if event.artifactHash = state.currentHash ∧ event.kind = "MALWARE_SCAN" then artifactIdFor event else none

theorem scansOf_eq (state : SupplyChainSecurityState) (artifactId : String) :
    state.scansOf artifactId = state.evidence.filter fun event => scannedArtifact state event = some artifactId := by
  simp only [SupplyChainSecurityState.scansOf, SupplyChainSecurityState.current, List.filter_filter]
  apply List.filter_congr
  intro event _
  by_cases isScan : event.artifactHash = state.currentHash ∧ event.kind = "MALWARE_SCAN"
  · simp [scannedArtifact, isScan]
  · simp only [scannedArtifact, if_neg isScan]
    grind

/-- A revocation that can lead does so in some order of the evidence. -/
theorem exists_order_revoked {event : SupplyChainEvidenceEvent}
    (canLead : CanLead (verificationTime parseDate) state.revocations event) :
    Exists fun evidence : List SupplyChainEvidenceEvent => evidence.Perm state.evidence ∧
      ({ state with evidence } : SupplyChainSecurityState).revoked parseDate (SortMethod.insertion _) =
        decide (event.result ≠ "RESOLVED") := by
  let key (item : SupplyChainEvidenceEvent) : Option Unit := if item.kind ∈ revocationKinds then some () else none
  have ofKey (evidence : List SupplyChainEvidenceEvent) :
      (evidence.filter fun item => key item = some ()) = evidence.filter fun item => item.kind ∈ revocationKinds := by
    apply List.filter_congr
    intro item _
    simp [key]
  obtain ⟨evidence, same, leads, -⟩ := exists_order_of_keys key
    (fun _ order => leader (verificationTime parseDate) order = some event) state.evidence [()] (by
      intro one _
      rw [ofKey]
      exact exists_order_leader canLead)
  refine ⟨evidence, same, ?_⟩
  have found := leads () (by simp)
  rw [ofKey] at found
  have isLatest : latestResult parseDate (SortMethod.insertion _) evidence revocationKinds = some event := found
  simp [SupplyChainSecurityState.revoked, isLatest]

/-- Latest scans of some artifacts are the ones found in some order of the evidence. -/
theorem exists_order_scanned {chosen : SupplyChainEvidenceEvent -> Prop} {artifactIds : List String}
    (latest : forall artifactId, artifactId ∈ artifactIds ->
      Exists fun scan => state.LatestScan parseDate artifactId scan ∧ chosen scan) :
    Exists fun evidence : List SupplyChainEvidenceEvent => evidence.Perm state.evidence ∧
      forall artifactId, artifactId ∈ artifactIds -> Exists fun scan =>
        latestOf (verificationTime parseDate)
          (({ state with evidence } : SupplyChainSecurityState).scansOf artifactId) = some scan ∧ chosen scan := by
  obtain ⟨evidence, same, found, -⟩ := exists_order_of_keys (scannedArtifact state)
    (fun _ order => Exists fun scan => latestOf (verificationTime parseDate) order = some scan ∧ chosen scan)
    state.evidence artifactIds (by
      intro artifactId member
      obtain ⟨scan, isLatest, isChosen⟩ := latest artifactId member
      rw [← scansOf_eq]
      obtain ⟨order, ordered, isFound⟩ := exists_order_latestOf isLatest
      exact ⟨order, ordered, scan, isFound, isChosen⟩)
  refine ⟨evidence, same, ?_⟩
  intro artifactId member
  rw [scansOf_eq]
  exact found artifactId member

theorem revoked_of_orderFree (readable : ¬ Unreadable state) (free : OrderFree parseDate engine state)
    {evidence : List SupplyChainEvidenceEvent} (same : evidence.Perm state.evidence) :
    ({ state with evidence } : SupplyChainSecurityState).revoked parseDate engine =
      state.revoked parseDate engine := by
  have equal := free evidence same
  cases found : evaluateSupplyChainSecurity parseDate engine state with
  | none => exact absurd (evaluate_eq_none_iff.mp found) readable
  | some evaluation =>
    rw [found] at equal
    obtain ⟨latest, -, rfl⟩ := Option.map_eq_some_iff.mp found
    obtain ⟨otherLatest, -, assembled⟩ := Option.map_eq_some_iff.mp equal
    exact congrArg SupplyChainSecurityEvaluation.revoked assembled

theorem scanCurrent_of_orderFree (found : state.latestScanByArtifact parseDate = some latest)
    (free : OrderFree parseDate engine state) {evidence : List SupplyChainEvidenceEvent}
    (same : evidence.Perm state.evidence) :
    Exists fun otherLatest =>
      ({ state with evidence } : SupplyChainSecurityState).latestScanByArtifact parseDate = some otherLatest ∧
        ({ state with evidence } : SupplyChainSecurityState).scanCurrent otherLatest = state.scanCurrent latest := by
  have equal := free evidence same
  simp only [evaluateSupplyChainSecurity, found, Option.map_some] at equal
  obtain ⟨otherLatest, otherFound, assembled⟩ := Option.map_eq_some_iff.mp equal
  exact ⟨otherLatest, otherFound, congrArg SupplyChainSecurityEvaluation.scanCurrent assembled⟩

theorem revocationsAgree_of_orderFree (readable : ¬ Unreadable state)
    (free : OrderFree parseDate (SortMethod.insertion _) state) : RevocationsAgree parseDate state := by
  intro first second firstLeads secondLeads
  obtain ⟨firstOrder, firstSame, firstRevoked⟩ := exists_order_revoked firstLeads
  obtain ⟨secondOrder, secondSame, secondRevoked⟩ := exists_order_revoked secondLeads
  rw [revoked_of_orderFree readable free firstSame] at firstRevoked
  rw [revoked_of_orderFree readable free secondSame, firstRevoked] at secondRevoked
  simpa [not_iff_not] using secondRevoked

theorem scansAgree_of_orderFree (readable : ¬ Unreadable state) (free : OrderFree parseDate engine state) :
    ScansAgree parseDate state := by
  by_contra disagree
  simp only [ScansAgree, not_or, not_exists, not_and, not_forall, ne_eq, not_not] at disagree
  obtain ⟨working, present, clean, artifact, member, scan, isLatest, unclean⟩ := disagree
  cases found : state.latestScanByArtifact parseDate with
  | none => exact readable (latestScanByArtifact_eq_none_iff.mp found)
  | some latest =>
    -- One order finds a clean scan of every artifact, another one does not.
    obtain ⟨goodOrder, goodSame, goodFound⟩ := @exists_order_scanned parseDate state
      (fun scan => scan.result = "CLEAN") (state.artifacts.map (·.id)) (by
        intro artifactId among
        obtain ⟨artifact, member, rfl⟩ := List.mem_map.mp among
        obtain ⟨scan, isLatest, isClean⟩ := clean artifact member
        exact ⟨scan, isLatest, isClean⟩)
    obtain ⟨badOrder, badSame, badFound⟩ := @exists_order_scanned parseDate state
      (fun scan => scan.result ≠ "CLEAN") [artifact.id] (by
        intro artifactId among
        rw [List.mem_singleton.mp among]
        exact ⟨scan, isLatest, unclean⟩)
    obtain ⟨goodLatest, goodIs, goodEqual⟩ := scanCurrent_of_orderFree found free goodSame
    obtain ⟨badLatest, badIs, badEqual⟩ := scanCurrent_of_orderFree found free badSame
    have isGood : ({ state with evidence := goodOrder } : SupplyChainSecurityState).scanCurrent goodLatest = true := by
      rw [scanCurrent_iff goodIs]
      refine ⟨working, present, ?_⟩
      intro artifact member
      exact goodFound artifact.id (List.mem_map_of_mem member)
    rw [goodEqual, ← badEqual, scanCurrent_iff badIs] at isGood
    obtain ⟨cleanScan, cleanIs, isClean⟩ := isGood.2.2 artifact member
    obtain ⟨badScan, badScanIs, isBad⟩ := badFound artifact.id (by simp)
    rw [cleanIs] at badScanIs
    cases badScanIs
    exact isBad isClean

end Reordering

/-! ## Releasable releases -/

section Safety

variable {state : SupplyChainSecurityState}

theorem releasable_iff :
    Releasable parseDate engine state ↔ Exists fun latest => state.latestScanByArtifact parseDate = some latest ∧
      state.integrityVerified = true ∧ state.scanCurrent latest = true ∧ state.quarantined = false ∧
      state.revoked parseDate engine = false ∧ state.compromised = false ∧ state.auditTrailPresent = true ∧
      state.failedMalwareStatus = false ∧ state.certificateStatus ≠ some "REVOKED" := by
  constructor
  · rintro ⟨evaluation, found, releasable⟩
    obtain ⟨latest, isLatest, rfl⟩ := Option.map_eq_some_iff.mp found
    exact ⟨latest, isLatest, releasable_assemble_iff.mp releasable⟩
  · rintro ⟨latest, isLatest, all⟩
    refine ⟨_, ?_, releasable_assemble_iff.mpr all⟩
    rw [evaluateSupplyChainSecurity, isLatest]
    rfl

theorem integrityVerified_iff :
    state.integrityVerified = true ↔
      (Exists fun item => item ∈ state.current ∧ item.kind = "SIGNATURE" ∧ item.result = "VERIFIED") ∧
        Exists fun item => item ∈ state.current ∧ item.kind = "CHECKSUM" ∧ item.result = "VERIFIED" := by
  simp [SupplyChainSecurityState.integrityVerified]

/-- Nothing in the evidence of the current hash, nor in the statuses, is bad. -/
theorem harmless_iff :
    (state.quarantined = false ∧ state.compromised = false ∧ state.failedMalwareStatus = false) ↔
      (forall item, item ∈ state.current -> item.result ∉ ["INFECTED", "COMPROMISED"] ∧
        item.kind ∉ ["QUARANTINE", "COMPROMISE"] ∧ metadataFlag item.metadata "quarantined" = false ∧
        metadataFlag item.metadata "compromised" = false) ∧
      state.malwareStatus ∉ [some "FAILED", some "INFECTED"] := by
  simp only [SupplyChainSecurityState.quarantined, SupplyChainSecurityState.compromised,
    SupplyChainSecurityState.failedMalwareStatus, Bool.or_eq_false_iff, List.any_eq_false, decide_eq_false_iff_not,
    List.mem_cons, List.not_mem_nil, or_false, not_or, Bool.not_eq_true]
  constructor
  · rintro ⟨⟨uninfected, calm⟩, uncompromised, working⟩
    refine ⟨?_, working, uninfected⟩
    intro item member
    obtain ⟨⟨notInfected, notQuarantine⟩, notFlagged⟩ := calm item member
    obtain ⟨⟨notCompromise, notCompromised⟩, noFlag⟩ := uncompromised item member
    exact ⟨⟨notInfected, notCompromised⟩, ⟨notQuarantine, notCompromise⟩, notFlagged, noFlag⟩
  · rintro ⟨each, working, uninfected⟩
    refine ⟨⟨uninfected, ?_⟩, ?_, working⟩
    · intro item member
      obtain ⟨results, kinds, notFlagged, -⟩ := each item member
      exact ⟨⟨results.1, kinds.1⟩, notFlagged⟩
    · intro item member
      obtain ⟨results, kinds, -, noFlag⟩ := each item member
      exact ⟨⟨kinds.2, results.2⟩, noFlag⟩

theorem auditTrailPresent_iff (signed : state.integrityVerified = true) :
    state.auditTrailPresent = true ↔ forall item, item ∈ state.evidence -> isVerifiedAt item = true := by
  obtain ⟨item, member, isSignature, -⟩ := (integrityVerified_iff.mp signed).1
  have present : (state.evidence.any fun item =>
      item.kind ∈ ["SIGNATURE", "CHECKSUM", "MALWARE_SCAN"] && item.artifactHash = state.currentHash) = true := by
    obtain ⟨among, ofHash⟩ := List.mem_filter.mp member
    refine List.any_eq_true.mpr ⟨item, among, ?_⟩
    simpa [isSignature] using ofHash
  rw [SupplyChainSecurityState.auditTrailPresent, present, Bool.true_and, List.all_eq_true]

/-- A release that is held by a revocation only. -/
theorem heldByRevocation_iff (scans : ScansAgree parseDate state)
    (found : state.latestScanByArtifact parseDate = some latest) :
    HeldByRevocation parseDate state ↔ state.integrityVerified = true ∧ state.scanCurrent latest = true ∧
      state.quarantined = false ∧ state.compromised = false ∧ state.auditTrailPresent = true ∧
      state.failedMalwareStatus = false ∧ state.certificateStatus ≠ some "REVOKED" ∧
      Exists fun event => state.LatestRevocation parseDate event ∧ event.result ≠ "RESOLVED" := by
  constructor
  · intro held
    have signed := integrityVerified_iff.mpr ⟨held.signature, held.checksum⟩
    obtain ⟨calm, uncompromised, working⟩ := harmless_iff.mpr ⟨held.harmless, held.statuses.1⟩
    have scanned : state.scanCurrent latest = true := by
      rw [scanCurrent_iff_scannedClean found scans]
      exact ⟨by simpa [SupplyChainSecurityState.failedMalwareStatus] using working, held.artifacts, held.scanned⟩
    exact ⟨signed, scanned, calm, uncompromised, (auditTrailPresent_iff signed).mpr held.dated, working,
      held.statuses.2, held.unresolved⟩
  · rintro ⟨signed, scanned, calm, uncompromised, audited, working, unrevoked, unresolved⟩
    obtain ⟨signature, checksum⟩ := integrityVerified_iff.mp signed
    obtain ⟨harmless, status⟩ := harmless_iff.mp ⟨calm, uncompromised, working⟩
    obtain ⟨-, artifacts, clean⟩ := (scanCurrent_iff_scannedClean found scans).mp scanned
    exact ⟨signature, checksum, clean, artifacts, harmless, ⟨status, unrevoked⟩,
      (auditTrailPresent_iff signed).mp audited, unresolved⟩

theorem current_of_other {before after : List SupplyChainEvidenceEvent} {event : SupplyChainEvidenceEvent}
    (split : state.evidence = before ++ after) (other : event.artifactHash ≠ state.currentHash) :
    ({ state with evidence := before ++ event :: after } : SupplyChainSecurityState).current = state.current := by
  simp [SupplyChainSecurityState.current, split, List.filter_append, List.filter_cons_of_neg, other]

/-- With a harmful event for the current hash nothing is releasable. -/
theorem not_releasable_of_harmful {event : SupplyChainEvidenceEvent} (member : event ∈ state.evidence)
    (harmful : HarmfulFor state event) : ¬ Releasable parseDate engine state := by
  intro releasable
  obtain ⟨latest, -, -, -, calm, -, uncompromised, -, working, -⟩ := releasable_iff.mp releasable
  have among : event ∈ state.current := List.mem_filter.mpr ⟨member, by simpa using harmful.1⟩
  obtain ⟨results, kinds, -⟩ := (harmless_iff.mp ⟨calm, uncompromised, working⟩).1 event among
  obtain infected | quarantine | compromise := harmful.2
  · simp [infected] at results
  · simp [quarantine] at kinds
  · simp [compromise] at kinds

/-- Evidence of another hash is only read for revocations and dates. -/
theorem releasable_of_other (revocations : RevocationsAgree parseDate state) (scans : ScansAgree parseDate state)
    (free : ¬ HeldByRevocation parseDate state) {before after : List SupplyChainEvidenceEvent}
    {event : SupplyChainEvidenceEvent} (split : state.evidence = before ++ after)
    (other : event.artifactHash ≠ state.currentHash)
    (releasable : Releasable parseDate engine { state with evidence := before ++ event :: after }) :
    Releasable parseDate engine state := by
  obtain ⟨latest, found, signed, scanned, calm, -, uncompromised, audited, working, unrevoked⟩ :=
    releasable_iff.mp releasable
  have current := current_of_other split other
  have ownSigned : state.integrityVerified = true := by
    rw [← signed]
    simp only [SupplyChainSecurityState.integrityVerified, current]
  have ownCalm : state.quarantined = false := by
    rw [← calm]
    simp only [SupplyChainSecurityState.quarantined, current]
  have ownUncompromised : state.compromised = false := by
    rw [← uncompromised]
    simp only [SupplyChainSecurityState.compromised, current]
  have ownFound : state.latestScanByArtifact parseDate = some latest := by
    rw [← found]
    simp only [SupplyChainSecurityState.latestScanByArtifact, current]
  have ownAudited : state.auditTrailPresent = true := by
    rw [auditTrailPresent_iff ownSigned]
    intro item member
    apply (auditTrailPresent_iff signed).mp audited item
    rw [split] at member
    obtain member | member := List.mem_append.mp member <;> simp [member]
  refine releasable_iff.mpr ⟨latest, ownFound, ownSigned, scanned, ownCalm, ?_, ownUncompromised, ownAudited,
    working, unrevoked⟩
  by_contra revoked
  apply free
  refine (heldByRevocation_iff scans ownFound).mpr ⟨ownSigned, scanned, ownCalm, ownUncompromised, ownAudited,
    working, unrevoked, ?_⟩
  rw [revoked_eq_false_iff revocations] at revoked
  push Not at revoked
  obtain ⟨unresolved, leads, notResolved⟩ := revoked
  obtain ⟨last, -, unsurpassed⟩ := @exists_latestOf _ (verificationTime parseDate) _ (List.ne_nil_of_mem leads.1)
  refine ⟨last, unsurpassed, ?_⟩
  rw [ne_eq, revocations last unresolved unsurpassed.canLead leads]
  exact notResolved

theorem shown_of_releasable (revocations : RevocationsAgree parseDate state) (scans : ScansAgree parseDate state)
    (releasable : Releasable parseDate engine state) : Shown parseDate state := by
  obtain ⟨latest, found, signed, scanned, -, unrevoked, -⟩ := releasable_iff.mp releasable
  obtain ⟨signature, checksum⟩ := integrityVerified_iff.mp signed
  refine ⟨signature, checksum, ?_, ((scanCurrent_iff_scannedClean found scans).mp scanned).2.2⟩
  intro event unsurpassed
  exact (revoked_eq_false_iff revocations).mp unrevoked event unsurpassed.canLead

/-- The resolved revocation of another hash that releases a held release. -/
def resolution (state : SupplyChainSecurityState) (time : Int) : SupplyChainEvidenceEvent where
  kind := "REVOCATION"
  result := "RESOLVED"
  artifactHash := state.currentHash ++ "'"
  verifiedAt := some (.date (some time))
  metadata := none

theorem not_heldByRevocation (readable : ¬ Unreadable state) (revocations : RevocationsAgree parseDate state)
    (scans : ScansAgree parseDate state) (safe : FailSafe parseDate (SortMethod.insertion _) state) :
    ¬ HeldByRevocation parseDate state := by
  intro held
  cases found : state.latestScanByArtifact parseDate with
  | none => exact readable (latestScanByArtifact_eq_none_iff.mp found)
  | some latest =>
    obtain ⟨signed, scanned, calm, uncompromised, audited, working, unrevoked, event, unsurpassed, unresolved⟩ :=
      (heldByRevocation_iff scans found).mp held
    -- The resolution is dated like the revocation that comes first without it.
    let latestTime : Int :=
      ((leader (verificationTime parseDate) state.revocations).bind (verificationTime parseDate)).getD 0
    have other : (resolution state latestTime).artifactHash ≠ state.currentHash := by
      intro same
      have lengths := congrArg String.length same
      simp [resolution] at lengths
    have current : ({ state with evidence := resolution state latestTime :: state.evidence } :
        SupplyChainSecurityState).current = state.current :=
      @current_of_other state [] _ _ rfl other
    have resolved : ({ state with evidence := resolution state latestTime :: state.evidence } :
        SupplyChainSecurityState).revoked parseDate (SortMethod.insertion _) = false := by
      have leads : leader (verificationTime parseDate) (resolution state latestTime :: state.revocations) =
          some (resolution state latestTime) := by
        apply leader_cons_of_not_before
        intro first isFirst
        have dated : verificationTime parseDate (resolution state latestTime) = some latestTime := rfl
        rw [dated]
        cases firstTime : verificationTime parseDate first with
        | none => simp
        | some time => simp [latestTime, isFirst, firstTime]
      have isLatest : latestResult parseDate (SortMethod.insertion _)
          (resolution state latestTime :: state.evidence) revocationKinds = some (resolution state latestTime) := by
        rw [latestResult, List.filter_cons_of_pos (by simp [resolution, revocationKinds])]
        exact leads
      rw [SupplyChainSecurityState.revoked, isLatest]
      simp [resolution]
    have released : Releasable parseDate (SortMethod.insertion _)
        { state with evidence := [] ++ resolution state latestTime :: state.evidence } := by
      have ownSigned : ({ state with evidence := resolution state latestTime :: state.evidence } :
          SupplyChainSecurityState).integrityVerified = true := by
        simp only [SupplyChainSecurityState.integrityVerified, current]
        exact signed
      refine releasable_iff.mpr ⟨latest, ?_, ownSigned, scanned, ?_, resolved, ?_, ?_, working, unrevoked⟩
      · simp only [List.nil_append, SupplyChainSecurityState.latestScanByArtifact, current]
        exact found
      · simp only [List.nil_append, SupplyChainSecurityState.quarantined, current]
        exact calm
      · simp only [List.nil_append, SupplyChainSecurityState.compromised, current]
        exact uncompromised
      · rw [List.nil_append, auditTrailPresent_iff ownSigned]
        intro item member
        obtain rfl | member := List.mem_cons.mp member
        · rfl
        · exact held.dated item member
    obtain ⟨-, -, -, -, -, stillRevoked, -⟩ := releasable_iff.mp (safe [] state.evidence _ rfl (.inr other) released)
    exact unresolved ((revoked_eq_false_iff revocations).mp stillRevoked event unsurpassed.canLead)

end Safety

/-- The evaluation is order-free, fail-safe and sound, whatever sorts the
revocations, exactly where the latest revocations and scans agree and the
release is not held by a revocation only (or where it throws). -/
theorem evaluateSupplyChainSecurity_safe_iff (parseDate : String -> Option Int) (state : SupplyChainSecurityState) :
    (forall engine, OrderFree parseDate engine state ∧ FailSafe parseDate engine state ∧
      (Releasable parseDate engine state -> Shown parseDate state)) ↔
    Unreadable state ∨
      (RevocationsAgree parseDate state ∧ ScansAgree parseDate state ∧ ¬ HeldByRevocation parseDate state) := by
  constructor
  · intro all
    by_cases readable : Unreadable state
    · exact .inl readable
    · obtain ⟨free, safe, -⟩ := all (SortMethod.insertion _)
      have revocations := revocationsAgree_of_orderFree readable free
      have scans := scansAgree_of_orderFree readable free
      exact .inr ⟨revocations, scans, not_heldByRevocation readable revocations scans safe⟩
  · rintro (unreadable | ⟨revocations, scans, free⟩) engine
    · have throws : forall evidence, state.evidence.Sublist evidence ->
          evaluateSupplyChainSecurity parseDate engine { state with evidence } = none := by
        intro evidence sub
        obtain ⟨event, member, isScan⟩ := unreadable
        exact evaluate_eq_none_iff.mpr ⟨event, (sub.filter _).subset member, isScan⟩
      have never : evaluateSupplyChainSecurity parseDate engine state = none := throws _ (List.Sublist.refl _)
      refine ⟨?_, ?_, ?_⟩
      · intro evidence same
        rw [never, evaluate_eq_none_iff, unreadable_perm same]
        exact unreadable
      · rintro before after event split - ⟨evaluation, found, -⟩
        rw [throws _ (by rw [split]; exact (List.sublist_cons_self _ _).append_left _)] at found
        cases found
      · rintro ⟨evaluation, found, -⟩
        rw [never] at found
        cases found
    · refine ⟨orderFree_of_agree revocations scans, ?_, shown_of_releasable revocations scans⟩
      rintro before after event split (harmful | other) releasable
      · exact absurd releasable (not_releasable_of_harmful (by simp) harmful)
      · exact releasable_of_other revocations scans free split other releasable

/-! ## Two releases -/

def evidenceOf (kind result : String) (time : Int) (metadata : Option Json) : SupplyChainEvidenceEvent :=
  ⟨kind, result, "hash", some (.date (some time)), metadata⟩

def ofInstaller : Option Json := some (.object [("artifactId", .string "installer")])

/-- The evidence of a release with one artifact. -/
def releaseWith (evidence : List SupplyChainEvidenceEvent) : SupplyChainSecurityState where
  currentHash := "hash"
  evidence := [evidenceOf "SIGNATURE" "VERIFIED" 1 none, evidenceOf "CHECKSUM" "VERIFIED" 1 none] ++ evidence
  artifacts := [⟨"installer"⟩]
  certificateStatus := none
  malwareStatus := none

def failedThenClean : SupplyChainSecurityState :=
  releaseWith [evidenceOf "MALWARE_SCAN" "FAILED" 2 ofInstaller, evidenceOf "MALWARE_SCAN" "CLEAN" 2 ofInstaller]

def cleanThenFailed : SupplyChainSecurityState :=
  releaseWith [evidenceOf "MALWARE_SCAN" "CLEAN" 2 ofInstaller, evidenceOf "MALWARE_SCAN" "FAILED" 2 ofInstaller]

def revokedRelease : SupplyChainSecurityState :=
  releaseWith [evidenceOf "MALWARE_SCAN" "CLEAN" 2 ofInstaller, evidenceOf "REVOCATION" "REVOKED" 3 none]

/-- Two scans of the same time, of which the later one in the list counts, and a
revocation that evidence of another hash resolves. -/
theorem releasable_by_order_and_other_hash :
    failedThenClean.evidence.Perm cleanThenFailed.evidence ∧
      Releasable (fun _ => none) (SortMethod.insertion _) failedThenClean ∧
      ¬ Releasable (fun _ => none) (SortMethod.insertion _) cleanThenFailed ∧
      ¬ Shown (fun _ => none) failedThenClean ∧
      ¬ Releasable (fun _ => none) (SortMethod.insertion _) revokedRelease ∧
      (resolution revokedRelease 4).artifactHash ≠ revokedRelease.currentHash ∧
      Releasable (fun _ => none) (SortMethod.insertion _)
        { revokedRelease with evidence := revokedRelease.evidence ++ [resolution revokedRelease 4] } := by
  have decided (state : SupplyChainSecurityState) (releasable : Bool)
      (found : ((evaluateSupplyChainSecurity (fun _ => none) (SortMethod.insertion _) state).map (·.releasable)) =
        some releasable) :
      Releasable (fun _ => none) (SortMethod.insertion _) state ↔ releasable = true := by
    obtain ⟨evaluation, isFound, rfl⟩ := Option.map_eq_some_iff.mp found
    simp [Releasable, isFound]
  refine ⟨by decide +kernel, ?_, ?_, ?_, ?_, by decide +kernel, ?_⟩
  · exact (decided failedThenClean true (by decide +kernel)).mpr rfl
  · rw [decided cleanThenFailed false (by decide +kernel)]
    exact Bool.false_ne_true
  · intro shown
    have failed := (shown.scanned ⟨"installer"⟩ (by decide +kernel)).2
      (evidenceOf "MALWARE_SCAN" "FAILED" 2 ofInstaller) ⟨by decide +kernel, by decide +kernel⟩
    exact absurd failed (by decide +kernel)
  · rw [decided revokedRelease false (by decide +kernel)]
    exact Bool.false_ne_true
  · exact (decided _ true (by decide +kernel)).mpr rfl

end SupplyChain
end DigitalSolutions
