import DigitalSolutions.Legal.PublishedVersions

namespace DigitalSolutions
namespace Legal

open Foundation Persistence

/-!
# Every run of the legal administration

A transaction that commits finds the rows it writes as it has read them, so
what it decided on what it read is decided on the rows as they are.
-/

variable {rendering : LegalRendering} {before after : LegalStore}
variable {actorId : Id} {answer : Unit} {version : LegalDocumentVersion} {document : LegalDocument}

theorem audit_commits {action targetType : String} {targetId : Id} {metadata : Json}
    (commits : (audit actorId action targetType targetId metadata).Commits before answer after) :
    after.versions = before.versions ∧ after.documents = before.documents := by
  simp only [audit, Transaction.commits_modify] at commits
  subst commits
  exact ⟨rfl, rfl⟩

theorem members_iff {Row Key : Type} [Keyed Row Key] {left right : Table Row} (same : left.rows = right.rows)
    (row : Row) : row ∈ left ↔ row ∈ right := by
  rw [← Table.mem_rows, same, Table.mem_rows]

/-! ## What an action on a version does -/

/-- The status of a version tells whether its document points to it. -/
theorem Published.unpointed (holds : Published rendering before)
    (documentMember : document ∈ before.documents) (member : version ∈ before.versions)
    (unpublished : version.status ≠ .published) :
    document.currentPublishedVersionId ≠ some version.id := by
  intro points
  rcases holds.pointed document documentMember version.id points with ⟨pointed, pointedMember, same, _,
    isPublished⟩
  rw [version_eq pointedMember member same] at isPublished
  exact unpublished isPublished

/-- A version takes the place of the one its document points to. -/
theorem repoints_of_writes (data : LegalDocumentVersion -> LegalDocumentVersion) (now : Time)
    (documentMember : document ∈ before.documents) (member : version ∈ before.versions)
    (owned : document.id = version.documentId)
    (unpointed : document.currentPublishedVersionId ≠ some version.id)
    (turns : Turns rendering document.currentPublishedVersionId (some version.id) version (data version))
    (versions : after.versions.rows = (before.versions.rows.map fun other =>
      if document.currentPublishedVersionId = some other.id then archived now other else other).map
        fun other => if other.id = version.id then data other else other)
    (documents : after.documents.rows = before.documents.rows.map fun other =>
      if other.id = version.documentId then pointTo version.id other else other) :
    Repoints rendering document (some version.id) before after where
  member := documentMember
  owned versionId isTarget := ⟨version, member, Option.some.inj isTarget, owned.symm⟩
  documents := by
    refine ⟨_, documents, ?_, ?_, ?_⟩
    · intro other _ different
      rw [if_neg (owned ▸ different)]
    · rw [if_pos owned]
      rfl
    · rw [if_pos owned]
      rfl
  versions := by
    rw [List.map_map] at versions
    refine ⟨_, versions, ?_⟩
    intro other otherMember
    rw [Function.comp_apply]
    by_cases here : other.id = version.id
    · have isVersion := version_eq otherMember member here
      subst isVersion
      rw [if_neg unpointed, if_pos rfl]
      exact turns
    · have notTarget : some version.id ≠ some other.id := fun same => here (Option.some.inj same).symm
      by_cases points : document.currentPublishedVersionId = some other.id
      · rw [if_pos points, if_neg]
        · exact .archived notTarget points rfl rfl
        · exact here
      · rw [if_neg points, if_neg here]
        exact .same notTarget points rfl

/-- What an action holds was read together, and allows the action. -/
def Prepared : LegalPoint -> Prop
  | .writing _ (.action reads action) =>
    reads.document.id = reads.version.documentId ∧ checkAction reads.version action = .ok ()
  | _ => True

theorem prepare_ok {request : LegalRequest} {deed : LegalDeed}
    (prepared : prepare request before = .ok deed) : Prepared (.writing actorId deed) := by
  cases request with
  | patchVersion versionId action =>
    simp only [prepare, bind, Except.bind] at prepared
    split at prepared
    · cases prepared
    · rename_i reads read
      split at prepared
      · cases prepared
      · rename_i checked
        cases prepared
        unfold readVersion at read
        split at read
        · cases read
        · split at read
          · cases read
          · rename_i version _ document found
            cases read
            exact ⟨(lookup_document found).2, checked⟩
  | createVersion input =>
    simp only [prepare, bind, Except.bind] at prepared
    split at prepared
    · cases prepared
    · cases prepared
      trivial
  | deleteVersion versionId =>
    simp only [prepare] at prepared
    split at prepared
    · cases prepared
    · split at prepared
      · cases prepared
      · cases prepared
        trivial
  | createDocument input =>
    cases prepared
    trivial
  | patchDocument documentId title status =>
    cases prepared
    trivial

/-- Rewriting a draft as a draft touches nothing that is published. -/
theorem keepsPublished_of_draft (data : LegalDocumentVersion -> LegalDocumentVersion)
    (member : version ∈ before.versions) (draft : version.status = .draft)
    (stays : (data version).status = .draft) (documents : after.documents = before.documents)
    (versions : after.versions.rows =
      before.versions.rows.map fun other => if other.id = version.id then data other else other) :
    KeepsPublished before after where
  versions other issued := by
    rw [Table.mem_of_rows versions]
    constructor
    · rintro ⟨earlier, earlierMember, rfl⟩
      by_cases here : earlier.id = version.id
      · rw [version_eq earlierMember member here, if_pos rfl, stays] at issued
        exact absurd rfl issued
      · rw [if_neg here]
        exact earlierMember
    · intro otherMember
      refine ⟨other, otherMember, if_neg ?_⟩
      intro here
      rw [version_eq otherMember member here] at issued
      exact issued draft
  documents := by
    rw [documents]
    exact fun _ _ => Iff.rfl

theorem action_commits (holds : Published rendering before) {fresh : Id} {now : Time}
    {reads : VersionReads} {action : VersionAction}
    (prepared : Prepared (.writing actorId (.action reads action)))
    (commits : (commitDeed rendering actorId now fresh (.action reads action)).Commits before answer after) :
    KeepsPublished before after ∨
      Exists fun document => Exists fun target => Repoints rendering document target before after := by
  rcases prepared with ⟨owned, checked⟩
  simp only [commitDeed, Transaction.commits_bind, Transaction.commits_get, Transaction.commits_ite,
    Transaction.not_commits_throw, and_false, or_false] at commits
  rcases commits with ⟨_, _, ⟨rfl, rfl⟩, same, written⟩
  cases action with
  | edit markdownContent changeSummary requiresReacceptance =>
    simp only [unchanged, decide_eq_true_eq] at same
    simp only [checkAction, ne_eq, ite_not] at checked
    split at checked
    · rename_i draft
      simp only [writeAction, Transaction.commits_bind] at written
      rcases written with ⟨_, middle, updated, audited⟩
      rcases updateVersion_commits updated with ⟨sameDocuments, versions⟩
      rcases audit_commits audited with ⟨auditedVersions, auditedDocuments⟩
      left
      apply keepsPublished_of_draft (edited rendering markdownContent changeSummary requiresReacceptance)
        (lookup_version same).1 draft draft
      · exact auditedDocuments.trans sameDocuments
      · rw [auditedVersions]
        exact versions
    · cases checked
  | publish effectiveAt =>
    simp only [unchanged, Bool.and_eq_true, decide_eq_true_eq] at same
    simp only [checkAction, ne_eq, ite_not] at checked
    split at checked
    · rename_i draft
      have member := (lookup_version same.1.1).1
      have documentMember := (lookup_document same.1.2).1
      have unpointed := holds.unpointed documentMember member (by rw [draft]; decide)
      simp only [writeAction, Transaction.commits_bind] at written
      rcases written with ⟨_, _, archivedOld, _, _, updated, _, _, pointed, audited⟩
      rcases archivePrevious_commits archivedOld with ⟨firstDocuments, firstVersions⟩
      rcases updateVersion_commits updated with ⟨secondDocuments, secondVersions⟩
      rcases updateDocument_commits pointed with ⟨thirdVersions, thirdDocuments⟩
      rcases audit_commits audited with ⟨auditedVersions, auditedDocuments⟩
      right
      refine ⟨reads.document, some reads.version.id,
        repoints_of_writes (published rendering reads.version effectiveAt now) now documentMember member owned
          unpointed ?_ ?_ ?_⟩
      · exact .published rfl draft rfl ⟨_, rfl, rfl⟩ rfl rfl
      · rw [auditedVersions, thirdVersions, secondVersions, firstVersions]
      · rw [auditedDocuments, thirdDocuments, secondDocuments, firstDocuments]
    · cases checked
  | archive =>
    simp only [unchanged, Bool.and_eq_true, Bool.or_eq_true, decide_eq_true_eq] at same
    simp only [checkAction, ne_eq, ite_not] at checked
    split at checked
    · rename_i isPublished
      have member := (lookup_version same.1).1
      rcases holds.pointing reads.version member isPublished with ⟨document, documentMember, isOwner, points⟩
      simp only [writeAction, Transaction.commits_bind] at written
      rcases written with ⟨_, _, unset, _, _, updated, audited⟩
      rcases updateDocuments_commits unset with ⟨firstVersions, firstDocuments⟩
      rcases updateVersion_commits updated with ⟨secondDocuments, secondVersions⟩
      rcases audit_commits audited with ⟨auditedVersions, auditedDocuments⟩
      have documents := auditedDocuments ▸ secondDocuments ▸ firstDocuments
      have versions := auditedVersions ▸ secondVersions
      rw [firstVersions] at versions
      refine Or.inr ⟨document, none, documentMember, ?_, ⟨_, documents, ?_, ?_, ?_⟩, ⟨_, versions, ?_⟩⟩
      · intro versionId impossible
        cases impossible
      · intro other otherMember different
        rw [if_neg]
        simp only [Bool.and_eq_true, decide_eq_true_eq, not_and]
        exact fun here => absurd (here.trans isOwner.symm) different
      · simp only [isOwner, points, decide_true, Bool.and_self, if_true]
      · simp only [isOwner, points, decide_true, Bool.and_self, if_true]
      · intro version versionMember
        by_cases here : version.id = reads.version.id
        · rw [if_pos here]
          exact .archived (by rintro ⟨⟩) (here ▸ points) rfl rfl
        · rw [if_neg here]
          apply Turns.same
          · rintro ⟨⟩
          · rw [points]
            exact fun same => here (Option.some.inj same).symm
          · rfl
    · cases checked
  | restore =>
    simp only [unchanged, Bool.and_eq_true, decide_eq_true_eq] at same
    simp only [checkAction, ne_eq, ite_not] at checked
    split at checked
    · rename_i isArchived
      have member := (lookup_version same.1.1).1
      have documentMember := (lookup_document same.1.2).1
      have unpointed := holds.unpointed documentMember member (by rw [isArchived]; decide)
      have kept : (reads.document.currentPublishedVersionId.filter fun previous =>
          previous ≠ reads.version.id) = reads.document.currentPublishedVersionId := by
        cases pointer : reads.document.currentPublishedVersionId with
        | none => rfl
        | some previous =>
          rw [pointer, ne_eq, Option.some.injEq] at unpointed
          simp only [Option.filter_some, ne_eq, unpointed, not_false_eq_true, decide_true, if_true]
      simp only [writeAction, Transaction.commits_bind, kept] at written
      rcases written with ⟨_, _, archivedOld, _, _, updated, _, _, pointed, audited⟩
      rcases archivePrevious_commits archivedOld with ⟨firstDocuments, firstVersions⟩
      rcases updateVersion_commits updated with ⟨secondDocuments, secondVersions⟩
      rcases updateDocument_commits pointed with ⟨thirdVersions, thirdDocuments⟩
      rcases audit_commits audited with ⟨auditedVersions, auditedDocuments⟩
      right
      refine ⟨reads.document, some reads.version.id,
        repoints_of_writes restored now documentMember member owned unpointed ?_ ?_ ?_⟩
      · exact .restored rfl (by rw [isArchived]; decide) rfl rfl
      · rw [auditedVersions, thirdVersions, secondVersions, firstVersions]
      · rw [auditedDocuments, thirdDocuments, secondDocuments, firstDocuments]
    · cases checked

/-! ## What the other operations do -/

theorem insertVersion_commits {versionId : Id} {input : VersionInput} {draft : VersionDraft}
    (commits : (insertVersion rendering actorId input draft versionId).Commits before answer after) :
    KeepsPublished before after := by
  simp only [insertVersion, Transaction.commits_bind, Transaction.commits_get, Transaction.commits_orFail,
    Transaction.commits_set] at commits
  rcases commits with ⟨_, _, ⟨rfl, rfl⟩, versions, _, ⟨inserted, rfl⟩, _, _, rfl, audited⟩
  rcases audit_commits audited with ⟨auditedVersions, auditedDocuments⟩
  constructor
  · intro version issued
    rw [auditedVersions, Table.mem_insert inserted]
    constructor
    · rintro (old | rfl)
      · exact old
      · exact absurd rfl issued
    · exact Or.inl
  · rw [auditedDocuments]
    exact fun _ _ => Iff.rfl

theorem deleteVersion_commits (holds : Published rendering before) {read : LegalDocumentVersion}
    (commits : (deleteVersion actorId read).Commits before answer after) : KeepsPublished before after := by
  simp only [deleteVersion, Transaction.commits_bind, Transaction.commits_get, Transaction.commits_orFail,
    Transaction.commits_ite, Transaction.not_commits_throw, and_false, false_or,
    Transaction.commits_set] at commits
  rcases commits with ⟨_, _, ⟨rfl, rfl⟩, old, _, ⟨found, rfl⟩, unprotected, _, _, rfl, _, _, unset, audited⟩
  rcases lookup_version found with ⟨member, isOld⟩
  rcases updateDocuments_commits unset with ⟨sameVersions, documents⟩
  rcases audit_commits audited with ⟨auditedVersions, auditedDocuments⟩
  have draft : old.status = .draft := by
    cases status : old.status with
    | draft => rfl
    | published => simp [protectsDeletion, status] at unprotected
    | archived => simp [protectsDeletion, status] at unprotected
  have untouched : after.documents.rows = before.documents.rows := by
    rw [auditedDocuments, documents]
    refine (List.map_congr_left fun document documentMember => ?_).trans (List.map_id _)
    have unpointed := holds.unpointed documentMember member (by rw [draft]; decide)
    rw [isOld] at unpointed
    simp only [unpointed, decide_false, Bool.false_eq_true, if_false, id_eq]
  constructor
  · intro version issued
    rw [auditedVersions, sameVersions, Table.mem_delete, decide_eq_false_iff_not]
    constructor
    · exact And.left
    · intro versionMember
      refine ⟨versionMember, ?_⟩
      intro here
      rw [version_eq versionMember member (here.trans isOld.symm)] at issued
      exact issued draft
  · intro documentId versionId
    simp only [members_iff untouched]

theorem createDocument_commits {documentId : Id} {input : DocumentInput}
    (commits : (createDocument actorId input documentId).Commits before answer after) :
    KeepsPublished before after := by
  simp only [createDocument, Transaction.commits_bind, Transaction.commits_get, Transaction.commits_orFail,
    Transaction.commits_set] at commits
  rcases commits with ⟨_, _, ⟨rfl, rfl⟩, documents, _, ⟨inserted, rfl⟩, _, _, rfl, audited⟩
  rcases audit_commits audited with ⟨auditedVersions, auditedDocuments⟩
  constructor
  · intro version _
    rw [auditedVersions]
  · intro otherId versionId
    rw [auditedDocuments]
    constructor
    · rintro ⟨document, member, isDocument, points⟩
      rcases (Table.mem_insert inserted).mp member with old | rfl
      · exact ⟨document, old, isDocument, points⟩
      · cases points
    · rintro ⟨document, member, rest⟩
      exact ⟨document, (Table.mem_insert inserted).mpr (Or.inl member), rest⟩

theorem patchDocument_commits {documentId : Id} {title : Option String}
    {status : Option LegalDocumentStatus}
    (commits : (patchDocument actorId documentId title status).Commits before answer after) :
    KeepsPublished before after := by
  simp only [patchDocument, Transaction.commits_bind] at commits
  rcases commits with ⟨_, _, updated, audited⟩
  rcases updateDocument_commits updated with ⟨sameVersions, documents⟩
  rcases audit_commits audited with ⟨auditedVersions, auditedDocuments⟩
  rw [← auditedDocuments] at documents
  constructor
  · intro version _
    rw [auditedVersions, sameVersions]
  · intro otherId versionId
    constructor
    · rintro ⟨document, member, isDocument, points⟩
      rcases (Table.mem_of_rows documents).mp member with ⟨earlier, earlierMember, rfl⟩
      refine ⟨earlier, earlierMember, ?_⟩
      by_cases patched : earlier.id = documentId
      · rw [if_pos patched] at isDocument points
        exact ⟨isDocument, points⟩
      · rw [if_neg patched] at isDocument points
        exact ⟨isDocument, points⟩
    · rintro ⟨document, member, isDocument, points⟩
      refine ⟨_, (Table.mem_of_rows documents).mpr ⟨document, member, rfl⟩, ?_⟩
      split
      · exact ⟨isDocument, points⟩
      · exact ⟨isDocument, points⟩

theorem commitDeed_kept (holds : Published rendering before) {fresh : Id} {now : Time} {deed : LegalDeed}
    (prepared : Prepared (.writing actorId deed))
    (commits : (commitDeed rendering actorId now fresh deed).Commits before answer after) :
    Published rendering after ∧ Frozen before after := by
  have kept : KeepsPublished before after -> Published rendering after ∧ Frozen before after :=
    fun keeps => ⟨keeps.published holds, keeps.frozen⟩
  cases deed with
  | action reads action =>
    rcases action_commits holds prepared commits with keeps | ⟨document, target, repoints⟩
    · exact kept keeps
    · exact ⟨repoints.published holds, repoints.frozen⟩
  | insertion input draft =>
    simp only [commitDeed, Transaction.commits_bind, Transaction.commits_get, Transaction.commits_ite,
      Transaction.not_commits_throw, and_false, or_false] at commits
    rcases commits with ⟨_, _, ⟨rfl, rfl⟩, _, inserted⟩
    exact kept (insertVersion_commits inserted)
  | deletion read => exact kept (deleteVersion_commits holds commits)
  | newDocument input => exact kept (createDocument_commits commits)
  | documentPatch documentId title status => exact kept (patchDocument_commits commits)

/-! ## Runs -/

/-- The invariant of the rows, and of what the transactions hold. -/
def Administered (rendering : LegalRendering) (crowd : Crowd LegalStore LegalPoint) : Prop :=
  Protocol.Holds (Published rendering) (fun _ _ point => Prepared point) crowd

theorem step_administered {crowd next : Crowd LegalStore LegalPoint}
    {move : CrowdMove (Id × LegalRequest) (Time × Id) Empty} (administered : Administered rendering crowd)
    (accepted : (legalProtocol rendering).machine.step crowd move = .ok next) :
    Administered rendering next ∧ Frozen crowd.store next.store := by
  have placed : forall process store point, Published rendering store ->
      (forall later, point = some later -> Prepared later) ->
      Administered rendering (crowd.place store process point) := by
    intro process store point published prepared
    refine ⟨published, ?_⟩
    intro other bystander stands
    rcases eq_some_of_update rfl stands with ⟨_, isPoint⟩ | ⟨_, already⟩
    · exact prepared bystander isPoint
    · exact administered.points other bystander already
  have left : forall later, (none : Option LegalPoint) = some later -> Prepared later :=
    fun _ impossible => nomatch impossible
  cases move with
  | start process call =>
    rcases Protocol.step_start accepted with ⟨_, rfl⟩
    refine ⟨placed _ _ _ administered.store ?_, frozen_refl _⟩
    intro later isLater
    cases isLater
    trivial
  | advance process input =>
    rcases Protocol.step_advance accepted with ⟨point, store, later, here, advanced, rfl⟩
    cases point with
    | called actorId request =>
      simp only [legalProtocol, advanceLegal] at advanced
      split at advanced
      · rename_i deed prepared
        cases advanced
        refine ⟨placed _ _ _ administered.store ?_, frozen_refl _⟩
        intro later isLater
        cases isLater
        exact prepare_ok prepared
      · cases advanced
        exact ⟨placed _ _ _ administered.store left, frozen_refl _⟩
    | writing actorId deed =>
      simp only [legalProtocol, advanceLegal] at advanced
      split at advanced
      · rename_i answer after commits
        cases advanced
        have kept := commitDeed_kept administered.store (administered.points process _ here) commits
        exact ⟨placed _ _ _ kept.1 left, kept.2⟩
      · cases advanced
        exact ⟨placed _ _ _ administered.store left, frozen_refl _⟩
  | stop process =>
    rw [Protocol.step_stop accepted]
    exact ⟨placed _ _ _ administered.store left, frozen_refl _⟩
  | ambient event => exact nomatch event

/-- The version is the one and only published version of the document. -/
def OnlyPublished (store : LegalStore) (documentId versionId : Id) : Prop :=
  Exists fun version => version ∈ store.versions ∧ version.id = versionId ∧
    version.documentId = documentId ∧ version.status = .published ∧
    forall other, other ∈ store.versions -> other.documentId = documentId ->
      other.status = .published -> other = version

theorem Published.current_iff {store : LegalStore} (holds : Published rendering store)
    (member : document ∈ store.documents) (versionId : Id) :
    document.currentPublishedVersionId = some versionId ↔ OnlyPublished store document.id versionId := by
  constructor
  · intro points
    rcases holds.pointed document member versionId points with ⟨version, versionMember, isVersion, owned,
      isPublished⟩
    refine ⟨version, versionMember, isVersion, owned, isPublished, ?_⟩
    intro other otherMember otherOwned otherPublished
    rcases holds.pointing other otherMember otherPublished with ⟨owner, ownerMember, isOwner, ownerPoints⟩
    rw [document_eq ownerMember member (isOwner.trans otherOwned), points, Option.some.injEq] at ownerPoints
    exact version_eq otherMember versionMember (ownerPoints.symm.trans isVersion.symm)
  · rintro ⟨version, versionMember, rfl, owned, isPublished, _⟩
    rcases holds.pointing version versionMember isPublished with ⟨owner, ownerMember, isOwner, ownerPoints⟩
    rw [← document_eq ownerMember member (isOwner.trans owned)]
    exact ownerPoints

/-- However the operations interleave, a document points to a version exactly
when this is its one published version; what was published is never edited or
removed; and its stored hash is that of its stored rendering. -/
theorem published_versions_kept (rendering : LegalRendering) (store : LegalStore)
    (initially : Published rendering store)
    (moves : List (CrowdMove (Id × LegalRequest) (Time × Id) Empty)) :
    (forall document, document ∈ ((legalProtocol rendering).machine.run (Crowd.opening store) moves).store.documents ->
      forall versionId, document.currentPublishedVersionId = some versionId ↔
        OnlyPublished ((legalProtocol rendering).machine.run (Crowd.opening store) moves).store
          document.id versionId) ∧
    (forall earlier later, moves = earlier ++ later ->
      Frozen ((legalProtocol rendering).machine.run (Crowd.opening store) earlier).store
        ((legalProtocol rendering).machine.run (Crowd.opening store) moves).store) ∧
    forall version, version ∈ ((legalProtocol rendering).machine.run (Crowd.opening store) moves).store.versions ->
      version.status ≠ .draft -> Sealed rendering version := by
  have opening : Administered rendering (Crowd.opening store) := Protocol.holds_opening initially
  have run : forall moves,
      Administered rendering ((legalProtocol rendering).machine.run (Crowd.opening store) moves) := by
    intro moves
    apply Machine.run_invariant _ opening
    intro crowd move next administered accepted
    exact (step_administered administered accepted).1
  refine ⟨?_, ?_, (run moves).store.hashed⟩
  · intro document member versionId
    exact (run moves).store.current_iff member versionId
  · intro earlier later split
    subst split
    rw [Machine.run_append]
    have preserved : forall crowd move next, Administered rendering crowd ∧
        Frozen ((legalProtocol rendering).machine.run (Crowd.opening store) earlier).store crowd.store ->
        (legalProtocol rendering).machine.step crowd move = .ok next ->
        Administered rendering next ∧
          Frozen ((legalProtocol rendering).machine.run (Crowd.opening store) earlier).store next.store := by
      intro crowd move next both accepted
      have kept := step_administered both.1 accepted
      exact ⟨kept.1, both.2.trans kept.2⟩
    exact (Machine.run_invariant preserved ⟨run earlier, frozen_refl _⟩ later).2

/-! ## Two publications race -/

def plainRendering : LegalRendering where
  renderLegalMarkdown markdown := "<p>" ++ markdown ++ "</p>"
  legalContentHash html := "sha256:" ++ html

def noDocuments : LegalStore := ⟨∅, ∅, []⟩

theorem noDocuments_published : Published rendering noDocuments where
  pointed _ member := absurd member List.not_mem_nil
  pointing _ member := absurd member List.not_mem_nil
  hashed _ member := absurd member List.not_mem_nil

def draftOf (markdownContent : String) : LegalRequest :=
  .createVersion ⟨"terms", some markdownContent, "Summary", false, none⟩

/-- A transaction that nothing comes between. -/
def undisturbed (request : LegalRequest) (now : Time) (fresh : Id) :
    List (CrowdMove (Id × LegalRequest) (Time × Id) Empty) :=
  [.start 0 ("admin", request), .advance 0 (now, fresh), .advance 0 (now, fresh)]

/-- A document with two drafts; both are published at once, and the transaction
that commits second finds the document changed. -/
def racingPublications : List (CrowdMove (Id × LegalRequest) (Time × Id) Empty) :=
  undisturbed (.createDocument ⟨"Terms", "terms", "TERMS_OF_SERVICE"⟩) 1 "terms" ++
  undisturbed (draftOf "One") 2 "first" ++ undisturbed (draftOf "Two") 3 "second" ++
  [.start 1 ("admin", .patchVersion "first" (.publish none)),
    .start 2 ("admin", .patchVersion "second" (.publish none)),
    .advance 1 (4, ""), .advance 2 (4, ""), .advance 1 (5, ""), .advance 2 (6, "")] ++
  undisturbed (.patchVersion "second" (.publish none)) 7 "" ++
  undisturbed (.patchVersion "first" .restore) 8 ""

theorem published_versions_kept_racing :
    (((legalProtocol plainRendering).machine.run (Crowd.opening noDocuments)
        racingPublications).store.documents.rows.map LegalDocument.currentPublishedVersionId =
      [some "first"]) ∧
    forall document, document ∈ ((legalProtocol plainRendering).machine.run (Crowd.opening noDocuments)
        racingPublications).store.documents ->
      forall versionId, document.currentPublishedVersionId = some versionId ↔
        OnlyPublished ((legalProtocol plainRendering).machine.run (Crowd.opening noDocuments)
          racingPublications).store document.id versionId :=
  ⟨by decide +kernel,
    (published_versions_kept plainRendering noDocuments noDocuments_published racingPublications).1⟩

end Legal
end DigitalSolutions
