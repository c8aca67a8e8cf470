import DigitalSolutions.Legal.VersionOperations

namespace DigitalSolutions
namespace Legal

open Foundation Persistence

/-!
# The current published version of a legal document

A document points to a version exactly while that version is the published one
of the document, and what has been published is never rewritten or removed.
-/

variable {rendering : LegalRendering} {before after : LegalStore}
variable {store : LegalStore} {document : LegalDocument}
variable {answer : Unit} {target : Option Id} {data : LegalDocument -> LegalDocument}

/-- A version but for its status and the time it was archived. -/
def contentOf (version : LegalDocumentVersion) : LegalDocumentVersion :=
  { version with status := .draft, archivedAt := none }

/-- The stored hash is the hash of the stored rendering. -/
def Sealed (rendering : LegalRendering) (version : LegalDocumentVersion) : Prop :=
  Exists fun html => version.renderedHtml = some html ∧
    version.contentHash = rendering.legalContentHash html

theorem columns_of_content {left right : LegalDocumentVersion}
    (same : contentOf left = contentOf right) :
    left.id = right.id ∧ left.documentId = right.documentId ∧ left.renderedHtml = right.renderedHtml ∧
      left.contentHash = right.contentHash := by
  simp only [contentOf, LegalDocumentVersion.mk.injEq] at same
  exact ⟨same.1, same.2.1, same.2.2.2.2.1, same.2.2.2.2.2.2.2.2.2.2.2.2⟩

theorem Sealed.of_content {left right : LegalDocumentVersion} (isSealed : Sealed rendering right)
    (same : contentOf left = contentOf right) : Sealed rendering left := by
  rcases isSealed with ⟨html, rendered, hashed⟩
  rcases columns_of_content same with ⟨_, _, sameHtml, sameHash⟩
  exact ⟨html, sameHtml.trans rendered, sameHash.trans hashed⟩

structure Published (rendering : LegalRendering) (store : LegalStore) : Prop where
  pointed : forall document, document ∈ store.documents -> forall versionId,
    document.currentPublishedVersionId = some versionId ->
    Exists fun version => version ∈ store.versions ∧ version.id = versionId ∧
      version.documentId = document.id ∧ version.status = .published
  pointing : forall version, version ∈ store.versions -> version.status = .published ->
    Exists fun document => document ∈ store.documents ∧ document.id = version.documentId ∧
      document.currentPublishedVersionId = some version.id
  hashed : forall version, version ∈ store.versions -> version.status ≠ .draft ->
    Sealed rendering version

/-- What was published before is there after, with the same content. -/
def Frozen (before after : LegalStore) : Prop :=
  forall version, version ∈ before.versions -> version.status ≠ .draft ->
    Exists fun later => later ∈ after.versions ∧ contentOf later = contentOf version ∧
      later.status ≠ .draft

theorem frozen_refl (store : LegalStore) : Frozen store store :=
  fun version member issued => ⟨version, member, rfl, issued⟩

theorem Frozen.trans {middle : LegalStore} (first : Frozen before middle) (second : Frozen middle after) :
    Frozen before after := by
  intro version member issued
  rcases first version member issued with ⟨later, laterMember, same, laterIssued⟩
  rcases second later laterMember laterIssued with ⟨last, lastMember, lastSame, lastIssued⟩
  exact ⟨last, lastMember, lastSame.trans same, lastIssued⟩

theorem version_eq {left right : LegalDocumentVersion} (leftMember : left ∈ store.versions)
    (rightMember : right ∈ store.versions) (same : left.id = right.id) : left = right := by
  have inLeft : LegalDocumentVersion.Key.id left.id ∈ Keyed.keys left := List.mem_cons_self
  have inRight : LegalDocumentVersion.Key.id left.id ∈ Keyed.keys right := by
    rw [same]
    exact List.mem_cons_self
  exact store.versions.eq_of_common_key leftMember rightMember inLeft inRight

theorem document_eq {left right : LegalDocument} (leftMember : left ∈ store.documents)
    (rightMember : right ∈ store.documents) (same : left.id = right.id) : left = right := by
  have inLeft : LegalDocument.Key.id left.id ∈ Keyed.keys left := List.mem_cons_self
  have inRight : LegalDocument.Key.id left.id ∈ Keyed.keys right := by
    rw [same]
    exact List.mem_cons_self
  exact store.documents.eq_of_common_key leftMember rightMember inLeft inRight

theorem lookup_version {versionId : Id} {version : LegalDocumentVersion}
    (found : store.versions.lookup (.id versionId) = some version) :
    version ∈ store.versions ∧ version.id = versionId := by
  have key := store.versions.lookup_key found
  simp only [Keyed.keys, List.mem_cons, LegalDocumentVersion.Key.id.injEq, reduceCtorEq,
    List.not_mem_nil, or_false] at key
  exact ⟨store.versions.lookup_mem found, key.symm⟩

theorem lookup_document {documentId : Id}
    (found : store.documents.lookup (.id documentId) = some document) :
    document ∈ store.documents ∧ document.id = documentId := by
  have key := store.documents.lookup_key found
  simp only [Keyed.keys, List.mem_append, List.mem_cons, LegalDocument.Key.id.injEq, reduceCtorEq,
    List.not_mem_nil, or_false, List.mem_map, and_false, exists_false] at key
  exact ⟨store.documents.lookup_mem found, key.symm⟩

/-! ## What the statements write -/

/-- The rows of one version are rewritten, and nothing else. -/
theorem updateVersion_commits {versionId : Id} {data : LegalDocumentVersion -> LegalDocumentVersion}
    {keeps : forall version, Keyed.keys (data version) = Keyed.keys version}
    (commits : (updateVersion versionId data keeps).Commits before answer after) :
    after.documents = before.documents ∧
      after.versions.rows =
        before.versions.rows.map fun version => if version.id = versionId then data version else version := by
  simp only [updateVersion, Transaction.commits_bind, Transaction.commits_get, Transaction.commits_orFail,
    Transaction.commits_ite, Transaction.not_commits_throw, and_false, false_or,
    Transaction.commits_set] at commits
  rcases commits with ⟨_, _, ⟨rfl, rfl⟩, old, _, ⟨found, rfl⟩, _, rfl⟩
  refine ⟨rfl, List.map_congr_left ?_⟩
  intro version _
  simp only [decide_eq_true_eq]

theorem updateDocuments_commits {where' : LegalDocument -> Bool}
    (commits : (updateDocuments where' data).Commits before answer after) :
    after.versions = before.versions ∧
      after.documents.rows =
        before.documents.rows.map fun document => if where' document then data document else document := by
  simp only [updateDocuments, Transaction.commits_bind, Transaction.commits_get,
    Transaction.commits_orFail, Transaction.commits_set] at commits
  rcases commits with ⟨_, _, ⟨rfl, rfl⟩, documents, _, ⟨amended, rfl⟩, rfl⟩
  exact ⟨rfl, before.documents.rows_amend amended⟩

theorem updateDocument_commits {documentId : Id}
    (commits : (updateDocument documentId data).Commits before answer after) :
    after.versions = before.versions ∧
      after.documents.rows = before.documents.rows.map fun document =>
        if document.id = documentId then data document else document := by
  simp only [updateDocument, Transaction.commits_bind, Transaction.commits_get,
    Transaction.commits_orFail] at commits
  rcases commits with ⟨_, _, ⟨rfl, rfl⟩, _, _, ⟨_, rfl⟩, updated⟩
  have written := updateDocuments_commits updated
  refine ⟨written.1, written.2.trans (List.map_congr_left ?_)⟩
  intro document _
  simp only [decide_eq_true_eq]

theorem archivePrevious_commits {previous : Option Id} {now : Time}
    (commits : (archivePrevious previous now).Commits before answer after) :
    after.documents = before.documents ∧
      after.versions.rows = before.versions.rows.map fun version =>
        if previous = some version.id then archived now version else version := by
  cases previous with
  | none =>
    simp only [archivePrevious, Transaction.commits_pure] at commits
    rw [commits.2]
    simp only [reduceCtorEq, if_false, List.map_id', and_self]
  | some versionId =>
    have written := updateVersion_commits commits
    refine ⟨written.1, written.2.trans (List.map_congr_left ?_)⟩
    intro version _
    simp only [Option.some.injEq, eq_comm]

/-! ## A document is pointed elsewhere -/

/-- What becomes of a version when the document of `pointer` is pointed to
`target`. -/
inductive Turns (rendering : LegalRendering) (pointer target : Option Id)
    (version later : LegalDocumentVersion) : Prop
  | published (isTarget : target = some version.id) (draft : version.status = .draft)
    (status : later.status = .published) (isSealed : Sealed rendering later)
    (sameId : later.id = version.id) (sameDocument : later.documentId = version.documentId)
  | restored (isTarget : target = some version.id) (issued : version.status ≠ .draft)
    (status : later.status = .published) (same : contentOf later = contentOf version)
  | archived (other : target ≠ some version.id) (isPointer : pointer = some version.id)
    (status : later.status = .archived) (same : contentOf later = contentOf version)
  | same (other : target ≠ some version.id) (unpointed : pointer ≠ some version.id)
    (same : later = version)

theorem Turns.sameRow {pointer : Option Id} {version later : LegalDocumentVersion}
    (turns : Turns rendering pointer target version later) :
    later.id = version.id ∧ later.documentId = version.documentId := by
  cases turns with
  | published isTarget draft status isSealed sameId sameDocument => exact ⟨sameId, sameDocument⟩
  | restored isTarget issued status same => exact (columns_of_content same).imp_right And.left
  | archived other isPointer status same => exact (columns_of_content same).imp_right And.left
  | same other unpointed same => exact same ▸ ⟨rfl, rfl⟩

structure Repoints (rendering : LegalRendering) (document : LegalDocument) (target : Option Id)
    (before after : LegalStore) : Prop where
  member : document ∈ before.documents
  owned : forall versionId, target = some versionId -> Exists fun version =>
    version ∈ before.versions ∧ version.id = versionId ∧ version.documentId = document.id
  documents : Exists fun change : LegalDocument -> LegalDocument =>
    after.documents.rows = before.documents.rows.map change ∧
    (forall other, other ∈ before.documents -> other.id ≠ document.id -> change other = other) ∧
    (change document).id = document.id ∧ (change document).currentPublishedVersionId = target
  versions : Exists fun change : LegalDocumentVersion -> LegalDocumentVersion =>
    after.versions.rows = before.versions.rows.map change ∧
    forall version, version ∈ before.versions ->
      Turns rendering document.currentPublishedVersionId target version (change version)

/-- The document of a row, once its row is known. -/
theorem Repoints.published (repoints : Repoints rendering document target before after)
    (holds : Published rendering before) :
    Published rendering after := by
  rcases repoints.documents with ⟨redocument, documentRows, elsewhere, sameId, repointed⟩
  rcases repoints.versions with ⟨reversion, versionRows, turns⟩
  have ofTarget : forall version, version ∈ before.versions -> target = some version.id ->
      version.documentId = document.id := by
    intro version member isTarget
    rcases repoints.owned version.id isTarget with ⟨other, otherMember, same, owned⟩
    rw [← version_eq otherMember member same]
    exact owned
  constructor
  · intro later laterMember versionId points
    rcases (Table.mem_of_rows documentRows).mp laterMember with ⟨earlier, earlierMember, rfl⟩
    by_cases here : earlier.id = document.id
    · have isDocument := document_eq earlierMember repoints.member here
      subst isDocument
      rw [repointed] at points
      rcases repoints.owned versionId points with ⟨version, member, rfl, owned⟩
      refine ⟨reversion version, (Table.mem_of_rows versionRows).mpr ⟨version, member, rfl⟩, ?_⟩
      have turned := turns version member
      have row := turned.sameRow
      refine ⟨row.1, row.2.trans (owned.trans sameId.symm), ?_⟩
      cases turned with
      | published isTarget draft status => exact status
      | restored isTarget issued status => exact status
      | archived other => exact absurd points other
      | same other => exact absurd points other
    · rw [elsewhere earlier earlierMember here] at points ⊢
      rcases holds.pointed earlier earlierMember versionId points with ⟨version, member, rfl, owned, isPublished⟩
      have apart : version.documentId ≠ document.id := fun same => here (owned.symm.trans same)
      refine ⟨version, (Table.mem_of_rows versionRows).mpr ⟨version, member, ?_⟩, rfl, owned, isPublished⟩
      cases turns version member with
      | published isTarget => exact absurd (ofTarget version member isTarget) apart
      | restored isTarget => exact absurd (ofTarget version member isTarget) apart
      | archived other isPointer =>
        rcases holds.pointed document repoints.member version.id isPointer with ⟨pointed, pointedMember,
          sameVersion, pointedOwned, _⟩
        rw [version_eq pointedMember member sameVersion] at pointedOwned
        exact absurd pointedOwned apart
      | same other unpointed same => exact same
  · intro later laterMember isPublished
    rcases (Table.mem_of_rows versionRows).mp laterMember with ⟨version, member, rfl⟩
    have turned := turns version member
    have row := turned.sameRow
    have targeted : target = some version.id -> Exists fun found => found ∈ after.documents ∧
        found.id = (reversion version).documentId ∧
          found.currentPublishedVersionId = some (reversion version).id := by
      intro isTarget
      refine ⟨redocument document, (Table.mem_of_rows documentRows).mpr ⟨document, repoints.member, rfl⟩, ?_⟩
      rw [sameId, row.1, row.2, repointed]
      exact ⟨(ofTarget version member isTarget).symm, isTarget⟩
    cases turned with
    | published isTarget => exact targeted isTarget
    | restored isTarget => exact targeted isTarget
    | archived other isPointer status =>
      rw [status] at isPublished
      cases isPublished
    | same other unpointed same =>
      rw [same] at isPublished ⊢
      rcases holds.pointing version member isPublished with ⟨owner, ownerMember, isOwner, points⟩
      have elsewhereOwner : owner.id ≠ document.id := by
        intro here
        rw [document_eq ownerMember repoints.member here] at points
        exact unpointed points
      refine ⟨owner, (Table.mem_of_rows documentRows).mpr ⟨owner, ownerMember, ?_⟩, isOwner, points⟩
      exact elsewhere owner ownerMember elsewhereOwner
  · intro later laterMember issued
    rcases (Table.mem_of_rows versionRows).mp laterMember with ⟨version, member, rfl⟩
    cases turns version member with
    | published isTarget draft status isSealed => exact isSealed
    | restored isTarget wasIssued status same => exact (holds.hashed version member wasIssued).of_content same
    | archived other isPointer status same =>
      rcases holds.pointed document repoints.member version.id isPointer with ⟨pointed, pointedMember,
        sameVersion, _, wasPublished⟩
      rw [version_eq pointedMember member sameVersion] at wasPublished
      have wasIssued : version.status ≠ .draft := by
        rw [wasPublished]
        decide
      exact (holds.hashed version member wasIssued).of_content same
    | same other unpointed same =>
      rw [same] at issued ⊢
      exact holds.hashed version member issued

theorem Repoints.frozen (repoints : Repoints rendering document target before after) :
    Frozen before after := by
  rcases repoints.versions with ⟨reversion, versionRows, turns⟩
  intro version member issued
  refine ⟨reversion version, (Table.mem_of_rows versionRows).mpr ⟨version, member, rfl⟩, ?_⟩
  cases turns version member with
  | published isTarget draft => exact absurd draft issued
  | restored isTarget wasIssued status same => exact ⟨same, by rw [status]; decide⟩
  | archived other isPointer status same => exact ⟨same, by rw [status]; decide⟩
  | same other unpointed same =>
    rw [same]
    exact ⟨rfl, issued⟩

/-! ## What is published stays as it is -/

/-- Drafts may change, come and go; a pointer and what it points to do not. -/
structure KeepsPublished (before after : LegalStore) : Prop where
  versions : forall version, version.status ≠ .draft ->
    (version ∈ after.versions ↔ version ∈ before.versions)
  documents : forall documentId versionId,
    (Exists fun document => document ∈ after.documents ∧ document.id = documentId ∧
      document.currentPublishedVersionId = some versionId) ↔
    Exists fun document => document ∈ before.documents ∧ document.id = documentId ∧
      document.currentPublishedVersionId = some versionId

theorem KeepsPublished.published (keeps : KeepsPublished before after)
    (holds : Published rendering before) : Published rendering after := by
  have issued : forall version : LegalDocumentVersion, version.status = .published ->
      version.status ≠ .draft := by
    intro version isPublished
    rw [isPublished]
    decide
  constructor
  · intro document member versionId points
    rcases (keeps.documents document.id versionId).mp ⟨document, member, rfl, points⟩ with ⟨earlier,
      earlierMember, sameId, earlierPoints⟩
    rcases holds.pointed earlier earlierMember versionId earlierPoints with ⟨version, versionMember,
      isVersion, owned, isPublished⟩
    exact ⟨version, (keeps.versions version (issued version isPublished)).mpr versionMember, isVersion,
      owned.trans sameId, isPublished⟩
  · intro version member isPublished
    have earlier := (keeps.versions version (issued version isPublished)).mp member
    rcases holds.pointing version earlier isPublished with ⟨document, documentMember, isOwner, points⟩
    exact (keeps.documents version.documentId version.id).mpr ⟨document, documentMember, isOwner, points⟩
  · intro version member wasIssued
    exact holds.hashed version ((keeps.versions version wasIssued).mp member) wasIssued

theorem KeepsPublished.frozen (keeps : KeepsPublished before after) : Frozen before after :=
  fun version member issued => ⟨version, (keeps.versions version issued).mpr member, rfl, issued⟩

end Legal
end DigitalSolutions
