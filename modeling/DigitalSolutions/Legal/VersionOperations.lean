import DigitalSolutions.Accounts.CustomerRecords
import DigitalSolutions.Foundation.Processes

namespace DigitalSolutions
namespace Legal

open Foundation Persistence

/-!
# Legal documents and their versions

The rows with the constraints and triggers of the migration, and the
operations of the administration.  The serializable transactions read a
snapshot, and may write a row only as long as it is the row of their snapshot;
this is what the database guarantees of them without regard to the other
transactions.  The deletion of a draft runs at the default isolation level: it
reads, and deletes the row that is there when it has the lock.
-/

inductive LegalDocumentStatus
  | active | archived
  deriving DecidableEq

structure LegalDocument where
  id : Id
  title : String
  slug : String
  documentType : String
  status : LegalDocumentStatus
  currentPublishedVersionId : Option Id
  deriving DecidableEq

inductive LegalDocument.Key
  | id (value : Id) | slug (value : String) | documentType (value : String)
  | currentPublishedVersionId (value : Id)
  deriving DecidableEq

instance : Keyed LegalDocument LegalDocument.Key where
  keys document := [.id document.id, .slug document.slug, .documentType document.documentType] ++
    document.currentPublishedVersionId.toList.map .currentPublishedVersionId

inductive LegalVersionStatus
  | draft | published | archived
  deriving DecidableEq

structure LegalDocumentVersion where
  id : Id
  documentId : Id
  versionNumber : Int
  markdownContent : String
  renderedHtml : Option String
  status : LegalVersionStatus
  effectiveAt : Option Time
  publishedAt : Option Time
  archivedAt : Option Time
  authorId : Option Id
  changeSummary : String
  requiresReacceptance : Bool
  contentHash : String
  deriving DecidableEq

inductive LegalDocumentVersion.Key
  | id (value : Id) | versionNumber (documentId : Id) (value : Int)
  deriving DecidableEq

instance : Keyed LegalDocumentVersion LegalDocumentVersion.Key where
  keys version := [.id version.id, .versionNumber version.documentId version.versionNumber]

structure LegalStore where
  documents : Table LegalDocument
  versions : Table LegalDocumentVersion
  auditLogs : List Accounts.AuditLog
  deriving DecidableEq

inductive LegalError
  | message (text : String)
  | recordNotFound | uniqueViolation | serializationFailure
  /-- What the trigger raises. -/
  | protectedVersion
  deriving DecidableEq

abbrev LegalTx (Value : Type) := Transaction LegalError LegalStore Value

/-- The renderer of the legal package under the variables of the host, and the
hash of its output. -/
structure LegalRendering where
  renderLegalMarkdown : String -> String
  legalContentHash : String -> String

/-! ## Statements -/

/-- `bke_protect_published_legal_version`, on an update. -/
def protectsUpdate (old new : LegalDocumentVersion) : Bool :=
  (old.status = .published || old.status = .archived) &&
    (new.markdownContent ≠ old.markdownContent || new.contentHash ≠ old.contentHash ||
      new.versionNumber ≠ old.versionNumber || new.documentId ≠ old.documentId ||
      new.publishedAt ≠ old.publishedAt || new.authorId ≠ old.authorId)

/-- `bke_protect_published_legal_version`, on a deletion. -/
def protectsDeletion (old : LegalDocumentVersion) : Bool :=
  old.status = .published || old.status = .archived

def updateVersion (versionId : Id) (data : LegalDocumentVersion -> LegalDocumentVersion)
    (keeps : forall version, Keyed.keys (data version) = Keyed.keys version) : LegalTx Unit := do
  let store <- get
  let old <- Transaction.orFail .recordNotFound (store.versions.lookup (.id versionId))
  if protectsUpdate old (data old) then
    throw .protectedVersion
  else
    set { store with
      versions := store.versions.update (fun version => version.id = versionId) data
        fun version _ => keeps version }

/-- UPDATE … WHERE on the documents. -/
def updateDocuments (where' : LegalDocument -> Bool) (data : LegalDocument -> LegalDocument) :
    LegalTx Unit := do
  let store <- get
  let documents <- Transaction.orFail .uniqueViolation (store.documents.amend where' data)
  set { store with documents }

def updateDocument (documentId : Id) (data : LegalDocument -> LegalDocument) : LegalTx Unit := do
  let store <- get
  let _ <- Transaction.orFail .recordNotFound (store.documents.lookup (.id documentId))
  updateDocuments (fun document => document.id = documentId) data

def audit (actorId : Id) (action targetType : String) (targetId : Id) (metadata : Json) : LegalTx Unit :=
  modify fun store =>
    { store with auditLogs := store.auditLogs ++ [⟨actorId, action, targetType, targetId, metadata⟩] }

/-! ## Operations on a version -/

inductive VersionAction
  | edit (markdownContent changeSummary : String) (requiresReacceptance : Bool)
  | publish (effectiveAt : Option Time)
  | archive
  | restore

/-- What a transaction reads of the version it is about; `previous` is the row
that the document points to. -/
structure VersionReads where
  version : LegalDocumentVersion
  document : LegalDocument
  previous : Option LegalDocumentVersion

def readVersion (versionId : Id) (store : LegalStore) : Except LegalError VersionReads :=
  match store.versions.lookup (.id versionId) with
  | none => .error .recordNotFound
  | some version =>
    match store.documents.lookup (.id version.documentId) with
    | none => .error .recordNotFound
    | some document => .ok ⟨version, document, document.currentPublishedVersionId.bind fun previous =>
        store.versions.lookup (.id previous)⟩

/-- The checks of an action on what was read. -/
def checkAction (version : LegalDocumentVersion) : VersionAction -> Except LegalError Unit
  | .edit _ _ _ | .publish _ =>
    if version.status ≠ .draft then .error (.message "LEGAL_VERSION_IMMUTABLE") else .ok ()
  | .archive => if version.status ≠ .published then .error (.message "INVALID_STATE") else .ok ()
  | .restore =>
    if version.status ≠ .archived then .error (.message "INVALID_STATE")
    else if version.publishedAt = none then .error (.message "LEGAL_VERSION_NOT_PUBLISHED")
    else .ok ()

variable (rendering : LegalRendering)

def archived (now : Time) (version : LegalDocumentVersion) : LegalDocumentVersion :=
  { version with status := .archived, archivedAt := some now }

def edited (markdownContent changeSummary : String) (requiresReacceptance : Bool)
    (version : LegalDocumentVersion) : LegalDocumentVersion :=
  let renderedHtml := rendering.renderLegalMarkdown markdownContent
  { version with
    markdownContent
    renderedHtml := some renderedHtml
    contentHash := rendering.legalContentHash renderedHtml
    changeSummary
    requiresReacceptance }

/-- `read` is the version as the transaction has read it. -/
def published (read : LegalDocumentVersion) (effectiveAt : Option Time) (now : Time)
    (version : LegalDocumentVersion) : LegalDocumentVersion :=
  let renderedHtml := read.renderedHtml.getD (rendering.renderLegalMarkdown read.markdownContent)
  { version with
    status := .published
    renderedHtml := some renderedHtml
    contentHash := rendering.legalContentHash renderedHtml
    publishedAt := some now
    effectiveAt := some (effectiveAt.getD now) }

def restored (version : LegalDocumentVersion) : LegalDocumentVersion :=
  { version with status := .published, archivedAt := none }

def pointTo (versionId : Id) (document : LegalDocument) : LegalDocument :=
  { document with currentPublishedVersionId := some versionId, status := .active }

/-- The version that the document points to is archived, unless it is the one
that takes its place. -/
def archivePrevious (previous : Option Id) (now : Time) : LegalTx Unit :=
  match previous with
  | some versionId => updateVersion versionId (archived now) (fun _ => rfl)
  | none => pure ()

def writeAction (actorId : Id) (reads : VersionReads) (now : Time) : VersionAction -> LegalTx Unit
  | .edit markdownContent changeSummary requiresReacceptance => do
    updateVersion reads.version.id (edited rendering markdownContent changeSummary requiresReacceptance)
      (fun _ => rfl)
    audit actorId "LEGAL_DRAFT_UPDATED" "LegalDocumentVersion" reads.version.id
      (.object [("documentId", .string reads.version.documentId)])
  | .publish effectiveAt => do
    archivePrevious reads.document.currentPublishedVersionId now
    updateVersion reads.version.id (published rendering reads.version effectiveAt now) (fun _ => rfl)
    updateDocument reads.version.documentId (pointTo reads.version.id)
    audit actorId "LEGAL_VERSION_PUBLISHED" "LegalDocumentVersion" reads.version.id
      (.object [("documentId", .string reads.version.documentId),
        ("versionNumber", .number (toString reads.version.versionNumber)),
        ("requiresReacceptance", .bool reads.version.requiresReacceptance)])
  | .archive => do
    updateDocuments
      (fun document => document.id = reads.version.documentId &&
        document.currentPublishedVersionId = some reads.version.id)
      (fun document => { document with currentPublishedVersionId := none })
    updateVersion reads.version.id (archived now) (fun _ => rfl)
    audit actorId "LEGAL_VERSION_ARCHIVED" "LegalDocumentVersion" reads.version.id
      (.object [("documentId", .string reads.version.documentId)])
  | .restore => do
    archivePrevious
      (reads.document.currentPublishedVersionId.filter fun previous => previous ≠ reads.version.id) now
    updateVersion reads.version.id restored (fun _ => rfl)
    updateDocument reads.version.documentId (pointTo reads.version.id)
    audit actorId "LEGAL_VERSION_RESTORED" "LegalDocumentVersion" reads.version.id
      (.object [("documentId", .string reads.version.documentId),
        ("replacedVersionId", (reads.document.currentPublishedVersionId.map Json.string).getD .null)])

/-- The rows that the writes of an action touch are those of the snapshot. -/
def unchanged (reads : VersionReads) (action : VersionAction) (store : LegalStore) : Bool :=
  let versionUnchanged := store.versions.lookup (.id reads.version.id) = some reads.version
  let documentUnchanged := store.documents.lookup (.id reads.document.id) = some reads.document
  let previousUnchanged := reads.document.currentPublishedVersionId.all fun previous =>
    store.versions.lookup (.id previous) = reads.previous
  match action with
  | .edit _ _ _ => versionUnchanged
  | .publish _ | .restore => versionUnchanged && documentUnchanged && previousUnchanged
  | .archive => versionUnchanged &&
      (reads.document.currentPublishedVersionId ≠ some reads.version.id || documentUnchanged)

/-! ## The other operations -/

structure VersionInput where
  documentId : Id
  markdownContent : Option String
  changeSummary : String
  requiresReacceptance : Bool
  duplicateVersionId : Option Id

/-- A version as it will be inserted, with the document that was locked. -/
structure VersionDraft where
  document : LegalDocument
  versionNumber : Int
  markdownContent : String

def latestVersionNumber (documentId : Id) (store : LegalStore) : Int :=
  ((store.versions.select fun version => version.documentId = documentId).map
    LegalDocumentVersion.versionNumber).max?.getD 0

/-- The reads of the creation of a version. -/
def draftVersion (input : VersionInput) (store : LegalStore) : Except LegalError VersionDraft :=
  match store.documents.lookup (.id input.documentId) with
  | none => .error .recordNotFound
  | some document => do
    let duplicate <- match input.duplicateVersionId with
      | none => pure none
      | some versionId =>
        match (store.versions.lookup (.id versionId)).filter fun version =>
            version.documentId = input.documentId with
        | none => throw LegalError.recordNotFound
        | some version => pure (some version.markdownContent)
    match input.markdownContent <|> duplicate with
    | none => throw (.message "LEGAL_CONTENT_REQUIRED")
    | some markdownContent =>
      if markdownContent = "" then throw (.message "LEGAL_CONTENT_REQUIRED")
      else pure ⟨document, latestVersionNumber input.documentId store + 1, markdownContent⟩

def insertVersion (actorId : Id) (input : VersionInput) (draft : VersionDraft) (versionId : Id) :
    LegalTx Unit := do
  let renderedHtml := rendering.renderLegalMarkdown draft.markdownContent
  let store <- get
  let versions <- Transaction.orFail .uniqueViolation (store.versions.insert
    { id := versionId
      documentId := input.documentId
      versionNumber := draft.versionNumber
      markdownContent := draft.markdownContent
      renderedHtml := some renderedHtml
      status := .draft
      effectiveAt := none
      publishedAt := none
      archivedAt := none
      authorId := some actorId
      changeSummary := input.changeSummary
      requiresReacceptance := input.requiresReacceptance
      contentHash := rendering.legalContentHash renderedHtml })
  set { store with versions }
  audit actorId
    (if input.duplicateVersionId.isSome then "LEGAL_VERSION_DUPLICATED" else "LEGAL_DRAFT_CREATED")
    "LegalDocumentVersion" versionId
    (.object [("documentId", .string input.documentId),
      ("versionNumber", .number (toString draft.versionNumber))])

/-- The deletion of a version that was read as a draft.  The foreign key of the
documents is set null. -/
def deleteVersion (actorId : Id) (read : LegalDocumentVersion) : LegalTx Unit := do
  let store <- get
  let old <- Transaction.orFail .recordNotFound (store.versions.lookup (.id read.id))
  if protectsDeletion old then
    throw .protectedVersion
  else
    set { store with versions := store.versions.delete fun version => version.id = read.id }
    updateDocuments (fun document => document.currentPublishedVersionId = some read.id)
      (fun document => { document with currentPublishedVersionId := none })
    audit actorId "LEGAL_DRAFT_DELETED" "LegalDocumentVersion" read.id
      (.object [("documentId", .string read.documentId),
        ("versionNumber", .number (toString read.versionNumber))])

structure DocumentInput where
  title : String
  slug : String
  documentType : String

def createDocument (actorId : Id) (input : DocumentInput) (documentId : Id) : LegalTx Unit := do
  let store <- get
  let documents <- Transaction.orFail .uniqueViolation (store.documents.insert
    ⟨documentId, input.title, input.slug, input.documentType, .active, none⟩)
  set { store with documents }
  audit actorId "LEGAL_DOCUMENT_CREATED" "LegalDocument" documentId
    (.object [("slug", .string input.slug), ("documentType", .string input.documentType)])

def patchDocument (actorId documentId : Id) (title : Option String)
    (status : Option LegalDocumentStatus) : LegalTx Unit := do
  updateDocument documentId fun document =>
    { document with title := title.getD document.title, status := status.getD document.status }
  audit actorId
    (if status = some .archived then "LEGAL_DOCUMENT_ARCHIVED"
      else if status = some .active then "LEGAL_DOCUMENT_RESTORED" else "LEGAL_DOCUMENT_UPDATED")
    "LegalDocument" documentId
    (.object [("fields", .array
      ((title.map fun _ => Json.string "title").toList ++
        (status.map fun _ => Json.string "status").toList))])

/-! ## How they run -/

inductive LegalRequest
  | patchVersion (versionId : Id) (action : VersionAction)
  | createVersion (input : VersionInput)
  | deleteVersion (versionId : Id)
  | createDocument (input : DocumentInput)
  | patchDocument (documentId : Id) (title : Option String) (status : Option LegalDocumentStatus)

/-- What a transaction has in hand after its reads. -/
inductive LegalDeed
  | action (reads : VersionReads) (action : VersionAction)
  | insertion (input : VersionInput) (draft : VersionDraft)
  | deletion (read : LegalDocumentVersion)
  | newDocument (input : DocumentInput)
  | documentPatch (documentId : Id) (title : Option String) (status : Option LegalDocumentStatus)

inductive LegalPoint
  | called (actorId : Id) (request : LegalRequest)
  | writing (actorId : Id) (deed : LegalDeed)

def prepare (request : LegalRequest) (store : LegalStore) : Except LegalError LegalDeed :=
  match request with
  | .patchVersion versionId action => do
    let reads <- readVersion versionId store
    checkAction reads.version action
    return .action reads action
  | .createVersion input => do
    let draft <- draftVersion input store
    return .insertion input draft
  | .deleteVersion versionId =>
    match store.versions.lookup (.id versionId) with
    | none => .error .recordNotFound
    | some version =>
      if version.status ≠ .draft then .error (.message "LEGAL_VERSION_IMMUTABLE")
      else .ok (.deletion version)
  | .createDocument input => .ok (.newDocument input)
  | .patchDocument documentId title status => .ok (.documentPatch documentId title status)

/-- The writes of a transaction, and its commit.  `fresh` is the id of a row it
creates. -/
def commitDeed (actorId : Id) (now : Time) (fresh : Id) : LegalDeed -> LegalTx Unit
  | .action reads action => do
    let store <- get
    if unchanged reads action store then writeAction rendering actorId reads now action
    else throw .serializationFailure
  | .insertion input draft => do
    let store <- get
    if store.documents.lookup (.id draft.document.id) = some draft.document then
      insertVersion rendering actorId input draft fresh
    else throw .serializationFailure
  | .deletion read => deleteVersion actorId read
  | .newDocument input => createDocument actorId input fresh
  | .documentPatch documentId title status => patchDocument actorId documentId title status

def advanceLegal (store : LegalStore) (point : LegalPoint) (input : Time × Id) :
    Except LegalError (LegalStore × Option LegalPoint) :=
  match point with
  | .called actorId request =>
    match prepare request store with
    | .ok deed => .ok (store, some (.writing actorId deed))
    | .error _ => .ok (store, none)
  | .writing actorId deed =>
    match (commitDeed rendering actorId input.1 input.2 deed).run store with
    | .ok (_, after) => .ok (after, none)
    | .error _ => .ok (store, none)

/-- The tables have no other writers. -/
def legalProtocol :
    Protocol LegalStore (Id × LegalRequest) LegalPoint (Time × Id) Empty LegalError where
  enter call := .called call.1 call.2
  advance := advanceLegal rendering
  ambient _ event := nomatch event

end Legal
end DigitalSolutions
