import DigitalSolutions.Backups.BackupSteps

namespace DigitalSolutions
namespace Backups

open Foundation Persistence

/-!
# What an available archive restores

The dump, the listing of the bucket and the expected keys are read one after the
other.  What the dump refers to is in the manifest if it leaves a trace that one
of the later reads comes upon.
-/

variable {environment : BackupEnvironment} {platform : BackupPlatform} {before after : BackupStore}
variable {operation : BackupOperation} {draft : ArchiveDraft} {key : String}

/-! ## The traces of a key -/

namespace TaskPoint

def draft? : TaskPoint -> Option ArchiveDraft
  | .storingDatabase draft _ | .listing draft _ | .expecting draft _ | .copying draft _
  | .storingObject draft _ _ _ | .storingManifest draft | .recording draft => some draft
  | _ => none

/-- The listing has still to come to the place of the key. -/
def unlisted (point : TaskPoint) (key : String) : Bool :=
  match point with
  | .storingDatabase _ _ => true
  | .listing _ after => isAfter after key
  | _ => false

/-- The tables that are still to be asked. -/
def pending : TaskPoint -> List ReferenceTable
  | .storingDatabase _ _ | .listing _ _ => referenceTables
  | .expecting _ pending => pending
  | _ => []

end TaskPoint

/-- The key has been listed or found in a table, or one of the reads to come
will still come upon it. -/
def isTraced (store : BackupStore) (point : TaskPoint) (draft : ArchiveDraft) (key : String) : Bool :=
  draft.listed.contains key || draft.expected.contains key || (point.unlisted key && store.source.has key) ||
    point.pending.any fun table => (store.live.referencesOf table).contains key

theorem isTraced_iff {store : BackupStore} {point : TaskPoint} :
    isTraced store point draft key = true ↔ key ∈ draft.listed ∨ key ∈ draft.expected ∨
      (point.unlisted key = true ∧ key ∈ store.source.keys) ∨
      Exists fun table => table ∈ point.pending ∧ key ∈ store.live.referencesOf table := by
  simp only [isTraced, Bool.or_eq_true, Bool.and_eq_true, List.contains_eq_mem, decide_eq_true_eq,
    List.any_eq_true, InsertionMap.mem_keys_iff, or_assoc]

/-- The copies made so far are those of the keys that were listed first. -/
def Copied : TaskPoint -> Prop
  | .storingDatabase draft _ | .listing draft _ | .expecting draft _ => draft.objects = []
  | .copying draft remaining =>
    draft.objects.map EncryptedArtifact.sourceKey ++ remaining = draft.listed
  | .storingObject draft entry _ remaining =>
    draft.objects.map EncryptedArtifact.sourceKey ++ entry.sourceKey :: remaining = draft.listed
  | .storingManifest draft | .recording draft =>
    draft.objects.map EncryptedArtifact.sourceKey = draft.listed
  | _ => True

/-- What the work of an operation relies on. -/
structure TaskTraced (store : BackupStore) (point : TaskPoint) : Prop where
  copied : Copied point
  traced : forall draft, point.draft? = some draft -> forall key, key ∈ draft.dumped.references ->
    isTraced store point draft key = true

def PointTraced (store : BackupStore) (point : BackupPoint) : Prop :=
  forall operation task, point = .executing operation task -> TaskTraced store task

/-! ## The reads of a creation -/

theorem isUpTo_false {upTo : Option String} (beyond : isUpTo upTo key = false) :
    Exists fun last => upTo = some last ∧ isAfter (some last) key = true := by
  cases upTo with
  | none => cases beyond
  | some last =>
    refine ⟨last, rfl, ?_⟩
    rw [isUpTo, Option.all_some, decide_eq_false_iff_not] at beyond
    rw [isAfter, Option.all_some, decide_eq_true_eq]
    exact lt_of_not_ge beyond

theorem TaskTraced.of_loaded {archive : BackupArchive} {now : Time} {next : TaskPoint}
    (isLoaded : loaded platform operation archive now = .next next) : TaskTraced before next := by
  have noDraft : Copied next ∧ next.draft? = none := by
    unfold loaded at isLoaded
    split at isLoaded
    · split at isLoaded
      · cases isLoaded
        exact ⟨trivial, rfl⟩
      · split at isLoaded
        · cases isLoaded
        · cases isLoaded
          exact ⟨trivial, rfl⟩
    · cases isLoaded
      exact ⟨trivial, rfl⟩
    · cases isLoaded
      exact ⟨trivial, rfl⟩
    · cases isLoaded
      exact ⟨trivial, rfl⟩
    · split at isLoaded
      · cases isLoaded
      · cases isLoaded
        exact ⟨trivial, rfl⟩
  refine ⟨noDraft.1, ?_⟩
  intro draft isDraft
  rw [noDraft.2] at isDraft
  cases isDraft

theorem taskTraced_of_no_draft {store : BackupStore} {point : TaskPoint} (copied : Copied point)
    (none' : point.draft? = none) : TaskTraced store point := by
  refine ⟨copied, ?_⟩
  intro draft isDraft
  rw [none'] at isDraft
  cases isDraft

/-- A key that the dump refers to is referred to when the dump is made. -/
theorem TaskTraced.dumped {backupId : Id} {storagePrefix iv : String} :
    TaskTraced before (.storingDatabase (openDraft platform backupId storagePrefix before.live iv).1
      (openDraft platform backupId storagePrefix before.live iv).2) where
  copied := rfl
  traced draft isDraft key member := by
    cases isDraft
    rw [isTraced_iff]
    rcases List.mem_flatMap.mp member with ⟨table, isTable, refers⟩
    exact Or.inr (Or.inr (Or.inr ⟨table, isTable, refers⟩))

/-- A page takes up what it passes. -/
theorem TaskTraced.page {after : Option String} (traced : TaskTraced before (.listing draft after))
    (upTo : Option String) : forall next, next = (match upTo with
      | some last => TaskPoint.listing { draft with listed := draft.listed ++ listedPage before.source after upTo }
          (some last)
      | none => .expecting { draft with listed := draft.listed ++ listedPage before.source after upTo }
          referenceTables) -> TaskTraced before next := by
  intro next isNext
  have kept : forall key, key ∈ draft.dumped.references ->
      isTraced before next { draft with listed := draft.listed ++ listedPage before.source after upTo } key = true := by
    intro key member
    rw [isTraced_iff]
    rcases isTraced_iff.mp (traced.traced draft rfl key member) with
      listed | expected | ⟨unlisted, present⟩ | ⟨table, isTable, refers⟩
    · exact Or.inl (List.mem_append_left _ listed)
    · exact Or.inr (Or.inl expected)
    · cases upToKey : isUpTo upTo key with
      | true =>
        apply Or.inl
        apply List.mem_append_right
        rw [listedPage, List.mem_filter, Bool.and_eq_true]
        exact ⟨present, unlisted, upToKey⟩
      | false =>
        rcases isUpTo_false upToKey with ⟨last, rfl, beyond⟩
        subst isNext
        exact Or.inr (Or.inr (Or.inl ⟨beyond, present⟩))
    · refine Or.inr (Or.inr (Or.inr ⟨table, ?_, refers⟩))
      subst isNext
      cases upTo with
      | none => exact isTable
      | some last => exact isTable
  subst isNext
  cases upTo with
  | none =>
    refine ⟨traced.copied, ?_⟩
    intro other isDraft
    cases isDraft
    exact kept
  | some last =>
    refine ⟨traced.copied, ?_⟩
    intro other isDraft
    cases isDraft
    exact kept

theorem TaskTraced.expected {table : ReferenceTable} {pending : List ReferenceTable}
    (traced : TaskTraced before (.expecting draft (table :: pending))) :
    TaskTraced before
      (.expecting { draft with expected := draft.expected ++ before.live.referencesOf table } pending) where
  copied := traced.copied
  traced other isDraft key member := by
    cases isDraft
    rw [isTraced_iff]
    rcases isTraced_iff.mp (traced.traced draft rfl key member) with
      listed | expected | ⟨unlisted, _⟩ | ⟨other, isTable, refers⟩
    · exact Or.inl listed
    · exact Or.inr (Or.inl (List.mem_append_left _ expected))
    · cases unlisted
    · rcases List.mem_cons.mp isTable with rfl | later
      · exact Or.inr (Or.inl (List.mem_append_right _ refers))
      · exact Or.inr (Or.inr (Or.inr ⟨other, later, refers⟩))

/-- With the same live system the traces are the same. -/
theorem TaskTraced.same {point : TaskPoint} (traced : TaskTraced before point)
    (live : after.live = before.live) (source : after.source = before.source) :
    TaskTraced after point := by
  refine ⟨traced.copied, ?_⟩
  intro draft isDraft key member
  unfold isTraced
  rw [live, source]
  exact traced.traced draft isDraft key member

/-- The next point relies on the traces as the one before did. -/
theorem workStep_traced {draw : BackupDraw} {point next : TaskPoint} (traced : TaskTraced before point)
    (moved : (workStep platform operation before draw point).2 = .next next) : TaskTraced before next := by
  cases point with
  | loading =>
    simp only [workStep] at moved
    split at moved
    · cases moved
    · split at moved
      · cases moved
      · exact .of_loaded moved
  | dumping backupId storagePrefix =>
    cases moved
    exact .dumped
  | storingDatabase draft bytes =>
    cases moved
    exact ⟨traced.copied, traced.traced⟩
  | listing draft after =>
    simp only [workStep] at moved
    apply traced.page (pageEnd after draw.upTo)
    split at moved
    · rename_i last isLast
      cases moved
      rw [isLast]
    · rename_i isLast
      cases moved
      rw [isLast]
  | expecting draft pending =>
    cases pending with
    | nil =>
      cases moved
      refine ⟨?_, traced.traced⟩
      have empty : draft.objects = [] := traced.copied
      simp only [Copied, empty, List.map_nil, List.nil_append]
    | cons table pending =>
      cases moved
      exact traced.expected
  | copying draft remaining =>
    cases remaining with
    | nil =>
      cases moved
      refine ⟨?_, traced.traced⟩
      have copied := traced.copied
      simp only [Copied, List.append_nil] at copied
      exact copied
    | cons key remaining =>
      simp only [workStep] at moved
      split at moved
      · cases moved
      · cases moved
        exact ⟨traced.copied, traced.traced⟩
  | storingObject draft entry bytes remaining =>
    cases moved
    refine ⟨?_, ?_⟩
    · have copied := traced.copied
      simp only [Copied] at copied ⊢
      rw [List.map_append, List.append_assoc]
      exact copied
    · intro other isDraft
      cases isDraft
      exact traced.traced draft rfl
  | storingManifest draft =>
    cases moved
    exact ⟨traced.copied, traced.traced⟩
  | loadingManifest archive =>
    simp only [workStep] at moved
    split at moved
    · cases moved
    · cases moved
      exact taskTraced_of_no_draft trivial rfl
  | checking backupId manifest remaining =>
    cases remaining with
    | nil =>
      simp only [workStep] at moved
      split at moved
      · cases moved
        exact taskTraced_of_no_draft trivial rfl
      · cases moved
        exact taskTraced_of_no_draft trivial rfl
    | cons object remaining =>
      simp only [workStep] at moved
      split at moved
      · cases moved
      · cases moved
        exact taskTraced_of_no_draft trivial rfl
  | listingDump backupId manifest =>
    simp only [workStep] at moved
    split at moved
    · split at moved
      · cases moved
      · cases moved
        exact taskTraced_of_no_draft trivial rfl
    · cases moved
  | restoring =>
    simp only [workStep] at moved
    split at moved
    · cases moved
    · cases moved
  | deleting backupId keys =>
    cases keys with
    | nil =>
      cases moved
      exact taskTraced_of_no_draft trivial rfl
    | cons key keys =>
      cases moved
      exact taskTraced_of_no_draft trivial rfl
  | starting backupId storagePrefix =>
    cases moved
    exact taskTraced_of_no_draft trivial rfl
  | listingObjects backupId storagePrefix =>
    cases moved
    exact taskTraced_of_no_draft trivial rfl
  | recording draft =>
    simp only [workStep] at moved
    split at moved
    · cases moved
    · cases moved
  | counting => cases moved
  | marking backupId => cases moved
  | markingDeleted backupId => cases moved

/-! ## Runs -/

/-- No change of the live system takes from a key that a dump refers to its last
trace. -/
def KeepsTraces (crowd : Crowd BackupStore BackupPoint) : CrowdMove BackupCall BackupDraw LiveEvent -> Prop
  | .ambient event => forall process operation task draft,
    crowd.processes process = some (.executing operation task) -> task.draft? = some draft ->
      forall key, key ∈ draft.dumped.references -> isTraced (liveEvent crowd.store event) task draft key = true
  | _ => True

theorem PointTraced.same {point : BackupPoint} (traced : PointTraced before point)
    (live : after.live = before.live) (source : after.source = before.source) : PointTraced after point := by
  intro operation task isTask
  exact (traced operation task isTask).same live source

theorem access_traced {draw : BackupDraw} {point next : BackupPoint} (traced : PointTraced before point)
    (access : Access environment before draw point after (some next)) : PointTraced after next := by
  cases access with
  | claimed done =>
    intro operation task isTask
    cases isTask
    exact taskTraced_of_no_draft trivial rfl
  | @worked operation point _ result done =>
    intro other task isTask
    cases result with
    | next later =>
      cases isTask
      have access : Access environment before draw (.executing operation point) after
          (some (.executing operation task)) := .worked done
      have live := access_live access
      have moved : (workStep environment.platform operation before draw point).2 = .next task := by
        rw [done]
      exact (workStep_traced (traced operation point rfl) moved).same live.1 live.2
    | done => cases isTask
    | thrown code => cases isTask
  | threw => rintro _ _ ⟨⟩
  | succeeded => rintro _ _ ⟨⟩
  | unrecorded throws => rintro _ _ ⟨⟩
  | unaudited throws => rintro _ _ ⟨⟩
  | failed _ => rintro _ _ ⟨⟩
  | found => rintro _ _ ⟨⟩
  | released _ => rintro _ _ ⟨⟩
  | retained => rintro _ _ ⟨⟩
  | expired => rintro _ _ ⟨⟩
  | queued done => rintro _ _ ⟨⟩
  | resumed => rintro _ _ ⟨⟩

theorem traces_outlined : (backupProtocol environment).Outlined KeepsTraces (fun _ => True)
    (fun store _ point => PointTraced store point) where
  enters crowd process call holds allowed := by
    cases call with
    | requestBackup dryRun idempotencyKey expiresAt => rintro _ _ ⟨⟩
    | requestOperation backupId type confirmation dryRun => rintro _ _ ⟨⟩
    | work workerId => rintro _ _ ⟨⟩
    | recover => rintro _ _ ⟨⟩
    | retain dryRun => rintro _ _ ⟨⟩
  advances crowd process point draw after later holds allowed here advanced := by
    refine ⟨trivial, ?_⟩
    intro next isNext
    subst isNext
    exact access_traced (holds.points process point here) (workerStep_access advanced)
  spares crowd process point draw after later holds allowed here advanced other bystander different stands := by
    have live := access_live (workerStep_access advanced)
    exact (holds.points other bystander stands).same live.1 live.2
  ambient crowd event after holds allowed changed := by
    cases changed
    refine ⟨trivial, ?_⟩
    intro other bystander stands operation task isTask
    refine ⟨(holds.points other bystander stands operation task isTask).copied, ?_⟩
    intro draft isDraft
    exact allowed other operation task draft (isTask ▸ stands) isDraft

/-- The move makes the archive of a draft `AVAILABLE`. -/
def MakesAvailable (crowd : Crowd BackupStore BackupPoint) (draft : ArchiveDraft) :
    CrowdMove BackupCall BackupDraw LiveEvent -> Prop
  | .advance process draw => draw.throws = false ∧ draft.absent = [] ∧
    Exists fun operation => crowd.processes process = some (.executing operation (.recording draft))
  | _ => False

/-- Every archive that becomes available holds each object that a row of its
dump refers to. -/
def Restorable (environment : BackupEnvironment) (store : BackupStore)
    (moves : List (CrowdMove BackupCall BackupDraw LiveEvent)) : Prop :=
  forall earlier move later draft, moves = earlier ++ move :: later ->
    MakesAvailable ((backupProtocol environment).machine.run (Crowd.opening store) earlier) draft move ->
    forall key, key ∈ draft.dumped.references -> Exists fun object =>
      object ∈ draft.manifest.objects ∧ object.sourceKey = key

/-- As long as every change of the live system leaves a trace of what a dump
refers to, the archives that become available are restorable. -/
theorem archives_restorable_of_traces (environment : BackupEnvironment) (store : BackupStore)
    (moves : List (CrowdMove BackupCall BackupDraw LiveEvent))
    (traces : (backupProtocol environment).machine.Admits KeepsTraces (Crowd.opening store) moves) :
    Restorable environment store moves := by
  intro earlier move later draft split makes key member
  subst split
  cases move with
  | advance process draw =>
    rcases makes with ⟨_, complete, operation, here⟩
    have opening : Protocol.Holds (fun _ => True) (fun store _ point => PointTraced store point)
        (Crowd.opening store : Crowd BackupStore BackupPoint) := Protocol.holds_opening trivial
    have traced := (traces_outlined.run opening traces.left).points process _ here operation _ rfl
    have listed : key ∈ draft.listed := by
      rcases isTraced_iff.mp (traced.traced draft rfl key member) with
        listed | expected | ⟨unlisted, _⟩ | ⟨table, isTable, _⟩
      · exact listed
      · exact missingObjects_nil complete key expected
      · cases unlisted
      · cases isTable
    have copied : draft.objects.map EncryptedArtifact.sourceKey = draft.listed := traced.copied
    rw [← copied] at listed
    exact List.mem_map.mp listed
  | start process call => exact False.elim makes
  | stop process => exact False.elim makes
  | ambient event => exact False.elim makes

/-! ## An artifact that is removed after the dump -/

def fileDatabase : LiveDatabase := ⟨[⟨"artifact", "downloads/app"⟩], [], []⟩

def fileStore : BackupStore := ⟨fileDatabase, InsertionMap.empty.set "downloads/app" [1, 2, 3], ∅, ∅, InsertionMap.empty⟩

/-- A creation, up to its dump. -/
def dumpedCreation : List (CrowdMove BackupCall BackupDraw LiveEvent) :=
  [.start 0 (.requestBackup false "backup" none), .advance 0 plainDraw, .start 1 (.work "worker"),
    .advance 1 plainDraw, .advance 1 plainDraw, .advance 1 plainDraw, .advance 1 plainDraw]

/-- The artifact goes between the dump and the listing, its row first. -/
def removedArtifact : List (CrowdMove BackupCall BackupDraw LiveEvent) :=
  dumpedCreation ++ [.ambient (.removeArtifact "artifact"), .ambient (.deleteObject "downloads/app")] ++
    accesses 8

def claimedCreation : BackupOperation :=
  { newOperation "operation" "bkp" .create false "backup" 0 with
    status := .processing
    attempts := 1
    startedAt := some 0
    claimedBy := some "worker" }

/-- The archive is available, and does not hold the object that its dump refers
to. -/
theorem archive_unrestorable_after_removal :
    ¬ Restorable plainEnvironment fileStore (removedArtifact ++ [.advance 1 plainDraw]) ∧
    ((backupProtocol plainEnvironment).machine.run (Crowd.opening fileStore)
      (removedArtifact ++ [.advance 1 plainDraw])).store.archives.rows.map
        (fun archive => (archive.status, archive.missingObjectCount)) = [(.available, 0)] := by
  refine ⟨?_, by decide +kernel⟩
  intro restorable
  have here : ((backupProtocol plainEnvironment).machine.run (Crowd.opening fileStore) removedArtifact).processes 1 =
      some (.executing claimedCreation
        (.recording (openDraft plainEnvironment.platform "bkp" "main/bkp" fileDatabase "iv").1)) := by
    decide +kernel
  rcases restorable removedArtifact _ [] _ rfl ⟨rfl, by decide +kernel, _, here⟩ "downloads/app"
    (by decide +kernel) with ⟨object, member, _⟩
  cases member

/-- While the archive is made, the artifact is replaced by another object. -/
def replacedArtifact : List (CrowdMove BackupCall BackupDraw LiveEvent) :=
  dumpedCreation ++ [.ambient (.putObject "downloads/new" [4]), .ambient (.setArtifact ⟨"artifact", "downloads/new"⟩)] ++
    accesses 13

/-- `KeepsTraces`, as a check of the processes below a bound. -/
def keepsTraces (bound : Nat) (crowd : Crowd BackupStore BackupPoint) :
    CrowdMove BackupCall BackupDraw LiveEvent -> Bool
  | .ambient event => (List.range bound).all fun process =>
    match crowd.processes process with
    | some (.executing _ task) => task.draft?.all fun draft =>
      draft.dumped.references.all (isTraced (liveEvent crowd.store event) task draft)
    | _ => true
  | _ => true

theorem keepsTraces_spec {bound : Nat} {crowd : Crowd BackupStore BackupPoint}
    {move : CrowdMove BackupCall BackupDraw LiveEvent} (below : Protocol.Below bound crowd)
    (checked : keepsTraces bound crowd move = true) : KeepsTraces crowd move := by
  cases move with
  | ambient event =>
    intro process operation task draft here isDraft
    have kept := List.all_eq_true.mp checked process (List.mem_range.mpr (below process _ here))
    simp only [here, isDraft, Option.all_some, List.all_eq_true] at kept
    exact kept
  | start process call => trivial
  | advance process draw => trivial
  | stop process => trivial

theorem archives_restorable_of_traces_replaced :
    ((backupProtocol plainEnvironment).machine.run (Crowd.opening fileStore)
      replacedArtifact).store.archives.rows.map BackupArchive.status = [.available] ∧
    Restorable plainEnvironment fileStore replacedArtifact := by
  refine ⟨by decide +kernel, ?_⟩
  apply archives_restorable_of_traces
  have checked : (backupProtocol plainEnvironment).machine.Admits
      (fun crowd move => keepsTraces 2 crowd move = true) (Crowd.opening fileStore) replacedArtifact := by
    decide +kernel
  apply (Protocol.admits_below rfl (Protocol.below_opening 2 fileStore) checked).mono
  intro crowd move both
  exact keepsTraces_spec both.1 both.2

end Backups
end DigitalSolutions
