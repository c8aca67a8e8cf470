import DigitalSolutions.Licensing.SigningKeys

namespace DigitalSolutions
namespace Licensing

open Foundation Persistence Platform

/-!
# Rotations are recorded once

A rotation leaves one active key and a completed operation under its id.  The
operation is never written again, so a request with that id is from then on
answered by it, or refused.
-/

variable {platform : SigningPlatform} {request : RotationRequest} {before after : SigningStore}
variable {answer : LeaseOperationRow} {supplied : String}
variable {row : LeaseOperationRow} {state : Shared SigningStore RotationRequest}
variable {again : RotationRequest}

/-- There is one active key. -/
def OneActive (keys : Table CommercialSigningKey) : Prop :=
  Exists fun key => key ∈ keys ∧ key.status = .active ∧
    forall other, other ∈ keys -> other.status = .active -> other = key

/-- What a rotation writes. -/
structure Rotated (platform : SigningPlatform) (request : RotationRequest) (supplied : String)
    (before : SigningStore) (answer : LeaseOperationRow) (after : SigningStore) : Prop where
  /-- The key that was active, and alone. -/
  active : Exists fun active => active ∈ before.keys ∧ active.status = .active ∧
    (forall other, other ∈ before.keys -> other.status = .active -> other = active) ∧
    answer = platform.rotationOperation request supplied active.keyId ∧
    forall key, key ∈ after.keys ↔ key = SigningPlatform.successorKey request supplied ∨
      (Exists fun old => old ∈ before.keys ∧
        (if old.id = active.id then SigningPlatform.retire request old else old) = key)
  operations : before.operations.insert answer = some after.operations

theorem rotate_commits (commits : (platform.rotate request supplied).Commits before answer after) :
    Rotated platform request supplied before answer after := by
  unfold SigningPlatform.rotate at commits
  rcases Transaction.commits_bind.mp commits with ⟨store, middle, read, commits⟩
  rcases Transaction.commits_get.mp read with ⟨rfl, rfl⟩
  split at commits
  · exact absurd commits Transaction.not_commits_throw
  · rename_i active selected
    split at commits
    · exact absurd commits Transaction.not_commits_throw
    · rcases Transaction.commits_bind.mp commits with ⟨retired, _, amended, commits⟩
      rcases Transaction.commits_orFail.mp amended with ⟨isAmended, rfl⟩
      rcases Transaction.commits_bind.mp commits with ⟨keys, _, inserted, commits⟩
      rcases Transaction.commits_orFail.mp inserted with ⟨isInserted, rfl⟩
      rcases Transaction.commits_bind.mp commits with ⟨operations, _, recorded, commits⟩
      rcases Transaction.commits_orFail.mp recorded with ⟨isRecorded, rfl⟩
      rcases Transaction.commits_bind.mp commits with ⟨_, _, written, commits⟩
      rw [Transaction.commits_set] at written
      rcases Transaction.commits_pure.mp commits with ⟨rfl, rfl⟩
      subst written
      have alone : forall other, other = active ↔ other ∈ before.keys ∧ other.status = .active := by
        intro other
        have chosen : other ∈ before.keys.select (fun key => key.status = .active) ↔
            other ∈ before.keys ∧ decide (other.status = .active) = true := before.keys.mem_select
        rw [selected, List.mem_singleton, decide_eq_true_eq] at chosen
        exact chosen
      refine ⟨⟨active, ((alone active).mp rfl).1, ((alone active).mp rfl).2, ?_, rfl, ?_⟩, isRecorded⟩
      · intro other member isActive
        exact (alone other).mpr ⟨member, isActive⟩
      · intro key
        rw [Table.mem_insert isInserted, before.keys.mem_amend isAmended]
        simp only [decide_eq_true_eq]
        exact Or.comm
  · exact absurd commits Transaction.not_commits_throw

/-- A request that commits repeats a recorded rotation, or rotates. -/
theorem post_commits (commits : (platform.post request).Commits before answer after) :
    Exists fun supplied => platform.prepare request = .ok supplied ∧
      ((before = after ∧ before.operations.lookup (.operationId request.input.operationId) = some answer ∧
          answer.status = "COMPLETED" ∧
          platform.repeats request.input supplied answer.metadata = true) ∨
        ((forall prior, prior ∈ before.operations -> prior.operationId = request.input.operationId ->
            prior.status ≠ "COMPLETED") ∧
          Rotated platform request supplied before answer after)) := by
  unfold SigningPlatform.post at commits
  rcases Transaction.commits_bind.mp commits with ⟨supplied, _, prepared, commits⟩
  rcases Transaction.commits_liftM.mp prepared with ⟨isPrepared, rfl⟩
  rcases Transaction.commits_bind.mp commits with ⟨store, _, read, commits⟩
  rcases Transaction.commits_get.mp read with ⟨rfl, rfl⟩
  refine ⟨supplied, isPrepared, ?_⟩
  split at commits
  · rename_i prior found
    split at commits
    · rename_i completed
      split at commits
      · rename_i isRepeat
        rcases Transaction.commits_pure.mp commits with ⟨rfl, rfl⟩
        exact Or.inl ⟨rfl, found, completed, isRepeat⟩
      · exact absurd commits Transaction.not_commits_throw
    · rename_i notCompleted
      refine Or.inr ⟨?_, rotate_commits commits⟩
      intro other member same
      have isOther := lookup_operation member
      rw [same, found] at isOther
      rw [← Option.some.inj isOther]
      exact notCompleted
  · rename_i absent
    refine Or.inr ⟨?_, rotate_commits commits⟩
    intro other member same
    have isOther := lookup_operation member
    rw [same, absent] at isOther
    cases isOther

/-! ## One active key -/

section Rotation

variable (rotated : Rotated platform request supplied before answer after)

include rotated

theorem Rotated.oneActive :
    OneActive after.keys := by
  rcases rotated.active with ⟨active, member, isActive, alone, _, keys⟩
  refine ⟨SigningPlatform.successorKey request supplied, (keys _).mpr (Or.inl rfl), rfl, ?_⟩
  intro other otherMember otherActive
  rcases (keys other).mp otherMember with isSuccessor | ⟨old, oldMember, rfl⟩
  · exact isSuccessor
  · by_cases same : old.id = active.id
    · rw [if_pos same] at otherActive
      cases otherActive
    · rw [if_neg same] at otherActive
      exact absurd (congrArg CommercialSigningKey.id (alone old oldMember otherActive)) same

/-- What is retired is not written any more. -/
theorem Rotated.retired
    {key : CommercialSigningKey} (member : key ∈ before.keys) (isRetired : key.status = .retired) :
    key ∈ after.keys := by
  rcases rotated.active with ⟨active, activeMember, isActive, alone, _, keys⟩
  refine (keys key).mpr (Or.inr ⟨key, member, if_neg ?_⟩)
  intro same
  have inKey : CommercialSigningKey.Key.id active.id ∈ Keyed.keys key := by
    rw [← same]
    exact List.mem_append_left _ List.mem_cons_self
  have inActive : CommercialSigningKey.Key.id active.id ∈ Keyed.keys active :=
    List.mem_append_left _ List.mem_cons_self
  rw [before.keys.eq_of_common_key member activeMember inKey inActive, isActive] at isRetired
  cases isRetired

/-- The rows of the operations, once completed, stay. -/
theorem Rotated.kept (member : row ∈ before.operations) : row ∈ after.operations :=
  (Table.mem_insert rotated.operations).mpr (Or.inl member)

theorem Rotated.recorded :
    answer ∈ after.operations :=
  (Table.mem_insert rotated.operations).mpr (Or.inr rfl)

end Rotation

/-! ## Repeated requests -/

/-- No two texts that are compared have one digest. -/
def SigningPlatform.CollisionFree (platform : SigningPlatform) : Prop :=
  forall left right, platform.sha256 left = platform.sha256 right -> left = right

/-- The operation of a rotation. -/
def IsRotation (platform : SigningPlatform) (request : RotationRequest) (row : LeaseOperationRow) : Prop :=
  Exists fun supplied => Exists fun previousKeyId => platform.prepare request = .ok supplied ∧
    row = platform.rotationOperation request supplied previousKeyId

theorem prepare_ok (prepared : platform.prepare request = .ok supplied) :
    request.guarded = none ∧ request.input.valid = true ∧ platform.supplied request.input = some supplied := by
  unfold SigningPlatform.prepare at prepared
  split at prepared
  · cases prepared
  · rename_i unguarded
    split at prepared
    · rename_i valid
      split at prepared
      · cases prepared
      · split at prepared
        · rename_i derived key _ isKey
          split at prepared
          · cases prepared
            exact ⟨unguarded, valid, isKey⟩
          · cases prepared
        · cases prepared
    · cases prepared

/-- What is checked before the transaction is a matter of the body of the request. -/
theorem prepare_same (same : again.input = request.input) (unguarded : again.guarded = none)
    (prepared : platform.prepare request = .ok supplied) :
    platform.prepare again = .ok supplied := by
  have first := (prepare_ok prepared).1
  simp only [SigningPlatform.prepare, first] at prepared
  simp only [SigningPlatform.prepare, unguarded, same]
  exact prepared

theorem repeats_rotationMetadata (input : RotationInput) (key previousKeyId : String) :
    platform.repeats input key (platform.rotationMetadata request supplied previousKeyId) = true ↔
      input.keyId = request.input.keyId ∧ input.algorithm = request.input.algorithm ∧
        platform.sha256 key = platform.sha256 supplied ∧
        platform.sha256 input.privateKeyReference = platform.sha256 request.input.privateKeyReference ∧
        input.reason = request.input.reason := by
  have fields : property (platform.rotationMetadata request supplied previousKeyId) "successorKeyId" =
        some (.string request.input.keyId) ∧
      property (platform.rotationMetadata request supplied previousKeyId) "algorithm" =
        some (.string request.input.algorithm) ∧
      property (platform.rotationMetadata request supplied previousKeyId) "publicKeyFingerprint" =
        some (.string (platform.sha256 supplied)) ∧
      property (platform.rotationMetadata request supplied previousKeyId) "privateKeyReferenceIdentity" =
        some (.string (platform.sha256 request.input.privateKeyReference)) ∧
      property (platform.rotationMetadata request supplied previousKeyId) "reason" =
        some (.string request.input.reason) := ⟨rfl, rfl, rfl, rfl, rfl⟩
  rcases fields with ⟨keyId, algorithm, fingerprint, reference, reason⟩
  simp only [SigningPlatform.repeats, keyId, algorithm, fingerprint, reference, reason, Option.some.injEq,
    Json.string.injEq, Bool.and_eq_true, decide_eq_true_eq]
  constructor
  · rintro ⟨⟨⟨⟨sameKey, sameAlgorithm⟩, sameFingerprint⟩, sameReference⟩, sameReason⟩
    exact ⟨sameKey.symm, sameAlgorithm.symm, sameFingerprint.symm, sameReference.symm, sameReason.symm⟩
  · rintro ⟨sameKey, sameAlgorithm, sameFingerprint, sameReference, sameReason⟩
    exact ⟨⟨⟨⟨sameKey.symm, sameAlgorithm.symm⟩, sameFingerprint.symm⟩, sameReference.symm⟩,
      sameReason.symm⟩

/-- The same request is answered by the recorded operation, and changes nothing. -/
theorem post_again (rotation : IsRotation platform request row) (member : row ∈ before.operations)
    (same : again.input = request.input) (unguarded : again.guarded = none) :
    (platform.post again).run before = .ok (row, before) := by
  rcases rotation with ⟨supplied, previousKeyId, prepared, rfl⟩
  have found := lookup_operation member
  have isRepeat : platform.repeats again.input supplied
      (platform.rotationOperation request supplied previousKeyId).metadata = true := by
    apply (repeats_rotationMetadata again.input supplied previousKeyId).mpr
    rw [same]
    exact ⟨rfl, rfl, rfl, rfl, rfl⟩
  have commits : (platform.post again).Commits before
      (platform.rotationOperation request supplied previousKeyId) before := by
    unfold SigningPlatform.post
    rw [Transaction.commits_bind]
    refine ⟨supplied, before, Transaction.commits_liftM.mpr ⟨prepare_same same unguarded prepared, rfl⟩, ?_⟩
    rw [Transaction.commits_bind]
    refine ⟨before, before, Transaction.commits_get.mpr ⟨rfl, rfl⟩, ?_⟩
    have isFound : before.operations.lookup (.operationId again.input.operationId) =
        some (platform.rotationOperation request supplied previousKeyId) := by
      rw [same]
      exact found
    simp only [isFound]
    rw [if_pos (by rfl), if_pos isRepeat]
    exact Transaction.commits_pure.mpr ⟨rfl, rfl⟩
  exact commits

/-- The key, the reference or the reason of a request is not that of another. -/
def Differs (platform : SigningPlatform) (again request : RotationRequest) : Prop :=
  again.input.keyId ≠ request.input.keyId ∨
    platform.supplied again.input ≠ platform.supplied request.input ∨
    again.input.privateKeyReference ≠ request.input.privateKeyReference ∨
    again.input.reason ≠ request.input.reason

/-- Another request under the id of a recorded rotation is refused. -/
theorem post_different (collisionFree : platform.CollisionFree)
    (rotation : IsRotation platform request row) (member : row ∈ before.operations)
    (sameId : again.input.operationId = request.input.operationId)
    (differs : Differs platform again request) :
    Exists fun error => (platform.post again).run before = .error error := by
  cases outcome : (platform.post again).run before with
  | error error => exact ⟨error, rfl⟩
  | ok done =>
    exfalso
    rcases done with ⟨answer, after⟩
    rcases rotation with ⟨supplied, previousKeyId, prepared, rfl⟩
    have found := lookup_operation member
    rcases post_commits (outcome : (platform.post again).Commits before answer after) with
      ⟨key, preparedAgain, ⟨_, isAnswer, _, isRepeat⟩ | ⟨incomplete, _⟩⟩
    · rw [sameId] at isAnswer
      have isRow := Option.some.inj (isAnswer.symm.trans found)
      subst isRow
      rcases repeats_rotationMetadata _ _ _ |>.mp isRepeat with
        ⟨sameKey, _, sameFingerprint, sameReference, sameReason⟩
      have isKey := (prepare_ok preparedAgain).2.2
      have wasKey := (prepare_ok prepared).2.2
      rcases differs with otherKey | otherMaterial | otherReference | otherReason
      · exact otherKey sameKey
      · apply otherMaterial
        rw [isKey, wasKey, collisionFree _ _ sameFingerprint]
      · exact otherReference (collisionFree _ _ sameReference)
      · exact otherReason sameReason
    · exact incomplete _ member sameId.symm rfl

/-! ## Runs -/

def rotationRun (platform : SigningPlatform) (store : SigningStore)
    (moves : List (SessionMove RotationRequest)) : Shared SigningStore RotationRequest :=
  (rotationMachine platform).run (Shared.opening store) moves

/-- The commit with which a request under the id changes the keys. -/
def rotates (platform : SigningPlatform) (operationId : String) (state : Shared SigningStore RotationRequest) :
    SessionMove RotationRequest -> Bool
  | .commit process =>
    match state.sessions process with
    | none => false
    | some session =>
      match Shared.conclude platform.post state.store session with
      | .ok (_, after) => session.call.input.operationId = operationId && after.keys ≠ state.store.keys
      | .error _ => false
  | _ => false

/-- What is expected of the rotations in a run. -/
structure RotationKept (platform : SigningPlatform) (store : SigningStore)
    (moves : List (SessionMove RotationRequest)) : Prop where
  active : OneActive (rotationRun platform store moves).store.keys
  retired : forall past rest, moves = past ++ rest -> forall key,
    key ∈ (rotationRun platform store past).store.keys -> key.status = .retired ->
    key ∈ (rotationRun platform store moves).store.keys
  once : forall operationId,
    (rotationMachine platform).occurrences (rotates platform operationId) (Shared.opening store) moves ≤ 1
  /-- After a rotation the same request is answered by its operation. -/
  repeated : forall past process rest session, moves = past ++ .commit process :: rest ->
    (rotationRun platform store past).sessions process = some session ->
    rotates platform session.call.input.operationId (rotationRun platform store past) (.commit process) = true ->
    Exists fun row => forall again, again.input = session.call.input -> again.guarded = none ->
      (platform.post again).run (rotationRun platform store moves).store =
        .ok (row, (rotationRun platform store moves).store)
  /-- After a rotation a different request under its id is refused. -/
  different : forall past process rest session, moves = past ++ .commit process :: rest ->
    (rotationRun platform store past).sessions process = some session ->
    rotates platform session.call.input.operationId (rotationRun platform store past) (.commit process) = true ->
    forall again, again.input.operationId = session.call.input.operationId ->
      Differs platform again session.call ->
      Exists fun error => (platform.post again).run (rotationRun platform store moves).store = .error error
  refused : forall past move rest refusal, moves = past ++ move :: rest ->
    (rotationMachine platform).step (rotationRun platform store past) move = .error refusal ->
    (rotationRun platform store (past ++ [move])).store = (rotationRun platform store past).store

theorem rotates_commits {operationId : String} {process : Nat}
    (rotation : rotates platform operationId state (.commit process) = true) :
    Exists fun session => Exists fun answer => Exists fun after => Exists fun supplied =>
      state.sessions process = some session ∧ session.call.input.operationId = operationId ∧
      (rotationMachine platform).attempt state (.commit process) =
        ({ state with store := after }.set process none) ∧
      platform.prepare session.call = .ok supplied ∧
      Rotated platform session.call supplied state.store answer after := by
  simp only [rotates] at rotation
  split at rotation
  · cases rotation
  · rename_i session stands
    split at rotation
    · rename_i answer after concluded
      rw [Bool.and_eq_true, decide_eq_true_eq, decide_eq_true_eq] at rotation
      have accepted : (rotationMachine platform).step state (.commit process) =
          .ok ({ state with store := after }.set process none) := by
        simp only [rotationMachine, Shared.machine, Shared.step, stands, concluded]
      rcases post_commits (Shared.commits_of_conclude concluded).1 with
        ⟨supplied, prepared, ⟨rfl, _⟩ | ⟨_, rotated⟩⟩
      · exact absurd rfl rotation.2
      · exact ⟨session, answer, after, supplied, stands, rotation.1, Machine.attempt_ok accepted, prepared,
          rotated⟩
    · cases rotation

/-- Operations are only added. -/
theorem post_operations (call : RotationRequest) (before : SigningStore) (answer : LeaseOperationRow)
    (after : SigningStore) (member : row ∈ before.operations)
    (commits : (platform.post call).Commits before answer after) : row ∈ after.operations := by
  rcases post_commits commits with ⟨supplied, _, ⟨rfl, _⟩ | ⟨_, rotated⟩⟩
  · exact member
  · exact rotated.kept member

/-- Once an operation has the id, no request under it changes the keys. -/
theorem not_rotates_of_operation (member : row ∈ state.store.operations)
    (move : SessionMove RotationRequest) :
    rotates platform row.operationId state move = false := by
  cases move with
  | begin process call => rfl
  | abandon process => rfl
  | commit process =>
    rw [← Bool.not_eq_true]
    intro rotation
    rcases rotates_commits rotation with ⟨session, answer, after, supplied, _, same, _, _, rotated⟩
    have apart := Table.fits_of_insert rotated.operations row member
    rcases rotated.active with ⟨_, _, _, _, rfl, _⟩
    apply apart (.operationId row.operationId) row.operationId_key
    rw [← same]
    exact LeaseOperationRow.operationId_key _

theorem rotated_row {process : Nat} {session : Session SigningStore RotationRequest}
    (stands : state.sessions process = some session)
    (rotation : rotates platform session.call.input.operationId state (.commit process) = true) :
    Exists fun row => IsRotation platform session.call row ∧
      row ∈ ((rotationMachine platform).attempt state (.commit process)).store.operations := by
  rcases rotates_commits rotation with ⟨other, answer, after, supplied, found, _, attempted, prepared, rotated⟩
  cases stands.symm.trans found
  rw [attempted]
  rcases rotated.active with ⟨active, _, _, _, isAnswer, _⟩
  exact ⟨answer, ⟨supplied, active.keyId, prepared, isAnswer⟩, rotated.recorded⟩

/-- In every run from one active key. -/
theorem rotation_kept (platform : SigningPlatform) (collisionFree : platform.CollisionFree)
    (store : SigningStore) (oneActive : OneActive store.keys) (moves : List (SessionMove RotationRequest)) :
    RotationKept platform store moves := by
  -- A rotation in the past is recorded in the store that the run arrives at.
  have recorded : forall past process rest session, moves = past ++ .commit process :: rest ->
      (rotationRun platform store past).sessions process = some session ->
      rotates platform session.call.input.operationId (rotationRun platform store past)
        (.commit process) = true ->
      Exists fun row => IsRotation platform session.call row ∧
        row ∈ (rotationRun platform store moves).store.operations := by
    intro past process rest session split stands rotation
    rcases rotated_row stands rotation with ⟨row, isRotation, member⟩
    refine ⟨row, isRotation, ?_⟩
    rw [split, rotationRun, Machine.run_append, Machine.run_cons]
    exact Shared.run_invariant post_operations member rest
  refine ⟨?_, ?_, ?_, ?_, ?_, ?_⟩
  · have preserved : forall call before answer after, OneActive (SigningStore.keys before) ->
        (platform.post call).Commits before answer after -> OneActive after.keys := by
      intro call before answer after held commits
      rcases post_commits commits with ⟨supplied, _, ⟨rfl, _⟩ | ⟨_, rotated⟩⟩
      · exact held
      · exact rotated.oneActive
    exact Shared.run_invariant preserved oneActive moves
  · intro past rest split key member isRetired
    rw [split, rotationRun, Machine.run_append]
    have preserved : forall call before answer after, key ∈ SigningStore.keys before ->
        (platform.post call).Commits before answer after -> key ∈ after.keys := by
      intro call before answer after held commits
      rcases post_commits commits with ⟨supplied, _, ⟨rfl, _⟩ | ⟨_, rotated⟩⟩
      · exact held
      · exact rotated.retired held isRetired
    exact Shared.run_invariant preserved member rest
  · intro operationId
    have stays : forall (state : Shared SigningStore RotationRequest) move next, True ->
        (Exists fun row => row ∈ state.store.operations ∧ row.operationId = operationId) -> True ->
        (rotationMachine platform).step state move = .ok next ->
        Exists fun row => row ∈ next.store.operations ∧ row.operationId = operationId := by
      rintro state move next _ ⟨row, member, same⟩ _ accepted
      rcases Shared.step_store accepted with unchanged | ⟨session, answer, _, _, concluded⟩
      · exact ⟨row, unchanged ▸ member, same⟩
      · exact ⟨row, post_operations _ _ _ _ member (Shared.commits_of_conclude concluded).1, same⟩
    have closes : forall (state : Shared SigningStore RotationRequest) move, True -> True ->
        rotates platform operationId state move = true ->
        Exists fun row => row ∈ ((rotationMachine platform).attempt state move).store.operations ∧
          row.operationId = operationId := by
      intro state move _ _ rotation
      cases move with
      | begin process call => cases rotation
      | abandon process => cases rotation
      | commit process =>
        rcases rotates_commits rotation with ⟨session, answer, after, supplied, stands, same, attempted, _, rotated⟩
        rcases rotated.active with ⟨active, _, _, _, isAnswer, _⟩
        rw [attempted]
        exact ⟨answer, rotated.recorded, by rw [isAnswer]; exact same⟩
    apply Machine.occurrences_le_one (fun _ _ _ _ _ _ => trivial) closes _ stays trivial
    · exact Machine.admits_all (fun _ _ => trivial) _ _
    · rintro state move _ ⟨row, member, rfl⟩ _
      exact not_rotates_of_operation member move
  · intro past process rest session split stands rotation
    rcases recorded past process rest session split stands rotation with ⟨row, isRotation, member⟩
    exact ⟨row, fun again same unguarded => post_again isRotation member same unguarded⟩
  · intro past process rest session split stands rotation again sameId differs
    rcases recorded past process rest session split stands rotation with ⟨row, isRotation, member⟩
    exact post_different collisionFree isRotation member sameId differs
  · intro past move rest refusal _ isRefused
    rw [rotationRun, Machine.run_concat, Machine.attempt]
    rw [rotationRun] at isRefused
    rw [isRefused]
    rfl

/-! ## A rotation, its repetition and a second one -/

/-- Keys are written as they are, and are their own digests. -/
def plainSigningPlatform : SigningPlatform where
  processEnv _ := some "-----BEGIN PUBLIC KEY----- SECOND"
  fromBase64 text := text
  derivePublicKey text := some text
  exportPublicKey text := some text
  sha256 text := text

def firstKey : CommercialSigningKey where
  id := "row"
  keyId := "first"
  algorithm := "Ed25519"
  status := .active
  publicKey := "first"
  privateKeyReference := "env:FIRST"
  activatedAt := 0
  retiredAt := none
  rotationReason := none
  createdBy := none

def signingStore : SigningStore where
  keys := ⟨[firstKey], List.pairwise_singleton _ _⟩
  operations := ∅
  auditLogs := []

def secondRotation : RotationRequest where
  input := ⟨"operation", "second", "Ed25519", "-----BEGIN PUBLIC KEY----- SECOND", "env:SECOND", "yearly"⟩
  adminId := "admin"
  guarded := none
  keyRowId := "successor"
  operationRowId := "recorded"
  now := 1

/-- The request comes again while it is being answered, and once more after that. -/
def repeatedRotation : List (SessionMove RotationRequest) :=
  [.begin 0 secondRotation, .begin 1 secondRotation, .commit 0, .commit 1, .abandon 1, .begin 1 secondRotation,
    .commit 1]

theorem rotation_kept_repeated :
    (rotationRun plainSigningPlatform signingStore repeatedRotation).store.keys.rows.map
      CommercialSigningKey.status = [.retired, .active] ∧
    RotationKept plainSigningPlatform signingStore repeatedRotation := by
  refine ⟨by decide +kernel, ?_⟩
  apply rotation_kept
  · intro left right same
    exact same
  · refine ⟨firstKey, List.mem_singleton.mpr rfl, rfl, ?_⟩
    intro other member _
    exact List.mem_singleton.mp member

end Licensing
end DigitalSolutions
