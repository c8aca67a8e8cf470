import DigitalSolutions.Distribution.ReleaseMoves

namespace DigitalSolutions
namespace Distribution

open Foundation Persistence Platform

/-!
# Served policies never go back

The invariant: the active release of an audience is ahead, in revision and in
version, of every other release that was ever activated for that audience.
Since activations are never forgotten, what is served later is never behind
what was served before, whatever was deactivated in between.
-/

variable {platform : UpdatePlatform}

/-- `later` is ahead of `earlier` in both measures. -/
def Ahead (platform : UpdatePlatform) (earlier later : LicensingAgentUpdateRelease) : Prop :=
  earlier.revision < later.revision ∧ platform.semver.gt later.version earlier.version = true

theorem Ahead.of_identity {earlier later oldEarlier oldLater : LicensingAgentUpdateRelease}
    (ahead : Ahead platform oldEarlier oldLater) (sameEarlier : identity earlier = identity oldEarlier)
    (sameLater : identity later = identity oldLater) : Ahead platform earlier later := by
  have earlierRevision : earlier.revision = oldEarlier.revision :=
    congrArg ReleaseIdentity.revision sameEarlier
  have earlierVersion : earlier.version = oldEarlier.version :=
    congrArg ReleaseIdentity.version sameEarlier
  have laterRevision : later.revision = oldLater.revision := congrArg ReleaseIdentity.revision sameLater
  have laterVersion : later.version = oldLater.version := congrArg ReleaseIdentity.version sameLater
  unfold Ahead
  rw [earlierRevision, earlierVersion, laterRevision, laterVersion]
  exact ahead

structure Forward (platform : UpdatePlatform) (store : UpdateStore) : Prop where
  versions : forall release, release ∈ store.releases -> platform.semver.valid release.version = true
  recorded : forall release, release ∈ store.releases -> release.active = true ->
    release.activatedAt.isSome = true
  ahead : forall current, current ∈ store.releases -> current.active = true ->
    forall prior, prior ∈ store.releases -> prior.audience = current.audience ->
      prior.activatedAt.isSome = true -> prior.id ≠ current.id -> Ahead platform prior current

theorem forward_empty : Forward platform UpdateStore.empty where
  versions := fun _ member => absurd member (Table.not_mem_empty _)
  recorded := fun _ member => absurd member (Table.not_mem_empty _)
  ahead := fun _ member => absurd member (Table.not_mem_empty _)

/-- A release that may be activated is ahead of all that its audience has seen. -/
theorem Activates.ahead {store : UpdateStore} {target prior : LicensingAgentUpdateRelease}
    (may : Activates platform store target) (member : prior ∈ store.releases)
    (audience : prior.audience = target.audience) (activated : prior.activatedAt.isSome = true)
    (other : prior.id ≠ target.id) : Ahead platform prior target := by
  have inHistory : prior ∈ activationHistory target store := by
    rw [activationHistory, Table.mem_select]
    simp only [audience, activated, other, decide_true, Bool.and_self, ne_eq, not_false_eq_true, and_true]
    exact member
  have forward := may.forward
  unfold rollsBack at forward
  have kept := List.any_eq_false.mp forward prior inHistory
  simp only [Bool.or_eq_true, decide_eq_true_eq, Bool.not_eq_true', not_or, not_le, Bool.not_eq_false] at kept
  exact kept

theorem Forward.step {before after : UpdateStore} {releases : Table LicensingAgentUpdateRelease}
    (forward : Forward platform before) (moved : ReleasesMoved platform before releases)
    (same : after.releases = releases) : Forward platform after := by
  cases moved with
  | @registered release _ checked inactive never inserted =>
    have origin : forall row, row ∈ after.releases -> row ∈ before.releases ∨ row = release := by
      intro row member
      rw [same] at member
      exact (Table.mem_insert inserted).mp member
    refine ⟨?_, ?_, ?_⟩
    · intro row member
      rcases origin row member with old | isNew
      · exact forward.versions row old
      · exact isNew ▸ checked.version
    · intro row member active
      rcases origin row member with old | isNew
      · exact forward.recorded row old active
      · rw [isNew, inactive] at active
        cases active
    · intro current member active prior priorMember audience activated other
      rcases origin current member with old | isNew
      · rcases origin prior priorMember with priorOld | priorNew
        · exact forward.ahead current old active prior priorOld audience activated other
        · rw [priorNew, never] at activated
          cases activated
      · rw [isNew, inactive] at active
        cases active
  | moved change wrote move =>
    have origin : forall row, row ∈ after.releases ->
        Exists fun old => old ∈ before.releases ∧ change old = row := by
      intro row member
      rw [same] at member
      exact (Table.mem_of_rows wrote).mp member
    refine ⟨?_, ?_, ?_⟩
    · intro row member
      rcases origin row member with ⟨old, oldMember, rfl⟩
      have sameVersion : (change old).version = old.version :=
        congrArg ReleaseIdentity.version (move old oldMember).identity
      exact sameVersion ▸ forward.versions old oldMember
    · intro row member active
      rcases origin row member with ⟨old, oldMember, rfl⟩
      exact (move old oldMember).recorded (forward.recorded old oldMember) active
    · intro current member active prior priorMember audience activated other
      -- Two active releases of the audience would be one.
      have priorInactive : prior.active ≠ true := by
        intro priorActive
        exact other (congrArg LicensingAgentUpdateRelease.id
          (active_release_unique priorMember member priorActive active audience))
      rcases origin current member with ⟨oldCurrent, currentMember, rfl⟩
      rcases origin prior priorMember with ⟨oldPrior, oldPriorMember, rfl⟩
      have currentIdentity := (move oldCurrent currentMember).identity
      have priorIdentity := (move oldPrior oldPriorMember).identity
      have sameAudience : oldPrior.audience = oldCurrent.audience :=
        (congrArg ReleaseIdentity.audience priorIdentity).symm.trans
          (audience.trans (congrArg ReleaseIdentity.audience currentIdentity))
      have otherId : oldPrior.id ≠ oldCurrent.id := by
        intro sameId
        exact other ((congrArg ReleaseIdentity.id priorIdentity).trans
          (sameId.trans (congrArg ReleaseIdentity.id currentIdentity).symm))
      have wasActivated : oldPrior.activatedAt.isSome = true :=
        ((move oldPrior oldPriorMember).origin_activated activated).resolve_right priorInactive
      have ahead : Ahead platform oldPrior oldCurrent := by
        rcases (move oldCurrent currentMember).origin_active active with wasActive | may
        · exact forward.ahead oldCurrent currentMember wasActive oldPrior oldPriorMember sameAudience
            wasActivated otherId
        · exact may.ahead oldPriorMember sameAudience wasActivated otherId
      exact ahead.of_identity priorIdentity currentIdentity

/-- One committed call keeps the invariant and every release. -/
theorem perform_forward {call : UpdateCall} {before after : UpdateStore} {answer : Json}
    (forward : Forward platform before) (commits : (perform platform call).Commits before answer after) :
    Forward platform after ∧ ReleasesKept before after := by
  rcases perform_effect commits with ⟨middle, effect, written⟩
  have same : after.releases = middle.releases := by rw [written]
  exact ⟨forward.step effect.releases same, effect.releases.kept same⟩

/-! ## What is served -/

/-- A served policy is about the active release of the audience. -/
theorem resolveSignedLicensingAgentUpdate_release {audience : LicensingAgentUpdateAudience}
    {request : LicensingAgentUpdateRequest} {issuedAt : Time} {store : UpdateStore}
    {policy : SignedLicensingAgentUpdatePolicy}
    (served : resolveSignedLicensingAgentUpdate platform audience request issuedAt store = .ok policy) :
    Exists fun release => release ∈ store.releases ∧ release.audience = audience ∧
      release.active = true ∧ policy.revision = release.revision ∧
      policy.latestVersion = release.version ∧ policy.releaseId = release.releaseTag := by
  simp only [resolveSignedLicensingAgentUpdate, signLicensingAgentUpdatePolicy, bind_ok_iff,
    required_ok_iff] at served
  rcases served with ⟨_, _, _, _, _, _, ⟨release, artifact⟩, found, _, _, _, _, _, _, _, _, _, _, _, _,
    isPolicy⟩
  have joined := List.mem_of_head? found
  simp only [activeRelease, List.mem_flatMap, Table.mem_select, List.mem_map, Bool.and_eq_true,
    decide_eq_true_eq] at joined
  rcases joined with ⟨selected, ⟨member, isAudience, active⟩, row, _, pair⟩
  cases pair
  cases isPolicy
  exact ⟨release, member, isAudience, active, rfl, rfl, rfl⟩

/-- The state after a schedule of moves, from an authority without any record. -/
def afterMoves (platform : UpdatePlatform) (moves : List (SessionMove UpdateCall)) :
    Shared UpdateStore UpdateCall :=
  (updateMachine platform).run (Shared.opening UpdateStore.empty) moves

/-- Some client of the audience is served this policy after the moves. -/
def ServedAfter (platform : UpdatePlatform) (moves : List (SessionMove UpdateCall))
    (audience : LicensingAgentUpdateAudience) (policy : SignedLicensingAgentUpdatePolicy) : Prop :=
  Exists fun request => Exists fun issuedAt =>
    resolveSignedLicensingAgentUpdate platform audience request issuedAt
      (afterMoves platform moves).store = .ok policy

theorem forward_afterMoves (moves : List (SessionMove UpdateCall)) :
    Forward platform (afterMoves platform moves).store :=
  Shared.run_invariant (fun _ _ _ _ forward commits => (perform_forward forward commits).1)
    forward_empty moves

theorem kept_afterMoves (earlier later : List (SessionMove UpdateCall)) :
    ReleasesKept (afterMoves platform earlier).store (afterMoves platform (earlier ++ later)).store := by
  unfold afterMoves
  rw [Machine.run_append]
  exact Shared.run_related ReleasesKept.refl (fun _ _ _ => ReleasesKept.trans)
    (fun _ _ _ _ forward commits => perform_forward forward commits) (forward_afterMoves earlier) later

/-- The policy that was served last, and was not followed by one of another
release. -/
def LastServed (platform : UpdatePlatform) (history : List (SessionMove UpdateCall))
    (audience : LicensingAgentUpdateAudience) (last : SignedLicensingAgentUpdatePolicy) : Prop :=
  Exists fun earlier => Exists fun later => history = earlier ++ later ∧
    ServedAfter platform earlier audience last ∧
    forall front back, later = front ++ back -> forall policy,
      ServedAfter platform (earlier ++ front) audience policy -> policy.releaseId = last.releaseId

/-- Of two policies served one after the other, the second is of the same
release or ahead in both measures. -/
theorem served_ordered {earlier later : List (SessionMove UpdateCall)}
    {audience : LicensingAgentUpdateAudience} {first second : SignedLicensingAgentUpdatePolicy}
    (firstServed : ServedAfter platform earlier audience first)
    (secondServed : ServedAfter platform (earlier ++ later) audience second) :
    (first.releaseId = second.releaseId ∧ first.revision = second.revision ∧
        first.latestVersion = second.latestVersion ∧
        platform.semver.valid second.latestVersion = true) ∨
      (first.revision < second.revision ∧
        platform.semver.gt second.latestVersion first.latestVersion = true ∧
        platform.semver.valid first.latestVersion = true ∧
        platform.semver.valid second.latestVersion = true) := by
  rcases firstServed with ⟨_, _, firstPolicy⟩
  rcases secondServed with ⟨_, _, secondPolicy⟩
  rcases resolveSignedLicensingAgentUpdate_release firstPolicy with
    ⟨old, oldMember, oldAudience, oldActive, oldRevision, oldVersion, oldTag⟩
  rcases resolveSignedLicensingAgentUpdate_release secondPolicy with
    ⟨current, currentMember, currentAudience, currentActive, currentRevision, currentVersion, currentTag⟩
  rcases kept_afterMoves earlier later old oldMember with ⟨prior, priorMember, same, recorded⟩
  have forward : Forward platform (afterMoves platform (earlier ++ later)).store := forward_afterMoves _
  have forwardBefore : Forward platform (afterMoves platform earlier).store := forward_afterMoves _
  have wasRecorded := forwardBefore.recorded old oldMember oldActive
  have sameRevision : prior.revision = old.revision := congrArg ReleaseIdentity.revision same
  have sameVersion : prior.version = old.version := congrArg ReleaseIdentity.version same
  have sameAudience : prior.audience = old.audience := congrArg ReleaseIdentity.audience same
  have sameTag : prior.releaseTag = old.releaseTag := congrArg ReleaseIdentity.releaseTag same
  have audiences : prior.audience = current.audience :=
    sameAudience.trans (oldAudience.trans currentAudience.symm)
  have currentValid := forward.versions current currentMember
  have priorValid := forward.versions prior priorMember
  rw [oldRevision, oldVersion, oldTag, currentRevision, currentVersion, currentTag, ← sameRevision,
    ← sameVersion, ← sameTag]
  by_cases sameId : prior.id = current.id
  · have same := release_eq_of_id priorMember currentMember sameId
    rw [same]
    exact Or.inl ⟨rfl, rfl, rfl, currentValid⟩
  · have ahead := forward.ahead current currentMember currentActive prior priorMember audiences
      (recorded wasRecorded) sameId
    exact Or.inr ⟨ahead.1, ahead.2, priorValid, currentValid⟩

theorem Semver.Lawful.lte_self {semver : Semver} (lawful : semver.Lawful) {version : String}
    (valid : semver.valid version = true) : semver.lte version version = true := by
  have swapped := lawful.swap version version valid valid
  have level : semver.compare version version = 0 := by omega
  unfold Semver.lte
  rw [level]
  rfl

theorem Semver.Lawful.lte_of_gt {semver : Semver} (lawful : semver.Lawful) {left right : String}
    (leftValid : semver.valid left = true) (rightValid : semver.valid right = true)
    (greater : semver.gt right left = true) : semver.lte left right = true := by
  have swapped := lawful.swap left right leftValid rightValid
  unfold Semver.gt at greater
  unfold Semver.lte
  simp only [decide_eq_true_eq] at greater ⊢
  omega

/-- Rollback protection of an audience, in the state after the moves and
against everything that was served on the way there. -/
structure MovesForward (platform : UpdatePlatform) (moves : List (SessionMove UpdateCall))
    (audience : LicensingAgentUpdateAudience) : Prop where
  /-- At most one release is active. -/
  oneActive : forall first second, first ∈ (afterMoves platform moves).store.releases ->
    second ∈ (afterMoves platform moves).store.releases -> first.audience = audience ->
    second.audience = audience -> first.active = true -> second.active = true -> first = second
  /-- What is served is never behind what was served before. -/
  neverBehind : forall earlier later, moves = earlier ++ later -> forall first second,
    ServedAfter platform earlier audience first -> ServedAfter platform moves audience second ->
    first.revision ≤ second.revision ∧
      platform.semver.lte first.latestVersion second.latestVersion = true
  /-- When another release is served than was served last, its revision is above
  every revision that was served before. -/
  strictlyAhead : forall history move, moves = history ++ [move] -> forall last current,
    LastServed platform history audience last -> ServedAfter platform moves audience current ->
    current.releaseId ≠ last.releaseId ->
    forall earlier later, history = earlier ++ later -> forall previous,
      ServedAfter platform earlier audience previous -> previous.revision < current.revision

theorem served_policies_move_forward (lawful : platform.semver.Lawful)
    (moves : List (SessionMove UpdateCall)) (audience : LicensingAgentUpdateAudience) :
    MovesForward platform moves audience := by
  refine ⟨?_, ?_, ?_⟩
  · intro first second firstMember secondMember firstAudience secondAudience firstActive secondActive
    exact active_release_unique firstMember secondMember firstActive secondActive
      (firstAudience.trans secondAudience.symm)
  · rintro earlier later rfl first second firstServed secondServed
    rcases served_ordered firstServed secondServed with ⟨_, sameRevision, sameVersion, valid⟩ | ahead
    · refine ⟨Int.le_of_eq sameRevision, ?_⟩
      rw [sameVersion]
      exact lawful.lte_self valid
    · exact ⟨Int.le_of_lt ahead.1, lawful.lte_of_gt ahead.2.2.1 ahead.2.2.2 ahead.2.1⟩
  · rintro history move rfl last current ⟨beforeLast, afterLast, split, lastServed, nothingElse⟩
      currentServed changed earlier later isPrefix previous previousServed
    have lastBehind : last.revision < current.revision := by
      rw [split, List.append_assoc] at currentServed
      rcases served_ordered lastServed currentServed with same | ahead
      · exact absurd same.1.symm changed
      · exact ahead.1
    have previousBehind : ServedAfter platform (earlier ++ (later ++ [move])) audience current := by
      rw [← List.append_assoc, ← isPrefix]
      exact currentServed
    rcases served_ordered previousServed previousBehind with ⟨sameRelease, sameRevision, _, _⟩ | ahead
    · -- The release now served would have been served before the last one.
      rw [split] at isPrefix
      rcases List.append_eq_append_iff.mp isPrefix with ⟨between, inPrefix, _⟩ | ⟨between, inPrefix, rest⟩
      · rw [inPrefix] at previousServed
        have sameAsLast := nothingElse between later (by assumption) previous previousServed
        exact absurd (sameRelease.symm.trans sameAsLast) changed
      · rw [inPrefix] at lastServed
        rcases served_ordered previousServed lastServed with sameAsLast | behindLast
        · exact absurd (sameRelease.symm.trans sameAsLast.1) changed
        · exact behindLast.1.trans lastBehind
    · exact ahead.1

/-! ## A platform to run on -/

/-- The three numbers of a version without a pre-release. -/
def plainVersion? (version : String) : Option (Nat ×ₗ Nat ×ₗ Nat) :=
  match (version.toList.splitOn '.').map decimal? with
  | [some major, some minor, some patch] => some (toLex (major, toLex (minor, patch)))
  | _ => none

def compareIn {Value : Type} [LinearOrder Value] (left right : Value) : Int :=
  if left = right then 0 else if left < right then -1 else 1

/-- Precedence of versions without a pre-release. -/
def plainSemver : Semver where
  valid version := (plainVersion? version).isSome
  compare left right :=
    let unknown := toLex (0, toLex (0, 0))
    compareIn ((plainVersion? left).getD unknown) ((plainVersion? right).getD unknown)

theorem compareIn_le_zero_iff {Value : Type} [LinearOrder Value] {left right : Value} :
    compareIn left right ≤ 0 ↔ left ≤ right := by
  unfold compareIn
  split
  · rename_i same
    exact iff_of_true (Int.le_refl 0) (le_of_eq same)
  · rename_i different
    split
    · rename_i less
      exact iff_of_true (by decide) (le_of_lt less)
    · rename_i notLess
      exact iff_of_false (by decide) fun atMost => notLess (lt_of_le_of_ne atMost different)

theorem compareIn_swap {Value : Type} [LinearOrder Value] (left right : Value) :
    compareIn right left = - compareIn left right := by
  unfold compareIn
  rcases lt_trichotomy left right with less | same | greater
  · rw [if_neg (ne_of_gt less), if_neg (lt_asymm less), if_neg (ne_of_lt less), if_pos less]
    rfl
  · rw [if_pos same.symm, if_pos same]
    rfl
  · rw [if_neg (ne_of_lt greater), if_pos greater, if_neg (ne_of_gt greater), if_neg (lt_asymm greater)]

theorem plainSemver_lawful : plainSemver.Lawful where
  swap left right _ _ := compareIn_swap _ _
  trans first second third _ _ _ left right := by
    have firstSecond := of_decide_eq_true left
    have secondThird := of_decide_eq_true right
    apply decide_eq_true
    exact compareIn_le_zero_iff.mpr
      (le_trans (compareIn_le_zero_iff.mp firstSecond) (compareIn_le_zero_iff.mp secondThird))

/-- The base64 text of 32 zero bytes. -/
def zeroKey : String := "AAAAAAAAAAAAAAAAAAAAAAAAAAAAAAAAAAAAAAAAAAA="

/-- A platform with one configured key, `agent-1`, and plain versions. -/
def samplePlatform : UpdatePlatform where
  semver := plainSemver
  localeCompare left right := if left = right then 0 else if left < right then -1 else 1
  parseJson _ := some (.object [("agent-1", .string "BEGIN PRIVATE KEY")])
  stringify
    | .object entries => ",".intercalate (entries.map Prod.fst)
    | _ => "null"
  decodeBase64 text := if text = zeroKey then List.replicate 32 0 else []
  encodeBase64 bytes := if bytes = List.replicate 32 0 then zeroKey else ""
  decodeUtf8 _ := ""
  createPrivateKey raw := .ok ⟨"ed25519", raw⟩
  publicKeyBytes _ := some (List.replicate 32 0)
  sign _ message := message.toList.map fun character => UInt8.ofNat character.toNat
  verify _ message signature := signature = message.toList.map fun character => UInt8.ofNat character.toNat
  parseDate _ := some 0
  toISOString _ := "1970-01-01T00:00:00.000Z"
  updateSigningKeys := some "agent-1"

/-- A published pre-release of this version with its x64 installer. -/
def sampleRelease (version : String) : GitHubResponse where
  ok := true
  status := 200
  document := some (.object [("tag_name", .string s!"bke-licensing-agent-v{version}"),
    ("draft", .bool false), ("prerelease", .bool true), ("published_at", .string "1970-01-01T00:00:00Z"),
    ("assets", .array [.object [("name", .string (licensingAgentArtifactId version .x86_64)),
      ("size", .number "100"), ("digest", .string ("sha256:" ++ String.ofList (List.replicate 64 'a')))]])])

/-- The call of an operation, made in pre-production. -/
def sampleCall (operationId version : String) (mutation : UpdateMutation) : UpdateCall where
  context :=
    { actorId := "admin"
      operationId
      audience := .preproduction
      now := 0
      draw := fun
        | .record => s!"record:{operationId}"
        | .operation => s!"operation:{operationId}"
        | .artifact index => s!"artifact:{operationId}:{index}"
      fetched := .ok (sampleRelease version) }
  mutation

/-- Calls that are made one after the other. -/
def inTurn (calls : List UpdateCall) : List (SessionMove UpdateCall) :=
  calls.flatMap fun call => [.begin 0 call, .commit 0]

/-- A key is registered and activated, and two releases are served in turn. -/
def sampleMoves : List (SessionMove UpdateCall) :=
  inTurn [sampleCall "1" "1.0.0" (.registerKey "agent-1" zeroKey "1.0.0"),
    sampleCall "2" "1.0.0" (.activateKey "agent-1"),
    sampleCall "3" "1.0.0" (.registerRelease "1.0.0" "1.0.0" 1),
    sampleCall "4" "1.0.0" (.activateRelease "record:3"),
    sampleCall "5" "1.1.0" (.registerRelease "1.1.0" "1.0.0" 2),
    sampleCall "6" "1.1.0" (.activateRelease "record:5")]

theorem served_policies_move_forward_sample :
    ((afterMoves samplePlatform sampleMoves).store.releases.rows.map fun release =>
        (release.version, release.active)) = [("1.0.0", false), ("1.1.0", true)] ∧
      MovesForward samplePlatform sampleMoves .preproduction :=
  ⟨by decide +kernel, served_policies_move_forward plainSemver_lawful sampleMoves .preproduction⟩

end Distribution
end DigitalSolutions
