import DigitalSolutions.AgentSessions.Soundness

namespace DigitalSolutions
namespace AgentSessions

open Foundation Persistence

/-!
# Safety of the refresh-token families

A family has at most one active token, of the session's own generation, and a
revoked family has none.  This is what reuse detection rests on, and it is
kept by every transaction that runs in one go.  A revocation at read committed
chooses the tokens before it chooses the sessions; it keeps the property
exactly when no active token has come to its sessions in between.
-/

/-- The active tokens of every session. -/
structure FamilySafe (store : AgentSessionStore) : Prop where
  single : forall left right, left ∈ store.refreshTokens -> right ∈ store.refreshTokens ->
    left.sessionId = right.sessionId -> left.status = .active -> right.status = .active ->
    left = right
  current : forall token, token ∈ store.refreshTokens -> token.status = .active ->
    Exists fun session => session ∈ store.sessions ∧ session.id = token.sessionId ∧
      token.generation = session.refreshGeneration
  closed : forall session, session ∈ store.sessions -> session.revokedAt.isSome = true ->
    forall token, token ∈ store.refreshTokens -> token.sessionId = session.id ->
      token.status ≠ .active

/-- The session and all its tokens are revoked. -/
structure FamilyRevoked (sessionId : Id) (store : AgentSessionStore) : Prop where
  session : forall session, session ∈ store.sessions -> session.id = sessionId ->
    session.revokedAt.isSome = true
  refreshTokens : forall token, token ∈ store.refreshTokens -> token.sessionId = sessionId ->
    token.status = .revoked

/-- When a revocation at read committed commits, every token that is then
active in a session that it revokes is one that its first statement has
chosen. -/
def Undisturbed (state : AgentState) : AgentAction -> Prop
  | .commitRevocation process =>
    ∀ revocation ∈ state.revocations process, ∀ sessions ∈ revocation.sessions,
      ∀ token ∈ state.store.refreshTokens.rows, token.sessionId ∈ sessions ->
        token.status = .active -> token.id ∈ revocation.tokens
  | _ => True

theorem FamiliesKept.safe {store : AgentSessionStore} (kept : FamiliesKept store.families) :
    FamilySafe store := by
  constructor
  · intro left right leftMember rightMember sameSession leftActive rightActive
    rcases kept.owned left leftMember with ⟨session, sessionMember, sameId, _⟩
    have leftGeneration := (kept.active left leftMember leftActive session sessionMember sameId).1
    have rightGeneration := (kept.active right rightMember rightActive session sessionMember
      (sameId.trans sameSession)).1
    exact token_of_generation leftMember rightMember sameSession
      (leftGeneration.trans rightGeneration.symm)
  · intro token member active
    rcases kept.owned token member with ⟨session, sessionMember, sameId, _⟩
    exact ⟨session, sessionMember, sameId,
      (kept.active token member active session sessionMember sameId).1⟩
  · intro session sessionMember revoked token member owned active
    have unrevoked := (kept.active token member active session sessionMember owned.symm).2
    rw [unrevoked] at revoked
    cases revoked

theorem FamiliesKept.changes {now : Time} {before after : Families} (kept : FamiliesKept before)
    (changes : Relation.ReflTransGen (FamilyChange now) before after) : FamiliesKept after := by
  induction changes with
  | refl => exact kept
  | tail _ change inductionHypothesis => exact inductionHypothesis.change change

section Steps

variable {platform : SessionPlatform} {state next : AgentState} {action : AgentAction}
variable {answer : AgentAnswer}

/-- An undisturbed revocation covers the sessions that it revokes. -/
theorem covers_of_undisturbed {process : Nat} {revocation : UserRevocation} {sessions : List Id}
    (undisturbed : Undisturbed state (.commitRevocation process))
    (stands : state.revocations process = some revocation)
    (chosen : revocation.sessions = some sessions) :
    Covers state.store.families (fun session => session.id ∈ sessions)
      (fun token => token.id ∈ revocation.tokens) := by
  intro session _ revoked token tokenMember owned active
  have inSessions : token.sessionId ∈ sessions := owned ▸ of_decide_eq_true revoked
  exact decide_eq_true (undisturbed revocation stands sessions chosen token tokenMember inSessions
    active)

/-- An undisturbed step keeps the families. -/
theorem familiesKept_motion (kept : FamiliesKept state.store.families)
    (undisturbed : Undisturbed state action) (motion : AgentMotion state action answer next) :
    FamiliesKept next.store.families := by
  cases motion with
  | transaction answer created store directory effect answered => exact kept.changes effect.families
  | committed process revocation sessions commits stands chosen =>
    subst commits
    exact kept.of_revoked (covers_of_undisturbed undisturbed stands chosen)
      (revokes_applyRevocation revocation sessions state.store)
  | _ => exact kept

end Steps

/-! ## Replays -/

theorem familyRevoked_revoke (sessionId : Id) (now : Time) (store : AgentSessionStore) :
    FamilyRevoked sessionId (revokeAgentSessionFamily sessionId now store) := by
  have revokes : Revokes now (fun session => session.id = sessionId)
      (fun token => token.sessionId = sessionId) store.families
      (revokeAgentSessionFamily sessionId now store).families := ⟨rfl, rfl⟩
  constructor
  · intro session member sameId
    rcases (Table.mem_of_rows revokes.sessions).mp member with ⟨old, _, rfl⟩
    by_cases chosen : old.id = sessionId
    · simp only [chosen, decide_true, if_true]
      cases old.revokedAt with
      | none => rfl
      | some time => rfl
    · simp only [chosen, decide_false, Bool.false_eq_true, if_false] at sameId
  · intro token member owned
    rcases (Table.mem_of_rows revokes.refreshTokens).mp member with ⟨old, _, rfl⟩
    by_cases chosen : old.sessionId = sessionId
    · by_cases already : old.status = .revoked
      · simp only [chosen, already, decide_true, Bool.not_true, Bool.and_false, Bool.false_eq_true,
          if_false]
      · simp only [chosen, already, decide_true, decide_false, Bool.not_false, Bool.and_self, if_true]
    · simp only [chosen, decide_false, Bool.false_and, Bool.false_eq_true, if_false] at owned

/-- Whoever presents a known token that is not active revokes its family. -/
theorem attempt_of_replay {platform : SessionPlatform} {state : AgentState}
    (kept : FamiliesKept state.store.families) {draw : SessionDraw -> String} {input : RefreshInput}
    {tokenHash : String} {token : AgentAccountRefreshToken}
    (hashed : hashAgentRefreshToken platform input.refreshToken input.pepper = .ok tokenHash)
    (found : state.store.refreshTokens.lookup (.tokenHash tokenHash) = some token)
    (inactive : token.status ≠ .active) :
    FamilyRevoked token.sessionId
      ((agentMachine platform).attempt state (.refresh draw input)).store := by
  rcases kept.owned token (state.store.refreshTokens.lookup_mem found) with
    ⟨session, member, sameId, _⟩
  have owner : state.store.sessions.lookup (.id token.sessionId) = some session :=
    state.store.sessions.lookup_of_mem member (by simp [Keyed.keys, sameId])
  have replay : (refreshAgentAccountSession platform state.directory ⟨state.now, draw⟩
      input).Commits state.store .replayDetected
        (revokeAgentSessionFamily session.id state.now state.store) :=
    refreshAgentAccountSession_of_replay hashed found owner inactive
  have performs : (perform platform (.refresh draw input)).Commits state
      (.refreshed .replayDetected)
      { state with store := revokeAgentSessionFamily session.id state.now state.store } := by
    simp only [perform, Transaction.commits_bind, Transaction.commits_get, Transaction.commits_within,
      Transaction.commits_pure]
    exact ⟨state, state, ⟨rfl, rfl⟩, .replayDetected, _, ⟨_, replay, rfl⟩, rfl, rfl⟩
  rw [attempt_of_commits performs, ← sameId]
  exact familyRevoked_revoke session.id state.now state.store

/-! ## Whole runs -/

/-- What holds of the families between an earlier and a later state of a run. -/
structure FamilyLaw (platform : SessionPlatform) (earlier later : AgentState) : Prop where
  safe : FamilySafe later.store
  replay : forall draw input tokenHash token,
    hashAgentRefreshToken platform input.refreshToken input.pepper = .ok tokenHash ->
    later.store.refreshTokens.lookup (.tokenHash tokenHash) = some token ->
    token.status ≠ .active ->
    FamilyRevoked token.sessionId
      ((agentMachine platform).attempt later (.refresh draw input)).store
  unusable : forall session, session ∈ earlier.store.sessions -> session.revokedAt.isSome = true ->
    (forall token, token ∈ later.store.refreshTokens -> token.sessionId = session.id ->
      token.status ≠ .active) ∧
    forall action answer, Answers platform later action answer ->
      answer.vouchesFor ≠ some session.id
  expiry : forall session, session ∈ earlier.store.sessions -> forall current,
    current ∈ later.store.sessions -> current.id = session.id ->
    current.refreshExpiresAt = session.refreshExpiresAt

/-- No token of a session that is revoked is accepted. -/
theorem not_vouched_of_revoked {platform : SessionPlatform} {state : AgentState}
    {session : AgentAccountSession} (member : session ∈ state.store.sessions)
    (revoked : session.revokedAt.isSome = true) {action : AgentAction} {answer : AgentAnswer}
    (answers : Answers platform state action answer) : answer.vouchesFor ≠ some session.id := by
  intro vouched
  rcases answers with ⟨next, performs⟩
  have mute : answer ≠ .done := by
    rintro rfl
    cases vouched
  cases motion_of_commits performs with
  | transaction _ created store directory effect answered =>
    rcases answered.vouches session.id vouched with ⟨other, otherMember, sameId, unrevoked⟩
    have same := session_of_id otherMember member sameId
    subst same
    rw [unrevoked] at revoked
    cases revoked
  | _ => exact mute rfl

theorem familiesKept_run {platform : SessionPlatform} {state : AgentState} (opening : state.Opening)
    {actions : List AgentAction}
    (admitted : (agentMachine platform).Admits Undisturbed state actions) :
    FamiliesKept ((agentMachine platform).run state actions).store.families := by
  have keeps : forall state action next, FamiliesKept state.store.families ->
      Undisturbed state action -> (agentMachine platform).step state action = .ok next ->
      FamiliesKept next.store.families := by
    intro state action next kept undisturbed accepted
    rcases motion_of_step accepted with ⟨answer, motion⟩
    exact familiesKept_motion kept undisturbed motion
  have initially : FamiliesKept state.store.families := opening.store ▸ familiesKept_empty
  exact Machine.run_invariant_of_admits keeps initially admitted

/-- In every run whose revocations at read committed are undisturbed, the
families obey the law between any two states. -/
theorem families_safe_of_undisturbed {platform : SessionPlatform} {state : AgentState}
    (opening : state.Opening) {first second : List AgentAction}
    (admitted : (agentMachine platform).Admits Undisturbed state (first ++ second)) :
    FamilyLaw platform ((agentMachine platform).run state first)
      ((agentMachine platform).run state (first ++ second)) := by
  have kept := familiesKept_run opening admitted
  have grown : FamiliesGrow ((agentMachine platform).run state first).store.families
      ((agentMachine platform).run state (first ++ second)).store.families := by
    rw [Machine.run_append]
    exact ((Sound.of_opening opening).run first).grow_run second
  have later : forall session,
      session ∈ ((agentMachine platform).run state first).store.sessions -> forall current,
      current ∈ ((agentMachine platform).run state (first ++ second)).store.sessions ->
      current.id = session.id -> SessionMove session current := by
    intro session member current currentMember sameId
    rcases grown.sessions session member with ⟨other, otherMember, move⟩
    have same := session_of_id otherMember currentMember
      ((congrArg SessionTerms.id move.terms).trans sameId.symm)
    exact same ▸ move
  refine ⟨kept.safe, fun draw input tokenHash token => attempt_of_replay kept, ?_, ?_⟩
  · intro session member revoked
    rcases grown.sessions session member with ⟨current, currentMember, move⟩
    have sameId : current.id = session.id := congrArg SessionTerms.id move.terms
    have stillRevoked := move.revoked revoked
    constructor
    · intro token tokenMember owned
      exact kept.safe.closed current currentMember stillRevoked token tokenMember
        (owned.trans sameId.symm)
    · intro action answer answers
      exact sameId ▸ not_vouched_of_revoked currentMember stillRevoked answers
  · intro session member current currentMember sameId
    exact congrArg SessionTerms.refreshExpiresAt
      (later session member current currentMember sameId).terms

/-- No session and no token is lost or moves back, and nobody answers for a
session that was revoked. -/
structure RevocationsFinal (platform : SessionPlatform) (earlier later : AgentState) : Prop where
  grown : FamiliesGrow earlier.store.families later.store.families
  unusable : forall session, session ∈ earlier.store.sessions -> session.revokedAt.isSome = true ->
    forall action answer, Answers platform later action answer -> answer.vouchesFor ≠ some session.id

/-- Revocation is final in every run, also in one whose revocations cross. -/
theorem revocations_final {platform : SessionPlatform} {state : AgentState} (opening : state.Opening)
    (first second : List AgentAction) :
    RevocationsFinal platform ((agentMachine platform).run state first)
      ((agentMachine platform).run state (first ++ second)) := by
  rw [Machine.run_append]
  have grown : FamiliesGrow ((agentMachine platform).run state first).store.families
      ((agentMachine platform).run ((agentMachine platform).run state first) second).store.families :=
    ((Sound.of_opening opening).run first).grow_run second
  refine ⟨grown, fun session member revoked action answer answers => ?_⟩
  rcases grown.sessions session member with ⟨current, currentMember, move⟩
  have sameId : current.id = session.id := congrArg SessionTerms.id move.terms
  exact sameId ▸ not_vouched_of_revoked currentMember (move.revoked revoked) answers

/-! ## A second factor disabled while a device polls -/

instance (state : AgentState) : (action : AgentAction) -> Decidable (Undisturbed state action)
  | .commitRevocation process => inferInstanceAs (Decidable
    (∀ revocation ∈ state.revocations process, ∀ sessions ∈ revocation.sessions,
      ∀ token ∈ state.store.refreshTokens.rows, token.sessionId ∈ sessions ->
        token.status = .active -> token.id ∈ revocation.tokens))
  | .start _ _ | .approve _ | .poll _ _ | .refresh _ _ | .authenticate _ | .acknowledge _
  | .revoke _ | .cancel _ | .issueHandoff _ _ | .markRecent _ | .changePassword _
  | .changeDirectory _ | .pass _ | .beginRevocation _ _ | .readSessions _
  | .abandonRevocation _ => isTrue trivial

/-- The fields of a bundle, one a line. -/
def legibleSeal (key nonce : String) (bundle : AgentAccountTokenBundle) : String :=
  "\n".intercalate [key, nonce, bundle.sessionId, bundle.accessToken, bundle.refreshToken,
    bundle.accessExpiresAt, bundle.refreshExpiresAt, bundle.userId, bundle.email, bundle.accountId,
    if bundle.accountType = .individual then "INDIVIDUAL" else "ORGANIZATION",
    bundle.accountDisplayName]

def legibleOpen (key sealed : String) : Option AgentAccountTokenBundle :=
  match sealed.splitOn "\n" with
  | [sealedKey, _, sessionId, accessToken, refreshToken, accessExpiresAt, refreshExpiresAt, userId,
      email, accountId, accountType, accountDisplayName] =>
    if sealedKey = key then
      some { sessionId, accessToken, refreshToken, accessExpiresAt, refreshExpiresAt, userId, email,
             accountId, accountDisplayName,
             accountType := if accountType = "INDIVIDUAL" then .individual else .organization }
    else none
  | _ => none

/-- A platform whose hashes and seals are legible. -/
def legiblePlatform : SessionPlatform where
  hmacSha256 key message := key ++ "/" ++ message
  sealBundle := legibleSeal
  openBundle := legibleOpen
  toISOString time := toString time
  verificationUri base code := some (base ++ "/device?code=" ++ code)

def legiblePepper : String := "a pepper of no fewer than 32 characters"

/-- Draws that say what they were drawn for. -/
def legibleDraw (label : String) : SessionDraw -> String
  | .authorizationId => "authorization of " ++ label
  | .deviceCode => "device code of " ++ label
  | .userCode => "user code of " ++ label
  | .sessionId => "session of " ++ label
  | .accessToken => "access token of " ++ label
  | .refreshToken => "refresh token of " ++ label
  | .refreshTokenId => "token of " ++ label
  | .bundleNonce => "nonce of " ++ label

/-- One verified user with an account of her own. -/
def soleUserDirectory : Directory where
  accounts := ⟨[⟨"account", .individual, "Account", "user", .active, []⟩], by decide⟩
  users := ⟨[⟨"user", "user@example.org", some 0, .active⟩], by decide⟩
  passwordCredentials := ∅
  administratorMfaMethods := ∅

def quietOffice : AgentState where
  now := 1000
  store := AgentSessionStore.empty
  directory := soleUserDirectory
  revocations _ := none

/-- A device starts an authorization, and the user approves it. -/
def approvedDevice : List AgentAction :=
  [.start (legibleDraw "start")
      ⟨⟨"device-0123456789", none, "linux", "x64"⟩, "https://example.org", legiblePepper⟩,
    .approve ⟨"user code of start", "user", "account", legiblePepper⟩]

def firstPoll : AgentAction :=
  .poll (legibleDraw "poll") ⟨"device code of start", none, legiblePepper, legiblePepper⟩

/-- The poll comes between the first two statements of the revocation. -/
def crossedRevocation : List AgentAction :=
  approvedDevice ++ [.beginRevocation 0 "user", firstPoll, .readSessions 0, .commitRevocation 0]

/-- The poll comes before the revocation, and so does a refresh. -/
def plainRevocation : List AgentAction :=
  approvedDevice ++ [firstPoll,
    .refresh (legibleDraw "refresh") ⟨"refresh token of poll", legiblePepper⟩,
    .beginRevocation 0 "user", .readSessions 0, .commitRevocation 0]

def replayedRefresh : AgentAction :=
  .refresh (legibleDraw "replay") ⟨"refresh token of poll", legiblePepper⟩

theorem opening_quietOffice : quietOffice.Opening := ⟨rfl, fun _ => rfl⟩

/-- The session that was made in between is revoked, and its token is active. -/
theorem active_token_of_revoked_session :
    Exists fun session =>
      session ∈ ((agentMachine legiblePlatform).run quietOffice crossedRevocation).store.sessions ∧
      session.revokedAt.isSome = true ∧ Exists fun token =>
        token ∈ ((agentMachine legiblePlatform).run quietOffice
          crossedRevocation).store.refreshTokens ∧
        token.sessionId = session.id ∧ token.status = .active := by
  have found : ∃ session ∈ ((agentMachine legiblePlatform).run quietOffice
      crossedRevocation).store.sessions.rows, session.revokedAt.isSome = true ∧
      ∃ token ∈ ((agentMachine legiblePlatform).run quietOffice
        crossedRevocation).store.refreshTokens.rows,
      token.sessionId = session.id ∧ token.status = .active := by
    decide +kernel
  exact found

theorem families_safe_in_plainRevocation :
    FamilyLaw legiblePlatform ((agentMachine legiblePlatform).run quietOffice plainRevocation)
      ((agentMachine legiblePlatform).run quietOffice (plainRevocation ++ [replayedRefresh])) :=
  families_safe_of_undisturbed opening_quietOffice (by decide +kernel)

theorem revocations_final_crossedRevocation :
    RevocationsFinal legiblePlatform ((agentMachine legiblePlatform).run quietOffice crossedRevocation)
      ((agentMachine legiblePlatform).run quietOffice (crossedRevocation ++ [replayedRefresh])) :=
  revocations_final opening_quietOffice crossedRevocation [replayedRefresh]

end AgentSessions
end DigitalSolutions
