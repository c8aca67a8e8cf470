import DigitalSolutions.AgentSessions.AuthorizationMoves

namespace DigitalSolutions
namespace AgentSessions

open Foundation Persistence

/-!
# What one transaction does to the token families

A family is a session with its refresh tokens.  It is founded by a poll with
one active token, rotated by a refresh, and revoked; everything else touches
columns that authorize nothing.
-/

/-- The two tables of the families. -/
structure Families where
  sessions : Table AgentAccountSession
  refreshTokens : Table AgentAccountRefreshToken

def AgentSessionStore.families (store : AgentSessionStore) : Families :=
  ⟨store.sessions, store.refreshTokens⟩

/-- A session without the two columns that record its use. -/
def familyColumns (session : AgentAccountSession) : AgentAccountSession :=
  { session with lastSeenAt := none, recentAuthenticatedAt := none }

/-- A session with the token that a poll founds its family with. -/
structure Founds (session : AgentAccountSession) (token : AgentAccountRefreshToken) : Prop where
  unrevoked : session.revokedAt = none
  first : session.refreshGeneration = 0
  owned : token.sessionId = session.id
  generation : token.generation = 0
  active : token.status = .active
  expiresAt : token.expiresAt = session.refreshExpiresAt

/-- A revocation leaves out no active token of a session it revokes. -/
def Covers (families : Families) (sessions : AgentAccountSession -> Bool)
    (tokens : AgentAccountRefreshToken -> Bool) : Prop :=
  forall session, session ∈ families.sessions -> sessions session = true ->
    forall token, token ∈ families.refreshTokens -> token.sessionId = session.id ->
      token.status = .active -> tokens token = true

/-- The rows of both tables after the statements of a revocation. -/
structure Revokes (now : Time) (sessions : AgentAccountSession -> Bool)
    (tokens : AgentAccountRefreshToken -> Bool) (before after : Families) : Prop where
  sessions : after.sessions.rows = before.sessions.rows.map (fun row =>
    if sessions row then { row with revokedAt := row.revokedAt.or (some now) } else row)
  refreshTokens : after.refreshTokens.rows = before.refreshTokens.rows.map (fun row =>
    if tokens row && !decide (row.status = .revoked) then
      { row with status := .revoked, revokedAt := row.revokedAt.or (some now) } else row)

/-- What a refresh does to the family of a session. -/
structure Rotates (now : Time) (token next : AgentAccountRefreshToken) (session : AgentAccountSession)
    (accessTokenHash : String) (before after : Families) : Prop where
  tokenMember : token ∈ before.refreshTokens
  sessionMember : session ∈ before.sessions
  owned : token.sessionId = session.id
  active : token.status = .active
  unrevoked : session.revokedAt = none
  nextOwned : next.sessionId = session.id
  nextGeneration : next.generation = session.refreshGeneration + 1
  nextExpiresAt : next.expiresAt = session.refreshExpiresAt
  nextActive : next.status = .active
  check : now + accessTokenTtl < session.refreshExpiresAt
  refreshTokens : (rotateToken token.id now before.refreshTokens).insert next =
    some after.refreshTokens
  sessions : before.sessions.amend (fun row => row.id = session.id)
    (advancedSession now accessTokenHash (session.refreshGeneration + 1)) = some after.sessions

inductive FamilyChange (now : Time) (before after : Families) : Prop
  | touched (sessions : Table.SameColumn familyColumns before.sessions after.sessions)
    (refreshTokens : after.refreshTokens = before.refreshTokens)
  | founded (session : AgentAccountSession) (token : AgentAccountRefreshToken)
    (founds : Founds session token) (sessions : before.sessions.insert session = some after.sessions)
    (refreshTokens : before.refreshTokens.insert token = some after.refreshTokens)
  | rotated (token next : AgentAccountRefreshToken) (session : AgentAccountSession)
    (accessTokenHash : String) (rotates : Rotates now token next session accessTokenHash before after)
  | revoked (revokedAt : Time) (sessions : AgentAccountSession -> Bool)
    (tokens : AgentAccountRefreshToken -> Bool) (covers : Covers before sessions tokens)
    (revokes : Revokes revokedAt sessions tokens before after)

/-! ## Rows under one key -/

variable {before after : Families} {session : AgentAccountSession}
variable {token next : AgentAccountRefreshToken} {accessTokenHash : String} {now : Time}
variable {tokens : AgentAccountRefreshToken -> Bool} {sessions : AgentAccountSession -> Bool}

theorem session_of_id {table : Table AgentAccountSession} {left right : AgentAccountSession}
    (leftMember : left ∈ table) (rightMember : right ∈ table) (same : left.id = right.id) :
    left = right := by
  have inLeft : AgentAccountSession.Key.id left.id ∈ Keyed.keys left := by simp [Keyed.keys]
  have inRight : AgentAccountSession.Key.id left.id ∈ Keyed.keys right := by simp [Keyed.keys, same]
  exact table.eq_of_common_key leftMember rightMember inLeft inRight

theorem session_of_authorization {table : Table AgentAccountSession} {left right : AgentAccountSession}
    (leftMember : left ∈ table) (rightMember : right ∈ table)
    (same : left.deviceAuthorizationId = right.deviceAuthorizationId) : left = right := by
  have inLeft : AgentAccountSession.Key.deviceAuthorizationId left.deviceAuthorizationId ∈
      Keyed.keys left := by simp [Keyed.keys]
  have inRight : AgentAccountSession.Key.deviceAuthorizationId left.deviceAuthorizationId ∈
      Keyed.keys right := by simp [Keyed.keys, same]
  exact table.eq_of_common_key leftMember rightMember inLeft inRight

theorem token_of_generation {table : Table AgentAccountRefreshToken}
    {left right : AgentAccountRefreshToken} (leftMember : left ∈ table) (rightMember : right ∈ table)
    (sameSession : left.sessionId = right.sessionId) (same : left.generation = right.generation) :
    left = right := by
  have inLeft : AgentAccountRefreshToken.Key.generation left.sessionId left.generation ∈
      Keyed.keys left := by simp [Keyed.keys]
  have inRight : AgentAccountRefreshToken.Key.generation left.sessionId left.generation ∈
      Keyed.keys right := by simp [Keyed.keys, sameSession, same]
  exact table.eq_of_common_key leftMember rightMember inLeft inRight

/-! ## Sessions and tokens across a change -/

/-- What a session keeps from its creation. -/
structure SessionTerms where
  id : Id
  deviceAuthorizationId : Id
  userId : Id
  accountId : Id
  deviceId : String
  refreshExpiresAt : Time
  createdAt : Time
  deriving DecidableEq

def sessionTerms (session : AgentAccountSession) : SessionTerms where
  id := session.id
  deviceAuthorizationId := session.deviceAuthorizationId
  userId := session.userId
  accountId := session.accountId
  deviceId := session.deviceId
  refreshExpiresAt := session.refreshExpiresAt
  createdAt := session.createdAt

/-- A session as it was before and as it is now. -/
structure SessionMove (old session : AgentAccountSession) : Prop where
  terms : sessionTerms session = sessionTerms old
  revoked : old.revokedAt.isSome = true -> session.revokedAt.isSome = true
  generation : old.refreshGeneration ≤ session.refreshGeneration

theorem SessionMove.refl (session : AgentAccountSession) : SessionMove session session :=
  ⟨rfl, id, Nat.le_refl _⟩

theorem SessionMove.trans {first second third : AgentAccountSession} (left : SessionMove first second)
    (right : SessionMove second third) : SessionMove first third where
  terms := right.terms.trans left.terms
  revoked was := right.revoked (left.revoked was)
  generation := Nat.le_trans left.generation right.generation

/-- A token as it was before and as it is now: it is never active again. -/
structure TokenMove (old token : AgentAccountRefreshToken) : Prop where
  id : token.id = old.id
  sessionId : token.sessionId = old.sessionId
  tokenHash : token.tokenHash = old.tokenHash
  generation : token.generation = old.generation
  expiresAt : token.expiresAt = old.expiresAt
  status : old.status ≠ .active -> token.status ≠ .active

theorem TokenMove.refl (token : AgentAccountRefreshToken) : TokenMove token token :=
  ⟨rfl, rfl, rfl, rfl, rfl, fun was => was⟩

theorem TokenMove.trans {first second third : AgentAccountRefreshToken} (left : TokenMove first second)
    (right : TokenMove second third) : TokenMove first third where
  id := right.id.trans left.id
  sessionId := right.sessionId.trans left.sessionId
  tokenHash := right.tokenHash.trans left.tokenHash
  generation := right.generation.trans left.generation
  expiresAt := right.expiresAt.trans left.expiresAt
  status was := right.status (left.status was)

/-- The token belongs to one of the sessions and lies within its term. -/
def HasOwner (sessions : Table AgentAccountSession) (token : AgentAccountRefreshToken) : Prop :=
  Exists fun session => session ∈ sessions ∧ session.id = token.sessionId ∧
    token.generation ≤ session.refreshGeneration ∧ token.expiresAt = session.refreshExpiresAt

/-- No session and no token is removed, and a new token has its session. -/
structure FamiliesGrow (before after : Families) : Prop where
  sessions : forall old, old ∈ before.sessions ->
    Exists fun session => session ∈ after.sessions ∧ SessionMove old session
  refreshTokens : forall old, old ∈ before.refreshTokens ->
    Exists fun token => token ∈ after.refreshTokens ∧ TokenMove old token
  origin : forall token, token ∈ after.refreshTokens ->
    (Exists fun old => old ∈ before.refreshTokens ∧ TokenMove old token) ∨
      HasOwner after.sessions token

/-- A token keeps its owner while sessions are kept under their identifiers
and their generations do not fall. -/
theorem HasOwner.move {before after : Table AgentAccountSession} {old : AgentAccountRefreshToken}
    (owner : HasOwner before old) (move : TokenMove old token)
    (sessions : forall session, session ∈ before ->
      Exists fun current => current ∈ after ∧ SessionMove session current) :
    HasOwner after token := by
  rcases owner with ⟨owner, ownerMember, sameId, generation, expiresAt⟩
  rcases sessions owner ownerMember with ⟨session, sessionMember, sessionMove⟩
  refine ⟨session, sessionMember, ?_, ?_, ?_⟩
  · rw [move.sessionId, ← sameId]
    exact congrArg SessionTerms.id sessionMove.terms
  · rw [move.generation]
    exact Nat.le_trans generation sessionMove.generation
  · rw [move.expiresAt, expiresAt]
    exact (congrArg SessionTerms.refreshExpiresAt sessionMove.terms).symm

theorem FamiliesGrow.refl (families : Families) : FamiliesGrow families families where
  sessions old member := ⟨old, member, SessionMove.refl old⟩
  refreshTokens old member := ⟨old, member, TokenMove.refl old⟩
  origin token member := Or.inl ⟨token, member, TokenMove.refl token⟩

theorem FamiliesGrow.trans {first second third : Families} (left : FamiliesGrow first second)
    (right : FamiliesGrow second third) : FamiliesGrow first third := by
  constructor
  · intro old member
    rcases left.sessions old member with ⟨middle, middleMember, first⟩
    rcases right.sessions middle middleMember with ⟨session, sessionMember, second⟩
    exact ⟨session, sessionMember, first.trans second⟩
  · intro old member
    rcases left.refreshTokens old member with ⟨middle, middleMember, first⟩
    rcases right.refreshTokens middle middleMember with ⟨token, tokenMember, second⟩
    exact ⟨token, tokenMember, first.trans second⟩
  · intro token member
    rcases right.origin token member with ⟨middle, middleMember, second⟩ | owner
    · rcases left.origin middle middleMember with ⟨old, oldMember, first⟩ | owner
      · exact Or.inl ⟨old, oldMember, first.trans second⟩
      · exact Or.inr (owner.move second right.sessions)
    · exact Or.inr owner

theorem sessionMove_of_columns {old : AgentAccountSession}
    (same : familyColumns session = familyColumns old) : SessionMove old session := by
  have revokedAt : session.revokedAt = old.revokedAt :=
    Table.eq_of_mask same (fun _ => rfl)
  have generation : session.refreshGeneration = old.refreshGeneration :=
    Table.eq_of_mask same (fun _ => rfl)
  have terms : sessionTerms session = sessionTerms old := Table.eq_of_mask same (fun _ => rfl)
  exact ⟨terms, fun was => revokedAt ▸ was, Nat.le_of_eq generation.symm⟩

theorem sessionMove_revoked (now : Time) (session : AgentAccountSession) :
    SessionMove session { session with revokedAt := session.revokedAt.or (some now) } := by
  refine ⟨rfl, fun was => ?_, Nat.le_refl _⟩
  rw [Option.isSome_or, was, Bool.true_or]

theorem sessionMove_advanced :
    SessionMove session
      (advancedSession now accessTokenHash (session.refreshGeneration + 1) session) := by
  unfold advancedSession
  split
  · exact ⟨rfl, id, Nat.le_succ _⟩
  · exact SessionMove.refl session

theorem tokenMove_revoked (now : Time) (token : AgentAccountRefreshToken) :
    TokenMove token
      { token with status := .revoked, revokedAt := token.revokedAt.or (some now) } :=
  ⟨rfl, rfl, rfl, rfl, rfl, fun _ => by simp⟩

theorem tokenMove_rotated (now : Time) (token : AgentAccountRefreshToken) :
    TokenMove token { token with status := .rotated, rotatedAt := some now } :=
  ⟨rfl, rfl, rfl, rfl, rfl, fun _ => by simp⟩

/-- A token is moved whether or not an UPDATE chooses it. -/
theorem TokenMove.of_ite {chosen : Bool} {old : AgentAccountRefreshToken} (move : TokenMove old token) :
    TokenMove old (if chosen then token else old) := by
  split
  · exact move
  · exact TokenMove.refl old

theorem Revokes.grow (revokes : Revokes now sessions tokens before after) : FamiliesGrow before after := by
  constructor
  · intro old member
    refine ⟨_, (Table.mem_of_rows revokes.sessions).mpr ⟨old, member, rfl⟩, ?_⟩
    split
    · exact sessionMove_revoked now old
    · exact SessionMove.refl old
  · intro old member
    exact ⟨_, (Table.mem_of_rows revokes.refreshTokens).mpr ⟨old, member, rfl⟩,
      (tokenMove_revoked now old).of_ite⟩
  · intro token member
    rcases (Table.mem_of_rows revokes.refreshTokens).mp member with ⟨old, oldMember, rfl⟩
    exact Or.inl ⟨old, oldMember, (tokenMove_revoked now old).of_ite⟩

theorem families_grow_of_touched
    (sessions : Table.SameColumn familyColumns before.sessions after.sessions)
    (refreshTokens : after.refreshTokens = before.refreshTokens) : FamiliesGrow before after := by
  constructor
  · intro old member
    rcases sessions.after member with ⟨session, sessionMember, same⟩
    exact ⟨session, sessionMember, sessionMove_of_columns same⟩
  · intro old member
    exact ⟨old, refreshTokens ▸ member, TokenMove.refl old⟩
  · intro token member
    exact Or.inl ⟨token, refreshTokens ▸ member, TokenMove.refl token⟩

theorem families_grow_of_founded (founds : Founds session token)
    (sessions : before.sessions.insert session = some after.sessions)
    (refreshTokens : before.refreshTokens.insert token = some after.refreshTokens) :
    FamiliesGrow before after := by
  constructor
  · intro old member
    exact ⟨old, (Table.mem_insert sessions).mpr (Or.inl member), SessionMove.refl old⟩
  · intro old member
    exact ⟨old, (Table.mem_insert refreshTokens).mpr (Or.inl member), TokenMove.refl old⟩
  · intro other member
    rcases (Table.mem_insert refreshTokens).mp member with present | rfl
    · exact Or.inl ⟨other, present, TokenMove.refl other⟩
    · exact Or.inr ⟨session, (Table.mem_insert sessions).mpr (Or.inr rfl), founds.owned.symm,
        by rw [founds.generation, founds.first], founds.expiresAt⟩

/-- The session as a refresh leaves it. -/
theorem Rotates.advanced (rotates : Rotates now token next session accessTokenHash before after) :
    { session with
      accessTokenHash, accessExpiresAt := now + accessTokenTtl,
      refreshGeneration := session.refreshGeneration + 1, lastSeenAt := some now,
      expiryCheck := rotates.check } ∈ after.sessions := by
  refine (before.sessions.mem_amend rotates.sessions).mpr ⟨session, rotates.sessionMember, ?_⟩
  simp only [decide_true, if_true]
  unfold advancedSession
  rw [dif_pos rotates.check]

theorem Rotates.grow (rotates : Rotates now token next session accessTokenHash before after) :
    FamiliesGrow before after := by
  constructor
  · intro old member
    refine ⟨_, (before.sessions.mem_amend rotates.sessions).mpr ⟨old, member, rfl⟩, ?_⟩
    split
    · rename_i chosen
      have same := session_of_id member rotates.sessionMember (of_decide_eq_true chosen)
      subst same
      exact sessionMove_advanced
    · exact SessionMove.refl old
  · intro old member
    exact ⟨_, (Table.mem_insert rotates.refreshTokens).mpr (Or.inl
      ((Table.mem_update _).mpr ⟨old, member, rfl⟩)), (tokenMove_rotated now old).of_ite⟩
  · intro other member
    rcases (Table.mem_insert rotates.refreshTokens).mp member with present | rfl
    · rcases (Table.mem_update _).mp present with ⟨old, oldMember, rfl⟩
      exact Or.inl ⟨old, oldMember, (tokenMove_rotated now old).of_ite⟩
    · exact Or.inr ⟨_, rotates.advanced, rotates.nextOwned.symm, Nat.le_of_eq rotates.nextGeneration,
        rotates.nextExpiresAt⟩

/-! ## The family invariant -/

/-- Every token has its session. -/
def FamiliesOwned (families : Families) : Prop :=
  forall token, token ∈ families.refreshTokens -> HasOwner families.sessions token

theorem FamiliesOwned.grow (owned : FamiliesOwned before) (grow : FamiliesGrow before after) :
    FamiliesOwned after := by
  intro token member
  rcases grow.origin token member with ⟨old, oldMember, move⟩ | owner
  · exact (owned old oldMember).move move grow.sessions
  · exact owner

/-- Every token has its session; an active token is of the newest generation
of a session that is not revoked. -/
structure FamiliesKept (families : Families) : Prop where
  owned : FamiliesOwned families
  active : forall token, token ∈ families.refreshTokens -> token.status = .active ->
    forall session, session ∈ families.sessions -> session.id = token.sessionId ->
      token.generation = session.refreshGeneration ∧ session.revokedAt = none

theorem familiesOwned_empty : FamiliesOwned AgentSessionStore.empty.families :=
  fun token member => absurd member (Table.not_mem_empty token)

theorem familiesKept_empty : FamiliesKept AgentSessionStore.empty.families where
  owned := familiesOwned_empty
  active token member := absurd member (Table.not_mem_empty token)

namespace FamiliesKept

theorem of_touched (kept : FamiliesKept before)
    (sessions : Table.SameColumn familyColumns before.sessions after.sessions)
    (refreshTokens : after.refreshTokens = before.refreshTokens) : FamiliesKept after := by
  refine ⟨kept.owned.grow (families_grow_of_touched sessions refreshTokens), ?_⟩
  intro token member active session sessionMember sameId
  rcases sessions.before sessionMember with ⟨old, oldMember, same⟩
  have oldId : old.id = session.id := Table.eq_of_mask same (fun _ => rfl)
  have generation : old.refreshGeneration = session.refreshGeneration :=
    Table.eq_of_mask same (fun _ => rfl)
  have revokedAt : old.revokedAt = session.revokedAt := Table.eq_of_mask same (fun _ => rfl)
  rw [← generation, ← revokedAt]
  exact kept.active token (refreshTokens ▸ member) active old oldMember (oldId.trans sameId)

theorem of_founded (kept : FamiliesKept before) (founds : Founds session token)
    (sessions : before.sessions.insert session = some after.sessions)
    (refreshTokens : before.refreshTokens.insert token = some after.refreshTokens) :
    FamiliesKept after := by
  have new : session ∈ after.sessions := (Table.mem_insert sessions).mpr (Or.inr rfl)
  -- No token of an earlier session names the new one.
  have apart : forall old, old ∈ before.refreshTokens -> old.sessionId ≠ session.id := by
    intro old member same
    rcases kept.owned old member with ⟨owner, ownerMember, ownerId, _⟩
    exact Table.fits_of_insert sessions owner ownerMember (.id owner.id) (by simp [Keyed.keys])
      (by simp [Keyed.keys, ownerId, same])
  refine ⟨kept.owned.grow (families_grow_of_founded founds sessions refreshTokens), ?_⟩
  intro other member active owner ownerMember ownerId
  rcases (Table.mem_insert refreshTokens).mp member with present | rfl
  · rcases (Table.mem_insert sessions).mp ownerMember with ownerPresent | rfl
    · exact kept.active other present active owner ownerPresent ownerId
    · exact absurd ownerId.symm (apart other present)
  · have same := session_of_id ownerMember new (ownerId.trans founds.owned)
    subst same
    exact ⟨founds.generation.trans founds.first.symm, founds.unrevoked⟩

theorem of_rotated (kept : FamiliesKept before)
    (rotates : Rotates now token next session accessTokenHash before after) : FamiliesKept after := by
  refine ⟨kept.owned.grow rotates.grow, ?_⟩
  intro other member active owner ownerMember ownerId
  rcases (Table.mem_insert rotates.refreshTokens).mp member with present | rfl
  · rcases (Table.mem_update _).mp present with ⟨old, oldMember, rfl⟩
    split at active
    · cases active
    rename_i unchosen
    rw [if_neg unchosen] at ownerId ⊢
    rcases (before.sessions.mem_amend rotates.sessions).mp ownerMember with
      ⟨previous, previousMember, rfl⟩
    by_cases chosen : previous.id = session.id
    · -- The presented token was the only active one of its session.
      have same := session_of_id previousMember rotates.sessionMember chosen
      subst same
      have sameId : (advancedSession now accessTokenHash (previous.refreshGeneration + 1)
          previous).id = previous.id := congrArg SessionTerms.id sessionMove_advanced.terms
      have inFamily : previous.id = old.sessionId := by
        simpa only [decide_true, if_true, sameId] using ownerId
      have oldGeneration :=
        (kept.active old oldMember active previous previousMember inFamily).1
      have tokenGeneration := (kept.active token rotates.tokenMember rotates.active previous
        previousMember rotates.owned.symm).1
      have presented := token_of_generation oldMember rotates.tokenMember
        (inFamily.symm.trans rotates.owned.symm) (oldGeneration.trans tokenGeneration.symm)
      subst presented
      simp [active] at unchosen
    · simp only [chosen, decide_false, Bool.false_eq_true, if_false] at ownerId ⊢
      exact kept.active old oldMember active previous previousMember ownerId
  · have same := session_of_id ownerMember rotates.advanced (ownerId.trans rotates.nextOwned)
    rw [same]
    exact ⟨rotates.nextGeneration, rotates.unrevoked⟩

theorem of_revoked (kept : FamiliesKept before) (covers : Covers before sessions tokens)
    (revokes : Revokes now sessions tokens before after) : FamiliesKept after := by
  refine ⟨kept.owned.grow revokes.grow, ?_⟩
  intro token member active session sessionMember sameId
  rcases (Table.mem_of_rows revokes.refreshTokens).mp member with ⟨old, oldMember, rfl⟩
  rcases (Table.mem_of_rows revokes.sessions).mp sessionMember with ⟨owner, ownerMember, rfl⟩
  split at active
  · cases active
  rename_i spared
  rw [if_neg spared] at sameId ⊢
  by_cases chosen : sessions owner = true
  · simp only [chosen, if_true] at sameId
    have taken := covers owner ownerMember chosen old oldMember sameId.symm active
    simp [taken, active] at spared
  · simp only [chosen, Bool.false_eq_true, if_false] at sameId ⊢
    exact kept.active old oldMember active owner ownerMember sameId

/-- No change of a family breaks it. -/
theorem change (kept : FamiliesKept before) (change : FamilyChange now before after) :
    FamiliesKept after := by
  cases change with
  | touched sessions refreshTokens => exact kept.of_touched sessions refreshTokens
  | founded session token founds sessions refreshTokens =>
    exact kept.of_founded founds sessions refreshTokens
  | rotated token next session accessTokenHash rotates => exact kept.of_rotated rotates
  | revoked revokedAt sessions tokens covers revokes => exact kept.of_revoked covers revokes

end FamiliesKept

end AgentSessions
end DigitalSolutions
