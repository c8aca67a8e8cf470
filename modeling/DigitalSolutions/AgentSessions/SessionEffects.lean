import DigitalSolutions.AgentSessions.Families

namespace DigitalSolutions
namespace AgentSessions

open Foundation Persistence

/-!
# What each transaction does to the store

The authorizations and the families are tied together in two ways: a session
belongs to whoever approved its authorization, and the bundle of a session is
gone once the session has been refreshed or revoked.  The effect of a
transaction says what it does on either side and that it keeps the ties.
-/

/-- No authorization hands out the bundle of the session. -/
def Silent (sessionId : Id) (authorizations : Table AgentDeviceAuthorization) : Prop :=
  forall row, row ∈ authorizations -> row.sessionId = some sessionId -> row.tokenBundleCiphertext = none

/-- A session that has been refreshed or revoked. -/
def Spent (session : AgentAccountSession) : Prop :=
  session.revokedAt.isSome = true ∨ 0 < session.refreshGeneration

theorem spent_of_columns {old session : AgentAccountSession}
    (same : familyColumns old = familyColumns session) (spent : Spent session) : Spent old := by
  have revokedAt : old.revokedAt = session.revokedAt := Table.eq_of_mask same (fun _ => rfl)
  have generation : old.refreshGeneration = session.refreshGeneration :=
    Table.eq_of_mask same (fun _ => rfl)
  unfold Spent
  rw [revokedAt, generation]
  exact spent

/-- An authorization that names a session is consumed, and the session belongs
to the user who approved it. -/
structure Linked (store : AgentSessionStore) : Prop where
  consumed : forall row, row ∈ store.authorizations -> row.sessionId.isSome = true ->
    row.status = .consumed
  user : forall row, row ∈ store.authorizations -> forall session, session ∈ store.sessions ->
    row.sessionId = some session.id -> row.approvedByUserId = some session.userId

/-- What every transaction does to the authorizations, and what it keeps. -/
structure StoreEffect (now : Time) (approver created : Option Id)
    (before after : AgentSessionStore) : Prop where
  authorizations : AuthorizationsMoved now approver created before.authorizations
    after.authorizations
  grow : FamiliesGrow before.families after.families
  fresh : forall sessionId, created = some sessionId ->
    forall old, old ∈ before.sessions -> old.id ≠ sessionId
  silences : Linked before -> forall session, session ∈ after.sessions -> Spent session ->
    Silent session.id after.authorizations ∨
      Exists fun old => old ∈ before.sessions ∧ old.id = session.id ∧ Spent old
  linked : Linked before -> Linked after

/-- What a transaction does that runs in one go. -/
structure SessionEffect (now : Time) (approver created : Option Id)
    (before after : AgentSessionStore) : Prop extends
    StoreEffect now approver created before after where
  families : Relation.ReflTransGen (FamilyChange now) before.families after.families

/-- A consumed authorization keeps its session and its approver, and its
bundle stays in its window or goes. -/
structure StaysConsumed (old row : AgentDeviceAuthorization) : Prop where
  status : row.status = .consumed
  sessionId : row.sessionId = old.sessionId
  approvedByUserId : row.approvedByUserId = old.approvedByUserId
  approvedAt : row.approvedAt = old.approvedAt
  consumedAt : row.consumedAt = old.consumedAt
  bundle : row.tokenBundleCiphertext = none ∨
    (row.tokenBundleCiphertext = old.tokenBundleCiphertext ∧
      row.handoffExpiresAt = old.handoffExpiresAt)

theorem AuthorizationMove.of_consumed {now : Time} {approver created : Option Id}
    {old row : AgentDeviceAuthorization} (move : AuthorizationMove now approver created old row)
    (consumed : old.status = .consumed) : StaysConsumed old row := by
  cases move with
  | stayed => exact ⟨consumed, rfl, rfl, rfl, rfl, Or.inr ⟨rfl, rfl⟩⟩
  | polled interval pending chosen => rw [consumed] at pending; cases pending
  | expired unsettled ciphertext less => simp [consumed] at unsettled
  | approved principalId accountId approves pending unlapsed => rw [consumed] at pending; cases pending
  | denied unsettled deniedAt ciphertext less handoffExpiresAt => simp [consumed] at unsettled
  | consumed sessionId ciphertext creates approved unlapsed => rw [consumed] at approved; cases approved
  | closed handoffExpiresAt => exact ⟨consumed, rfl, rfl, rfl, rfl, Or.inl rfl⟩

/-- A move names a session that the authorization did not name before only by
creating it. -/
theorem AuthorizationMove.sessionId {now : Time} {approver created : Option Id}
    {old row : AgentDeviceAuthorization} (move : AuthorizationMove now approver created old row) :
    row.sessionId = old.sessionId ∨
      (row.sessionId.isSome = true ∧ row.sessionId = created ∧ old.status = .approved ∧
        row.status = .consumed ∧ row.approvedByUserId = old.approvedByUserId) := by
  cases move with
  | consumed sessionId ciphertext creates approved unlapsed =>
    exact Or.inr ⟨rfl, creates.symm, approved, rfl, rfl⟩
  | _ => exact Or.inl rfl

variable {now : Time} {approver : Option Id} {before middle after : AgentSessionStore}
variable {row : AgentDeviceAuthorization} {tokens : AgentAccountRefreshToken -> Bool}
variable {created : Option Id} {sessions : AgentAccountSession -> Bool}

theorem Linked.of_moved (linked : Linked before)
    (moved : AuthorizationsMoved now approver none before.authorizations after.authorizations)
    (sessions : forall session, session ∈ after.sessions -> Exists fun old =>
      old ∈ before.sessions ∧ old.id = session.id ∧ old.userId = session.userId) :
    Linked after := by
  have origin : forall row, row ∈ after.authorizations -> row.sessionId.isSome = true ->
      Exists fun old => old ∈ before.authorizations ∧ StaysConsumed old row := by
    intro row member named
    rcases moved.origin row member with ⟨old, oldMember, move⟩ | ⟨fresh, _⟩
    · have same : row.sessionId = old.sessionId := by
        rcases move.sessionId with same | ⟨_, created, _⟩
        · exact same
        · rw [created] at named
          cases named
      exact ⟨old, oldMember, move.of_consumed (linked.consumed old oldMember (same ▸ named))⟩
    · cases fresh with
      | started => cases named
      | issued => cases named
  constructor
  · intro row member named
    rcases origin row member named with ⟨old, _, stays⟩
    exact stays.status
  · intro row member session sessionMember named
    rcases origin row member (by rw [named]; rfl) with ⟨old, oldMember, stays⟩
    rcases sessions session sessionMember with ⟨owner, ownerMember, sameId, sameUser⟩
    rw [stays.approvedByUserId, ← sameUser]
    exact linked.user old oldMember owner ownerMember (by rw [← stays.sessionId, named, sameId])

namespace SessionEffect

/-- A transaction that leaves the families alone and creates no session. -/
theorem of_authorizations
    (moved : AuthorizationsMoved now approver none before.authorizations after.authorizations)
    (sameFamilies : after.families = before.families) :
    SessionEffect now approver none before after := by
  have sameSessions : after.sessions = before.sessions := congrArg Families.sessions sameFamilies
  refine ⟨⟨moved, by rw [sameFamilies]; exact FamiliesGrow.refl _,
    (fun _ creates => nomatch creates), ?_, ?_⟩, by rw [sameFamilies]⟩
  · intro _ session member spent
    exact Or.inr ⟨session, sameSessions ▸ member, rfl, spent⟩
  · intro linked
    exact linked.of_moved moved (fun session member => ⟨session, sameSessions ▸ member, rfl, rfl⟩)

theorem refl (store : AgentSessionStore) : SessionEffect now approver none store store :=
  of_authorizations (AuthorizationsMoved.refl _) rfl

/-- What the use of a session records authorizes nothing. -/
theorem of_touched (sameAuthorizations : after.authorizations = before.authorizations)
    (sessions : Table.SameColumn familyColumns before.sessions after.sessions)
    (refreshTokens : after.refreshTokens = before.refreshTokens) :
    SessionEffect now approver none before after := by
  have moved : AuthorizationsMoved now approver none before.authorizations after.authorizations :=
    sameAuthorizations ▸ AuthorizationsMoved.refl _
  have origin : forall session, session ∈ after.sessions -> Exists fun old =>
      old ∈ before.sessions ∧ familyColumns old = familyColumns session :=
    fun session member => sessions.before member
  refine ⟨⟨moved, families_grow_of_touched sessions refreshTokens,
    (fun _ creates => nomatch creates), ?_, ?_⟩, .single (.touched sessions refreshTokens)⟩
  · intro _ session member spent
    rcases origin session member with ⟨old, oldMember, same⟩
    have sameId : old.id = session.id := Table.eq_of_mask same (fun _ => rfl)
    exact Or.inr ⟨old, oldMember, sameId, spent_of_columns same spent⟩
  · intro linked
    refine linked.of_moved moved (fun session member => ?_)
    rcases origin session member with ⟨old, oldMember, same⟩
    exact ⟨old, oldMember, Table.eq_of_mask same (fun _ => rfl), Table.eq_of_mask same (fun _ => rfl)⟩

/-- A transaction that first records the use of a session. -/
theorem after_touched (sameAuthorizations : middle.authorizations = before.authorizations)
    (sessions : Table.SameColumn familyColumns before.sessions middle.sessions)
    (refreshTokens : middle.refreshTokens = before.refreshTokens)
    (second : SessionEffect now approver created middle after) :
    SessionEffect now approver created before after := by
  have first : SessionEffect now none none before middle :=
    of_touched sameAuthorizations sessions refreshTokens
  refine ⟨⟨sameAuthorizations ▸ second.authorizations, first.grow.trans second.grow, ?_, ?_,
    fun linked => second.linked (first.linked linked)⟩, first.families.trans second.families⟩
  · intro sessionId creates old member
    rcases sessions.after member with ⟨current, currentMember, same⟩
    have sameId : current.id = old.id := Table.eq_of_mask same (fun _ => rfl)
    exact sameId ▸ second.fresh sessionId creates current currentMember
  · intro linked session member spent
    rcases second.silences (first.linked linked) session member spent with
      silent | ⟨current, currentMember, currentId, currentSpent⟩
    · exact Or.inl silent
    · rcases sessions.before currentMember with ⟨old, oldMember, same⟩
      have sameId : old.id = current.id := Table.eq_of_mask same (fun _ => rfl)
      exact Or.inr ⟨old, oldMember, sameId.trans currentId, spent_of_columns same currentSpent⟩

end SessionEffect

/-! ## Revocation -/

theorem silent_endHandoff (sessionId : Id) (store : AgentSessionStore) :
    Silent sessionId (endHandoff sessionId now store).authorizations := by
  have wrote : (endHandoff sessionId now store).authorizations.rows = store.authorizations.rows.map
      (fun row => if decide (row.sessionId = some sessionId) then
        { row with tokenBundleCiphertext := none, handoffExpiresAt := some now } else row) := rfl
  intro row member named
  rcases (Table.mem_of_rows wrote).mp member with ⟨old, _, rfl⟩
  by_cases chosen : old.sessionId = some sessionId
  · simp only [chosen, decide_true, if_true]
  · simp only [chosen, decide_false, Bool.false_eq_true, if_false] at named

/-- Closing what a user approved silences the user's sessions. -/
theorem Linked.silent_closeAuthorizations (linked : Linked before) {userId : Id} {closedAt : Time}
    (sameAuthorizations : middle.authorizations = before.authorizations)
    {session : AgentAccountSession} (member : session ∈ before.sessions)
    (ofUser : session.userId = userId) :
    Silent session.id (closeAuthorizations userId closedAt middle).authorizations := by
  have wrote : (closeAuthorizations userId closedAt middle).authorizations.rows =
      middle.authorizations.rows.map (fun row =>
        if grantedBy userId row then closedRow closedAt row else row) := rfl
  intro row rowMember named
  rcases (Table.mem_of_rows wrote).mp rowMember with ⟨old, oldMember, rfl⟩
  have oldNamed : old.sessionId = some session.id := by
    split at named
    · exact named
    · exact named
  rw [sameAuthorizations] at oldMember
  have consumed := linked.consumed old oldMember (by rw [oldNamed]; rfl)
  have approved := linked.user old oldMember session member oldNamed
  have granted : grantedBy userId old = true := by
    simp [grantedBy, approved, ofUser, consumed]
  rw [if_pos granted]
  rfl

/-- A session after a revocation is the session before it, revoked or not. -/
theorem Revokes.origin (revokes : Revokes now sessions tokens before.families after.families)
    {session : AgentAccountSession} (member : session ∈ after.sessions) : Exists fun old =>
      old ∈ before.sessions ∧ sessionTerms old = sessionTerms session ∧
        (sessions old = true ∨ old = session) := by
  rcases (Table.mem_of_rows revokes.sessions).mp member with ⟨old, oldMember, rfl⟩
  by_cases chosen : sessions old = true
  · simp only [chosen, if_true]
    exact ⟨old, oldMember, rfl, Or.inl chosen⟩
  · simp only [chosen, Bool.false_eq_true, if_false]
    exact ⟨old, oldMember, rfl, Or.inr rfl⟩

/-- A revocation that silences the sessions it revokes. -/
theorem StoreEffect.of_revokes {revokedAt : Time}
    (moved : AuthorizationsMoved now approver none before.authorizations after.authorizations)
    (revokes : Revokes revokedAt sessions tokens before.families after.families)
    (silent : Linked before -> forall old, old ∈ before.sessions -> sessions old = true ->
      Silent old.id after.authorizations) : StoreEffect now approver none before after := by
  refine ⟨moved, revokes.grow, (fun _ creates => nomatch creates), ?_, ?_⟩
  · intro linked session member spent
    rcases revokes.origin member with ⟨old, oldMember, terms, chosen | same⟩
    · have sameId : old.id = session.id := congrArg SessionTerms.id terms
      exact Or.inl (sameId ▸ silent linked old oldMember chosen)
    · exact Or.inr ⟨old, oldMember, congrArg SessionTerms.id terms, same ▸ spent⟩
  · intro linked
    refine linked.of_moved moved (fun session member => ?_)
    rcases revokes.origin member with ⟨old, oldMember, terms, _⟩
    exact ⟨old, oldMember, congrArg SessionTerms.id terms, congrArg SessionTerms.userId terms⟩

theorem effect_revokeAgentSessionFamily (sessionId : Id) (store : AgentSessionStore) :
    SessionEffect now approver none store (revokeAgentSessionFamily sessionId now store) := by
  have moved : AuthorizationsMoved now approver none store.authorizations
      (revokeAgentSessionFamily sessionId now store).authorizations := moved_endHandoff sessionId
  have revokes : Revokes now (fun session => session.id = sessionId)
      (fun token => token.sessionId = sessionId) store.families
      (revokeAgentSessionFamily sessionId now store).families := ⟨rfl, rfl⟩
  have covers : Covers store.families (fun session => session.id = sessionId)
      (fun token => token.sessionId = sessionId) := by
    intro session _ chosen token _ owned _
    exact decide_eq_true (owned.trans (of_decide_eq_true chosen))
  refine ⟨StoreEffect.of_revokes moved revokes ?_, .single (.revoked _ _ _ covers revokes)⟩
  intro _ old _ chosen
  rw [of_decide_eq_true chosen]
  exact silent_endHandoff sessionId _

theorem effect_revokeAgentAccountSessionsForUser (userId : Id) (store : AgentSessionStore) :
    SessionEffect now approver none store (revokeAgentAccountSessionsForUser userId now store) := by
  have moved : AuthorizationsMoved now approver none store.authorizations
      (revokeAgentAccountSessionsForUser userId now store).authorizations :=
    moved_closeAuthorizations userId now
  have revokes : Revokes now (fun session => session.userId = userId)
      (fun token => store.sessions.rows.any (fun session =>
        session.id = token.sessionId && session.userId = userId)) store.families
      (revokeAgentAccountSessionsForUser userId now store).families := ⟨rfl, rfl⟩
  have covers : Covers store.families (fun session => session.userId = userId)
      (fun token => store.sessions.rows.any (fun session =>
        session.id = token.sessionId && session.userId = userId)) := by
    intro session member chosen token _ owned _
    refine List.any_eq_true.mpr ⟨session, member, ?_⟩
    rw [Bool.and_eq_true]
    exact ⟨decide_eq_true owned.symm, chosen⟩
  refine ⟨StoreEffect.of_revokes moved revokes ?_, .single (.revoked _ _ _ covers revokes)⟩
  intro linked old oldMember chosen
  exact linked.silent_closeAuthorizations rfl oldMember (of_decide_eq_true chosen)

/-! ## Rotation and creation -/

/-- A refresh advances one session and silences it. -/
theorem SessionEffect.of_rotates {token next : AgentAccountRefreshToken}
    {session : AgentAccountSession} {accessTokenHash : String}
    (authorizations : after.authorizations = (endHandoff session.id now before).authorizations)
    (rotates : Rotates now token next session accessTokenHash before.families after.families) :
    SessionEffect now approver none before after := by
  have moved : AuthorizationsMoved now approver none before.authorizations after.authorizations :=
    authorizations ▸ moved_endHandoff session.id
  have origin : forall other, other ∈ after.sessions -> Exists fun old =>
      old ∈ before.sessions ∧ sessionTerms old = sessionTerms other ∧
        (old.id = session.id ∨ old = other) := by
    intro other member
    rcases (before.sessions.mem_amend rotates.sessions).mp member with ⟨old, oldMember, rfl⟩
    by_cases chosen : old.id = session.id
    · have same := session_of_id oldMember rotates.sessionMember chosen
      subst same
      simp only [decide_true, if_true]
      exact ⟨old, oldMember, sessionMove_advanced.terms.symm, Or.inl rfl⟩
    · simp only [chosen, decide_false, Bool.false_eq_true, if_false]
      exact ⟨old, oldMember, rfl, Or.inr rfl⟩
  refine ⟨⟨moved, rotates.grow, (fun _ creates => nomatch creates), ?_, ?_⟩,
    .single (.rotated token next session accessTokenHash rotates)⟩
  · intro _ other member spent
    rcases origin other member with ⟨old, oldMember, terms, chosen | same⟩
    · have sameId : other.id = session.id := (congrArg SessionTerms.id terms).symm.trans chosen
      rw [sameId, authorizations]
      exact Or.inl (silent_endHandoff session.id before)
    · exact Or.inr ⟨old, oldMember, congrArg SessionTerms.id terms, same ▸ spent⟩
  · intro linked
    refine linked.of_moved moved (fun other member => ?_)
    rcases origin other member with ⟨old, oldMember, terms, _⟩
    exact ⟨old, oldMember, congrArg SessionTerms.id terms, congrArg SessionTerms.userId terms⟩

/-- What a poll of an approved authorization writes. -/
structure Creates (now : Time) (authorization : AgentDeviceAuthorization)
    (session : AgentAccountSession) (token : AgentAccountRefreshToken) (ciphertext : String)
    (before after : AgentSessionStore) : Prop where
  member : authorization ∈ before.authorizations
  approved : authorization.status = .approved
  unlapsed : now < authorization.expiresAt
  approvedBy : authorization.approvedByUserId = some session.userId
  founds : Founds session token
  authorizationId : session.deviceAuthorizationId = authorization.id
  sessions : before.sessions.insert session = some after.sessions
  refreshTokens : before.refreshTokens.insert token = some after.refreshTokens
  authorizations : before.authorizations.amend
    (fun row => row.id = authorization.id && row.status = .approved)
    (consumedRow session.id ciphertext now) = some after.authorizations

section Creation

variable {authorization : AgentDeviceAuthorization} {session : AgentAccountSession}
variable {token : AgentAccountRefreshToken} {ciphertext : String}
variable (creates : Creates now authorization session token ciphertext before after)

include creates

/-- Every row but the consumed one stays. -/
theorem Creates.origin (member : row ∈ after.authorizations) :
    row = consumedRow session.id ciphertext now authorization ∨
      (row ∈ before.authorizations ∧ row.id ≠ authorization.id) := by
  rcases (before.authorizations.mem_amend creates.authorizations).mp member with ⟨old, oldMember, rfl⟩
  by_cases chosen : old.id = authorization.id
  · have same := authorization_of_id oldMember creates.member chosen
    subst same
    simp only [creates.approved, decide_true, Bool.and_self, if_true]
    exact Or.inl trivial
  · simp only [chosen, decide_false, Bool.false_and, Bool.false_eq_true, if_false]
    exact Or.inr ⟨oldMember, chosen⟩

theorem Creates.consumed :
    consumedRow session.id ciphertext now authorization ∈ after.authorizations := by
  refine (before.authorizations.mem_amend creates.authorizations).mpr
    ⟨authorization, creates.member, ?_⟩
  simp only [creates.approved, decide_true, Bool.and_self, if_true]

/-- No other authorization names the new session. -/
theorem Creates.sole (member : row ∈ after.authorizations) (named : row.sessionId = some session.id) :
    row = consumedRow session.id ciphertext now authorization := by
  have inRow : AgentDeviceAuthorization.Key.sessionId session.id ∈ Keyed.keys row := by
    simp [Keyed.keys, named]
  have inConsumed : AgentDeviceAuthorization.Key.sessionId session.id ∈
      Keyed.keys (consumedRow session.id ciphertext now authorization) := by
    simp [Keyed.keys, consumedRow]
  exact after.authorizations.eq_of_common_key member creates.consumed inRow inConsumed

theorem Creates.fresh {old : AgentAccountSession} (member : old ∈ before.sessions) : old.id ≠ session.id := by
  intro same
  have taken := Table.fits_of_insert creates.sessions old member (.id old.id)
  exact taken (by simp [Keyed.keys]) (by simp [Keyed.keys, same])

theorem Creates.moved :
    AuthorizationsMoved now approver (some session.id) before.authorizations
      after.authorizations := by
  refine AuthorizationsMoved.of_rows (before.authorizations.rows_amend creates.authorizations)
    (fun old oldMember chosen => ?_)
  simp only [Bool.and_eq_true, decide_eq_true_eq] at chosen
  have same := authorization_of_id oldMember creates.member chosen.1
  subst same
  exact .consumed session.id ciphertext rfl creates.approved creates.unlapsed

theorem Creates.linked (linked : Linked before) : Linked after := by
  constructor
  · intro row member named
    rcases creates.origin member with rfl | ⟨old, _⟩
    · rfl
    · exact linked.consumed row old named
  · intro row member owner ownerMember named
    rcases (Table.mem_insert creates.sessions).mp ownerMember with present | rfl
    · rcases creates.origin member with rfl | ⟨old, _⟩
      · have sameId : session.id = owner.id := Option.some.inj named
        exact absurd sameId.symm (creates.fresh present)
      · exact linked.user row old owner present named
    · rw [creates.sole member named]
      exact creates.approvedBy

theorem SessionEffect.of_creates :
    SessionEffect now approver (some session.id) before after := by
  refine ⟨⟨creates.moved, families_grow_of_founded creates.founds creates.sessions
    creates.refreshTokens, ?_, ?_, creates.linked⟩,
    .single (.founded session token creates.founds creates.sessions creates.refreshTokens)⟩
  · intro sessionId same old member
    rw [← Option.some.inj same]
    exact creates.fresh member
  · intro _ other member spent
    rcases (Table.mem_insert creates.sessions).mp member with present | rfl
    · exact Or.inr ⟨other, present, rfl, spent⟩
    · rcases spent with revoked | refreshed
      · rw [creates.founds.unrevoked] at revoked
        cases revoked
      · rw [creates.founds.first] at refreshed
        exact absurd refreshed (Nat.lt_irrefl 0)

end Creation

end AgentSessions
end DigitalSolutions
