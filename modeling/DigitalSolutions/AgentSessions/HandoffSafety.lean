import DigitalSolutions.AgentSessions.FamilySafety

namespace DigitalSolutions
namespace AgentSessions

open Foundation Persistence Platform

/-!
# The device authorization as a state machine

An authorization is pending, approved and consumed in this order, and leaves
this path for good when it is denied or expires.  Consuming it makes its one
session.  The bundle of that session is returned to whoever holds the device
code, for as long as the hand-off is open, and never again once the session
has been acknowledged, refreshed or revoked.
-/

variable {authorization : AgentDeviceAuthorization} {bundle : AgentAccountTokenBundle}
variable {input : PollInput}

/-- The moves of the status. -/
def StatusStep : AuthorizationStatus -> AuthorizationStatus -> Prop
  | .pending, next => next ≠ .consumed
  | .approved, next => next ≠ .pending
  | status, next => next = status

/-- A status that is never left. -/
def Settled (status : AuthorizationStatus) : Prop :=
  status = .consumed ∨ status = .denied ∨ status = .expired

theorem AuthorizationMove.statusStep {now : Time} {approver created : Option Id}
    {old row : AgentDeviceAuthorization} (move : AuthorizationMove now approver created old row) :
    StatusStep old.status row.status := by
  cases move with
  | stayed => cases status : old.status <;> simp [StatusStep]
  | polled interval pending chosen => simp [pending, StatusStep]
  | expired unsettled ciphertext less =>
    rcases unsettled with pending | approved | expired
    · simp [pending, StatusStep]
    · simp [approved, StatusStep]
    · simp [expired, StatusStep]
  | approved principalId accountId approves pending unlapsed => simp [pending, StatusStep]
  | denied unsettled deniedAt ciphertext less handoffExpiresAt =>
    rcases unsettled with pending | approved
    · simp [pending, StatusStep]
    · simp [approved, StatusStep]
  | consumed sessionId ciphertext creates approved unlapsed =>
    simp [approved, consumedRow, StatusStep]
  | closed handoffExpiresAt => cases status : old.status <;> simp [StatusStep]

/-! ## An authorization over time -/

/-- What a later state keeps of an authorization. -/
structure AuthorizationPath (old row : AgentDeviceAuthorization) : Prop where
  terms : authorizationTerms row = authorizationTerms old
  settled : Settled old.status -> row.status = old.status
  approval : old.status ≠ .pending -> row.status ≠ .pending ∧
    row.approvedByUserId = old.approvedByUserId ∧ row.approvedAt = old.approvedAt

theorem AuthorizationPath.refl (row : AgentDeviceAuthorization) : AuthorizationPath row row :=
  ⟨rfl, fun _ => rfl, fun unpending => ⟨unpending, rfl, rfl⟩⟩

theorem AuthorizationPath.trans {first second third : AgentDeviceAuthorization}
    (left : AuthorizationPath first second) (right : AuthorizationPath second third) :
    AuthorizationPath first third := by
  refine ⟨right.terms.trans left.terms, ?_, ?_⟩
  · intro settled
    have same := left.settled settled
    exact (right.settled (same ▸ settled)).trans same
  · intro unpending
    rcases left.approval unpending with ⟨middle, leftBy, leftAt⟩
    rcases right.approval middle with ⟨last, rightBy, rightAt⟩
    exact ⟨last, rightBy.trans leftBy, rightAt.trans leftAt⟩

theorem AuthorizationMove.path {now : Time} {approver created : Option Id}
    {old row : AgentDeviceAuthorization} (move : AuthorizationMove now approver created old row) :
    AuthorizationPath old row := by
  refine ⟨move.terms, ?_, ?_⟩
  · intro settled
    have step := move.statusStep
    rcases settled with status | status | status
    · rw [status] at step ⊢
      exact step
    · rw [status] at step ⊢
      exact step
    · rw [status] at step ⊢
      exact step
  · intro unpending
    cases move with
    | stayed => exact ⟨unpending, rfl, rfl⟩
    | polled interval pending chosen => exact absurd pending unpending
    | expired unsettled ciphertext less => exact ⟨by simp, rfl, rfl⟩
    | approved principalId accountId approves pending unlapsed => exact absurd pending unpending
    | denied unsettled deniedAt ciphertext less handoffExpiresAt => exact ⟨by simp, rfl, rfl⟩
    | consumed sessionId ciphertext creates approved unlapsed => exact ⟨by simp [consumedRow], rfl, rfl⟩
    | closed handoffExpiresAt => exact ⟨unpending, rfl, rfl⟩

/-- No authorization is removed. -/
def AuthorizationsKept (before after : Table AgentDeviceAuthorization) : Prop :=
  forall old, old ∈ before -> Exists fun row => row ∈ after ∧ AuthorizationPath old row

section Runs

variable {platform : SessionPlatform} {state : AgentState}

theorem authorizationsKept_run (sound : Sound state) (actions : List AgentAction) :
    AuthorizationsKept state.store.authorizations
      ((agentMachine platform).run state actions).store.authorizations := by
  have keeps : forall current action next,
      Sound current ∧ AuthorizationsKept state.store.authorizations current.store.authorizations ->
      (agentMachine platform).step current action = .ok next ->
      Sound next ∧ AuthorizationsKept state.store.authorizations next.store.authorizations := by
    rintro current action next ⟨sound, kept⟩ accepted
    rcases motion_of_step accepted with ⟨answer, motion⟩
    rcases sound.effect motion with ⟨created, effect⟩
    refine ⟨sound.motion motion, fun old member => ?_⟩
    rcases kept old member with ⟨middle, middleMember, first⟩
    rcases effect.authorizations.kept middle middleMember with ⟨row, rowMember, move⟩
    exact ⟨row, rowMember, first.trans move.path⟩
  have initially : AuthorizationsKept state.store.authorizations state.store.authorizations :=
    fun old member => ⟨old, member, AuthorizationPath.refl old⟩
  exact (Machine.run_invariant keeps ⟨sound, initially⟩ actions).2

/-- The row of an authorization in a later state. -/
theorem path_of_run (sound : Sound state) {actions : List AgentAction}
    {old row : AgentDeviceAuthorization} (oldMember : old ∈ state.store.authorizations)
    (rowMember : row ∈ ((agentMachine platform).run state actions).store.authorizations)
    (sameId : row.id = old.id) : AuthorizationPath old row := by
  rcases authorizationsKept_run sound actions old oldMember with ⟨current, member, path⟩
  have same := authorization_of_id member rowMember
    ((congrArg AuthorizationTerms.id path.terms).trans sameId.symm)
  exact same ▸ path

/-- A session that is silent and exists is silent for good. -/
theorem silent_run (sound : Sound state) {sessionId : Id}
    (known : Exists fun session => session ∈ state.store.sessions ∧ session.id = sessionId)
    (silent : Silent sessionId state.store.authorizations) (actions : List AgentAction) :
    Silent sessionId ((agentMachine platform).run state actions).store.authorizations := by
  have keeps : forall current action next,
      Sound current ∧ (Exists fun session =>
        session ∈ current.store.sessions ∧ session.id = sessionId) ∧
        Silent sessionId current.store.authorizations ->
      (agentMachine platform).step current action = .ok next ->
      Sound next ∧ (Exists fun session =>
        session ∈ next.store.sessions ∧ session.id = sessionId) ∧
        Silent sessionId next.store.authorizations := by
    rintro current action next ⟨sound, ⟨session, member, sameId⟩, silent⟩ accepted
    rcases motion_of_step accepted with ⟨answer, motion⟩
    rcases sound.effect motion with ⟨created, effect⟩
    rcases effect.grow.sessions session member with ⟨later, laterMember, move⟩
    have uncreated : created ≠ some sessionId :=
      fun creates => effect.fresh sessionId creates session member sameId
    exact ⟨sound.motion motion,
      ⟨later, laterMember, (congrArg SessionTerms.id move.terms).trans sameId⟩,
      silent.kept effect.authorizations uncreated⟩
  exact (Machine.run_invariant keeps ⟨sound, known, silent⟩ actions).2.2

/-! ## Who approved -/

/-- A user has approved the authorization by an action of the run, before it
expired. -/
def ApprovedInRun (platform : SessionPlatform) (state : AgentState) (actions : List AgentAction)
    (authorization : AgentDeviceAuthorization) : Prop :=
  Exists fun before => Exists fun action => Exists fun after => Exists fun userId =>
    actions = before ++ action :: after ∧ action.approver = some userId ∧
    authorization.approvedByUserId = some userId ∧
    ((agentMachine platform).run state before).now < authorization.expiresAt

/-- An authorization has been approved. -/
def HasApproval (authorizationId : Id) (state : AgentState) : Prop :=
  Exists fun row => row ∈ state.store.authorizations ∧ row.id = authorizationId ∧
    (row.status = .approved ∨ row.status = .consumed)

/-- The step that approves an authorization is an approval before its expiry. -/
theorem approval_of_step (sound : Sound state) {action : AgentAction} {authorizationId : Id}
    (unapproved : ¬ HasApproval authorizationId state)
    (approved : HasApproval authorizationId ((agentMachine platform).attempt state action)) :
    Exists fun row => Exists fun userId =>
      row ∈ ((agentMachine platform).attempt state action).store.authorizations ∧
      row.id = authorizationId ∧ row.status ≠ .pending ∧ action.approver = some userId ∧
      row.approvedByUserId = some userId ∧ state.now < row.expiresAt := by
  cases outcome : (agentMachine platform).step state action with
  | error failure =>
    have unchanged : (agentMachine platform).attempt state action = state := by
      simp only [Machine.attempt, outcome]
    exact absurd (unchanged ▸ approved) unapproved
  | ok next =>
    rw [Machine.attempt_ok outcome] at approved ⊢
    rcases approved with ⟨row, member, sameId, status⟩
    rcases motion_of_step outcome with ⟨answer, motion⟩
    rcases sound.effect motion with ⟨created, effect⟩
    rcases effect.authorizations.origin row member with ⟨old, oldMember, move⟩ | ⟨fresh, _⟩
    · have oldId : old.id = authorizationId :=
        (congrArg AuthorizationTerms.id move.terms).symm.trans sameId
      have before : ¬ (old.status = .approved ∨ old.status = .consumed) :=
        fun status => unapproved ⟨old, oldMember, oldId, status⟩
      cases move with
      | stayed => exact absurd status before
      | polled interval pending chosen => exact absurd status before
      | expired unsettled ciphertext less => simp at status
      | approved principalId accountId approves pending unlapsed =>
        exact ⟨_, principalId, member, sameId, by simp, approves, rfl, unlapsed⟩
      | denied unsettled deniedAt ciphertext less handoffExpiresAt => simp at status
      | consumed sessionId ciphertext creates approved unlapsed => exact absurd (Or.inl approved) before
      | closed handoffExpiresAt => exact absurd status before
    · cases fresh with
      | started draw device deviceCodeHash userCodeHash =>
        rcases status with status | status <;> cases status
      | issued draw device principalId accountId deviceCodeHash userCodeHash approves =>
        exact ⟨_, principalId, member, sameId, by simp [handoffRow], approves, rfl,
          Int.lt_add_of_pos_right state.now (by decide)⟩

theorem approvedInRun (opening : state.Opening) {actions : List AgentAction}
    (member : authorization ∈ ((agentMachine platform).run state actions).store.authorizations)
    (approved : authorization.status = .approved ∨ authorization.status = .consumed) :
    ApprovedInRun platform state actions authorization := by
  have unapproved : ¬ HasApproval authorization.id state := by
    rintro ⟨row, rowMember, _⟩
    rw [opening.store] at rowMember
    exact Table.not_mem_empty row rowMember
  have finally' : HasApproval authorization.id ((agentMachine platform).run state actions) :=
    ⟨authorization, member, rfl, approved⟩
  rcases Machine.established unapproved finally' with ⟨before, action, after, rfl, unheld, held⟩
  have soundBefore : Sound ((agentMachine platform).run state before) :=
    (Sound.of_opening opening).run before
  rcases approval_of_step soundBefore unheld held with
    ⟨row, userId, rowMember, sameId, unpending, approver, approvedBy, unlapsed⟩
  rw [← Machine.run_concat] at rowMember
  have soundAfter : Sound ((agentMachine platform).run state (before ++ [action])) :=
    (Sound.of_opening opening).run (before ++ [action])
  rw [List.append_cons, Machine.run_append] at member
  have path := path_of_run soundAfter rowMember member sameId.symm
  have sameExpiry : authorization.expiresAt = row.expiresAt :=
    congrArg AuthorizationTerms.expiresAt path.terms
  exact ⟨before, action, after, userId, rfl, approver,
    (path.approval unpending).2.1.trans approvedBy, sameExpiry ▸ unlapsed⟩

/-! ## Deliveries -/

/-- A poll in this state returns the bundle, for this authorization. -/
structure Delivers (platform : SessionPlatform) (state : AgentState) (input : PollInput)
    (authorization : AgentDeviceAuthorization) (bundle : AgentAccountTokenBundle) : Prop where
  answers : Exists fun draw =>
    Answers platform state (.poll draw input) (.polled (.approved bundle))
  member : authorization ∈ state.store.authorizations
  holder : hashAgentDeviceCode platform input.deviceCode input.pepper =
    .ok authorization.deviceCodeHash

/-- The hand-off is open: the session is still to be made of an approval that
has not lapsed, or it was made less than the hand-off's term ago. -/
def OpenHandoff (now : Time) (authorization : AgentDeviceAuthorization) : Prop :=
  (authorization.status = .approved ∧ now < authorization.expiresAt) ∨
    (authorization.status = .consumed ∧ Exists fun consumedAt =>
      authorization.consumedAt = some consumedAt ∧ now < consumedAt + handoffTtl)

/-- Whoever polls has named the device that a native hand-off is bound to. -/
def BoundDevice (input : PollInput) (authorization : AgentDeviceAuthorization) : Prop :=
  authorization.authorizationKind = .nativeHandoff -> Exists fun deviceId =>
    input.deviceId = some deviceId ∧ trim deviceId = authorization.deviceId

theorem authorization_of_deviceCode {table : Table AgentDeviceAuthorization}
    {left right : AgentDeviceAuthorization} (leftMember : left ∈ table) (rightMember : right ∈ table)
    (same : left.deviceCodeHash = right.deviceCodeHash) : left = right := by
  have inLeft : AgentDeviceAuthorization.Key.deviceCodeHash left.deviceCodeHash ∈ Keyed.keys left := by
    simp [Keyed.keys]
  have inRight : AgentDeviceAuthorization.Key.deviceCodeHash left.deviceCodeHash ∈
      Keyed.keys right := by simp [Keyed.keys, same]
  exact table.eq_of_common_key leftMember rightMember inLeft inRight

/-- What a poll that returns a bundle has found. -/
structure Found (state : AgentState) (input : PollInput) (authorization : AgentDeviceAuthorization) :
    Prop where
  bound : BoundDevice input authorization
  handoff : (authorization.status = .approved ∧ state.now < authorization.expiresAt) ∨
    (authorization.status = .consumed ∧ authorization.tokenBundleCiphertext.isSome = true ∧
      Exists fun handoffExpiresAt => authorization.handoffExpiresAt = some handoffExpiresAt ∧
        state.now < handoffExpiresAt)

theorem poll_found {draw : SessionDraw -> String}
    (answers : Answers platform state (.poll draw input) (.polled (.approved bundle))) :
    Exists fun authorization => authorization ∈ state.store.authorizations ∧
      hashAgentDeviceCode platform input.deviceCode input.pepper =
        .ok authorization.deviceCodeHash ∧ Found state input authorization := by
  rcases answers with ⟨next, performs⟩
  rcases commits_onStore performs with ⟨result, store, commits, same, rfl⟩
  cases same
  rcases pollAgentDeviceAuthorization_outcome commits with
    ⟨_, impossible⟩ | ⟨deviceCodeHash, authorization, hashed, found, outcome, named⟩
  · cases impossible
  have sameHash : authorization.deviceCodeHash = deviceCodeHash := by
    have key := state.store.authorizations.lookup_key found
    simp [Keyed.keys] at key
    exact key.symm
  refine ⟨authorization, state.store.authorizations.lookup_mem found, sameHash ▸ hashed, ?_, ?_⟩
  · intro native
    rcases (Option.any_eq_true _ _).mp (named bundle rfl native) with ⟨deviceId, given, matches'⟩
    simp only [ne_eq, Bool.and_eq_true, decide_eq_true_eq] at matches'
    exact ⟨deviceId, given, matches'.2⟩
  · cases outcome.handout bundle rfl with
    | created user account session token ciphertext after same creates =>
      exact Or.inl ⟨creates.approved, creates.unlapsed⟩
    | repeated _ ciphertext handoffExpiresAt consumed sealed window inWindow opened =>
      exact Or.inr ⟨consumed, by rw [sealed]; rfl, handoffExpiresAt, window, inWindow⟩

theorem Delivers.found (delivers : Delivers platform state input authorization bundle) :
    Found state input authorization := by
  rcases delivers.answers with ⟨draw, answers⟩
  rcases poll_found answers with ⟨other, member, hashed, found⟩
  have same := authorization_of_deviceCode member delivers.member
    (Except.ok.inj (hashed.symm.trans delivers.holder))
  exact same ▸ found

/-- The window of a bundle is the hand-off's term after its session was made. -/
theorem Found.openHandoff (found : Found state input authorization) (grounded : Grounded authorization) :
    OpenHandoff state.now authorization := by
  rcases found.handoff with approved | ⟨consumed, sealed, handoffExpiresAt, window, inWindow⟩
  · exact Or.inl approved
  · rcases (grounded.bundle sealed).2 with ⟨consumedAt, recorded, term⟩
    have same : handoffExpiresAt = consumedAt + handoffTtl := Option.some.inj (window.symm.trans term)
    exact Or.inr ⟨consumed, consumedAt, recorded, same ▸ inWindow⟩

/-- No bundle is returned for a session that is silent. -/
theorem Delivers.not_silent (sound : Sound state)
    (delivers : Delivers platform state input authorization bundle) {sessionId : Id}
    (silent : Silent sessionId state.store.authorizations) :
    authorization.sessionId ≠ some sessionId := by
  intro named
  rcases delivers.found.handoff with ⟨approved, _⟩ | ⟨_, sealed, _⟩
  · have consumed := sound.store.linked.consumed authorization delivers.member (by rw [named]; rfl)
    rw [approved] at consumed
    cases consumed
  · rw [silent authorization delivers.member named] at sealed
    cases sealed

/-! ## Whole runs -/

/-- What holds in the state that a run leads to. -/
structure HandoffLaw (platform : SessionPlatform) (state : AgentState) (actions : List AgentAction) :
    Prop where
  moves : forall action old row,
    old ∈ ((agentMachine platform).run state actions).store.authorizations ->
    row ∈ ((agentMachine platform).run state (actions ++ [action])).store.authorizations ->
    row.id = old.id -> StatusStep old.status row.status
  single : forall earlier later, actions = earlier ++ later -> forall first second,
    first ∈ ((agentMachine platform).run state earlier).store.sessions ->
    second ∈ ((agentMachine platform).run state actions).store.sessions ->
    first.deviceAuthorizationId = second.deviceAuthorizationId -> first.id = second.id
  delivery : forall draw input bundle,
    Answers platform ((agentMachine platform).run state actions) (.poll draw input)
      (.polled (.approved bundle)) ->
    Exists fun authorization =>
      Delivers platform ((agentMachine platform).run state actions) input authorization bundle ∧
      BoundDevice input authorization ∧ ApprovedInRun platform state actions authorization ∧
      OpenHandoff ((agentMachine platform).run state actions).now authorization

/-- What is over after an action of a run: no later poll returns a bundle for
the session that was acknowledged, refreshed or revoked, or for the
authorization whose cancellation was accepted. -/
structure HandoffEnds (platform : SessionPlatform) (state : AgentState) (first : List AgentAction)
    (action : AgentAction) (second : List AgentAction) : Prop where
  ended : forall answer sessionId,
    Answers platform ((agentMachine platform).run state first) action answer ->
    answer.endsHandoffOf = some sessionId -> forall input authorization bundle,
    Delivers platform ((agentMachine platform).run state (first ++ action :: second)) input
      authorization bundle -> authorization.sessionId ≠ some sessionId
  spent : forall session,
    session ∈ ((agentMachine platform).run state (first ++ [action])).store.sessions ->
    Spent session -> forall input authorization bundle,
    Delivers platform ((agentMachine platform).run state (first ++ action :: second)) input
      authorization bundle -> authorization.sessionId ≠ some session.id
  cancelled : forall cancellation deviceCodeHash, action = .cancel cancellation ->
    Answers platform ((agentMachine platform).run state first) action (.cancelled .cancelled) ->
    hashAgentDeviceCode platform cancellation.deviceCode cancellation.pepper = .ok deviceCodeHash ->
    forall input authorization bundle,
    Delivers platform ((agentMachine platform).run state (first ++ action :: second)) input
      authorization bundle -> authorization.deviceCodeHash ≠ deviceCodeHash

theorem handoffLaw (opening : state.Opening) (actions : List AgentAction) :
    HandoffLaw platform state actions := by
  have sound : forall actions, Sound ((agentMachine platform).run state actions) :=
    fun actions => (Sound.of_opening opening).run actions
  constructor
  · intro action old row oldMember rowMember sameId
    rw [Machine.run_concat] at rowMember
    cases outcome : (agentMachine platform).step ((agentMachine platform).run state actions) action with
    | error failure =>
      simp only [Machine.attempt, outcome] at rowMember
      rw [authorization_of_id rowMember oldMember sameId]
      have unmoved : AuthorizationMove 0 none none old old := .stayed
      exact unmoved.statusStep
    | ok next =>
      rw [Machine.attempt_ok outcome] at rowMember
      rcases motion_of_step outcome with ⟨answer, motion⟩
      rcases (sound actions).effect motion with ⟨created, effect⟩
      rcases effect.authorizations.kept old oldMember with ⟨current, member, move⟩
      have same := authorization_of_id member rowMember
        ((congrArg AuthorizationTerms.id move.terms).trans sameId.symm)
      exact same ▸ move.statusStep
  · intro earlier later split first second firstMember secondMember sameAuthorization
    subst split
    rw [Machine.run_append] at secondMember
    rcases ((sound earlier).grow_run later).sessions first firstMember with ⟨current, member, move⟩
    have same := session_of_authorization member secondMember
      ((congrArg SessionTerms.deviceAuthorizationId move.terms).trans sameAuthorization)
    exact (congrArg SessionTerms.id move.terms).symm.trans (congrArg AgentAccountSession.id same)
  · intro draw input bundle answers
    rcases poll_found answers with ⟨authorization, member, holder, found⟩
    have status : authorization.status = .approved ∨ authorization.status = .consumed := by
      rcases found.handoff with ⟨approved, _⟩ | ⟨consumed, _⟩
      · exact Or.inl approved
      · exact Or.inr consumed
    exact ⟨authorization, ⟨⟨draw, answers⟩, member, holder⟩, found.bound,
      approvedInRun opening member status,
      found.openHandoff ((sound actions).store.grounded authorization member)⟩

theorem handoffEnds (opening : state.Opening) (first : List AgentAction) (action : AgentAction)
    (second : List AgentAction) : HandoffEnds platform state first action second := by
  have sound : forall actions, Sound ((agentMachine platform).run state actions) :=
    fun actions => (Sound.of_opening opening).run actions
  have rest : (agentMachine platform).run state (first ++ action :: second) =
      (agentMachine platform).run ((agentMachine platform).run state (first ++ [action])) second := by
    rw [List.append_cons, Machine.run_append]
  have after : forall {answer next},
      (perform platform action).Commits ((agentMachine platform).run state first) answer next ->
      (agentMachine platform).run state (first ++ [action]) = next := by
    intro answer next performs
    rw [Machine.run_concat]
    exact attempt_of_commits performs
  constructor
  · intro answer sessionId answers ends input authorization bundle delivers
    rcases answers with ⟨next, performs⟩
    have motion := motion_of_commits performs
    have ended : (Exists fun session => session ∈ next.store.sessions ∧ session.id = sessionId) ∧
        Silent sessionId next.store.authorizations := by
      have mute : answer ≠ .done := by
        rintro rfl
        cases ends
      cases motion with
      | transaction _ created store directory effect answered =>
        rcases answered.known (sound first).store.owned sessionId ends with ⟨old, oldMember, oldId⟩
        rcases effect.grow.sessions old oldMember with ⟨session, member, move⟩
        exact ⟨⟨session, member, (congrArg SessionTerms.id move.terms).trans oldId⟩,
          answered.silent sessionId ends⟩
      | _ => exact absurd rfl mute
    rw [rest, after performs] at delivers
    have soundNext : Sound next := after performs ▸ sound (first ++ [action])
    exact delivers.not_silent (soundNext.run second) (silent_run soundNext ended.1 ended.2 second)
  · intro session member spent input authorization bundle delivers
    rw [rest] at delivers
    have soundNext := sound (first ++ [action])
    have silent := soundNext.store.quiet session member spent
    exact delivers.not_silent (soundNext.run second)
      (silent_run soundNext ⟨session, member, rfl⟩ silent second)
  · intro cancellation deviceCodeHash isCancel answers hashed input authorization bundle delivers
    subst isCancel
    rcases answers with ⟨next, performs⟩
    rw [rest, after performs] at delivers
    have soundNext : Sound next := after performs ▸ sound (first ++ [.cancel cancellation])
    rcases commits_onStore performs with ⟨result, store, commits, same, rfl⟩
    cases same
    rcases (cancelAgentDeviceAuthorization_outcome commits).2 rfl with
      ⟨otherHash, row, otherHashed, rowMember, rowHash, denied⟩
    have sameHash : otherHash = deviceCodeHash := Except.ok.inj (otherHashed.symm.trans hashed)
    intro wanted
    rcases authorizationsKept_run soundNext second row rowMember with ⟨current, member, path⟩
    have currentHash : current.deviceCodeHash = authorization.deviceCodeHash :=
      (congrArg AuthorizationTerms.deviceCodeHash path.terms).trans
        (rowHash.trans (sameHash.trans wanted.symm))
    have same := authorization_of_deviceCode member delivers.member currentHash
    have stillDenied : authorization.status = .denied :=
      same ▸ (path.settled (Or.inr (Or.inl denied))).trans denied
    rcases delivers.found.handoff with ⟨approved, _⟩ | ⟨consumed, _⟩
    · rw [stillDenied] at approved
      cases approved
    · rw [stillDenied] at consumed
      cases consumed

/-- Every run obeys the law of the hand-off, and what is over in it stays
over. -/
theorem handoffs_lawful (opening : state.Opening) :
    (forall actions, HandoffLaw platform state actions) ∧
      forall first action second, HandoffEnds platform state first action second :=
  ⟨handoffLaw opening, handoffEnds opening⟩

end Runs

/-- The hand-off of a device that acknowledges its bundle and polls again. -/
theorem handoffs_lawful_of_acknowledged :
    HandoffLaw legiblePlatform quietOffice (approvedDevice ++ [firstPoll]) ∧
      HandoffEnds legiblePlatform quietOffice (approvedDevice ++ [firstPoll])
        (.acknowledge ⟨"access token of poll", legiblePepper⟩) [firstPoll] :=
  ⟨(handoffs_lawful opening_quietOffice).1 _, (handoffs_lawful opening_quietOffice).2 _ _ _⟩

end AgentSessions
end DigitalSolutions
