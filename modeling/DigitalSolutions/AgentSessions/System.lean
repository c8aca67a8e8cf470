import DigitalSolutions.AgentSessions.Outcomes

namespace DigitalSolutions
namespace AgentSessions

open Foundation Persistence

/-!
# The sessions as a system

Devices, users and administrators act in any order.  Every route runs its
function in one serializable transaction, so an action is one step; a route
that only authenticates runs at read committed, but holds the row of its
session from its first statement to its commit.

One writer is not serializable.  The three routes that change the second
factor of a user end with `revokeNativeAgentSessionsForUser`, whose three
statements run at read committed: each reads what is committed when it starts.
Such a revocation is a process that reads the tokens, then the sessions, and
then commits what its statements have chosen.
-/

/-- A revocation at read committed: the tokens that its first statement has
chosen, and the sessions of its second, once that has run. -/
structure UserRevocation where
  userId : Id
  startedAt : Time
  tokens : List Id
  sessions : Option (List Id)
  deriving DecidableEq

structure AgentState where
  now : Time
  store : AgentSessionStore
  directory : Directory
  revocations : Nat -> Option UserRevocation

namespace AgentState

def storePart : Transaction.Part AgentState AgentSessionStore where
  get := AgentState.store
  set store state := { state with store }

/-- Nothing is stored, and no revocation is under way. -/
structure Opening (state : AgentState) : Prop where
  store : state.store = AgentSessionStore.empty
  idle : forall process, state.revocations process = none

end AgentState

inductive AgentAction
  | start (draw : SessionDraw -> String) (input : StartInput)
  | approve (input : ApproveInput)
  | poll (draw : SessionDraw -> String) (input : PollInput)
  | refresh (draw : SessionDraw -> String) (input : RefreshInput)
  | authenticate (input : AccessInput)
  | acknowledge (input : AccessInput)
  | revoke (input : RefreshInput)
  | cancel (input : CancelInput)
  | issueHandoff (draw : SessionDraw -> String) (input : NativeHandoffInput)
  | markRecent (input : RecentAuthInput)
  | changePassword (input : PasswordChangeInput)
  /-- Whatever else happens to users, accounts, credentials and factors. -/
  | changeDirectory (directory : Directory)
  | pass (elapsed : Nat)
  | beginRevocation (process : Nat) (userId : Id)
  | readSessions (process : Nat)
  | commitRevocation (process : Nat)
  | abandonRevocation (process : Nat)

inductive AgentAnswer
  | started (result : StartedAuthorization)
  | approval (result : ApproveResult)
  | polled (result : PollResult)
  | refreshed (result : RefreshResult)
  | authenticated (result : AuthenticateResult)
  | acknowledged (result : AcknowledgeResult)
  | revoked (result : RevokeResult)
  | cancelled (result : CancelResult)
  | handedOff (result : NativeHandoff)
  | marked (result : Bool)
  | passwordChanged (result : PasswordChangeResult)
  | done

/-- The tokens that the first statement of a revocation chooses. -/
def tokensOf (userId : Id) (store : AgentSessionStore) : List Id :=
  (store.refreshTokens.select (fun token => store.sessions.rows.any (fun session =>
    session.id = token.sessionId && session.userId = userId))).map AgentAccountRefreshToken.id

def sessionsOf (userId : Id) (store : AgentSessionStore) : List Id :=
  (store.sessions.select (fun session => session.userId = userId)).map AgentAccountSession.id

/-- What a revocation at read committed writes in the end. -/
def applyRevocation (revocation : UserRevocation) (sessions : List Id) (store : AgentSessionStore) :
    AgentSessionStore :=
  closeAuthorizations revocation.userId revocation.startedAt
    (revokeSessions (fun session => session.id ∈ sessions) revocation.startedAt
      (revokeTokens (fun token => token.id ∈ revocation.tokens) revocation.startedAt store))

def AgentState.setRevocation (state : AgentState) (process : Nat)
    (revocation : Option UserRevocation) : AgentState :=
  { state with revocations := Function.update state.revocations process revocation }

variable (platform : SessionPlatform)

/-- What an action does, and how it answers. -/
def perform : AgentAction -> SessionTx AgentState AgentAnswer
  | .start draw input => do
    let state <- get
    let result <- (startAgentDeviceAuthorization platform ⟨state.now, draw⟩ input).within
      AgentState.storePart
    return .started result
  | .approve input => do
    let state <- get
    let result <- (approveAgentDeviceAuthorization platform state.directory state.now input).within
      AgentState.storePart
    return .approval result
  | .poll draw input => do
    let state <- get
    let result <- (pollAgentDeviceAuthorization platform state.directory ⟨state.now, draw⟩
      input).within AgentState.storePart
    return .polled result
  | .refresh draw input => do
    let state <- get
    let result <- (refreshAgentAccountSession platform state.directory ⟨state.now, draw⟩
      input).within AgentState.storePart
    return .refreshed result
  | .authenticate input => do
    let state <- get
    let result <- (authenticateAgentAccessToken platform state.directory state.now input).within
      AgentState.storePart
    return .authenticated result
  | .acknowledge input => do
    let state <- get
    let result <- (acknowledgeAgentSessionHandoff platform state.directory state.now input).within
      AgentState.storePart
    return .acknowledged result
  | .revoke input => do
    let state <- get
    let result <- (revokeAgentAccountSession platform state.now input).within AgentState.storePart
    return .revoked result
  | .cancel input => do
    let state <- get
    let result <- (cancelAgentDeviceAuthorization platform state.now input).within
      AgentState.storePart
    return .cancelled result
  | .issueHandoff draw input => do
    let state <- get
    let result <- (issueNativeBkeAgentHandoff platform state.directory ⟨state.now, draw⟩
      input).within AgentState.storePart
    return .handedOff result
  | .markRecent input => do
    let state <- get
    let result <- (markAgentSessionRecentlyAuthenticated state.now input).within
      AgentState.storePart
    return .marked result
  | .changePassword input => do
    let state <- get
    let result <- (changeAgentPassword platform state.directory state.now input).within
      AgentState.storePart
    match result with
    | .changed agent => modify (fun state =>
        { state with directory := state.directory.withChangedPassword agent.userId state.now })
    | _ => pure ()
    return .passwordChanged result
  | .changeDirectory directory => do
    modify (fun state => { state with directory })
    return .done
  | .pass elapsed => do
    modify (fun state => { state with now := state.now + elapsed })
    return .done
  | .beginRevocation process userId => do
    let state <- get
    if (state.revocations process).isSome then
      throw (.message "REVOCATION_UNDER_WAY")
    set (state.setRevocation process
      (some ⟨userId, state.now, tokensOf userId state.store, none⟩))
    return .done
  | .readSessions process => do
    let state <- get
    let revocation <- Transaction.orFail (.message "NO_REVOCATION") (state.revocations process)
    if revocation.sessions.isSome then
      throw (.message "REVOCATION_UNDER_WAY")
    set (state.setRevocation process
      (some { revocation with sessions := some (sessionsOf revocation.userId state.store) }))
    return .done
  | .commitRevocation process => do
    let state <- get
    let revocation <- Transaction.orFail (.message "NO_REVOCATION") (state.revocations process)
    let sessions <- Transaction.orFail (.message "NO_REVOCATION") revocation.sessions
    set { state.setRevocation process none with
      store := applyRevocation revocation sessions state.store }
    return .done
  | .abandonRevocation process => do
    modify (fun state => state.setRevocation process none)
    return .done

/-- The machine of the agent sessions. -/
def agentMachine : Machine AgentState AgentAction SessionError :=
  Machine.ofTransactions (fun action => do let _ <- perform platform action)

/-- The action is accepted in the state and gets this answer. -/
def Answers (state : AgentState) (action : AgentAction) (answer : AgentAnswer) : Prop :=
  Exists fun next => (perform platform action).Commits state answer next

variable {platform}

theorem agentMachine_step {state next : AgentState} {action : AgentAction} :
    (agentMachine platform).step state action = .ok next ↔
      Exists fun answer => (perform platform action).Commits state answer next := by
  unfold agentMachine
  rw [Machine.ofTransactions_step, Transaction.commits_bind]
  constructor
  · rintro ⟨answer, middle, performs, returned⟩
    exact ⟨answer, (Transaction.commits_pure.mp returned).2 ▸ performs⟩
  · rintro ⟨answer, performs⟩
    exact ⟨answer, next, performs, Transaction.commits_pure.mpr ⟨rfl, rfl⟩⟩

/-- An answered action leads to one state, and the machine goes there. -/
theorem attempt_of_commits {state next : AgentState} {action : AgentAction} {answer : AgentAnswer}
    (performs : (perform platform action).Commits state answer next) :
    (agentMachine platform).attempt state action = next :=
  Machine.attempt_ok (agentMachine_step.mpr ⟨answer, performs⟩)

end AgentSessions
end DigitalSolutions
