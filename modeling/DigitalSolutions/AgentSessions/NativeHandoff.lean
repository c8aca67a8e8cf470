import DigitalSolutions.AgentSessions.DeviceAuthorization

namespace DigitalSolutions
namespace AgentSessions

open Foundation Persistence Platform

/-!
# Native hand-offs, recent authentication and password changes

A user who has signed in on the device itself is handed an authorization that
is approved from the start and bound to that device.
-/

def nativeHandoffTtl : Time := 90 * 1000

structure IdentityPrincipal where
  id : Id
  role : GlobalRole
  emailVerified : Bool
  lifecycleState : CustomerLifecycleState
  deriving DecidableEq

structure NativeHandoffInput where
  principal : IdentityPrincipal
  accountId : Id
  device : AgentDevice
  pepper : String
  deriving DecidableEq

structure NativeHandoff where
  handoffCode : String
  expiresAt : Time
  expiresIn : Int
  account : AgentDeviceAuthorizedAccount
  deriving DecidableEq

def handoffRow (moment : SessionMoment) (device : AgentDevice) (principalId accountId : Id)
    (deviceCodeHash userCodeHash : String) : AgentDeviceAuthorization where
  id := moment.draw .authorizationId
  deviceCodeHash
  userCodeHash
  deviceId := device.deviceId
  deviceName := device.deviceName
  platform := device.platform
  architecture := device.architecture
  authorizationKind := .nativeHandoff
  status := .approved
  expiresAt := moment.now + nativeHandoffTtl
  pollIntervalSeconds := 2
  lastPollAt := none
  approvedByUserId := some principalId
  approvedAccountId := some accountId
  approvedAt := some moment.now
  deniedAt := none
  consumedAt := none
  handoffExpiresAt := none
  sessionId := none
  tokenBundleCiphertext := none

def issueNativeBkeAgentHandoff (platform : SessionPlatform) (directory : Directory)
    (moment : SessionMoment) (input : NativeHandoffInput) :
    SessionTx AgentSessionStore NativeHandoff := do
  let device <- liftM (checkedDevice input.device)
  if input.principal.role ≠ .customer ∨ input.principal.emailVerified = false ∨
      input.principal.lifecycleState ≠ .active then
    throw (.message "FORBIDDEN")
  let account <- liftM (requireAgentDeviceAccountAccessInTransaction directory input.principal.id
    input.accountId)
  let handoffCode := moment.draw .deviceCode
  let deviceCodeHash <- liftM (hashAgentDeviceCode platform handoffCode input.pepper)
  let userCodeHash <- liftM (hashAgentUserCode platform (moment.draw .userCode) input.pepper)
  let store <- get
  let authorizations <- Transaction.orFail .uniqueViolation (store.authorizations.insert
    (handoffRow moment device input.principal.id account.id deviceCodeHash userCodeHash))
  set { store with authorizations }
  return { handoffCode, expiresAt := moment.now + nativeHandoffTtl,
           expiresIn := nativeHandoffTtl / 1000, account }

/-! ## Recent authentication -/

structure RecentAuthInput where
  sessionId : Id
  userId : Id
  accountId : Id
  deviceId : String
  deriving DecidableEq

/-- The session the input names, while it is not revoked. -/
def RecentAuthInput.names (input : RecentAuthInput) (session : AgentAccountSession) : Bool :=
  session.id = input.sessionId && session.userId = input.userId &&
    session.accountId = input.accountId && session.deviceId = input.deviceId &&
    session.revokedAt.isNone

def markAgentSessionRecentlyAuthenticated (now : Time) (input : RecentAuthInput) :
    SessionTx AgentSessionStore Bool := do
  let store <- get
  set { store with
    sessions := store.sessions.update input.names
      (fun row => { row with recentAuthenticatedAt := some now }) }
  return (store.sessions.select input.names).length = 1

/-! ## Password change -/

inductive PasswordVerdict
  | valid | invalid | unavailable
  deriving DecidableEq

/-- `current` is the verdict on the current password; `hashed` says whether
the new one could be hashed. -/
structure PasswordChangeInput where
  access : AccessInput
  current : PasswordVerdict
  hashed : Bool
  deriving DecidableEq

inductive PasswordChangeResult
  | invalidToken | invalidCredentials | passwordProviderUnavailable
  | changed (agent : AuthenticatedAgent)
  deriving DecidableEq

/-- The transaction of `account/password-change/route.ts`, as far as it touches
the session tables.  The credential itself is written by the caller. -/
def changeAgentPassword (platform : SessionPlatform) (directory : Directory) (now : Time)
    (input : PasswordChangeInput) : SessionTx AgentSessionStore PasswordChangeResult := do
  match <- authenticateAgentAccessToken platform directory now input.access with
  | .invalidToken => return .invalidToken
  | .authenticated agent =>
    if (directory.passwordCredentials.lookup agent.userId).isNone then
      return .invalidCredentials
    match input.current with
    | .unavailable => return .passwordProviderUnavailable
    | .invalid => return .invalidCredentials
    | .valid =>
      if input.hashed = false then
        return .passwordProviderUnavailable
      modify (revokeAgentAccountSessionsForUser agent.userId now)
      return .changed agent

/-- `passwordCredential.update` of a password change. -/
def Directory.withChangedPassword (directory : Directory) (userId : Id) (now : Time) : Directory :=
  { directory with
    passwordCredentials := directory.passwordCredentials.update
      (fun credential => credential.userId = userId)
      (fun credential => { credential with changedAt := now }) }

end AgentSessions
end DigitalSolutions
