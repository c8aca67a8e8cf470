import DigitalSolutions.AgentSessions.Directory

namespace DigitalSolutions
namespace AgentSessions

open Foundation Persistence Platform

/-!
# Device authorizations and the sessions made from them

A device starts an authorization and polls it with its device code.  A user
approves it with the user code, the next poll makes the session, and the
sealed token bundle can be polled again for a short while.  A session is then
used by access token and renewed by refresh token; a refresh token that is
presented after it was rotated away revokes the whole family.
-/

def authorizationTtl : Time := 10 * 60 * 1000

def handoffTtl : Time := 5 * 60 * 1000

def accessTokenTtl : Time := 15 * 60 * 1000

def refreshTokenTtl : Time := 30 * 24 * 60 * 60 * 1000

def pollIntervalSeconds : Nat := 5

theorem accessTokenTtl_lt_refreshTokenTtl (now : Time) :
    now + accessTokenTtl < now + refreshTokenTtl :=
  Int.add_lt_add_left (by decide) now

/-! ## Statements

One definition for each UPDATE of the code.  None of them moves an entry of a
unique index, so none can be refused. -/

def AgentSessionStore.updateAuthorizations (store : AgentSessionStore)
    (where' : AgentDeviceAuthorization -> Bool)
    (set : AgentDeviceAuthorization -> AgentDeviceAuthorization)
    (keeps : forall row, where' row = true -> Keyed.keys (set row) = Keyed.keys row := by
      intros; rfl) : AgentSessionStore :=
  { store with authorizations := store.authorizations.update where' set keeps }

/-- Starting over on a device ends what is pending there. -/
def expirePending (deviceId : String) (store : AgentSessionStore) : AgentSessionStore :=
  store.updateAuthorizations (fun row => row.deviceId = deviceId && row.status = .pending)
    (fun row => { row with status := .expired })

def markExpired (authorizationId : Id) (store : AgentSessionStore) : AgentSessionStore :=
  store.updateAuthorizations (fun row => row.id = authorizationId)
    (fun row => { row with status := .expired })

def markApproved (authorizationId principalId accountId : Id) (now : Time)
    (store : AgentSessionStore) : AgentSessionStore :=
  store.updateAuthorizations (fun row => row.id = authorizationId && row.status = .pending)
    (fun row => { row with
      status := .approved, approvedByUserId := some principalId, approvedAccountId := some accountId,
      approvedAt := some now })

def slowPolling (authorizationId : Id) (nextInterval : Nat) (now : Time) (store : AgentSessionStore) :
    AgentSessionStore :=
  store.updateAuthorizations (fun row => row.id = authorizationId)
    (fun row => { row with pollIntervalSeconds := nextInterval, lastPollAt := some now })

def notePoll (authorizationId : Id) (now : Time) (store : AgentSessionStore) : AgentSessionStore :=
  store.updateAuthorizations (fun row => row.id = authorizationId)
    (fun row => { row with lastPollAt := some now })

def expireApproved (authorizationId : Id) (store : AgentSessionStore) : AgentSessionStore :=
  store.updateAuthorizations (fun row => row.id = authorizationId && row.status = .approved)
    (fun row => { row with status := .expired, tokenBundleCiphertext := none })

def dropBundle (authorizationId : Id) (store : AgentSessionStore) : AgentSessionStore :=
  store.updateAuthorizations (fun row => row.id = authorizationId)
    (fun row => { row with tokenBundleCiphertext := none })

def markDenied (authorizationId : Id) (now : Time) (store : AgentSessionStore) : AgentSessionStore :=
  store.updateAuthorizations (fun row => row.id = authorizationId)
    (fun row => { row with status := .denied, deniedAt := some now })

/-- The bundle of a session is no longer handed out. -/
def endHandoff (sessionId : Id) (now : Time) (store : AgentSessionStore) : AgentSessionStore :=
  store.updateAuthorizations (fun row => row.sessionId = some sessionId)
    (fun row => { row with tokenBundleCiphertext := none, handoffExpiresAt := some now })

def cancelOpen (deviceCodeHash : String) (now : Time) (store : AgentSessionStore) :
    AgentSessionStore :=
  store.updateAuthorizations
    (fun row => row.deviceCodeHash = deviceCodeHash &&
      (row.status = .pending || row.status = .approved))
    (fun row => { row with status := .denied, deniedAt := some now, tokenBundleCiphertext := none })

def revokeSessions (chosen : AgentAccountSession -> Bool) (now : Time) (store : AgentSessionStore) :
    AgentSessionStore :=
  { store with
    sessions := store.sessions.update chosen
      (fun row => { row with revokedAt := row.revokedAt.or (some now) }) }

def revokeTokens (chosen : AgentAccountRefreshToken -> Bool) (now : Time)
    (store : AgentSessionStore) : AgentSessionStore :=
  { store with
    refreshTokens := store.refreshTokens.update
      (fun row => chosen row && !decide (row.status = .revoked))
      (fun row => { row with status := .revoked, revokedAt := row.revokedAt.or (some now) }) }

def noteSeen (sessionId : Id) (now : Time) (store : AgentSessionStore) : AgentSessionStore :=
  { store with
    sessions := store.sessions.update (fun row => row.id = sessionId)
      (fun row => { row with lastSeenAt := some now }) }

/-- An authorization of the user's that is approved or consumed. -/
def grantedBy (userId : Id) (row : AgentDeviceAuthorization) : Bool :=
  row.approvedByUserId = some userId && (row.status = .approved || row.status = .consumed)

def closedRow (now : Time) (row : AgentDeviceAuthorization) : AgentDeviceAuthorization :=
  { row with
    status := if row.status = .approved then .denied else row.status
    deniedAt := if row.status = .approved then row.deniedAt.or (some now) else row.deniedAt
    tokenBundleCiphertext := none
    handoffExpiresAt := some now }

/-- The last statement of a revocation by user: what the user approved is
denied, and no bundle is handed out. -/
def closeAuthorizations (userId : Id) (now : Time) (store : AgentSessionStore) : AgentSessionStore :=
  store.updateAuthorizations (grantedBy userId) (closedRow now)

/-! ## Start and approval -/

structure StartInput where
  device : AgentDevice
  verificationBaseUrl : String
  pepper : String
  deriving DecidableEq

structure StartedAuthorization where
  deviceCode : String
  userCode : String
  verificationUri : String
  expiresIn : Int
  interval : Nat
  deriving DecidableEq

def startedRow (moment : SessionMoment) (device : AgentDevice) (deviceCodeHash userCodeHash : String) :
    AgentDeviceAuthorization where
  id := moment.draw .authorizationId
  deviceCodeHash
  userCodeHash
  deviceId := device.deviceId
  deviceName := device.deviceName
  platform := device.platform
  architecture := device.architecture
  authorizationKind := .deviceCode
  status := .pending
  expiresAt := moment.now + authorizationTtl
  pollIntervalSeconds := pollIntervalSeconds
  lastPollAt := none
  approvedByUserId := none
  approvedAccountId := none
  approvedAt := none
  deniedAt := none
  consumedAt := none
  handoffExpiresAt := none
  sessionId := none
  tokenBundleCiphertext := none

def startAgentDeviceAuthorization (platform : SessionPlatform) (moment : SessionMoment)
    (input : StartInput) : SessionTx AgentSessionStore StartedAuthorization := do
  let device <- liftM (checkedDevice input.device)
  modify (expirePending device.deviceId)
  let deviceCode := moment.draw .deviceCode
  let userCode := moment.draw .userCode
  let deviceCodeHash <- liftM (hashAgentDeviceCode platform deviceCode input.pepper)
  let userCodeHash <- liftM (hashAgentUserCode platform userCode input.pepper)
  let store <- get
  let authorizations <- Transaction.orFail .uniqueViolation
    (store.authorizations.insert (startedRow moment device deviceCodeHash userCodeHash))
  set { store with authorizations }
  let verificationUri <- Transaction.orFail (.message "Invalid URL")
    (platform.verificationUri input.verificationBaseUrl userCode)
  return { deviceCode, userCode, verificationUri, expiresIn := authorizationTtl / 1000,
           interval := pollIntervalSeconds }

structure ApproveInput where
  userCode : String
  principalId : Id
  accountId : Id
  pepper : String
  deriving DecidableEq

inductive ApproveResult
  | notFound | expired | alreadyApproved | denied | consumed
  | approved (deviceId : String) (account : AgentDeviceAuthorizedAccount)
  deriving DecidableEq

def approveAgentDeviceAuthorization (platform : SessionPlatform) (directory : Directory) (now : Time)
    (input : ApproveInput) : SessionTx AgentSessionStore ApproveResult := do
  let userCodeHash <- liftM (hashAgentUserCode platform input.userCode input.pepper)
  let store <- get
  let some authorization := store.authorizations.lookup (.userCodeHash userCodeHash)
    | return .notFound
  if authorization.status = .expired ∨
      authorization.status = .pending ∧ authorization.expiresAt ≤ now then
    modify (markExpired authorization.id)
    return .expired
  match authorization.status with
  | .approved => return .alreadyApproved
  | .denied => return .denied
  | .consumed => return .consumed
  | _ =>
    let account <- liftM (requireAgentDeviceAccountAccessInTransaction directory input.principalId
      input.accountId)
    modify (markApproved authorization.id input.principalId account.id now)
    return .approved authorization.deviceId account

/-! ## Polling -/

structure PollInput where
  deviceCode : String
  deviceId : Option String
  pepper : String
  encryptionKey : String
  deriving DecidableEq

inductive PollResult
  | authorizationPending | slowDown | accessDenied | expiredToken
  | approved (bundle : AgentAccountTokenBundle)
  deriving DecidableEq

/-- Whether the caller names the device that a native hand-off is bound to. -/
def namesDevice (deviceId : Option String) (authorization : AgentDeviceAuthorization) : Bool :=
  deviceId.any (fun named => named ≠ "" && trim named = authorization.deviceId)

def bundleOf (platform : SessionPlatform) (moment : SessionMoment) (user : User)
    (account : AgentDeviceAuthorizedAccount) : AgentAccountTokenBundle where
  sessionId := moment.draw .sessionId
  accessToken := moment.draw .accessToken
  refreshToken := moment.draw .refreshToken
  accessExpiresAt := platform.toISOString (moment.now + accessTokenTtl)
  refreshExpiresAt := platform.toISOString (moment.now + refreshTokenTtl)
  userId := user.id
  email := user.email
  accountId := account.id
  accountType := account.type
  accountDisplayName := account.displayName

def createdSession (moment : SessionMoment) (authorization : AgentDeviceAuthorization) (user : User)
    (account : AgentDeviceAuthorizedAccount) (accessTokenHash : String) : AgentAccountSession where
  id := moment.draw .sessionId
  deviceAuthorizationId := authorization.id
  userId := user.id
  accountId := account.id
  deviceId := authorization.deviceId
  accessTokenHash
  accessExpiresAt := moment.now + accessTokenTtl
  refreshExpiresAt := moment.now + refreshTokenTtl
  refreshGeneration := 0
  createdAt := moment.now
  revokedAt := none
  lastSeenAt := none
  recentAuthenticatedAt := none
  expiryCheck := accessTokenTtl_lt_refreshTokenTtl moment.now

/-- The token of one generation of a session. -/
def issuedToken (moment : SessionMoment) (sessionId : Id) (tokenHash : String) (generation : Nat)
    (expiresAt : Time) : AgentAccountRefreshToken where
  id := moment.draw .refreshTokenId
  sessionId
  tokenHash
  generation
  status := .active
  expiresAt
  rotatedAt := none
  revokedAt := none

def consumedRow (sessionId : Id) (ciphertext : String) (now : Time)
    (row : AgentDeviceAuthorization) : AgentDeviceAuthorization :=
  { row with
    status := .consumed, consumedAt := some now, handoffExpiresAt := some (now + handoffTtl),
    sessionId := some sessionId, tokenBundleCiphertext := some ciphertext }

/-- The last part of a poll: the session, its first token, and the hand-off. -/
def createSession (platform : SessionPlatform) (moment : SessionMoment) (input : PollInput)
    (authorization : AgentDeviceAuthorization) (user : User)
    (account : AgentDeviceAuthorizedAccount) : SessionTx AgentSessionStore PollResult := do
  let bundle := bundleOf platform moment user account
  let ciphertext <- liftM (encryptAgentTokenBundle platform bundle input.encryptionKey
    (moment.draw .bundleNonce))
  let accessTokenHash <- liftM (hashAgentAccessToken platform bundle.accessToken input.pepper)
  let store <- get
  let sessions <- Transaction.orFail .uniqueViolation
    (store.sessions.insert (createdSession moment authorization user account accessTokenHash))
  let tokenHash <- liftM (hashAgentRefreshToken platform bundle.refreshToken input.pepper)
  let refreshTokens <- Transaction.orFail .uniqueViolation
    (store.refreshTokens.insert (issuedToken moment bundle.sessionId tokenHash 0
      (moment.now + refreshTokenTtl)))
  let authorizations <- Transaction.orFail .uniqueViolation
    (store.authorizations.amend (fun row => row.id = authorization.id && row.status = .approved)
      (consumedRow bundle.sessionId ciphertext moment.now))
  set { authorizations, sessions, refreshTokens : AgentSessionStore }
  return .approved bundle

/-- A poll of an approved authorization that has not lapsed. -/
def exchangeApproved (platform : SessionPlatform) (directory : Directory) (moment : SessionMoment)
    (input : PollInput) (authorization : AgentDeviceAuthorization) :
    SessionTx AgentSessionStore PollResult := do
  match authorization.approvedByUserId, authorization.approvedAccountId with
  | some approvedByUserId, some approvedAccountId =>
    if approvedByUserId = "" ∨ approvedAccountId = "" then
      return .accessDenied
    match requireAgentDeviceAccountAccessInTransaction directory approvedByUserId approvedAccountId,
      activeUser directory approvedByUserId with
    | .ok account, some user => createSession platform moment input authorization user account
    | _, _ =>
      modify (markDenied authorization.id moment.now)
      return .accessDenied
  | _, _ => return .accessDenied

/-- A poll of a pending authorization. -/
def pollPending (now : Time) (authorization : AgentDeviceAuthorization) :
    SessionTx AgentSessionStore PollResult := do
  if authorization.expiresAt ≤ now then
    modify (markExpired authorization.id)
    return .expiredToken
  if authorization.lastPollAt.any (fun lastPollAt =>
      now < lastPollAt + authorization.pollIntervalSeconds * 1000) then
    modify (slowPolling authorization.id (min 60 (authorization.pollIntervalSeconds + 5)) now)
    return .slowDown
  modify (notePoll authorization.id now)
  return .authorizationPending

/-- A poll of a consumed authorization repeats the bundle while the hand-off
is open. -/
def repeatHandoff (platform : SessionPlatform) (now : Time) (input : PollInput)
    (authorization : AgentDeviceAuthorization) : SessionTx AgentSessionStore PollResult := do
  match authorization.tokenBundleCiphertext.filter (fun ciphertext => ciphertext ≠ "") with
  | none => return .expiredToken
  | some ciphertext =>
    if authorization.handoffExpiresAt.any (fun handoffExpiresAt => now < handoffExpiresAt) then
      let bundle <- liftM (decryptAgentTokenBundle platform ciphertext input.encryptionKey)
      return .approved bundle
    modify (dropBundle authorization.id)
    return .expiredToken

def pollAgentDeviceAuthorization (platform : SessionPlatform) (directory : Directory)
    (moment : SessionMoment) (input : PollInput) : SessionTx AgentSessionStore PollResult := do
  let deviceCodeHash <- liftM (hashAgentDeviceCode platform input.deviceCode input.pepper)
  let store <- get
  let some authorization := store.authorizations.lookup (.deviceCodeHash deviceCodeHash)
    | return .expiredToken
  if authorization.authorizationKind = .nativeHandoff ∧
      namesDevice input.deviceId authorization = false then
    return .accessDenied
  match authorization.status with
  | .pending => pollPending moment.now authorization
  | .denied => return .accessDenied
  | .expired => return .expiredToken
  | .consumed => repeatHandoff platform moment.now input authorization
  | .approved =>
    if authorization.expiresAt ≤ moment.now then
      modify (expireApproved authorization.id)
      return .expiredToken
    exchangeApproved platform directory moment input authorization

/-! ## Refresh -/

def revokeAgentSessionFamily (sessionId : Id) (now : Time) (store : AgentSessionStore) :
    AgentSessionStore :=
  endHandoff sessionId now
    (revokeTokens (fun token => token.sessionId = sessionId) now
      (revokeSessions (fun session => session.id = sessionId) now store))

structure RefreshInput where
  refreshToken : String
  pepper : String
  deriving DecidableEq

inductive RefreshResult
  | refreshed (bundle : AgentAccountTokenBundle)
  | invalidGrant | replayDetected
  deriving DecidableEq

def refreshedBundle (platform : SessionPlatform) (moment : SessionMoment)
    (session : AgentAccountSession) (user : User) (account : AgentDeviceAuthorizedAccount) :
    AgentAccountTokenBundle where
  sessionId := session.id
  accessToken := moment.draw .accessToken
  refreshToken := moment.draw .refreshToken
  accessExpiresAt := platform.toISOString (moment.now + accessTokenTtl)
  refreshExpiresAt := platform.toISOString session.refreshExpiresAt
  userId := user.id
  email := user.email
  accountId := account.id
  accountType := account.type
  accountDisplayName := account.displayName

def rotateToken (tokenId : Id) (now : Time) (tokens : Table AgentAccountRefreshToken) :
    Table AgentAccountRefreshToken :=
  tokens.update (fun row => row.id = tokenId && row.status = .active)
    (fun row => { row with status := .rotated, rotatedAt := some now })

/-- The session as a refresh leaves it. -/
def advancedSession (now : Time) (accessTokenHash : String) (nextGeneration : Nat)
    (row : AgentAccountSession) : AgentAccountSession :=
  if check : now + accessTokenTtl < row.refreshExpiresAt then
    { row with
      accessTokenHash, accessExpiresAt := now + accessTokenTtl, refreshGeneration := nextGeneration,
      lastSeenAt := some now, expiryCheck := check }
  else row

/-- The last part of a refresh.  The database refuses it when the new access
token would outlive the refresh token. -/
def rotateSession (platform : SessionPlatform) (moment : SessionMoment) (input : RefreshInput)
    (token : AgentAccountRefreshToken) (session : AgentAccountSession) (user : User)
    (account : AgentDeviceAuthorizedAccount) : SessionTx AgentSessionStore RefreshResult := do
  let nextGeneration := session.refreshGeneration + 1
  let bundle := refreshedBundle platform moment session user account
  let store <- get
  let tokenHash <- liftM (hashAgentRefreshToken platform bundle.refreshToken input.pepper)
  let refreshTokens <- Transaction.orFail .uniqueViolation
    ((rotateToken token.id moment.now store.refreshTokens).insert
      (issuedToken moment session.id tokenHash nextGeneration session.refreshExpiresAt))
  let accessTokenHash <- liftM (hashAgentAccessToken platform bundle.accessToken input.pepper)
  if ¬ moment.now + accessTokenTtl < session.refreshExpiresAt then
    throw .checkViolation
  let sessions <- Transaction.orFail .uniqueViolation
    (store.sessions.amend (fun row => row.id = session.id)
      (advancedSession moment.now accessTokenHash nextGeneration))
  set (endHandoff session.id moment.now { store with sessions, refreshTokens })
  return .refreshed bundle

def refreshAgentAccountSession (platform : SessionPlatform) (directory : Directory)
    (moment : SessionMoment) (input : RefreshInput) : SessionTx AgentSessionStore RefreshResult := do
  let tokenHash <- liftM (hashAgentRefreshToken platform input.refreshToken input.pepper)
  let store <- get
  let some token := store.refreshTokens.lookup (.tokenHash tokenHash) | return .invalidGrant
  let some session := store.sessions.lookup (.id token.sessionId) | return .invalidGrant
  if token.status ≠ .active then
    modify (revokeAgentSessionFamily session.id moment.now)
    return .replayDetected
  if token.expiresAt ≤ moment.now ∨ session.refreshExpiresAt ≤ moment.now ∨
      session.revokedAt.isSome then
    modify (revokeAgentSessionFamily session.id moment.now)
    return .invalidGrant
  match sessionAuthority directory session with
  | none =>
    modify (revokeAgentSessionFamily session.id moment.now)
    return .invalidGrant
  | some (account, user) => rotateSession platform moment input token session user account

/-! ## Use of a session -/

structure AccessInput where
  accessToken : String
  pepper : String
  deriving DecidableEq

structure AuthenticatedAgent where
  sessionId : Id
  userId : Id
  accountId : Id
  deviceId : String
  deriving DecidableEq

inductive AuthenticateResult
  | authenticated (agent : AuthenticatedAgent)
  | invalidToken
  deriving DecidableEq

def authenticateAgentAccessToken (platform : SessionPlatform) (directory : Directory) (now : Time)
    (input : AccessInput) : SessionTx AgentSessionStore AuthenticateResult := do
  let hash <- liftM (hashAgentAccessToken platform input.accessToken input.pepper)
  let store <- get
  let some session := store.sessions.lookup (.accessTokenHash hash) | return .invalidToken
  if session.revokedAt.isSome ∨ session.accessExpiresAt ≤ now then
    return .invalidToken
  match sessionAuthority directory session with
  | none =>
    modify (revokeAgentSessionFamily session.id now)
    return .invalidToken
  | some _ =>
    modify (noteSeen session.id now)
    return .authenticated ⟨session.id, session.userId, session.accountId, session.deviceId⟩

inductive AcknowledgeResult
  | acknowledged (sessionId : Id)
  | invalidToken
  deriving DecidableEq

/-- The code answers without the session's id, which is kept here to say
whose hand-off has ended. -/
def acknowledgeAgentSessionHandoff (platform : SessionPlatform) (directory : Directory) (now : Time)
    (input : AccessInput) : SessionTx AgentSessionStore AcknowledgeResult := do
  match <- authenticateAgentAccessToken platform directory now input with
  | .invalidToken => return .invalidToken
  | .authenticated agent =>
    modify (endHandoff agent.sessionId now)
    return .acknowledged agent.sessionId

/-! ## Revocation and cancellation -/

/-- The three statements of a revocation by user, run in one go. -/
def revokeAgentAccountSessionsForUser (userId : Id) (now : Time) (store : AgentSessionStore) :
    AgentSessionStore :=
  let ofUser := fun sessionId => store.sessions.rows.any (fun session =>
    session.id = sessionId && session.userId = userId)
  closeAuthorizations userId now
    (revokeSessions (fun session => session.userId = userId) now
      (revokeTokens (fun token => ofUser token.sessionId) now store))

inductive RevokeResult
  | revoked (sessionId : Id)
  | notFound
  deriving DecidableEq

/-- The code answers without the session's id, as above. -/
def revokeAgentAccountSession (platform : SessionPlatform) (now : Time) (input : RefreshInput) :
    SessionTx AgentSessionStore RevokeResult := do
  let tokenHash <- liftM (hashAgentRefreshToken platform input.refreshToken input.pepper)
  let store <- get
  let some token := store.refreshTokens.lookup (.tokenHash tokenHash) | return .notFound
  modify (revokeAgentSessionFamily token.sessionId now)
  return .revoked token.sessionId

structure CancelInput where
  deviceCode : String
  pepper : String
  deriving DecidableEq

inductive CancelResult
  | cancelled | notFound
  deriving DecidableEq

def cancelAgentDeviceAuthorization (platform : SessionPlatform) (now : Time) (input : CancelInput) :
    SessionTx AgentSessionStore CancelResult := do
  let deviceCodeHash <- liftM (hashAgentDeviceCode platform input.deviceCode input.pepper)
  let store <- get
  let changed := store.authorizations.select (fun row => row.deviceCodeHash = deviceCodeHash &&
    (row.status = .pending || row.status = .approved))
  set (cancelOpen deviceCodeHash now store)
  return if changed.isEmpty then .notFound else .cancelled

end AgentSessions
end DigitalSolutions
