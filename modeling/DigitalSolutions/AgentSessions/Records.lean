import DigitalSolutions.Foundation.Transaction
import DigitalSolutions.Persistence.Schema

namespace DigitalSolutions
namespace AgentSessions

open Foundation Persistence

/-!
# Rows of the agent account sessions

The three tables of `20260919113000_v3_agent_account_sessions` with the two
later migrations, and the part of the identity and account tables that the
session code reads.  Columns that nothing reads back (`updatedAt`, the
`createdAt` of an authorization and of a token) and the audit log are left out.

A session's access token expires before its refresh token.  The database
checks this on every write, so the row carries the proof, and a refresh that
could not provide it is refused.  The other CHECK constraints restrict the
columns of an authorization by its status.  No write of the code can break
them; this is proved of the runs and not assumed of the rows.
-/

inductive AuthorizationKind
  | deviceCode | nativeHandoff
  deriving DecidableEq

inductive AuthorizationStatus
  | pending | approved | denied | expired | consumed
  deriving DecidableEq

structure AgentDeviceAuthorization where
  id : Id
  deviceCodeHash : String
  userCodeHash : String
  deviceId : String
  deviceName : Option String
  platform : String
  architecture : String
  authorizationKind : AuthorizationKind
  status : AuthorizationStatus
  expiresAt : Time
  pollIntervalSeconds : Nat
  lastPollAt : Option Time
  approvedByUserId : Option Id
  approvedAccountId : Option Id
  approvedAt : Option Time
  deniedAt : Option Time
  consumedAt : Option Time
  handoffExpiresAt : Option Time
  sessionId : Option Id
  tokenBundleCiphertext : Option String
  deriving DecidableEq

inductive AgentDeviceAuthorization.Key
  | id (value : Id) | deviceCodeHash (value : String) | userCodeHash (value : String)
  | sessionId (value : Id)
  deriving DecidableEq

instance : Keyed AgentDeviceAuthorization AgentDeviceAuthorization.Key where
  keys authorization := .id authorization.id :: .deviceCodeHash authorization.deviceCodeHash ::
    .userCodeHash authorization.userCodeHash :: authorization.sessionId.toList.map .sessionId

structure AgentAccountSession where
  id : Id
  deviceAuthorizationId : Id
  userId : Id
  accountId : Id
  deviceId : String
  accessTokenHash : String
  accessExpiresAt : Time
  refreshExpiresAt : Time
  refreshGeneration : Nat
  createdAt : Time
  revokedAt : Option Time
  lastSeenAt : Option Time
  recentAuthenticatedAt : Option Time
  /-- `AgentAccountSession_expiry_check`. -/
  expiryCheck : accessExpiresAt < refreshExpiresAt
  deriving DecidableEq

inductive AgentAccountSession.Key
  | id (value : Id) | deviceAuthorizationId (value : Id) | accessTokenHash (value : String)
  deriving DecidableEq

instance : Keyed AgentAccountSession AgentAccountSession.Key where
  keys session := [.id session.id, .deviceAuthorizationId session.deviceAuthorizationId,
    .accessTokenHash session.accessTokenHash]

inductive RefreshTokenStatus
  | active | rotated | revoked
  deriving DecidableEq

structure AgentAccountRefreshToken where
  id : Id
  sessionId : Id
  tokenHash : String
  generation : Nat
  status : RefreshTokenStatus
  expiresAt : Time
  rotatedAt : Option Time
  revokedAt : Option Time
  deriving DecidableEq

inductive AgentAccountRefreshToken.Key
  | id (value : Id) | tokenHash (value : String) | generation (sessionId : Id) (value : Nat)
  deriving DecidableEq

instance : Keyed AgentAccountRefreshToken AgentAccountRefreshToken.Key where
  keys token := [.id token.id, .tokenHash token.tokenHash, .generation token.sessionId token.generation]

structure AgentSessionStore where
  authorizations : Table AgentDeviceAuthorization
  sessions : Table AgentAccountSession
  refreshTokens : Table AgentAccountRefreshToken
  deriving DecidableEq

namespace AgentSessionStore

def empty : AgentSessionStore := ⟨∅, ∅, ∅⟩

end AgentSessionStore

/-- Why a transaction of the session code fails: an error it throws, or a
constraint of the database. -/
inductive SessionError
  | message (text : String)
  | uniqueViolation
  | checkViolation
  deriving DecidableEq

abbrev SessionTx (Store Value : Type) := Transaction SessionError Store Value

/-- What the session code draws at random, named by what the draw is for. -/
inductive SessionDraw
  | authorizationId | deviceCode | userCode
  | sessionId | accessToken | refreshToken | refreshTokenId | bundleNonce
  deriving DecidableEq

/-- The clock and the random draws of one transaction.  `new Date()` and
`NOW()` read one clock, and a transaction is over before it moves. -/
structure SessionMoment where
  now : Time
  draw : SessionDraw -> String

end AgentSessions
end DigitalSolutions
