import DigitalSolutions.AgentSessions.Records
import DigitalSolutions.Platform.Text

namespace DigitalSolutions
namespace AgentSessions

open Persistence Platform

/-!
# Codes, token hashes and the sealed token bundle

Only keyed hashes of codes and tokens are stored; each kind is hashed under a
domain of its own.  The bundle of a new session is kept sealed until the
device has it.  The primitives of the platform are parameters.
-/

inductive AccountType
  | individual | organization
  deriving DecidableEq

structure AgentAccountTokenBundle where
  sessionId : Id
  accessToken : String
  refreshToken : String
  accessExpiresAt : String
  refreshExpiresAt : String
  userId : Id
  email : String
  accountId : Id
  accountType : AccountType
  accountDisplayName : String
  deriving DecidableEq

/-- What the session code takes from the runtime. -/
structure SessionPlatform where
  hmacSha256 : String -> String -> String
  /-- AES-GCM of the bundle's JSON under a key derived from the secret, with
  the drawn nonce. -/
  sealBundle : String -> String -> AgentAccountTokenBundle -> String
  /-- `none` where the text is malformed, does not authenticate under the
  secret, or does not hold a bundle. -/
  openBundle : String -> String -> Option AgentAccountTokenBundle
  toISOString : Time -> String
  /-- `/device?code=…` under a base address; `none` where that is no URL. -/
  verificationUri : String -> String -> Option String

def requiredSecret (secret code : String) : Except SessionError String :=
  let normalized := trim secret
  if utf16Length normalized < 32 then .error (.message code) else .ok normalized

def hmac (platform : SessionPlatform) (value pepper domain : String) : Except SessionError String := do
  let key <- requiredSecret pepper "AGENT_ACCOUNT_SESSION_PEPPER_REQUIRED"
  return platform.hmacSha256 key (domain ++ "\x00" ++ value)

def normalizeAgentUserCode (value : String) : String := toUpperCase (trim value)

def hashAgentDeviceCode (platform : SessionPlatform) (value pepper : String) :
    Except SessionError String :=
  hmac platform (trim value) pepper "bke-agent-device-code-v1"

def hashAgentUserCode (platform : SessionPlatform) (value pepper : String) :
    Except SessionError String :=
  hmac platform (normalizeAgentUserCode value) pepper "bke-agent-user-code-v1"

def hashAgentAccessToken (platform : SessionPlatform) (value pepper : String) :
    Except SessionError String :=
  hmac platform (trim value) pepper "bke-agent-access-token-v1"

def hashAgentRefreshToken (platform : SessionPlatform) (value pepper : String) :
    Except SessionError String :=
  hmac platform (trim value) pepper "bke-agent-refresh-token-v1"

def bundleKey (secret : String) : Except SessionError String :=
  requiredSecret secret "AGENT_ACCOUNT_SESSION_ENCRYPTION_KEY_REQUIRED"

def encryptAgentTokenBundle (platform : SessionPlatform) (bundle : AgentAccountTokenBundle)
    (secret nonce : String) : Except SessionError String := do
  let key <- bundleKey secret
  return platform.sealBundle key nonce bundle

def decryptAgentTokenBundle (platform : SessionPlatform) (value secret : String) :
    Except SessionError AgentAccountTokenBundle := do
  let key <- bundleKey secret
  match platform.openBundle key value with
  | some bundle => return bundle
  | none => throw (.message "INVALID_AGENT_TOKEN_BUNDLE")

/-! ## Devices -/

/-- `/^[A-Za-z0-9._:-]{16,256}$/.test(value)`. -/
def validDeviceId (value : String) : Bool :=
  16 ≤ value.length && value.length ≤ 256 && value.toList.all (fun character =>
    ('A' ≤ character && character ≤ 'Z') || ('a' ≤ character && character ≤ 'z') ||
      ('0' ≤ character && character ≤ '9') || character ∈ ['.', '_', ':', '-'])

def validPlatform (value : String) : Bool := value ∈ ["windows", "macos", "linux"]

def validArchitecture (value : String) : Bool := value ∈ ["x64", "arm64", "x86"]

/-- `deviceName?.trim() || null`. -/
def deviceNameOf (deviceName : Option String) : Option String :=
  (deviceName.map trim).filter (fun name => name ≠ "")

/-- What a device says about itself. -/
structure AgentDevice where
  deviceId : String
  deviceName : Option String
  platform : String
  architecture : String
  deriving DecidableEq

/-- The description as it is stored, when it passes the checks. -/
def checkedDevice (device : AgentDevice) : Except SessionError AgentDevice :=
  let deviceId := trim device.deviceId
  let deviceName := deviceNameOf device.deviceName
  let platform := toLowerCase (trim device.platform)
  let architecture := toLowerCase (trim device.architecture)
  if validDeviceId deviceId = false ∨ deviceName.any (fun name => utf16Length name > 128) ∨
      validPlatform platform = false ∨ validArchitecture architecture = false then
    .error (.message "INVALID_AGENT_DEVICE")
  else .ok { deviceId, deviceName, platform, architecture }

end AgentSessions
end DigitalSolutions
