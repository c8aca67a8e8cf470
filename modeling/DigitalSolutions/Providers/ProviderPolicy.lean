import DigitalSolutions.Foundation.InsertionMap
import DigitalSolutions.Persistence.Schema
import DigitalSolutions.Platform.Text

namespace DigitalSolutions
namespace Providers

open Foundation Persistence Platform

/-!
# External providers and their credentials

Which credentials a provider needs, where live credentials may be used, and
what a credential must look like.
-/

inductive ProviderName
  | payMongo | resend
  deriving DecidableEq

inductive ProviderContext
  | test | live
  deriving DecidableEq

inductive ProviderCredentialKind
  | secretKey | webhookSecret | apiKey
  deriving DecidableEq

inductive ProviderValidationStatus
  | notValidated | valid | invalid
  deriving DecidableEq

def requiredProviderCredentials : ProviderName -> List ProviderCredentialKind
  | .payMongo => [.secretKey, .webhookSecret]
  | .resend => [.apiKey]

/-- What the platform runs with: its runtime, its keys and its cipher. -/
structure ProviderRuntime where
  deploymentEnvironment : String
  localProductionSimulation : Bool
  currentVersion : Nat
  currentKey : Option String
  previousKeys : Nat -> Option String
  resendSenderDomain : String
  /-- AES-256-GCM: a text under a key and its version, with a nonce. -/
  sealCredential : String -> String -> Nat -> String -> String
  openCredential : String -> String -> Nat -> Option String

variable (runtime : ProviderRuntime)

def assertLiveProviderAllowed (provider : ProviderName) (environment : ProviderContext) :
    Except String Unit :=
  if provider = .payMongo ∧ environment = .live ∧
      (runtime.deploymentEnvironment ≠ "production" ∨ runtime.localProductionSimulation = true) then
    .error "PROVIDER_LIVE_MODE_FORBIDDEN"
  else .ok ()

def encryptProviderCredential (plaintext material : String) (keyVersion : Nat) (nonce : String) :
    Except String String :=
  if utf16Length material < 32 ∨ keyVersion < 1 then .error "PROVIDER_SOURCE_UNAVAILABLE"
  else .ok (runtime.sealCredential plaintext material keyVersion nonce)

def providerCredentialHint (value : String) : String :=
  let compact := trim value
  if utf16Length compact < 9 then "••••"
  else String.ofList (compact.toList.take 4) ++ "••••" ++ lastFour compact

/-- A key that is configured; an empty one is none. -/
def configuredKey (key : Option String) : Option String := key.filter fun material => material ≠ ""

def providerKeyMaterial (version : Nat) : Except String String :=
  match (if version = runtime.currentVersion then configuredKey runtime.currentKey else none),
      configuredKey (runtime.previousKeys version) with
  | some key, _ => .ok key
  | none, some key => .ok key
  | none, none => .error "PROVIDER_CREDENTIAL_DECRYPT_FAILED"

def startsWith (start text : String) : Bool := start.toList.isPrefixOf text.toList

def endsWith (ending text : String) : Bool := ending.toList.isSuffixOf text.toList

/-- A value that is there and not empty. -/
def present (kind : ProviderCredentialKind) (values : List (ProviderCredentialKind × String)) : Bool :=
  (InsertionMap.find kind values).any fun value => value ≠ ""

def hasStart (start : String) (kind : ProviderCredentialKind)
    (values : List (ProviderCredentialKind × String)) : Bool :=
  (InsertionMap.find kind values).any (startsWith start)

def assertProviderCredentialShape (provider : ProviderName) (environment : ProviderContext)
    (values : List (ProviderCredentialKind × String)) (senderEmail : Option String) : Except String Unit :=
  if (requiredProviderCredentials provider).any (fun kind => !present kind values) then
    .error "PROVIDER_CREDENTIAL_MISSING"
  else match provider with
    | .payMongo =>
      let start := match environment with
        | .test => "sk_test_"
        | .live => "sk_live_"
      if hasStart start .secretKey values = false then .error "PROVIDER_ENVIRONMENT_MISMATCH"
      else if hasStart "whsk_" .webhookSecret values = false then .error "PROVIDER_CREDENTIAL_INVALID"
      else .ok ()
    | .resend =>
      if hasStart "re_" .apiKey values = false then .error "PROVIDER_CREDENTIAL_INVALID"
      else if senderEmail.any (fun email =>
          endsWith ("@" ++ toLowerCase runtime.resendSenderDomain) (toLowerCase email)) = false then
        .error "PROVIDER_CREDENTIAL_INVALID"
      else .ok ()

/-! ## The tables -/

structure ExternalProviderConfiguration where
  id : Id
  provider : ProviderName
  environment : ProviderContext
  enabled : Bool
  senderName : Option String
  senderEmail : Option String
  supportEmail : Option String
  validationStatus : ProviderValidationStatus
  lastValidationCode : Option String
  lastValidatedAt : Option Time
  lastRotatedAt : Option Time
  createdByUserId : Id
  updatedByUserId : Id
  deriving DecidableEq

inductive ExternalProviderConfiguration.Key
  | id (value : Id) | context (provider : ProviderName) (environment : ProviderContext)
  deriving DecidableEq

instance : Keyed ExternalProviderConfiguration ExternalProviderConfiguration.Key where
  keys row := [.id row.id, .context row.provider row.environment]

structure ExternalProviderCredential where
  id : Id
  configurationId : Id
  credentialType : ProviderCredentialKind
  encryptedValue : String
  encryptionKeyVersion : Nat
  maskedHint : String
  activatedAt : Time
  revokedAt : Option Time
  replacedByCredentialId : Option Id
  createdByUserId : Id
  deriving DecidableEq

inductive ExternalProviderCredential.Key
  | id (value : Id)
  /-- At most one credential of a type is active. -/
  | active (configurationId : Id) (credentialType : ProviderCredentialKind)
  deriving DecidableEq

instance : Keyed ExternalProviderCredential ExternalProviderCredential.Key where
  keys row := .id row.id ::
    if row.revokedAt.isNone then [.active row.configurationId row.credentialType] else []

inductive ProviderAction
  | credentialsReplaced | enabled | disabled | credentialsRevoked | validationSucceeded | validationFailed
  | livePaymentEnableBlocked
  deriving DecidableEq

structure ProviderOperationalEvent where
  action : ProviderAction
  actorId : Id
  provider : ProviderName
  environment : ProviderContext
  configurationId : Option Id
  code : Option String
  credentialTypes : List ProviderCredentialKind
  deriving DecidableEq

/-- The database, with the events that the sink has taken, and the sets of
credentials that a validation has found valid, the latest first. -/
structure ProviderStore where
  configurations : Table ExternalProviderConfiguration
  credentials : Table ExternalProviderCredential
  events : List ProviderOperationalEvent
  verdicts : List (Id × List ExternalProviderCredential)

def ProviderStore.empty : ProviderStore := ⟨∅, ∅, [], []⟩

/-- The credentials of a configuration that are not revoked. -/
def activeCredentials (store : ProviderStore) (configurationId : Id) : List ExternalProviderCredential :=
  store.credentials.select fun row => row.configurationId = configurationId && row.revokedAt.isNone

/-- The credentials that a validation has found valid last. -/
def ProviderStore.lastValid (store : ProviderStore) (configurationId : Id) :
    Option (List ExternalProviderCredential) :=
  (store.verdicts.find? fun verdict => verdict.1 = configurationId).map Prod.snd

def decryptAll (credentials : List ExternalProviderCredential) :
    Except String (List (ProviderCredentialKind × String)) :=
  credentials.foldlM (fun values credential => do
    let material <- providerKeyMaterial runtime credential.encryptionKeyVersion
    match runtime.openCredential credential.encryptedValue material credential.encryptionKeyVersion with
    | some plaintext => .ok (InsertionMap.put credential.credentialType plaintext values)
    | none => .error "PROVIDER_CREDENTIAL_DECRYPT_FAILED") []

def decryptConfiguration (provider : ProviderName) (credentials : List ExternalProviderCredential) :
    Except String (List (ProviderCredentialKind × String)) := do
  let values <- decryptAll runtime credentials
  if (requiredProviderCredentials provider).any (fun kind => (InsertionMap.find kind values).isNone) then
    .error "PROVIDER_CREDENTIAL_MISSING"
  else .ok values

end Providers
end DigitalSolutions
