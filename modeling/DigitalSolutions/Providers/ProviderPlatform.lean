import DigitalSolutions.Foundation.Processes
import DigitalSolutions.Foundation.Transaction
import DigitalSolutions.Providers.ProviderPolicy

namespace DigitalSolutions
namespace Providers

open Foundation Persistence Platform

/-!
# The provider configuration platform

Saving, enabling, revoking and validating, each by single accesses to the
store.  A configuration is read in two accesses, its row and then its
credentials, and written by its id.
-/

variable (runtime : ProviderRuntime)

/-! ## The store -/

/-- What is written for a replaced credential, before it has an id. -/
structure CredentialReplacement where
  credentialType : ProviderCredentialKind
  encryptedValue : String
  encryptionKeyVersion : Nat
  maskedHint : String

structure ProviderCall where
  actorId : Id
  provider : ProviderName
  environment : ProviderContext

structure SenderIdentity where
  senderName : Option String
  senderEmail : Option String
  supportEmail : Option String

/-- One round of the loop over the replacements. -/
def replaceCredential (call : ProviderCall) (configurationId credentialId : Id) (rotatedAt : Time)
    (replacement : CredentialReplacement) (credentials : Table ExternalProviderCredential) :
    Option (Table ExternalProviderCredential) := do
  let prior := credentials.lookup (.active configurationId replacement.credentialType)
  let isPrior := fun row : ExternalProviderCredential => prior.any fun old => row.id = old.id
  let revoked <- credentials.amend isPrior fun row => { row with revokedAt := some rotatedAt }
  let inserted <- revoked.insert
    { id := credentialId
      configurationId
      credentialType := replacement.credentialType
      encryptedValue := replacement.encryptedValue
      encryptionKeyVersion := replacement.encryptionKeyVersion
      maskedHint := replacement.maskedHint
      activatedAt := rotatedAt
      revokedAt := none
      replacedByCredentialId := none
      createdByUserId := call.actorId }
  return inserted.update isPrior fun row => { row with replacedByCredentialId := some credentialId }

def replaceCredentials (call : ProviderCall) (configurationId : Id) (rotatedAt : Time) :
    List (CredentialReplacement × Id) -> Table ExternalProviderCredential ->
    Option (Table ExternalProviderCredential)
  | [], credentials => some credentials
  | (replacement, credentialId) :: rest, credentials => do
    let replaced <- replaceCredential call configurationId credentialId rotatedAt replacement credentials
    replaceCredentials call configurationId rotatedAt rest replaced

/-- The row of a configuration after it is saved. -/
def savedRow (call : ProviderCall) (sender : SenderIdentity) (rotatedAt : Time)
    (row : ExternalProviderConfiguration) : ExternalProviderConfiguration :=
  { row with
    senderName := sender.senderName.or row.senderName
    senderEmail := sender.senderEmail.or row.senderEmail
    supportEmail := sender.supportEmail.or row.supportEmail
    validationStatus := .notValidated
    lastValidationCode := none
    lastValidatedAt := none
    lastRotatedAt := some rotatedAt
    updatedByUserId := call.actorId }

def newRow (call : ProviderCall) (id : Id) (sender : SenderIdentity) (rotatedAt : Time) :
    ExternalProviderConfiguration where
  id
  provider := call.provider
  environment := call.environment
  enabled := false
  senderName := sender.senderName
  senderEmail := sender.senderEmail
  supportEmail := sender.supportEmail
  validationStatus := .notValidated
  lastValidationCode := none
  lastValidatedAt := none
  lastRotatedAt := some rotatedAt
  createdByUserId := call.actorId
  updatedByUserId := call.actorId

/-- The row of a configuration after its credentials are revoked. -/
def disabledRow (call : ProviderCall) (row : ExternalProviderConfiguration) : ExternalProviderConfiguration :=
  { row with
    enabled := false
    validationStatus := .notValidated
    lastValidationCode := none
    lastValidatedAt := none
    updatedByUserId := call.actorId }

/-- `UPDATE … WHERE "id" = …` on the configurations. -/
def updateConfiguration (id : Id) (data : ExternalProviderConfiguration -> ExternalProviderConfiguration)
    (keeps : forall row, Keyed.keys (data row) = Keyed.keys row) (store : ProviderStore) : ProviderStore :=
  { store with
    configurations := store.configurations.update (fun row => row.id = id) data fun row _ => keeps row }

/-- The transaction of the store, with the ids that it draws. -/
def storeSaveConfiguration (call : ProviderCall) (sender : SenderIdentity)
    (replacements : List CredentialReplacement) (rotatedAt : Time) (draw : Nat -> Id)
    (store : ProviderStore) : Option (Id × ProviderStore) := do
  let numbered := replacements.zipIdx.map fun (replacement, index) => (replacement, draw (index + 1))
  match store.configurations.lookup (.context call.provider call.environment) with
  | some existing =>
    let saved := updateConfiguration existing.id (savedRow call sender rotatedAt) (fun _ => rfl) store
    let credentials <- replaceCredentials call existing.id rotatedAt numbered saved.credentials
    return (existing.id, { saved with credentials })
  | none =>
    let configurations <- store.configurations.insert (newRow call (draw 0) sender rotatedAt)
    let credentials <- replaceCredentials call (draw 0) rotatedAt numbered store.credentials
    return (draw 0, { store with configurations, credentials })

def storeSetEnabled (call : ProviderCall) (id : Id) (enabled : Bool) (store : ProviderStore) :
    ProviderStore :=
  updateConfiguration id (fun row => { row with enabled, updatedByUserId := call.actorId })
    (fun _ => rfl) store

def storeRevokeCredentials (call : ProviderCall) (id : Id) (revokedAt : Time) (store : ProviderStore) :
    Option ProviderStore := do
  let credentials <- store.credentials.amend
    (fun row => row.configurationId = id && row.revokedAt.isNone)
    fun row => { row with revokedAt := some revokedAt }
  let disabled := updateConfiguration id (disabledRow call) (fun _ => rfl) store
  return { disabled with credentials }

def storeRecordValidation (call : ProviderCall) (id : Id) (status : ProviderValidationStatus)
    (code : String) (validatedAt : Time) (store : ProviderStore) : ProviderStore :=
  updateConfiguration id (fun row =>
    { row with
      validationStatus := status
      lastValidationCode := some code
      lastValidatedAt := some validatedAt
      updatedByUserId := call.actorId }) (fun _ => rfl) store

/-! ## The operations -/

inductive ProviderRequest
  | saveConfiguration (secrets : List (ProviderCredentialKind × String)) (sender : SenderIdentity)
  | setState (enabled : Bool)
  | revokeCredentials
  | validateConfiguration

/-- A result of a validation: which credentials it is about, and what it says. -/
structure Validation where
  configurationId : Id
  credentials : List ExternalProviderCredential
  status : ProviderValidationStatus
  code : String
  deriving DecidableEq

/-- Where an operation stands, with what it has read. -/
inductive ProviderPoint
  | called (call : ProviderCall) (request : ProviderRequest)
  | located (call : ProviderCall) (request : ProviderRequest) (row : ExternalProviderConfiguration)
  | validating (call : ProviderCall) (row : ExternalProviderConfiguration)
    (credentials : List ExternalProviderCredential)
  | recording (call : ProviderCall) (validation : Validation)
  | enabling (call : ProviderCall) (id : Id) (enabled : Bool)
  | revoking (call : ProviderCall) (id : Id)
  /-- An event goes to the sink; when it is the success of a validation, the
  failure of the sink is caught. -/
  | emitting (event : ProviderOperationalEvent) (succeeded : Option (ProviderCall × Validation))

/-- What an access meets: the clock, the ids and nonces it draws, and what the
provider and the sink do. -/
structure ProviderInput where
  now : Time
  draw : Nat -> Id
  nonce : Nat -> String
  verdict : Except String Unit
  sink : Except String Unit

def eventOf (call : ProviderCall) (action : ProviderAction) : ProviderOperationalEvent where
  action
  actorId := call.actorId
  provider := call.provider
  environment := call.environment
  configurationId := none
  code := none
  credentialTypes := []

/-- The replacements that the secrets of a call ask for, encrypted. -/
def encryptReplacements (nonce : Nat -> String) (key : String)
    (entries : List ((ProviderCredentialKind × String) × Nat)) : Except String (List CredentialReplacement) :=
  entries.mapM fun ((credentialType, raw), index) => do
    let encryptedValue <- encryptProviderCredential runtime raw key runtime.currentVersion (nonce index)
    return ⟨credentialType, encryptedValue, runtime.currentVersion, providerCredentialHint raw⟩

def prepareReplacements (call : ProviderCall) (secrets : List (ProviderCredentialKind × String))
    (nonce : Nat -> String) : Except String (List CredentialReplacement) :=
  if secrets.any (fun entry => !(requiredProviderCredentials call.provider).contains entry.1) then
    .error "PROVIDER_CREDENTIAL_INVALID"
  else match configuredKey runtime.currentKey with
    | none => .error "PROVIDER_SOURCE_UNAVAILABLE"
    | some key => encryptReplacements runtime nonce key (secrets.filter fun entry => entry.2 ≠ "").zipIdx

def saveConfiguration (call : ProviderCall) (secrets : List (ProviderCredentialKind × String))
    (sender : SenderIdentity) (input : ProviderInput) (store : ProviderStore) :
    ProviderStore × Option ProviderPoint :=
  match prepareReplacements runtime call secrets input.nonce with
  | .error _ => (store, none)
  | .ok replacements =>
    match storeSaveConfiguration call sender replacements input.now input.draw store with
    | none => (store, none)
    | some (id, saved) => (saved, some (.emitting
        { eventOf call .credentialsReplaced with
          configurationId := some id
          credentialTypes := replacements.map CredentialReplacement.credentialType } none))

/-- Whether a configuration may be enabled, by its row and its credentials. -/
def mayEnable (provider : ProviderName) (row : ExternalProviderConfiguration)
    (credentials : List ExternalProviderCredential) : Bool :=
  row.validationStatus = .valid && (requiredProviderCredentials provider).all fun kind =>
    credentials.any fun credential => credential.credentialType = kind

/-- The checks of a validation, up to the answer of the provider. -/
def checkConfiguration (call : ProviderCall) (row : ExternalProviderConfiguration)
    (credentials : List ExternalProviderCredential) (verdict : Except String Unit) :
    Except String Unit := do
  assertLiveProviderAllowed runtime call.provider call.environment
  let values <- decryptConfiguration runtime row.provider credentials
  assertProviderCredentialShape runtime call.provider call.environment values row.senderEmail
  verdict

def validationErrorCode (message : String) : String :=
  if startsWith "PROVIDER_" message then message else "PROVIDER_VALIDATION_FAILED"

def failedValidation (validation : Validation) (message : String) : Validation :=
  { validation with status := .invalid, code := validationErrorCode message }

/-- The first step of a call that reads a configuration. -/
def locate (call : ProviderCall) (request : ProviderRequest) (store : ProviderStore) :
    Option ProviderPoint :=
  (store.configurations.lookup (.context call.provider call.environment)).map (.located call request)

/-- The step after both reads. -/
def afterReads (call : ProviderCall) (request : ProviderRequest) (row : ExternalProviderConfiguration)
    (credentials : List ExternalProviderCredential) : Option ProviderPoint :=
  match request with
  | .saveConfiguration _ _ => none
  | .setState enabled =>
    if enabled = true ∧ mayEnable call.provider row credentials = false then none
    else some (.enabling call row.id enabled)
  | .revokeCredentials => some (.revoking call row.id)
  | .validateConfiguration => some (.validating call row credentials)

/-- Whether a call is refused where live credentials are forbidden. -/
def asksForLive : ProviderRequest -> Bool
  | .saveConfiguration _ _ | .setState true => true
  | _ => false

def advanceProvider (store : ProviderStore) (point : ProviderPoint) (input : ProviderInput) :
    ProviderStore × Option ProviderPoint :=
  match point with
  | .called call request =>
    if asksForLive request = true ∧
        assertLiveProviderAllowed runtime call.provider call.environment ≠ .ok () then
      (store, some (.emitting (eventOf call .livePaymentEnableBlocked) none))
    else match request with
      | .saveConfiguration secrets sender => saveConfiguration runtime call secrets sender input store
      | _ => (store, locate call request store)
  | .located call request row => (store, afterReads call request row (activeCredentials store row.id))
  | .validating call row credentials =>
    match checkConfiguration runtime call row credentials input.verdict with
    | .ok () =>
      ({ store with verdicts := (row.id, credentials) :: store.verdicts },
        some (.recording call ⟨row.id, credentials, .valid, "VALID"⟩))
    | .error message =>
      (store, some (.recording call ⟨row.id, credentials, .invalid, validationErrorCode message⟩))
  | .recording call validation =>
    (storeRecordValidation call validation.configurationId validation.status validation.code input.now
        store,
      some (.emitting
        { eventOf call (if validation.status = .valid then .validationSucceeded else .validationFailed) with
          configurationId := some validation.configurationId
          code := some validation.code }
        (if validation.status = .valid then some (call, validation) else none)))
  | .enabling call id enabled =>
    (storeSetEnabled call id enabled store, some (.emitting
      { eventOf call (if enabled then .enabled else .disabled) with configurationId := some id } none))
  | .revoking call id =>
    match storeRevokeCredentials call id input.now store with
    | none => (store, none)
    | some revoked => (revoked, some (.emitting
        { eventOf call .credentialsRevoked with configurationId := some id } none))
  | .emitting event succeeded =>
    match input.sink, succeeded with
    | .ok (), _ => ({ store with events := event :: store.events }, none)
    | .error _, none => (store, none)
    | .error message, some (call, validation) =>
      (store, some (.recording call (failedValidation validation message)))

/-- Any number of operations on the configurations at the same time. -/
def providerProtocol : Protocol ProviderStore (ProviderCall × ProviderRequest) ProviderPoint ProviderInput
    Empty Unit where
  enter entry := .called entry.1 entry.2
  advance store point input := .ok (advanceProvider runtime store point input)
  ambient _ event := nomatch event

end Providers
end DigitalSolutions
