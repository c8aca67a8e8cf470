import DigitalSolutions.AgentSessions.Material
import DigitalSolutions.Foundation.SealedEnvelopes
import DigitalSolutions.Persistence.JsonText

namespace DigitalSolutions
namespace AgentSessions
namespace Sealed

open Foundation Persistence Platform

/-!
# The sealed token bundle

`encryptAgentTokenBundle` and `decryptAgentTokenBundle` down to the bytes: the
key of the secret, the JSON of the bundle and the envelope around it.  What is
handed out is the parsed object itself, so it comes with the fields that were
checked and may have others.
-/

def TOKEN_BUNDLE_VERSION : String := "v1"

def accountTypeText : AccountType -> String
  | .individual => "INDIVIDUAL"
  | .organization => "ORGANIZATION"

def accountTypeOf (text : String) : Option AccountType :=
  if text = "INDIVIDUAL" then some .individual
  else if text = "ORGANIZATION" then some .organization
  else none

/-- The members of a bundle, in the order it is built in. -/
def bundleEntries (bundle : AgentAccountTokenBundle) : List (String × Json) :=
  [("sessionId", .string bundle.sessionId), ("accessToken", .string bundle.accessToken),
    ("refreshToken", .string bundle.refreshToken), ("accessExpiresAt", .string bundle.accessExpiresAt),
    ("refreshExpiresAt", .string bundle.refreshExpiresAt), ("userId", .string bundle.userId),
    ("email", .string bundle.email), ("accountId", .string bundle.accountId),
    ("accountType", .string (accountTypeText bundle.accountType)),
    ("accountDisplayName", .string bundle.accountDisplayName)]

def bundleJson (bundle : AgentAccountTokenBundle) : Json := .object (bundleEntries bundle)

/-- `parsed.name`, where it is a string. -/
def textMember (parsed : Json) (name : String) : Option String :=
  match parsed with
  | .object entries =>
    match entries.lookup name with
    | some (.string text) => some text
    | _ => none
  | _ => none

/-- The checks of the ten fields. -/
def bundleOf (parsed : Json) : Option AgentAccountTokenBundle := do
  let sessionId <- textMember parsed "sessionId"
  let accessToken <- textMember parsed "accessToken"
  let refreshToken <- textMember parsed "refreshToken"
  let accessExpiresAt <- textMember parsed "accessExpiresAt"
  let refreshExpiresAt <- textMember parsed "refreshExpiresAt"
  let userId <- textMember parsed "userId"
  let email <- textMember parsed "email"
  let accountId <- textMember parsed "accountId"
  let accountType <- (textMember parsed "accountType").bind accountTypeOf
  let accountDisplayName <- textMember parsed "accountDisplayName"
  return { sessionId, accessToken, refreshToken, accessExpiresAt, refreshExpiresAt, userId, email, accountId,
           accountType, accountDisplayName }

theorem bundleOf_bundleJson (bundle : AgentAccountTokenBundle) : bundleOf (bundleJson bundle) = some bundle := by
  rcases bundle with ⟨_, _, _, _, _, _, _, _, accountType, _⟩
  cases accountType with
  | individual => rfl
  | organization => rfl

/-- A parsed value that passed the checks, with the bundle it holds. -/
structure HandedBundle where
  parsed : Json
  bundle : AgentAccountTokenBundle
  checked : bundleOf parsed = some bundle

def bundleKey (runtime : SealingRuntime) (secret : String) : Except OpenFailure (List UInt8) :=
  if utf16Length (trim secret) < 32 then .error (.message "AGENT_ACCOUNT_SESSION_ENCRYPTION_KEY_REQUIRED")
  else .ok (runtime.derivedKey "bke-agent-account-session-handoff-v1" (trim secret))

def encryptAgentTokenBundle (runtime : SealingRuntime) (bundle : AgentAccountTokenBundle) (secret : String)
    (iv : Nonce) : Except OpenFailure String := do
  let key <- bundleKey runtime secret
  let plaintext := utf8Bytes (Json.stringify (bundleJson bundle))
  return sealEnvelope runtime.aead TOKEN_BUNDLE_VERSION key iv plaintext

def checkedBundle (parsed : Json) : Except OpenFailure HandedBundle :=
  if parsed = .null then .error .typeError
  else
    match checked : bundleOf parsed with
    | some bundle => .ok { parsed, bundle, checked }
    | none => .error (.message "INVALID_AGENT_TOKEN_BUNDLE")

/-- `rounded` is how the runtime prints a number that is no safe integer. -/
def decryptAgentTokenBundle (runtime : SealingRuntime) (rounded : String -> String) (value secret : String) :
    Except OpenFailure HandedBundle := do
  let plaintext <- openEnvelope runtime.aead TOKEN_BUNDLE_VERSION (.message "INVALID_AGENT_TOKEN_BUNDLE")
    (bundleKey runtime secret) value
  let parsed <- demand (Json.parse rounded (utf8Text plaintext)) .syntaxError
  checkedBundle parsed

/-! ## Round trip -/

variable {runtime : SealingRuntime} {rounded : String -> String} {secret value : String}

theorem bundleKey_ok_iff {key : List UInt8} : bundleKey runtime secret = .ok key ↔
    32 ≤ utf16Length (trim secret) ∧
      runtime.derivedKey "bke-agent-account-session-handoff-v1" (trim secret) = key := by
  unfold bundleKey
  split
  case isTrue short =>
    constructor
    · nofun
    · rintro ⟨long, _⟩
      omega
  case isFalse long =>
    constructor
    · intro derived
      exact ⟨by omega, Except.ok.inj derived⟩
    · rintro ⟨_, rfl⟩
      rfl

theorem checkedBundle_ok_iff {parsed : Json} {handed : HandedBundle} :
    checkedBundle parsed = .ok handed ↔ handed.parsed = parsed := by
  unfold checkedBundle
  constructor
  · intro passed
    split at passed
    · cases passed
    · split at passed
      · cases passed
        rfl
      · cases passed
  · rintro rfl
    have present : handed.parsed ≠ .null := by
      intro isNull
      have checked := handed.checked
      rw [isNull] at checked
      cases checked
    rw [if_neg present]
    split
    case h_1 bundle checked =>
      have same : bundle = handed.bundle := Option.some.inj (checked.symm.trans handed.checked)
      subst same
      rfl
    case h_2 unchecked =>
      rw [handed.checked] at unchecked
      cases unchecked

theorem plain_bundleEntries (bundle : AgentAccountTokenBundle) : Json.PlainNames (bundleEntries bundle) := by
  constructor
  · change ["sessionId", "accessToken", "refreshToken", "accessExpiresAt", "refreshExpiresAt", "userId", "email",
      "accountId", "accountType", "accountDisplayName"].Nodup
    decide
  · change forall name, name ∈ ["sessionId", "accessToken", "refreshToken", "accessExpiresAt", "refreshExpiresAt",
      "userId", "email", "accountId", "accountType", "accountDisplayName"] -> Json.arrayIndex? name = none
    decide

/-- The bundle's JSON is read back. -/
theorem parse_bundle (rounded : String -> String) (bundle : AgentAccountTokenBundle) :
    Json.parse rounded (Json.stringify (bundleJson bundle)) = some (bundleJson bundle) := by
  apply Json.parse_stringify
  apply (plain_bundleEntries bundle).printable
  intro entry listed
  simp only [bundleEntries, List.mem_cons, List.not_mem_nil, or_false] at listed
  rcases listed with rfl | rfl | rfl | rfl | rfl | rfl | rfl | rfl | rfl | rfl
  all_goals trivial

theorem utf8Bytes_ne_nil {text : String} (nonempty : text ≠ "") : utf8Bytes text ≠ [] := by
  intro none
  apply nonempty
  rw [← utf8Text_utf8Bytes text, none]
  rfl

theorem stringify_bundle_ne (bundle : AgentAccountTokenBundle) : Json.stringify (bundleJson bundle) ≠ "" := by
  intro empty
  have read := parse_bundle id bundle
  rw [empty] at read
  cases read

/-- A sealed bundle is handed out again under the same secret. -/
theorem decrypt_encrypt (sound : runtime.aead.Sound) (rounded : String -> String)
    (bundle : AgentAccountTokenBundle) (admitted : 32 ≤ utf16Length (trim secret)) (iv : Nonce) :
    Exists fun text => encryptAgentTokenBundle runtime bundle secret iv = .ok text ∧
      decryptAgentTokenBundle runtime rounded text secret =
        .ok { parsed := bundleJson bundle, bundle, checked := bundleOf_bundleJson bundle } := by
  have key : bundleKey runtime secret = _ := bundleKey_ok_iff.mpr ⟨admitted, rfl⟩
  refine ⟨_, check_bind_ok_iff.mpr ⟨_, key, rfl⟩, ?_⟩
  have opened := openEnvelope_sealEnvelope (.message "INVALID_AGENT_TOKEN_BUNDLE") sound
    (by decide : Undotted TOKEN_BUNDLE_VERSION)
    (runtime.derivedKey "bke-agent-account-session-handoff-v1" (trim secret)) iv
    (utf8Bytes_ne_nil (stringify_bundle_ne bundle))
  rw [decryptAgentTokenBundle, key, opened, check_ok_bind, utf8Text_utf8Bytes, parse_bundle]
  exact check_bind_ok_iff.mpr ⟨bundleJson bundle, rfl, checkedBundle_ok_iff.mpr rfl⟩

/-- What is handed out was sealed under the secret in exactly this envelope. -/
theorem decrypt_ok_iff (sound : runtime.aead.Sound) {handed : HandedBundle} :
    decryptAgentTokenBundle runtime rounded value secret = .ok handed ↔
      Exists fun envelope => Exists fun plaintext => HoldsEnvelope TOKEN_BUNDLE_VERSION value envelope ∧
        32 ≤ utf16Length (trim secret) ∧
        envelope.Seals runtime.aead
          (runtime.derivedKey "bke-agent-account-session-handoff-v1" (trim secret)) plaintext ∧
        Json.parse rounded (utf8Text plaintext) = some handed.parsed := by
  unfold decryptAgentTokenBundle
  constructor
  · intro done
    rcases check_bind_ok_iff.mp done with ⟨plaintext, opened, done⟩
    rcases check_bind_ok_iff.mp done with ⟨parsed, read, done⟩
    rcases (openEnvelope_ok_iff _ sound).mp opened with ⟨envelope, key, holds, derived, sealed⟩
    rcases bundleKey_ok_iff.mp derived with ⟨admitted, rfl⟩
    rw [checkedBundle_ok_iff.mp done]
    exact ⟨envelope, plaintext, holds, admitted, sealed, demand_ok_iff.mp read⟩
  · rintro ⟨envelope, plaintext, holds, admitted, sealed, read⟩
    have opened := (openEnvelope_ok_iff (.message "INVALID_AGENT_TOKEN_BUNDLE") sound).mpr
      ⟨envelope, _, holds, bundleKey_ok_iff.mpr ⟨admitted, rfl⟩, sealed⟩
    exact check_bind_ok_iff.mpr ⟨plaintext, opened, check_bind_ok_iff.mpr
      ⟨handed.parsed, demand_ok_iff.mpr read, checkedBundle_ok_iff.mpr rfl⟩⟩

/-! ## The primitives of the session platform -/

def openBundle (runtime : SealingRuntime) (rounded : String -> String) (key value : String) :
    Option AgentAccountTokenBundle := do
  let plaintext <- (openEnvelope runtime.aead TOKEN_BUNDLE_VERSION (.message "INVALID_AGENT_TOKEN_BUNDLE")
    (.ok (runtime.derivedKey "bke-agent-account-session-handoff-v1" key)) value).toOption
  let parsed <- Json.parse rounded (utf8Text plaintext)
  return (<- (checkedBundle parsed).toOption).bundle

/-- No text is opened without a key. -/
theorem openEnvelope_error {aead : Aead} {version : String} {malformed failure : OpenFailure} :
    (openEnvelope aead version malformed (.error failure) value).toOption = none := by
  unfold openEnvelope
  cases readEnvelope version value with
  | none => rfl
  | some envelope => rfl

/-- The bytes are a session platform: a bundle is opened where the session
code opens it. -/
theorem decrypt_refines {platform : SessionPlatform} (opens : platform.openBundle = openBundle runtime rounded) :
    (AgentSessions.decryptAgentTokenBundle platform value secret).toOption =
      (decryptAgentTokenBundle runtime rounded value secret).toOption.map HandedBundle.bundle := by
  simp only [AgentSessions.decryptAgentTokenBundle, decryptAgentTokenBundle, AgentSessions.bundleKey, requiredSecret,
    bundleKey, opens, check_toOption_bind, demand_toOption, Option.map_eq_bind, Option.bind_assoc]
  by_cases short : utf16Length (trim secret) < 32
  · rw [if_pos short, if_pos short, openEnvelope_error]
    rfl
  · rw [if_neg short, if_neg short]
    change _ = openBundle runtime rounded (trim secret) value
    cases opened : openBundle runtime rounded (trim secret) value with
    | none => simp [Except.toOption, opened, throw, throwThe, MonadExceptOf.throw]
    | some bundle => simp [Except.toOption, opened, pure, Except.pure]

end Sealed
end AgentSessions
end DigitalSolutions
