import DigitalSolutions.Platform.Environment
import DigitalSolutions.Platform.Text

namespace DigitalSolutions
namespace Entitlements

open Persistence Platform

/-!
# The text of a claim code

A claim code is `BKE-CLM-` followed by six groups of five upper-case
hexadecimal digits.  What a redeemer types is trimmed and upper-cased before
it is matched, hashed or sealed.
-/

def normalizeClaimCode (value : String) : String := toUpperCase (trim value)

def isHexDigit (character : Char) : Bool :=
  ('A' ≤ character && character ≤ 'F') || ('0' ≤ character && character ≤ '9')

/-- `count` groups of five digits, separated by hyphens. -/
def hexGroups : Nat -> List Char -> Bool
  | 0, _ => false
  | 1, characters => characters.length = 5 && characters.all isHexDigit
  | count + 2, characters =>
    (characters.take 5).length = 5 && (characters.take 5).all isHexDigit &&
      (characters.drop 5).head? = some '-' && hexGroups (count + 1) (characters.drop 6)

/-- `CLAIM_CODE_PATTERN.test`. -/
def matchesPattern (normalized : String) : Bool :=
  "BKE-CLM-".toList.isPrefixOf normalized.toList && hexGroups 6 (normalized.toList.drop 8)

def validClaimCode (value : String) : Bool := matchesPattern (normalizeClaimCode value)

def hashClaimCode (environment : Environment) (value : String) : Except TransactionError String :=
  let normalized := normalizeClaimCode value
  if matchesPattern normalized = false then .error (.message "INVALID_CLAIM_CODE")
  else
    let secret := trim environment.licensePepper
    if secret.isEmpty then .error (.message "CLAIM_CODE_PEPPER_REQUIRED")
    else .ok (environment.hmacSha256 secret normalized)

def encryptClaimCode (environment : Environment) (value secret nonce : String) :
    Except TransactionError String :=
  let normalized := normalizeClaimCode value
  if matchesPattern normalized = false then .error (.message "INVALID_CLAIM_CODE")
  else
    let key := trim secret
    if utf16Length key < 32 then .error (.message "CLAIM_CODE_ENCRYPTION_KEY_REQUIRED")
    else .ok (environment.sealText key nonce normalized)

def decryptClaimCode (environment : Environment) (value secret : String) :
    Except TransactionError String :=
  let key := trim secret
  if utf16Length key < 32 then .error (.message "CLAIM_CODE_ENCRYPTION_KEY_REQUIRED")
  else
    match environment.openText key value with
    | none => .error (.message "INVALID_CLAIM_CODE_CIPHERTEXT")
    | some plaintext =>
      let normalized := normalizeClaimCode plaintext
      if matchesPattern normalized then .ok normalized
      else .error (.message "INVALID_CLAIM_CODE_CIPHERTEXT")

/-- `env.CLAIM_CODE_ENCRYPTION_KEY?.trim()`, when it is not blank. -/
def deliveryKey (environment : Environment) : Option String :=
  match environment.claimCodeEncryptionKey with
  | none => none
  | some key =>
    let trimmed := trim key
    if trimmed.isEmpty then none else some trimmed

end Entitlements
end DigitalSolutions
