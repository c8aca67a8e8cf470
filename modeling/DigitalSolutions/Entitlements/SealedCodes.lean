import DigitalSolutions.AgentSessions.SealedBundles
import DigitalSolutions.Entitlements.ClaimCodeMaterial
import DigitalSolutions.Foundation.Checks

namespace DigitalSolutions
namespace Entitlements
namespace Sealed

open Foundation Persistence Platform

/-!
# The sealed claim code

`encryptClaimCode` and `decryptClaimCode` down to the bytes.  A code is sealed
as it is normalised, and what is opened is normalised once more before it is
matched: a normalised code does not change.
-/

def claimEncryptionKey (runtime : SealingRuntime) (secret : String) : Except OpenFailure (List UInt8) :=
  if utf16Length (trim secret) < 32 then .error (.message "CLAIM_CODE_ENCRYPTION_KEY_REQUIRED")
  else .ok (runtime.derivedKey "bke-claim-code-encryption-v1" (trim secret))

def encryptClaimCode (runtime : SealingRuntime) (value secret : String) (iv : Nonce) : Except OpenFailure String :=
  let normalized := normalizeClaimCode value
  if matchesPattern normalized = false then .error (.message "INVALID_CLAIM_CODE")
  else do
    let key <- claimEncryptionKey runtime secret
    return sealEnvelope runtime.aead "v1" key iv (utf8Bytes normalized)

def checkedCode (plaintext : List UInt8) : Except OpenFailure String :=
  let normalized := normalizeClaimCode (utf8Text plaintext)
  if matchesPattern normalized = false then .error (.message "INVALID_CLAIM_CODE_CIPHERTEXT")
  else .ok normalized

def decryptClaimCode (runtime : SealingRuntime) (value secret : String) : Except OpenFailure String := do
  let plaintext <- openEnvelope runtime.aead "v1" (.message "INVALID_CLAIM_CODE_CIPHERTEXT")
    (claimEncryptionKey runtime secret) value
  checkedCode plaintext

/-! ## Normalised codes -/

/-- The characters of a claim code. -/
def isCodeCharacter (character : Char) : Bool :=
  isHexDigit character || character ∈ ['K', 'L', 'M', '-']

theorem hexGroups_characters : forall (count : Nat) (characters : List Char), hexGroups count characters = true ->
    forall character, character ∈ characters -> isCodeCharacter character = true
  | 0, _, groups => by cases groups
  | 1, characters, groups => by
    intro character member
    have digits := (Bool.and_eq_true_iff.mp groups).2
    simp only [isCodeCharacter, List.all_eq_true.mp digits character member, Bool.true_or]
  | count + 2, characters, groups => by
    intro character member
    simp only [hexGroups, Bool.and_eq_true, decide_eq_true_eq] at groups
    rcases groups with ⟨⟨⟨_, digits⟩, hyphen⟩, others⟩
    rw [← List.take_append_drop 5 characters] at member
    rcases List.mem_append.mp member with first | later
    · simp only [isCodeCharacter, List.all_eq_true.mp digits character first, Bool.true_or]
    · cases rest : characters.drop 5 with
      | nil =>
        rw [rest] at hyphen
        cases hyphen
      | cons head tail =>
        have isHyphen : head = '-' := by
          rw [rest] at hyphen
          exact Option.some.inj hyphen
        have tailIs : characters.drop 6 = tail := by
          have dropped := congrArg (List.drop 1) rest
          rwa [List.drop_drop, List.drop_succ_cons, List.drop_zero] at dropped
        rw [tailIs] at others
        rw [rest] at later
        rcases List.mem_cons.mp later with same | inTail
        · rw [same, isHyphen]
          decide
        · exact hexGroups_characters (count + 1) tail others character inTail

theorem pattern_characters {text : String} (matched : matchesPattern text = true) :
    forall character, character ∈ text.toList -> isCodeCharacter character = true := by
  intro character member
  rcases Bool.and_eq_true_iff.mp matched with ⟨isPrefix, groups⟩
  rcases List.isPrefixOf_iff_prefix.mp isPrefix with ⟨rest, whole⟩
  rw [← whole] at member groups
  rcases List.mem_append.mp member with first | later
  · have all : forall letter, letter ∈ "BKE-CLM-".toList -> isCodeCharacter letter = true := forall_of_all (by decide)
    exact all character first
  · exact hexGroups_characters 6 rest groups character later

theorem isCodeCharacter_lt {character : Char} (plain : isCodeCharacter character = true) : character.toNat < 128 := by
  simp only [isCodeCharacter, isHexDigit, Bool.or_eq_true, Bool.and_eq_true, decide_eq_true_eq, List.mem_cons,
    List.not_mem_nil, or_false] at plain
  rcases plain with (⟨_, upTo⟩ | ⟨_, upTo⟩) | rfl | rfl | rfl | rfl
  · exact Nat.lt_of_le_of_lt (UInt32.le_iff_toNat_le.mp upTo) (by decide)
  · exact Nat.lt_of_le_of_lt (UInt32.le_iff_toNat_le.mp upTo) (by decide)
  all_goals decide

theorem isCodeCharacter_plain {character : Char} (plain : isCodeCharacter character = true) :
    isWhiteSpace character = false ∧ upperCase character = [character] := by
  have each : forall code, code < 128 -> isCodeCharacter (Char.ofNat code) = true ->
      isWhiteSpace (Char.ofNat code) = false ∧ upperCase (Char.ofNat code) = [Char.ofNat code] := by decide
  have one := each character.toNat (isCodeCharacter_lt plain)
  rw [Char.ofNat_toNat] at one
  exact one plain

theorem trim_plain {text : String} (plain : forall character, character ∈ text.toList -> isWhiteSpace character = false) :
    trim text = text := by
  have kept : forall characters : List Char, (forall character, character ∈ characters ->
      isWhiteSpace character = false) -> characters.dropWhile isWhiteSpace = characters := by
    intro characters none
    cases characters with
    | nil => rfl
    | cons first rest => exact List.dropWhile_cons_of_neg (by rw [none first List.mem_cons_self]; decide)
  rw [trim, kept text.toList plain, kept text.toList.reverse, List.reverse_reverse, String.ofList_toList]
  intro character member
  exact plain character (List.mem_reverse.mp member)

theorem toUpperCase_plain {text : String}
    (plain : forall character, character ∈ text.toList -> upperCase character = [character]) :
    toUpperCase text = text := by
  have kept : text.toList.flatMap upperCase = text.toList := by
    rw [List.flatMap_congr plain]
    exact List.flatMap_singleton' _
  rw [toUpperCase, kept, String.ofList_toList]

/-- A text of the pattern is normalised already. -/
theorem normalizeClaimCode_fixed {text : String} (matched : matchesPattern text = true) :
    normalizeClaimCode text = text := by
  have plain := fun character member => isCodeCharacter_plain (pattern_characters matched character member)
  rw [normalizeClaimCode, trim_plain (fun character member => (plain character member).1),
    toUpperCase_plain (fun character member => (plain character member).2)]

/-! ## Round trip -/

variable {runtime : SealingRuntime} {secret value code : String}

theorem claimEncryptionKey_ok_iff {key : List UInt8} : claimEncryptionKey runtime secret = .ok key ↔
    32 ≤ utf16Length (trim secret) ∧ runtime.derivedKey "bke-claim-code-encryption-v1" (trim secret) = key := by
  unfold claimEncryptionKey
  split
  case isTrue short =>
    constructor
    · nofun
    · rintro ⟨long, _⟩
      omega
  case isFalse long =>
    constructor
    · intro derived
      exact ⟨by omega, Except.ok.inj derived⟩
    · rintro ⟨_, rfl⟩
      rfl

theorem checkedCode_ok_iff {plaintext : List UInt8} : checkedCode plaintext = .ok code ↔
    normalizeClaimCode (utf8Text plaintext) = code ∧ matchesPattern code = true := by
  dsimp only [checkedCode]
  generalize normalizeClaimCode (utf8Text plaintext) = normalized
  constructor
  · intro passed
    split at passed
    case isTrue => cases passed
    case isFalse matched =>
      cases passed
      exact ⟨rfl, (Bool.not_eq_false _).mp matched⟩
  · rintro ⟨rfl, matched⟩
    rw [if_neg (by rw [matched]; decide)]

/-- A sealed code is given out again as it is normalised. -/
theorem decrypt_encrypt (sound : runtime.aead.Sound) (valid : validClaimCode value = true)
    (admitted : 32 ≤ utf16Length (trim secret)) (iv : Nonce) :
    Exists fun text => encryptClaimCode runtime value secret iv = .ok text ∧
      decryptClaimCode runtime text secret = .ok (normalizeClaimCode value) := by
  have matched : matchesPattern (normalizeClaimCode value) = true := valid
  have key : claimEncryptionKey runtime secret = _ := claimEncryptionKey_ok_iff.mpr ⟨admitted, rfl⟩
  have nonempty : normalizeClaimCode value ≠ "" := by
    intro empty
    rw [empty] at matched
    cases matched
  have kept : ¬matchesPattern (normalizeClaimCode value) = false := by
    rw [matched]
    decide
  refine ⟨sealEnvelope runtime.aead "v1" (runtime.derivedKey "bke-claim-code-encryption-v1" (trim secret)) iv
    (utf8Bytes (normalizeClaimCode value)), ?_, ?_⟩
  · dsimp only [encryptClaimCode]
    rw [if_neg kept, key]
    rfl
  · have opened := openEnvelope_sealEnvelope (.message "INVALID_CLAIM_CODE_CIPHERTEXT") sound
      (by decide : Undotted "v1") (runtime.derivedKey "bke-claim-code-encryption-v1" (trim secret)) iv
      (AgentSessions.Sealed.utf8Bytes_ne_nil nonempty)
    rw [decryptClaimCode, key, opened, check_ok_bind]
    apply checkedCode_ok_iff.mpr
    rw [utf8Text_utf8Bytes]
    exact ⟨normalizeClaimCode_fixed matched, matched⟩

/-- What is given out was sealed under the secret in exactly this envelope. -/
theorem decrypt_ok_iff (sound : runtime.aead.Sound) : decryptClaimCode runtime value secret = .ok code ↔
    Exists fun envelope => Exists fun plaintext => HoldsEnvelope "v1" value envelope ∧
      32 ≤ utf16Length (trim secret) ∧
      envelope.Seals runtime.aead (runtime.derivedKey "bke-claim-code-encryption-v1" (trim secret)) plaintext ∧
      normalizeClaimCode (utf8Text plaintext) = code ∧ matchesPattern code = true := by
  unfold decryptClaimCode
  constructor
  · intro done
    rcases check_bind_ok_iff.mp done with ⟨plaintext, opened, done⟩
    rcases (openEnvelope_ok_iff _ sound).mp opened with ⟨envelope, key, holds, derived, sealed⟩
    rcases claimEncryptionKey_ok_iff.mp derived with ⟨admitted, rfl⟩
    exact ⟨envelope, plaintext, holds, admitted, sealed, checkedCode_ok_iff.mp done⟩
  · rintro ⟨envelope, plaintext, holds, admitted, sealed, isCode⟩
    have opened := (openEnvelope_ok_iff (.message "INVALID_CLAIM_CODE_CIPHERTEXT") sound).mpr
      ⟨envelope, _, holds, claimEncryptionKey_ok_iff.mpr ⟨admitted, rfl⟩, sealed⟩
    exact check_bind_ok_iff.mpr ⟨plaintext, opened, checkedCode_ok_iff.mpr isCode⟩

/-! ## Bundles and codes -/

/-- A text of fewer or more than four parts holds no envelope. -/
theorem HoldsEnvelope.parts {version text : String} {envelope : Envelope} (holds : HoldsEnvelope version text envelope) :
    (dotParts text).length = 4 := by
  rcases holds with ⟨_, _, _, parts, _⟩
  rw [parts]
  rfl

theorem error_of_not_ok {Value : Type} {answer : Except OpenFailure Value}
    (never : forall value, answer ≠ .ok value) : Exists fun failure => answer = .error failure := by
  cases answer with
  | error failure => exact ⟨failure, rfl⟩
  | ok value => exact absurd rfl (never value)

def additiveTag (key : List UInt8) (nonce : Nonce) (plaintext : List UInt8) : List UInt8 :=
  List.replicate 16 (key.sum + nonce.bytes.sum + plaintext.sum)

def additiveRuntime : SealingRuntime where
  aead :=
    { encrypt := fun key nonce plaintext =>
        (additiveTag key nonce plaintext, plaintext.map (fun byte => byte + key.sum))
      decrypt := fun key nonce tag ciphertext =>
        let plaintext := ciphertext.map (fun byte => byte - key.sum)
        if tag = additiveTag key nonce plaintext then some plaintext else none }
  sha256 bytes := List.replicate 32 bytes.sum

theorem additive_sound : additiveRuntime.aead.Sound where
  opens key nonce plaintext := by
    have restored : (plaintext.map (fun byte => byte + key.sum)).map (fun byte => byte - key.sum) = plaintext := by
      rw [List.map_map]
      apply List.map_id''
      intro byte
      exact UInt8.add_sub_cancel byte key.sum
    dsimp only [additiveRuntime]
    rw [restored, if_pos rfl]
  authentic key nonce tag ciphertext plaintext opened := by
    dsimp only [additiveRuntime] at opened ⊢
    split at opened
    case isTrue isTag =>
      cases opened
      rw [← isTag, List.map_map]
      congr 1
      apply List.map_id''
      intro byte
      exact UInt8.sub_add_cancel byte key.sum
    case isFalse => cases opened
  tagLength _ _ _ := List.length_replicate
  textLength _ _ _ := List.length_map _

def sampleSecret : String := "0123456789abcdef0123456789abcdef"

def sampleNonce : Nonce := ⟨List.range 12 |>.map UInt8.ofNat, rfl⟩

def sampleBundle : AgentSessions.AgentAccountTokenBundle where
  sessionId := "session-1"
  accessToken := "access"
  refreshToken := "refresh"
  accessExpiresAt := "2026-09-19T04:00:00.000Z"
  refreshExpiresAt := "2026-10-19T04:00:00.000Z"
  userId := "user-1"
  email := "buyer@example.com"
  accountId := "account-1"
  accountType := .individual
  accountDisplayName := "Buyer \"B\""

end Sealed
end Entitlements
end DigitalSolutions
