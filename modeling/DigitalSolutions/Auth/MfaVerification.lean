import DigitalSolutions.Auth.MfaSecrets
import DigitalSolutions.Entitlements.SealedCodes
import DigitalSolutions.Foundation.LengthFraming

namespace DigitalSolutions
namespace Auth

open Foundation

/-!
# Secrets at rest and the codes they verify

A secret is stored sealed and read back for every challenge.  A candidate is
compared with the codes of three intervals in turn.
-/

/-- What the second factor takes from the runtime and the environment. -/
structure MfaRuntime where
  sealing : SealingRuntime
  decipher : (key iv tag ciphertext : List UInt8) -> Option (List UInt8)
  hmacSha1 : (key message : List UInt8) -> List UInt8
  encryptionKey : String

/-- A decipher reads what the cipher wrote, whatever else it accepts. -/
structure MfaRuntime.Lawful (runtime : MfaRuntime) : Prop where
  sound : runtime.sealing.aead.Sound
  deciphers : forall key (nonce : Nonce) tag ciphertext, tag.length = 16 ->
    runtime.decipher key nonce.bytes tag ciphertext = runtime.sealing.aead.decrypt key nonce tag ciphertext

inductive TotpFailure
  | mfa (failure : MfaFailure)
  | rangeError
  | unauthentic
  deriving DecidableEq

/-- `key()`. -/
def MfaRuntime.key (runtime : MfaRuntime) : List UInt8 := runtime.sealing.sha256 (utf8Bytes runtime.encryptionKey)

/-- A byte of the digest; one past its end counts as zero. -/
def octet (digest : List UInt8) (index : Nat) : Nat := (digest.getD index 0).toNat

/-- Four bytes of a digest as six digits. -/
def digits (digest : List UInt8) : String :=
  let offset := octet digest (digest.length - 1) &&& 15
  let binary := (octet digest offset &&& 127) <<< 24 ||| octet digest (offset + 1) <<< 16 |||
    octet digest (offset + 2) <<< 8 ||| octet digest (offset + 3)
  String.ofList ((Nat.toDigits 10 (binary % 1000000)).leftpad 6 '0')

def hotp (runtime : MfaRuntime) (key : List UInt8) (counter : Int) : String :=
  digits (runtime.hmacSha1 key (bigEndian 8 counter.toNat))

/-- The counter is written into eight bytes before the secret is decoded. -/
def totp (runtime : MfaRuntime) (secret : String) (counter : Int) : Except TotpFailure String := do
  if counter < 0 ∨ 2 ^ 64 ≤ counter then throw .rangeError
  let key <- (base32Decode secret).mapError .mfa
  return hotp runtime key counter

def generateTotpCode (runtime : MfaRuntime) (secret : String) (now : Int) : Except TotpFailure String :=
  totp runtime secret (now / 30000)

/-- `/^\d{6}$/`. -/
def isSixDigits (candidate : String) : Bool := candidate.toList.length = 6 && candidate.toList.all Char.isDigit

def verifyTotp (runtime : MfaRuntime) (secret candidate : String) (now : Int) : Except TotpFailure Bool :=
  if isSixDigits candidate then
    [-1, 0, 1].anyM (fun window => do
      let code <- totp runtime secret (now / 30000 + window)
      return code = candidate)
  else return false

def encryptMfaSecret (runtime : MfaRuntime) (iv : Nonce) (value : String) : String :=
  sealEnvelope runtime.sealing.aead "v1" runtime.key iv (utf8Bytes value)

def invalidMfaCiphertext : TotpFailure := .mfa (.message "INVALID_MFA_CIPHERTEXT")

/-- Parts after the fourth are not looked at. -/
def decryptMfaSecret (runtime : MfaRuntime) (value : String) : Except TotpFailure String :=
  match dotParts value with
  | version :: iv :: tag :: ciphertext :: _ =>
    if version ≠ "v1" ∨ iv = "" ∨ tag = "" ∨ ciphertext = "" then .error invalidMfaCiphertext
    else
      utf8Text <$> demand (runtime.decipher runtime.key (base64Bytes iv) (base64Bytes tag) (base64Bytes ciphertext))
        .unauthentic
  | _ => .error invalidMfaCiphertext

variable {runtime : MfaRuntime}

/-- A stored secret is read back, except the empty one. -/
theorem decryptMfaSecret_encryptMfaSecret (lawful : runtime.Lawful) (iv : Nonce) (value : String) :
    decryptMfaSecret runtime (encryptMfaSecret runtime iv value) =
      if value = "" then .error invalidMfaCiphertext else .ok value := by
  have parts : dotParts (encryptMfaSecret runtime iv value) = _ := dotParts_joinDots (List.cons_ne_nil _ _) (by
    intro part listed
    simp only [List.mem_cons, List.not_mem_nil, or_false] at listed
    rcases listed with rfl | rfl | rfl | rfl
    · decide
    all_goals exact undotted_base64urlText _)
  simp only [decryptMfaSecret, parts, base64Bytes_base64urlText]
  have tagLength := lawful.sound.tagLength runtime.key iv (utf8Bytes value)
  have textLength := lawful.sound.textLength runtime.key iv (utf8Bytes value)
  by_cases empty : value = ""
  · subst empty
    have none := List.length_eq_zero_iff.mp textLength
    rw [if_pos rfl, if_pos (Or.inr (Or.inr (Or.inr (by rw [none]; rfl))))]
  · rw [if_neg empty, if_neg, lawful.deciphers _ _ _ _ tagLength, lawful.sound.opens]
    · exact congrArg Except.ok (utf8Text_utf8Bytes value)
    · rintro (other | noNonce | noTag | noText)
      · exact other rfl
      · refine part_nonempty (base64Bytes_base64urlText _) ?_ noNonce
        exact List.ne_nil_of_length_pos (by rw [iv.length]; decide)
      · refine part_nonempty (base64Bytes_base64urlText _) ?_ noTag
        exact List.ne_nil_of_length_pos (by rw [tagLength]; decide)
      · refine part_nonempty (base64Bytes_base64urlText _) ?_ noText
        intro none
        rw [none] at textLength
        exact AgentSessions.Sealed.utf8Bytes_ne_nil empty (List.length_eq_zero_iff.mp textLength.symm)

theorem isSixDigits_digits (digest : List UInt8) : isSixDigits (digits digest) = true := by
  unfold digits
  extract_lets offset binary
  have short : (Nat.toDigits 10 (binary % 1000000)).length ≤ 6 :=
    (Nat.length_toDigits_le_iff (by decide) (by decide)).mpr (Nat.mod_lt _ (by decide))
  rw [isSixDigits, String.toList_ofList, List.length_leftpad, Nat.max_eq_left short, Bool.and_eq_true,
    List.all_eq_true]
  refine ⟨rfl, fun digit member => ?_⟩
  rcases List.mem_append.mp member with filling | listed
  · rw [List.eq_of_mem_replicate filling]
    rfl
  · exact Nat.isDigit_of_mem_toDigits (by decide) (by decide) listed

section Verified

variable {secret : String} {key : List UInt8}

theorem totp_of_decoded (decoded : base32Decode secret = .ok key) {counter : Int} (natural : 0 ≤ counter)
    (fits : counter < 2 ^ 64) : totp runtime secret counter = .ok (hotp runtime key counter) := by
  rw [totp, if_neg (by omega), decoded]
  rfl

/-- Away from the epoch a candidate is accepted exactly if it is the code of
this interval or of a neighbour. -/
theorem verifyTotp_eq (decoded : base32Decode secret = .ok key) (candidate : String) {now : Int}
    (started : 30000 ≤ now) (ends : now < 2 ^ 53) :
    verifyTotp runtime secret candidate now =
      .ok ([-1, 0, 1].any (fun window => hotp runtime key (now / 30000 + window) = candidate)) := by
  have compared : forall windows : List Int, (forall window, window ∈ windows -> -1 ≤ window ∧ window ≤ 1) ->
      windows.anyM (fun window => do
        let code <- totp runtime secret (now / 30000 + window)
        return code = candidate) =
      .ok (windows.any (fun window => hotp runtime key (now / 30000 + window) = candidate)) := by
    intro windows near
    induction windows with
    | nil => rfl
    | cons window later inductionHypothesis =>
      have here := near window List.mem_cons_self
      rw [List.anyM, totp_of_decoded decoded (by omega) (by omega),
        inductionHypothesis (fun other member => near other (List.mem_cons_of_mem window member))]
      by_cases same : hotp runtime key (now / 30000 + window) = candidate
      · simp only [check_ok_bind, same, decide_true, List.any_cons, Bool.true_or]
        rfl
      · simp only [check_ok_bind, same, decide_false, List.any_cons, Bool.false_or]
        rfl
  unfold verifyTotp
  split
  case isTrue six => exact compared _ (by decide)
  case isFalse other =>
    refine congrArg Except.ok (List.any_eq_false.mpr fun window _ isCode => other ?_).symm
    rw [← of_decide_eq_true isCode]
    exact isSixDigits_digits _

end Verified

/-- What enrolment stores, and what is accepted for it later. -/
structure Enrolled (runtime : MfaRuntime) (drawn : List UInt8) (iv : Nonce) (now : Int) : Prop where
  stored : decryptMfaSecret runtime (encryptMfaSecret runtime iv (generateTotpSecret drawn)) =
    .ok (generateTotpSecret drawn)
  accepts : forall candidate, verifyTotp runtime (generateTotpSecret drawn) candidate now = .ok true ↔
    Exists fun window => window ∈ [-1, 0, (1 : Int)] ∧ hotp runtime drawn (now / 30000 + window) = candidate
  /-- A code that was generated at most half a minute away is accepted. -/
  tolerates : forall moment, 0 ≤ moment -> now - 30000 ≤ moment -> moment ≤ now + 30000 -> Exists fun code =>
    generateTotpCode runtime (generateTotpSecret drawn) moment = .ok code ∧
    verifyTotp runtime (generateTotpSecret drawn) code now = .ok true

/-- A drawn secret survives its storage, and verification accepts exactly the
codes of the drawn bytes for three intervals. -/
theorem enrolled (lawful : runtime.Lawful) {drawn : List UInt8} (twenty : drawn.length = 20) (iv : Nonce)
    {now : Int} (started : 30000 ≤ now) (ends : now < 2 ^ 53) : Enrolled runtime drawn iv now := by
  have decoded : base32Decode (generateTotpSecret drawn) = .ok drawn := base32Decode_base32Encode drawn
  have nonempty : generateTotpSecret drawn ≠ "" := by
    intro empty
    rw [empty] at decoded
    cases decoded
    cases twenty
  have accepts : forall candidate,
      verifyTotp runtime (generateTotpSecret drawn) candidate now = .ok true ↔ Exists fun window =>
        window ∈ [-1, 0, (1 : Int)] ∧ hotp runtime drawn (now / 30000 + window) = candidate := by
    intro candidate
    rw [verifyTotp_eq decoded candidate started ends, Except.ok.injEq, List.any_eq_true]
    simp only [decide_eq_true_eq]
  refine ⟨?_, accepts, ?_⟩
  · rw [decryptMfaSecret_encryptMfaSecret lawful, if_neg nonempty]
  · intro moment natural above below
    refine ⟨_, totp_of_decoded decoded (by omega) (by omega), (accepts _).mpr ?_⟩
    refine ⟨moment / 30000 - now / 30000, ?_, by rw [add_sub_cancel]⟩
    simp only [List.mem_cons, List.not_mem_nil, or_false]
    omega

/-! ## A sample secret -/

def sampleDrawn : List UInt8 := utf8Bytes "12345678901234567890"

/-- The digests of the first three counters under the sample secret. -/
def sampleDigest (counter : UInt8) : List UInt8 :=
  if counter = 0 then [204, 147, 207, 24, 80, 141, 148, 147, 76, 100, 182, 93, 139, 167, 102, 127, 183, 205, 228, 176]
  else if counter = 1 then
    [117, 164, 138, 25, 212, 203, 225, 0, 100, 78, 138, 193, 57, 126, 234, 116, 122, 45, 51, 171]
  else [11, 172, 183, 250, 8, 47, 239, 48, 120, 34, 17, 147, 139, 193, 197, 231, 4, 22, 255, 68]

def sampleRuntime : MfaRuntime where
  sealing := Entitlements.Sealed.additiveRuntime
  decipher key iv tag ciphertext := if twelve : iv.length = 12 then
    Entitlements.Sealed.additiveRuntime.aead.decrypt key ⟨iv, twelve⟩ tag ciphertext else none
  hmacSha1 _ message := sampleDigest (message.getLastD 0)
  encryptionKey := Entitlements.Sealed.sampleSecret

theorem enrolled_sample : Enrolled sampleRuntime sampleDrawn Entitlements.Sealed.sampleNonce 59000 :=
  enrolled ⟨Entitlements.Sealed.additive_sound, fun _ nonce _ _ _ => dif_pos nonce.length⟩ (by decide +kernel)
    _ (by decide) (by decide)

example : verifyTotp sampleRuntime (generateTotpSecret sampleDrawn) "287082" 59000 = .ok true := by
  decide +kernel

end Auth
end DigitalSolutions
