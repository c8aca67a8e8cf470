import DigitalSolutions.Foundation.Base64
import DigitalSolutions.Foundation.Checks
import DigitalSolutions.Foundation.Utf8

namespace DigitalSolutions
namespace Foundation

/-!
# Sealed envelopes

A sealed text has four parts joined by dots: a version, then the nonce, the tag
and the ciphertext of an authenticated cipher in base64url.  The cipher is a
parameter.  What it guarantees is that it opens what it sealed, and that it
opens nothing else.

Reading a text is lenient where base64url decoding is: a character outside the
alphabet is skipped, and nothing after a padding sign is read.  The number of
parts is exact.
-/

/-- The twelve bytes drawn for one sealing. -/
structure Nonce where
  bytes : List UInt8
  length : bytes.length = 12
  deriving DecidableEq

/-- A cipher with a tag: encryption gives the tag and the ciphertext. -/
structure Aead where
  encrypt : (key : List UInt8) -> Nonce -> (plaintext : List UInt8) -> List UInt8 × List UInt8
  decrypt : (key : List UInt8) -> Nonce -> (tag ciphertext : List UInt8) -> Option (List UInt8)

structure Aead.Sound (aead : Aead) : Prop where
  opens : forall key nonce plaintext, aead.decrypt key nonce (aead.encrypt key nonce plaintext).1
    (aead.encrypt key nonce plaintext).2 = some plaintext
  authentic : forall key nonce tag ciphertext plaintext,
    aead.decrypt key nonce tag ciphertext = some plaintext -> aead.encrypt key nonce plaintext = (tag, ciphertext)
  tagLength : forall key nonce plaintext, (aead.encrypt key nonce plaintext).1.length = 16
  textLength : forall key nonce plaintext, (aead.encrypt key nonce plaintext).2.length = plaintext.length

/-- What the last three parts of a sealed text hold. -/
structure Envelope where
  nonce : Nonce
  tag : List UInt8
  ciphertext : List UInt8
  tagLength : tag.length = 16
  nonempty : ciphertext ≠ []
  deriving DecidableEq

/-! ## Parts -/

/-- `text.split(".")`. -/
def dotParts (text : String) : List String := (text.toList.splitOn '.').map String.ofList

/-- `parts.join(".")`. -/
def joinDots (parts : List String) : String := String.ofList (List.intercalate ['.'] (parts.map String.toList))

def Undotted (text : String) : Prop := '.' ∉ text.toList

instance (text : String) : Decidable (Undotted text) := inferInstanceAs (Decidable ('.' ∉ text.toList))

theorem dotParts_joinDots {parts : List String} (nonempty : parts ≠ [])
    (undotted : forall part, part ∈ parts -> Undotted part) : dotParts (joinDots parts) = parts := by
  have apart : forall characters, characters ∈ parts.map String.toList -> '.' ∉ characters := by
    intro characters listed
    rcases List.mem_map.mp listed with ⟨part, member, rfl⟩
    exact undotted part member
  have split := List.splitOn_intercalate '.' apart (by simpa using nonempty)
  rw [dotParts, joinDots, String.toList_ofList, split, List.map_map]
  apply List.map_id''
  exact fun part => String.ofList_toList

theorem undotted_base64urlText (bytes : List UInt8) : Undotted (base64urlText bytes) := by
  intro dotted
  rw [base64urlText, String.toList_ofList] at dotted
  rcases List.mem_map.mp dotted with ⟨sextet, listed, isDot⟩
  have readBack := (readsBack_base64urlDigit sextet (sextets_lt listed)).1
  rw [isDot] at readBack
  have unread : sextetOf '.' = none := by decide
  rw [unread] at readBack
  cases readBack

/-! ## Reading and writing -/

def envelopeOf (nonce tag ciphertext : List UInt8) : Option Envelope :=
  if lengths : nonce.length = 12 ∧ tag.length = 16 ∧ ciphertext ≠ [] then
    some { nonce := ⟨nonce, lengths.1⟩, tag, ciphertext, tagLength := lengths.2.1, nonempty := lengths.2.2 }
  else none

theorem envelopeOf_some_iff {nonce tag ciphertext : List UInt8} {envelope : Envelope} :
    envelopeOf nonce tag ciphertext = some envelope ↔
      nonce = envelope.nonce.bytes ∧ tag = envelope.tag ∧ ciphertext = envelope.ciphertext := by
  unfold envelopeOf
  constructor
  · intro read
    split at read
    · cases read
      exact ⟨rfl, rfl, rfl⟩
    · cases read
  · rintro ⟨rfl, rfl, rfl⟩
    rw [dif_pos ⟨envelope.nonce.length, envelope.tagLength, envelope.nonempty⟩]

def readEnvelope (version text : String) : Option Envelope :=
  match dotParts text with
  | [found, nonceText, tagText, ciphertextText] =>
    if found ≠ version ∨ nonceText = "" ∨ tagText = "" ∨ ciphertextText = "" then none
    else envelopeOf (base64Bytes nonceText) (base64Bytes tagText) (base64Bytes ciphertextText)
  | _ => none

/-- The four parts of a text and what they decode to. -/
def HoldsEnvelope (version text : String) (envelope : Envelope) : Prop :=
  Exists fun nonceText => Exists fun tagText => Exists fun ciphertextText =>
    dotParts text = [version, nonceText, tagText, ciphertextText] ∧
      base64Bytes nonceText = envelope.nonce.bytes ∧ base64Bytes tagText = envelope.tag ∧
      base64Bytes ciphertextText = envelope.ciphertext

/-- A part that decodes to some bytes is not empty. -/
theorem part_nonempty {text : String} {bytes : List UInt8} (decoded : base64Bytes text = bytes)
    (nonempty : bytes ≠ []) : text ≠ "" := by
  rintro rfl
  apply nonempty
  rw [← decoded]
  rfl

theorem readEnvelope_some_iff {version text : String} {envelope : Envelope} :
    readEnvelope version text = some envelope ↔ HoldsEnvelope version text envelope := by
  constructor
  · intro read
    unfold readEnvelope at read
    split at read
    case h_1 found nonceText tagText ciphertextText parts =>
      split at read
      case isTrue => cases read
      case isFalse admitted =>
        have isVersion : found = version := by
          by_contra differs
          exact admitted (Or.inl differs)
        rw [isVersion] at parts
        exact ⟨nonceText, tagText, ciphertextText, parts, envelopeOf_some_iff.mp read⟩
    case h_2 => cases read
  · rintro ⟨nonceText, tagText, ciphertextText, parts, nonceRead, tagRead, ciphertextRead⟩
    have someNonce : envelope.nonce.bytes ≠ [] := by
      intro none
      have length := envelope.nonce.length
      rw [none] at length
      cases length
    have someTag : envelope.tag ≠ [] := by
      intro none
      have length := envelope.tagLength
      rw [none] at length
      cases length
    have admitted : ¬(version ≠ version ∨ nonceText = "" ∨ tagText = "" ∨ ciphertextText = "") := by
      rintro (differs | empty | empty | empty)
      · exact differs rfl
      · exact part_nonempty nonceRead someNonce empty
      · exact part_nonempty tagRead someTag empty
      · exact part_nonempty ciphertextRead envelope.nonempty empty
    simp only [readEnvelope, parts]
    rw [if_neg admitted]
    exact envelopeOf_some_iff.mpr ⟨nonceRead, tagRead, ciphertextRead⟩

def Envelope.text (version : String) (envelope : Envelope) : String :=
  joinDots [version, base64urlText envelope.nonce.bytes, base64urlText envelope.tag,
    base64urlText envelope.ciphertext]

theorem readEnvelope_text {version : String} (undotted : Undotted version) (envelope : Envelope) :
    readEnvelope version (envelope.text version) = some envelope := by
  apply readEnvelope_some_iff.mpr
  refine ⟨_, _, _, dotParts_joinDots (List.cons_ne_nil _ _) ?_, base64Bytes_base64urlText _,
    base64Bytes_base64urlText _, base64Bytes_base64urlText _⟩
  intro part listed
  simp only [List.mem_cons, List.not_mem_nil, or_false] at listed
  rcases listed with rfl | rfl | rfl | rfl
  · exact undotted
  · exact undotted_base64urlText _
  · exact undotted_base64urlText _
  · exact undotted_base64urlText _

/-! ## Sealing and opening -/

/-- What sealing takes from the runtime. -/
structure SealingRuntime where
  aead : Aead
  sha256 : List UInt8 -> List UInt8

/-- A key of the secret for one domain. -/
def SealingRuntime.derivedKey (runtime : SealingRuntime) (domain secret : String) : List UInt8 :=
  runtime.sha256 (utf8Bytes (domain ++ "\x00") ++ utf8Bytes secret)

/-- Why a text is not opened: the code's own message, or what the runtime
throws where the tag does not fit, the text is no JSON or `null` is read. -/
inductive OpenFailure
  | message (text : String)
  | unauthentic
  | syntaxError
  | typeError
  deriving DecidableEq

/-- Seal a text under a key with a drawn nonce. -/
def sealEnvelope (aead : Aead) (version : String) (key : List UInt8) (nonce : Nonce) (plaintext : List UInt8) :
    String :=
  joinDots [version, base64urlText nonce.bytes, base64urlText (aead.encrypt key nonce plaintext).1,
    base64urlText (aead.encrypt key nonce plaintext).2]

/-- The key is derived only once the text has passed its checks. -/
def openEnvelope (aead : Aead) (version : String) (malformed : OpenFailure)
    (key : Except OpenFailure (List UInt8)) (text : String) : Except OpenFailure (List UInt8) := do
  let envelope <- demand (readEnvelope version text) malformed
  let key <- key
  demand (aead.decrypt key envelope.nonce envelope.tag envelope.ciphertext) .unauthentic

/-- What the cipher gives for a plaintext. -/
def Envelope.Seals (aead : Aead) (key plaintext : List UInt8) (envelope : Envelope) : Prop :=
  aead.encrypt key envelope.nonce plaintext = (envelope.tag, envelope.ciphertext)

variable {aead : Aead} {version text : String} (malformed : OpenFailure)

/-- An opened text is an envelope that the cipher gives for what was read. -/
theorem openEnvelope_ok_iff (sound : aead.Sound) {key : Except OpenFailure (List UInt8)} {plaintext : List UInt8} :
    openEnvelope aead version malformed key text = .ok plaintext ↔
      Exists fun envelope => Exists fun used => HoldsEnvelope version text envelope ∧ key = .ok used ∧
        envelope.Seals aead used plaintext := by
  unfold openEnvelope
  constructor
  · intro opened
    rcases check_bind_ok_iff.mp opened with ⟨envelope, read, opened⟩
    rcases check_bind_ok_iff.mp opened with ⟨used, derived, opened⟩
    exact ⟨envelope, used, readEnvelope_some_iff.mp (demand_ok_iff.mp read), derived,
      sound.authentic _ _ _ _ _ (demand_ok_iff.mp opened)⟩
  · rintro ⟨envelope, used, holds, derived, sealed⟩
    have opens := sound.opens used envelope.nonce plaintext
    rw [sealed] at opens
    exact check_bind_ok_iff.mpr ⟨envelope, demand_ok_iff.mpr (readEnvelope_some_iff.mpr holds),
      check_bind_ok_iff.mpr ⟨used, derived, demand_ok_iff.mpr opens⟩⟩

/-- What was sealed under a key is opened under it. -/
theorem openEnvelope_sealEnvelope (sound : aead.Sound) (undotted : Undotted version) (key : List UInt8)
    (nonce : Nonce) {plaintext : List UInt8} (nonempty : plaintext ≠ []) :
    openEnvelope aead version malformed (.ok key) (sealEnvelope aead version key nonce plaintext) =
      .ok plaintext := by
  have someText : (aead.encrypt key nonce plaintext).2 ≠ [] := by
    intro none
    have length := sound.textLength key nonce plaintext
    rw [none] at length
    exact nonempty (List.length_eq_zero_iff.mp length.symm)
  let envelope : Envelope :=
    { nonce, tag := (aead.encrypt key nonce plaintext).1, ciphertext := (aead.encrypt key nonce plaintext).2,
      tagLength := sound.tagLength key nonce plaintext, nonempty := someText }
  apply (openEnvelope_ok_iff malformed sound).mpr
  exact ⟨envelope, key, readEnvelope_some_iff.mp (readEnvelope_text undotted envelope), rfl, rfl⟩

end Foundation
end DigitalSolutions
