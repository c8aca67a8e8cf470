import DigitalSolutions.Entitlements.ClaimCodeMaterial
import DigitalSolutions.Entitlements.DurableRights
import DigitalSolutions.Licensing.EntitlementManagement

namespace DigitalSolutions
namespace Entitlements

open Foundation Persistence Platform Licensing

/-!
# Claim codes

An order that is fulfilled by claim codes gets one code per unit of each
item.  A code can be revealed to its purchaser and consumed once by any
account.  Consuming it grants a right of quantity one and runs the licensing
fulfilment of the whole order item for the redeeming account.
-/

structure ClaimCodeIssueInput where
  orderId : Id
  orderItemId : Id
  purchaserAccountId : Id
  productId : Id
  editionId : Option Id
  purchasePlanId : Option Id
  resourceId : Id
  units : Nat
  scopeSnapshot : Json
  grantSnapshot : Json
  validFrom : Time
  validUntil : Option Time
  expiresAt : Option Time
  deriving DecidableEq

inductive ClaimCodeIssueRejection
  | invalidInput | sourceConflict
  deriving DecidableEq

inductive ClaimCodeIssueResult
  | issued (unitCount : Nat) (claimCodeIds : List Id)
  | existing (unitCount : Nat) (claimCodeIds : List Id)
  | rejected (code : ClaimCodeIssueRejection)
  | failed
  deriving DecidableEq

def validIssueInput (input : ClaimCodeIssueInput) : Bool :=
  !isBlank input.orderId
    && !isBlank input.orderItemId
    && !isBlank input.purchaserAccountId
    && !isBlank input.productId
    && !isBlank input.resourceId
    && 0 < input.units
    && input.units ≤ 1000
    && input.validUntil.all (fun validUntil => validUntil > input.validFrom)
    && input.expiresAt.all (fun expiresAt => expiresAt > 0)

/-- The codes of an order item in the order of their units. -/
def codesOfItem (store : EntitlementsStore) (orderItemId : Id) : List ClaimCode :=
  (store.claimCodes.select (fun code => code.orderItemId = orderItemId)).insertionSort
    (fun left right => left.unitIndex ≤ right.unitIndex)

def sameSource (input : ClaimCodeIssueInput) (existing : List ClaimCode) : Bool :=
  existing.length = input.units &&
    (existing.zipIdx).all (fun entry =>
      entry.1.orderId = input.orderId
        && entry.1.unitIndex = entry.2
        && entry.1.purchaserAccountId = input.purchaserAccountId
        && entry.1.productId = input.productId
        && entry.1.editionId = input.editionId
        && entry.1.purchasePlanId = input.purchasePlanId
        && entry.1.resourceId = input.resourceId)

def issuedCode (input : ClaimCodeIssueInput) (unitIndex : Nat) (moment : Moment)
    (normalized codeHash codeCiphertext : String) : ClaimCode where
  id := moment.draw (.claimCodeId input.orderItemId unitIndex)
  orderId := input.orderId
  orderItemId := input.orderItemId
  unitIndex
  purchaserAccountId := input.purchaserAccountId
  codeHash
  codeLastFour := lastFour normalized
  state := .available codeCiphertext
  resourceId := input.resourceId
  productId := input.productId
  editionId := input.editionId
  purchasePlanId := input.purchasePlanId
  scopeSnapshot := input.scopeSnapshot
  grantSnapshot := input.grantSnapshot
  validFrom := input.validFrom
  validUntil := input.validUntil
  expiresAt := input.expiresAt

/-- One turn of the issuing loop: draw a code, hash and seal it, insert it. -/
def issueUnit (environment : Environment) (moment : Moment) (key : String)
    (input : ClaimCodeIssueInput) (unitIndex : Nat) : Tx EntitlementsStore Id := do
  let plaintext := moment.draw (.claimCodePlaintext input.orderItemId unitIndex)
  let nonce := moment.draw (.claimCodeNonce input.orderItemId unitIndex)
  let normalized := normalizeClaimCode plaintext
  let codeHash <- liftM (hashClaimCode environment normalized)
  let codeCiphertext <- liftM (encryptClaimCode environment normalized key nonce)
  let store <- get
  let code := issuedCode input unitIndex moment normalized codeHash codeCiphertext
  let claimCodes <- Transaction.orFail .uniqueViolation (store.claimCodes.insert code)
  set { store with claimCodes }
  return code.id

def issueUnits (environment : Environment) (moment : Moment) (key : String)
    (input : ClaimCodeIssueInput) : List Nat -> Tx EntitlementsStore (List Id)
  | [] => return []
  | unitIndex :: rest => do
    let claimCodeId <- issueUnit environment moment key input unitIndex
    let later <- issueUnits environment moment key input rest
    return claimCodeId :: later

def issueClaimCodes (environment : Environment) (moment : Moment) (input : ClaimCodeIssueInput) :
    Tx EntitlementsStore ClaimCodeIssueResult := do
  if validIssueInput input = false then
    return .rejected .invalidInput
  let some key := deliveryKey environment | return .failed
  let store <- get
  let existing := codesOfItem store input.orderItemId
  if existing.isEmpty = false then
    if sameSource input existing = false then
      return .rejected .sourceConflict
    return .existing existing.length (existing.map ClaimCode.id)
  let claimCodeIds <- issueUnits environment moment key input (List.range input.units)
  return .issued claimCodeIds.length claimCodeIds

/-! ## The commerce port -/

structure ClaimUnitIssueInput where
  orderId : Id
  orderItemId : Id
  purchaserAccountId : Id
  productId : Id
  editionId : Option Id
  purchasePlanId : Option Id
  resourceId : Id
  quantity : Nat
  scopeSnapshot : Json
  grantSnapshot : Json
  validFrom : Time
  deriving DecidableEq

inductive ClaimUnitIssueResult
  | issued (unitCount : Nat)
  | existing (unitCount : Nat)
  | rejected
  | failed
  deriving DecidableEq

def issueInputOf (input : ClaimUnitIssueInput) : ClaimCodeIssueInput where
  orderId := input.orderId
  orderItemId := input.orderItemId
  purchaserAccountId := input.purchaserAccountId
  productId := input.productId
  editionId := input.editionId
  purchasePlanId := input.purchasePlanId
  resourceId := input.resourceId
  units := input.quantity
  scopeSnapshot := input.scopeSnapshot
  grantSnapshot := input.grantSnapshot
  validFrom := input.validFrom
  validUntil := none
  expiresAt := none

def issueCommerceClaimUnits (environment : Environment) (moment : Moment)
    (input : ClaimUnitIssueInput) : Tx EntitlementsStore ClaimUnitIssueResult := do
  let result <- issueClaimCodes environment moment (issueInputOf input)
  match result with
  | .issued unitCount _ => return .issued unitCount
  | .existing unitCount _ => return .existing unitCount
  | .rejected _ => return .rejected
  | .failed => return .failed

/-! ## What issuing wrote -/

section Issued

variable {environment : Environment} {moment : Moment} {before after : EntitlementsStore}
variable {input : ClaimCodeIssueInput}

/-- A code as the issuing loop makes it: available, for one unit of the item,
and found again by the hash of its text. -/
structure IssuedUnit (environment : Environment) (moment : Moment) (input : ClaimCodeIssueInput)
    (code : ClaimCode) : Prop where
  made : Exists fun codeHash => Exists fun codeCiphertext =>
    hashClaimCode environment (normalizeClaimCode
      (moment.draw (.claimCodePlaintext input.orderItemId code.unitIndex))) = .ok codeHash ∧
    code = issuedCode input code.unitIndex moment (normalizeClaimCode
      (moment.draw (.claimCodePlaintext input.orderItemId code.unitIndex))) codeHash codeCiphertext

theorem IssuedUnit.orderId {code : ClaimCode} (issued : IssuedUnit environment moment input code) :
    code.orderId = input.orderId := by
  rcases issued.made with ⟨_, _, _, made⟩
  rw [made]
  rfl

theorem IssuedUnit.orderItemId {code : ClaimCode} (issued : IssuedUnit environment moment input code) :
    code.orderItemId = input.orderItemId := by
  rcases issued.made with ⟨_, _, _, made⟩
  rw [made]
  rfl

theorem issueUnit_commits {key : String} {unitIndex : Nat} {claimCodeId : Id}
    (commits : (issueUnit environment moment key input unitIndex).Commits before claimCodeId after) :
    after.entitlements = before.entitlements ∧ Exists fun code =>
      code.unitIndex = unitIndex ∧ IssuedUnit environment moment input code ∧
      before.claimCodes.insert code = some after.claimCodes := by
  unfold issueUnit at commits
  simp only [Transaction.commits_bind, Transaction.commits_get, Transaction.commits_liftM,
    Transaction.commits_orFail, Transaction.commits_set, Transaction.commits_pure] at commits
  rcases commits with ⟨codeHash, _, ⟨hashed, rfl⟩, codeCiphertext, _, ⟨_, rfl⟩, _, _, ⟨rfl, rfl⟩,
    claimCodes, _, ⟨inserted, rfl⟩, _, _, rfl, _, rfl⟩
  exact ⟨rfl, issuedCode input unitIndex moment (normalizeClaimCode
    (moment.draw (.claimCodePlaintext input.orderItemId unitIndex))) codeHash codeCiphertext, rfl,
    ⟨codeHash, codeCiphertext, hashed, rfl⟩, inserted⟩

/-- The loop appends one code per unit. -/
theorem issueUnits_commits {key : String} (units : List Nat) {claimCodeIds : List Id}
    (commits : (issueUnits environment moment key input units).Commits before claimCodeIds after) :
    after.entitlements = before.entitlements ∧ Exists fun codes =>
      after.claimCodes.rows = before.claimCodes.rows ++ codes ∧
      codes.map ClaimCode.unitIndex = units ∧
      forall code, code ∈ codes -> IssuedUnit environment moment input code := by
  induction units generalizing before claimCodeIds with
  | nil =>
    rcases Transaction.commits_pure.mp commits with ⟨_, rfl⟩
    refine ⟨rfl, [], (List.append_nil _).symm, rfl, ?_⟩
    intro code member
    exact absurd member List.not_mem_nil
  | cons unitIndex rest inductionHypothesis =>
    rw [issueUnits] at commits
    simp only [Transaction.commits_bind, Transaction.commits_pure] at commits
    rcases commits with ⟨_, middle, first, _, _, later, _, rfl⟩
    rcases issueUnit_commits first with ⟨sameRights, code, isUnit, issued, inserted⟩
    rcases inductionHypothesis later with ⟨laterRights, codes, appended, units, allIssued⟩
    refine ⟨laterRights.trans sameRights, code :: codes, ?_, ?_, ?_⟩
    · rw [appended, Table.rows_insert inserted, List.append_assoc, List.singleton_append]
    · rw [List.map_cons, isUnit, units]
    · intro other member
      rcases List.mem_cons.mp member with rfl | inRest
      · exact issued
      · exact allIssued other inRest

/-- An accepted request either finds the codes of the item or issues one per
unit. -/
inductive UnitsCommit (environment : Environment) (moment : Moment) (input : ClaimCodeIssueInput)
    (before after : EntitlementsStore) : Prop
  | issued (fresh : codesOfItem before input.orderItemId = []) (positive : 0 < input.units)
    (bounded : input.units ≤ 1000) (codes : List ClaimCode)
    (appended : after.claimCodes.rows = before.claimCodes.rows ++ codes)
    (units : codes.map ClaimCode.unitIndex = List.range input.units)
    (each : forall code, code ∈ codes -> IssuedUnit environment moment input code)
    (sameRights : after.entitlements = before.entitlements)
  | existing (taken : codesOfItem before input.orderItemId ≠ [])
    (agrees : sameSource input (codesOfItem before input.orderItemId) = true)
    (unchanged : after = before)

theorem issueClaimCodes_commits {result : ClaimCodeIssueResult} {unitCount : Nat} {claimCodeIds : List Id}
    (accepted : result = .issued unitCount claimCodeIds ∨ result = .existing unitCount claimCodeIds)
    (commits : (issueClaimCodes environment moment input).Commits before result after) :
    UnitsCommit environment moment input before after := by
  have notRejected : forall code, ¬ ClaimCodeIssueResult.rejected code = result := by
    rintro code rfl
    rcases accepted with same | same <;> cases same
  have notFailed : ¬ ClaimCodeIssueResult.failed = result := by
    rintro rfl
    rcases accepted with same | same <;> cases same
  unfold issueClaimCodes at commits
  rcases Transaction.commits_ite.mp commits with ⟨_, commits⟩ | ⟨valid, commits⟩
  · exact absurd (Transaction.commits_pure.mp commits).1 (notRejected _)
  split at commits
  case h_2 => exact absurd (Transaction.commits_pure.mp commits).1 notFailed
  case h_1 key deliverable =>
    rw [Transaction.commits_get_bind] at commits
    rcases Transaction.commits_ite.mp commits with ⟨taken, commits⟩ | ⟨free, commits⟩
    · rcases Transaction.commits_ite.mp commits with ⟨_, commits⟩ | ⟨agrees, commits⟩
      · exact absurd (Transaction.commits_pure.mp commits).1 (notRejected _)
      · exact .existing (by simpa using taken) (by simpa using agrees)
          (Transaction.commits_pure.mp commits).2.symm
    · simp only [Transaction.commits_bind, Transaction.commits_pure] at commits
      rcases commits with ⟨_, _, issues, _, rfl⟩
      rcases issueUnits_commits _ issues with ⟨sameRights, codes, appended, units, each⟩
      have checked : validIssueInput input = true := by simpa using valid
      simp only [validIssueInput, Bool.and_eq_true, decide_eq_true_eq] at checked
      exact .issued (by simpa using free) checked.1.1.1.2 checked.1.1.2 codes appended units each
        sameRights

theorem issueCommerceClaimUnits_commits {input : ClaimUnitIssueInput} {result : ClaimUnitIssueResult}
    {unitCount : Nat} (accepted : result = .issued unitCount ∨ result = .existing unitCount)
    (commits : (issueCommerceClaimUnits environment moment input).Commits before result after) :
    UnitsCommit environment moment (issueInputOf input) before after := by
  unfold issueCommerceClaimUnits at commits
  rw [Transaction.commits_bind] at commits
  rcases commits with ⟨answer, _, issues, returned⟩
  cases answer with
  | issued count claimCodeIds =>
    rcases Transaction.commits_pure.mp returned with ⟨_, rfl⟩
    exact issueClaimCodes_commits (Or.inl rfl) issues
  | existing count claimCodeIds =>
    rcases Transaction.commits_pure.mp returned with ⟨_, rfl⟩
    exact issueClaimCodes_commits (Or.inr rfl) issues
  | rejected code =>
    rcases Transaction.commits_pure.mp returned with ⟨rfl, _⟩
    rcases accepted with same | same <;> cases same
  | failed =>
    rcases Transaction.commits_pure.mp returned with ⟨rfl, _⟩
    rcases accepted with same | same <;> cases same

end Issued

/-- The terms of a claim code: all of it but its state. -/
def codeTerms (code : ClaimCode) : ClaimCode := { code with state := .expired }

/-- Rights and codes are added and never removed. -/
structure EntitlementsGrow (before after : EntitlementsStore) : Prop where
  entitlements : Table.Grows entitlementTerms before.entitlements after.entitlements
  claimCodes : Table.Grows codeTerms before.claimCodes after.claimCodes

theorem EntitlementsGrow.refl (store : EntitlementsStore) : EntitlementsGrow store store :=
  ⟨Table.Grows.refl _ _, Table.Grows.refl _ _⟩

theorem EntitlementsGrow.trans {first second third : EntitlementsStore}
    (left : EntitlementsGrow first second) (right : EntitlementsGrow second third) :
    EntitlementsGrow first third :=
  ⟨left.entitlements.trans right.entitlements, left.claimCodes.trans right.claimCodes⟩

theorem UnitsCommit.grows {environment : Environment} {moment : Moment} {input : ClaimCodeIssueInput}
    {before after : EntitlementsStore} (commit : UnitsCommit environment moment input before after) :
    EntitlementsGrow before after := by
  cases commit with
  | issued _ _ _ codes appended _ _ sameRights =>
    refine ⟨by rw [sameRights]; exact Table.Grows.refl _ _, fun old member => ⟨old, ?_, rfl⟩⟩
    rw [← Table.mem_rows, appended]
    exact List.mem_append_left _ member
  | existing _ _ unchanged =>
    rw [unchanged]
    exact EntitlementsGrow.refl before

/-- The item has a code. -/
def Coded (orderItemId : Id) (store : EntitlementsStore) : Prop :=
  Exists fun code => code ∈ store.claimCodes ∧ code.orderItemId = orderItemId

theorem EntitlementsGrow.coded {orderItemId : Id} {before after : EntitlementsStore}
    (grows : EntitlementsGrow before after) (coded : Coded orderItemId before) :
    Coded orderItemId after := by
  rcases coded with ⟨code, member, ofItem⟩
  rcases grows.claimCodes code member with ⟨later, laterMember, same⟩
  have sameItem : later.orderItemId = code.orderItemId := Table.eq_of_mask same (fun _ => rfl)
  exact ⟨later, laterMember, sameItem.trans ofItem⟩

theorem coded_iff {orderItemId : Id} {store : EntitlementsStore} :
    Coded orderItemId store ↔ codesOfItem store orderItemId ≠ [] := by
  unfold codesOfItem
  constructor
  · rintro ⟨code, member, ofItem⟩ empty
    have listed : code ∈ (store.claimCodes.select (fun code => code.orderItemId = orderItemId)).insertionSort
        (fun left right => left.unitIndex ≤ right.unitIndex) := by
      rw [List.mem_insertionSort, Table.mem_select]
      exact ⟨member, decide_eq_true ofItem⟩
    rw [empty] at listed
    exact List.not_mem_nil listed
  · intro nonempty
    rcases List.exists_mem_of_ne_nil _ nonempty with ⟨code, listed⟩
    rw [List.mem_insertionSort, Table.mem_select] at listed
    exact ⟨code, listed.1, of_decide_eq_true listed.2⟩

/-- After an accepted request the item has codes; before it, only if nothing
was issued. -/
theorem UnitsCommit.coded {environment : Environment} {moment : Moment} {input : ClaimCodeIssueInput}
    {before after : EntitlementsStore} (commit : UnitsCommit environment moment input before after) :
    Coded input.orderItemId after ∧ (Coded input.orderItemId before -> after = before) := by
  cases commit with
  | issued fresh positive _ codes appended units each _ =>
    constructor
    · have nonempty : codes ≠ [] := by
        rintro rfl
        have none : List.range input.units = [] := units.symm
        rw [List.range_eq_nil] at none
        omega
      rcases List.exists_mem_of_ne_nil _ nonempty with ⟨code, member⟩
      refine ⟨code, ?_, (each code member).orderItemId⟩
      rw [← Table.mem_rows, appended]
      exact List.mem_append_right _ member
    · intro coded
      exact absurd fresh (coded_iff.mp coded)
  | existing taken _ unchanged => exact ⟨unchanged ▸ coded_iff.mpr taken, fun _ => unchanged⟩

/-! ## Reveal -/

variable {environment : Environment} {moment : Moment} {before after : EntitlementsStore}
variable {claimCodeId : Id} {code : ClaimCode}

inductive ClaimCodeRevealRejection
  | notFound | alreadyClaimed | revoked | expired
  deriving DecidableEq

inductive ClaimCodeRevealFailure
  | deliveryKeyUnavailable | invalidCiphertext
  deriving DecidableEq

inductive ClaimCodeRevealResult
  | available (code : String)
  | rejected (code : ClaimCodeRevealRejection)
  | failed (code : ClaimCodeRevealFailure)
  deriving DecidableEq

def pastExpiry (now : Time) (code : ClaimCode) : Bool :=
  code.expiresAt.any (fun expiresAt => expiresAt ≤ now)

/-- An available code names no entitlement, so moving it to a state that
names none keeps its index entries. -/
theorem keys_of_available (available : code.state.status = .available) {state : ClaimCodeState}
    (unclaimed : state.entitlementId = none) :
    Keyed.keys { code with state } = Keyed.keys code := by
  have nameless : code.state.entitlementId = none := by
    cases shape : code.state with
    | available _ => rfl
    | claimed _ _ _ _ => rw [shape] at available; cases available
    | revoked _ => rfl
    | expired => rfl
  simp only [Keyed.keys, nameless, unclaimed]

/-- The statement that marks a code expired.  It touches available codes
only. -/
def expireCode (claimCodeId : Id) (store : EntitlementsStore) : EntitlementsStore :=
  { store with
    claimCodes := store.claimCodes.update
      (fun code => code.id = claimCodeId && code.state.status = .available)
      (fun code => { code with state := .expired })
      (fun code chosen => keys_of_available (by simp_all) rfl) }

def revealClaimCode (environment : Environment) (moment : Moment) (claimCodeId : Id)
    (purchaserAccountId : Id) : Tx EntitlementsStore ClaimCodeRevealResult := do
  if isBlank claimCodeId ∨ isBlank purchaserAccountId then
    return .rejected .notFound
  let store <- get
  let some code := (store.claimCodes.lookup (.id claimCodeId)).filter
      (fun code => code.purchaserAccountId = purchaserAccountId)
    | return .rejected .notFound
  match code.state with
  | .claimed .. => return .rejected .alreadyClaimed
  | .revoked _ => return .rejected .revoked
  | .expired => return .rejected .expired
  | .available codeCiphertext =>
    if pastExpiry moment.now code then
      set (expireCode code.id store)
      return .rejected .expired
    let some key := deliveryKey environment | return .failed .deliveryKeyUnavailable
    match decryptClaimCode environment codeCiphertext key with
    | .ok plaintext => return .available plaintext
    | .error _ => return .failed .invalidCiphertext

/-- A reveal writes at most the expiry of an available code. -/
theorem revealClaimCode_commits {purchaserAccountId : Id} {result : ClaimCodeRevealResult}
    (commits : (revealClaimCode environment moment claimCodeId purchaserAccountId).Commits before
      result after) :
    after = before ∨ Exists fun codeId => after = expireCode codeId before := by
  unfold revealClaimCode at commits
  have answered : forall {value : ClaimCodeRevealResult},
      (pure value : Tx EntitlementsStore ClaimCodeRevealResult).Commits before result after ->
      after = before ∨ Exists fun codeId => after = expireCode codeId before :=
    fun returned => Or.inl (Transaction.commits_pure.mp returned).2.symm
  rcases Transaction.commits_ite.mp commits with ⟨_, commits⟩ | ⟨_, commits⟩
  · exact answered commits
  rw [Transaction.commits_get_bind] at commits
  split at commits
  case h_2 => exact answered commits
  case h_1 code found =>
    split at commits
    case h_1 => exact answered commits
    case h_2 => exact answered commits
    case h_3 => exact answered commits
    case h_4 codeCiphertext available =>
      rcases Transaction.commits_ite.mp commits with ⟨_, commits⟩ | ⟨_, commits⟩
      · simp only [Transaction.commits_bind, Transaction.commits_set, Transaction.commits_pure] at commits
        rcases commits with ⟨_, _, rfl, _, rfl⟩
        exact Or.inr ⟨code.id, rfl⟩
      · split at commits
        case h_2 => exact answered commits
        case h_1 =>
          split at commits
          case h_1 => exact answered commits
          case h_2 => exact answered commits

/-- A reveal that returns a text has opened the ciphertext of a code that is
available and current, for its purchaser, and has written nothing. -/
theorem revealClaimCode_available {purchaserAccountId : Id} {plaintext : String}
    (commits : (revealClaimCode environment moment claimCodeId purchaserAccountId).Commits before
      (.available plaintext) after) :
    after = before ∧ Exists fun code => Exists fun codeCiphertext => Exists fun key =>
      code ∈ before.claimCodes ∧ code.id = claimCodeId ∧
      code.purchaserAccountId = purchaserAccountId ∧ code.state = .available codeCiphertext ∧
      pastExpiry moment.now code = false ∧ deliveryKey environment = some key ∧
      decryptClaimCode environment codeCiphertext key = .ok plaintext := by
  have notRejected : forall {code : ClaimCodeRevealRejection},
      ¬ (pure (.rejected code) : Tx EntitlementsStore ClaimCodeRevealResult).Commits before
        (.available plaintext) after := by
    intro code returned
    cases (Transaction.commits_pure.mp returned).1
  unfold revealClaimCode at commits
  rcases Transaction.commits_ite.mp commits with ⟨_, commits⟩ | ⟨_, commits⟩
  · exact absurd commits notRejected
  rw [Transaction.commits_get_bind] at commits
  split at commits
  case h_2 => exact absurd commits notRejected
  case h_1 code found =>
    rcases Option.filter_eq_some_iff.mp found with ⟨stored, ofPurchaser⟩
    split at commits
    case h_1 => exact absurd commits notRejected
    case h_2 => exact absurd commits notRejected
    case h_3 => exact absurd commits notRejected
    case h_4 codeCiphertext available =>
      rcases Transaction.commits_ite.mp commits with ⟨_, commits⟩ | ⟨current, commits⟩
      · simp only [Transaction.commits_bind, Transaction.commits_pure] at commits
        rcases commits with ⟨_, _, _, expired, _⟩
        cases expired
      · split at commits
        case h_2 => cases (Transaction.commits_pure.mp commits).1
        case h_1 key keyed =>
          split at commits
          case h_2 => cases (Transaction.commits_pure.mp commits).1
          case h_1 text decrypted =>
            rcases Transaction.commits_pure.mp commits with ⟨same, rfl⟩
            cases same
            refine ⟨rfl, code, codeCiphertext, key, before.claimCodes.lookup_mem stored, ?_, ?_,
              available, by simpa using current, keyed, decrypted⟩
            · simpa [Keyed.keys, eq_comm] using before.claimCodes.lookup_key stored
            · exact of_decide_eq_true ofPurchaser

/-! ## Consumption -/

structure ClaimCodeConsumeInput where
  code : String
  userId : Id
  accountId : Id
  deriving DecidableEq

inductive ClaimCodeConsumeRejection
  | invalidCode | alreadyClaimed | revoked | expired
  deriving DecidableEq

inductive ClaimCodeConsumeResult
  | claimed (entitlementId accountId : Id)
  | rejected (code : ClaimCodeConsumeRejection)
  deriving DecidableEq

/-- The grant of a claimed unit: the sealed grant of the code, extended by
who claimed it. -/
def claimGrantSnapshot (code : ClaimCode) (input : ClaimCodeConsumeInput) : Json :=
  let base := match code.grantSnapshot with
    | .object entries => entries
    | other => [("sourceGrant", other)]
  let claim := [("source", Json.string "claim-code"), ("claimCodeId", Json.string code.id),
    ("claimedByUserId", Json.string input.userId), ("claimedToAccountId", Json.string input.accountId)]
  .object (base.filter (fun entry => entry.1 ∉ claim.map Prod.fst) ++ claim)

def claimedEntitlement (moment : Moment) (code : ClaimCode) (input : ClaimCodeConsumeInput) :
    Entitlement where
  id := moment.draw (.entitlementId (.claim code.id))
  subjectId := input.accountId
  resourceId := code.resourceId
  sourceReference := .claim code.id
  state := .active
  quantity := 1
  scopeSnapshot := code.scopeSnapshot
  grantSnapshot := claimGrantSnapshot code input
  validFrom := code.validFrom
  validUntil := code.validUntil
  createdAt := moment.now

def markClaimed (moment : Moment) (claimCodeId : Id) (input : ClaimCodeConsumeInput)
    (store : EntitlementsStore) : Option EntitlementsStore := do
  let claimCodes <- store.claimCodes.amend
    (fun code => code.id = claimCodeId && code.state.status = .available)
    (fun code => { code with
      state := .claimed moment.now input.userId input.accountId
        (moment.draw (.entitlementId (.claim claimCodeId))) })
  return { store with claimCodes }

/-- Consumption of an available code: grant the right, fulfil the order item
for the redeeming account, mark the code claimed. -/
def consumeAvailable (package : LicensingPackage) (environment : Environment) (moment : Moment)
    (input : ClaimCodeConsumeInput) (code : ClaimCode) : Tx Db ClaimCodeConsumeResult := do
  let db <- get
  let entitlements <- Transaction.orFail .uniqueViolation
    (db.entitlements.entitlements.insert (claimedEntitlement moment code input))
  set { db with entitlements := { db.entitlements with entitlements } }
  let _ <- (fulfillOrderLicensing package environment db.commerce moment code.orderId ⟨none, none⟩
    ⟨some input.accountId, some code.orderItemId⟩).within Db.licensingPart
  let fulfilled <- get
  let claimed <- Transaction.orFail .uniqueViolation
    (markClaimed moment code.id input fulfilled.entitlements)
  set { fulfilled with entitlements := claimed }
  return .claimed (moment.draw (.entitlementId (.claim code.id))) input.accountId

def consumeClaimCode (package : LicensingPackage) (environment : Environment) (moment : Moment)
    (input : ClaimCodeConsumeInput) : Tx Db ClaimCodeConsumeResult := do
  if isBlank input.userId ∨ isBlank input.accountId ∨ validClaimCode input.code = false then
    return .rejected .invalidCode
  let codeHash <- liftM (hashClaimCode environment input.code)
  let db <- get
  let some code := db.entitlements.claimCodes.lookup (.codeHash codeHash)
    | return .rejected .invalidCode
  match code.state with
  | .claimed .. => return .rejected .alreadyClaimed
  | .revoked _ => return .rejected .revoked
  | .expired => return .rejected .expired
  | .available _ =>
    if pastExpiry moment.now code then
      set { db with entitlements := expireCode code.id db.entitlements }
      return .rejected .expired
    consumeAvailable package environment moment input code

/-- The three ways a consumption can commit. -/
inductive ConsumeCommit (package : LicensingPackage) (environment : Environment) (moment : Moment)
    (input : ClaimCodeConsumeInput) (before : Db) : ClaimCodeConsumeResult -> Db -> Prop
  | rejected (code : ClaimCodeConsumeRejection) :
    ConsumeCommit package environment moment input before (.rejected code) before
  | expired (claimCodeId : Id) :
    ConsumeCommit package environment moment input before (.rejected .expired)
      { before with entitlements := expireCode claimCodeId before.entitlements }
  | claimed (code : ClaimCode) (codeHash : String)
    (hashed : hashClaimCode environment input.code = .ok codeHash)
    (found : before.entitlements.claimCodes.lookup (.codeHash codeHash) = some code)
    (codeCiphertext : String) (available : code.state = .available codeCiphertext)
    (current : pastExpiry moment.now code = false)
    (entitlements : Table Entitlement)
    (inserted : before.entitlements.entitlements.insert (claimedEntitlement moment code input) =
      some entitlements)
    (requests : List RenewalLeaseRequest) (licensing : LicensingStore)
    (fulfilled : (fulfillOrderLicensing package environment before.commerce moment code.orderId
      ⟨none, none⟩ ⟨some input.accountId, some code.orderItemId⟩).Commits before.licensing requests
        licensing)
    (claimed : EntitlementsStore)
    (marked : markClaimed moment code.id input { before.entitlements with entitlements } =
      some claimed) :
    ConsumeCommit package environment moment input before
      (.claimed (moment.draw (.entitlementId (.claim code.id))) input.accountId)
      { before with entitlements := claimed, licensing }

theorem consumeClaimCode_commits {package : LicensingPackage} {input : ClaimCodeConsumeInput}
    {before after : Db} {result : ClaimCodeConsumeResult}
    (commits : (consumeClaimCode package environment moment input).Commits before result after) :
    ConsumeCommit package environment moment input before result after := by
  have rejects : forall {code : ClaimCodeConsumeRejection},
      (pure (.rejected code) : Tx Db ClaimCodeConsumeResult).Commits before result after ->
      ConsumeCommit package environment moment input before result after := by
    intro code returned
    rcases Transaction.commits_pure.mp returned with ⟨rfl, rfl⟩
    exact .rejected code
  unfold consumeClaimCode at commits
  rcases Transaction.commits_ite.mp commits with ⟨_, commits⟩ | ⟨_, commits⟩
  · exact rejects commits
  simp only [Transaction.commits_bind, Transaction.commits_get, Transaction.commits_liftM] at commits
  rcases commits with ⟨codeHash, _, ⟨hashed, rfl⟩, _, _, ⟨rfl, rfl⟩, commits⟩
  split at commits
  case h_2 => exact rejects commits
  case h_1 code found =>
    split at commits
    case h_1 => exact rejects commits
    case h_2 => exact rejects commits
    case h_3 => exact rejects commits
    case h_4 codeCiphertext available =>
      rcases Transaction.commits_ite.mp commits with ⟨_, commits⟩ | ⟨current, commits⟩
      · simp only [Transaction.commits_bind, Transaction.commits_set, Transaction.commits_pure] at commits
        rcases commits with ⟨_, _, rfl, rfl, rfl⟩
        exact .expired code.id
      · unfold consumeAvailable at commits
        simp only [Transaction.commits_bind, Transaction.commits_get, Transaction.commits_orFail,
          Transaction.commits_set, Transaction.commits_within, Transaction.commits_pure] at commits
        rcases commits with ⟨_, _, ⟨rfl, rfl⟩, entitlements, _, ⟨inserted, rfl⟩, _, _, rfl, requests,
          _, ⟨licensing, fulfilled, rfl⟩, _, _, ⟨rfl, rfl⟩, claimed, _, ⟨marked, rfl⟩, _, _, rfl, rfl, rfl⟩
        exact .claimed code codeHash hashed found codeCiphertext available (by simpa using current)
          entitlements inserted requests licensing fulfilled claimed marked

end Entitlements
end DigitalSolutions
