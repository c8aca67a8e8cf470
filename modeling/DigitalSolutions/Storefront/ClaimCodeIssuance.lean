import DigitalSolutions.Storefront.Reference

namespace DigitalSolutions
namespace Storefront

open Foundation Persistence Platform Entitlements Licensing Payments

/-!
# Issuing claim codes again

The source of a batch of codes is the order item.  A request for an item that
has codes is compared with them, and the comparison reads the units, the order,
the purchaser and the catalogue columns.  The sealed snapshots and the three
times are written by the first request and never compared, so a later request
that differs in nothing else is answered as a replay.
-/

/-! ## What a request for codes commits -/

/-- The request for which a code was issued, read back from its columns. -/
def issueRequestOf (units : Nat) (code : ClaimCode) : ClaimCodeIssueInput where
  orderId := code.orderId
  orderItemId := code.orderItemId
  purchaserAccountId := code.purchaserAccountId
  productId := code.productId
  editionId := code.editionId
  purchasePlanId := code.purchasePlanId
  resourceId := code.resourceId
  units
  scopeSnapshot := code.scopeSnapshot
  grantSnapshot := code.grantSnapshot
  validFrom := code.validFrom
  validUntil := code.validUntil
  expiresAt := code.expiresAt

section Issuing

variable {environment : Environment} {moment : Moment} {key : String} {input : ClaimCodeIssueInput}
variable {before after store : EntitlementsStore}

theorem issueRequestOf_issued {code : ClaimCode} (issued : IssuedUnit environment moment input code) :
    issueRequestOf input.units code = input := by
  rcases issued.made with ⟨_, _, _, made⟩
  rw [made]
  rfl

/-- The loop returns the ids of the codes it appends. -/
theorem issueUnits_ids (units : List Nat) {claimCodeIds : List Id}
    (commits : (issueUnits environment moment key input units).Commits before claimCodeIds after) :
    after.claimCodes.rows.map ClaimCode.id = before.claimCodes.rows.map ClaimCode.id ++ claimCodeIds := by
  induction units generalizing before claimCodeIds with
  | nil =>
    rcases Transaction.commits_pure.mp commits with ⟨rfl, rfl⟩
    exact (List.append_nil _).symm
  | cons unitIndex rest inductionHypothesis =>
    rw [issueUnits] at commits
    simp only [Transaction.commits_bind, Transaction.commits_pure] at commits
    rcases commits with ⟨claimCodeId, middle, first, later, _, remaining, rfl, rfl⟩
    have appended : middle.claimCodes.rows.map ClaimCode.id =
        before.claimCodes.rows.map ClaimCode.id ++ [claimCodeId] := by
      unfold issueUnit at first
      simp only [Transaction.commits_bind, Transaction.commits_get, Transaction.commits_liftM,
        Transaction.commits_orFail, Transaction.commits_set, Transaction.commits_pure] at first
      rcases first with ⟨_, _, ⟨_, rfl⟩, _, _, ⟨_, rfl⟩, _, _, ⟨rfl, rfl⟩, claimCodes, _,
        ⟨inserted, rfl⟩, _, _, rfl, rfl, rfl⟩
      rw [Table.rows_insert inserted, List.map_append]
      rfl
    rw [inductionHypothesis remaining, appended, List.append_assoc]
    rfl

/-- The ids a caller is given for codes that are new. -/
def issuedIds : ClaimCodeIssueResult -> Option (List Id)
  | .issued _ claimCodeIds => some claimCodeIds
  | .existing _ _ => none
  | .rejected _ => none
  | .failed => none

/-- Every answer with what it leaves behind. -/
inductive IssueCommit (environment : Environment) (moment : Moment) (input : ClaimCodeIssueInput)
    (before : EntitlementsStore) : ClaimCodeIssueResult -> EntitlementsStore -> Prop
  | unchanged (result : ClaimCodeIssueResult) (notIssued : issuedIds result = none) :
    IssueCommit environment moment input before result before
  | issued (after : EntitlementsStore) (claimCodeIds : List Id)
    (valid : validIssueInput input = true) (deliverable : (deliveryKey environment).isSome = true)
    (fresh : codesOfItem before input.orderItemId = []) (codes : List ClaimCode)
    (appended : after.claimCodes.rows = before.claimCodes.rows ++ codes)
    (units : codes.map ClaimCode.unitIndex = List.range input.units)
    (codeIds : codes.map ClaimCode.id = claimCodeIds)
    (each : forall code, code ∈ codes -> IssuedUnit environment moment input code) :
    IssueCommit environment moment input before (.issued claimCodeIds.length claimCodeIds) after

theorem issueClaimCodes_commit {result : ClaimCodeIssueResult}
    (commits : (issueClaimCodes environment moment input).Commits before result after) :
    IssueCommit environment moment input before result after := by
  have answered : forall {value : ClaimCodeIssueResult},
      issuedIds value = none ->
      (pure value : Tx EntitlementsStore ClaimCodeIssueResult).Commits before result after ->
      IssueCommit environment moment input before result after := by
    intro value notIssued returned
    rcases Transaction.commits_pure.mp returned with ⟨rfl, rfl⟩
    exact .unchanged value notIssued
  unfold issueClaimCodes at commits
  rcases Transaction.commits_ite.mp commits with ⟨_, commits⟩ | ⟨valid, commits⟩
  · exact answered rfl commits
  split at commits
  case h_2 => exact answered rfl commits
  case h_1 key deliverable =>
    rw [Transaction.commits_get_bind] at commits
    rcases Transaction.commits_ite.mp commits with ⟨_, commits⟩ | ⟨free, commits⟩
    · rcases Transaction.commits_ite.mp commits with ⟨_, commits⟩ | ⟨_, commits⟩
      · exact answered rfl commits
      · exact answered rfl commits
    · simp only [Transaction.commits_bind, Transaction.commits_pure] at commits
      rcases commits with ⟨claimCodeIds, _, issues, rfl, rfl⟩
      rcases issueUnits_commits _ issues with ⟨_, codes, appended, units, each⟩
      have codeIds : codes.map ClaimCode.id = claimCodeIds := by
        have counted := issueUnits_ids _ issues
        rw [appended, List.map_append] at counted
        exact List.append_cancel_left counted
      exact .issued _ claimCodeIds (by simpa using valid) (by rw [deliverable]; rfl)
        (by simpa using free) codes appended units codeIds each

/-- A valid request for an item that has codes is answered by comparing it
with them. -/
theorem issueClaimCodes_again (valid : validIssueInput input = true)
    (deliverable : (deliveryKey environment).isSome = true)
    (taken : codesOfItem store input.orderItemId ≠ []) :
    (issueClaimCodes environment moment input).Commits store
      (if sameSource input (codesOfItem store input.orderItemId) = true then
        .existing (codesOfItem store input.orderItemId).length
          ((codesOfItem store input.orderItemId).map ClaimCode.id)
      else .rejected .sourceConflict) store := by
  rcases Option.isSome_iff_exists.mp deliverable with ⟨key, keyed⟩
  have nonempty : (codesOfItem store input.orderItemId).isEmpty = false := by simpa using taken
  unfold issueClaimCodes
  rw [Transaction.commits_ite]
  refine Or.inr ⟨by simp [valid], ?_⟩
  simp only [keyed, Transaction.commits_bind, Transaction.commits_get]
  refine ⟨store, store, ⟨rfl, rfl⟩, ?_⟩
  rw [Transaction.commits_ite]
  refine Or.inl ⟨nonempty, ?_⟩
  by_cases same : sameSource input (codesOfItem store input.orderItemId) = true
  · simp only [same, Bool.true_eq_false, if_false, if_true, Transaction.commits_pure, and_self]
  · simp only [same, Bool.false_eq_true, if_false, if_true, Transaction.commits_pure, and_self]

theorem issueClaimCodes_invalid (invalid : validIssueInput input = false) :
    (issueClaimCodes environment moment input).Commits store (.rejected .invalidInput) store := by
  unfold issueClaimCodes
  rw [Transaction.commits_ite]
  exact Or.inl ⟨invalid, Transaction.commits_pure.mpr ⟨rfl, rfl⟩⟩

end Issuing

/-! ## Histories -/

/-- The database with the requests that were answered by new codes, and the
ids these answers named. -/
structure IssuingDesk where
  db : Db
  batches : List (ClaimCodeIssueInput × List Id)
  deriving DecidableEq

namespace IssuingDesk

def dbPart : Transaction.Part IssuingDesk Db where
  get := IssuingDesk.db
  set db desk := { desk with db }

/-- No code has been issued yet; the other tables hold anything. -/
def opening (db : Db) : IssuingDesk :=
  ⟨{ db with entitlements := { db.entitlements with claimCodes := ∅ } }, []⟩

end IssuingDesk

/-- The transactions that write claim codes: issuing them, revealing one,
redeeming one, and the statement of a refund that revokes those of an order. -/
inductive CodeAction
  | issue (moment : Moment) (input : ClaimCodeIssueInput)
  | reveal (moment : Moment) (claimCodeId purchaserAccountId : Id)
  | consume (moment : Moment) (input : ClaimCodeConsumeInput)
  | revoke (orderId : Id) (revokedAt : Time)

def performCode (package : LicensingPackage) (environment : Environment) :
    CodeAction -> Tx IssuingDesk Unit
  | .issue moment input => do
    let result <- ((issueClaimCodes environment moment input).within Db.entitlementsPart).within
      IssuingDesk.dbPart
    modify (fun desk => { desk with
      batches := (issuedIds result).toList.map (fun claimCodeIds => (input, claimCodeIds)) ++ desk.batches })
  | .reveal moment claimCodeId purchaserAccountId => do
    let _ <- ((revealClaimCode environment moment claimCodeId purchaserAccountId).within
      Db.entitlementsPart).within IssuingDesk.dbPart
  | .consume moment input => do
    let _ <- (consumeClaimCode package environment moment input).within IssuingDesk.dbPart
  | .revoke orderId revokedAt => modify (fun desk => { desk with
      db := { desk.db with entitlements := revokeCodes orderId revokedAt desk.db.entitlements } })

def issuingDesk (package : LicensingPackage) (environment : Environment) :
    Machine IssuingDesk CodeAction TransactionError :=
  .ofTransactions (performCode package environment)

/-! ## The terms of the codes stay -/

section Terms

variable {before after store : EntitlementsStore}

/-- The codes of an item, without their states, are a matter of the terms of
the stored codes. -/
theorem map_codesOfItem (orderItemId : Id) :
    (codesOfItem store orderItemId).map codeTerms =
      ((store.claimCodes.rows.map codeTerms).filter (fun code => code.orderItemId = orderItemId)).insertionSort
        (fun left right => left.unitIndex ≤ right.unitIndex) := by
  unfold codesOfItem Table.select
  have sorted := @List.map_insertionSort ClaimCode ClaimCode
    (fun left right => left.unitIndex ≤ right.unitIndex)
    (fun left right => left.unitIndex ≤ right.unitIndex) _ _ codeTerms
    (store.claimCodes.rows.filter (fun code => code.orderItemId = orderItemId))
    (fun _ _ _ _ => Iff.rfl)
  rw [sorted, List.filter_map]
  rfl

theorem codesOfItem_terms (same : Table.SameColumn codeTerms before.claimCodes after.claimCodes)
    (orderItemId : Id) :
    (codesOfItem after orderItemId).map codeTerms = (codesOfItem before orderItemId).map codeTerms := by
  rw [map_codesOfItem, map_codesOfItem, same]

theorem sameTerms_expireCode (claimCodeId : Id) (store : EntitlementsStore) :
    Table.SameColumn codeTerms store.claimCodes (expireCode claimCodeId store).claimCodes :=
  Table.sameColumn_update rfl (fun _ => rfl)

theorem sameTerms_revokeCodes (orderId : Id) (revokedAt : Time) (store : EntitlementsStore) :
    Table.SameColumn codeTerms store.claimCodes (revokeCodes orderId revokedAt store).claimCodes :=
  Table.sameColumn_update rfl (fun _ => rfl)

theorem sameTerms_revealClaimCode {environment : Environment} {moment : Moment}
    {claimCodeId purchaserAccountId : Id} {result : ClaimCodeRevealResult}
    (commits : (revealClaimCode environment moment claimCodeId purchaserAccountId).Commits before
      result after) :
    Table.SameColumn codeTerms before.claimCodes after.claimCodes := by
  rcases revealClaimCode_commits commits with rfl | ⟨codeId, rfl⟩
  · exact Table.SameColumn.refl _ _
  · exact sameTerms_expireCode codeId before

theorem sameTerms_consumeClaimCode {package : LicensingPackage} {environment : Environment}
    {moment : Moment} {input : ClaimCodeConsumeInput} {before after : Db}
    {result : ClaimCodeConsumeResult}
    (commits : (consumeClaimCode package environment moment input).Commits before result after) :
    Table.SameColumn codeTerms before.entitlements.claimCodes after.entitlements.claimCodes := by
  cases consumeClaimCode_commits commits with
  | rejected code => exact Table.SameColumn.refl _ _
  | expired claimCodeId => exact sameTerms_expireCode claimCodeId before.entitlements
  | claimed code codeHash _ _ _ _ _ _ _ _ _ _ claimed marked =>
    unfold markClaimed at marked
    rcases Option.bind_eq_some_iff.mp marked with ⟨claimCodes, amended, stored⟩
    cases stored
    exact Table.sameColumn_update (Table.rows_amend _ amended) (fun _ => rfl)

end Terms

/-! ## Batches -/

/-- An item has the codes of one answered request: one for each unit, under
the ids of the answer and with the terms of the request. -/
structure Batch (environment : Environment) (store : EntitlementsStore) (first : ClaimCodeIssueInput)
    (claimCodeIds : List Id) : Prop where
  valid : validIssueInput first = true
  deliverable : (deliveryKey environment).isSome = true
  units : (codesOfItem store first.orderItemId).map ClaimCode.unitIndex = List.range first.units
  codeIds : (codesOfItem store first.orderItemId).map ClaimCode.id = claimCodeIds
  terms : forall code, code ∈ codesOfItem store first.orderItemId -> issueRequestOf first.units code = first

namespace Batch

variable {environment : Environment} {before after store : EntitlementsStore}
variable {first : ClaimCodeIssueInput} {claimCodeIds : List Id}

theorem length (batch : Batch environment store first claimCodeIds) :
    (codesOfItem store first.orderItemId).length = first.units := by
  have counted := congrArg List.length batch.units
  rwa [List.length_map, List.length_range] at counted

theorem positive (batch : Batch environment store first claimCodeIds) : 0 < first.units := by
  have valid := batch.valid
  simp only [validIssueInput, Bool.and_eq_true, decide_eq_true_eq] at valid
  exact valid.1.1.1.2

theorem taken (batch : Batch environment store first claimCodeIds) :
    codesOfItem store first.orderItemId ≠ [] := by
  intro empty
  have counted := batch.length
  have positive := batch.positive
  rw [empty, List.length_nil] at counted
  omega

/-- Whatever leaves the codes of the item as they are, up to their states,
leaves the batch. -/
theorem kept (batch : Batch environment before first claimCodeIds)
    (same : (codesOfItem after first.orderItemId).map codeTerms =
      (codesOfItem before first.orderItemId).map codeTerms) :
    Batch environment after first claimCodeIds := by
  have shown : forall {Shown : Type} (column : ClaimCode -> Shown),
      (forall code, column (codeTerms code) = column code) ->
      (codesOfItem after first.orderItemId).map column =
        (codesOfItem before first.orderItemId).map column := by
    intro Shown column visible
    have mapped := congrArg (List.map column) same
    rw [List.map_map, List.map_map] at mapped
    have through : column ∘ codeTerms = column := funext visible
    rwa [through] at mapped
  refine ⟨batch.valid, batch.deliverable, ?_, ?_, ?_⟩
  · rw [shown ClaimCode.unitIndex (fun _ => rfl)]
    exact batch.units
  · rw [shown ClaimCode.id (fun _ => rfl)]
    exact batch.codeIds
  · intro code member
    have listed : issueRequestOf first.units code ∈
        (codesOfItem after first.orderItemId).map (issueRequestOf first.units) := List.mem_map_of_mem member
    rw [shown (issueRequestOf first.units) (fun _ => rfl)] at listed
    rcases List.mem_map.mp listed with ⟨old, oldMember, sameRequest⟩
    rw [← sameRequest]
    exact batch.terms old oldMember

end Batch

/-- Codes that are appended for one item are not seen by the others. -/
theorem codesOfItem_appended_of_ne {before after : EntitlementsStore} {codes : List ClaimCode}
    {orderItemId other : Id} (appended : after.claimCodes.rows = before.claimCodes.rows ++ codes)
    (ofItem : forall code, code ∈ codes -> code.orderItemId = orderItemId) (apart : other ≠ orderItemId) :
    codesOfItem after other = codesOfItem before other := by
  have unseen : codes.filter (fun code => code.orderItemId = other) = [] := by
    apply List.filter_eq_nil_iff.mpr
    intro code member isOther
    exact apart ((of_decide_eq_true isOther).symm.trans (ofItem code member))
  unfold codesOfItem Table.select
  rw [appended, List.filter_append, unseen, List.append_nil]

/-- Codes that are appended in the order of their units for an item without
codes are the codes of the item. -/
theorem codesOfItem_appended {before after : EntitlementsStore} {codes : List ClaimCode}
    {orderItemId : Id} {units : Nat}
    (appended : after.claimCodes.rows = before.claimCodes.rows ++ codes)
    (ofItem : forall code, code ∈ codes -> code.orderItemId = orderItemId)
    (ordered : codes.map ClaimCode.unitIndex = List.range units)
    (fresh : codesOfItem before orderItemId = []) : codesOfItem after orderItemId = codes := by
  have none : before.claimCodes.rows.filter (fun code => code.orderItemId = orderItemId) = [] := by
    apply List.eq_nil_iff_forall_not_mem.mpr
    intro code member
    have listed : code ∈ codesOfItem before orderItemId := List.mem_insertionSort _ |>.mpr member
    rw [fresh] at listed
    exact List.not_mem_nil listed
  have all : codes.filter (fun code => code.orderItemId = orderItemId) = codes :=
    List.filter_eq_self.mpr (fun code member => decide_eq_true (ofItem code member))
  have sorted : codes.Pairwise (fun left right => left.unitIndex ≤ right.unitIndex) := by
    have ascending : (codes.map ClaimCode.unitIndex).Pairwise (fun left right => left ≤ right) := by
      rw [ordered]
      exact List.pairwise_le_range
    exact List.pairwise_map.mp ascending
  unfold codesOfItem Table.select
  rw [appended, List.filter_append, none, List.nil_append, all]
  exact List.Pairwise.insertionSort_eq sorted

/-- Every answered request has its batch, and every code is of one. -/
structure Accounted (environment : Environment) (desk : IssuingDesk) : Prop where
  batches : forall first claimCodeIds, (first, claimCodeIds) ∈ desk.batches ->
    Batch environment desk.db.entitlements first claimCodeIds
  origins : forall code, code ∈ desk.db.entitlements.claimCodes ->
    Exists fun first => Exists fun claimCodeIds =>
      (first, claimCodeIds) ∈ desk.batches ∧ first.orderItemId = code.orderItemId

namespace Accounted

variable {environment : Environment} {desk : IssuingDesk}

theorem opening (db : Db) : Accounted environment (IssuingDesk.opening db) :=
  ⟨fun _ _ listed => absurd listed List.not_mem_nil, fun _ member => absurd member List.not_mem_nil⟩

/-- A transaction that touches the states of the codes only. -/
theorem sameTerms (accounted : Accounted environment desk) {db : Db}
    (same : Table.SameColumn codeTerms desk.db.entitlements.claimCodes db.entitlements.claimCodes) :
    Accounted environment { desk with db } := by
  constructor
  · intro first claimCodeIds listed
    exact (accounted.batches first claimCodeIds listed).kept (codesOfItem_terms same _)
  · intro code member
    rcases same.before member with ⟨old, oldMember, sameCode⟩
    have sameItem : old.orderItemId = code.orderItemId := Table.eq_of_mask sameCode (fun _ => rfl)
    rcases accounted.origins old oldMember with ⟨first, claimCodeIds, listed, ofItem⟩
    exact ⟨first, claimCodeIds, listed, ofItem.trans sameItem⟩

theorem issue (accounted : Accounted environment desk) {moment : Moment} {input : ClaimCodeIssueInput}
    {result : ClaimCodeIssueResult} {entitlements : EntitlementsStore}
    (commit : IssueCommit environment moment input desk.db.entitlements result entitlements) :
    Accounted environment
      { db := { desk.db with entitlements }
        batches := (issuedIds result).toList.map (fun claimCodeIds => (input, claimCodeIds)) ++
          desk.batches } := by
  cases commit with
  | unchanged result notIssued =>
    rw [notIssued]
    exact accounted
  | issued after claimCodeIds valid deliverable fresh codes appended units codeIds each =>
    have ofItem : forall code, code ∈ codes -> code.orderItemId = input.orderItemId :=
      fun code member => (each code member).orderItemId
    have issuedCodes := codesOfItem_appended appended ofItem units fresh
    constructor
    · intro first others listed
      rcases List.mem_cons.mp listed with new | old
      · cases new
        refine ⟨valid, deliverable, ?_, ?_, ?_⟩
        · rw [issuedCodes]
          exact units
        · rw [issuedCodes]
          exact codeIds
        · intro code member
          rw [issuedCodes] at member
          exact issueRequestOf_issued (each code member)
      · have batch := accounted.batches first others old
        -- the item of an earlier batch has codes, so it is another item
        have apart : first.orderItemId ≠ input.orderItemId :=
          fun same => batch.taken (same ▸ fresh)
        exact batch.kept (by rw [codesOfItem_appended_of_ne appended ofItem apart])
    · intro code member
      rw [← Table.mem_rows, appended] at member
      rcases List.mem_append.mp member with old | new
      · rcases accounted.origins code old with ⟨first, others, listed, same⟩
        exact ⟨first, others, List.mem_cons_of_mem _ listed, same⟩
      · exact ⟨input, claimCodeIds, List.mem_cons_self, (ofItem code new).symm⟩

theorem step {package : LicensingPackage} {action : CodeAction} {next : IssuingDesk}
    (accounted : Accounted environment desk)
    (steps : (issuingDesk package environment).step desk action = .ok next) :
    Accounted environment next := by
  have commits := Machine.ofTransactions_step.mp steps
  cases action with
  | issue moment input =>
    simp only [performCode, Transaction.commits_bind, Transaction.commits_within,
      Transaction.commits_modify] at commits
    rcases commits with ⟨result, _, ⟨_, ⟨entitlements, issues, rfl⟩, rfl⟩, rfl⟩
    exact accounted.issue (issueClaimCodes_commit issues)
  | reveal moment claimCodeId purchaserAccountId =>
    simp only [performCode, Transaction.commits_bind, Transaction.commits_within,
      Transaction.commits_pure] at commits
    rcases commits with ⟨_, _, ⟨_, ⟨entitlements, reveals, rfl⟩, rfl⟩, _, rfl⟩
    exact accounted.sameTerms (sameTerms_revealClaimCode reveals)
  | consume moment input =>
    simp only [performCode, Transaction.commits_bind, Transaction.commits_within,
      Transaction.commits_pure] at commits
    rcases commits with ⟨_, _, ⟨_, consumes, rfl⟩, _, rfl⟩
    exact accounted.sameTerms (sameTerms_consumeClaimCode consumes)
  | revoke orderId revokedAt =>
    simp only [performCode, Transaction.commits_modify] at commits
    rcases commits with ⟨_, rfl⟩
    exact accounted.sameTerms (sameTerms_revokeCodes orderId revokedAt desk.db.entitlements)

theorem run (package : LicensingPackage) (environment : Environment) (db : Db)
    (actions : List CodeAction) :
    Accounted environment ((issuingDesk package environment).run (IssuingDesk.opening db) actions) :=
  (issuingDesk package environment).run_invariant (fun _ _ _ accounted steps => accounted.step steps)
    (Accounted.opening db) actions

end Accounted

/-! ## Replays -/

/-- The requests agree on all that a stored code is compared on. -/
def SourceAgrees (first request : ClaimCodeIssueInput) : Prop :=
  request.units = first.units ∧ request.orderId = first.orderId ∧
  request.purchaserAccountId = first.purchaserAccountId ∧ request.productId = first.productId ∧
  request.editionId = first.editionId ∧ request.purchasePlanId = first.purchasePlanId ∧
  request.resourceId = first.resourceId

instance (first request : ClaimCodeIssueInput) : Decidable (SourceAgrees first request) := by
  unfold SourceAgrees
  infer_instance

section Replays

variable {environment : Environment} {store : EntitlementsStore} {moment : Moment}
variable {first request : ClaimCodeIssueInput} {claimCodeIds : List Id}

/-- A code of the batch sits at the place of its unit and shows the columns of
the request. -/
theorem Batch.entry (batch : Batch environment store first claimCodeIds) {code : ClaimCode} {index : Nat}
    (listed : (code, index) ∈ (codesOfItem store first.orderItemId).zipIdx) :
    code.unitIndex = index ∧ issueRequestOf first.units code = first := by
  have placed := List.mk_mem_zipIdx_iff_getElem?.mp listed
  have numbered := congrArg (fun units : List Nat => units[index]?) batch.units
  simp only [List.getElem?_map, placed, Option.map_some] at numbered
  refine ⟨?_, batch.terms code (List.mem_of_getElem? placed)⟩
  rcases List.getElem?_eq_some_iff.mp numbered.symm with ⟨within, same⟩
  rw [List.getElem_range] at same
  exact same.symm

theorem sameSource_iff (batch : Batch environment store first claimCodeIds) :
    sameSource request (codesOfItem store first.orderItemId) = true ↔ SourceAgrees first request := by
  have entries : forall code index, (code, index) ∈ (codesOfItem store first.orderItemId).zipIdx ->
      (((code.orderId = request.orderId && code.unitIndex = index
        && code.purchaserAccountId = request.purchaserAccountId && code.productId = request.productId
        && code.editionId = request.editionId && code.purchasePlanId = request.purchasePlanId
        && code.resourceId = request.resourceId) = true) ↔
        (SourceAgrees first { request with units := first.units })) := by
    intro code index listed
    rcases batch.entry listed with ⟨placed, terms⟩
    have order : code.orderId = first.orderId := congrArg ClaimCodeIssueInput.orderId terms
    have purchaser : code.purchaserAccountId = first.purchaserAccountId :=
      congrArg ClaimCodeIssueInput.purchaserAccountId terms
    have product : code.productId = first.productId := congrArg ClaimCodeIssueInput.productId terms
    have edition : code.editionId = first.editionId := congrArg ClaimCodeIssueInput.editionId terms
    have plan : code.purchasePlanId = first.purchasePlanId :=
      congrArg ClaimCodeIssueInput.purchasePlanId terms
    have resource : code.resourceId = first.resourceId := congrArg ClaimCodeIssueInput.resourceId terms
    simp only [SourceAgrees, Bool.and_eq_true, decide_eq_true_eq, order, purchaser, product, edition, plan,
      resource, placed, and_true, true_and, and_assoc]
    simp only [eq_comm]
  unfold sameSource
  rw [Bool.and_eq_true, decide_eq_true_iff, batch.length, List.all_eq_true]
  constructor
  · rintro ⟨units, agree⟩
    -- a batch has a first code to compare with
    have present : 0 < (codesOfItem store first.orderItemId).length := by
      rw [batch.length]
      exact batch.positive
    have listed : ((codesOfItem store first.orderItemId)[0], 0) ∈
        (codesOfItem store first.orderItemId).zipIdx :=
      List.mk_mem_zipIdx_iff_getElem?.mpr (List.getElem?_eq_getElem present)
    have entry := agree _ listed
    exact ⟨units.symm, ((entries _ _ listed).mp entry).2⟩
  · rintro ⟨units, agree⟩
    refine ⟨units.symm, ?_⟩
    rintro ⟨code, index⟩ listed
    exact (entries code index listed).mpr ⟨rfl, agree⟩

/-- The answer to a request for an item whose codes were issued for another
request, in the words of the source: the request that made them is repeated,
another one is refused. -/
def Replayed (environment : Environment) (store : EntitlementsStore) (first : ClaimCodeIssueInput)
    (claimCodeIds : List Id) (moment : Moment) (request : ClaimCodeIssueInput) : Prop :=
  (issueClaimCodes environment moment request).Commits store
    (if request = first then .existing first.units claimCodeIds
    else if validIssueInput request = true then .rejected .sourceConflict
    else .rejected .invalidInput) store

/-- The requests whose answer tells them from the first one, if they are not
equal to it. -/
def ToldApart (first request : ClaimCodeIssueInput) : Prop :=
  request = first ∨ validIssueInput request = false ∨ ¬ SourceAgrees first request

/-- The answer as the code gives it. -/
theorem Batch.answer (batch : Batch environment store first claimCodeIds)
    (sameItem : request.orderItemId = first.orderItemId) :
    (issueClaimCodes environment moment request).Commits store
      (if validIssueInput request = true then
        if SourceAgrees first request then .existing first.units claimCodeIds
        else .rejected .sourceConflict
      else .rejected .invalidInput) store := by
  by_cases valid : validIssueInput request = true
  · have answered := @issueClaimCodes_again environment moment request store valid batch.deliverable
      (sameItem ▸ batch.taken)
    rw [sameItem, batch.length, batch.codeIds] at answered
    simpa only [valid, if_true, sameSource_iff batch] using answered
  · rw [if_neg valid]
    exact issueClaimCodes_invalid (by simpa using valid)

theorem Batch.replayed_iff (batch : Batch environment store first claimCodeIds)
    (sameItem : request.orderItemId = first.orderItemId) :
    Replayed environment store first claimCodeIds moment request ↔ ToldApart first request := by
  have answer := @Batch.answer environment store moment first request claimCodeIds batch sameItem
  unfold Replayed ToldApart
  by_cases same : request = first
  · subst same
    have agrees : SourceAgrees request request := ⟨rfl, rfl, rfl, rfl, rfl, rfl, rfl⟩
    rw [if_pos batch.valid, if_pos agrees] at answer
    simp only [if_true, answer, true_or]
  by_cases valid : validIssueInput request = true
  · by_cases agrees : SourceAgrees first request
    · rw [if_pos valid, if_pos agrees] at answer
      simp only [same, valid, agrees, if_false, if_true, Bool.true_eq_false, not_true, or_self, iff_false]
      intro refused
      cases (answer.unique refused).1
    · rw [if_pos valid, if_neg agrees] at answer
      simp only [same, valid, agrees, if_false, if_true, answer, not_false_eq_true, or_true]
  · rw [if_neg valid] at answer
    have invalid : validIssueInput request = false := by simpa using valid
    simp only [same, invalid, Bool.false_eq_true, if_false, answer, true_or, or_true]

end Replays

/-- The codes of every item are those of one answered request, or there are
none, and no two codes are found by one hash. -/
structure CodesComplete (environment : Environment) (desk : IssuingDesk) : Prop where
  complete : forall orderItemId, codesOfItem desk.db.entitlements orderItemId = [] ∨
    Exists fun first => Exists fun claimCodeIds => (first, claimCodeIds) ∈ desk.batches ∧
      first.orderItemId = orderItemId ∧ Batch environment desk.db.entitlements first claimCodeIds
  hashes : forall left right, left ∈ desk.db.entitlements.claimCodes ->
    right ∈ desk.db.entitlements.claimCodes -> left.codeHash = right.codeHash -> left = right

theorem Accounted.codesComplete {environment : Environment} {desk : IssuingDesk}
    (accounted : Accounted environment desk) : CodesComplete environment desk := by
  constructor
  · intro orderItemId
    by_cases coded : Coded orderItemId desk.db.entitlements
    · rcases coded with ⟨code, member, ofItem⟩
      rcases accounted.origins code member with ⟨first, claimCodeIds, listed, same⟩
      exact Or.inr ⟨first, claimCodeIds, listed, same.trans ofItem,
        accounted.batches first claimCodeIds listed⟩
    · exact Or.inl (not_not.mp (fun taken => coded (coded_iff.mpr taken)))
  · intro left right leftMember rightMember same
    have leftKey : ClaimCode.Key.codeHash left.codeHash ∈ Keyed.keys left :=
      List.mem_cons_of_mem _ List.mem_cons_self
    have rightKey : ClaimCode.Key.codeHash left.codeHash ∈ Keyed.keys right := by
      rw [same]
      exact List.mem_cons_of_mem _ List.mem_cons_self
    exact desk.db.entitlements.claimCodes.eq_of_common_key leftMember rightMember leftKey rightKey

/-- In every history the codes of each item are complete, and a later request
for an item with codes is answered as it should be exactly if it is told from
the first one. -/
theorem claimCodes_issued_once (package : LicensingPackage) (environment : Environment) (db : Db)
    (actions : List CodeAction) :
    CodesComplete environment ((issuingDesk package environment).run (IssuingDesk.opening db) actions) ∧
    forall first claimCodeIds,
      (first, claimCodeIds) ∈
        ((issuingDesk package environment).run (IssuingDesk.opening db) actions).batches ->
      forall moment request, request.orderItemId = first.orderItemId ->
        (Replayed environment
          ((issuingDesk package environment).run (IssuingDesk.opening db) actions).db.entitlements
          first claimCodeIds moment request ↔ ToldApart first request) := by
  have accounted := Accounted.run package environment db actions
  refine ⟨accounted.codesComplete, ?_⟩
  intro first claimCodeIds listed moment request sameItem
  exact (accounted.batches first claimCodeIds listed).replayed_iff sameItem

namespace Reference

def unitsAsked (expiresAt : Option Time) : ClaimCodeIssueInput where
  orderId := "order"
  orderItemId := "item"
  purchaserAccountId := "account"
  productId := "product"
  editionId := none
  purchasePlanId := none
  resourceId := "resource"
  units := 2
  scopeSnapshot := .null
  grantSnapshot := .null
  validFrom := 0
  validUntil := none
  expiresAt

def deskAfterIssue : IssuingDesk :=
  (issuingDesk licensing environment).run (IssuingDesk.opening Db.empty)
    [.issue (moment "first" 1) (unitsAsked (some 10))]

end Reference

/-- Two codes that expire at 10 answer for a request of codes that expire at
20, and for one whose codes never expire. -/
theorem replayed_with_another_expiry :
    (Reference.unitsAsked (some 10), ["code:item:0", "code:item:1"]) ∈ Reference.deskAfterIssue.batches ∧
    Reference.unitsAsked (some 20) ≠ Reference.unitsAsked (some 10) ∧
    (issueClaimCodes Reference.environment (Reference.moment "second" 2)
        (Reference.unitsAsked (some 20))).run Reference.deskAfterIssue.db.entitlements =
      .ok (.existing 2 ["code:item:0", "code:item:1"], Reference.deskAfterIssue.db.entitlements) ∧
    ¬ Replayed Reference.environment Reference.deskAfterIssue.db.entitlements
      (Reference.unitsAsked (some 10)) ["code:item:0", "code:item:1"] (Reference.moment "second" 2)
      (Reference.unitsAsked (some 20)) := by
  have answered : (issueClaimCodes Reference.environment (Reference.moment "second" 2)
      (Reference.unitsAsked (some 20))).run Reference.deskAfterIssue.db.entitlements =
      .ok (.existing 2 ["code:item:0", "code:item:1"], Reference.deskAfterIssue.db.entitlements) := by
    decide +kernel
  refine ⟨by decide +kernel, by decide +kernel, answered, ?_⟩
  unfold Replayed
  rw [if_neg (by decide +kernel), if_pos (by decide +kernel)]
  intro refused
  cases (Transaction.Commits.unique answered refused).1

end Storefront
end DigitalSolutions
