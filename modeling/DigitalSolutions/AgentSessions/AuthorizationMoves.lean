import DigitalSolutions.AgentSessions.NativeHandoff

namespace DigitalSolutions
namespace AgentSessions

open Foundation Persistence

/-!
# What one transaction does to the authorizations

A transaction moves every authorization by one of a few moves and may add one.
The moves are stated of the row as a whole, so that whatever the hand-off
promises is a fact about seven cases.

Two moves are possible only in a transaction of a certain kind, which is why
the moves know for whom the transaction approves, if it does, and which
session it creates, if any.
-/

/-- The columns no statement ever sets. -/
structure AuthorizationTerms where
  id : Id
  deviceCodeHash : String
  userCodeHash : String
  deviceId : String
  authorizationKind : AuthorizationKind
  expiresAt : Time
  deriving DecidableEq

def authorizationTerms (row : AgentDeviceAuthorization) : AuthorizationTerms where
  id := row.id
  deviceCodeHash := row.deviceCodeHash
  userCodeHash := row.userCodeHash
  deviceId := row.deviceId
  authorizationKind := row.authorizationKind
  expiresAt := row.expiresAt

inductive AuthorizationMove (now : Time) (approver created : Option Id)
    (row : AgentDeviceAuthorization) : AgentDeviceAuthorization -> Prop
  | stayed : AuthorizationMove now approver created row row
  | polled (interval : Nat) (pending : row.status = .pending)
    (chosen : interval = row.pollIntervalSeconds ∨ interval = min 60 (row.pollIntervalSeconds + 5)) :
    AuthorizationMove now approver created row
      { row with pollIntervalSeconds := interval, lastPollAt := some now }
  | expired (unsettled : row.status = .pending ∨ row.status = .approved ∨ row.status = .expired)
    (ciphertext : Option String)
    (less : ciphertext = row.tokenBundleCiphertext ∨ ciphertext = none) :
    AuthorizationMove now approver created row
      { row with status := .expired, tokenBundleCiphertext := ciphertext }
  | approved (principalId accountId : Id) (approves : approver = some principalId)
    (pending : row.status = .pending) (unlapsed : now < row.expiresAt) :
    AuthorizationMove now approver created row { row with
      status := .approved, approvedByUserId := some principalId, approvedAccountId := some accountId,
      approvedAt := some now }
  | denied (unsettled : row.status = .pending ∨ row.status = .approved) (deniedAt : Time)
    (ciphertext : Option String) (less : ciphertext = row.tokenBundleCiphertext ∨ ciphertext = none)
    (handoffExpiresAt : Option Time) :
    AuthorizationMove now approver created row { row with
      status := .denied, deniedAt := some deniedAt, tokenBundleCiphertext := ciphertext,
      handoffExpiresAt }
  | consumed (sessionId : Id) (ciphertext : String) (creates : created = some sessionId)
    (approved : row.status = .approved) (unlapsed : now < row.expiresAt) :
    AuthorizationMove now approver created row (consumedRow sessionId ciphertext now row)
  | closed (handoffExpiresAt : Option Time) :
    AuthorizationMove now approver created row
      { row with tokenBundleCiphertext := none, handoffExpiresAt }

/-- A row as a transaction adds it: pending, or approved there and then. -/
inductive FreshAuthorization (now : Time) (approver : Option Id) : AgentDeviceAuthorization -> Prop
  | started (draw : SessionDraw -> String) (device : AgentDevice)
    (deviceCodeHash userCodeHash : String) :
    FreshAuthorization now approver (startedRow ⟨now, draw⟩ device deviceCodeHash userCodeHash)
  | issued (draw : SessionDraw -> String) (device : AgentDevice) (principalId accountId : Id)
    (deviceCodeHash userCodeHash : String) (approves : approver = some principalId) :
    FreshAuthorization now approver
      (handoffRow ⟨now, draw⟩ device principalId accountId deviceCodeHash userCodeHash)

theorem AuthorizationMove.terms {now : Time} {approver created : Option Id}
    {old row : AgentDeviceAuthorization} (move : AuthorizationMove now approver created old row) :
    authorizationTerms row = authorizationTerms old := by
  cases move <;> rfl

/-- Every authorization has moved, and the new ones are fresh. -/
structure AuthorizationsMoved (now : Time) (approver created : Option Id)
    (before after : Table AgentDeviceAuthorization) : Prop where
  origin : forall row, row ∈ after ->
    (Exists fun old => old ∈ before ∧ AuthorizationMove now approver created old row) ∨
      (FreshAuthorization now approver row ∧ forall old, old ∈ before -> old.id ≠ row.id)
  kept : forall old, old ∈ before -> Exists fun row =>
    row ∈ after ∧ AuthorizationMove now approver created old row

namespace AuthorizationsMoved

variable {now : Time} {approver created : Option Id}
variable {before middle after : Table AgentDeviceAuthorization}

theorem refl (table : Table AgentDeviceAuthorization) :
    AuthorizationsMoved now approver created table table where
  origin row member := Or.inl ⟨row, member, .stayed⟩
  kept old member := ⟨old, member, .stayed⟩

/-- An UPDATE, where each chosen row makes a move. -/
theorem of_rows {where' : AgentDeviceAuthorization -> Bool}
    {set : AgentDeviceAuthorization -> AgentDeviceAuthorization}
    (wrote : after.rows = before.rows.map (fun row => if where' row then set row else row))
    (moves : forall old, old ∈ before -> where' old = true ->
      AuthorizationMove now approver created old (set old)) :
    AuthorizationsMoved now approver created before after := by
  have move : forall old, old ∈ before ->
      AuthorizationMove now approver created old (if where' old then set old else old) := by
    intro old member
    by_cases chosen : where' old = true
    · simpa only [chosen, if_true] using moves old member chosen
    · simpa only [chosen, Bool.false_eq_true, if_false] using AuthorizationMove.stayed
  constructor
  · intro row member
    rcases (Table.mem_of_rows wrote).mp member with ⟨old, oldMember, rfl⟩
    exact Or.inl ⟨old, oldMember, move old oldMember⟩
  · intro old member
    exact ⟨_, (Table.mem_of_rows wrote).mpr ⟨old, member, rfl⟩, move old member⟩

theorem of_insert {row : AgentDeviceAuthorization}
    (moved : AuthorizationsMoved now approver created before middle)
    (inserted : middle.insert row = some after) (fresh : FreshAuthorization now approver row) :
    AuthorizationsMoved now approver created before after := by
  constructor
  · intro other member
    rcases (Table.mem_insert inserted).mp member with present | rfl
    · exact moved.origin other present
    · refine Or.inr ⟨fresh, fun old oldMember same => ?_⟩
      rcases moved.kept old oldMember with ⟨current, currentMember, move⟩
      have sameId : current.id = other.id :=
        (congrArg AuthorizationTerms.id move.terms).trans same
      have taken := Table.fits_of_insert inserted current currentMember (.id current.id)
      exact taken (by simp [Keyed.keys]) (by simp [Keyed.keys, sameId])
  · intro old member
    rcases moved.kept old member with ⟨row, rowMember, move⟩
    exact ⟨row, (Table.mem_insert inserted).mpr (Or.inl rowMember), move⟩

end AuthorizationsMoved

/-- Two authorizations under one id are the same row. -/
theorem authorization_of_id {table : Table AgentDeviceAuthorization}
    {left right : AgentDeviceAuthorization} (leftMember : left ∈ table) (rightMember : right ∈ table)
    (same : left.id = right.id) : left = right := by
  have inLeft : AgentDeviceAuthorization.Key.id left.id ∈ Keyed.keys left := by simp [Keyed.keys]
  have inRight : AgentDeviceAuthorization.Key.id left.id ∈ Keyed.keys right := by
    simp [Keyed.keys, same]
  exact table.eq_of_common_key leftMember rightMember inLeft inRight

/-! ## The statements as moves -/

section Statements

variable {now : Time} {approver created : Option Id}
variable {store : AgentSessionStore} {authorization : AgentDeviceAuthorization}

theorem moved_expirePending (deviceId : String) :
    AuthorizationsMoved now approver created store.authorizations
      (expirePending deviceId store).authorizations := by
  refine AuthorizationsMoved.of_rows rfl (fun old _ chosen => ?_)
  have pending : old.status = .pending := by
    simp only [Bool.and_eq_true, decide_eq_true_eq] at chosen
    exact chosen.2
  exact .expired (Or.inl pending) old.tokenBundleCiphertext (Or.inl rfl)

theorem moved_markExpired (member : authorization ∈ store.authorizations)
    (unsettled : authorization.status = .pending ∨ authorization.status = .approved ∨
      authorization.status = .expired) :
    AuthorizationsMoved now approver created store.authorizations
      (markExpired authorization.id store).authorizations := by
  refine AuthorizationsMoved.of_rows rfl (fun old oldMember chosen => ?_)
  have same := authorization_of_id oldMember member (of_decide_eq_true chosen)
  subst same
  exact .expired unsettled old.tokenBundleCiphertext (Or.inl rfl)

theorem moved_markApproved (member : authorization ∈ store.authorizations)
    (unlapsed : now < authorization.expiresAt) (principalId accountId : Id) :
    AuthorizationsMoved now (some principalId) created store.authorizations
      (markApproved authorization.id principalId accountId now store).authorizations := by
  refine AuthorizationsMoved.of_rows rfl (fun old oldMember chosen => ?_)
  simp only [Bool.and_eq_true, decide_eq_true_eq] at chosen
  have same := authorization_of_id oldMember member chosen.1
  subst same
  exact .approved principalId accountId rfl chosen.2 unlapsed

theorem moved_slowPolling (member : authorization ∈ store.authorizations)
    (pending : authorization.status = .pending) :
    AuthorizationsMoved now approver created store.authorizations
      (slowPolling authorization.id (min 60 (authorization.pollIntervalSeconds + 5)) now
        store).authorizations := by
  refine AuthorizationsMoved.of_rows rfl (fun old oldMember chosen => ?_)
  have same := authorization_of_id oldMember member (of_decide_eq_true chosen)
  subst same
  exact .polled _ pending (Or.inr rfl)

theorem moved_notePoll (member : authorization ∈ store.authorizations)
    (pending : authorization.status = .pending) :
    AuthorizationsMoved now approver created store.authorizations
      (notePoll authorization.id now store).authorizations := by
  refine AuthorizationsMoved.of_rows rfl (fun old oldMember chosen => ?_)
  have same := authorization_of_id oldMember member (of_decide_eq_true chosen)
  subst same
  exact .polled old.pollIntervalSeconds pending (Or.inl rfl)

theorem moved_expireApproved (authorizationId : Id) :
    AuthorizationsMoved now approver created store.authorizations
      (expireApproved authorizationId store).authorizations := by
  refine AuthorizationsMoved.of_rows rfl (fun old _ chosen => ?_)
  simp only [Bool.and_eq_true, decide_eq_true_eq] at chosen
  exact .expired (Or.inr (Or.inl chosen.2)) none (Or.inr rfl)

theorem moved_dropBundle (authorizationId : Id) :
    AuthorizationsMoved now approver created store.authorizations
      (dropBundle authorizationId store).authorizations :=
  AuthorizationsMoved.of_rows rfl (fun old _ _ => .closed old.handoffExpiresAt)

theorem moved_markDenied (member : authorization ∈ store.authorizations)
    (approved : authorization.status = .approved) :
    AuthorizationsMoved now approver created store.authorizations
      (markDenied authorization.id now store).authorizations := by
  refine AuthorizationsMoved.of_rows rfl (fun old oldMember chosen => ?_)
  have same := authorization_of_id oldMember member (of_decide_eq_true chosen)
  subst same
  exact .denied (Or.inr approved) now old.tokenBundleCiphertext (Or.inl rfl) old.handoffExpiresAt

theorem moved_endHandoff (sessionId : Id) :
    AuthorizationsMoved now approver created store.authorizations
      (endHandoff sessionId now store).authorizations :=
  AuthorizationsMoved.of_rows rfl (fun _ _ _ => .closed (some now))

theorem moved_cancelOpen (deviceCodeHash : String) :
    AuthorizationsMoved now approver created store.authorizations
      (cancelOpen deviceCodeHash now store).authorizations := by
  refine AuthorizationsMoved.of_rows rfl (fun old _ chosen => ?_)
  simp only [Bool.and_eq_true, Bool.or_eq_true, decide_eq_true_eq] at chosen
  exact .denied chosen.2 now none (Or.inr rfl) old.handoffExpiresAt

theorem moved_closeAuthorizations (userId : Id) (closedAt : Time) :
    AuthorizationsMoved now approver created store.authorizations
      (closeAuthorizations userId closedAt store).authorizations := by
  refine AuthorizationsMoved.of_rows rfl (fun old _ chosen => ?_)
  unfold closedRow
  by_cases approved : old.status = .approved
  · have deniedAt : Exists fun time => old.deniedAt.or (some closedAt) = some time := by
      cases old.deniedAt with
      | none => exact ⟨closedAt, rfl⟩
      | some time => exact ⟨time, rfl⟩
    rcases deniedAt with ⟨time, atTime⟩
    simp only [approved, if_true, atTime]
    exact .denied (Or.inr approved) time none (Or.inr rfl) (some closedAt)
  · simp only [approved, if_false]
    exact .closed (some closedAt)

end Statements

end AgentSessions
end DigitalSolutions
