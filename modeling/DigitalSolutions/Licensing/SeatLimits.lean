import DigitalSolutions.Licensing.SeatManagement

namespace DigitalSolutions
namespace Licensing

open Foundation Persistence

/-!
# A licence is never assigned beyond its seats

Every commit is one run of an operation on the current rows, and the only one
that adds a seat has counted them.
-/

variable {assignLicense : AssignLicenseCapability}
variable {store before after : SeatStore} {manageable : ManageableLicense} {outcome : SeatOutcome}

/-- No licence has more seats assigned than it has. -/
def SeatStore.WithinSeats (store : SeatStore) : Prop :=
  forall license, license ∈ store.licenses -> ((store.seats license.id).length : Int) ≤ license.maxSeats

/-- No user holds two seats of one licence. -/
def SeatStore.SeatedOnce (store : SeatStore) : Prop :=
  forall left right, left ∈ store.assignments -> right ∈ store.assignments ->
    left.licenseId = right.licenseId -> left.userId = right.userId -> left = right

theorem seatedOnce (store : SeatStore) : store.SeatedOnce := by
  intro left right leftMember rightMember sameLicense sameUser
  have inLeft : LicenseAssignment.Key.seat left.licenseId left.userId ∈ Keyed.keys left :=
    List.mem_cons_of_mem _ List.mem_cons_self
  have inRight : LicenseAssignment.Key.seat left.licenseId left.userId ∈ Keyed.keys right := by
    rw [sameLicense, sameUser]
    exact List.mem_cons_of_mem _ List.mem_cons_self
  exact store.assignments.eq_of_common_key leftMember rightMember inLeft inRight

/-! ## What the operations read and write -/

/-- The licence is the one asked for, and its seats are all there. -/
theorem requireManageableLicense_ok {actorId licenseId : Id}
    (read : requireManageableLicense assignLicense store actorId licenseId = .ok manageable) :
    manageable.license ∈ store.licenses ∧ manageable.license.id = licenseId ∧
      manageable.assignments.Perm (store.seats licenseId) := by
  unfold requireManageableLicense at read
  split at read
  · cases read
  · rename_i license found
    have asked := store.licenses.lookup_key found
    simp only [Keyed.keys, List.mem_cons, License.Key.id.injEq, reduceCtorEq, List.not_mem_nil,
      or_false] at asked
    split at read
    · cases read
    · dsimp only at read
      split at read
      · cases read
      · split at read
        · cases read
        · split at read
          · cases read
          · split at read
            · cases read
            · split at read
              · cases read
                exact ⟨store.licenses.lookup_mem found, asked.symm, List.perm_insertionSort _ _⟩
              · cases read

/-- A new seat was counted in, and is a row of the licence it was counted for. -/
structure Assigns (before after : SeatStore) : Prop where
  counted : Exists fun license => Exists fun row => license ∈ before.licenses ∧
    row.licenseId = license.id ∧ ((before.seats license.id).length : Int) < license.maxSeats ∧
    before.assignments.insert row = some after.assignments
  licenses : after.licenses = before.licenses
  activations : after.activations = before.activations

structure Removes (before after : SeatStore) : Prop where
  deleted : Exists fun assignmentId =>
    after.assignments = before.assignments.delete fun row => row.id = assignmentId
  licenses : after.licenses = before.licenses
  activations : after.activations = before.activations

theorem assignLicenseSeat_commits {input : SeatInput} {draw : SeatDraw}
    (commits : (assignLicenseSeat assignLicense input draw).Commits before outcome after) :
    after = before ∨ outcome.status = .assigned ∧ Assigns before after := by
  simp only [assignLicenseSeat, Transaction.commits_ite, Transaction.not_commits_throw, and_false,
    false_or, Transaction.commits_bind, Transaction.commits_get, Transaction.commits_liftM,
    Transaction.commits_orFail, Transaction.commits_set, Transaction.commits_pure] at commits
  rcases commits with ⟨_, _, _, ⟨rfl, rfl⟩, manageable, _, ⟨read, rfl⟩, _,
    ⟨_, _, same⟩ | ⟨_, room, assignments, _, ⟨inserted, rfl⟩, _, _, rfl, _, _, ⟨rfl, rfl⟩,
      refreshed, _, ⟨_, rfl⟩, answer, rfl⟩⟩
  · exact Or.inl same.symm
  · right
    rcases requireManageableLicense_ok read with ⟨member, asked, seats⟩
    rw [Int.not_le, seats.length_eq] at room
    subst answer
    exact ⟨rfl, ⟨manageable.license, _, member, rfl, asked ▸ room, inserted⟩, rfl, rfl⟩

theorem removeLicenseSeat_commits {input : SeatInput}
    (commits : (removeLicenseSeat assignLicense input).Commits before outcome after) :
    after = before ∨ outcome.status = .removed ∧ Removes before after := by
  simp only [removeLicenseSeat, Transaction.commits_ite, Transaction.not_commits_throw, and_false,
    false_or, Transaction.commits_bind, Transaction.commits_get, Transaction.commits_liftM] at commits
  rcases commits with ⟨_, _, _, ⟨rfl, rfl⟩, manageable, _, ⟨read, rfl⟩, rest⟩
  split at rest
  · rw [Transaction.commits_pure] at rest
    exact Or.inl rest.2.symm
  · rename_i existing found
    simp only [Transaction.commits_bind, Transaction.commits_get, Transaction.commits_liftM,
      Transaction.commits_set, Transaction.commits_pure] at rest
    rcases rest with ⟨_, _, rfl, _, _, ⟨rfl, rfl⟩, refreshed, _, ⟨_, rfl⟩, rfl, rfl⟩
    exact Or.inr ⟨rfl, ⟨existing.id, rfl⟩, rfl, rfl⟩

theorem keepsSeats_spec (kept : before.keepsSeats after = true) :
    after.assignments = before.assignments ∧ forall license, license ∈ after.licenses ->
      (Exists fun old => old ∈ before.licenses ∧ old.id = license.id ∧ old.maxSeats = license.maxSeats) ∨
        before.seats license.id = [] ∧ 0 ≤ license.maxSeats := by
  simp only [SeatStore.keepsSeats, Bool.and_eq_true, decide_eq_true_eq, List.all_eq_true,
    Bool.or_eq_true, List.any_eq_true, List.isEmpty_iff] at kept
  exact kept

/-! ## What a commit keeps -/

theorem WithinSeats.of_assigns (within : before.WithinSeats) (assigns : Assigns before after) :
    after.WithinSeats := by
  intro license member
  rcases assigns.counted with ⟨counted, row, countedMember, isRow, room, inserted⟩
  rw [assigns.licenses] at member
  have rows := Table.rows_insert inserted
  by_cases same : license.id = counted.id
  · have isCounted : license = counted := by
      have inLicense : License.Key.id counted.id ∈ Keyed.keys license := by
        rw [← same]
        exact List.mem_cons_self
      exact before.licenses.eq_of_common_key member countedMember inLicense List.mem_cons_self
    subst isCounted
    have grown : after.seats license.id = before.seats license.id ++ [row] := by
      unfold SeatStore.seats Table.select
      rw [rows, List.filter_append, List.filter_cons_of_pos (by simp only [isRow, decide_true]),
        List.filter_nil]
    rw [grown, List.length_append, List.length_singleton]
    omega
  · have unchanged : after.seats license.id = before.seats license.id := by
      apply Table.select_insert inserted
      rw [isRow, decide_eq_false_iff_not]
      exact fun isCounted => same isCounted.symm
    rw [unchanged]
    exact within license member

theorem WithinSeats.of_removes (within : before.WithinSeats) (removes : Removes before after) :
    after.WithinSeats := by
  intro license member
  rcases removes.deleted with ⟨assignmentId, deleted⟩
  rw [removes.licenses] at member
  have fewer : (after.seats license.id).length ≤ (before.seats license.id).length := by
    unfold SeatStore.seats Table.select
    rw [deleted]
    apply List.Sublist.length_le
    apply List.Sublist.filter
    exact List.filter_sublist
  have bounded := within license member
  omega

theorem WithinSeats.of_keepsSeats (within : before.WithinSeats)
    (kept : before.keepsSeats after = true) : after.WithinSeats := by
  intro license member
  rcases keepsSeats_spec kept with ⟨same, licenses⟩
  have seats : after.seats license.id = before.seats license.id := by
    unfold SeatStore.seats
    rw [same]
  rw [seats]
  rcases licenses license member with ⟨old, oldMember, sameId, sameMaximum⟩ | ⟨unassigned, room⟩
  · rw [← sameId, ← sameMaximum]
    exact within old oldMember
  · rw [unassigned]
    exact room

/-- What a call commits: nothing, or a change that its answer tells of. -/
theorem seatTransaction_commits {call : SeatCall} {answer : Option SeatOutcome}
    (commits : (seatTransaction assignLicense call).Commits before answer after) :
    after = before ∨ (Exists fun outcome => answer = some outcome ∧
        (outcome.status = .assigned ∧ Assigns before after ∨
          outcome.status = .removed ∧ Removes before after)) ∨
      call = .elsewhere after ∧ before.keepsSeats after = true := by
  cases call with
  | assign input draw =>
    rw [seatTransaction, Transaction.commits_map] at commits
    rcases commits with ⟨outcome, committed, isAnswer⟩
    rcases assignLicenseSeat_commits committed with same | assigned
    · exact Or.inl same
    · exact Or.inr (Or.inl ⟨outcome, isAnswer.symm, Or.inl assigned⟩)
  | remove input =>
    rw [seatTransaction, Transaction.commits_map] at commits
    rcases commits with ⟨outcome, committed, isAnswer⟩
    rcases removeLicenseSeat_commits committed with same | removed
    · exact Or.inl same
    · exact Or.inr (Or.inl ⟨outcome, isAnswer.symm, Or.inr removed⟩)
  | elsewhere later =>
    simp only [seatTransaction, Transaction.commits_bind, Transaction.commits_get,
      Transaction.commits_ite, Transaction.commits_set, Transaction.commits_pure,
      Transaction.not_commits_throw, and_false, or_false] at commits
    rcases commits with ⟨_, _, ⟨rfl, rfl⟩, kept, _, _, rfl, _, rfl⟩
    exact Or.inr (Or.inr ⟨rfl, kept⟩)

theorem WithinSeats.commits {call : SeatCall} {answer : Option SeatOutcome} (within : before.WithinSeats)
    (commits : (seatTransaction assignLicense call).Commits before answer after) : after.WithinSeats := by
  rcases seatTransaction_commits commits with same | ⟨outcome, _, assigned | removed⟩ | ⟨_, kept⟩
  · exact same ▸ within
  · exact WithinSeats.of_assigns within assigned.2
  · exact WithinSeats.of_removes within removed.2
  · exact WithinSeats.of_keepsSeats within kept

/-! ## Every run -/

/-- The move ends an operation that answers `ASSIGNED` or `REMOVED`, or is what
other code does. -/
def TakesEffect (assignLicense : AssignLicenseCapability) (state : Shared SeatStore SeatCall)
    (move : SessionMove SeatCall) : Prop :=
  Exists fun session => Exists fun answer => Exists fun after =>
    state.sessions move.process = some session ∧
    Shared.conclude (seatTransaction assignLicense) state.store session = .ok (answer, after) ∧
    (session.call = .elsewhere after ∨ Exists fun outcome => answer = some outcome ∧
      (outcome.status = .assigned ∨ outcome.status = .removed))

/-- However assignments and removals interleave, no licence has more seats
assigned than it has, nobody holds two of one licence, and an operation that is
refused, or answers that there is nothing to do, leaves every row as it was. -/
theorem seats_kept (assignLicense : AssignLicenseCapability) (store : SeatStore)
    (initially : store.WithinSeats) (moves : List (SessionMove SeatCall)) :
    ((seatMachine assignLicense).run (Shared.opening store) moves).store.WithinSeats ∧
    ((seatMachine assignLicense).run (Shared.opening store) moves).store.SeatedOnce ∧
    forall move,
      ¬ TakesEffect assignLicense ((seatMachine assignLicense).run (Shared.opening store) moves) move ->
      ((seatMachine assignLicense).attempt
          ((seatMachine assignLicense).run (Shared.opening store) moves) move).store =
        ((seatMachine assignLicense).run (Shared.opening store) moves).store := by
  refine ⟨?_, seatedOnce _, ?_⟩
  · refine Shared.run_invariant ?_ initially moves
    intro call before answer after within commits
    exact WithinSeats.commits within commits
  · intro move ineffective
    generalize (seatMachine assignLicense).run (Shared.opening store) moves = state at ineffective ⊢
    refine Machine.attempt_elim (motive := fun next : Shared SeatStore SeatCall =>
      next.store = state.store) rfl ?_
    intro next accepted
    rcases Shared.step_store accepted with same | ⟨session, answer, here, _, concluded⟩
    · exact same
    · have committed := (Shared.commits_of_conclude concluded).1
      rcases seatTransaction_commits committed with same | ⟨outcome, isAnswer, changed⟩ | ⟨other, _⟩
      · exact same
      · refine absurd ⟨session, answer, next.store, here, concluded, Or.inr ⟨outcome, isAnswer, ?_⟩⟩
          ineffective
        exact changed.imp And.left And.left
      · exact absurd ⟨session, answer, next.store, here, concluded, Or.inl other⟩ ineffective

/-! ## Two assignments race for one seat -/

def seatHolder (id : Id) : Accounts.User where
  id := id
  email := id ++ "@example.test"
  name := none
  emailVerified := some 0
  role := .customer
  suspendedAt := none
  lifecycleState := .active
  privacyRequestedAt := none
  pseudonymizedAt := none
  retentionExpiresAt := none
  legalHoldAt := none
  legalHoldReason := none
  emailHash := none

/-- A licence with one seat, of an account with an owner and a member. -/
def oneSeatStore : SeatStore where
  users := ⟨[seatHolder "owner", seatHolder "member"], by decide⟩
  accounts := ⟨[{ id := "account", type := .organization, displayName := "Account", ownerId := "owner"
                  billingEmail := "owner@example.test", taxId := none, lifecycleState := .active
                  privacyRequestedAt := none, pseudonymizedAt := none, retentionExpiresAt := none
                  legalHoldAt := none, legalHoldReason := none }], by decide⟩
  memberships := ⟨[⟨"account", "member", .member⟩], by decide⟩
  licenses := ⟨[{ id := "license", publicId := "LIC", keyHash := "hash", keyLastFour := "0000"
                  keyCiphertext := none, accountId := "account", orderId := "order"
                  orderItemId := "item", productId := "product", editionId := none
                  purchasePlanId := none, subscriptionId := none, status := .active, maxSeats := 1
                  maxDevicesPerSeat := 1, expiresAt := none, createdAt := 0 }], by decide⟩
  assignments := ∅
  activations := ∅
  licenseEvents := []
  auditLogs := []

def ownerAssigns (targetUserId assignmentId : Id) : SeatCall :=
  .assign ⟨"owner", "license", targetUserId⟩ ⟨assignmentId, 1⟩

/-- Both assignments have begun before either commits. -/
def raceForSeat : List (SessionMove SeatCall) :=
  [.begin 0 (ownerAssigns "owner" "first"), .begin 1 (ownerAssigns "member" "second"), .commit 0,
    .commit 1]

theorem seats_kept_raceForSeat :
    ((seatMachine (· = .owner)).run (Shared.opening oneSeatStore) raceForSeat).store.WithinSeats ∧
      (((seatMachine (· = .owner)).run (Shared.opening oneSeatStore) raceForSeat).store.seats
        "license").length = 1 := by
  constructor
  · refine (seats_kept (· = .owner) oneSeatStore ?_ raceForSeat).1
    intro license member
    rw [List.mem_singleton.mp member]
    decide
  · decide +kernel

end Licensing
end DigitalSolutions
