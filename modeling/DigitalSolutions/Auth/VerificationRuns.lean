import DigitalSolutions.Auth.NewestCode

namespace DigitalSolutions
namespace Auth

open Accounts Foundation Persistence

/-!
# Verification codes in every run

A code is usable when a verification that meets the tables as they are would
accept it.
-/

variable {hashToken : String -> String} {before after : AuthStore}
variable {crowd : Crowd AuthStore AuthPoint} {store : AuthStore}

/-- The code may be used for the address: it is open and the user is neither
verified nor inactive. -/
structure Usable (store : AuthStore) (now : Time) (email : String) (token : VerificationToken) : Prop where
  member : token ∈ store.tokens
  isOpen : token.isOpenCode email = true
  unexpired : now < token.expiresAt
  pending : Exists fun user => user ∈ store.users ∧ user.email = email ∧ isPending user = true

/-! ## Runs -/

def authRun (hashToken : String -> String) (moves : List AuthMove) : Crowd AuthStore AuthPoint :=
  (authProtocol hashToken).machine.run (Crowd.opening ⟨∅, ∅, []⟩) moves

theorem sound_empty : Sound hashToken ⟨∅, ∅, []⟩ where
  owners token member := absurd member (Table.not_mem_empty token)
  accepted acceptance member := by cases member
  once := List.nodup_nil

/-- An access is a write of its point, or nothing. -/
theorem advance_write {draw : AuthDraw} {point : AuthPoint} {next : Option AuthPoint}
    (advanced : (authProtocol hashToken).advance store point draw = .ok (after, next)) :
    (after = store ∧ next = none) ∨
      (draw.throws = false ∧ AuthWrite hashToken store after point ∧ (after, next) = authStep hashToken store draw point) := by
  have done := Except.ok.inj advanced
  cases throws : draw.throws with
  | true =>
    rw [throws, if_pos rfl] at done
    exact Or.inl ⟨congrArg Prod.fst done.symm, congrArg Prod.snd done.symm⟩
  | false =>
    rw [throws, if_neg Bool.false_ne_true] at done
    have write : AuthWrite hashToken store (authStep hashToken store draw point).1 point :=
      authStep_write store draw point
    rw [done] at write
    exact Or.inr ⟨rfl, write, done.symm⟩

theorem outlined : Protocol.Outlined (authProtocol hashToken) (fun _ _ => True) (Sound hashToken)
    (fun store _ point => Placed hashToken store point) where
  enters crowd process call _ _ := by
    cases call <;> exact trivial
  advances crowd process point draw after later holds _ here advanced := by
    have placed := holds.points process point here
    rcases advance_write advanced with ⟨rfl, rfl⟩ | ⟨_, write, done⟩
    · refine ⟨holds.store, ?_⟩
      intro next isNext
      cases isNext
    · refine ⟨write.sound placed holds.store, ?_⟩
      intro next isNext
      have nextPoint : (authStep hashToken crowd.store draw point).2 = some next := by
        rw [← done]
        exact isNext
      have placedNext := placed_next placed nextPoint
      rw [← done] at placedNext
      exact placedNext
  spares crowd process point draw after later holds _ _ advanced other bystander _ stands := by
    have placed := holds.points other bystander stands
    rcases advance_write advanced with ⟨rfl, rfl⟩ | ⟨_, write, _⟩
    · exact placed
    · exact placed.later write.later
  ambient crowd event after holds _ changed := by
    refine ⟨sound_authEvent changed holds.store, ?_⟩
    intro other bystander stands
    exact (holds.points other bystander stands).later (authEvent_later changed).1

abbrev Standing (hashToken : String -> String) : Crowd AuthStore AuthPoint -> Prop :=
  Protocol.Holds (Sound hashToken) fun store _ point => Placed hashToken store point

theorem standing_run (moves : List AuthMove) : Standing hashToken (authRun hashToken moves) := by
  apply outlined.run (Protocol.holds_opening sound_empty)
  exact Machine.admits_all (fun _ _ => trivial) _ moves

theorem later_step {next : Crowd AuthStore AuthPoint} {move : AuthMove}
    (accepted : (authProtocol hashToken).machine.step crowd move = .ok next) :
    Later crowd.store next.store := by
  rcases Protocol.step_store accepted with same | ⟨process, draw, point, later, rfl, here, advanced⟩ |
    ⟨event, rfl, changed⟩
  · rw [same]
    exact Later.refl crowd.store
  · rcases advance_write advanced with ⟨same, _⟩ | ⟨_, write, _⟩
    · rw [same]
      exact Later.refl crowd.store
    · exact write.later
  · exact (authEvent_later changed).1

theorem later_run (crowd : Crowd AuthStore AuthPoint) (moves : List AuthMove) :
    Later crowd.store ((authProtocol hashToken).machine.run crowd moves).store := by
  have preserved : forall state move next, Later crowd.store (Crowd.store state) ->
      (authProtocol hashToken).machine.step state move = .ok next -> Later crowd.store next.store :=
    fun _ _ _ later accepted => later.trans (later_step accepted)
  exact Machine.run_invariant preserved (Later.refl crowd.store) moves

/-! ## What is accepted -/

/-- What is accepted was usable. -/
theorem AuthWrite.usable {point : AuthPoint} (write : AuthWrite hashToken before after point)
    (placed : Placed hashToken before point) :
    after.accepted = before.accepted ∨ Exists fun acceptance => Exists fun now => Exists fun token =>
      after.accepted = before.accepted ++ [acceptance] ∧ Usable before now acceptance.email token ∧
      token.id = acceptance.tokenId := by
  cases write with
  | kept same => exact Or.inl (congrArg AuthStore.accepted same)
  | registered users tokens accepted => exact Or.inl accepted
  | issued users tokens accepted => exact Or.inl accepted
  | consumed users tokens accepted => exact Or.inl accepted
  | @accepted email code userId tokenId now ids user openToken member isUser pending users tokens accepted =>
    rcases placed with ⟨⟨owner, ownerMember, ownerId, isEmail⟩, token, tokenMember, isId, isCodeOf, _⟩
    rcases openToken with ⟨fresh, freshMember, freshId, isOpen, unexpired⟩
    have sameToken := token_of_id tokenMember freshMember (isId.trans freshId.symm)
    subst sameToken
    have sameUser := user_of_id ownerMember member (ownerId.trans isUser.symm)
    subst sameUser
    refine Or.inr ⟨_, now, token, accepted, ⟨freshMember, ?_, unexpired, owner, member, isEmail, pending⟩, isId⟩
    rw [VerificationToken.isOpenCode, isCodeOf, isOpen]
    rfl

theorem usable_step {next : Crowd AuthStore AuthPoint} {move : AuthMove}
    (standing : Standing hashToken crowd)
    (accepted : (authProtocol hashToken).machine.step crowd move = .ok next) :
    next.store.accepted = crowd.store.accepted ∨
      Exists fun acceptance => Exists fun now => Exists fun token =>
        next.store.accepted = crowd.store.accepted ++ [acceptance] ∧
        Usable crowd.store now acceptance.email token ∧ token.id = acceptance.tokenId := by
  rcases Protocol.step_store accepted with same | ⟨process, draw, point, later, rfl, here, advanced⟩ |
    ⟨event, rfl, changed⟩
  · exact Or.inl (congrArg AuthStore.accepted same)
  · rcases advance_write advanced with ⟨same, _⟩ | ⟨_, write, _⟩
    · exact Or.inl (congrArg AuthStore.accepted same)
    · exact write.usable (standing.points process point here)
  · exact Or.inl (authEvent_later changed).2

/-- After an address is verified no code is accepted for it. -/
theorem accepted_of_verified {user : User} (standing : Standing hashToken crowd)
    (member : user ∈ crowd.store.users) (verified : user.emailVerified ≠ none) (moves : List AuthMove) :
    forall acceptance, acceptance ∈ ((authProtocol hashToken).machine.run crowd moves).store.accepted ->
      acceptance.email = user.email -> acceptance ∈ crowd.store.accepted := by
  have preserved : forall state move next,
      (Standing hashToken state ∧ Later crowd.store state.store ∧ forall acceptance,
        acceptance ∈ state.store.accepted -> acceptance.email = user.email ->
        acceptance ∈ crowd.store.accepted) ->
      (authProtocol hashToken).machine.step state move = .ok next ->
      Standing hashToken next ∧ Later crowd.store next.store ∧ forall acceptance,
        acceptance ∈ next.store.accepted -> acceptance.email = user.email ->
        acceptance ∈ crowd.store.accepted := by
    rintro state move next ⟨stands, later, known⟩ accepted
    refine ⟨outlined.step stands trivial accepted, later.trans (later_step accepted), ?_⟩
    intro acceptance acceptanceMember isEmail
    rcases usable_step stands accepted with same | ⟨added, now, token, isNext, usable, _⟩
    · rw [same] at acceptanceMember
      exact known acceptance acceptanceMember isEmail
    · rw [isNext] at acceptanceMember
      rcases List.mem_append.mp acceptanceMember with old | new
      · exact known acceptance old isEmail
      · rw [List.mem_singleton] at new
        subst new
        rcases usable.pending with ⟨pendingUser, pendingMember, pendingEmail, pending⟩
        rcases later.users user member with ⟨laterUser, laterMember, sameUser⟩
        have isSame := user_of_email pendingMember laterMember
          ((pendingEmail.trans isEmail).trans sameUser.email.symm)
        subst isSame
        rw [isPending, Bool.and_eq_true, Option.isNone_iff_eq_none] at pending
        exact absurd pending.1 (sameUser.verified verified)
  have kept := Machine.run_invariant preserved ⟨standing, Later.refl crowd.store, fun _ old _ => old⟩ moves
  exact kept.2.2

/-! ## The newest code -/

/-- In a run of complete new codes only the newest code of an address is open. -/
theorem newestOnly_run {moves : List AuthMove}
    (admitted : (authProtocol hashToken).machine.Admits Complete (Crowd.opening ⟨∅, ∅, []⟩) moves) :
    NewestOnly (authRun hashToken moves).store := by
  have preserved : forall crowd move next, (Standing hashToken crowd ∧ NewestOnly crowd.store) ->
      Complete crowd move -> (authProtocol hashToken).machine.step crowd move = .ok next ->
      Standing hashToken next ∧ NewestOnly next.store := by
    rintro crowd move next ⟨standing, newest⟩ complete accepted
    refine ⟨outlined.step standing trivial accepted, ?_⟩
    rcases Protocol.step_store accepted with same | ⟨process, draw, point, later, rfl, here, advanced⟩ |
      ⟨event, rfl, changed⟩
    · rw [same]
      exact newest
    · rcases advance_write advanced with ⟨same, _⟩ | ⟨steady, write, _⟩
      · rw [same]
        exact newest
      · refine write.newestOnly ?_ standing.store newest
        rintro email code now ids rfl
        simp only [Complete, here] at complete
        exact complete steady
    · exact newestOnly_authEvent changed newest
  have initially : Standing hashToken (Crowd.opening ⟨∅, ∅, []⟩) ∧
      NewestOnly (Crowd.opening ⟨∅, ∅, []⟩ : Crowd AuthStore AuthPoint).store :=
    ⟨Protocol.holds_opening sound_empty, List.Pairwise.nil⟩
  exact (Machine.run_invariant_of_admits preserved initially admitted).2

/-- What is usable is the newest code of its address. -/
theorem Usable.newest {now : Time} {email : String} {token other : VerificationToken}
    {older newer : List VerificationToken} (newest : NewestOnly store)
    (usable : Usable store now email token) (rows : store.tokens.rows = older ++ token :: newer)
    (member : other ∈ newer) :
    other.isCodeOf email = false := by
  rw [NewestOnly, rows, List.pairwise_append, List.pairwise_cons] at newest
  have isOpen := usable.isOpen
  rw [VerificationToken.isOpenCode, Bool.and_eq_true, Option.isNone_iff_eq_none] at isOpen
  rw [← Bool.not_eq_true]
  intro isCodeOf
  rcases newest.2.1.1 other member email isOpen.1 isCodeOf isOpen.2 with ⟨user, userMember, isEmail, verified⟩
  rcases usable.pending with ⟨pendingUser, pendingMember, pendingEmail, pending⟩
  have same := user_of_email pendingMember userMember (pendingEmail.trans isEmail.symm)
  subst same
  rw [isPending, Bool.and_eq_true, Option.isNone_iff_eq_none] at pending
  exact verified pending.1

theorem Usable.unique {now : Time} {email : String} {left right : VerificationToken}
    (newest : NewestOnly store) (leftUsable : Usable store now email left)
    (rightUsable : Usable store now email right) : left = right := by
  rcases List.append_of_mem leftUsable.member with ⟨older, newer, rows⟩
  have rightMember : right ∈ store.tokens.rows := rightUsable.member
  have isCodeOf : forall token, Usable store now email token -> token.isCodeOf email = true := by
    intro token usable
    have isOpen := usable.isOpen
    rw [VerificationToken.isOpenCode, Bool.and_eq_true] at isOpen
    exact isOpen.1
  rw [rows] at rightMember
  rcases List.mem_append.mp rightMember with inOlder | inNewer
  · rcases List.append_of_mem inOlder with ⟨first, second, olderRows⟩
    have rightRows : store.tokens.rows = first ++ right :: (second ++ left :: newer) := by
      rw [rows, olderRows, List.append_assoc, List.cons_append]
    have leftLater : left ∈ second ++ left :: newer := List.mem_append.mpr (Or.inr List.mem_cons_self)
    have closed := rightUsable.newest newest rightRows leftLater
    rw [isCodeOf left leftUsable] at closed
    cases closed
  · rcases List.mem_cons.mp inNewer with same | later
    · exact same.symm
    · have closed := leftUsable.newest newest rows later
      rw [isCodeOf right rightUsable] at closed
      cases closed

/-! ## The codes of a run -/

structure CodesKept (hashToken : String -> String) (moves : List AuthMove) : Prop where
  single : forall now email left right, Usable (authRun hashToken moves).store now email left ->
    Usable (authRun hashToken moves).store now email right -> left = right
  newest : forall now email token older newer,
    (authRun hashToken moves).store.tokens.rows = older ++ token :: newer ->
    Usable (authRun hashToken moves).store now email token ->
    forall other, other ∈ newer -> other.isCodeOf email = false
  once : ((authRun hashToken moves).store.accepted.map Acceptance.tokenId).Nodup
  /-- What was accepted is a used code of the address. -/
  address : forall acceptance, acceptance ∈ (authRun hashToken moves).store.accepted ->
    IsUsedCode hashToken (authRun hashToken moves).store acceptance
  usable : forall past move rest, moves = past ++ move :: rest -> forall acceptance,
    acceptance ∈ (authRun hashToken (past ++ [move])).store.accepted ->
    acceptance ∉ (authRun hashToken past).store.accepted ->
    Exists fun now => Exists fun token => Usable (authRun hashToken past).store now acceptance.email token ∧
      token.id = acceptance.tokenId
  used : forall past rest, moves = past ++ rest -> forall token,
    token ∈ (authRun hashToken past).store.tokens -> token.usedAt ≠ none ->
    token ∈ (authRun hashToken moves).store.tokens
  verified : forall past rest, moves = past ++ rest -> forall user,
    user ∈ (authRun hashToken past).store.users -> user.emailVerified ≠ none -> forall acceptance,
    acceptance ∈ (authRun hashToken moves).store.accepted -> acceptance.email = user.email ->
    acceptance ∈ (authRun hashToken past).store.accepted

/-- The codes in every run in which a new code misses no open one. -/
theorem codes_kept_of_complete (hashToken : String -> String) (moves : List AuthMove)
    (admitted : (authProtocol hashToken).machine.Admits Complete (Crowd.opening ⟨∅, ∅, []⟩) moves) :
    CodesKept hashToken moves where
  single now email left right leftUsable rightUsable := leftUsable.unique (newestOnly_run admitted) rightUsable
  newest now email token older newer rows usable other member :=
    usable.newest (newestOnly_run admitted) rows member
  once := (standing_run moves).store.once
  address := (standing_run moves).store.accepted
  usable past move rest split acceptance member new := by
    rw [authRun, Machine.run_concat] at member
    have outcome : forall next, (authProtocol hashToken).machine.step (authRun hashToken past) move = .ok next ->
        acceptance ∈ next.store.accepted -> Exists fun now => Exists fun token =>
          Usable (authRun hashToken past).store now acceptance.email token ∧ token.id = acceptance.tokenId := by
      intro next accepted nextMember
      rcases usable_step (standing_run past) accepted with same | ⟨added, now, token, isNext, usable, isToken⟩
      · exact absurd (same ▸ nextMember) new
      · rw [isNext] at nextMember
        rcases List.mem_append.mp nextMember with old | isAdded
        · exact absurd old new
        · rw [List.mem_singleton] at isAdded
          subst isAdded
          exact ⟨now, token, usable, isToken⟩
    revert member
    apply Machine.attempt_elim (motive := fun next : Crowd AuthStore AuthPoint =>
      acceptance ∈ next.store.accepted -> Exists fun now => Exists fun token =>
        Usable (authRun hashToken past).store now acceptance.email token ∧ token.id = acceptance.tokenId)
    · intro old
      exact absurd old new
    · exact outcome
  used past rest split token member used := by
    subst split
    rw [authRun, Machine.run_append]
    have later : Later (authRun hashToken past).store
        ((authProtocol hashToken).machine.run (authRun hashToken past) rest).store :=
      later_run (authRun hashToken past) rest
    rcases later.tokens token member with ⟨later, laterMember, same⟩
    rw [same.used used] at laterMember
    exact laterMember
  verified past rest split user member verified acceptance acceptanceMember isEmail := by
    subst split
    rw [authRun, Machine.run_append] at acceptanceMember
    exact accepted_of_verified (standing_run past) member verified rest acceptance acceptanceMember isEmail

/-! ## Two codes that are made at the same time, and one code after another -/

def plainHash (code : String) : String := code

def advanceAt (process : Nat) (now : Time) (code : String) (fresh : Id) : AuthMove :=
  .advance process ⟨now, code, fresh, false⟩

/-- A customer registers. -/
def registered : List AuthMove :=
  [.start 0 (.register ⟨"customer@example.test", "Customer"⟩), advanceAt 0 1 "" "",
    advanceAt 0 2 "AAAAAAAA" "first"]

/-- Two requests for another code look for open codes before one of them commits. -/
def codesAtOnce : List AuthMove :=
  registered ++
    [.start 0 (.resend "customer@example.test"), advanceAt 0 3 "" "",
      .start 1 (.resend "customer@example.test"), advanceAt 1 4 "" "",
      advanceAt 0 5 "BBBBBBBB" "", advanceAt 1 6 "CCCCCCCC" "", advanceAt 0 7 "" "second",
      advanceAt 1 8 "" "third"]

def codeAt (now : Time) (code : String) (id : Id) : VerificationToken :=
  newToken plainHash "customer@example.test" code now id

theorem codes_not_kept_when_made_at_once : ¬ CodesKept plainHash codesAtOnce := by
  intro kept
  have pending : Exists fun user => user ∈ (authRun plainHash codesAtOnce).store.users ∧
      user.email = "customer@example.test" ∧ isPending user = true :=
    ⟨newUser ⟨"customer@example.test", "Customer"⟩ "first", by decide +kernel, rfl, rfl⟩
  have second : Usable (authRun plainHash codesAtOnce).store 9 "customer@example.test"
      (codeAt 5 "BBBBBBBB" "second") :=
    ⟨by decide +kernel, by decide +kernel, by decide, pending⟩
  have third : Usable (authRun plainHash codesAtOnce).store 9 "customer@example.test"
      (codeAt 6 "CCCCCCCC" "third") :=
    ⟨by decide +kernel, by decide +kernel, by decide, pending⟩
  have same := kept.single 9 "customer@example.test" _ _ second third
  exact absurd (congrArg VerificationToken.id same) (by decide)

/-- `Complete`, as a check. -/
def complete (crowd : Crowd AuthStore AuthPoint) : AuthMove -> Bool
  | .advance process _ =>
    match crowd.processes process with
    | some (.issuing email _ _ ids) => crowd.store.tokens.rows.all fun token =>
        !token.isOpenCode email || decide (token.id ∈ ids)
    | _ => true
  | _ => true

theorem complete_spec {move : AuthMove} (checked : complete crowd move = true) : Complete crowd move := by
  cases move with
  | start process call => trivial
  | stop process => trivial
  | ambient event => trivial
  | advance process draw =>
    simp only [complete] at checked
    simp only [Complete]
    split
    · rename_i here
      simp only [here, List.all_eq_true, Bool.or_eq_true, Bool.not_eq_true', decide_eq_true_eq] at checked
      intro _ token member isOpen _
      rcases checked token member with closed | marked
      · rw [isOpen] at closed
        cases closed
      · exact marked
    · trivial

/-- A code is sent again; the first one is refused, the second one accepted, and
used once. -/
def codeAfterCode : List AuthMove :=
  registered ++
    [.start 0 (.resend "customer@example.test"), advanceAt 0 3 "" "", advanceAt 0 4 "BBBBBBBB" "",
      advanceAt 0 5 "" "second", .start 0 (.verify "customer@example.test" "AAAAAAAA"), advanceAt 0 6 "" "",
      advanceAt 0 6 "" "", .start 0 (.verify "customer@example.test" " bbbbbbbb "),
      .start 1 (.verify "customer@example.test" "BBBBBBBB"), advanceAt 0 7 "" "", advanceAt 1 8 "" "",
      advanceAt 0 9 "" "", advanceAt 1 10 "" "", advanceAt 0 11 "" "", advanceAt 1 12 "" "",
      advanceAt 0 13 "" "", advanceAt 1 14 "" ""]

theorem codes_kept_of_complete_code_after_code :
    (authRun plainHash codeAfterCode).store.accepted = [⟨"customer@example.test", " bbbbbbbb ", "second"⟩] ∧
      CodesKept plainHash codeAfterCode := by
  refine ⟨by decide +kernel, ?_⟩
  apply codes_kept_of_complete
  have checked : (authProtocol plainHash).machine.Admits (fun crowd move => complete crowd move = true)
      (Crowd.opening ⟨∅, ∅, []⟩) codeAfterCode := by
    decide +kernel
  exact checked.mono fun _ _ => complete_spec

end Auth
end DigitalSolutions
