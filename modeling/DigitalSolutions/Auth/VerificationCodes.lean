import DigitalSolutions.Auth.NativeRegistration

namespace DigitalSolutions
namespace Auth

open Accounts Foundation Persistence

/-!
# Codes that verify an address

A used code stays used, a code is accepted at most once and for its own
address, whatever is interleaved.  Only the newest code of an address is open
as long as no two of them are made at the same time: a transaction marks the
codes that it can see.
-/

variable {hashToken : String -> String} {before after : AuthStore}

abbrev AuthMove := CrowdMove AuthCall AuthDraw AuthEvent

/-! ## Marked tokens -/

/-- What `markUsed` makes of a token. -/
def marked (ids : List Id) (now : Time) (token : VerificationToken) : VerificationToken :=
  if token.id ∈ ids ∧ token.usedAt = none then { token with usedAt := some now } else token

theorem rows_markUsed (ids : List Id) (now : Time) (tokens : Table VerificationToken) :
    (markUsed ids now tokens).rows = tokens.rows.map (marked ids now) :=
  tokens.rows_update

theorem marked_of_used {ids : List Id} {now : Time} {token : VerificationToken} (used : token.usedAt ≠ none) :
    marked ids now token = token :=
  if_neg fun both => used both.2

theorem used_of_marked {ids : List Id} {now : Time} {token : VerificationToken} (member : token.id ∈ ids) :
    (marked ids now token).usedAt ≠ none := by
  by_cases isOpen : token.usedAt = none
  · rw [marked, if_pos ⟨member, isOpen⟩]
    exact Option.some_ne_none now
  · rw [marked_of_used isOpen]
    exact isOpen

/-- The columns of a token that never change. -/
structure SameToken (old new : VerificationToken) : Prop where
  id : new.id = old.id
  identifier : new.identifier = old.identifier
  purpose : new.purpose = old.purpose
  tokenHash : new.tokenHash = old.tokenHash
  /-- What is used changes no more. -/
  used : old.usedAt ≠ none -> new = old

theorem SameToken.refl (token : VerificationToken) : SameToken token token :=
  ⟨rfl, rfl, rfl, rfl, fun _ => rfl⟩

theorem SameToken.trans {first second third : VerificationToken} (left : SameToken first second)
    (right : SameToken second third) : SameToken first third where
  id := right.id.trans left.id
  identifier := right.identifier.trans left.identifier
  purpose := right.purpose.trans left.purpose
  tokenHash := right.tokenHash.trans left.tokenHash
  used isUsed := by
    have same := left.used isUsed
    subst same
    exact right.used isUsed

theorem SameToken.isCodeOf {old new : VerificationToken} (same : SameToken old new) (email : String) :
    new.isCodeOf email = old.isCodeOf email := by
  rw [VerificationToken.isCodeOf, VerificationToken.isCodeOf, same.identifier, same.purpose]

theorem sameToken_marked (ids : List Id) (now : Time) (token : VerificationToken) :
    SameToken token (marked ids now token) := by
  by_cases chosen : token.id ∈ ids ∧ token.usedAt = none
  · rw [marked, if_pos chosen]
    exact ⟨rfl, rfl, rfl, rfl, fun used => absurd chosen.2 used⟩
  · rw [marked, if_neg chosen]
    exact SameToken.refl token

/-! ## Later stores -/

structure SameUser (old new : User) : Prop where
  id : new.id = old.id
  email : new.email = old.email
  verified : old.emailVerified ≠ none -> new.emailVerified ≠ none

theorem SameUser.refl (user : User) : SameUser user user := ⟨rfl, rfl, fun verified => verified⟩

/-- Users and tokens are still there; users stay verified and tokens used. -/
structure Later (before after : AuthStore) : Prop where
  users : forall user, user ∈ before.users -> Exists fun later => later ∈ after.users ∧ SameUser user later
  tokens : forall token, token ∈ before.tokens ->
    Exists fun later => later ∈ after.tokens ∧ SameToken token later

namespace Later

theorem refl (store : AuthStore) : Later store store where
  users user member := ⟨user, member, SameUser.refl user⟩
  tokens token member := ⟨token, member, SameToken.refl token⟩

theorem trans {first second third : AuthStore} (left : Later first second) (right : Later second third) :
    Later first third where
  users user member := by
    rcases left.users user member with ⟨middle, middleMember, toMiddle⟩
    rcases right.users middle middleMember with ⟨later, laterMember, toLater⟩
    exact ⟨later, laterMember, toLater.id.trans toMiddle.id, toLater.email.trans toMiddle.email,
      fun verified => toLater.verified (toMiddle.verified verified)⟩
  tokens token member := by
    rcases left.tokens token member with ⟨middle, middleMember, toMiddle⟩
    rcases right.tokens middle middleMember with ⟨later, laterMember, toLater⟩
    exact ⟨later, laterMember, toMiddle.trans toLater⟩

end Later

/-! ## Rows under their keys -/

theorem user_of_id {users : Table User} {left right : User} (leftMember : left ∈ users)
    (rightMember : right ∈ users) (same : left.id = right.id) : left = right := by
  have occupied : User.Key.id left.id ∈ Keyed.keys right := by
    rw [same]
    exact List.mem_cons_self
  exact users.eq_of_common_key leftMember rightMember List.mem_cons_self occupied

theorem user_of_email {users : Table User} {left right : User} (leftMember : left ∈ users)
    (rightMember : right ∈ users) (same : left.email = right.email) : left = right := by
  have inLeft : User.Key.email left.email ∈ Keyed.keys left := List.mem_cons_of_mem _ List.mem_cons_self
  have inRight : User.Key.email left.email ∈ Keyed.keys right := by
    rw [same]
    exact List.mem_cons_of_mem _ List.mem_cons_self
  exact users.eq_of_common_key leftMember rightMember inLeft inRight

theorem token_of_id {tokens : Table VerificationToken} {left right : VerificationToken}
    (leftMember : left ∈ tokens) (rightMember : right ∈ tokens) (same : left.id = right.id) : left = right := by
  have occupied : VerificationToken.Key.id left.id ∈ Keyed.keys right := by
    rw [same]
    exact List.mem_cons_self
  exact tokens.eq_of_common_key leftMember rightMember List.mem_cons_self occupied

/-! ## What an access writes -/

/-- A token that a commit finds open. -/
def OpenToken (store : AuthStore) (tokenId : Id) (now : Time) : Prop :=
  Exists fun token => token ∈ store.tokens ∧ token.id = tokenId ∧ token.usedAt = none ∧ now < token.expiresAt

inductive AuthWrite (hashToken : String -> String) (before after : AuthStore) : AuthPoint -> Prop
  | kept {point : AuthPoint} (same : after = before) : AuthWrite hashToken before after point
  | registered {input : RegistrationInput} {code : String} {now : Time} {id : Id}
      (users : before.users.insert (newUser input id) = some after.users)
      (tokens : before.tokens.insert (newToken hashToken input.email code now id) = some after.tokens)
      (accepted : after.accepted = before.accepted) : AuthWrite hashToken before after (.creating input)
  | issued {email code : String} {now : Time} {ids : List Id} {id : Id} (users : after.users = before.users)
      (tokens : (markUsed ids now before.tokens).insert (newToken hashToken email code now id) =
        some after.tokens)
      (accepted : after.accepted = before.accepted) :
      AuthWrite hashToken before after (.issuing email code now ids)
  | consumed {email code : String} {userId tokenId : Id} {now : Time} {ids : List Id}
      (users : after.users = before.users) (tokens : after.tokens = markUsed (tokenId :: ids) now before.tokens)
      (accepted : after.accepted = before.accepted) :
      AuthWrite hashToken before after (.consuming email code userId tokenId now ids)
  | accepted {email code : String} {userId tokenId : Id} {now : Time} {ids : List Id} {user : User}
      (openToken : OpenToken before tokenId now) (member : user ∈ before.users) (isUser : user.id = userId)
      (pending : isPending user = true)
      (users : after.users.rows = before.users.rows.map fun user =>
        if user.id = userId ∧ isPending user = true then { user with emailVerified := some now } else user)
      (tokens : after.tokens = markUsed (tokenId :: ids) now before.tokens)
      (accepted : after.accepted = before.accepted ++ [⟨email, code, tokenId⟩]) :
      AuthWrite hashToken before after (.consuming email code userId tokenId now ids)

theorem consumeCode_write (store : AuthStore) (email code : String) (userId tokenId : Id) (now : Time)
    (ids : List Id) :
    AuthWrite hashToken store (consumeCode email code userId tokenId now ids store)
      (.consuming email code userId tokenId now ids) := by
  unfold consumeCode
  split
  · rename_i found
    rcases List.any_eq_true.mp found with ⟨token, tokenMember, isToken⟩
    simp only [Bool.and_eq_true, decide_eq_true_eq, Option.isNone_iff_eq_none] at isToken
    split
    · rename_i stands
      rcases List.any_eq_true.mp stands with ⟨user, userMember, isUser⟩
      rw [Bool.and_eq_true, decide_eq_true_eq] at isUser
      exact .accepted ⟨token, tokenMember, isToken.1.1, isToken.1.2, isToken.2⟩ userMember isUser.1 isUser.2
        store.users.rows_update rfl rfl
    · exact .consumed rfl rfl rfl
  · exact .kept rfl

theorem authStep_write (store : AuthStore) (draw : AuthDraw) (point : AuthPoint) :
    AuthWrite hashToken store (authStep hashToken store draw point).1 point := by
  cases point with
  | checking input =>
    simp only [authStep]
    split
    · exact .kept rfl
    · exact .kept rfl
  | creating input =>
    simp only [authStep]
    cases created : createCustomer hashToken input draw.code draw.now draw.fresh store with
    | none => exact .kept rfl
    | some after =>
      simp only [createCustomer] at created
      split at created
      · cases created
      · rename_i users usersInserted
        split at created
        · cases created
        · rename_i tokens tokensInserted
          cases created
          exact .registered usersInserted tokensInserted rfl
  | resending email =>
    simp only [authStep]
    split
    · exact .kept rfl
    · exact .kept rfl
  | marking email => exact .kept rfl
  | issuing email code now ids =>
    simp only [authStep]
    cases issued : issueCode hashToken email code now ids draw.fresh store with
    | none => exact .kept rfl
    | some after =>
      simp only [issueCode] at issued
      split at issued
      · cases issued
      · rename_i tokens inserted
        cases issued
        exact .issued rfl inserted rfl
  | reading email code =>
    simp only [authStep]
    split
    · exact .kept rfl
    · exact .kept rfl
  | finding email code userId now =>
    simp only [authStep]
    split
    · exact .kept rfl
    · exact .kept rfl
  | sweeping email code userId tokenId now => exact .kept rfl
  | consuming email code userId tokenId now ids => exact consumeCode_write store email code userId tokenId now ids

theorem later_markUsed {ids : List Id} {now : Time} (users : after.users = before.users)
    (tokens : after.tokens = markUsed ids now before.tokens) : Later before after where
  users user member := ⟨user, users ▸ member, SameUser.refl user⟩
  tokens token member := by
    refine ⟨marked ids now token, ?_, sameToken_marked ids now token⟩
    rw [tokens]
    exact (Table.mem_of_rows (rows_markUsed ids now before.tokens)).mpr ⟨token, member, rfl⟩

namespace AuthWrite

variable {point : AuthPoint}

theorem later (write : AuthWrite hashToken before after point) : Later before after := by
  cases write with
  | kept same =>
    rw [same]
    exact Later.refl before
  | registered users tokens accepted =>
    refine ⟨?_, ?_⟩
    · intro user member
      exact ⟨user, (Table.mem_insert users).mpr (Or.inl member), SameUser.refl user⟩
    · intro token member
      exact ⟨token, (Table.mem_insert tokens).mpr (Or.inl member), SameToken.refl token⟩
  | @issued email code now ids id users tokens accepted =>
    refine ⟨fun user member => ⟨user, users ▸ member, SameUser.refl user⟩, ?_⟩
    intro token member
    refine ⟨marked ids now token, (Table.mem_insert tokens).mpr (Or.inl ?_), sameToken_marked ids now token⟩
    exact (Table.mem_of_rows (rows_markUsed ids now before.tokens)).mpr ⟨token, member, rfl⟩
  | consumed users tokens accepted => exact later_markUsed users tokens
  | accepted openToken member isUser pending users tokens accepted =>
    refine ⟨?_, ?_⟩
    · intro user userMember
      refine ⟨_, (Table.mem_of_rows users).mpr ⟨user, userMember, rfl⟩, ?_⟩
      split
      · exact ⟨rfl, rfl, fun _ => Option.some_ne_none _⟩
      · exact SameUser.refl user
    · have swept : Later before { after with users := before.users } := later_markUsed rfl tokens
      exact swept.tokens

end AuthWrite

theorem authEvent_later {event : AuthEvent} (changed : authEvent before event = .ok after) :
    Later before after ∧ after.accepted = before.accepted := by
  have users : forall (change : User -> User), after.users.rows = before.users.rows.map change ->
      (forall user, SameUser user (change user)) -> after.tokens = before.tokens -> Later before after := by
    intro change rows same tokens
    refine ⟨?_, fun token member => ⟨token, tokens ▸ member, SameToken.refl token⟩⟩
    intro user member
    exact ⟨change user, (Table.mem_of_rows rows).mpr ⟨user, member, rfl⟩, same user⟩
  cases event with
  | otherToken token =>
    simp only [authEvent] at changed
    split at changed
    · cases changed
    · split at changed
      · cases changed
      · rename_i tokens inserted
        cases changed
        refine ⟨⟨fun user member => ⟨user, member, SameUser.refl user⟩, ?_⟩, rfl⟩
        intro old member
        exact ⟨old, (Table.mem_insert inserted).mpr (Or.inl member), SameToken.refl old⟩
  | browserVerified email now =>
    cases changed
    refine ⟨users _ before.users.rows_update ?_ rfl, rfl⟩
    intro user
    split
    · exact ⟨rfl, rfl, fun _ => Option.some_ne_none now⟩
    · exact SameUser.refl user
  | lifecycle userId state =>
    cases changed
    refine ⟨users _ before.users.rows_update ?_ rfl, rfl⟩
    intro user
    split
    · exact ⟨rfl, rfl, fun verified => verified⟩
    · exact SameUser.refl user

end Auth
end DigitalSolutions
