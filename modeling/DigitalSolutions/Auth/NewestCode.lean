import DigitalSolutions.Auth.VerificationCodes

namespace DigitalSolutions
namespace Auth

open Accounts Foundation Persistence

/-!
# The newest code of an address

What requests hold while they are under way, what the tables hold in every
run, and that only the newest code of an address can be used in a run whose
new codes miss no open one.
-/

variable {hashToken : String -> String} {before after : AuthStore}
variable {email : String} {change : VerificationToken -> VerificationToken}

/-! ## Requests under way -/

def HasUser (store : AuthStore) (email : String) : Prop :=
  Exists fun user => user ∈ store.users ∧ user.email = email

/-- The row of a user under an address. -/
def IsUser (store : AuthStore) (email : String) (userId : Id) : Prop :=
  Exists fun user => user ∈ store.users ∧ user.id = userId ∧ user.email = email

/-- The token of a code that was submitted for an address. -/
def IsCode (hashToken : String -> String) (store : AuthStore) (email code : String) (tokenId : Id) : Prop :=
  Exists fun token => token ∈ store.tokens ∧ token.id = tokenId ∧ token.isCodeOf email = true ∧
    token.tokenHash = submittedHash hashToken code

/-- What a request has read stays true. -/
def Placed (hashToken : String -> String) (store : AuthStore) : AuthPoint -> Prop
  | .marking email => HasUser store email
  | .issuing email _ _ _ => HasUser store email
  | .finding email _ userId _ => IsUser store email userId
  | .sweeping email code userId tokenId _ =>
    IsUser store email userId ∧ IsCode hashToken store email code tokenId
  | .consuming email code userId tokenId _ _ =>
    IsUser store email userId ∧ IsCode hashToken store email code tokenId
  | _ => True

theorem HasUser.later (hasUser : HasUser before email) (later : Later before after) :
    HasUser after email := by
  rcases hasUser with ⟨user, member, isEmail⟩
  rcases later.users user member with ⟨new, newMember, same⟩
  exact ⟨new, newMember, same.email.trans isEmail⟩

theorem IsUser.later {userId : Id} (isUser : IsUser before email userId) (later : Later before after) :
    IsUser after email userId := by
  rcases isUser with ⟨user, member, isId, isEmail⟩
  rcases later.users user member with ⟨new, newMember, same⟩
  exact ⟨new, newMember, same.id.trans isId, same.email.trans isEmail⟩

theorem IsCode.later {code : String} {tokenId : Id} (isCode : IsCode hashToken before email code tokenId)
    (later : Later before after) : IsCode hashToken after email code tokenId := by
  rcases isCode with ⟨token, member, isId, isCodeOf, isHash⟩
  rcases later.tokens token member with ⟨new, newMember, same⟩
  exact ⟨new, newMember, same.id.trans isId, (same.isCodeOf email).trans isCodeOf, same.tokenHash.trans isHash⟩

theorem Placed.later {point : AuthPoint} (placed : Placed hashToken before point) (later : Later before after) :
    Placed hashToken after point := by
  cases point with
  | marking email => exact HasUser.later placed later
  | issuing email code now ids => exact HasUser.later placed later
  | finding email code userId now => exact IsUser.later placed later
  | sweeping email code userId tokenId now => exact ⟨placed.1.later later, placed.2.later later⟩
  | consuming email code userId tokenId now ids => exact ⟨placed.1.later later, placed.2.later later⟩
  | _ => trivial

/-- Where an access takes a request. -/
theorem placed_next {store : AuthStore} {draw : AuthDraw} {point next : AuthPoint}
    (placed : Placed hashToken store point) (isNext : (authStep hashToken store draw point).2 = some next) :
    Placed hashToken (authStep hashToken store draw point).1 next := by
  cases point with
  | checking input =>
    simp only [authStep] at isNext ⊢
    split at isNext
    · cases isNext
    · cases isNext
      trivial
  | creating input => cases isNext
  | resending email =>
    simp only [authStep] at isNext ⊢
    split at isNext
    · cases isNext
    · rename_i user found
      split at isNext
      · cases isNext
        exact ⟨user, store.users.lookup_mem found, rfl⟩
      · cases isNext
  | marking email =>
    cases isNext
    exact placed
  | issuing email code now ids => cases isNext
  | reading email code =>
    simp only [authStep] at isNext ⊢
    split at isNext
    · cases isNext
    · rename_i user found
      have occupied := store.users.lookup_key found
      simp only [Keyed.keys, List.mem_cons, List.not_mem_nil, or_false, reduceCtorEq, false_or,
        User.Key.email.injEq] at occupied
      split at isNext
      · cases isNext
        exact ⟨user, store.users.lookup_mem found, rfl, occupied.symm⟩
      · cases isNext
  | finding email code userId now =>
    simp only [authStep] at isNext ⊢
    split at isNext
    · cases isNext
    · rename_i token found
      cases isNext
      rcases Option.filter_eq_some_iff.mp found with ⟨isToken, isOpen⟩
      have occupied := store.tokens.lookup_key isToken
      simp only [Keyed.keys, List.mem_cons, List.not_mem_nil, or_false, reduceCtorEq, false_or,
        VerificationToken.Key.tokenHash.injEq] at occupied
      rw [Bool.and_eq_true, VerificationToken.isOpenCode, Bool.and_eq_true] at isOpen
      exact ⟨placed, token, store.tokens.lookup_mem isToken, rfl, isOpen.1.1, occupied.symm⟩
  | sweeping email code userId tokenId now =>
    cases isNext
    exact placed
  | consuming email code userId tokenId now ids => cases isNext

/-! ## What the tables hold in every run -/

/-- The used code of the address that was accepted. -/
def IsUsedCode (hashToken : String -> String) (store : AuthStore) (acceptance : Acceptance) : Prop :=
  Exists fun token => token ∈ store.tokens ∧ token.id = acceptance.tokenId ∧ token.usedAt ≠ none ∧
    token.isCodeOf acceptance.email = true ∧ token.tokenHash = submittedHash hashToken acceptance.code

structure Sound (hashToken : String -> String) (store : AuthStore) : Prop where
  owners : forall token, token ∈ store.tokens -> forall email, token.isCodeOf email = true -> HasUser store email
  accepted : forall acceptance, acceptance ∈ store.accepted -> IsUsedCode hashToken store acceptance
  once : (store.accepted.map Acceptance.tokenId).Nodup

theorem IsUsedCode.later {acceptance : Acceptance} (isUsed : IsUsedCode hashToken before acceptance)
    (later : Later before after) : IsUsedCode hashToken after acceptance := by
  rcases isUsed with ⟨token, member, isId, used, isCodeOf, isHash⟩
  rcases later.tokens token member with ⟨new, newMember, same⟩
  rw [same.used used] at newMember
  exact ⟨token, newMember, isId, used, isCodeOf, isHash⟩

theorem newToken_isCodeOf {code other : String} {now : Time} {id : Id} :
    (newToken hashToken email code now id).isCodeOf other = true ↔ email = other := by
  rw [VerificationToken.isCodeOf, Bool.and_eq_true, decide_eq_true_eq, decide_eq_true_eq]
  exact and_iff_left rfl

/-- Sound tables stay sound when the accepted verifications are the same. -/
theorem Sound.later (sound : Sound hashToken before) (later : Later before after)
    (accepted : after.accepted = before.accepted)
    (owners : forall token, token ∈ after.tokens -> forall email, token.isCodeOf email = true ->
      HasUser after email) : Sound hashToken after where
  owners := owners
  accepted acceptance member := by
    rw [accepted] at member
    exact (sound.accepted acceptance member).later later
  once := by
    rw [accepted]
    exact sound.once

theorem owners_markUsed {ids : List Id} {now : Time} (sound : Sound hashToken before)
    (later : Later before after) {token : VerificationToken}
    (member : token ∈ markUsed ids now before.tokens) (isCodeOf : token.isCodeOf email = true) :
    HasUser after email := by
  rcases (Table.mem_of_rows (rows_markUsed ids now before.tokens)).mp member with ⟨old, oldMember, rfl⟩
  rw [(sameToken_marked ids now old).isCodeOf] at isCodeOf
  exact (sound.owners old oldMember email isCodeOf).later later

namespace AuthWrite

variable {point : AuthPoint}

theorem sound (write : AuthWrite hashToken before after point) (placed : Placed hashToken before point)
    (sound : Sound hashToken before) : Sound hashToken after := by
  have later := write.later
  cases write with
  | kept same =>
    rw [same]
    exact sound
  | @registered input code now id users tokens accepted =>
    apply sound.later later accepted
    intro token member email isCodeOf
    rcases (Table.mem_insert tokens).mp member with old | rfl
    · exact (sound.owners token old email isCodeOf).later later
    · rw [newToken_isCodeOf] at isCodeOf
      exact ⟨newUser input id, (Table.mem_insert users).mpr (Or.inr rfl), isCodeOf⟩
  | issued users tokens accepted =>
    apply sound.later later accepted
    intro token member email isCodeOf
    rcases (Table.mem_insert tokens).mp member with old | rfl
    · exact owners_markUsed sound later old isCodeOf
    · rw [newToken_isCodeOf] at isCodeOf
      subst isCodeOf
      exact HasUser.later placed later
  | consumed users tokens accepted =>
    apply sound.later later accepted
    intro token member email isCodeOf
    rw [tokens] at member
    exact owners_markUsed sound later member isCodeOf
  | @accepted email code userId tokenId now ids user openToken member isUser pending users tokens accepted =>
    rcases placed.2 with ⟨token, tokenMember, isId, isCodeOf, isHash⟩
    refine ⟨?_, ?_, ?_⟩
    · intro other otherMember otherEmail otherCode
      rw [tokens] at otherMember
      exact owners_markUsed sound later otherMember otherCode
    · intro acceptance acceptanceMember
      rw [accepted] at acceptanceMember
      rcases List.mem_append.mp acceptanceMember with old | new
      · exact (sound.accepted acceptance old).later later
      · rw [List.mem_singleton] at new
        subst new
        have same := sameToken_marked (tokenId :: ids) now token
        refine ⟨marked (tokenId :: ids) now token, ?_, same.id.trans isId, ?_, ?_, same.tokenHash.trans isHash⟩
        · rw [tokens]
          exact (Table.mem_of_rows (rows_markUsed _ now before.tokens)).mpr ⟨token, tokenMember, rfl⟩
        · apply used_of_marked
          rw [isId]
          exact List.mem_cons_self
        · exact (same.isCodeOf email).trans isCodeOf
    · rw [accepted, List.map_append, List.nodup_append]
      refine ⟨sound.once, List.nodup_singleton _, ?_⟩
      intro old oldMember new newMember same
      rw [List.map_singleton, List.mem_singleton] at newMember
      rcases List.mem_map.mp oldMember with ⟨acceptance, acceptanceMember, isOld⟩
      rcases sound.accepted acceptance acceptanceMember with ⟨used, usedMember, usedId, isUsed, _⟩
      rcases openToken with ⟨fresh, freshMember, freshId, isFresh, _⟩
      -- The token was used by the earlier acceptance and is open now.
      have sameId : used.id = fresh.id := by
        rw [usedId, freshId, isOld, same, newMember]
      rw [token_of_id usedMember freshMember sameId] at isUsed
      exact isUsed isFresh

end AuthWrite

theorem sound_authEvent {event : AuthEvent} (changed : authEvent before event = .ok after)
    (sound : Sound hashToken before) : Sound hashToken after := by
  have known := authEvent_later changed
  apply sound.later known.1 known.2
  intro token member email isCodeOf
  cases event with
  | otherToken other =>
    simp only [authEvent] at changed
    split at changed
    · cases changed
    · rename_i isOther
      split at changed
      · cases changed
      · rename_i tokens inserted
        cases changed
        rcases (Table.mem_insert inserted).mp member with old | rfl
        · exact (sound.owners token old email isCodeOf).later known.1
        · simp only [VerificationToken.isCodeOf, Bool.and_eq_true, decide_eq_true_eq] at isCodeOf
          exact absurd isCodeOf.2 isOther
  | browserVerified address now =>
    cases changed
    exact (sound.owners token member email isCodeOf).later known.1
  | lifecycle userId state =>
    cases changed
    exact (sound.owners token member email isCodeOf).later known.1

/-! ## Newer codes supersede older ones -/

/-- Of two codes of an address that has not been verified, the older one is
used. -/
def Superseded (store : AuthStore) (older newer : VerificationToken) : Prop :=
  forall email, older.isCodeOf email = true -> newer.isCodeOf email = true -> older.usedAt = none ->
    Exists fun user => user ∈ store.users ∧ user.email = email ∧ user.emailVerified ≠ none

def NewestOnly (store : AuthStore) : Prop := store.tokens.rows.Pairwise (Superseded store)

theorem Superseded.later {older newer laterOlder laterNewer : VerificationToken}
    (superseded : Superseded before older newer) (later : Later before after)
    (sameOlder : SameToken older laterOlder) (sameNewer : SameToken newer laterNewer) :
    Superseded after laterOlder laterNewer := by
  intro email olderCode newerCode isOpen
  rw [sameOlder.isCodeOf] at olderCode
  rw [sameNewer.isCodeOf] at newerCode
  have wasOpen : older.usedAt = none := by
    by_contra used
    rw [sameOlder.used used] at isOpen
    exact used isOpen
  rcases superseded email olderCode newerCode wasOpen with ⟨user, member, isEmail, verified⟩
  rcases later.users user member with ⟨new, newMember, same⟩
  exact ⟨new, newMember, same.email.trans isEmail, same.verified verified⟩

/-- New tokens that supersede the ones that are there. -/
theorem NewestOnly.later {added : List VerificationToken} (newest : NewestOnly before)
    (later : Later before after) (rows : after.tokens.rows = before.tokens.rows.map change ++ added)
    (same : forall token, SameToken token (change token)) (short : added.length ≤ 1)
    (supersedes : forall token, token ∈ before.tokens -> forall new, new ∈ added ->
      Superseded after (change token) new) : NewestOnly after := by
  rw [NewestOnly, rows, List.pairwise_append, List.pairwise_map]
  refine ⟨?_, ?_, ?_⟩
  · apply List.Pairwise.imp _ newest
    intro older newer superseded
    exact superseded.later later (same older) (same newer)
  · cases added with
    | nil => exact List.Pairwise.nil
    | cons new rest =>
      have none' : rest = [] := List.eq_nil_of_length_eq_zero (Nat.le_zero.mp (Nat.le_of_succ_le_succ short))
      rw [none']
      exact List.pairwise_singleton _ new
  · intro token member new newMember
    rcases List.mem_map.mp member with ⟨old, oldMember, rfl⟩
    exact supersedes old oldMember new newMember

/-- No token is added. -/
theorem NewestOnly.of_map (newest : NewestOnly before) (later : Later before after)
    (rows : after.tokens.rows = before.tokens.rows.map change)
    (same : forall token, SameToken token (change token)) : NewestOnly after := by
  have added : after.tokens.rows = before.tokens.rows.map change ++ [] := by
    rw [List.append_nil]
    exact rows
  apply newest.later later added same (Nat.zero_le 1)
  intro token member new newMember
  cases newMember

/-- A new code is made when each open code of the address has been found by the
update before it, or the address is verified. -/
def Complete (crowd : Crowd AuthStore AuthPoint) : AuthMove -> Prop
  | .advance process draw =>
    match crowd.processes process with
    | some (.issuing email _ _ ids) => draw.throws = false -> forall token, token ∈ crowd.store.tokens ->
        token.isOpenCode email = true ->
        (forall user, user ∈ crowd.store.users -> user.email = email -> user.emailVerified = none) ->
        token.id ∈ ids
    | _ => True
  | _ => True

theorem AuthWrite.newestOnly {point : AuthPoint} (write : AuthWrite hashToken before after point)
    (complete : forall email code now ids, point = .issuing email code now ids -> forall token,
      token ∈ before.tokens -> token.isOpenCode email = true ->
      (forall user, user ∈ before.users -> user.email = email -> user.emailVerified = none) -> token.id ∈ ids)
    (sound : Sound hashToken before) (newest : NewestOnly before) : NewestOnly after := by
  have later := write.later
  cases write with
  | kept same =>
    rw [same]
    exact newest
  | @registered input code now id users tokens accepted =>
    have rows : after.tokens.rows = before.tokens.rows.map (fun token => token) ++
        [newToken hashToken input.email code now id] := by
      rw [List.map_id']
      exact Table.rows_insert tokens
    apply newest.later later rows SameToken.refl (Nat.le_refl 1)
    intro token member new isNew email olderCode newerCode _
    rw [List.mem_singleton.mp isNew, newToken_isCodeOf] at newerCode
    subst newerCode
    rcases sound.owners token member _ olderCode with ⟨user, userMember, isEmail⟩
    -- The insertion of the user has found no user of the address.
    have free : before.users.lookup (.email input.email) = none :=
      Table.lookup_eq_none_of_insert users (List.mem_cons_of_mem _ List.mem_cons_self)
    refine absurd ?_ (before.users.lookup_eq_none.mp free user userMember)
    rw [← isEmail]
    exact List.mem_cons_of_mem _ List.mem_cons_self
  | @issued address code now ids id users tokens accepted =>
    have rows : after.tokens.rows = before.tokens.rows.map (marked ids now) ++
        [newToken hashToken address code now id] := by
      rw [← rows_markUsed]
      exact Table.rows_insert tokens
    apply newest.later later rows (sameToken_marked ids now) (Nat.le_refl 1)
    intro token member new isNew email olderCode newerCode isOpen
    rw [List.mem_singleton.mp isNew, newToken_isCodeOf] at newerCode
    subst newerCode
    rw [(sameToken_marked ids now token).isCodeOf] at olderCode
    have wasOpen : token.usedAt = none := by
      by_contra used
      rw [marked_of_used used] at isOpen
      exact used isOpen
    have openCode : token.isOpenCode address = true := by
      rw [VerificationToken.isOpenCode, olderCode, wasOpen]
      rfl
    by_contra unverified
    have pending : forall user, user ∈ before.users -> user.email = address -> user.emailVerified = none := by
      intro user userMember isEmail
      by_contra verified
      exact unverified ⟨user, users ▸ userMember, isEmail, verified⟩
    exact used_of_marked (complete address code now ids rfl token member openCode pending) isOpen
  | @consumed email code userId tokenId now ids users tokens accepted =>
    apply newest.of_map later _ (sameToken_marked (tokenId :: ids) now)
    rw [tokens]
    exact rows_markUsed (tokenId :: ids) now before.tokens
  | @accepted email code userId tokenId now ids user openToken member isUser pending users tokens accepted =>
    apply newest.of_map later _ (sameToken_marked (tokenId :: ids) now)
    rw [tokens]
    exact rows_markUsed (tokenId :: ids) now before.tokens

theorem newestOnly_authEvent {event : AuthEvent} (changed : authEvent before event = .ok after)
    (newest : NewestOnly before) : NewestOnly after := by
  have known := authEvent_later changed
  cases event with
  | otherToken other =>
    simp only [authEvent] at changed
    split at changed
    · cases changed
    · rename_i isOther
      split at changed
      · cases changed
      · rename_i tokens inserted
        cases changed
        have rows : tokens.rows = before.tokens.rows.map (fun token => token) ++ [other] := by
          rw [List.map_id']
          exact Table.rows_insert inserted
        apply newest.later known.1 rows SameToken.refl (Nat.le_refl 1)
        intro token member new isNew email _ newerCode _
        rw [List.mem_singleton.mp isNew] at newerCode
        simp only [VerificationToken.isCodeOf, Bool.and_eq_true, decide_eq_true_eq] at newerCode
        exact absurd newerCode.2 isOther
  | browserVerified address now =>
    cases changed
    exact newest.of_map known.1 (List.map_id' _).symm SameToken.refl
  | lifecycle userId state =>
    cases changed
    exact newest.of_map known.1 (List.map_id' _).symm SameToken.refl

end Auth
end DigitalSolutions
