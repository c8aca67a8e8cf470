import DigitalSolutions.Accounts.CustomerRecords
import DigitalSolutions.Foundation.Processes
import DigitalSolutions.Platform.Text

namespace DigitalSolutions
namespace Auth

open Accounts Foundation Persistence Platform

/-!
# Native registration and its verification codes

A customer registers with an e-mail address and proves it with a code.  The
transactions run at the default isolation: each statement sees what was
committed when it began, and what a transaction writes is there for others
when it commits.  A row that a transaction has updated stays locked until
then, so whether it still meets the update's condition is decided at the
commit here.
-/

def nativeEmailVerificationPurpose : String := "VERIFY_EMAIL_NATIVE"

def browserEmailVerificationPurpose : String := "VERIFY_EMAIL"

def verificationTtlMs : Int := 10 * 60000

structure VerificationToken where
  id : Id
  identifier : String
  purpose : String
  tokenHash : String
  expiresAt : Time
  usedAt : Option Time
  deriving DecidableEq

inductive VerificationToken.Key
  | id (value : Id) | tokenHash (value : String)
  deriving DecidableEq

instance : Keyed VerificationToken VerificationToken.Key where
  keys token := [.id token.id, .tokenHash token.tokenHash]

namespace VerificationToken

/-- A code of an address. -/
def isCodeOf (email : String) (token : VerificationToken) : Bool :=
  token.identifier = email && token.purpose = nativeEmailVerificationPurpose

/-- A code of an address that has not been used. -/
def isOpenCode (email : String) (token : VerificationToken) : Bool :=
  token.isCodeOf email && token.usedAt.isNone

/-- What a verification uses up besides the code itself. -/
def isSwept (email : String) (token : VerificationToken) : Bool :=
  token.identifier = email &&
    (token.purpose = browserEmailVerificationPurpose || token.purpose = nativeEmailVerificationPurpose) &&
    token.usedAt.isNone

end VerificationToken

/-- A verification that was answered with success: the address, the code as it
was submitted, and the token. -/
structure Acceptance where
  email : String
  code : String
  tokenId : Id
  deriving DecidableEq

/-- The two tables, and the accepted verifications in order. -/
structure AuthStore where
  users : Table User
  tokens : Table VerificationToken
  accepted : List Acceptance
  deriving DecidableEq

/-- The user may still be verified. -/
def isPending (user : User) : Bool := user.emailVerified.isNone && user.lifecycleState = .active

/-- Open tokens are marked as used. -/
def markUsed (ids : List Id) (now : Time) (tokens : Table VerificationToken) : Table VerificationToken :=
  tokens.update (fun token => token.id ∈ ids ∧ token.usedAt = none) fun token => { token with usedAt := some now }

structure RegistrationInput where
  email : String
  name : String
  deriving DecidableEq

def newUser (input : RegistrationInput) (id : Id) : User :=
  { id
    email := input.email
    name := some input.name
    emailVerified := none
    role := .customer
    suspendedAt := none
    lifecycleState := .active
    privacyRequestedAt := none
    pseudonymizedAt := none
    retentionExpiresAt := none
    legalHoldAt := none
    legalHoldReason := none
    emailHash := none }

section Hash

variable (hashToken : String -> String)

def newToken (email code : String) (now : Time) (id : Id) : VerificationToken :=
  { id
    identifier := email
    purpose := nativeEmailVerificationPurpose
    tokenHash := hashToken code
    expiresAt := now + verificationTtlMs
    usedAt := none }

/-- The transaction of a registration, which commits the user with the code or
nothing. -/
def createCustomer (input : RegistrationInput) (code : String) (now : Time) (id : Id) (store : AuthStore) :
    Option AuthStore :=
  match store.users.insert (newUser input id) with
  | none => none
  | some users =>
    match store.tokens.insert (newToken hashToken input.email code now id) with
    | none => none
    | some tokens => some { store with users, tokens }

/-- The commit of a new code, which marks the open codes that its update has
found. -/
def issueCode (email code : String) (now : Time) (ids : List Id) (id : Id) (store : AuthStore) :
    Option AuthStore :=
  match (markUsed ids now store.tokens).insert (newToken hashToken email code now id) with
  | none => none
  | some tokens => some { store with tokens }

/-- The hash of a submitted code. -/
def submittedHash (code : String) : String := hashToken (toUpperCase (trim code))

/-- The token of a submitted code, when it may be consumed. -/
def findCode (email code : String) (now : Time) (store : AuthStore) : Option VerificationToken :=
  (store.tokens.lookup (.tokenHash (submittedHash hashToken code))).filter fun token =>
    token.isOpenCode email && now < token.expiresAt

end Hash

/-- The commit of a verification.  When the code has been used meanwhile nothing
is written; when the user has been verified meanwhile the code is used up but
not accepted. -/
def consumeCode (email code : String) (userId tokenId : Id) (now : Time) (ids : List Id) (store : AuthStore) :
    AuthStore :=
  if store.tokens.rows.any (fun token => token.id = tokenId && token.usedAt.isNone && now < token.expiresAt) then
    let tokens := markUsed (tokenId :: ids) now store.tokens
    if store.users.rows.any (fun user => user.id = userId && isPending user) then
      { users := store.users.update (fun user => user.id = userId ∧ isPending user = true) fun user =>
          { user with emailVerified := some now }
        tokens
        accepted := store.accepted ++ [⟨email, code, tokenId⟩] }
    else { store with tokens }
  else store

/-! ## Concurrent requests -/

inductive AuthCall
  | register (input : RegistrationInput)
  | resend (email : String)
  | verify (email code : String)

inductive AuthPoint
  | checking (input : RegistrationInput)
  | creating (input : RegistrationInput)
  | resending (email : String)
  | marking (email : String)
  | issuing (email code : String) (now : Time) (ids : List Id)
  | reading (email code : String)
  | finding (email code : String) (userId : Id) (now : Time)
  | sweeping (email code : String) (userId tokenId : Id) (now : Time)
  | consuming (email code : String) (userId tokenId : Id) (now : Time) (ids : List Id)
  deriving DecidableEq

/-- The clock, the random code, the id of a new row, and whether the access
throws. -/
structure AuthDraw where
  now : Time
  code : String
  fresh : Id
  throws : Bool

/-- One access.  What throws ends the request. -/
def authStep (hashToken : String -> String) (store : AuthStore) (draw : AuthDraw) :
    AuthPoint -> AuthStore × Option AuthPoint
  | .checking input =>
    match store.users.lookup (.email input.email) with
    | some _ => (store, none)
    | none => (store, some (.creating input))
  | .creating input => ((createCustomer hashToken input draw.code draw.now draw.fresh store).getD store, none)
  | .resending email =>
    match store.users.lookup (.email email) with
    | none => (store, none)
    | some user => (store, if isPending user then some (.marking user.email) else none)
  | .marking email =>
    (store, some (.issuing email draw.code draw.now
      ((store.tokens.select (VerificationToken.isOpenCode email)).map VerificationToken.id)))
  | .issuing email code now ids => ((issueCode hashToken email code now ids draw.fresh store).getD store, none)
  | .reading email code =>
    match store.users.lookup (.email email) with
    | none => (store, none)
    | some user => (store, if isPending user then some (.finding email code user.id draw.now) else none)
  | .finding email code userId now =>
    match findCode hashToken email code now store with
    | none => (store, none)
    | some token => (store, some (.sweeping email code userId token.id now))
  | .sweeping email code userId tokenId now =>
    (store, some (.consuming email code userId tokenId now
      ((store.tokens.select (VerificationToken.isSwept email)).map VerificationToken.id)))
  | .consuming email code userId tokenId now ids =>
    (consumeCode email code userId tokenId now ids store, none)

/-- What others do: tokens of other purposes come in, browsers verify addresses,
and customers move through their lifecycle. -/
inductive AuthEvent
  | otherToken (token : VerificationToken)
  | browserVerified (email : String) (now : Time)
  | lifecycle (userId : Id) (state : CustomerLifecycleState)

def authEvent (store : AuthStore) : AuthEvent -> Except Unit AuthStore
  | .otherToken token =>
    if token.purpose = nativeEmailVerificationPurpose then .error ()
    else
      match store.tokens.insert token with
      | none => .error ()
      | some tokens => .ok { store with tokens }
  | .browserVerified email now =>
    .ok { store with
      users := store.users.update (fun user => user.email = email) fun user =>
        { user with emailVerified := some now } }
  | .lifecycle userId state =>
    .ok { store with
      users := store.users.update (fun user => user.id = userId) fun user =>
        { user with lifecycleState := state } }

def authProtocol (hashToken : String -> String) :
    Protocol AuthStore AuthCall AuthPoint AuthDraw AuthEvent Unit where
  enter
    | .register input => .checking input
    | .resend email => .resending email
    | .verify email code => .reading email code
  advance store point draw := .ok (if draw.throws then (store, none) else authStep hashToken store draw point)
  ambient := authEvent

end Auth
end DigitalSolutions
