import DigitalSolutions.AgentSessions.Material

namespace DigitalSolutions
namespace AgentSessions

open Foundation Persistence Platform

/-!
# The directory the session code consults

Users, their credentials and the accounts they may act for.  The session code
reads all of it; of its own it writes only the time of a password change.
-/

inductive CustomerLifecycleState
  | active | suspended | closureRequested | closed | privacyReview | pseudonymized | purgeEligible
  deriving DecidableEq

inductive GlobalRole
  | customer | admin
  deriving DecidableEq

inductive MemberRole
  | owner | billing | licenseManager | member
  deriving DecidableEq

structure Membership where
  userId : Id
  role : MemberRole
  deriving DecidableEq

structure CustomerAccount where
  id : Id
  type : AccountType
  displayName : String
  ownerId : Id
  lifecycleState : CustomerLifecycleState
  memberships : List Membership
  deriving DecidableEq

instance : Keyed CustomerAccount Id where
  keys account := [account.id]

structure User where
  id : Id
  email : String
  emailVerified : Option Time
  lifecycleState : CustomerLifecycleState
  deriving DecidableEq

instance : Keyed User Id where
  keys user := [user.id]

structure PasswordCredential where
  userId : Id
  changedAt : Time
  deriving DecidableEq

instance : Keyed PasswordCredential Id where
  keys credential := [credential.userId]

structure AdministratorMfaMethod where
  userId : Id
  enabledAt : Option Time
  disabledAt : Option Time
  deriving DecidableEq

instance : Keyed AdministratorMfaMethod Id where
  keys method := [method.userId]

structure Directory where
  accounts : Table CustomerAccount
  users : Table User
  passwordCredentials : Table PasswordCredential
  administratorMfaMethods : Table AdministratorMfaMethod
  deriving DecidableEq

structure AgentDeviceAuthorizedAccount where
  id : Id
  type : AccountType
  displayName : String
  effectiveRole : MemberRole
  deriving DecidableEq

def effectiveRole (account : CustomerAccount) (principalId : Id) : Option MemberRole :=
  if account.ownerId = principalId then some .owner
  else (account.memberships.find? (fun membership => membership.userId = principalId)).map
    Membership.role

def requireAgentDeviceAccountAccessInTransaction (directory : Directory)
    (principalId accountId : Id) : Except SessionError AgentDeviceAuthorizedAccount :=
  let normalizedPrincipalId := trim principalId
  let normalizedAccountId := trim accountId
  if normalizedPrincipalId = "" ∨ normalizedAccountId = "" then
    .error (.message "ACCOUNT_ROLE_FORBIDDEN")
  else
    match (directory.accounts.lookup normalizedAccountId).filter (fun account =>
        account.ownerId = normalizedPrincipalId ||
          account.memberships.any (fun membership => membership.userId = normalizedPrincipalId)) with
    | none => .error (.message "NOT_FOUND")
    | some account =>
      match account.lifecycleState with
      | .suspended => .error (.message "SUSPENDED_ACCOUNT")
      | .closed => .error (.message "CLOSED_ACCOUNT")
      | .active =>
        match effectiveRole account normalizedPrincipalId with
        | none => .error (.message "ACCOUNT_ROLE_FORBIDDEN")
        | some role => .ok ⟨account.id, account.type, account.displayName, role⟩
      | _ => .error (.message "ACCOUNT_NOT_ACTIVE")

/-- A user whose address is verified and who is active. -/
def activeUser (directory : Directory) (userId : Id) : Option User :=
  (directory.users.lookup userId).filter (fun user =>
    user.emailVerified.isSome && user.lifecycleState = .active)

def agentSessionPredatesPasswordCredential (directory : Directory) (session : AgentAccountSession) :
    Bool :=
  (directory.passwordCredentials.lookup session.userId).any (fun credential =>
    credential.changedAt > session.createdAt)

def agentSessionPredatesMfaAuthorityChange (directory : Directory) (session : AgentAccountSession) :
    Bool :=
  (directory.administratorMfaMethods.lookup session.userId).any (fun method =>
    method.enabledAt.any (fun enabledAt => enabledAt > session.createdAt) ||
      method.disabledAt.any (fun disabledAt => disabledAt > session.createdAt))

/-- Whoever a session belongs to still holds what it was granted on: the
credentials are no younger than the session, the account is open to the user
and the user is active. -/
def sessionAuthority (directory : Directory) (session : AgentAccountSession) :
    Option (AgentDeviceAuthorizedAccount × User) :=
  if agentSessionPredatesPasswordCredential directory session = true ∨
      agentSessionPredatesMfaAuthorityChange directory session = true then none
  else
    match requireAgentDeviceAccountAccessInTransaction directory session.userId session.accountId with
    | .error _ => none
    | .ok account => (activeUser directory session.userId).map (fun user => (account, user))

end AgentSessions
end DigitalSolutions
