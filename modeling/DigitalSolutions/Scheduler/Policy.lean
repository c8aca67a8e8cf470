import DigitalSolutions.Persistence.Schema

namespace DigitalSolutions
namespace Scheduler

open Persistence

/-!
# Scheduler policy

Jobs, their registry, and the pure rules: windows, retry delays, how a
failure is classified and how long a text in the run history may get.

Durations are integers of seconds, instants are milliseconds.  Identifiers
that `cuid()` and `randomUUID()` draw are numbers here, since nothing but
their being different is ever looked at.
-/

/-- What `cuid()` or `randomUUID()` returned. -/
abbrev Draw : Type := Nat

inductive Trigger
  | scheduled | retry | manual | cron | cli | certification
  deriving DecidableEq, Repr

inductive FailureClass
  | transient | permanent | configuration | dependencyUnavailable | validation | concurrencyConflict
  deriving DecidableEq, Repr

inductive AuditPolicy
  | failures | all
  deriving DecidableEq, Repr

structure ScheduledJob where
  key : String
  cadenceSeconds : Nat
  timeoutSeconds : Nat
  lockSeconds : Nat
  maxAttempts : Nat
  dryRunSupported : Bool
  auditPolicy : AuditPolicy
  deriving DecidableEq, Repr

/-! ## Registry -/

/-- `/^[a-z][a-z0-9.-]+$/`. -/
def isJobKey (key : String) : Bool :=
  match key.toList with
  | first :: second :: rest =>
    ('a' ≤ first && first ≤ 'z') &&
      (second :: rest).all (fun character =>
        ('a' ≤ character && character ≤ 'z') || ('0' ≤ character && character ≤ '9') ||
          character = '.' || character = '-')
  | _ => false

def validJob (job : ScheduledJob) : Bool :=
  isJobKey job.key && 0 < job.timeoutSeconds && job.timeoutSeconds < job.lockSeconds &&
    1 ≤ job.maxAttempts && 30 ≤ job.cadenceSeconds

/-- Jobs under pairwise different keys, each of them valid. -/
structure Registry where
  jobs : List ScheduledJob
  distinct : (jobs.map ScheduledJob.key).Nodup
  valid : forall job, job ∈ jobs -> validJob job = true

inductive RegistryError
  | duplicateKey
  | invalidJob (key : String)
  deriving DecidableEq, Repr

/-- The message of the exception. -/
def RegistryError.text : RegistryError -> String
  | .duplicateKey => "DUPLICATE_SCHEDULER_JOB_KEY"
  | .invalidJob key => "INVALID_SCHEDULER_JOB:" ++ key

def createSchedulerRegistry (jobs : List ScheduledJob) : Except RegistryError Registry :=
  if distinct : (jobs.map ScheduledJob.key).Nodup then
    match invalid : jobs.find? (fun job => validJob job = false) with
    | some job => .error (.invalidJob job.key)
    | none =>
      .ok ⟨jobs, distinct, by
        intro job member
        simpa using List.find?_eq_none.mp invalid job member⟩
  else .error .duplicateKey

namespace Registry

/-- `get`, which throws SCHEDULED_JOB_NOT_FOUND when there is no such job. -/
def get (registry : Registry) (key : String) : Option ScheduledJob :=
  registry.jobs.find? (fun job => job.key = key)

variable {registry : Registry} {key : String} {job : ScheduledJob}

theorem mem_of_get (found : registry.get key = some job) : job ∈ registry.jobs :=
  List.mem_of_find?_eq_some found

theorem key_of_get (found : registry.get key = some job) : job.key = key := by
  simpa using List.find?_some found

theorem one_le_maxAttempts (member : job ∈ registry.jobs) : 1 ≤ job.maxAttempts := by
  have valid := registry.valid job member
  simp only [validJob, Bool.and_eq_true, decide_eq_true_eq] at valid
  exact valid.1.2

end Registry

/-- The job of the stored payment operations, which audits every run. -/
def paymentOperationsJob : ScheduledJob where
  key := "payments.operations"
  cadenceSeconds := 900
  timeoutSeconds := 300
  lockSeconds := 360
  maxAttempts := 5
  dryRunSupported := true
  auditPolicy := .all

def paymentOperationsRegistry : Registry where
  jobs := [paymentOperationsJob]
  distinct := by decide
  valid := by decide

/-! ## Windows and delays -/

def milliseconds (seconds : Nat) : Int := seconds * 1000

def scheduledWindow (now : Time) (cadenceSeconds : Nat) : Time :=
  now / milliseconds cadenceSeconds * milliseconds cadenceSeconds

def nextScheduledAt (scheduledFor : Time) (cadenceSeconds : Nat) (now : Time) : Time :=
  max (scheduledFor + milliseconds cadenceSeconds) (now + milliseconds cadenceSeconds)

/-- `retryDelayMs`.  A fifth of either base is an integer. -/
def retryDelayMs (attempt : Nat) (seed : Int) : Int :=
  let base : Nat := min (6 * 3600000) (30000 * 2 ^ (attempt - 1))
  base + (seed.natAbs % max 1 (base / 5) : Nat)

/-! ## Failures and summaries -/

/-- Whether a text contains another. -/
def includes (text part : String) : Bool :=
  text.toList.tails.any (fun tail => part.toList.isPrefixOf tail)

def classifyJobFailure (message : String) : FailureClass :=
  if ["VALID", "NOT_FOUND", "UNSUPPORTED", "PERMANENT"].any (includes message) then .validation
  else if ["CONFIG", "CREDENTIAL", "ENVIRONMENT"].any (includes message) then .configuration
  else if ["LOCK", "CONCURRENT", "CONFLICT"].any (includes message) then .concurrencyConflict
  else if ["UNAVAILABLE", "ECONN", "TIMEOUT", "NETWORK", "REDIS", "DATABASE"].any (includes message) then
    .dependencyUnavailable
  else .transient

/-- `retryable`, as far as it depends on the failure. -/
def FailureClass.retried (failureClass : FailureClass) : Bool :=
  failureClass ∉ [FailureClass.permanent, .validation, .configuration]

/-- `slice(0, count)`, for texts of the basic plane. -/
def sliceText (count : Nat) (text : String) : String := String.ofList (text.toList.take count)

/-- `/[^A-Z0-9_:-]/gi` replaced by underscores, one for each code unit. -/
def safeCharacter (character : Char) : List Char :=
  if ('a' ≤ character ∧ character ≤ 'z') ∨ ('A' ≤ character ∧ character ≤ 'Z') ∨
      ('0' ≤ character ∧ character ≤ '9') ∨ character ∈ ['_', ':', '-'] then [character]
  else if character.toNat < 0x10000 then ['_'] else ['_', '_']

def safeJobErrorCode (message : String) : String :=
  let code := String.ofList ((message.toList.flatMap safeCharacter).take 80)
  if code = "" then "SCHEDULED_JOB_FAILED" else code

/-- `JobSummary`: entries in insertion order; the values are JSON scalars. -/
abbrev JobSummary : Type := List (String × Json)

def boundedJobSummary (summary : JobSummary) : JobSummary :=
  (summary.take 30).map (fun entry =>
    (sliceText 80 entry.1, match entry.2 with
      | .string value => .string (sliceText 200 value)
      | value => value))

/-- The message of the timer in `withJobTimeout`. -/
def timeoutMessage : String := "SCHEDULED_JOB_TIMEOUT"

end Scheduler
end DigitalSolutions
