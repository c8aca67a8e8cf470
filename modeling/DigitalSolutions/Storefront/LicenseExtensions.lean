import DigitalSolutions.Foundation.Processes
import DigitalSolutions.Licensing.Periods
import DigitalSolutions.Storefront.SubscriptionPeriods

namespace DigitalSolutions
namespace Storefront

open Foundation Persistence Platform Licensing

/-!
# Extensions of a licence

A licence is extended by paid renewals, each in a serializable transaction, and
by administrators.  The route of an administrator reads the licence first, and
later writes the expiry that it has computed from what it has read.
-/

variable {move : ExtensionMove}

/-! ## The renewals -/

/-- A RENEWED event of an administrator. -/
structure RenewedEvent where
  licenseId : Id
  actorId : Id
  days : Int
  deriving DecidableEq

structure ExtensionStore where
  licensing : LicensingStore
  events : List RenewedEvent

/-- What the settlement of a paid renewal order passes to the renewal of an item. -/
structure PaidRenewal where
  moment : Moment
  order : Order
  evidence : PaymentEvidence
  item : OrderItem
  intervalUnit : IntervalUnit
  intervalCount : Int
  subscriptionId : Id
  positive : 0 < intervalCount

inductive ExtensionCall
  | renew (id : Id) (days : Option Int) (adminId : Id)
  | paid (renewal : PaidRenewal)

inductive ExtensionPoint
  | reading (id : Id) (days : Int) (adminId : Id)
  | writing (id : Id) (days : Int) (adminId : Id) (currentExpiresAt : Option Time)
  | paying (renewal : PaidRenewal)

/-- The two readings of the clock, and whether the access throws. -/
structure ExtensionDraw where
  now : Time
  again : Time
  throws : Bool

/-- The expiry that an administrator's renewal writes. -/
def renewedExpiry (currentExpiresAt : Option Time) (days : Int) (draw : ExtensionDraw) : Time :=
  addDays (match currentExpiresAt with
    | some expiresAt => if expiresAt > draw.now then expiresAt else draw.again
    | none => draw.again) days

def writeRenewal (id : Id) (days : Int) (adminId : Id) (expiresAt : Time) (store : ExtensionStore) :
    ExtensionStore :=
  { licensing := { store.licensing with
      licenses := store.licensing.licenses.update (fun license => license.id = id) (reactivateLicense expiresAt) }
    events := store.events ++ [⟨id, adminId, days⟩] }

section Package

variable (package : LicensingPackage)

def payRenewal (renewal : PaidRenewal) : Tx LicensingStore (List RenewalLeaseRequest) :=
  renewItem package renewal.moment renewal.order renewal.evidence renewal.item renewal.intervalUnit
    renewal.intervalCount renewal.subscriptionId

/-- One access.  What throws ends the request. -/
def extensionStep (store : ExtensionStore) (draw : ExtensionDraw) :
    ExtensionPoint -> ExtensionStore × Option ExtensionPoint
  | .reading id days adminId =>
    if days < 1 ∨ 3650 < days then (store, none)
    else
      match store.licensing.licenses.lookup (.id id) with
      | none => (store, none)
      | some current => (store, some (.writing id days adminId current.expiresAt))
  | .writing id days adminId currentExpiresAt =>
    match store.licensing.licenses.lookup (.id id) with
    | none => (store, none)
    | some _ => (writeRenewal id days adminId (renewedExpiry currentExpiresAt days draw) store, none)
  | .paying renewal =>
    match (payRenewal package renewal).run store.licensing with
    | .error _ => (store, none)
    | .ok (_, licensing) => ({ store with licensing }, none)

def extensionProtocol :
    Protocol ExtensionStore ExtensionCall ExtensionPoint ExtensionDraw Empty Empty where
  enter
    | .renew id days adminId => .reading id (days.getD 365) adminId
    | .paid renewal => .paying renewal
  advance store point draw :=
    .ok (if draw.throws then (store, none) else extensionStep package store draw point)
  ambient _ event := nomatch event

end Package

abbrev ExtensionMove := CrowdMove ExtensionCall ExtensionDraw Empty

/-! ## What is owed to a licence -/

def expiry (licenseId : Id) (store : LicensingStore) : Option Time :=
  (store.licenses.lookup (.id licenseId)).bind License.expiresAt

/-- The licence is under the subscription. -/
def isUnder (licenseId subscriptionId : Id) (store : LicensingStore) : Bool :=
  (store.licenses.lookup (.id licenseId)).any fun license => license.subscriptionId = some subscriptionId

/-- The length of the period that a paid renewal adds. -/
def paidDuration (renewal : PaidRenewal) (store : LicensingStore) : Int :=
  match store.subscriptions.lookup (.id renewal.subscriptionId) with
  | none => 0
  | some existing =>
    renewedPeriodEnd renewal.moment.now existing renewal.intervalUnit renewal.intervalCount -
      renewedPeriodStart renewal.moment.now existing

/-- By how much an access extends a licence. -/
def extendedBy (package : LicensingPackage) (licenseId : Id) (store : LicensingStore) : ExtensionPoint -> Int
  | .reading _ _ _ => 0
  | .writing id days _ _ => if id = licenseId then days * msPerDay else 0
  | .paying renewal =>
    match (payRenewal package renewal).run store with
    | .error _ => 0
    | .ok _ => if isUnder licenseId renewal.subscriptionId store then paidDuration renewal store else 0

/-- By how much a move extends a licence. -/
def extension (package : LicensingPackage) (licenseId : Id) (crowd : Crowd ExtensionStore ExtensionPoint) :
    ExtensionMove -> Int
  | .advance process draw =>
    match crowd.processes process with
    | none => 0
    | some point => if draw.throws then 0 else extendedBy package licenseId crowd.store.licensing point
  | _ => 0

/-! ## Conditions on a run -/

/-- The extensions of the licence are committed before it expires. -/
def Timely (licenseId : Id) (crowd : Crowd ExtensionStore ExtensionPoint) : ExtensionMove -> Prop
  | .advance process draw =>
    match crowd.processes process with
    | some (.writing id _ _ _) => id = licenseId -> draw.throws = false ->
        forall expiresAt, expiry licenseId crowd.store.licensing = some expiresAt -> draw.now < expiresAt
    | some (.paying renewal) => isUnder licenseId renewal.subscriptionId crowd.store.licensing = true ->
        draw.throws = false ->
        forall expiresAt, expiry licenseId crowd.store.licensing = some expiresAt ->
          renewal.moment.now < expiresAt
    | _ => True
  | _ => True

/-- An administrator's renewal of the licence is written while the licence
expires when it did as the route read it. -/
def AsRead (licenseId : Id) (crowd : Crowd ExtensionStore ExtensionPoint) : ExtensionMove -> Prop
  | .advance process draw =>
    match crowd.processes process with
    | some (.writing id _ _ currentExpiresAt) => id = licenseId -> draw.throws = false ->
        expiry licenseId crowd.store.licensing = currentExpiresAt
    | _ => True
  | _ => True

/-! ## What one access does to the expiry -/

section Lookup

variable {licenseId : Id} {store before after : LicensingStore} {license : License}

theorem license_lookup (member : license ∈ store.licenses) (isLicense : license.id = licenseId) :
    store.licenses.lookup (.id licenseId) = some license := by
  subst isLicense
  exact store.licenses.lookup_of_mem member List.mem_cons_self

theorem expiry_of_mem (member : license ∈ store.licenses) (isLicense : license.id = licenseId) :
    expiry licenseId store = license.expiresAt := by
  rw [expiry, license_lookup member isLicense, Option.bind_some]

theorem isUnder_of_mem (member : license ∈ store.licenses) (isLicense : license.id = licenseId)
    (subscriptionId : Id) :
    isUnder licenseId subscriptionId store = decide (license.subscriptionId = some subscriptionId) := by
  rw [isUnder, license_lookup member isLicense, Option.any_some]

theorem mem_of_expiry {expiresAt : Time} (isExpiry : expiry licenseId store = some expiresAt) :
    Exists fun license => license ∈ store.licenses ∧ license.id = licenseId ∧
      license.expiresAt = some expiresAt := by
  rcases Option.bind_eq_some_iff.mp isExpiry with ⟨license, found, isExpiresAt⟩
  have key := store.licenses.lookup_key found
  simp only [Keyed.keys, List.mem_cons, List.not_mem_nil, or_false, reduceCtorEq,
    License.Key.id.injEq] at key
  exact ⟨license, store.licenses.lookup_mem found, key.symm, isExpiresAt⟩

/-- The expiry when the rows of a table have changed and kept their ids. -/
theorem expiry_of_rows {change : License -> License}
    (rows : after.licenses.rows = before.licenses.rows.map change)
    (same : forall license, (change license).id = license.id) (member : license ∈ before.licenses)
    (isLicense : license.id = licenseId) : expiry licenseId after = (change license).expiresAt :=
  expiry_of_mem ((Table.mem_of_rows rows).mpr ⟨license, member, rfl⟩) ((same license).trans isLicense)

end Lookup

section Step

variable {package : LicensingPackage} {licenseId : Id} {store : ExtensionStore} {expiresAt : Time}

theorem extended_writing {id adminId : Id} {days : Int} {currentExpiresAt : Option Time} {draw : ExtensionDraw}
    (isExpiry : expiry licenseId store.licensing = some expiresAt)
    (timely : id = licenseId -> draw.now < expiresAt)
    (asRead : id = licenseId -> currentExpiresAt = some expiresAt) :
    expiry licenseId
        (extensionStep package store draw (.writing id days adminId currentExpiresAt)).1.licensing =
      some (expiresAt + if id = licenseId then days * msPerDay else 0) := by
  rcases mem_of_expiry isExpiry with ⟨license, member, isLicense, isExpiresAt⟩
  have rows : forall expiry' : Time,
      (writeRenewal id days adminId expiry' store).licensing.licenses.rows =
      store.licensing.licenses.rows.map fun row => if row.id = id then reactivateLicense expiry' row else row :=
    fun _ => store.licensing.licenses.rows_update
  have same : forall (expiry' : Time) (row : License),
      (if row.id = id then reactivateLicense expiry' row else row).id = row.id := by
    intro expiry' row
    split
    · rfl
    · rfl
  simp only [extensionStep]
  by_cases renewed : id = licenseId
  · have found : store.licensing.licenses.lookup (.id id) = some license :=
      license_lookup member (isLicense.trans renewed.symm)
    rw [found]
    simp only
    have early : expiresAt > draw.now := timely renewed
    rw [expiry_of_rows (rows _) (same _) member isLicense, if_pos (isLicense.trans renewed.symm),
      if_pos renewed, asRead renewed]
    simp only [reactivateLicense, renewedExpiry, if_pos early, addDays]
  · have kept : forall expiry', expiry licenseId (writeRenewal id days adminId expiry' store).licensing =
        some expiresAt := by
      intro expiry'
      have other : license.id ≠ id := fun isId => renewed (isId.symm.trans isLicense)
      rw [expiry_of_rows (rows expiry') (same expiry') member isLicense, if_neg other, isExpiresAt]
    rw [if_neg renewed, Int.add_zero]
    split
    · exact isExpiry
    · exact kept _

theorem extended_paying (lawful : package.Lawful) (renews : package.renewalExpiration = renewalExpiration)
    {renewal : PaidRenewal} {draw : ExtensionDraw}
    (isExpiry : expiry licenseId store.licensing = some expiresAt)
    (timely : isUnder licenseId renewal.subscriptionId store.licensing = true ->
      renewal.moment.now < expiresAt) :
    expiry licenseId (extensionStep package store draw (.paying renewal)).1.licensing =
        some (expiresAt + extendedBy package licenseId store.licensing (.paying renewal)) ∧
      0 ≤ extendedBy package licenseId store.licensing (.paying renewal) := by
  rcases mem_of_expiry isExpiry with ⟨license, member, isLicense, isExpiresAt⟩
  have under := isUnder_of_mem member isLicense renewal.subscriptionId
  cases paid : (payRenewal package renewal).run store.licensing with
  | error failure =>
    simp only [extensionStep, extendedBy, paid, Int.add_zero]
    exact ⟨isExpiry, Int.le_refl 0⟩
  | ok outcome =>
    rcases renewItem_writes lawful paid with ⟨existing, found, _, rows, _⟩
    have duration : paidDuration renewal store.licensing =
        renewedPeriodEnd renewal.moment.now existing renewal.intervalUnit renewal.intervalCount -
          renewedPeriodStart renewal.moment.now existing := by
      simp only [paidDuration, found]
    have positive : 0 ≤ paidDuration renewal store.licensing := by
      have later := addBillingInterval_later (renewedPeriodStart renewal.moment.now existing)
        renewal.intervalUnit renewal.positive
      rw [duration, renewedPeriodEnd]
      exact Int.sub_nonneg_of_le (Int.le_of_lt later)
    have same : forall row : License, (if row.subscriptionId = some renewal.subscriptionId then
        reactivateLicense (package.renewalExpiration row.expiresAt renewal.moment.now
          (renewedPeriodEnd renewal.moment.now existing renewal.intervalUnit renewal.intervalCount -
            renewedPeriodStart renewal.moment.now existing)) row
        else row).id = row.id := by
      intro row
      split
      · rfl
      · rfl
    have written := expiry_of_rows rows same member isLicense
    simp only [extensionStep, extendedBy, paid, under, decide_eq_true_eq]
    rw [written]
    by_cases isUnder' : license.subscriptionId = some renewal.subscriptionId
    · rw [if_pos isUnder', if_pos isUnder']
      refine ⟨?_, positive⟩
      have early : expiresAt > renewal.moment.now := timely (under.trans (decide_eq_true isUnder'))
      rw [renews, isExpiresAt, ← duration]
      simp only [reactivateLicense, renewalExpiration, if_pos early]
    · rw [if_neg isUnder', if_neg isUnder', Int.add_zero]
      exact ⟨isExpiresAt, Int.le_refl 0⟩

end Step

/-! ## Runs -/

/-- The route has checked the days. -/
def Checked : ExtensionPoint -> Prop
  | .writing _ days _ _ => 1 ≤ days
  | _ => True

section Runs

variable {package : LicensingPackage} {licenseId : Id}

theorem checked_advance {store after : ExtensionStore} {point : ExtensionPoint} {draw : ExtensionDraw}
    {later : Option ExtensionPoint}
    (advanced : (extensionProtocol package).advance store point draw = .ok (after, later)) :
    forall next, later = some next -> Checked next := by
  intro next isNext
  have done := Except.ok.inj advanced
  split at done
  · cases done
    cases isNext
  · cases point with
    | reading id days adminId =>
      simp only [extensionStep] at done
      split at done
      · cases done
        cases isNext
      · rename_i valid
        split at done
        · cases done
          cases isNext
        · cases done
          cases isNext
          simp only [Checked]
          omega
    | writing id days adminId currentExpiresAt =>
      simp only [extensionStep] at done
      split at done
      · cases done
        cases isNext
      · cases done
        cases isNext
    | paying renewal =>
      simp only [extensionStep] at done
      split at done
      · cases done
        cases isNext
      · cases done
        cases isNext

theorem checked_outlined : Protocol.Outlined (extensionProtocol package) (fun _ _ => True) (fun _ => True)
    (fun _ _ point => Checked point) where
  enters crowd process call _ _ := by
    cases call <;> exact trivial
  advances crowd process point draw after later _ _ _ advanced := ⟨trivial, checked_advance advanced⟩
  spares crowd process point draw after later holds _ _ _ other bystander _ stands :=
    holds.points other bystander stands
  ambient crowd event := nomatch event

abbrev CheckedCrowd : Crowd ExtensionStore ExtensionPoint -> Prop :=
  Protocol.Holds (fun _ => True) fun _ _ point => Checked point

/-- What an allowed move does to the expiry of the licence. -/
theorem extended_attempt (lawful : package.Lawful)
    (renews : package.renewalExpiration = renewalExpiration) {crowd : Crowd ExtensionStore ExtensionPoint}
    {expiresAt : Time} (checked : CheckedCrowd crowd)
    (isExpiry : expiry licenseId crowd.store.licensing = some expiresAt)
    (timely : Timely licenseId crowd move) (asRead : AsRead licenseId crowd move) :
    CheckedCrowd ((extensionProtocol package).machine.attempt crowd move) ∧
      expiry licenseId ((extensionProtocol package).machine.attempt crowd move).store.licensing =
        some (expiresAt + extension package licenseId crowd move) ∧
      0 ≤ extension package licenseId crowd move := by
  have keeps : CheckedCrowd ((extensionProtocol package).machine.attempt crowd move) :=
    Machine.attempt_elim checked fun next accepted => checked_outlined.step checked trivial accepted
  refine ⟨keeps, ?_⟩
  have unextended : forall next : ExtensionStore, next.licensing = crowd.store.licensing ->
      expiry licenseId next.licensing = some (expiresAt + 0) ∧ (0 : Int) ≤ 0 := by
    intro next same
    rw [same, Int.add_zero]
    exact ⟨isExpiry, Int.le_refl 0⟩
  cases move with
  | start process call =>
    apply Machine.attempt_elim (motive := fun next : Crowd ExtensionStore ExtensionPoint =>
      expiry licenseId next.store.licensing = some (expiresAt + 0) ∧ (0 : Int) ≤ 0)
    · exact unextended crowd.store rfl
    · intro next accepted
      rw [(Protocol.step_start accepted).2]
      exact unextended crowd.store rfl
  | stop process =>
    apply Machine.attempt_elim (motive := fun next : Crowd ExtensionStore ExtensionPoint =>
      expiry licenseId next.store.licensing = some (expiresAt + 0) ∧ (0 : Int) ≤ 0)
    · exact unextended crowd.store rfl
    · intro next accepted
      rw [Protocol.step_stop accepted]
      exact unextended crowd.store rfl
  | ambient event => exact nomatch event
  | advance process draw =>
    cases here : crowd.processes process with
    | none =>
      have refused : (extensionProtocol package).machine.attempt crowd (.advance process draw) = crowd := by
        simp only [Machine.attempt, Protocol.machine, Protocol.step, here]
      rw [refused]
      simp only [extension, here]
      exact unextended crowd.store rfl
    | some point =>
      have moved : ((extensionProtocol package).machine.attempt crowd (.advance process draw)).store =
          (if draw.throws then (crowd.store, none) else extensionStep package crowd.store draw point).1 := by
        simp only [Machine.attempt, Protocol.machine, Protocol.step, here, extensionProtocol]
        rfl
      rw [moved]
      simp only [extension, here]
      cases throws : draw.throws with
      | true =>
        simp only [if_true]
        exact unextended crowd.store rfl
      | false =>
        simp only [Bool.false_eq_true, if_false]
        cases point with
        | reading id days adminId =>
          simp only [extensionStep, extendedBy]
          split
          · exact unextended crowd.store rfl
          · split
            · exact unextended crowd.store rfl
            · exact unextended crowd.store rfl
        | writing id days adminId currentExpiresAt =>
          simp only [Timely, here] at timely
          simp only [AsRead, here] at asRead
          have valid : 1 ≤ days := checked.points process _ here
          refine ⟨extended_writing isExpiry (fun renewed => timely renewed throws expiresAt isExpiry)
            (fun renewed => (asRead renewed throws).symm.trans isExpiry), ?_⟩
          simp only [extendedBy]
          split
          · rw [msPerDay]
            omega
          · exact Int.le_refl 0
        | paying renewal =>
          simp only [Timely, here] at timely
          exact extended_paying lawful renews isExpiry fun under => timely under throws expiresAt isExpiry

end Runs

def extensionRun (package : LicensingPackage) (store : ExtensionStore) (moves : List ExtensionMove) :
    Crowd ExtensionStore ExtensionPoint :=
  (extensionProtocol package).machine.run (Crowd.opening store) moves

/-- No extension of the licence is lost. -/
structure ExtensionsKept (package : LicensingPackage) (licenseId : Id) (store : ExtensionStore) (initial : Time)
    (moves : List ExtensionMove) : Prop where
  sum : expiry licenseId (extensionRun package store moves).store.licensing =
    some (initial + (extensionProtocol package).machine.total (extension package licenseId)
      (Crowd.opening store) moves)
  forward : forall past rest, moves = past ++ rest -> forall early late,
    expiry licenseId (extensionRun package store past).store.licensing = some early ->
    expiry licenseId (extensionRun package store moves).store.licensing = some late -> early ≤ late

/-- The licence has an expiry. -/
def Expires (licenseId : Id) (crowd : Crowd ExtensionStore ExtensionPoint) : Prop :=
  CheckedCrowd crowd ∧ Exists fun expiresAt => expiry licenseId crowd.store.licensing = some expiresAt

def expiryTime (licenseId : Id) (crowd : Crowd ExtensionStore ExtensionPoint) : Int :=
  (expiry licenseId crowd.store.licensing).getD 0

section Kept

variable {package : LicensingPackage} {licenseId : Id} {crowd : Crowd ExtensionStore ExtensionPoint}

theorem expires_attempt (lawful : package.Lawful) (renews : package.renewalExpiration = renewalExpiration)
    (expires : Expires licenseId crowd)
    (allows : Timely licenseId crowd move ∧ AsRead licenseId crowd move) :
    Expires licenseId ((extensionProtocol package).machine.attempt crowd move) ∧
      expiryTime licenseId ((extensionProtocol package).machine.attempt crowd move) =
        expiryTime licenseId crowd + extension package licenseId crowd move := by
  rcases expires with ⟨checked, expiresAt, isExpiry⟩
  have extended := extended_attempt lawful renews checked isExpiry allows.1 allows.2
  refine ⟨⟨extended.1, _, extended.2.1⟩, ?_⟩
  rw [expiryTime, expiryTime, extended.2.1, isExpiry, Option.getD_some, Option.getD_some]

/-- The expiry only moves forward. -/
theorem forward_run (lawful : package.Lawful) (renews : package.renewalExpiration = renewalExpiration)
    {early : Time} (checked : CheckedCrowd crowd) (isEarly : expiry licenseId crowd.store.licensing = some early)
    {moves : List ExtensionMove} (admitted : (extensionProtocol package).machine.Admits
      (fun crowd move => Timely licenseId crowd move ∧ AsRead licenseId crowd move) crowd moves) :
    Exists fun late => early ≤ late ∧
      expiry licenseId ((extensionProtocol package).machine.run crowd moves).store.licensing = some late := by
  have preserved : forall state move next,
      (CheckedCrowd state ∧ Exists fun now => early ≤ now ∧
        expiry licenseId state.store.licensing = some now) ->
      (Timely licenseId state move ∧ AsRead licenseId state move) ->
      (extensionProtocol package).machine.step state move = .ok next ->
      CheckedCrowd next ∧ Exists fun now => early ≤ now ∧
        expiry licenseId next.store.licensing = some now := by
    rintro state move next ⟨stateChecked, now, later, isNow⟩ ⟨timely, asRead⟩ accepted
    have extended := extended_attempt lawful renews stateChecked isNow timely asRead
    rw [Machine.attempt_ok accepted] at extended
    exact ⟨extended.1, _, Int.le_trans later (Int.le_add_of_nonneg_right extended.2.2), extended.2.1⟩
  exact (Machine.run_invariant_of_admits preserved ⟨checked, early, Int.le_refl early, isEarly⟩ admitted).2

end Kept

/-- The extensions in every run in which they are timely and administrators
extend what they have read. -/
theorem extensions_kept_of_asRead (package : LicensingPackage) (lawful : package.Lawful)
    (renews : package.renewalExpiration = renewalExpiration) (licenseId : Id) (store : ExtensionStore)
    (initial : Time) (starts : expiry licenseId store.licensing = some initial) (moves : List ExtensionMove)
    (admitted : (extensionProtocol package).machine.Admits
      (fun crowd move => Timely licenseId crowd move ∧ AsRead licenseId crowd move) (Crowd.opening store)
      moves) : ExtensionsKept package licenseId store initial moves where
  sum := by
    have opened : Expires licenseId (Crowd.opening store) := ⟨Protocol.holds_opening trivial, initial, starts⟩
    have changes : forall crowd move, Expires licenseId crowd ->
        Timely licenseId crowd move ∧ AsRead licenseId crowd move ->
        Expires licenseId ((extensionProtocol package).machine.attempt crowd move) ∧
          expiryTime licenseId ((extensionProtocol package).machine.attempt crowd move) =
            expiryTime licenseId crowd + extension package licenseId crowd move :=
      fun crowd move expires allows => expires_attempt lawful renews expires allows
    have summed := Machine.measure_eq_total changes opened admitted
    have checked : CheckedCrowd (Crowd.opening store) := Protocol.holds_opening trivial
    rcases forward_run lawful renews checked starts admitted with ⟨late, _, isLate⟩
    rw [expiryTime, expiryTime, isLate, Crowd.opening, starts, Option.getD_some, Option.getD_some] at summed
    rw [extensionRun, isLate, summed]
    rfl
  forward past rest split early late isEarly isLate := by
    subst split
    have checked : CheckedCrowd (extensionRun package store past) := by
      apply checked_outlined.run (Protocol.holds_opening trivial)
      exact Machine.admits_all (fun _ _ => trivial) _ past
    rcases forward_run lawful renews checked isEarly admitted.right with ⟨now, later, isNow⟩
    rw [extensionRun, Machine.run_append] at isLate
    have same := isNow.symm.trans isLate
    rw [Option.some.injEq] at same
    rw [← same]
    exact later

/-! ## A renewal between a read and a write, and renewals one after another -/

/-- A monthly subscription with its licence. -/
def subscribed : ExtensionStore :=
  ⟨(licensingMachine Reference.licensing Reference.environment).run Db.empty.licensing [fulfilledAt "order:s" 0],
    []⟩

def renewalRows : Commerce.CheckoutRows :=
  Reference.checkout "r" 0 .accountEntitlement .subscription 1 (some "subscription:item:s")
    Reference.renewing

def paidRenewal : PaidRenewal where
  moment := Reference.moment "renewed" 1000
  order := renewalRows.order
  evidence := ⟨none, none⟩
  item := renewalRows.items.head (List.cons_ne_nil _ _)
  intervalUnit := .month
  intervalCount := 1
  subscriptionId := "subscription:item:s"
  positive := by decide

def accessAt (process : Nat) (now : Time) : ExtensionMove := .advance process ⟨now, now, false⟩

/-- An administrator's route reads the licence before a payment renews it, and
writes after that. -/
def renewedBetween : List ExtensionMove :=
  [.start 0 (.renew "license:item:s" (some 10) "admin"), accessAt 0 1, .start 1 (.paid paidRenewal),
    accessAt 1 2, accessAt 0 3]

/-- `Timely`, as a check. -/
def timely (licenseId : Id) (crowd : Crowd ExtensionStore ExtensionPoint) : ExtensionMove -> Bool
  | .advance process draw =>
    match crowd.processes process with
    | some (.writing id _ _ _) => !decide (id = licenseId) ||
        (expiry licenseId crowd.store.licensing).all fun expiresAt => draw.now < expiresAt
    | some (.paying renewal) => !isUnder licenseId renewal.subscriptionId crowd.store.licensing ||
        (expiry licenseId crowd.store.licensing).all fun expiresAt => renewal.moment.now < expiresAt
    | _ => true
  | _ => true

theorem timely_spec {licenseId : Id} {crowd : Crowd ExtensionStore ExtensionPoint}
    (checked : timely licenseId crowd move = true) : Timely licenseId crowd move := by
  cases move with
  | start process call => trivial
  | stop process => trivial
  | ambient event => trivial
  | advance process draw =>
    simp only [timely] at checked
    simp only [Timely]
    split
    · rename_i here
      simp only [here, Bool.or_eq_true, Bool.not_eq_true', decide_eq_false_iff_not] at checked
      intro renewed _ expiresAt isExpiry
      rcases checked with other | early
      · exact absurd renewed other
      · rw [isExpiry] at early
        exact of_decide_eq_true early
    · rename_i here
      simp only [here, Bool.or_eq_true, Bool.not_eq_true'] at checked
      intro under _ expiresAt isExpiry
      rcases checked with other | early
      · rw [under] at other
        cases other
      · rw [isExpiry] at early
        exact of_decide_eq_true early
    · trivial

/-- Every extension is timely, and the paid one is lost. -/
theorem extensions_not_kept_when_renewed_between :
    (extensionProtocol Reference.licensing).machine.Admits (Timely "license:item:s")
        (Crowd.opening subscribed) renewedBetween ∧
      ¬ ExtensionsKept Reference.licensing "license:item:s" subscribed 2678400000 renewedBetween := by
  constructor
  · have checked : (extensionProtocol Reference.licensing).machine.Admits
        (fun crowd move => timely "license:item:s" crowd move = true) (Crowd.opening subscribed)
        renewedBetween := by
      decide +kernel
    exact checked.mono fun _ _ => timely_spec
  · intro kept
    exact absurd kept.sum (by decide +kernel)

/-- `AsRead`, as a check. -/
def asRead (licenseId : Id) (crowd : Crowd ExtensionStore ExtensionPoint) : ExtensionMove -> Bool
  | .advance process _ =>
    match crowd.processes process with
    | some (.writing id _ _ currentExpiresAt) => !decide (id = licenseId) ||
        decide (expiry licenseId crowd.store.licensing = currentExpiresAt)
    | _ => true
  | _ => true

theorem asRead_spec {licenseId : Id} {crowd : Crowd ExtensionStore ExtensionPoint}
    (checked : asRead licenseId crowd move = true) : AsRead licenseId crowd move := by
  cases move with
  | start process call => trivial
  | stop process => trivial
  | ambient event => trivial
  | advance process draw =>
    simp only [asRead] at checked
    simp only [AsRead]
    split
    · rename_i here
      simp only [here, Bool.or_eq_true, Bool.not_eq_true', decide_eq_false_iff_not, decide_eq_true_eq] at checked
      intro renewed _
      exact checked.resolve_left fun other => other renewed
    · trivial

/-- Ten days of an administrator, a paid month, and the default year. -/
def renewedInTurn : List ExtensionMove :=
  [.start 0 (.renew "license:item:s" (some 10) "admin"), accessAt 0 1, .start 1 (.paid paidRenewal),
    accessAt 0 2, accessAt 1 3, .start 0 (.renew "license:item:s" none "admin"), accessAt 0 4, accessAt 0 5]

theorem extensions_kept_of_asRead_in_turn :
    (extensionProtocol Reference.licensing).machine.total (extension Reference.licensing "license:item:s")
        (Crowd.opening subscribed) renewedInTurn = (10 + 28 + 365) * msPerDay ∧
      ExtensionsKept Reference.licensing "license:item:s" subscribed 2678400000 renewedInTurn := by
  refine ⟨by decide +kernel, ?_⟩
  have renews : Reference.licensing.renewalExpiration = renewalExpiration := by
    funext expiry effectiveAt durationMs
    cases expiry <;> rfl
  have checked : (extensionProtocol Reference.licensing).machine.Admits
      (fun crowd move => (timely "license:item:s" crowd move && asRead "license:item:s" crowd move) = true)
      (Crowd.opening subscribed) renewedInTurn := by
    decide +kernel
  apply extensions_kept_of_asRead Reference.licensing Reference.licensing_lawful renews
  · decide +kernel
  · apply checked.mono
    intro crowd move both
    rw [Bool.and_eq_true] at both
    exact ⟨timely_spec both.1, asRead_spec both.2⟩

end Storefront
end DigitalSolutions
