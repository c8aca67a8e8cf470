import DigitalSolutions.Payments.WebhookProcessing

namespace DigitalSolutions
namespace Payments

open Foundation Persistence Platform Commerce Entitlements Licensing

/-!
# The order of an operational event

A failed or refunded payment names its order in up to four ways.  What each of
them designates is stated here on the rows; `resolveOperationalOrder` compares
less.  The host's attempt is found by the checkout alone, whatever provider it
was made with.  The owner's attempt is resolved by the id of an order, where
settlements take its reference for an id or a number.  Of the orders that a
reference names, one is read.
-/

/-- Rows with the foreign keys of the host's attempts and payments. -/
structure LinkedDb where
  db : Db
  attemptOrder : forall attempt, attempt ∈ db.hostPayments.paymentAttempts ->
    Exists fun order => order ∈ db.commerce.orders ∧ order.id = attempt.orderId
  paymentOrder : forall payment, payment ∈ db.hostPayments.payments ->
    Exists fun order => order ∈ db.commerce.orders ∧ order.id = payment.orderId

/-! ## What an event designates -/

/-- The ways in which an event names an order. -/
inductive Identifier
  | hostCheckout | packageCheckout | reference | payment
  deriving DecidableEq

/-- An opaque reference is the id or the number of an order. -/
def Carries (order : Order) (reference : String) : Prop := order.id = reference ∨ order.number = reference

instance (order : Order) (reference : String) : Decidable (Carries order reference) :=
  inferInstanceAs (Decidable (order.id = reference ∨ order.number = reference))

/-- The store has a row for the identifier. -/
def Known (db : Db) (event : VerifiedEvent) : Identifier -> Prop
  | .hostCheckout => (hostAttemptOf db.hostPayments event).isSome = true
  | .packageCheckout => (packageAttemptOf db.payments event).isSome = true
  | .reference => Exists fun reference => event.reference = some reference ∧
      Exists fun order => order ∈ db.commerce.orders ∧ Carries order reference
  | .payment => (knownPaymentOf db.hostPayments event).isSome = true

/-- The row of the identifier is of the event's provider and names the order. -/
def Designates (db : Db) (event : VerifiedEvent) (order : Order) : Identifier -> Prop
  | .hostCheckout => Exists fun attempt => hostAttemptOf db.hostPayments event = some attempt ∧
      attempt.provider = event.provider ∧ attempt.orderId = order.id
  | .packageCheckout => Exists fun attempt => packageAttemptOf db.payments event = some attempt ∧
      Carries order attempt.commercialReference
  | .reference => Exists fun reference => event.reference = some reference ∧ Carries order reference
  | .payment => Exists fun payment => knownPaymentOf db.hostPayments event = some payment ∧
      payment.orderId = order.id

/-- An answer binds the event to the one order its identifiers designate. -/
structure BindsOneOrder (db : Db) (event : VerifiedEvent) (answer : Except TransactionError OperationalOrder) :
    Prop where
  designated : forall resolved, answer = .ok resolved -> forall identifier, Known db event identifier ->
    Designates db event resolved.order identifier
  amount : forall resolved, answer = .ok resolved -> event.amountMinor = some resolved.order.totalMinor
  currency : forall resolved, answer = .ok resolved ->
    (forall currency, event.currency = some currency -> toUpperCase currency = toUpperCase resolved.order.currency) ∧
      (event.currency = none -> event.type = .paymentRefundUpdated ∧ Known db event .payment)
  known : forall resolved, answer = .ok resolved -> Exists fun identifier => Known db event identifier
  rejects : forall first second left right, left ∈ db.commerce.orders -> right ∈ db.commerce.orders ->
    Designates db event left first -> Designates db event right second -> left ≠ right ->
    Exists fun error => answer = .error error

/-! ## What the code compares -/

/-- The rows of an event agree on an order, as far as they are compared. -/
structure Compared (db : Db) (event : VerifiedEvent) (order : Order) : Prop where
  checkout : event.externalCheckoutId.isSome = true -> Known db event .hostCheckout ∨
    Known db event .packageCheckout ∨ Known db event .payment
  found : Known db event .hostCheckout ∨ Known db event .reference ∨ Known db event .payment ∨
    Exists fun attempt => packageAttemptOf db.payments event = some attempt ∧ attempt.commercialReference = order.id
  hostAttempt : forall attempt, hostAttemptOf db.hostPayments event = some attempt -> attempt.orderId = order.id
  packageAttempt : forall attempt, packageAttemptOf db.payments event = some attempt ->
    forall other, other ∈ db.commerce.orders -> other.id = attempt.commercialReference -> other = order
  reference : forall reference, event.reference = some reference ->
    orderByReference db.commerce reference = some order
  payment : forall payment, knownPaymentOf db.hostPayments event = some payment -> payment.orderId = order.id
  amount : event.amountMinor = some order.totalMinor
  currency : currencyMismatch event order (knownPaymentOf db.hostPayments event) = false

/-- What is not compared: the provider of the host's attempt, a reference of
the owner's attempt that is no order's id, and another order with a reference. -/
structure Uncontested (db : Db) (event : VerifiedEvent) (order : Order) : Prop where
  provider : forall attempt, hostAttemptOf db.hostPayments event = some attempt -> attempt.provider = event.provider
  packageReference : forall attempt, packageAttemptOf db.payments event = some attempt ->
    Carries order attempt.commercialReference
  alone : forall other, other ∈ db.commerce.orders -> other ≠ order ->
    (forall reference, event.reference = some reference -> ¬Carries other reference) ∧
      forall attempt, packageAttemptOf db.payments event = some attempt -> ¬Carries other attempt.commercialReference

/-! ## Resolution -/

variable {event : VerifiedEvent}
variable {order : Order} {db : Db}

theorem order_eq_of_id {left right : Order} (leftMember : left ∈ db.commerce.orders)
    (rightMember : right ∈ db.commerce.orders) (same : left.id = right.id) : left = right :=
  db.commerce.orders.eq_of_common_key leftMember rightMember
    (by simp [Keyed.keys] : Order.Key.id left.id ∈ Keyed.keys left) (by simp [Keyed.keys, same])

theorem lookup_order_iff {orderId : Id} :
    db.commerce.orders.lookup (.id orderId) = some order ↔ order ∈ db.commerce.orders ∧ order.id = orderId := by
  rw [Table.lookup_eq_some]
  constructor
  · rintro ⟨member, key⟩
    refine ⟨member, ?_⟩
    simp only [Keyed.keys, List.mem_cons, reduceCtorEq, Order.Key.id.injEq, List.mem_map, exists_false, and_false,
      or_false] at key
    exact key.symm
  · rintro ⟨member, rfl⟩
    exact ⟨member, List.mem_cons_self⟩

/-- A row of checks finds nothing where each of them does. -/
theorem check_eq_none_iff {Code : Type} {condition : Prop} [Decidable condition] {code : Code} {rest : Option Code} :
    (if condition then some code else rest) = none ↔ ¬condition ∧ rest = none := by
  by_cases holds : condition
  · rw [if_pos holds]
    constructor
    · nofun
    · rintro ⟨absent, _⟩
      exact absurd holds absent
  · rw [if_neg holds]
    exact (and_iff_right holds).symm

theorem operationalMismatch_eq_none_iff {hostAttempt : Option PaymentAttempt}
    {packageOrder byReference : Option Order} {knownPayment : Option Payment} :
    operationalMismatch event order hostAttempt packageOrder byReference knownPayment = none ↔
      (forall attempt other, hostAttempt = some attempt -> packageOrder = some other -> attempt.orderId = other.id) ∧
        (forall other, byReference = some other -> other.id = order.id) ∧
        (forall payment, knownPayment = some payment -> payment.orderId = order.id) ∧
        (forall reference, event.reference = some reference -> Carries order reference) ∧
        event.amountMinor = some order.totalMinor ∧ currencyMismatch event order knownPayment = false := by
  have checkout : (hostAttempt.any fun attempt => packageOrder.any fun other => attempt.orderId ≠ other.id) = false ↔
      forall attempt other, hostAttempt = some attempt -> packageOrder = some other ->
        attempt.orderId = other.id := by
    cases hostAttempt <;> cases packageOrder <;> simp
  have named : (byReference.any fun other => other.id ≠ order.id) = false ↔
      forall other, byReference = some other -> other.id = order.id := by
    cases byReference <;> simp
  have paid : (knownPayment.any fun payment => payment.orderId ≠ order.id) = false ↔
      forall payment, knownPayment = some payment -> payment.orderId = order.id := by
    cases knownPayment <;> simp
  have carried : (event.reference.any fun reference => reference ≠ order.id && reference ≠ order.number) = false ↔
      forall reference, event.reference = some reference -> Carries order reference := by
    cases event.reference with
    | none => simp
    | some reference =>
      by_cases byId : order.id = reference
      · simp [Carries, byId]
      · by_cases byNumber : order.number = reference
        · simp [Carries, byNumber]
        · simp [Carries, byId, byNumber, Ne.symm byId, Ne.symm byNumber]
  unfold operationalMismatch
  rw [← checkout, ← named, ← paid, ← carried]
  simp only [check_eq_none_iff, Bool.not_eq_true, ne_eq, not_not, and_true]

theorem none_orElse (second : Option Order) : (none <|> second) = second := rfl

/-- A candidate that no way of naming the order contradicts. -/
def Agrees (candidate : Option Order) (order : Order) : Prop := forall other, candidate = some other -> other = order

theorem agrees_orElse {first second : Option Order} (firstAgrees : Agrees first order)
    (secondAgrees : Agrees second order) : Agrees (first <|> second) order := by
  intro other found
  cases first with
  | none => exact secondAgrees other found
  | some stored => exact firstAgrees other found

theorem orElse_isSome {first second : Option Order} :
    (first <|> second).isSome = true ↔ first.isSome = true ∨ second.isSome = true := by
  cases first with
  | none => simp
  | some stored => simp

/-- The order that the resolution takes before it compares. -/
def candidateOf (db : Db) (event : VerifiedEvent) : Option Order :=
  ((hostAttemptOf db.hostPayments event).bind fun attempt => db.commerce.orders.lookup (.id attempt.orderId)) <|>
    ((packageAttemptOf db.payments event).bind fun attempt =>
      db.commerce.orders.lookup (.id attempt.commercialReference)) <|>
    (event.reference.bind (orderByReference db.commerce)) <|>
    ((knownPaymentOf db.hostPayments event).bind fun payment => db.commerce.orders.lookup (.id payment.orderId))

theorem resolveOperationalOrder_eq (db : Db) (event : VerifiedEvent) : resolveOperationalOrder db event =
    if event.externalCheckoutId.isSome ∧ (hostAttemptOf db.hostPayments event).isNone ∧
        (packageAttemptOf db.payments event).isNone ∧ (knownPaymentOf db.hostPayments event).isNone then
      .error (.payment .checkoutMismatch)
    else
      match candidateOf db event with
      | none => .error (.payment .referenceMismatch)
      | some order =>
        match operationalMismatch event order (hostAttemptOf db.hostPayments event)
            ((packageAttemptOf db.payments event).bind fun attempt =>
              db.commerce.orders.lookup (.id attempt.commercialReference))
            (event.reference.bind (orderByReference db.commerce)) (knownPaymentOf db.hostPayments event) with
        | some code => .error (.payment code)
        | none => .ok
            { order, hostAttempt := hostAttemptOf db.hostPayments event
              packageAttempt := packageAttemptOf db.payments event
              knownPayment := knownPaymentOf db.hostPayments event } := rfl

/-- The order a reference leads to is one that carries it. -/
theorem carries_of_orderByReference {store : CommerceStore} {reference : String}
    (found : orderByReference store reference = some order) :
    order ∈ store.orders ∧ Carries order reference :=
  orderByReference_mem found

theorem orderByReference_isSome {store : CommerceStore} {reference : String}
    (member : order ∈ store.orders) (carries : Carries order reference) :
    (orderByReference store reference).isSome = true := by
  apply List.find?_isSome.mpr
  exact ⟨order, member, by simpa [Carries] using carries⟩

/-- What is compared makes the order the candidate. -/
theorem candidateOf_compared (state : LinkedDb) (member : order ∈ state.db.commerce.orders)
    (compared : Compared state.db event order) : candidateOf state.db event = some order := by
  have agrees : Agrees (candidateOf state.db event) order := by
    refine agrees_orElse ?_ (agrees_orElse ?_ (agrees_orElse ?_ ?_))
    · intro other found
      rcases Option.bind_eq_some_iff.mp found with ⟨attempt, known, found⟩
      rcases lookup_order_iff.mp found with ⟨otherMember, named⟩
      exact order_eq_of_id otherMember member (named.trans (compared.hostAttempt attempt known))
    · intro other found
      rcases Option.bind_eq_some_iff.mp found with ⟨attempt, known, found⟩
      rcases lookup_order_iff.mp found with ⟨otherMember, named⟩
      exact compared.packageAttempt attempt known other otherMember named
    · intro other found
      rcases Option.bind_eq_some_iff.mp found with ⟨reference, named, found⟩
      exact Option.some.inj (found.symm.trans (compared.reference reference named))
    · intro other found
      rcases Option.bind_eq_some_iff.mp found with ⟨payment, known, found⟩
      rcases lookup_order_iff.mp found with ⟨otherMember, named⟩
      exact order_eq_of_id otherMember member (named.trans (compared.payment payment known))
  have present : (candidateOf state.db event).isSome = true := by
    simp only [candidateOf, orElse_isSome]
    rcases compared.found with host | ⟨reference, named, _⟩ | payment | ⟨attempt, known, named⟩
    · rcases Option.isSome_iff_exists.mp host with ⟨attempt, known⟩
      left
      rw [known, Option.bind_some, lookup_order_iff.mpr ⟨member, (compared.hostAttempt attempt known).symm⟩]
      rfl
    · right; right; left
      rw [named, Option.bind_some, compared.reference reference named]
      rfl
    · rcases Option.isSome_iff_exists.mp payment with ⟨payment, known⟩
      right; right; right
      rw [known, Option.bind_some, lookup_order_iff.mpr ⟨member, (compared.payment payment known).symm⟩]
      rfl
    · right; left
      rw [known, Option.bind_some, lookup_order_iff.mpr ⟨member, named.symm⟩]
      rfl
  rcases Option.isSome_iff_exists.mp present with ⟨other, found⟩
  rw [found, agrees other found]

/-- A candidate comes from one of the identifiers. -/
theorem found_of_candidateOf (candidate : candidateOf db event = some order) :
    Known db event .hostCheckout ∨ Known db event .reference ∨ Known db event .payment ∨
      Exists fun attempt => packageAttemptOf db.payments event = some attempt ∧
        attempt.commercialReference = order.id := by
  unfold candidateOf at candidate
  cases host : hostAttemptOf db.hostPayments event with
  | some attempt => exact Or.inl (by rw [Known, host]; rfl)
  | none =>
    rw [host, Option.bind_none, none_orElse] at candidate
    cases package : (packageAttemptOf db.payments event).bind fun attempt =>
        db.commerce.orders.lookup (.id attempt.commercialReference) with
    | some other =>
      rw [package] at candidate
      cases candidate
      rcases Option.bind_eq_some_iff.mp package with ⟨attempt, known, found⟩
      exact Or.inr (Or.inr (Or.inr ⟨attempt, known, (lookup_order_iff.mp found).2.symm⟩))
    | none =>
      rw [package, none_orElse] at candidate
      cases named : event.reference.bind (orderByReference db.commerce) with
      | some other =>
        rcases Option.bind_eq_some_iff.mp named with ⟨reference, carried, found⟩
        have carries := carries_of_orderByReference found
        exact Or.inr (Or.inl ⟨reference, carried, other, carries⟩)
      | none =>
        rw [named, none_orElse] at candidate
        rcases Option.bind_eq_some_iff.mp candidate with ⟨payment, known, _⟩
        exact Or.inr (Or.inr (Or.inl (by rw [Known, known]; rfl)))

/-- The host's attempt decides, where there is one. -/
theorem host_of_candidateOf (state : LinkedDb) (candidate : candidateOf state.db event = some order)
    {attempt : PaymentAttempt} (known : hostAttemptOf state.db.hostPayments event = some attempt) :
    attempt.orderId = order.id := by
  have member : attempt ∈ state.db.hostPayments.paymentAttempts := by
    rcases Option.bind_eq_some_iff.mp known with ⟨checkout, _, found⟩
    exact Table.lookup_mem _ found
  rcases state.attemptOrder attempt member with ⟨other, otherMember, named⟩
  unfold candidateOf at candidate
  rw [known, Option.bind_some, lookup_order_iff.mpr ⟨otherMember, named⟩] at candidate
  cases candidate
  exact named.symm

/-- The resolution gives exactly the orders on which the compared rows agree. -/
theorem resolveOperationalOrder_ok_iff (state : LinkedDb) {resolved : OperationalOrder} :
    resolveOperationalOrder state.db event = .ok resolved ↔
      resolved.order ∈ state.db.commerce.orders ∧ Compared state.db event resolved.order ∧
        resolved.hostAttempt = hostAttemptOf state.db.hostPayments event ∧
        resolved.packageAttempt = packageAttemptOf state.db.payments event ∧
        resolved.knownPayment = knownPaymentOf state.db.hostPayments event := by
  constructor
  · intro done
    have resolves := resolveOperationalOrder_resolves done
    have member := Table.lookup_mem _ resolves.found
    rw [resolveOperationalOrder_eq] at done
    split at done
    case isTrue => cases done
    case isFalse lookedUp =>
    split at done
    case h_1 => cases done
    case h_2 order candidate =>
    split at done
    case h_1 => cases done
    case h_2 agrees =>
    cases done
    rcases operationalMismatch_eq_none_iff.mp agrees with ⟨checkout, named, paid, carried, amount, currency⟩
    refine ⟨member, ?_, rfl, rfl, rfl⟩
    exact
      { checkout := by
          intro present
          by_contra unknown
          simp only [Known, not_or, Bool.not_eq_true, Option.isSome_eq_false_iff] at unknown
          exact lookedUp ⟨present, unknown⟩
        found := found_of_candidateOf candidate
        hostAttempt := fun attempt known => host_of_candidateOf state candidate known
        packageAttempt := by
          intro attempt known other otherMember isReference
          have package : ((packageAttemptOf state.db.payments event).bind fun attempt =>
              state.db.commerce.orders.lookup (.id attempt.commercialReference)) = some other := by
            rw [known, Option.bind_some]
            exact lookup_order_iff.mpr ⟨otherMember, isReference⟩
          cases host : hostAttemptOf state.db.hostPayments event with
          | some hostAttempt =>
            have sameOrder := checkout hostAttempt other host package
            have ofHost := host_of_candidateOf state candidate host
            exact order_eq_of_id otherMember member (sameOrder.symm.trans ofHost)
          | none =>
            unfold candidateOf at candidate
            rw [host, Option.bind_none, none_orElse, package] at candidate
            exact Option.some.inj candidate
        reference := by
          intro reference isReference
          have present := orderByReference_isSome member (carried reference isReference)
          rcases Option.isSome_iff_exists.mp present with ⟨other, found⟩
          have sameId := named other (by rw [isReference]; exact found)
          rw [found, order_eq_of_id (carries_of_orderByReference found).1 member sameId]
        payment := paid
        amount, currency }
  · rintro ⟨member, compared, host, package, payment⟩
    have candidate := candidateOf_compared state member compared
    have lookedUp : ¬(event.externalCheckoutId.isSome ∧ (hostAttemptOf state.db.hostPayments event).isNone ∧
        (packageAttemptOf state.db.payments event).isNone ∧
        (knownPaymentOf state.db.hostPayments event).isNone) := by
      rintro ⟨present, noHost, noPackage, noPayment⟩
      rcases compared.checkout present with known | known | known
      · exact Option.not_isSome_iff_eq_none.mpr (Option.isNone_iff_eq_none.mp noHost) known
      · exact Option.not_isSome_iff_eq_none.mpr (Option.isNone_iff_eq_none.mp noPackage) known
      · exact Option.not_isSome_iff_eq_none.mpr (Option.isNone_iff_eq_none.mp noPayment) known
    have agrees : operationalMismatch event resolved.order (hostAttemptOf state.db.hostPayments event)
        ((packageAttemptOf state.db.payments event).bind fun attempt =>
          state.db.commerce.orders.lookup (.id attempt.commercialReference))
        (event.reference.bind (orderByReference state.db.commerce))
        (knownPaymentOf state.db.hostPayments event) = none := by
      apply operationalMismatch_eq_none_iff.mpr
      refine ⟨?_, ?_, compared.payment, ?_, compared.amount, compared.currency⟩
      · intro attempt other known found
        rcases Option.bind_eq_some_iff.mp found with ⟨packageAttempt, packageKnown, found⟩
        rcases lookup_order_iff.mp found with ⟨otherMember, isReference⟩
        rw [compared.packageAttempt packageAttempt packageKnown other otherMember isReference]
        exact compared.hostAttempt attempt known
      · intro other found
        rcases Option.bind_eq_some_iff.mp found with ⟨reference, isReference, found⟩
        rw [compared.reference reference isReference] at found
        rw [Option.some.inj found]
      · intro reference isReference
        exact (carries_of_orderByReference (compared.reference reference isReference)).2
    rw [resolveOperationalOrder_eq, if_neg lookedUp, candidate]
    dsimp only
    rw [agrees]
    rcases resolved with ⟨order, _, _, _⟩
    cases host
    cases package
    cases payment
    rfl

/-! ## When an event is bound to one order -/

/-- The currency test, read as the two cases it has. -/
theorem currency_agrees
    (agrees : currencyMismatch event order (knownPaymentOf db.hostPayments event) = false) :
    (forall currency, event.currency = some currency -> toUpperCase currency = toUpperCase order.currency) ∧
      (event.currency = none -> event.type = .paymentRefundUpdated ∧ Known db event .payment) := by
  unfold currencyMismatch at agrees
  constructor
  · intro currency named
    rw [named] at agrees
    simpa using agrees
  · intro absent
    rw [absent] at agrees
    simpa [Known, Option.isSome_iff_ne_none] using agrees

/-- Where nothing is contested, every identifier designates the order compared. -/
theorem designates_of_uncontested (compared : Compared db event order)
    (uncontested : Uncontested db event order) (identifier : Identifier)
    (known : Known db event identifier) :
    Designates db event order identifier := by
  cases identifier with
  | hostCheckout =>
    rcases Option.isSome_iff_exists.mp known with ⟨attempt, found⟩
    exact ⟨attempt, found, uncontested.provider attempt found, compared.hostAttempt attempt found⟩
  | packageCheckout =>
    rcases Option.isSome_iff_exists.mp known with ⟨attempt, found⟩
    exact ⟨attempt, found, uncontested.packageReference attempt found⟩
  | reference =>
    rcases known with ⟨reference, named, _⟩
    exact ⟨reference, named, (carries_of_orderByReference (compared.reference reference named)).2⟩
  | payment =>
    rcases Option.isSome_iff_exists.mp known with ⟨payment, found⟩
    exact ⟨payment, found, compared.payment payment found⟩

/-- Where nothing is contested, no identifier designates another order. -/
theorem designated_eq {other : Order} (member : order ∈ db.commerce.orders)
    (compared : Compared db event order) (uncontested : Uncontested db event order)
    (otherMember : other ∈ db.commerce.orders) {identifier : Identifier}
    (designates : Designates db event other identifier) : other = order := by
  by_contra differs
  have alone := uncontested.alone other otherMember differs
  cases identifier with
  | hostCheckout =>
    rcases designates with ⟨attempt, found, _, named⟩
    exact differs (order_eq_of_id otherMember member (named.symm.trans (compared.hostAttempt attempt found)))
  | packageCheckout =>
    rcases designates with ⟨attempt, found, carries⟩
    exact alone.2 attempt found carries
  | reference =>
    rcases designates with ⟨reference, named, carries⟩
    exact alone.1 reference named carries
  | payment =>
    rcases designates with ⟨payment, found, named⟩
    exact differs (order_eq_of_id otherMember member (named.symm.trans (compared.payment payment found)))

/-- The resolution binds an event to one order exactly where, on every order
that passes what the code compares, nothing is contested that it does not. -/
theorem bindsOneOrder_iff (state : LinkedDb) (event : VerifiedEvent) :
    BindsOneOrder state.db event (resolveOperationalOrder state.db event) ↔
      forall order, order ∈ state.db.commerce.orders -> Compared state.db event order ->
        Uncontested state.db event order := by
  constructor
  · intro binds order member compared
    have done : resolveOperationalOrder state.db event = .ok
        { order, hostAttempt := hostAttemptOf state.db.hostPayments event
          packageAttempt := packageAttemptOf state.db.payments event
          knownPayment := knownPaymentOf state.db.hostPayments event } :=
      (resolveOperationalOrder_ok_iff state).mpr ⟨member, compared, rfl, rfl, rfl⟩
    have onlyOne : forall other identifier, other ∈ state.db.commerce.orders -> other ≠ order ->
        Known state.db event identifier -> ¬Designates state.db event other identifier := by
      intro other identifier otherMember differs known designates
      have own := binds.designated _ done identifier known
      rcases binds.rejects identifier identifier other order otherMember member designates own differs with
        ⟨error, rejected⟩
      rw [done] at rejected
      cases rejected
    exact
      { provider := by
          intro attempt found
          rcases binds.designated _ done .hostCheckout (by rw [Known, found]; rfl) with ⟨other, same, provider, _⟩
          rw [found] at same
          cases same
          exact provider
        packageReference := by
          intro attempt found
          rcases binds.designated _ done .packageCheckout (by rw [Known, found]; rfl) with ⟨other, same, carries⟩
          rw [found] at same
          cases same
          exact carries
        alone := by
          intro other otherMember differs
          constructor
          · intro reference named carries
            exact onlyOne other .reference otherMember differs ⟨reference, named, other, otherMember, carries⟩
              ⟨reference, named, carries⟩
          · intro attempt found carries
            exact onlyOne other .packageCheckout otherMember differs (by rw [Known, found]; rfl)
              ⟨attempt, found, carries⟩ }
  · intro condition
    have facts : forall resolved, resolveOperationalOrder state.db event = .ok resolved ->
        resolved.order ∈ state.db.commerce.orders ∧ Compared state.db event resolved.order ∧
          Uncontested state.db event resolved.order := by
      intro resolved done
      rcases (resolveOperationalOrder_ok_iff state).mp done with ⟨member, compared, _⟩
      exact ⟨member, compared, condition resolved.order member compared⟩
    exact
      { designated := fun resolved done => designates_of_uncontested (facts resolved done).2.1 (facts resolved done).2.2
        amount := fun resolved done => (facts resolved done).2.1.amount
        currency := fun resolved done => currency_agrees (facts resolved done).2.1.currency
        known := by
          intro resolved done
          rcases (facts resolved done).2.1.found with known | known | known | ⟨attempt, known, _⟩
          · exact ⟨.hostCheckout, known⟩
          · exact ⟨.reference, known⟩
          · exact ⟨.payment, known⟩
          · exact ⟨.packageCheckout, by rw [Known, known]; rfl⟩
        rejects := by
          intro first second left right leftMember rightMember leftDesignated rightDesignated differ
          cases answer : resolveOperationalOrder state.db event with
          | error failure => exact ⟨failure, rfl⟩
          | ok resolved =>
            rcases facts resolved answer with ⟨member, compared, uncontested⟩
            have leftIs := designated_eq member compared uncontested leftMember leftDesignated
            have rightIs := designated_eq member compared uncontested rightMember rightDesignated
            exact absurd (leftIs.trans rightIs.symm) differ }

/-! ### An attempt that names its order by the number -/

def numberedOrder (id : Id) (number : String) : Order where
  id := id
  number := number
  sourceReference := none
  accountId := "account"
  status := .pending
  fulfillmentMode := .accountEntitlement
  fulfillmentSnapshot := .null
  currency := "PHP"
  totalMinor := 1000
  createdAt := 0
  paidAt := none
  renewalSubscriptionId := none

def numberedAttempt : PaymentCheckoutAttempt where
  id := "attempt"
  sourceReference := "source"
  commercialReference := "BKE-1"
  provider := "paymongo"
  requestFingerprint := "fingerprint"
  amountMinor := 1000
  currency := "PHP"
  payerSnapshot := .null
  itemsSnapshot := .null
  status := .pending
  externalCheckoutId := some "cs_1"
  checkoutUrl := some "https://pay.example/cs_1"
  failureCode := none
  createdAt := 0
  updatedAt := 0

def numberedState : LinkedDb where
  db :=
    { Db.empty with
      commerce := { Db.empty.commerce with
        orders := ⟨[numberedOrder "first" "BKE-1", numberedOrder "second" "BKE-2"], by decide⟩ }
      payments := { Db.empty.payments with
        checkoutAttempts := ⟨[numberedAttempt], List.pairwise_singleton _ _⟩ } }
  attemptOrder attempt member := absurd member (Table.not_mem_empty attempt)
  paymentOrder payment member := absurd member (Table.not_mem_empty payment)

/-- The payment of the first order's checkout failed; the event refers to the second order. -/
def strayFailure : VerifiedEvent where
  providerEventRecordId := "record"
  provider := "paymongo"
  eventId := "evt_1"
  rawType := some "payment.failed"
  type := .paymentFailed
  externalPaymentId := none
  externalCheckoutId := some "cs_1"
  reference := some "second"
  externalRefundId := none
  refundStatus := none
  amountMinor := some 1000
  currency := some "PHP"
  livemode := false
  occurredAt := 1
  receivedAt := 2

theorem stray_order_resolved : ¬forall (state : LinkedDb) (event : VerifiedEvent), event.type ≠ .paymentPaid ->
    BindsOneOrder state.db event (resolveOperationalOrder state.db event) := by
  intro binds
  have done : resolveOperationalOrder numberedState.db strayFailure = .ok
      { order := numberedOrder "second" "BKE-2", hostAttempt := none, packageAttempt := some numberedAttempt
        knownPayment := none } := by decide +kernel
  have same : packageAttemptOf numberedState.db.payments strayFailure = some numberedAttempt := by decide +kernel
  have known : Known numberedState.db strayFailure .packageCheckout := by
    rw [Known, same]
    rfl
  rcases (binds numberedState strayFailure (by decide)).designated _ done .packageCheckout known with
    ⟨attempt, found, carries⟩
  rw [same] at found
  cases found
  exact absurd carries (by decide)

end Payments
end DigitalSolutions
