import DigitalSolutions.Storefront.WebhookSafety

namespace DigitalSolutions
namespace Storefront

open Foundation Persistence Platform Payments

/-!
# Owner events and stored webhooks

Two tables describe one event: the webhook row with its normalised data, and
the owner event of the payments package.  An owner event is faithful when it
has the contents and the fingerprint of the stored data.
-/

variable {webhookEvents laterEvents : Table WebhookEvent} {providerEvents : Table PaymentProviderEvent}
variable {operational row : WebhookEvent} {input : ProviderEventClaim}
variable {inserted : Table PaymentProviderEvent}

/-- What an event says.  An empty text says nothing. -/
structure EventContents where
  type : ProviderEventType
  externalPaymentId : Option String
  externalCheckoutId : Option String
  reference : Option String
  externalRefundId : Option String
  refundStatus : Option RefundStatus
  amountMinor : Option Int
  currency : Option String
  deriving DecidableEq

def ownerContents (owner : PaymentProviderEvent) : EventContents where
  type := owner.type
  externalPaymentId := present owner.externalPaymentId
  externalCheckoutId := present owner.externalCheckoutId
  reference := present owner.reference
  externalRefundId := present owner.externalRefundId
  refundStatus := owner.refundStatus
  amountMinor := owner.amountMinor
  currency := present owner.currency

def storedContents (stored : StoredEvent) : EventContents where
  type := stored.type
  externalPaymentId := present stored.externalPaymentId
  externalCheckoutId := present stored.externalCheckoutId
  reference := present stored.reference
  externalRefundId := present stored.externalRefundId
  refundStatus := stored.refundStatus
  amountMinor := stored.amountMinor
  currency := present stored.currency

/-- The contents that a handler works with. -/
def verifiedContents (event : VerifiedEvent) : EventContents where
  type := event.type
  externalPaymentId := event.externalPaymentId
  externalCheckoutId := event.externalCheckoutId
  reference := event.reference
  externalRefundId := event.externalRefundId
  refundStatus := event.refundStatus
  amountMinor := event.amountMinor
  currency := event.currency

/-- The contents of a delivery. -/
def deliveredContents (input : ProviderEventClaim) : EventContents := storedContents (storedEvent input)

theorem present_present (text : Option String) : present (present text) = present text := by
  cases text with
  | none => rfl
  | some value =>
    by_cases blank : value = ""
    · subst blank
      rfl
    · have isPresent : present (some value) = some value := present_eq_some.mpr ⟨rfl, blank⟩
      rw [isPresent, isPresent]

theorem ownerContents_ownerEvent (moment : Moment) (operational : WebhookEvent) (input : ProviderEventClaim) :
    ownerContents (ownerEvent moment operational input) = deliveredContents input := by
  simp only [ownerContents, ownerEvent, deliveredContents, storedContents, storedEvent, present_present]

/-! ## Faithful tables -/

/-- The owner event says what the stored data says, under its fingerprint. -/
structure Agrees (owner : PaymentProviderEvent) (stored : StoredEvent) : Prop where
  contents : ownerContents owner = storedContents stored
  fingerprint : forall fingerprint, present stored.eventFingerprint = some fingerprint ->
    owner.eventFingerprint = fingerprint

def Faithful (webhookEvents : Table WebhookEvent) (providerEvents : Table PaymentProviderEvent) : Prop :=
  forall owner, owner ∈ providerEvents -> forall row, row ∈ webhookEvents -> webhookKey row = ownerKey owner ->
    forall stored, row.normalizedData = some stored -> Agrees owner stored

/-- Each owner event belongs to a stored webhook. -/
def Stored (webhookEvents : Table WebhookEvent) (providerEvents : Table PaymentProviderEvent) : Prop :=
  forall owner, owner ∈ providerEvents -> Exists fun row => row ∈ webhookEvents ∧ webhookKey row = ownerKey owner

theorem data_of_terms {left right : WebhookEvent} (same : webhookTerms left = webhookTerms right) :
    left.normalizedData = right.normalizedData := by
  simp only [webhookTerms, Prod.mk.injEq] at same
  exact same.2.2.2

theorem Faithful.same (faithful : Faithful webhookEvents providerEvents)
    (same : SameRows webhookEvents laterEvents) : Faithful laterEvents providerEvents := by
  intro owner member row rowMember sameKey stored isStored
  rcases same.before rowMember with ⟨old, oldMember, sameTerms⟩
  exact faithful owner member old oldMember ((webhookKey_of_terms sameTerms).trans sameKey) stored
    ((data_of_terms sameTerms).trans isStored)

theorem Stored.same (known : Stored webhookEvents providerEvents) (same : SameRows webhookEvents laterEvents) :
    Stored laterEvents providerEvents := by
  intro owner member
  rcases known owner member with ⟨row, rowMember, sameKey⟩
  rcases same.after rowMember with ⟨later, laterMember, sameTerms⟩
  exact ⟨later, laterMember, (webhookKey_of_terms sameTerms).trans sameKey⟩

/-- A new owner event of a stored row. -/
theorem faithful_insert {added : PaymentProviderEvent} (faithful : Faithful webhookEvents providerEvents)
    (done : providerEvents.insert added = some inserted) (member : row ∈ webhookEvents)
    (isKey : webhookKey row = ownerKey added)
    (agrees : forall stored, row.normalizedData = some stored -> Agrees added stored) :
    Faithful webhookEvents inserted := by
  intro owner ownerMember other otherMember sameKey stored isStored
  rcases (Table.mem_insert done).mp ownerMember with old | rfl
  · exact faithful owner old other otherMember sameKey stored isStored
  · have isRow := row_eq_of_key otherMember member (sameKey.trans isKey.symm)
    subst isRow
    exact agrees stored isStored

theorem stored_insert {added : PaymentProviderEvent} (known : Stored webhookEvents providerEvents)
    (done : providerEvents.insert added = some inserted) (member : row ∈ webhookEvents)
    (isKey : webhookKey row = ownerKey added) :
    Stored webhookEvents inserted := by
  intro owner ownerMember
  rcases (Table.mem_insert done).mp ownerMember with old | rfl
  · exact known owner old
  · exact ⟨row, member, isKey⟩

/-- A new webhook row, of which there is no owner event. -/
theorem faithful_of_new {inserted : Table WebhookEvent} {added : WebhookEvent}
    (faithful : Faithful webhookEvents providerEvents) (known : Stored webhookEvents providerEvents)
    (done : webhookEvents.insert added = some inserted) : Faithful inserted providerEvents := by
  intro owner ownerMember row rowMember sameKey stored isStored
  rcases (Table.mem_insert done).mp rowMember with old | rfl
  · exact faithful owner ownerMember row old sameKey stored isStored
  · rcases known owner ownerMember with ⟨other, otherMember, otherKey⟩
    have inInserted := (Table.mem_insert done).mpr (Or.inl otherMember)
    have isRow := row_eq_of_key inInserted rowMember (otherKey.trans sameKey.symm)
    subst isRow
    exact faithful owner ownerMember other otherMember sameKey stored isStored

theorem stored_of_new {inserted : Table WebhookEvent} {added : WebhookEvent}
    (known : Stored webhookEvents providerEvents) (done : webhookEvents.insert added = some inserted) :
    Stored inserted providerEvents := by
  intro owner ownerMember
  rcases known owner ownerMember with ⟨row, rowMember, sameKey⟩
  exact ⟨row, (Table.mem_insert done).mpr (Or.inl rowMember), sameKey⟩

/-! ## A claim -/

/-- A delivery that meets a stored webhook without an owner event says what the
webhook says. -/
def Fits (webhookEvents : Table WebhookEvent) (providerEvents : Table PaymentProviderEvent)
    (input : ProviderEventClaim) : Prop :=
  forall row, row ∈ webhookEvents -> webhookKey row = (input.provider, input.eventId) ->
    (forall owner, owner ∈ providerEvents -> ownerKey owner ≠ (input.provider, input.eventId)) ->
    forall stored, row.normalizedData = some stored -> deliveredContents input = storedContents stored

theorem operationalFingerprint_stored {stored : StoredEvent}
    (isStored : operational.normalizedData = some stored) {fingerprint : String}
    (isFingerprint : present stored.eventFingerprint = some fingerprint) :
    operationalFingerprint operational input = fingerprint := by
  simp only [operationalFingerprint, isStored, Option.bind_some, isFingerprint]

/-- What a delivery adds is an owner event of its row, or nothing. -/
theorem owners_of_claim {moment : Moment} {before after : Table PaymentProviderEvent}
    (inserted : insertOwnerEvent (ownerEvent moment operational input) before = some after) :
    after = before ∨
      ((forall owner, owner ∈ before -> ownerKey owner ≠ (input.provider, input.eventId)) ∧
        before.insert (ownerEvent moment operational input) = some after) := by
  unfold insertOwnerEvent at inserted
  split at inserted
  · cases inserted
    exact Or.inl rfl
  · rename_i missing
    refine Or.inr ⟨?_, inserted⟩
    intro owner member sameKey
    simp only [ownerKey, Prod.mk.injEq] at sameKey
    apply before.lookup_eq_none.mp missing owner member
    simp [Keyed.keys, ownerEvent, sameKey.1, sameKey.2]

/-- What a claim keeps of the tables. -/
structure Grown (before after : Db) : Prop where
  rows : Table.Grows webhookTerms before.webhookEvents after.webhookEvents
  owners : forall owner, owner ∈ before.payments.providerEvents -> owner ∈ after.payments.providerEvents

theorem Grown.refl (db : Db) : Grown db db := ⟨Table.Grows.refl _ _, fun _ member => member⟩

theorem Grown.trans {first second third : Db} (left : Grown first second) (right : Grown second third) :
    Grown first third :=
  ⟨left.rows.trans right.rows, fun owner member => right.owners owner (left.owners owner member)⟩

variable {before after : Db}

/-- A claim that finds the row, or has stored it. -/
theorem faithful_claim {moment : Moment} {claimed : ProviderEventClaimResult}
    (commit : ClaimCommit moment input before claimed after operational)
    (faithful : Faithful before.webhookEvents before.payments.providerEvents)
    (known : Stored before.webhookEvents before.payments.providerEvents)
    (fits : Fits before.webhookEvents before.payments.providerEvents input) :
    Faithful after.webhookEvents after.payments.providerEvents ∧
      Stored after.webhookEvents after.payments.providerEvents ∧ Grown before after := by
  rcases claimEvent_owners commit with ⟨added, _, _, member, isKey⟩
  have rowFacts : Faithful after.webhookEvents before.payments.providerEvents ∧
      Stored after.webhookEvents before.payments.providerEvents ∧
      Table.Grows webhookTerms before.webhookEvents after.webhookEvents ∧
      ((forall owner, owner ∈ before.payments.providerEvents ->
          ownerKey owner ≠ (input.provider, input.eventId)) ->
        forall stored, operational.normalizedData = some stored ->
          deliveredContents input = storedContents stored) := by
    rcases claimEvent_rows commit with ⟨_, inserted, isNew⟩ | ⟨_, same⟩
    · refine ⟨faithful_of_new faithful known inserted, stored_of_new known inserted, Table.grows_insert inserted, ?_⟩
      intro _ stored isStored
      rw [isNew] at isStored
      cases isStored
      rfl
    · rw [same]
      refine ⟨faithful, known, Table.Grows.refl _ _, ?_⟩
      intro without stored isStored
      rw [same] at member
      exact fits operational member isKey without stored isStored
  rcases rowFacts with ⟨faithful', known', grows, contents⟩
  rcases owners_of_claim commit.providerEvents with same | ⟨without, inserted⟩
  · rw [same]
    exact ⟨faithful', known', grows, fun owner old => same.symm ▸ old⟩
  · refine ⟨faithful_insert faithful' inserted member isKey ?_, stored_insert known' inserted member isKey,
      grows, added.kept⟩
    intro stored isStored
    refine ⟨?_, ?_⟩
    · rw [ownerContents_ownerEvent]
      exact contents without stored isStored
    · intro fingerprint isFingerprint
      exact operationalFingerprint_stored isStored isFingerprint

/-! ## A retry -/

theorem agrees_restored (webhook : WebhookEvent) (stored : StoredEvent) :
    Agrees (restoredOwnerEvent webhook stored) stored where
  contents := rfl
  fingerprint := by
    intro fingerprint isFingerprint
    have isStored := (present_eq_some.mp isFingerprint).1
    simp only [restoredOwnerEvent, isStored, Option.getD_some]

/-- A retry works with an owner event, which it may have restored from the row. -/
theorem faithful_restored {webhook : WebhookEvent} {event : VerifiedEvent} {payments : PaymentsStore}
    (restored : (ownerEventForStoredWebhook webhook).Commits before.payments event payments)
    (faithful : Faithful before.webhookEvents before.payments.providerEvents)
    (known : Stored before.webhookEvents before.payments.providerEvents)
    (member : row ∈ before.webhookEvents) (sameTerms : webhookTerms row = webhookTerms webhook) :
    Faithful before.webhookEvents payments.providerEvents ∧ Stored before.webhookEvents payments.providerEvents ∧
      Grown before { before with payments } ∧
      Exists fun owner => owner ∈ payments.providerEvents ∧ event = snapshot owner := by
  rcases ownerEventForStoredWebhook_commits restored with
    ⟨existing, found, rfl, rfl⟩ | ⟨_, stored, isStored, rfl, inserted, _⟩
  · exact ⟨faithful, known, Grown.refl before, existing, Table.lookup_mem _ found, rfl⟩
  · have isKey : webhookKey row = ownerKey (restoredOwnerEvent webhook stored) := webhookKey_of_terms sameTerms
    refine ⟨faithful_insert faithful inserted member isKey ?_, stored_insert known inserted member isKey,
      ⟨Table.Grows.refl _ _, fun owner old => (Table.mem_insert inserted).mpr (Or.inl old)⟩, _,
      (Table.mem_insert inserted).mpr (Or.inr rfl), rfl⟩
    intro other isOther
    have same : some other = some stored := isOther.symm.trans ((data_of_terms sameTerms).trans isStored)
    cases same
    exact agrees_restored webhook stored

end Storefront
end DigitalSolutions
