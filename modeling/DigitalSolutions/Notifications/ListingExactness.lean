import DigitalSolutions.Foundation.Checks
import DigitalSolutions.Foundation.NewestFirst
import DigitalSolutions.Notifications.Receipts

namespace DigitalSolutions
namespace Notifications

open Foundation Persistence

/-!
# What a listing shows

A listing reads the newest rows that are addressed to the principal, three for
each item it may show, and leaves out those the inbox policy hides.  It shows
the newest visible notifications exactly where the rows it reads cover them.
-/

/-! ## Visible notifications -/

/-- The principal belongs to the audience. -/
def Reaches (principal : NotificationsPrincipalContext) : NotificationsAudience -> Prop
  | .principal principalId => principalId = principal.principalId
  | .account accountId => accountId ∈ principal.accountIds
  | .administrators => principal.role = "ADMIN"
  | .segment segmentKey => segmentKey ∈ principal.segmentKeys
  | .allUsers => True
  | .allActiveClients => principal.activeClient = true
  | .visitor visitorId => visitorId.isSome = true ∧ visitorId = principal.visitorId

instance (principal : NotificationsPrincipalContext) (audience : NotificationsAudience) :
    Decidable (Reaches principal audience) := by
  cases audience <;> unfold Reaches <;> infer_instance

/-- The notification has not expired. -/
def Lasts (now : Time) (row : NotificationMessage) : Prop := forall expiresAt, row.expiresAt = some expiresAt -> now < expiresAt

instance (now : Time) (row : NotificationMessage) : Decidable (Lasts now row) :=
  decidable_of_iff (row.expiresAt.all (fun expiresAt => decide (now < expiresAt)) = true) (by
    cases expires : row.expiresAt <;> simp [Lasts, expires])

/-- What the policy decides: a notification that reaches the principal and lasts
is visible until it is dismissed. -/
structure ShowsExactly (inbox : NotificationsInboxPolicyCapability) : Prop where
  visible : forall now snapshot principal state, inbox.visibility now snapshot principal (some state) = .visible ↔
    Reaches principal snapshot.audience ∧ Lasts now snapshot.row ∧ state ≠ .dismissed
  dismissed : forall now snapshot principal state,
    inbox.visibility now snapshot principal (some state) = .hidden "DISMISSED" ↔
      Reaches principal snapshot.audience ∧ Lasts now snapshot.row ∧ state = .dismissed

/-- A principal of a signed-in user.  Ids are never empty. -/
structure Addressee where
  principal : NotificationsPrincipalContext
  named : principal.principalId ≠ ""
  accounts : "" ∉ principal.accountIds
  segments : "" ∉ principal.segmentKeys
  visitorless : principal.visitorId = none

def visibleTo (now : Time) (store : NotificationStore) (principal : NotificationsPrincipalContext)
    (includeDismissed : Bool) (row : NotificationMessage) : Bool :=
  match rowAudience row with
  | .ok audience => decide (Reaches principal audience) && decide (Lasts now row) &&
      (includeDismissed || decide (receiptState store row.id principal.principalId ≠ .dismissed))
  | .error _ => false

/-- An item with the contents of a row and the state of the user's receipt. -/
structure Shows (store : NotificationStore) (userId : Id) (row : NotificationMessage) (item : WebNotificationItem) :
    Prop where
  id : item.id = row.id
  source : item.source = row.sourceModule
  event : item.event = row.sourceEvent
  title : item.title = row.title
  body : item.body = row.body
  category : item.category = row.category
  priority : item.priority = row.priority
  createdAt : item.createdAt = row.createdAt
  expiresAt : item.expiresAt = row.expiresAt
  state : item.state = receiptState store row.id userId
  audience : rowAudience row = .ok item.audience
  accountId : item.accountId = row.audienceAccountId
  productId : item.productId = row.productId
  data : item.data = row.data

/-! ## The query -/

theorem required_ok_iff {column : Option String} {value : String} :
    required column = .ok value ↔ column = some value ∧ value ≠ "" := by
  cases column with
  | none =>
    constructor
    · nofun
    · rintro ⟨⟨⟩, _⟩
  | some stored =>
    by_cases empty : stored = ""
    · rw [required, if_pos empty]
      constructor
      · nofun
      · rintro ⟨same, nonempty⟩
        cases same
        exact absurd empty nonempty
    · rw [required, if_neg empty]
      constructor
      · intro same
        cases same
        exact ⟨rfl, empty⟩
      · rintro ⟨same, _⟩
        cases same
        rfl

theorem required_of_ne {value : String} (nonempty : value ≠ "") : required (some value) = .ok value :=
  required_ok_iff.mpr ⟨rfl, nonempty⟩

variable {addressee : Addressee} {row : NotificationMessage}
variable {principal : NotificationsPrincipalContext}

/-- The query selects rows whose audience can be read and has the principal. -/
theorem reaches_of_candidate (candidate : candidateWhere addressee.principal row = true) :
    Exists fun audience => rowAudience row = .ok audience ∧ Reaches addressee.principal audience := by
  simp only [candidateWhere, Bool.or_eq_true, Bool.and_eq_true, decide_eq_true_eq] at candidate
  rcases candidate with ((((⟨kind, column⟩ | kind) | ⟨kind, column⟩) | ⟨isAdmin, kind⟩) | ⟨active, kind⟩) | ⟨kind, column⟩
  · refine ⟨.principal addressee.principal.principalId, ?_, rfl⟩
    simp only [rowAudience, kind, column, required_of_ne addressee.named]
    rfl
  · refine ⟨.allUsers, ?_, trivial⟩
    simp only [rowAudience, kind]
    rfl
  · rcases (Option.any_eq_true _ _).mp column with ⟨accountId, column, listed⟩
    have member : accountId ∈ addressee.principal.accountIds := by simpa using listed
    refine ⟨.account accountId, ?_, member⟩
    have nonempty : accountId ≠ "" := fun empty => addressee.accounts (empty ▸ member)
    simp only [rowAudience, kind, column, required_of_ne nonempty]
    rfl
  · refine ⟨.administrators, ?_, isAdmin⟩
    simp only [rowAudience, kind]
    rfl
  · refine ⟨.allActiveClients, ?_, active⟩
    simp only [rowAudience, kind]
    rfl
  · rcases (Option.any_eq_true _ _).mp column with ⟨segmentKey, column, listed⟩
    have member : segmentKey ∈ addressee.principal.segmentKeys := by simpa using listed
    refine ⟨.segment segmentKey, ?_, member⟩
    have nonempty : segmentKey ≠ "" := fun empty => addressee.segments (empty ▸ member)
    simp only [rowAudience, kind, column, required_of_ne nonempty]
    rfl

/-- The query selects every row whose audience has the principal. -/
theorem candidate_of_reaches {audience : NotificationsAudience} (read : rowAudience row = .ok audience)
    (reaches : Reaches addressee.principal audience) : candidateWhere addressee.principal row = true := by
  simp only [candidateWhere, Bool.or_eq_true, Bool.and_eq_true, decide_eq_true_eq]
  unfold rowAudience at read
  split at read
  case isTrue kind =>
    rcases check_bind_ok_iff.mp read with ⟨principalId, column, made⟩
    cases made
    rw [(required_ok_iff.mp column).1, reaches]
    simp only [kind, and_self, true_or]
  case isFalse =>
  split at read
  case isTrue kind =>
    rcases check_bind_ok_iff.mp read with ⟨accountId, column, made⟩
    cases made
    have listed : row.audienceAccountId.any (addressee.principal.accountIds.contains ·) = true := by
      have member : accountId ∈ addressee.principal.accountIds := reaches
      rw [(required_ok_iff.mp column).1]
      simpa using member
    simp only [kind, listed, and_self, true_or, or_true]
  case isFalse =>
  split at read
  case isTrue kind =>
    cases read
    simp only [kind, show addressee.principal.role = "ADMIN" from reaches, and_self, true_or, or_true]
  case isFalse =>
  split at read
  case isTrue kind =>
    rcases check_bind_ok_iff.mp read with ⟨segmentKey, column, made⟩
    cases made
    have listed : row.audienceSegmentKey.any (addressee.principal.segmentKeys.contains ·) = true := by
      have member : segmentKey ∈ addressee.principal.segmentKeys := reaches
      rw [(required_ok_iff.mp column).1]
      simpa using member
    simp only [kind, listed, and_self, or_true]
  case isFalse =>
  split at read
  case isTrue kind => simp only [kind, true_or, or_true]
  case isFalse =>
  split at read
  case isTrue kind =>
    cases read
    simp only [kind, show addressee.principal.activeClient = true from reaches, and_self, true_or, or_true]
  case isFalse =>
  split at read
  case isTrue kind =>
    cases read
    rw [Reaches, addressee.visitorless] at reaches
    rw [reaches.2] at reaches
    cases reaches.1
  case isFalse => cases read

/-! ## The loop -/

variable {inbox : NotificationsInboxPolicyCapability} {now : Time} {store : NotificationStore} {includeDismissed : Bool}

theorem visibleTo_of_audience {audience : NotificationsAudience} (read : rowAudience row = .ok audience) :
    visibleTo now store principal includeDismissed row = true ↔
      Reaches principal audience ∧ Lasts now row ∧
        (includeDismissed = true ∨ receiptState store row.id principal.principalId ≠ .dismissed) := by
  rw [visibleTo, read]
  simp only [Bool.and_eq_true, Bool.or_eq_true, decide_eq_true_eq, and_assoc]

/-- What the policy leaves of a row is what is visible. -/
theorem policy_hides_iff (shows : ShowsExactly inbox) {snapshot : NotificationsDurableSnapshot}
    (read : rowAudience snapshot.row = .ok snapshot.audience) :
    (inbox.visibility now snapshot principal
        (some (receiptState store snapshot.row.id principal.principalId)) ≠ .visible ∧
      ¬(includeDismissed = true ∧ inbox.visibility now snapshot principal
        (some (receiptState store snapshot.row.id principal.principalId)) = .hidden "DISMISSED")) ↔
      visibleTo now store principal includeDismissed snapshot.row = false := by
  rw [← Bool.not_eq_true, visibleTo_of_audience read, Ne, shows.visible, shows.dismissed]
  by_cases dismissed : receiptState store snapshot.row.id principal.principalId = .dismissed
  · simp only [dismissed, ne_eq, not_true_eq_false, and_false, not_false_eq_true, and_true, true_and, or_false]
    tauto
  · simp only [dismissed, ne_eq, not_false_eq_true, and_true, and_false, or_true]

theorem listItem_of_candidate (shows : ShowsExactly inbox)
    (candidate : candidateWhere addressee.principal row = true) :
    (visibleTo now store addressee.principal includeDismissed row = true ∧
      Exists fun item => listItem inbox now store addressee.principal includeDismissed row = .ok (some item) ∧
        Shows store addressee.principal.principalId row item) ∨
    (visibleTo now store addressee.principal includeDismissed row = false ∧
      listItem inbox now store addressee.principal includeDismissed row = .ok none) := by
  rcases reaches_of_candidate candidate with ⟨audience, read, _⟩
  have taken : Exists fun snapshot => rowSnapshot row = .ok snapshot ∧ snapshot.row = row ∧
      snapshot.audience = audience := by
    unfold rowSnapshot
    rw [read]
    exact ⟨_, rfl, rfl, rfl⟩
  rcases taken with ⟨snapshot, taken, rfl, rfl⟩
  have hides : _ ↔ visibleTo now store addressee.principal includeDismissed snapshot.row = false :=
    policy_hides_iff shows read
  dsimp only [listItem]
  rw [taken, check_ok_bind]
  cases visible : visibleTo now store addressee.principal includeDismissed snapshot.row with
  | false =>
    right
    rw [if_pos (hides.mpr visible)]
    exact ⟨rfl, rfl⟩
  | true =>
    left
    have shown := mt hides.mp (by rw [visible]; decide)
    rw [if_neg shown]
    refine ⟨rfl, _, rfl, ?_⟩
    exact
      { id := rfl, source := rfl, event := rfl, title := rfl, body := rfl, category := rfl, priority := rfl
        createdAt := rfl, expiresAt := rfl, state := rfl, audience := read, accountId := rfl, productId := rfl
        data := rfl }

/-- The loop shows the first visible rows, up to the limit. -/
theorem listItems_of_candidates (shows : ShowsExactly inbox) {rows : List NotificationMessage} (limit : Nat)
    (candidates : forall row, row ∈ rows -> candidateWhere addressee.principal row = true) :
    Exists fun items =>
      listItems inbox now store addressee.principal includeDismissed limit rows = .ok items ∧
        List.Forall₂ (Shows store addressee.principal.principalId)
          ((rows.filter (visibleTo now store addressee.principal includeDismissed)).take limit) items := by
  induction rows generalizing limit with
  | nil =>
    refine ⟨[], ?_, ?_⟩
    · cases limit <;> rfl
    · rw [List.filter_nil, List.take_nil]
      exact .nil
  | cons row rest inductionHypothesis =>
    have others := fun other member => candidates other (List.mem_cons_of_mem row member)
    cases limit with
    | zero => exact ⟨[], rfl, by rw [List.take_zero]; exact .nil⟩
    | succ limit =>
      rcases listItem_of_candidate shows (candidates row List.mem_cons_self) with
        ⟨visible, item, shown, isItem⟩ | ⟨hidden, nothing⟩
      · rcases inductionHypothesis limit others with ⟨items, listed, each⟩
        refine ⟨item :: items, ?_, ?_⟩
        · rw [listItems, shown, check_ok_bind]
          dsimp only
          rw [listed]
          rfl
        · rw [List.filter_cons_of_pos visible, List.take_succ_cons]
          exact .cons isItem each
      · rcases inductionHypothesis (limit + 1) others with ⟨items, listed, each⟩
        refine ⟨items, ?_, ?_⟩
        · rw [listItems, nothing, check_ok_bind]
          exact listed
        · rwa [List.filter_cons_of_neg (by rw [hidden]; decide)]

/-! ## Listings and counts of a user -/

/-- The rows of the query, newest first. -/
def addressedRows (store : NotificationStore) (principal : NotificationsPrincipalContext) : List NotificationMessage :=
  (store.messages.select (candidateWhere principal)).mergeSort
    (fun left right => right.createdAt ≤ left.createdAt)

def visibleRows (now : Time) (store : NotificationStore) (principal : NotificationsPrincipalContext)
    (includeDismissed : Bool) : List NotificationMessage :=
  store.messages.rows.filter (visibleTo now store principal includeDismissed)

/-- What is visible is among the rows of the query. -/
theorem visible_addressed (now : Time) (store : NotificationStore) (addressee : Addressee) (includeDismissed : Bool) :
    ((addressedRows store addressee.principal).filter
      (visibleTo now store addressee.principal includeDismissed)).Perm
      (visibleRows now store addressee.principal includeDismissed) := by
  have sorted := List.mergeSort_perm (store.messages.select (candidateWhere addressee.principal))
    (fun left right => right.createdAt ≤ left.createdAt)
  apply (sorted.filter _).trans
  have same : (store.messages.select (candidateWhere addressee.principal)).filter
      (visibleTo now store addressee.principal includeDismissed) =
        visibleRows now store addressee.principal includeDismissed := by
    rw [Table.select, List.filter_filter, visibleRows]
    apply List.filter_congr
    intro row _
    cases visible : visibleTo now store addressee.principal includeDismissed row with
    | false => rfl
    | true =>
      unfold visibleTo at visible
      split at visible
      · rename_i audience read
        simp only [Bool.and_eq_true, decide_eq_true_eq] at visible
        rw [candidate_of_reaches read visible.1.1]
        rfl
      · cases visible
  rw [same]

/-- A signed-in user and the user's accounts.  Ids are never empty. -/
structure Reader (store : NotificationStore) where
  userId : Id
  role : String
  named : userId ≠ ""
  accounts : forall account, account ∈ store.accounts -> account.id ≠ ""

def Reader.asAddressee {store : NotificationStore} (reader : Reader store) : Addressee where
  principal := principalContext store reader.userId reader.role
  named := reader.named
  accounts := by
    intro listed
    rcases List.mem_map.mp listed with ⟨account, member, unnamed⟩
    exact reader.accounts account (List.mem_filter.mp member).1 unnamed
  segments := List.not_mem_nil
  visitorless := rfl

def listNotificationsForUser (inbox : NotificationsInboxPolicyCapability) (now : Time) (userId : Id) (role : String)
    (limit : Option Int) (includeDismissed : Bool) (store : NotificationStore) :
    Except NotificationError (List WebNotificationItem) :=
  listNotificationsForPrincipal inbox now (principalContext store userId role) limit includeDismissed store

def unreadNotificationCount (inbox : NotificationsInboxPolicyCapability) (now : Time) (userId : Id) (role : String)
    (store : NotificationStore) : Except NotificationError Nat := do
  let items <- listNotificationsForUser inbox now userId role (some 200) false store
  return (items.filter (fun item => item.state = .unread)).length

/-- The listing of a user, and at the limit of 200 the count of what is unread. -/
structure ListingExact (inbox : NotificationsInboxPolicyCapability) (now : Time) (store : NotificationStore)
    (reader : Reader store) (limit : Option Int) (includeDismissed : Bool) : Prop where
  listing : Exists fun rows => Exists fun items =>
    listNotificationsForUser inbox now reader.userId reader.role limit includeDismissed store = .ok items ∧
      List.Forall₂ (Shows store reader.userId) rows items ∧
      Newest NotificationMessage.createdAt
        (visibleRows now store (principalContext store reader.userId reader.role) includeDismissed)
        (listLimit limit) rows
  unread : listLimit limit = 200 -> includeDismissed = false -> Exists fun rows =>
    Newest NotificationMessage.createdAt
        (visibleRows now store (principalContext store reader.userId reader.role) false) 200 rows ∧
      unreadNotificationCount inbox now reader.userId reader.role store =
        .ok (rows.filter (fun row => receiptState store row.id reader.userId = .unread)).length

/-- The rows that are read cover what is visible. -/
def ReadsEnough (now : Time) (store : NotificationStore) (reader : Reader store) (limit : Option Int)
    (includeDismissed : Bool) : Prop :=
  Covers (visibleTo now store (principalContext store reader.userId reader.role) includeDismissed)
    (min (listLimit limit * 3) 600) (listLimit limit)
    (addressedRows store (principalContext store reader.userId reader.role))

/-- The page of a user's listing, before it is shown. -/
def pageOf (now : Time) (store : NotificationStore) (reader : Reader store) (limit : Option Int)
    (includeDismissed : Bool) : List NotificationMessage :=
  (((addressedRows store reader.asAddressee.principal).take (min (listLimit limit * 3) 600)).filter
    (visibleTo now store reader.asAddressee.principal includeDismissed)).take (listLimit limit)

/-- The listing as a page of the rows of the query. -/
theorem listing_page (shows : ShowsExactly inbox) (reader : Reader store) (limit : Option Int) :
    Exists fun items =>
      listNotificationsForUser inbox now reader.userId reader.role limit includeDismissed store = .ok items ∧
        List.Forall₂ (Shows store reader.userId) (pageOf now store reader limit includeDismissed) items := by
  have candidates : forall row, row ∈ (addressedRows store reader.asAddressee.principal).take
      (min (listLimit limit * 3) 600) -> candidateWhere reader.asAddressee.principal row = true := by
    intro row member
    have addressed := List.mem_mergeSort.mp (List.mem_of_mem_take member)
    exact (store.messages.mem_select.mp addressed).2
  exact listItems_of_candidates shows (listLimit limit) candidates

/-- Items show as many unread notifications as their rows are. -/
theorem count_unread {userId : Id} {rows : List NotificationMessage} {items : List WebNotificationItem}
    (each : List.Forall₂ (Shows store userId) rows items) :
    (items.filter (fun item => item.state = .unread)).length =
      (rows.filter (fun row => receiptState store row.id userId = .unread)).length := by
  induction each with
  | nil => rfl
  | cons shown _ inductionHypothesis =>
    simp only [List.filter_cons, shown.state]
    split
    · rw [List.length_cons, List.length_cons, inductionHypothesis]
    · exact inductionHypothesis

theorem newest_pageOf_iff (reader : Reader store) (limit : Option Int) :
    Newest NotificationMessage.createdAt (visibleRows now store reader.asAddressee.principal includeDismissed)
      (listLimit limit) (pageOf now store reader limit includeDismissed) ↔
      ReadsEnough now store reader limit includeDismissed := by
  have same := visible_addressed now store reader.asAddressee includeDismissed
  have page := @newest_page_iff _ NotificationMessage.createdAt (addressedRows store reader.asAddressee.principal)
    (listLimit limit) (visibleTo now store reader.asAddressee.principal includeDismissed)
    (min (listLimit limit * 3) 600) (pairwise_newestFirst _ _)
  constructor
  · intro newest
    exact page.mp (newest.perm same.symm)
  · intro enough
    exact (page.mpr enough).perm same

/-- A listing, and the count at the largest limit, is exact where enough rows
are read, and nowhere else. -/
theorem listingExact_iff (shows : ShowsExactly inbox) (now : Time) (reader : Reader store) (limit : Option Int)
    (includeDismissed : Bool) : ListingExact inbox now store reader limit includeDismissed ↔
      ReadsEnough now store reader limit includeDismissed := by
  rcases @listing_page inbox now store includeDismissed shows reader limit with ⟨items, listed, each⟩
  constructor
  · intro exact'
    rcases exact'.listing with ⟨rows, others, otherListed, otherEach, newest⟩
    rw [listed] at otherListed
    cases otherListed
    have sameLength := each.length_eq.trans otherEach.length_eq.symm
    have visible := visible_addressed now store reader.asAddressee includeDismissed
    apply covers_iff_length.mpr
    exact (sameLength.trans newest.full).trans (congrArg (min (listLimit limit)) visible.length_eq.symm)
  · intro enough
    refine ⟨⟨_, items, listed, each, (newest_pageOf_iff reader limit).mpr enough⟩, ?_⟩
    rintro most rfl
    rcases @listing_page inbox now store false shows reader (some 200) with ⟨all, allListed, allEach⟩
    refine ⟨pageOf now store reader limit false, ?_, ?_⟩
    · have newest := (newest_pageOf_iff reader limit).mpr enough
      rwa [most] at newest
    · have samePage : pageOf now store reader limit false = pageOf now store reader (some 200) false := by
        rw [pageOf, pageOf, most]
        rfl
      rw [samePage, unreadNotificationCount, allListed, check_ok_bind, count_unread allEach]
      rfl

/-! ### Dismissed notifications before a visible one -/

def policyInbox : NotificationsInboxPolicyCapability where
  visibility now snapshot principal state :=
    if ¬Reaches principal snapshot.audience then .hidden "AUDIENCE_MISMATCH"
    else if ¬Lasts now snapshot.row then .hidden "EXPIRED"
    else if state = some .dismissed then .hidden "DISMISSED"
    else .visible
  transitionReceipt
    | .unread, .markRead => .changed .read
    | .read, .markRead => .unchanged .read
    | .dismissed, _ => .unchanged .dismissed
    | _, .dismiss => .changed .dismissed

theorem policyInbox_shows : ShowsExactly policyInbox where
  visible now snapshot principal state := by
    by_cases reaches : Reaches principal snapshot.audience <;> by_cases lasts : Lasts now snapshot.row <;>
      by_cases dismissed : state = .dismissed <;> simp [policyInbox, reaches, lasts, dismissed]
  dismissed now snapshot principal state := by
    by_cases reaches : Reaches principal snapshot.audience <;> by_cases lasts : Lasts now snapshot.row <;>
      by_cases dismissed : state = .dismissed <;> simp [policyInbox, reaches, lasts, dismissed]

def announcement (name : String) (createdAt : Time) : NotificationMessage where
  id := name
  idempotencyKey := name
  sourceModule := "announcements"
  sourceEvent := "ANNOUNCED"
  sourceReference := none
  audienceKind := "ALL_USERS"
  audiencePrincipalId := none
  audienceAccountId := none
  audienceSegmentKey := none
  audienceVisitorId := none
  title := name
  body := name
  category := "PRODUCT"
  priority := "NORMAL"
  trigger := none
  placementHint := none
  attributes := .object []
  data := none
  productId := none
  createdAt
  expiresAt := none

def dismissal (name : String) : NotificationReceipt where
  notificationId := name
  userId := "user"
  state := .dismissed
  readAt := none
  dismissedAt := some 5

/-- Three dismissed announcements, and an older one that is not. -/
def crowdedStore : NotificationStore where
  messages := ⟨[announcement "fourth" 4, announcement "third" 3, announcement "second" 2, announcement "first" 1],
    by decide⟩
  receipts := ⟨[dismissal "second", dismissal "third", dismissal "fourth"], by decide⟩
  accounts := []

def crowdedReader : Reader crowdedStore where
  userId := "user"
  role := "CUSTOMER"
  named := by decide
  accounts _ member := absurd member List.not_mem_nil

theorem crowded_addressed : addressedRows crowdedStore (principalContext crowdedStore "user" "CUSTOMER") =
    [announcement "fourth" 4, announcement "third" 3, announcement "second" 2, announcement "first" 1] := by
  have selected : crowdedStore.messages.select (candidateWhere (principalContext crowdedStore "user" "CUSTOMER")) =
      [announcement "fourth" 4, announcement "third" 3, announcement "second" 2, announcement "first" 1] := by
    decide +kernel
  rw [addressedRows, selected]
  exact List.mergeSort_of_pairwise (by decide)

theorem visible_announcement_missing : ¬forall (inbox : NotificationsInboxPolicyCapability), ShowsExactly inbox ->
    forall now store (reader : Reader store) limit includeDismissed,
      ListingExact inbox now store reader limit includeDismissed := by
  intro exact'
  rcases (exact' policyInbox policyInbox_shows 10 crowdedStore crowdedReader (some 1) false).listing with
    ⟨rows, items, listed, each, newest⟩
  have empty : listNotificationsForUser policyInbox 10 "user" "CUSTOMER" (some 1) false crowdedStore = .ok [] := by
    have rows := crowded_addressed
    rw [addressedRows] at rows
    rw [listNotificationsForUser, listNotificationsForPrincipal, rows]
    decide +kernel
  have none : items = [] := Except.ok.inj (listed.symm.trans empty)
  have full := each.length_eq.symm.trans newest.full
  have visible : (visibleRows 10 crowdedStore (principalContext crowdedStore "user" "CUSTOMER") false).length = 1 := by
    decide +kernel
  rw [none, show listLimit (some 1) = 1 from rfl] at full
  have one : min 1 (visibleRows 10 crowdedStore (principalContext crowdedStore "user" "CUSTOMER") false).length = 0 :=
    full.symm
  rw [visible] at one
  cases one

/-- With a limit of two the older announcement is read. -/
theorem visible_announcement_listed : ListingExact policyInbox 10 crowdedStore crowdedReader (some 2) false :=
  (listingExact_iff policyInbox_shows 10 crowdedReader (some 2) false).mpr (Or.inr (by
    rw [show crowdedReader.userId = "user" from rfl, show crowdedReader.role = "CUSTOMER" from rfl, crowded_addressed]
    decide +kernel))

end Notifications
end DigitalSolutions
