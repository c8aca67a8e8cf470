import DigitalSolutions.Privacy.RequestTransitions

namespace DigitalSolutions
namespace Privacy

open Foundation Persistence

/-!
# The history of a privacy request

The events of a request record one chain of transitions as long as each
transition is written while the request still has the status it was planned
for.  The write does not check this.
-/

variable {policy : PrivacyRequestPolicy} {legal : PrivacyRequestStatus -> PrivacyRequestStatus -> Prop}
variable {before after : PrivacyStore}
variable {event : PrivacyRequestEvent} {input : TransitionInput}
variable {plan : TransitionPlan} {move : CrowdMove PrivacyCall Time Empty}
variable {crowd : Crowd PrivacyStore PrivacyPoint}

namespace PrivacyStore

def history (store : PrivacyStore) (requestId : Id) : List PrivacyRequestEvent :=
  store.events.filter fun event => event.privacyRequestId = requestId

end PrivacyStore

/-- Events that lead, each from where the one before it went, to a status. -/
structure Chained (legal : PrivacyRequestStatus -> PrivacyRequestStatus -> Prop)
    (history : List PrivacyRequestEvent) (status : PrivacyRequestStatus) : Prop where
  linked : history.IsChain fun earlier later => later.fromStatus = earlier.toStatus
  current : history.getLast?.bind PrivacyRequestEvent.toStatus = some status
  lawful : forall event, event ∈ history -> forall source, event.fromStatus = some source ->
    Exists fun target => event.toStatus = some target ∧ legal source target

theorem Chained.created {status : PrivacyRequestStatus} (initial : event.fromStatus = none)
    (reached : event.toStatus = some status) :
    Chained legal [event] status where
  linked := List.isChain_singleton event
  current := reached
  lawful := by
    intro other member source started
    rw [List.mem_singleton.mp member, initial] at started
    cases started

theorem Chained.extend {history : List PrivacyRequestEvent} {source target : PrivacyRequestStatus}
    (chained : Chained legal history source) (started : event.fromStatus = some source)
    (reached : event.toStatus = some target) (allowed : legal source target) :
    Chained legal (history ++ [event]) target where
  linked := by
    rw [List.isChain_append]
    refine ⟨chained.linked, List.isChain_singleton event, ?_⟩
    intro last isLast first isFirst
    rw [List.head?_cons, Option.mem_def, Option.some.injEq] at isFirst
    subst isFirst
    have current := chained.current
    rw [Option.mem_def.mp isLast, Option.bind_some] at current
    rw [started, current]
  current := by
    rw [List.getLast?_append, List.getLast?_singleton, Option.some_or, Option.bind_some]
    exact reached
  lawful := by
    intro other member from' fromEq
    rcases List.mem_append.mp member with old | new
    · exact chained.lawful other old from' fromEq
    · rw [List.mem_singleton] at new
      subst new
      rw [started, Option.some.injEq] at fromEq
      exact ⟨target, reached, fromEq ▸ allowed⟩

/-! ## What the writes do -/

/-- A request is new, and its first event with it. -/
structure Creates (before after : PrivacyStore) : Prop where
  written : Exists fun request => Exists fun event =>
    before.requests.insert request = some after.requests ∧
    after.events = before.events ++ [event] ∧ event.privacyRequestId = request.id ∧
    event.fromStatus = none ∧ event.toStatus = some request.status

/-- A request goes over to a planned status. -/
structure Transitions (input : TransitionInput) (plan : TransitionPlan) (before after : PrivacyStore) :
    Prop where
  requests : Exists fun change : PrivacyRequest -> PrivacyRequest =>
    after.requests.rows = before.requests.rows.map change ∧
    (forall request, request.id ≠ input.requestId -> change request = request) ∧
    forall request, request.id = input.requestId ->
      (change request).id = request.id ∧ (change request).status = plan.status
  event : Exists fun event => after.events = before.events ++ [event] ∧
    event.privacyRequestId = input.requestId ∧ event.fromStatus = plan.event.fromStatus ∧
    event.toStatus = plan.event.toStatus

theorem createPrivacyRequest_ok (plans : policy.Plans legal) {facts : CreationFacts} {requestId : Id}
    (created : createPrivacyRequest policy facts requestId before = .ok after) : Creates before after := by
  unfold createPrivacyRequest at created
  split at created
  · cases created
  · rename_i plan planned
    split at created
    · cases created
    · rename_i requests inserted
      cases created
      exact ⟨_, _, inserted, rfl, rfl, rfl, plans.creation planned⟩

theorem planTransition_ok {current : PrivacyRequest}
    (planned : planTransition policy input before = .ok (current, plan)) :
    policy.planPrivacyRequestTransition
      ⟨input.actorId, current.customerAccountId, current.status, input.status, input.responseSummary⟩ =
        .ok plan := by
  unfold planTransition at planned
  split at planned
  · cases planned
  · split at planned
    · cases planned
    · rename_i request found plan made
      cases planned
      exact made

theorem writeTransition_ok {now : Time} (written : writeTransition input plan now before = .ok after) :
    (Exists fun request => request ∈ before.requests ∧ request.id = input.requestId) ∧
      Transitions input plan before after := by
  unfold writeTransition at written
  split at written
  · cases written
  · rename_i request found
    cases written
    have asked := before.requests.lookup_key found
    simp only [Keyed.keys, List.mem_singleton, PrivacyRequest.Key.id.injEq] at asked
    refine ⟨⟨request, before.requests.lookup_mem found, asked.symm⟩, ⟨⟨_, rfl, ?_, ?_⟩, _, rfl, rfl, rfl, rfl⟩⟩
    · intro other different
      simp only [different, decide_false, Bool.false_eq_true, if_false]
    · intro other same
      simp only [same, decide_true, if_true, and_self]

/-! ## What a step keeps -/

/-- Every request has a chained history, and there are events of requests
only. -/
structure Recorded (legal : PrivacyRequestStatus -> PrivacyRequestStatus -> Prop) (store : PrivacyStore) :
    Prop where
  chained : forall request, request ∈ store.requests ->
    Chained legal (store.history request.id) request.status
  owned : forall event, event ∈ store.events -> Exists fun request =>
    request ∈ store.requests ∧ request.id = event.privacyRequestId

/-- Every request is where it was, or one legal transition further. -/
def Follows (legal : PrivacyRequestStatus -> PrivacyRequestStatus -> Prop) (before after : PrivacyStore) :
    Prop :=
  forall request, request ∈ before.requests -> Exists fun later => later ∈ after.requests ∧
    later.id = request.id ∧ (later.status = request.status ∨ legal request.status later.status)

theorem follows_refl (store : PrivacyStore) : Follows legal store store :=
  fun request member => ⟨request, member, rfl, Or.inl rfl⟩

theorem history_append (appended : after.events = before.events ++ [event]) (requestId : Id) :
    after.history requestId = before.history requestId ++
      if event.privacyRequestId = requestId then [event] else [] := by
  unfold PrivacyStore.history
  rw [appended, List.filter_append]
  by_cases same : event.privacyRequestId = requestId
  · simp only [same, if_true, List.filter_cons, decide_true, List.filter_nil]
  · simp only [same, if_false, List.filter_cons, decide_false, Bool.false_eq_true, List.filter_nil]

theorem Recorded.creates (recorded : Recorded legal before) (creates : Creates before after) :
    Recorded legal after ∧ Follows legal before after := by
  rcases creates.written with ⟨request, event, inserted, appended, ofRequest, initial, reached⟩
  have members : forall other, other ∈ after.requests ↔ other ∈ before.requests ∨ other = request :=
    fun other => Table.mem_insert inserted
  have unrecorded : before.history request.id = [] := by
    apply List.filter_eq_nil_iff.mpr
    intro earlier member chosen
    rcases recorded.owned earlier member with ⟨owner, ownerMember, isOwner⟩
    have fits := Table.fits_of_insert inserted owner ownerMember
    apply fits (.id request.id)
    · rw [← of_decide_eq_true chosen, ← isOwner]
      exact List.mem_singleton_self _
    · exact List.mem_singleton_self _
  refine ⟨⟨?_, ?_⟩, ?_⟩
  · intro other member
    rw [history_append appended]
    rcases (members other).mp member with old | rfl
    · have different : event.privacyRequestId ≠ other.id := by
        rw [ofRequest]
        intro same
        have fits := Table.fits_of_insert inserted other old
        apply fits (.id other.id)
        · exact List.mem_singleton_self _
        · rw [← same]
          exact List.mem_singleton_self _
      rw [if_neg different, List.append_nil]
      exact recorded.chained other old
    · rw [if_pos ofRequest, unrecorded, List.nil_append]
      exact Chained.created initial reached
  · intro other member
    rw [appended, List.mem_append, List.mem_singleton] at member
    rcases member with old | rfl
    · rcases recorded.owned other old with ⟨owner, ownerMember, isOwner⟩
      exact ⟨owner, (members owner).mpr (Or.inl ownerMember), isOwner⟩
    · exact ⟨request, (members request).mpr (Or.inr rfl), ofRequest.symm⟩
  · intro other member
    exact ⟨other, (members other).mpr (Or.inl member), rfl, Or.inl rfl⟩

theorem Recorded.transitions {source : PrivacyRequestStatus} (recorded : Recorded legal before)
    (transitions : Transitions input plan before after) (starts : plan.event.fromStatus = some source)
    (ends : plan.event.toStatus = some plan.status) (allowed : legal source plan.status)
    (current : forall request, request ∈ before.requests -> request.id = input.requestId ->
      request.status = source)
    (exists' : Exists fun request => request ∈ before.requests ∧ request.id = input.requestId) :
    Recorded legal after ∧ Follows legal before after := by
  rcases transitions.requests with ⟨change, rows, elsewhere, here⟩
  rcases transitions.event with ⟨event, appended, ofRequest, isFrom, isTo⟩
  have sameId : forall request, (change request).id = request.id := by
    intro request
    by_cases same : request.id = input.requestId
    · exact (here request same).1
    · rw [elsewhere request same]
  refine ⟨⟨?_, ?_⟩, ?_⟩
  · intro later member
    rcases (Table.mem_of_rows rows).mp member with ⟨request, requestMember, rfl⟩
    rw [history_append appended, sameId request, ofRequest]
    have chained := recorded.chained request requestMember
    by_cases same : request.id = input.requestId
    · rw [if_pos same.symm, (here request same).2]
      rw [current request requestMember same] at chained
      exact chained.extend (isFrom.trans starts) (isTo.trans ends) allowed
    · rw [if_neg (Ne.symm same), List.append_nil, elsewhere request same]
      exact chained
  · intro recordedEvent member
    have owner : Exists fun request => request ∈ before.requests ∧
        request.id = recordedEvent.privacyRequestId := by
      rw [appended, List.mem_append, List.mem_singleton] at member
      rcases member with old | rfl
      · exact recorded.owned recordedEvent old
      · rw [ofRequest]
        exact exists'
    rcases owner with ⟨request, requestMember, isOwner⟩
    exact ⟨change request, (Table.mem_of_rows rows).mpr ⟨request, requestMember, rfl⟩,
      (sameId request).trans isOwner⟩
  · intro request member
    refine ⟨change request, (Table.mem_of_rows rows).mpr ⟨request, member, rfl⟩, sameId request, ?_⟩
    by_cases same : request.id = input.requestId
    · rw [(here request same).2, current request member same]
      exact Or.inr allowed
    · rw [elsewhere request same]
      exact Or.inl rfl

/-! ## Runs -/

/-- A transition is written while the request has the status it was planned
for. -/
def StillCurrent (crowd : Crowd PrivacyStore PrivacyPoint) : CrowdMove PrivacyCall Time Empty -> Prop
  | .advance process _ =>
    forall input current plan, crowd.processes process = some (.planned input current plan) ->
      forall request, request ∈ crowd.store.requests -> request.id = input.requestId ->
        request.status = current.status
  | _ => True

/-- A transition holds the plan of the request that it has read. -/
def Planned (policy : PrivacyRequestPolicy) : PrivacyPoint -> Prop
  | .planned input current plan => policy.planPrivacyRequestTransition
      ⟨input.actorId, current.customerAccountId, current.status, input.status, input.responseSummary⟩ =
        .ok plan
  | _ => True

/-- What one access does to the store and its history. -/
theorem advance_recorded (plans : policy.Plans legal) {point : PrivacyPoint} {now : Time}
    {next : Option PrivacyPoint} (planned : Planned policy point) (recorded : Recorded legal before)
    (current : forall input read plan, point = .planned input read plan ->
      forall request, request ∈ before.requests -> request.id = input.requestId ->
        request.status = read.status)
    (advanced : advancePrivacy policy before point now = .ok (after, next)) :
    Recorded legal after ∧ Follows legal before after ∧
      forall later, next = some later -> Planned policy later := by
  have unchanged : Recorded legal before ∧ Follows legal before before ∧
      forall later, (none : Option PrivacyPoint) = some later -> Planned policy later :=
    ⟨recorded, follows_refl before, fun _ impossible => nomatch impossible⟩
  cases point with
  | creating facts requestId =>
    simp only [advancePrivacy] at advanced
    split at advanced
    · rename_i written created
      cases advanced
      have kept := recorded.creates (createPrivacyRequest_ok plans created)
      exact ⟨kept.1, kept.2, fun _ impossible => nomatch impossible⟩
    · cases advanced
      exact unchanged
  | opened input =>
    simp only [advancePrivacy] at advanced
    split at advanced
    · rename_i read plan made
      cases advanced
      refine ⟨recorded, follows_refl before, ?_⟩
      intro later isLater
      cases isLater
      exact planTransition_ok made
    · cases advanced
      exact unchanged
  | planned input read plan =>
    simp only [advancePrivacy] at advanced
    split at advanced
    · rename_i written wrote
      cases advanced
      rcases writeTransition_ok wrote with ⟨exists', transitions⟩
      have planSays := plans.transition planned
      dsimp only at planSays
      rcases planSays with ⟨isTarget, starts, ends⟩
      have allowed : legal read.status input.status := (plans.legal _).mp ⟨plan, planned⟩
      rw [← isTarget] at ends allowed
      have kept := recorded.transitions transitions starts ends allowed
        (current input read plan rfl) exists'
      exact ⟨kept.1, kept.2, fun _ impossible => nomatch impossible⟩
    · cases advanced
      exact unchanged

/-- The histories are recorded, and every plan in hand is one. -/
def InOrder (policy : PrivacyRequestPolicy) (legal : PrivacyRequestStatus -> PrivacyRequestStatus -> Prop)
    (crowd : Crowd PrivacyStore PrivacyPoint) : Prop :=
  Protocol.Holds (Recorded legal) (fun _ _ point => Planned policy point) crowd

theorem step_inOrder (plans : policy.Plans legal) {next : Crowd PrivacyStore PrivacyPoint}
    (inOrder : InOrder policy legal crowd) (allows : StillCurrent crowd move)
    (accepted : (privacyProtocol policy).machine.step crowd move = .ok next) :
    InOrder policy legal next ∧ Follows legal crowd.store next.store := by
  have placed : forall process store point, Recorded legal store ->
      (forall later, point = some later -> Planned policy later) ->
      InOrder policy legal (crowd.place store process point) := by
    intro process store point recorded planned
    refine ⟨recorded, ?_⟩
    intro other bystander stands
    rcases eq_some_of_update rfl stands with ⟨_, isPoint⟩ | ⟨_, already⟩
    · exact planned bystander isPoint
    · exact inOrder.points other bystander already
  cases move with
  | start process call =>
    rcases Protocol.step_start accepted with ⟨_, rfl⟩
    refine ⟨placed _ _ _ inOrder.store ?_, follows_refl _⟩
    intro later isLater
    cases isLater
    cases call with
    | create facts requestId => trivial
    | transition input => trivial
  | advance process now =>
    rcases Protocol.step_advance accepted with ⟨point, store, later, here, advanced, rfl⟩
    have current : forall input read plan, point = .planned input read plan ->
        forall request, request ∈ crowd.store.requests -> request.id = input.requestId ->
          request.status = read.status := by
      intro input read plan isPoint
      exact allows input read plan (isPoint ▸ here)
    have kept := advance_recorded plans (inOrder.points process point here) inOrder.store current advanced
    exact ⟨placed _ _ _ kept.1 kept.2.2, kept.2.1⟩
  | stop process =>
    rw [Protocol.step_stop accepted]
    exact ⟨placed _ _ _ inOrder.store (fun _ impossible => nomatch impossible), follows_refl _⟩
  | ambient event => exact nomatch event

/-- A status that no legal transition leaves. -/
def Terminal (legal : PrivacyRequestStatus -> PrivacyRequestStatus -> Prop)
    (status : PrivacyRequestStatus) : Prop :=
  forall target, ¬ legal status target

/-- The request is there with the status. -/
def HasStatus (requestId : Id) (status : PrivacyRequestStatus) (store : PrivacyStore) : Prop :=
  Exists fun request => request ∈ store.requests ∧ request.id = requestId ∧ request.status = status

theorem HasStatus.follows {requestId : Id} {status : PrivacyRequestStatus}
    (terminal : Terminal legal status) (has : HasStatus requestId status before)
    (follows : Follows legal before after) : HasStatus requestId status after := by
  rcases has with ⟨request, member, isRequest, rfl⟩
  rcases follows request member with ⟨later, laterMember, sameId, same | moved⟩
  · exact ⟨later, laterMember, sameId.trans isRequest, same⟩
  · exact absurd moved (terminal later.status)

/-- The events of every request form one chain of legal transitions that ends
in its status, every further step is legal from the status the request has, and
a terminal status stays. -/
structure HistoriesChained (policy : PrivacyRequestPolicy)
    (legal : PrivacyRequestStatus -> PrivacyRequestStatus -> Prop) (store : PrivacyStore)
    (moves : List (CrowdMove PrivacyCall Time Empty)) : Prop where
  chained : forall request, request ∈
      ((privacyProtocol policy).machine.run (Crowd.opening store) moves).store.requests ->
    Chained legal
      (((privacyProtocol policy).machine.run (Crowd.opening store) moves).store.history request.id)
      request.status
  follows : forall earlier move later, moves = earlier ++ move :: later ->
    Follows legal ((privacyProtocol policy).machine.run (Crowd.opening store) earlier).store
      ((privacyProtocol policy).machine.run (Crowd.opening store) (earlier ++ [move])).store
  final : forall earlier later requestId status, moves = earlier ++ later -> Terminal legal status ->
    HasStatus requestId status
      ((privacyProtocol policy).machine.run (Crowd.opening store) earlier).store ->
    HasStatus requestId status ((privacyProtocol policy).machine.run (Crowd.opening store) moves).store

/-- As long as every transition is written while the request has the status it
was planned for, the history of every request is a chain. -/
theorem histories_chained_of_current (plans : policy.Plans legal) (store : PrivacyStore)
    (initially : Recorded legal store) (moves : List (CrowdMove PrivacyCall Time Empty))
    (current : (privacyProtocol policy).machine.Admits StillCurrent (Crowd.opening store) moves) :
    HistoriesChained policy legal store moves := by
  have opening : InOrder policy legal (Crowd.opening store) := Protocol.holds_opening initially
  have run : forall moves, (privacyProtocol policy).machine.Admits StillCurrent (Crowd.opening store) moves ->
      InOrder policy legal ((privacyProtocol policy).machine.run (Crowd.opening store) moves) := by
    intro moves admitted
    apply Machine.run_invariant_of_admits _ opening admitted
    intro crowd move next inOrder allows accepted
    exact (step_inOrder plans inOrder allows accepted).1
  constructor
  · exact (run moves current).store.chained
  · intro earlier move later split
    subst split
    have first := run earlier current.left
    rw [Machine.run_concat]
    refine Machine.attempt_elim (motive := fun next : Crowd PrivacyStore PrivacyPoint =>
      Follows legal _ next.store) (follows_refl _) ?_
    intro next accepted
    exact (step_inOrder plans first current.right.1 accepted).2
  · intro earlier later requestId status split terminal reached
    subst split
    rw [Machine.run_append]
    have preserved : forall crowd move next,
        InOrder policy legal crowd ∧ HasStatus requestId status crowd.store -> StillCurrent crowd move ->
        (privacyProtocol policy).machine.step crowd move = .ok next ->
        InOrder policy legal next ∧ HasStatus requestId status next.store := by
      intro crowd move next both allows accepted
      have kept := step_inOrder plans both.1 allows accepted
      exact ⟨kept.1, both.2.follows terminal kept.2⟩
    exact (Machine.run_invariant_of_admits preserved ⟨run earlier current.left, reached⟩ current.right).2

/-! ## A history that forks -/

def isOpenStatus (status : PrivacyRequestStatus) : Bool :=
  status = .open || status = .inReview

/-- An open request may go anywhere; a closed one stays. -/
def plainLegal (source target : PrivacyRequestStatus) : Prop :=
  isOpenStatus source = true ∧ target ≠ .open

/-- A policy that plans the transitions of `plainLegal`. -/
def plainPolicy : PrivacyRequestPolicy where
  planPrivacyRequestCreation facts :=
    .ok { userId := facts.userId, accountId := facts.accountId, requestType := facts.requestType
          status := .open, summary := facts.summary, ipAddress := facts.ipAddress
          userAgent := facts.userAgent
          event := ⟨some facts.userId, "CREATED", none, some .open, .object []⟩
          audit := ⟨some facts.userId, facts.accountId, "PRIVACY_REQUEST_CREATED", "PrivacyRequest",
            .object []⟩ }
  planPrivacyRequestTransition facts :=
    if isOpenStatus facts.currentStatus = true ∧ facts.targetStatus ≠ .open then
      .ok { status := facts.targetStatus, responseSummary := some facts.responseSummary
            reviewedById := some facts.actorId, shouldClose := !isOpenStatus facts.targetStatus
            event := ⟨some facts.actorId, "STATUS_CHANGED", some facts.currentStatus,
              some facts.targetStatus, .object []⟩
            audit := ⟨some facts.actorId, facts.accountId, "PRIVACY_REQUEST_UPDATED", "PrivacyRequest",
              .object []⟩ }
    else .error "INVALID_PRIVACY_REQUEST_TRANSITION"

theorem plainPolicy_plans : plainPolicy.Plans plainLegal where
  creation planned := by
    cases planned
    rfl
  transition planned := by
    simp only [plainPolicy] at planned
    split at planned
    · cases planned
      exact ⟨rfl, rfl, rfl⟩
    · cases planned
  legal facts := by
    simp only [plainPolicy, plainLegal]
    split
    · rename_i allowed
      exact ⟨fun _ => allowed, fun _ => ⟨_, rfl⟩⟩
    · rename_i refused
      constructor
      · rintro ⟨plan, planned⟩
        cases planned
      · intro allowed
        exact absurd allowed refused

def noRequests : PrivacyStore := ⟨∅, [], []⟩

theorem noRequests_recorded : Recorded legal noRequests :=
  ⟨fun _ member => absurd member List.not_mem_nil, fun _ member => absurd member List.not_mem_nil⟩

def deletionRequest : PrivacyCall :=
  .create ⟨"user", none, .deletion, "Delete my data", none, none⟩ "request"

def decision (status : PrivacyRequestStatus) : PrivacyCall :=
  .transition ⟨"admin", "request", status, "Decided"⟩

/-- Two administrators decide on the request that both have read as open. -/
def forkedDecisions : List (CrowdMove PrivacyCall Time Empty) :=
  [.start 0 deletionRequest, .advance 0 1, .start 1 (decision .rejected), .start 2 (decision .fulfilled),
    .advance 1 2, .advance 2 3, .advance 1 4, .advance 2 5]

def plainRun (moves : List (CrowdMove PrivacyCall Time Empty)) : PrivacyStore :=
  ((privacyProtocol plainPolicy).machine.run (Crowd.opening noRequests) moves).store

/-- The history forks, and the request leaves the terminal status `REJECTED`. -/
theorem history_forked_by_overlap : plainPolicy.Plans plainLegal ∧ Recorded plainLegal noRequests ∧
    ¬ HistoriesChained plainPolicy plainLegal noRequests forkedDecisions ∧
    ¬ ((plainRun forkedDecisions).history "request").IsChain
      (fun earlier later => later.fromStatus = earlier.toStatus) ∧
    ((plainRun (forkedDecisions.take 7)).requests.rows.map PrivacyRequest.status = [.rejected] ∧
      (plainRun forkedDecisions).requests.rows.map PrivacyRequest.status = [.fulfilled]) := by
  have forked : ¬ ((plainRun forkedDecisions).history "request").IsChain
      (fun earlier later => later.fromStatus = earlier.toStatus) := by decide +kernel
  have present : Exists fun request => request ∈ (plainRun forkedDecisions).requests ∧
      request.id = "request" := by
    have only : (plainRun forkedDecisions).requests.rows.map PrivacyRequest.id = ["request"] := by
      decide +kernel
    exact List.mem_map.mp (only ▸ List.mem_singleton_self "request")
  refine ⟨plainPolicy_plans, noRequests_recorded, ?_, forked, by decide +kernel, by decide +kernel⟩
  intro chained
  rcases present with ⟨request, member, isRequest⟩
  apply forked
  rw [← isRequest]
  exact (chained.chained request member).linked

/-- One decision after the other. -/
def orderedDecisions : List (CrowdMove PrivacyCall Time Empty) :=
  [.start 0 deletionRequest, .advance 0 1, .start 1 (decision .inReview), .advance 1 2, .advance 1 3,
    .start 2 (decision .fulfilled), .advance 2 4, .advance 2 5]

/-- `StillCurrent`, as a check that can be computed. -/
def stillCurrent (crowd : Crowd PrivacyStore PrivacyPoint) : CrowdMove PrivacyCall Time Empty -> Bool
  | .advance process _ =>
    match crowd.processes process with
    | some (.planned input current _) => crowd.store.requests.rows.all fun request =>
        request.id ≠ input.requestId || request.status = current.status
    | _ => true
  | _ => true

theorem stillCurrent_spec (checked : stillCurrent crowd move = true) :
    StillCurrent crowd move := by
  cases move with
  | advance process now =>
    intro input current plan here request member isRequest
    simp only [stillCurrent, here, List.all_eq_true, Bool.or_eq_true, decide_eq_true_eq] at checked
    exact (checked request member).resolve_left fun different => different isRequest
  | start process call => trivial
  | stop process => trivial
  | ambient event => trivial

theorem histories_chained_of_current_ordered :
    HistoriesChained plainPolicy plainLegal noRequests orderedDecisions := by
  apply histories_chained_of_current plainPolicy_plans noRequests noRequests_recorded
  have checked : (privacyProtocol plainPolicy).machine.Admits
      (fun crowd move => stillCurrent crowd move = true) (Crowd.opening noRequests) orderedDecisions := by
    decide +kernel
  exact checked.mono fun _ _ => stillCurrent_spec

end Privacy
end DigitalSolutions
