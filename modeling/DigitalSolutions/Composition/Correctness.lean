import DigitalSolutions.Composition.Declarations

namespace DigitalSolutions
namespace Composition

open Foundation

/-!
# The composer starts every module once, after all that it needs

One invariant carries the argument: what has been started and what is pending
are together the modules given, and the capabilities at hand are exactly those
that the started modules provide.  A pass keeps it; a pass that starts nothing
leaves only modules with a need that is not there, which a composable
collection excludes.
-/

variable {Value : Type} {Typed : CapabilityId -> Value -> Prop}
variable {modules pending : List (CapabilityModule Value)} {state : Composing Value}
variable {manifest : ModuleManifest}
variable {fault : Fault}

/-- Started with its needs at hand, the module returns exactly the capabilities
it declares, each once.  `Typed` is what holds of the values behind each capability. -/
def StartsExactly (Typed : CapabilityId -> Value -> Prop) (entry : CapabilityModule Value) : Prop :=
  forall capabilities : Capabilities Value,
    (forall need, need ∈ entry.manifest.needs ->
      Exists fun value => capabilities.get? need = some value ∧ Typed need value) ->
    Exists fun registrations =>
      entry.start (scopedResolver entry.manifest capabilities) = .ok registrations ∧
      (registrations.map (·.id)).Nodup ∧
      (forall id, id ∈ registrations.map (·.id) ↔ id ∈ entry.manifest.provides) ∧
      forall registration, registration ∈ registrations -> Typed registration.id registration.value

/-! ## One start -/

theorem get?_register (registrations : List (CapabilityRegistration Value))
    (capabilities : Capabilities Value) (id : CapabilityId) :
    (id ∉ registrations.map (·.id) ∧
        (register registrations capabilities).get? id = capabilities.get? id) ∨
      Exists fun registration => registration ∈ registrations ∧ registration.id = id ∧
        (register registrations capabilities).get? id = some registration.value := by
  induction registrations generalizing capabilities with
  | nil => exact Or.inl ⟨List.not_mem_nil, rfl⟩
  | cons head tail inductionHypothesis =>
    rcases inductionHypothesis (capabilities.set head.id head.value) with ⟨absent, kept⟩ | later
    · by_cases isHead : head.id = id
      · refine Or.inr ⟨head, List.mem_cons_self, isHead, ?_⟩
        exact kept.trans (by rw [InsertionMap.get?_set, if_pos isHead])
      · refine Or.inl ⟨?_, ?_⟩
        · rw [List.map_cons, List.mem_cons]
          rintro (same | inTail)
          · exact isHead same.symm
          · exact absent inTail
        · exact kept.trans (by rw [InsertionMap.get?_set, if_neg isHead])
    · rcases later with ⟨registration, member, same, found⟩
      exact Or.inr ⟨registration, List.mem_cons_of_mem _ member, same, found⟩

theorem assertRegistrationMatchesManifest_ok {registrations : List (CapabilityRegistration Value)}
    (once : (registrations.map (·.id)).Nodup)
    (same : forall id, id ∈ registrations.map (·.id) ↔ id ∈ manifest.provides) :
    assertRegistrationMatchesManifest manifest registrations = .ok () := by
  have distinct : unique (registrations.map (·.id)) = true := (unique_iff _).mpr once
  have missing : (manifest.provides.filter fun id => id ∉ registrations.map (·.id)) = [] := by
    rw [List.filter_eq_nil_iff]
    intro id member
    simpa using (same id).mpr member
  have undeclared : ((registrations.map (·.id)).filter fun id => id ∉ manifest.provides) = [] := by
    rw [List.filter_eq_nil_iff]
    intro id member
    simpa using (same id).mp member
  simp only [assertRegistrationMatchesManifest, distinct, missing, undeclared, List.length_nil,
    Bool.true_eq_false, if_false, lt_irrefl, or_self]

/-- Nothing is missing exactly when every need is there. -/
theorem missingNeeds_eq_nil_iff (entry : CapabilityModule Value) (capabilities : Capabilities Value) :
    missingNeeds entry capabilities = [] ↔
      forall need, need ∈ entry.manifest.needs -> capabilities.has need = true := by
  unfold missingNeeds
  rw [List.filter_eq_nil_iff]
  simp only [Bool.not_eq_true', Bool.not_eq_false]

/-! ## The invariant -/

structure Consistent (Typed : CapabilityId -> Value -> Prop) (modules pending : List (CapabilityModule Value))
    (state : Composing Value) : Prop where
  divided : (state.starts.map Start.entry ++ pending).Perm modules
  reported : state.startedModuleIds = state.starts.map fun start => start.entry.manifest.moduleId
  provided : forall id, state.capabilities.has id = true ↔
    Exists fun start => start ∈ state.starts ∧ id ∈ start.entry.manifest.provides
  typed : forall id value, state.capabilities.get? id = some value -> Typed id value
  /-- Every start had its needs, each provided by an earlier start. -/
  served : forall before start after, state.starts = before ++ start :: after ->
    forall need, need ∈ start.entry.manifest.needs -> start.capabilities.has need = true ∧
      Exists fun earlier => earlier ∈ before ∧ need ∈ earlier.entry.manifest.provides

theorem Consistent.initial (Typed : CapabilityId -> Value -> Prop) (modules : List (CapabilityModule Value)) :
    Consistent Typed modules modules ⟨InsertionMap.empty, [], []⟩ where
  divided := List.Perm.refl _
  reported := rfl
  provided := by
    intro id
    constructor
    · intro present
      cases present
    · rintro ⟨start, member, _⟩
      cases member
  typed := by
    intro id value found
    cases found
  served := by
    intro before start after same
    simp at same

theorem Consistent.rearranged {others : List (CapabilityModule Value)}
    (consistent : Consistent Typed modules pending state) (same : others.Perm pending) :
    Consistent Typed modules others state :=
  { consistent with divided := (same.append_left _).trans consistent.divided }

/-- A module whose needs are there starts, and moves from pending to started. -/
theorem startModule_consistent {entry : CapabilityModule Value} (exactly : StartsExactly Typed entry)
    (consistent : Consistent Typed modules (entry :: pending) state)
    (met : missingNeeds entry state.capabilities = []) :
    Exists fun after => startModule entry state = (after, .ok ()) ∧
      Consistent Typed modules pending after := by
  have present := (missingNeeds_eq_nil_iff entry state.capabilities).mp met
  have supplied : forall need, need ∈ entry.manifest.needs ->
      Exists fun value => state.capabilities.get? need = some value ∧ Typed need value := by
    intro need needed
    rcases (InsertionMap.has_iff _ _).mp (present need needed) with ⟨value, found⟩
    exact ⟨value, found, consistent.typed need value found⟩
  rcases exactly state.capabilities supplied with ⟨registrations, returned, once, declared, typed⟩
  have matched := assertRegistrationMatchesManifest_ok once declared
  refine ⟨_, by simp only [startModule, returned, matched, bind, Except.bind]; rfl, ?_⟩
  constructor
  · rw [List.map_append, List.map_singleton, List.append_assoc, List.singleton_append]
    exact consistent.divided
  · rw [List.map_append, consistent.reported]
    rfl
  · intro id
    have before := consistent.provided id
    rcases get?_register registrations state.capabilities id with ⟨absent, kept⟩ | ⟨added, member, same, found⟩
    · have notHere : id ∉ entry.manifest.provides := fun here => absent ((declared id).mpr here)
      have unchanged : (register registrations state.capabilities).has id = state.capabilities.has id := by
        unfold InsertionMap.has
        rw [kept]
      rw [unchanged, before]
      constructor
      · rintro ⟨start, started, provides⟩
        exact ⟨start, List.mem_append_left _ started, provides⟩
      · rintro ⟨start, started, provides⟩
        rcases List.mem_append.mp started with earlier | isNew
        · exact ⟨start, earlier, provides⟩
        · rw [List.mem_singleton.mp isNew] at provides
          exact absurd provides notHere
    · constructor
      · intro _
        refine ⟨⟨entry, state.capabilities⟩, List.mem_append_right _ (List.mem_singleton_self _), ?_⟩
        exact (declared id).mp (same ▸ List.mem_map_of_mem member)
      · intro _
        exact (InsertionMap.has_iff _ _).mpr ⟨added.value, found⟩
  · intro id value stored
    rcases get?_register registrations state.capabilities id with ⟨_, kept⟩ | ⟨added, member, same, found⟩
    · exact consistent.typed id value (kept ▸ stored)
    · rw [found] at stored
      cases stored
      exact same ▸ typed added member
  · intro before start after same need needed
    rcases Dependencies.split_of_concat same with ⟨whole, isLast⟩ | ⟨between, inside⟩
    · rw [isLast] at needed ⊢
      rcases (consistent.provided need).mp (present need needed) with ⟨earlier, started, provides⟩
      exact ⟨present need needed, earlier, whole ▸ started, provides⟩
    · exact consistent.served before start between inside need needed

/-! ## One pass -/

/-- What a pass over `pending` did: either some module was started, and less is
left, or nothing happened because every module still misses a need. -/
structure Passed (Typed : CapabilityId -> Value -> Prop) (modules kept pending : List (CapabilityModule Value))
    (progress : Bool) (before after : Composing Value) (progressed : Bool)
    (left : List (CapabilityModule Value)) : Prop where
  consistent : Consistent Typed modules (kept ++ left) after
  noLonger : left.length ≤ pending.length
  shorter : progress = false -> progressed = true -> left.length < pending.length
  idle : progressed = false -> progress = false ∧ after = before ∧ left = pending ∧
    forall entry, entry ∈ pending -> missingNeeds entry before.capabilities ≠ []

theorem startReady_passed (exactly : forall entry, entry ∈ pending -> StartsExactly Typed entry)
    {kept : List (CapabilityModule Value)} (progress : Bool)
    (consistent : Consistent Typed modules (kept ++ pending) state) :
    Exists fun after => Exists fun progressed => Exists fun left =>
      startReady progress pending state = (after, .ok (progressed, left)) ∧
      Passed Typed modules kept pending progress state after progressed left := by
  induction pending generalizing kept progress state with
  | nil =>
    refine ⟨state, progress, [], rfl, consistent, le_refl _, ?_, ?_⟩
    · intro none some
      rw [none] at some
      cases some
    · intro none
      refine ⟨none, rfl, rfl, ?_⟩
      intro entry member
      cases member
  | cons entry rest inductionHypothesis =>
    have restExactly := fun other member => exactly other (List.mem_cons_of_mem entry member)
    by_cases met : missingNeeds entry state.capabilities = []
    · have moved : Consistent Typed modules (entry :: (kept ++ rest)) state :=
        consistent.rearranged List.perm_middle.symm
      rcases startModule_consistent (exactly entry List.mem_cons_self) moved met with
        ⟨started, accepted, nowConsistent⟩
      rcases inductionHypothesis restExactly true nowConsistent with
        ⟨after, progressed, left, outcome, passed⟩
      refine ⟨after, progressed, left, ?_, passed.consistent, ?_, ?_, ?_⟩
      · simp only [startReady, met, accepted, List.length_nil, gt_iff_lt, lt_irrefl, if_false]
        exact outcome
      · exact Nat.le_succ_of_le passed.noLonger
      · intro _ _
        exact Nat.lt_succ_of_le passed.noLonger
      · intro none
        cases (passed.idle none).1
    · have stays : Consistent Typed modules ((kept ++ [entry]) ++ rest) state :=
        consistent.rearranged (by rw [List.append_assoc, List.singleton_append])
      rcases inductionHypothesis restExactly progress stays with
        ⟨after, progressed, left, outcome, passed⟩
      have waiting : (missingNeeds entry state.capabilities).length > 0 := List.length_pos_iff.mpr met
      refine ⟨after, progressed, entry :: left, ?_, ?_, ?_, ?_, ?_⟩
      · simp only [startReady, waiting, if_true, outcome]
      · have stillConsistent := passed.consistent
        rw [List.append_assoc, List.singleton_append] at stillConsistent
        exact stillConsistent
      · exact Nat.succ_le_succ passed.noLonger
      · intro none some
        exact Nat.succ_lt_succ (passed.shorter none some)
      · intro none
        rcases passed.idle none with ⟨was, same, whole, missing⟩
        refine ⟨was, same, by rw [whole], ?_⟩
        intro other member
        rcases List.mem_cons.mp member with isEntry | later
        · exact isEntry ▸ met
        · exact missing other later

/-! ## Every round, to the end -/

/-- How the rounds can end. -/
inductive Ended (Typed : CapabilityId -> Value -> Prop) (modules : List (CapabilityModule Value))
    (after : Composing Value) : Except Fault Unit -> Prop where
  | finished (consistent : Consistent Typed modules [] after) : Ended Typed modules after (.ok ())
  | stuck {pending : List (CapabilityModule Value)}
      (consistent : Consistent Typed modules pending after) (remaining : pending ≠ [])
      (missing : forall entry, entry ∈ pending -> missingNeeds entry after.capabilities ≠ []) :
      Ended Typed modules after (.error (cannotResolve pending after.capabilities))

theorem Consistent.pending_subset (consistent : Consistent Typed modules pending state) :
    pending ⊆ modules := by
  intro entry member
  exact consistent.divided.mem_iff.mp (List.mem_append_right _ member)

theorem Consistent.started_mem (consistent : Consistent Typed modules pending state) {start : Start Value}
    (member : start ∈ state.starts) : start.entry ∈ modules :=
  consistent.divided.mem_iff.mp (List.mem_append_left _ (List.mem_map_of_mem member))

/-- The rounds end, with the same outcome however much longer they may take. -/
theorem startPending_ends (exactly : forall entry, entry ∈ modules -> StartsExactly Typed entry)
    (consistent : Consistent Typed modules pending state) :
    Exists fun after => Exists fun outcome =>
      (forall fuel, pending.length < fuel -> startPending fuel pending state = some (after, outcome)) ∧
      Ended Typed modules after outcome := by
  -- Every round that goes on starts a module, so less is pending.
  induction length : pending.length using Nat.strong_induction_on generalizing pending state with
  | _ length inductionHypothesis =>
    by_cases none : pending = []
    · subst none
      refine ⟨state, .ok (), ?_, .finished consistent⟩
      intro fuel enough
      cases fuel with
      | zero => omega
      | succ fuel => rfl
    · have remaining : pending.length > 0 := List.length_pos_iff.mpr none
      have subset := consistent.pending_subset
      rcases startReady_passed (fun entry member => exactly entry (subset member)) false
          (show Consistent Typed modules ([] ++ pending) state from consistent) with
        ⟨after, progressed, left, outcome, passed⟩
      cases progressed with
      | true =>
        have shorter := passed.shorter rfl rfl
        rcases inductionHypothesis left.length (length ▸ shorter) passed.consistent rfl with
          ⟨final, ending, ends, ended⟩
        refine ⟨final, ending, ?_, ended⟩
        intro fuel enough
        cases fuel with
        | zero => omega
        | succ fuel =>
          simp only [startPending, remaining, if_true, outcome]
          exact ends fuel (by omega)
      | false =>
        rcases passed.idle rfl with ⟨_, same, whole, missing⟩
        subst same
        subst whole
        refine ⟨after, _, ?_, .stuck consistent none missing⟩
        intro fuel enough
        cases fuel with
        | zero => omega
        | succ fuel =>
          simp only [startPending, remaining, if_true, outcome]

/-! ## What an ending says about the declarations -/

/-- The started modules come after the providers of all their needs. -/
theorem Consistent.ordered (declared : Declared modules)
    (consistent : Consistent Typed modules pending state) :
    Dependencies.Ordered (NeedsFrom modules) (state.starts.map Start.entry) := by
  intro before entry after same other needed
  rcases needed with ⟨member, need, needs, provides⟩
  rcases List.map_eq_append_iff.mp same with ⟨front, back, split, frontIs, backIs⟩
  rcases List.map_eq_cons_iff.mp backIs with ⟨start, rest, backSplit, startIs, _⟩
  rw [backSplit] at split
  subst startIs
  rcases (consistent.served front start rest split need needs).2 with ⟨earlier, started, earlierProvides⟩
  have earlierMember : earlier.entry ∈ modules := by
    apply consistent.started_mem
    rw [split]
    exact List.mem_append_left _ started
  have isEarlier := declared.provider_unique earlierMember member earlierProvides provides
  rw [← isEarlier, ← frontIs]
  exact List.mem_map_of_mem started

theorem Consistent.composable (declared : Declared modules)
    (consistent : Consistent Typed modules [] state) :
    Composable modules := by
  have all : (state.starts.map Start.entry).Perm modules := by
    have divided := consistent.divided
    rw [List.append_nil] at divided
    exact divided
  refine ⟨declared, ?_, ?_⟩
  · intro entry member need needed
    rcases List.mem_map.mp (all.mem_iff.mpr member) with ⟨start, started, isEntry⟩
    rcases List.append_of_mem started with ⟨before, after, split⟩
    rcases (consistent.served before start after split need (isEntry ▸ needed)).2 with
      ⟨earlier, earlierStarted, provides⟩
    refine ⟨earlier.entry, ?_, provides⟩
    apply consistent.started_mem
    rw [split]
    exact List.mem_append_left _ earlierStarted
  · intro entry member
    exact (consistent.ordered declared).acyclic entry (all.mem_iff.mpr member)

/-- Among composable modules that are pending, one has all its needs. -/
theorem Composable.progresses (composable : Composable modules)
    (consistent : Consistent Typed modules pending state) (remaining : pending ≠ []) :
    Exists fun entry => entry ∈ pending ∧ missingNeeds entry state.capabilities = [] := by
  have acyclic := composable.acyclic.of_subset consistent.pending_subset
  rcases acyclic.exists_ready remaining with ⟨entry, member, ready⟩
  refine ⟨entry, member, ?_⟩
  apply (missingNeeds_eq_nil_iff entry state.capabilities).mpr
  intro need needed
  rcases composable.needsProvided entry (consistent.pending_subset member) need needed with
    ⟨provider, providerMember, provides⟩
  apply (consistent.provided need).mpr
  rcases List.mem_append.mp (consistent.divided.mem_iff.mpr providerMember) with started | waiting
  · rcases List.mem_map.mp started with ⟨start, startMember, isProvider⟩
    exact ⟨start, startMember, isProvider ▸ provides⟩
  · exact absurd ⟨providerMember, need, needed, provides⟩ (ready provider waiting)

/-! ## The resolver that a start is handed -/

theorem scopedResolver_declared {capabilities : Capabilities Value} {id : CapabilityId}
    (declared : id ∈ manifest.needs) (present : capabilities.has id = true) :
    (scopedResolver manifest capabilities).has id = .ok true ∧
      Exists fun value => (scopedResolver manifest capabilities).get id = .ok value := by
  rcases (InsertionMap.has_iff _ _).mp present with ⟨value, found⟩
  simp only [scopedResolver, assertDeclared, declared, if_true, present, found, bind, Except.bind]
  exact ⟨trivial, value, rfl⟩

theorem scopedResolver_undeclared {capabilities : Capabilities Value} {id : CapabilityId}
    (undeclared : id ∉ manifest.needs) :
    Exists fun message => (scopedResolver manifest capabilities).has id = .error (.composition message) ∧
      (scopedResolver manifest capabilities).get id = .error (.composition message) := by
  simp only [scopedResolver, assertDeclared, undeclared, if_false, bind, Except.bind]
  exact ⟨_, rfl, rfl⟩

/-! ## Composition -/

/-- The composition ends, in this way, however long it may take. -/
def EndsIn (modules : List (CapabilityModule Value)) (composed : Composed Value) : Prop :=
  forall fuel, modules.length < fuel -> composeCapabilities fuel modules = some composed

def Composes (modules : List (CapabilityModule Value)) : Prop :=
  Exists fun composed => EndsIn modules composed ∧
    Exists fun application => composed.outcome = .ok application

/-- What a start may ask of the resolver it is handed, and what not. -/
structure Scoped (start : Start Value) : Prop where
  declared : forall need, need ∈ start.entry.manifest.needs ->
    start.resolver.has need = .ok true ∧ Exists fun value => start.resolver.get need = .ok value
  undeclared : forall id, id ∉ start.entry.manifest.needs -> Exists fun message =>
    start.resolver.has id = .error (.composition message) ∧
      start.resolver.get id = .error (.composition message)

theorem Consistent.scope (consistent : Consistent Typed modules pending state) {start : Start Value}
    (started : start ∈ state.starts) : Scoped start where
  declared := by
    intro need needed
    rcases List.append_of_mem started with ⟨before, after, split⟩
    have served := consistent.served before start after split need needed
    exact scopedResolver_declared needed served.1
  undeclared := by
    intro id foreign
    exact scopedResolver_undeclared foreign

/-- A reported order: all the modules, each after every provider of what it
needs, and each need has one. -/
structure Reported (modules : List (CapabilityModule Value)) (composed : Composed Value)
    (application : ComposedApplication Value) : Prop where
  once : (composed.starts.map Start.entry).Perm modules
  reported : application.moduleIds = composed.starts.map fun start => start.entry.manifest.moduleId
  ordered : Dependencies.Ordered (NeedsFrom modules) (composed.starts.map Start.entry)
  provided : forall entry, entry ∈ modules -> forall need, need ∈ entry.manifest.needs ->
    Exists fun provider => NeedsFrom modules entry provider ∧ need ∈ provider.manifest.provides

/-- A composition of modules whose starts return what they declare. -/
structure ComposedExactly (modules : List (CapabilityModule Value)) (composed : Composed Value) : Prop where
  succeeds : (Exists fun application => composed.outcome = .ok application) ↔ Composable modules
  success : forall application, composed.outcome = .ok application ->
    Reported modules composed application
  scope : forall start, start ∈ composed.starts -> Scoped start
  failure : forall fault, composed.outcome = .error fault ->
    Exists fun message => fault = .composition message

theorem assertManifest_fault (refused : assertManifest manifest = .error fault) :
    Exists fun message => fault = .composition message := by
  unfold assertManifest at refused
  repeat' split at refused
  all_goals cases refused
  all_goals exact ⟨_, rfl⟩

theorem declareProviders_fault {moduleId : String} {ids : List CapabilityId}
    {declared : DeclaredProviders} (refused : declareProviders moduleId ids declared = .error fault) :
    Exists fun message => fault = .composition message := by
  induction ids generalizing declared with
  | nil => cases refused
  | cons head tail inductionHypothesis =>
    unfold declareProviders at refused
    split at refused
    · split at refused
      · exact inductionHypothesis refused
      · cases refused
        exact ⟨_, rfl⟩
    · exact inductionHypothesis refused

theorem assertManifests_fault {declared : DeclaredProviders}
    (refused : assertManifests modules declared = .error fault) :
    Exists fun message => fault = .composition message := by
  induction modules generalizing declared with
  | nil => cases refused
  | cons entry rest inductionHypothesis =>
    cases manifestOutcome : assertManifest entry.manifest with
    | error first =>
      simp only [assertManifests, manifestOutcome, bind, Except.bind, Except.error.injEq] at refused
      exact refused ▸ assertManifest_fault manifestOutcome
    | ok done =>
      cases providerOutcome : declareProviders entry.manifest.moduleId entry.manifest.provides declared with
      | error first =>
        simp only [assertManifests, manifestOutcome, providerOutcome, bind, Except.bind,
          Except.error.injEq] at refused
        exact refused ▸ declareProviders_fault providerOutcome
      | ok recorded =>
        simp only [assertManifests, manifestOutcome, providerOutcome, bind, Except.bind] at refused
        exact inductionHypothesis refused

theorem assertModules_fault (refused : assertModules modules = .error fault) :
    Exists fun message => fault = .composition message := by
  unfold assertModules at refused
  split at refused
  · cases refused
    exact ⟨_, rfl⟩
  · exact assertManifests_fault refused

/-- Every composition ends, and says exactly whether its modules fit. -/
theorem composeCapabilities_ends (exactly : forall entry, entry ∈ modules -> StartsExactly Typed entry) :
    Exists fun composed => EndsIn modules composed ∧ ComposedExactly modules composed := by
  cases checked : assertModules modules with
  | error fault =>
    have notDeclared : ¬ Declared modules := by
      intro declared
      rcases (assertModules_ok_iff modules).mpr declared with ⟨recorded, accepted⟩
      rw [checked] at accepted
      cases accepted
    refine ⟨⟨[], .error fault⟩, ?_, ?_, ?_, ?_, ?_⟩
    · intro fuel _
      simp only [composeCapabilities, checked]
    · constructor
      · rintro ⟨application, impossible⟩
        cases impossible
      · intro composable
        exact absurd composable.toDeclared notDeclared
    · intro application impossible
      cases impossible
    · intro start member
      cases member
    · intro other same
      cases same
      exact assertModules_fault checked
  | ok recorded =>
    have declared := (assertModules_ok_iff modules).mp ⟨recorded, checked⟩
    rcases startPending_ends exactly (Consistent.initial Typed modules) with
      ⟨after, outcome, ends, ended⟩
    refine ⟨⟨after.starts, outcome.map fun () => composedApplication after⟩, ?_, ?_⟩
    · intro fuel enough
      simp only [composeCapabilities, checked, ends fuel enough, Option.map_some]
    · cases ended with
      | finished consistent =>
        have composable := consistent.composable declared
        have all : (after.starts.map Start.entry).Perm modules := by
          have divided := consistent.divided
          rw [List.append_nil] at divided
          exact divided
        refine ⟨⟨fun _ => composable, fun _ => ⟨_, rfl⟩⟩, ?_, ?_, ?_⟩
        · intro application same
          cases same
          refine ⟨all, consistent.reported, consistent.ordered declared, ?_⟩
          intro entry member need needed
          rcases composable.needsProvided entry member need needed with ⟨provider, providerMember, provides⟩
          exact ⟨provider, ⟨providerMember, need, needed, provides⟩, provides⟩
        · intro start started
          exact consistent.scope started
        · intro fault impossible
          cases impossible
      | stuck consistent remaining missing =>
        refine ⟨⟨?_, ?_⟩, ?_, ?_, ?_⟩
        · rintro ⟨application, impossible⟩
          cases impossible
        · intro composable
          rcases composable.progresses consistent remaining with ⟨entry, member, met⟩
          exact absurd met (missing entry member)
        · intro application impossible
          cases impossible
        · intro start started
          exact consistent.scope started
        · intro fault same
          cases same
          exact ⟨_, rfl⟩

theorem EndsIn.unique {composed other : Composed Value} (ends : EndsIn modules composed)
    (otherEnds : EndsIn modules other) : composed = other := by
  have same := (ends _ (Nat.lt_succ_self _)).symm.trans (otherEnds _ (Nat.lt_succ_self _))
  exact Option.some.inj same

theorem composes_iff (exactly : forall entry, entry ∈ modules -> StartsExactly Typed entry) :
    Composes modules ↔ Composable modules := by
  rcases composeCapabilities_ends exactly with ⟨composed, ends, correct⟩
  rw [← correct.succeeds]
  constructor
  · rintro ⟨other, otherEnds, application, outcome⟩
    exact ⟨application, ends.unique otherEnds ▸ outcome⟩
  · rintro ⟨application, outcome⟩
    exact ⟨composed, ends, application, outcome⟩

/-- Composition ends for every list of modules whose starts return what they
declare.  It succeeds exactly when the declarations fit, in whatever order the
modules come; it then has started each module once, after all that it needs;
and otherwise it ends with an error of the composer. -/
theorem composeCapabilities_correct (Typed : CapabilityId -> Value -> Prop)
    (modules : List (CapabilityModule Value))
    (exactly : forall entry, entry ∈ modules -> StartsExactly Typed entry) :
    (Exists fun composed => EndsIn modules composed ∧ ComposedExactly modules composed) ∧
      forall rearranged, rearranged.Perm modules -> (Composes rearranged ↔ Composes modules) := by
  refine ⟨composeCapabilities_ends exactly, ?_⟩
  intro rearranged same
  have stillExactly : forall entry, entry ∈ rearranged -> StartsExactly Typed entry :=
    fun entry member => exactly entry (same.mem_iff.mp member)
  rw [composes_iff exactly, composes_iff stillExactly]
  constructor
  · exact fun composable => composable.perm same.symm
  · exact fun composable => composable.perm same

/-- A module without needs that provides one capability. -/
def echoModule : CapabilityModule Nat where
  manifest := ⟨"echo", [], ["bke.echo.v1"]⟩
  start _ := .ok [⟨"bke.echo.v1", 1⟩]

/-- A module that reads the capability of `echoModule` and provides another. -/
def echoProbeModule : CapabilityModule Nat where
  manifest := ⟨"echo-probe", ["bke.echo.v1"], ["bke.echo-probe.v1"]⟩
  start resolver := do
    let echo <- resolver.get "bke.echo.v1"
    .ok [⟨"bke.echo-probe.v1", echo + 1⟩]

theorem echoModule_startsExactly : StartsExactly (fun _ _ => True) echoModule := by
  intro capabilities _
  exact ⟨[⟨"bke.echo.v1", 1⟩], rfl, List.nodup_singleton _, fun _ => Iff.rfl, fun _ _ => trivial⟩

theorem echoProbeModule_startsExactly : StartsExactly (fun _ _ => True) echoProbeModule := by
  intro capabilities supplied
  rcases supplied "bke.echo.v1" List.mem_cons_self with ⟨echo, found, _⟩
  have needed : "bke.echo.v1" ∈ echoProbeModule.manifest.needs := List.mem_cons_self
  refine ⟨[⟨"bke.echo-probe.v1", echo + 1⟩], ?_, List.nodup_singleton _, fun _ => Iff.rfl, fun _ _ => trivial⟩
  show (scopedResolver echoProbeModule.manifest capabilities).get "bke.echo.v1" >>= _ = _
  simp only [scopedResolver, assertDeclared, needed, if_true, found, bind, Except.bind]

theorem composeCapabilities_correct_echo :
    (Exists fun composed => EndsIn [echoProbeModule, echoModule] composed ∧
        ComposedExactly [echoProbeModule, echoModule] composed) ∧
      forall rearranged, rearranged.Perm [echoProbeModule, echoModule] ->
        (Composes rearranged ↔ Composes [echoProbeModule, echoModule]) := by
  apply composeCapabilities_correct (fun _ _ => True)
  intro entry member
  rcases List.mem_cons.mp member with isProbe | isEcho
  · exact isProbe ▸ echoProbeModule_startsExactly
  · exact List.mem_singleton.mp isEcho ▸ echoModule_startsExactly

example : ((composeCapabilities 3 [echoProbeModule, echoModule]).map
    fun composed => composed.outcome.toOption.map (·.moduleIds)) = some (some ["echo", "echo-probe"]) := by
  decide +kernel

end Composition
end DigitalSolutions
