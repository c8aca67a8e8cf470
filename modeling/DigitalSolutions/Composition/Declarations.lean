import DigitalSolutions.Composition.Composer
import DigitalSolutions.Foundation.Dependencies

namespace DigitalSolutions
namespace Composition

open Foundation Platform

/-!
# Which declarations a composer can satisfy

The collections of modules that can be composed, stated on their manifests
alone, and the part of it that is decided before any module is started.
-/

variable {Value : Type}
variable {modules : List (CapabilityModule Value)} {declared : DeclaredProviders}

/-- `entry` needs something that `provider` provides. -/
def NeedsFrom (modules : List (CapabilityModule Value)) (entry provider : CapabilityModule Value) : Prop :=
  provider ∈ modules ∧
    Exists fun need => need ∈ entry.manifest.needs ∧ need ∈ provider.manifest.provides

/-- What a manifest says about itself alone. -/
structure WellDeclared (manifest : ModuleManifest) : Prop where
  named : isBlank manifest.moduleId = false
  needsOnce : manifest.needs.Nodup
  providesOnce : manifest.provides.Nodup

/-- The declarations that can be checked without looking at needs. -/
structure Declared (modules : List (CapabilityModule Value)) : Prop where
  idsUnique : (modules.map (·.manifest.moduleId)).Nodup
  wellDeclared : forall entry, entry ∈ modules -> WellDeclared entry.manifest
  oneProvider : forall entry, entry ∈ modules -> forall other, other ∈ modules ->
    forall id, id ∈ entry.manifest.provides -> id ∈ other.manifest.provides ->
      entry.manifest.moduleId = other.manifest.moduleId

/-- Modules that can be composed: well declared, every need provided for, and
no module waiting for itself. -/
structure Composable (modules : List (CapabilityModule Value)) : Prop extends Declared modules where
  needsProvided : forall entry, entry ∈ modules -> forall need, need ∈ entry.manifest.needs ->
    Exists fun provider => provider ∈ modules ∧ need ∈ provider.manifest.provides
  acyclic : Dependencies.Acyclic (NeedsFrom modules) modules

/-! ## The order of the modules does not matter -/

theorem Declared.perm {rearranged : List (CapabilityModule Value)} (same : rearranged.Perm modules)
    (declared : Declared modules) : Declared rearranged where
  idsUnique := (same.map _).nodup_iff.mpr declared.idsUnique
  wellDeclared := fun entry member => declared.wellDeclared entry (same.mem_iff.mp member)
  oneProvider := fun entry member other otherMember =>
    declared.oneProvider entry (same.mem_iff.mp member) other (same.mem_iff.mp otherMember)

theorem Composable.perm {rearranged : List (CapabilityModule Value)} (same : rearranged.Perm modules)
    (composable : Composable modules) : Composable rearranged where
  toDeclared := composable.toDeclared.perm same
  needsProvided := by
    intro entry member need needed
    rcases composable.needsProvided entry (same.mem_iff.mp member) need needed with
      ⟨provider, providerMember, provides⟩
    exact ⟨provider, same.mem_iff.mpr providerMember, provides⟩
  acyclic := by
    intro entry member cycle
    apply composable.acyclic entry (same.mem_iff.mp member)
    have kept : NeedsFrom rearranged ≤ NeedsFrom modules := by
      rintro first second ⟨provider, needed⟩
      exact ⟨same.mem_iff.mp provider, needed⟩
    exact Relation.TransGen.mono kept _ _ cycle

/-- A module is determined by its id. -/
theorem Declared.eq_of_id (declared : Declared modules) {entry other : CapabilityModule Value}
    (member : entry ∈ modules) (otherMember : other ∈ modules)
    (same : entry.manifest.moduleId = other.manifest.moduleId) : entry = other :=
  List.inj_on_of_nodup_map declared.idsUnique member otherMember same

/-- A capability has one provider. -/
theorem Declared.provider_unique (declared : Declared modules) {entry other : CapabilityModule Value}
    (member : entry ∈ modules) (otherMember : other ∈ modules) {id : CapabilityId}
    (provides : id ∈ entry.manifest.provides) (otherProvides : id ∈ other.manifest.provides) :
    entry = other :=
  declared.eq_of_id member otherMember
    (declared.oneProvider entry member other otherMember id provides otherProvides)

/-! ## The checks decide the declarations -/

theorem unique_iff (values : List String) : unique values = true ↔ values.Nodup := by
  unfold unique
  rw [beq_iff_eq]
  constructor
  · intro counted
    rw [List.card_toFinset] at counted
    have whole : values.dedup = values := (List.dedup_sublist values).eq_of_length counted
    exact List.dedup_eq_self.mp whole
  · intro distinct
    exact List.toFinset_card_of_nodup distinct

theorem unique_eq_false_iff (values : List String) : unique values = false ↔ ¬ values.Nodup := by
  rw [← unique_iff, Bool.not_eq_true]

theorem trim_eq_empty_iff (text : String) : trim text = "" ↔ isBlank text = true := by
  unfold trim isBlank
  rw [String.ofList_eq_empty_iff, List.reverse_eq_nil_iff, List.dropWhile_eq_nil_iff, List.all_eq_true]
  constructor
  · intro trimmed
    by_cases blank : text.toList.dropWhile isWhiteSpace = []
    · exact List.dropWhile_eq_nil_iff.mp blank
    · have first := List.head_mem blank
      have visible := List.head_dropWhile_not isWhiteSpace blank
      rw [trimmed _ (List.mem_reverse.mpr first)] at visible
      cases visible
  · intro blank
    rw [List.dropWhile_eq_nil_iff.mpr blank]
    intro character member
    cases member

theorem assertManifest_ok_iff (manifest : ModuleManifest) :
    assertManifest manifest = .ok () ↔ WellDeclared manifest := by
  simp only [assertManifest, trim_eq_empty_iff, unique_eq_false_iff]
  constructor
  · intro accepted
    split at accepted
    · cases accepted
    · rename_i named
      split at accepted
      · cases accepted
      · rename_i needsOnce
        split at accepted
        · cases accepted
        · rename_i providesOnce
          exact ⟨by simpa using named, not_not.mp needsOnce, not_not.mp providesOnce⟩
  · intro wellDeclared
    rw [if_neg (by rw [wellDeclared.named]; decide), if_neg (not_not.mpr wellDeclared.needsOnce),
      if_neg (not_not.mpr wellDeclared.providesOnce)]

/-- Every provider on record has a truthy id. -/
def Named (declared : DeclaredProviders) : Prop :=
  forall id provider, declared.get? id = some provider -> provider ≠ ""

theorem named_empty : Named InsertionMap.empty := by
  intro id provider found
  cases found

theorem Named.set (named : Named declared) {moduleId : String} (truthy : moduleId ≠ "")
    (id : CapabilityId) : Named (declared.set id moduleId) := by
  intro other provider found
  rw [InsertionMap.get?_set] at found
  split at found
  · cases found
    exact truthy
  · exact named other provider found

/-- Recording a module's capabilities succeeds when none of them is taken, and
then takes exactly these. -/
theorem declareProviders_ok (moduleId : String) {ids : List CapabilityId} (once : ids.Nodup)
    (free : forall id, id ∈ ids -> declared.get? id = none) :
    Exists fun after => declareProviders moduleId ids declared = .ok after ∧
      forall id, after.get? id = if id ∈ ids then some moduleId else declared.get? id := by
  induction ids generalizing declared with
  | nil =>
    refine ⟨declared, rfl, ?_⟩
    intro id
    rw [if_neg (List.not_mem_nil)]
  | cons head tail inductionHypothesis =>
    have parts := List.nodup_cons.mp once
    have stillFree : forall id, id ∈ tail -> (declared.set head moduleId).get? id = none := by
      intro id member
      have distinct : ¬ head = id := fun same => parts.1 (same ▸ member)
      rw [InsertionMap.get?_set, if_neg distinct]
      exact free id (List.mem_cons_of_mem _ member)
    rcases inductionHypothesis parts.2 stillFree with ⟨after, accepted, recorded⟩
    refine ⟨after, ?_, ?_⟩
    · simp only [declareProviders, free head List.mem_cons_self]
      exact accepted
    · intro id
      rw [recorded id, InsertionMap.get?_set]
      by_cases isHead : head = id
      · subst isHead
        rw [if_neg parts.1, if_pos rfl, if_pos List.mem_cons_self]
      · simp only [isHead, if_false, List.mem_cons, Ne.symm isHead, false_or]

/-- A capability that is already taken stops the composition. -/
theorem declareProviders_taken {moduleId : String} {ids : List CapabilityId} (named : Named declared)
    (truthy : moduleId ≠ "") {after : DeclaredProviders}
    (accepted : declareProviders moduleId ids declared = .ok after) :
    forall id, id ∈ ids -> declared.get? id = none := by
  induction ids generalizing declared with
  | nil =>
    intro id member
    cases member
  | cons head tail inductionHypothesis =>
    have headFree : declared.get? head = none := by
      cases found : declared.get? head with
      | none => rfl
      | some provider =>
        simp only [declareProviders, found, named head provider found, if_false] at accepted
        cases accepted
    simp only [declareProviders, headFree] at accepted
    intro id member
    rcases List.mem_cons.mp member with same | later
    · exact same ▸ headFree
    · have free := inductionHypothesis (named.set truthy head) accepted id later
      rw [InsertionMap.get?_set] at free
      split at free
      · cases free
      · exact free

/-- No capability is provided by both. -/
def Apart (entry other : CapabilityModule Value) : Prop :=
  forall id, id ∈ entry.manifest.provides -> id ∉ other.manifest.provides

theorem WellDeclared.truthy {manifest : ModuleManifest} (wellDeclared : WellDeclared manifest) :
    manifest.moduleId ≠ "" := by
  intro same
  have named := wellDeclared.named
  rw [same] at named
  cases named

theorem assertManifests_ok (wellDeclared : forall entry, entry ∈ modules -> WellDeclared entry.manifest)
    (apart : modules.Pairwise Apart)
    (free : forall entry, entry ∈ modules -> forall id, id ∈ entry.manifest.provides ->
      declared.get? id = none) :
    Exists fun after => assertManifests modules declared = .ok after := by
  induction modules generalizing declared with
  | nil => exact ⟨declared, rfl⟩
  | cons entry rest inductionHypothesis =>
    have parts := List.pairwise_cons.mp apart
    have checked := wellDeclared entry List.mem_cons_self
    rcases declareProviders_ok entry.manifest.moduleId checked.providesOnce
        (free entry List.mem_cons_self) with
      ⟨recorded, accepted, taken⟩
    have stillFree : forall other, other ∈ rest -> forall id, id ∈ other.manifest.provides ->
        recorded.get? id = none := by
      intro other member id provides
      have elsewhere : id ∉ entry.manifest.provides := fun here => parts.1 other member id here provides
      rw [taken id, if_neg elsewhere]
      exact free other (List.mem_cons_of_mem _ member) id provides
    rcases inductionHypothesis (fun other member => wellDeclared other (List.mem_cons_of_mem _ member))
      parts.2 stillFree with ⟨after, restAccepted⟩
    refine ⟨after, ?_⟩
    simp only [assertManifests, (assertManifest_ok_iff _).mpr checked, accepted, bind, Except.bind]
    exact restAccepted

theorem assertManifests_sound {after : DeclaredProviders} (named : Named declared)
    (accepted : assertManifests modules declared = .ok after) :
    (forall entry, entry ∈ modules -> WellDeclared entry.manifest) ∧ modules.Pairwise Apart ∧
      forall entry, entry ∈ modules -> forall id, id ∈ entry.manifest.provides ->
        declared.get? id = none := by
  induction modules generalizing declared with
  | nil =>
    refine ⟨?_, List.Pairwise.nil, ?_⟩
    · intro entry member
      cases member
    · intro entry member
      cases member
  | cons entry rest inductionHypothesis =>
    cases manifestOutcome : assertManifest entry.manifest with
    | error fault => simp [assertManifests, manifestOutcome, bind, Except.bind] at accepted
    | ok done =>
      cases providerOutcome : declareProviders entry.manifest.moduleId entry.manifest.provides declared with
      | error fault => simp [assertManifests, manifestOutcome, providerOutcome, bind, Except.bind] at accepted
      | ok recorded =>
        simp only [assertManifests, manifestOutcome, providerOutcome, bind, Except.bind] at accepted
        have checked := (assertManifest_ok_iff _).mp manifestOutcome
        have free := declareProviders_taken named checked.truthy providerOutcome
        rcases declareProviders_ok entry.manifest.moduleId checked.providesOnce free with
          ⟨same, sameOutcome, taken⟩
        rw [providerOutcome] at sameOutcome
        cases sameOutcome
        have stillNamed : Named recorded := by
          intro id provider found
          rw [taken id] at found
          split at found
          · cases found
            exact checked.truthy
          · exact named id provider found
        rcases inductionHypothesis stillNamed accepted with ⟨restDeclared, restApart, restFree⟩
        refine ⟨?_, ?_, ?_⟩
        · intro other member
          rcases List.mem_cons.mp member with isEntry | later
          · exact isEntry ▸ checked
          · exact restDeclared other later
        · apply List.Pairwise.cons
          · intro other member id here there
            have gone := restFree other member id there
            rw [taken id, if_pos here] at gone
            cases gone
          · exact restApart
        · intro other member id provides
          rcases List.mem_cons.mp member with isEntry | later
          · exact free id (isEntry ▸ provides)
          · have unchanged := restFree other later id provides
            rw [taken id] at unchanged
            split at unchanged
            · cases unchanged
            · exact unchanged

/-- The checks before the first start pass exactly on sound declarations. -/
theorem assertModules_ok_iff (modules : List (CapabilityModule Value)) :
    (Exists fun declared => assertModules modules = .ok declared) ↔ Declared modules := by
  unfold assertModules
  constructor
  · rintro ⟨declared, accepted⟩
    split at accepted
    · cases accepted
    · rename_i idsUnique
      rw [Bool.not_eq_false, unique_iff] at idsUnique
      rcases assertManifests_sound named_empty accepted with ⟨wellDeclared, apart, _⟩
      refine ⟨idsUnique, wellDeclared, ?_⟩
      intro entry member other otherMember
      have symmetric : Std.Symm fun first second : CapabilityModule Value =>
          forall id, id ∈ first.manifest.provides -> id ∈ second.manifest.provides ->
            first.manifest.moduleId = second.manifest.moduleId :=
        ⟨fun first second same id firstProvides secondProvides =>
          (same id secondProvides firstProvides).symm⟩
      have agree := apart.imp (S := fun first second : CapabilityModule Value =>
        forall id, id ∈ first.manifest.provides -> id ∈ second.manifest.provides ->
          first.manifest.moduleId = second.manifest.moduleId)
        (fun disjoint id firstProvides secondProvides =>
          absurd secondProvides (disjoint id firstProvides))
      exact agree.forall_of_forall (fun _ _ _ _ _ => rfl) member otherMember
  · intro declared
    rw [if_neg (by rw [Bool.not_eq_false, unique_iff]; exact declared.idsUnique)]
    apply assertManifests_ok declared.wellDeclared
    · have distinct := List.pairwise_map.mp declared.idsUnique
      apply distinct.imp_of_mem
      intro first second firstMember secondMember different id firstProvides secondProvides
      exact different (declared.oneProvider first firstMember second secondMember id firstProvides secondProvides)
    · intro entry member id provides
      exact InsertionMap.get?_empty id

end Composition
end DigitalSolutions
