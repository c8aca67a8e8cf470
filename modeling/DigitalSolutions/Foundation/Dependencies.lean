import Mathlib

namespace DigitalSolutions
namespace Foundation

/-!
# Tasks that wait for one another

`dependsOn task other` says that `task` can only start after `other`.  A
finite collection of tasks can be put in an order that respects this exactly
when no task waits for itself, directly or through others.  Both directions
are stated for how a scheduler meets them: an order it has built excludes
every cycle, and without a cycle some waiting task is always free to start.
-/

namespace Dependencies

variable {Task : Type} {dependsOn : Task -> Task -> Prop}

/-- No task of the collection waits for itself, however indirectly. -/
def Acyclic (dependsOn : Task -> Task -> Prop) (tasks : List Task) : Prop :=
  forall task, task ∈ tasks -> ¬ Relation.TransGen dependsOn task task

/-- Every task of the list comes after all that it waits for. -/
def Ordered (dependsOn : Task -> Task -> Prop) (order : List Task) : Prop :=
  forall before task after, order = before ++ task :: after ->
    forall other, dependsOn task other -> other ∈ before

theorem Acyclic.of_subset {tasks some : List Task} (acyclic : Acyclic dependsOn tasks)
    (subset : some ⊆ tasks) : Acyclic dependsOn some := by
  intro task member
  exact acyclic task (subset member)

/-! ## Orders that respect the dependencies -/

/-- Where a list with one more element at its end can be split. -/
theorem split_of_concat {order before after : List Task} {last task : Task}
    (same : order ++ [last] = before ++ task :: after) :
    (before = order ∧ task = last) ∨ Exists fun between => order = before ++ task :: between := by
  rcases List.eq_nil_or_concat after with isNil | ⟨between, final, isConcat⟩
  · rw [isNil] at same
    have parts := List.append_inj' same rfl
    exact Or.inl ⟨parts.1.symm, (List.cons.inj parts.2).1.symm⟩
  · rw [isConcat, List.concat_eq_append, ← List.cons_append, ← List.append_assoc] at same
    exact Or.inr ⟨between, List.append_inj_left' same rfl⟩

/-- Waiting is well founded on the tasks of an order that respects it. -/
theorem Ordered.accessible {order : List Task} (ordered : Ordered dependsOn order)
    {task : Task} (member : task ∈ order) : Acc (fun earlier later => dependsOn later earlier) task := by
  -- Induction on how many tasks stand before the one in question.
  have bounded : forall length before placed after, before.length = length ->
      order = before ++ placed :: after ->
      Acc (fun earlier later => dependsOn later earlier) placed := by
    intro length
    induction length using Nat.strong_induction_on with
    | _ length inductionHypothesis =>
      intro before placed after counted same
      apply Acc.intro
      intro other needed
      have earlier := ordered before placed after same other needed
      rcases List.append_of_mem earlier with ⟨front, back, split⟩
      have shorter : front.length < length := by
        rw [← counted, split, List.length_append, List.length_cons]
        omega
      apply inductionHypothesis front.length shorter front other (back ++ placed :: after) rfl
      rw [same, split, List.append_assoc, List.cons_append]
  rcases List.append_of_mem member with ⟨before, after, same⟩
  exact bounded before.length before task after rfl same

/-- An order that respects the dependencies excludes every cycle. -/
theorem Ordered.acyclic {order : List Task} (ordered : Ordered dependsOn order) :
    Acyclic dependsOn order := by
  intro task member cycle
  have founded := (ordered.accessible member).transGen
  have turned : Relation.TransGen (fun earlier later => dependsOn later earlier) task task :=
    Relation.transGen_swap.mpr cycle
  induction founded with
  | intro placed _ inductionHypothesis => exact inductionHypothesis placed turned member cycle turned

/-! ## A task that is free to start -/

/-- Without a cycle, some task among those that still wait depends on none of
the others that still wait. -/
theorem Acyclic.exists_ready {pending : List Task} (acyclic : Acyclic dependsOn pending)
    (nonempty : pending ≠ []) :
    Exists fun task => task ∈ pending ∧ forall other, other ∈ pending -> ¬ dependsOn task other := by
  let waits : {task // task ∈ pending} -> {task // task ∈ pending} -> Prop :=
    fun earlier later => Relation.TransGen dependsOn later.val earlier.val
  have transitive : IsTrans _ waits := ⟨fun _ _ _ first second => second.trans first⟩
  have irreflexive : Std.Irrefl waits := ⟨fun task cycle => acyclic task.val task.property cycle⟩
  have finite : Finite {task // task ∈ pending} := List.finite_toSet pending
  have founded : WellFounded waits := Finite.wellFounded_of_trans_of_irrefl waits
  have inhabited : (Set.univ : Set {task // task ∈ pending}).Nonempty :=
    ⟨⟨pending.head nonempty, List.head_mem nonempty⟩, trivial⟩
  rcases founded.has_min Set.univ inhabited with ⟨task, _, least⟩
  refine ⟨task.val, task.property, ?_⟩
  intro other member needed
  exact least ⟨other, member⟩ trivial (Relation.TransGen.single needed)

end Dependencies
end Foundation
end DigitalSolutions
