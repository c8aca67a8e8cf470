import Mathlib

namespace DigitalSolutions
namespace Foundation

/-!
# Checks in a row

Code that reads a value field by field throws at the first check that fails.
What it returns, if it returns, has passed all of them.
-/

variable {Failure Value Result : Type}

theorem check_bind_ok_iff {first : Except Failure Value} {rest : Value -> Except Failure Result} {result : Result} :
    (first >>= rest) = .ok result ↔ Exists fun value => first = .ok value ∧ rest value = .ok result := by
  cases first with
  | error failure =>
    constructor
    · nofun
    · rintro ⟨_, ⟨⟩, _⟩
  | ok value =>
    constructor
    · intro done
      exact ⟨value, rfl, done⟩
    · rintro ⟨other, same, done⟩
      cases same
      exact done

theorem check_bind_error_iff {first : Except Failure Value} {rest : Value -> Except Failure Result}
    {failure : Failure} : (first >>= rest) = .error failure ↔
      first = .error failure ∨ Exists fun value => first = .ok value ∧ rest value = .error failure := by
  cases first with
  | error other =>
    constructor
    · intro failed
      exact Or.inl (congrArg Except.error (Except.error.inj failed))
    · rintro (failed | ⟨_, ⟨⟩, _⟩)
      exact congrArg Except.error (Except.error.inj failed)
  | ok value =>
    constructor
    · intro failed
      exact Or.inr ⟨value, rfl, failed⟩
    · rintro (failed | ⟨other, same, failed⟩)
      · cases failed
      · cases same
        exact failed

theorem check_ok_bind (value : Value) (rest : Value -> Except Failure Result) :
    (Except.ok value >>= rest) = rest value := rfl

theorem check_toOption_bind (first : Except Failure Value) (rest : Value -> Except Failure Result) :
    (first >>= rest).toOption = first.toOption.bind (fun value => (rest value).toOption) := by
  cases first with
  | error failure => rfl
  | ok value => rfl

theorem ok_of_toOption {first : Except Failure Value} {value : Value} (present : first.toOption = some value) :
    first = .ok value := by
  cases first with
  | error failure => cases present
  | ok stored => exact congrArg Except.ok (Option.some.inj present)

theorem check_pure_ok_iff {stored value : Value} :
    (pure stored : Except Failure Value) = .ok value ↔ stored = value := by
  constructor
  · intro same
    exact Except.ok.inj same
  · rintro rfl
    rfl

/-- `if (condition) throw failure`. -/
def rejectIf (condition : Prop) [Decidable condition] (failure : Failure) : Except Failure Unit :=
  if condition then .error failure else .ok ()

theorem rejectIf_ok_iff {condition : Prop} [Decidable condition] {failure : Failure} {answer : Unit} :
    rejectIf condition failure = .ok answer ↔ ¬ condition := by
  by_cases holds : condition
  · simp only [rejectIf, holds, if_true, not_true, reduceCtorEq]
  · simp only [rejectIf, holds, if_false, not_false_eq_true]

/-- A value that is there, or a throw. -/
def demand (value : Option Value) (failure : Failure) : Except Failure Value :=
  match value with
  | some found => .ok found
  | none => .error failure

theorem demand_ok_iff {value : Option Value} {failure : Failure} {found : Value} :
    demand value failure = .ok found ↔ value = some found := by
  cases value with
  | none => simp only [demand, reduceCtorEq]
  | some stored => simp only [demand, Except.ok.injEq, Option.some.injEq]

theorem demand_toOption (value : Option Value) (failure : Failure) : (demand value failure).toOption = value := by
  cases value with
  | none => rfl
  | some stored => rfl

theorem mapM_congr_mem {Argument : Type} {left right : Argument -> Except Failure Value} {arguments : List Argument}
    (same : forall argument, argument ∈ arguments -> left argument = right argument) :
    arguments.mapM left = arguments.mapM right := by
  induction arguments with
  | nil => rfl
  | cons first rest inductionHypothesis =>
    rw [List.mapM_cons, List.mapM_cons, same first List.mem_cons_self,
      inductionHypothesis (fun argument member => same argument (List.mem_cons_of_mem first member))]

/-- What is checked of each value of a list holds of each. -/
theorem forall_of_all {property : Value -> Prop} [DecidablePred property] {values : List Value}
    (checked : values.all (fun value => decide (property value)) = true) :
    forall value, value ∈ values -> property value :=
  fun value member => of_decide_eq_true (List.all_eq_true.mp checked value member)

end Foundation
end DigitalSolutions
