import Mathlib

namespace DigitalSolutions
namespace Foundation

/-!
# Bounded sweeps

A run of a sweep takes the first entries of a backlog, up to a limit, and
attempts each of them.  What fails stays in its place, and is taken again by
the next run.  So each entry that keeps failing costs every later run one of
its attempts.
-/

namespace Sweep

variable {Entry : Type} (limit : Nat) (fails : Entry -> Bool) (backlog : List Entry)
variable {before rest : List Entry}

/-- What one run leaves. -/
def once (backlog : List Entry) : List Entry := (backlog.take limit).filter fails ++ backlog.drop limit

def after : Nat -> List Entry
  | 0 => backlog
  | runs + 1 => once limit fails (after runs)

/-- How many entries of the backlog the first runs have come to: each run goes
on by its limit, less the failing entries that were passed before it. -/
def passed : Nat -> Nat
  | 0 => 0
  | runs + 1 => passed runs + (limit - (backlog.take (passed runs)).countP fails)

def Attempted (runs : Nat) (entry : Entry) : Prop :=
  Exists fun run => run < runs ∧ entry ∈ (after limit fails backlog run).take limit

/-- Failing entries in front of the others, as a run meets them. -/
theorem once_append {failing : List Entry} (allFail : forall entry, entry ∈ failing -> fails entry = true)
    (others : List Entry) :
    once limit fails (failing ++ others) = failing ++
      ((others.take (limit - failing.length)).filter fails ++ others.drop (limit - failing.length)) := by
  have kept : (failing.take limit).filter fails = failing.take limit := by
    rw [List.filter_eq_self]
    intro entry member
    exact allFail entry (List.mem_of_mem_take member)
  rw [once, List.take_append, List.drop_append, List.filter_append, kept]
  by_cases room : failing.length ≤ limit
  · rw [List.take_of_length_le room, List.drop_eq_nil_of_le room, List.nil_append, List.append_assoc]
  · have none : limit - failing.length = 0 := by omega
    rw [none, List.take_zero, List.filter_nil, List.append_nil, List.drop_zero, List.nil_append,
      ← List.append_assoc, List.take_append_drop]

/-- Of the entries that were passed, the failing ones are left. -/
theorem after_eq (runs : Nat) : after limit fails backlog runs =
    (backlog.take (passed limit fails backlog runs)).filter fails ++
      backlog.drop (passed limit fails backlog runs) := by
  induction runs with
  | zero => rfl
  | succ runs inductionHypothesis =>
    have allFail : forall entry, entry ∈ (backlog.take (passed limit fails backlog runs)).filter fails ->
        fails entry = true :=
      fun entry member => (List.mem_filter.mp member).2
    rw [after, inductionHypothesis, once_append limit fails allFail, ← List.countP_eq_length_filter,
      ← List.append_assoc, ← List.filter_append, ← List.take_add, List.drop_drop]
    rfl

/-- What has been attempted is what was passed. -/
theorem attempted_iff (runs : Nat) (entry : Entry) :
    Attempted limit fails backlog runs entry ↔ entry ∈ backlog.take (passed limit fails backlog runs) := by
  induction runs with
  | zero =>
    constructor
    · rintro ⟨run, impossible, _⟩
      cases impossible
    · intro member
      cases member
  | succ runs inductionHypothesis =>
    have last : entry ∈ (after limit fails backlog runs).take limit ↔
        entry ∈ ((backlog.take (passed limit fails backlog runs)).filter fails).take limit ∨
          entry ∈ (backlog.drop (passed limit fails backlog runs)).take
            (limit - (backlog.take (passed limit fails backlog runs)).countP fails) := by
      rw [after_eq, List.take_append, List.mem_append, List.countP_eq_length_filter]
    rw [passed, List.take_add, List.mem_append, ← inductionHypothesis]
    constructor
    · rintro ⟨run, before, member⟩
      rcases Nat.lt_succ_iff_lt_or_eq.mp before with earlier | rfl
      · exact Or.inl ⟨run, earlier, member⟩
      · rcases last.mp member with again | new
        · apply Or.inl
          rw [inductionHypothesis]
          exact (List.mem_filter.mp (List.mem_of_mem_take again)).1
        · exact Or.inr new
    · rintro (⟨run, before, member⟩ | new)
      · exact ⟨run, Nat.lt_succ_of_lt before, member⟩
      · exact ⟨runs, Nat.lt_succ_self runs, last.mpr (Or.inr new)⟩

variable {backlog}

/-- Every entry has been attempted when the whole backlog was passed. -/
theorem all_attempted_iff (distinct : backlog.Nodup) (runs : Nat) :
    (forall entry, entry ∈ backlog -> Attempted limit fails backlog runs entry) ↔
      backlog.length ≤ passed limit fails backlog runs := by
  constructor
  · intro all
    by_contra short
    have inRange : passed limit fails backlog runs < backlog.length := by omega
    have taken := (attempted_iff limit fails backlog runs _).mp (all _ (List.getElem_mem inRange))
    rcases List.mem_take_iff_getElem.mp taken with ⟨index, isBefore, same⟩
    have isIndex := (distinct.getElem_inj_iff).mp same
    omega
  · intro enough entry member
    rw [attempted_iff, List.take_of_length_le enough]
    exact member

/-- Runs do not get past as many failing entries as they can take. -/
theorem passed_le (blocked : limit ≤ before.countP fails) (runs : Nat) :
    passed limit fails (before ++ rest) runs ≤ before.length := by
  induction runs with
  | zero => exact Nat.zero_le _
  | succ runs inductionHypothesis =>
    let reached := passed limit fails (before ++ rest) runs
    have within : reached ≤ before.length := inductionHypothesis
    have same : (before ++ rest).take reached = before.take reached := List.take_append_of_le_length within
    have split : before.countP fails = (before.take reached).countP fails + (before.drop reached).countP fails := by
      rw [← List.countP_append, List.take_append_drop]
    have few : (before.drop reached).countP fails ≤ before.length - reached := by
      rw [← List.length_drop]
      exact List.countP_le_length
    have next : passed limit fails (before ++ rest) (runs + 1) =
        reached + (limit - ((before ++ rest).take reached).countP fails) := rfl
    rw [next, same]
    omega

/-- With fewer failing entries in front, each run gets further. -/
theorem lt_passed (free : before.countP fails < limit) (runs : Nat) :
    runs ≤ passed limit fails (before ++ rest) runs ∨
      before.length < passed limit fails (before ++ rest) runs := by
  induction runs with
  | zero => exact Or.inl (Nat.zero_le _)
  | succ runs inductionHypothesis =>
    let reached := passed limit fails (before ++ rest) runs
    have next : passed limit fails (before ++ rest) (runs + 1) =
        reached + (limit - ((before ++ rest).take reached).countP fails) := rfl
    rw [next]
    by_cases within : reached ≤ before.length
    · have same : (before ++ rest).take reached = before.take reached := List.take_append_of_le_length within
      have few : (before.take reached).countP fails ≤ before.countP fails :=
        (List.take_sublist reached before).countP_le
      rw [same]
      rcases inductionHypothesis with ran | beyond
      · have ranThis : runs ≤ reached := ran
        exact Or.inl (by omega)
      · exact absurd within (Nat.not_le_of_lt beyond)
    · exact Or.inr (by omega)

/-- An entry has its turn exactly when fewer entries before it keep failing
than a run takes. -/
theorem ever_attempted_iff {entry : Entry} (distinct : (before ++ entry :: rest).Nodup) :
    (Exists fun runs => Attempted limit fails (before ++ entry :: rest) runs entry) ↔
      before.countP fails < limit := by
  constructor
  · rintro ⟨runs, attempted⟩
    by_contra blocked
    have short : passed limit fails (before ++ entry :: rest) runs ≤ before.length :=
      passed_le limit fails (Nat.le_of_not_lt blocked) runs
    rw [attempted_iff, List.take_append_of_le_length short] at attempted
    rw [List.nodup_append] at distinct
    exact distinct.2.2 entry (List.mem_of_mem_take attempted) entry List.mem_cons_self rfl
  · intro free
    refine ⟨before.length + 1, ?_⟩
    have further : before.length + 1 ≤ passed limit fails (before ++ entry :: rest) (before.length + 1) ∨
        before.length < passed limit fails (before ++ entry :: rest) (before.length + 1) :=
      lt_passed limit fails free (before.length + 1)
    have reached : before.length + 1 ≤ passed limit fails (before ++ entry :: rest) (before.length + 1) := by
      omega
    rw [attempted_iff]
    apply (List.take_subset_take_left _ reached)
    rw [List.take_append, List.take_of_length_le (Nat.le_succ _), Nat.add_sub_cancel_left]
    exact List.mem_append_right _ List.mem_cons_self

/-- What only leaves from its window is what one run leaves. -/
theorem once_of_filter {limit : Nat} {fails keep : Entry -> Bool} {backlog : List Entry}
    (beyond : forall entry, entry ∈ backlog.drop limit -> keep entry = true)
    (window : forall entry, entry ∈ backlog.take limit -> keep entry = fails entry) :
    backlog.filter keep = once limit fails backlog := by
  have apart : backlog.filter keep = (backlog.take limit ++ backlog.drop limit).filter keep := by
    rw [List.take_append_drop]
  rw [apart, List.filter_append, once, List.filter_eq_self.mpr beyond, List.filter_congr window]

/-! ## A backlog of rows -/

/-- How a query orders the rows it has filtered. -/
structure QueryOrder (order : List Entry -> List Entry) : Prop where
  permuted : forall entries, (order entries).Perm entries
  filtered : forall keep entries, order (entries.filter keep) = (order entries).filter keep

section Rows

variable {Row : Type} {rows : List Row} {change : Row -> Row} {name : Row -> Entry} {waits : Row -> Bool}
variable {order : List Row -> List Row}

/-- The names of the rows that wait, in the order of the query. -/
def waiting (name : Row -> Entry) (waits : Row -> Bool) (order : List Row -> List Row) (rows : List Row) :
    List Entry :=
  (order (rows.filter waits)).map name

theorem nodup_waiting (ordered : QueryOrder order) (distinct : (rows.map name).Nodup) :
    (waiting name waits order rows).Nodup := by
  have sameNames := ((ordered.permuted (rows.filter waits)).map name).nodup_iff
  rw [waiting, sameNames]
  exact distinct.sublist (List.filter_sublist.map name)

/-- Rows that are changed in their places leave the backlog, or stay where they
are. -/
theorem waiting_of_change [DecidableEq Entry] (ordered : QueryOrder order)
    (mapped : forall some : List Row, (forall row, row ∈ some -> row ∈ rows) ->
      order (some.map change) = (order some).map change)
    (distinct : (rows.map name).Nodup) (named : forall row, row ∈ rows -> name (change row) = name row)
    (arrives : forall row, row ∈ rows -> waits (change row) = true -> waits row = true)
    (untouched : forall row, row ∈ rows -> name row ∉ (waiting name waits order rows).take limit ->
      change row = row) :
    Exists fun keep : Entry -> Bool =>
      waiting name waits order (rows.map change) = (waiting name waits order rows).filter keep ∧
      forall entry, entry ∈ (waiting name waits order rows).drop limit -> keep entry = true := by
  let keep : Entry -> Bool := fun entry => !rows.any fun row => name row = entry && !waits (change row)
  have keeps : forall row, row ∈ rows -> keep (name row) = waits (change row) := by
    intro row member
    cases stays : waits (change row) with
    | true =>
      simp only [keep, Bool.not_eq_true', List.any_eq_false, Bool.and_eq_true, decide_eq_true_eq, not_and]
      intro other otherMember sameName
      rw [List.inj_on_of_nodup_map distinct otherMember member sameName, stays]
      nofun
    | false =>
      simp only [keep, Bool.not_eq_false', List.any_eq_true]
      exact ⟨row, member, by simp only [stays, decide_true, Bool.not_false, Bool.and_self]⟩
  refine ⟨keep, ?_, ?_⟩
  · have left : (rows.map change).filter waits =
        ((rows.filter waits).filter fun row => keep (name row)).map change := by
      rw [List.filter_map, List.filter_filter]
      congr 1
      apply List.filter_congr
      intro row member
      rw [Function.comp_apply, keeps row member]
      cases stays : waits (change row) with
      | true => rw [arrives row member stays, Bool.and_self]
      | false => rw [Bool.false_and]
    have subset : forall row, row ∈ (rows.filter waits).filter (fun row => keep (name row)) -> row ∈ rows :=
      fun row member => (List.mem_filter.mp (List.mem_filter.mp member).1).1
    rw [waiting, left, mapped _ subset, ordered.filtered, List.map_map, waiting, List.filter_map]
    apply List.map_congr_left
    intro row member
    have inRows := (ordered.permuted _).mem_iff.mp (List.mem_filter.mp member).1
    exact named row (List.mem_filter.mp inRows).1
  · intro entry member
    rcases List.mem_map.mp (List.mem_of_mem_drop member) with ⟨row, inOrder, rfl⟩
    have inFiltered := List.mem_filter.mp ((ordered.permuted _).mem_iff.mp inOrder)
    have beyond : name row ∉ (waiting name waits order rows).take limit :=
      fun taken => List.disjoint_take_drop (nodup_waiting ordered distinct) (Nat.le_refl limit) taken member
    rw [keeps row inFiltered.1, untouched row inFiltered.1 beyond, inFiltered.2]

end Rows

end Sweep

/-! ## Jobs -/

/-- A job works on a store by runs.  What a run meets besides the store is its
turn. -/
structure Job (Store Turn Entry : Type) where
  limit : Nat
  backlog : Store -> List Entry
  run : Turn -> Store -> Store

namespace Job

variable {Store Turn Entry : Type} (job : Job Store Turn Entry)

/-- The store before each run. -/
def states (turns : Nat -> Turn) (store : Store) : Nat -> Store
  | 0 => store
  | runs + 1 => job.run (turns runs) (states turns store runs)

/-- What a run takes. -/
def attempts (store : Store) : List Entry := (job.backlog store).take job.limit

/-- An entry that is attempted stays in the backlog if it is one of those that
keep failing, and leaves it otherwise. -/
def Assigned (fails : Entry -> Bool) (turns : Nat -> Turn) (store : Store) : Prop :=
  forall run entry, entry ∈ job.attempts (job.states turns store run) ->
    (entry ∈ job.backlog (job.states turns store (run + 1)) ↔ fails entry = true)

def AttemptedWithin (turns : Nat -> Turn) (store : Store) (runs : Nat) (entry : Entry) : Prop :=
  Exists fun run => run < runs ∧ entry ∈ job.attempts (job.states turns store run)

/-- The runs that a backlog needs when no entry is taken twice. -/
def runsFor (store : Store) : Nat := ((job.backlog store).length + job.limit - 1) / job.limit

def InTime (turns : Nat -> Turn) (store : Store) : Prop :=
  forall entry, entry ∈ job.backlog store -> job.AttemptedWithin turns store (job.runsFor store) entry

/-- The entries that keep failing leave the runs room for the whole backlog. -/
def HasRoom (fails : Entry -> Bool) (store : Store) : Prop :=
  (job.backlog store).length ≤ Sweep.passed job.limit fails (job.backlog store) (job.runsFor store)

/-- Nothing enters the backlog or moves in it, and only what was attempted
leaves it. -/
structure Sweeps (invariant : Store -> Prop) : Prop where
  kept : forall turn store, invariant store -> invariant (job.run turn store)
  distinct : forall store, invariant store -> (job.backlog store).Nodup
  leaves : forall turn store, invariant store -> Exists fun keep : Entry -> Bool =>
    job.backlog (job.run turn store) = (job.backlog store).filter keep ∧
    forall entry, entry ∈ (job.backlog store).drop job.limit -> keep entry = true

variable {job} {invariant : Store -> Prop} {fails : Entry -> Bool} {turns : Nat -> Turn} {store : Store}

theorem Sweeps.reached (sweeps : job.Sweeps invariant) (initially : invariant store) (runs : Nat) :
    invariant (job.states turns store runs) := by
  induction runs with
  | zero => exact initially
  | succ runs inductionHypothesis => exact sweeps.kept _ _ inductionHypothesis

theorem Sweeps.backlog (sweeps : job.Sweeps invariant) (initially : invariant store)
    (assigned : job.Assigned fails turns store) (runs : Nat) :
    job.backlog (job.states turns store runs) = Sweep.after job.limit fails (job.backlog store) runs := by
  induction runs with
  | zero => rfl
  | succ runs inductionHypothesis =>
    let before := job.states turns store runs
    rcases sweeps.leaves (turns runs) before (sweeps.reached initially runs) with ⟨keep, left, beyond⟩
    have isLeft : job.backlog (job.states turns store (runs + 1)) = (job.backlog before).filter keep := left
    have window : forall entry, entry ∈ (job.backlog before).take job.limit -> keep entry = fails entry := by
      intro entry member
      have stays := assigned runs entry member
      rw [isLeft, List.mem_filter] at stays
      rw [Bool.eq_iff_iff, ← stays]
      constructor
      · intro kept
        exact ⟨List.mem_of_mem_take member, kept⟩
      · intro both
        exact both.2
    rw [isLeft, Sweep.once_of_filter beyond window, Sweep.after, ← inductionHypothesis]

theorem Sweeps.attempted_iff (sweeps : job.Sweeps invariant) (initially : invariant store)
    (assigned : job.Assigned fails turns store) (runs : Nat) (entry : Entry) :
    job.AttemptedWithin turns store runs entry ↔
      Sweep.Attempted job.limit fails (job.backlog store) runs entry := by
  apply exists_congr
  intro run
  rw [attempts, sweeps.backlog initially assigned]

/-- A backlog is attempted in time exactly when there is room. -/
theorem Sweeps.inTime_iff (sweeps : job.Sweeps invariant) (initially : invariant store)
    (assigned : job.Assigned fails turns store) : job.InTime turns store ↔ job.HasRoom fails store := by
  rw [HasRoom, ← Sweep.all_attempted_iff job.limit fails (sweeps.distinct store initially)]
  apply forall_congr'
  intro entry
  rw [sweeps.attempted_iff initially assigned]

/-- An entry is attempted at some time exactly when fewer entries before it keep
failing than a run takes. -/
theorem Sweeps.ever_attempted_iff (sweeps : job.Sweeps invariant) (initially : invariant store)
    (assigned : job.Assigned fails turns store) {entry : Entry}
    (isBacklog : job.backlog store = before ++ entry :: rest) :
    (Exists fun runs => job.AttemptedWithin turns store runs entry) ↔ before.countP fails < job.limit := by
  have distinct := sweeps.distinct store initially
  rw [isBacklog] at distinct
  rw [← Sweep.ever_attempted_iff job.limit fails distinct]
  apply exists_congr
  intro runs
  rw [sweeps.attempted_iff initially assigned, isBacklog]

/-- What is said of a job for an assignment: all entries are attempted in time
exactly when they have room, and one of them at all exactly when too few entries
in front of it keep failing. -/
structure Swept (job : Job Store Turn Entry) (fails : Entry -> Bool) (turns : Nat -> Turn) (store : Store) :
    Prop where
  inTime : job.InTime turns store ↔ job.HasRoom fails store
  ever : forall before entry rest, job.backlog store = before ++ entry :: rest ->
    ((Exists fun runs => job.AttemptedWithin turns store runs entry) ↔ before.countP fails < job.limit)

theorem Sweeps.swept (sweeps : job.Sweeps invariant) (initially : invariant store)
    (assigned : job.Assigned fails turns store) : job.Swept fails turns store where
  inTime := sweeps.inTime_iff initially assigned
  ever _ _ _ isBacklog := sweeps.ever_attempted_iff initially assigned isBacklog

/-! ### Runs that change nothing -/

theorem states_fixed (fixed : forall run, job.run (turns run) store = store) (runs : Nat) :
    job.states turns store runs = store := by
  induction runs with
  | zero => rfl
  | succ runs inductionHypothesis => rw [states, inductionHypothesis, fixed]

theorem assigned_of_fixed (fixed : forall run, job.run (turns run) store = store)
    (failing : forall entry, entry ∈ job.attempts store -> fails entry = true) :
    job.Assigned fails turns store := by
  intro run entry attempted
  rw [states_fixed fixed] at attempted ⊢
  exact iff_of_true (List.mem_of_mem_take attempted) (failing entry attempted)

theorem states_succ (runs : Nat) :
    job.states turns store (runs + 1) = job.states (fun run => turns (run + 1)) (job.run (turns 0) store) runs := by
  induction runs with
  | zero => rfl
  | succ runs inductionHypothesis =>
    rw [states, inductionHypothesis]
    rfl

/-- An assignment is one for the first run and for those that follow. -/
theorem assigned_of_first
    (first : forall entry, entry ∈ job.attempts store ->
      (entry ∈ job.backlog (job.run (turns 0) store) ↔ fails entry = true))
    (later : job.Assigned fails (fun run => turns (run + 1)) (job.run (turns 0) store)) :
    job.Assigned fails turns store := by
  intro run entry attempted
  cases run with
  | zero => exact first entry attempted
  | succ run =>
    rw [states_succ] at attempted ⊢
    exact later run entry attempted

/-- An entry that does not keep failing is never attempted. -/
structure Starved (job : Job Store Turn Entry) (fails : Entry -> Bool) (turns : Nat -> Turn) (store : Store)
    (entry : Entry) : Prop where
  assigned : job.Assigned fails turns store
  waits : entry ∈ job.backlog store
  recoverable : fails entry = false
  never : forall runs, ¬ job.AttemptedWithin turns store runs entry

theorem starved_of_fixed {entry : Entry} (fixed : forall run, job.run (turns run) store = store)
    (failing : forall entry, entry ∈ job.attempts store -> fails entry = true)
    (waits : entry ∈ job.backlog store) (recoverable : fails entry = false) :
    job.Starved fails turns store entry where
  assigned := assigned_of_fixed fixed failing
  waits
  recoverable
  never := by
    rintro runs ⟨run, _, attempted⟩
    rw [states_fixed fixed] at attempted
    rw [failing entry attempted] at recoverable
    cases recoverable

end Job

end Foundation
end DigitalSolutions
