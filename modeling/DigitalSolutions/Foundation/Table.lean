import Mathlib

namespace DigitalSolutions
namespace Foundation

/-!
# Tables with uniqueness constraints

A relational table is a list of rows in insertion order.  Each row type says
which entries it occupies in the unique indexes of its table; a column that
holds NULL occupies none.  A table carries the proof that no two of its rows
occupy one entry, so a state that the database would have refused cannot be
written down at all.

Writes come in three strengths.  An update that keeps the entries of every
row cannot fail and needs no check.  An insertion, and an update that moves a
row to another entry, are refused when the entry is already taken.
-/

/-- The entries a row occupies in the unique indexes of its table. -/
class Keyed (Row : Type) (Key : outParam Type) where
  keys : Row -> List Key

variable {Row Key : Type} [Keyed Row Key]

/-- No unique index would hold both rows. -/
def Apart (left right : Row) : Prop :=
  forall key, key ∈ Keyed.keys left -> key ∉ Keyed.keys right

instance : Std.Symm (Apart : Row -> Row -> Prop) :=
  ⟨fun _ _ apart key inRight inLeft => apart key inLeft inRight⟩

instance [DecidableEq Key] (left right : Row) : Decidable (Apart left right) :=
  inferInstanceAs (Decidable (∀ key ∈ Keyed.keys left, key ∉ Keyed.keys right))

/-- Rows in insertion order, pairwise apart in every unique index. -/
structure Table (Row : Type) {Key : Type} [Keyed Row Key] where
  rows : List Row
  consistent : rows.Pairwise Apart

namespace Table

variable (table : Table Row)

def empty : Table Row := ⟨[], List.Pairwise.nil⟩

instance : EmptyCollection (Table Row) := ⟨empty⟩

instance : Membership Row (Table Row) := ⟨fun table row => row ∈ table.rows⟩

@[simp] theorem mem_rows {row : Row} : row ∈ table.rows ↔ row ∈ table := Iff.rfl

instance [DecidableEq Row] (row : Row) (table : Table Row) : Decidable (row ∈ table) :=
  inferInstanceAs (Decidable (row ∈ table.rows))

@[simp] theorem rows_empty : (∅ : Table Row).rows = [] := rfl

@[simp] theorem not_mem_empty (row : Row) : row ∉ (∅ : Table Row) := List.not_mem_nil

instance [DecidableEq Row] : DecidableEq (Table Row) := fun left right =>
  decidable_of_iff (left.rows = right.rows) (by cases left; cases right; simp)

/-- The rows a WHERE clause selects, in table order. -/
def select (where' : Row -> Bool) : List Row := table.rows.filter where'

@[simp] theorem mem_select {where' : Row -> Bool} {row : Row} :
    row ∈ table.select where' ↔ row ∈ table ∧ where' row = true :=
  List.mem_filter

/-- Two rows that occupy a common entry are the same row. -/
theorem eq_of_common_key {left right : Row} {key : Key} (leftMember : left ∈ table)
    (rightMember : right ∈ table) (inLeft : key ∈ Keyed.keys left)
    (inRight : key ∈ Keyed.keys right) : left = right := by
  by_contra different
  have apart : Apart left right :=
    table.consistent.forall leftMember rightMember different
  exact apart key inLeft inRight

/-- A unique column has each value once. -/
theorem nodup_column {Value : Type} {column : Row -> Value} {key : Value -> Key}
    (unique : forall row : Row, key (column row) ∈ Keyed.keys row) : (table.rows.map column).Nodup := by
  rw [List.Nodup, List.pairwise_map]
  refine table.consistent.imp (fun {left right} apart same => ?_)
  exact apart (key (column left)) (unique left) (same ▸ unique right)

/-- A WHERE clause on one entry of a unique index selects at most one row. -/
theorem select_le_one {where' : Row -> Bool} (key : Key)
    (occupied : forall row : Row, where' row = true -> key ∈ Keyed.keys row) :
    (table.select where').length ≤ 1 := by
  have apart : (table.select where').Pairwise Apart := table.consistent.filter where'
  cases selected : table.select where' with
  | nil => exact Nat.zero_le 1
  | cons first rest =>
    cases rest with
    | nil => exact Nat.le_refl 1
    | cons second others =>
      have chosen : forall row, row ∈ first :: second :: others -> key ∈ Keyed.keys row := by
        intro row member
        rw [← selected] at member
        exact occupied row (table.mem_select.mp member).2
      rw [selected] at apart
      have both := (List.pairwise_cons.mp apart).1 second List.mem_cons_self
      have inFirst := chosen first List.mem_cons_self
      have inSecond := chosen second (List.mem_cons_of_mem first List.mem_cons_self)
      exact absurd inSecond (both key inFirst)

section Lookup

variable [DecidableEq Key]

/-- A read through a unique index. -/
def lookup (key : Key) : Option Row := table.rows.find? (fun row => key ∈ Keyed.keys row)

theorem lookup_eq_some {key : Key} {row : Row} :
    table.lookup key = some row ↔ row ∈ table ∧ key ∈ Keyed.keys row := by
  constructor
  · intro found
    exact ⟨List.mem_of_find?_eq_some found, by simpa using List.find?_some found⟩
  · rintro ⟨member, occupied⟩
    cases found : table.lookup key with
    | none =>
      have absent := List.find?_eq_none.mp found row member
      simp only [occupied, decide_true, not_true_eq_false] at absent
    | some other =>
      have otherMember := List.mem_of_find?_eq_some found
      have otherOccupied : key ∈ Keyed.keys other := by simpa using List.find?_some found
      rw [table.eq_of_common_key member otherMember occupied otherOccupied]

theorem lookup_mem {key : Key} {row : Row} (found : table.lookup key = some row) : row ∈ table :=
  (table.lookup_eq_some.mp found).1

theorem lookup_key {key : Key} {row : Row} (found : table.lookup key = some row) :
    key ∈ Keyed.keys row :=
  (table.lookup_eq_some.mp found).2

theorem lookup_of_mem {key : Key} {row : Row} (member : row ∈ table)
    (occupied : key ∈ Keyed.keys row) : table.lookup key = some row :=
  table.lookup_eq_some.mpr ⟨member, occupied⟩

theorem lookup_eq_none {key : Key} :
    table.lookup key = none ↔ forall row, row ∈ table -> key ∉ Keyed.keys row := by
  unfold lookup
  rw [List.find?_eq_none]
  simp only [decide_eq_true_eq, mem_rows]

@[simp] theorem lookup_empty (key : Key) : (∅ : Table Row).lookup key = none := rfl

end Lookup

section Update

private theorem keys_ite {where' : Row -> Bool} {set : Row -> Row}
    (keeps : forall row : Row, where' row = true -> Keyed.keys (set row) = Keyed.keys row)
    (row : Row) : Keyed.keys (if where' row then set row else row) = Keyed.keys row := by
  split
  · rename_i chosen
    exact keeps row chosen
  · rfl

/-- UPDATE … SET … WHERE … that keeps the entries of every row it selects. -/
def update (where' : Row -> Bool) (set : Row -> Row)
    (keeps : forall row : Row, where' row = true -> Keyed.keys (set row) = Keyed.keys row :=
      by intros; rfl) : Table Row where
  rows := table.rows.map (fun row => if where' row then set row else row)
  consistent := by
    rw [List.pairwise_map]
    refine table.consistent.imp (fun {left right} apart => ?_)
    intro key
    rw [keys_ite keeps, keys_ite keeps]
    exact apart key

variable {where' : Row -> Bool} {set : Row -> Row}
variable {keeps : forall row : Row, where' row = true -> Keyed.keys (set row) = Keyed.keys row}

theorem mem_update {row : Row} :
    row ∈ table.update where' set keeps ↔
      Exists fun old => old ∈ table ∧ (if where' old then set old else old) = row :=
  List.mem_map

theorem rows_update {condition : Row -> Prop} [DecidablePred condition]
    (keeps : forall row : Row, decide (condition row) = true -> Keyed.keys (set row) = Keyed.keys row :=
      by intros; rfl) :
    (table.update (fun row => decide (condition row)) set keeps).rows =
      table.rows.map fun row => if condition row then set row else row := by
  unfold update
  simp only [decide_eq_true_eq]

theorem mem_of_rows {before after : Table Row} {change : Row -> Row}
    (wrote : after.rows = before.rows.map change) {row : Row} :
    row ∈ after ↔ Exists fun old => old ∈ before ∧ change old = row := by
  rw [← mem_rows, wrote]
  exact List.mem_map

theorem lookup_update [DecidableEq Key] (key : Key) :
    (table.update where' set keeps).lookup key =
      (table.lookup key).map (fun row => if where' row then set row else row) := by
  unfold lookup update
  rw [List.find?_map]
  congr 2
  funext row
  simp only [Function.comp, keys_ite keeps]

/-- An update that does not select the row of an entry leaves a read through
that entry alone. -/
theorem lookup_of_unselected [DecidableEq Key] {before after : Table Row} {key : Key}
    (wrote : after.rows = before.rows.map (fun row => if where' row then set row else row))
    (keeps : forall row : Row, where' row = true -> Keyed.keys (set row) = Keyed.keys row)
    (unselected : forall row, before.lookup key = some row -> where' row = false) :
    after.lookup key = before.lookup key := by
  have isUpdate : after = before.update where' set keeps := by
    cases after
    simp only [update, mk.injEq]
    exact wrote
  rw [isUpdate, lookup_update]
  cases found : before.lookup key with
  | none => rfl
  | some row => simp only [Option.map_some, unselected row found, Bool.false_eq_true, if_false]

end Update

section Columns

variable {Value : Type}

/-- The later state of a table has the same rows as far as a column shows. -/
def SameColumn (column : Row -> Value) (before after : Table Row) : Prop :=
  after.rows.map column = before.rows.map column

theorem SameColumn.refl (column : Row -> Value) (table : Table Row) : SameColumn column table table :=
  rfl

theorem SameColumn.trans {column : Row -> Value} {first second third : Table Row}
    (left : SameColumn column first second) (right : SameColumn column second third) :
    SameColumn column first third :=
  Eq.trans right left

/-- A row of the later state was there before, up to what the column hides. -/
theorem SameColumn.before {column : Row -> Value} {before after : Table Row}
    (same : SameColumn column before after) {row : Row} (member : row ∈ after) :
    Exists fun old => old ∈ before ∧ column old = column row := by
  have inColumn : column row ∈ before.rows.map column := same ▸ List.mem_map_of_mem member
  exact List.mem_map.mp inColumn

/-- A row of the earlier state is still there, up to what the column hides. -/
theorem SameColumn.after {column : Row -> Value} {before after : Table Row}
    (same : SameColumn column before after) {old : Row} (member : old ∈ before) :
    Exists fun row => row ∈ after ∧ column row = column old := by
  have inColumn : column old ∈ after.rows.map column :=
    same.symm ▸ (List.mem_map_of_mem member : column old ∈ before.rows.map column)
  exact List.mem_map.mp inColumn

/-- What shows through a column shows through what is made of it. -/
theorem SameColumn.map {Shown : Type} {column : Row -> Value} {before after : Table Row}
    (same : SameColumn column before after) (shown : Value -> Shown) :
    SameColumn (fun row => shown (column row)) before after := by
  have mapped := congrArg (List.map shown) same
  rw [List.map_map, List.map_map] at mapped
  exact mapped

/-- Every row is still there, up to what the column hides, and others may have
been added. -/
def Grows (column : Row -> Value) (before after : Table Row) : Prop :=
  forall old, old ∈ before -> Exists fun row => row ∈ after ∧ column row = column old

theorem Grows.refl (column : Row -> Value) (table : Table Row) : Grows column table table :=
  fun old member => ⟨old, member, rfl⟩

theorem Grows.trans {column : Row -> Value} {first second third : Table Row}
    (left : Grows column first second) (right : Grows column second third) :
    Grows column first third := by
  intro old member
  rcases left old member with ⟨middle, middleMember, sameMiddle⟩
  rcases right middle middleMember with ⟨row, rowMember, sameRow⟩
  exact ⟨row, rowMember, sameRow.trans sameMiddle⟩

theorem SameColumn.grows {column : Row -> Value} {before after : Table Row}
    (same : SameColumn column before after) : Grows column before after :=
  fun _ member => same.after member

omit [Keyed Row Key] in
/-- Rows that agree under a mask agree in everything the mask leaves visible. -/
theorem eq_of_mask {mask : Row -> Row} {shown : Row -> Value} {left right : Row}
    (same : mask left = mask right) (visible : forall row, shown (mask row) = shown row) :
    shown left = shown right := by
  rw [← visible left, same, visible right]

/-- An update does not show in a column it does not set. -/
theorem sameColumn_update {column : Row -> Value} {where' : Row -> Bool} {set : Row -> Row}
    {before after : Table Row}
    (wrote : after.rows = before.rows.map (fun row => if where' row then set row else row))
    (hidden : forall row, column (set row) = column row) : SameColumn column before after := by
  unfold SameColumn
  rw [wrote, List.map_map]
  refine List.map_congr_left (fun row _ => ?_)
  by_cases chosen : where' row = true
  · simp only [Function.comp, chosen, if_true, hidden]
  · simp only [Function.comp, chosen, Bool.false_eq_true, if_false]

end Columns

section Insert

variable [DecidableEq Key]

/-- Whether every entry of a new row is still free. -/
def Fits (row : Row) : Prop := forall other, other ∈ table.rows -> Apart other row

instance (row : Row) : Decidable (table.Fits row) :=
  inferInstanceAs (Decidable (∀ other ∈ table.rows, Apart other row))

/-- INSERT; refused when one of the new row's entries is taken. -/
def insert (row : Row) : Option (Table Row) :=
  if fits : table.Fits row then
    some ⟨table.rows ++ [row], by
      rw [List.pairwise_append]
      refine ⟨table.consistent, List.pairwise_singleton _ _, fun other member new inNew => ?_⟩
      rw [List.mem_singleton.mp inNew]
      exact fits other member⟩
  else none

/-- INSERT … ON CONFLICT DO NOTHING, with the number of inserted rows. -/
def insertOrIgnore (row : Row) : Table Row × Nat :=
  match table.insert row with
  | some inserted => (inserted, 1)
  | none => (table, 0)

variable {table} {row : Row} {inserted : Table Row}

theorem rows_insert (done : table.insert row = some inserted) :
    inserted.rows = table.rows ++ [row] := by
  unfold insert at done
  split at done
  · cases done
    rfl
  · cases done

theorem fits_of_insert (done : table.insert row = some inserted) : table.Fits row := by
  unfold insert at done
  split at done
  · assumption
  · cases done

theorem insert_isSome : (table.insert row).isSome = true ↔ table.Fits row := by
  unfold insert
  split <;> simp_all

theorem insert_eq_none : table.insert row = none ↔ ¬ table.Fits row := by
  rw [← insert_isSome, Option.isSome_iff_ne_none, not_not]

theorem mem_insert (done : table.insert row = some inserted) {other : Row} :
    other ∈ inserted ↔ other ∈ table ∨ other = row := by
  rw [← mem_rows, rows_insert done, List.mem_append, List.mem_singleton, mem_rows]

theorem lookup_insert (done : table.insert row = some inserted) (key : Key) :
    inserted.lookup key = if key ∈ Keyed.keys row then some row else table.lookup key := by
  have fits := fits_of_insert done
  unfold lookup
  rw [rows_insert done, List.find?_append]
  split
  · rename_i occupied
    have absent : table.rows.find? (fun other => key ∈ Keyed.keys other) = none := by
      rw [List.find?_eq_none]
      intro other member
      simpa using fun inOther => fits other member key inOther occupied
    simp only [absent, List.find?_cons, occupied, decide_true, Option.none_or]
  · rename_i free
    simp only [List.find?_cons, free, decide_false, List.find?_nil, Option.or_none]

/-- An insertion keeps every row. -/
theorem grows_insert {Value : Type} {column : Row -> Value} (done : table.insert row = some inserted) :
    Grows column table inserted :=
  fun old member => ⟨old, (mem_insert done).mpr (Or.inl member), rfl⟩

/-- A taken entry refuses every row that would occupy it. -/
theorem insert_eq_none_of_lookup {key : Key} {holder : Row}
    (found : table.lookup key = some holder) (wanted : key ∈ Keyed.keys row) :
    table.insert row = none := by
  rw [insert_eq_none]
  intro fits
  exact fits holder (table.lookup_mem found) key (table.lookup_key found) wanted

/-- The entries of an accepted row were free. -/
theorem lookup_eq_none_of_insert (done : table.insert row = some inserted) {key : Key}
    (wanted : key ∈ Keyed.keys row) : table.lookup key = none := by
  cases found : table.lookup key with
  | none => rfl
  | some holder =>
    have refused := insert_eq_none_of_lookup found wanted
    rw [done] at refused
    cases refused

/-- A row whose entries are all free is accepted. -/
theorem insert_of_free (free : forall key, key ∈ Keyed.keys row -> table.lookup key = none) :
    Exists fun inserted => table.insert row = some inserted := by
  have fits : table.Fits row := by
    intro other member key inOther inRow
    exact table.lookup_eq_none.mp (free key inRow) other member inOther
  exact Option.isSome_iff_exists.mp (insert_isSome.mpr fits)

end Insert

section Selection

variable {where' : Row -> Bool}

/-- A selection that no written row belongs to, before or after, stays as it is. -/
theorem select_of_rows {before after : Table Row} {change : Row -> Row}
    (wrote : after.rows = before.rows.map change)
    (same : forall row, row ∈ before -> where' (change row) = where' row)
    (fixed : forall row, row ∈ before -> where' row = true -> change row = row) :
    after.select where' = before.select where' := by
  unfold select
  rw [wrote, List.filter_map]
  have chosen : before.rows.filter (where' ∘ change) = before.rows.filter where' :=
    List.filter_congr fun row member => same row member
  rw [chosen]
  refine (List.map_congr_left fun row member => ?_).trans (List.map_id _)
  rw [List.mem_filter] at member
  exact fixed row member.1 member.2

theorem select_insert [DecidableEq Key] {table inserted : Table Row} {row : Row}
    (done : table.insert row = some inserted) (outside : where' row = false) :
    inserted.select where' = table.select where' := by
  unfold select
  have none' : [row].filter where' = [] := by
    rw [List.filter_cons_of_neg (Bool.eq_false_iff.mp outside), List.filter_nil]
  rw [rows_insert done, List.filter_append, none', List.append_nil]

end Selection

section Delete

/-- DELETE … WHERE: the rows that are left. -/
def delete (where' : Row -> Bool) : Table Row :=
  ⟨table.rows.filter fun row => !where' row, table.consistent.filter _⟩

theorem mem_delete {where' : Row -> Bool} {row : Row} :
    row ∈ table.delete where' ↔ row ∈ table ∧ where' row = false := by
  rw [← mem_rows, delete, List.mem_filter, mem_rows, Bool.not_eq_true']

end Delete

section Amend

variable [DecidableEq Key]

/-- UPDATE that may move rows to other entries of a unique index; refused
when two rows would then occupy one entry. -/
def amend (where' : Row -> Bool) (set : Row -> Row) : Option (Table Row) :=
  if consistent : (table.rows.map (fun row => if where' row then set row else row)).Pairwise Apart then
    some ⟨table.rows.map (fun row => if where' row then set row else row), consistent⟩
  else none

theorem rows_amend {where' : Row -> Bool} {set : Row -> Row} {amended : Table Row}
    (done : table.amend where' set = some amended) :
    amended.rows = table.rows.map (fun row => if where' row then set row else row) := by
  unfold amend at done
  split at done
  · cases done
    rfl
  · cases done

theorem mem_amend {where' : Row -> Bool} {set : Row -> Row} {amended : Table Row}
    (done : table.amend where' set = some amended) {row : Row} :
    row ∈ amended ↔ Exists fun old => old ∈ table ∧ (if where' old then set old else old) = row :=
  mem_of_rows (table.rows_amend done)

end Amend

end Table

end Foundation
end DigitalSolutions
