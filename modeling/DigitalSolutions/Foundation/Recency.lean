import Mathlib

namespace DigitalSolutions
namespace Foundation

/-!
# The most recent of several items

Items carry the number of their time, or nothing where it is not a number.  A
comparison with such a time is never true.  Two ways to find the most recent
item are common: to sort the items by descending time and take the first, and
to go through the items and replace the one found so far.  They differ where
times are equal, and where one is missing.
-/

/-- `first < second`, for two times. -/
def Before : Option Int -> Option Int -> Prop
  | some first, some second => first < second
  | _, _ => False

/-- `first <= second`. -/
def UpTo : Option Int -> Option Int -> Prop
  | some first, some second => first ≤ second
  | _, _ => False

instance (first second : Option Int) : Decidable (Before first second) := by
  unfold Before
  split <;> infer_instance

instance (first second : Option Int) : Decidable (UpTo first second) := by
  unfold UpTo
  split <;> infer_instance

@[simp] theorem before_some (first second : Int) : Before (some first) (some second) ↔ first < second :=
  Iff.rfl

@[simp] theorem upTo_some (first second : Int) : UpTo (some first) (some second) ↔ first ≤ second :=
  Iff.rfl

@[simp] theorem not_before_none (first : Option Int) : ¬ Before first none := by
  cases first <;> exact id

@[simp] theorem not_none_before (second : Option Int) : ¬ Before none second := id

@[simp] theorem not_upTo_none (first : Option Int) : ¬ UpTo first none := by
  cases first <;> exact id

@[simp] theorem not_none_upTo (second : Option Int) : ¬ UpTo none second := id

@[simp] theorem not_before_self (time : Option Int) : ¬ Before time time := by
  cases time <;> simp

theorem not_before_of_not_upTo {first second : Option Int} (apart : ¬ UpTo first second) :
    ¬ Before first second := by
  cases first <;> cases second <;> simp_all only [upTo_some, before_some, not_before_none,
    not_none_before, not_false_eq_true]
  omega

theorem not_before_of_upTo {first second third : Option Int} (ordered : UpTo first second)
    (unsurpassed : ¬ Before first third) : ¬ Before second third := by
  cases first <;> cases second <;> cases third <;> simp_all only [upTo_some, before_some, not_before_none,
    not_upTo_none, not_none_upTo, not_false_eq_true]
  omega

variable {Item : Type} (time : Item -> Option Int)
variable {items : List Item} {item : Item}

/-- No item has a later time. -/
def Unsurpassed (items : List Item) (item : Item) : Prop :=
  item ∈ items ∧ forall other, other ∈ items -> ¬ Before (time item) (time other)

/-- The items can be rearranged so that those of every key stand in an order of
the key's own. -/
theorem exists_order_of_keys {Key : Type} [DecidableEq Key] (key : Item -> Option Key)
    (good : Key -> List Item -> Prop) (items : List Item) (keys : List Key)
    (each : forall one, one ∈ keys -> Exists fun order : List Item =>
      order.Perm (items.filter fun item => key item = some one) ∧ good one order) :
    Exists fun order : List Item => order.Perm items ∧
      (forall one, one ∈ keys -> good one (order.filter fun item => key item = some one)) ∧
      forall one, one ∉ keys ->
        (order.filter fun item => key item = some one) = items.filter fun item => key item = some one := by
  induction keys with
  | nil => exact ⟨items, .refl _, by simp, by simp⟩
  | cons first rest ih =>
    obtain ⟨order, same, goods, others⟩ := ih fun one member => each one (by simp [member])
    by_cases repeated : first ∈ rest
    · refine ⟨order, same, ?_, ?_⟩
      · intro one member
        obtain rfl | member := List.mem_cons.mp member
        · exact goods one repeated
        · exact goods one member
      · intro one apart
        exact others one fun member => apart (by simp [member])
    · obtain ⟨front, frontSame, frontGood⟩ := each first (by simp)
      have ofFirst : forall item, item ∈ front -> key item = some first := by
        intro item member
        simpa using (List.mem_filter.mp (frontSame.mem_iff.mp member)).2
      have keep (one : Key) (apart : one ≠ first) :
          ((front ++ order.filter fun item => key item ≠ some first).filter fun item => key item = some one) =
            order.filter fun item => key item = some one := by
        rw [List.filter_append, List.filter_filter]
        have none : (front.filter fun item => key item = some one) = [] := by
          rw [List.filter_eq_nil_iff]
          intro item member
          simp [ofFirst item member, apart.symm]
        rw [none, List.nil_append]
        apply List.filter_congr
        intro item _
        by_cases ofOne : key item = some one <;> simp [ofOne, apart]
      refine ⟨front ++ order.filter (fun item => key item ≠ some first), ?_, ?_, ?_⟩
      · refine List.Perm.trans ?_ same
        rw [← others first repeated] at frontSame
        refine (frontSame.append_right _).trans ?_
        convert List.filter_append_perm (fun item => decide (key item = some first)) order using 3
        simp
      · intro one member
        obtain rfl | inRest := List.mem_cons.mp member
        · rw [List.filter_append, List.filter_eq_self.mpr (by simpa using ofFirst), List.filter_filter]
          have none : (order.filter fun item => decide (key item = some one) && decide (key item ≠ some one)) = [] := by
            rw [List.filter_eq_nil_iff]
            intro item _
            simp
          rw [none, List.append_nil]
          exact frontGood
        · rw [keep one (by rintro rfl; exact repeated inRest)]
          exact goods one inRest
      · intro one apart
        rw [keep one (by rintro rfl; exact apart (by simp))]
        exact others one fun member => apart (by simp [member])

/-! ## Going through the items -/

/-- One turn of the loop: an item replaces one that is not later. -/
def replaceLatest (found : Option Item) (item : Item) : Option Item :=
  match found with
  | none => some item
  | some existing => if UpTo (time existing) (time item) then some item else some existing

def latestOf (items : List Item) : Option Item := items.foldl (replaceLatest time) none

variable {time}

theorem Unsurpassed.perm {others : List Item} (unsurpassed : Unsurpassed time items item)
    (same : items.Perm others) : Unsurpassed time others item := by
  refine ⟨same.mem_iff.mp unsurpassed.1, ?_⟩
  intro other member
  exact unsurpassed.2 other (same.mem_iff.mpr member)

/-- Where there is an item, there is one that no other surpasses. -/
theorem Unsurpassed.replaceLatest {existing : Item} (unsurpassed : Unsurpassed time items existing)
    (last : Item) :
    Exists fun item => Foundation.replaceLatest time (some existing) last = some item ∧
      Unsurpassed time (items ++ [last]) item := by
  by_cases ordered : UpTo (time existing) (time last)
  · refine ⟨last, if_pos ordered, by simp, ?_⟩
    intro other member
    obtain member | same := List.mem_append.mp member
    · exact not_before_of_upTo ordered (unsurpassed.2 other member)
    · rw [List.mem_singleton.mp same]
      exact not_before_self _
  · refine ⟨existing, if_neg ordered, by simp [unsurpassed.1], ?_⟩
    intro other member
    obtain member | same := List.mem_append.mp member
    · exact unsurpassed.2 other member
    · rw [List.mem_singleton.mp same]
      exact not_before_of_not_upTo ordered

theorem latestOf_append (items : List Item) (item : Item) :
    latestOf time (items ++ [item]) = replaceLatest time (latestOf time items) item := by
  simp only [latestOf, List.foldl_append, List.foldl_cons, List.foldl_nil]

/-- The loop finds an item that no other surpasses. -/
theorem exists_latestOf (present : items ≠ []) :
    Exists fun item => latestOf time items = some item ∧ Unsurpassed time items item := by
  induction items using List.reverseRecOn with
  | nil => exact absurd rfl present
  | append_singleton items last ih =>
    rw [latestOf_append]
    by_cases first : items = []
    · subst first
      refine ⟨last, rfl, by simp, ?_⟩
      intro other member
      have same : other = last := by simpa using member
      rw [same]
      exact not_before_self _
    · obtain ⟨existing, found, unsurpassed⟩ := ih first
      rw [found]
      exact unsurpassed.replaceLatest last

theorem latestOf_unsurpassed (found : latestOf time items = some item) :
    Unsurpassed time items item := by
  by_cases present : items = []
  · rw [present] at found
    cases found
  · obtain ⟨other, same, unsurpassed⟩ := @exists_latestOf _ time _ present
    rw [found] at same
    rw [Option.some.inj same]
    exact unsurpassed

/-- Nothing replaces an item that none of those that follow is as late as. -/
theorem foldl_replaceLatest_stays {existing : Item}
    (stays : forall other, other ∈ items -> ¬ UpTo (time existing) (time other)) :
    items.foldl (replaceLatest time) (some existing) = some existing := by
  induction items with
  | nil => rfl
  | cons other rest ih =>
    have kept : replaceLatest time (some existing) other = some existing := if_neg (stays other (by simp))
    rw [List.foldl_cons, kept]
    apply ih
    intro later member
    exact stays later (by simp [member])

/-- Whichever item no other surpasses, the loop finds it in some order: the
dated items, the item, and then the undated ones. -/
theorem exists_order_latestOf (unsurpassed : Unsurpassed time items item) :
    Exists fun order => order.Perm items ∧ latestOf time order = some item := by
  obtain ⟨before, after, rfl⟩ := List.append_of_mem unsurpassed.1
  cases dated : time item with
  | none =>
    refine ⟨item :: (before ++ after), List.perm_middle.symm, ?_⟩
    apply foldl_replaceLatest_stays
    intro other _
    simp [dated]
  | some moment =>
    let isDated (other : Item) : Bool := (time other).isSome
    refine ⟨(before ++ after).filter isDated ++ item :: (before ++ after).filter (fun other => !isDated other),
      ?_, ?_⟩
    · refine List.perm_middle.trans (List.Perm.trans ?_ List.perm_middle.symm)
      exact (List.filter_append_perm isDated (before ++ after)).cons item
    · have replaced : replaceLatest time (latestOf time ((before ++ after).filter isDated)) item = some item := by
        cases found : latestOf time ((before ++ after).filter isDated) with
        | none => rfl
        | some existing =>
          obtain ⟨member, -⟩ := latestOf_unsurpassed found
          obtain ⟨among, existingDated⟩ := List.mem_filter.mp member
          have notLater := unsurpassed.2 existing (by
            obtain among | among := List.mem_append.mp among <;> simp [among])
          obtain ⟨other, existingTime⟩ := Option.isSome_iff_exists.mp existingDated
          apply if_pos
          rw [dated, existingTime, before_some] at notLater
          rw [dated, existingTime, upTo_some]
          omega
      rw [latestOf, List.foldl_append, List.foldl_cons]
      change List.foldl _ (replaceLatest time (latestOf time _) item) _ = _
      rw [replaced]
      apply foldl_replaceLatest_stays
      intro other member
      have undated : time other = none := by simpa [isDated] using (List.mem_filter.mp member).2
      simp [undated]

/-! ## Sorting the items -/

section Sorting

/-- What the sorting of an array asks of a comparator. -/
structure Consistent (compare : Item -> Item -> Ordering) (items : List Item) : Prop where
  refl : forall first, first ∈ items -> compare first first = .eq
  symm : forall first second, first ∈ items -> second ∈ items ->
    compare first second = .eq -> compare second first = .eq
  trans : forall order first second third, first ∈ items -> second ∈ items -> third ∈ items ->
    compare first second = order -> compare second third = order -> compare first third = order

/-- A way to sort arrays.  It is stable where the comparator is consistent;
where it is not, all that is known is that no item is lost or added. -/
structure SortMethod (Item : Type) where
  sort : (Item -> Item -> Ordering) -> List Item -> List Item
  perm : forall compare items, (sort compare items).Perm items
  stable : forall compare items, Consistent compare items ->
    sort compare items = items.insertionSort (fun first second => compare first second ≠ .gt)

/-- Sorting by insertion. -/
def SortMethod.insertion (Item : Type) : SortMethod Item where
  sort compare items := items.insertionSort (fun first second => compare first second ≠ .gt)
  perm _ items := List.perm_insertionSort _ items
  stable _ _ _ := rfl

variable (time)

/-- The sign of the second time less the first, or zero. -/
def latestFirst (first second : Item) : Ordering :=
  if Before (time second) (time first) then .lt
  else if Before (time first) (time second) then .gt
  else .eq

variable {time}

theorem latestFirst_ne_gt_iff {first second : Item} :
    latestFirst time first second ≠ .gt ↔ ¬ Before (time first) (time second) := by
  unfold latestFirst
  split <;> [skip; split]
  case isTrue later =>
    cases firstTime : time first <;> cases secondTime : time second <;> simp_all
    omega
  all_goals simp_all

theorem latestFirst_consistent (dated : forall item, item ∈ items -> time item ≠ none) :
    Consistent (latestFirst time) items := by
  have number : forall item, item ∈ items -> Exists fun moment => time item = some moment := by
    intro item member
    exact Option.ne_none_iff_exists'.mp (dated item member)
  constructor
  · intro first _
    simp [latestFirst]
  · intro first second member other same
    obtain ⟨one, firstTime⟩ := number first member
    obtain ⟨two, secondTime⟩ := number second other
    simp only [latestFirst, firstTime, secondTime, before_some] at same ⊢
    grind
  · intro order first second third memberFirst memberSecond memberThird one two
    obtain ⟨firstMoment, firstTime⟩ := number first memberFirst
    obtain ⟨secondMoment, secondTime⟩ := number second memberSecond
    obtain ⟨thirdMoment, thirdTime⟩ := number third memberThird
    simp only [latestFirst, firstTime, secondTime, thirdTime, before_some] at one two ⊢
    grind

variable (time)

/-- An item that may be the first of the sorted ones: no other surpasses it, or
an undated item makes the comparator inconsistent. -/
def CanLead (items : List Item) (item : Item) : Prop :=
  item ∈ items ∧ ((forall other, other ∈ items -> ¬ Before (time item) (time other)) ∨
    Exists fun other => other ∈ items ∧ time other = none)

variable {time}

theorem CanLead.perm {others : List Item} (canLead : CanLead time items item) (same : items.Perm others) :
    CanLead time others item := by
  refine ⟨same.mem_iff.mp canLead.1, ?_⟩
  obtain unsurpassed | ⟨undated, member, undatedTime⟩ := canLead.2
  · refine .inl ?_
    intro other member
    exact unsurpassed other (same.mem_iff.mpr member)
  · exact .inr ⟨undated, same.mem_iff.mp member, undatedTime⟩

theorem Unsurpassed.canLead (unsurpassed : Unsurpassed time items item) :
    CanLead time items item :=
  ⟨unsurpassed.1, .inl unsurpassed.2⟩

theorem SortMethod.eq_nil_of_head (engine : SortMethod Item)
    (leaderless : (engine.sort (latestFirst time) items).head? = none) : items = [] := by
  have empty := List.head?_eq_none_iff.mp leaderless
  exact List.perm_nil.mp ((engine.perm (latestFirst time) items).symm.trans (by rw [empty]))

/-- The first of the items sorted by insertion. -/
def leader (time : Item -> Option Int) (items : List Item) : Option Item :=
  ((SortMethod.insertion Item).sort (latestFirst time) items).head?

theorem mem_of_leader (leads : leader time items = some item) :
    item ∈ items :=
  ((SortMethod.insertion Item).perm _ _).mem_iff.mp (List.mem_of_head? leads)

theorem leader_cons (item : Item) (rest : List Item) :
    leader time (item :: rest) =
      match leader time rest with
      | none => some item
      | some other => if Before (time item) (time other) then some other else some item := by
  simp only [leader, SortMethod.insertion, List.insertionSort_cons]
  cases sorted : rest.insertionSort (fun first second => latestFirst time first second ≠ .gt) with
  | nil => rfl
  | cons other others =>
    by_cases later : Before (time item) (time other)
    · rw [List.orderedInsert_of_not_le]
      · simp [later]
      · exact fun ordered => latestFirst_ne_gt_iff.mp ordered later
    · rw [List.orderedInsert_cons_of_le]
      · simp [later]
      · exact latestFirst_ne_gt_iff.mpr later

/-- An item that the first of the others does not surpass is the first. -/
theorem leader_cons_of_not_before {rest : List Item}
    (first : forall other, leader time rest = some other -> ¬ Before (time item) (time other)) :
    leader time (item :: rest) = some item := by
  rw [leader_cons]
  cases leads : leader time rest with
  | none => rfl
  | some other => exact if_neg (first other leads)

theorem unsurpassed_of_leader (dated : forall item, item ∈ items -> time item ≠ none) :
    forall {item : Item}, leader time items = some item -> Unsurpassed time items item := by
  induction items with
  | nil =>
    intro item leads
    cases leads
  | cons first rest ih =>
    intro item leads
    refine ⟨mem_of_leader leads, ?_⟩
    rw [leader_cons] at leads
    have restDated : forall other, other ∈ rest -> time other ≠ none := by
      intro other member
      exact dated other (by simp [member])
    cases restLeads : leader time rest with
    | none =>
      rw [restLeads] at leads
      cases leads
      have alone : rest = [] := (SortMethod.insertion Item).eq_nil_of_head restLeads
      intro other member
      have same : other = first := by simpa [alone] using member
      rw [same]
      exact not_before_self _
    | some other =>
      have unsurpassed := ih restDated restLeads
      rw [restLeads] at leads
      obtain ⟨firstTime, firstDated⟩ := Option.ne_none_iff_exists'.mp (dated first (by simp))
      obtain ⟨otherTime, otherDated⟩ := Option.ne_none_iff_exists'.mp (restDated other unsurpassed.1)
      intro third among
      have latest : third ∈ rest -> ¬ Before (time other) (time third) := unsurpassed.2 third
      simp only [firstDated, otherDated, before_some] at leads
      split at leads <;> cases leads <;> obtain same | inRest := List.mem_cons.mp among
      · rw [same, firstDated, otherDated, before_some]
        omega
      · exact latest inRest
      · rw [same]
        exact not_before_self _
      · apply not_before_of_upTo _ (latest inRest)
        rw [firstDated, otherDated, upTo_some]
        omega

/-- The first of the sorted items can lead. -/
theorem SortMethod.canLead_of_head (engine : SortMethod Item)
    (leads : (engine.sort (latestFirst time) items).head? = some item) : CanLead time items item := by
  refine ⟨(engine.perm _ _).mem_iff.mp (List.mem_of_head? leads), ?_⟩
  by_cases dated : forall other, other ∈ items -> time other ≠ none
  · rw [engine.stable _ _ (latestFirst_consistent dated)] at leads
    exact .inl (unsurpassed_of_leader dated leads).2
  · push Not at dated
    exact .inr dated

/-- Whichever item can lead, it does so in some order. -/
theorem exists_order_leader (canLead : CanLead time items item) :
    Exists fun order => order.Perm items ∧ leader time order = some item := by
  obtain ⟨before, after, rfl⟩ := List.append_of_mem canLead.1
  obtain unsurpassed | ⟨undated, member, undatedTime⟩ := canLead.2
  · refine ⟨item :: (before ++ after), List.perm_middle.symm, ?_⟩
    apply leader_cons_of_not_before
    intro other leads
    apply unsurpassed other
    obtain among | among := List.mem_append.mp (mem_of_leader leads) <;> simp [among]
  · by_cases itemTime : time item = none
    · refine ⟨item :: (before ++ after), List.perm_middle.symm, ?_⟩
      apply leader_cons_of_not_before
      intro other _
      simp [itemTime]
    · have among : undated ∈ before ++ after := by
        simp only [List.mem_append, List.mem_cons] at member ⊢
        obtain member | rfl | member := member
        · exact .inl member
        · exact absurd undatedTime itemTime
        · exact .inr member
      obtain ⟨front, back, split⟩ := List.append_of_mem among
      refine ⟨item :: undated :: (front ++ back), ?_, ?_⟩
      · refine (List.Perm.cons item ?_).trans List.perm_middle.symm
        rw [split]
        exact List.perm_middle.symm
      · have second : leader time (undated :: (front ++ back)) = some undated := by
          apply leader_cons_of_not_before
          intro other _
          simp [undatedTime]
        apply leader_cons_of_not_before
        intro other leads
        rw [second] at leads
        cases leads
        simp [undatedTime]

end Sorting

end Foundation
end DigitalSolutions
