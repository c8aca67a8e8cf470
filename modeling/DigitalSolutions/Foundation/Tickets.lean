import DigitalSolutions.Foundation.Processes

namespace DigitalSolutions
namespace Foundation
namespace Protocol

/-!
# Outlines that rest on the crowd

Some assertions survive only because no two processes are at the same work.
Such a fact is about the crowd and not about one process.  It may be assumed
where interference is ruled out, as long as every move keeps it.

The usual fact of this kind is about tickets.  A process holds a ticket that
no other holds: it has taken a fresh one, and keeps it until it gives it up.
-/

variable {Store Call Point Input Ambient Refusal Ticket : Type}
variable {protocol : Protocol Store Call Point Input Ambient Refusal}
variable {allowed : Crowd Store Point -> CrowdMove Call Input Ambient -> Prop}
variable {common : Crowd Store Point -> Prop}
variable {invariant : Store -> Prop} {assertion : Store -> Nat -> Point -> Prop}

/-- Every allowed move keeps the common fact, where the outline holds. -/
def Keeps (protocol : Protocol Store Call Point Input Ambient Refusal)
    (allowed : Crowd Store Point -> CrowdMove Call Input Ambient -> Prop)
    (invariant : Store -> Prop) (assertion : Store -> Nat -> Point -> Prop)
    (common : Crowd Store Point -> Prop) : Prop :=
  forall crowd move next, Holds invariant assertion crowd -> common crowd -> allowed crowd move ->
    protocol.machine.step crowd move = .ok next -> common next

/-- Moves that are allowed where the common fact holds. -/
def Among (allowed : Crowd Store Point -> CrowdMove Call Input Ambient -> Prop)
    (common : Crowd Store Point -> Prop) (crowd : Crowd Store Point)
    (move : CrowdMove Call Input Ambient) : Prop :=
  allowed crowd move ∧ common crowd

namespace Outlined

variable {crowd : Crowd Store Point} {moves : List (CrowdMove Call Input Ambient)}

theorem run_among (outlined : Outlined protocol (Among allowed common) invariant assertion)
    (keeps : Keeps protocol allowed invariant assertion common)
    (initially : Holds invariant assertion crowd) (commonly : common crowd)
    (admitted : protocol.machine.Admits allowed crowd moves) :
    Holds invariant assertion (protocol.machine.run crowd moves) ∧
      common (protocol.machine.run crowd moves) := by
  have preserved : forall state move next,
      (Holds invariant assertion state ∧ common state) -> allowed state move ->
      protocol.machine.step state move = .ok next ->
      Holds invariant assertion next ∧ common next := by
    intro state move next both allows accepted
    have held := outlined.step both.1 ⟨allows, both.2⟩ accepted
    exact ⟨held, keeps state move next both.1 both.2 allows accepted⟩
  exact Machine.run_invariant_of_admits preserved ⟨initially, commonly⟩ admitted

/-- What no allowed move undoes, once it holds in a run, holds to its end. -/
theorem run_final {final : Store -> Prop}
    (outlined : Outlined protocol (Among allowed common) invariant assertion)
    (keeps : Keeps protocol allowed invariant assertion common)
    (stays : forall state move next, Holds invariant assertion state -> common state ->
      allowed state move -> protocol.machine.step state move = .ok next -> final state.store ->
      final next.store)
    (initially : Holds invariant assertion crowd) (commonly : common crowd)
    {later : List (CrowdMove Call Input Ambient)}
    (admitted : protocol.machine.Admits allowed crowd (moves ++ later))
    (reached : final (protocol.machine.run crowd moves).store) :
    final (protocol.machine.run crowd (moves ++ later)).store := by
  have midway := outlined.run_among keeps initially commonly admitted.left
  have preserved : forall state move next,
      ((Holds invariant assertion state ∧ common state) ∧ final state.store) ->
      allowed state move -> protocol.machine.step state move = .ok next ->
      (Holds invariant assertion next ∧ common next) ∧ final next.store := by
    intro state move next all allows accepted
    have held := outlined.step all.1.1 ⟨allows, all.1.2⟩ accepted
    have shared := keeps state move next all.1.1 all.1.2 allows accepted
    exact ⟨⟨held, shared⟩, stays state move next all.1.1 all.1.2 allows accepted all.2⟩
  rw [Machine.run_append]
  exact (Machine.run_invariant_of_admits preserved ⟨midway, reached⟩ admitted.right).2

end Outlined

/-! ## Tickets -/

/-- No two processes hold the same ticket. -/
def Unshared (ticket : Point -> Option Ticket) (crowd : Crowd Store Point) : Prop :=
  forall left right here there number, crowd.processes left = some here ->
    crowd.processes right = some there -> ticket here = some number -> ticket there = some number ->
    left = right

/-- A ticket that nobody holds. -/
def Fresh (ticket : Point -> Option Ticket) (crowd : Crowd Store Point) (number : Ticket) : Prop :=
  forall process point, crowd.processes process = some point -> ticket point ≠ some number

variable {ticket : Point -> Option Ticket} {crowd next : Crowd Store Point}

theorem unshared_opening (store : Store) : Unshared ticket (Crowd.opening store) := by
  intro left right here there number stands
  cases stands

/-- Where a process enters without a ticket, and takes only fresh ones, none
is shared. -/
theorem Unshared.step (unshared : Unshared ticket crowd)
    (enters : forall call, ticket (protocol.enter call) = none)
    (takes : forall process point input after later number, crowd.processes process = some point ->
      protocol.advance crowd.store point input = .ok (after, some later) ->
      ticket later = some number -> ticket point = some number ∨ Fresh ticket crowd number)
    {move : CrowdMove Call Input Ambient}
    (accepted : protocol.machine.step crowd move = .ok next) : Unshared ticket next := by
  have placed : forall process store point,
      (forall moved number, point = some moved -> ticket moved = some number ->
        forall other bystander, other ≠ process -> crowd.processes other = some bystander ->
          ticket bystander ≠ some number) ->
      Unshared ticket (crowd.place store process point) := by
    intro process store point apart left right here there number stands alsoStands holds alsoHolds
    rcases eq_some_of_update rfl stands with ⟨rfl, isHere⟩ | ⟨leftOther, before⟩
    · rcases eq_some_of_update rfl alsoStands with ⟨rfl, _⟩ | ⟨rightOther, alsoBefore⟩
      · rfl
      · exact absurd alsoHolds (apart here number isHere holds right there rightOther alsoBefore)
    · rcases eq_some_of_update rfl alsoStands with ⟨rfl, isThere⟩ | ⟨_, alsoBefore⟩
      · exact absurd holds (apart there number isThere alsoHolds left here leftOther before)
      · exact unshared left right here there number before alsoBefore holds alsoHolds
  cases move with
  | start process call =>
    rcases step_start accepted with ⟨_, rfl⟩
    apply placed
    intro moved number isMoved holds
    cases isMoved
    rw [enters call] at holds
    cases holds
  | advance process input =>
    rcases step_advance accepted with ⟨point, store, later, here, advanced, rfl⟩
    apply placed
    intro moved number isMoved holds other bystander different stands bystanderHolds
    subst isMoved
    rcases takes process point input store moved number here advanced holds with kept | fresh
    · exact different (unshared other process bystander point number stands here bystanderHolds kept)
    · exact fresh other bystander stands bystanderHolds
  | stop process =>
    rw [step_stop accepted]
    apply placed
    intro moved number isMoved
    cases isMoved
  | ambient event =>
    rcases step_ambient accepted with ⟨_, same⟩
    intro left right here there number stands alsoStands
    rw [same] at stands alsoStands
    exact unshared left right here there number stands alsoStands

end Protocol

/-- Tickets of one name that are numbered within bounds: distinct ones are few. -/
theorem length_le_of_numbered {Entry Name : Type} {number : Entry -> Name × Nat} {name : Name}
    {entries : List Entry} (least most : Nat) (distinct : (entries.map number).Nodup)
    (within : forall entry, entry ∈ entries ->
      (number entry).1 = name ∧ least ≤ (number entry).2 ∧ (number entry).2 < least + most) :
    entries.length ≤ most := by
  have numbers : (entries.map fun entry => (number entry).2).Nodup := by
    rw [List.nodup_map_iff_inj_on (List.Nodup.of_map _ distinct)]
    intro left leftMember right rightMember same
    apply List.inj_on_of_nodup_map distinct leftMember rightMember
    apply Prod.ext
    · exact (within left leftMember).1.trans (within right rightMember).1.symm
    · exact same
  have among : (entries.map fun entry => (number entry).2) ⊆ List.range' least most := by
    intro index member
    rcases List.mem_map.mp member with ⟨entry, entryMember, rfl⟩
    rw [List.mem_range'_1]
    exact (within entry entryMember).2
  have short := (List.subperm_of_subset numbers among).length_le
  rw [List.length_map, List.length_range'] at short
  exact short

end Foundation
end DigitalSolutions
