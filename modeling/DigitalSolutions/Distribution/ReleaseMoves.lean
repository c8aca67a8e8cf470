import DigitalSolutions.Distribution.UpdateEffects

namespace DigitalSolutions
namespace Distribution

open Foundation Persistence

/-!
# What happens to the releases

Whatever a mutation does, a release keeps what it was registered with, and the
record that it was activated.  An activation goes to a release that is ahead of
every other that its audience has seen.
-/

variable {platform : UpdatePlatform} {before after : UpdateStore}

/-- What a release was registered with. -/
structure ReleaseIdentity where
  id : Id
  version : String
  minimumSupportedVersion : String
  revision : Int
  audience : LicensingAgentUpdateAudience
  releaseTag : String
  publishedAt : Time

def identity (release : LicensingAgentUpdateRelease) : ReleaseIdentity :=
  ⟨release.id, release.version, release.minimumSupportedVersion, release.revision, release.audience,
    release.releaseTag, release.publishedAt⟩

/-- A release that may be activated. -/
structure Activates (platform : UpdatePlatform) (store : UpdateStore)
    (target : LicensingAgentUpdateRelease) : Prop where
  inactive : target.active = false
  forward : rollsBack platform target store = false
  signed : (store.keys.select fun key => key.status = .active).any
    (fun key => platform.semver.valid key.trustedFromVersion &&
      platform.semver.lte key.trustedFromVersion target.minimumSupportedVersion) = true

/-- What a mutation can do to one release. -/
inductive ReleaseMove (platform : UpdatePlatform) (store : UpdateStore)
    (release : LicensingAgentUpdateRelease) : LicensingAgentUpdateRelease -> Prop where
  | kept : ReleaseMove platform store release release
  | deactivated (now : Time) : ReleaseMove platform store release (deactivated now release)
  | activated (actorId : Id) (now : Time) (may : Activates platform store release) :
      ReleaseMove platform store release (activated actorId now release)

namespace ReleaseMove

variable {store : UpdateStore} {old row : LicensingAgentUpdateRelease} (move : ReleaseMove platform store old row)

include move

theorem identity :
    Distribution.identity row = Distribution.identity old := by
  cases move <;> rfl

theorem activatedAt (was : old.activatedAt.isSome = true) :
    row.activatedAt.isSome = true := by
  cases move with
  | kept => exact was
  | deactivated now => exact was
  | activated actorId now may => rfl

/-- An active release is recorded as activated, if that was so before. -/
theorem recorded (before : old.active = true -> old.activatedAt.isSome = true) (active : row.active = true) :
    row.activatedAt.isSome = true := by
  cases move with
  | kept => exact before active
  | deactivated now => cases active
  | activated actorId now may => rfl

theorem origin_active (active : row.active = true) :
    old.active = true ∨ Activates platform store old := by
  cases move with
  | kept => exact Or.inl active
  | deactivated now => cases active
  | activated actorId now may => exact Or.inr may

theorem origin_activated (activated : row.activatedAt.isSome = true) :
    old.activatedAt.isSome = true ∨ row.active = true := by
  cases move with
  | kept => exact Or.inl activated
  | deactivated now => exact Or.inl activated
  | activated actorId now may => exact Or.inr rfl

end ReleaseMove

/-- What a mutation does to the releases: it registers one, or moves those that
are there. -/
inductive ReleasesMoved (platform : UpdatePlatform) (before : UpdateStore) :
    Table LicensingAgentUpdateRelease -> Prop where
  | registered {release : LicensingAgentUpdateRelease} {releases : Table LicensingAgentUpdateRelease}
      (checked : ReleaseChecked platform release) (inactive : release.active = false)
      (never : release.activatedAt = none)
      (inserted : before.releases.insert release = some releases) :
      ReleasesMoved platform before releases
  | moved {releases : Table LicensingAgentUpdateRelease}
      (change : LicensingAgentUpdateRelease -> LicensingAgentUpdateRelease)
      (wrote : releases.rows = before.releases.rows.map change)
      (move : forall old, old ∈ before.releases -> ReleaseMove platform before old (change old)) :
      ReleasesMoved platform before releases

theorem rows_setRelease {id : Id} {data : LicensingAgentUpdateRelease -> LicensingAgentUpdateRelease}
    {releases written : Table LicensingAgentUpdateRelease}
    (done : setRelease id data releases = some written) :
    written.rows = releases.rows.map fun row => if row.id = id then data row else row := by
  have rows := Table.rows_amend _ done
  simp only [decide_eq_true_eq] at rows
  exact rows

/-- Deactivating the current release leaves the target of an activation alone. -/
theorem rows_retireCurrent {target : LicensingAgentUpdateRelease} {now : Time} {store : UpdateStore}
    {middle : Table LicensingAgentUpdateRelease} (retired : retireCurrent target now store = some middle) :
    Exists fun change => middle.rows = store.releases.rows.map change ∧
      forall old, change old = old ∨ old.id ≠ target.id ∧ change old = deactivated now old := by
  unfold retireCurrent at retired
  split at retired
  · rename_i current found
    refine ⟨_, rows_setRelease retired, ?_⟩
    have history := List.mem_of_find?_eq_some found
    rw [activationHistory, Table.mem_select] at history
    have other : current.id ≠ target.id := by
      have conditions := history.2
      simp only [Bool.and_eq_true, decide_eq_true_eq] at conditions
      exact conditions.2
    intro old
    by_cases isCurrent : old.id = current.id
    · rw [if_pos isCurrent]
      exact Or.inr ⟨isCurrent ▸ other, rfl⟩
    · rw [if_neg isCurrent]
      exact Or.inl rfl
  · cases retired
    refine ⟨id, (List.map_id _).symm, ?_⟩
    intro old
    exact Or.inl rfl

theorem release_eq_of_id {releases : Table LicensingAgentUpdateRelease}
    {first second : LicensingAgentUpdateRelease} (firstMember : first ∈ releases)
    (secondMember : second ∈ releases) (same : first.id = second.id) : first = second := by
  have firstKey : LicensingAgentUpdateRelease.Key.id first.id ∈ Keyed.keys first := by
    simp [Keyed.keys]
  have secondKey : LicensingAgentUpdateRelease.Key.id first.id ∈ Keyed.keys second := by
    simp [Keyed.keys, same]
  exact releases.eq_of_common_key firstMember secondMember firstKey secondKey

theorem UpdateEffect.releases (effect : UpdateEffect platform before after) :
    ReleasesMoved platform before after.releases := by
  have untouched : ReleasesMoved platform before before.releases :=
    .moved id (List.map_id _).symm fun old _ => .kept
  cases effect with
  | kept => exact untouched
  | keyStaged => exact untouched
  | keyActivated => exact untouched
  | keyRetired => exact untouched
  | releaseRegistered checked inactive never inserted =>
    exact .registered checked inactive never inserted
  | @releaseActivated target actorId now middle releases member inactive signed forward retired written =>
    rcases rows_retireCurrent retired with ⟨retire, retireRows, retireMove⟩
    have rows := rows_setRelease written
    rw [retireRows, List.map_map] at rows
    refine .moved _ rows ?_
    intro old oldMember
    have sameId : (retire old).id = old.id := by
      rcases retireMove old with same | ⟨_, same⟩ <;> rw [same] <;> rfl
    simp only [Function.comp, sameId]
    by_cases isTarget : old.id = target.id
    · have same := release_eq_of_id oldMember member isTarget
      have alone : retire old = old := by
        rcases retireMove old with same | ⟨other, _⟩
        · exact same
        · exact absurd isTarget other
      rw [if_pos isTarget, alone]
      exact .activated actorId now (same ▸ ⟨inactive, forward, signed⟩)
    · rw [if_neg isTarget]
      rcases retireMove old with same | ⟨_, same⟩
      · rw [same]
        exact .kept
      · rw [same]
        exact .deactivated now
  | @releaseDeactivated release now releases member written =>
    refine .moved _ (rows_setRelease written) ?_
    intro old oldMember
    by_cases isRelease : old.id = release.id
    · rw [if_pos isRelease]
      exact .deactivated now
    · rw [if_neg isRelease]
      exact .kept

/-! ## Releases over time -/

/-- Every release is still there, and is still recorded as activated if it was. -/
def ReleasesKept (before after : UpdateStore) : Prop :=
  forall old, old ∈ before.releases -> Exists fun row => row ∈ after.releases ∧
    identity row = identity old ∧ (old.activatedAt.isSome = true -> row.activatedAt.isSome = true)

theorem ReleasesKept.refl (store : UpdateStore) : ReleasesKept store store :=
  fun old member => ⟨old, member, rfl, fun was => was⟩

theorem ReleasesKept.trans {first second third : UpdateStore} (left : ReleasesKept first second)
    (right : ReleasesKept second third) : ReleasesKept first third := by
  intro old member
  rcases left old member with ⟨middle, middleMember, sameMiddle, wasMiddle⟩
  rcases right middle middleMember with ⟨row, rowMember, sameRow, wasRow⟩
  exact ⟨row, rowMember, sameRow.trans sameMiddle, fun was => wasRow (wasMiddle was)⟩

theorem ReleasesMoved.kept {releases : Table LicensingAgentUpdateRelease}
    (moved : ReleasesMoved platform before releases) (same : after.releases = releases) :
    ReleasesKept before after := by
  intro old member
  rw [same]
  cases moved with
  | registered checked inactive never inserted =>
    exact ⟨old, (Table.mem_insert inserted).mpr (Or.inl member), rfl, fun was => was⟩
  | moved change wrote move =>
    exact ⟨change old, (Table.mem_of_rows wrote).mpr ⟨old, member, rfl⟩, (move old member).identity,
      (move old member).activatedAt⟩

end Distribution
end DigitalSolutions
