import Mathlib.Data.Set.Insert
import Mathlib.Tactic.Tauto

/-!
# Rosters of places

Members visit places in roles.  Each place keeps a roster of its members and one of its roles, and both are
changed when a member enters or leaves.  The rosters agree with the visits if they hold exactly the members and
the roles of the visits to the place.
-/

namespace Collection

structure Rosters (Place Member Role : Type) where
  members : Place → Set Member
  roles : Place → Set Role
  visit : Member → Option (Place × Role)

namespace Rosters

variable {Place Member Role : Type} {place : Place} {member : Member} {role : Role}

structure Agrees (rosters : Rosters Place Member Role) : Prop where
  members : ∀ place member, member ∈ rosters.members place ↔ ∃ role, rosters.visit member = some (place, role)
  roles : ∀ place role, role ∈ rosters.roles place ↔ ∃ member, rosters.visit member = some (place, role)

/-- Another member makes the visit as well. -/
def Shares (rosters : Rosters Place Member Role) (member : Member) (visit : Place × Role) : Prop :=
  ∃ other, other ≠ member ∧ rosters.visit other = some visit

/-- The member visits no other place, and its role there is the same or is shared. -/
def Stays (rosters : Rosters Place Member Role) (place : Place) (member : Member) (role : Role) : Prop :=
  ∀ visit, rosters.visit member = some visit → visit.1 = place ∧ (visit.2 = role ∨ rosters.Shares member visit)

/-- The rosters after a member has begun a visit, which may have been added to the one, the other or both. -/
structure Enters (before after : Rosters Place Member Role) (joins tracks : Prop) (place : Place) (member : Member)
    (role : Role) : Prop where
  members : ∀ other present, present ∈ after.members other ↔
    present ∈ before.members other ∨ joins ∧ other = place ∧ present = member
  roles : ∀ other present, present ∈ after.roles other ↔
    present ∈ before.roles other ∨ tracks ∧ other = place ∧ present = role
  visit_self : after.visit member = some (place, role)
  visit_of_ne : ∀ other, other ≠ member → after.visit other = before.visit other

/-- The rosters after a member has ended its visit. -/
structure Leaves (before after : Rosters Place Member Role) (place : Place) (member : Member) (role : Role) : Prop where
  members : ∀ other present, present ∈ after.members other ↔
    present ∈ before.members other ∧ ¬(other = place ∧ present = member)
  roles : ∀ other present, present ∈ after.roles other ↔
    present ∈ before.roles other ∧ ¬(other = place ∧ present = role)
  visit_self : after.visit member = none
  visit_of_ne : ∀ other, other ≠ member → after.visit other = before.visit other

variable {before after : Rosters Place Member Role} {joins tracks : Prop}

theorem Agrees.congr (h : before.Agrees) (hmembers : ∀ place, after.members place = before.members place)
    (hroles : ∀ place, after.roles place = before.roles place)
    (hvisit : ∀ member, after.visit member = before.visit member) : after.Agrees := by
  constructor
  · intro place member
    simp only [hmembers, hvisit, h.members]
  · intro place role
    simp only [hroles, hvisit, h.roles]

/-- A visit leaves the rosters in agreement exactly if it ends up in both, and the one before left nothing behind. -/
theorem Agrees.enters_iff (h : before.Agrees) (henters : Enters before after joins tracks place member role) :
    after.Agrees ↔ (joins ∨ member ∈ before.members place) ∧ (tracks ∨ role ∈ before.roles place) ∧
      before.Stays place member role := by
  constructor
  · intro hafter
    have hmember := (hafter.members place member).2 ⟨role, henters.visit_self⟩
    have hrole := (hafter.roles place role).2 ⟨member, henters.visit_self⟩
    rw [henters.members] at hmember
    rw [henters.roles] at hrole
    refine ⟨?_, ?_, ?_⟩
    · tauto
    · tauto
    · rintro ⟨old, past⟩ hvisit
      have hkept := (henters.members old member).2 (.inl ((h.members old member).2 ⟨past, hvisit⟩))
      obtain ⟨now, hnow⟩ := (hafter.members old member).1 hkept
      obtain ⟨rfl, rfl⟩ := Prod.mk.inj (Option.some.inj (henters.visit_self.symm.trans hnow))
      refine ⟨rfl, ?_⟩
      have hpast := (henters.roles place past).2 (.inl ((h.roles place past).2 ⟨member, hvisit⟩))
      obtain ⟨other, hother⟩ := (hafter.roles place past).1 hpast
      by_cases hsame : other = member
      · subst hsame
        obtain ⟨-, rfl⟩ := Prod.mk.inj (Option.some.inj (henters.visit_self.symm.trans hother))
        exact .inl rfl
      · exact .inr ⟨other, hsame, (henters.visit_of_ne other hsame).symm.trans hother⟩
  · rintro ⟨hjoins, htracks, hstays⟩
    constructor
    · intro other present
      rw [henters.members]
      by_cases hsame : present = member
      · subst hsame
        rw [henters.visit_self]
        constructor
        · rintro (hkept | ⟨-, rfl, -⟩)
          · obtain ⟨past, hvisit⟩ := (h.members other present).1 hkept
            obtain ⟨rfl, -⟩ := hstays _ hvisit
            exact ⟨role, rfl⟩
          · exact ⟨role, rfl⟩
        · rintro ⟨now, hnow⟩
          cases hnow
          tauto
      · rw [henters.visit_of_ne present hsame, h.members]
        tauto
    · intro other present
      rw [henters.roles]
      constructor
      · rintro (hkept | ⟨-, rfl, rfl⟩)
        · obtain ⟨one, hvisit⟩ := (h.roles other present).1 hkept
          by_cases hsame : one = member
          · subst hsame
            obtain ⟨rfl, rfl | ⟨another, hanother, hshared⟩⟩ := hstays _ hvisit
            · exact ⟨one, henters.visit_self⟩
            · exact ⟨another, (henters.visit_of_ne another hanother).trans hshared⟩
          · exact ⟨one, (henters.visit_of_ne one hsame).trans hvisit⟩
        · exact ⟨member, henters.visit_self⟩
      · rintro ⟨one, hvisit⟩
        by_cases hsame : one = member
        · subst hsame
          cases henters.visit_self.symm.trans hvisit
          tauto
        · exact .inl ((h.roles other present).2 ⟨one, (henters.visit_of_ne one hsame).symm.trans hvisit⟩)

/-- A member leaves the rosters in agreement exactly if no other shares its visit. -/
theorem Agrees.leaves_iff (h : before.Agrees) (hvisit : ∀ visit, before.visit member = some visit → visit = (place, role))
    (hleaves : Leaves before after place member role) : after.Agrees ↔ ¬before.Shares member (place, role) := by
  constructor
  · rintro hafter ⟨other, hother, hshared⟩
    have hrole := (hafter.roles place role).2 ⟨other, (hleaves.visit_of_ne other hother).trans hshared⟩
    exact ((hleaves.roles place role).1 hrole).2 ⟨rfl, rfl⟩
  · intro halone
    constructor
    · intro other present
      rw [hleaves.members]
      by_cases hsame : present = member
      · subst hsame
        rw [hleaves.visit_self, h.members]
        constructor
        · rintro ⟨⟨past, hpast⟩, hnot⟩
          cases hvisit _ hpast
          exact absurd ⟨rfl, rfl⟩ hnot
        · rintro ⟨past, hpast⟩
          cases hpast
      · rw [hleaves.visit_of_ne present hsame, h.members]
        tauto
    · intro other present
      rw [hleaves.roles, h.roles]
      constructor
      · rintro ⟨⟨one, hone⟩, hnot⟩
        refine ⟨one, ?_⟩
        rwa [hleaves.visit_of_ne]
        rintro rfl
        cases hvisit _ hone
        exact hnot ⟨rfl, rfl⟩
      · rintro ⟨one, hone⟩
        have hsame : one ≠ member := by
          rintro rfl
          cases hleaves.visit_self.symm.trans hone
        rw [hleaves.visit_of_ne one hsame] at hone
        refine ⟨⟨one, hone⟩, ?_⟩
        rintro ⟨rfl, rfl⟩
        exact halone ⟨one, hsame, hone⟩

end Rosters

end Collection
