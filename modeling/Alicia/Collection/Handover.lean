import Mathlib.Data.List.Nodup
import Mathlib.Logic.Equiv.Basic

/-!
# Handing over

Some keys hold something.  A key hands over what it holds to another one that holds nothing, and what is held in
all stays.
-/

namespace Collection

open Function

variable {K V : Type*} [DecidableEq K]

/-- What is held once `source` has handed over `value` to `target`. -/
def handover (holding : K → Option V) (source target : K) (value : V) : K → Option V :=
  update (update holding source none) target (some value)

/-- To hand over to an empty key is to swap the keys. -/
theorem handover_eq_swap {holding : K → Option V} {source target : K} {value : V}
    (hsource : holding source = some value) (htarget : holding target = none) :
    handover holding source target value = fun key => holding (Equiv.swap source target key) := by
  funext key
  rw [handover]
  by_cases hto : key = target
  · rw [hto, update_self, Equiv.swap_apply_right, hsource]
  · rw [update_of_ne hto]
    by_cases hfrom : key = source
    · rw [hfrom, update_self, Equiv.swap_apply_left, htarget]
    · rw [update_of_ne hfrom, Equiv.swap_apply_of_ne_of_ne hfrom hto]

/-- What the keys hold in all is the same after a handover. -/
theorem filterMap_handover {keys : List K} {holding : K → Option V} {source target : K} {value : V}
    (hnodup : keys.Nodup) (hfrom : source ∈ keys) (hto : target ∈ keys) (hsource : holding source = some value)
    (htarget : holding target = none) :
    (keys.filterMap (handover holding source target value)).Perm (keys.filterMap holding) := by
  have hswapped : (keys.map (Equiv.swap source target)).Perm keys := by
    refine (List.perm_ext_iff_of_nodup (hnodup.map (Equiv.injective _)) hnodup).2 fun key => ?_
    have hmem : ∀ key, Equiv.swap source target key ∈ keys ↔ key ∈ keys := by
      intro key
      by_cases hs : key = source
      · rw [hs, Equiv.swap_apply_left]
        exact iff_of_true hto hfrom
      by_cases ht : key = target
      · rw [ht, Equiv.swap_apply_right]
        exact iff_of_true hfrom hto
      · rw [Equiv.swap_apply_of_ne_of_ne hs ht]
    rw [List.mem_map]
    constructor
    · rintro ⟨other, hother, rfl⟩
      exact (hmem other).2 hother
    · exact fun hkey => ⟨Equiv.swap source target key, (hmem key).2 hkey, Equiv.swap_apply_self _ _ _⟩
  have hheld := hswapped.filterMap holding
  rw [List.filterMap_map] at hheld
  rw [handover_eq_swap hsource htarget]
  exact hheld

end Collection
