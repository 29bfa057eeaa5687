import Std.Data.ExtTreeMap.Lemmas
import Std.Data.ExtTreeSet.Lemmas

/-!
# Extensional maps and sets by equality of keys

The lookups in `Std.ExtTreeMap` and the membership in `Std.ExtTreeSet` after an update, with the
comparison of keys replaced by their equality.
-/

namespace Collection

open Std (ExtTreeMap ExtTreeSet)

variable {K V : Type} [Ord K] [Std.TransOrd K] [Std.LawfulEqOrd K] [DecidableEq K]

theorem getElem?_insert_self_or_ne (map : ExtTreeMap K V) (key other : K) (value : V) :
    (map.insert key value)[other]? = if other = key then some value else map[other]? := by
  rw [ExtTreeMap.getElem?_insert]
  by_cases h : other = key
  · subst h
    rw [if_pos Std.ReflCmp.compare_self, if_pos rfl]
  · rw [if_neg fun heq => h (Std.LawfulEqCmp.eq_of_compare heq).symm, if_neg h]

theorem getElem?_erase_self_or_ne (map : ExtTreeMap K V) (key other : K) :
    (map.erase key)[other]? = if other = key then none else map[other]? := by
  rw [ExtTreeMap.getElem?_erase]
  by_cases h : other = key
  · subst h
    rw [if_pos Std.ReflCmp.compare_self, if_pos rfl]
  · rw [if_neg fun heq => h (Std.LawfulEqCmp.eq_of_compare heq).symm, if_neg h]

theorem getElem?_modify_self_or_ne (map : ExtTreeMap K V) (key other : K) (f : V → V) :
    (map.modify key f)[other]? = if other = key then map[other]?.map f else map[other]? := by
  rw [ExtTreeMap.getElem?_modify]
  by_cases h : other = key
  · subst h
    rw [if_pos Std.ReflCmp.compare_self, if_pos rfl]
  · rw [if_neg fun heq => h (Std.LawfulEqCmp.eq_of_compare heq).symm, if_neg h]

/-- The first entry of a key is its only one. -/
theorem map_snd_find?_toList (map : ExtTreeMap K V) (key : K) :
    (map.toList.find? fun entry => entry.1 = key).map Prod.snd = map[key]? := by
  cases hfind : map.toList.find? fun entry => entry.1 = key with
  | none =>
    cases hvalue : map[key]? with
    | none => rfl
    | some value =>
      have hmem := ExtTreeMap.mem_toList_iff_getElem?_eq_some.2 hvalue
      exact absurd (decide_eq_true rfl) (List.find?_eq_none.1 hfind _ hmem)
  | some entry =>
    obtain ⟨other, value⟩ := entry
    have hkey := List.find?_some hfind
    cases of_decide_eq_true hkey
    exact (ExtTreeMap.mem_toList_iff_getElem?_eq_some.1 (List.mem_of_find?_eq_some hfind)).symm

omit [DecidableEq K] in
theorem mem_insert_iff {set : ExtTreeSet K} {key other : K} :
    other ∈ set.insert key ↔ other ∈ set ∨ other = key := by
  rw [ExtTreeSet.mem_insert, Std.LawfulEqCmp.compare_eq_iff_eq, or_comm, eq_comm]

omit [DecidableEq K] in
theorem mem_erase_iff {set : ExtTreeSet K} {key other : K} :
    other ∈ set.erase key ↔ other ∈ set ∧ other ≠ key := by
  rw [ExtTreeSet.mem_erase, and_comm, ne_eq, Std.LawfulEqCmp.compare_eq_iff_eq, eq_comm]

end Collection
