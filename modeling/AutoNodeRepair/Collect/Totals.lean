import Mathlib.Algebra.BigOperators.Group.List.Basic
import Mathlib.Algebra.GroupWithZero.Nat
import Std.Data.ExtTreeMap
import Mathlib.Data.List.Nodup

/-!
# Totals of a map

A total over all entries of a map is the total over any list of different keys that has
all of its keys: the others count nothing.
-/

namespace Collect

open Std

variable {κ β : Type} [Ord κ] [TransOrd κ] [LawfulEqOrd κ]

/-- The entries of a map are those of such a list of keys. -/
theorem toList_perm_filterMap (m : ExtTreeMap κ β) {keys : List κ} (hnodup : keys.Nodup)
    (hkeys : ∀ k v, m[k]? = some v → k ∈ keys) :
    m.toList.Perm (keys.filterMap fun k => m[k]?.map fun v => (k, v)) := by
  have hentries : m.toList.Nodup := by
    refine ExtTreeMap.distinct_keys_toList.imp ?_
    rintro entry _ hne rfl
    exact hne compare_self
  have hlisted : (keys.filterMap fun k => m[k]?.map fun v => (k, v)).Nodup := by
    refine hnodup.filterMap ?_
    intro k k' entry hk hk'
    obtain ⟨v, -, rfl⟩ := Option.map_eq_some_iff.mp hk
    obtain ⟨v', -, heq⟩ := Option.map_eq_some_iff.mp hk'
    exact (Prod.mk.inj heq).1.symm
  refine (List.perm_ext_iff_of_nodup hentries hlisted).mpr ?_
  rintro ⟨k, v⟩
  rw [ExtTreeMap.mem_toList_iff_getElem?_eq_some, List.mem_filterMap]
  constructor
  · intro hentry
    exact ⟨k, hkeys k v hentry, by simp [hentry]⟩
  · rintro ⟨k', -, hentry⟩
    obtain ⟨v', hv', heq⟩ := Option.map_eq_some_iff.mp hentry
    obtain ⟨rfl, rfl⟩ := Prod.mk.inj heq
    exact hv'

theorem foldl_total (m : ExtTreeMap κ β) (size : β → Nat) {keys : List κ} (hnodup : keys.Nodup)
    (hkeys : ∀ k v, m[k]? = some v → k ∈ keys) :
    m.foldl (fun total _ v => total + size v) 0 = (keys.map fun k => m[k]?.elim 0 size).sum := by
  have hsum : (m.toList.map fun entry => size entry.2).sum =
      (keys.map fun k => m[k]?.elim 0 size).sum := by
    rw [((toList_perm_filterMap m hnodup hkeys).map _).sum_eq, List.map_filterMap]
    clear hnodup hkeys
    induction keys with
    | nil => rfl
    | cons k keys ih =>
        cases hentry : m[k]? with
        | none => simpa [hentry] using ih
        | some v => simpa [hentry] using ih
  rw [ExtTreeMap.foldl_eq_foldl_toList, ← hsum, List.sum_eq_foldl, List.foldl_map]

end Collect
