import Std.Data.ExtTreeMap
import Mathlib.Data.List.Basic

/-!
# Merging maps that agree

Maps are merged one after the other into one that grows: a map is taken in if it
contradicts nothing that is there yet and brings no new *sealed* key, and is left out
otherwise. A decision is made against what has been merged so far, but it stands at the
end: nothing that is in the map ever changes, and no sealed key is ever added
(`subMap_or_rejected`).
-/

namespace Collect

open Std

variable {α β : Type} [Ord α] [TransOrd α]

/-- Every entry of the one is an entry of the other. -/
def SubMap (m merged : ExtTreeMap α β) : Prop :=
  ∀ (k : α) (v : β), m[k]? = some v → merged[k]? = some v

theorem SubMap.refl (m : ExtTreeMap α β) : SubMap m m := fun _ _ => id

theorem SubMap.trans {m m' m'' : ExtTreeMap α β} (h : SubMap m m') (h' : SubMap m' m'') :
    SubMap m m'' := fun k v hk => h' k v (h k v hk)

variable [DecidableEq β]

/-- The map agrees with what is there and brings no sealed key. -/
def admits (isSealed : α → Bool) (merged m : ExtTreeMap α β) : Bool :=
  m.toList.all fun entry =>
    match merged[entry.1]? with
    | some current => current = entry.2
    | none => !isSealed entry.1

/-- One map is merged, or left out. -/
def mergeInto (isSealed : α → Bool) (merged m : ExtTreeMap α β) : ExtTreeMap α β :=
  if admits isSealed merged m then merged ∪ m else merged

/-- What keeps a map from being merged. -/
def Rejected (isSealed : α → Bool) (merged m : ExtTreeMap α β) : Prop :=
  ∃ (k : α) (v : β), m[k]? = some v ∧
    ((∃ current, merged[k]? = some current ∧ current ≠ v) ∨
      (isSealed k = true ∧ merged[k]? = none))

variable [LawfulEqOrd α] {isSealed : α → Bool} {merged m : ExtTreeMap α β}

theorem admits_iff :
    admits isSealed merged m = true ↔
      ∀ (k : α) (v : β), m[k]? = some v →
        merged[k]? = some v ∨ merged[k]? = none ∧ isSealed k = false := by
  simp only [admits, List.all_eq_true, Prod.forall, ExtTreeMap.mem_toList_iff_getElem?_eq_some]
  refine forall₂_congr fun k v => imp_congr_right fun _ => ?_
  cases merged[k]? with
  | none => simp
  | some current => simp

theorem rejected_of_not_admits (h : ¬admits isSealed merged m = true) :
    Rejected isSealed merged m := by
  rw [admits_iff] at h
  push Not at h
  obtain ⟨k, v, hm, hne, hsealed⟩ := h
  refine ⟨k, v, hm, ?_⟩
  cases hk : merged[k]? with
  | none => exact .inr ⟨by simpa using hsealed hk, rfl⟩
  | some current => exact .inl ⟨current, rfl, fun heq => hne (by rw [hk, heq])⟩

/-! ## One map -/

theorem subMap_mergeInto : SubMap merged (mergeInto isSealed merged m) := by
  intro k v hk
  unfold mergeInto
  split
  case isTrue hadmits =>
    rw [ExtTreeMap.getElem?_union]
    cases hm : m[k]? with
    | none => simpa using hk
    | some v' =>
        rcases admits_iff.mp hadmits k v' hm with hsame | ⟨hnone, -⟩
        · simpa [hk] using hsame.symm
        · simp [hk] at hnone
  case isFalse => exact hk

/-- A new entry is one of the map, under a key that is not sealed. -/
theorem entry_mergeInto {k : α} {v : β} (hk : (mergeInto isSealed merged m)[k]? = some v) :
    merged[k]? = some v ∨ m[k]? = some v ∧ isSealed k = false := by
  unfold mergeInto at hk
  split at hk
  case isTrue hadmits =>
    rw [ExtTreeMap.getElem?_union] at hk
    cases hm : m[k]? with
    | none => exact .inl (by simpa [hm] using hk)
    | some v' =>
        obtain rfl : v' = v := by simpa [hm] using hk
        rcases admits_iff.mp hadmits k v' hm with hsame | ⟨-, hsealed⟩
        · exact .inl hsame
        · exact .inr ⟨rfl, hsealed⟩
  case isFalse => exact .inl hk

variable (isSealed merged m) in
theorem subMap_or_rejected_mergeInto :
    SubMap m (mergeInto isSealed merged m) ∨ Rejected isSealed merged m := by
  by_cases hadmits : admits isSealed merged m = true
  · refine .inl fun k v hm => ?_
    rw [mergeInto, if_pos hadmits, ExtTreeMap.getElem?_union, hm]
    rfl
  · exact .inr (rejected_of_not_admits hadmits)

/-! ## All maps -/

/-- The maps are merged in their order. -/
def mergeAll (isSealed : α → Bool) (merged : ExtTreeMap α β) (maps : List (ExtTreeMap α β)) :
    ExtTreeMap α β :=
  maps.foldl (mergeInto isSealed) merged

theorem subMap_mergeAll (merged : ExtTreeMap α β) (maps : List (ExtTreeMap α β)) :
    SubMap merged (mergeAll isSealed merged maps) := by
  induction maps generalizing merged with
  | nil => exact .refl merged
  | cons m maps ih => exact subMap_mergeInto.trans (ih _)

theorem entry_mergeAll {k : α} {v : β} {merged : ExtTreeMap α β} {maps : List (ExtTreeMap α β)}
    (hk : (mergeAll isSealed merged maps)[k]? = some v) :
    merged[k]? = some v ∨ (∃ m ∈ maps, m[k]? = some v) ∧ isSealed k = false := by
  induction maps generalizing merged with
  | nil => exact .inl hk
  | cons m maps ih =>
      rcases ih hk with hstep | ⟨⟨m', hm', hv⟩, hsealed⟩
      · rcases entry_mergeInto hstep with hold | ⟨hv, hsealed⟩
        · exact .inl hold
        · exact .inr ⟨⟨m, List.mem_cons_self, hv⟩, hsealed⟩
      · exact .inr ⟨⟨m', List.mem_cons_of_mem _ hm', hv⟩, hsealed⟩

/-- A rejection stays justified while the map grows. -/
theorem Rejected.mergeAll (h : Rejected isSealed merged m) (maps : List (ExtTreeMap α β)) :
    Rejected isSealed (mergeAll isSealed merged maps) m := by
  obtain ⟨k, v, hm, ⟨current, hk, hne⟩ | ⟨hsealed, hnone⟩⟩ := h
  · exact ⟨k, v, hm, .inl ⟨current, subMap_mergeAll _ maps k current hk, hne⟩⟩
  · refine ⟨k, v, hm, .inr ⟨hsealed, ?_⟩⟩
    rw [Option.eq_none_iff_forall_ne_some]
    intro v' hk
    rcases entry_mergeAll hk with hold | ⟨-, hopen⟩
    · simp [hnone] at hold
    · simp [hsealed] at hopen

/-- Each of the maps is merged, or its rejection is justified by the end result. -/
theorem subMap_or_rejected (merged : ExtTreeMap α β) (maps : List (ExtTreeMap α β)) :
    ∀ m ∈ maps, SubMap m (mergeAll isSealed merged maps) ∨
      Rejected isSealed (mergeAll isSealed merged maps) m := by
  induction maps generalizing merged with
  | nil => simp
  | cons first maps ih =>
      intro m hm
      rcases List.mem_cons.mp hm with rfl | hm
      · rcases subMap_or_rejected_mergeInto isSealed merged m with hsub | hrejected
        · exact .inl (hsub.trans (subMap_mergeAll _ maps))
        · exact .inr (hrejected.mergeAll (m :: maps))
      · exact ih _ m hm

end Collect
