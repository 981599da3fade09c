import Mathlib.Data.Finset.Card
import Mathlib.Data.List.Induction
import Mathlib.Tactic.Linarith

/-!
# Maps with a cap

A map that takes no more entries once it holds `cap` of them, and remembers in a
flag that it had to refuse one. Once the flag is up the entries are only part of
what was put in, so `Holds` is what a reader may rely on: too many, or the entry
is there. While it is down the entries are exact.

A map that is full refuses a key it has as well. So the flag does not say that more
than `cap` keys were put in, but that something was put in after `cap` of them
(`tooMany_putAll_snoc`).
-/

namespace Collect

open Std

/-- A map and its overflow flag. -/
structure CappedMap (α β : Type) [Ord α] where
  tooMany : Bool := false
  entries : ExtTreeMap α β := ∅

namespace CappedMap

variable {α β : Type} [Ord α]

/-- Removes what does not satisfy `p`, unless the flag is up. -/
def retain (p : β → Bool) (m : CappedMap α β) : CappedMap α β :=
  if m.tooMany then m else { m with entries := m.entries.filter fun _ v => p v }

theorem retain_tooMany (m : CappedMap α β) (p : β → Bool) :
    (m.retain p).tooMany = m.tooMany := by
  unfold retain
  split <;> rfl

theorem retain_entries {m : CappedMap α β} (hflag : m.tooMany = false) (p : β → Bool) :
    (m.retain p).entries = m.entries.filter fun _ v => p v := by
  simp [retain, hflag]

variable [TransOrd α]

/-- A full map raises its flag, even for a key it has. -/
def put (cap : Nat) (m : CappedMap α β) (k : α) (v : β) : CappedMap α β :=
  if cap ≤ m.entries.size then { m with tooMany := true }
  else { m with entries := m.entries.insert k v }

/-- Removes one entry. -/
def drop (m : CappedMap α β) (k : α) : CappedMap α β :=
  { m with entries := m.entries.erase k }

/-- Neither entries nor the flag. -/
def isBlank (m : CappedMap α β) : Bool :=
  !m.tooMany && m.entries.isEmpty

/-- The entry is there, or the flag is up. -/
def Holds (m : CappedMap α β) (k : α) (v : β) : Prop :=
  m.tooMany = true ∨ m.entries[k]? = some v

theorem put_of_lt {cap : Nat} {m : CappedMap α β} (hroom : m.entries.size < cap) (k : α) (v : β) :
    m.put cap k v = { m with entries := m.entries.insert k v } :=
  if_neg (by omega)

/-- Without the flag afterwards, the entry went in. -/
theorem put_entries {cap : Nat} {m : CappedMap α β} {k : α} {v : β}
    (hflag : (m.put cap k v).tooMany = false) :
    (m.put cap k v).entries = m.entries.insert k v := by
  by_cases hfull : cap ≤ m.entries.size
  · simp [put, hfull] at hflag
  · simp [put, hfull]

theorem eq_of_isBlank {m : CappedMap α β} (hblank : m.isBlank = true) : m = {} := by
  obtain ⟨hflag, hempty⟩ := by simpa [isBlank] using hblank
  cases m
  simp_all

theorem mem_entries_iff {m : CappedMap α β} {k : α} :
    k ∈ m.entries ↔ ∃ v, m.entries[k]? = some v := by
  rw [ExtTreeMap.mem_iff_isSome_getElem?, Option.isSome_iff_exists]

theorem holds_put_self (cap : Nat) (m : CappedMap α β) (k : α) (v : β) :
    (m.put cap k v).Holds k v := by
  unfold put
  split
  · exact .inl rfl
  · exact .inr ExtTreeMap.getElem?_insert_self

theorem Holds.retain {m : CappedMap α β} {k : α} {v : β} (hheld : m.Holds k v) {p : β → Bool}
    (hp : p v = true) : (m.retain p).Holds k v := by
  unfold CappedMap.retain
  split
  · exact hheld
  · refine hheld.imp id fun hentry => ?_
    simp [hentry, hp]

/-- A map that all this was put into. -/
def putAll (cap : Nat) (l : List (α × β)) : CappedMap α β :=
  l.foldl (fun m p => m.put cap p.1 p.2) {}

theorem putAll_snoc (cap : Nat) (l : List (α × β)) (p : α × β) :
    putAll cap (l ++ [p]) = (putAll cap l).put cap p.1 p.2 := by
  simp [putAll]

variable [LawfulEqOrd α]

theorem Holds.put {m : CappedMap α β} {k : α} {v : β} (hheld : m.Holds k v) (cap : Nat) {k' : α}
    (hne : k' ≠ k) (v' : β) : (m.put cap k' v').Holds k v := by
  unfold CappedMap.put
  split
  · exact .inl rfl
  · refine hheld.imp id fun hentry => ?_
    simpa [ExtTreeMap.getElem?_insert, hne] using hentry

theorem Holds.drop {m : CappedMap α β} {k : α} {v : β} (hheld : m.Holds k v) {k' : α}
    (hne : k' ≠ k) : (m.drop k').Holds k v := by
  refine hheld.imp id fun hentry => ?_
  simpa [CappedMap.drop, ExtTreeMap.getElem?_erase, hne] using hentry

/-! ## Only putting in -/

/-- The entries are of keys put in; as long as there is room, of all of them. -/
theorem mem_putAll (cap : Nat) (l : List (α × β)) :
    (∀ k ∈ (putAll cap l).entries, k ∈ l.map Prod.fst) ∧
      ((putAll cap l).entries.size < cap → ∀ k ∈ l.map Prod.fst, k ∈ (putAll cap l).entries) := by
  induction l using List.reverseRecOn with
  | nil => exact ⟨by simp [putAll], by simp⟩
  | append_singleton l p ih =>
      rw [putAll_snoc, put]
      split
      case isTrue hfull =>
        refine ⟨fun k hk => ?_, fun hroom => absurd hroom (Nat.not_lt.mpr hfull)⟩
        simp [List.map_append, ih.1 k hk]
      case isFalse hroom =>
        have hall := ih.2 (Nat.not_le.mp hroom)
        simp only [ExtTreeMap.mem_insert, List.map_append, List.mem_append, List.map_singleton,
          List.mem_singleton, Std.compare_eq_iff_eq]
        refine ⟨fun k hk => ?_, fun _ k hk => ?_⟩
        · exact hk.elim (fun heq => .inr heq.symm) fun hk => .inl (ih.1 k hk)
        · exact hk.elim (fun hk => .inr (hall k hk)) fun heq => .inl heq.symm

variable [DecidableEq α]

/-- There are as many entries as keys, up to the cap. -/
theorem size_putAll (cap : Nat) (l : List (α × β)) :
    (putAll cap l).entries.size = min cap (l.map Prod.fst).toFinset.card := by
  induction l using List.reverseRecOn with
  | nil => simp [putAll]
  | append_singleton l p ih =>
      have hkeys : ((l ++ [p]).map Prod.fst).toFinset = insert p.1 (l.map Prod.fst).toFinset := by
        ext k
        simp
      rw [putAll_snoc, put, hkeys]
      split
      case isTrue hfull =>
        have hmore := Finset.card_le_card (Finset.subset_insert p.1 (l.map Prod.fst).toFinset)
        simp only
        omega
      case isFalse hroom =>
        obtain ⟨hsome, hall⟩ := mem_putAll cap l
        rw [ExtTreeMap.size_insert]
        by_cases hk : p.1 ∈ l.map Prod.fst
        · rw [if_pos (ExtTreeMap.contains_iff_mem.mpr (hall (Nat.not_le.mp hroom) _ hk)),
            Finset.insert_eq_of_mem (List.mem_toFinset.mpr hk), ih]
        · rw [if_neg fun hentry => hk (hsome _ (ExtTreeMap.contains_iff_mem.mp hentry)),
            Finset.card_insert_of_notMem fun hmem => hk (List.mem_toFinset.mp hmem)]
          omega

/-- What comes after `cap` keys is refused, and raises the flag. -/
theorem put_putAll (cap : Nat) (l : List (α × β)) (p : α × β) :
    putAll cap (l ++ [p]) =
      if cap ≤ (l.map Prod.fst).toFinset.card then { putAll cap l with tooMany := true }
      else { putAll cap l with entries := (putAll cap l).entries.insert p.1 p.2 } := by
  have hfull : cap ≤ min cap (l.map Prod.fst).toFinset.card ↔
      cap ≤ (l.map Prod.fst).toFinset.card := by omega
  rw [putAll_snoc, put, size_putAll]
  simp only [hfull]

theorem entries_putAll_snoc {cap : Nat} {l : List (α × β)}
    (hfull : cap ≤ (l.map Prod.fst).toFinset.card) (p : α × β) :
    (putAll cap (l ++ [p])).entries = (putAll cap l).entries := by
  rw [put_putAll, if_pos hfull]

/-- The flag is up if the last key came after `cap` others, or after itself as one of
`cap`. -/
theorem tooMany_putAll_snoc (cap : Nat) (l : List (α × β)) (p : α × β) :
    (putAll cap (l ++ [p])).tooMany = true ↔ cap ≤ (l.map Prod.fst).toFinset.card := by
  -- an earlier refusal had as many keys before it
  have hearlier : (putAll cap l).tooMany = true → cap ≤ (l.map Prod.fst).toFinset.card := by
    induction l using List.reverseRecOn with
    | nil => simp [putAll]
    | append_singleton l p' ih =>
        have hmore : (l.map Prod.fst).toFinset.card ≤ ((l ++ [p']).map Prod.fst).toFinset.card :=
          Finset.card_le_card fun k hk => by simp_all
        rw [put_putAll]
        split
        case isTrue hfull => exact fun _ => hfull.trans hmore
        case isFalse => exact fun hflag => (ih hflag).trans hmore
  rw [put_putAll]
  split
  case isTrue hfull => simp [hfull]
  case isFalse hroom =>
    refine iff_of_false (fun hflag => hroom (hearlier hflag)) hroom

end CappedMap

end Collect
