import Std.Data.ExtTreeMap
import Mathlib.Data.Option.Defs
import Mathlib.Data.List.Basic

/-!
# Comparing maps by their columns

The values of several maps are gathered by key, and each key is judged by the list it has
got. For two maps and a test that wants two values this says that they have the same keys
and pass the test at each of them (`all_columns_iff`), so the gathering inherits the
symmetry of the test.
-/

namespace Collect

open Std

variable {α β : Type} [Ord α] [TransOrd α]

/-- A value is added to the list of its key. -/
def appendEntry (columns : ExtTreeMap α (List β)) (entry : α × β) : ExtTreeMap α (List β) :=
  columns.insert entry.1 (columns.getD entry.1 [] ++ [entry.2])

/-- The values of a map are added to the lists of their keys. -/
def appendColumns (columns : ExtTreeMap α (List β)) (m : ExtTreeMap α β) :
    ExtTreeMap α (List β) :=
  m.toList.foldl appendEntry columns

/-- The values of the maps by key, in the order of the maps. -/
def columns (maps : List (ExtTreeMap α β)) : ExtTreeMap α (List β) :=
  maps.foldl appendColumns ∅

/-- There are two values, and they pass the test. -/
def testPair (test : β → β → Bool) : List β → Bool
  | [a, b] => test a b
  | _ => false

/-- The maps have the same keys, and related values at each. -/
def Paired (r : β → β → Prop) (m m' : ExtTreeMap α β) : Prop :=
  ∀ k : α, Option.Rel r m[k]? m'[k]?

theorem Paired.symm {r : β → β → Prop} (hr : ∀ a b, r a b → r b a) {m m' : ExtTreeMap α β}
    (h : Paired r m m') : Paired r m' m := by
  intro k
  have hk := h k
  generalize m[k]? = a at hk ⊢
  generalize m'[k]? = b at hk ⊢
  cases hk with
  | none => exact .none
  | some hab => exact .some (hr _ _ hab)

theorem paired_self_iff {r : β → β → Prop} {m : ExtTreeMap α β} :
    Paired r m m ↔ ∀ (k : α) (v : β), m[k]? = some v → r v v := by
  refine forall_congr' fun k => ?_
  cases m[k]? with
  | none => simp
  | some v => simp

variable [LawfulEqOrd α]

theorem getElem?_appendEntry_self (columns : ExtTreeMap α (List β)) (k : α) (v : β) :
    (appendEntry columns (k, v))[k]? = some (columns[k]?.getD [] ++ [v]) := by
  simp [appendEntry, ExtTreeMap.getD_eq_getD_getElem?]

theorem getElem?_appendEntry_of_ne (columns : ExtTreeMap α (List β)) {entry : α × β} {k : α}
    (hk : entry.1 ≠ k) : (appendEntry columns entry)[k]? = columns[k]? := by
  simp [appendEntry, ExtTreeMap.getElem?_insert, hk]

/-- The other keys keep their lists. -/
theorem getElem?_foldl_of_ne (entries : List (α × β)) (columns : ExtTreeMap α (List β)) {k : α}
    (hk : ∀ entry ∈ entries, entry.1 ≠ k) :
    (entries.foldl appendEntry columns)[k]? = columns[k]? := by
  induction entries generalizing columns with
  | nil => rfl
  | cons entry entries ih =>
      obtain ⟨hentry, hrest⟩ := List.forall_mem_cons.mp hk
      rw [List.foldl_cons, ih _ hrest, getElem?_appendEntry_of_ne _ hentry]

/-- Of entries with distinct keys, the one of a key is added to its list. -/
theorem getElem?_foldl_of_mem (entries : List (α × β))
    (hdistinct : entries.Pairwise fun a b => a.1 ≠ b.1) (columns : ExtTreeMap α (List β)) {k : α}
    {v : β} (hmem : (k, v) ∈ entries) :
    (entries.foldl appendEntry columns)[k]? = some (columns[k]?.getD [] ++ [v]) := by
  induction entries generalizing columns with
  | nil => cases hmem
  | cons entry entries ih =>
      obtain ⟨hfirst, hrest⟩ := List.pairwise_cons.mp hdistinct
      rcases List.mem_cons.mp hmem with rfl | hmem
      · have hothers := fun other hother => (hfirst other hother).symm
        rw [List.foldl_cons, getElem?_foldl_of_ne _ _ hothers, getElem?_appendEntry_self]
      · rw [List.foldl_cons, ih hrest _ hmem, getElem?_appendEntry_of_ne _ (hfirst _ hmem)]

theorem getElem?_appendColumns (columns : ExtTreeMap α (List β)) (m : ExtTreeMap α β) (k : α) :
    (appendColumns columns m)[k]? =
      (m[k]?.map fun v => columns[k]?.getD [] ++ [v]).or columns[k]? := by
  unfold appendColumns
  have hdistinct : m.toList.Pairwise fun a b => a.1 ≠ b.1 :=
    ExtTreeMap.distinct_keys_toList.imp fun hne heq => hne (compare_eq_iff_eq.mpr heq)
  cases hm : m[k]? with
  | none =>
      refine getElem?_foldl_of_ne _ _ fun entry hentry heq => ?_
      obtain ⟨key, value⟩ := entry
      rw [ExtTreeMap.mem_toList_iff_getElem?_eq_some, show key = k from heq, hm] at hentry
      cases hentry
  | some v =>
      exact getElem?_foldl_of_mem _ hdistinct _
        (ExtTreeMap.mem_toList_iff_getElem?_eq_some.mpr hm)

/-- Two maps of which every column passes: the same keys, and related values. -/
theorem all_columns_iff (test : β → β → Bool) (m m' : ExtTreeMap α β) :
    ((columns [m, m']).toList.all fun entry => testPair test entry.2) = true ↔
      Paired (fun a b => test a b = true) m m' := by
  simp only [List.all_eq_true, Prod.forall, ExtTreeMap.mem_toList_iff_getElem?_eq_some, columns,
    List.foldl_cons, List.foldl_nil, getElem?_appendColumns, ExtTreeMap.getElem?_empty]
  refine forall_congr' fun k => ?_
  cases m[k]? with
  | none =>
      cases m'[k]? with
      | none => simp
      | some b => simp [testPair]
  | some a =>
      cases m'[k]? with
      | none => simp [testPair]
      | some b => simp [testPair]

end Collect
