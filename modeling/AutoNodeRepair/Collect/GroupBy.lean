import Mathlib.Algebra.BigOperators.Group.Finset.Piecewise

/-!
# Accumulating by key

A loop that files every item under its key, in a table of accumulators, and an
item without a key nowhere. Read at a key, the table is the plain loop over the
items of that key (`foldl_file_apply`); and what is counted over all items is
what is counted key by key, plus what is counted without one
(`countP_eq_sum_keys`).
-/

namespace Collect

variable {α κ σ : Type} [DecidableEq κ]

/-- One item goes to the accumulator of its key, which starts from `init`. -/
def file (key : α → Option κ) (step : σ → α → σ) (init : σ) (table : κ → Option σ) (a : α) :
    κ → Option σ :=
  match key a with
  | some k => Function.update table k (some (step ((table k).getD init) a))
  | none => table

/-- The items filed under a key, or without one. -/
def filed (key : α → Option κ) (k : Option κ) (l : List α) : List α :=
  l.filter fun a => key a = k

theorem filed_cons (key : α → Option κ) (k : Option κ) (a : α) (l : List α) :
    filed key k (a :: l) = if key a = k then a :: filed key k l else filed key k l := by
  simp [filed, List.filter_cons]

/-- The table at a key is the loop over the items of that key. -/
theorem foldl_file_apply (key : α → Option κ) (step : σ → α → σ) (init : σ) (l : List α)
    (table : κ → Option σ) (k : κ) :
    l.foldl (file key step init) table k =
      if filed key (some k) l = [] then table k
      else some ((filed key (some k) l).foldl step ((table k).getD init)) := by
  induction l generalizing table with
  | nil => simp [filed]
  | cons a l ih =>
      rw [List.foldl_cons, ih, filed_cons]
      by_cases hkey : key a = some k
      · have hstep : file key step init table a k = some (step ((table k).getD init) a) := by
          simp [file, hkey]
        rw [if_pos hkey, hstep, if_neg (List.cons_ne_nil _ _), List.foldl_cons]
        by_cases hnone : filed key (some k) l = []
        · simp [hnone]
        · simp [hnone]
      · have hstep : file key step init table a k = table k := by
          unfold file
          cases hk' : key a with
          | none => rfl
          | some k' => exact Function.update_of_ne (by rintro rfl; exact hkey hk') _ _
        rw [if_neg hkey, hstep]

/-- A count over all items is the sum of the counts by key and of the rest. -/
theorem countP_eq_sum_keys (key : α → Option κ) (q : α → Bool) (l : List α) {keys : Finset κ}
    (hkeys : ∀ a ∈ l, ∀ k, key a = some k → k ∈ keys) :
    l.countP q = ∑ k ∈ keys, (filed key (some k) l).countP q + (filed key none l).countP q := by
  induction l with
  | nil => simp [filed]
  | cons a l ih =>
      have hrest := ih fun b hb => hkeys b (List.mem_cons_of_mem _ hb)
      simp only [filed_cons, List.countP_cons, hrest]
      cases hkey : key a with
      | none => simp [List.countP_cons, Nat.add_assoc]
      | some k =>
          have hmem : k ∈ keys := hkeys a List.mem_cons_self k hkey
          have hsplit : ∀ k' ∈ keys,
              (if some k = some k' then a :: filed key (some k') l
                else filed key (some k') l).countP q =
              (filed key (some k') l).countP q + if k' = k then (if q a then 1 else 0) else 0 := by
            intro k' _
            by_cases hk : k' = k
            · simp [hk, List.countP_cons]
            · simp [hk, Ne.symm hk]
          rw [Finset.sum_congr rfl hsplit, Finset.sum_add_distrib, Finset.sum_ite_eq' keys k]
          simp only [hmem, if_true, reduceCtorEq, if_false]
          omega

end Collect
