import Mathlib.Order.Bounds.Basic

/-!
# Dating a value

A cell that is observed again and again, and remembers beside the value the stamp
of the observation since which it has had it. It never looks back further than one
observation, but the stamp is that of the whole unbroken stretch
(`stamp_of_dated`): of the least index from which on every observation showed the
value.
-/

namespace Collect

variable {α τ : Type}

/-- The indices from which on, up to `n`, every observation satisfies `p`. -/
def stretches (p : ℕ → Prop) (n : ℕ) : Set ℕ :=
  {j | j ≤ n ∧ ∀ k, j ≤ k → k ≤ n → p k}

section

variable {p : ℕ → Prop} {n j : ℕ}

theorem isLeast_stretches_zero (hp : p 0) : IsLeast (stretches p 0) 0 := by
  refine ⟨⟨le_rfl, fun k _ hk => ?_⟩, fun _ _ => Nat.zero_le _⟩
  rwa [Nat.le_zero.mp hk]

/-- One more observation of the same value. -/
theorem isLeast_stretches_succ (hleast : IsLeast (stretches p n) j) (hp : p (n + 1)) :
    IsLeast (stretches p (n + 1)) j := by
  obtain ⟨⟨hj, hall⟩, hlower⟩ := hleast
  refine ⟨⟨Nat.le_succ_of_le hj, ?_⟩, ?_⟩
  · intro k hjk hk
    rcases Nat.of_le_succ hk with hk | rfl
    · exact hall k hjk hk
    · exact hp
  · rintro i ⟨hi, hfrom⟩
    rcases Nat.of_le_succ hi with hi | rfl
    · exact hlower ⟨hi, fun k hik hk => hfrom k hik (Nat.le_succ_of_le hk)⟩
    · exact Nat.le_succ_of_le hj

/-- The first observation of another one. -/
theorem isLeast_stretches_new (hold : ¬p n) (hp : p (n + 1)) :
    IsLeast (stretches p (n + 1)) (n + 1) := by
  refine ⟨⟨le_rfl, fun k hk hk' => ?_⟩, ?_⟩
  · rwa [Nat.le_antisymm hk' hk]
  · rintro i ⟨hi, hfrom⟩
    by_contra hearlier
    exact hold (hfrom n (by omega) (Nat.le_succ n))

end

/-- What the cell shows after an observation stamped `stamp`, if it showed `before`: nothing,
the value it had with the stamp it had, or another value with the new stamp. -/
def Dated (before : Option (α × τ)) (stamp : Option τ) (after : Option (α × τ)) : Prop :=
  ∀ a t, after = some (a, t) →
    before = some (a, t) ∨ (∀ s, before ≠ some (a, s)) ∧ stamp = some t

/-- **The stamp of a cell.** It belongs to the observation with which the current stretch of
the value began. -/
theorem stamp_of_dated (cell : ℕ → Option (α × τ)) (stamp : ℕ → Option τ) {n : ℕ}
    (hzero : Dated none (stamp 0) (cell 0))
    (hstep : ∀ k, k < n → Dated (cell k) (stamp (k + 1)) (cell (k + 1)))
    {a : α} {t : τ} (hcell : cell n = some (a, t)) :
    ∃ j, IsLeast (stretches (fun k => ∃ s, cell k = some (a, s)) n) j ∧ stamp j = some t := by
  induction n generalizing a t with
  | zero =>
      rcases hzero a t hcell with hbefore | ⟨-, hstamp⟩
      · cases hbefore
      · exact ⟨0, isLeast_stretches_zero ⟨t, hcell⟩, hstamp⟩
  | succ n ih =>
      rcases hstep n (Nat.lt_succ_self n) a t hcell with hbefore | ⟨hother, hstamp⟩
      · obtain ⟨j, hleast, hstamp⟩ := ih (fun k hk => hstep k (Nat.lt_succ_of_lt hk)) hbefore
        exact ⟨j, isLeast_stretches_succ hleast ⟨t, hcell⟩, hstamp⟩
      · refine ⟨n + 1, isLeast_stretches_new ?_ ⟨t, hcell⟩, hstamp⟩
        rintro ⟨s, hbefore⟩
        exact hother s hbefore

end Collect
