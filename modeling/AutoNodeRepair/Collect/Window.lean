import Mathlib.Data.List.DropRight
import Mathlib.Order.Lattice

/-!
# Keeping the recent items

A list that only grows is kept short by dropping what nobody will ask for again: all but
the last `n` items, and of those the leading ones that are too old. What is *due* is
defined on the whole history (`due`); a shortened list *stands for* it if it has the same
items due from some threshold on, whatever is added to both. Shortening keeps that
(`StandsFor.shorten`), although it decides by two criteria that move at different speeds.
-/

namespace Collect

variable {α τ : Type} [LinearOrder τ] (stamp : α → τ)

/-- The items among the last `n` that are newer than the threshold. -/
def due (n : Nat) (threshold : τ) (l : List α) : List α :=
  (l.rtake n).filter fun a => threshold < stamp a

/-- The last `n` items from the first on that is newer than the threshold. -/
def shorten (n : Nat) (threshold : τ) (l : List α) : List α :=
  (l.rtake n).dropWhile fun a => !decide (threshold < stamp a)

/-- From the threshold on, the same items are due of both, also when both grow. -/
def StandsFor (n : Nat) (threshold : τ) (kept history : List α) : Prop :=
  ∀ later, threshold ≤ later → ∀ new,
    due stamp n later (kept ++ new) = due stamp n later (history ++ new)

/-! ## The last items -/

theorem rtake_append (n : Nat) (l l' : List α) :
    (l ++ l').rtake n = l.rtake (n - l'.length) ++ l'.rtake n := by
  simp [List.rtake_eq_reverse_take_reverse, List.take_append]

theorem rtake_of_length_le {n : Nat} {l : List α} (h : l.length ≤ n) : l.rtake n = l := by
  simp [List.rtake, h]

theorem rtake_suffix_rtake {n n' : Nat} (h : n ≤ n') (l : List α) : l.rtake n <:+ l.rtake n' := by
  rw [List.rtake, List.rtake]
  exact List.drop_suffix_drop_left l (by omega)

theorem shorten_suffix (n : Nat) (threshold : τ) (l : List α) :
    shorten stamp n threshold l <:+ l :=
  (List.dropWhile_suffix _).trans (List.drop_suffix _ l)

variable {stamp}

theorem length_shorten_le (n : Nat) (threshold : τ) (l : List α) :
    (shorten stamp n threshold l).length ≤ n := by
  refine (List.dropWhile_suffix _).length_le.trans ?_
  simp only [List.rtake, List.length_drop]
  omega

/-- In chronological order, what is left after the old ones is what is new. -/
theorem shorten_eq_due {n : Nat} {threshold : τ} {l : List α}
    (hl : l.Pairwise fun a b => stamp a ≤ stamp b) :
    shorten stamp n threshold l = due stamp n threshold l := by
  have hlast := hl.sublist (List.drop_suffix (l.length - n) l).sublist
  unfold shorten due
  rw [List.rtake]
  generalize l.drop (l.length - n) = last at hlast
  induction last with
  | nil => rfl
  | cons a rest ih =>
      obtain ⟨hfirst, hrest⟩ := List.pairwise_cons.mp hlast
      rw [List.dropWhile_cons, List.filter_cons]
      by_cases hnew : threshold < stamp a
      · have hall : rest.filter (fun b => threshold < stamp b) = rest :=
          List.filter_eq_self.mpr fun b hb => by simpa using lt_of_lt_of_le hnew (hfirst b hb)
        simp [hnew, hall]
      · simpa [hnew] using ih hrest

/-! ## Shortening -/

/-- What is cut off is beyond the last `n`, or too old. -/
theorem old_of_cut {n : Nat} {threshold : τ} {l cut : List α}
    (hcut : cut ++ shorten stamp n threshold l = l) :
    ∀ a ∈ cut.rtake (n - (shorten stamp n threshold l).length), stamp a ≤ threshold := by
  have hsplit : l.rtake n =
      cut.rtake (n - (shorten stamp n threshold l).length) ++ shorten stamp n threshold l := by
    conv_lhs => rw [← hcut]
    rw [rtake_append, rtake_of_length_le (length_shorten_le n threshold l)]
  have hdropped : (l.rtake n).takeWhile (fun a => !decide (threshold < stamp a)) =
      cut.rtake (n - (shorten stamp n threshold l).length) := by
    have hboth := List.takeWhile_append_dropWhile (p := fun a => !decide (threshold < stamp a))
      (l := l.rtake n)
    exact List.append_cancel_right (hboth.trans hsplit)
  intro a ha
  rw [← hdropped] at ha
  simpa using List.mem_takeWhile_imp ha

/-- The shortened list stands for the long one, from this threshold on. -/
theorem standsFor_shorten (n : Nat) (threshold : τ) (l : List α) :
    StandsFor stamp n threshold (shorten stamp n threshold l) l := by
  intro later hlater new
  obtain ⟨cut, hcut⟩ := shorten_suffix stamp n threshold l
  have hold := old_of_cut hcut
  -- of what was cut off, nothing in the window is new enough
  have hnone : (cut.rtake (n - (shorten stamp n threshold l ++ new).length)).filter
      (fun a => later < stamp a) = [] := by
    rw [List.filter_eq_nil_iff]
    intro a ha
    have hmem := (rtake_suffix_rtake (show n - (shorten stamp n threshold l ++ new).length ≤
      n - (shorten stamp n threshold l).length by simp; omega) cut).subset ha
    simpa using (hold a hmem).trans hlater
  unfold due
  conv_rhs => rw [← hcut, List.append_assoc, rtake_append, List.filter_append, hnone]
  rw [List.nil_append]

namespace StandsFor

variable {n : Nat} {threshold later : τ} {kept history : List α}

theorem refl (n : Nat) (threshold : τ) (l : List α) : StandsFor stamp n threshold l l :=
  fun _ _ _ => rfl

theorem append (h : StandsFor stamp n threshold kept history) (new : List α) :
    StandsFor stamp n threshold (kept ++ new) (history ++ new) := by
  intro later hlater new'
  simpa [List.append_assoc] using h later hlater (new ++ new')

theorem shorten (h : StandsFor stamp n threshold kept history) (hlater : threshold ≤ later) :
    StandsFor stamp n later (shorten stamp n later kept) history := by
  intro later' hlater' new
  rw [standsFor_shorten n later kept later' hlater' new]
  exact h later' (hlater.trans hlater') new

theorem due_eq (h : StandsFor stamp n threshold kept history) (hlater : threshold ≤ later) :
    due stamp n later kept = due stamp n later history := by
  simpa using h later hlater []

end StandsFor

end Collect
