import Mathlib.Algebra.BigOperators.Group.List.Basic
import Mathlib.Algebra.Order.BigOperators.Group.List
import Mathlib.Data.List.Basic
import Mathlib.Tactic.Linarith

/-!
# Levelling

Units are given out one at a time to a row of vessels, each with a size and a limit, so
that the sizes come out as even as the limits allow. The row is kept in three parts:
the vessels that were found full, those raised in the current round, and the rest,
which is sorted. One turn looks at the first of the rest only, raises it or sets it
aside, and then goes on to the next one if that is lower and back to the start if
not.

* `Fills` is the run of the turns;
* `Row.Inv` is what makes looking at the first one enough: it is a lowest one;
* `Fills.sum_map`, `Fills.perm_map` — nothing is lost on the way;
* `Fills.fair` — a vessel that was given something exceeds no other that has room by
  more than one;
* `Row.Takes.exists_turn`, `Turn.measure` — a row with room for all units has a next turn,
  and the turns are no more than the units and vessels;
* `exists_fills` — such a row takes the units.
-/

namespace Fill

/-- Vessels: what they started with, what they hold, and how much they can hold. -/
structure Vessel (α : Type) where
  start : α → Int
  size : α → Int
  limit : α → Int
  raise : α → α
  start_raise : ∀ a, start (raise a) = start a
  size_raise : ∀ a, size (raise a) = size a + 1
  limit_raise : ∀ a, limit (raise a) = limit a

/-- A row of vessels. -/
structure Row (α : Type) where
  full : List α
  raised : List α
  rest : List α

namespace Row

variable {α : Type}

/-- Those that still take part. -/
def active (row : Row α) : List α := row.raised ++ row.rest

/-- All of them, in their order. -/
def items (row : Row α) : List α := row.full ++ row.active

end Row

section

variable {α : Type} (v : Vessel α)

/-- The vessel in hand was raised, or has just come there: on to the next one if it is
lower, and back to the start if not. -/
def moveOn (full raised : List α) (a : α) : List α → Row α
  | [] => ⟨full, [], raised ++ [a]⟩
  | b :: tail =>
      if v.size b < v.size a then ⟨full, raised ++ [a], b :: tail⟩
      else ⟨full, [], raised ++ a :: b :: tail⟩

/-- `n` units are given out, which leads from one row to another. A full vessel changes
places with the first of the raised ones, if there are any. -/
inductive Fills : Row α → Int → Row α → Prop
  | done {row : Row α} {n : Int} (hn : n ≤ 0) : Fills row n row
  | raise {full raised tail : List α} {a : α} {n : Int} {row : Row α} (hn : 0 < n)
      (hroom : v.size a < v.limit a)
      (hnext : Fills (moveOn v full raised (v.raise a) tail) (n - 1) row) :
      Fills ⟨full, raised, a :: tail⟩ n row
  | setAside {full tail : List α} {a : α} {n : Int} {row : Row α} (hn : 0 < n)
      (hfull : v.limit a ≤ v.size a) (hnext : Fills ⟨full ++ [a], [], tail⟩ n row) :
      Fills ⟨full, [], a :: tail⟩ n row
  | swap {full raised tail : List α} {r a : α} {n : Int} {row : Row α} (hn : 0 < n)
      (hfull : v.limit a ≤ v.size a)
      (hnext : Fills (moveOn v (full ++ [a]) raised r tail) n row) :
      Fills ⟨full, r :: raised, a :: tail⟩ n row

variable {v}

@[simp] theorem moveOn_full (full raised : List α) (a : α) (tail : List α) :
    (moveOn v full raised a tail).full = full := by
  unfold moveOn
  split
  · rfl
  · split <;> rfl

@[simp] theorem moveOn_active (full raised : List α) (a : α) (tail : List α) :
    (moveOn v full raised a tail).active = raised ++ a :: tail := by
  unfold moveOn
  split
  · rfl
  · split <;> simp [Row.active]

@[simp] theorem moveOn_items (full raised : List α) (a : α) (tail : List α) :
    (moveOn v full raised a tail).items = full ++ (raised ++ a :: tail) := by
  rw [Row.items, moveOn_full, moveOn_active]

/-! ## The invariant -/

variable (v) in
/-- The rest is sorted, and the raised ones are one above its first. -/
structure Row.Inv (row : Row α) : Prop where
  full : ∀ a ∈ row.full, v.limit a ≤ v.size a
  sorted : row.rest.Pairwise fun a b => v.size a ≤ v.size b
  raised : ∀ a ∈ row.raised, ∃ b ∈ row.rest.head?, v.size a = v.size b + 1

/-- The first of the rest is a lowest one. -/
theorem Row.Inv.size_le {full raised tail : List α} {a : α}
    (hinv : Row.Inv v ⟨full, raised, a :: tail⟩) :
    ∀ b ∈ raised ++ a :: tail, v.size a ≤ v.size b := by
  intro b hb
  rcases List.mem_append.mp hb with hb | hb
  · obtain ⟨_, ⟨⟩, hsize⟩ := hinv.raised b hb
    omega
  · rcases List.mem_cons.mp hb with rfl | hb
    · exact le_rfl
    · exact (List.pairwise_cons.mp hinv.sorted).1 b hb

theorem Row.Inv.raised_eq {full raised tail : List α} {a : α}
    (hinv : Row.Inv v ⟨full, raised, a :: tail⟩) :
    ∀ b ∈ raised, v.size b = v.size a + 1 := by
  intro b hb
  obtain ⟨_, ⟨⟩, hsize⟩ := hinv.raised b hb
  exact hsize

/-- A row of the vessel in hand with raised ones as high, and a tail at most one lower. -/
theorem moveOn_inv {full raised tail : List α} {a : α}
    (hfull : ∀ b ∈ full, v.limit b ≤ v.size b) (hraised : ∀ b ∈ raised, v.size b = v.size a)
    (hsorted : tail.Pairwise fun b c => v.size b ≤ v.size c)
    (htail : ∀ b ∈ tail, v.size a ≤ v.size b + 1) :
    (moveOn v full raised a tail).Inv v := by
  have hsame : ∀ b ∈ raised ++ [a], v.size b = v.size a := by
    intro b hb
    rcases List.mem_append.mp hb with hb | hb
    · exact hraised b hb
    · rw [List.mem_singleton.mp hb]
  have hlevel : (raised ++ [a]).Pairwise fun b c => v.size b ≤ v.size c :=
    List.pairwise_of_forall_mem_list fun b hb c hc => by rw [hsame b hb, hsame c hc]
  unfold moveOn
  split
  case h_1 => exact ⟨hfull, hlevel, by simp⟩
  case h_2 b tail =>
    split
    case isTrue hlower =>
      refine ⟨hfull, hsorted, fun c hc => ⟨b, rfl, ?_⟩⟩
      have hb := htail b List.mem_cons_self
      rw [hsame c hc]
      omega
    case isFalse hlower =>
      refine ⟨hfull, ?_, by simp⟩
      rw [show raised ++ a :: b :: tail = (raised ++ [a]) ++ b :: tail by simp]
      refine List.pairwise_append.mpr ⟨hlevel, hsorted, fun c hc d hd => ?_⟩
      rw [hsame c hc]
      rcases List.mem_cons.mp hd with rfl | hd
      · exact Int.not_lt.mp hlower
      · exact (Int.not_lt.mp hlower).trans ((List.pairwise_cons.mp hsorted).1 d hd)

/-! ## One turn -/

section

variable {full raised tail : List α} {a : α}

theorem Row.Inv.raise (hinv : Row.Inv v ⟨full, raised, a :: tail⟩) :
    (moveOn v full raised (v.raise a) tail).Inv v := by
  obtain ⟨hlow, hsorted⟩ := List.pairwise_cons.mp hinv.sorted
  refine moveOn_inv hinv.full (fun b hb => ?_) hsorted fun b hb => ?_
  · rw [hinv.raised_eq b hb, v.size_raise]
  · have hb' := hlow b hb
    rw [v.size_raise]
    omega

theorem Row.Inv.setAside (hinv : Row.Inv v ⟨full, [], a :: tail⟩)
    (hfull : v.limit a ≤ v.size a) : Row.Inv v ⟨full ++ [a], [], tail⟩ := by
  obtain ⟨-, hsorted⟩ := List.pairwise_cons.mp hinv.sorted
  refine ⟨fun b hb => ?_, hsorted, by simp⟩
  rcases List.mem_append.mp hb with hb | hb
  · exact hinv.full b hb
  · rwa [List.mem_singleton.mp hb]

theorem Row.Inv.swap {r : α} (hinv : Row.Inv v ⟨full, r :: raised, a :: tail⟩)
    (hfull : v.limit a ≤ v.size a) : (moveOn v (full ++ [a]) raised r tail).Inv v := by
  obtain ⟨hlow, hsorted⟩ := List.pairwise_cons.mp hinv.sorted
  have hr := hinv.raised_eq r List.mem_cons_self
  refine moveOn_inv (fun b hb => ?_) (fun b hb => ?_) hsorted fun b hb => ?_
  · rcases List.mem_append.mp hb with hb | hb
    · exact hinv.full b hb
    · rwa [List.mem_singleton.mp hb]
  · rw [hinv.raised_eq b (List.mem_cons_of_mem _ hb), hr]
  · have hb' := hlow b hb
    omega

end

theorem Fills.inv {row row' : Row α} {n : Int} (hfills : Fills v row n row')
    (hinv : row.Inv v) : row'.Inv v := by
  induction hfills with
  | done hn => exact hinv
  | raise hn hroom hnext ih => exact ih hinv.raise
  | setAside hn hfull hnext ih => exact ih (hinv.setAside hfull)
  | swap hn hfull hnext ih => exact ih (hinv.swap hfull)

/-! ## Nothing is lost -/

theorem swap_perm (full raised tail : List α) (r a : α) :
    ((full ++ [a]) ++ (raised ++ r :: tail)).Perm (full ++ (r :: raised ++ a :: tail)) := by
  rw [List.append_assoc]
  refine List.Perm.append_left full ?_
  have hout : (a :: (raised ++ r :: tail)).Perm (a :: r :: (raised ++ tail)) :=
    List.perm_middle.cons a
  have hin : (r :: a :: (raised ++ tail)).Perm (r :: (raised ++ a :: tail)) :=
    List.perm_middle.symm.cons r
  exact (hout.trans (List.Perm.swap r a _)).trans hin

/-- What raising does not change is only permuted. -/
theorem Fills.perm_map {β : Type} {g : α → β} (hg : ∀ a, g (v.raise a) = g a)
    {row row' : Row α} {n : Int} (hfills : Fills v row n row') :
    (row'.items.map g).Perm (row.items.map g) := by
  induction hfills with
  | done hn => exact List.Perm.refl _
  | raise hn hroom hnext ih =>
      refine ih.trans (List.Perm.of_eq ?_)
      rw [moveOn_items]
      simp [Row.items, Row.active, hg]
  | setAside hn hfull hnext ih =>
      refine ih.trans (List.Perm.of_eq ?_)
      simp [Row.items, Row.active]
  | swap hn hfull hnext ih =>
      rw [moveOn_items] at ih
      exact ih.trans ((swap_perm _ _ _ _ _).map g)

/-- What raising a vessel with room preserves holds of all of them. -/
theorem Fills.forall_items {P : α → Prop} (hP : ∀ a, P a → v.size a < v.limit a → P (v.raise a))
    {row row' : Row α} {n : Int} (hfills : Fills v row n row') (hall : ∀ a ∈ row.items, P a) :
    ∀ a ∈ row'.items, P a := by
  induction hfills with
  | done hn => exact hall
  | @raise full raised tail a n row hn hroom hnext ih =>
      refine ih fun b hb => ?_
      rw [moveOn_items] at hb
      simp only [List.mem_append, List.mem_cons] at hb
      simp only [Row.items, Row.active, List.mem_append, List.mem_cons] at hall
      rcases hb with hb | hb | rfl | hb
      · exact hall b (by simp [hb])
      · exact hall b (by simp [hb])
      · exact hP a (hall a (by simp)) hroom
      · exact hall b (by simp [hb])
  | setAside hn hfull hnext ih =>
      refine ih fun b hb => hall b ?_
      simpa [Row.items, Row.active] using hb
  | swap hn hfull hnext ih =>
      refine ih fun b hb => hall b ?_
      rw [moveOn_items] at hb
      exact (swap_perm _ _ _ _ _).subset hb

/-- What raising increases by one increases by the units in all. -/
theorem Fills.sum_map {f : α → Int} (hf : ∀ a, f (v.raise a) = f a + 1) {row row' : Row α}
    {n : Int} (hfills : Fills v row n row') :
    (row'.items.map f).sum = (row.items.map f).sum + max 0 n := by
  induction hfills with
  | done hn => omega
  | raise hn hroom hnext ih =>
      rw [ih, moveOn_items]
      simp only [Row.items, Row.active, List.map_append, List.map_cons, List.sum_append,
        List.sum_cons, hf]
      omega
  | setAside hn hfull hnext ih =>
      rw [ih]
      simp [Row.items, Row.active]
  | swap hn hfull hnext ih =>
      rw [ih, moveOn_items, ((swap_perm _ _ _ _ _).map f).sum_eq]
      rfl

/-! ## Fairness -/

variable (v) in
/-- A vessel that was given something exceeds none that takes part by more than one. -/
def Row.Fair (row : Row α) : Prop :=
  ∀ a ∈ row.items, v.start a < v.size a → ∀ b ∈ row.active, v.size a ≤ v.size b + 1

theorem Row.Fair.raise {full raised tail : List α} {a : α}
    (hfair : Row.Fair v ⟨full, raised, a :: tail⟩)
    (hinv : Row.Inv v ⟨full, raised, a :: tail⟩) :
    (moveOn v full raised (v.raise a) tail).Fair v := by
  intro c hc hgiven b hb
  rw [moveOn_items] at hc
  rw [moveOn_active] at hb
  have hraise := v.size_raise a
  simp only [List.mem_append, List.mem_cons] at hc hb
  by_cases hnew : c = v.raise a
  · -- the one raised was a lowest one
    subst hnew
    have hlow := hinv.size_le
    simp only [List.mem_append, List.mem_cons] at hlow
    rcases hb with hb | rfl | hb
    · have := hlow b (.inl hb)
      omega
    · omega
    · have := hlow b (.inr (.inr hb))
      omega
  · -- the others were fair to it before
    have hold : c ∈ (Row.mk full raised (a :: tail)).items := by
      simp only [Row.items, Row.active, List.mem_append, List.mem_cons]
      tauto
    have hfair' := hfair c hold hgiven
    simp only [Row.active, List.mem_append, List.mem_cons] at hfair'
    rcases hb with hb | rfl | hb
    · exact hfair' b (.inl hb)
    · have := hfair' a (.inr (.inl rfl))
      omega
    · exact hfair' b (.inr (.inr hb))

theorem Fills.fair {row row' : Row α} {n : Int} (hfills : Fills v row n row')
    (hinv : row.Inv v) (hfair : row.Fair v) : row'.Fair v := by
  induction hfills with
  | done hn => exact hfair
  | raise hn hroom hnext ih => exact ih hinv.raise (hfair.raise hinv)
  | setAside hn hfull hnext ih =>
      refine ih (hinv.setAside hfull) fun c hc hgiven b hb => ?_
      refine hfair c ?_ hgiven b ?_
      · simpa [Row.items, Row.active] using hc
      · exact List.mem_cons_of_mem _ hb
  | swap hn hfull hnext ih =>
      refine ih (hinv.swap hfull) fun c hc hgiven b hb => ?_
      rw [moveOn_items] at hc
      rw [moveOn_active] at hb
      refine hfair c ((swap_perm _ _ _ _ _).subset hc) hgiven b ?_
      simp only [Row.active, List.mem_append, List.mem_cons] at hb ⊢
      tauto

/-! ## Room for all -/

variable (v) in
/-- How many units a list of vessels can take. -/
def room (l : List α) : Int := (l.map fun a => max 0 (v.limit a - v.size a)).sum

variable (v) in
/-- A row that can take `n` units. -/
structure Row.Takes (row : Row α) (n : Int) : Prop where
  inv : row.Inv v
  room : n ≤ room v row.active

namespace Row.Takes

variable {full raised tail : List α} {a : α} {n : Int}

/-- As long as there are units, there is a vessel in hand: without a rest nothing is raised,
and there is no room. -/
theorem exists_rest {row : Row α} (htakes : row.Takes v n) (hn : 0 < n) :
    ∃ a tail, row.rest = a :: tail := by
  obtain ⟨full, raised, rest⟩ := row
  cases rest with
  | cons a tail => exact ⟨a, tail, rfl⟩
  | nil =>
      have hnone : raised = [] := by
        refine List.eq_nil_iff_forall_not_mem.mpr fun a ha => ?_
        obtain ⟨b, hb, -⟩ := htakes.inv.raised a ha
        cases hb
      have hroom := htakes.room
      simp only [hnone, Fill.room, Row.active, List.append_nil, List.map_nil, List.sum_nil]
        at hroom
      omega

theorem raise (htakes : Row.Takes v ⟨full, raised, a :: tail⟩ n)
    (hroom : v.size a < v.limit a) :
    (moveOn v full raised (v.raise a) tail).Takes v (n - 1) := by
  refine ⟨htakes.inv.raise, ?_⟩
  have htotal := htakes.room
  rw [moveOn_active]
  simp only [Fill.room, Row.active, List.map_append, List.map_cons, List.sum_append,
    List.sum_cons, v.size_raise, v.limit_raise] at htotal ⊢
  omega

theorem setAside (htakes : Row.Takes v ⟨full, [], a :: tail⟩ n)
    (hfull : v.limit a ≤ v.size a) : Row.Takes v ⟨full ++ [a], [], tail⟩ n := by
  refine ⟨htakes.inv.setAside hfull, ?_⟩
  have hnothing : max 0 (v.limit a - v.size a) = 0 := by omega
  simpa [Fill.room, Row.active, hnothing] using htakes.room

theorem swap {r : α} (htakes : Row.Takes v ⟨full, r :: raised, a :: tail⟩ n)
    (hfull : v.limit a ≤ v.size a) :
    (moveOn v (full ++ [a]) raised r tail).Takes v n := by
  refine ⟨htakes.inv.swap hfull, ?_⟩
  have hnothing : max 0 (v.limit a - v.size a) = 0 := by omega
  have htotal := htakes.room
  rw [moveOn_active]
  simp only [Fill.room, Row.active, List.map_append, List.map_cons, List.sum_append,
    List.sum_cons, List.cons_append, hnothing] at htotal ⊢
  omega

end Row.Takes

/-! ## Turn by turn -/

variable (v) in
/-- One turn, from a row with `n` units left to another. -/
inductive Turn : Row α → Int → Row α → Int → Prop
  | raise {full raised tail : List α} {a : α} {n : Int} (hroom : v.size a < v.limit a) :
      Turn ⟨full, raised, a :: tail⟩ n (moveOn v full raised (v.raise a) tail) (n - 1)
  | setAside {full tail : List α} {a : α} {n : Int} (hfull : v.limit a ≤ v.size a) :
      Turn ⟨full, [], a :: tail⟩ n ⟨full ++ [a], [], tail⟩ n
  | swap {full raised tail : List α} {r a : α} {n : Int} (hfull : v.limit a ≤ v.size a) :
      Turn ⟨full, r :: raised, a :: tail⟩ n (moveOn v (full ++ [a]) raised r tail) n

section

variable {row row' row'' : Row α} {n n' : Int}

/-- A row that can take its units has a turn. -/
theorem Row.Takes.exists_turn (htakes : row.Takes v n) (hn : 0 < n) :
    ∃ row' n', Turn v row n row' n' := by
  obtain ⟨a, tail, hrest⟩ := htakes.exists_rest hn
  obtain ⟨full, raised, rest⟩ := row
  subst hrest
  by_cases ha : v.size a < v.limit a
  · exact ⟨_, _, .raise ha⟩
  · have hfull : v.limit a ≤ v.size a := Int.not_lt.mp ha
    cases raised with
    | nil => exact ⟨_, _, .setAside hfull⟩
    | cons r raised => exact ⟨_, _, .swap hfull⟩

theorem Row.Takes.turn (htakes : row.Takes v n) (hturn : Turn v row n row' n') :
    row'.Takes v n' := by
  cases hturn with
  | raise hroom => exact htakes.raise hroom
  | setAside hfull => exact htakes.setAside hfull
  | swap hfull => exact htakes.swap hfull

/-- Every turn takes a unit away, or a vessel. -/
theorem Turn.measure (hturn : Turn v row n row' n') (hn : 0 < n) :
    n'.toNat + row'.active.length + 1 = n.toNat + row.active.length := by
  cases hturn with
  | raise hroom =>
      rw [moveOn_active]
      simp only [Row.active, List.length_append, List.length_cons]
      omega
  | setAside hfull =>
      simp only [Row.active, List.length_append, List.length_cons]
      omega
  | swap hfull =>
      rw [moveOn_active]
      simp only [Row.active, List.length_append, List.length_cons]
      omega

theorem Turn.fills (hturn : Turn v row n row' n') (hn : 0 < n) (hnext : Fills v row' n' row'') :
    Fills v row n row'' := by
  cases hturn with
  | raise hroom => exact .raise hn hroom hnext
  | setAside hfull => exact .setAside hn hfull hnext
  | swap hfull => exact .swap hn hfull hnext

/-- A run is over, or has a first turn. -/
theorem Fills.cases_turn (hfills : Fills v row n row'') :
    n ≤ 0 ∧ row'' = row ∨
      0 < n ∧ ∃ row' n', Turn v row n row' n' ∧ Fills v row' n' row'' := by
  cases hfills with
  | done hn => exact .inl ⟨hn, rfl⟩
  | raise hn hroom hnext => exact .inr ⟨hn, _, _, .raise hroom, hnext⟩
  | setAside hn hfull hnext => exact .inr ⟨hn, _, _, .setAside hfull, hnext⟩
  | swap hn hfull hnext => exact .inr ⟨hn, _, _, .swap hfull, hnext⟩

/-- If there is room for all units, they are given out. -/
theorem exists_fills (row : Row α) (n : Int) (hinv : row.Inv v) (hroom : n ≤ room v row.active) :
    ∃ row', Fills v row n row' := by
  have htakes : row.Takes v n := ⟨hinv, hroom⟩
  clear hinv hroom
  induction hm : n.toNat + row.active.length generalizing row n with
  | zero => exact ⟨row, .done (by omega)⟩
  | succ m ih =>
      by_cases hn : 0 < n
      · obtain ⟨row', n', hturn⟩ := htakes.exists_turn hn
        have hmeasure := hturn.measure hn
        obtain ⟨row'', hfills⟩ := ih row' n' (htakes.turn hturn) (by omega)
        exact ⟨row'', hturn.fills hn hfills⟩
      · exact ⟨row, .done (Int.not_lt.mp hn)⟩

end

end

end Fill
