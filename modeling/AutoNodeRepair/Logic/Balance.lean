import AutoNodeRepair.Fill.Levelling
import AutoNodeRepair.Model.NodeGroupSet

/-!
# The balancing loop levels

The array of the loop is a row of vessels laid out flat: the groups before `startIndex`
are full, those up to `currentIndex` were raised in this round, the others are the rest.
A turn of the loop is a turn of the row, the swap through the pointer included, and what
is known about levelling becomes a statement about the infos, `Balanced`, and about the
turns, `safe_of_after`.
-/

namespace AutoNodeRepair

open Fill

/-- A group that is being scaled up. -/
def infoVessel : Vessel ScaleUpInfo where
  start := ScaleUpInfo.currentSize
  size := ScaleUpInfo.newSize
  limit := ScaleUpInfo.maxSize
  raise info := { info with newSize := info.newSize + 1 }
  start_raise _ := rfl
  size_raise _ := rfl
  limit_raise _ := rfl

/-! ## The loop as a row -/

namespace BalanceState

/-- The row laid out in the array. -/
def ofRow (row : Row ScaleUpInfo) (newNodes : Int) : BalanceState where
  scaleUpInfos := row.items
  startIndex := row.full.length
  currentIndex := row.full.length + row.raised.length
  newNodes := newNodes

section

variable (full raised tail : List ScaleUpInfo) (info : ScaleUpInfo) (newNodes : Int)

theorem getElem?_current :
    (full ++ (raised ++ info :: tail))[full.length + raised.length]? = some info := by
  rw [← List.append_assoc, ← List.length_append]
  simp

theorem getElem?_next :
    (full ++ (raised ++ info :: tail))[full.length + raised.length + 1]? = tail[0]? := by
  have hsplit : full ++ (raised ++ info :: tail) = (full ++ raised ++ [info]) ++ tail := by simp
  have hlength : full.length + raised.length + 1 = (full ++ raised ++ [info]).length := by
    simp [Nat.add_assoc]
  rw [hsplit, hlength, List.getElem?_append_right le_rfl, Nat.sub_self]

theorem set_current (info' : ScaleUpInfo) :
    (full ++ (raised ++ info :: tail)).set (full.length + raised.length) info' =
      full ++ (raised ++ info' :: tail) := by
  rw [← List.append_assoc, ← List.length_append, List.set_append_right _ _ le_rfl, Nat.sub_self]
  simp

/-- The end of a turn is the end of a turn. -/
theorem updateCurrentIndex_eq :
    updateCurrentIndex ⟨full ++ (raised ++ info :: tail), full.length,
        full.length + raised.length, newNodes⟩ =
      ofRow (moveOn infoVessel full raised info tail) newNodes := by
  simp only [updateCurrentIndex, getElem?_current, getElem?_next]
  cases tail with
  | nil => simp [moveOn, ofRow, Row.items, Row.active]
  | cons next tail =>
      by_cases hlower : next.newSize < info.newSize
      · simp [moveOn, infoVessel, hlower, ofRow, Row.items, Row.active, Nat.add_assoc]
      · simp [moveOn, infoVessel, hlower, ofRow, Row.items, Row.active]

theorem turn_raise (hroom : info.newSize < info.maxSize) :
    (ofRow ⟨full, raised, info :: tail⟩ newNodes).turn =
      some (ofRow (moveOn infoVessel full raised (infoVessel.raise info) tail)
        (newNodes - 1)) := by
  simp only [turn, ofRow, Row.items, Row.active, getElem?_current, hroom, if_true, set_current]
  rw [updateCurrentIndex_eq]
  rfl

/-- A full group at the start of the array: the swap does nothing. -/
theorem turn_setAside (hfull : info.maxSize ≤ info.newSize) :
    (ofRow ⟨full, [], info :: tail⟩ newNodes).turn =
      some (ofRow ⟨full ++ [info], [], tail⟩ newNodes) := by
  have hcurrent := getElem?_current full [] tail info
  have hset := set_current full [] tail info info
  have hnext := getElem?_next full [] tail info
  simp only [List.length_nil, Nat.add_zero] at hcurrent hset hnext
  simp only [turn, ofRow, Row.items, Row.active, List.length_nil, Nat.add_zero, hcurrent, hset,
    Int.not_lt.mpr hfull, if_false, updateCurrentIndex, hnext]
  -- both ways to go on lead to the next group
  cases tail with
  | nil => simp
  | cons next tail =>
      simp only [List.getElem?_cons_zero]
      split <;> simp

/-- A full group behind raised ones changes places with the first of them, which is then
in hand. -/
theorem turn_swap (first : ScaleUpInfo) (hfull : info.maxSize ≤ info.newSize) :
    (ofRow ⟨full, first :: raised, info :: tail⟩ newNodes).turn =
      some (ofRow (moveOn infoVessel (full ++ [info]) raised first tail) newNodes) := by
  have hstart : (full ++ (first :: raised ++ info :: tail))[full.length]? = some first := by
    simp
  have hset : (full ++ (first :: raised ++ info :: tail)).set full.length info =
      full ++ (info :: raised ++ info :: tail) := by
    rw [List.set_append_right _ _ le_rfl, Nat.sub_self]
    rfl
  have hlast : (full ++ (info :: raised ++ info :: tail)).set
      (full.length + (first :: raised).length) first =
      (full ++ [info]) ++ (raised ++ first :: tail) := by
    refine (set_current full (info :: raised) tail info first).trans ?_
    simp
  have hindex : full.length + (first :: raised).length =
      (full ++ [info]).length + raised.length := by
    simp only [List.length_cons, List.length_append, List.length_nil]
    omega
  have hend := updateCurrentIndex_eq (full ++ [info]) raised tail first newNodes
  rw [← hindex, List.length_append, List.length_singleton] at hend
  rw [← hend]
  simp only [turn, ofRow, Row.items, Row.active, getElem?_current, hstart, hset, hlast,
    Int.not_lt.mpr hfull, if_false]

end

/-- A turn of the loop is a turn of the row. -/
theorem turn_of_turn {row row' : Row ScaleUpInfo} {newNodes left : Int}
    (hturn : Turn infoVessel row newNodes row' left) :
    (ofRow row newNodes).turn = some (ofRow row' left) := by
  cases hturn with
  | raise hroom => exact turn_raise _ _ _ _ _ hroom
  | setAside hfull => exact turn_setAside _ _ _ _ hfull
  | swap hfull => exact turn_swap _ _ _ _ _ _ hfull

theorem loop_done {s : BalanceState} (hn : s.newNodes ≤ 0) (fuel : ℕ) : loop fuel s = some s := by
  cases fuel with
  | zero => rw [loop, if_neg (Int.not_lt.mpr hn)]
  | succ fuel => rw [loop, if_neg (Int.not_lt.mpr hn)]

theorem loop_turn {s s' : BalanceState} {fuel : ℕ} (hn : 0 < s.newNodes)
    (hturn : s.turn = some s') : loop (fuel + 1) s = loop fuel s' := by
  rw [loop, if_pos hn, hturn]
  rfl

/-- With a turn for every unit and every group, the loop runs to the end of the levelling. -/
theorem loop_of_fills {row row' : Row ScaleUpInfo} {newNodes : Int}
    (hfills : Fills infoVessel row newNodes row') :
    ∀ fuel, newNodes.toNat + row.active.length ≤ fuel →
      ∃ left, loop fuel (ofRow row newNodes) = some (ofRow row' left) := by
  intro fuel hfuel
  induction fuel generalizing row newNodes with
  | zero =>
      obtain ⟨hn, rfl⟩ | ⟨hn, -⟩ := hfills.cases_turn
      · exact ⟨newNodes, loop_done hn 0⟩
      · omega
  | succ fuel ih =>
      obtain ⟨hn, rfl⟩ | ⟨hn, row₁, left, hturn, hnext⟩ := hfills.cases_turn
      · exact ⟨newNodes, loop_done hn (fuel + 1)⟩
      · have hmeasure := hturn.measure hn
        rw [loop_turn hn (turn_of_turn hturn)]
        exact ih hnext (by omega)

/-! ## Turn by turn -/

/-- Where the loop stands after so many turns, if it gets that far. -/
def after : ℕ → BalanceState → Option BalanceState
  | 0, s => some s
  | k + 1, s => if s.newNodes > 0 then s.turn.bind (after k) else none

theorem after_succ_iff {s s' : BalanceState} {k : ℕ} :
    after (k + 1) s = some s' ↔
      0 < s.newNodes ∧ ∃ s₁, s.turn = some s₁ ∧ after k s₁ = some s' := by
  rw [after]
  split
  case isTrue hn => simp only [hn, true_and, Option.bind_eq_some_iff]
  case isFalse hn => simp only [hn, false_and, reduceCtorEq]

/-- The loop returns the state in which it stops. -/
theorem loop_of_after {s s' : BalanceState} {k fuel : ℕ} (hafter : after k s = some s')
    (hend : s'.newNodes ≤ 0) (hfuel : k ≤ fuel) : loop fuel s = some s' := by
  induction k generalizing s fuel with
  | zero =>
      cases hafter
      exact loop_done hend fuel
  | succ k ih =>
      obtain ⟨hn, s₁, hturn, hrest⟩ := after_succ_iff.mp hafter
      obtain ⟨fuel, rfl⟩ : ∃ rest, fuel = rest + 1 := ⟨fuel - 1, by omega⟩
      rw [loop_turn hn hturn]
      exact ih hrest (by omega)

section

variable {row : Row ScaleUpInfo} {newNodes : Int}

/-- With room for the new nodes, the group in hand is one of those still in the array, and the
turn is one of the row. -/
theorem exists_turn (htakes : row.Takes infoVessel newNodes) (hn : 0 < newNodes) :
    ∃ row' left, (ofRow row newNodes).turn = some (ofRow row' left) ∧
      row'.Takes infoVessel left ∧
      left.toNat + row'.active.length + 1 = newNodes.toNat + row.active.length := by
  obtain ⟨row', left, hturn⟩ := htakes.exists_turn hn
  exact ⟨row', left, turn_of_turn hturn, htakes.turn hturn, hturn.measure hn⟩

/-- After `k` turns the array is a row still, and `k` nodes and groups are gone. -/
theorem exists_row_of_after (htakes : row.Takes infoVessel newNodes) {k : ℕ}
    {s : BalanceState} (hafter : after k (ofRow row newNodes) = some s) :
    ∃ row' left, s = ofRow row' left ∧ row'.Takes infoVessel left ∧
      left.toNat + row'.active.length + k = newNodes.toNat + row.active.length := by
  induction k generalizing row newNodes with
  | zero =>
      cases hafter
      exact ⟨row, newNodes, rfl, htakes, rfl⟩
  | succ k ih =>
      obtain ⟨hn, s₁, hturn, hrest⟩ := after_succ_iff.mp hafter
      obtain ⟨row₁, left₁, hturn₁, htakes₁, hmeasure₁⟩ := exists_turn htakes hn
      cases hturn.symm.trans hturn₁
      obtain ⟨row', left, hs, htakes', hmeasure⟩ := ih htakes₁ hrest
      exact ⟨row', left, hs, htakes', by omega⟩

/-- The turns come to an end. -/
theorem exists_end (htakes : row.Takes infoVessel newNodes) :
    ∃ k s, after k (ofRow row newNodes) = some s ∧ s.newNodes ≤ 0 := by
  induction hm : newNodes.toNat + row.active.length generalizing row newNodes with
  | zero => exact ⟨0, _, rfl, by simp only [ofRow]; omega⟩
  | succ m ih =>
      by_cases hn : 0 < newNodes
      · obtain ⟨row₁, left₁, hturn, htakes₁, hmeasure⟩ := exists_turn htakes hn
        obtain ⟨k, s, hafter, hend⟩ := ih htakes₁ (by omega)
        exact ⟨k + 1, s, after_succ_iff.mpr ⟨hn, _, hturn, hafter⟩, hend⟩
      · exact ⟨0, _, rfl, Int.not_lt.mp hn⟩

/-- The group in hand is in the array, behind the full ones. -/
theorem index_lt (htakes : row.Takes infoVessel newNodes) (hn : 0 < newNodes) :
    (ofRow row newNodes).startIndex ≤ (ofRow row newNodes).currentIndex ∧
      (ofRow row newNodes).currentIndex < (ofRow row newNodes).scaleUpInfos.length := by
  obtain ⟨info, tail, hrest⟩ := htakes.exists_rest hn
  simp only [ofRow, Row.items, Row.active, hrest, List.length_append, List.length_cons]
  omega

/-- Wherever the loop gets to, the number of turns is within the bound, and the next one can
be made. -/
theorem safe_of_after (htakes : row.Takes infoVessel newNodes) {k : ℕ} {s : BalanceState}
    (hafter : after k (ofRow row newNodes) = some s) :
    k ≤ newNodes.toNat + row.active.length ∧
      (0 < s.newNodes → s.startIndex ≤ s.currentIndex ∧
        s.currentIndex < s.scaleUpInfos.length ∧ ∃ s', s.turn = some s') := by
  obtain ⟨row', left, rfl, htakes', hmeasure⟩ := exists_row_of_after htakes hafter
  refine ⟨Nat.le_of_add_left_le hmeasure.le, fun hn => ?_⟩
  obtain ⟨hstart, hcurrent⟩ := index_lt htakes' hn
  obtain ⟨row₁, left₁, hturn, -⟩ := exists_turn htakes' hn
  exact ⟨hstart, hcurrent, _, hturn⟩

end

end BalanceState

/-! ## What it comes to -/

/-- What raising does not change. -/
def ScaleUpInfo.fixed (info : ScaleUpInfo) : Asg × Int × Int :=
  (info.group, info.currentSize, info.maxSize)

/-- The groups that come out of a scale-up by `newNodes`: the ones that went in, none beyond
its maximum, all nodes given to one of them, and none with a node that another one should
have had. -/
structure Balanced (infos : List ScaleUpInfo) (newNodes : Int) (final : List ScaleUpInfo) :
    Prop where
  perm : (final.map ScaleUpInfo.fixed).Perm (infos.map ScaleUpInfo.fixed)
  sizes : ∀ info ∈ final, info.newSize = info.currentSize ∨
    info.currentSize < info.newSize ∧ info.newSize ≤ info.maxSize
  sum : (final.map fun info => info.newSize - info.currentSize).sum = max 0 newNodes
  fair : ∀ info ∈ final, info.currentSize < info.newSize → ∀ other ∈ final,
    info.newSize ≤ other.newSize + 1 ∨ other.maxSize ≤ other.newSize

/-- Groups as they are collected, with room for the new nodes: sorted, they are a row that
takes the nodes. -/
theorem takes_sort (sortSlice : SortSlice) {infos : List ScaleUpInfo}
    (hfresh : ∀ info ∈ infos, info.newSize = info.currentSize) {newNodes : Int}
    (hroom : newNodes ≤ (infos.map fun info => max 0 (info.maxSize - info.currentSize)).sum) :
    Row.Takes infoVessel ⟨[], [], sortSlice.sort infos⟩ newNodes := by
  have hperm := sortSlice.perm infos
  have hstart : ∀ info ∈ sortSlice.sort infos, info.newSize = info.currentSize :=
    fun info hinfo => hfresh info (hperm.subset hinfo)
  refine ⟨⟨by simp, ?_, by simp⟩, hroom.trans (le_of_eq ?_)⟩
  · refine (sortSlice.sorted infos).imp_of_mem fun {a b} ha hb hle => ?_
    simpa only [infoVessel, hstart a ha, hstart b hb] using hle
  · rw [← (hperm.map fun info => max 0 (info.maxSize - info.currentSize)).sum_eq]
    refine congrArg List.sum (List.map_congr_left fun info hinfo => ?_)
    simp only [infoVessel, hstart info hinfo]

/-- Groups as they are collected, with room for the new nodes: the loop ends, and balances
them. -/
theorem loop_balances (sortSlice : SortSlice) {infos : List ScaleUpInfo}
    (hfresh : ∀ info ∈ infos, info.newSize = info.currentSize) {newNodes : Int}
    (hroom : newNodes ≤ (infos.map fun info => max 0 (info.maxSize - info.currentSize)).sum) :
    ∃ s, BalanceState.loop (newNodes.toNat + (sortSlice.sort infos).length)
        ⟨sortSlice.sort infos, 0, 0, newNodes⟩ = some s ∧
      Balanced infos newNodes s.scaleUpInfos := by
  have hperm := sortSlice.perm infos
  have hstart : ∀ info ∈ sortSlice.sort infos, info.newSize = info.currentSize :=
    fun info hinfo => hfresh info (hperm.subset hinfo)
  have hfair : Row.Fair infoVessel ⟨[], [], sortSlice.sort infos⟩ := by
    intro a ha hgiven
    have hsame := hstart a (by simpa [Row.items, Row.active] using ha)
    exact absurd hsame.symm (Int.ne_of_lt hgiven)
  have htakes := takes_sort sortSlice hfresh hroom
  have hinv := htakes.inv
  obtain ⟨row, hfills⟩ := exists_fills _ newNodes hinv htakes.room
  obtain ⟨left, hloop⟩ := BalanceState.loop_of_fills hfills _ le_rfl
  refine ⟨_, hloop, ?_⟩
  refine ⟨?_, ?_, ?_, ?_⟩
  · exact (hfills.perm_map fun _ => rfl).trans (hperm.map ScaleUpInfo.fixed)
  · refine hfills.forall_items (P := fun info => info.newSize = info.currentSize ∨
      info.currentSize < info.newSize ∧ info.newSize ≤ info.maxSize) ?_ ?_
    · intro info hsizes hroom
      simp only [infoVessel] at hroom ⊢
      omega
    · exact fun info hinfo => .inl (hstart info hinfo)
  · have hnone : ((sortSlice.sort infos).map fun info => info.newSize - info.currentSize).sum =
        0 := by
      refine List.sum_eq_zero fun x hx => ?_
      obtain ⟨info, hinfo, rfl⟩ := List.mem_map.mp hx
      rw [hstart info hinfo, Int.sub_self]
    have hsum := hfills.sum_map (f := fun info => info.newSize - info.currentSize) fun info => by
      simp only [infoVessel]
      omega
    refine hsum.trans ?_
    rw [show (Row.mk [] [] (sortSlice.sort infos)).items = sortSlice.sort infos from rfl, hnone,
      Int.zero_add]
  · intro info hinfo hgiven other hother
    rcases List.mem_append.mp hother with hother | hother
    · exact .inr ((hfills.inv hinv).full other hother)
    · exact .inl (hfills.fair hinv hfair info hinfo hgiven other hother)

end AutoNodeRepair
