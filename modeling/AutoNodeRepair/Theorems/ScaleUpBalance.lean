import Mathlib.Data.List.Perm.Subperm
import Mathlib.Data.List.Sort
import AutoNodeRepair.Logic.Balance
import AutoNodeRepair.Logic.Cluster

/-!
# Balancing a scale-up between groups

`BalanceScaleUpBetweenGroups` gives out what it should, and as evenly as it can, as long
as no group is beyond its maximum. A group that is counts negatively in the total
capacity, and takes room from the others; the loop is safe and ends all the same.
-/

namespace AutoNodeRepair

open Interact

/-! ## What is collected -/

/-- What the groups answer if they are asked for their target sizes one after the other. -/
def askTargetSizes : List Asg → Ctl (Except String (List (Asg × Int)))
  | [] => return .ok []
  | group :: rest => do
      match ← group.targetSize with
      | (_, some err) => return .error err
      | (size, none) =>
          match ← askTargetSizes rest with
          | .error err => return .error err
          | .ok targets => return .ok ((group, size) :: targets)

/-- How far a group is below its maximum. -/
def freeCapacity (target : Asg × Int) : Int := target.1.maxSize - target.2

/-- The infos of the groups that are not exactly full. -/
def openInfos (targets : List (Asg × Int)) : List ScaleUpInfo :=
  (targets.filter fun target => target.2 ≠ target.1.maxSize).map fun target =>
    ⟨target.1, target.2, target.2, target.1.maxSize⟩

section

variable {W : Type} {h : ApiService W}

theorem askTargetSizes_cons {group : Asg} {rest : List Asg} {m : Machine W}
    {targets : List (Asg × Int)}
    (htargets : ((askTargetSizes (group :: rest)).exec h m).val = .ok targets) :
    ∃ size targets', (group.targetSize.exec h m).val = (size, none) ∧
      ((askTargetSizes rest).exec h (group.targetSize.exec h m).mach).val = .ok targets' ∧
      targets = (group, size) :: targets' := by
  simp only [askTargetSizes, exec_bind, Outcome.after_val] at htargets
  rcases hsize : (group.targetSize.exec h m).val with ⟨size, err⟩
  rw [hsize] at htargets
  cases err with
  | some err => simp at htargets
  | none =>
      simp only [exec_bind, Outcome.after_val] at htargets
      cases hrest : ((askTargetSizes rest).exec h (group.targetSize.exec h m).mach).val with
      | error err =>
          rw [hrest] at htargets
          simp at htargets
      | ok targets' =>
          rw [hrest] at htargets
          exact ⟨size, targets', rfl, rfl, by simpa using htargets.symm⟩

theorem askTargetSizes_groups {groups : List Asg} {m : Machine W} {targets : List (Asg × Int)}
    (htargets : ((askTargetSizes groups).exec h m).val = .ok targets) :
    targets.map Prod.fst = groups := by
  induction groups generalizing m targets with
  | nil =>
      obtain rfl : [] = targets := by simpa [askTargetSizes] using htargets
      rfl
  | cons group rest ih =>
      obtain ⟨size, targets', -, hrest, rfl⟩ := askTargetSizes_cons htargets
      rw [List.map_cons, ih hrest]

theorem collectInfos_val {groups : List Asg} {m : Machine W} {targets : List (Asg × Int)}
    (htargets : ((askTargetSizes groups).exec h m).val = .ok targets) (infos : List ScaleUpInfo)
    (total : Int) :
    ((collectInfos groups infos total).exec h m).val =
      .ok (infos ++ openInfos targets, total + (targets.map freeCapacity).sum) := by
  induction groups generalizing m targets infos total with
  | nil =>
      obtain rfl : [] = targets := by simpa [askTargetSizes] using htargets
      simp [collectInfos, openInfos]
  | cons group rest ih =>
      obtain ⟨size, targets', hsize, hrest, rfl⟩ := askTargetSizes_cons htargets
      simp only [collectInfos, exec_bind, Outcome.after_val, hsize]
      by_cases hmaxed : size = group.maxSize
      · simp only [hmaxed, if_true, ih hrest]
        simp [openInfos, freeCapacity]
      · simp only [hmaxed, if_false, ih hrest]
        simp [openInfos, freeCapacity, hmaxed, Int.add_assoc]

/-- Whatever was collected, the groups have answered. -/
theorem collectInfos_ok {groups : List Asg} {m : Machine W} {infos infos' : List ScaleUpInfo}
    {total total' : Int}
    (hcollect : ((collectInfos groups infos total).exec h m).val = .ok (infos', total')) :
    ∃ targets, ((askTargetSizes groups).exec h m).val = .ok targets := by
  induction groups generalizing m infos total with
  | nil => exact ⟨[], rfl⟩
  | cons group rest ih =>
      simp only [collectInfos, exec_bind, Outcome.after_val] at hcollect
      simp only [askTargetSizes, exec_bind, Outcome.after_val]
      rcases hsize : (group.targetSize.exec h m).val with ⟨size, err⟩
      rw [hsize] at hcollect
      cases err with
      | some err => simp at hcollect
      | none =>
          have hrest : ∃ infos total,
              ((collectInfos rest infos total).exec h (group.targetSize.exec h m).mach).val =
                .ok (infos', total') := by
            by_cases hmaxed : size = group.maxSize
            · exact ⟨infos, total, by simpa only [hmaxed, if_true] using hcollect⟩
            · exact ⟨_, _, by simpa only [hmaxed, if_false] using hcollect⟩
          obtain ⟨infos₁, total₁, hcollect₁⟩ := hrest
          obtain ⟨targets, htargets⟩ := ih hcollect₁
          simp only [exec_bind, Outcome.after_val, htargets]
          exact ⟨_, rfl⟩

theorem openInfos_fresh (targets : List (Asg × Int)) :
    ∀ info ∈ openInfos targets, info.newSize = info.currentSize := by
  intro info hinfo
  obtain ⟨target, -, rfl⟩ := List.mem_map.mp hinfo
  rfl

/-- The capacity that is counted is at most what the open groups can take. -/
theorem sum_freeCapacity_le (targets : List (Asg × Int)) :
    (targets.map freeCapacity).sum ≤
      ((openInfos targets).map fun info => max 0 (info.maxSize - info.currentSize)).sum := by
  induction targets with
  | nil => simp [openInfos]
  | cons target rest ih =>
      by_cases hmaxed : target.2 = target.1.maxSize
      · simpa [openInfos, freeCapacity, hmaxed] using ih
      · simp only [openInfos, freeCapacity, List.filter_cons, hmaxed, ne_eq, not_false_eq_true,
          decide_true, if_true, List.map_cons, List.sum_cons] at ih ⊢
        omega

/-- The function returns what has changed when the loop stops. -/
theorem balanceScaleUp_of_loop (sortSlice : SortSlice) {groups : List Asg} (hne : groups ≠ [])
    {m : Machine W} {infos : List ScaleUpInfo} {total newNodes capped : Int}
    (hcollect : ((collectInfos groups [] 0).exec h m).val = .ok (infos, total))
    (hcap : (if total < newNodes then total else newNodes) = capped) {s : BalanceState}
    (hloop : BalanceState.loop (capped.toNat + (sortSlice.sort infos).length)
      ⟨sortSlice.sort infos, 0, 0, capped⟩ = some s) :
    ((balanceScaleUpBetweenGroups sortSlice groups newNodes).exec h m).val =
      some (s.scaleUpInfos.filter fun info => info.newSize != info.currentSize, none) := by
  simp only [balanceScaleUpBetweenGroups, List.length_eq_zero_iff, hne, if_false, exec_bind,
    Outcome.after_val, hcollect, hcap, hloop]
  rfl

/-- What the function returns: the groups of a balanced scale-up that have changed. -/
theorem balanceScaleUp_val (sortSlice : SortSlice) {groups : List Asg} (hne : groups ≠ [])
    {m : Machine W} {targets : List (Asg × Int)}
    (htargets : ((askTargetSizes groups).exec h m).val = .ok targets) (newNodes : Int) :
    ∃ final, Balanced (openInfos targets) (min newNodes (targets.map freeCapacity).sum) final ∧
      ((balanceScaleUpBetweenGroups sortSlice groups newNodes).exec h m).val =
        some (final.filter fun info => info.newSize != info.currentSize, none) := by
  have hcap : (if (targets.map freeCapacity).sum < newNodes then (targets.map freeCapacity).sum
      else newNodes) = min newNodes (targets.map freeCapacity).sum := by
    split <;> omega
  obtain ⟨s, hloop, hbalanced⟩ := loop_balances sortSlice (openInfos_fresh targets)
    ((min_le_right newNodes _).trans (sum_freeCapacity_le targets))
  refine ⟨s.scaleUpInfos, hbalanced, balanceScaleUp_of_loop sortSlice hne ?_ hcap hloop⟩
  rw [collectInfos_val htargets, List.nil_append, Int.zero_add]

end

/-! ## How much is given out -/

namespace Balanced

variable {infos final : List ScaleUpInfo} {newNodes : Int}

/-- The groups left out of the result were given nothing. -/
theorem sum_changed (hbalanced : Balanced infos newNodes final) :
    ((final.filter fun info => info.newSize != info.currentSize).map fun info =>
      info.newSize - info.currentSize).sum = max 0 newNodes := by
  rw [← hbalanced.sum]
  clear hbalanced
  induction final with
  | nil => rfl
  | cons info rest ih =>
      by_cases hsame : info.newSize = info.currentSize
      · simpa [hsame] using ih
      · simp [hsame, ih]

/-- An info of the result is that of a group with room for its new size. -/
theorem sizes_changed (hbalanced : Balanced infos newNodes final) :
    ∀ info ∈ final.filter fun info => info.newSize != info.currentSize,
      info.currentSize < info.newSize ∧ info.newSize ≤ info.maxSize := by
  intro info hinfo
  obtain ⟨hmem, hchanged⟩ := List.mem_filter.mp hinfo
  rcases hbalanced.sizes info hmem with hsame | hsizes
  · simp [hsame] at hchanged
  · exact hsizes

end Balanced

section

variable {targets : List (Asg × Int)} {newNodes : Int} {final : List ScaleUpInfo}

/-- The groups of a balanced scale-up are those that were asked, each in its place. -/
theorem Balanced.subperm (hbalanced : Balanced (openInfos targets) newNodes final) :
    ((final.filter fun info => info.newSize != info.currentSize).map fun info =>
      (info.group, info.currentSize)).Subperm targets := by
  have hfinal : (final.map fun info => (info.group, info.currentSize)).Perm
      ((openInfos targets).map fun info => (info.group, info.currentSize)) := by
    have hperm := hbalanced.perm.map fun fixed => (fixed.1, fixed.2.1)
    simpa [Function.comp_def, ScaleUpInfo.fixed] using hperm
  have hopen : (openInfos targets).map (fun info => (info.group, info.currentSize)) =
      targets.filter fun target => target.2 ≠ target.1.maxSize := by
    simp [openInfos, Function.comp_def]
  rw [hopen] at hfinal
  exact ((List.filter_sublist.map _).subperm.trans hfinal.subperm).trans
    List.filter_sublist.subperm

/-- Their maximum is that of the group. -/
theorem Balanced.maxSize (hbalanced : Balanced (openInfos targets) newNodes final) :
    ∀ info ∈ final, info.maxSize = info.group.maxSize := by
  intro info hinfo
  have hfixed := hbalanced.perm.subset (List.mem_map_of_mem (f := ScaleUpInfo.fixed) hinfo)
  obtain ⟨fresh, hfresh, heq⟩ := List.mem_map.mp hfixed
  obtain ⟨target, -, rfl⟩ := List.mem_map.mp hfresh
  simp only [ScaleUpInfo.fixed, Prod.mk.injEq] at heq
  rw [← heq.2.2, ← heq.1]

end

/-- **What a scale-up gives out.** With groups that answer and are not beyond their maximum,
the result names different ones of them, each with its target size and a larger new size
within its maximum, and gives out all new nodes that the groups together have room for. -/
theorem balanceScaleUp_allocates {W : Type} (h : ApiService W) (sortSlice : SortSlice)
    (groups : List Asg) (hne : groups ≠ []) (m : Machine W) (targets : List (Asg × Int))
    (htargets : ((askTargetSizes groups).exec h m).val = .ok targets)
    (hfit : ∀ target ∈ targets, target.2 ≤ target.1.maxSize) (newNodes : Int)
    (hnew : 0 ≤ newNodes) :
    ∃ infos, ((balanceScaleUpBetweenGroups sortSlice groups newNodes).exec h m).val =
        some (infos, none) ∧
      targets.map Prod.fst = groups ∧
      (infos.map fun info => (info.group, info.currentSize)).Subperm targets ∧
      (groups.Nodup → (infos.map ScaleUpInfo.group).Nodup) ∧
      (∀ info ∈ infos, info.maxSize = info.group.maxSize ∧ info.currentSize < info.newSize ∧
        info.newSize ≤ info.maxSize) ∧
      (infos.map fun info => info.newSize - info.currentSize).sum =
        min newNodes (targets.map fun target => target.1.maxSize - target.2).sum := by
  obtain ⟨final, hbalanced, hval⟩ := balanceScaleUp_val sortSlice hne htargets newNodes
  have hgroups := askTargetSizes_groups htargets
  refine ⟨_, hval, hgroups, hbalanced.subperm, ?_, ?_, ?_⟩
  · intro hnodup
    obtain ⟨named, hperm, hsublist⟩ := hbalanced.subperm
    rw [← hgroups] at hnodup
    have hnamed := (hperm.map Prod.fst).nodup_iff.mp (hnodup.sublist (hsublist.map Prod.fst))
    simpa [Function.comp_def] using hnamed
  · intro info hinfo
    exact ⟨hbalanced.maxSize info (List.mem_filter.mp hinfo).1,
      hbalanced.sizes_changed info hinfo⟩
  · have hroom : 0 ≤ (targets.map freeCapacity).sum := by
      refine List.sum_nonneg fun x hx => ?_
      obtain ⟨target, htarget, rfl⟩ := List.mem_map.mp hx
      exact Int.sub_nonneg_of_le (hfit target htarget)
    rw [hbalanced.sum_changed]
    exact max_eq_right (le_min hnew hroom)

/-- A stable sort. -/
def insertionSort : SortSlice where
  sort infos := infos.insertionSort fun a b => a.currentSize ≤ b.currentSize
  perm infos := List.perm_insertionSort _ infos
  sorted infos := by
    have : Std.Total fun a b : ScaleUpInfo => a.currentSize ≤ b.currentSize :=
      ⟨fun a b => le_total a.currentSize b.currentSize⟩
    have : IsTrans ScaleUpInfo fun a b => a.currentSize ≤ b.currentSize :=
      ⟨fun _ _ _ => le_trans⟩
    exact List.pairwise_insertionSort _ infos

/-- `k` with room for three more. -/
def widerK : Asg := { groupK with maxSize := 4 }

/-- Three nodes for two groups with room for five. -/
theorem balanceScaleUp_allocates_sample : ∃ infos,
    ((balanceScaleUpBetweenGroups insertionSort [groupG, widerK] 3).exec Cluster.sample.service
      sampleMachine).val = some (infos, none) ∧
    (infos.map ScaleUpInfo.group).Nodup ∧
    (infos.map fun info => info.newSize - info.currentSize).sum = 3 := by
  obtain ⟨infos, hval, -, -, hnodup, -, hsum⟩ := balanceScaleUp_allocates Cluster.sample.service
    insertionSort [groupG, widerK] (by simp) sampleMachine [(groupG, 2), (widerK, 1)] rfl
    (by decide) 3 (by decide)
  exact ⟨infos, hval, hnodup (by decide), hsum⟩

/-! ## How evenly -/

/-- The size a group comes out with: the one in the result, or its target size. -/
def newSizeOf (infos : List ScaleUpInfo) (target : Asg × Int) : Int :=
  match infos.find? fun info => info.group = target.1 with
  | some info => info.newSize
  | none => target.2

section

variable {targets : List (Asg × Int)} {newNodes : Int} {final : List ScaleUpInfo}

/-- A group that was given something is in the result. -/
theorem exists_of_lt_newSizeOf {infos : List ScaleUpInfo} {target : Asg × Int}
    (hgiven : target.2 < newSizeOf infos target) :
    ∃ info ∈ infos, newSizeOf infos target = info.newSize := by
  unfold newSizeOf at hgiven ⊢
  cases hfind : infos.find? fun info => info.group = target.1 with
  | none =>
      rw [hfind] at hgiven
      exact absurd hgiven (Int.lt_irrefl _)
  | some info => exact ⟨info, List.mem_of_find?_eq_some hfind, rfl⟩

/-- Every group that is not exactly full has an info at the end, with the size it comes out
with. -/
theorem Balanced.newSizeOf_eq (hbalanced : Balanced (openInfos targets) newNodes final)
    {target : Asg × Int} (htarget : target ∈ targets) :
    let infos := final.filter fun info => info.newSize != info.currentSize
    newSizeOf infos target = target.1.maxSize ∨
      ∃ info ∈ final, info.group = target.1 ∧ newSizeOf infos target = info.newSize := by
  intro infos
  unfold newSizeOf
  cases hfind : infos.find? fun info => info.group = target.1 with
  | some info =>
      refine .inr ⟨info, (List.mem_filter.mp (List.mem_of_find?_eq_some hfind)).1, ?_, rfl⟩
      simpa using List.find?_some hfind
  | none =>
      by_cases hmaxed : target.2 = target.1.maxSize
      · exact .inl hmaxed
      -- it was collected, and has not changed
      have hopen : (⟨target.1, target.2, target.2, target.1.maxSize⟩ : ScaleUpInfo) ∈
          openInfos targets :=
        List.mem_map.mpr ⟨target, List.mem_filter.mpr ⟨htarget, by simpa using hmaxed⟩, rfl⟩
      obtain ⟨info, hinfo, hfixed⟩ := List.mem_map.mp
        (hbalanced.perm.symm.subset (List.mem_map_of_mem (f := ScaleUpInfo.fixed) hopen))
      simp only [ScaleUpInfo.fixed, Prod.mk.injEq] at hfixed
      have hsame : info.newSize = info.currentSize := by
        by_contra hchanged
        have hnone := List.find?_eq_none.mp hfind info
          (List.mem_filter.mpr ⟨hinfo, by simpa using hchanged⟩)
        simp [hfixed.1] at hnone
      exact .inr ⟨info, hinfo, hfixed.1, by rw [hsame, hfixed.2.1]⟩

/-- With targets within the maximum, a group that has no room left is at its maximum. -/
theorem Balanced.eq_maxSize (hbalanced : Balanced (openInfos targets) newNodes final)
    (hfit : ∀ target ∈ targets, target.2 ≤ target.1.maxSize) {info : ScaleUpInfo}
    (hinfo : info ∈ final) (hfull : info.maxSize ≤ info.newSize) :
    info.newSize = info.group.maxSize := by
  have hfixed := hbalanced.perm.subset (List.mem_map_of_mem (f := ScaleUpInfo.fixed) hinfo)
  obtain ⟨fresh, hfresh, heq⟩ := List.mem_map.mp hfixed
  obtain ⟨target, htarget, rfl⟩ := List.mem_map.mp hfresh
  have hle := hfit target (List.mem_filter.mp htarget).1
  simp only [ScaleUpInfo.fixed, Prod.mk.injEq] at heq
  obtain ⟨hgroup, hcurrent, hmax⟩ := heq
  rw [← hgroup]
  rcases hbalanced.sizes info hinfo with hsame | ⟨-, hwithin⟩
  · omega
  · omega

end

/-- **How evenly a scale-up gives out.** With groups that answer and are not beyond their
maximum, a group that was given a node does not come out more than one above any other,
unless that one is at its maximum. -/
theorem balanceScaleUp_even {W : Type} (h : ApiService W) (sortSlice : SortSlice)
    (groups : List Asg) (hne : groups ≠ []) (m : Machine W) (targets : List (Asg × Int))
    (htargets : ((askTargetSizes groups).exec h m).val = .ok targets)
    (hfit : ∀ target ∈ targets, target.2 ≤ target.1.maxSize) (newNodes : Int) :
    ∃ infos, ((balanceScaleUpBetweenGroups sortSlice groups newNodes).exec h m).val =
        some (infos, none) ∧
      ∀ given ∈ targets, ∀ other ∈ targets, given.2 < newSizeOf infos given →
        newSizeOf infos given ≤ newSizeOf infos other + 1 ∨
          newSizeOf infos other = other.1.maxSize := by
  obtain ⟨final, hbalanced, hval⟩ := balanceScaleUp_val sortSlice hne htargets newNodes
  refine ⟨_, hval, ?_⟩
  intro given _ other hother hgiven
  obtain ⟨info, hinfo, hnewSize⟩ := exists_of_lt_newSizeOf hgiven
  rcases hbalanced.newSizeOf_eq hother with hmaxed | ⟨info', hinfo', hgroup', hnewSize'⟩
  · exact .inr hmaxed
  rcases hbalanced.fair info (List.mem_filter.mp hinfo).1
    (hbalanced.sizes_changed info hinfo).1 info' hinfo' with hfair | hfull
  · exact .inl (by rw [hnewSize, hnewSize']; exact hfair)
  · exact .inr (by rw [hnewSize', hbalanced.eq_maxSize hfit hinfo' hfull, hgroup'])

/-- `k` is the smaller one; both come out at three. -/
theorem balanceScaleUp_even_sample : ∃ infos,
    ((balanceScaleUpBetweenGroups insertionSort [groupG, widerK] 3).exec Cluster.sample.service
      sampleMachine).val = some (infos, none) ∧
    (newSizeOf infos (groupG, 2) = 3 ∧ newSizeOf infos (widerK, 1) = 3) ∧
    (newSizeOf infos (widerK, 1) ≤ newSizeOf infos (groupG, 2) + 1 ∨
      newSizeOf infos (groupG, 2) = groupG.maxSize) := by
  obtain ⟨infos, hval, heven⟩ := balanceScaleUp_even Cluster.sample.service
    insertionSort [groupG, widerK] (by simp) sampleMachine [(groupG, 2), (widerK, 1)] rfl
    (by decide) 3
  have hrun : (((balanceScaleUpBetweenGroups insertionSort [groupG, widerK] 3).exec
      Cluster.sample.service sampleMachine).val.map fun result =>
        (newSizeOf result.1 (groupG, 2), newSizeOf result.1 (widerK, 1))) = some (3, 3) := by
    decide
  rw [hval] at hrun
  obtain ⟨hG, hK⟩ := Prod.mk.inj (Option.some.inj hrun)
  refine ⟨infos, hval, ⟨hG, hK⟩, ?_⟩
  exact heven (widerK, 1) (by simp) (groupG, 2) (by simp) (by rw [hK]; decide)

/-! ## Groups beyond their maximum -/

/-- What the groups below their maximum have room for. -/
def freeRoom (targets : List (Asg × Int)) : Int :=
  ((targets.filter fun target => target.2 < target.1.maxSize).map fun target =>
    target.1.maxSize - target.2).sum

/-- What the groups beyond their maximum have too much. -/
def excess (targets : List (Asg × Int)) : Int :=
  ((targets.filter fun target => target.1.maxSize < target.2).map fun target =>
    target.2 - target.1.maxSize).sum

/-- The total capacity as it is summed up in `int`s. -/
def intCapacity (targets : List (Asg × Int)) : Int :=
  targets.foldl (fun total target => wrapInt64 (total + wrapInt64 (freeCapacity target))) 0

theorem freeRoom_cons (target : Asg × Int) (rest : List (Asg × Int)) :
    freeRoom (target :: rest) = max 0 (freeCapacity target) + freeRoom rest := by
  unfold freeRoom freeCapacity
  by_cases hlt : target.2 < target.1.maxSize
  · simp only [List.filter_cons, hlt, decide_true, if_true, List.map_cons, List.sum_cons]
    omega
  · simp only [List.filter_cons, hlt, decide_false, Bool.false_eq_true, if_false]
    omega

theorem excess_cons (target : Asg × Int) (rest : List (Asg × Int)) :
    excess (target :: rest) = max 0 (-freeCapacity target) + excess rest := by
  unfold excess freeCapacity
  by_cases hgt : target.1.maxSize < target.2
  · simp only [List.filter_cons, hgt, decide_true, if_true, List.map_cons, List.sum_cons]
    omega
  · simp only [List.filter_cons, hgt, decide_false, Bool.false_eq_true, if_false]
    omega

theorem freeRoom_nonneg (targets : List (Asg × Int)) : 0 ≤ freeRoom targets := by
  induction targets with
  | nil => decide
  | cons target rest ih => rw [freeRoom_cons]; omega

theorem excess_nonneg (targets : List (Asg × Int)) : 0 ≤ excess targets := by
  induction targets with
  | nil => decide
  | cons target rest ih => rw [excess_cons]; omega

/-- The counted capacity is what is free, less what is too much. -/
theorem sum_freeCapacity_eq (targets : List (Asg × Int)) :
    (targets.map freeCapacity).sum = freeRoom targets - excess targets := by
  induction targets with
  | nil => rfl
  | cons target rest ih =>
      rw [List.map_cons, List.sum_cons, ih, freeRoom_cons, excess_cons]
      omega

/-- No `int` overflows as long as the total so far leaves room for what is still to come, in
both directions. -/
theorem foldl_wrapInt64_eq (targets : List (Asg × Int)) (total : Int)
    (hfree : freeRoom targets < 2 ^ 63) (hexcess : excess targets ≤ 2 ^ 63)
    (hlow : -2 ^ 63 ≤ total - excess targets) (hhigh : total + freeRoom targets < 2 ^ 63) :
    targets.foldl (fun total target => wrapInt64 (total + wrapInt64 (freeCapacity target))) total =
      total + (targets.map freeCapacity).sum := by
  induction targets generalizing total with
  | nil => simp
  | cons target rest ih =>
      rw [freeRoom_cons] at hfree hhigh
      rw [excess_cons] at hexcess hlow
      have hroom := freeRoom_nonneg rest
      have hover := excess_nonneg rest
      have htarget : FitsInt64 (freeCapacity target) := ⟨by omega, by omega⟩
      have htotal : FitsInt64 (total + freeCapacity target) := ⟨by omega, by omega⟩
      rw [List.foldl_cons, wrapInt64_of_fits htarget, wrapInt64_of_fits htotal,
        ih _ (by omega) (by omega) (by omega) (by omega), List.map_cons, List.sum_cons,
        Int.add_assoc]

theorem intCapacity_eq {targets : List (Asg × Int)} (hfree : freeRoom targets < 2 ^ 63)
    (hexcess : excess targets ≤ 2 ^ 63) :
    intCapacity targets = (targets.map freeCapacity).sum := by
  have hzero := foldl_wrapInt64_eq targets 0 hfree hexcess (by omega) (by omega)
  rwa [Int.zero_add] at hzero

/-- **Groups beyond their maximum.** With groups that answer, and as long as what is free and
what is too much each fit into an `int`, the total capacity does not overflow, and the nodes
given out are as many as asked for, or as the groups with room have room for, if and only if
there is room for the nodes after what the other groups have too much is subtracted, or
nothing to subtract, or nothing to subtract from, or nothing to give out. -/
theorem balanceScaleUp_distributes_iff {W : Type} (h : ApiService W) (sortSlice : SortSlice)
    (groups : List Asg) (m : Machine W) (targets : List (Asg × Int))
    (htargets : ((askTargetSizes groups).exec h m).val = .ok targets)
    (hfree : freeRoom targets < 2 ^ 63) (hexcess : excess targets ≤ 2 ^ 63) (newNodes : Int)
    (hnew : 0 ≤ newNodes) :
    (∃ infos, ((collectInfos groups [] 0).exec h m).val = .ok (infos, intCapacity targets)) ∧
    ∃ infos err, ((balanceScaleUpBetweenGroups sortSlice groups newNodes).exec h m).val =
        some (infos, err) ∧
      ((infos.map fun info => info.newSize - info.currentSize).sum =
          min newNodes (freeRoom targets) ↔
        newNodes ≤ freeRoom targets - excess targets ∨ excess targets = 0 ∨
          freeRoom targets = 0 ∨ newNodes = 0) := by
  constructor
  · refine ⟨openInfos targets, ?_⟩
    rw [collectInfos_val htargets, intCapacity_eq hfree hexcess, Int.zero_add, List.nil_append]
  have hroom := freeRoom_nonneg targets
  have hover := excess_nonneg targets
  by_cases hne : groups = []
  · -- no groups, no nodes
    subst hne
    obtain rfl : [] = targets := by simpa [askTargetSizes] using htargets
    exact ⟨[], _, rfl, by simp [freeRoom, excess, hnew]⟩
  obtain ⟨final, hbalanced, hval⟩ := balanceScaleUp_val sortSlice hne htargets newNodes
  refine ⟨_, _, hval, ?_⟩
  rw [hbalanced.sum_changed, sum_freeCapacity_eq]
  omega

/-- `g` is one beyond its maximum, `k` has room for three: two nodes find their place. -/
theorem balanceScaleUp_distributes_sample : ∃ infos err,
    ((balanceScaleUpBetweenGroups insertionSort [{ groupG with maxSize := 1 }, widerK] 2).exec
      Cluster.sample.service sampleMachine).val = some (infos, err) ∧
    (infos.map fun info => info.newSize - info.currentSize).sum = 2 := by
  obtain ⟨-, infos, err, hval, hiff⟩ := balanceScaleUp_distributes_iff Cluster.sample.service
    insertionSort [{ groupG with maxSize := 1 }, widerK] sampleMachine
    [({ groupG with maxSize := 1 }, 2), (widerK, 1)] rfl (by decide) (by decide) 2 (by decide)
  exact ⟨infos, err, hval, (hiff.mpr (by decide)).trans (by decide)⟩

/-- Two groups with room for `2^63 - 1` nodes each: the total is counted as -2. -/
example : intCapacity [({ groupG with maxSize := 2 ^ 63 - 1 }, 0),
    ({ widerK with maxSize := 2 ^ 63 - 1 }, 0)] = -2 := by
  decide

/-- `g` has two nodes and its maximum was lowered to one: of three nodes for `k`, which has
room for three, two are given out. -/
theorem balanceScaleUp_oversized_takes : ∃ infos,
    ((balanceScaleUpBetweenGroups insertionSort [{ groupG with maxSize := 1 }, widerK] 3).exec
      Cluster.sample.service sampleMachine).val = some (infos, none) ∧
    ((askTargetSizes [{ groupG with maxSize := 1 }, widerK]).exec Cluster.sample.service
      sampleMachine).val = .ok [({ groupG with maxSize := 1 }, 2), (widerK, 1)] ∧
    infos = [⟨widerK, 1, 3, 4⟩] ∧
    (infos.map fun info => info.newSize - info.currentSize).sum = 2 ∧
    widerK.maxSize - 1 = 3 := by
  have hrun : ((balanceScaleUpBetweenGroups insertionSort
      [{ groupG with maxSize := 1 }, widerK] 3).exec Cluster.sample.service sampleMachine).val =
      some ([⟨widerK, 1, 3, 4⟩], none) := by decide
  exact ⟨_, hrun, rfl, rfl, by decide, by decide⟩

/-! ## The turns of the loop -/

/-- **The loop is safe and ends.** Whatever sizes the groups have, the loop never looks beyond
the array or before its start, every turn can be made, and there are no more turns than new
nodes and groups. The state in which it stops is the one that the result is read from. -/
theorem balanceLoop_bounded {W : Type} (h : ApiService W) (sortSlice : SortSlice)
    (groups : List Asg) (m : Machine W) (infos : List ScaleUpInfo) (totalCapacity : Int)
    (hcollect : ((collectInfos groups [] 0).exec h m).val = .ok (infos, totalCapacity))
    (newNodes : Int) :
    let start : BalanceState := ⟨sortSlice.sort infos, 0, 0,
      if totalCapacity < newNodes then totalCapacity else newNodes⟩
    (∀ k s, start.after k = some s →
      (k : Int) ≤ max newNodes 0 + start.scaleUpInfos.length ∧
      (0 < s.newNodes → s.startIndex ≤ s.currentIndex ∧
        s.currentIndex < s.scaleUpInfos.length ∧ ∃ s', s.turn = some s')) ∧
    ∃ k s, start.after k = some s ∧ s.newNodes ≤ 0 ∧
      (k : Int) ≤ max newNodes 0 + start.scaleUpInfos.length ∧
      (groups ≠ [] → ((balanceScaleUpBetweenGroups sortSlice groups newNodes).exec h m).val =
        some (s.scaleUpInfos.filter fun info => info.newSize != info.currentSize, none)) := by
  intro start
  obtain ⟨targets, htargets⟩ := collectInfos_ok hcollect
  have hval := collectInfos_val htargets [] 0
  rw [hcollect, List.nil_append, Int.zero_add] at hval
  obtain ⟨rfl, rfl⟩ := Prod.mk.inj (Except.ok.inj hval)
  have hcapped : start.newNodes ≤ (targets.map freeCapacity).sum ∧ start.newNodes ≤ newNodes := by
    simp only [start]
    split <;> omega
  have htakes : Fill.Row.Takes infoVessel ⟨[], [], sortSlice.sort (openInfos targets)⟩
      start.newNodes :=
    takes_sort sortSlice (openInfos_fresh targets)
      (hcapped.1.trans (sum_freeCapacity_le targets))
  have hsafe : ∀ k s, start.after k = some s →
      k ≤ start.newNodes.toNat + start.scaleUpInfos.length ∧
      (0 < s.newNodes → s.startIndex ≤ s.currentIndex ∧
        s.currentIndex < s.scaleUpInfos.length ∧ ∃ s', s.turn = some s') :=
    fun k s hafter => BalanceState.safe_of_after htakes hafter
  -- capping only lowers the bound
  have hbound : ∀ k s, start.after k = some s →
      (k : Int) ≤ max newNodes 0 + start.scaleUpInfos.length := by
    intro k s hafter
    have hk := (hsafe k s hafter).1
    omega
  refine ⟨fun k s hafter => ⟨hbound k s hafter, (hsafe k s hafter).2⟩, ?_⟩
  obtain ⟨k, s, hafter, hend⟩ := BalanceState.exists_end htakes
  refine ⟨k, s, hafter, hend, hbound k s hafter, fun hne => ?_⟩
  exact balanceScaleUp_of_loop sortSlice hne hcollect rfl
    (BalanceState.loop_of_after hafter hend (hsafe k s hafter).1)

/-- `g` is one beyond its maximum: two of the five nodes are given to `k`, in two turns. -/
theorem balanceLoop_bounded_sample :
    let start : BalanceState := ⟨insertionSort.sort
      [⟨{ groupG with maxSize := 1 }, 2, 2, 1⟩, ⟨widerK, 1, 1, 4⟩], 0, 0, 2⟩
    (start.after 2).map BalanceState.newNodes = some 0 ∧
    (∀ k s, start.after k = some s → 0 < s.newNodes →
      s.currentIndex < s.scaleUpInfos.length) ∧
    ∃ k s, start.after k = some s ∧ s.newNodes ≤ 0 ∧ (k : Int) ≤ 7 := by
  intro start
  obtain ⟨hsafe, k, s, hafter, hend, hbound, -⟩ := balanceLoop_bounded Cluster.sample.service
    insertionSort [{ groupG with maxSize := 1 }, widerK] sampleMachine
    [⟨{ groupG with maxSize := 1 }, 2, 2, 1⟩, ⟨widerK, 1, 1, 4⟩] 2 (by decide) 5
  exact ⟨by decide, fun k s hafter hn => ((hsafe k s hafter).2 hn).2.1, k, s, hafter, hend, hbound⟩

end AutoNodeRepair
