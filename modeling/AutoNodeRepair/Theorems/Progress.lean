import AutoNodeRepair.Logic.Cluster
import AutoNodeRepair.Logic.Steps

/-!
# Progress of the repair recursion

A step of `AsgRepairNodes` reads the size twice, once to choose its branch and
once to size its batch. The batch size is a proper slice exactly when the second
read leaves room below the maximum as the first one did; then the recursion ends
after at most one step per node. When another actor fills the group between the
two reads, the step makes no progress or crashes. A second read that fails counts
as a size of -1, which leaves room unless the maximum is the largest `int`.
-/

namespace AutoNodeRepair

open Interact

section

variable {W : Type} {h : ApiService W} {a : StaticAutorepair} {asg : Asg}

/-- The batch size is the smaller one of the room and the length of the list. -/
theorem expandSize_eq (h : ApiService W) (asg : Asg) (l : List Node) (m : Machine W) :
    expandSize h asg l m =
      min (l.length : Int) (allowableIncreaseSize asg (sizingRead h asg m)) := by
  unfold expandSize
  split <;> omega

/-- The `incSize` of a step: 1 at the maximum, the batch size below it. -/
theorem repairStep_incSize (l : List Node) (m : Machine W) :
    ((a.repairStep asg l).exec h m).val.incSize =
      if asg.maxSize ≤ branchRead h asg m then 1 else expandSize h asg l m := by
  rcases repairStep_cases h a asg l m with
    ⟨hmax, increase, hval⟩ | ⟨hlt, -, hval⟩ | ⟨hlt, -, hval⟩
  · rw [hval, if_pos hmax]
    rfl
  · rw [hval, if_neg (Int.not_le.mpr hlt)]
    rfl
  · rw [hval, if_neg (Int.not_le.mpr hlt)]
    rfl

/-- A step cuts off at most all nodes. -/
theorem incSize_le {l : List Node} (hne : l ≠ []) (m : Machine W) :
    ((a.repairStep asg l).exec h m).val.incSize ≤ l.length := by
  have hlen : 1 ≤ l.length := List.length_pos_iff.mpr hne
  rw [repairStep_incSize, expandSize_eq]
  split <;> omega

/-- It cuts off at least one node exactly if its second read leaves room. -/
theorem one_le_incSize_iff {l : List Node} (hne : l ≠ []) (m : Machine W) :
    1 ≤ ((a.repairStep asg l).exec h m).val.incSize ↔
      (branchRead h asg m < asg.maxSize →
        1 ≤ allowableIncreaseSize asg (sizingRead h asg m)) := by
  have hlen : 1 ≤ l.length := List.length_pos_iff.mpr hne
  rw [repairStep_incSize, expandSize_eq]
  split <;> omega

/-- It crashes exactly if the room is negative. -/
theorem repairStep_goes_iff {l : List Node} (hne : l ≠ []) (m : Machine W) :
    (∀ n, ((a.repairStep asg l).exec h m).val ≠ .panicked n) ↔
      (branchRead h asg m < asg.maxSize →
        0 ≤ allowableIncreaseSize asg (sizingRead h asg m)) := by
  have hlen : 1 ≤ l.length := List.length_pos_iff.mpr hne
  rcases repairStep_cases h a asg l m with
    ⟨hmax, increase, hval⟩ | ⟨hlt, hroom, hval⟩ | ⟨hlt, hneg, hval⟩
  · simp only [hval, ne_eq, reduceCtorEq, not_false_eq_true, implies_true, true_iff]
    omega
  · rw [expandSize_eq] at hroom
    simp only [hval, ne_eq, reduceCtorEq, not_false_eq_true, implies_true, true_iff]
    omega
  · rw [expandSize_eq] at hneg
    simp only [hval, ne_eq, BatchReport.panicked.injEq, forall_eq', false_iff]
    omega

/-- A step that makes progress does not crash. -/
theorem repairStep_goes {l : List Node} {m : Machine W}
    (hinc : 1 ≤ ((a.repairStep asg l).exec h m).val.incSize) (n : Int) :
    ((a.repairStep asg l).exec h m).val ≠ .panicked n := by
  rcases repairStep_cases h a asg l m with
    ⟨-, increase, hval⟩ | ⟨-, -, hval⟩ | ⟨-, hneg, hval⟩
  · simp [hval]
  · simp [hval]
  · rw [hval] at hinc
    simp only [BatchReport.incSize] at hinc
    omega

/-- A recursion whose steps all make progress needs one step per node at most. -/
theorem asgRepairNodes_done :
    ∀ (fuel : Nat) (l : List Node) (m : Machine W), l.length + 1 ≤ fuel →
    (∀ l' m', Reaches h a asg l m l' m' → l' ≠ [] →
      1 ≤ ((a.repairStep asg l').exec h m').val.incSize) →
    ((a.asgRepairNodes fuel asg l).exec h m).val = .done := by
  intro fuel
  induction fuel with
  | zero => intro l m hfuel; omega
  | succ fuel ih =>
      intro l m hfuel hsteps
      by_cases hl : l = []
      · subst hl
        exact asgRepairNodes_nil fuel m
      · have hinc := hsteps l m (.refl l m) hl
        have hgoes := repairStep_goes hinc
        rw [asgRepairNodes_step hl hgoes, Outcome.after_val]
        apply ih
        · have hlen : 1 ≤ l.length := List.length_pos_iff.mpr hl
          rw [List.length_drop]
          omega
        · intro l' m' hreach
          exact hsteps l' m' (.step hl hgoes hreach)

/-- What a read says about the room below the maximum: the size is below it, or the
read has failed and the maximum is not the largest `int`. -/
def LeavesRoom (asg : Asg) : Int × Option String → Prop
  | (size, none) => size < asg.maxSize
  | (_, some _) => asg.maxSize < 2 ^ 63 - 1

/-- A size that cannot be read is -1. -/
theorem targetSize_of_error {m : Machine W} {size : Int} {err : String}
    (hread : ((asg.targetSize).exec h m).val = (size, some err)) : size = -1 := by
  simp only [Asg.targetSize, getAsgSize, exec_bind, Outcome.after_val] at hread
  split at hread
  · simpa using (congrArg Prod.fst hread).symm
  · simpa using (congrArg Prod.fst hread).symm
  · simp at hread

/-- The room that `CalcExpandSize` computes is positive exactly if there is room. -/
theorem allowableIncreaseSize_pos_iff (hnonneg : 0 ≤ asg.maxSize) (hint : asg.maxSize < 2 ^ 63)
    (m : Machine W) : 1 ≤ allowableIncreaseSize asg (sizingRead h asg m) ↔
      LeavesRoom asg (sizingRead h asg m) := by
  cases hread : sizingRead h asg m with
  | mk size err =>
      cases err with
      | none =>
          simp only [allowableIncreaseSize, LeavesRoom]
          omega
      | some err =>
          obtain rfl := targetSize_of_error hread
          simp only [allowableIncreaseSize, LeavesRoom, wrapInt64, Int64.toInt_ofInt,
            Int.bmod_def, Int64.size]
          split <;> omega

/-- In every step that finds the group below its maximum the second read leaves room. -/
def ReadsAgree (h : ApiService W) (a : StaticAutorepair) (asg : Asg) (ns : List Node)
    (m : Machine W) : Prop :=
  ∀ l' m', Reaches h a asg ns m l' m' → l' ≠ [] →
    branchRead h asg m' < asg.maxSize → LeavesRoom asg (sizingRead h asg m')

/-- **Progress and slice safety.** For a maximum that is an `int` and not negative, every
step cuts a proper slice off its list, and the recursion ends after at most one step per
node, exactly if in every step that finds the group below its maximum the second size
read leaves room too. -/
theorem asgRepairNodes_progress_iff (hnonneg : 0 ≤ asg.maxSize) (hint : asg.maxSize < 2 ^ 63)
    (ns : List Node) (m : Machine W) :
    ((∀ l' m', Reaches h a asg ns m l' m' → l' ≠ [] →
        1 ≤ ((a.repairStep asg l').exec h m').val.incSize ∧
          ((a.repairStep asg l').exec h m').val.incSize ≤ l'.length) ∧
      ((a.asgRepairNodes (ns.length + 1) asg ns).exec h m).val = .done) ↔
    ReadsAgree h a asg ns m := by
  have hstep : ∀ {l' : List Node}, l' ≠ [] → ∀ m' : Machine W,
      (1 ≤ ((a.repairStep asg l').exec h m').val.incSize ∧
        ((a.repairStep asg l').exec h m').val.incSize ≤ l'.length) ↔
      (branchRead h asg m' < asg.maxSize → LeavesRoom asg (sizingRead h asg m')) := by
    intro l' hl' m'
    rw [and_iff_left (incSize_le hl' m'), one_le_incSize_iff hl',
      allowableIncreaseSize_pos_iff hnonneg hint]
  constructor
  · rintro ⟨hsteps, -⟩ l' m' hreach hl'
    exact (hstep hl' m').mp (hsteps l' m' hreach hl')
  · intro hagree
    have hsteps : ∀ l' m', Reaches h a asg ns m l' m' → l' ≠ [] →
        1 ≤ ((a.repairStep asg l').exec h m').val.incSize ∧
          ((a.repairStep asg l').exec h m').val.incSize ≤ l'.length :=
      fun l' m' hreach hl' => (hstep hl' m').mpr (hagree l' m' hreach hl')
    exact ⟨hsteps, asgRepairNodes_done _ ns m (Nat.le_refl _)
      fun l' m' hreach hl' => (hsteps l' m' hreach hl').1⟩

end

/-- Nobody resizes the groups of the sample cluster, and every step there makes progress. -/
theorem asgRepairNodes_progress_sample :
    (0 ≤ groupG.maxSize ∧ groupG.maxSize < 2 ^ 63) ∧
    (∀ l' m', Reaches Cluster.sample.service {} groupG [node1, node2] sampleMachine l' m' →
      l' ≠ [] →
      1 ≤ ((({} : StaticAutorepair).repairStep groupG l').exec
          Cluster.sample.service m').val.incSize ∧
        ((({} : StaticAutorepair).repairStep groupG l').exec
          Cluster.sample.service m').val.incSize ≤ l'.length) ∧
    ((({} : StaticAutorepair).asgRepairNodes 3 groupG [node1, node2]).exec
      Cluster.sample.service sampleMachine).val = .done := by
  have hagree : ReadsAgree Cluster.sample.service {} groupG [node1, node2] sampleMachine :=
    fun _ _ _ _ hbelow => hbelow
  exact ⟨by decide, (asgRepairNodes_progress_iff (by decide) (by decide) _ _).mpr hagree⟩

/-- The sample cluster while somebody else resizes: reads alternate between the
two given sizes. -/
def resizedBetweenReads (first second : Int) : ApiService (ClusterState × Nat) :=
  Cluster.sample.variant fun w call =>
    match call with
    | .describeAutoScalingGroups name =>
        some (.ok [⟨if w.2 % 2 = 0 then first else second,
          Cluster.sample.members w.1 name⟩], (w.1, w.2 + 1))
    | _ => none

/-- A group with `MaxSize` 1 that is empty at the first read. If it is full at
the second, the batch is empty and the next call is on the same list, one more than
there are nodes; if it is beyond, the slice is out of range. -/
theorem asgRepairNodes_no_progress :
    let asg : Asg := ⟨0, "g", 0, 1⟩
    let m : Machine (ClusterState × Nat) := ⟨freshStore [asg], (sampleState, 0)⟩
    ((({} : StaticAutorepair).repairStep asg [node1]).exec
        (resizedBetweenReads 0 1) m).val.incSize = 0 ∧
      ((({} : StaticAutorepair).asgRepairNodes 2 asg [node1]).exec
        (resizedBetweenReads 0 1) m).val = .outOfFuel ∧
      ((({} : StaticAutorepair).asgRepairNodes 2 asg [node1]).exec
        (resizedBetweenReads 0 3) m).val = .panicked := by
  decide +kernel

/-- With the largest maximum there is, a failed read makes the room negative. -/
example : allowableIncreaseSize ⟨0, "g", 0, 2 ^ 63 - 1⟩ (-1, some "Throttling") = -2 ^ 63 := by
  decide

end AutoNodeRepair
