import Mathlib.Data.List.OfFn
import AutoNodeRepair.Theorems.DeletionGuards

/-!
# Replacement before deletion

Below the maximum a step of `AsgRepairNodes` grows the group first and deletes
afterwards. `StaticAutorepair.IncreaseSize` returns nothing, so the deletion
follows whatever became of the growth. What became of it is settled by the
answers the outside gives before the deletion (`Growth`): unless they supply a
replacement, there is an outside that gives them and in which an instance is
terminated all the same (`growthScript`), provided one of the batch can be.
-/

namespace AutoNodeRepair

open Interact

/-- The numbers of ready nodes seen at `n` polls, 30 seconds apart. -/
def readySamples (asg : Asg) : Nat → Ctl (List Int)
  | 0 => return []
  | n + 1 => do
      sleep (30 * second)
      let (currReadyNodes, _) ← asgReadyNodes asg
      let later ← readySamples asg n
      return currReadyNodes.length :: later

/-- Some exchange of the log asks for a termination. -/
def Terminates {W : Type} (log : List (ApiEvent W)) : Prop :=
  ∃ e ∈ log, ∃ id dec, e.call = .terminateInstance id dec

/-! ## The growth of a group -/

section

variable {W : Type} (h : ApiService W) (asg : Asg)

/-- The size that is reported in `m`, if one is. -/
def reportedSize (m : Machine W) : Option Int :=
  match ((asg.targetSize).exec h m).val with
  | (size, none) => some size
  | (_, some _) => none

/-- In `m` the outside accepts a new size. -/
def Resizes (m : Machine W) (size : Int) : Prop :=
  ((setDesiredCapacity asg.name size).exec h ((asg.targetSize).exec h m).mach).val = .ok ()

/-- From `m` a positive increase is granted: the group's size is reported, there
is room for the increase, and the new size is accepted. -/
def Granted (inc : Int) (m : Machine W) : Prop :=
  0 < inc ∧ ∃ size, reportedSize h asg m = some size ∧ size + inc ≤ asg.maxSize ∧
    Resizes h asg m (size + inc)

/-- The outside supplies `inc` more ready nodes to a step that starts to grow in
`m`: it grants the increase, and at one of the ten polls after it there are so
many more ready nodes than before it. -/
def Supplied (inc : Int) (m : Machine W) : Prop :=
  Granted h asg inc ((asgReadyNodes asg).exec h m).mach ∧
  ∃ p ∈ ((readySamples asg 10).exec h
      ((asg.increaseSize inc).exec h ((asgReadyNodes asg).exec h m).mach).mach).val,
    ((asgReadyNodes asg).exec h m).val.1.length + inc ≤ p

variable {h asg}

/-- `Asg.IncreaseSize` succeeds exactly on a granted increase. -/
theorem increaseSize_ok_iff (inc : Int) (m : Machine W) :
    ((asg.increaseSize inc).exec h m).val = .ok () ↔ Granted h asg inc m := by
  unfold Asg.increaseSize Granted reportedSize Resizes
  by_cases hpos : inc ≤ 0
  · rw [if_pos hpos]
    simp only [exec_pure, reduceCtorEq, false_iff]
    omega
  · have hinc : 0 < inc := by omega
    rw [if_neg hpos]
    simp only [Asg.targetSize, exec_bind, Outcome.after_val, hinc, true_and]
    cases hread : ((getAsgSize asg).exec h m).val with
    | mk size err =>
        cases err with
        | some err => simp
        | none =>
            by_cases hroom : size + inc > asg.maxSize
            · have hnot : ¬ size + inc ≤ asg.maxSize := by omega
              simp [hroom, hnot]
            · have hfits : size + inc ≤ asg.maxSize := by omega
              simp [hroom, hfits, setAsgSize]

/-- The wait sees the goal exactly if one of the samples reaches it. -/
theorem pollReady_reaches_iff (goal : Int) :
    ∀ (left : Nat) (curr : Int) (m : Machine W), curr ≠ goal →
    ((∃ p ∈ ((pollReady asg goal left curr).exec h m).val, goal ≤ p) ↔
      ∃ p ∈ ((readySamples asg left).exec h m).val, goal ≤ p) := by
  intro left
  induction left with
  | zero => intro curr m _; simp [pollReady, readySamples]
  | succ left ih =>
      intro curr m hcurr
      simp only [pollReady, readySamples, if_pos hcurr, exec_bind, Outcome.after_val, exec_pure,
        List.exists_mem_cons_iff]
      generalize (asgReadyNodes asg).exec h _ = sample
      by_cases hreached : goal ≤ (sample.val.1.length : Int)
      · simp [hreached]
      · simp only [hreached, false_or]
        exact ih _ _ (by omega)

/-- The report of `StaticAutorepair.IncreaseSize` shows a supplied increase. -/
theorem increaseSizeReport_supplied_iff (inc : Int) (m : Machine W) :
    (((increaseSizeReport asg inc).exec h m).val.accepted = true ∧
      ∃ p ∈ ((increaseSizeReport asg inc).exec h m).val.polls,
        ((increaseSizeReport asg inc).exec h m).val.prevSize + inc ≤ p) ↔
    Supplied h asg inc m := by
  unfold Supplied
  rw [← increaseSize_ok_iff]
  simp only [increaseSizeReport, exec_bind, Outcome.after_val]
  cases hans : ((asg.increaseSize inc).exec h ((asgReadyNodes asg).exec h m).mach).val with
  | error err => simp
  | ok _ =>
      have hinc : 0 < inc := ((increaseSize_ok_iff inc _).mp hans).1
      simp only [exec_bind, Outcome.after_val, exec_pure, true_and]
      exact pollReady_reaches_iff _ 10 _ _ (by omega)

end

/-! ## The answers to it -/

/-- What the outside answers to a step below the maximum before it starts to delete: the
size read by `CalcExpandSize` and that read by `Asg.IncreaseSize` (`none` if the read
fails), the number of ready nodes of the group before the increase and at ten polls after
it, and whether the new size is accepted. -/
structure Growth where
  sizing : Option Int
  readyBefore : Nat
  size : Option Int
  accepted : Bool
  readyAfter : Fin 10 → Nat

/-- The batch size these answers lead to. -/
def Growth.incSize (g : Growth) (asg : Asg) (l : List Node) : Int :=
  min (l.length : Int) (allowableIncreaseSize asg (Script.sizeRead g.sizing))

/-- The answers supply a replacement: there is room for the increase and it is accepted,
and at one of the polls there are so many more ready nodes. -/
def Growth.Supplies (g : Growth) (asg : Asg) (l : List Node) : Prop :=
  0 < g.incSize asg l ∧ (∃ size, g.size = some size ∧ size + g.incSize asg l ≤ asg.maxSize) ∧
    g.accepted = true ∧ ∃ i, g.readyBefore + g.incSize asg l ≤ g.readyAfter i

section

variable {W : Type} (h : ApiService W) (asg : Asg)

/-- A step that starts in `m` is below the maximum and gets these answers. -/
structure Grows (l : List Node) (m : Machine W) (g : Growth) : Prop where
  below : branchRead h asg m < asg.maxSize
  sizing : reportedSize h asg ((asg.targetSize).exec h m).mach = g.sizing
  readyBefore : ((asgReadyNodes asg).exec h (growStart h asg m)).val.1.length = g.readyBefore
  size : reportedSize h asg ((asgReadyNodes asg).exec h (growStart h asg m)).mach = g.size
  accepted : ∀ size, g.size = some size →
    (Resizes h asg ((asgReadyNodes asg).exec h (growStart h asg m)).mach
      (size + g.incSize asg l) ↔ g.accepted = true)
  readyAfter : ((readySamples asg 10).exec h ((asg.increaseSize (g.incSize asg l)).exec h
    ((asgReadyNodes asg).exec h (growStart h asg m)).mach).mach).val =
      List.ofFn fun i => (g.readyAfter i : Int)

variable {h asg}

/-- A read that fails leaves the same room whatever its error. -/
theorem allowableIncreaseSize_reportedSize (m : Machine W) :
    allowableIncreaseSize asg (Script.sizeRead (reportedSize h asg m)) =
      allowableIncreaseSize asg ((asg.targetSize).exec h m).val := by
  unfold reportedSize
  cases hread : ((asg.targetSize).exec h m).val with
  | mk size err =>
      cases err with
      | none => rfl
      | some err =>
          obtain rfl := targetSize_of_error hread
          rfl

namespace Grows

variable {l : List Node} {m : Machine W} {g : Growth}

/-- The answers decide the batch size. -/
theorem expandSize (hg : Grows h asg l m g) :
    AutoNodeRepair.expandSize h asg l m = g.incSize asg l := by
  rw [expandSize_eq, Growth.incSize, ← hg.sizing, allowableIncreaseSize_reportedSize, sizingRead]

/-- They decide whether the replacement is supplied. -/
theorem supplied_iff (hg : Grows h asg l m g) :
    Supplied h asg (g.incSize asg l) (growStart h asg m) ↔ g.Supplies asg l := by
  unfold Supplied Granted Growth.Supplies
  simp only [hg.readyBefore, hg.size, hg.readyAfter, List.mem_ofFn, exists_exists_eq_and]
  constructor
  · rintro ⟨⟨hpos, size, hsize, hroom, hset⟩, hready⟩
    exact ⟨hpos, ⟨size, hsize, hroom⟩, (hg.accepted size hsize).mp hset, hready⟩
  · rintro ⟨hpos, ⟨size, hsize, hroom⟩, haccepted, hready⟩
    exact ⟨⟨hpos, size, hsize, hroom, (hg.accepted size hsize).mpr haccepted⟩, hready⟩

/-- What the step then does. -/
theorem repairStep_val (hg : Grows h asg l m g) (a : StaticAutorepair)
    (hroom : 0 ≤ g.incSize asg l) :
    ((a.repairStep asg l).exec h m).val = .increasedFirst (g.incSize asg l)
      ((increaseSizeReport asg (g.incSize asg l)).exec h (growStart h asg m)).val := by
  have hbelow := hg.below
  rcases repairStep_cases h a asg l m with ⟨hmax, -⟩ | ⟨-, -, hval⟩ | ⟨-, hneg, -⟩
  · omega
  · rwa [hg.expandSize] at hval
  · rw [hg.expandSize] at hneg
    omega

/-- The terminations of the step are those of its batch. -/
theorem terminates_iff (hg : Grows h asg l m g) (a : StaticAutorepair)
    (hroom : 0 ≤ g.incSize asg l) :
    Terminates ((a.repairStep asg l).exec h m).log ↔
      Terminates ((a.deleteNodes asg (l.take (g.incSize asg l).toNat)).exec h
        ((increaseSizeReport asg (g.incSize asg l)).exec h (growStart h asg m)).mach).log := by
  have hkept := terminations_kept h fun _ => False
  have hsize : ∀ m : Machine W, ∀ e ∈ ((asg.targetSize).exec h m).log, ∀ id dec,
      e.call ≠ .terminateInstance id dec := fun m e he id dec hcall => by
    simpa using (hkept.getAsgSize asg m trivial).2 e he id dec hcall
  have hgrow : ∀ (inc : Int) (m : Machine W), ∀ e ∈ ((increaseSizeReport asg inc).exec h m).log,
      ∀ id dec, e.call ≠ .terminateInstance id dec := fun inc m e he id dec hcall => by
    simpa using (hkept.increaseSizeReport trivial inc m trivial).2 e he id dec hcall
  have hbelow : ¬ ((asg.targetSize).exec h m).val.1 ≥ asg.maxSize := Int.not_le.mpr hg.below
  have hslice : ¬ (g.incSize asg l < 0 ∨ g.incSize asg l > l.length) := by
    unfold Growth.incSize at hroom ⊢
    omega
  simp only [StaticAutorepair.repairStep, StaticAutorepair.repairBatch, exec_bind, if_neg hbelow,
    calcExpandSize_exec, hg.expandSize, if_neg hslice, Outcome.after_log, exec_pure,
    List.append_nil, Terminates, List.mem_append]
  constructor
  · rintro ⟨e, he | he | he | he, id, dec, hcall⟩
    · exact absurd hcall (hsize _ e he id dec)
    · exact absurd hcall (hsize _ e he id dec)
    · exact absurd hcall (hgrow _ _ e he id dec)
    · exact ⟨e, he, id, dec, hcall⟩
  · rintro ⟨e, he, hcall⟩
    exact ⟨e, .inr (.inr (.inr he)), hcall⟩

end Grows

end

/-! ## An outside that gives them -/

/-- A pod under deletion. -/
def leavingPod (node : Node) : Pod :=
  { ns := "default", name := "p", nodeName := node.name, deletionTimestamp := some 0 }

/-- Below the maximum the group grows as in `g`. Every node has a pod that a budget protects,
until after `k` looks at the clock it has been under deletion for long. -/
def growthScript (asg : Asg) (l : List Node) (g : Growth) (k : Nat) : Script where
  sizes
    | 0 => some (asg.maxSize - 1)
    | 1 => g.sizing
    | 2 => g.size
    | _ => some 0
  ready
    | 0 => g.readyBefore
    | i + 1 => if hi : i < 10 then g.readyAfter ⟨i, hi⟩ else 0
  times i := if i < k then 0 else 13 * minute
  resize := if g.accepted then .ok () else .error "Throttling: Rate exceeded"
  pods := (l.map leavingPod, none)
  pdbs := ([⟨"default", .ok fun _ => true, 0⟩], none)

theorem Script.reportedSize_eq (s : Script) (asg : Asg) (w : Tape) :
    reportedSize s.service asg (knownBy asg w) = s.sizes w.sizes := by
  unfold reportedSize
  rw [targetSize_exec]
  cases s.sizes w.sizes <;> rfl

/-- The polls see what the script says. -/
theorem Script.readySamples_exec (s : Script) (asg : Asg) (n : Nat) (w : Tape) :
    ((readySamples asg n).exec s.service (knownBy asg w)).val =
      (List.range n).map fun i => (s.ready (w.listings + i) : Int) := by
  induction n generalizing w with
  | zero => rfl
  | succ n ih =>
      have hsleep : ((sleep (30 * second)).exec s.service (knownBy asg w)).mach =
          knownBy asg w := rfl
      simp only [readySamples, exec_bind, Outcome.after_val, hsleep, asgReadyNodes_exec, ih,
        exec_pure, List.range_succ_eq_map, List.map_cons, List.map_map]
      congr 1
      refine List.map_congr_left fun i _ => ?_
      simp [Nat.add_right_comm, Nat.add_assoc]

/-- A positive increase reads the size once, whatever becomes of it. -/
theorem Script.increaseSize_mach (s : Script) (asg : Asg) (w : Tape) {inc : Int}
    (hinc : 0 < inc) :
    ((asg.increaseSize inc).exec s.service (knownBy asg w)).mach =
      knownBy asg { w with sizes := w.sizes + 1 } := by
  have hread := targetSize_exec s asg w
  rw [Asg.targetSize] at hread
  simp only [Asg.increaseSize, if_neg (Int.not_le.mpr hinc), exec_bind, hread, Outcome.after_mach]
  cases s.sizes w.sizes with
  | none => rfl
  | some size =>
      simp only [sizeRead]
      split <;> rfl

namespace growthScript

variable (asg : Asg) (l : List Node) (g : Growth) (k : Nat)

theorem clockRuns : ClockRuns (growthScript asg l g k).service
    fun w => (growthScript asg l g k).times w.looks := by
  refine Script.clockRuns _ fun i => ?_
  simp only [growthScript, Time, minute, second]
  split <;> split <;> omega

/-- The step gets the answers of `g`. -/
theorem grows (hinc : 0 < g.incSize asg l) :
    Grows (growthScript asg l g k).service asg l (Script.knownBy asg {}) g := by
  have hstart : growStart (growthScript asg l g k).service asg (Script.knownBy asg {}) =
      Script.knownBy asg { sizes := 2 } := by
    simp [growStart, Script.targetSize_exec]
  have hready := Script.asgReadyNodes_exec (growthScript asg l g k) asg { sizes := 2 }
  constructor
  · rw [branchRead, Script.targetSize_exec]
    exact Int.sub_one_lt_of_le (Int.le_refl _)
  · rw [Script.targetSize_exec, Script.reportedSize_eq]
    rfl
  · rw [hstart, hready.1]
    rfl
  · rw [hstart, hready.2, Script.reportedSize_eq]
    rfl
  · intro size hsize
    rw [hstart, hready.2, Resizes, Script.targetSize_exec]
    change (if g.accepted then Except.ok () else Except.error _) = Except.ok () ↔ _
    cases g.accepted <;> simp
  · rw [hstart, hready.2, Script.increaseSize_mach _ _ _ hinc, Script.readySamples_exec]
    refine List.ext_getElem (by simp) fun i hi _ => ?_
    have hlt : i < 10 := by simpa using hi
    rw [List.getElem_map, List.getElem_range, List.getElem_ofFn, Nat.zero_add, Nat.add_comm 1 i]
    simp only [growthScript, dif_pos hlt]

/-- While the pod of a node is protected, the node is passed over. -/
theorem movablePods_early {node : Node} (hnode : node ∈ l) {i : Nat} (hi : i < k) :
    ∃ err, movablePods (growthScript asg l g k).pdbs.1 ((growthScript asg l g k).times i)
      ((growthScript asg l g k).pods.1.filter fun pod => pod.nodeName == node.name) =
        .error err := by
  rw [movablePods_error_iff]
  refine ⟨_, List.mem_singleton.mpr rfl, .inr ⟨by decide, leavingPod node, ?_, rfl⟩⟩
  have hheld : exemptPod ((growthScript asg l g k).times i) (leavingPod node) = false := by
    simp only [growthScript, if_pos hi]
    rfl
  refine List.mem_filter.mpr ⟨List.mem_filter.mpr ⟨List.mem_map_of_mem hnode, ?_⟩, ?_⟩
  · simp [leavingPod]
  · simp [hheld]

/-- Once it has been under deletion for long, nothing of the node is left to move. -/
theorem movablePods_late (node : Node) {i : Nat} (hi : k ≤ i) :
    movablePods (growthScript asg l g k).pdbs.1 ((growthScript asg l g k).times i)
      ((growthScript asg l g k).pods.1.filter fun pod => pod.nodeName == node.name) = .ok [] := by
  have hgone : ∀ n : Node,
      exemptPod ((growthScript asg l g k).times i) (leavingPod n) = true := by
    intro n
    simp only [growthScript, if_neg (Nat.not_lt.mpr hi)]
    rfl
  have hnone : (((growthScript asg l g k).pods.1.filter fun pod => pod.nodeName == node.name).filter
      fun pod => !exemptPod ((growthScript asg l g k).times i) pod) = [] := by
    rw [List.filter_eq_nil_iff]
    intro pod hpod
    obtain ⟨n, -, rfl⟩ := List.mem_map.mp (List.mem_filter.mp hpod).1
    simp [hgone n]
  rw [movablePods, hnone]
  rfl

/-- The loop comes to the node behind the first `k`. -/
theorem turn_attempted (a : StaticAutorepair) (node : Node) (behind : List Node) :
    ∀ (before : List Node) (w : Tape), (∀ n ∈ before, n ∈ l) → w.looks + before.length = k →
    (⟨node, (growthScript asg l g k).pods.1.filter fun pod => pod.nodeName == node.name,
      (growthScript asg l g k).pdbs.1, Script.knownBy asg { w with looks := k }⟩ : Turn Tape) ∈
      attempted (Turn.movable (growthScript asg l g k).service a)
        (Turn.deleted (growthScript asg l g k).service a)
        (turns (growthScript asg l g k).service a (growthScript asg l g k).pdbs.1
          (growthScript asg l g k).pods.1 (before ++ node :: behind) (Script.knownBy asg w)) := by
  intro before
  induction before with
  | nil =>
      rintro w - hlooks
      obtain rfl : w.looks = k := by simpa using hlooks
      rw [List.nil_append, turns, attempted, if_pos]
      · split
        · exact List.mem_cons_self
        · exact List.mem_singleton.mpr rfl
      · exact Turn.movable_iff.mpr ⟨[], movablePods_late asg l g _ node (Nat.le_refl _)⟩
  | cons n before ih =>
      intro w hbefore hlooks
      simp only [List.length_cons] at hlooks
      have hmovable : Turn.movable (growthScript asg l g k).service a ⟨n,
          (growthScript asg l g k).pods.1.filter fun pod => pod.nodeName == n.name,
          (growthScript asg l g k).pdbs.1, Script.knownBy asg w⟩ = false := by
        obtain ⟨err, herr⟩ := movablePods_early asg l g k (hbefore n List.mem_cons_self)
          (i := w.looks) (by omega)
        rw [← Bool.not_eq_true, Turn.movable_iff]
        rintro ⟨pods, hpods⟩
        exact absurd (herr.symm.trans hpods) (by simp)
      rw [List.cons_append, turns]
      simp only [attempted, hmovable, Bool.false_and, Bool.false_eq_true, if_false, Turn.after,
        Turn.moved, detailedGetPodsForMove_exec]
      exact ih { w with looks := w.looks + 1 } (fun n hn => hbefore n (List.mem_cons_of_mem _ hn))
        (by simp only; omega)

/-- Its instance is terminated, although the nodes before it are passed over. -/
theorem deleteNodes_terminates (a : StaticAutorepair)
    (hgrace : 0 < waitLimit a.maxGracefulTerminationSec) {before behind : List Node} {node : Node}
    {ref : AwsRef} (href : awsRefFromProviderId node.providerID = .ok ref)
    (hbefore : ∀ n ∈ before, n ∈ l) (listings : Nat) :
    Terminates ((a.deleteNodes asg (before ++ node :: behind)).exec
      (growthScript asg l g before.length).service
      (Script.knownBy asg { sizes := 3, listings := listings })).log := by
  generalize hscript : growthScript asg l g before.length = s
  have hturns : deleteTurns s.service a asg (before ++ node :: behind)
      (Script.knownBy asg { sizes := 3, listings := listings }) =
      turns s.service a s.pdbs.1 s.pods.1 (before ++ node :: behind)
        (Script.knownBy asg { sizes := 5, listings := listings }) := by
    simp only [deleteTurns, growStart, Script.targetSize_exec]
    rfl
  have hturn := turn_attempted asg l g before.length a node behind before
    { sizes := 5, listings := listings } hbefore (Nat.zero_add _)
  have hmoved := movablePods_late asg l g before.length node (Nat.le_refl _)
  rw [hscript] at hturn hmoved
  rw [← hturns] at hturn
  have hlate : ∀ i, before.length ≤ i → s.times i = 13 * minute := by
    intro i hi
    rw [← hscript]
    exact if_neg (Nat.not_lt.mpr hi)
  have hsize : s.sizes 5 = some 0 := by
    rw [← hscript]
    rfl
  obtain ⟨e, he, dec, hcall⟩ := Script.deleteNode_terminates s asg
    { sizes := 5, listings := listings, looks := before.length + 1 } href hgrace
    ((hlate _ (by simp only; omega)).trans (hlate _ (by simp only; omega)).symm) hsize
  refine ⟨e, deletion_subset_deleteNodes hturn ?_, ref.name, dec, hcall⟩
  have hpods : movablePods s.pdbs.1 (s.service (Script.knownBy asg
      { sizes := 5, listings := listings, looks := before.length }).world .now).1
      (s.pods.1.filter fun pod => pod.nodeName == node.name) = .ok [] := hmoved
  rw [Turn.deletion, Turn.moved, detailedGetPodsForMove_exec, hpods]
  exact he

end growthScript

/-- The growth reads the size once, and lists the ready nodes some times. -/
theorem Script.increaseSizeReport_mach (s : Script) (asg : Asg) {inc : Int} (hinc : 0 < inc) :
    ∃ n, ((increaseSizeReport asg inc).exec s.service (knownBy asg { sizes := 2 })).mach =
      knownBy asg { sizes := 3, listings := n } := by
  have hready := (asgReadyNodes_exec s asg { sizes := 2 }).2
  have hsize := increaseSize_mach s asg { sizes := 2, listings := 1 } hinc
  simp only [increaseSizeReport, exec_bind, Outcome.after_mach, hready, hsize]
  split
  · exact ⟨1, rfl⟩
  · simp only [exec_bind, Outcome.after_mach, exec_pure]
    exact pollReady_mach s asg { sizes := 3, listings := 1 } _ _ _

/-- In the scripted outside the step terminates an instance. -/
theorem growthScript.repairStep_terminates (a : StaticAutorepair) (asg : Asg) (l : List Node)
    (g : Growth) (hgrace : 0 < waitLimit a.maxGracefulTerminationSec)
    {before behind : List Node} {node : Node}
    (hbatch : l.take (g.incSize asg l).toNat = before ++ node :: behind) {ref : AwsRef}
    (href : awsRefFromProviderId node.providerID = .ok ref) (hinc : 0 < g.incSize asg l) :
    Terminates ((a.repairStep asg l).exec (growthScript asg l g before.length).service
      (Script.knownBy asg {})).log := by
  have hbefore : ∀ n ∈ before, n ∈ l := fun n hn =>
    List.mem_of_mem_take (hbatch ▸ List.mem_append_left _ hn)
  rw [(growthScript.grows asg l g before.length hinc).terminates_iff a (Int.le_of_lt hinc)]
  have hstart : growStart (growthScript asg l g before.length).service asg
      (Script.knownBy asg {}) = Script.knownBy asg { sizes := 2 } := by
    simp [growStart, Script.targetSize_exec]
  obtain ⟨listings, hmach⟩ :=
    Script.increaseSizeReport_mach (growthScript asg l g before.length) asg hinc
  rw [hstart, hmach, hbatch]
  exact growthScript.deleteNodes_terminates asg l g a hgrace href hbefore listings

/-- The sample cluster while AWS throttles resize requests. -/
def throttledResizes : ApiService (ClusterState × Nat) :=
  Cluster.sample.variant fun w call =>
    match call with
    | .setDesiredCapacity _ _ => some (.error "Throttling: Rate exceeded", w)
    | _ => none

end AutoNodeRepair
