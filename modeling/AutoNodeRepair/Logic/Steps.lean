import AutoNodeRepair.Model.Repair

/-!
# The steps of the repair recursion

`AsgRepairNodes` as a sequence of steps: `repairStep` is one call up to its
recursive call, `Reaches` relates the list and the machine of the first call to
those of every later one. `asgRepairNodes_step` unrolls the recursion by one
step, and `repairStep_cases` says what a step does in its two branches.
-/

namespace AutoNodeRepair

open Interact

/-- One call of `AsgRepairNodes` on a non-empty list, up to its recursive call. -/
def StaticAutorepair.repairStep (a : StaticAutorepair) (asg : Asg)
    (toBeRepairedNodes : List Node) : Ctl BatchReport := do
  let (desiredSize, _) ← asg.targetSize
  a.repairBatch asg toBeRepairedNodes desiredSize

section

variable {W : Type} (h : ApiService W) (a : StaticAutorepair) (asg : Asg)

/-- From the call on `l` in `m` the recursion comes to a call on `l'` in `m'`. -/
inductive Reaches : List Node → Machine W → List Node → Machine W → Prop
  | refl (l : List Node) (m : Machine W) : Reaches l m l m
  | step {l : List Node} {m : Machine W} {l' : List Node} {m' : Machine W} (hne : l ≠ [])
      (hgoes : ∀ n, ((a.repairStep asg l).exec h m).val ≠ .panicked n)
      (hrest : Reaches (l.drop ((a.repairStep asg l).exec h m).val.incSize.toNat)
        ((a.repairStep asg l).exec h m).mach l' m') :
      Reaches l m l' m'

/-- The size read to choose the branch of a step that starts in `m`. -/
def branchRead (m : Machine W) : Int := ((asg.targetSize).exec h m).val.1

/-- The size read right after it by `CalcExpandSize`, or -1 and an error. -/
def sizingRead (m : Machine W) : Int × Option String :=
  ((asg.targetSize).exec h ((asg.targetSize).exec h m).mach).val

/-- The machine in which a batch below the maximum starts to grow. -/
def growStart (m : Machine W) : Machine W :=
  ((asg.targetSize).exec h ((asg.targetSize).exec h m).mach).mach

/-- The batch size `CalcExpandSize` arrives at. -/
def expandSize (l : List Node) (m : Machine W) : Int :=
  if allowableIncreaseSize asg (sizingRead h asg m) ≥ l.length then l.length
  else allowableIncreaseSize asg (sizingRead h asg m)

variable {h a asg}

theorem asgRepairNodes_nil (fuel : Nat) (m : Machine W) :
    ((a.asgRepairNodes (fuel + 1) asg []).exec h m).val = .done := by
  simp [StaticAutorepair.asgRepairNodes]

/-- Later calls are on what is left of the first one's list. -/
theorem Reaches.sublist {l l' : List Node} {m m' : Machine W}
    (hreach : Reaches h a asg l m l' m') : l'.Sublist l := by
  induction hreach with
  | refl => exact List.Sublist.refl _
  | step _ _ _ ih => exact ih.trans (List.drop_sublist _ _)

/-- Of two calls that are reached, one is reached from the other. -/
theorem Reaches.linear {l l₁ l₂ : List Node} {m m₁ m₂ : Machine W}
    (hreach₁ : Reaches h a asg l m l₁ m₁) (hreach₂ : Reaches h a asg l m l₂ m₂) :
    Reaches h a asg l₁ m₁ l₂ m₂ ∨ Reaches h a asg l₂ m₂ l₁ m₁ := by
  induction hreach₁ with
  | refl => exact .inl hreach₂
  | step hne hgoes hrest ih =>
      cases hreach₂ with
      | refl => exact .inr (.step hne hgoes hrest)
      | step _ _ hrest₂ => exact ih hrest₂

/-- The recursion, one step unrolled. -/
theorem asgRepairNodes_step {l : List Node} {m : Machine W} (hne : l ≠ [])
    (hgoes : ∀ n, ((a.repairStep asg l).exec h m).val ≠ .panicked n) (fuel : Nat) :
    (a.asgRepairNodes (fuel + 1) asg l).exec h m =
      ((a.asgRepairNodes fuel asg
        (l.drop ((a.repairStep asg l).exec h m).val.incSize.toNat)).exec h
          ((a.repairStep asg l).exec h m).mach).after ((a.repairStep asg l).exec h m).log := by
  cases l with
  | nil => exact absurd rfl hne
  | cons node rest =>
      simp only [StaticAutorepair.repairStep, StaticAutorepair.asgRepairNodes, exec_bind,
        Outcome.after_val, Outcome.after_mach, Outcome.after_log] at hgoes ⊢
      generalize (a.repairBatch asg (node :: rest) _).exec h _ = batch at hgoes ⊢
      obtain ⟨report, log, mach⟩ := batch
      cases report with
      | panicked n => exact absurd rfl (hgoes n)
      | deletedFirst increase => simp [Outcome.after]
      | increasedFirst inc increase => simp [Outcome.after]

/-- A step that crashes is the last one. -/
theorem asgRepairNodes_panicked {l : List Node} {m : Machine W} (hne : l ≠ []) {n : Int}
    (hpanic : ((a.repairStep asg l).exec h m).val = .panicked n) (fuel : Nat) :
    ((a.asgRepairNodes (fuel + 1) asg l).exec h m).log = ((a.repairStep asg l).exec h m).log := by
  cases l with
  | nil => exact absurd rfl hne
  | cons node rest =>
      simp only [StaticAutorepair.repairStep, StaticAutorepair.asgRepairNodes, exec_bind,
        Outcome.after_val, Outcome.after_log] at hpanic ⊢
      rw [hpanic]
      simp

/-- `CalcExpandSize`, asked right after the branch was chosen. -/
theorem calcExpandSize_exec (l : List Node) (m : Machine W) :
    (calcExpandSize asg l).exec h ((asg.targetSize).exec h m).mach =
      ⟨expandSize h asg l m, ((asg.targetSize).exec h ((asg.targetSize).exec h m).mach).log,
        growStart h asg m⟩ := by
  simp [calcExpandSize, expandSize, sizingRead, growStart, Outcome.after]

/-- What a step does: delete one and grow at the maximum, grow and delete below
it, crash on a batch size that is no slice. -/
theorem repairStep_cases (h : ApiService W) (a : StaticAutorepair) (asg : Asg)
    (l : List Node) (m : Machine W) :
    (asg.maxSize ≤ branchRead h asg m ∧
      ∃ increase, ((a.repairStep asg l).exec h m).val = .deletedFirst increase) ∨
    (branchRead h asg m < asg.maxSize ∧ 0 ≤ expandSize h asg l m ∧
      ((a.repairStep asg l).exec h m).val = .increasedFirst (expandSize h asg l m)
        ((increaseSizeReport asg (expandSize h asg l m)).exec h (growStart h asg m)).val) ∨
    (branchRead h asg m < asg.maxSize ∧ expandSize h asg l m < 0 ∧
      ((a.repairStep asg l).exec h m).val = .panicked (expandSize h asg l m)) := by
  have hle : expandSize h asg l m ≤ l.length := by
    unfold expandSize
    split <;> omega
  by_cases hmax : asg.maxSize ≤ branchRead h asg m
  · refine .inl ⟨hmax, ?_⟩
    have hcond : ((asg.targetSize).exec h m).val.1 ≥ asg.maxSize := hmax
    simp [StaticAutorepair.repairStep, StaticAutorepair.repairBatch, hcond]
  · have hcond : ¬ ((asg.targetSize).exec h m).val.1 ≥ asg.maxSize := hmax
    by_cases hneg : expandSize h asg l m < 0
    · refine .inr (.inr ⟨by omega, hneg, ?_⟩)
      simp [StaticAutorepair.repairStep, StaticAutorepair.repairBatch, hcond,
        calcExpandSize_exec, hneg]
    · refine .inr (.inl ⟨by omega, by omega, ?_⟩)
      have hslice : ¬ (expandSize h asg l m < 0 ∨ expandSize h asg l m > l.length) := by omega
      simp [StaticAutorepair.repairStep, StaticAutorepair.repairBatch, hcond,
        calcExpandSize_exec, hslice]

end

end AutoNodeRepair
