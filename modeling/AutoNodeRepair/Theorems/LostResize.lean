import AutoNodeRepair.Interact.Interleave
import AutoNodeRepair.Logic.Cluster

/-!
# Two resizers

`Asg.IncreaseSize` reads the desired capacity and later writes an absolute
value; neither call carries a version. Two clients running it on one group are
two clients of a register (`ClientAt.advance`), so both resizes count exactly
if they come one after the other.
-/

namespace AutoNodeRepair

open Interact

section

variable {W : Type} {h : ApiService W} {desired : W → String → Int}
  {owner : String → Option String}

/-- `Asg.IncreaseSize` between its calls: what is left of it at each stage of
the update it makes. -/
inductive ClientAt (asg : Asg) (delta : Int) : Update Int → Ctl (Except String Unit) → Prop
  | fresh : ClientAt asg delta .fresh (asg.increaseSize delta)
  | holding (size : Int) : ClientAt asg delta (.holding size) (setAsgSize asg (size + delta))
  | done : ClientAt asg delta .done (pure (.ok ()))

/-- A client that returned an error. -/
def Failed (p : Party AutoScalingGroups Api (Except String Unit)) : Prop :=
  ∃ err, p.value = some (.error err)

/-- The one call of `GetAsgSize`: an error, or the capacity of the group. -/
theorem getAsgSize_advance (laws : AwsLaws h desired owner) (asg : Asg) (s : AutoScalingGroups)
    (w : W) :
    (∃ err, ((getAsgSize asg).advance h s w).1.prog = pure (-1, some err)) ∨
      ((getAsgSize asg).advance h s w).1.prog = pure (desired w asg.name, none) := by
  have hcall : (describeAutoScalingGroups asg.name).advance h s w =
      (⟨pure (h w (.describeAutoScalingGroups asg.name)).1, s⟩,
        (h w (.describeAutoScalingGroups asg.name)).2) := rfl
  unfold getAsgSize
  rw [Prog.advance_bind _ _ _ _ _ rfl, hcall, Prog.pure_bind]
  cases hans : (h w (.describeAutoScalingGroups asg.name)).1 with
  | error err => exact .inl ⟨err, rfl⟩
  | ok groups =>
      cases groups with
      | nil => exact .inl ⟨_, rfl⟩
      | cons g rest =>
          obtain ⟨hsize, -⟩ := laws.describe w asg.name g rest hans
          exact .inr (congrArg (fun size => pure (size, none)) hsize)

/-- The next call of a client: it fails for good, or it is the next move on the
desired capacity of the group. -/
theorem ClientAt.advance (laws : AwsLaws h desired owner) {asg : Asg} {delta : Int}
    {stage : Update Int} {prog : Ctl (Except String Unit)} (hclient : ClientAt asg delta stage prog)
    (s : AutoScalingGroups) (w : W) :
    Failed (prog.advance h s w).1 ∨
      ClientAt asg delta (stage.move (· + delta) (desired w asg.name)).1
          (prog.advance h s w).1.prog ∧
        desired (prog.advance h s w).2 asg.name =
          (stage.move (· + delta) (desired w asg.name)).2 := by
  cases hclient with
  | fresh =>
      unfold Asg.increaseSize
      by_cases hdelta : delta ≤ 0
      · rw [if_pos hdelta]
        exact .inl ⟨_, rfl⟩
      rw [if_neg hdelta, Prog.advance_bind _ _ _ _ _ rfl]
      have hsame : desired ((getAsgSize asg).advance h s w).2 = desired w :=
        laws.other w (.describeAutoScalingGroups asg.name) rfl
      rcases getAsgSize_advance laws asg s w with ⟨err, hnext⟩ | hnext
      · rw [hnext]
        exact .inl ⟨err, rfl⟩
      · rw [hnext, Prog.pure_bind]
        by_cases hmax : desired w asg.name + delta > asg.maxSize
        · simp only [if_pos hmax]
          exact .inl ⟨_, rfl⟩
        · refine .inr ⟨?_, congrFun hsame asg.name⟩
          simp only [if_neg hmax]
          exact .holding _
  | holding size =>
      have hcall : ((setAsgSize asg (size + delta)).advance h s w).1.prog =
          pure (h w (.setDesiredCapacity asg.name (size + delta))).1 := rfl
      have hvalue : ((setAsgSize asg (size + delta)).advance h s w).1.value =
          some (h w (.setDesiredCapacity asg.name (size + delta))).1 := rfl
      rw [Failed, hcall, hvalue]
      cases hans : (h w (.setDesiredCapacity asg.name (size + delta))).1 with
      | error err => exact .inl ⟨err, rfl⟩
      | ok _ =>
          have hset := laws.set_ok w asg.name (size + delta) hans
          exact .inr ⟨.done, (congrFun hset asg.name).trans (Function.update_self ..)⟩
  | done => exact .inr ⟨.done, rfl⟩

/-- A client that is through without an error has made both its calls. -/
theorem ClientAt.left_eq_zero {asg : Asg} {delta : Int} {stage : Update Int}
    {prog : Ctl (Except String Unit)} (hclient : ClientAt asg delta stage prog)
    {s : AutoScalingGroups} (hok : prog.value s = some (.ok ())) : stage.left = 0 := by
  cases hclient with
  | fresh =>
      unfold Asg.increaseSize at hok
      split at hok
      · exact nomatch Option.some.inj hok
      · exact nomatch (show none = some (Except.ok ()) from hok)
  | holding size => exact nomatch (show none = some (Except.ok ()) from hok)
  | done => rfl

/-! ## The race of two clients -/

abbrev ResizeDuo (W : Type) :=
  Duo AutoScalingGroups W Api (Except String Unit) (Except String Unit)

/-- The two clients are where the clients of the register are. -/
structure Races (desired : W → String → Int) (asg1 asg2 : Asg) (d1 d2 : Int) (d : ResizeDuo W)
    (r : Race Int) : Prop where
  left : ClientAt asg1 d1 r.left d.left.prog
  right : ClientAt asg2 d2 r.right d.right.prog
  reg : desired d.world asg1.name = r.reg

variable {asg1 asg2 : Asg} {d1 d2 : Int}

/-- One call: a client fails, or the register's clients make the same move. -/
theorem Races.step (laws : AwsLaws h desired owner) (hname : asg1.name = asg2.name)
    {d : ResizeDuo W} {r : Race Int} (hraces : Races desired asg1 asg2 d1 d2 d r) (turn : Bool) :
    Failed (d.step h turn).left ∨ Failed (d.step h turn).right ∨
      Races desired asg1 asg2 d1 d2 (d.step h turn) (r.step (· + d1) (· + d2) turn) := by
  cases turn with
  | true =>
      rcases hraces.left.advance laws d.left.store d.world with hfailed | ⟨hleft, hreg⟩
      · exact .inl hfailed
      · rw [hraces.reg] at hleft hreg
        exact .inr (.inr ⟨hleft, hraces.right, hreg⟩)
  | false =>
      rcases hraces.right.advance laws d.right.store d.world with hfailed | ⟨hright, hreg⟩
      · exact .inr (.inl hfailed)
      · rw [← hname, hraces.reg] at hright hreg
        exact .inr (.inr ⟨hraces.left, hright, hreg⟩)

/-- A whole run: a client fails, or the register's clients make the same moves. -/
theorem Races.run (laws : AwsLaws h desired owner) (hname : asg1.name = asg2.name)
    (sched : List Bool) {d : ResizeDuo W} {r : Race Int}
    (hraces : Races desired asg1 asg2 d1 d2 d r) :
    Failed (d.run h sched).left ∨ Failed (d.run h sched).right ∨
      Races desired asg1 asg2 d1 d2 (d.run h sched) (r.run (· + d1) (· + d2) sched) := by
  induction sched generalizing d r with
  | nil => exact .inr (.inr hraces)
  | cons turn rest ih =>
      rcases hraces.step laws hname turn with ⟨err, herr⟩ | ⟨err, herr⟩ | hnext
      · exact .inl ⟨err, Duo.run_left_value rest herr⟩
      · exact .inr (.inl ⟨err, Duo.run_right_value rest herr⟩)
      · exact ih hnext

/-- **Two concurrent resizes.** If both clients return success, both deltas are
in the desired capacity when one read comes after the other's write, and only
that of the last writer is when they overlap. -/
theorem increaseSize_interleaved (laws : AwsLaws h desired owner) (hname : asg1.name = asg2.name)
    (s1 s2 : AutoScalingGroups) (w : W) (sched : List Bool)
    (hleft : (Duo.run h ⟨⟨asg1.increaseSize d1, s1⟩, ⟨asg2.increaseSize d2, s2⟩, w⟩
      sched).left.value = some (.ok ()))
    (hright : (Duo.run h ⟨⟨asg1.increaseSize d1, s1⟩, ⟨asg2.increaseSize d2, s2⟩, w⟩
      sched).right.value = some (.ok ())) :
    desired (Duo.run h ⟨⟨asg1.increaseSize d1, s1⟩, ⟨asg2.increaseSize d2, s2⟩, w⟩
        sched).world asg1.name =
      desired w asg1.name +
        (if Serial sched then d1 + d2 else if lastIsLeft sched then d1 else d2) := by
  have hstart : Races desired asg1 asg2 d1 d2
      ⟨⟨asg1.increaseSize d1, s1⟩, ⟨asg2.increaseSize d2, s2⟩, w⟩
      ⟨.fresh, .fresh, desired w asg1.name⟩ := ⟨.fresh, .fresh, rfl⟩
  rcases hstart.run laws hname sched with ⟨err, herr⟩ | ⟨err, herr⟩ | hraces
  · rw [hleft] at herr
    simp at herr
  · rw [hright] at herr
    simp at herr
  · have hreg := Race.run_reg (desired w asg1.name) sched
      (hraces.left.left_eq_zero hleft) (hraces.right.left_eq_zero hright)
    rw [hraces.reg, hreg]
    split
    · split <;> omega
    · split <;> rfl

end

/-- Two clients growing the group `g` of the sample cluster. -/
def sampleResizers : ResizeDuo ClusterState :=
  ⟨⟨groupG.increaseSize 1, freshStore [groupG]⟩, ⟨groupG.increaseSize 1, freshStore [groupG]⟩,
    sampleState⟩

/-- One after the other. -/
theorem increaseSize_interleaved_sample :
    (sampleResizers.run Cluster.sample.service [true, true, false, false]).world.desired
        groupG.name =
      sampleState.desired groupG.name + (if Serial [true, true, false, false] then 1 + 1
        else if lastIsLeft [true, true, false, false] then 1 else 1) :=
  increaseSize_interleaved Cluster.sample.awsLaws rfl (freshStore [groupG]) (freshStore [groupG])
    sampleState [true, true, false, false] (by decide) (by decide)

/-- Both read before either writes: both succeed, and one resize is lost. -/
theorem increaseSize_loses_resize :
    let final := sampleResizers.run Cluster.sample.service [true, false, true, false]
    final.left.value = some (.ok ()) ∧ final.right.value = some (.ok ()) ∧
      sampleState.desired "g" = 2 ∧ final.world.desired "g" = 3 := by
  decide

end AutoNodeRepair
