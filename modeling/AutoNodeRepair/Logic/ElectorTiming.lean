import Mathlib.Tactic.Linarith
import AutoNodeRepair.Logic.LockOrder

/-!
# What an elector knows, and how late it may be

For each phase of an elector, what it has to go by (`Phase.Fits`): that the lock object it
has read is still the one on the API server unless the revision has changed, that a record
was seen no earlier than it was written, and how much time has gone by since the attempt
began or since the deadline of the poll. Each step takes `pause` at most, and the phases
are bounded accordingly.

A leader that is not renewed stops: `Phase.Fits.stays` adds up the steps until then.
-/

namespace AutoNodeRepair

open Interact

/-- What was last seen was seen when it had been written. -/
def LeaderElector.Fresh (le : LeaderElector) : Prop :=
  le.observedRecord.renewTime ≤ le.observedTime

section

variable {R : Type} (stamps : Stamps) (id : R → String) (l : LeaderElectionFlags)
  (pause : Duration)

/-! ## What each process knows -/

/-- The object was read off the lock, and a lock with its revision is still the same. -/
structure Site.Sighted (w : Site R) (object : LockObject) (old : LeaderElectionRecord) : Prop where
  record : object.record = .ok old
  time : old.renewTime ≤ w.clock
  version : ∃ revision ≤ w.cell.revision, object.resourceVersion = stamps.stamp revision ∧
    (revision = w.cell.revision → w.cell.content = some object.leader)

/-- A leader is `lag` behind the deadline of its poll at most. -/
def Site.Polls (w : Site R) (i : R) (won : Time) (lag : Duration) : Prop :=
  won ≤ w.clock ∧ w.deadline i ≤ won + l.renewDeadline + 7 * pause ∧
    w.last i ≤ w.deadline i + lag

/-- When an attempt is made. -/
def Mode.Begun (w : Site R) (i : R) (t : Time) : Mode → Prop
  | .candidate => w.running i = false
  | .leader won opened => won ≤ t ∧ w.deadline i ≤ won + l.renewDeadline + 7 * pause ∧
      t ≤ w.deadline i + (if opened then 2 else 7) * pause

/-- An attempt of the time `t` has taken `lag` at most so far. -/
def Site.Tries (w : Site R) (i : R) (mode : Mode) (t : Time) (lag : Duration) : Prop :=
  t ≤ w.clock ∧ w.last i ≤ t + lag ∧ mode.Begun l pause w i t

/-- What is known in each phase. -/
def Phase.Fits (w : Site R) (i : R) : Phase → Prop
  | .starting => w.running i = false
  | .idle le => le.Fresh ∧ w.running i = false
  | .read mode le t => le.Fresh ∧ w.Tries l pause i mode t 0
  | .observing mode t object old => w.Sighted stamps object old ∧ w.Tries l pause i mode t pause
  | .ready mode le t object old => le.Fresh ∧ w.Sighted stamps object old ∧
      (old.holderIdentity = id i ∨ old.renewTime + l.leaseDuration ≤ t) ∧
      w.Tries l pause i mode t (2 * pause)
  | .absent mode le t => le.Fresh ∧ w.Tries l pause i mode t pause
  | .wrote mode t record => record.renewTime = t ∧ w.Tries l pause i mode t (3 * pause)
  | .elected le won => le.Fresh ∧ won ≤ w.clock ∧ w.last i ≤ won + 4 * pause
  | .announced le won => le.Fresh ∧ won ≤ w.clock ∧ w.last i ≤ won + 5 * pause
  | .leading le won => le.Fresh ∧ won ≤ w.clock ∧ w.last i ≤ won + 6 * pause
  | .polling le won => le.Fresh ∧ w.Polls l pause i won (5 * pause)
  | .ticked le won opened => le.Fresh ∧ w.Polls l pause i won ((if opened then 1 else 6) * pause)
  | .lost won => w.Polls l pause i won (10 * pause)
  | .leaving won => w.Polls l pause i won (11 * pause)
  | .gone => w.running i = false

/-- For a process that takes no step: time passes, and the lock gets new revisions. -/
structure Site.Later (i : R) (w w' : Site R) : Prop where
  clock : w.clock ≤ w'.clock
  last : w'.last i = w.last i
  deadline : w'.deadline i = w.deadline i
  running : w'.running i = w.running i
  revision : w.cell.revision ≤ w'.cell.revision
  content : w'.cell.revision = w.cell.revision → w'.cell.content = w.cell.content

variable {stamps id l pause} {w w' : Site R} {i : R}

theorem Site.Sighted.later {object : LockObject} {old : LeaderElectionRecord}
    (hsighted : w.Sighted stamps object old) (hlater : Site.Later i w w') :
    w'.Sighted stamps object old := by
  obtain ⟨hrecord, htime, revision, hrevision, hstamp, hcontent⟩ := hsighted
  refine ⟨hrecord, htime.trans hlater.clock, revision, hrevision.trans hlater.revision, hstamp, ?_⟩
  intro hsame
  have hnow : w'.cell.revision = w.cell.revision := le_antisymm (hsame ▸ hrevision) hlater.revision
  rw [hlater.content hnow]
  exact hcontent (hsame.trans hnow)

theorem Site.Polls.later {won : Time} {lag : Duration} (hpolls : w.Polls l pause i won lag)
    (hlater : Site.Later i w w') : w'.Polls l pause i won lag := by
  obtain ⟨hwon, hdeadline, hlast⟩ := hpolls
  refine ⟨hwon.trans hlater.clock, ?_, ?_⟩
  · rwa [hlater.deadline]
  · rwa [hlater.deadline, hlater.last]

theorem Site.Tries.later {mode : Mode} {t : Time} {lag : Duration}
    (htries : w.Tries l pause i mode t lag) (hlater : Site.Later i w w') :
    w'.Tries l pause i mode t lag := by
  obtain ⟨ht, hlast, hbegun⟩ := htries
  refine ⟨ht.trans hlater.clock, by rwa [hlater.last], ?_⟩
  cases mode with
  | candidate => exact hlater.running.trans hbegun
  | leader won opened =>
      obtain ⟨hwon, hdeadline, hbegan⟩ := hbegun
      refine ⟨hwon, ?_, ?_⟩
      · rwa [hlater.deadline]
      · rwa [hlater.deadline]

/-- What a process knows stays true while others act. -/
theorem Phase.Fits.later {phase : Phase} (hfits : phase.Fits stamps id l pause w i)
    (hlater : Site.Later i w w') : phase.Fits stamps id l pause w' i := by
  cases phase with
  | starting => exact hlater.running.trans hfits
  | idle le => exact ⟨hfits.1, hlater.running.trans hfits.2⟩
  | read mode le t => exact ⟨hfits.1, hfits.2.later hlater⟩
  | observing mode t object old => exact ⟨hfits.1.later hlater, hfits.2.later hlater⟩
  | ready mode le t object old =>
      obtain ⟨hfresh, hsighted, hfree, htries⟩ := hfits
      exact ⟨hfresh, hsighted.later hlater, hfree, htries.later hlater⟩
  | absent mode le t => exact ⟨hfits.1, hfits.2.later hlater⟩
  | wrote mode t record => exact ⟨hfits.1, hfits.2.later hlater⟩
  | elected le won =>
      obtain ⟨hfresh, hwon, hlast⟩ := hfits
      exact ⟨hfresh, hwon.trans hlater.clock, by rwa [hlater.last]⟩
  | announced le won =>
      obtain ⟨hfresh, hwon, hlast⟩ := hfits
      exact ⟨hfresh, hwon.trans hlater.clock, by rwa [hlater.last]⟩
  | leading le won =>
      obtain ⟨hfresh, hwon, hlast⟩ := hfits
      exact ⟨hfresh, hwon.trans hlater.clock, by rwa [hlater.last]⟩
  | polling le won => exact ⟨hfits.1, hfits.2.later hlater⟩
  | ticked le won opened => exact ⟨hfits.1, hfits.2.later hlater⟩
  | lost won => exact Site.Polls.later hfits hlater
  | leaving won => exact Site.Polls.later hfits hlater
  | gone => exact hlater.running.trans hfits

theorem Site.later_arrive (w : Site R) (request : LockRequest) :
    Site.Later i w (w.arrive stamps request) := by
  unfold Site.arrive
  split
  · refine ⟨le_rfl, rfl, rfl, rfl, Nat.le_succ _, fun hsame => ?_⟩
    exact absurd hsame (Nat.succ_ne_self _)
  · exact ⟨le_rfl, rfl, rfl, rfl, le_rfl, fun _ => rfl⟩

variable (stamps i) in
theorem Site.later_send (w : Site R) (request : LockRequest) :
    Site.Later i w (w.send stamps request).2 := by
  unfold Site.send
  split
  · exact w.later_arrive request
  · exact ⟨le_rfl, rfl, rfl, rfl, le_rfl, fun _ => rfl⟩
  · exact w.later_arrive request
  · exact ⟨le_rfl, rfl, rfl, rfl, le_rfl, fun _ => rfl⟩

/-! ## The end of an attempt -/

theorem Site.Tries.mono {mode : Mode} {t : Time} {lag lag' : Duration}
    (htries : w.Tries l pause i mode t lag) (hlag : lag ≤ lag') : w.Tries l pause i mode t lag' :=
  ⟨htries.1, by linarith [htries.2.1], htries.2.2⟩

theorem Site.Polls.mono {won : Time} {lag lag' : Duration} (hpolls : w.Polls l pause i won lag)
    (hlag : lag ≤ lag') : w.Polls l pause i won lag' :=
  ⟨hpolls.1, hpolls.2.1, by linarith [hpolls.2.2]⟩

theorem Site.Tries.failed {mode : Mode} {t : Time} (htries : w.Tries l pause i mode t (3 * pause))
    {le : LeaderElector} (hfresh : le.Fresh) :
    (mode.failed le).Fits stamps id l pause w i := by
  obtain ⟨ht, hlast, hbegun⟩ := htries
  cases mode with
  | candidate => exact ⟨hfresh, hbegun⟩
  | leader won opened =>
      obtain ⟨hwon, hdeadline, hbegan⟩ := hbegun
      cases opened with
      | true =>
          refine ⟨hfresh, hwon.trans ht, hdeadline, ?_⟩
          simp only [if_true] at hbegan
          linarith
      | false =>
          refine ⟨hwon.trans ht, hdeadline, ?_⟩
          simp only [Bool.false_eq_true, if_false] at hbegan
          linarith

theorem Site.Tries.succeeded (hpause : 0 ≤ pause) {mode : Mode} {t : Time}
    (htries : w.Tries l pause i mode t (4 * pause)) {le : LeaderElector} (hfresh : le.Fresh) :
    (mode.succeeded le t).Fits stamps id l pause w i := by
  obtain ⟨ht, hlast, -⟩ := htries
  cases mode with
  | candidate => exact ⟨hfresh, ht, hlast⟩
  | leader won opened => exact ⟨hfresh, ht, by linarith⟩

/-- A lock that the code goes for was seen with the same record for a lease. -/
theorem judge_fits (hpause : 0 ≤ pause) {mode : Mode} {t : Time} {le : LeaderElector}
    {object : LockObject} {old : LeaderElectionRecord}
    (htries : w.Tries l pause i mode t (2 * pause)) (hfresh : le.Fresh)
    (hsighted : w.Sighted stamps object old) (hobserved : le.observedRecord = old) :
    ((l.config (id i)).judge mode le t object old).Fits stamps id l pause w i := by
  unfold LeaderElectionConfig.judge
  split
  · exact (htries.mono (by linarith)).failed hfresh
  · rename_i hheld
    refine ⟨hfresh, hsighted, ?_, htries⟩
    by_cases hmine : old.holderIdentity = id i
    · exact .inl hmine
    · have hexpired : le.observedTime + l.leaseDuration ≤ t := by
        simpa [LeaderElectionConfig.heldByOther, LeaderElectionFlags.config, hmine] using hheld
      have hseen : old.renewTime ≤ le.observedTime := hobserved ▸ hfresh
      exact .inr (by linarith)

/-- What is served is the lock as it is. -/
theorem sighted_of_get (hclock : 0 ≤ w.clock)
    (hcurrent : ∀ record, w.Has record → record.renewTime ≤ w.clock)
    {object : LockObject} {old : LeaderElectionRecord}
    (hget : lockRead (w.get stamps) = .ok (object, old)) : w.Sighted stamps object old := by
  have hobject : w.get stamps = .ok object ∧ object.record = .ok old := by
    cases hanswer : w.get stamps with
    | error err => simp [hanswer, lockRead] at hget
    | ok got =>
        rw [hanswer, lockRead] at hget
        cases hrecord : got.record with
        | error err => simp [hrecord, Except.map] at hget
        | ok record =>
            simp only [hrecord, Except.map, Except.ok.injEq, Prod.mk.injEq] at hget
            obtain ⟨rfl, rfl⟩ := hget
            exact ⟨rfl, hrecord⟩
  obtain ⟨hserved, hrecord⟩ := hobject
  obtain ⟨text, hcontent, rfl⟩ : ∃ text, w.cell.content = some text ∧
      object = ⟨stamps.stamp w.cell.revision, text⟩ := by
    unfold Site.get at hserved
    split at hserved
    · split at hserved
      · rename_i text hcontent
        exact ⟨text, hcontent, (Except.ok.inj hserved).symm⟩
      · cases hserved
    all_goals cases hserved
  refine ⟨hrecord, ?_, w.cell.revision, le_rfl, rfl, fun _ => hcontent⟩
  match text with
  | none =>
      obtain rfl := Except.ok.inj hrecord
      exact hclock
  | some (.json record) =>
      obtain rfl := Except.ok.inj hrecord
      exact hcurrent record hcontent
  | some .malformed => cases hrecord

/-! ## How long a leader stays -/

/-- The phases in which the code waits. -/
def Phase.waits : Phase → Bool
  | .starting => true
  | .idle _ => true
  | .polling _ _ => true
  | _ => false

/-- Anywhere else the next step is due. -/
theorem Phase.Move.due {config : LeaderElectionConfig} {phase phase' : Phase} {call : LockCall}
    {answer : call.Ans} (hmove : Phase.Move config phase call answer phase')
    (hwaits : phase.waits = false) (hpunctual : w.punctual pause i (some call)) :
    w.clock ≤ w.last i + pause := by
  cases hmove with
  | listed => cases hwaits
  | unlisted err => cases hwaits
  | giveUp message => cases hwaits
  | reject le message => cases hwaits
  | rest le period => cases hwaits
  | compete le t => cases hwaits
  | tick le won opened => cases hwaits
  | _ => exact hpunctual

theorem Site.Tries.stays {mode : Mode} {t : Time} (htries : w.Tries l pause i mode t (3 * pause))
    (hpause : 0 ≤ pause) (hrunning : w.running i = true) (hdue : w.clock ≤ w.last i + pause) :
    ∃ won, mode.won = some won ∧ w.clock ≤ won + l.renewDeadline + 19 * pause := by
  obtain ⟨-, hlast, hbegun⟩ := htries
  cases mode with
  | candidate => exact absurd (hrunning.symm.trans hbegun) Bool.true_eq_false_eq_False
  | leader won opened =>
      obtain ⟨-, hdeadline, hbegan⟩ := hbegun
      refine ⟨won, rfl, ?_⟩
      cases opened with
      | true =>
          simp only [if_true] at hbegan
          linarith
      | false =>
          simp only [Bool.false_eq_true, if_false] at hbegan
          linarith

/-- A process that runs the controller leads by an attempt that is not too long ago. -/
theorem Phase.Fits.stays (hpause : 0 ≤ pause) (hdeadline : 0 ≤ l.renewDeadline) {phase : Phase}
    (hfits : phase.Fits stamps id l pause w i) (hrunning : w.running i = true)
    {pending : Option LockCall} (hpunctual : w.punctual pause i pending)
    {config : LeaderElectionConfig}
    (hmove : ∀ call, pending = some call → ∃ answer phase',
      Phase.Move config phase call answer phase') :
    ∃ won, phase.won = some won ∧ w.clock ≤ won + l.renewDeadline + 19 * pause := by
  have hstopped : ¬w.running i = false := by simp [hrunning]
  have hdue : phase.waits = false → w.clock ≤ w.last i + pause := by
    intro hwaits
    cases pending with
    | none => exact hpunctual hrunning
    | some call =>
        obtain ⟨answer, phase', hcall⟩ := hmove call rfl
        exact hcall.due hwaits hpunctual
  cases phase with
  | starting => exact absurd hfits hstopped
  | idle le => exact absurd hfits.2 hstopped
  | read mode le t => exact (hfits.2.mono (by linarith)).stays hpause hrunning (hdue rfl)
  | observing mode t object old =>
      exact (hfits.2.mono (by linarith)).stays hpause hrunning (hdue rfl)
  | ready mode le t object old =>
      exact (hfits.2.2.2.mono (by linarith)).stays hpause hrunning (hdue rfl)
  | absent mode le t => exact (hfits.2.mono (by linarith)).stays hpause hrunning (hdue rfl)
  | wrote mode t record => exact ⟨t, rfl, by linarith [hdue rfl, hfits.2.2.1]⟩
  | elected le won => exact ⟨won, rfl, by linarith [hdue rfl, hfits.2.2]⟩
  | announced le won => exact ⟨won, rfl, by linarith [hdue rfl, hfits.2.2]⟩
  | leading le won => exact ⟨won, rfl, by linarith [hdue rfl, hfits.2.2]⟩
  | polling le won =>
      obtain ⟨-, -, hset, hlast⟩ := hfits
      refine ⟨won, rfl, ?_⟩
      have hmax : max (w.last i) (w.deadline i) ≤ w.deadline i + 5 * pause :=
        max_le hlast (by linarith)
      cases pending with
      | none => linarith [hpunctual hrunning]
      | some call =>
          obtain ⟨answer, phase', hcall⟩ := hmove call rfl
          cases hcall
          have hdue : w.clock ≤ max (w.last i) (w.deadline i) + pause := hpunctual
          linarith
  | ticked le won opened =>
      obtain ⟨-, -, hset, hlast⟩ := hfits
      refine ⟨won, rfl, ?_⟩
      cases opened with
      | true =>
          simp only [if_true] at hlast
          linarith [hdue rfl]
      | false =>
          simp only [Bool.false_eq_true, if_false] at hlast
          linarith [hdue rfl]
  | lost won => exact ⟨won, rfl, by linarith [hdue rfl, hfits.2.1, hfits.2.2]⟩
  | leaving won => exact ⟨won, rfl, by linarith [hdue rfl, hfits.2.1, hfits.2.2]⟩
  | gone => exact absurd hfits hstopped

/-! ## A step -/

section

variable [DecidableEq R]

theorem Site.later_step (w : Site R) {j : R} (hj : j ≠ i) : Site.Later j w (w.step i) :=
  ⟨le_rfl, Function.update_of_ne hj _ _, rfl, rfl, le_rfl, fun _ => rfl⟩

@[simp] theorem Site.step_last (w : Site R) : (w.step i).last i = w.clock :=
  Function.update_self ..

theorem Site.Tries.step {mode : Mode} {t : Time} {lag : Duration}
    (htries : w.Tries l pause i mode t lag) (hpunctual : w.clock ≤ w.last i + pause) :
    (w.step i).Tries l pause i mode t (lag + pause) := by
  obtain ⟨ht, hlast, hbegun⟩ := htries
  refine ⟨ht, ?_, by cases mode <;> exact hbegun⟩
  rw [Site.step_last]
  linarith

theorem Site.Polls.step {won : Time} {lag : Duration} (hpolls : w.Polls l pause i won lag)
    (hpunctual : w.clock ≤ w.last i + pause) :
    (w.step i).Polls l pause i won (lag + pause) := by
  obtain ⟨hwon, hdeadline, hlast⟩ := hpolls
  refine ⟨hwon, hdeadline, ?_⟩
  rw [Site.step_last]
  show w.clock ≤ w.deadline i + (lag + pause)
  linarith

theorem fetched_fits (hpause : 0 ≤ pause) (hclock : 0 ≤ w.clock)
    (hcurrent : ∀ record, w.Has record → record.renewTime ≤ w.clock) {mode : Mode}
    {le : LeaderElector} {t : Time} (hfresh : le.Fresh)
    (htries : (w.step i).Tries l pause i mode t pause) :
    ((l.config (id i)).fetched mode le t (lockRead (w.get stamps))).Fits stamps id l pause
      (w.step i) i := by
  cases hread : lockRead (w.get stamps) with
  | error err =>
      unfold LeaderElectionConfig.fetched
      dsimp only
      split
      · exact ⟨hfresh, htries⟩
      · exact (htries.mono (by linarith)).failed hfresh
  | ok found =>
      obtain ⟨object, old⟩ := found
      have hsighted : (w.step i).Sighted stamps object old :=
        sighted_of_get (w := w.step i) hclock hcurrent hread
      unfold LeaderElectionConfig.fetched
      dsimp only
      split
      · exact ⟨hsighted, htries⟩
      · rename_i hsame
        exact judge_fits hpause (htries.mono (by linarith)) hfresh hsighted (not_not.mp hsame)

/-- The step of a process that takes one. -/
theorem Phase.Fits.move (hpause : 0 ≤ pause) (hdeadline : 0 ≤ l.renewDeadline)
    (hclock : 0 ≤ w.clock) (hcurrent : ∀ record, w.Has record → record.renewTime ≤ w.clock)
    {phase phase' : Phase} (hfits : phase.Fits stamps id l pause w i) {call : LockCall}
    (hpunctual : w.punctual pause i (some call))
    (hmove : Phase.Move (l.config (id i)) phase call (Site.serve stamps pause i w call).1 phase') :
    phase'.Fits stamps id l pause (Site.serve stamps pause i w call).2 i := by
  generalize hanswer : (Site.serve stamps pause i w call).1 = answer at hmove
  cases hmove with
  | listed => exact ⟨le_rfl, hfits⟩
  | unlisted err => exact hfits
  | giveUp message => exact Function.update_self ..
  | reject le message => exact Function.update_self ..
  | rest le period => exact hfits
  | compete le t =>
      obtain rfl : w.clock = t := hanswer
      refine ⟨hfits.1, le_rfl, ?_, hfits.2⟩
      show (w.step i).last i ≤ w.clock + 0
      simp
  | fetch mode le t answer =>
      obtain rfl := hanswer
      have htries := hfits.2.step hpunctual
      rw [zero_add] at htries
      exact fetched_fits hpause hclock hcurrent hfits.1 htries
  | observe mode t object old seen =>
      obtain rfl : w.clock = seen := hanswer
      have htries : (w.step i).Tries l pause i mode t (2 * pause) :=
        (hfits.2.step hpunctual).mono (by linarith)
      have hsighted : (w.step i).Sighted stamps object old :=
        ⟨hfits.1.record, hfits.1.time, hfits.1.version⟩
      exact judge_fits hpause htries hfits.1.time hsighted rfl
  | update mode le t object old answer =>
      obtain ⟨hfresh, hsighted, -, htries⟩ := hfits
      have htries : (w.step i).Tries l pause i mode t (3 * pause) :=
        (htries.step hpunctual).mono (by linarith)
      have htries := htries.later (Site.later_send stamps i (w.step i) (.update { object with
        leader := some ((l.config (id i)).nextRecord t old).marshal }))
      cases answer with
      | error err => exact htries.failed hfresh
      | ok written =>
          refine ⟨?_, htries⟩
          unfold LeaderElectionConfig.nextRecord
          split <;> rfl
  | create mode le t answer =>
      obtain ⟨hfresh, htries⟩ := hfits
      have htries : (w.step i).Tries l pause i mode t (3 * pause) :=
        (htries.step hpunctual).mono (by linarith)
      have htries := htries.later (Site.later_send stamps i (w.step i)
        (.create { leader := some ((l.config (id i)).freshRecord t).marshal }))
      cases answer with
      | error err => exact htries.failed hfresh
      | ok written => exact ⟨rfl, htries⟩
  | succeed mode t record seen =>
      obtain rfl : w.clock = seen := hanswer
      obtain ⟨rfl, htries⟩ := hfits
      have hfresh : LeaderElector.Fresh ⟨record, w.clock⟩ := htries.1
      exact ((htries.step hpunctual).mono (by linarith)).succeeded hpause hfresh
  | announce le won message =>
      obtain ⟨hfresh, hwon, hlast⟩ := hfits
      have hclock : w.clock ≤ won + 5 * pause := by linarith [show w.clock ≤ _ from hpunctual]
      exact ⟨hfresh, hwon, w.step_last.trans_le hclock⟩
  | lead le won =>
      obtain ⟨hfresh, hwon, hlast⟩ := hfits
      have hclock : w.clock ≤ won + 6 * pause := by linarith [show w.clock ≤ _ from hpunctual]
      exact ⟨hfresh, hwon, w.step_last.trans_le hclock⟩
  | poll le won interval =>
      obtain ⟨hfresh, hwon, hlast⟩ := hfits
      have hclock : w.clock ≤ won + 7 * pause := by linarith [show w.clock ≤ _ from hpunctual]
      have hset : (Site.serve stamps pause i w
          (.startPoller interval (l.config (id i)).renewDeadline)).2.deadline i =
          w.clock + l.renewDeadline := Function.update_self ..
      refine ⟨hfresh, hwon, ?_, w.step_last.trans_le ?_⟩
      · rw [hset]
        linarith
      · rw [hset]
        linarith
  | tick le won opened =>
      obtain ⟨hfresh, hwon, hset, hlast⟩ := hfits
      refine ⟨hfresh, hwon, hset, w.step_last.trans_le ?_⟩
      show w.clock ≤ w.deadline i + _
      cases opened with
      | true =>
          have hopened : w.clock < w.deadline i ∨
              w.tick = true ∧ w.clock ≤ w.deadline i + pause := by
            simpa [Site.serve, Site.opened] using hanswer
          simp only [if_true]
          rcases hopened with hopen | ⟨-, hmoment⟩ <;> linarith
      | false =>
          have hdue : w.clock ≤ max (w.last i) (w.deadline i) + pause := hpunctual
          have hmax : max (w.last i) (w.deadline i) ≤ w.deadline i + 5 * pause :=
            max_le hlast (by linarith)
          simp only [Bool.false_eq_true, if_false]
          linarith
  | renew le won opened t =>
      obtain rfl : w.clock = t := hanswer
      obtain ⟨hfresh, hwon, hset, hlast⟩ := hfits
      have hclock : w.clock ≤ w.last i + pause := hpunctual
      refine ⟨hfresh, le_rfl, ?_, hwon, hset, ?_⟩
      · show (w.step i).last i ≤ w.clock + 0
        simp
      · show w.clock ≤ w.deadline i + _
        cases opened with
        | true =>
            simp only [if_true] at hlast ⊢
            linarith
        | false =>
            simp only [Bool.false_eq_true, if_false] at hlast ⊢
            linarith
  | report won message => exact (Site.Polls.step hfits hpunctual).mono (by linarith)
  | leave won message => exact Function.update_self ..

/-- The others see time pass and the lock change. -/
theorem Site.later_serve (w : Site R) (call : LockCall) {j : R} (hj : j ≠ i) :
    Site.Later j w (Site.serve stamps pause i w call).2 := by
  have hstep := w.later_step hj
  cases call with
  | createObject object =>
      have hsend := Site.later_send stamps j (w.step i) (.create object)
      exact ⟨hstep.clock.trans hsend.clock, hsend.last.trans hstep.last,
        hsend.deadline.trans hstep.deadline, hsend.running.trans hstep.running,
        hstep.revision.trans hsend.revision, hsend.content⟩
  | updateObject object =>
      have hsend := Site.later_send stamps j (w.step i) (.update object)
      exact ⟨hstep.clock.trans hsend.clock, hsend.last.trans hstep.last,
        hsend.deadline.trans hstep.deadline, hsend.running.trans hstep.running,
        hstep.revision.trans hsend.revision, hsend.content⟩
  | startPoller interval timeout =>
      exact ⟨le_rfl, hstep.last, Function.update_of_ne hj _ _, rfl, le_rfl, fun _ => rfl⟩
  | run => exact ⟨le_rfl, hstep.last, rfl, Function.update_of_ne hj _ _, le_rfl, fun _ => rfl⟩
  | exit message =>
      exact ⟨le_rfl, hstep.last, rfl, Function.update_of_ne hj _ _, le_rfl, fun _ => rfl⟩
  | listNodes => exact hstep
  | now => exact hstep
  | getObject => exact hstep
  | recordEvent message => exact hstep
  | jitter period => exact hstep
  | awaitTick => exact hstep

theorem Site.clock_le_serve (w : Site R) (call : LockCall) :
    w.clock ≤ (Site.serve stamps pause i w call).2.clock := by
  cases call with
  | createObject object => exact (Site.later_send stamps i (w.step i) (.create object)).clock
  | updateObject object => exact (Site.later_send stamps i (w.step i) (.update object)).clock
  | _ => exact le_rfl

end

end

end AutoNodeRepair
