import Mathlib.Tactic.Linarith
import AutoNodeRepair.Logic.ElectorTiming

/-!
# One leader at a time

With `--leader-elect`, any number of processes with one clock, requests that get lost or
arrive late, and processes that end and are started again at any time: if no process is ever
held up for longer than `pause` and `RenewDeadline + 19 * pause + 1s ≤ LeaseDuration`, the
controller runs in at most one process at a time (`election_exclusive`). The elector itself
compares only times of its own host; clocks that differ between hosts are not covered here.

The argument goes by the times of attempts. A leader of the attempt `won` has stopped by
`won + RenewDeadline + 19 * pause`. A candidate that takes over has seen the record for a
whole lease, and the time in the record is `won` or later, but for the fraction of a second
that its JSON leaves out.
-/

namespace AutoNodeRepair

open Interact

section

variable {R : Type} {stamps : Stamps} {id : R → String} {l : LeaderElectionFlags}
  {pause : Duration} {w : Site R} {i : R}

/-! ## The record of an attempt -/

theorem judge_won (config : LeaderElectionConfig) (mode : Mode) (le : LeaderElector) (t : Time)
    (object : LockObject) (old : LeaderElectionRecord) :
    (config.judge mode le t object old).won = mode.won := by
  unfold LeaderElectionConfig.judge
  split
  · exact mode.failed_won le
  · rfl

theorem fetched_won (config : LeaderElectionConfig) (mode : Mode) (le : LeaderElector) (t : Time)
    (found : Except KubeError (LockObject × LeaderElectionRecord)) :
    (config.fetched mode le t found).won = mode.won := by
  unfold LeaderElectionConfig.fetched
  split
  · split
    · rfl
    · exact mode.failed_won le
  · split
    · rfl
    · exact judge_won ..

/-- The record of an attempt, as it is written. -/
theorem nextRecord_written (config : LeaderElectionConfig) (t : Time)
    (old : LeaderElectionRecord) :
    ∃ record, (config.nextRecord t old).marshal = .json record ∧
      record.holderIdentity = config.identity ∧ record.renewTime = wholeSeconds t := by
  refine ⟨_, rfl, ?_, ?_⟩ <;> unfold LeaderElectionConfig.nextRecord <;> split <;> rfl

/-- An update in an attempt is lawful. -/
theorem lawful_update (leads : R → Option Time) {mode : Mode} {le : LeaderElector} {t : Time}
    {object : LockObject} {old : LeaderElectionRecord}
    (hfits : (Phase.ready mode le t object old).Fits stamps id l pause w i)
    (hmode : leads i = mode.won) :
    w.Lawful stamps id l.leaseDuration leads (.update { object with
      leader := some ((l.config (id i)).nextRecord t old).marshal }) := by
  obtain ⟨-, ⟨hrecord, -, revision, hrevision, hstamp, hcontent⟩, hfree, ht, -, hbegun⟩ := hfits
  obtain ⟨record, hmarshal, hholder, hrenewed⟩ := nextRecord_written (l.config (id i)) t old
  refine ⟨i, revision, record, by rw [hstamp, hmarshal], hholder, ?_, hrevision, ?_⟩
  · rw [hrenewed]
    exact (wholeSeconds_le t).trans ht
  intro hsame
  refine ⟨fun won hwon => ?_, fun current hcurrent => ?_⟩
  · cases mode with
    | candidate => rw [hmode] at hwon; cases hwon
    | leader won' opened =>
        obtain rfl := Option.some.inj (hmode.symm.trans hwon)
        rw [hrenewed]
        exact wholeSeconds_mono hbegun.1
  · -- the lock is what was read
    have htext : object.leader = some (.json current) :=
      Option.some.inj ((hcontent hsame).symm.trans hcurrent)
    obtain rfl : current = old := by
      simpa [LockObject.record, htext] using hrecord
    exact hfree.imp_right fun hexpired => hexpired.trans ht

section

variable [DecidableEq R]

/-! ## The lock through a step -/

theorem Site.Lawful.step {leads : R → Option Time} {lease : Duration} {request : LockRequest}
    (hlawful : w.Lawful stamps id lease leads request) (i : R) :
    (w.step i).Lawful stamps id lease leads request :=
  hlawful.later rfl le_rfl fun _ _ hwon => hwon

theorem Site.Orderly.step {leads : R → Option Time} {lease : Duration}
    (horderly : w.Orderly stamps id lease leads) (i : R) :
    (w.step i).Orderly stamps id lease leads :=
  horderly.later rfl rfl le_rfl fun _ _ hwon => hwon

theorem Site.Orderly.move (hid : Function.Injective id) {phases : R → Phase} {phase' : Phase}
    (horderly : w.Orderly stamps id l.leaseDuration fun j => (phases j).won)
    (hfits : (phases i).Fits stamps id l pause w i) {call : LockCall}
    (hmove : Phase.Move (l.config (id i)) (phases i) call (Site.serve stamps pause i w call).1
      phase') :
    (Site.serve stamps pause i w call).2.Orderly stamps id l.leaseDuration
      fun j => (Function.update phases i phase' j).won := by
  have hleads : ∀ j won, (Function.update phases i phase' j).won = some won →
      (phases j).won = some won ∨ (j = i ∧ phase'.won = some won) := by
    intro j won hwon
    by_cases hj : j = i
    · subst hj
      rw [Function.update_self] at hwon
      exact .inr ⟨rfl, hwon⟩
    · rw [Function.update_of_ne hj] at hwon
      exact .inl hwon
  -- a step that does not touch the lock, and does not make a leader
  have hquiet : ∀ {w' : Site R}, w'.cell = w.cell → w'.inFlight = w.inFlight →
      w'.clock = w.clock → (∀ won, phase'.won = some won → (phases i).won = some won) →
      w'.Orderly stamps id l.leaseDuration fun j => (Function.update phases i phase' j).won := by
    intro w' hcell hinFlight hclock hwon
    refine horderly.later hcell hinFlight hclock.ge fun j won hj => ?_
    rcases hleads j won hj with hbefore | ⟨rfl, hnow⟩
    · exact hbefore
    · exact hwon won hnow
  generalize hanswer : (Site.serve stamps pause i w call).1 = answer at hmove
  generalize hphase : phases i = phase at hmove hfits hquiet
  cases hmove with
  | update mode le t object old answer =>
      obtain rfl := hanswer
      have hmode : (phases i).won = mode.won := by rw [hphase]; rfl
      obtain ⟨record, hmarshal, hholder, hrenewed⟩ := nextRecord_written (l.config (id i)) t old
      have hlawful := lawful_update (fun j => (phases j).won) hfits hmode
      exact (horderly.step i).sent hid (hlawful.step i) le t
        ((l.config (id i)).nextRecord t old) hmode
        ⟨record, congrArg some hmarshal, hholder, hrenewed.ge⟩ hleads
  | create mode le t answer =>
      obtain rfl := hanswer
      have hmode : (phases i).won = mode.won := by rw [hphase]; rfl
      have hwritten : wholeSeconds t ≤ w.clock := (wholeSeconds_le t).trans hfits.2.1
      have hlawful : w.Lawful stamps id l.leaseDuration (fun j => (phases j).won)
          (.create { leader := some ((l.config (id i)).freshRecord t).marshal }) :=
        ⟨_, rfl, hwritten⟩
      exact (horderly.step i).sent hid (hlawful.step i) le t
        ((l.config (id i)).freshRecord t) hmode ⟨_, rfl, rfl, le_rfl⟩ hleads
  | listed => exact hquiet rfl rfl rfl nofun
  | unlisted err => exact hquiet rfl rfl rfl nofun
  | giveUp message => exact hquiet rfl rfl rfl nofun
  | reject le message => exact hquiet rfl rfl rfl nofun
  | rest le period => exact hquiet rfl rfl rfl nofun
  | compete le t => exact hquiet rfl rfl rfl nofun
  | fetch mode le t answer =>
      exact hquiet rfl rfl rfl fun won hwon => (fetched_won ..).symm.trans hwon
  | observe mode t object old seen =>
      exact hquiet rfl rfl rfl fun won hwon => (judge_won ..).symm.trans hwon
  | succeed mode t record seen =>
      exact hquiet rfl rfl rfl fun won hwon => (mode.succeeded_won ..).symm.trans hwon
  | announce le won message => exact hquiet rfl rfl rfl fun _ hwon => hwon
  | lead le won => exact hquiet rfl rfl rfl fun _ hwon => hwon
  | poll le won interval => exact hquiet rfl rfl rfl fun _ hwon => hwon
  | tick le won opened => exact hquiet rfl rfl rfl fun _ hwon => hwon
  | renew le won opened t => exact hquiet rfl rfl rfl fun _ hwon => hwon
  | report won message => exact hquiet rfl rfl rfl fun _ hwon => hwon
  | leave won message => exact hquiet rfl rfl rfl nofun

/-! ## The election -/

/-- The processes and the lock, in any state of a run. -/
structure ElectionInv (stamps : Stamps) (id : R → String) (l : LeaderElectionFlags)
    (pause : Duration) (phases : R → Phase) (w : Site R) : Prop where
  clock : 0 ≤ w.clock
  orderly : w.Orderly stamps id l.leaseDuration fun j => (phases j).won
  fits : ∀ j, (phases j).Fits stamps id l pause w j

theorem ElectionInv.move (hpause : 0 ≤ pause) (hdeadline : 0 ≤ l.renewDeadline)
    (hid : Function.Injective id) {phases : R → Phase} {phase' : Phase} {call : LockCall}
    (hinv : ElectionInv stamps id l pause phases w) (hpunctual : w.punctual pause i (some call))
    (hmove : Phase.Move (l.config (id i)) (phases i) call (Site.serve stamps pause i w call).1
      phase') :
    ElectionInv stamps id l pause (Function.update phases i phase')
      (Site.serve stamps pause i w call).2 := by
  refine ⟨hinv.clock.trans (w.clock_le_serve call), hinv.orderly.move hid (hinv.fits i) hmove, ?_⟩
  intro j
  by_cases hj : j = i
  · subst hj
    rw [Function.update_self]
    exact (hinv.fits j).move hpause hdeadline hinv.clock hinv.orderly.current hpunctual hmove
  · rw [Function.update_of_ne hj]
    exact (hinv.fits j).later (w.later_serve call hj)

theorem ElectionInv.restart {phases : R → Phase} (hinv : ElectionInv stamps id l pause phases w)
    (i : R) :
    ElectionInv stamps id l pause (Function.update phases i .starting)
      { w with running := Function.update w.running i false } := by
  refine ⟨hinv.clock, hinv.orderly.later rfl rfl le_rfl fun j won hwon => ?_, fun j => ?_⟩
  · by_cases hj : j = i
    · subst hj
      rw [Function.update_self] at hwon
      cases hwon
    · rwa [Function.update_of_ne hj] at hwon
  · by_cases hj : j = i
    · subst hj
      rw [Function.update_self]
      exact Function.update_self ..
    · rw [Function.update_of_ne hj]
      exact (hinv.fits j).later
        ⟨le_rfl, rfl, rfl, Function.update_of_ne hj _ _, le_rfl, fun _ => rfl⟩

theorem ElectionInv.drift (hid : Function.Injective id) {phases : R → Phase} {w' : Site R}
    (hinv : ElectionInv stamps id l pause phases w) (hdrift : Site.Drift stamps w w') :
    ElectionInv stamps id l pause phases w' := by
  have hlater : ∀ j, Site.Later j w w' := by
    intro j
    cases hdrift with
    | pass t fate tick hclock => exact ⟨hclock, rfl, rfl, rfl, le_rfl, fun _ => rfl⟩
    | arrive request hrequest => exact w.later_arrive request
    | touch => exact ⟨le_rfl, rfl, rfl, rfl, Nat.le_succ _, fun _ => rfl⟩
  refine ⟨?_, hinv.orderly.drift hid hdrift, fun j => (hinv.fits j).later (hlater j)⟩
  cases hdrift with
  | pass t fate tick hclock => exact hinv.clock.trans hclock
  | arrive request hrequest =>
      unfold Site.arrive
      split <;> exact hinv.clock
  | touch => exact hinv.clock

/-- Nobody has been elected yet, and the record of the lock is not from the future. -/
structure Site.Unled (w : Site R) : Prop where
  clock : 0 ≤ w.clock
  inFlight : w.inFlight = []
  running : ∀ i, w.running i = false
  current : ∀ record, w.Has record → record.renewTime ≤ w.clock

/-- **At most one controller runs.** Any number of processes on hosts of different names with
one clock, started with the same flags, and nobody else who writes the annotation of the lock
or deletes it: in every state of every timely run, whatever happens to their requests and
whenever they end and are started again, at most one of them runs the controller, if the
lease is long enough. -/
theorem election_exclusive (stamps : Stamps) (hpause : 0 ≤ pause) (hl : l.leaderElect = true)
    (hdeadline : 0 ≤ l.renewDeadline)
    (hlease : l.renewDeadline + 19 * pause + second ≤ l.leaseDuration)
    (hid : Function.Injective id) (ticks turns : Nat) (hw : w.Unled)
    {c : Crew R Unit (Site R) LockApi Unit}
    (hreach : (election stamps pause l ticks turns id).Reaches w c) (i j : R)
    (hi : c.world.running i = true) (hj : c.world.running j = true) : i = j := by
  obtain ⟨phases, hguided, hinv⟩ := hreach.guided (fun i => electorMachine (l.config (id i)))
    (fun _ => .starting) (ElectionInv stamps id l pause)
    (fun i => electedMain_follows hl ticks turns (id i))
    ⟨hw.clock, ⟨hw.current, nofun, by simp [hw.inFlight]⟩, hw.running⟩
    (fun phases w i call phase' hinv hpunctual hstep =>
      hinv.move hpause hdeadline hid hpunctual (Phase.move_of_next hstep))
    (fun phases w i hinv => hinv.restart i)
    (fun phases w w' hinv hdrift => hinv.drift hid hdrift)
  -- whoever runs leads by an attempt within the lease, and so the lock is theirs
  have hholds : ∀ i, c.world.running i = true →
      ∃ record, c.world.Has record ∧ record.holderIdentity = id i := by
    intro i hrunning
    obtain ⟨won, hwon, hstays⟩ := (hinv.fits i).stays hpause hdeadline hrunning
      (hreach.timely i) fun call hcall =>
        let answer := (Site.serve stamps pause i c.world call).1
        have ⟨phase', hstep⟩ := (hguided i).accepts hcall answer
        ⟨answer, phase', Phase.move_of_next hstep⟩
    rcases hinv.orderly.held i won hwon with ⟨record, hhas, hholder, -⟩ | hover
    · exact ⟨record, hhas, hholder⟩
    · have := lt_wholeSeconds_add won
      linarith
  obtain ⟨record, hhas, hholder⟩ := hholds i hi
  obtain ⟨record', hhas', hholder'⟩ := hholds j hj
  obtain rfl : record' = record := by simpa [Site.Has] using hhas'.symm.trans hhas
  exact hid (hholder.symm.trans hholder')

end

end

/-! ## Two hosts -/

/-- The two hosts. -/
def hostName : Bool → String
  | true => "host-a"
  | false => "host-b"

def electionFlags : LeaderElectionFlags := { leaderElect := true }

/-- No lock yet, and requests are served. -/
def sampleSite : Site Bool where
  clock := 0
  cell := ⟨none, 0⟩
  inFlight := []
  fate := .served
  tick := false
  last _ := 0
  deadline _ := 0
  running _ := false

/-- With the default flags, pauses of a fifth of a second are short enough. -/
def sampleElection : Setting Bool Unit (Site Bool) LockApi Unit :=
  election Stamps.tally (second / 5) electionFlags 2 2 hostName

/-- The two hosts after so many exchanges, one of each in turn. Both ask for the nodes and
find no lock. The first creates it and starts the controller; the second is refused, tries
again, and finds that the lock is held. -/
def twoHosts : Nat → Crew Bool Unit (Site Bool) LockApi Unit
  | 0 => ⟨sampleElection.start, sampleSite⟩
  | n + 1 => sampleElection.act (twoHosts n) (n % 2 == 0)

instance (pause : Duration) (w : Site Bool) (i : Bool) (call : Option LockCall) :
    Decidable (w.punctual pause i call) := by
  unfold Site.punctual
  split <;> infer_instance

theorem twoHosts_timely : ∀ n ≤ 16, ∀ i, Site.punctual (second / 5) (twoHosts n).world i
    ((twoHosts n).pending i) := by
  decide +kernel

theorem twoHosts_reaches : ∀ n ≤ 16, sampleElection.Reaches sampleSite (twoHosts n) := by
  intro n hn
  induction n with
  | zero => exact .start (twoHosts_timely 0 hn)
  | succ n ih => exact .act _ (ih (by omega)) (twoHosts_timely (n + 1) hn)

/-- Both compete, the first runs the controller, and then nobody else does. -/
theorem election_exclusive_sample :
    ((twoHosts 6).pending false).any (fun call => call matches .createObject _) = true ∧
      (twoHosts 16).world.running true = true ∧
      ∀ i, (twoHosts 16).world.running i = true → i = true := by
  have hrunning : (twoHosts 16).world.running true = true := by decide +kernel
  have hnames : Function.Injective hostName := by
    intro i j hname
    cases i <;> cases j <;> first | rfl | exact absurd hname (by decide)
  have hunled : sampleSite.Unled := ⟨by decide, rfl, fun _ => rfl, fun _ hhas => nomatch hhas⟩
  refine ⟨by decide +kernel, hrunning, fun i hi => ?_⟩
  exact election_exclusive Stamps.tally (by decide) rfl (by decide) (by decide) hnames 2 2 hunled
    (twoHosts_reaches 16 le_rfl) i true hi hrunning

end AutoNodeRepair
