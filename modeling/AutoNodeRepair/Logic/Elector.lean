import AutoNodeRepair.Interact.Monitor
import AutoNodeRepair.Model.LeaderElection

/-!
# The elector as a machine

The election code of one process, question by question: `Phase` says how far it has got and
what it knows there, and `electorMachine` what it does next. `electedMain_follows` connects
the two: whatever is answered, the code moves as the machine does.
-/

namespace AutoNodeRepair

open Interact Prog

/-- Whether an attempt is made to become the leader or to stay it. A leader knows the time
of the attempt that it leads by, and whether this one is not its last. -/
inductive Mode
  | candidate
  | leader (won : Time) (opened : Bool)

/-- How far the code has got. -/
inductive Phase
  | starting
  | idle (le : LeaderElector)
  /-- An attempt has begun at `t`. -/
  | read (mode : Mode) (le : LeaderElector) (t : Time)
  /-- The lock object was read, and has news. -/
  | observing (mode : Mode) (t : Time) (object : LockObject) (old : LeaderElectionRecord)
  /-- Nobody else holds the lock. -/
  | ready (mode : Mode) (le : LeaderElector) (t : Time) (object : LockObject)
      (old : LeaderElectionRecord)
  /-- There is no lock object. -/
  | absent (mode : Mode) (le : LeaderElector) (t : Time)
  /-- The record was accepted. -/
  | wrote (mode : Mode) (t : Time) (record : LeaderElectionRecord)
  | elected (le : LeaderElector) (won : Time)
  | announced (le : LeaderElector) (won : Time)
  | leading (le : LeaderElector) (won : Time)
  | polling (le : LeaderElector) (won : Time)
  | ticked (le : LeaderElector) (won : Time) (opened : Bool)
  | lost (won : Time)
  | leaving (won : Time)
  | gone

namespace Mode

/-- An attempt that failed. -/
def failed (le : LeaderElector) : Mode → Phase
  | .candidate => .idle le
  | .leader won true => .polling le won
  | .leader won false => .lost won

/-- An attempt of the time `t` that succeeded. -/
def succeeded (le : LeaderElector) (t : Time) : Mode → Phase
  | .candidate => .elected le t
  | .leader _ _ => .leading le t

/-- The answer to the record that was sent. -/
def sent (mode : Mode) (le : LeaderElector) (t : Time) (record : LeaderElectionRecord) :
    Except KubeError LockObject → Phase
  | .ok _ => .wrote mode t record
  | .error _ => mode.failed le

end Mode

namespace LeaderElectionConfig

variable (config : LeaderElectionConfig)

/-- The lock is held, or can be had. -/
def judge (mode : Mode) (le : LeaderElector) (t : Time) (object : LockObject)
    (old : LeaderElectionRecord) : Phase :=
  if config.heldByOther le t old then mode.failed le else .ready mode le t object old

/-- The lock object was asked for. -/
def fetched (mode : Mode) (le : LeaderElector) (t : Time) :
    Except KubeError (LockObject × LeaderElectionRecord) → Phase
  | .error err => if err.notFound then .absent mode le t else mode.failed le
  | .ok (object, old) =>
      if le.observedRecord ≠ old then .observing mode t object old
      else config.judge mode le t object old

end LeaderElectionConfig

/-- The next step of the machine. -/
def Phase.next (config : LeaderElectionConfig) : Phase → (c : LockCall) → c.Ans → Option Phase
  | .starting, .listNodes, .ok _ => some (.idle {})
  | .starting, .listNodes, .error _ => some .starting
  | .starting, .exit _, _ => some .gone
  | .idle _, .exit _, _ => some .gone
  | .idle le, .jitter _, _ => some (.idle le)
  | .idle le, .now, t => some (.read .candidate le t)
  | .read mode le t, .getObject, answer => some (config.fetched mode le t (lockRead answer))
  | .observing mode t object old, .now, seen => some (config.judge mode ⟨old, seen⟩ t object old)
  | .ready mode le t object old, .updateObject update, answer =>
      if update = { object with leader := some (config.nextRecord t old).marshal } then
        some (mode.sent le t (config.nextRecord t old) answer)
      else none
  | .absent mode le t, .createObject created, answer =>
      if created = { leader := some (config.freshRecord t).marshal } then
        some (mode.sent le t (config.freshRecord t) answer)
      else none
  | .wrote mode t record, .now, seen => some (mode.succeeded ⟨record, seen⟩ t)
  | .elected le won, .recordEvent _, _ => some (.announced le won)
  | .announced le won, .run, _ => some (.leading le won)
  | .leading le won, .startPoller _ timeout, _ =>
      if timeout = config.renewDeadline then some (.polling le won) else none
  | .polling le won, .awaitTick, opened => some (.ticked le won opened)
  | .ticked le won opened, .now, t => some (.read (.leader won opened) le t)
  | .lost won, .recordEvent _, _ => some (.leaving won)
  | .leaving _, .exit _, _ => some .gone
  | _, _, _ => none

def electorMachine (config : LeaderElectionConfig) : Monitor LockApi Phase := ⟨Phase.next config⟩

/-- All the steps that there are. -/
inductive Phase.Move (config : LeaderElectionConfig) : Phase → (c : LockCall) → c.Ans → Phase → Prop
  | listed : Move config .starting .listNodes (.ok ()) (.idle {})
  | unlisted (err : KubeError) : Move config .starting .listNodes (.error err) .starting
  | giveUp (message : String) : Move config .starting (.exit message) () .gone
  | reject (le : LeaderElector) (message : String) :
      Move config (.idle le) (.exit message) () .gone
  | rest (le : LeaderElector) (period : Duration) :
      Move config (.idle le) (.jitter period) () (.idle le)
  | compete (le : LeaderElector) (t : Time) :
      Move config (.idle le) .now t (.read .candidate le t)
  | fetch (mode : Mode) (le : LeaderElector) (t : Time) (answer : Except KubeError LockObject) :
      Move config (.read mode le t) .getObject answer
        (config.fetched mode le t (lockRead answer))
  | observe (mode : Mode) (t : Time) (object : LockObject) (old : LeaderElectionRecord)
      (seen : Time) :
      Move config (.observing mode t object old) .now seen
        (config.judge mode ⟨old, seen⟩ t object old)
  | update (mode : Mode) (le : LeaderElector) (t : Time) (object : LockObject)
      (old : LeaderElectionRecord) (answer : Except KubeError LockObject) :
      Move config (.ready mode le t object old)
        (.updateObject { object with leader := some (config.nextRecord t old).marshal })
        answer (mode.sent le t (config.nextRecord t old) answer)
  | create (mode : Mode) (le : LeaderElector) (t : Time) (answer : Except KubeError LockObject) :
      Move config (.absent mode le t)
        (.createObject { leader := some (config.freshRecord t).marshal })
        answer (mode.sent le t (config.freshRecord t) answer)
  | succeed (mode : Mode) (t : Time) (record : LeaderElectionRecord) (seen : Time) :
      Move config (.wrote mode t record) .now seen (mode.succeeded ⟨record, seen⟩ t)
  | announce (le : LeaderElector) (won : Time) (message : String) :
      Move config (.elected le won) (.recordEvent message) () (.announced le won)
  | lead (le : LeaderElector) (won : Time) :
      Move config (.announced le won) .run () (.leading le won)
  | poll (le : LeaderElector) (won : Time) (interval : Duration) :
      Move config (.leading le won) (.startPoller interval config.renewDeadline) ()
        (.polling le won)
  | tick (le : LeaderElector) (won : Time) (opened : Bool) :
      Move config (.polling le won) .awaitTick opened (.ticked le won opened)
  | renew (le : LeaderElector) (won : Time) (opened : Bool) (t : Time) :
      Move config (.ticked le won opened) .now t (.read (.leader won opened) le t)
  | report (won : Time) (message : String) :
      Move config (.lost won) (.recordEvent message) () (.leaving won)
  | leave (won : Time) (message : String) :
      Move config (.leaving won) (.exit message) () .gone

theorem Phase.move_of_next {config : LeaderElectionConfig} {phase phase' : Phase} {c : LockCall}
    {answer : c.Ans} (hnext : phase.next config c answer = some phase') :
    Phase.Move config phase c answer phase' := by
  unfold Phase.next at hnext
  split at hnext
  case h_9 =>
    split at hnext
    · rename_i hsent
      subst hsent
      obtain rfl := Option.some.inj hnext
      exact .update ..
    · cases hnext
  case h_10 =>
    split at hnext
    · rename_i hsent
      subst hsent
      obtain rfl := Option.some.inj hnext
      exact .create ..
    · cases hnext
  case h_14 =>
    split at hnext
    · rename_i hdeadline
      subst hdeadline
      obtain rfl := Option.some.inj hnext
      exact .poll ..
    · cases hnext
  case h_19 => cases hnext
  all_goals
    obtain rfl := Option.some.inj hnext
    constructor

/-! ## The code is the machine -/

section

variable {config : LeaderElectionConfig} {α : Type}

/-- The end of an attempt that sends a record. -/
theorem written_follows (le : LeaderElector) (mode : Mode) (t : Time)
    (record : LeaderElectionRecord) (answer : Except KubeError LockObject)
    {Q : LeaderElector × Bool → Phase → Prop} (hfailed : ∀ le, Q (le, false) (mode.failed le))
    (hsucceeded : ∀ le t, Q (le, true) (mode.succeeded le t)) :
    (le.written record answer).Follows (electorMachine config) (mode.sent le t record answer)
      Q := by
  cases answer with
  | error err => exact hfailed le
  | ok object =>
      intro seen
      exact ⟨_, rfl, hsucceeded ⟨record, seen⟩ t⟩

/-- After the record was looked at, it is judged. -/
theorem observe_follows (le : LeaderElector) (mode : Mode) (t : Time) (object : LockObject)
    (old : LeaderElectionRecord) :
    (le.observe old).Follows (electorMachine config) (config.fetched mode le t (.ok (object, old)))
      fun le phase => phase = config.judge mode le t object old := by
  by_cases hnews : le.observedRecord ≠ old
  · have hphase : config.fetched mode le t (.ok (object, old)) = .observing mode t object old :=
      if_pos hnews
    rw [LeaderElector.observe, if_pos hnews, hphase]
    exact Follows.bind_call fun seen => ⟨_, rfl, rfl⟩
  · have hphase : config.fetched mode le t (.ok (object, old)) =
        config.judge mode le t object old := if_neg hnews
    rw [LeaderElector.observe, if_neg hnews, hphase]
    exact Follows.pure rfl

theorem lockGet_follows (mode : Mode) (le : LeaderElector) (t : Time) :
    lockGet.Follows (electorMachine config) (.read mode le t)
      fun found phase => phase = config.fetched mode le t found :=
  Follows.bind_call fun _ => ⟨_, rfl, rfl⟩

theorem tryAcquireOrRenew_follows (le : LeaderElector) (mode : Mode) {phase : Phase}
    (hbegin : ∀ t, phase.next config .now t = some (.read mode le t))
    {Q : LeaderElector × Bool → Phase → Prop} (hfailed : ∀ le, Q (le, false) (mode.failed le))
    (hsucceeded : ∀ le t, Q (le, true) (mode.succeeded le t)) :
    (le.tryAcquireOrRenew config).Follows (electorMachine config) phase Q := by
  refine Follows.bind_call fun t => ⟨_, hbegin t, ?_⟩
  refine Follows.bind (lockGet_follows mode le t) ?_
  rintro found _ rfl
  cases found with
  | error err =>
      dsimp only [LeaderElectionConfig.fetched]
      cases err.notFound with
      | true =>
          exact Follows.bind_call fun sent =>
            ⟨_, if_pos rfl, written_follows le mode t _ sent hfailed hsucceeded⟩
      | false => exact hfailed le
  | ok found =>
      obtain ⟨object, old⟩ := found
      refine Follows.bind (observe_follows le mode t object old) ?_
      rintro le' _ rfl
      unfold LeaderElectionConfig.judge
      split
      · exact hfailed le'
      · exact Follows.bind_call fun sent =>
          ⟨_, if_pos rfl, written_follows le' mode t _ sent hfailed hsucceeded⟩

theorem acquire_follows (turns : Nat) (le : LeaderElector) :
    (LeaderElector.acquire config turns le).Follows (electorMachine config) (.idle le)
      fun r phase => ∀ le, r = some le → ∃ won, phase = .announced le won := by
  induction turns generalizing le with
  | zero => exact nofun
  | succ turns ih =>
      refine Follows.bind (Q := fun r phase =>
        (r.2 = false ∧ phase = .idle r.1) ∨ (r.2 = true ∧ ∃ won, phase = .elected r.1 won))
        (tryAcquireOrRenew_follows le .candidate (fun t => rfl) (fun le => .inl ⟨rfl, rfl⟩)
          fun le t => .inr ⟨rfl, t, rfl⟩) ?_
      rintro ⟨le, succeeded⟩ phase (⟨rfl, rfl⟩ | ⟨rfl, won, rfl⟩)
      · exact fun _ => ⟨_, rfl, ih le⟩
      · exact fun _ => ⟨_, rfl, fun le' hsome => ⟨won, by rw [Option.some.inj hsome]⟩⟩

theorem waitFor_follows (turns : Nat) (le : LeaderElector) (won : Time) :
    (le.waitFor config turns).Follows (electorMachine config) (.polling le won)
      fun r phase => (r.2 = some true → ∃ won, phase = .leading r.1 won) ∧
        (r.2 = some false → ∃ won, phase = .lost won) := by
  induction turns generalizing le with
  | zero => exact ⟨nofun, nofun⟩
  | succ turns ih =>
      refine Follows.bind_call fun opened => ⟨_, rfl, ?_⟩
      refine Follows.bind (Q := fun r phase =>
        (r.2 = false ∧ phase = (Mode.leader won opened).failed r.1) ∨
          (r.2 = true ∧ ∃ won, phase = .leading r.1 won))
        (tryAcquireOrRenew_follows le (.leader won opened) (fun t => rfl)
          (fun le => .inl ⟨rfl, rfl⟩) fun le t => .inr ⟨rfl, t, rfl⟩) ?_
      rintro ⟨le, ok⟩ phase (⟨rfl, rfl⟩ | ⟨rfl, won', rfl⟩)
      · cases opened with
        | true => exact ih le
        | false => exact ⟨nofun, fun _ => ⟨won, rfl⟩⟩
      · exact ⟨fun _ => ⟨won', rfl⟩, nofun⟩

theorem renew_follows (ticks turns : Nat) (le : LeaderElector) (won : Time) :
    (LeaderElector.renew config ticks turns le).Follows (electorMachine config) (.leading le won)
      fun r phase => r ≠ none → ∃ won, phase = .leaving won := by
  induction turns generalizing le won with
  | zero => exact fun hne => absurd rfl hne
  | succ turns ih =>
      refine Follows.bind_call fun _ => ⟨_, if_pos rfl, ?_⟩
      refine Follows.bind (waitFor_follows ticks le won) ?_
      rintro ⟨le', ended⟩ phase ⟨hrenewed, hlost⟩
      match ended with
      | none => exact fun hne => absurd rfl hne
      | some true =>
          obtain ⟨won', rfl⟩ := hrenewed rfl
          exact ih le' won'
      | some false =>
          obtain ⟨won', rfl⟩ := hlost rfl
          exact fun _ => ⟨_, rfl, fun _ => ⟨won', rfl⟩⟩

theorem run_follows (ticks turns : Nat) (le : LeaderElector) :
    (le.run config ticks turns).Follows (electorMachine config) (.idle le) fun _ _ => True := by
  refine Follows.bind (acquire_follows turns le) fun r phase hannounced => ?_
  cases r with
  | none => trivial
  | some le' =>
      obtain ⟨won, rfl⟩ := hannounced le' rfl
      refine Follows.bind_call fun _ => ⟨_, rfl, ?_⟩
      refine Follows.bind (renew_follows ticks turns le' won) fun r phase hleaving => ?_
      cases r with
      | none => trivial
      | some le'' =>
          obtain ⟨won', rfl⟩ := hleaving nofun
          exact fun _ => ⟨_, rfl, trivial⟩

end

theorem newLeaderElector_ok {lec : LeaderElectionConfig} {le : LeaderElector}
    (hok : newLeaderElector lec = .ok le) : le = {} := by
  unfold newLeaderElector at hok
  split at hok
  · cases hok
  split at hok
  · cases hok
  · exact (Except.ok.inj hok).symm

/-- `main`, with leader election. -/
theorem electedMain_follows {l : LeaderElectionFlags} (hl : l.leaderElect = true)
    (ticks turns : Nat) (id : String) :
    (electedMain l ticks turns (.ok id)).Follows (electorMachine (l.config id)) .starting
      fun _ _ => True := by
  unfold electedMain
  rw [hl]
  refine Follows.bind_call fun answer => ?_
  cases answer with
  | error err => exact ⟨_, rfl, fun _ => ⟨_, rfl, trivial⟩⟩
  | ok _ =>
      refine ⟨_, rfl, ?_⟩
      cases newResourceLock l.resourceLock with
      | error err => exact fun _ => ⟨_, rfl, trivial⟩
      | ok kind =>
          dsimp only [runOrDie]
          cases hnew : newLeaderElector (l.config id) with
          | error err => exact fun _ => ⟨_, rfl, trivial⟩
          | ok le =>
              obtain rfl := newLeaderElector_ok hnew
              exact run_follows ticks turns _

end AutoNodeRepair
