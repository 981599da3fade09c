import AutoNodeRepair.Interact.Prog
import AutoNodeRepair.Model.Kube

/-!
# Leader election

`main` of `main.go` with `--leader-elect`: the replicas of the controller compete for a
lock object, and only the one that holds it enters `run`. The election is that of the
vendored `client-go/tools/leaderelection`, with the loops of `apimachinery/pkg/util/wait`.

The lock object is an `Endpoints` or a `ConfigMap` (the two locks are the same code); of
its fields the resource version and the annotation with the record are kept. The JSON of a
record has its times in whole seconds. The waits are questions too: what the clock, the
tickers and the timers do belongs to the outside. `acquire` and `renew` loop for ever, and
are given the number of turns.
-/

namespace AutoNodeRepair

open Interact

/-! ## `resourcelock` -/

/-- `LeaderElectionRecord`. -/
structure LeaderElectionRecord where
  holderIdentity : String := ""
  leaseDurationSeconds : Int := 0
  acquireTime : Time := 0
  renewTime : Time := 0
  leaderTransitions : Int := 0
  deriving DecidableEq, Repr

/-- The text of the annotation: the JSON of a record, or none. -/
inductive RecordText
  | json (record : LeaderElectionRecord)
  | malformed
  deriving DecidableEq, Repr

/-- A time as JSON has it. -/
def wholeSeconds (t : Time) : Time := t / second * second

/-- `json.Marshal` of a record. -/
def LeaderElectionRecord.marshal (ler : LeaderElectionRecord) : RecordText :=
  .json { ler with acquireTime := wholeSeconds ler.acquireTime
                   renewTime := wholeSeconds ler.renewTime }

/-- The lock object, with the annotation `control-plane.alpha.kubernetes.io/leader`. -/
structure LockObject where
  resourceVersion : String := ""
  leader : Option RecordText := none
  deriving DecidableEq, Repr

inductive LockCall
  | listNodes
  | now
  | getObject
  | createObject (object : LockObject)
  | updateObject (object : LockObject)
  | recordEvent (message : String)
  /-- The jittered wait of `JitterUntil`. -/
  | jitter (period : Duration)
  /-- `poller` starts its ticker and its timer. -/
  | startPoller (interval timeout : Duration)
  /-- `<-c`: whether the channel is still open. -/
  | awaitTick
  /-- The controller itself is started, in a goroutine of its own if it is elected. -/
  | run
  /-- `glog.Fatalf`. -/
  | exit (message : String)

@[reducible] def LockCall.Ans : LockCall → Type
  | .listNodes => Except KubeError Unit
  | .now => Time
  | .getObject => Except KubeError LockObject
  | .createObject _ => Except KubeError LockObject
  | .updateObject _ => Except KubeError LockObject
  | .recordEvent _ => Unit
  | .jitter _ => Unit
  | .startPoller .. => Unit
  | .awaitTick => Bool
  | .run => Unit
  | .exit _ => Unit

abbrev LockApi : Sig := ⟨LockCall, LockCall.Ans⟩

/-- Code of the election; the elector is passed along. -/
abbrev Elect := Prog Unit LockApi

/-- The locks of `resourcelock.New`. -/
inductive LockKind
  | endpoints
  | configMaps
  deriving DecidableEq, Repr

/-- `resourcelock.New`. -/
def newResourceLock (lockType : String) : Except String LockKind :=
  if lockType = "endpoints" then .ok .endpoints
  else if lockType = "configmaps" then .ok .configMaps
  else .error s!"Invalid lock-type {lockType}"

/-- What is read out of the object. -/
def LockObject.record (object : LockObject) : Except KubeError LeaderElectionRecord :=
  match object.leader with
  | none => .ok {}
  | some (.json record) => .ok record
  | some .malformed => .error { msg := "invalid character" }

/-- What `Get` of the locks makes of an answer: the record, with the object that the lock
keeps for `Update`. -/
def lockRead :
    Except KubeError LockObject → Except KubeError (LockObject × LeaderElectionRecord)
  | .error err => .error err
  | .ok object => object.record.map fun record => (object, record)

/-- `Get` of the locks. -/
def lockGet : Elect (Except KubeError (LockObject × LeaderElectionRecord)) := do
  return lockRead (← Prog.call (E := LockApi) .getObject)

/-- `Create` of the locks. -/
def lockCreate (ler : LeaderElectionRecord) : Elect (Except KubeError LockObject) :=
  Prog.call (E := LockApi) (.createObject { leader := some ler.marshal })

/-- `Update` of the locks, of the object that `Get` has returned. -/
def lockUpdate (object : LockObject) (ler : LeaderElectionRecord) :
    Elect (Except KubeError LockObject) :=
  Prog.call (E := LockApi) (.updateObject { object with leader := some ler.marshal })

/-! ## `leaderelection` -/

/-- `LeaderElectionConfig`, with the identity of its lock. -/
structure LeaderElectionConfig where
  identity : String
  leaseDuration : Duration
  renewDeadline : Duration
  retryPeriod : Duration

/-- `LeaderElector`: what it has last seen, and since when. -/
structure LeaderElector where
  observedRecord : LeaderElectionRecord := {}
  observedTime : Time := 0

/-- `NewLeaderElector`; `JitterFactor` is 1.2. -/
def newLeaderElector (lec : LeaderElectionConfig) : Except String LeaderElector :=
  if lec.leaseDuration ≤ lec.renewDeadline then
    .error "leaseDuration must be greater than renewDeadline"
  else if lec.renewDeadline ≤ (6 * lec.retryPeriod).tdiv 5 then
    .error "renewDeadline must be greater than retryPeriod*JitterFactor"
  else .ok {}

namespace LeaderElectionConfig

variable (config : LeaderElectionConfig)

/-- The record that `tryAcquireOrRenew` starts with. -/
def freshRecord (now : Time) : LeaderElectionRecord where
  holderIdentity := config.identity
  leaseDurationSeconds := config.leaseDuration.tdiv second
  acquireTime := now
  renewTime := now

/-- The record that it writes over an old one. -/
def nextRecord (now : Time) (old : LeaderElectionRecord) : LeaderElectionRecord :=
  if old.holderIdentity = config.identity then
    { config.freshRecord now with
        acquireTime := old.acquireTime, leaderTransitions := old.leaderTransitions }
  else { config.freshRecord now with leaderTransitions := old.leaderTransitions + 1 }

/-- Someone else has the lock, and was seen with it within the lease. -/
def heldByOther (le : LeaderElector) (now : Time) (old : LeaderElectionRecord) : Bool :=
  decide (le.observedTime + config.leaseDuration > now) &&
    decide (old.holderIdentity ≠ config.identity)

end LeaderElectionConfig

namespace LeaderElector

variable (config : LeaderElectionConfig)

/-- The end of `tryAcquireOrRenew`, once the record was sent. -/
def written (le : LeaderElector) (record : LeaderElectionRecord) :
    Except KubeError LockObject → Elect (LeaderElector × Bool)
  | .error _ => return (le, false)
  | .ok _ => do
      let observedTime ← Prog.call (E := LockApi) .now
      return (⟨record, observedTime⟩, true)

/-- Step 2 of `tryAcquireOrRenew`: another record than the last one is news. -/
def observe (le : LeaderElector) (old : LeaderElectionRecord) : Elect LeaderElector := do
  if le.observedRecord ≠ old then
    let observedTime ← Prog.call (E := LockApi) .now
    return ⟨old, observedTime⟩
  else return le

/-- `tryAcquireOrRenew`. -/
def tryAcquireOrRenew (le : LeaderElector) : Elect (LeaderElector × Bool) := do
  let now ← Prog.call (E := LockApi) .now
  match ← lockGet with
  | .error err =>
      if err.notFound then
        let sent ← lockCreate (config.freshRecord now)
        le.written (config.freshRecord now) sent
      else return (le, false)
  | .ok (object, old) =>
      let le ← le.observe old
      if config.heldByOther le now old then return (le, false)
      else
        let sent ← lockUpdate object (config.nextRecord now old)
        le.written (config.nextRecord now old) sent

/-- `RecordEvent` of the locks. -/
def recordEvent (s : String) : Elect Unit :=
  Prog.call (E := LockApi) (.recordEvent s!"{config.identity} {s}")

/-- `acquire`; `none` is not the end of it. -/
def acquire : Nat → LeaderElector → Elect (Option LeaderElector)
  | 0, _ => return none
  | turns + 1, le => do
      let (le, succeeded) ← le.tryAcquireOrRenew config
      if succeeded then
        recordEvent config "became leader"
        return some le
      else
        Prog.call (E := LockApi) (.jitter config.retryPeriod)
        acquire turns le

/-- `WaitFor` in the `Poll` of `renew`: whether a renewal succeeded. The record is tried
once more when the channel has been closed. -/
def waitFor : Nat → LeaderElector → Elect (LeaderElector × Option Bool)
  | 0, le => return (le, none)
  | turns + 1, le => do
      let opened ← Prog.call (E := LockApi) .awaitTick
      let (le, ok) ← le.tryAcquireOrRenew config
      if ok then return (le, some true)
      else if opened then waitFor turns le
      else return (le, some false)

/-- `renew`, with `ticks` turns of each `Poll`. -/
def renew (ticks : Nat) : Nat → LeaderElector → Elect (Option LeaderElector)
  | 0, _ => return none
  | turns + 1, le => do
      Prog.call (E := LockApi) (.startPoller config.retryPeriod config.renewDeadline)
      match ← le.waitFor config ticks with
      | (_, none) => return none
      | (le, some true) => renew ticks turns le
      | (le, some false) =>
          recordEvent config "stopped leading"
          return some le

/-- `Run`: a leader that could not renew its lock ends the process. -/
def run (ticks turns : Nat) (le : LeaderElector) : Elect Unit := do
  match ← le.acquire config turns with
  | none => return ()
  | some le =>
      Prog.call (E := LockApi) .run
      match ← le.renew config ticks turns with
      | none => return ()
      | some _ => Prog.call (E := LockApi) (.exit "lost master")

end LeaderElector

/-! ## `main` -/

/-- The flags of `bindFlags`, with `defaultLeaderElectionConfiguration`. -/
structure LeaderElectionFlags where
  leaderElect : Bool := false
  leaseDuration : Duration := 15 * second
  renewDeadline : Duration := 10 * second
  retryPeriod : Duration := 2 * second
  resourceLock : String := "endpoints"

/-- The configuration of `RunOrDie`. -/
def LeaderElectionFlags.config (l : LeaderElectionFlags) (id : String) : LeaderElectionConfig :=
  ⟨id, l.leaseDuration, l.renewDeadline, l.retryPeriod⟩

/-- `RunOrDie`. -/
def runOrDie (lec : LeaderElectionConfig) (ticks turns : Nat) : Elect Unit :=
  match newLeaderElector lec with
  | .error err => Prog.call (E := LockApi) (.exit s!"panic: {err}")
  | .ok le => le.run lec ticks turns

/-- `main` on the host `hostname`. -/
def electedMain (l : LeaderElectionFlags) (ticks turns : Nat) (hostname : Except String String) :
    Elect Unit := do
  if !l.leaderElect then
    Prog.call (E := LockApi) .run
  else
    match hostname with
    | .error err => Prog.call (E := LockApi) (.exit s!"Unable to get hostname: {err}")
    | .ok id =>
        match ← Prog.call (E := LockApi) .listNodes with
        | .error err =>
            Prog.call (E := LockApi) (.exit s!"Failed to get nodes from apiserver: {err.msg}")
        | .ok () =>
            match newResourceLock l.resourceLock with
            | .error err =>
                Prog.call (E := LockApi) (.exit s!"Unable to create leader election lock: {err}")
            | .ok _ => runOrDie (l.config id) ticks turns

end AutoNodeRepair
