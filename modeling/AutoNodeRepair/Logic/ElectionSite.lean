import AutoNodeRepair.Interact.Crew
import AutoNodeRepair.Interact.Versioned
import AutoNodeRepair.Logic.Elector

/-!
# Where an election takes place

The processes of the controller, one on each host, with one clock, one lock object on the
API server, and a network in between. A request may be served or refused, its answer may be
lost, and it may be held up and arrive at any later time, when its sender has long given up.
The API server keeps the revisions of the object (`Cell`). Others may edit the object as
long as they leave the annotation alone, and do not delete it.

`accepts` and `arrive` abstract what is vendored of the API server: `Store.Create` and
`Store.Update` (`k8s.io/apiserver/pkg/registry/generic/registry/store.go`), with the strategy of
endpoints (`k8s.io/kubernetes/pkg/registry/core/endpoint/strategy.go`), which allows updates that
name no revision. It also lets an update create the object, which cannot happen here: an update
follows a read that has found the object. That a write happens at one point in time is
`GuaranteedUpdate` of the storage (`k8s.io/apiserver/pkg/storage/etcd3/store.go`).

A process may end and be started again at any time, on the same host. While it is up, none
of its steps takes longer than `pause`, except where it waits; and a poll comes to its end
within `pause` of its deadline.
-/

namespace AutoNodeRepair

open Interact

/-! ## The site -/

/-- What becomes of a request. -/
inductive Fate
  | served
  | refused (err : KubeError)
  | answerLost (err : KubeError)
  | late (err : KubeError)

/-- A request to write the lock object. -/
inductive LockRequest
  | create (object : LockObject)
  | update (object : LockObject)

def LockRequest.object : LockRequest → LockObject
  | .create object => object
  | .update object => object

/-- The state of the site. The clock is that of all hosts. Of each process it has the time of
its last step, the deadline of its poll, and whether the controller runs there. The content
of the cell is the annotation of the object, if there is one. -/
structure Site (R : Type) where
  clock : Time
  cell : Cell (Option RecordText)
  inFlight : List LockRequest
  fate : Fate
  tick : Bool
  last : R → Time
  deadline : R → Time
  running : R → Bool

namespace Site

variable {R : Type} (stamps : Stamps)

/-- Whether the API server accepts a request. -/
def accepts (w : Site R) : LockRequest → Bool
  | .create _ => w.cell.content.isNone
  | .update object => w.cell.content.isSome &&
      (object.resourceVersion == "" || object.resourceVersion == stamps.stamp w.cell.revision)

/-- A request arrives there. -/
def arrive (w : Site R) (request : LockRequest) : Site R :=
  if w.accepts stamps request then { w with cell := w.cell.put (some request.object.leader) }
  else w

/-- How it is answered. -/
def answer (w : Site R) (request : LockRequest) : Except KubeError LockObject :=
  if w.accepts stamps request then
    .ok { request.object with resourceVersion := stamps.stamp (w.cell.revision + 1) }
  else .error { msg := "the object has been modified" }

/-- A request is sent. -/
def send (w : Site R) (request : LockRequest) : Except KubeError LockObject × Site R :=
  match w.fate with
  | .served => (w.answer stamps request, w.arrive stamps request)
  | .refused err => (.error err, w)
  | .answerLost err => (.error err, w.arrive stamps request)
  | .late err => (.error err, { w with inFlight := request :: w.inFlight })

/-- The object is asked for. -/
def get (w : Site R) : Except KubeError LockObject :=
  match w.fate with
  | .served =>
      match w.cell.content with
      | some text => .ok ⟨stamps.stamp w.cell.revision, text⟩
      | none => .error ⟨"not found", true⟩
  | .refused err => .error err
  | .answerLost err => .error err
  | .late err => .error err

def list (w : Site R) : Except KubeError Unit :=
  match w.fate with
  | .served => .ok ()
  | .refused err => .error err
  | .answerLost err => .error err
  | .late err => .error err

variable [DecidableEq R] (pause : Duration)

/-- A process has taken a step. -/
def step (w : Site R) (i : R) : Site R := { w with last := Function.update w.last i w.clock }

/-- A poll ends at its deadline; a tick may be ahead of the end for a moment. -/
def opened (w : Site R) (i : R) : Bool :=
  decide (w.clock < w.deadline i) || (w.tick && decide (w.clock ≤ w.deadline i + pause))

/-- The outside of the process `i`. -/
def serve (i : R) : Service (Site R) LockApi := fun w c =>
  match c with
  | .listNodes => (w.list, w.step i)
  | .now => (w.clock, w.step i)
  | .getObject => (w.get stamps, w.step i)
  | .createObject object => (w.step i).send stamps (.create object)
  | .updateObject object => (w.step i).send stamps (.update object)
  | .recordEvent _ => ((), w.step i)
  | .jitter _ => ((), w.step i)
  | .startPoller _ timeout =>
      ((), { w.step i with deadline := Function.update w.deadline i (w.clock + timeout) })
  | .awaitTick => (w.opened pause i, w.step i)
  | .run => ((), { w.step i with running := Function.update w.running i true })
  | .exit _ => ((), { w.step i with running := Function.update w.running i false })

/-- What happens by itself. -/
inductive Drift : Site R → Site R → Prop
  | pass {w : Site R} (t : Time) (fate : Fate) (tick : Bool) : w.clock ≤ t →
      Drift w { w with clock := t, fate := fate, tick := tick }
  | arrive {w : Site R} (request : LockRequest) : request ∈ w.inFlight →
      Drift w (w.arrive stamps request)
  | touch (w : Site R) : Drift w { w with cell := w.cell.put w.cell.content }

/-- The process is not late with its next question. -/
def punctual (w : Site R) (i : R) : Option LockCall → Prop
  | some .listNodes => True
  | some (.jitter _) => True
  | some .awaitTick => w.clock ≤ max (w.last i) (w.deadline i) + pause
  | some _ => w.clock ≤ w.last i + pause
  | none => w.running i = true → w.clock ≤ w.last i + pause

end Site

/-- Every host `i` runs `main` under the name `id i`. -/
def election {R : Type} [DecidableEq R] (stamps : Stamps) (pause : Duration)
    (l : LeaderElectionFlags) (ticks turns : Nat) (id : R → String) :
    Setting R Unit (Site R) LockApi Unit where
  start i := ⟨electedMain l ticks turns (.ok (id i)), ()⟩
  restart i w := { w with running := Function.update w.running i false }
  serve := Site.serve stamps pause
  drift := Site.Drift stamps
  punctual := Site.punctual pause

end AutoNodeRepair
