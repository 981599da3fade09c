import AutoNodeRepair.Interact.Versioned
import AutoNodeRepair.Model.ConfigMaps

/-!
# A server that others use too

The outside of the code about config maps, as far as one map of one name goes: the API
server with its optimistic concurrency (`Cell`), and before every request whatever the
other clients do to the map. A request may also fail, with or without having been
carried out. All of that is the script of the server, and the theorems are about every
script.

The server abstracts what is vendored of the real one. `replace` and `create` are `Store.Update`
and `Store.Create` (`k8s.io/apiserver/pkg/registry/generic/registry/store.go`): an update names
the revision it is of, or none, since the strategy of config maps
(`k8s.io/kubernetes/pkg/registry/core/configmap/strategy.go`) allows unconditional updates and
no creation by an update. That a write happens at one point in time is `GuaranteedUpdate` of the
storage (`k8s.io/apiserver/pkg/storage/etcd3/store.go`). Validation and admission are left out.
-/

namespace AutoNodeRepair

open Interact

/-! ## The server -/

/-- What becomes of a request: it is answered, it fails, or it is carried out and the
answer is lost. -/
inductive Verdict
  | answered
  | refused (err : KubeError)
  | lost (err : KubeError)

/-- What happens around a request: the time, and what the others do before it. -/
structure MapTurn where
  time : Time := 0
  edits : List (Cell.Edit ConfigMap) := []
  verdict : Verdict := .answered

/-- The API server, as far as one config map goes. -/
structure MapServer where
  ns : String
  name : String
  cell : Cell ConfigMap
  script : List MapTurn

/-- The answer to a request that fails; some requests cannot. -/
def MapCall.failure (err : KubeError) : (c : MapCall) → Option c.Ans
  | .now => none
  | .getConfigMap _ _ => some (.error err)
  | .updateConfigMap _ => some (.error err)
  | .createConfigMap _ => some (.error err)
  | .deleteConfigMap _ _ => some (.error err)
  | .recordEvent .. => none

namespace MapServer

variable (stamps : Stamps)

/-- What the script has for the next request; after its end nobody else acts. -/
def turn (s : MapServer) : MapTurn := s.script.headD {}

/-- The server when the next request arrives. -/
def arrive (s : MapServer) : MapServer :=
  { s with cell := s.cell.edits s.turn.edits, script := s.script.tail }

/-- The next request is carried out, and its answer lost. -/
def Loses (s : MapServer) : Prop := ∃ err, s.turn.verdict = .lost err

/-- The server when `n` requests have arrived, if only the others act. -/
def untouched (s : MapServer) : Nat → MapServer
  | 0 => s
  | n + 1 => s.arrive.untouched n

/-- The map as it is shown to clients. -/
def current (s : MapServer) : Option ConfigMap :=
  s.cell.content.map fun cm => { cm with resourceVersion := stamps.stamp s.cell.revision }

def put (s : MapServer) (content : Option ConfigMap) : MapServer :=
  { s with cell := s.cell.put content }

def notFound (s : MapServer) : KubeError := ⟨s!"configmaps {s.name} not found", true⟩

/-! ### Requests

The server has one map, and any other is not found. -/

def about (s : MapServer) (ns name : String) {α : Type} (r : Except KubeError α × MapServer) :
    Except KubeError α × MapServer :=
  if ns = s.ns ∧ name = s.name then r else (.error s.notFound, s)

theorem about_self {s : MapServer} {ns name : String} (hns : s.ns = ns) (hname : s.name = name)
    {α : Type} (r : Except KubeError α × MapServer) : s.about ns name r = r :=
  if_pos ⟨hns.symm, hname.symm⟩

def read (s : MapServer) : Except KubeError ConfigMap × MapServer :=
  match s.current stamps with
  | some cm => (.ok cm, s)
  | none => (.error s.notFound, s)

/-- A write that was accepted: the map is shown with its new revision. -/
def write (s : MapServer) (cm : ConfigMap) : Except KubeError ConfigMap × MapServer :=
  (.ok { cm with resourceVersion := stamps.stamp (s.cell.revision + 1) }, s.put (some cm))

/-- An update names the revision it is of, or none. -/
def replace (s : MapServer) (cm : ConfigMap) : Except KubeError ConfigMap × MapServer :=
  match s.cell.content with
  | none => (.error s.notFound, s)
  | some _ =>
      if cm.resourceVersion = "" ∨ cm.resourceVersion = stamps.stamp s.cell.revision then
        s.write stamps cm
      else (.error ⟨"the object has been modified", false⟩, s)

def create (s : MapServer) (cm : ConfigMap) : Except KubeError ConfigMap × MapServer :=
  match s.cell.content with
  | some _ => (.error ⟨"already exists", false⟩, s)
  | none => s.write stamps cm

def remove (s : MapServer) : Except KubeError Unit × MapServer :=
  match s.cell.content with
  | some _ => (.ok (), s.put none)
  | none => (.error s.notFound, s)

/-- The request is carried out. -/
def carryOut (time : Time) (s : MapServer) : (c : MapCall) → c.Ans × MapServer
  | .now => (time, s)
  | .getConfigMap ns name => s.about ns name (s.read stamps)
  | .updateConfigMap cm => s.about cm.ns cm.name (s.replace stamps cm)
  | .createConfigMap cm => s.about cm.ns cm.name (s.create stamps cm)
  | .deleteConfigMap ns name => s.about ns name s.remove
  | .recordEvent .. => ((), s)

/-- The outside: the others act, then the request meets its verdict. -/
def service : Service MapServer MapApi := fun s c =>
  match s.turn.verdict with
  | .answered => s.arrive.carryOut stamps s.turn.time c
  | .refused err =>
      match c.failure err with
      | some answer => (answer, s.arrive)
      | none => s.arrive.carryOut stamps s.turn.time c
  | .lost err =>
      match c.failure err with
      | some answer => (answer, (s.arrive.carryOut stamps s.turn.time c).2)
      | none => s.arrive.carryOut stamps s.turn.time c

/-! ## What a client can tell -/

@[simp] theorem arrive_ns (s : MapServer) : s.arrive.ns = s.ns := rfl

@[simp] theorem arrive_name (s : MapServer) : s.arrive.name = s.name := rfl

/-- While the map is shown with the same revision, nobody has written to it. -/
theorem arrive_cell_of_stamp {s : MapServer}
    (hstamp : stamps.stamp s.arrive.cell.revision = stamps.stamp s.cell.revision) :
    s.arrive.cell = s.cell :=
  Cell.edits_eq_of_revision_eq (stamps.injective hstamp)

theorem current_eq_some {s : MapServer} {cm : ConfigMap} (hcm : s.current stamps = some cm) :
    cm.resourceVersion = stamps.stamp s.cell.revision ∧
      ∃ old, s.cell.content = some old ∧ old.data = cm.data ∧
        old.annotations = cm.annotations := by
  obtain ⟨old, hold, rfl⟩ := Option.map_eq_some_iff.mp hcm
  exact ⟨rfl, old, hold, rfl, rfl⟩

theorem service_of_answered {s : MapServer} (hverdict : s.turn.verdict = .answered)
    (c : MapCall) : service stamps s c = s.arrive.carryOut stamps s.turn.time c := by
  rw [service, hverdict]

theorem service_now (s : MapServer) : service stamps s .now = (s.turn.time, s.arrive) := by
  unfold service
  cases s.turn.verdict <;> rfl

theorem service_recordEvent (s : MapServer) (object : ConfigMap)
    (eventtype reason message : String) :
    service stamps s (.recordEvent object eventtype reason message) = ((), s.arrive) := by
  unfold service
  cases s.turn.verdict <;> rfl

/-! ### Reading -/

/-- How reading ends: nothing is changed, and what is read is there. -/
structure Read (s : MapServer) (r : Except KubeError ConfigMap × MapServer) : Prop where
  same : r.2 = s
  found : ∀ cm, r.1 = .ok cm → s.current stamps = some cm

theorem Read.failed (s : MapServer) (err : KubeError) : Read stamps s (.error err, s) :=
  ⟨rfl, by simp⟩

theorem read_spec (s : MapServer) (ns name : String) :
    Read stamps s (s.about ns name (s.read stamps)) := by
  unfold about read
  split
  · cases hcm : s.current stamps with
    | none => exact .failed stamps s _
    | some cm => exact ⟨rfl, fun _ hok => hcm.trans (congrArg some (Except.ok.inj hok))⟩
  · exact .failed stamps s _

theorem service_getConfigMap (s : MapServer) (ns name : String) :
    Read stamps s.arrive (service stamps s (.getConfigMap ns name)) := by
  have hread := s.arrive.read_spec stamps ns name
  unfold service
  cases s.turn.verdict with
  | answered => exact hread
  | refused err => exact .failed stamps _ err
  | lost err => exact ⟨hread.same, by simp [MapCall.failure]⟩

/-- A map is read exactly if it is there and the request is answered. -/
theorem service_getConfigMap_ok_iff {s : MapServer} {ns name : String} {cm : ConfigMap} :
    (service stamps s (.getConfigMap ns name)).1 = .ok cm ↔
      s.turn.verdict = .answered ∧ (ns = s.ns ∧ name = s.name) ∧
        s.arrive.current stamps = some cm := by
  unfold service
  cases s.turn.verdict with
  | refused err => simp [MapCall.failure]
  | lost err => simp [MapCall.failure]
  | answered =>
      simp only [carryOut, about, read, arrive_ns, arrive_name, true_and]
      by_cases hown : ns = s.ns ∧ name = s.name
      · cases s.arrive.current stamps <;> simp [hown]
      · simp [hown]

/-! ### Writing -/

/-- The ways writing can end: the map is written, provided that it is accepted, and the
writer gets to know that unless the answer is lost; or nothing is changed. -/
inductive Written (accepted lost : Prop) (s : MapServer) (cm : ConfigMap) :
    Except KubeError ConfigMap × MapServer → Prop
  | answered (h : accepted) : Written accepted lost s cm (s.write stamps cm)
  | lost (h : accepted) (hlost : lost) (err : KubeError) :
      Written accepted lost s cm (.error err, s.put (some cm))
  | failed (err : KubeError) : Written accepted lost s cm (.error err, s)

theorem Written.verdict {accepted lost : Prop} {s : MapServer} {cm : ConfigMap}
    {r : Except KubeError ConfigMap × MapServer} (h : Written stamps accepted lost s cm r)
    (hlost : lost) (err : KubeError) : Written stamps accepted lost s cm (.error err, r.2) := by
  cases h with
  | answered h => exact .lost h hlost err
  | lost h _ _ => exact .lost h hlost err
  | failed _ => exact .failed err

theorem Written.about {accepted lost : Prop} {s : MapServer} {cm : ConfigMap}
    {r : Except KubeError ConfigMap × MapServer} (h : Written stamps accepted lost s cm r)
    (ns name : String) : Written stamps accepted lost s cm (s.about ns name r) := by
  unfold MapServer.about
  split
  · exact h
  · exact .failed _

theorem replace_spec (lost : Prop) (s : MapServer) {cm : ConfigMap}
    (hcm : cm.resourceVersion ≠ "") :
    Written stamps (cm.resourceVersion = stamps.stamp s.cell.revision) lost s cm
      (s.replace stamps cm) := by
  unfold replace
  cases s.cell.content with
  | none => exact .failed _
  | some _ =>
      dsimp only
      split
      · rename_i hversion
        exact .answered (hversion.resolve_left hcm)
      · exact .failed _

theorem create_spec (lost : Prop) (s : MapServer) (cm : ConfigMap) :
    Written stamps (s.cell.content = none) lost s cm (s.create stamps cm) := by
  unfold create
  split
  · exact .failed _
  · rename_i hnone
    exact .answered hnone

/-- An update that is carried out is of the map as it is. -/
theorem service_updateConfigMap (s : MapServer) {cm : ConfigMap}
    (hcm : cm.resourceVersion ≠ "") :
    Written stamps (cm.resourceVersion = stamps.stamp s.arrive.cell.revision) s.Loses s.arrive cm
      (service stamps s (.updateConfigMap cm)) := by
  have hwritten := (s.arrive.replace_spec stamps s.Loses hcm).about stamps cm.ns cm.name
  unfold service
  cases hverdict : s.turn.verdict with
  | answered => exact hwritten
  | refused err => exact .failed err
  | lost err => exact hwritten.verdict stamps ⟨err, hverdict⟩ err

/-- A creation that is carried out finds no map. -/
theorem service_createConfigMap (s : MapServer) (cm : ConfigMap) :
    Written stamps (s.arrive.cell.content = none) s.Loses s.arrive cm
      (service stamps s (.createConfigMap cm)) := by
  have hwritten := (s.arrive.create_spec stamps s.Loses cm).about stamps cm.ns cm.name
  unfold service
  cases hverdict : s.turn.verdict with
  | answered => exact hwritten
  | refused err => exact .failed err
  | lost err => exact hwritten.verdict stamps ⟨err, hverdict⟩ err

/-! ## A client's run -/

/-- Run on `s`, the client ends with a value, what the others alone would have made of the
server, and what it is, that `Q` allows. -/
def Ends {α : Type} (p : MapCtl α) (s : MapServer) (Q : α → MapServer → MapServer → Prop) :
    Prop :=
  let out := p.exec (service stamps) ⟨(), s⟩
  Q out.val (s.untouched out.log.length) out.mach.world

variable {stamps}

theorem Ends.pure {α : Type} {a : α} {s : MapServer} {Q : α → MapServer → MapServer → Prop}
    (hq : Q a s s) : Ends stamps (Pure.pure a) s Q := hq

/-- A request that changes nothing comes first. -/
theorem Ends.bind_call {α : Type} {c : MapCall} {k : c.Ans → MapCtl α} {s : MapServer}
    {Q : α → MapServer → MapServer → Prop} (hsame : (service stamps s c).2 = s.arrive)
    (hk : Ends stamps (k (service stamps s c).1) s.arrive Q) :
    Ends stamps (Prog.call (E := MapApi) c >>= k) s Q := by
  unfold Ends at hk ⊢
  rw [exec_bind, exec_call]
  simp only [hsame, Outcome.after_val, Outcome.after_log, Outcome.after_mach,
    List.singleton_append, List.length_cons]
  exact hk

/-- A request is the last one. -/
theorem Ends.last_call {α : Type} {c : MapCall} {f : c.Ans → α} {s : MapServer}
    {Q : α → MapServer → MapServer → Prop}
    (hq : Q (f (service stamps s c).1) s.arrive (service stamps s c).2) :
    Ends stamps (Prog.call (E := MapApi) c >>= fun r => Pure.pure (f r)) s Q := hq

end MapServer

end AutoNodeRepair
