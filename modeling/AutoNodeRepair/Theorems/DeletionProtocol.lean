import AutoNodeRepair.Logic.Cluster
import AutoNodeRepair.Logic.Protocol
import AutoNodeRepair.Model.ClusterState

/-!
# The order of a deletion

`deleteNode` makes requests to three parties: the API server holds the taint, the
autoscaling service the machine, and the cluster state registry the expected size. A
`DeletionPhase` says how far a deletion has got, and `deletionMonitor` which request may come
next.

* `rounds_keep_deletion_order` — every run of the main loop is a sequence of whole
  deletions: one node at a time, nothing evicted or terminated without its taint, nothing
  evicted after the termination, no group resized in between, and none left before the node
  was registered or its release was asked for. The release itself may fail: the taint then
  stays, and the next node is begun all the same;
* `rounds_register_terminations` — the registry hears of every accepted termination
  once, and of nothing else;
* `rounds_registry_grows` — and it keeps all it has heard;
* `drainNode_evicts_once` — within a drain no pod is evicted again after its eviction
  was granted.
-/

namespace AutoNodeRepair

open Interact Prog

/-! ## The protocol -/

/-- The node with the taint of the time `t`. -/
def Node.marked (node : Node) (t : Time) : Node :=
  { node with taints := node.taints ++ [⟨toBeDeletedTaint, toString (unix t), "NoSchedule"⟩] }

/-- The node without the taint. -/
def Node.released (node : Node) : Node :=
  { node with taints := node.taints.filter fun taint => taint.key != toBeDeletedTaint }

/-- Where the controller is in the deletion of a node. -/
inductive DeletionPhase
  | idle
  /-- the node was fetched, and does not carry the taint -/
  | untainted (name : String) (fresh : Node)
  /-- it is to be written back with the taint of the time `t` -/
  | marking (name : String) (fresh : Node) (t : Time)
  /-- the node carries the taint -/
  | cordoned (name : String)
  /-- its machine was terminated, and is to be registered -/
  | terminated (name : String)
  /-- the deletion has failed, and the node is to be written back without the taint -/
  | releasing (name : String) (fresh : Node)
  deriving DecidableEq, Repr

namespace DeletionPhase

/-- A node is fetched to begin its deletion or to give it up. -/
def fetch : DeletionPhase → String → Except KubeError (Option Node) → Option DeletionPhase
  | .idle, name, .ok (some fresh) =>
      some (if hasToBeDeletedTaint fresh then .cordoned name else .untainted name fresh)
  | .idle, _, _ => some .idle
  | .cordoned node, name, fetched =>
      if name ≠ node then none
      else
        match fetched with
        | .ok (some fresh) =>
            some (if hasToBeDeletedTaint fresh then .releasing name fresh else .idle)
        -- the taint stays: nothing can be done about it here
        | _ => some .idle
  | _, _, _ => none

/-- The clock is read for the taint. Read at other times, it does not matter. -/
def tell : DeletionPhase → Time → DeletionPhase
  | .untainted name fresh, t => .marking name fresh t
  | phase, _ => phase

/-- A node is written back as it was fetched, to set the taint or to release it. -/
def update : DeletionPhase → Node → Except KubeError Unit → Option DeletionPhase
  | .marking name fresh t, node, answer =>
      if node = fresh.marked t then
        match answer with
        | .ok () => some (.cordoned name)
        | .error _ => some .idle
      else none
  | .releasing _ fresh, node, _ => if node = fresh.released then some .idle else none
  | _, _, _ => none

/-- Pods are evicted from the node that carries the taint. -/
def evict : DeletionPhase → Pod → Option DeletionPhase
  | .cordoned name, pod => if pod.nodeName = name then some (.cordoned name) else none
  | _, _ => none

/-- Its machine is terminated. -/
def terminate : DeletionPhase → Except String Unit → Option DeletionPhase
  | .cordoned name, .ok () => some (.terminated name)
  | .cordoned name, .error _ => some (.cordoned name)
  | _, _ => none

/-- A terminated node is registered. -/
def register : DeletionPhase → String → Option DeletionPhase
  | .terminated name, nodeName => if nodeName = name then some .idle else none
  | _, _ => none

/-- The step of the protocol that an exchange is; groups are resized in between only. -/
def step : DeletionPhase → (c : ApiCall) → c.Ans → Option DeletionPhase
  | phase, .now, t => some (phase.tell t)
  | phase, .getNode name, fetched => phase.fetch name fetched
  | phase, .updateNode node, answer => phase.update node answer
  | phase, .evict pod, _ => phase.evict pod
  | phase, .terminateInstance _ _, answer => phase.terminate answer
  | phase, .registerScaleDown _ nodeName _ _, _ => phase.register nodeName
  | phase, .setDesiredCapacity _ _, _ => if phase = .idle then some .idle else none
  | phase, _, _ => some phase

end DeletionPhase

/-- The protocol of a deletion. -/
def deletionMonitor : Monitor Api DeletionPhase where
  step := DeletionPhase.step

/-- The silent questions matter only where the clock is to be read. -/
theorem deletionMonitor_undisturbed {phase : DeletionPhase} (hphase : ∀ t, phase.tell t = phase) :
    Undisturbed deletionMonitor phase := by
  intro c hc r
  cases c with
  | now => exact congrArg some (hphase r)
  | _ => first | rfl | simp [ApiCall.silent] at hc

theorem undisturbed_idle : Undisturbed deletionMonitor .idle :=
  deletionMonitor_undisturbed fun _ => rfl

theorem undisturbed_cordoned (name : String) : Undisturbed deletionMonitor (.cordoned name) :=
  deletionMonitor_undisturbed fun _ => rfl

theorem undisturbed_terminated (name : String) : Undisturbed deletionMonitor (.terminated name) :=
  deletionMonitor_undisturbed fun _ => rfl

namespace DeletionPhase

variable {phase phase' : DeletionPhase}

/-! What each step of the protocol can do. -/

theorem fetch_cases {name : String} {r : Except KubeError (Option Node)}
    (hstep : phase.fetch name r = some phase') :
    phase = .idle ∧ (phase' = .idle ∨ phase' = .cordoned name ∨
        ∃ fresh, r = .ok (some fresh) ∧ hasToBeDeletedTaint fresh = false ∧
          phase' = .untainted name fresh) ∨
      phase = .cordoned name ∧ (phase' = .idle ∨
        ∃ fresh, r = .ok (some fresh) ∧ hasToBeDeletedTaint fresh = true ∧
          phase' = .releasing name fresh) := by
  cases phase with
  | idle =>
      rcases r with err | _ | fresh
      · exact .inl ⟨rfl, .inl (Option.some.inj hstep).symm⟩
      · exact .inl ⟨rfl, .inl (Option.some.inj hstep).symm⟩
      · have hafter := (Option.some.inj hstep).symm
        cases htaint : hasToBeDeletedTaint fresh with
        | true => exact .inl ⟨rfl, .inr (.inl (by simpa [htaint] using hafter))⟩
        | false =>
            exact .inl ⟨rfl, .inr (.inr ⟨fresh, rfl, htaint, by simpa [htaint] using hafter⟩)⟩
  | cordoned node =>
      by_cases hname : name = node
      · subst hname
        simp only [fetch, ne_eq, not_true_eq_false, if_false] at hstep
        rcases r with err | _ | fresh
        · exact .inr ⟨rfl, .inl (Option.some.inj hstep).symm⟩
        · exact .inr ⟨rfl, .inl (Option.some.inj hstep).symm⟩
        · have hafter := (Option.some.inj hstep).symm
          cases htaint : hasToBeDeletedTaint fresh with
          | true => exact .inr ⟨rfl, .inr ⟨fresh, rfl, htaint, by simpa [htaint] using hafter⟩⟩
          | false => exact .inr ⟨rfl, .inl (by simpa [htaint] using hafter)⟩
      · simp [fetch, hname] at hstep
  | _ => simp [fetch] at hstep

theorem update_cases {node : Node} {r : Except KubeError Unit}
    (hstep : phase.update node r = some phase') :
    (∃ name fresh t, phase = .marking name fresh t ∧ node = fresh.marked t ∧
        (phase' = .cordoned name ∨ phase' = .idle)) ∨
      ∃ name fresh, phase = .releasing name fresh ∧ node = fresh.released ∧ phase' = .idle := by
  cases phase with
  | marking name fresh t =>
      obtain ⟨hnode, hafter⟩ := Option.ite_none_right_eq_some.mp hstep
      refine .inl ⟨name, fresh, t, rfl, hnode, ?_⟩
      cases r with
      | ok _ => exact .inl (Option.some.inj hafter).symm
      | error _ => exact .inr (Option.some.inj hafter).symm
  | releasing name fresh =>
      obtain ⟨hnode, hafter⟩ := Option.ite_none_right_eq_some.mp hstep
      exact .inr ⟨name, fresh, rfl, hnode, (Option.some.inj hafter).symm⟩
  | _ => simp [update] at hstep

theorem evict_cases {pod : Pod} (hstep : phase.evict pod = some phase') :
    ∃ name, phase = .cordoned name ∧ phase' = .cordoned name := by
  cases phase with
  | cordoned name =>
      obtain ⟨-, hafter⟩ := Option.ite_none_right_eq_some.mp hstep
      exact ⟨name, rfl, (Option.some.inj hafter).symm⟩
  | _ => simp [evict] at hstep

theorem terminate_cases {r : Except String Unit} (hstep : phase.terminate r = some phase') :
    ∃ name, phase = .cordoned name ∧
      (r = .ok () ∧ phase' = .terminated name ∨ (∃ err, r = .error err) ∧ phase' = phase) := by
  cases phase with
  | cordoned name =>
      cases r with
      | ok _ => exact ⟨name, rfl, .inl ⟨rfl, (Option.some.inj hstep).symm⟩⟩
      | error err => exact ⟨name, rfl, .inr ⟨⟨err, rfl⟩, (Option.some.inj hstep).symm⟩⟩
  | _ => simp [terminate] at hstep

theorem register_cases {nodeName : String} (hstep : phase.register nodeName = some phase') :
    (∃ name, phase = .terminated name) ∧ phase' = .idle := by
  cases phase with
  | terminated name =>
      obtain ⟨-, hafter⟩ := Option.ite_none_right_eq_some.mp hstep
      exact ⟨⟨name, rfl⟩, (Option.some.inj hafter).symm⟩
  | _ => simp [register] at hstep

theorem resize_cases {name : String} {size : Int} {r : Except String Unit}
    (hstep : phase.step (.setDesiredCapacity name size) r = some phase') :
    phase = .idle ∧ phase' = .idle := by
  obtain ⟨hidle, hafter⟩ := Option.ite_none_right_eq_some.mp hstep
  exact ⟨hidle, (Option.some.inj hafter).symm⟩

end DeletionPhase

/-! ## One deletion -/

section

variable {node : Node}

/-- The taint is set on a node that does not carry it yet. -/
theorem addToBeDeletedTaint_follows (fresh : Node) (name : String) :
    (addToBeDeletedTaint fresh).Follows deletionMonitor
      (if hasToBeDeletedTaint fresh then .cordoned name else .untainted name fresh)
      fun r phase =>
        if r.1 then ∃ t, phase = .marking name fresh t ∧ r.2 = fresh.marked t
        else phase = .cordoned name := by
  unfold addToBeDeletedTaint
  cases hfresh : hasToBeDeletedTaint fresh with
  | true => exact Follows.pure rfl
  | false =>
      refine Follows.bind (Q := fun t phase => phase = .marking name fresh t)
        (Follows.call fun t => ⟨_, rfl, rfl⟩) ?_
      rintro t _ rfl
      exact Follows.pure ⟨t, rfl, rfl⟩

/-- `MarkToBeDeleted` cordons the node, or fails and leaves nothing to be done. -/
theorem markToBeDeleted_follows :
    (markToBeDeleted node).Follows deletionMonitor .idle fun r phase =>
      phase = match r with
        | .ok () => .cordoned node.name
        | .error _ => .idle := by
  refine Follows.bind (Q := fun r phase => some phase = DeletionPhase.idle.fetch node.name r)
    (Follows.call fun r => ?_) fun r phase hphase => ?_
  · rcases r with err | _ | fresh <;> exact ⟨_, rfl, rfl⟩
  · rcases r with err | _ | fresh
    · exact Follows.pure (Option.some.inj hphase)
    · exact Follows.pure (Option.some.inj hphase)
    · rw [Option.some.inj hphase]
      refine Follows.bind (addToBeDeletedTaint_follows fresh node.name) ?_
      rintro ⟨added, tainted⟩ phase hadded
      cases added with
      | false => exact Follows.pure hadded
      | true =>
          obtain ⟨t, rfl, rfl⟩ := hadded
          refine Follows.bind (Q := fun r phase => phase = match r with
            | .ok () => .cordoned node.name
            | .error _ => .idle) (Follows.call fun r => ?_) ?_
          · refine ⟨_, ?_, rfl⟩
            have hstep : deletionMonitor.step (.marking node.name fresh t)
                (.updateNode (fresh.marked t)) r =
                  (DeletionPhase.marking node.name fresh t).update (fresh.marked t) r := rfl
            rw [hstep]
            cases r <;> simp [DeletionPhase.update]
          · rintro r _ rfl
            cases r <;> exact Follows.pure rfl

/-- A node is worth writing back exactly if it carries the taint. -/
theorem release_shortens_iff (node : Node) :
    (node.taints.filter fun taint => taint.key != toBeDeletedTaint).length ≠ node.taints.length ↔
      hasToBeDeletedTaint node = true := by
  rw [Ne, List.length_filter_eq_length_iff, hasToBeDeletedTaint, List.any_eq_true]
  simp

/-- `CleanToBeDeleted` ends the deletion, whatever comes of it. -/
theorem cleanToBeDeleted_follows :
    (cleanToBeDeleted node).Follows deletionMonitor (.cordoned node.name)
      fun _ phase => phase = .idle := by
  refine Follows.bind (Q := fun r phase => phase = match r with
      | .ok (some fresh) => if hasToBeDeletedTaint fresh then .releasing node.name fresh else .idle
      | _ => .idle) (Follows.call fun r => ?_) ?_
  · refine ⟨_, ?_, rfl⟩
    have hstep : deletionMonitor.step (.cordoned node.name) (.getNode node.name) r =
        (DeletionPhase.cordoned node.name).fetch node.name r := rfl
    rw [hstep]
    rcases r with err | _ | fresh <;> simp [DeletionPhase.fetch]
  · rintro r _ rfl
    rcases r with err | _ | fresh
    · exact Follows.pure rfl
    · exact Follows.pure rfl
    · cases htaint : hasToBeDeletedTaint fresh with
      | true =>
          have hshorter := (release_shortens_iff fresh).mpr htaint
          simp only [htaint, hshorter, ne_eq, not_false_eq_true, if_true]
          refine Follows.bind (Q := fun _ phase => phase = .idle) (Follows.call fun r => ?_) ?_
          · refine ⟨.idle, ?_, rfl⟩
            have hstep : deletionMonitor.step (.releasing node.name fresh)
                (.updateNode fresh.released) r =
                  (DeletionPhase.releasing node.name fresh).update fresh.released r := rfl
            exact hstep.trans (if_pos rfl)
          · rintro r _ rfl
            cases r <;> exact Follows.pure rfl
      | false =>
          have hsame := mt (release_shortens_iff fresh).mp (by simp [htaint])
          simp only [htaint, hsame, Bool.false_eq_true, if_false]
          exact Follows.pure rfl

/-- The drain stays with the node. -/
theorem evictsBy_cordoned (wait : Duration) (name : String) :
    EvictsBy deletionMonitor wait fun es phase =>
      phase = .cordoned name ∧ ∀ e ∈ es, e.pod.nodeName = name where
  silent := by
    rintro _ _ ⟨rfl, -⟩
    exact undisturbed_cordoned name
  attempt := by
    rintro es _ i e ⟨rfl, hes⟩ hget
    have hown : e.pod.nodeName = name := hes e (List.mem_of_getElem? hget)
    have hstep : ∀ r, deletionMonitor.step (.cordoned name) (.evict e.pod) r =
        some (.cordoned name) := fun r => if_pos hown
    refine evictAttempt_follows wait (fun r _ => ⟨_, hstep r, rfl, ?_⟩)
      fun r _ => ⟨_, hstep r, undisturbed_cordoned name, fun e' he' => ⟨rfl, ?_⟩⟩
    · exact fun x hx => hes x (List.mem_of_mem_eraseIdx hx)
    · intro x hx
      rcases List.mem_or_eq_of_mem_set hx with hx | rfl
      · exact hes x hx
      · exact he' ▸ hown
  givesUp := fun es phase i hes => ⟨hes.1, fun x hx => hes.2 x (List.mem_of_mem_eraseIdx hx)⟩

/-- A single reference is terminated by a single request. -/
theorem terminateInstances_follows (dec : Bool) (ref : AwsRef) (name : String) :
    (terminateInstances dec [ref]).Follows deletionMonitor (.cordoned name) fun r phase =>
      phase = match r with
        | .ok () => .terminated name
        | .error _ => .cordoned name := by
  refine (undisturbed_cordoned _).bind (Silent.findForInstance ref) fun r => ?_
  split
  · exact Follows.pure rfl
  · refine (undisturbed_cordoned _).bind (Silent.checkCommonAsg _ _) fun r => ?_
    split
    · exact Follows.pure rfl
    · refine Follows.bind (Q := fun r phase => phase = match r with
        | .ok () => .terminated name
        | .error _ => .cordoned name) (Follows.call fun r => ?_) ?_
      · cases r <;> exact ⟨_, rfl, rfl⟩
      · rintro r _ rfl
        cases r <;> exact Follows.pure rfl

/-- `Asg.DeleteNodes` on one node. -/
theorem deleteNodes_single_follows (asg : Asg) :
    (asg.deleteNodes [node]).Follows deletionMonitor (.cordoned node.name) fun r phase =>
      phase = match r with
        | .ok () => .terminated node.name
        | .error _ => .cordoned node.name := by
  refine (undisturbed_cordoned _).bind (Silent.getAsgSize asg) fun size => ?_
  split
  · exact Follows.pure rfl
  · refine Follows.bind (Q := fun r phase => phase = .cordoned node.name ∧
      ∀ refs, r = .ok refs → ∃ ref, refs = [ref]) ?_ ?_
    · refine (undisturbed_cordoned _).bind (Silent.belongs asg node) fun r => ?_
      split
      · exact Follows.pure ⟨rfl, nofun⟩
      · exact Follows.pure ⟨rfl, nofun⟩
      · split
        · exact Follows.pure ⟨rfl, nofun⟩
        · exact Follows.pure ⟨rfl, fun refs hrefs => ⟨_, (Except.ok.inj hrefs).symm⟩⟩
    · rintro r _ ⟨rfl, hsingle⟩
      split
      · exact Follows.pure rfl
      · rename_i refs
        obtain ⟨ref, rfl⟩ := hsingle refs rfl
        exact Follows.ite (terminateInstances_follows false ref _)
          (terminateInstances_follows true ref _)

/-- A terminated machine is registered at once. -/
theorem deleteNodeFromCloudProvider_follows :
    (deleteNodeFromCloudProvider node).Follows deletionMonitor (.cordoned node.name)
      fun r phase => phase = match r with
        | .ok () => .idle
        | .error _ => .cordoned node.name := by
  refine (undisturbed_cordoned _).bind (Silent.nodeGroupForNode node) fun r => ?_
  split
  · exact Follows.pure rfl
  · exact Follows.pure rfl
  · refine Follows.bind (deleteNodes_single_follows _) ?_
    rintro r _ rfl
    cases r with
    | error err => exact Follows.pure rfl
    | ok _ =>
        refine (undisturbed_terminated _).bind (Silent.ask .now rfl) fun t => ?_
        refine (undisturbed_terminated _).bind (Silent.ask .now rfl) fun t' => ?_
        refine Follows.bind (Q := fun _ phase => phase = .idle)
          (Follows.call fun r => ⟨_, if_pos rfl, rfl⟩) ?_
        rintro _ _ rfl
        exact Follows.pure rfl

/-- A deletion is whole whatever comes of it. -/
theorem deleteNode_follows (maxGrace : Int) {pods : List Pod}
    (hpods : ∀ pod ∈ pods, pod.nodeName = node.name) :
    (deleteNode maxGrace node pods).Follows deletionMonitor .idle
      fun _ phase => phase = .idle := by
  refine Follows.bind markToBeDeleted_follows ?_
  rintro r _ rfl
  cases r with
  | error err => exact Follows.pure rfl
  | ok _ =>
      refine Follows.bind (Q := fun r phase => phase = match r with
        | .ok () => .idle
        | .error _ => .cordoned node.name) ?_ ?_
      · refine Follows.bind ((evictsBy_cordoned evictionRetryTime node.name).drainNode node _ _
          fun retries => ⟨rfl, ?_⟩) ?_
        · intro e he
          obtain ⟨pod, hpod, rfl⟩ := List.mem_map.mp he
          exact hpods pod hpod
        · rintro r _ ⟨es, rfl, -⟩
          cases r with
          | error err => exact Follows.pure rfl
          | ok _ => exact deleteNodeFromCloudProvider_follows
      · rintro r _ rfl
        cases r with
        | error err =>
            exact Follows.bind cleanToBeDeleted_follows fun _ _ hidle => Follows.pure hidle
        | ok _ => exact Follows.pure rfl

end

/-! ## The main loop -/

theorem deletes_idle : Deletes deletionMonitor .idle where
  silent := undisturbed_idle
  resize := fun _ _ _ => rfl
  delete := fun maxGrace _ _ hpods => deleteNode_follows maxGrace hpods

/-- **Every run of the main loop is a sequence of whole deletions**, as far as the requests go,
whatever the outside answers and in whatever order the evictions are confirmed. -/
theorem rounds_keep_deletion_order {W : Type} (h : ApiService W) (a : StaticAutorepair)
    (fuel : Nat) (scanInterval repairPeriod : Duration) (k : Nat) (m : Machine W) :
    deletionMonitor.run .idle ((a.rounds fuel scanInterval repairPeriod k).exec h m).log =
      some .idle := by
  obtain ⟨phase, hrun, hidle⟩ :=
    (deletes_idle.rounds a fuel scanInterval repairPeriod k).accepted h m
  rw [hrun, hidle]

/-! ## Terminations and registrations -/

/-- In this exchange a termination was accepted. -/
def ApiCall.terminates : (c : ApiCall) → c.Ans → Bool
  | .terminateInstance _ _, .ok () => true
  | _, _ => false

def ApiCall.registers : ApiCall → Bool
  | .registerScaleDown .. => true
  | _ => false

/-- The terminations accepted in a log. -/
def acceptedTerminations {W : Type} (log : List (ApiEvent W)) : Nat :=
  log.countP fun e => ApiCall.terminates e.call e.ans

/-- The scale-downs registered in it. -/
def scaleDownRegistrations {W : Type} (log : List (ApiEvent W)) : Nat :=
  log.countP fun e => ApiCall.registers e.call

/-- The registrations that are due in a phase. -/
def DeletionPhase.due : DeletionPhase → Nat
  | .terminated _ => 1
  | _ => 0

namespace DeletionPhase

variable {phase phase' : DeletionPhase}

theorem due_tell (t : Time) : (phase.tell t).due = phase.due := by
  cases phase <;> rfl

/-- A step of the protocol settles what is due, and a termination makes one due. -/
theorem due_of_step {c : ApiCall} {r : c.Ans} (hstep : phase.step c r = some phase') :
    phase.due + (if c.terminates r then 1 else 0) =
      phase'.due + if c.registers then 1 else 0 := by
  cases c with
  | now =>
      cases Option.some.inj hstep
      rw [due_tell]
      rfl
  | getNode name =>
      rcases fetch_cases hstep with ⟨rfl, rfl | rfl | ⟨fresh, -, -, rfl⟩⟩ |
        ⟨rfl, rfl | ⟨fresh, -, -, rfl⟩⟩ <;> rfl
  | updateNode node =>
      rcases update_cases hstep with ⟨name, fresh, t, rfl, -, rfl | rfl⟩ |
        ⟨name, fresh, rfl, -, rfl⟩ <;> rfl
  | evict pod =>
      obtain ⟨name, rfl, rfl⟩ := evict_cases hstep
      rfl
  | terminateInstance id dec =>
      obtain ⟨name, rfl, ⟨rfl, rfl⟩ | ⟨⟨err, rfl⟩, rfl⟩⟩ := terminate_cases hstep <;> rfl
  | registerScaleDown group name t t' =>
      obtain ⟨⟨name, rfl⟩, rfl⟩ := register_cases hstep
      rfl
  | setDesiredCapacity name size =>
      obtain ⟨rfl, rfl⟩ := resize_cases hstep
      rfl
  | _ =>
      cases Option.some.inj hstep
      rfl

/-- In a log the protocol accepts, what is due is what was terminated and not registered. -/
theorem due_of_run {W : Type} :
    ∀ (log : List (ApiEvent W)) (phase phase' : DeletionPhase),
    deletionMonitor.run phase log = some phase' →
      phase.due + acceptedTerminations log = phase'.due + scaleDownRegistrations log := by
  intro log
  induction log with
  | nil =>
      intro phase phase' hrun
      rw [Option.some.inj hrun]
      rfl
  | cons e rest ih =>
      intro phase phase' hrun
      obtain ⟨next, hstep, hrest⟩ := Option.bind_eq_some_iff.mp hrun
      have hhead := due_of_step hstep
      have htail := ih next phase' hrest
      simp only [acceptedTerminations, scaleDownRegistrations, List.countP_cons] at htail ⊢
      omega

end DeletionPhase

/-- **The registry hears of every accepted termination, once**: all along a run of the main
loop at most the last one is not registered yet, and none is left at the end. -/
theorem rounds_register_terminations {W : Type} (h : ApiService W) (a : StaticAutorepair)
    (fuel : Nat) (scanInterval repairPeriod : Duration) (k : Nat) (m : Machine W) :
    let log := ((a.rounds fuel scanInterval repairPeriod k).exec h m).log
    (∀ past, past <+: log →
      scaleDownRegistrations past ≤ acceptedTerminations past ∧
        acceptedTerminations past ≤ scaleDownRegistrations past + 1) ∧
    scaleDownRegistrations log = acceptedTerminations log := by
  intro log
  have hrun : deletionMonitor.run .idle log = some .idle := by
    obtain ⟨phase, hrun, rfl⟩ :=
      (deletes_idle.rounds a fuel scanInterval repairPeriod k).accepted h m
    exact hrun
  refine ⟨?_, ?_⟩
  · rintro past ⟨rest, hsplit⟩
    rw [← hsplit, Monitor.run_append] at hrun
    obtain ⟨phase, hpast, -⟩ := Option.bind_eq_some_iff.mp hrun
    have hdue := DeletionPhase.due_of_run past _ phase hpast
    have hone : phase.due ≤ 1 := by cases phase <;> simp [DeletionPhase.due]
    have hzero : DeletionPhase.idle.due = 0 := rfl
    omega
  · have hdue := DeletionPhase.due_of_run log _ _ hrun
    omega

/-! ## The registry behind the calls -/

/-- What a call of the controller does to the registry. -/
def ClusterStateRegistry.hear (csr : ClusterStateRegistry) : ApiCall → ClusterStateRegistry
  | .registerScaleDown nodeGroupName nodeName time expectedDeleteTime =>
      csr.registerScaleDown ⟨nodeName, nodeGroupName, time, expectedDeleteTime⟩
  | _ => csr

/-- The outside with the registry in it. -/
def withRegistry {W : Type} (h : ApiService W) : ApiService (W × ClusterStateRegistry) :=
  fun w c => ((h w.1 c).1, (h w.1 c).2, w.2.hear c)

/-- The requests registered in a log, in order. -/
def requestsOf {W : Type} (log : List (ApiEvent W)) : List ScaleDownRequest :=
  log.filterMap fun e =>
    match e.call with
    | .registerScaleDown nodeGroupName nodeName time expectedDeleteTime =>
        some ⟨nodeName, nodeGroupName, time, expectedDeleteTime⟩
    | _ => none

theorem requestsOf_length {W : Type} (log : List (ApiEvent W)) :
    (requestsOf log).length = scaleDownRegistrations log := by
  induction log with
  | nil => rfl
  | cons e rest ih =>
      obtain ⟨c, ans, before, after⟩ := e
      unfold requestsOf scaleDownRegistrations at ih ⊢
      cases c <;> simp [ApiCall.registers, ih]

/-- The registry after any code of the controller: more requests, and all else as it was. -/
theorem exec_withRegistry {W α : Type} (h : ApiService W) (p : Ctl α)
    (m : Machine (W × ClusterStateRegistry)) :
    let out := p.exec (withRegistry h) m
    out.mach.world.2 = { m.world.2 with
      scaleDownRequests := m.world.2.scaleDownRequests ++ requestsOf out.log } := by
  induction p generalizing m with
  | ret a => simp [Prog.exec, requestsOf]
  | load next ih => exact ih m.store m
  | save store next ih => exact ih { m with store := store }
  | ask c next ih =>
      have hrest := ih (withRegistry h m.world c).1 { m with world := (withRegistry h m.world c).2 }
      simp only [Prog.exec]
      rw [hrest]
      cases c <;>
        simp [withRegistry, ClusterStateRegistry.hear, requestsOf,
          ClusterStateRegistry.registerScaleDown]

/-- **The registry never forgets.** Nothing in the main loop updates the registry, so that
over any number of rounds it gets one request more for every accepted termination and
loses none, due or not; no other part of it changes. -/
theorem rounds_registry_grows {W : Type} (h : ApiService W) (a : StaticAutorepair) (fuel : Nat)
    (scanInterval repairPeriod : Duration) (k : Nat)
    (m : Machine (W × ClusterStateRegistry)) :
    let out := (a.rounds fuel scanInterval repairPeriod k).exec (withRegistry h) m
    ∃ requests : List ScaleDownRequest,
      out.mach.world.2 = { m.world.2 with
        scaleDownRequests := m.world.2.scaleDownRequests ++ requests } ∧
      requests.length = acceptedTerminations out.log := by
  intro out
  refine ⟨requestsOf out.log, exec_withRegistry h _ m, ?_⟩
  rw [requestsOf_length]
  obtain ⟨phase, hrun, rfl⟩ :=
    (deletes_idle.rounds a fuel scanInterval repairPeriod k).accepted (withRegistry h) m
  have hdue := DeletionPhase.due_of_run out.log _ _ hrun
  omega

/-! ## Evictions -/

/-- No pod whose eviction was granted is evicted again; the state are the granted ones. -/
def evictionMonitor : Monitor Api (List (String × String)) where
  step := fun granted c =>
    match c with
    | .evict pod => fun answer =>
        if pod.key ∈ granted then none
        else some (if evictionGranted answer then pod.key :: granted else granted)
    | _ => fun _ => some granted

theorem evictionMonitor_undisturbed (granted : List (String × String)) :
    Undisturbed evictionMonitor granted := by
  intro c hc r
  cases c <;> first | rfl | simp [ApiCall.silent] at hc

/-- The keys of the pods that the goroutines work on. -/
def evictorKeys (es : List Evictor) : List (String × String) := es.map fun e => e.pod.key

/-- One that goes on for its pod changes nothing in that. -/
theorem evictorKeys_set {es : List Evictor} {i : Nat} {e e' : Evictor} (hget : es[i]? = some e)
    (hpod : e'.pod = e.pod) : evictorKeys (es.set i e') = evictorKeys es := by
  obtain ⟨hlt, rfl⟩ := List.getElem?_eq_some_iff.mp hget
  have hlt' : i < (evictorKeys es).length := by simpa [evictorKeys] using hlt
  have hself : (evictorKeys es)[i] = e'.pod.key := by simp [evictorKeys, hpod]
  rw [evictorKeys, List.map_set, ← hself]
  exact List.set_getElem_self _

/-- One that is done leaves the others, who work on other pods. -/
theorem key_ne_of_mem_eraseIdx {es : List Evictor} {i : Nat} {e x : Evictor}
    (hnodup : (evictorKeys es).Nodup) (hget : es[i]? = some e) (hx : x ∈ es.eraseIdx i) :
    x.pod.key ≠ e.pod.key := by
  obtain ⟨j, hne, hj⟩ := List.mem_eraseIdx_iff_getElem?.mp hx
  intro hsame
  have hlt : j < (evictorKeys es).length := by
    simpa [evictorKeys] using (List.getElem?_eq_some_iff.mp hj).1
  refine hne ((List.getElem?_inj hlt hnodup).mp ?_)
  simp [evictorKeys, hget, hj, hsame]

/-- The goroutines that are left work on different pods, and on none that is granted. -/
theorem evictsBy_once (wait : Duration) :
    EvictsBy evictionMonitor wait fun es granted =>
      (evictorKeys es).Nodup ∧ ∀ e ∈ es, e.pod.key ∉ granted where
  silent := fun _ granted _ => evictionMonitor_undisturbed granted
  attempt := by
    rintro es granted i e ⟨hnodup, hfresh⟩ hget
    have hnot : e.pod.key ∉ granted := hfresh e (List.mem_of_getElem? hget)
    have hstep : ∀ r, evictionMonitor.step granted (.evict e.pod) r =
        some (if evictionGranted r then e.pod.key :: granted else granted) :=
      fun r => if_neg hnot
    refine evictAttempt_follows wait (fun r hr => ⟨_, hstep r, ?_, fun x hx => ?_⟩)
      fun r hr => ⟨_, hstep r, evictionMonitor_undisturbed _, fun e' he' => ⟨?_, fun x hx => ?_⟩⟩
    · exact hnodup.sublist ((List.eraseIdx_sublist es i).map _)
    · simp only [hr, if_true, List.mem_cons, not_or]
      exact ⟨key_ne_of_mem_eraseIdx hnodup hget hx, hfresh x (List.mem_of_mem_eraseIdx hx)⟩
    · rw [EvictTurn.left, evictorKeys_set hget he']
      exact hnodup
    · simp only [hr, Bool.false_eq_true, if_false]
      rcases List.mem_or_eq_of_mem_set hx with hx | rfl
      · exact hfresh x hx
      · exact he' ▸ hnot
  givesUp := fun es _ i hI => ⟨hI.1.sublist ((List.eraseIdx_sublist es i).map _),
    fun x hx => hI.2 x (List.mem_of_mem_eraseIdx hx)⟩

/-- What the monitor accepts has no eviction of a pod that was granted before. -/
theorem evictionMonitor_pairwise {W : Type} :
    ∀ (log : List (ApiEvent W)) (granted : List (String × String)),
    (evictionMonitor.run granted log).isSome = true →
    (∀ e ∈ log, ∀ pod, e.call = .evict pod → pod.key ∉ granted) ∧
    log.Pairwise fun e e' => ∀ pod pod', EvictionGranted pod e → e'.call = .evict pod' →
      pod'.key ≠ pod.key := by
  intro log
  induction log with
  | nil => intro granted _; simp
  | cons e rest ih =>
      intro granted hrun
      obtain ⟨c, ans, before, after⟩ := e
      by_cases hc : ∃ pod, c = .evict pod
      · obtain ⟨pod, rfl⟩ := hc
        by_cases hmem : pod.key ∈ granted
        · simp [Monitor.run, evictionMonitor, hmem] at hrun
        · have hrest : (evictionMonitor.run (if evictionGranted ans then pod.key :: granted
              else granted) rest).isSome = true := by
            simpa [Monitor.run, evictionMonitor, hmem] using hrun
          obtain ⟨hfresh, hpairs⟩ := ih _ hrest
          refine ⟨?_, List.pairwise_cons.mpr ⟨?_, hpairs⟩⟩
          · intro e he pod' hcall
            rcases List.mem_cons.mp he with rfl | he
            · exact ApiCall.evict.inj hcall ▸ hmem
            · intro hin
              refine hfresh e he pod' hcall ?_
              split
              · exact List.mem_cons_of_mem _ hin
              · exact hin
          · rintro e he pod'' pod' ⟨_, _, _, ⟨⟩, hans⟩ hcall hsame
            have hgranted : evictionGranted ans = true := by
              rcases hans with rfl | ⟨err, rfl, hfound⟩
              · rfl
              · exact hfound
            refine hfresh e he pod' hcall ?_
            rw [if_pos hgranted, hsame]
            exact List.mem_cons_self
      · have hstep : evictionMonitor.step granted c ans = some granted := by
          cases c <;> first | rfl | exact absurd ⟨_, rfl⟩ hc
        have hrest : (evictionMonitor.run granted rest).isSome = true := by
          simpa [Monitor.run, hstep] using hrun
        obtain ⟨hfresh, hpairs⟩ := ih granted hrest
        refine ⟨?_, List.pairwise_cons.mpr ⟨?_, hpairs⟩⟩
        · intro e he pod hcall
          rcases List.mem_cons.mp he with rfl | he
          · exact absurd ⟨pod, hcall⟩ hc
          · exact hfresh e he pod hcall
        · rintro e he pod pod' ⟨_, _, _, ⟨⟩, -⟩
          exact absurd ⟨pod, rfl⟩ hc

/-- **No pod is evicted again after its eviction was granted**, in whatever order the
goroutines make their requests. -/
theorem drainNode_evicts_once {W : Type} (h : ApiService W) (node : Node) {pods : List Pod}
    (hpods : (pods.map Pod.key).Nodup) (maxGrace : Int) (maxEviction wait : Duration)
    (m : Machine W) :
    ((drainNode node pods maxGrace maxEviction wait).exec h m).log.Pairwise fun e e' =>
      ∀ pod pod', EvictionGranted pod e → e'.call = .evict pod' → pod'.key ≠ pod.key := by
  obtain ⟨granted, hrun, -⟩ := ((evictsBy_once wait).drainNode (s := []) node maxGrace maxEviction
    fun retries => ⟨by simpa [evictorKeys, Function.comp_def] using hpods, by simp⟩).accepted h m
  exact (evictionMonitor_pairwise _ [] (by rw [hrun]; rfl)).2

/-- Two pods of one name in different namespaces, in the sample cluster. -/
theorem drainNode_evicts_once_sample :
    let pods : List Pod := [⟨"a", "p", "n1", [], [], none, [], [], .running⟩,
      ⟨"b", "p", "n1", [], [], none, [], [], .running⟩]
    (pods.map Pod.key).Nodup ∧
      ((drainNode node1 pods 0 maxPodEvictionTime evictionRetryTime).exec Cluster.sample.service
        sampleMachine).log.Pairwise fun e e' =>
          ∀ pod pod', EvictionGranted pod e → e'.call = .evict pod' → pod'.key ≠ pod.key :=
  ⟨by decide, drainNode_evicts_once Cluster.sample.service node1 (by decide) 0
    maxPodEvictionTime evictionRetryTime sampleMachine⟩

end AutoNodeRepair
