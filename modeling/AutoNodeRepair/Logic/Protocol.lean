import AutoNodeRepair.Interact.Monitor
import AutoNodeRepair.Logic.Drained

/-!
# Protocols of the controller

What a monitor has to know of the controller. Most functions are `Silent`: they look,
wait and compute, and ask nothing that a protocol is about. The others are the eviction,
the taint, the termination with its registration, and the resize. `Deletes` asks of a
monitor what it says of one `deleteNode` and of a resize in between, and its theorems carry
that through the loops up to the rounds of the main program.
-/

namespace AutoNodeRepair

open Interact Prog

/-- The questions that belong to no protocol. -/
def ApiCall.silent : ApiCall → Bool
  | .setDesiredCapacity .. | .terminateInstance .. | .getNode _ | .updateNode _ | .evict _
  | .registerScaleDown .. => false
  | _ => true

/-- The program asks nothing else. -/
abbrev Silent {α : Type} (p : Ctl α) : Prop := p.Asks fun c : ApiCall => c.silent = true

/-! ## The silent functions -/

namespace Silent

theorem ask (c : ApiCall) (hc : c.silent = true) :
    Silent (Prog.call (E := Api) c : Ctl (ApiCall.Ans c)) :=
  Asks.call hc

theorem getAutoscalingGroupByName (name : String) : Silent (getAutoscalingGroupByName name) := by
  refine Asks.bind (ask _ rfl) fun r => ?_
  split <;> exact Asks.pure _

theorem regenerateLoop : ∀ (asgs : List Asg) (newCache : AwsRef → Option Asg),
    Silent (regenerateLoop asgs newCache) := by
  intro asgs
  induction asgs with
  | nil => intro newCache; exact Asks.pure _
  | cons asg rest ih =>
      intro newCache
      refine Asks.bind (getAutoscalingGroupByName asg.name) fun r => ?_
      split
      · exact Asks.pure _
      · exact ih _

theorem regenerateCache : Silent regenerateCache := by
  refine Asks.bind Asks.getStore fun m => ?_
  refine Asks.bind (regenerateLoop _ _) fun r => ?_
  split
  · exact Asks.pure _
  · exact Asks.bind (Asks.setStore _) fun _ => Asks.pure _

theorem findForInstance (ref : AwsRef) : Silent (findForInstance ref) := by
  refine Asks.bind ?_ fun _ => Asks.bind Asks.getStore fun m => ?_
  · refine Asks.bind (ask .hourElapsed rfl) fun elapsed => ?_
    split
    · exact Asks.bind regenerateCache fun _ => Asks.pure _
    · exact Asks.pure _
  · split
    · exact Asks.pure _
    · refine Asks.ite (Asks.pure _) ?_
      refine Asks.bind regenerateCache fun r => ?_
      split
      · exact Asks.pure _
      · refine Asks.bind Asks.getStore fun m => ?_
        split
        · exact Asks.pure _
        · exact Asks.bind (Asks.setStore _) fun _ => Asks.pure _

theorem nodeGroupForNode (node : Node) : Silent (nodeGroupForNode node) := by
  unfold AutoNodeRepair.nodeGroupForNode
  split
  · exact Asks.pure _
  · exact findForInstance _

theorem getAsgSize (asg : Asg) : Silent (getAsgSize asg) := by
  refine Asks.bind (ask _ rfl) fun r => ?_
  split <;> exact Asks.pure _

theorem belongs (asg : Asg) (node : Node) : Silent (asg.belongs node) := by
  unfold Asg.belongs
  split
  · exact Asks.pure _
  · refine Asks.bind (findForInstance _) fun r => ?_
    split
    · exact Asks.pure _
    · exact Asks.pure _
    · exact Asks.ite (Asks.pure _) (Asks.pure _)

theorem checkCommonAsg (commonAsg : Option Asg) :
    ∀ refs : List AwsRef, Silent (checkCommonAsg commonAsg refs) := by
  intro refs
  induction refs with
  | nil => exact Asks.pure _
  | cons ref rest ih =>
      refine Asks.bind (findForInstance ref) fun r => ?_
      split
      · exact Asks.pure _
      · exact Asks.ite (Asks.pure _) ih

theorem nodesOfGroup (desiredAsg : Asg) :
    ∀ l : List Node, Silent (nodesOfGroup desiredAsg l) := by
  intro l
  induction l with
  | nil => exact Asks.pure _
  | cons node rest ih =>
      refine Asks.bind (nodeGroupForNode node) fun r => ?_
      split
      · exact Asks.pure _
      · refine Asks.bind ih fun r => ?_
        split <;> exact Asks.pure _

theorem asgNotReadyNodes (desiredAsg : Asg) (l : List Node) :
    Silent (asgNotReadyNodes desiredAsg l) := by
  refine Asks.bind (nodesOfGroup desiredAsg l) fun r => ?_
  split <;> exact Asks.pure _

theorem listNotReadyNodes : Silent listNotReadyNodes := by
  refine Asks.bind (ask _ rfl) fun r => ?_
  split <;> exact Asks.pure _

theorem asgReadyNodes (desiredAsg : Asg) : Silent (asgReadyNodes desiredAsg) := by
  refine Asks.bind (Asks.bind (ask _ rfl) fun r => ?_) fun ready => ?_
  · split <;> exact Asks.pure _
  · refine Asks.bind (nodesOfGroup desiredAsg ready) fun r => ?_
    split <;> exact Asks.pure _

theorem pollReady (asg : Asg) (goal : Int) :
    ∀ (left : Nat) (currSize : Int), Silent (pollReady asg goal left currSize) := by
  intro left
  induction left with
  | zero => intro currSize; exact Asks.pure _
  | succ left ih =>
      intro currSize
      refine Asks.ite ?_ (Asks.pure _)
      refine Asks.bind (ask _ rfl) fun _ => ?_
      refine Asks.bind (asgReadyNodes asg) fun ready => ?_
      exact Asks.bind (ih _) fun _ => Asks.pure _

theorem pollDeleted (asg : Asg) (goal : Int) :
    ∀ (left : Nat) (currSize : Int), Silent (pollDeleted asg goal left currSize) := by
  intro left
  induction left with
  | zero => intro currSize; exact Asks.pure _
  | succ left ih =>
      intro currSize
      refine Asks.ite ?_ (Asks.pure _)
      refine Asks.bind (ask _ rfl) fun _ => ?_
      exact Asks.bind (getAsgSize asg) fun r => ih r.1

theorem sweepPods :
    ∀ (pods : List Pod) (allGone : Bool), Silent (sweepPods pods allGone) := by
  intro pods
  induction pods with
  | nil => intro allGone; exact Asks.pure _
  | cons pod rest ih =>
      intro allGone
      refine Asks.bind (ask _ rfl) fun r => ?_
      split
      · exact Asks.pure _
      · exact Asks.ite (ih _) (ih _)

theorem awaitGone (start : Time) (limit : Duration) (pods : List Pod) :
    ∀ fuel : Nat, Silent (awaitGone start limit pods fuel) := by
  intro fuel
  induction fuel with
  | zero => exact Asks.pure _
  | succ fuel ih =>
      refine Asks.bind (ask _ rfl) fun t => ?_
      refine Asks.ite ?_ (Asks.pure _)
      refine Asks.bind (sweepPods pods true) fun allGone => ?_
      exact Asks.ite (Asks.pure _) (Asks.bind (ask _ rfl) fun _ => ih)

end Silent

/-! ## Draining -/

/-- The monitor does not mind the silent questions in this state. -/
def Undisturbed {σ : Type} (mon : Monitor Api σ) (s : σ) : Prop :=
  ∀ c : ApiCall, c.silent = true → ∀ r, mon.step s c r = some s

section Draining

variable {σ : Type} {mon : Monitor Api σ} {s : σ}

theorem Undisturbed.follows (hs : Undisturbed mon s) {α : Type} {p : Ctl α} (hp : Silent p) :
    p.Follows mon s fun _ s' => s' = s :=
  Follows.of_asks hp hs

theorem Undisturbed.bind (hs : Undisturbed mon s) {α β : Type} {p : Ctl α} {k : α → Ctl β}
    {R : β → σ → Prop} (hp : Silent p) (hk : ∀ a, (k a).Follows mon s R) :
    (p >>= k).Follows mon s R :=
  Follows.bind_same (hs.follows hp) hk

/-- The eviction of a pod was granted: it was accepted, or the pod is not there. -/
def evictionGranted : Except KubeError Unit → Bool
  | .ok () => true
  | .error err => err.notFound

/-- An attempt is one request; if it is refused, the goroutine goes on for the same pod. -/
theorem evictAttempt_follows {e : Evictor} {Q : EvictTurn → σ → Prop} (wait : Duration)
    (hgranted : ∀ r, evictionGranted r = true →
      ∃ s', mon.step s (.evict e.pod) r = some s' ∧ Q (.confirmed none) s')
    (hrefused : ∀ r, evictionGranted r = false →
      ∃ s', mon.step s (.evict e.pod) r = some s' ∧ Undisturbed mon s' ∧
        ∀ e' : Evictor, e'.pod = e.pod → Q (.running e') s') :
    (evictAttempt wait e).Follows mon s Q := by
  refine Follows.bind (Q := fun r s' => (evictionGranted r = true → Q (.confirmed none) s') ∧
    (evictionGranted r = false →
      Undisturbed mon s' ∧ ∀ e' : Evictor, e'.pod = e.pod → Q (.running e') s')) ?_ ?_
  · refine Follows.call fun r => ?_
    cases hr : evictionGranted r with
    | true =>
        obtain ⟨s', hstep, hQ⟩ := hgranted r hr
        exact ⟨s', hstep, fun _ => hQ, nofun⟩
    | false =>
        obtain ⟨s', hstep, hgoes⟩ := hrefused r hr
        exact ⟨s', hstep, nofun, fun _ => hgoes⟩
  · rintro r s' ⟨hconfirmed, hrunning⟩
    split
    · exact Follows.pure (hconfirmed rfl)
    · rename_i err
      cases hfound : err.notFound with
      | true => exact Follows.pure (hconfirmed hfound)
      | false =>
          obtain ⟨hs', hQ⟩ := hrunning hfound
          exact hs'.bind (Silent.ask (.sleep wait) rfl) fun _ => Follows.pure (hQ _ rfl)

/-- What the goroutines do to a monitor, one request at a time: `I` relates those that are
still running to its state. -/
structure EvictsBy (mon : Monitor Api σ) (wait : Duration) (I : List Evictor → σ → Prop) :
    Prop where
  silent : ∀ es s, I es s → Undisturbed mon s
  attempt : ∀ es s i e, I es s → es[i]? = some e →
    (evictAttempt wait e).Follows mon s fun turn s' => I (turn.left es i) s'
  givesUp : ∀ es s i, I es s → I (es.eraseIdx i) s

namespace EvictsBy

variable {wait : Duration} {I : List Evictor → σ → Prop}

/-- A turn of a goroutine is an attempt, or none when its time is over. -/
theorem evictTurn (he : EvictsBy mon wait I) (retryUntil : Time) {es : List Evictor} {i : Nat}
    {e : Evictor} (hI : I es s) (hget : es[i]? = some e) :
    (evictTurn retryUntil wait e).Follows mon s fun turn s' => I (turn.left es i) s' := by
  refine Follows.ite (he.attempt es s i e hI hget) ?_
  refine (he.silent es s hI).bind (Silent.ask .now rfl) fun t => ?_
  exact Follows.ite (he.attempt es s i e hI hget) (Follows.pure (he.givesUp es s i hI))

/-- Every interleaving of the goroutines keeps what one attempt keeps. -/
theorem collectConfirmations (he : EvictsBy mon wait I) (retryUntil : Time) :
    ∀ (fuel : Nat) (es : List Evictor) (errs : List String) (s : σ), I es s →
    (collectConfirmations retryUntil wait fuel es errs).Follows mon s
      fun _ s' => ∃ es', I es' s' := by
  intro fuel
  induction fuel with
  | zero =>
      intro es errs s hI
      cases es <;> exact Follows.pure ⟨_, hI⟩
  | succ fuel ih =>
      intro es errs s hI
      cases es with
      | nil => exact Follows.pure ⟨_, hI⟩
      | cons e0 rest =>
          refine (he.silent _ s hI).bind (Silent.ask (.schedule _) rfl) fun next => ?_
          split
          · exact Follows.pure ⟨_, hI⟩
          · split
            · exact Follows.pure ⟨_, hI⟩
            · rename_i i e hget
              refine Follows.bind (he.evictTurn retryUntil hI hget) fun turn s' hI' => ?_
              split
              · exact ih _ _ s' hI'
              · exact ih _ _ s' hI'
              · exact ih _ _ s' hI'

/-- After the confirmations come only silent questions. -/
theorem drainNode (he : EvictsBy mon wait I) (node : Node) {pods : List Pod} (maxGrace : Int)
    (maxEviction : Duration)
    (hstart : ∀ retries, I (pods.map fun pod => (⟨pod, true, retries, ""⟩ : Evictor)) s) :
    (drainNode node pods maxGrace maxEviction wait).Follows mon s fun _ s' => ∃ es, I es s' := by
  refine (he.silent _ s (hstart 0)).bind (Silent.ask .now rfl) fun t => ?_
  refine Follows.bind (he.collectConfirmations _ _ _ _ s (hstart _)) ?_
  rintro errs s' ⟨es, hI⟩
  split
  · exact Follows.pure ⟨es, hI⟩
  · exact Follows.pure ⟨es, hI⟩
  · refine (he.silent es s' hI).bind (Silent.ask .now rfl) fun start => ?_
    refine (he.silent es s' hI).bind (Silent.awaitGone _ _ _ _) fun allGone => ?_
    exact Follows.ite (Follows.pure ⟨es, hI⟩) (Follows.pure ⟨es, hI⟩)

end EvictsBy

end Draining

/-! ## From one deletion to the rounds -/

/-- The monitor rests in `idle`: the silent questions and the resizes leave it there, and
a whole deletion brings it back. -/
structure Deletes {σ : Type} (mon : Monitor Api σ) (idle : σ) : Prop where
  silent : Undisturbed mon idle
  resize : ∀ name size r, mon.step idle (.setDesiredCapacity name size) r = some idle
  delete : ∀ maxGrace node pods, (∀ pod ∈ pods, pod.nodeName = node.name) →
    (deleteNode maxGrace node pods).Follows mon idle fun _ s => s = idle

namespace Deletes

variable {σ : Type} {mon : Monitor Api σ} {idle : σ}

/-- The batch loop, on a map that files only pods of the node under its name. -/
theorem deleteLoop (hd : Deletes mon idle) (a : StaticAutorepair)
    (pdbs : List PodDisruptionBudget) {infos : String → Option (List Pod)}
    (hinfos : ∀ name nodePods, infos name = some nodePods →
      ∀ pod ∈ nodePods, pod.nodeName = name) :
    ∀ l : List Node, (a.deleteLoop pdbs infos l).Follows mon idle fun _ s => s = idle := by
  intro l
  induction l with
  | nil => exact Follows.pure rfl
  | cons node rest ih =>
      unfold StaticAutorepair.deleteLoop
      cases hinfo : infos node.name with
      | none => exact ih
      | some nodePods =>
          refine Follows.bind (Q := fun r s => s = idle ∧ ∀ pods, r = .ok pods →
            ∀ pod ∈ pods, pod.nodeName = node.name) ?_ ?_
          · rw [detailedGetPodsForMove_eq]
            refine hd.silent.bind (Silent.ask .now rfl) fun t => ?_
            refine Follows.pure ⟨rfl, fun pods hpods pod hpod => ?_⟩
            exact hinfos node.name nodePods hinfo pod (movablePods_subset hpods hpod)
          · rintro r s ⟨hs, hown⟩
            subst hs
            split
            · exact ih
            · rename_i pods
              refine Follows.bind_same (hd.delete _ node pods (hown pods rfl)) fun r => ?_
              split
              · exact Follows.pure rfl
              · exact ih

theorem deleteNodes (hd : Deletes mon idle) (a : StaticAutorepair) (asg : Asg) (l : List Node) :
    (a.deleteNodes asg l).Follows mon idle fun _ s => s = idle := by
  refine hd.silent.bind (Silent.getAsgSize asg) fun prev => ?_
  refine hd.silent.bind (Silent.getAsgSize asg) fun curr => ?_
  refine hd.silent.bind (Silent.ask .listPodDisruptionBudgets rfl) fun pdbs => ?_
  refine hd.silent.bind (Silent.ask .listScheduledPods rfl) fun scheduled => ?_
  refine Follows.bind_same (hd.deleteLoop a _ (createNodeNameToInfoMap_pods _ l) l) fun done => ?_
  exact Follows.ite (hd.silent.follows (Silent.pollDeleted asg _ _ _)) (Follows.pure rfl)

theorem increaseSizeReport (hd : Deletes mon idle) (asg : Asg) (incSize : Int) :
    (increaseSizeReport asg incSize).Follows mon idle fun _ s => s = idle := by
  refine hd.silent.bind (Silent.asgReadyNodes asg) fun ready => ?_
  refine Follows.bind_same ?_ fun r => ?_
  · refine Follows.ite (Follows.pure rfl) ?_
    refine hd.silent.bind (Silent.getAsgSize asg) fun size => ?_
    split
    · exact Follows.pure rfl
    · exact Follows.ite (Follows.pure rfl) (Follows.call fun r => ⟨_, hd.resize _ _ r, rfl⟩)
  · split
    · exact Follows.pure rfl
    · exact hd.silent.bind (Silent.pollReady asg _ _ _) fun polls => Follows.pure rfl

theorem repairBatch (hd : Deletes mon idle) (a : StaticAutorepair) (asg : Asg) (l : List Node)
    (desiredSize : Int) :
    (a.repairBatch asg l desiredSize).Follows mon idle fun _ s => s = idle := by
  refine Follows.ite ?_ ?_
  · refine Follows.bind_same (hd.deleteNodes a asg _) fun _ => ?_
    exact Follows.bind_same (hd.increaseSizeReport asg _) fun report => Follows.pure rfl
  · refine hd.silent.bind (Asks.bind (Silent.getAsgSize asg) fun _ => Asks.pure _) fun inc => ?_
    refine Follows.ite (Follows.pure rfl) ?_
    refine Follows.bind_same (hd.increaseSizeReport asg _) fun report => ?_
    exact Follows.bind_same (hd.deleteNodes a asg _) fun _ => Follows.pure rfl

/-- The recursion ends between two batches, also when it crashes or runs out of fuel. -/
theorem asgRepairNodes (hd : Deletes mon idle) (a : StaticAutorepair) (asg : Asg) :
    ∀ (fuel : Nat) (l : List Node),
    (a.asgRepairNodes fuel asg l).Follows mon idle fun _ s => s = idle := by
  intro fuel
  induction fuel with
  | zero => intro l; exact Follows.pure rfl
  | succ fuel ih =>
      intro l
      refine hd.silent.bind (Silent.getAsgSize asg) fun size => ?_
      cases l with
      | nil => exact Follows.pure rfl
      | cons node rest =>
          refine Follows.bind_same (hd.repairBatch a asg _ _) fun report => ?_
          cases report with
          | panicked incSize => exact Follows.pure rfl
          | deletedFirst increase => exact ih _
          | increasedFirst incSize increase => exact ih _

theorem repairLoop (hd : Deletes mon idle) (a : StaticAutorepair) (fuel : Nat) (l : List Node) :
    ∀ asgs : List Asg, (a.repairLoop fuel l asgs).Follows mon idle fun _ s => s = idle := by
  intro asgs
  induction asgs with
  | nil => exact Follows.pure rfl
  | cons asg rest ih =>
      refine hd.silent.bind (Silent.asgNotReadyNodes asg l) fun nodes => ?_
      refine Follows.bind_same (hd.asgRepairNodes a asg fuel _) fun exit => ?_
      cases exit with
      | done => exact Follows.bind_same ih fun later => Follows.pure rfl
      | panicked => exact Follows.pure rfl
      | outOfFuel => exact Follows.pure rfl

theorem runOnce (hd : Deletes mon idle) (a : StaticAutorepair) (fuel : Nat)
    (repairtime : Duration) :
    (a.runOnce fuel repairtime).Follows mon idle fun _ s => s = idle := by
  refine hd.silent.bind Silent.listNotReadyNodes fun notReady => ?_
  refine Follows.ite (Follows.pure rfl) ?_
  refine hd.silent.bind (Silent.ask (.sleep repairtime) rfl) fun _ => ?_
  refine hd.silent.bind Silent.listNotReadyNodes fun stillNotReady => ?_
  refine Follows.ite (Follows.bind_same ?_ fun report => ?_) (Follows.pure rfl)
  · refine hd.silent.bind (Asks.bind Asks.getStore fun _ => Asks.pure _) fun asgs => ?_
    exact hd.repairLoop a fuel _ asgs
  · split
    · exact hd.silent.bind (Silent.ask (.sleep minute) rfl) fun _ => Follows.pure rfl
    · exact Follows.pure rfl

theorem rounds (hd : Deletes mon idle) (a : StaticAutorepair) (fuel : Nat)
    (scanInterval repairPeriod : Duration) :
    ∀ k : Nat, (a.rounds fuel scanInterval repairPeriod k).Follows mon idle
      fun _ s => s = idle := by
  intro k
  induction k with
  | zero => exact Follows.pure rfl
  | succ k ih =>
      refine hd.silent.bind (Silent.ask (.sleep scanInterval) rfl) fun _ => ?_
      refine Follows.bind_same (hd.runOnce a fuel repairPeriod) fun report => ?_
      split
      · exact Follows.bind_same ih fun later => Follows.pure rfl
      · exact Follows.pure rfl

end Deletes

end AutoNodeRepair
