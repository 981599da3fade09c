import AutoNodeRepair.Logic.GroupOps
import AutoNodeRepair.Logic.PodFilter

/-!
# The invariant rule of the controller

Most of the controller only looks. `Looks`, `Evicts`, `Drains`, `Removes` and
`Kept` collect, one on top of the other, what has to be checked of the few
operations that do more: the cache lookup, the eviction, the taint, the
termination and the resize. The theorems below carry it through every function
up to `RunOnce`, loop by loop.
-/

namespace AutoNodeRepair

open Interact

/-- The questions that neither change anything outside the process nor belong to
the work on one node. -/
def ApiCall.quiet : ApiCall → Bool
  | .setDesiredCapacity .. | .terminateInstance .. | .getNode _ | .updateNode _ | .evict _ =>
      false
  | _ => true

theorem ApiCall.quiet_of_looksUp {c : ApiCall} (hc : c.looksUp = true) : c.quiet = true := by
  cases c <;> simp_all [looksUp, quiet]

/-- Looking keeps `Inv`, and its exchanges satisfy `Ok`. -/
structure Looks {W : Type} (h : ApiService W) (Inv : Machine W → Prop)
    (Ok : ApiEvent W → Prop) : Prop where
  quiet : ∀ c : ApiCall, c.quiet = true → ∀ m, Inv m →
    Inv { m with world := (h m.world c).2 } ∧ Ok (Service.event h m.world c)
  find : ∀ ref, Keeps h Inv Ok (findForInstance ref)

/-- So does evicting, from the nodes satisfying `nodes`. -/
structure Evicts {W : Type} (h : ApiService W) (Inv : Machine W → Prop)
    (Ok : ApiEvent W → Prop) (nodes : Node → Prop) : Prop extends Looks h Inv Ok where
  evict : ∀ node pod, nodes node → pod.nodeName = node.name → Keeps h Inv Ok (evict pod)

/-- So does tainting them. -/
structure Drains {W : Type} (h : ApiService W) (Inv : Machine W → Prop)
    (Ok : ApiEvent W → Prop) (nodes : Node → Prop) : Prop extends Evicts h Inv Ok nodes where
  mark : ∀ node, nodes node → Keeps h Inv Ok (markToBeDeleted node)
  clean : ∀ node, nodes node → Keeps h Inv Ok (cleanToBeDeleted node)

/-- So does terminating them, in the groups satisfying `groups`. -/
structure Removes {W : Type} (h : ApiService W) (Inv : Machine W → Prop)
    (Ok : ApiEvent W → Prop) (groups : Asg → Prop) (nodes : Node → Prop) : Prop
    extends Drains h Inv Ok nodes where
  found : ∀ ref m, Inv m → ∀ asg,
    ((findForInstance ref).exec h m).val = .ok (some asg) → groups asg
  remove : ∀ asg node, groups asg → nodes node → Keeps h Inv Ok (asg.deleteNodes [node])

/-- So does growing those groups, which include the registered ones. -/
structure Kept {W : Type} (h : ApiService W) (Inv : Machine W → Prop)
    (Ok : ApiEvent W → Prop) (groups : Asg → Prop) (nodes : Node → Prop) : Prop
    extends Removes h Inv Ok groups nodes where
  registered : ∀ m, Inv m → ∀ asg ∈ m.store.registeredAsgs, groups asg
  grow : ∀ asg incSize, groups asg → Keeps h Inv Ok (asg.increaseSize incSize)

/-! ## Values that only get smaller -/

/-- The nodes of a group are among the nodes looked up. -/
theorem nodesOfGroup_sublist {W : Type} (h : ApiService W) (desiredAsg : Asg) :
    ∀ (l : List Node) (m : Machine W) (nodes : List Node),
    ((nodesOfGroup desiredAsg l).exec h m).val = .ok nodes → nodes.Sublist l := by
  intro l
  induction l with
  | nil =>
      intro m nodes hval
      simp only [nodesOfGroup, exec_pure, Except.ok.injEq] at hval
      rw [← hval]
  | cons node rest ih =>
      intro m nodes hval
      simp only [nodesOfGroup, exec_bind, Outcome.after_val] at hval
      cases hfind : ((nodeGroupForNode node).exec h m).val with
      | error err => simp [hfind] at hval
      | ok asg =>
          rw [hfind] at hval
          simp only [exec_bind, Outcome.after_val] at hval
          cases hrest : ((nodesOfGroup desiredAsg rest).exec h
              ((nodeGroupForNode node).exec h m).mach).val with
          | error err => simp [hrest] at hval
          | ok later =>
              rw [hrest] at hval
              simp only [exec_pure, Except.ok.injEq] at hval
              have hsub := ih _ later hrest
              rw [← hval]
              split
              · exact hsub.cons_cons node
              · exact hsub.cons node

/-- `AsgNotReadyNodes` hands on a sublist, also when it fails. -/
theorem asgNotReadyNodes_sublist {W : Type} (h : ApiService W) (desiredAsg : Asg)
    (l : List Node) (m : Machine W) :
    (((asgNotReadyNodes desiredAsg l).exec h m).val.1).Sublist l := by
  simp only [asgNotReadyNodes, exec_bind, Outcome.after_val]
  cases hval : ((nodesOfGroup desiredAsg l).exec h m).val with
  | error err => simp
  | ok nodes => exact nodesOfGroup_sublist h desiredAsg l m nodes hval

/-! ## Looking -/

namespace Looks

variable {W : Type} {h : ApiService W} {Inv : Machine W → Prop} {Ok : ApiEvent W → Prop}

theorem ask (hk : Looks h Inv Ok) (c : ApiCall) (hc : c.quiet = true) :
    Keeps h Inv Ok (Prog.call (E := Api) c : Ctl (ApiCall.Ans c)) :=
  Keeps.call (hk.quiet c hc)

theorem nodeGroupForNode (hk : Looks h Inv Ok) (node : Node) :
    Keeps h Inv Ok (nodeGroupForNode node) := by
  unfold AutoNodeRepair.nodeGroupForNode
  split
  · exact Keeps.pure _
  · exact hk.find _

theorem getAsgSize (hk : Looks h Inv Ok) (asg : Asg) :
    Keeps h Inv Ok (getAsgSize asg) := by
  refine Keeps.bind (hk.ask _ rfl) fun r => ?_
  split <;> exact Keeps.pure _

theorem nodesOfGroup (hk : Looks h Inv Ok) (desiredAsg : Asg) (l : List Node) :
    Keeps h Inv Ok (nodesOfGroup desiredAsg l) := by
  induction l with
  | nil => exact Keeps.pure _
  | cons node rest ih =>
      refine Keeps.bind (hk.nodeGroupForNode node) fun r => ?_
      split
      · exact Keeps.pure _
      · refine Keeps.bind ih fun r => ?_
        split <;> exact Keeps.pure _

theorem asgNotReadyNodes (hk : Looks h Inv Ok) (desiredAsg : Asg)
    (l : List Node) : Keeps h Inv Ok (asgNotReadyNodes desiredAsg l) := by
  refine Keeps.bind (hk.nodesOfGroup desiredAsg l) fun r => ?_
  split <;> exact Keeps.pure _

theorem listReadyNodes (hk : Looks h Inv Ok) :
    Keeps h Inv Ok listReadyNodes := by
  refine Keeps.bind (hk.ask _ rfl) fun r => ?_
  split <;> exact Keeps.pure _

theorem listNotReadyNodes (hk : Looks h Inv Ok) :
    Keeps h Inv Ok listNotReadyNodes := by
  refine Keeps.bind (hk.ask _ rfl) fun r => ?_
  split <;> exact Keeps.pure _

theorem asgReadyNodes (hk : Looks h Inv Ok) (desiredAsg : Asg) :
    Keeps h Inv Ok (asgReadyNodes desiredAsg) := by
  refine Keeps.bind hk.listReadyNodes fun readyNodes => ?_
  refine Keeps.bind (hk.nodesOfGroup desiredAsg readyNodes) fun r => ?_
  split <;> exact Keeps.pure _

theorem calcExpandSize (hk : Looks h Inv Ok) (asg : Asg) (l : List Node) :
    Keeps h Inv Ok (calcExpandSize asg l) :=
  Keeps.bind (hk.getAsgSize asg) fun _ => Keeps.pure _

theorem pollReady (hk : Looks h Inv Ok) (asg : Asg) (goal : Int) :
    ∀ (left : Nat) (currSize : Int), Keeps h Inv Ok (pollReady asg goal left currSize) := by
  intro left
  induction left with
  | zero => intro currSize; exact Keeps.pure _
  | succ left ih =>
      intro currSize
      unfold AutoNodeRepair.pollReady
      refine Keeps.ite ?_ (Keeps.pure _)
      refine Keeps.bind (hk.ask _ rfl) fun _ => ?_
      refine Keeps.bind (hk.asgReadyNodes asg) fun r => ?_
      exact Keeps.bind (ih _) fun _ => Keeps.pure _

theorem pollDeleted (hk : Looks h Inv Ok) (asg : Asg) (goal : Int) :
    ∀ (left : Nat) (currSize : Int), Keeps h Inv Ok (pollDeleted asg goal left currSize) := by
  intro left
  induction left with
  | zero => intro currSize; exact Keeps.pure _
  | succ left ih =>
      intro currSize
      unfold AutoNodeRepair.pollDeleted
      refine Keeps.ite ?_ (Keeps.pure _)
      refine Keeps.bind (hk.ask _ rfl) fun _ => ?_
      exact Keeps.bind (hk.getAsgSize asg) fun r => ih r.1

/-- Looking asks quiet questions only, whatever the outside. -/
theorem quiet_only (h : ApiService W) :
    Looks h (fun _ => True) (fun e => e.call.quiet = true) where
  quiet := fun _ hc _ _ => ⟨trivial, hc⟩
  find := by
    intro ref
    refine (findForInstance_closed (everywhere_closed h) ref).weaken_events ?_
    rintro e ⟨w, c, -, hc, rfl⟩
    exact ApiCall.quiet_of_looksUp hc

/-- Tainting keeps what fetching the node and writing it back with other taints
keep; `fresh` is what is known of the node fetched. -/
theorem markToBeDeleted (hk : Looks h Inv Ok) {node : Node} {fresh : Node → Prop}
    (hget : Triple h Inv Ok (getNode node.name)
      fun r m => Inv m ∧ ∀ n, r = .ok (some n) → fresh n)
    (hupdate : ∀ n taints, fresh n → Keeps h Inv Ok (updateNode { n with taints := taints })) :
    Keeps h Inv Ok (markToBeDeleted node) := by
  refine Triple.bind_val hget fun r hfresh => ?_
  split
  · exact Keeps.pure _
  · exact Keeps.pure _
  · rename_i n
    unfold addToBeDeletedTaint
    split
    · exact Keeps.pure _
    · refine Triple.bind_val (R := Inv) (Q := fun r => ∃ taints, r = (true, { n with taints }))
        (Triple.bind (hk.ask .now rfl) fun t => Triple.pure _ fun m hm => ⟨hm, _, rfl⟩) ?_
      rintro _ ⟨taints, rfl⟩
      refine Keeps.bind (hupdate n taints (hfresh n rfl)) fun r => ?_
      split <;> exact Keeps.pure _

theorem cleanToBeDeleted {node : Node} {fresh : Node → Prop}
    (hget : Triple h Inv Ok (getNode node.name)
      fun r m => Inv m ∧ ∀ n, r = .ok (some n) → fresh n)
    (hupdate : ∀ n taints, fresh n → Keeps h Inv Ok (updateNode { n with taints := taints })) :
    Keeps h Inv Ok (cleanToBeDeleted node) := by
  refine Triple.bind_val hget fun r hfresh => ?_
  split
  · exact Keeps.pure _
  · exact Keeps.pure _
  · rename_i n
    refine Keeps.ite ?_ (Keeps.pure _)
    refine Keeps.bind (hupdate n _ (hfresh n rfl)) fun r => ?_
    split <;> exact Keeps.pure _

/-- Where every update and every eviction is fine, so is the work on the nodes. -/
theorem drains (hk : Looks h Inv Ok) {nodes : Node → Prop}
    (hget : ∀ node, nodes node → Keeps h Inv Ok (getNode node.name))
    (hupdate : ∀ n, Keeps h Inv Ok (updateNode n)) (hevict : ∀ pod, Keeps h Inv Ok (evict pod)) :
    Drains h Inv Ok nodes where
  toLooks := hk
  mark := fun node hnode => hk.markToBeDeleted
    ((hget node hnode).with_val fun _ _ _ _ => trivial) fun _ _ _ => hupdate _
  clean := fun node hnode => cleanToBeDeleted
    ((hget node hnode).with_val fun _ _ _ _ => trivial) fun _ _ _ => hupdate _
  evict := fun _ pod _ _ => hevict pod

end Looks

/-! ## Draining -/

namespace Evicts

variable {W : Type} {h : ApiService W} {Inv : Machine W → Prop} {Ok : ApiEvent W → Prop}
  {nodes : Node → Prop}

theorem evictTurn (hk : Evicts h Inv Ok nodes) {node : Node} (hnode : nodes node)
    (retryUntil : Time) (wait : Duration) {e : Evictor} (hpod : e.pod.nodeName = node.name) :
    Keeps h Inv Ok (evictTurn retryUntil wait e) := by
  have hattempt : Keeps h Inv Ok (evictAttempt wait e) := by
    refine Keeps.bind (hk.evict node e.pod hnode hpod) fun r => ?_
    split
    · exact Keeps.pure _
    · refine Keeps.ite (Keeps.pure _) ?_
      exact Keeps.bind (hk.ask _ rfl) fun _ => Keeps.pure _
  refine Keeps.ite hattempt ?_
  refine Keeps.bind (hk.ask _ rfl) fun t => ?_
  exact Keeps.ite hattempt (Keeps.pure _)

/-- A turn keeps working on the pod it was started for. -/
theorem evictTurn_pod (retryUntil : Time) (wait : Duration) (e : Evictor) (m : Machine W)
    (e' : Evictor)
    (hval : ((AutoNodeRepair.evictTurn retryUntil wait e).exec h m).val = .running e') :
    e'.pod = e.pod := by
  have hattempt : ∀ m : Machine W,
      ((evictAttempt wait e).exec h m).val = .running e' → e'.pod = e.pod := by
    intro m hval
    simp only [evictAttempt, exec_bind, Outcome.after_val] at hval
    split at hval
    · simp at hval
    · split at hval
      · simp at hval
      · simp only [exec_bind, Outcome.after_val, exec_pure, EvictTurn.running.injEq] at hval
        rw [← hval]
  unfold AutoNodeRepair.evictTurn at hval
  split at hval
  · exact hattempt m hval
  · simp only [exec_bind, Outcome.after_val] at hval
    split at hval
    · exact hattempt _ hval
    · simp at hval

/-- Every interleaving of the goroutines keeps what a single turn keeps. -/
theorem collectConfirmations (hk : Evicts h Inv Ok nodes) (retryUntil : Time)
    (wait : Duration) :
    ∀ (fuel : Nat) (es : List Evictor) (errs : List String),
    (∀ e ∈ es, ∃ node, nodes node ∧ e.pod.nodeName = node.name) →
    Keeps h Inv Ok (collectConfirmations retryUntil wait fuel es errs) := by
  intro fuel
  induction fuel with
  | zero =>
      intro es errs hes
      cases es <;> exact Keeps.pure _
  | succ fuel ih =>
      intro es errs hes
      cases es with
      | nil => exact Keeps.pure _
      | cons e0 rest =>
          refine Keeps.bind (hk.ask _ rfl) fun i => ?_
          split
          · exact Keeps.pure _
          · split
            · exact Keeps.pure _
            · rename_i i e hget
              have he : e ∈ e0 :: rest := List.mem_of_getElem? hget
              obtain ⟨node, hnode, hpod⟩ := hes e he
              refine Keeps.bind_of (Q := fun turn => ∀ e', turn = .running e' → e'.pod = e.pod)
                (hk.evictTurn hnode retryUntil wait hpod)
                (fun m _ e' hval => evictTurn_pod retryUntil wait e m e' hval) ?_
              intro turn hturn
              split
              · rename_i e'
                refine ih _ _ fun x hx => ?_
                rcases List.mem_or_eq_of_mem_set hx with hx | rfl
                · exact hes x hx
                · rw [hturn x rfl]
                  exact hes e he
              · exact ih _ _ fun x hx => hes x (List.mem_of_mem_eraseIdx hx)
              · exact ih _ _ fun x hx => hes x (List.mem_of_mem_eraseIdx hx)

theorem sweepPods (hk : Evicts h Inv Ok nodes) :
    ∀ (pods : List Pod) (allGone : Bool), Keeps h Inv Ok (sweepPods pods allGone) := by
  intro pods
  induction pods with
  | nil => intro allGone; exact Keeps.pure _
  | cons pod rest ih =>
      intro allGone
      refine Keeps.bind (hk.ask _ rfl) fun r => ?_
      split
      · exact Keeps.pure _
      · exact Keeps.ite (ih _) (ih _)

theorem awaitGone (hk : Evicts h Inv Ok nodes) (start : Time) (limit : Duration)
    (pods : List Pod) : ∀ fuel, Keeps h Inv Ok (awaitGone start limit pods fuel) := by
  intro fuel
  induction fuel with
  | zero => exact Keeps.pure _
  | succ fuel ih =>
      refine Keeps.bind (hk.ask _ rfl) fun t => ?_
      refine Keeps.ite ?_ (Keeps.pure _)
      refine Keeps.bind (hk.sweepPods pods true) fun allGone => ?_
      refine Keeps.ite (Keeps.pure _) ?_
      exact Keeps.bind (hk.ask _ rfl) fun _ => ih

theorem drainNode (hk : Evicts h Inv Ok nodes) (node : Node) {pods : List Pod}
    (hpods : ∀ pod ∈ pods, ∃ n, nodes n ∧ pod.nodeName = n.name)
    (maxGrace : Int) (maxEviction wait : Duration) :
    Keeps h Inv Ok (drainNode node pods maxGrace maxEviction wait) := by
  refine Keeps.bind (hk.ask _ rfl) fun t => ?_
  refine Keeps.bind (hk.collectConfirmations _ _ _ _ _ ?_) fun r => ?_
  · intro e he
    obtain ⟨pod, hpod, rfl⟩ := List.mem_map.mp he
    exact hpods pod hpod
  · split
    · exact Keeps.pure _
    · exact Keeps.pure _
    · refine Keeps.bind (hk.ask _ rfl) fun start => ?_
      refine Keeps.bind (hk.awaitGone _ _ _ _) fun allGone => ?_
      exact Keeps.ite (Keeps.pure _) (Keeps.pure _)

end Evicts

/-! ## Deleting -/

namespace Removes

variable {W : Type} {h : ApiService W} {Inv : Machine W → Prop} {Ok : ApiEvent W → Prop}
  {groups : Asg → Prop} {nodes : Node → Prop}

theorem deleteNodeFromCloudProvider (hk : Removes h Inv Ok groups nodes) {node : Node}
    (hnode : nodes node) : Keeps h Inv Ok (deleteNodeFromCloudProvider node) := by
  refine Keeps.bind_of (Q := fun r => ∀ asg, r = .ok (some asg) → groups asg)
    (hk.nodeGroupForNode node) ?_ ?_
  · intro m hm asg hval
    unfold AutoNodeRepair.nodeGroupForNode at hval
    split at hval
    · simp at hval
    · exact hk.found _ m hm asg hval
  · intro r hr
    split
    · exact Keeps.pure _
    · exact Keeps.pure _
    · rename_i nodeGroup
      refine Keeps.bind (hk.remove nodeGroup node (hr nodeGroup rfl) hnode) fun r => ?_
      split
      · exact Keeps.pure _
      · refine Keeps.bind (hk.ask _ rfl) fun t => ?_
        refine Keeps.bind (hk.ask _ rfl) fun t' => ?_
        exact Keeps.bind (hk.ask _ rfl) fun _ => Keeps.pure _

theorem deleteNode (hk : Removes h Inv Ok groups nodes) {node : Node} (hnode : nodes node)
    {pods : List Pod} (hpods : ∀ pod ∈ pods, pod.nodeName = node.name) (maxGrace : Int) :
    Keeps h Inv Ok (deleteNode maxGrace node pods) := by
  refine Keeps.bind (hk.mark node hnode) fun r => ?_
  split
  · exact Keeps.pure _
  · refine Keeps.bind ?_ fun r => ?_
    · refine Keeps.bind (hk.drainNode node (fun pod hpod => ⟨node, hnode, hpods pod hpod⟩) _ _ _)
        fun r => ?_
      split
      · exact Keeps.pure _
      · exact hk.deleteNodeFromCloudProvider hnode
    · split
      · exact Keeps.bind (hk.clean node hnode) fun _ => Keeps.pure _
      · exact Keeps.pure _

/-- The batch loop, on a map that files only pods of the node under its name. -/
theorem deleteLoop (hk : Removes h Inv Ok groups nodes) (a : StaticAutorepair)
    (pdbs : List PodDisruptionBudget) {infos : String → Option (List Pod)}
    (hinfos : ∀ name nodePods, infos name = some nodePods →
      ∀ pod ∈ nodePods, pod.nodeName = name) :
    ∀ l : List Node, (∀ node ∈ l, nodes node) → Keeps h Inv Ok (a.deleteLoop pdbs infos l) := by
  intro l
  induction l with
  | nil => intro _; exact Keeps.pure _
  | cons node rest ih =>
      intro hl
      have hrest := ih fun node' hnode' => hl node' (List.mem_cons_of_mem _ hnode')
      unfold StaticAutorepair.deleteLoop
      cases hinfo : infos node.name with
      | none => exact hrest
      | some nodePods =>
          refine Keeps.bind_of
            (Q := fun r => ∀ pods, r = .ok pods → ∀ pod ∈ pods, pod.nodeName = node.name)
            ?_ ?_ ?_
          · rw [detailedGetPodsForMove_eq]
            exact Keeps.bind (hk.ask _ rfl) fun _ => Keeps.pure _
          · intro m _ pods hval pod hpod
            rw [detailedGetPodsForMove_eq] at hval
            simp only [exec_bind, Outcome.after_val, exec_pure] at hval
            exact hinfos node.name nodePods hinfo pod (movablePods_subset hval hpod)
          · intro r hr
            split
            · exact hrest
            · rename_i pods
              refine Keeps.bind (hk.deleteNode (hl node List.mem_cons_self)
                (hr pods rfl) _) fun r => ?_
              split
              · exact Keeps.pure _
              · exact hrest

theorem deleteNodes (hk : Removes h Inv Ok groups nodes) (a : StaticAutorepair) (asg : Asg)
    {l : List Node} (hl : ∀ node ∈ l, nodes node) :
    Keeps h Inv Ok (a.deleteNodes asg l) := by
  refine Keeps.bind (hk.getAsgSize asg) fun prev => ?_
  refine Keeps.bind (hk.getAsgSize asg) fun curr => ?_
  refine Keeps.bind (hk.ask _ rfl) fun pdbs => ?_
  refine Keeps.bind (hk.ask _ rfl) fun scheduled => ?_
  refine Keeps.bind (hk.deleteLoop a _ (createNodeNameToInfoMap_pods _ l) l hl) fun done => ?_
  exact Keeps.ite (hk.pollDeleted asg _ _ _) (Keeps.pure _)

end Removes

/-! ## Repairing -/

namespace Kept

variable {W : Type} {h : ApiService W} {Inv : Machine W → Prop} {Ok : ApiEvent W → Prop}
  {groups : Asg → Prop} {nodes : Node → Prop}

theorem increaseSizeReport (hk : Kept h Inv Ok groups nodes) {asg : Asg}
    (hasg : groups asg) (incSize : Int) : Keeps h Inv Ok (increaseSizeReport asg incSize) := by
  refine Keeps.bind (hk.asgReadyNodes asg) fun ready => ?_
  refine Keeps.bind (hk.grow asg incSize hasg) fun r => ?_
  split
  · exact Keeps.pure _
  · exact Keeps.bind (hk.pollReady asg _ _ _) fun _ => Keeps.pure _

theorem repairBatch (hk : Kept h Inv Ok groups nodes) (a : StaticAutorepair) {asg : Asg}
    (hasg : groups asg) {l : List Node} (hl : ∀ node ∈ l, nodes node) (desiredSize : Int) :
    Keeps h Inv Ok (a.repairBatch asg l desiredSize) := by
  have htake : ∀ n, ∀ node ∈ l.take n, nodes node :=
    fun n node hnode => hl node (List.mem_of_mem_take hnode)
  refine Keeps.ite ?_ ?_
  · refine Keeps.bind (hk.deleteNodes a asg (htake 1)) fun _ => ?_
    exact Keeps.bind (hk.increaseSizeReport hasg _) fun _ => Keeps.pure _
  · refine Keeps.bind (hk.calcExpandSize asg l) fun incSize => ?_
    refine Keeps.ite (Keeps.pure _) ?_
    refine Keeps.bind (hk.increaseSizeReport hasg _) fun report => ?_
    exact Keeps.bind (hk.deleteNodes a asg (htake _)) fun _ => Keeps.pure _

/-- The recursion keeps what one step keeps, whatever fuel it is given. -/
theorem asgRepairNodes (hk : Kept h Inv Ok groups nodes) (a : StaticAutorepair) {asg : Asg}
    (hasg : groups asg) :
    ∀ (fuel : Nat) (l : List Node), (∀ node ∈ l, nodes node) →
    Keeps h Inv Ok (a.asgRepairNodes fuel asg l) := by
  intro fuel
  induction fuel with
  | zero => intro l _; exact Keeps.pure _
  | succ fuel ih =>
      intro l hl
      refine Keeps.bind (hk.getAsgSize asg) fun size => ?_
      cases l with
      | nil => exact Keeps.pure _
      | cons node rest =>
          have hrec : ∀ n, Keeps h Inv Ok (a.asgRepairNodes fuel asg ((node :: rest).drop n)) :=
            fun n => ih _ fun x hx => hl x (List.mem_of_mem_drop hx)
          refine Keeps.bind (hk.repairBatch a hasg hl size.1) fun report => ?_
          cases report with
          | panicked incSize => exact Keeps.pure _
          | deletedFirst increase => exact hrec _
          | increasedFirst incSize increase => exact hrec _

theorem repairLoop (hk : Kept h Inv Ok groups nodes) (a : StaticAutorepair) (fuel : Nat)
    {l : List Node} (hl : ∀ node ∈ l, nodes node) :
    ∀ asgs : List Asg, (∀ asg ∈ asgs, groups asg) →
    Keeps h Inv Ok (a.repairLoop fuel l asgs) := by
  intro asgs
  induction asgs with
  | nil => intro _; exact Keeps.pure _
  | cons asg rest ih =>
      intro hasgs
      refine Keeps.bind_of (Q := fun r => ∀ node ∈ r.1, nodes node)
        (hk.asgNotReadyNodes asg l) ?_ ?_
      · intro m _ node hnode
        exact hl node ((asgNotReadyNodes_sublist h asg l m).subset hnode)
      · intro r hr
        refine Keeps.bind (hk.asgRepairNodes a (hasgs asg List.mem_cons_self) fuel r.1 hr)
          fun exit => ?_
        cases exit with
        | done =>
            refine Keeps.bind (ih fun asg' hasg' => hasgs asg' (List.mem_cons_of_mem _ hasg'))
              fun later => ?_
            exact Keeps.pure _
        | panicked => exact Keeps.pure _
        | outOfFuel => exact Keeps.pure _

theorem repairNodes (hk : Kept h Inv Ok groups nodes) (a : StaticAutorepair) (fuel : Nat)
    {l : List Node} (hl : ∀ node ∈ l, nodes node) :
    Keeps h Inv Ok (a.repairNodes fuel l) := by
  refine Keeps.bind_of (Q := fun asgs => ∀ asg ∈ asgs, groups asg) ?_ ?_ ?_
  · exact Keeps.bind Keeps.getStore fun _ => Keeps.pure _
  · intro m hm asg hasg
    exact hk.registered m hm asg hasg
  · intro asgs hasgs
    exact hk.repairLoop a fuel hl asgs hasgs

theorem runOnce (hk : Kept h Inv Ok groups fun _ => True) (a : StaticAutorepair) (fuel : Nat)
    (repairtime : Duration) : Keeps h Inv Ok (a.runOnce fuel repairtime) := by
  refine Keeps.bind hk.listNotReadyNodes fun notReadyNodes => ?_
  refine Keeps.ite (Keeps.pure _) ?_
  refine Keeps.bind (hk.ask (.sleep repairtime) rfl) fun _ => ?_
  refine Keeps.bind hk.listNotReadyNodes fun stillNotReadyNodes => ?_
  refine Keeps.ite ?_ (Keeps.pure _)
  refine Keeps.bind (hk.repairNodes a fuel fun _ _ => trivial) fun report => ?_
  split
  · exact Keeps.bind (hk.ask (.sleep minute) rfl) fun _ => Keeps.pure _
  · exact Keeps.pure _

/-- The rule reaches the whole run. -/
theorem rounds (hk : Kept h Inv Ok groups fun _ => True) (a : StaticAutorepair) (fuel : Nat)
    (scanInterval repairPeriod : Duration) (k : Nat) :
    Keeps h Inv Ok (a.rounds fuel scanInterval repairPeriod k) := by
  induction k with
  | zero => exact Keeps.pure _
  | succ k ih =>
      refine Keeps.bind (hk.ask (.sleep scanInterval) rfl) fun _ => ?_
      refine Keeps.bind (hk.runOnce a fuel repairPeriod) fun report => ?_
      split
      · exact Keeps.bind ih fun _ => Keeps.pure _
      · exact Keeps.pure _

/-- The rule for an invariant of the outside states that no question can end:
only the exchanges have to be looked at. A node is written back as it was
fetched, but for its taints. -/
theorem of_closed (Wd : W → Prop) (hclosed : ∀ w, Wd w → ∀ c, Wd (h w c).2)
    (hquiet : ∀ w, Wd w → ∀ c : ApiCall, c.quiet = true → Ok (Service.event h w c))
    (hget : ∀ w, Wd w → ∀ node, nodes node → Ok (Service.event h w (.getNode node.name)))
    (hupdate : ∀ w, Wd w → ∀ node, nodes node → ∀ w', Wd w' → ∀ fresh,
      (h w' (.getNode node.name)).1 = .ok (some fresh) →
      ∀ taints, Ok (Service.event h w (.updateNode { fresh with taints := taints })))
    (hevict : ∀ w, Wd w → ∀ node, nodes node → ∀ pod : Pod, pod.nodeName = node.name →
      Ok (Service.event h w (.evict pod)))
    (hset : ∀ w, Wd w → ∀ name size, Ok (Service.event h w (.setDesiredCapacity name size)))
    (hterminate : ∀ w, Wd w → ∀ node, nodes node → ∀ ref dec,
      awsRefFromProviderId node.providerID = .ok ref →
      Ok (Service.event h w (.terminateInstance ref.name dec))) :
    Kept h (fun m => Wd m.world) Ok (fun _ => True) nodes := by
  have hlook : ∀ e, LookupEvent h Wd e → Ok e := by
    rintro e ⟨w, c, hw, hc, rfl⟩
    exact hquiet w hw c (ApiCall.quiet_of_looksUp hc)
  have hlooks : Looks h (fun m => Wd m.world) Ok :=
    ⟨fun c hc m hm => ⟨hclosed _ hm c, hquiet _ hm c hc⟩,
      fun ref => (findForInstance_closed (fun w hw c _ => hclosed w hw c) ref).weaken_events hlook⟩
  have hfetch : ∀ node, nodes node → Triple h (fun m => Wd m.world) Ok (getNode node.name)
      fun r m => Wd m.world ∧ ∀ n, r = .ok (some n) →
        ∃ w, Wd w ∧ (h w (.getNode node.name)).1 = .ok (some n) :=
    fun node hnode => Triple.call fun m hm => ⟨⟨hclosed _ hm _, fun n hn => ⟨_, hm, hn⟩⟩,
      hget _ hm node hnode⟩
  have hwrite : ∀ node, nodes node → ∀ (n : Node) taints,
      (∃ w, Wd w ∧ (h w (.getNode node.name)).1 = .ok (some n)) →
      Keeps h (fun m => Wd m.world) Ok (updateNode { n with taints := taints }) := by
    rintro node hnode n taints ⟨w', hw', hn⟩
    exact Keeps.call fun m hm => ⟨hclosed _ hm _, hupdate _ hm node hnode w' hw' n hn taints⟩
  refine ⟨⟨⟨⟨hlooks, ?_⟩, ?_, ?_⟩, ?_, ?_⟩, ?_, ?_⟩
  · intro node pod hnode hpod
    exact Keeps.call fun m hm => ⟨hclosed _ hm _, hevict _ hm node hnode pod hpod⟩
  · exact fun node hnode => hlooks.markToBeDeleted (hfetch node hnode) (hwrite node hnode)
  · exact fun node hnode => Looks.cleanToBeDeleted (hfetch node hnode) (hwrite node hnode)
  · exact fun _ _ _ _ _ => trivial
  · intro asg node _ hnode
    refine (Asg.deleteNodes_closed (fun w hw c _ => hclosed w hw c)
      (fun w hw _ _ => hclosed w hw _) asg node).weaken_events ?_
    rintro e (he | ⟨w, ref, dec, hw, hparsed, rfl⟩)
    · exact hlook e he
    · exact hterminate w hw node hnode ref dec hparsed
  · exact fun _ _ _ _ => trivial
  · intro asg delta _
    refine (Asg.increaseSize_closed hclosed asg delta).weaken_events ?_
    rintro e (he | ⟨w, size, hw, rfl⟩)
    · exact hlook e he
    · exact hset w hw _ _

/-- Which questions are asked at all, whatever the outside: the quiet ones, the
writing ones, and `getNode` for the nodes worked on. -/
theorem of_calls (h : ApiService W) {P : ApiCall → Prop} {nodes : Node → Prop}
    (hquiet : ∀ c : ApiCall, c.quiet = true → P c)
    (hget : ∀ node, nodes node → P (.getNode node.name))
    (hwrite : ∀ c : ApiCall, c.quiet = false → (∀ name, c ≠ .getNode name) → P c) :
    Kept h (fun _ => True) (fun e => P e.call) (fun _ => True) nodes :=
  of_closed (fun _ => True) (fun _ _ _ => trivial) (fun _ _ c hc => hquiet c hc)
    (fun _ _ node hnode => hget node hnode)
    (fun _ _ _ _ _ _ _ _ _ => hwrite (.updateNode _) rfl (by simp))
    (fun _ _ _ _ _ _ => hwrite (.evict _) rfl (by simp))
    (fun _ _ _ _ => hwrite (.setDesiredCapacity ..) rfl (by simp))
    (fun _ _ _ _ _ _ _ => hwrite (.terminateInstance ..) rfl (by simp))

end Kept

end AutoNodeRepair
