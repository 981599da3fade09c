import Mathlib.Data.List.Nodup
import AutoNodeRepair.Theorems.Progress

/-!
# A node that cannot be deleted

The loop of `StaticAutorepair.DeleteNodes` skips a node whose pods cannot be
moved, but a failed `deleteNode` leaves the function, and the recursion drops
the whole batch. `stepTurns` lists the nodes of a batch with the machine in
which the loop comes to each; a movable node is left out exactly if it stands
behind a failing one in its batch (`NoneBehind`). Which nodes are in a batch at
all is for the size reads to decide (`Proceeds`).
-/

namespace AutoNodeRepair

open Interact

/-- The nodes `MarkToBeDeleted` was tried on: it starts every `deleteNode`. -/
def attempts {W : Type} (log : List (ApiEvent W)) : List String :=
  log.filterMap fun e =>
    match e.call with
    | .getNode name => some name
    | _ => none

theorem mem_attempts {W : Type} {log : List (ApiEvent W)} {name : String} :
    name ∈ attempts log ↔ ∃ e ∈ log, e.call = .getNode name := by
  simp only [attempts, List.mem_filterMap]
  refine exists_congr fun e => and_congr_right fun _ => ?_
  split
  · rename_i name' hcall
    simp [hcall]
  · rename_i hother
    simp only [reduceCtorEq, false_iff]
    exact fun hcall => hother name hcall

@[simp] theorem attempts_nil {W : Type} : attempts ([] : List (ApiEvent W)) = [] := rfl

@[simp] theorem attempts_append {W : Type} (log log' : List (ApiEvent W)) :
    attempts (log ++ log') = attempts log ++ attempts log' := by
  simp [attempts]

/-! ## Which elements of a batch are attempted -/

section Lists

variable {α : Type} {movable succeeds : α → Bool}

variable (movable succeeds) in
/-- What a loop gets to that skips the immovable and ends with the first movable
element that does not succeed. -/
def attempted : List α → List α
  | [] => []
  | x :: rest =>
      if movable x then
        if succeeds x then x :: attempted rest else [x]
      else attempted rest

variable (movable succeeds) in
/-- Nothing movable stands behind something movable that does not succeed. -/
def NoneBehind (l : List α) : Prop :=
  ∀ before x behind, l = before ++ x :: behind → movable x = true →
    succeeds x = false → ∀ other ∈ behind, movable other = false

theorem noneBehind_cons {x : α} {rest : List α} :
    NoneBehind movable succeeds (x :: rest) ↔
      (movable x = true → succeeds x = false → ∀ other ∈ rest, movable other = false) ∧
        NoneBehind movable succeeds rest := by
  constructor
  · intro hnone
    refine ⟨hnone [] x rest rfl, fun before y behind hsplit => ?_⟩
    exact hnone (x :: before) y behind (by rw [hsplit, List.cons_append])
  · rintro ⟨hfirst, hrest⟩ before y behind hsplit
    cases before with
    | nil =>
        simp only [List.nil_append, List.cons.injEq] at hsplit
        obtain ⟨rfl, rfl⟩ := hsplit
        exact hfirst
    | cons z before =>
        simp only [List.cons_append, List.cons.injEq] at hsplit
        exact hrest before y behind hsplit.2

theorem mem_of_mem_attempted {l : List α} {x : α} (hx : x ∈ attempted movable succeeds l) :
    x ∈ l := by
  induction l with
  | nil => exact hx
  | cons y rest ih =>
      unfold attempted at hx
      split at hx
      · split at hx
        · rcases List.mem_cons.mp hx with rfl | hx
          · exact List.mem_cons_self
          · exact List.mem_cons_of_mem _ (ih hx)
        · rw [List.mem_singleton.mp hx]
          exact List.mem_cons_self
      · exact List.mem_cons_of_mem _ (ih hx)

variable (succeeds) in
/-- Where something is movable, something is attempted. -/
theorem exists_attempted {l : List α} {x : α} (hx : x ∈ l) (hmove : movable x = true) :
    ∃ y, y ∈ attempted movable succeeds l := by
  induction l with
  | nil => cases hx
  | cons y rest ih =>
      unfold attempted
      split
      · split
        · exact ⟨y, List.mem_cons_self⟩
        · exact ⟨y, List.mem_singleton.mpr rfl⟩
      · rename_i hskip
        rcases List.mem_cons.mp hx with rfl | hx
        · exact absurd hmove hskip
        · exact ih hx

/-- Everything movable is attempted exactly if none of it stands behind a failing
element. -/
theorem attempted_complete_iff {l : List α} (hdistinct : l.Nodup) :
    (∀ x ∈ l, movable x = true → x ∈ attempted movable succeeds l) ↔
      NoneBehind movable succeeds l := by
  induction l with
  | nil => simp [NoneBehind]
  | cons x rest ih =>
      obtain ⟨hnotin, hrest⟩ := List.nodup_cons.mp hdistinct
      have hother : ∀ {y}, y ∈ rest → y ≠ x := by
        rintro y hy rfl
        exact hnotin hy
      rw [noneBehind_cons, ← ih hrest]
      by_cases hmove : movable x = true
      · by_cases hdelete : succeeds x = true
        · simp only [attempted, hmove, hdelete, if_true]
          constructor
          · intro hall
            refine ⟨by simp, fun y hy hmy => ?_⟩
            rcases List.mem_cons.mp (hall y (List.mem_cons_of_mem _ hy) hmy) with heq | hin
            · exact absurd heq (hother hy)
            · exact hin
          · rintro ⟨-, hall⟩ y hy hmy
            rcases List.mem_cons.mp hy with rfl | hy
            · exact List.mem_cons_self
            · exact List.mem_cons_of_mem _ (hall y hy hmy)
        · -- the loop ends here: the rest must be immovable
          have hfails : succeeds x = false := by simpa using hdelete
          simp only [attempted, hmove, hfails, if_true, Bool.false_eq_true, if_false]
          constructor
          · intro hall
            have himmovable : ∀ y ∈ rest, movable y = false := by
              intro y hy
              by_contra hmy
              have hin := hall y (List.mem_cons_of_mem _ hy) (by simpa using hmy)
              exact hother hy (List.mem_singleton.mp hin)
            exact ⟨fun _ _ => himmovable, fun y hy hmy => by simp [himmovable y hy] at hmy⟩
          · rintro ⟨himmovable, -⟩ y hy hmy
            rcases List.mem_cons.mp hy with rfl | hy
            · exact List.mem_cons_self
            · simp [himmovable trivial trivial y hy] at hmy
      · have hskip : movable x = false := by simpa using hmove
        simp only [attempted, hskip, Bool.false_eq_true, if_false, false_implies, true_and]
        constructor
        · exact fun hall y hy hmy => hall y (List.mem_cons_of_mem _ hy) hmy
        · intro hall y hy hmy
          rcases List.mem_cons.mp hy with rfl | hy
          · simp [hskip] at hmy
          · exact hall y hy hmy

end Lists

/-! ## The turns of a batch -/

/-- A node of a batch, with what was listed for it and the machine in which the
loop of `StaticAutorepair.DeleteNodes` comes to it. -/
structure Turn (W : Type) where
  node : Node
  nodePods : List Pod
  pdbs : List PodDisruptionBudget
  mach : Machine W

section

variable {W : Type} (h : ApiService W) (a : StaticAutorepair)

/-- `DetailedGetPodsForMove` on the node whose turn it is. -/
def Turn.moved (t : Turn W) : Outcome AutoScalingGroups W Api (Except String (List Pod)) :=
  (detailedGetPodsForMove t.nodePods a.skipNodesWithSystemPods a.skipNodesWithLocalStorage
    a.minReplicaCount t.pdbs).exec h t.mach

/-- `deleteNode` on it, with the pods to be moved. -/
def Turn.deletion (t : Turn W) : Outcome AutoScalingGroups W Api (Except AutorepairError Unit) :=
  (deleteNode a.maxGracefulTerminationSec t.node
    ((t.moved h a).val.toOption.getD [])).exec h (t.moved h a).mach

/-- The pods of the node may be moved. -/
def Turn.movable (t : Turn W) : Bool := (t.moved h a).val.isOk

/-- Its `deleteNode` succeeds. -/
def Turn.deleted (t : Turn W) : Bool := (t.deletion h a).val.isOk

/-- Where the turn leaves the machine. -/
def Turn.after (t : Turn W) : Machine W :=
  if t.movable h a then (t.deletion h a).mach else (t.moved h a).mach

/-- What it asks. -/
def Turn.log (t : Turn W) : List (ApiEvent W) :=
  (t.moved h a).log ++ if t.movable h a then (t.deletion h a).log else []

/-- The turns of the nodes of a batch. A failed deletion ends the loop: those
that are not reached would be looked at in the machine it ends in. -/
def turns (pdbs : List PodDisruptionBudget) (pods : List Pod) :
    List Node → Machine W → List (Turn W)
  | [], _ => []
  | node :: rest, m =>
      let t : Turn W := ⟨node, pods.filter fun pod => pod.nodeName == node.name, pdbs, m⟩
      t :: if t.movable h a && !t.deleted h a then
        rest.map fun other =>
          ⟨other, pods.filter fun pod => pod.nodeName == other.name, pdbs, t.after h a⟩
      else turns pdbs pods rest (t.after h a)

/-- The turns of `StaticAutorepair.DeleteNodes`: it reads the size twice, and
lists the budgets and the pods. -/
def deleteTurns (asg : Asg) (nodeList : List Node) (m : Machine W) : List (Turn W) :=
  let budgets := listPodDisruptionBudgets.exec h (growStart h asg m)
  let listed := listScheduledPods.exec h budgets.mach
  turns h a budgets.val.1 listed.val.1 nodeList listed.mach

/-- Where a step of `AsgRepairNodes` starts to delete. -/
def deletionStart (asg : Asg) (l : List Node) (m : Machine W) : Machine W :=
  if asg.maxSize ≤ branchRead h asg m then ((asg.targetSize).exec h m).mach
  else ((increaseSizeReport asg (expandSize h asg l m)).exec h (growStart h asg m)).mach

/-- The nodes a step cuts off its list. -/
def batchOf (asg : Asg) (l : List Node) (m : Machine W) : List Node :=
  l.take ((a.repairStep asg l).exec h m).val.incSize.toNat

/-- The turns of a step of `AsgRepairNodes`. -/
def stepTurns (asg : Asg) (l : List Node) (m : Machine W) : List (Turn W) :=
  deleteTurns h a asg (batchOf h a asg l m) (deletionStart h asg l m)

variable {h a}

theorem turns_map_node (pdbs : List PodDisruptionBudget) (pods : List Pod) (l : List Node)
    (m : Machine W) : (turns h a pdbs pods l m).map Turn.node = l := by
  induction l generalizing m with
  | nil => rfl
  | cons node rest ih =>
      rw [turns, List.map_cons]
      split
      · simp [List.map_map, Function.comp_def]
      · rw [ih]

/-- A turn knows the budgets and the pods of its node. -/
theorem lists_of_mem_turns {pdbs : List PodDisruptionBudget} {pods : List Pod} {l : List Node}
    {m : Machine W} {t : Turn W} (ht : t ∈ turns h a pdbs pods l m) :
    t.node ∈ l ∧ t.pdbs = pdbs ∧
      t.nodePods = pods.filter fun pod => pod.nodeName == t.node.name := by
  induction l generalizing m with
  | nil => simp [turns] at ht
  | cons node rest ih =>
      rw [turns] at ht
      rcases List.mem_cons.mp ht with rfl | ht
      · exact ⟨List.mem_cons_self, rfl, rfl⟩
      · split at ht
        · obtain ⟨other, hother, rfl⟩ := List.mem_map.mp ht
          exact ⟨List.mem_cons_of_mem _ hother, rfl, rfl⟩
        · obtain ⟨hmem, hlists⟩ := ih ht
          exact ⟨List.mem_cons_of_mem _ hmem, hlists⟩

@[simp] theorem stepTurns_map_node (asg : Asg) (l : List Node) (m : Machine W) :
    (stepTurns h a asg l m).map Turn.node = batchOf h a asg l m :=
  turns_map_node _ _ _ _

theorem node_mem_of_mem_stepTurns {asg : Asg} {l : List Node} {m : Machine W} {t : Turn W}
    (ht : t ∈ stepTurns h a asg l m) : t.node ∈ batchOf h a asg l m := by
  rw [← stepTurns_map_node]
  exact List.mem_map_of_mem ht

end

/-! ## Which nodes of a run are attempted -/

section

variable {W : Type} (h : ApiService W)

/-- Only the work on the nodes of `l` asks for a node. -/
theorem attempts_kept (l : List Node) :
    Kept h (fun _ => True)
      (fun e => ∀ name, e.call = .getNode name → ∃ node ∈ l, node.name = name)
      (fun _ => True) (fun node => node ∈ l) := by
  refine Kept.of_calls h (P := fun c => ∀ name, c = ApiCall.getNode name →
    ∃ node ∈ l, node.name = name) ?_ ?_ ?_
  · rintro c hc name rfl
    simp [ApiCall.quiet] at hc
  · rintro node hnode name hname
    injection hname with hname
    exact ⟨node, hnode, hname⟩
  · intro c _ hc name hname
    exact absurd hname (hc name)

variable {h}

/-- A program that keeps `attempts_kept []` attempts nothing. -/
theorem attempts_eq_nil {α : Type} {p : Ctl α} (hp : Keeps h (fun _ => True)
    (fun e => ∀ name, e.call = .getNode name → ∃ node ∈ ([] : List Node), node.name = name) p)
    (m : Machine W) : attempts (p.exec h m).log = [] := by
  rw [List.eq_nil_iff_forall_not_mem]
  intro name hname
  obtain ⟨e, he, hcall⟩ := mem_attempts.mp hname
  obtain ⟨node, hnode, -⟩ := (hp m trivial).2 e he name hcall
  simp at hnode

/-- `deleteNode` attempts its node and no other. -/
theorem mem_attempts_deleteNode (maxGrace : Int) (node : Node) {pods : List Pod}
    (hpods : ∀ pod ∈ pods, pod.nodeName = node.name) (m : Machine W) (name : String) :
    name ∈ attempts ((deleteNode maxGrace node pods).exec h m).log ↔ node.name = name := by
  rw [mem_attempts]
  constructor
  · rintro ⟨e, he, hcall⟩
    obtain ⟨x, hx, hname⟩ := (((attempts_kept h [node]).deleteNode List.mem_cons_self hpods
      maxGrace) m trivial).2 e he name hcall
    rw [List.mem_singleton] at hx
    rw [← hx, hname]
  · rintro rfl
    -- the very first exchange
    refine ⟨Service.event h m.world (.getNode node.name), ?_, rfl⟩
    simp only [deleteNode, markToBeDeleted, exec_bind, Outcome.after_log, List.append_assoc]
    exact List.mem_append_left _ (List.mem_singleton.mpr rfl)

variable {a : StaticAutorepair}

/-- The pods of a node may be moved at the time its turn comes. -/
theorem Turn.movable_iff {t : Turn W} : t.movable h a = true ↔
    ∃ pods, movablePods t.pdbs (h t.mach.world .now).1 t.nodePods = .ok pods := by
  have hval : (t.moved h a).val = movablePods t.pdbs (h t.mach.world .now).1 t.nodePods := by
    rw [Turn.moved, detailedGetPodsForMove_exec]
  rw [Turn.movable, hval]
  cases movablePods t.pdbs (h t.mach.world .now).1 t.nodePods <;> simp [Except.isOk, Except.toBool]

/-- The pods to be moved are on the node. -/
theorem Turn.moved_pods {t : Turn W} (hown : ∀ pod ∈ t.nodePods, pod.nodeName = t.node.name) :
    ∀ pod ∈ (t.moved h a).val.toOption.getD [], pod.nodeName = t.node.name := by
  intro pod hpod
  cases hval : (t.moved h a).val with
  | error err => simp [hval, Except.toOption] at hpod
  | ok pods =>
      have hmove : movablePods t.pdbs (h t.mach.world .now).1 t.nodePods = .ok pods := by
        rw [Turn.moved, detailedGetPodsForMove_exec] at hval
        exact hval
      rw [hval, Except.toOption, Option.getD_some] at hpod
      exact hown pod (movablePods_subset hmove hpod)

/-- A turn attempts its node if the pods may be moved. -/
theorem Turn.mem_attempts_log {t : Turn W} (name : String)
    (hown : ∀ pod ∈ t.nodePods, pod.nodeName = t.node.name) :
    name ∈ attempts (t.log h a) ↔ t.movable h a = true ∧ t.node.name = name := by
  have hquiet : attempts (t.moved h a).log = [] := by
    rw [Turn.moved, detailedGetPodsForMove_exec]
    rfl
  rw [Turn.log, attempts_append, hquiet, List.nil_append]
  cases hmovable : t.movable h a with
  | false => simp
  | true =>
      simp only [if_true, true_and]
      exact mem_attempts_deleteNode a.maxGracefulTerminationSec t.node (Turn.moved_pods hown)
        (t.moved h a).mach name

/-- One turn of the batch loop: it skips a node that is not movable, ends with one
whose deletion fails, and goes on from where a deletion left the machine. -/
theorem deleteLoop_cons (pdbs : List PodDisruptionBudget) {pods : List Pod}
    {infos : String → Option (List Pod)} {node : Node}
    (hinfo : infos node.name = some (pods.filter fun pod => pod.nodeName == node.name))
    (rest : List Node) (m : Machine W) :
    let t : Turn W := ⟨node, pods.filter fun pod => pod.nodeName == node.name, pdbs, m⟩
    (a.deleteLoop pdbs infos (node :: rest)).exec h m =
      if t.movable h a && !t.deleted h a then ⟨false, t.log h a, t.after h a⟩
      else ((a.deleteLoop pdbs infos rest).exec h (t.after h a)).after (t.log h a) := by
  intro t
  have hmoved : (detailedGetPodsForMove (pods.filter fun pod => pod.nodeName == node.name)
      a.skipNodesWithSystemPods a.skipNodesWithLocalStorage a.minReplicaCount pdbs).exec h m =
        t.moved h a := rfl
  simp only [StaticAutorepair.deleteLoop, hinfo, exec_bind, hmoved]
  cases hval : (t.moved h a).val with
  | error err =>
      have hskip : t.movable h a = false := by simp [Turn.movable, hval, Except.isOk,
        Except.toBool]
      simp [Turn.after, Turn.log, hskip]
  | ok podsToRemove =>
      have hmovable : t.movable h a = true := by simp [Turn.movable, hval, Except.isOk,
        Except.toBool]
      have hdeletion : (deleteNode a.maxGracefulTerminationSec node podsToRemove).exec h
          (t.moved h a).mach = t.deletion h a := by
        simp [Turn.deletion, hval, Except.toOption, t]
      simp only [exec_bind, hdeletion]
      cases hdone : (t.deletion h a).val with
      | error err =>
          have hfails : t.deleted h a = false := by simp [Turn.deleted, hdone, Except.isOk,
            Except.toBool]
          simp [Turn.after, Turn.log, hmovable, hfails, Outcome.after]
      | ok _ =>
          have hsucceeds : t.deleted h a = true := by simp [Turn.deleted, hdone, Except.isOk,
            Except.toBool]
          simp [Turn.after, Turn.log, hmovable, hsucceeds, Outcome.after]

/-- The batch loop attempts the nodes it gets to. -/
theorem mem_attempts_deleteLoop (pdbs : List PodDisruptionBudget) (pods : List Pod)
    {infos : String → Option (List Pod)} (name : String) :
    ∀ (l : List Node) (m : Machine W),
    (∀ node ∈ l, infos node.name = some (pods.filter fun pod => pod.nodeName == node.name)) →
    (name ∈ attempts ((a.deleteLoop pdbs infos l).exec h m).log ↔
      ∃ t ∈ attempted (Turn.movable h a) (Turn.deleted h a) (turns h a pdbs pods l m),
        t.node.name = name) := by
  intro l
  induction l with
  | nil => intro m _; simp [StaticAutorepair.deleteLoop, turns, attempted]
  | cons node rest ih =>
      intro m hinfos
      have hrest := fun m => ih m fun n hn => hinfos n (List.mem_cons_of_mem _ hn)
      rw [deleteLoop_cons pdbs (hinfos node List.mem_cons_self) rest m, turns]
      generalize ht :
        (⟨node, pods.filter fun pod => pod.nodeName == node.name, pdbs, m⟩ : Turn W) = t
      have hnode : t.node = node := by rw [← ht]
      have hlog : name ∈ attempts (t.log h a) ↔ t.movable h a = true ∧ node.name = name := by
        have hname := Turn.mem_attempts_log (h := h) (a := a) (t := t) name (by
          rw [← ht]
          exact fun pod hpod => by simpa using (List.mem_filter.mp hpod).2)
        rw [hname, hnode]
      cases hmovable : t.movable h a with
      | false =>
          simp only [Bool.false_and, Bool.false_eq_true, if_false, attempted, hmovable,
            Outcome.after_log, attempts_append, List.mem_append, hlog, false_and, false_or]
          exact hrest _
      | true =>
          cases hdeleted : t.deleted h a with
          | false => simp [attempted, hmovable, hdeleted, hlog, hnode]
          | true =>
              simp only [Bool.not_true, Bool.and_false, Bool.false_eq_true, if_false, attempted,
                hmovable, hdeleted, if_true, Outcome.after_log, attempts_append, List.mem_append,
                hlog, true_and, List.exists_mem_cons_iff, hnode]
              rw [hrest]

/-- `StaticAutorepair.DeleteNodes` attempts the nodes its loop gets to. -/
theorem mem_attempts_deleteNodes (asg : Asg) (l : List Node) (m : Machine W) (name : String) :
    name ∈ attempts ((a.deleteNodes asg l).exec h m).log ↔
      ∃ t ∈ attempted (Turn.movable h a) (Turn.deleted h a) (deleteTurns h a asg l m),
        t.node.name = name := by
  have hsize : ∀ m : Machine W, attempts ((asg.targetSize).exec h m).log = [] :=
    attempts_eq_nil ((attempts_kept h []).getAsgSize asg)
  have hpdbs : ∀ m : Machine W, attempts (listPodDisruptionBudgets.exec h m).log = [] :=
    attempts_eq_nil ((attempts_kept h []).ask .listPodDisruptionBudgets rfl)
  have hpods : ∀ m : Machine W, attempts (listScheduledPods.exec h m).log = [] :=
    attempts_eq_nil ((attempts_kept h []).ask .listScheduledPods rfl)
  have hpoll : ∀ (goal curr : Int) (left : Nat) (m : Machine W),
      attempts ((pollDeleted asg goal left curr).exec h m).log = [] :=
    fun goal curr left => attempts_eq_nil ((attempts_kept h []).pollDeleted asg goal left curr)
  have hloop := fun pdbs pods m' => mem_attempts_deleteLoop (h := h) (a := a) pdbs pods name l m'
    fun node hnode => createNodeNameToInfoMap_of_mem hnode
  simp only [StaticAutorepair.deleteNodes, exec_bind, Outcome.after_log, attempts_append, hsize,
    hpdbs, hpods, List.nil_append]
  split
  · simp only [hpoll, List.append_nil]
    exact hloop _ _ _
  · simp only [exec_pure, attempts_nil, List.append_nil]
    exact hloop _ _ _

/-- A step attempts the nodes its batch loop gets to. -/
theorem mem_attempts_repairStep {asg : Asg} {l : List Node} {m : Machine W}
    (hgoes : ∀ n, ((a.repairStep asg l).exec h m).val ≠ .panicked n) (name : String) :
    name ∈ attempts ((a.repairStep asg l).exec h m).log ↔
      ∃ t ∈ attempted (Turn.movable h a) (Turn.deleted h a) (stepTurns h a asg l m),
        t.node.name = name := by
  have hsize : ∀ m : Machine W, attempts ((asg.targetSize).exec h m).log = [] :=
    attempts_eq_nil ((attempts_kept h []).getAsgSize asg)
  have hgrow : ∀ (inc : Int) (m : Machine W),
      attempts ((increaseSizeReport asg inc).exec h m).log = [] :=
    fun inc => attempts_eq_nil ((attempts_kept h []).increaseSizeReport trivial inc)
  unfold stepTurns batchOf deletionStart
  rcases repairStep_cases h a asg l m with
    ⟨hmax, increase, hval⟩ | ⟨hbelow, hinc, hval⟩ | ⟨-, -, hval⟩
  · have hcond : ((asg.targetSize).exec h m).val.1 ≥ asg.maxSize := hmax
    rw [hval, if_pos hmax, ← mem_attempts_deleteNodes]
    simp [StaticAutorepair.repairStep, StaticAutorepair.repairBatch, hcond, hsize, hgrow,
      BatchReport.incSize]
  · have hcond : ¬ ((asg.targetSize).exec h m).val.1 ≥ asg.maxSize := by
      unfold branchRead at hbelow
      omega
    have hslice : ¬ (expandSize h asg l m < 0 ∨ expandSize h asg l m > l.length) := by
      unfold expandSize at hinc ⊢
      split at hinc <;> omega
    rw [hval, if_neg (by omega), ← mem_attempts_deleteNodes]
    simp [StaticAutorepair.repairStep, StaticAutorepair.repairBatch, hcond, calcExpandSize_exec,
      hslice, hsize, hgrow, BatchReport.incSize]
  · exact absurd hval (hgoes _)

/-- A step that crashes on its slice has only looked at the size. -/
theorem attempts_of_panicked {asg : Asg} {l : List Node} {m : Machine W} {n : Int}
    (hpanic : ((a.repairStep asg l).exec h m).val = .panicked n) :
    attempts ((a.repairStep asg l).exec h m).log = [] := by
  have hsize : ∀ m : Machine W, attempts ((asg.targetSize).exec h m).log = [] :=
    attempts_eq_nil ((attempts_kept h []).getAsgSize asg)
  rcases repairStep_cases h a asg l m with
    ⟨-, increase, hval⟩ | ⟨-, -, hval⟩ | ⟨hbelow, hneg, -⟩
  · simp [hval] at hpanic
  · simp [hval] at hpanic
  · have hcond : ¬ ((asg.targetSize).exec h m).val.1 ≥ asg.maxSize := by
      unfold branchRead at hbelow
      omega
    simp [StaticAutorepair.repairStep, StaticAutorepair.repairBatch, hcond, calcExpandSize_exec,
      hneg, hsize]

/-- Only a step on a non-empty list that does not crash has turns. -/
theorem goes_of_mem_stepTurns {asg : Asg} {l : List Node} {m : Machine W} {t : Turn W}
    (ht : t ∈ stepTurns h a asg l m) :
    l ≠ [] ∧ 1 ≤ ((a.repairStep asg l).exec h m).val.incSize := by
  have hnode := node_mem_of_mem_stepTurns ht
  unfold batchOf at hnode
  have hpos : 0 < ((a.repairStep asg l).exec h m).val.incSize.toNat := by
    by_contra hnone
    rw [Nat.eq_zero_of_not_pos hnone, List.take_zero] at hnode
    cases hnode
  exact ⟨List.ne_nil_of_mem (List.mem_of_mem_take hnode), by omega⟩

/-- The recursion attempts, sooner or later, what the batch loops of its steps get to. -/
theorem exists_attempt_iff {asg : Asg} {ns : List Node} {m : Machine W} {name : String} :
    (∃ fuel, name ∈ attempts ((a.asgRepairNodes fuel asg ns).exec h m).log) ↔
      ∃ l' m', Reaches h a asg ns m l' m' ∧
        ∃ t ∈ attempted (Turn.movable h a) (Turn.deleted h a) (stepTurns h a asg l' m'),
          t.node.name = name := by
  constructor
  · rintro ⟨fuel, hname⟩
    induction fuel generalizing ns m with
    | zero => simp [StaticAutorepair.asgRepairNodes] at hname
    | succ fuel ih =>
        by_cases hne : ns = []
        · subst hne
          have hsize := attempts_eq_nil ((attempts_kept h []).getAsgSize asg) m
          simp only [StaticAutorepair.asgRepairNodes, Asg.targetSize, exec_bind,
            Outcome.after_log, exec_pure, List.append_nil, hsize] at hname
          cases hname
        by_cases hgoes : ∀ n, ((a.repairStep asg ns).exec h m).val ≠ .panicked n
        · rw [asgRepairNodes_step hne hgoes, Outcome.after_log, attempts_append,
            List.mem_append] at hname
          rcases hname with hnow | hlater
          · exact ⟨ns, m, .refl ns m, (mem_attempts_repairStep hgoes name).mp hnow⟩
          · obtain ⟨l', m', hreach, ht⟩ := ih hlater
            exact ⟨l', m', .step hne hgoes hreach, ht⟩
        · simp only [ne_eq, not_forall, not_not] at hgoes
          obtain ⟨n, hpanic⟩ := hgoes
          rw [asgRepairNodes_panicked hne hpanic, attempts_of_panicked hpanic] at hname
          cases hname
  · rintro ⟨l', m', hreach, t, ht, rfl⟩
    induction hreach with
    | refl l m =>
        obtain ⟨hne, hinc⟩ := goes_of_mem_stepTurns (mem_of_mem_attempted ht)
        have hgoes := repairStep_goes hinc
        refine ⟨1, ?_⟩
        rw [asgRepairNodes_step hne hgoes, Outcome.after_log, attempts_append, List.mem_append]
        exact .inl ((mem_attempts_repairStep hgoes _).mpr ⟨t, ht, rfl⟩)
    | step hne hgoes _ ih =>
        obtain ⟨fuel, hname⟩ := ih ht
        refine ⟨fuel + 1, ?_⟩
        rw [asgRepairNodes_step hne hgoes, Outcome.after_log, attempts_append, List.mem_append]
        exact .inr hname

/-- The nodes of a batch are not among those that later calls are on. -/
theorem name_ne_of_later {asg : Asg} {l l' : List Node} {m m' : Machine W}
    (hnames : (l.map Node.name).Nodup)
    (hrest : Reaches h a asg (l.drop ((a.repairStep asg l).exec h m).val.incSize.toNat)
      ((a.repairStep asg l).exec h m).mach l' m') {x y : Node} (hx : x ∈ batchOf h a asg l m)
    (hy : y ∈ l') : x.name ≠ y.name := by
  have hcut : batchOf h a asg l m ++
      l.drop ((a.repairStep asg l).exec h m).val.incSize.toNat = l := List.take_append_drop _ l
  rw [← hcut, List.map_append, List.nodup_append] at hnames
  exact hnames.2.2 _ (List.mem_map_of_mem hx) _ (List.mem_map_of_mem (hrest.sublist.subset hy))

/-- A node is in the batch of one step only. -/
theorem batch_unique {asg : Asg} {ns l₁ l₂ : List Node} {m m₁ m₂ : Machine W}
    (hnames : (ns.map Node.name).Nodup) (hreach₁ : Reaches h a asg ns m l₁ m₁)
    (hreach₂ : Reaches h a asg ns m l₂ m₂) {x y : Node} (hx : x ∈ batchOf h a asg l₁ m₁)
    (hy : y ∈ batchOf h a asg l₂ m₂) (hname : x.name = y.name) : l₁ = l₂ ∧ m₁ = m₂ := by
  have hdistinct : ∀ {l' m'}, Reaches h a asg ns m l' m' → (l'.map Node.name).Nodup :=
    fun hreach => hnames.sublist (hreach.sublist.map Node.name)
  rcases hreach₁.linear hreach₂ with hlater | hlater
  · cases hlater with
    | refl => exact ⟨rfl, rfl⟩
    | step _ _ hrest =>
        exact absurd hname (name_ne_of_later (hdistinct hreach₁) hrest hx (List.mem_of_mem_take hy))
  · cases hlater with
    | refl => exact ⟨rfl, rfl⟩
    | step _ _ hrest =>
        exact absurd hname.symm
          (name_ne_of_later (hdistinct hreach₂) hrest hy (List.mem_of_mem_take hx))

/-- Batch by batch: the movable nodes are all attempted exactly if none of them
stands behind a failing one. -/
theorem attempts_iff_noneBehind {asg : Asg} {ns : List Node} (hnames : (ns.map Node.name).Nodup)
    (m : Machine W) :
    (∀ l' m', Reaches h a asg ns m l' m' → ∀ t ∈ stepTurns h a asg l' m',
        t.movable h a = true →
        ∃ fuel, t.node.name ∈ attempts ((a.asgRepairNodes fuel asg ns).exec h m).log) ↔
      ∀ l' m', Reaches h a asg ns m l' m' →
        NoneBehind (Turn.movable h a) (Turn.deleted h a) (stepTurns h a asg l' m') := by
  have hbatch : ∀ l' m', Reaches h a asg ns m l' m' →
      ((batchOf h a asg l' m').map Node.name).Nodup := fun l' m' hreach =>
    hnames.sublist (((List.take_sublist _ l').trans hreach.sublist).map Node.name)
  have hturns : ∀ l' m', Reaches h a asg ns m l' m' →
      ((stepTurns h a asg l' m').map fun t => t.node.name).Nodup := by
    intro l' m' hreach
    have hmap := hbatch l' m' hreach
    rwa [← stepTurns_map_node, List.map_map] at hmap
  refine forall_congr' fun l' => forall_congr' fun m' => forall_congr' fun hreach => ?_
  rw [← attempted_complete_iff (List.Nodup.of_map _ (hturns l' m' hreach))]
  refine forall_congr' fun t => forall_congr' fun ht => forall_congr' fun _ => ?_
  rw [exists_attempt_iff]
  constructor
  · rintro ⟨l₁, m₁, hreach₁, t₁, ht₁, hname⟩
    -- an attempt of this name is one of this step
    obtain ⟨rfl, rfl⟩ := batch_unique hnames hreach₁ hreach
      (node_mem_of_mem_stepTurns (mem_of_mem_attempted ht₁)) (node_mem_of_mem_stepTurns ht) hname
    rwa [← List.inj_on_of_nodup_map (hturns _ _ hreach) (mem_of_mem_attempted ht₁) ht hname]
  · exact fun hattempted => ⟨l', m', hreach, t, hattempted, rfl⟩

/-! ## Which nodes get their turn -/

/-- The recursion gets through its list. No call that it comes to crashes, the second size
read leaving a negative room, and after none do all calls stall, the second read leaving
no room at all. -/
def Proceeds (h : ApiService W) (a : StaticAutorepair) (asg : Asg) (ns : List Node)
    (m : Machine W) : Prop :=
  ∀ l' m', Reaches h a asg ns m l' m' → l' ≠ [] →
    (branchRead h asg m' < asg.maxSize →
      0 ≤ allowableIncreaseSize asg (sizingRead h asg m')) ∧
    ∃ l'' m'', Reaches h a asg l' m' l'' m'' ∧
      (branchRead h asg m'' < asg.maxSize →
        1 ≤ allowableIncreaseSize asg (sizingRead h asg m''))

/-- A node of the list gets its turn in this step, or is left for the next call. -/
theorem turn_or_later (asg : Asg) {l : List Node} (m : Machine W) {node : Node}
    (hnode : node ∈ l) :
    (∃ t ∈ stepTurns h a asg l m, t.node = node) ∨
      node ∈ l.drop ((a.repairStep asg l).exec h m).val.incSize.toNat := by
  rw [← List.take_append_drop ((a.repairStep asg l).exec h m).val.incSize.toNat l,
    List.mem_append] at hnode
  refine hnode.imp_left fun hnow => ?_
  have hmap := stepTurns_map_node (h := h) (a := a) asg l m
  unfold batchOf at hmap
  rw [← hmap] at hnow
  exact List.mem_map.mp hnow

/-- In a recursion that gets through its list every node gets its turn. -/
theorem turn_of_proceeds {asg : Asg} {node : Node} :
    ∀ (size : Nat) (l : List Node) (m : Machine W), l.length ≤ size →
    Proceeds h a asg l m → node ∈ l → ∃ l' m', Reaches h a asg l m l' m' ∧
      ∃ t ∈ stepTurns h a asg l' m', t.node = node := by
  intro size
  induction size with
  | zero =>
      intro l m hsize _ hnode
      rw [List.length_eq_zero_iff.mp (Nat.le_zero.mp hsize)] at hnode
      cases hnode
  | succ size ih =>
      intro l m hsize hproceeds hnode
      obtain ⟨-, l'', m'', hlater, hroom⟩ :=
        hproceeds l m (.refl l m) (List.ne_nil_of_mem hnode)
      -- on to the first call that makes progress, the list shrinks at it
      induction hlater with
      | refl l m =>
          rcases turn_or_later (h := h) (a := a) asg m hnode with hturn | hrest
          · exact ⟨l, m, .refl l m, hturn⟩
          have hne : l ≠ [] := List.ne_nil_of_mem hnode
          have hinc := (one_le_incSize_iff (a := a) hne m).mpr hroom
          have hgoes := repairStep_goes hinc
          obtain ⟨l', m', hreach, hturn⟩ := ih _ _
            (by
              have hlen : 1 ≤ l.length := List.length_pos_iff.mpr hne
              rw [List.length_drop]
              omega)
            (fun l' m' hreach => hproceeds l' m' (.step hne hgoes hreach)) hrest
          exact ⟨l', m', .step hne hgoes hreach, hturn⟩
      | @step l m _ _ hne hgoes _ ihlater =>
          rcases turn_or_later (h := h) (a := a) asg m hnode with hturn | hrest
          · exact ⟨l, m, .refl l m, hturn⟩
          obtain ⟨l', m', hreach, hturn⟩ := ihlater
            (Nat.le_trans (List.drop_sublist _ l).length_le hsize)
            (fun l' m' hreach => hproceeds l' m' (.step hne hgoes hreach)) hrest hroom
          exact ⟨l', m', .step hne hgoes hreach, hturn⟩

/-- A recursion that comes to every node of its list gets through it. -/
theorem proceeds_of_turns {asg : Asg} {ns : List Node} (hnames : (ns.map Node.name).Nodup)
    {m : Machine W} (hturns : ∀ node ∈ ns, ∃ l' m', Reaches h a asg ns m l' m' ∧
      ∃ t ∈ stepTurns h a asg l' m', t.node = node) : Proceeds h a asg ns m := by
  intro l' m' hreach hne
  obtain ⟨node, hnode⟩ := List.exists_mem_of_ne_nil l' hne
  obtain ⟨l₁, m₁, hreach₁, t, ht, rfl⟩ := hturns node (hreach.sublist.subset hnode)
  obtain ⟨hne₁, hinc⟩ := goes_of_mem_stepTurns ht
  have hlater : Reaches h a asg l' m' l₁ m₁ := by
    rcases hreach.linear hreach₁ with hlater | hearlier
    · exact hlater
    · cases hearlier with
      | refl => exact .refl _ _
      | step _ _ hrest =>
          -- the node would have had its turn before
          exact absurd rfl (name_ne_of_later (hnames.sublist (hreach₁.sublist.map Node.name))
            hrest (node_mem_of_mem_stepTurns ht) hnode)
  refine ⟨(repairStep_goes_iff (a := a) hne m').mp ?_, l₁, m₁, hlater,
    (one_le_incSize_iff hne₁ m₁).mp hinc⟩
  cases hlater with
  | refl => exact repairStep_goes hinc
  | step _ hgoes _ => exact hgoes

end

/-- The sample cluster with an API server that does not find certain nodes. -/
def nodesMissing (missing : String → Bool) : ApiService (ClusterState × Nat) :=
  Cluster.sample.variant fun w call =>
    match call with
    | .getNode name => if missing name then some (.error ⟨"not found", true⟩, w) else none
    | _ => none

/-- The controller of `g` in front of such a server. -/
def missingStart : Machine (ClusterState × Nat) := ⟨freshStore [groupG], (sampleState, 0)⟩

/-- The sample cluster while somebody else resizes `g`: three at the first read, full at the
second, two from then on. -/
def resizedOnce : ApiService (ClusterState × Nat) :=
  Cluster.sample.variant fun w call =>
    match call with
    | .describeAutoScalingGroups name =>
        some (.ok [⟨if w.2 = 0 then 3 else if w.2 = 1 then 4 else 2,
          Cluster.sample.members w.1 name⟩], (w.1, w.2 + 1))
    | _ => none

/-- The first step there finds no room for a batch; the second one takes both nodes. -/
theorem resizedOnce_reaches {l' : List Node} {m' : Machine (ClusterState × Nat)}
    (hreach : Reaches resizedOnce {} groupG [node1, node2] missingStart l' m') :
    (l' = [node1, node2] ∧ (m' = missingStart ∨ m' = ((({} : StaticAutorepair).repairStep groupG
      [node1, node2]).exec resizedOnce missingStart).mach)) ∨ l' = [] := by
  have hstalls : ((({} : StaticAutorepair).repairStep groupG [node1, node2]).exec resizedOnce
      missingStart).val.incSize = 0 := by decide +kernel
  have hbatch : ((({} : StaticAutorepair).repairStep groupG [node1, node2]).exec resizedOnce
      ((({} : StaticAutorepair).repairStep groupG [node1, node2]).exec resizedOnce
        missingStart).mach).val.incSize = 2 := by decide +kernel
  cases hreach with
  | refl => exact .inl ⟨rfl, .inl rfl⟩
  | step _ _ hrest =>
      rw [hstalls] at hrest
      cases hrest with
      | refl => exact .inl ⟨rfl, .inr rfl⟩
      | step _ _ hrest =>
          rw [Int.toNat_zero, List.drop_zero, hbatch] at hrest
          exact .inr (List.sublist_nil.mp hrest.sublist)

end AutoNodeRepair
