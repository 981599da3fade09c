import Mathlib.Algebra.BigOperators.Ring.Finset
import AutoNodeRepair.Collect.GroupBy
import AutoNodeRepair.Logic.Registry

/-!
# The readiness counters

`updateReadinessStats` counts every node once in the total and once in its group,
if it has one. A node adds to `Registered` and to exactly one of the five other
counters (`nodeClass`), so the counters of every record add up, and each counter
of the total is its sum over the groups and the nodes without a group.
-/

namespace AutoNodeRepair

open Interact Collect

/-! ## Counters -/

/-- The counters of `Readiness`. -/
inductive Counter
  | ready | unready | deleted | longNotStarted | notStarted | registered
  deriving DecidableEq, Repr

/-- Its value in a record. -/
def Counter.read : Counter → Readiness → Int
  | .ready, r => r.ready
  | .unready, r => r.unready
  | .deleted, r => r.deleted
  | .longNotStarted, r => r.longNotStarted
  | .notStarted, r => r.notStarted
  | .registered, r => r.registered

/-- The one counter next to `registered` that a node adds to. -/
def nodeClass (currentTime : Time) (node : Node) : Counter :=
  if hasToBeDeletedTaint node then .deleted
  else if isNodeNotStarted node &&
      decide (node.creationTimestamp + maxNodeStartupTime < currentTime) then .longNotStarted
  else if isNodeNotStarted node then .notStarted
  else if (getReadinessState node).1 then .ready
  else .unready

/-- The nodes a counter counts. -/
def Counter.counts (currentTime : Time) (c : Counter) (node : Node) : Bool :=
  c == .registered || c == nodeClass currentTime node

/-- One node of the loop. -/
def Readiness.tally (currentTime : Time) (r : Readiness) (node : Node) : Readiness :=
  r.update currentTime node (getReadinessState node).1

theorem nodeClass_ne_registered (currentTime : Time) (node : Node) :
    nodeClass currentTime node ≠ .registered := by
  unfold nodeClass
  split
  · simp
  split
  · simp
  split
  · simp
  split <;> simp

theorem Counter.read_tally (c : Counter) (currentTime : Time) (r : Readiness) (node : Node) :
    c.read (r.tally currentTime node) =
      c.read r + if c.counts currentTime node then 1 else 0 := by
  unfold Readiness.tally Readiness.update Counter.counts nodeClass
  split
  · cases c <;> simp [Counter.read]
  split
  · cases c <;> simp [Counter.read]
  split
  · cases c <;> simp [Counter.read]
  split
  · cases c <;> simp [Counter.read]
  · cases c <;> simp [Counter.read]

/-- A counter counts its nodes. -/
theorem Counter.read_foldl (c : Counter) (currentTime : Time) (nodes : List Node)
    (r : Readiness) :
    c.read (nodes.foldl (Readiness.tally currentTime) r) =
      c.read r + nodes.countP (c.counts currentTime) := by
  induction nodes generalizing r with
  | nil => simp
  | cons node rest ih =>
      rw [List.foldl_cons, ih, Counter.read_tally, List.countP_cons]
      split <;> push_cast <;> omega

/-- Registered are the nodes of the five classes. -/
theorem countP_registered (currentTime : Time) (nodes : List Node) :
    nodes.countP (Counter.registered.counts currentTime) =
      nodes.countP (Counter.ready.counts currentTime) +
        nodes.countP (Counter.unready.counts currentTime) +
        nodes.countP (Counter.deleted.counts currentTime) +
        nodes.countP (Counter.longNotStarted.counts currentTime) +
        nodes.countP (Counter.notStarted.counts currentTime) := by
  induction nodes with
  | nil => simp
  | cons node rest ih =>
      have hclass := nodeClass_ne_registered currentTime node
      simp only [List.countP_cons, ih]
      cases hnode : nodeClass currentTime node with
      | registered => exact absurd hnode hclass
      | _ => simp [Counter.counts, hnode]; omega

/-- A record that counts nodes adds up. -/
theorem Readiness.registered_eq_sum {currentTime : Time} {r : Readiness} {nodes : List Node}
    (hread : ∀ c : Counter, c.read r = nodes.countP (c.counts currentTime)) :
    r.registered = r.ready + r.unready + r.deleted + r.longNotStarted + r.notStarted := by
  have hparts := countP_registered currentTime nodes
  have hregistered : r.registered = _ := hread .registered
  have hready : r.ready = _ := hread .ready
  have hunready : r.unready = _ := hread .unready
  have hdeleted : r.deleted = _ := hread .deleted
  have hlong : r.longNotStarted = _ := hread .longNotStarted
  have hstarting : r.notStarted = _ := hread .notStarted
  omega

/-! ## Assignment -/

section

variable {W : Type} {h : ApiService W}

/-- The group a lookup assigns a node to; a failed lookup assigns it to none. -/
def assignedTo : Except String (Option Asg) → Option String
  | .ok (some asg) => some asg.id
  | _ => none

/-- The nodes with their groups, as the lookups in this order find them. -/
def assignment (h : ApiService W) (nodes : List Node) (m : Machine W) :
    List (Node × Option String) :=
  nodes.zip (((lookUpNodes nodes).exec h m).val.map assignedTo)

theorem assignment_cons (node : Node) (rest : List Node) (m : Machine W) :
    assignment h (node :: rest) m =
      (node, assignedTo ((nodeGroupForNode node).exec h m).val) ::
        assignment h rest ((nodeGroupForNode node).exec h m).mach := by
  simp [assignment, lookUpNodes]

theorem assignment_nodes (nodes : List Node) (m : Machine W) :
    (assignment h nodes m).map Prod.fst = nodes := by
  induction nodes generalizing m with
  | nil => rfl
  | cons node rest ih => rw [assignment_cons, List.map_cons, ih]

/-- The loop files every node under its group, and counts it in the total. -/
theorem readinessLoop_val (currentTime : Time) (nodes : List Node)
    (perNodeGroup : String → Option Readiness) (total : Readiness) (m : Machine W) :
    ((readinessLoop currentTime nodes perNodeGroup total).exec h m).val =
      ((assignment h nodes m).foldl
          (file Prod.snd (fun r p => r.tally currentTime p.1) {}) perNodeGroup,
        nodes.foldl (Readiness.tally currentTime) total) := by
  induction nodes generalizing perNodeGroup total m with
  | nil => rfl
  | cons node rest ih =>
      simp only [readinessLoop, exec_bind, Outcome.after_val, ih, assignment_cons,
        List.foldl_cons]
      congr 2
      unfold file assignedTo
      rcases ((nodeGroupForNode node).exec h m).val with err | _ | asg
      · rfl
      · rfl
      · rfl

/-- The nodes assigned to a group, or to none. -/
def nodesIn (h : ApiService W) (nodes : List Node) (m : Machine W) (id : Option String) :
    List Node :=
  (filed Prod.snd id (assignment h nodes m)).map Prod.fst

theorem mem_nodesIn {nodes : List Node} {m : Machine W} {id : Option String} {node : Node} :
    node ∈ nodesIn h nodes m id ↔ (node, id) ∈ assignment h nodes m := by
  simp [nodesIn, filed]

namespace ClusterStateRegistry

variable (csr : ClusterStateRegistry) (currentTime : Time) (m : Machine W)

theorem updateReadinessStats_total :
    ((csr.updateReadinessStats currentTime).exec h m).val.totalReadiness =
      csr.nodes.foldl (Readiness.tally currentTime) { time := currentTime } := by
  simp [updateReadinessStats, readinessLoop_val]

/-- A group has a record exactly if it has nodes, and it is their tally. -/
theorem updateReadinessStats_group (id : String) :
    ((csr.updateReadinessStats currentTime).exec h m).val.perNodeGroupReadiness id =
      if nodesIn h csr.nodes m (some id) = [] then none
      else some { (nodesIn h csr.nodes m (some id)).foldl (Readiness.tally currentTime) {} with
        time := currentTime } := by
  simp only [updateReadinessStats, exec_bind, exec_pure, Outcome.after_val, readinessLoop_val,
    foldl_file_apply, nodesIn, List.map_eq_nil_iff, List.foldl_map, Option.getD_none]
  split <;> rfl

theorem updateReadinessStats_isSome (id : String) :
    (∃ r, ((csr.updateReadinessStats currentTime).exec h m).val.perNodeGroupReadiness id =
        some r) ↔ ∃ node, (node, some id) ∈ assignment h csr.nodes m := by
  rw [updateReadinessStats_group]
  simp only [← mem_nodesIn]
  cases nodesIn h csr.nodes m (some id) with
  | nil => simp
  | cons node rest => simp

end ClusterStateRegistry

/-- What a counter of a group says: the number of its nodes of that class. -/
theorem Counter.read_group (c : Counter) (csr : ClusterStateRegistry) (currentTime : Time)
    (m : Machine W) (id : String) :
    c.read ((((csr.updateReadinessStats currentTime).exec h m).val.perNodeGroupReadiness
        id).getD {}) =
      (nodesIn h csr.nodes m (some id)).countP (c.counts currentTime) := by
  have htime : ∀ r : Readiness, c.read { r with time := currentTime } = c.read r := by
    intro r
    cases c <;> rfl
  have hzero : c.read {} = 0 := by cases c <;> rfl
  rw [ClusterStateRegistry.updateReadinessStats_group]
  split
  · rename_i hnone
    simp [hnone, hzero]
  · simp [htime, Counter.read_foldl, hzero]

theorem Counter.read_total (c : Counter) (csr : ClusterStateRegistry) (currentTime : Time)
    (m : Machine W) :
    c.read ((csr.updateReadinessStats currentTime).exec h m).val.totalReadiness =
      csr.nodes.countP (c.counts currentTime) := by
  have hzero : c.read { time := currentTime } = 0 := by cases c <;> rfl
  rw [ClusterStateRegistry.updateReadinessStats_total, Counter.read_foldl, hzero, Int.zero_add]

/-- A counter of the total, group by group. -/
theorem Counter.read_total_eq_sum (c : Counter) (csr : ClusterStateRegistry) (currentTime : Time)
    (m : Machine W) :
    let after := ((csr.updateReadinessStats currentTime).exec h m).val
    let assigned := assignment h csr.nodes m
    c.read after.totalReadiness =
      ∑ id ∈ (assigned.filterMap Prod.snd).toFinset,
          c.read ((after.perNodeGroupReadiness id).getD {}) +
        (assigned.filter fun p => p.2 = none).countP fun p => c.counts currentTime p.1 := by
  intro after assigned
  have hkeys : ∀ p ∈ assigned, ∀ id, p.2 = some id →
      id ∈ (assigned.filterMap Prod.snd).toFinset := by
    intro p hp id hid
    exact List.mem_toFinset.mpr (List.mem_filterMap.mpr ⟨p, hp, hid⟩)
  have hcount := countP_eq_sum_keys Prod.snd (fun p => c.counts currentTime p.1) assigned hkeys
  have hnodes : csr.nodes.countP (c.counts currentTime) =
      assigned.countP fun p => c.counts currentTime p.1 := by
    rw [← assignment_nodes (h := h) csr.nodes m, List.countP_map]
    rfl
  have hin : ∀ id,
      (filed Prod.snd (some id) assigned).countP (fun p => c.counts currentTime p.1) =
      (nodesIn h csr.nodes m (some id)).countP (c.counts currentTime) := by
    intro id
    rw [nodesIn, List.countP_map]
    rfl
  simp only [after, c.read_total, c.read_group, hnodes, hcount, hin, Nat.cast_add, Nat.cast_sum]
  rfl

/-! ## The result -/

/-- The counters of every record partition its registered nodes, the total has them
all, a group has a record exactly if a node is assigned to it, and each counter of
the total is the sum over the groups and the nodes assigned to none. -/
theorem updateReadinessStats_partitions (h : ApiService W) (csr : ClusterStateRegistry)
    (currentTime : Time) (m : Machine W) :
    let after := ((csr.updateReadinessStats currentTime).exec h m).val
    let assigned := assignment h csr.nodes m
    let groups := (assigned.filterMap Prod.snd).toFinset
    assigned.map Prod.fst = csr.nodes ∧
      (∀ r, r = after.totalReadiness ∨ (∃ id, after.perNodeGroupReadiness id = some r) →
        r.registered = r.ready + r.unready + r.deleted + r.longNotStarted + r.notStarted) ∧
      after.totalReadiness.registered = csr.nodes.length ∧
      (∀ id, (∃ r, after.perNodeGroupReadiness id = some r) ↔
        ∃ node, (node, some id) ∈ assigned) ∧
      ∀ c : Counter, c.read after.totalReadiness =
        ∑ id ∈ groups, c.read ((after.perNodeGroupReadiness id).getD {}) +
          (assigned.filter fun p => p.2 = none).countP fun p => c.counts currentTime p.1 := by
  intro after assigned groups
  have hgroup : ∀ (c : Counter) id, c.read ((after.perNodeGroupReadiness id).getD {}) =
      (nodesIn h csr.nodes m (some id)).countP (c.counts currentTime) :=
    fun c id => c.read_group csr currentTime m id
  have htotal : ∀ c : Counter, c.read after.totalReadiness =
      csr.nodes.countP (c.counts currentTime) := fun c => c.read_total csr currentTime m
  refine ⟨assignment_nodes csr.nodes m, ?_, ?_, ?_, ?_⟩
  · rintro r (rfl | ⟨id, hid⟩)
    · exact Readiness.registered_eq_sum htotal
    · have hread : ∀ c : Counter, c.read r =
          (nodesIn h csr.nodes m (some id)).countP (c.counts currentTime) := by
        intro c
        rw [← hgroup c id, hid]
        rfl
      exact Readiness.registered_eq_sum hread
  · have hall := htotal .registered
    have hevery : csr.nodes.countP (Counter.registered.counts currentTime) = csr.nodes.length :=
      List.countP_eq_length.mpr fun node _ => by simp [Counter.counts]
    rw [hevery] at hall
    exact hall
  · exact fun id => csr.updateReadinessStats_isSome currentTime m id
  · exact fun c => c.read_total_eq_sum csr currentTime m

end

end AutoNodeRepair
