import AutoNodeRepair.Collect.Since
import AutoNodeRepair.Theorems.SizeVerdicts

/-!
# Since when UpdateNodes has seen what it sees

Two maps of the registry are rebuilt by every update and carry times over from the
map before: the groups of a wrong size, and the instances that have not registered.
Both are dated cells: the time in an entry is that of the update with which the
current stretch of it began, however often it has come and gone before.
-/

namespace AutoNodeRepair

open Interact Collect

/-! ## Runs of updates -/

/-- One call of `UpdateNodes`, and the state of the cloud provider that it finds: between two
calls anything may happen to it. -/
structure UpdateCall (W : Type) where
  nodes : List Node
  currentTime : Time
  mach : Machine W

section

variable {W : Type} (h : ApiService W)

/-- The registry and the error after the call. -/
def UpdateCall.run (csr : ClusterStateRegistry) (call : UpdateCall W) :
    ClusterStateRegistry × Option String :=
  ((csr.updateNodes call.nodes call.currentTime).exec h call.mach).val

/-- The registry after these calls, from a fresh one. -/
def registryAfter (calls : List (UpdateCall W)) : ClusterStateRegistry :=
  calls.foldl (fun csr (call : UpdateCall W) => (call.run h csr).1) newClusterStateRegistry

/-- No call of the run fails. -/
def AllSucceed (calls : List (UpdateCall W)) : Prop :=
  ∀ (n : ℕ) (call : UpdateCall W), calls[n]? = some call →
    (call.run h (registryAfter h (calls.take n))).2 = none

theorem registryAfter_take_succ {calls : List (UpdateCall W)} {n : ℕ} {call : UpdateCall W}
    (hcall : calls[n]? = some call) :
    registryAfter h (calls.take (n + 1)) =
      (call.run h (registryAfter h (calls.take n))).1 := by
  rw [List.take_add_one, hcall]
  simp [registryAfter]

end

namespace ClusterStateRegistry

section

variable {W : Type} {h : ApiService W}

/-- What the first part of an update sees, it sees beside the two maps. -/
theorem observe_keeps (csr : ClusterStateRegistry) (nodes : List Node) (currentTime : Time)
    (m : Machine W) {targets : String → Option Int} {missing : List UnregisteredNode}
    {seen : ClusterStateRegistry}
    (hobserve : ((csr.observe nodes currentTime).exec h m).val = .ok (targets, missing, seen))
    (hsizes : (getTargetSizes.exec h m).val = .ok targets)
    (hlisting : ((getNotRegisteredNodes nodes currentTime).exec h
      (getTargetSizes.exec h m).mach).val = .ok missing) :
    seen.incorrectNodeGroupSizes = csr.incorrectNodeGroupSizes ∧
      seen.unregisteredNodes = csr.unregisteredNodes := by
  obtain ⟨⟨-, -, perNodeGroup, total, hstats⟩, -⟩ := updateReadinessStats_spec (h := h)
    ((getNotRegisteredNodes nodes currentTime).exec h
      (getTargetSizes.exec h m).mach).mach.store.registeredAsgs
    { csr with nodes := nodes } currentTime _ rfl
  simp only [observe, exec_bind, hsizes, hlisting, updateAcceptableRanges_exec, exec_pure,
    Outcome.after_val, Except.ok.injEq, Prod.mk.injEq, true_and] at hobserve
  rw [← hobserve, hstats]
  exact ⟨rfl, rfl⟩

/-- After an update that succeeds, the sizes are judged against the judgements before it, and
the instances that are missing against those that were. -/
theorem updateNodes_maps (csr : ClusterStateRegistry) (nodes : List Node) (currentTime : Time)
    (m : Machine W) (hok : ((csr.updateNodes nodes currentTime).exec h m).val.2 = none) :
    let after := ((csr.updateNodes nodes currentTime).exec h m).val.1
    ∃ (last : ClusterStateRegistry) (groups : List Asg) (missing : List UnregisteredNode),
      ((getNotRegisteredNodes nodes currentTime).exec h
        (getTargetSizes.exec h m).mach).val = .ok missing ∧
      last.incorrectNodeGroupSizes = csr.incorrectNodeGroupSizes ∧
      (∀ id, after.incorrectNodeGroupSizes id =
        if id ∈ groups.map Asg.id then last.incorrectSize currentTime id else none) ∧
      after.unregisteredNodes = (csr.updateUnregisteredNodes missing).unregisteredNodes := by
  intro after
  rcases csr.updateNodes_cases (h := h) nodes currentTime m with
    ⟨err, herr⟩ | ⟨targets, missing, seen, hobserve, hsizes, hlisting, -, -, -⟩
  · rw [herr] at hok
    simp at hok
  obtain ⟨hincorrect, hunregistered⟩ :=
    csr.observe_keeps nodes currentTime m hobserve hsizes hlisting
  obtain ⟨info, hscale⟩ := seen.updateScaleRequests_eq currentTime
  have hafter : after = ((csr.updateNodes nodes currentTime).exec h m).val.1 := rfl
  simp only [updateNodes, exec_bind, hobserve, updateAcceptableRanges_exec] at hafter
  -- the registry in the middle, when the ranges are final
  have hlast : ((seen.updateScaleRequests currentTime).updateAcceptableRanges targets).exec h
      ((csr.observe nodes currentTime).exec h m).mach = ⟨_, [], _⟩ :=
    updateAcceptableRanges_exec _ _ _
  refine ⟨(((seen.updateScaleRequests currentTime).updateAcceptableRanges targets).exec h
    ((csr.observe nodes currentTime).exec h m).mach).val,
    ((csr.observe nodes currentTime).exec h m).mach.store.registeredAsgs, missing,
    hlisting, ?_, fun id => ?_, ?_⟩
  · rw [hlast, hscale]
    exact hincorrect
  · rw [hafter, hlast]
    refine (foldl_report _ id _ fun _ => none).trans ?_
    rw [Option.or_none]
  · rw [hafter]
    simp only [updateUnregisteredNodes]
    rw [← hunregistered, hscale]
    rfl

end

end ClusterStateRegistry

/-- A cell of the registry that every update dates: its stamp is the time of the call with
which the stretch began. -/
theorem stamp_of_calls {W : Type} {h : ApiService W} {calls : List (UpdateCall W)}
    (hok : AllSucceed h calls) {α : Type} (cell : ClusterStateRegistry → Option (α × Time))
    (hfresh : cell newClusterStateRegistry = none)
    (hstep : ∀ (csr : ClusterStateRegistry) (call : UpdateCall W), (call.run h csr).2 = none →
      Dated (cell csr) (some call.currentTime) (cell (call.run h csr).1))
    {n : ℕ} (hn : n < calls.length) {a : α} {t : Time}
    (hcell : cell (registryAfter h (calls.take (n + 1))) = some (a, t)) :
    ∃ j, IsLeast (stretches
        (fun k => ∃ s, cell (registryAfter h (calls.take (k + 1))) = some (a, s)) n) j ∧
      (calls.map UpdateCall.currentTime)[j]? = some t := by
  have hcall : ∀ k, k ≤ n → Dated (cell (registryAfter h (calls.take k)))
      (calls.map UpdateCall.currentTime)[k]? (cell (registryAfter h (calls.take (k + 1)))) := by
    intro k hk
    have hget : calls[k]? = some calls[k] := List.getElem?_eq_getElem (by omega)
    rw [registryAfter_take_succ h hget, List.getElem?_map, hget]
    exact hstep _ _ (hok k _ hget)
  refine stamp_of_dated (fun k => cell (registryAfter h (calls.take (k + 1))))
    (fun k => (calls.map UpdateCall.currentTime)[k]?) ?_ (fun k hk => hcall (k + 1) hk) hcell
  have hfirst := hcall 0 (Nat.zero_le n)
  rwa [List.take_zero, show registryAfter h ([] : List (UpdateCall W)) =
    newClusterStateRegistry from rfl, hfresh] at hfirst

/-! ## Groups of a wrong size -/

/-- The mismatch, and since when there is. -/
def IncorrectNodeGroupSize.dated (size : IncorrectNodeGroupSize) : (Int × Int) × Time :=
  ((size.currentSize, size.expectedSize), size.firstObserved)

theorem IncorrectNodeGroupSize.map_dated {entry : Option IncorrectNodeGroupSize}
    {current expected : Int} {t : Time} :
    entry.map dated = some ((current, expected), t) ↔ entry = some ⟨expected, current, t⟩ := by
  cases entry with
  | none => simp
  | some size =>
      obtain ⟨expectedSize, currentSize, firstObserved⟩ := size
      simp only [dated, Option.map_some, Option.some.injEq, Prod.mk.injEq,
        IncorrectNodeGroupSize.mk.injEq]
      tauto

/-- A mismatch of the same two numbers is the one there was. -/
theorem ClusterStateRegistry.incorrectSize_dated (csr : ClusterStateRegistry)
    (currentTime : Time) (id : String) :
    Dated ((csr.incorrectNodeGroupSizes id).map IncorrectNodeGroupSize.dated) (some currentTime)
      ((csr.incorrectSize currentTime id).map IncorrectNodeGroupSize.dated) := by
  rintro ⟨current, expected⟩ t hafter
  simp only [IncorrectNodeGroupSize.map_dated, ne_eq] at hafter ⊢
  unfold incorrectSize at hafter
  split at hafter
  case h_2 => cases hafter
  case h_1 acceptableRange readiness _ _ =>
    split at hafter
    case isFalse => cases hafter
    dsimp only at hafter
    cases hbefore : csr.incorrectNodeGroupSizes id with
    | none =>
        rw [hbefore] at hafter
        simp only [Option.some.injEq, IncorrectNodeGroupSize.mk.injEq] at hafter
        exact .inr ⟨by simp, by rw [hafter.2.2]⟩
    | some existing =>
        rw [hbefore] at hafter
        dsimp only at hafter
        split at hafter
        case isTrue => exact .inl hafter
        case isFalse hother =>
          simp only [Option.some.injEq, IncorrectNodeGroupSize.mk.injEq] at hafter
          refine .inr ⟨?_, by rw [hafter.2.2]⟩
          rintro s ⟨⟩
          exact hother ⟨hafter.2.1, hafter.1⟩

theorem UpdateCall.incorrectSize_dated {W : Type} {h : ApiService W} (csr : ClusterStateRegistry)
    (call : UpdateCall W) (hok : (call.run h csr).2 = none) (id : String) :
    Dated ((csr.incorrectNodeGroupSizes id).map IncorrectNodeGroupSize.dated)
      (some call.currentTime)
      (((call.run h csr).1.incorrectNodeGroupSizes id).map IncorrectNodeGroupSize.dated) := by
  obtain ⟨last, groups, -, -, hbefore, hafter, -⟩ :=
    csr.updateNodes_maps call.nodes call.currentTime call.mach hok
  rw [UpdateCall.run, hafter id, ← hbefore]
  split
  · exact last.incorrectSize_dated call.currentTime id
  · rintro a t ⟨⟩

/-- **Since when a group has its wrong size.** In a run of updates that succeed, the time in
the entry of a group after the `n`-th one is that of the least call `j` such that after each
of the calls `j` to `n` the group was there with these two sizes. -/
theorem firstObserved_dates_mismatch {W : Type} (h : ApiService W) (calls : List (UpdateCall W))
    (hok : AllSucceed h calls) (n : ℕ) (hn : n < calls.length) (id : String)
    (size : IncorrectNodeGroupSize)
    (hsize : (registryAfter h (calls.take (n + 1))).incorrectNodeGroupSizes id = some size) :
    ∃ j, IsLeast (stretches (fun k => ∃ other,
        (registryAfter h (calls.take (k + 1))).incorrectNodeGroupSizes id = some other ∧
          other.currentSize = size.currentSize ∧ other.expectedSize = size.expectedSize) n) j ∧
      (calls.map UpdateCall.currentTime)[j]? = some size.firstObserved := by
  obtain ⟨expectedSize, currentSize, firstObserved⟩ := size
  obtain ⟨j, hleast, hstamp⟩ := stamp_of_calls hok
    (fun csr => (csr.incorrectNodeGroupSizes id).map IncorrectNodeGroupSize.dated)
    rfl (fun csr call hcall => call.incorrectSize_dated csr hcall id) hn
    (IncorrectNodeGroupSize.map_dated.mpr hsize)
  refine ⟨j, ?_, hstamp⟩
  convert hleast using 3
  simp only [IncorrectNodeGroupSize.map_dated]
  constructor
  · rintro ⟨⟨_, _, s⟩, hentry, rfl, rfl⟩
    exact ⟨s, hentry⟩
  · rintro ⟨s, hentry⟩
    exact ⟨_, hentry, rfl, rfl⟩

/-- The second node of `g` is missing, there, and missing again. -/
def flickeringCalls : List (UpdateCall ClusterState) :=
  [⟨[node1, node5], minute, sampleMachine⟩, ⟨[node1, node2, node5], 2 * minute, sampleMachine⟩,
    ⟨[node1, node5], 3 * minute, sampleMachine⟩, ⟨[node1, node5], 4 * minute, sampleMachine⟩]

theorem flickeringCalls_succeed : AllSucceed Cluster.sample.service flickeringCalls := by
  have hall : ∀ n : Fin 4, ∀ call ∈ flickeringCalls[n]?, (call.run Cluster.sample.service
      (registryAfter Cluster.sample.service (flickeringCalls.take n))).2 = none := by
    decide +kernel
  intro n call hcall
  have hn : n < 4 := (List.getElem?_eq_some_iff.mp hcall).1
  exact hall ⟨n, hn⟩ call hcall

/-- The third update starts over, the fourth keeps its time. -/
theorem firstObserved_dates_flicker : ∃ size,
    (registryAfter Cluster.sample.service
      (flickeringCalls.take (3 + 1))).incorrectNodeGroupSizes groupG.id = some size ∧
    size = ⟨2, 1, 3 * minute⟩ ∧
    ∃ j, IsLeast (stretches (fun k => ∃ other,
        (registryAfter Cluster.sample.service
          (flickeringCalls.take (k + 1))).incorrectNodeGroupSizes groupG.id = some other ∧
          other.currentSize = size.currentSize ∧ other.expectedSize = size.expectedSize) 3) j ∧
      (flickeringCalls.map UpdateCall.currentTime)[j]? = some size.firstObserved := by
  have hsize : (registryAfter Cluster.sample.service
      (flickeringCalls.take (3 + 1))).incorrectNodeGroupSizes groupG.id =
        some ⟨2, 1, 3 * minute⟩ := by decide +kernel
  exact ⟨_, hsize, rfl, firstObserved_dates_mismatch Cluster.sample.service flickeringCalls
    flickeringCalls_succeed 3 (by decide) groupG.id _ hsize⟩

/-! ## Instances that have not registered -/

/-- The loop of `listInstances`. -/
def listingLoop : List Asg → List String → Ctl (Except String (List String))
  | [], listed => return .ok listed
  | nodeGroup :: rest, listed => do
      match ← getAsgNodes nodeGroup with
      | .error err => return .error err
      | .ok nodes => listingLoop rest (listed ++ nodes)

/-- What the node groups list as their instances, one group after the other. -/
def listInstances : Ctl (Except String (List String)) := do
  listingLoop (← nodeGroups) []

/-- The entry of an instance that was not there at `time`. -/
def UnregisteredNode.new (time : Time) (id : String) : UnregisteredNode :=
  ⟨{ name := id, providerID := id }, time⟩

/-- The not registered nodes are made of the instances listed. -/
theorem notRegisteredLoop_listing {W : Type} {h : ApiService W} (registered : List String)
    (time : Time) (groups : List Asg) (m : Machine W) (listed : List String)
    {before missing : List UnregisteredNode}
    (hmissing : ((notRegisteredLoop registered time groups before).exec h m).val =
      .ok missing) :
    ∃ ids, ((listingLoop groups listed).exec h m).val = .ok (listed ++ ids) ∧
      missing = before ++
        (ids.filter fun id => !registered.contains id).map (UnregisteredNode.new time) := by
  induction groups generalizing m listed before with
  | nil =>
      refine ⟨[], by simp [listingLoop], ?_⟩
      simpa [notRegisteredLoop] using hmissing.symm
  | cons group rest ih =>
      simp only [notRegisteredLoop, listingLoop, exec_bind, Outcome.after_val] at hmissing ⊢
      cases hnodes : ((getAsgNodes group).exec h m).val with
      | error err =>
          rw [hnodes] at hmissing
          cases hmissing
      | ok nodes =>
          rw [hnodes] at hmissing
          obtain ⟨ids, hlisting, hrest⟩ := ih _ (listed ++ nodes) hmissing
          refine ⟨nodes ++ ids, by rw [← List.append_assoc]; exact hlisting, ?_⟩
          rw [hrest, List.filter_append, List.map_append, List.append_assoc]
          rfl

namespace ClusterStateRegistry

theorem updateUnregisteredNodes_eq (csr : ClusterStateRegistry)
    (unregisteredNodes : List UnregisteredNode) :
    (csr.updateUnregisteredNodes unregisteredNodes).unregisteredNodes =
      unregisteredNodes.foldl (fun (result : String → Option UnregisteredNode) unregistered =>
        Function.update result unregistered.node.name
          (some ((csr.unregisteredNodes unregistered.node.name).getD unregistered)))
        fun _ => none := by
  refine List.foldl_ext _ _ _ fun result unregistered _ => ?_
  cases csr.unregisteredNodes unregistered.node.name with
  | none => rfl
  | some prev => rfl

/-- An instance keeps the entry it has. -/
theorem updateUnregisteredNodes_new (csr : ClusterStateRegistry) (time : Time)
    (ids : List String) (id : String) :
    (csr.updateUnregisteredNodes (ids.map (UnregisteredNode.new time))).unregisteredNodes id =
      if id ∈ ids then some ((csr.unregisteredNodes id).getD (.new time id)) else none := by
  have hloop : ∀ result : String → Option UnregisteredNode,
      (ids.map (UnregisteredNode.new time)).foldl
        (fun (result : String → Option UnregisteredNode) unregistered =>
          Function.update result unregistered.node.name
            (some ((csr.unregisteredNodes unregistered.node.name).getD unregistered))) result id =
      if id ∈ ids then some ((csr.unregisteredNodes id).getD (.new time id))
      else result id := by
    induction ids with
    | nil => intro result; rfl
    | cons first rest ih =>
        intro result
        rw [List.map_cons, List.foldl_cons, ih]
        by_cases hid : id = first
        · simp [UnregisteredNode.new, hid]
        · simp [UnregisteredNode.new, hid]
  rw [updateUnregisteredNodes_eq]
  exact hloop fun _ => none

/-- The entries are those of the instances they are filed under. -/
def NamesUnregistered (csr : ClusterStateRegistry) : Prop :=
  ∀ id entry, csr.unregisteredNodes id = some entry →
    entry.node = { name := id, providerID := id }

/-- The names returned are the keys visited. -/
theorem NamesUnregistered.getUnregisteredNodes_names {csr : ClusterStateRegistry}
    (hnames : csr.NamesUnregistered) (order : RangeOrder csr.unregisteredNodes) :
    (csr.getUnregisteredNodes order).map (fun unregistered => unregistered.node.name) =
      order.keys := by
  calc (csr.getUnregisteredNodes order).map (fun unregistered => unregistered.node.name)
      = order.keys.filterMap fun id =>
          (csr.unregisteredNodes id).map fun unregistered => unregistered.node.name :=
        List.map_filterMap
    _ = order.keys.filterMap some := by
        refine List.filterMap_congr fun id hid => ?_
        obtain ⟨entry, hentry⟩ := Option.isSome_iff_exists.mp ((order.mem_keys id).mp hid)
        rw [hentry, Option.map_some, hnames id entry hentry]
    _ = order.keys := List.filterMap_some

end ClusterStateRegistry

namespace UpdateCall

variable {W : Type} {h : ApiService W}

/-- After a call, the instances that the groups list and that no node names have an entry,
the one they had or a new one. -/
theorem unregisteredNodes_eq (csr : ClusterStateRegistry) (call : UpdateCall W)
    (hok : (call.run h csr).2 = none) :
    ∃ listed, (listInstances.exec h (getTargetSizes.exec h call.mach).mach).val = .ok listed ∧
      ∀ id, (call.run h csr).1.unregisteredNodes id =
        if id ∈ listed ∧ id ∉ call.nodes.map Node.providerID
        then some ((csr.unregisteredNodes id).getD (.new call.currentTime id)) else none := by
  obtain ⟨-, -, missing, hmissing, -, -, hafter⟩ :=
    csr.updateNodes_maps call.nodes call.currentTime call.mach hok
  obtain ⟨listed, hlisted, rfl⟩ := notRegisteredLoop_listing
    (call.nodes.map Node.providerID) call.currentTime _ _ [] hmissing
  refine ⟨listed, hlisted, fun id => ?_⟩
  rw [UpdateCall.run, hafter, List.nil_append, csr.updateUnregisteredNodes_new]
  simp only [List.mem_filter, List.contains_eq_mem, Bool.not_eq_true', decide_eq_false_iff_not]

/-- An entry after a call was there before, or is a new one. -/
theorem unregisteredNodes_cases (csr : ClusterStateRegistry) (call : UpdateCall W)
    (hok : (call.run h csr).2 = none) {id : String} {entry : UnregisteredNode}
    (hentry : (call.run h csr).1.unregisteredNodes id = some entry) :
    csr.unregisteredNodes id = some entry ∨
      csr.unregisteredNodes id = none ∧ entry = .new call.currentTime id := by
  obtain ⟨listed, -, hafter⟩ := call.unregisteredNodes_eq csr hok
  rw [hafter id] at hentry
  split at hentry
  case isFalse => cases hentry
  case isTrue =>
    cases hbefore : csr.unregisteredNodes id with
    | none =>
        rw [hbefore] at hentry
        exact .inr ⟨rfl, (Option.some.inj hentry).symm⟩
    | some prev =>
        rw [hbefore] at hentry
        exact .inl hentry

theorem unregisteredNodes_dated (csr : ClusterStateRegistry) (call : UpdateCall W)
    (hok : (call.run h csr).2 = none) (id : String) :
    Dated ((csr.unregisteredNodes id).map fun entry => ((), entry.unregisteredSince))
      (some call.currentTime)
      (((call.run h csr).1.unregisteredNodes id).map fun entry =>
        ((), entry.unregisteredSince)) := by
  intro _ t hafter
  obtain ⟨entry, hentry, heq⟩ := Option.map_eq_some_iff.mp hafter
  rcases call.unregisteredNodes_cases csr hok hentry with hbefore | ⟨hnone, rfl⟩
  · exact .inl (Option.map_eq_some_iff.mpr ⟨entry, hbefore, heq⟩)
  · refine .inr ⟨by simp [hnone], ?_⟩
    exact congrArg some (Prod.mk.inj heq).2

theorem namesUnregistered {csr : ClusterStateRegistry} (hnames : csr.NamesUnregistered)
    (call : UpdateCall W) (hok : (call.run h csr).2 = none) :
    (call.run h csr).1.NamesUnregistered := by
  intro id entry hentry
  rcases call.unregisteredNodes_cases csr hok hentry with hbefore | ⟨-, rfl⟩
  · exact hnames id entry hbefore
  · rfl

end UpdateCall

theorem registryAfter_namesUnregistered {W : Type} {h : ApiService W}
    {calls : List (UpdateCall W)} (hok : AllSucceed h calls) :
    ∀ n, n ≤ calls.length → (registryAfter h (calls.take n)).NamesUnregistered := by
  intro n
  induction n with
  | zero =>
      intro _ id entry hentry
      simp [registryAfter, newClusterStateRegistry] at hentry
  | succ n ih =>
      intro hn
      have hget : calls[n]? = some calls[n] := List.getElem?_eq_getElem (by omega)
      rw [registryAfter_take_succ h hget]
      exact UpdateCall.namesUnregistered (ih (by omega)) _ (hok n _ hget)

/-- **Instances that have not registered.** In a run of updates that succeed, the unregistered
nodes after the `n`-th one are the instances that the groups listed and that no node names
as its own, in whatever order the map is visited, each once. The time of each is that of
the least call `j` such that it was unregistered after each of the calls `j` to `n`. -/
theorem unregisteredNodes_exact {W : Type} (h : ApiService W) (calls : List (UpdateCall W))
    (hok : AllSucceed h calls) (n : ℕ) (call : UpdateCall W) (hcall : calls[n]? = some call) :
    let csr := registryAfter h (calls.take (n + 1))
    ∃ listed, (listInstances.exec h (getTargetSizes.exec h call.mach).mach).val = .ok listed ∧
      Nonempty (RangeOrder csr.unregisteredNodes) ∧
      ∀ order : RangeOrder csr.unregisteredNodes,
        let found := csr.getUnregisteredNodes order
        (found.map fun unregistered => unregistered.node.name).Nodup ∧
        (∀ id, id ∈ found.map (fun unregistered => unregistered.node.name) ↔
          id ∈ listed ∧ id ∉ call.nodes.map Node.providerID) ∧
        ∀ unregistered ∈ found, unregistered.node.providerID = unregistered.node.name ∧
          ∃ j, IsLeast (stretches (fun k => ((registryAfter h
              (calls.take (k + 1))).unregisteredNodes unregistered.node.name).isSome = true) n) j ∧
            (calls.map UpdateCall.currentTime)[j]? = some unregistered.unregisteredSince := by
  intro csr
  have hn : n < calls.length := (List.getElem?_eq_some_iff.mp hcall).1
  obtain ⟨listed, hlisted, hafter⟩ :=
    call.unregisteredNodes_eq (registryAfter h (calls.take n)) (hok n call hcall)
  rw [← registryAfter_take_succ h hcall] at hafter
  have hnames : csr.NamesUnregistered := registryAfter_namesUnregistered hok (n + 1) hn
  have hsome : ∀ id, (csr.unregisteredNodes id).isSome = true ↔
      id ∈ listed ∧ id ∉ call.nodes.map Node.providerID := by
    intro id
    rw [hafter id]
    split <;> simp_all
  refine ⟨listed, hlisted, ⟨⟨(listed.filter fun id =>
    id ∉ call.nodes.map Node.providerID).dedup, List.nodup_dedup _, ?_⟩⟩, ?_⟩
  · intro id
    rw [hsome, List.mem_dedup, List.mem_filter, decide_eq_true_iff]
  intro order found
  have hkeys := hnames.getUnregisteredNodes_names order
  refine ⟨hkeys.symm ▸ order.nodup, fun id => ?_, ?_⟩
  · rw [hkeys, order.mem_keys, hsome]
  · intro unregistered hfound
    obtain ⟨id, -, hentry⟩ := List.mem_filterMap.mp hfound
    have hnode := hnames id unregistered hentry
    obtain ⟨j, hleast, hstamp⟩ := stamp_of_calls hok
      (fun csr => (csr.unregisteredNodes id).map fun entry => ((), entry.unregisteredSince))
      rfl (fun csr call hcall => call.unregisteredNodes_dated csr hcall id) hn
      (Option.map_eq_some_iff.mpr ⟨unregistered, hentry, rfl⟩)
    refine ⟨by rw [hnode], j, ?_, hstamp⟩
    convert hleast using 3
    simp [hnode, Option.isSome_iff_exists]

/-- After the last of the four updates the second machine of `g` is unregistered since the
third, and the two spares since the first. -/
theorem unregisteredNodes_exact_flicker :
    let csr := registryAfter Cluster.sample.service (flickeringCalls.take (3 + 1))
    ∃ order : RangeOrder csr.unregisteredNodes,
      ((csr.getUnregisteredNodes order).map fun unregistered => unregistered.node.name).Nodup ∧
      (∀ id, id ∈ (csr.getUnregisteredNodes order).map
          (fun unregistered => unregistered.node.name) ↔
        id = "aws:///z/i-2" ∨ id = "aws:///z/i-3" ∨ id = "aws:///z/i-4") ∧
      csr.unregisteredNodes "aws:///z/i-2" = some (.new (3 * minute) "aws:///z/i-2") ∧
      csr.unregisteredNodes "aws:///z/i-3" = some (.new minute "aws:///z/i-3") := by
  intro csr
  obtain ⟨listed, hlisted, ⟨order⟩, hall⟩ := unregisteredNodes_exact Cluster.sample.service
    flickeringCalls flickeringCalls_succeed 3 _ rfl
  obtain ⟨hnodup, hmem, -⟩ := hall order
  have hlisting : (listInstances.exec Cluster.sample.service (getTargetSizes.exec
      Cluster.sample.service sampleMachine).mach).val.toOption = some ["aws:///z/i-1",
        "aws:///z/i-2", "aws:///z/i-3", "aws:///z/i-4", "aws:///z/i-5"] := by decide +kernel
  obtain rfl : listed = ["aws:///z/i-1", "aws:///z/i-2", "aws:///z/i-3", "aws:///z/i-4",
      "aws:///z/i-5"] := by
    rw [hlisted] at hlisting
    exact Option.some.inj hlisting
  refine ⟨order, hnodup, fun id => (hmem id).trans ?_, by decide +kernel, by decide +kernel⟩
  simp only [List.mem_cons, List.not_mem_nil, or_false, List.map_cons, List.map_nil, node1, node5]
  constructor
  · rintro ⟨hlisted, hnodes⟩
    tauto
  · rintro (rfl | rfl | rfl)
    · decide
    · decide
    · decide

end AutoNodeRepair
