import AutoNodeRepair.Logic.Cluster

/-!
# The drain filter

`GetPodsForDeletionOnNodeDrain` decides pod by pod: a pod is skipped, raises an
objection (`Blocked`), is left to its DaemonSet or is to be moved. No pod looks
at the others, so the loop fails exactly if some pod that is not skipped is
blocked, and the order of the pods matters only for the order of the result.

The two callers pass different flags and then ask the disruption budgets, one
pod at a time. A budget that allows one disruption lets any number of its pods
through.
-/

namespace AutoNodeRepair

open Interact

/-! ## One pod -/

/-- The pods the filter does not look at: mirror pods, and pods under deletion for
more than `PodDeletionTimeout`. -/
def skippedPod (t : Time) (pod : Pod) : Bool := isMirrorPod pod || longUnderDeletion pod t

/-- One of the five kinds the filter knows. -/
def ControllerKind.known : ControllerKind → Bool
  | .other _ => false
  | _ => true

/-- Controlled by a ReplicationController, Job, ReplicaSet or StatefulSet. -/
def isReplicatedPod (pod : Pod) : Bool :=
  match controllerRef pod with
  | some ref => ref.kind.known && ref.kind != .daemonSet
  | none => false

theorem tooFewReplicas_eq_some {kind : ControllerKind} {obj : ControllerObject}
    {minReplica replicas : Int} :
    tooFewReplicas kind obj minReplica = some replicas ↔
      obj.replicas = some replicas ∧ replicas < minReplica ∧
        (kind = .replicationController ∨ kind = .replicaSet) := by
  unfold tooFewReplicas
  cases obj.replicas with
  | none => cases kind <;> simp
  | some r =>
      have hspec : (if r < minReplica then some r else none) = some replicas ↔
          r = replicas ∧ replicas < minReplica := by
        by_cases hlt : r < minReplica
        · simp only [hlt, if_true, Option.some.injEq]
          exact ⟨fun heq => ⟨heq, heq ▸ hlt⟩, And.left⟩
        · simp only [hlt, if_false, reduceCtorEq, false_iff]
          rintro ⟨rfl, hlt'⟩
          exact hlt hlt'
      cases kind <;> simp [hspec]

/-- With selectors that parse, the lookup among the budgets of `kube-system` is a search. -/
theorem checkKubeSystemPDBs_valid {pdbs : List PodDisruptionBudget}
    (hvalid : ∀ pdb ∈ pdbs, ∃ selector, pdb.selector = .ok selector) {pod : Pod}
    (hns : pod.ns = "kube-system") :
    checkKubeSystemPDBs pod (pdbs.filter fun pdb => pdb.ns == "kube-system") =
      .ok (pdbs.any fun pdb => pdb.covers pod) := by
  induction pdbs with
  | nil => rfl
  | cons pdb rest ih =>
      obtain ⟨selector, hselector⟩ := hvalid pdb List.mem_cons_self
      have hrest := ih fun other hother => hvalid other (List.mem_cons_of_mem _ hother)
      rw [List.filter_cons, List.any_cons]
      by_cases hpdb : pdb.ns = "kube-system"
      · have hcovers : pdb.covers pod = selector pod.labels := by
          simp [PodDisruptionBudget.covers, hselector, hns, hpdb]
        simp only [hpdb, beq_self_eq_true, if_true, checkKubeSystemPDBs, hselector, hrest, hcovers]
        cases selector pod.labels <;> rfl
      · have hcovers : pdb.covers pod = false := by
          simp [PodDisruptionBudget.covers, hns, Ne.symm hpdb]
        simp only [beq_eq_false_iff_ne.mpr hpdb, Bool.false_eq_true, if_false, hrest, hcovers,
          Bool.false_or]

theorem deletionObjection_error_iff {pdbs : List PodDisruptionBudget}
    (hvalid : ∀ pdb ∈ pdbs, ∃ selector, pdb.selector = .ok selector)
    (skipSystem skipLocal : Bool) (pod : Pod) (replicated : Bool) :
    (∃ err, deletionObjection pod replicated (pdbs.filter fun pdb => pdb.ns == "kube-system")
        skipSystem skipLocal = .error err) ↔
      replicated = false ∨
        (pod.ns = "kube-system" ∧ skipSystem = true ∧ ∀ pdb ∈ pdbs, pdb.covers pod = false) ∨
        (hasLocalStorage pod = true ∧ skipLocal = true) := by
  have hlocal : (∃ err, (if (hasLocalStorage pod && skipLocal) = true then
      .error s!"pod with local storage present: {pod.name}" else .ok () : Except String Unit) =
        .error err) ↔ hasLocalStorage pod = true ∧ skipLocal = true := by
    split <;> simp_all
  unfold deletionObjection
  cases replicated with
  | false => simp
  | true =>
      simp only [Bool.not_true, Bool.false_eq_true, if_false, reduceCtorEq, false_or]
      by_cases hsystem : (pod.ns == "kube-system" && skipSystem) = true
      · rw [if_pos hsystem]
        simp only [Bool.and_eq_true, beq_iff_eq] at hsystem
        rw [checkKubeSystemPDBs_valid hvalid hsystem.1]
        cases hany : pdbs.any fun pdb => pdb.covers pod with
        | true =>
            obtain ⟨pdb, hpdb, hcovers⟩ := List.any_eq_true.mp hany
            rw [hlocal]
            refine ⟨.inr, fun hor => hor.resolve_left ?_⟩
            rintro ⟨-, -, hnone⟩
            simp [hnone pdb hpdb] at hcovers
        | false =>
            have hnone : ∀ pdb ∈ pdbs, pdb.covers pod = false := by simpa using hany
            exact ⟨fun _ => .inl ⟨hsystem.1, hsystem.2, hnone⟩, fun _ => ⟨_, rfl⟩⟩
      · rw [if_neg hsystem, hlocal]
        refine ⟨.inr, fun hor => hor.resolve_left ?_⟩
        rintro ⟨hns, hskip, -⟩
        exact hsystem (by simp [hns, hskip])

/-- What the API server answers when a controller is fetched; `none` if none is. -/
abbrev Fetched := Option (Except KubeError (Option ControllerObject))

/-- The flags of `GetPodsForDeletionOnNodeDrain`. -/
structure DrainFlags where
  deleteAll : Bool
  skipSystem : Bool
  skipLocal : Bool
  checkReferences : Bool
  minReplica : Int

namespace DrainFlags

section

variable (flags : DrainFlags) (pdbs : List PodDisruptionBudget) (t : Time)

/-- The fetch of a pod's controller, if references are checked and its kind is known. -/
def fetchController (pod : Pod) : Ctl Fetched :=
  match controllerRef pod with
  | some ref =>
      if flags.checkReferences && ref.kind.known then do
        return some (← getController ref.kind pod.ns ref.name)
      else return none
  | none => return none

/-- The controller was fetched in vain, or has too few replicas. -/
def ReferenceFails (pod : Pod) (fetched : Fetched) : Prop :=
  ∃ ref, controllerRef pod = some ref ∧ ref.kind.known = true ∧
    ((∃ err, fetched = some (.error err)) ∨ fetched = some (.ok none) ∨
      ∃ obj replicas, fetched = some (.ok (some obj)) ∧ obj.replicas = some replicas ∧
        replicas < flags.minReplica ∧
        (ref.kind = .replicationController ∨ ref.kind = .replicaSet))

/-- What keeps the node from being drained. -/
def Blocked (pod : Pod) (fetched : Fetched) : Prop :=
  (flags.checkReferences = true ∧ flags.ReferenceFails pod fetched) ∨
    (isDaemonSetPod pod = false ∧ flags.deleteAll = false ∧
      (isReplicatedPod pod = false ∨
        (pod.ns = "kube-system" ∧ flags.skipSystem = true ∧ ∀ pdb ∈ pdbs, pdb.covers pod = false) ∨
        (hasLocalStorage pod = true ∧ flags.skipLocal = true)))

/-- The test of a fetched controller. -/
def weigh (kind : ControllerKind) (pod : Pod) :
    Except KubeError (Option ControllerObject) → Except String ControllerVerdict
  | .error err => .error (controllerUnavailable kind pod err.msg)
  | .ok none => .error (controllerUnavailable kind pod "<nil>")
  | .ok (some obj) =>
      match tooFewReplicas kind obj flags.minReplica with
      | some replicas =>
          .error s!"replication controller for {pod.ns}/{pod.name} has too few replicas spec: {replicas} min: {flags.minReplica}"
      | none => .ok (verdictOf kind)

/-- The test of a pod's controller, the answer given. -/
def judge (pod : Pod) (fetched : Fetched) : Except String ControllerVerdict :=
  match controllerRef pod, fetched with
  | none, _ => .ok ⟨false, false⟩
  | some ref, none => .ok (verdictOf ref.kind)
  | some ref, some answer =>
      if flags.checkReferences && ref.kind.known then flags.weigh ref.kind pod answer
      else .ok (verdictOf ref.kind)

theorem controllerVerdict_known {ref : OwnerReference} {pod : Pod}
    (href : controllerRef pod = some ref) (hknown : ref.kind.known = true) :
    controllerVerdict pod flags.checkReferences flags.minReplica =
      if flags.checkReferences then do
        return flags.weigh ref.kind pod (← getController ref.kind pod.ns ref.name)
      else return .ok (verdictOf ref.kind) := by
  have hask : ∀ kind name, (if flags.checkReferences then do
      match ← getController kind pod.ns name with
      | .error err => return .error (controllerUnavailable kind pod err.msg)
      | .ok none => return .error (controllerUnavailable kind pod "<nil>")
      | .ok (some obj) =>
          match tooFewReplicas kind obj flags.minReplica with
          | some replicas =>
              return .error
                s!"replication controller for {pod.ns}/{pod.name} has too few replicas spec: {replicas} min: {flags.minReplica}"
          | none => return .ok (verdictOf kind)
      else return .ok (verdictOf kind) : Ctl (Except String ControllerVerdict)) =
      if flags.checkReferences then do
        return flags.weigh kind pod (← getController kind pod.ns name)
      else return .ok (verdictOf kind) := by
    intro kind name
    cases flags.checkReferences with
    | false => rfl
    | true =>
        refine congrArg (Prog.bind (getController kind pod.ns name)) (funext fun answer => ?_)
        rcases answer with err | _ | obj
        · rfl
        · rfl
        · simp only [weigh]
          cases tooFewReplicas kind obj flags.minReplica <;> rfl
  obtain ⟨kind, name, controller⟩ := ref
  unfold controllerVerdict
  rw [href]
  -- five arms of the source, one question
  cases kind
  case other => simp [ControllerKind.known] at hknown
  all_goals exact hask _ name

/-- The controller's verdict is the fetch, judged. -/
theorem controllerVerdict_eq (pod : Pod) :
    controllerVerdict pod flags.checkReferences flags.minReplica = do
      return flags.judge pod (← flags.fetchController pod) := by
  cases href : controllerRef pod with
  | none =>
      simp only [controllerVerdict, fetchController, judge, href]
      rfl
  | some ref =>
      by_cases hknown : ref.kind.known = true
      · rw [flags.controllerVerdict_known href hknown]
        have hjudge : ∀ answer, flags.checkReferences = true →
            flags.judge pod (some answer) = flags.weigh ref.kind pod answer := by
          intro answer hcheck
          simp [judge, href, hcheck, hknown]
        by_cases hcheck : flags.checkReferences = true
        · simp only [fetchController, href, hcheck, hknown, Bool.and_true, if_true,
            ← hjudge _ hcheck]
          rfl
        · simp only [fetchController, judge, href, hcheck, Bool.false_eq_true, if_false,
            Bool.false_and]
          rfl
      · have hother : ∃ kind, ref.kind = .other kind := by
          cases hkind : ref.kind <;> simp_all [ControllerKind.known]
        obtain ⟨kind, hkind⟩ := hother
        have hfetch : flags.fetchController pod = pure none := by
          simp [fetchController, href, hknown]
        simp only [controllerVerdict, hfetch, judge, href, hkind]
        rw [← hkind]
        rfl

theorem weigh_cases (kind : ControllerKind) (pod : Pod)
    (answer : Except KubeError (Option ControllerObject)) :
    (flags.weigh kind pod answer = .ok (verdictOf kind) ∧ ∃ obj, answer = .ok (some obj) ∧
        tooFewReplicas kind obj flags.minReplica = none) ∨
      ((∃ err, flags.weigh kind pod answer = .error err) ∧
        ((∃ err, answer = .error err) ∨ answer = .ok none ∨
          ∃ obj replicas, answer = .ok (some obj) ∧
            tooFewReplicas kind obj flags.minReplica = some replicas)) := by
  rcases answer with err | _ | obj
  · exact .inr ⟨⟨_, rfl⟩, .inl ⟨err, rfl⟩⟩
  · exact .inr ⟨⟨_, rfl⟩, .inr (.inl rfl)⟩
  · cases hfew : tooFewReplicas kind obj flags.minReplica with
    | none => exact .inl ⟨by simp [weigh, hfew], obj, rfl, hfew⟩
    | some replicas =>
        exact .inr ⟨⟨_, by simp only [weigh, hfew]; rfl⟩, .inr (.inr ⟨obj, replicas, rfl, hfew⟩)⟩

/-- The controller raises no objection, or the pod is blocked by its reference. -/
theorem judge_cases (pod : Pod) (fetched : Fetched) :
    (flags.judge pod fetched = .ok ⟨isDaemonSetPod pod, isReplicatedPod pod⟩ ∧
      ¬ (flags.checkReferences = true ∧ flags.ReferenceFails pod fetched)) ∨
    ((∃ err, flags.judge pod fetched = .error err) ∧
      flags.checkReferences = true ∧ flags.ReferenceFails pod fetched) := by
  unfold judge isDaemonSetPod isReplicatedPod ReferenceFails
  cases controllerRef pod with
  | none => exact .inl ⟨rfl, by simp⟩
  | some ref =>
      have hverdict : verdictOf ref.kind =
          ⟨ref.kind == .daemonSet, ref.kind.known && ref.kind != .daemonSet⟩ := by
        cases ref.kind <;> rfl
      simp only [Option.some.injEq, exists_eq_left']
      cases fetched with
      | none => exact .inl ⟨congrArg _ hverdict, by simp⟩
      | some answer =>
          by_cases hchecked : (flags.checkReferences && ref.kind.known) = true
          · simp only [if_pos hchecked]
            rw [Bool.and_eq_true] at hchecked
            rcases flags.weigh_cases ref.kind pod answer with
              ⟨hok, obj, rfl, hfew⟩ | ⟨herr, hfails⟩
            · refine .inl ⟨hok.trans (congrArg _ hverdict), ?_⟩
              rintro ⟨-, -, ⟨err, herr⟩ | hnil | ⟨obj', replicas, hobj, hreps, hlt, hkind⟩⟩
              · simp at herr
              · simp at hnil
              · simp only [Option.some.injEq, Except.ok.injEq] at hobj
                subst hobj
                rw [tooFewReplicas_eq_some.mpr ⟨hreps, hlt, hkind⟩] at hfew
                simp at hfew
            · refine .inr ⟨herr, hchecked.1, hchecked.2, ?_⟩
              rcases hfails with ⟨err, rfl⟩ | rfl | ⟨obj, replicas, rfl, hfew⟩
              · exact .inl ⟨err, rfl⟩
              · exact .inr (.inl rfl)
              · exact .inr (.inr ⟨obj, replicas, rfl, tooFewReplicas_eq_some.mp hfew⟩)
          · simp only [if_neg hchecked]
            refine .inl ⟨congrArg _ hverdict, ?_⟩
            rintro ⟨hcheck, hknown, -⟩
            exact hchecked (by simp [hcheck, hknown])

/-- The verdict on one pod that is not skipped: an objection, or whether to move it. -/
def podVerdict (pod : Pod) (fetched : Fetched) : Except String Bool :=
  match flags.judge pod fetched with
  | .error err => .error err
  | .ok verdict =>
      if verdict.daemonsetPod then .ok false
      else
        match (if flags.deleteAll then .ok () else
          deletionObjection pod verdict.replicated (pdbs.filter fun pdb => pdb.ns == "kube-system")
            flags.skipSystem flags.skipLocal : Except String Unit) with
        | .error err => .error err
        | .ok () => .ok true

/-- Whatever is decided without an objection, the DaemonSet's pods stay. -/
theorem podVerdict_ok {pod : Pod} {fetched : Fetched} {move : Bool}
    (hok : flags.podVerdict pdbs pod fetched = .ok move) : move = !isDaemonSetPod pod := by
  unfold podVerdict at hok
  rcases flags.judge_cases pod fetched with ⟨hjudge, -⟩ | ⟨⟨err, hjudge⟩, -⟩
  · simp only [hjudge] at hok
    cases hds : isDaemonSetPod pod with
    | true => simpa [hds] using hok.symm
    | false =>
        simp only [hds, Bool.false_eq_true, if_false] at hok
        split at hok
        · simp at hok
        · simpa using hok.symm
  · simp [hjudge] at hok

/-- An objection is raised exactly against a blocked pod. -/
theorem podVerdict_error_iff {pdbs : List PodDisruptionBudget}
    (hvalid : ∀ pdb ∈ pdbs, ∃ selector, pdb.selector = .ok selector) (pod : Pod)
    (fetched : Fetched) :
    (∃ err, flags.podVerdict pdbs pod fetched = .error err) ↔ flags.Blocked pdbs pod fetched := by
  unfold podVerdict Blocked
  rcases flags.judge_cases pod fetched with ⟨hjudge, hgood⟩ | ⟨⟨err, hjudge⟩, hbad⟩
  · simp only [hjudge, hgood, false_or]
    rw [← deletionObjection_error_iff hvalid]
    cases isDaemonSetPod pod with
    | true => simp
    | false =>
        cases flags.deleteAll with
        | true => simp
        | false =>
            simp only [Bool.false_eq_true, if_false, true_and]
            cases deletionObjection pod (isReplicatedPod pod) _ flags.skipSystem flags.skipLocal <;>
              simp
  · simp only [hjudge]
    exact ⟨fun _ => .inl hbad, fun _ => ⟨err, rfl⟩⟩

/-! ## The loop -/

/-- The pods that are not skipped, each with its controller as fetched in its turn. -/
def fetchControllers : List Pod → Ctl (List (Pod × Fetched))
  | [] => return []
  | pod :: rest =>
      if skippedPod t pod then fetchControllers rest
      else do
        let fetched ← flags.fetchController pod
        let others ← fetchControllers rest
        return (pod, fetched) :: others

/-- The pods to move, or the first objection. -/
def collectPods : List (Pod × Fetched) → Except String (List Pod)
  | [] => .ok []
  | (pod, fetched) :: rest =>
      match flags.podVerdict pdbs pod fetched with
      | .error err => .error err
      | .ok false => collectPods rest
      | .ok true =>
          match collectPods rest with
          | .error err => .error err
          | .ok pods => .ok (pod :: pods)

variable {W : Type} {h : ApiService W}

/-- The loop returns what the fetches, had they all been made, lead to. -/
theorem getPodsForDeletion_val (podList : List Pod) (m : Machine W) :
    ((getPodsForDeletionOnNodeDrain podList pdbs flags.deleteAll flags.skipSystem
        flags.skipLocal flags.checkReferences flags.minReplica t).exec h m).val =
      flags.collectPods pdbs ((flags.fetchControllers t podList).exec h m).val := by
  unfold getPodsForDeletionOnNodeDrain
  induction podList generalizing m with
  | nil => rfl
  | cons pod rest ih =>
      have hdef : (isMirrorPod pod || longUnderDeletion pod t) = skippedPod t pod := rfl
      simp only [drainFilter, fetchControllers, hdef]
      by_cases hskip : skippedPod t pod = true
      · simp only [hskip, if_true]
        exact ih m
      · simp only [hskip, Bool.false_eq_true, if_false, controllerVerdict_eq, exec_bind, exec_pure,
          Outcome.after_val, Outcome.after_mach, collectPods, podVerdict]
        cases flags.judge pod ((flags.fetchController pod).exec h m).val with
        | error err => rfl
        | ok verdict =>
            by_cases hds : verdict.daemonsetPod = true
            · simp only [hds, if_true]
              exact ih _
            · simp only [hds, Bool.false_eq_true, if_false]
              -- both sides ask the same of the pod
              generalize (if flags.deleteAll = true then .ok () else deletionObjection pod
                verdict.replicated _ flags.skipSystem flags.skipLocal : Except String Unit) =
                  objection
              cases objection with
              | error err => rfl
              | ok _ =>
                  simp only [exec_bind, Outcome.after_val, ih]
                  cases flags.collectPods pdbs ((flags.fetchControllers t rest).exec h
                    ((flags.fetchController pod).exec h m).mach).val <;> rfl

theorem fetchControllers_fst (podList : List Pod) (m : Machine W) :
    ((flags.fetchControllers t podList).exec h m).val.map Prod.fst =
      podList.filter fun pod => !skippedPod t pod := by
  induction podList generalizing m with
  | nil => rfl
  | cons pod rest ih =>
      unfold fetchControllers
      cases hskip : skippedPod t pod with
      | true => simpa [hskip] using ih m
      | false => simpa [hskip] using ih _

theorem collectPods_error_iff (asked : List (Pod × Fetched)) :
    (∃ err, flags.collectPods pdbs asked = .error err) ↔
      ∃ p ∈ asked, ∃ err, flags.podVerdict pdbs p.1 p.2 = .error err := by
  induction asked with
  | nil => simp [collectPods]
  | cons p rest ih =>
      obtain ⟨pod, fetched⟩ := p
      simp only [collectPods, List.exists_mem_cons_iff, ← ih]
      rcases flags.podVerdict pdbs pod fetched with err | _ | _
      · simp
      · simp
      · cases flags.collectPods pdbs rest <;> simp

theorem collectPods_ok {asked : List (Pod × Fetched)} {pods : List Pod}
    (hok : flags.collectPods pdbs asked = .ok pods) :
    pods = (asked.map Prod.fst).filter fun pod => !isDaemonSetPod pod := by
  induction asked generalizing pods with
  | nil =>
      simp only [collectPods, Except.ok.injEq] at hok
      simp [← hok]
  | cons p rest ih =>
      obtain ⟨pod, fetched⟩ := p
      simp only [collectPods] at hok
      rcases hverdict : flags.podVerdict pdbs pod fetched with err | move
      · simp [hverdict] at hok
      · have hmove := flags.podVerdict_ok pdbs hverdict
        rw [List.map_cons, List.filter_cons, ← hmove]
        cases move with
        | false =>
            simp only [hverdict] at hok
            simpa using ih hok
        | true =>
            cases hrest : flags.collectPods pdbs rest with
            | error err => simp [hverdict, hrest] at hok
            | ok others =>
                simp only [hverdict, hrest, Except.ok.injEq] at hok
                simp [← hok, ih hrest]

/-- The pods the filter lets through are those neither skipped nor a DaemonSet's. -/
theorem getPodsForDeletion_ok {podList pods : List Pod} {m : Machine W}
    (hok : ((getPodsForDeletionOnNodeDrain podList pdbs flags.deleteAll flags.skipSystem
        flags.skipLocal flags.checkReferences flags.minReplica t).exec h m).val = .ok pods) :
    pods = podList.filter fun pod => !exemptPod t pod := by
  rw [getPodsForDeletion_val] at hok
  rw [flags.collectPods_ok pdbs hok, fetchControllers_fst, List.filter_filter]
  refine List.filter_congr fun pod _ => ?_
  simp [exemptPod, skippedPod, Bool.and_comm]

/-- The controllers of an API server whose answers do not change. -/
def fetchedFrom
    (fetch : ControllerKind → String → String → Except KubeError (Option ControllerObject))
    (pod : Pod) : Fetched :=
  match controllerRef pod with
  | some ref =>
      if flags.checkReferences && ref.kind.known then some (fetch ref.kind pod.ns ref.name)
      else none
  | none => none

theorem fetchControllers_fixed
    {fetch : ControllerKind → String → String → Except KubeError (Option ControllerObject)}
    (hfetch : ∀ w kind ns name, (h w (.getController kind ns name)).1 = fetch kind ns name)
    (podList : List Pod) (m : Machine W) :
    ((flags.fetchControllers t podList).exec h m).val =
      (podList.filter fun pod => !skippedPod t pod).map fun pod =>
        (pod, flags.fetchedFrom fetch pod) := by
  have hone : ∀ (pod : Pod) (m : Machine W), ((flags.fetchController pod).exec h m).val =
      flags.fetchedFrom fetch pod := by
    intro pod m
    unfold fetchController fetchedFrom
    split
    · rename_i ref href
      split
      · exact congrArg some (hfetch m.world ref.kind pod.ns ref.name)
      · rfl
    · rfl
  induction podList generalizing m with
  | nil => rfl
  | cons pod rest ih =>
      unfold fetchControllers
      cases hskip : skippedPod t pod with
      | true => simpa [hskip] using ih m
      | false => simp [hskip, hone, ih]

end

end DrainFlags

/-! ## The exact meaning of the filter -/

/-- The two values `GetPodsForDeletionOnNodeDrain` returns: every error comes with the
empty list. -/
def drainResult : Except String (List Pod) → List Pod × Option String
  | .ok pods => (pods, none)
  | .error err => ([], some err)

section

variable {W : Type} (h : ApiService W) (podList : List Pod) {pdbs : List PodDisruptionBudget}
  (hvalid : ∀ pdb ∈ pdbs, ∃ selector, pdb.selector = .ok selector) (flags : DrainFlags)
  (t : Time) (m : Machine W)
include hvalid

theorem getPodsForDeletion_error_iff :
    (∃ err, ((getPodsForDeletionOnNodeDrain podList pdbs flags.deleteAll flags.skipSystem
        flags.skipLocal flags.checkReferences flags.minReplica t).exec h m).val = .error err) ↔
      ∃ p ∈ ((flags.fetchControllers t podList).exec h m).val, flags.Blocked pdbs p.1 p.2 := by
  rw [flags.getPodsForDeletion_val, flags.collectPods_error_iff]
  simp only [flags.podVerdict_error_iff hvalid]

/-- The filter fails, with the empty list, exactly if some pod that is not skipped is
blocked; otherwise it returns the pods neither skipped nor a DaemonSet's, in their
order. Where the API server gives each controller the same answer at any time, the
order of the pods does not matter for success. -/
theorem getPodsForDeletionOnNodeDrain_exact :
    let run := fun pods m => ((getPodsForDeletionOnNodeDrain pods pdbs flags.deleteAll
      flags.skipSystem flags.skipLocal flags.checkReferences flags.minReplica t).exec h m).val
    let asked := ((flags.fetchControllers t podList).exec h m).val
    let blocked := ∃ p ∈ asked, flags.Blocked pdbs p.1 p.2
    asked.map Prod.fst = podList.filter (fun pod => !skippedPod t pod) ∧
      ((∃ err, drainResult (run podList m) = ([], some err)) ↔ blocked) ∧
      (¬ blocked → drainResult (run podList m) =
        (podList.filter fun pod => !skippedPod t pod && !isDaemonSetPod pod, none)) ∧
      ∀ fetch : ControllerKind → String → String → Except KubeError (Option ControllerObject),
        (∀ w kind ns name, (h w (.getController kind ns name)).1 = fetch kind ns name) →
        ∀ podList' m', podList.Perm podList' →
          (run podList' m').isOk = (run podList m).isOk := by
  intro run asked blocked
  have herror : ∀ pods m, (∃ err, run pods m = .error err) ↔
      ∃ p ∈ ((flags.fetchControllers t pods).exec h m).val, flags.Blocked pdbs p.1 p.2 :=
    fun pods m => getPodsForDeletion_error_iff h pods hvalid flags t m
  refine ⟨flags.fetchControllers_fst t podList m, ?_, ?_, ?_⟩
  · refine Iff.trans ?_ (herror podList m)
    cases run podList m with
    | error err => simp [drainResult]
    | ok pods => simp [drainResult]
  · intro hfree
    cases hrun : run podList m with
    | error err => exact absurd ((herror podList m).mp ⟨err, hrun⟩) hfree
    | ok pods =>
        rw [flags.getPodsForDeletion_ok pdbs t hrun, drainResult]
        simp [exemptPod, skippedPod]
  · intro fetch hfetch podList' m' hperm
    -- blocked pods are a matter of membership once the answers are fixed
    have hsame : (∃ err, run podList' m' = .error err) ↔ ∃ err, run podList m = .error err := by
      rw [herror, herror, flags.fetchControllers_fixed t hfetch,
        flags.fetchControllers_fixed t hfetch]
      have hmem := fun p => ((hperm.filter fun pod => !skippedPod t pod).map fun pod =>
        (pod, flags.fetchedFrom fetch pod)).mem_iff (a := p)
      simp only [hmem]
    cases hrun : run podList m <;> cases hrun' : run podList' m' <;>
      simp_all [Except.isOk, Except.toBool]

end

/-- A pod of a ReplicaSet. -/
def webPod (name : String) : Pod where
  ns := "default"
  name := name
  nodeName := "n1"
  labels := [("app", "web")]
  ownerReferences := [{ kind := .replicaSet, name := "web", controller := some true }]

/-- A pod of a DaemonSet. -/
def agentPod : Pod where
  ns := "kube-system"
  name := "agent"
  nodeName := "n1"
  ownerReferences := [{ kind := .daemonSet, name := "agent", controller := some true }]

/-- A budget for the pods of the ReplicaSet that allows one disruption. -/
def webBudget : PodDisruptionBudget where
  ns := "default"
  selector := .ok fun labels => labels.contains ("app", "web")
  podDisruptionsAllowed := 1

/-- Without reference checks the pods of a ReplicaSet pass and that of a DaemonSet is left
out. -/
theorem getPodsForDeletionOnNodeDrain_exact_sample :
    let pods := [webPod "web-1", agentPod, webPod "web-2"]
    let flags : DrainFlags := ⟨false, true, true, false, 0⟩
    let run := ((getPodsForDeletionOnNodeDrain pods [webBudget] flags.deleteAll flags.skipSystem
      flags.skipLocal flags.checkReferences flags.minReplica 0).exec Cluster.sample.service
      sampleMachine).val
    drainResult run = ([webPod "web-1", webPod "web-2"], none) ∧
      ((∃ err, drainResult run = ([], some err)) ↔
        ∃ p ∈ ((flags.fetchControllers 0 pods).exec Cluster.sample.service sampleMachine).val,
          flags.Blocked [webBudget] p.1 p.2) := by
  intro pods flags run
  refine ⟨by decide, ?_⟩
  exact (getPodsForDeletionOnNodeDrain_exact Cluster.sample.service pods
    (by simp [webBudget]) flags 0 sampleMachine).2.1

/-! ## The two checks -/

section

variable {W W' : Type}

theorem getPodsThenCheckPdbs_ok {h : ApiService W} {pdbs : List PodDisruptionBudget}
    {filter : Ctl (Except String (List Pod))} {m : Machine W} {pods : List Pod} :
    ((getPodsThenCheckPdbs pdbs filter).exec h m).val = .ok pods ↔
      (filter.exec h m).val = .ok pods ∧ checkPdbs pods pdbs = .ok () := by
  simp only [getPodsThenCheckPdbs, exec_bind, Outcome.after_val]
  cases (filter.exec h m).val with
  | error err => simp
  | ok found =>
      cases hcheck : checkPdbs found pdbs with
      | error err =>
          simp only [hcheck, exec_pure, reduceCtorEq, Except.ok.injEq, false_iff, not_and]
          rintro rfl
          simp [hcheck]
      | ok _ =>
          simp only [hcheck, exec_pure, Except.ok.injEq]
          exact ⟨fun heq => ⟨heq, heq ▸ hcheck⟩, And.left⟩

/-- What the fast check returns is what is left of the node's pods. -/
theorem fastGetPodsToMove_ok {h : ApiService W} {nodePods pods : List Pod}
    {skipSystem skipLocal : Bool} {pdbs : List PodDisruptionBudget} {m : Machine W}
    (hok : ((fastGetPodsToMove nodePods skipSystem skipLocal pdbs).exec h m).val = .ok pods) :
    movablePods pdbs (h m.world .now).1 nodePods = .ok pods := by
  simp only [fastGetPodsToMove, exec_bind, now_exec, Outcome.after_val,
    getPodsThenCheckPdbs_ok] at hok
  exact movablePods_eq_ok.mpr ⟨DrainFlags.getPodsForDeletion_ok
    ⟨false, skipSystem, skipLocal, false, 0⟩ pdbs _ hok.1, hok.2⟩

/-- At the same time, what the fast check lets through the detailed check lets through;
and no pod of either result is covered by a budget that is used up. -/
theorem fastGetPodsToMove_agrees (h : ApiService W) (h' : ApiService W') (m : Machine W)
    (m' : Machine W') (hclock : (h m.world .now).1 = (h' m'.world .now).1) (nodePods : List Pod)
    (skipSystem skipLocal : Bool) (minReplicaCount : Int) (pdbs : List PodDisruptionBudget) :
    let fast := ((fastGetPodsToMove nodePods skipSystem skipLocal pdbs).exec h m).val
    let detailed := ((detailedGetPodsForMove nodePods skipSystem skipLocal minReplicaCount
      pdbs).exec h' m').val
    (∀ pods, fast = .ok pods → detailed = .ok pods) ∧
      ∀ pods, fast = .ok pods ∨ detailed = .ok pods →
        ∀ pod ∈ pods, ∀ pdb ∈ pdbs, pdb.covers pod = true → ¬ pdb.podDisruptionsAllowed < 1 := by
  intro fast detailed
  have hdetailed : detailed = movablePods pdbs (h' m'.world .now).1 nodePods :=
    congrArg Outcome.val (detailedGetPodsForMove_exec h' nodePods skipSystem skipLocal
      minReplicaCount pdbs m')
  have hagree : ∀ pods, fast = .ok pods → detailed = .ok pods := by
    intro pods hfast
    rw [hdetailed, ← hclock]
    exact fastGetPodsToMove_ok hfast
  refine ⟨hagree, ?_⟩
  intro pods hpods pod hpod pdb hpdb hcovers
  have hok : detailed = .ok pods := hpods.elim (hagree pods) id
  rw [hdetailed, movablePods_eq_ok] at hok
  have hallowed := ((checkPdbs_ok_iff pods pdbs).mp hok.2 pdb hpdb).2 pod hpod hcovers
  omega

/-- Two pods of one ReplicaSet, for which both checks succeed. -/
theorem fastGetPodsToMove_agrees_sample :
    let nodePods := [webPod "web-1", agentPod, webPod "web-2"]
    let fast := ((fastGetPodsToMove nodePods true true [webBudget]).exec Cluster.sample.service
      sampleMachine).val
    let detailed := ((detailedGetPodsForMove nodePods true true 3 [webBudget]).exec
      Cluster.sample.service sampleMachine).val
    fast = .ok [webPod "web-1", webPod "web-2"] ∧
      (∀ pods, fast = .ok pods → detailed = .ok pods) ∧
      ∀ pods, fast = .ok pods ∨ detailed = .ok pods → ∀ pod ∈ pods, ∀ pdb ∈ [webBudget],
        pdb.covers pod = true → ¬ pdb.podDisruptionsAllowed < 1 :=
  ⟨by decide, fastGetPodsToMove_agrees Cluster.sample.service Cluster.sample.service
    sampleMachine sampleMachine rfl [webPod "web-1", agentPod, webPod "web-2"] true true 3
    [webBudget]⟩

/-! ## Budgets and numbers -/

/-- A drain that is let through stays within every budget exactly if some budget refuses
it anyway or none covers more of the node's pods than it allows disruptions. -/
theorem detailedGetPodsForMove_fits_iff (h : ApiService W) (m : Machine W) (nodePods : List Pod)
    (skipSystem skipLocal : Bool) (minReplicaCount : Int) (pdbs : List PodDisruptionBudget) :
    let toMove := nodePods.filter fun pod => !exemptPod (h m.world .now).1 pod
    (∀ pods, ((detailedGetPodsForMove nodePods skipSystem skipLocal minReplicaCount pdbs).exec
        h m).val = .ok pods →
      ∀ pdb ∈ pdbs, (pods.countP pdb.covers : Int) ≤ pdb.podDisruptionsAllowed) ↔
    (∃ pdb ∈ pdbs, pdb.Refuses toMove) ∨
      ∀ pdb ∈ pdbs, (toMove.countP pdb.covers : Int) ≤ pdb.podDisruptionsAllowed := by
  intro toMove
  simp only [detailedGetPodsForMove_exec, movablePods_eq_ok]
  constructor
  · intro hfits
    by_cases hcheck : checkPdbs toMove pdbs = .ok ()
    · exact .inr (hfits toMove ⟨rfl, hcheck⟩)
    · rw [checkPdbs_ok_iff_refuses, not_not] at hcheck
      exact .inl hcheck
  · rintro hcond pods ⟨rfl, hcheck⟩
    exact hcond.resolve_left ((checkPdbs_ok_iff_refuses _ _).mp hcheck)

end

/-- A budget that allows one disruption lets two of its pods go. -/
theorem detailedGetPodsForMove_exceeds_budget :
    let pods := [webPod "web-1", webPod "web-2"]
    ((detailedGetPodsForMove pods true true 0 [webBudget]).exec Cluster.sample.service
        sampleMachine).val = .ok pods ∧
      pods.countP webBudget.covers = 2 ∧ webBudget.podDisruptionsAllowed = 1 := by
  decide

end AutoNodeRepair
