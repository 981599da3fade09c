import AutoNodeRepair.Model.Api

/-!
# Which pods a drain has to move

`utils/drain/drain.go` and `simulator/drain.go`: the filter deciding which pods
of a node must be evicted and whether the node may be drained at all. The two
callers differ only in the flags they pass: the fast check looks at the skip
flags, the detailed one sets `deleteAll` and so never consults them.
-/

namespace AutoNodeRepair

open Interact

/-- `PodDeletionTimeout`. -/
def podDeletionTimeout : Duration := 12 * minute

/-- `types.ConfigMirrorAnnotationKey`. -/
def configMirrorAnnotationKey : String := "kubernetes.io/config.mirror"

/-- `ControllerRef`, i.e. `metav1.GetControllerOf`. -/
def controllerRef (pod : Pod) : Option OwnerReference :=
  pod.ownerReferences.find? fun ref => ref.controller == some true

/-- `IsMirrorPod`. -/
def isMirrorPod (pod : Pod) : Bool :=
  pod.annotations.any fun entry => entry.1 == configMirrorAnnotationKey

/-- `isLocalVolume`. -/
def isLocalVolume (volume : Volume) : Bool := volume.hostPath || volume.emptyDir

/-- `HasLocalStorage`. -/
def hasLocalStorage (pod : Pod) : Bool := pod.volumes.any isLocalVolume

/-- Under deletion for more than `PodDeletionTimeout`. -/
def longUnderDeletion (pod : Pod) (currentTime : Time) : Bool :=
  match pod.deletionTimestamp with
  | none => false
  | some t => t < currentTime + -1 * podDeletionTimeout

/-- `checkKubeSystemPDBs`. -/
def checkKubeSystemPDBs (pod : Pod) : List PodDisruptionBudget → Except String Bool
  | [] => .ok false
  | pdb :: rest =>
      match pdb.selector with
      | .error err => .error err
      | .ok selector =>
          if selector pod.labels then .ok true else checkKubeSystemPDBs pod rest

/-- The error for a controller that cannot be fetched. -/
def controllerUnavailable (kind : ControllerKind) (pod : Pod) (err : String) : String :=
  match kind with
  | .daemonSet => s!"daemonset for {pod.ns}/{pod.name} is not present, err: {err}"
  | .job => s!"job for {pod.ns}/{pod.name} is not available: err: {err}"
  | .statefulSet => s!"statefulset for {pod.ns}/{pod.name} is not available: err: {err}"
  | _ => s!"replication controller for {pod.ns}/{pod.name} is not available, err: {err}"

/-- The replica check, made for ReplicationControllers and ReplicaSets only. -/
def tooFewReplicas (kind : ControllerKind) (obj : ControllerObject) (minReplica : Int) :
    Option Int :=
  match kind, obj.replicas with
  | .replicationController, some r | .replicaSet, some r =>
      if r < minReplica then some r else none
  | _, _ => none

/-- What the controller of a pod says about it. -/
structure ControllerVerdict where
  daemonsetPod : Bool
  replicated : Bool
  deriving DecidableEq, Repr

/-- The verdict for a known controller kind that raised no objection. -/
def verdictOf (kind : ControllerKind) : ControllerVerdict :=
  match kind with
  | .daemonSet => ⟨true, false⟩
  | .other _ => ⟨false, false⟩
  | _ => ⟨false, true⟩

/-- The chain of `refKind` tests of `GetPodsForDeletionOnNodeDrain`. -/
def controllerVerdict (pod : Pod) (checkReferences : Bool) (minReplica : Int) :
    Ctl (Except String ControllerVerdict) := do
  match controllerRef pod with
  | none => return .ok ⟨false, false⟩
  | some ref =>
      match ref.kind with
      | .other kind => return .ok (verdictOf (.other kind))
      | kind =>
          if checkReferences then
            match ← getController kind pod.ns ref.name with
            | .error err => return .error (controllerUnavailable kind pod err.msg)
            | .ok none => return .error (controllerUnavailable kind pod "<nil>")
            | .ok (some obj) =>
                match tooFewReplicas kind obj minReplica with
                | some replicas =>
                    -- the source prints the address of this number, not the number
                    return .error
                      s!"replication controller for {pod.ns}/{pod.name} has too few replicas spec: {replicas} min: {minReplica}"
                | none => return .ok (verdictOf kind)
          else return .ok (verdictOf kind)

/-- The objections raised when not everything is to be deleted. -/
def deletionObjection (pod : Pod) (replicated : Bool)
    (kubeSystemPDBs : List PodDisruptionBudget)
    (skipNodesWithSystemPods skipNodesWithLocalStorage : Bool) : Except String Unit :=
  if !replicated then .error s!"{pod.ns}/{pod.name} is not replicated"
  else
    let localStorage : Except String Unit :=
      if hasLocalStorage pod && skipNodesWithLocalStorage then
        .error s!"pod with local storage present: {pod.name}"
      else .ok ()
    if pod.ns == "kube-system" && skipNodesWithSystemPods then
      match checkKubeSystemPDBs pod kubeSystemPDBs with
      | .error err => .error s!"error matching pods to pdbs: {err}"
      | .ok false =>
          .error s!"non-daemonset, non-mirrored, non-pdb-assigned kube-system pod present: {pod.name}"
      | .ok true => localStorage
    else localStorage

/-- The loop of `GetPodsForDeletionOnNodeDrain` over the pods. -/
def drainFilter (kubeSystemPDBs : List PodDisruptionBudget)
    (deleteAll skipNodesWithSystemPods skipNodesWithLocalStorage checkReferences : Bool)
    (minReplica : Int) (currentTime : Time) : List Pod → Ctl (Except String (List Pod))
  | [] => return .ok []
  | pod :: rest => do
      let continueLoop := drainFilter kubeSystemPDBs deleteAll skipNodesWithSystemPods
        skipNodesWithLocalStorage checkReferences minReplica currentTime rest
      if isMirrorPod pod || longUnderDeletion pod currentTime then
        continueLoop
      else
        match ← controllerVerdict pod checkReferences minReplica with
        | .error err => return .error err
        | .ok verdict =>
            if verdict.daemonsetPod then
              continueLoop
            else
              let objection := if deleteAll then .ok () else
                deletionObjection pod verdict.replicated kubeSystemPDBs
                  skipNodesWithSystemPods skipNodesWithLocalStorage
              match objection with
              | .error err => return .error err
              | .ok () =>
                  match ← continueLoop with
                  | .error err => return .error err
                  | .ok pods => return .ok (pod :: pods)

/-- `GetPodsForDeletionOnNodeDrain`. -/
def getPodsForDeletionOnNodeDrain (podList : List Pod) (pdbs : List PodDisruptionBudget)
    (deleteAll skipNodesWithSystemPods skipNodesWithLocalStorage checkReferences : Bool)
    (minReplica : Int) (currentTime : Time) : Ctl (Except String (List Pod)) :=
  drainFilter (pdbs.filter fun pdb => pdb.ns == "kube-system") deleteAll
    skipNodesWithSystemPods skipNodesWithLocalStorage checkReferences minReplica
    currentTime podList

/-- The inner loop of `checkPdbs`. -/
def checkPdb (pdb : PodDisruptionBudget) (selector : Labels → Bool) :
    List Pod → Except String Unit
  | [] => .ok ()
  | pod :: rest =>
      if pod.ns == pdb.ns && selector pod.labels && pdb.podDisruptionsAllowed < 1 then
        .error s!"no enough pod disruption budget to move {pod.ns}/{pod.name}"
      else checkPdb pdb selector rest

/-- `checkPdbs`. -/
def checkPdbs (pods : List Pod) : List PodDisruptionBudget → Except String Unit
  | [] => .ok ()
  | pdb :: rest =>
      match pdb.selector with
      | .error err => .error err
      | .ok selector =>
          match checkPdb pdb selector pods with
          | .error err => .error err
          | .ok () => checkPdbs pods rest

/-- The common tail of the two checks. -/
def getPodsThenCheckPdbs (pdbs : List PodDisruptionBudget)
    (filter : Ctl (Except String (List Pod))) : Ctl (Except String (List Pod)) := do
  match ← filter with
  | .error err => return .error err
  | .ok pods =>
      match checkPdbs pods pdbs with
      | .error err => return .error err
      | .ok () => return .ok pods

/-- `FastGetPodsToMove`. -/
def fastGetPodsToMove (nodePods : List Pod)
    (skipNodesWithSystemPods skipNodesWithLocalStorage : Bool)
    (pdbs : List PodDisruptionBudget) : Ctl (Except String (List Pod)) := do
  let currentTime ← now
  getPodsThenCheckPdbs pdbs <|
    getPodsForDeletionOnNodeDrain nodePods pdbs false skipNodesWithSystemPods
      skipNodesWithLocalStorage false 0 currentTime

/-- `DetailedGetPodsForMove`. -/
def detailedGetPodsForMove (nodePods : List Pod)
    (skipNodesWithSystemPods skipNodesWithLocalStorage : Bool) (minReplicaCount : Int)
    (pdbs : List PodDisruptionBudget) : Ctl (Except String (List Pod)) := do
  let currentTime ← now
  getPodsThenCheckPdbs pdbs <|
    -- `deleteAll` is set, so the objections, and with them the two flags, are never reached
    getPodsForDeletionOnNodeDrain nodePods pdbs true skipNodesWithSystemPods
      skipNodesWithLocalStorage false minReplicaCount currentTime

end AutoNodeRepair
