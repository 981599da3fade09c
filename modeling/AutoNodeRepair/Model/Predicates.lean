import AutoNodeRepair.Model.NodeInfo

/-!
# Predicates

`simulator/predicates.go`: whether a pod can be placed on a node, by the predicates of the
scheduler. These are functions of the vendored scheduler and are arbitrary here, but for
the one that the repository adds; `none` is a panic. The order in which a loop over a map
visits it is an argument.
-/

namespace AutoNodeRepair

open Std

/-! ## What the scheduler provides -/

/-- A `*schedulercache.NodeInfo`. The cache makes one for the pods of a node before it has
seen the node, so `Node()` may be nil. -/
structure NodeInfoRef where
  node : Option NodeStatus := none
  requestedResource : Resource := {}
  pods : List PodSpec := []

/-- `algorithm.PredicateFailureReason`. -/
structure PredicateFailureReason where
  getReason : String
  deriving DecidableEq, Repr

/-- What a predicate returns: whether the pod fits, why not, and an error. -/
structure FitResult where
  isMatch : Bool
  failureReason : List PredicateFailureReason
  err : Option String
  deriving DecidableEq, Repr

/-- `algorithm.FitPredicate`. The metadata may be nil. -/
abbrev FitPredicate (Meta : Type) := PodSpec → Option Meta → NodeInfoRef → Option FitResult

/-- `algorithm.PredicateMetadataProducer`. -/
abbrev PredicateMetadataProducer (Meta : Type) :=
  PodSpec → ExtTreeMap String NodeInfoRef → Option Meta

/-- The predicates by name. -/
abbrev PredicateMap (Meta : Type) := ExtTreeMap String (FitPredicate Meta)

/-- The factory of the scheduler. -/
structure SchedulerConfigFactory (Meta : Type) where
  /-- `FitPredicateKeys` of the provider that `GetAlgorithmProvider` returns -/
  fitPredicateKeys : Except String (List String)
  getPredicateMetadataProducer : Except String (PredicateMetadataProducer Meta)
  /-- The map is nil if there is an error. -/
  getPredicates : List String → Except String (PredicateMap Meta)
  /-- `predicates.PodFitsResources` -/
  podFitsResources : FitPredicate Meta

/-- What a loop over a map visits. Go leaves the order open, but each entry comes once. -/
structure MapOrder {β : Type} (entries : ExtTreeMap String β) where
  visited : List (String × β)
  perm : visited.Perm entries.toList

/-! ## The checker -/

/-- `ErrorVerbosity`. -/
inductive ErrorVerbosity
  | returnVerboseError | returnSimpleError
  deriving DecidableEq, Repr

def affinityPredicateName : String := "MatchInterPodAffinity"

/-- `predicateInfo`. -/
structure PredicateInfo (Meta : Type) where
  name : String
  predicate : FitPredicate Meta

/-- `PredicateChecker`. -/
structure PredicateChecker (Meta : Type) where
  predicates : List (PredicateInfo Meta)
  predicateMetadataProducer : PredicateMetadataProducer Meta
  enableAffinityPredicate : Bool

def priorityPredicates : List String :=
  ["PodFitsResources", "GeneralPredicates", "PodToleratesNodeTaints"]

section

variable {Meta : Type}

/-- `isNodeReadyAndSchedulablePredicate`. Without a node it dereferences nil. -/
def isNodeReadyAndSchedulablePredicate : FitPredicate Meta := fun _ _ nodeInfo =>
  match nodeInfo.node with
  | none => none
  | some node =>
      let ready := isNodeReadyAndSchedulable node.toNode
      if !ready then some ⟨false, [⟨"node is unready"⟩], none⟩ else some ⟨true, [], none⟩

/-- What `NewPredicateChecker` adds to the predicates of the scheduler. -/
def addPredicates (podFitsResources : FitPredicate Meta) (predicateMap : PredicateMap Meta) :
    PredicateMap Meta :=
  let predicateMap := predicateMap.insert "ready" isNodeReadyAndSchedulablePredicate
  if predicateMap.contains "PodFitsResources" then predicateMap
  else predicateMap.insert "PodFitsResources" podFitsResources

/-- One round of the loop over `priorityPredicates`. -/
def takePriority (acc : List (PredicateInfo Meta) × PredicateMap Meta) (predicateName : String) :
    List (PredicateInfo Meta) × PredicateMap Meta :=
  match acc.2[predicateName]? with
  | some predicate => (acc.1 ++ [⟨predicateName, predicate⟩], acc.2.erase predicateName)
  | none => acc

/-- The order of every map of predicates there may be. -/
abbrev PredicateOrder (Meta : Type) :=
  (predicateMap : PredicateMap Meta) → MapOrder predicateMap

/-- The list of `NewPredicateChecker`: what has priority, and the others as they come. -/
def listPredicates (order : PredicateOrder Meta) (predicateMap : PredicateMap Meta) :
    List (PredicateInfo Meta) :=
  let taken := priorityPredicates.foldl takePriority ([], predicateMap)
  taken.1 ++ (order taken.2).visited.map fun entry => ⟨entry.1, entry.2⟩

/-- `NewPredicateChecker`. -/
def newPredicateChecker (schedulerConfigFactory : SchedulerConfigFactory Meta)
    (order : PredicateOrder Meta) : Option (Except String (PredicateChecker Meta)) :=
  match schedulerConfigFactory.fitPredicateKeys with
  | .error err => some (.error err)
  | .ok fitPredicateKeys =>
      match schedulerConfigFactory.getPredicateMetadataProducer with
      | .error err => some (.error err)
      | .ok metadataProducer =>
          match schedulerConfigFactory.getPredicates fitPredicateKeys with
          -- the nil map is written to before the error is looked at
          | .error _ => none
          | .ok predicateMap =>
              let predicateMap := addPredicates schedulerConfigFactory.podFitsResources predicateMap
              some (.ok ⟨listPredicates order predicateMap, metadataProducer, true⟩)

namespace PredicateChecker

variable (p : PredicateChecker Meta) (pod : PodSpec)

/-- `SetAffinityPredicateEnabled`. -/
def setAffinityPredicateEnabled (enable : Bool) : PredicateChecker Meta :=
  { p with enableAffinityPredicate := enable }

/-- The affinity predicate has been disabled, and this is it. -/
def skips (predInfo : PredicateInfo Meta) : Bool :=
  !p.enableAffinityPredicate && predInfo.name == affinityPredicateName

/-- The error of a predicate, or of one that does not match. -/
def fitError (nodeInfo : NodeInfoRef) (predInfo : PredicateInfo Meta) (result : FitResult) :
    Option String :=
  let nodename := match nodeInfo.node with
    | some node => node.name
    | none => "unknown"
  match result.err with
  | some err =>
      some (s!"{predInfo.name} predicate error, cannot put {pod.ns}/{pod.name} " ++
        s!"on {nodename} due to, error {err}")
  | none =>
      if !result.isMatch then
        let reasons := ",".intercalate (result.failureReason.map fun reason => reason.getReason)
        some (s!"{predInfo.name} predicate mismatch, cannot put {pod.ns}/{pod.name} " ++
          s!"on {nodename}, reason: {reasons}")
      else none

/-- One round of the loop of `CheckPredicates`; it goes on if there is no error. -/
def checkPredicate (predicateMetadata : Option Meta) (nodeInfo : NodeInfoRef)
    (verbosity : ErrorVerbosity) (predInfo : PredicateInfo Meta) : Option (Except String Unit) :=
  if p.skips predInfo then some (.ok ())
  else
    match predInfo.predicate pod predicateMetadata nodeInfo with
    | none => none
    | some result =>
        if verbosity == .returnSimpleError && (result.err.isSome || !result.isMatch) then
          some (.error "Predicates failed")
        else
          match fitError pod nodeInfo predInfo result with
          | some err => some (.error err)
          | none => some (.ok ())

/-- The loop of `CheckPredicates`. -/
def checkLoop (predicateMetadata : Option Meta) (nodeInfo : NodeInfoRef)
    (verbosity : ErrorVerbosity) : List (PredicateInfo Meta) → Option (Except String Unit)
  | [] => some (.ok ())
  | predInfo :: rest =>
      match p.checkPredicate pod predicateMetadata nodeInfo verbosity predInfo with
      | none => none
      | some (.error err) => some (.error err)
      | some (.ok ()) => checkLoop predicateMetadata nodeInfo verbosity rest

/-- `CheckPredicates`. -/
def checkPredicates (predicateMetadata : Option Meta) (nodeInfo : NodeInfoRef)
    (verbosity : ErrorVerbosity) : Option (Except String Unit) :=
  p.checkLoop pod predicateMetadata nodeInfo verbosity p.predicates

/-- The loop of `FitsAny`, which asks every node info for its node. -/
def fitsAnyLoop : List (String × NodeInfoRef) → Option (Except String String)
  | [] => some (.error s!"cannot put pod {pod.name} on any node")
  | (name, nodeInfo) :: rest =>
      match nodeInfo.node with
      | none => none
      | some node =>
          if node.unschedulable then fitsAnyLoop rest
          else
            match p.checkPredicates pod none nodeInfo .returnSimpleError with
            | none => none
            | some (.ok ()) => some (.ok name)
            | some (.error _) => fitsAnyLoop rest

/-- `FitsAny`. -/
def fitsAny (nodeInfos : ExtTreeMap String NodeInfoRef) (order : MapOrder nodeInfos) :
    Option (Except String String) :=
  p.fitsAnyLoop pod order.visited

end PredicateChecker

end

end AutoNodeRepair
