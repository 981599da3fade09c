import AutoNodeRepair.Model.Predicates

/-!
# Checking predicates

`CheckPredicates` stops at the first predicate that fails. Which one that is, and what it
says, depends on the order of the list and on the verbosity; whether there is one depends
on neither. So the list may come out of a map in any order, as it does in
`NewPredicateChecker`, and `FitsAny` gives the same answer (`fitsAny_order`); that is a node
that lets the pod in if there is one (`fitsAny_exact`).
-/

namespace AutoNodeRepair

open Std

variable {Meta : Type}

/-- The predicate matches, without an error. -/
def PredicateInfo.Fits (predInfo : PredicateInfo Meta) (pod : PodSpec)
    (predicateMetadata : Option Meta) (nodeInfo : NodeInfoRef) : Prop :=
  ∃ failureReason, predInfo.predicate pod predicateMetadata nodeInfo =
    some ⟨true, failureReason, none⟩

/-- What is left of an error. -/
def ErrorVerbosity.text : ErrorVerbosity → String → String
  | .returnVerboseError, err => err
  | .returnSimpleError, _ => "Predicates failed"

namespace PredicateChecker

section

variable (p : PredicateChecker Meta) (pod : PodSpec) (predicateMetadata : Option Meta)
  (nodeInfo : NodeInfoRef)

/-! ## One predicate -/

/-- There is an error to report under the condition of the quick exit. -/
theorem isSome_fitError (predInfo : PredicateInfo Meta) (result : FitResult) :
    (fitError pod nodeInfo predInfo result).isSome = (result.err.isSome || !result.isMatch) := by
  obtain ⟨isMatch, failureReason, err⟩ := result
  cases err with
  | some err => rfl
  | none => cases isMatch <;> rfl

theorem checkPredicate_skip {predInfo : PredicateInfo Meta} (hskips : p.skips predInfo = true)
    (verbosity : ErrorVerbosity) :
    p.checkPredicate pod predicateMetadata nodeInfo verbosity predInfo = some (.ok ()) := by
  rw [checkPredicate, if_pos hskips]

/-- A round that is not skipped asks the predicate; both exits are taken on the same
answers. -/
theorem checkPredicate_run {predInfo : PredicateInfo Meta} (hskips : p.skips predInfo = false)
    (verbosity : ErrorVerbosity) :
    p.checkPredicate pod predicateMetadata nodeInfo verbosity predInfo =
      (predInfo.predicate pod predicateMetadata nodeInfo).map fun result =>
        match fitError pod nodeInfo predInfo result with
        | some err => .error (verbosity.text err)
        | none => .ok () := by
  rw [checkPredicate, if_neg (by simp [hskips])]
  cases predInfo.predicate pod predicateMetadata nodeInfo with
  | none => rfl
  | some result =>
      simp only [← isSome_fitError pod nodeInfo predInfo result, Option.map_some]
      cases fitError pod nodeInfo predInfo result with
      | none => simp
      | some err => cases verbosity <;> rfl

theorem checkPredicate_verbosity (verbosity : ErrorVerbosity) (predInfo : PredicateInfo Meta) :
    p.checkPredicate pod predicateMetadata nodeInfo verbosity predInfo =
      (p.checkPredicate pod predicateMetadata nodeInfo .returnVerboseError predInfo).map
        (Except.mapError verbosity.text) := by
  cases hskips : p.skips predInfo with
  | true =>
      rw [checkPredicate_skip p _ _ _ hskips, checkPredicate_skip p _ _ _ hskips]
      rfl
  | false =>
      rw [checkPredicate_run p _ _ _ hskips, checkPredicate_run p _ _ _ hskips, Option.map_map]
      refine congrArg (Option.map · _) (funext fun result => ?_)
      rw [Function.comp_apply]
      cases fitError pod nodeInfo predInfo result <;> rfl

theorem checkPredicate_ok_iff (verbosity : ErrorVerbosity) (predInfo : PredicateInfo Meta) :
    p.checkPredicate pod predicateMetadata nodeInfo verbosity predInfo = some (.ok ()) ↔
      (p.skips predInfo = false → predInfo.Fits pod predicateMetadata nodeInfo) := by
  cases hskips : p.skips predInfo with
  | true => simp [checkPredicate_skip p _ _ _ hskips]
  | false =>
      rw [checkPredicate_run p _ _ _ hskips, Option.map_eq_some_iff]
      constructor
      · rintro ⟨⟨isMatch, failureReason, err⟩, hresult, hok⟩ -
        have herror := isSome_fitError pod nodeInfo predInfo ⟨isMatch, failureReason, err⟩
        cases hfit : fitError pod nodeInfo predInfo ⟨isMatch, failureReason, err⟩ with
        | some text => simp [hfit] at hok
        | none =>
            rw [hfit, Option.isSome_none, Eq.comm, Bool.or_eq_false_iff] at herror
            obtain ⟨hnone, hmatch⟩ := herror
            obtain rfl : err = none := by simpa using hnone
            obtain rfl : isMatch = true := by simpa using hmatch
            exact ⟨failureReason, hresult⟩
      · intro hfits
        obtain ⟨failureReason, hresult⟩ := hfits rfl
        exact ⟨_, hresult, rfl⟩

/-- A round panics if the predicate does. -/
theorem checkPredicate_isSome (verbosity : ErrorVerbosity) (predInfo : PredicateInfo Meta) :
    (p.checkPredicate pod predicateMetadata nodeInfo verbosity predInfo).isSome =
      (p.skips predInfo || (predInfo.predicate pod predicateMetadata nodeInfo).isSome) := by
  cases hskips : p.skips predInfo with
  | true => rw [checkPredicate_skip p _ _ _ hskips]; rfl
  | false => rw [checkPredicate_run p _ _ _ hskips, Option.isSome_map]; rfl

/-! ## All of them -/

/-- The same predicate ends the loop; the verbosity only changes the text. -/
theorem checkLoop_verbosity (verbosity : ErrorVerbosity) (predicates : List (PredicateInfo Meta)) :
    p.checkLoop pod predicateMetadata nodeInfo verbosity predicates =
      (p.checkLoop pod predicateMetadata nodeInfo .returnVerboseError predicates).map
        (Except.mapError verbosity.text) := by
  induction predicates with
  | nil => rfl
  | cons predInfo rest ih =>
      simp only [checkLoop, checkPredicate_verbosity p _ _ _ verbosity]
      rcases p.checkPredicate pod predicateMetadata nodeInfo .returnVerboseError predInfo with
        _ | ⟨_ | _⟩
      · rfl
      · rfl
      · exact ih

theorem checkLoop_ok_iff (verbosity : ErrorVerbosity) (predicates : List (PredicateInfo Meta)) :
    p.checkLoop pod predicateMetadata nodeInfo verbosity predicates = some (.ok ()) ↔
      ∀ predInfo ∈ predicates, p.skips predInfo = false →
        predInfo.Fits pod predicateMetadata nodeInfo := by
  induction predicates with
  | nil => simp [checkLoop]
  | cons predInfo rest ih =>
      rw [List.forall_mem_cons, ← ih, ← checkPredicate_ok_iff p _ _ _ verbosity, checkLoop]
      rcases p.checkPredicate pod predicateMetadata nodeInfo verbosity predInfo with _ | ⟨_ | _⟩
      · simp
      · simp
      · simp

/-- The loop returns if every predicate does. -/
theorem checkLoop_isSome (verbosity : ErrorVerbosity) {predicates : List (PredicateInfo Meta)}
    (hreturns : ∀ predInfo ∈ predicates,
      (predInfo.predicate pod predicateMetadata nodeInfo).isSome = true) :
    (p.checkLoop pod predicateMetadata nodeInfo verbosity predicates).isSome = true := by
  induction predicates with
  | nil => rfl
  | cons predInfo rest ih =>
      obtain ⟨hfirst, hrest⟩ := List.forall_mem_cons.mp hreturns
      have hround := checkPredicate_isSome p pod predicateMetadata nodeInfo verbosity predInfo
      rw [hfirst, Bool.or_true] at hround
      obtain ⟨outcome, houtcome⟩ := Option.isSome_iff_exists.mp hround
      rw [checkLoop, houtcome]
      cases outcome with
      | error err => rfl
      | ok _ => exact ih hrest

/-- Success does not depend on the verbosity, nor on the order. -/
theorem checkPredicates_ok_iff (verbosity : ErrorVerbosity) :
    p.checkPredicates pod predicateMetadata nodeInfo verbosity = some (.ok ()) ↔
      ∀ predInfo ∈ p.predicates, p.skips predInfo = false →
        predInfo.Fits pod predicateMetadata nodeInfo :=
  p.checkLoop_ok_iff pod predicateMetadata nodeInfo verbosity p.predicates

/-- A check that returns and does not succeed has the simple error. -/
theorem checkPredicates_simple_cases
    (hreturns :
      (p.checkPredicates pod predicateMetadata nodeInfo .returnSimpleError).isSome = true) :
    p.checkPredicates pod predicateMetadata nodeInfo .returnSimpleError = some (.ok ()) ∨
      p.checkPredicates pod predicateMetadata nodeInfo .returnSimpleError =
        some (.error "Predicates failed") := by
  rw [checkPredicates, checkLoop_verbosity] at hreturns ⊢
  revert hreturns
  rcases p.checkLoop pod predicateMetadata nodeInfo .returnVerboseError p.predicates with
    _ | ⟨_ | _⟩
  · exact fun hreturns => absurd hreturns (by simp)
  · exact fun _ => .inr rfl
  · exact fun _ => .inl rfl

end

end PredicateChecker

/-! ## The list of a new checker -/

/-- Taking one with priority moves an entry of the map to the list. -/
theorem mem_takePriority (acc : List (PredicateInfo Meta) × PredicateMap Meta) (name : String)
    (predInfo : PredicateInfo Meta) :
    predInfo ∈ (takePriority acc name).1 ∨
        (takePriority acc name).2[predInfo.name]? = some predInfo.predicate ↔
      predInfo ∈ acc.1 ∨ acc.2[predInfo.name]? = some predInfo.predicate := by
  obtain ⟨taken, predicateMap⟩ := acc
  obtain ⟨other, otherPredicate⟩ := predInfo
  cases hname : predicateMap[name]? with
  | none => simp only [takePriority, hname]
  | some predicate =>
      simp only [takePriority, hname, List.mem_append, List.mem_singleton,
        ExtTreeMap.getElem?_erase, Std.compare_eq_iff_eq, PredicateInfo.mk.injEq]
      by_cases hsame : name = other
      · subst hsame
        simp [hname, eq_comm]
      · simp [hsame, Ne.symm hsame]

theorem mem_foldl_takePriority (names : List String)
    (acc : List (PredicateInfo Meta) × PredicateMap Meta) (predInfo : PredicateInfo Meta) :
    predInfo ∈ (names.foldl takePriority acc).1 ∨
        (names.foldl takePriority acc).2[predInfo.name]? = some predInfo.predicate ↔
      predInfo ∈ acc.1 ∨ acc.2[predInfo.name]? = some predInfo.predicate := by
  induction names generalizing acc with
  | nil => rfl
  | cons name names ih => rw [List.foldl_cons, ih, mem_takePriority]

/-- In whatever order, the list has the predicates of the map. -/
theorem mem_listPredicates (order : PredicateOrder Meta) (predicateMap : PredicateMap Meta)
    (predInfo : PredicateInfo Meta) :
    predInfo ∈ listPredicates order predicateMap ↔
      predicateMap[predInfo.name]? = some predInfo.predicate := by
  have htaken := mem_foldl_takePriority priorityPredicates ([], predicateMap) predInfo
  simp only [List.not_mem_nil, false_or] at htaken
  rw [← htaken, listPredicates, List.mem_append]
  refine or_congr_right ?_
  rw [← ExtTreeMap.mem_toList_iff_getElem?_eq_some, ← (order _).perm.mem_iff, List.mem_map]
  constructor
  · rintro ⟨entry, hentry, rfl⟩
    exact hentry
  · exact fun hentry => ⟨_, hentry, rfl⟩

theorem newPredicateChecker_ok_iff {factory : SchedulerConfigFactory Meta}
    {order : PredicateOrder Meta} {checker : PredicateChecker Meta} :
    newPredicateChecker factory order = some (.ok checker) ↔
      ∃ keys producer predicateMap, factory.fitPredicateKeys = .ok keys ∧
        factory.getPredicateMetadataProducer = .ok producer ∧
        factory.getPredicates keys = .ok predicateMap ∧
        checker = ⟨listPredicates order (addPredicates factory.podFitsResources predicateMap),
          producer, true⟩ := by
  unfold newPredicateChecker
  cases factory.fitPredicateKeys with
  | error err => simp
  | ok keys =>
      cases factory.getPredicateMetadataProducer with
      | error err => simp
      | ok producer =>
          cases hmap : factory.getPredicates keys with
          | error err => simp [hmap]
          | ok predicateMap => simp [hmap, eq_comm]

/-- Two checkers of one factory have the same predicates. -/
theorem mem_predicates_iff {factory : SchedulerConfigFactory Meta}
    {order order' : PredicateOrder Meta} {checker checker' : PredicateChecker Meta}
    (hnew : newPredicateChecker factory order = some (.ok checker))
    (hnew' : newPredicateChecker factory order' = some (.ok checker'))
    (predInfo : PredicateInfo Meta) :
    predInfo ∈ checker.predicates ↔ predInfo ∈ checker'.predicates := by
  obtain ⟨keys, producer, predicateMap, hkeys, -, hmap, rfl⟩ := newPredicateChecker_ok_iff.mp hnew
  obtain ⟨keys', producer', predicateMap', hkeys', -, hmap', rfl⟩ :=
    newPredicateChecker_ok_iff.mp hnew'
  cases hkeys.symm.trans hkeys'
  cases hmap.symm.trans hmap'
  rw [mem_listPredicates, mem_listPredicates]

/-- Checkers of one factory succeed together. -/
theorem checkPredicates_ok_congr {factory : SchedulerConfigFactory Meta}
    {order order' : PredicateOrder Meta} {checker checker' : PredicateChecker Meta}
    (hnew : newPredicateChecker factory order = some (.ok checker))
    (hnew' : newPredicateChecker factory order' = some (.ok checker')) (enable : Bool)
    (pod : PodSpec) (predicateMetadata : Option Meta) (nodeInfo : NodeInfoRef)
    (verbosity : ErrorVerbosity) :
    (checker.setAffinityPredicateEnabled enable).checkPredicates pod predicateMetadata nodeInfo
        verbosity = some (.ok ()) ↔
      (checker'.setAffinityPredicateEnabled enable).checkPredicates pod predicateMetadata
        nodeInfo verbosity = some (.ok ()) := by
  rw [PredicateChecker.checkPredicates_ok_iff, PredicateChecker.checkPredicates_ok_iff]
  -- whether a predicate is skipped is read off the flag, which is the same for both
  exact forall_congr' fun predInfo => imp_congr (mem_predicates_iff hnew hnew' predInfo) Iff.rfl

/-- **The outcome of a check.** Whatever the predicates of a checker are, it succeeds with the
simple error if and only if it does with the verbose one, if and only if every predicate
other than the disabled affinity predicate matches without an error; and it returns if they
all return. So the order in which the predicates come out of the map does not matter. -/
theorem checkPredicates_exact {Meta : Type} :
    (∀ (p : PredicateChecker Meta) (pod : PodSpec) (predicateMetadata : Option Meta)
      (nodeInfo : NodeInfoRef),
      (p.checkPredicates pod predicateMetadata nodeInfo .returnSimpleError = some (.ok ()) ↔
        p.checkPredicates pod predicateMetadata nodeInfo .returnVerboseError = some (.ok ())) ∧
      (p.checkPredicates pod predicateMetadata nodeInfo .returnVerboseError = some (.ok ()) ↔
        ∀ predInfo ∈ p.predicates,
          ¬(p.enableAffinityPredicate = false ∧ predInfo.name = affinityPredicateName) →
          ∃ failureReason, predInfo.predicate pod predicateMetadata nodeInfo =
            some ⟨true, failureReason, none⟩) ∧
      ((∀ predInfo ∈ p.predicates,
          (predInfo.predicate pod predicateMetadata nodeInfo).isSome = true) →
        ∀ verbosity, (p.checkPredicates pod predicateMetadata nodeInfo verbosity).isSome =
          true)) ∧
    ∀ (factory : SchedulerConfigFactory Meta) (order order' : PredicateOrder Meta)
      (checker checker' : PredicateChecker Meta),
      newPredicateChecker factory order = some (.ok checker) →
      newPredicateChecker factory order' = some (.ok checker') →
      ∀ (enable : Bool) (pod : PodSpec) (predicateMetadata : Option Meta)
        (nodeInfo : NodeInfoRef) (verbosity : ErrorVerbosity),
        (checker.setAffinityPredicateEnabled enable).checkPredicates pod predicateMetadata nodeInfo
            verbosity = some (.ok ()) ↔
          (checker'.setAffinityPredicateEnabled enable).checkPredicates pod predicateMetadata
            nodeInfo verbosity = some (.ok ()) := by
  refine ⟨fun p pod predicateMetadata nodeInfo => ⟨?_, ?_, ?_⟩, ?_⟩
  · rw [PredicateChecker.checkPredicates_ok_iff, PredicateChecker.checkPredicates_ok_iff]
  · rw [PredicateChecker.checkPredicates_ok_iff]
    refine forall₂_congr fun predInfo _ => ?_
    have hskips : p.skips predInfo = false ↔
        ¬(p.enableAffinityPredicate = false ∧ predInfo.name = affinityPredicateName) := by
      simp [PredicateChecker.skips]
    rw [hskips, PredicateInfo.Fits]
  · exact fun hreturns verbosity => p.checkLoop_isSome pod predicateMetadata nodeInfo verbosity
      hreturns
  · intro factory order order' checker checker' hnew hnew'
    exact checkPredicates_ok_congr hnew hnew'

/-- A scheduler with two predicates that match nowhere. -/
def sampleFactory : SchedulerConfigFactory Unit where
  fitPredicateKeys := .ok [affinityPredicateName, "NoDiskConflict"]
  getPredicateMetadataProducer := .ok fun _ _ => none
  getPredicates _ := .ok (((∅ : PredicateMap Unit).insert "NoDiskConflict"
    fun _ _ _ => some ⟨false, [⟨"no disk"⟩], none⟩).insert affinityPredicateName
    fun _ _ _ => some ⟨false, [⟨"no match"⟩, ⟨"no affinity"⟩], none⟩)
  podFitsResources _ _ nodeInfo :=
    if nodeInfo.node.isSome then some ⟨true, [], none⟩
    else some ⟨false, [], some "node not found"⟩

def forwards : PredicateOrder Unit := fun predicateMap => ⟨predicateMap.toList, .rfl⟩

def backwards : PredicateOrder Unit :=
  fun predicateMap => ⟨predicateMap.toList.reverse, List.reverse_perm _⟩

def samplePod : PodSpec where
  ns := "default"
  name := "web"
  nodeName := ""

def readyInfo : NodeInfoRef where
  node := some { name := "a", providerID := "", conditions := [⟨.ready, .true, 0⟩] }

/-- Two orders blame two predicates, and fail both. -/
theorem checkPredicates_exact_sample : ∃ checker checker',
    newPredicateChecker sampleFactory forwards = some (.ok checker) ∧
    newPredicateChecker sampleFactory backwards = some (.ok checker') ∧
    checker.checkPredicates samplePod none readyInfo .returnVerboseError = some (.error
      ("MatchInterPodAffinity predicate mismatch, cannot put default/web on a, " ++
        "reason: no match,no affinity")) ∧
    checker'.checkPredicates samplePod none readyInfo .returnVerboseError = some (.error
      "NoDiskConflict predicate mismatch, cannot put default/web on a, reason: no disk") ∧
    ∀ enable verbosity,
      ((checker.setAffinityPredicateEnabled enable).checkPredicates samplePod none readyInfo
          verbosity = some (.ok ()) ↔
        (checker'.setAffinityPredicateEnabled enable).checkPredicates samplePod none readyInfo
          verbosity = some (.ok ())) := by
  refine ⟨_, _, rfl, rfl, by decide, by decide, fun enable verbosity => ?_⟩
  exact checkPredicates_exact.2 sampleFactory forwards backwards _ _ rfl rfl enable samplePod none
    readyInfo verbosity

/-! ## The first predicate -/

theorem foldl_takePriority_append (names : List String)
    (acc : List (PredicateInfo Meta) × PredicateMap Meta) :
    ∃ taken, (names.foldl takePriority acc).1 = acc.1 ++ taken := by
  induction names generalizing acc with
  | nil => exact ⟨[], by simp⟩
  | cons name names ih =>
      obtain ⟨taken, htaken⟩ := ih (takePriority acc name)
      rw [List.foldl_cons, htaken]
      cases hname : acc.2[name]? with
      | none => exact ⟨taken, by simp [takePriority, hname]⟩
      | some predicate => exact ⟨⟨name, predicate⟩ :: taken, by simp [takePriority, hname]⟩

/-- The resources are checked first. -/
theorem listPredicates_first (order : PredicateOrder Meta) {predicateMap : PredicateMap Meta}
    {predicate : FitPredicate Meta}
    (hresources : predicateMap["PodFitsResources"]? = some predicate) :
    ∃ rest, listPredicates order predicateMap = ⟨"PodFitsResources", predicate⟩ :: rest := by
  have hfirst : takePriority ([], predicateMap) "PodFitsResources" =
      ([⟨"PodFitsResources", predicate⟩], predicateMap.erase "PodFitsResources") := by
    simp [takePriority, hresources]
  obtain ⟨taken, htaken⟩ := foldl_takePriority_append
    ["GeneralPredicates", "PodToleratesNodeTaints"]
    (takePriority ([], predicateMap) "PodFitsResources")
  rw [hfirst] at htaken
  rw [listPredicates, priorityPredicates, List.foldl_cons, hfirst, htaken]
  exact ⟨_, rfl⟩

theorem getElem?_addPredicates (podFitsResources : FitPredicate Meta)
    (predicateMap : PredicateMap Meta) (name : String) :
    (addPredicates podFitsResources predicateMap)[name]? =
      if name = "ready" then some isNodeReadyAndSchedulablePredicate
      else if name = "PodFitsResources" then
        some (predicateMap["PodFitsResources"]?.getD podFitsResources)
      else predicateMap[name]? := by
  have hne : "ready" ≠ "PodFitsResources" := by decide
  simp only [addPredicates, ExtTreeMap.contains_eq_isSome_getElem?, ExtTreeMap.getElem?_insert,
    Std.compare_eq_iff_eq, hne, if_false]
  cases hresources : predicateMap["PodFitsResources"]? with
  | none =>
      simp only [Option.isSome_none, Bool.false_eq_true, if_false, ExtTreeMap.getElem?_insert,
        Std.compare_eq_iff_eq, Option.getD_none]
      grind
  | some predicate =>
      simp only [Option.isSome_some, if_true, ExtTreeMap.getElem?_insert, Std.compare_eq_iff_eq,
        Option.getD_some]
      grind

/-- The predicates of the scheduler: each returns, and the one for resources has an error for a
node that is not there, also where it has been registered. -/
structure SchedulerConfigFactory.Standard (factory : SchedulerConfigFactory Meta) : Prop where
  returns : ∀ keys (predicateMap : PredicateMap Meta),
    factory.getPredicates keys = .ok predicateMap →
    ∀ (name : String) (predicate : FitPredicate Meta), predicateMap[name]? = some predicate →
      ∀ pod predicateMetadata nodeInfo, (predicate pod predicateMetadata nodeInfo).isSome = true
  registered : ∀ keys (predicateMap : PredicateMap Meta),
    factory.getPredicates keys = .ok predicateMap →
    ∀ predicate, predicateMap["PodFitsResources"]? = some predicate →
      predicate = factory.podFitsResources
  resources : ∀ pod predicateMetadata nodeInfo,
    (factory.podFitsResources pod predicateMetadata nodeInfo).isSome = true
  noNode : ∀ pod predicateMetadata nodeInfo, nodeInfo.node = none →
    factory.podFitsResources pod predicateMetadata nodeInfo =
      some ⟨false, [], some "node not found"⟩

namespace SchedulerConfigFactory.Standard

variable {factory : SchedulerConfigFactory Meta} {order : PredicateOrder Meta}
  {checker : PredicateChecker Meta}

theorem first (hstandard : factory.Standard)
    (hnew : newPredicateChecker factory order = some (.ok checker)) :
    ∃ rest, checker.predicates = ⟨"PodFitsResources", factory.podFitsResources⟩ :: rest := by
  obtain ⟨keys, producer, predicateMap, -, -, hmap, rfl⟩ := newPredicateChecker_ok_iff.mp hnew
  refine listPredicates_first order ?_
  rw [getElem?_addPredicates]
  cases hresources : predicateMap["PodFitsResources"]? with
  | none => rfl
  | some predicate => rw [hstandard.registered keys predicateMap hmap predicate hresources]; rfl

/-- Where there is a node, every predicate returns. -/
theorem returns_of_node (hstandard : factory.Standard)
    (hnew : newPredicateChecker factory order = some (.ok checker)) (pod : PodSpec)
    (predicateMetadata : Option Meta) {nodeInfo : NodeInfoRef} {node : NodeStatus}
    (hnode : nodeInfo.node = some node) :
    ∀ predInfo ∈ checker.predicates,
      (predInfo.predicate pod predicateMetadata nodeInfo).isSome = true := by
  obtain ⟨keys, producer, predicateMap, -, -, hmap, rfl⟩ := newPredicateChecker_ok_iff.mp hnew
  rintro ⟨name, predicate⟩ hmem
  rw [mem_listPredicates, getElem?_addPredicates] at hmem
  split at hmem
  · rw [← Option.some.inj hmem]
    simp only [isNodeReadyAndSchedulablePredicate, hnode]
    split <;> rfl
  split at hmem
  · cases hresources : predicateMap["PodFitsResources"]? with
    | none =>
        rw [hresources] at hmem
        cases hmem
        exact hstandard.resources pod predicateMetadata nodeInfo
    | some registered =>
        rw [hresources] at hmem
        cases hmem
        exact hstandard.returns keys predicateMap hmap _ _ hresources pod predicateMetadata nodeInfo
  · exact hstandard.returns keys predicateMap hmap name predicate hmem pod predicateMetadata
      nodeInfo

/-- A check never panics, although the predicate for readiness does without a node: the
resources are checked before, in any order. -/
theorem checkPredicates_isSome (hstandard : factory.Standard)
    (hnew : newPredicateChecker factory order = some (.ok checker)) (enable : Bool) (pod : PodSpec)
    (predicateMetadata : Option Meta) (nodeInfo : NodeInfoRef) (verbosity : ErrorVerbosity) :
    ((checker.setAffinityPredicateEnabled enable).checkPredicates pod predicateMetadata nodeInfo
      verbosity).isSome = true := by
  cases hnode : nodeInfo.node with
  | some node =>
      exact PredicateChecker.checkLoop_isSome _ pod predicateMetadata nodeInfo verbosity
        (hstandard.returns_of_node hnew pod predicateMetadata hnode)
  | none =>
      obtain ⟨rest, hfirst⟩ := hstandard.first hnew
      have hskips : (checker.setAffinityPredicateEnabled enable).skips
          ⟨"PodFitsResources", factory.podFitsResources⟩ = false := by
        simp [PredicateChecker.skips, affinityPredicateName]
      have hround := PredicateChecker.checkPredicate_run _ pod predicateMetadata nodeInfo hskips
        verbosity
      simp only [hstandard.noNode pod predicateMetadata nodeInfo hnode, Option.map_some,
        PredicateChecker.fitError] at hround
      rw [PredicateChecker.checkPredicates,
        show (checker.setAffinityPredicateEnabled enable).predicates = checker.predicates from rfl,
        hfirst, PredicateChecker.checkLoop, hround]
      rfl

/-- With the simple error the whole result is the same in any order. -/
theorem checkPredicates_order (hstandard : factory.Standard) {order' : PredicateOrder Meta}
    {checker' : PredicateChecker Meta}
    (hnew : newPredicateChecker factory order = some (.ok checker))
    (hnew' : newPredicateChecker factory order' = some (.ok checker')) (enable : Bool)
    (pod : PodSpec) (predicateMetadata : Option Meta) (nodeInfo : NodeInfoRef) :
    (checker.setAffinityPredicateEnabled enable).checkPredicates pod predicateMetadata nodeInfo
        .returnSimpleError =
      (checker'.setAffinityPredicateEnabled enable).checkPredicates pod predicateMetadata nodeInfo
        .returnSimpleError := by
  have hsame := checkPredicates_ok_congr hnew hnew' enable pod predicateMetadata nodeInfo
    .returnSimpleError
  rcases PredicateChecker.checkPredicates_simple_cases _ pod predicateMetadata nodeInfo
    (hstandard.checkPredicates_isSome hnew enable pod predicateMetadata nodeInfo
      .returnSimpleError) with hok | herror
  · rw [hok, hsame.mp hok]
  · rcases PredicateChecker.checkPredicates_simple_cases _ pod predicateMetadata nodeInfo
      (hstandard.checkPredicates_isSome hnew' enable pod predicateMetadata nodeInfo
        .returnSimpleError) with hok' | herror'
    · rw [hok', hsame.mpr hok']
    · rw [herror, herror']

end SchedulerConfigFactory.Standard

theorem sampleFactory_standard : sampleFactory.Standard where
  returns keys predicateMap hmap name predicate hname pod predicateMetadata nodeInfo := by
    cases hmap
    simp only [ExtTreeMap.getElem?_insert, ExtTreeMap.getElem?_empty] at hname
    split at hname
    · cases hname
      rfl
    split at hname
    · cases hname
      rfl
    · cases hname
  registered keys predicateMap hmap predicate hname := by
    cases hmap
    simp [affinityPredicateName] at hname
  resources pod predicateMetadata nodeInfo := by
    simp only [sampleFactory]
    split <;> rfl
  noNode pod predicateMetadata nodeInfo hnode := by
    simp [sampleFactory, hnode]

/-! ## Any node -/

namespace PredicateChecker

variable (p : PredicateChecker Meta) (pod : PodSpec)

/-- The node is schedulable, and lets the pod in. -/
def Hosts (nodeInfo : NodeInfoRef) : Prop :=
  ∃ node, nodeInfo.node = some node ∧ node.unschedulable = false ∧
    ∀ predInfo ∈ p.predicates, p.skips predInfo = false → predInfo.Fits pod none nodeInfo

/-- A node hosts the pod, or leaves the answer to the others. -/
theorem fitsAnyLoop_cons (name : String) {nodeInfo : NodeInfoRef}
    (rest : List (String × NodeInfoRef)) (hnode : nodeInfo.node.isSome = true)
    (hreturns : (p.checkPredicates pod none nodeInfo .returnSimpleError).isSome = true) :
    p.Hosts pod nodeInfo ∧
        p.fitsAnyLoop pod ((name, nodeInfo) :: rest) = some (.ok name) ∨
      ¬p.Hosts pod nodeInfo ∧
        p.fitsAnyLoop pod ((name, nodeInfo) :: rest) = p.fitsAnyLoop pod rest := by
  obtain ⟨node, hnode⟩ := Option.isSome_iff_exists.mp hnode
  simp only [fitsAnyLoop, hnode]
  cases hunschedulable : node.unschedulable with
  | true =>
      refine .inr ⟨?_, rfl⟩
      rintro ⟨node', hnode', hschedulable, -⟩
      cases hnode.symm.trans hnode'
      simp [hunschedulable] at hschedulable
  | false =>
      have hfits := p.checkPredicates_ok_iff pod none nodeInfo .returnSimpleError
      rcases p.checkPredicates_simple_cases pod none nodeInfo hreturns with hok | herror
      · exact .inl ⟨⟨node, hnode, hunschedulable, hfits.mp hok⟩, by simp [hok]⟩
      · refine .inr ⟨?_, by simp [herror]⟩
        rintro ⟨-, -, -, hall⟩
        rw [hfits.mpr hall] at herror
        simp at herror

/-- The ends of the loop: a node is found, all have been looked at, or one is not there. -/
theorem fitsAnyLoop_cases (entries : List (String × NodeInfoRef))
    (hreturns : ∀ entry ∈ entries, entry.2.node.isSome = true →
      (p.checkPredicates pod none entry.2 .returnSimpleError).isSome = true) :
    (∃ entry ∈ entries, p.fitsAnyLoop pod entries = some (.ok entry.1) ∧ p.Hosts pod entry.2) ∨
      (p.fitsAnyLoop pod entries = some (.error s!"cannot put pod {pod.name} on any node") ∧
        ∀ entry ∈ entries, entry.2.node.isSome = true ∧ ¬p.Hosts pod entry.2) ∨
      p.fitsAnyLoop pod entries = none ∧ ∃ entry ∈ entries, entry.2.node = none := by
  induction entries with
  | nil => exact .inr (.inl ⟨rfl, by simp⟩)
  | cons entry rest ih =>
      obtain ⟨hreturn, hreturns⟩ := List.forall_mem_cons.mp hreturns
      cases hnode : entry.2.node with
      | none => exact .inr (.inr ⟨by simp [fitsAnyLoop, hnode], entry, List.mem_cons_self, hnode⟩)
      | some node =>
          have hthere : entry.2.node.isSome = true := by rw [hnode]; rfl
          rcases p.fitsAnyLoop_cons pod entry.1 rest hthere (hreturn hthere) with
            ⟨hhosts, hfound⟩ | ⟨hnot, hpass⟩
          · exact .inl ⟨entry, List.mem_cons_self, hfound, hhosts⟩
          · rw [hpass, List.forall_mem_cons]
            rcases ih hreturns with ⟨other, hother, hfound⟩ | ⟨herror, hnone⟩ |
              ⟨hpanic, other, hother, hmissing⟩
            · exact .inl ⟨other, List.mem_cons_of_mem _ hother, hfound⟩
            · exact .inr (.inl ⟨herror, ⟨hthere, hnot⟩, hnone⟩)
            · exact .inr (.inr ⟨hpanic, other, List.mem_cons_of_mem _ hother, hmissing⟩)

end PredicateChecker

/-- The predicates of the scheduler may come out of their map in any order: `FitsAny` gives
the same answer, also where it panics. -/
theorem SchedulerConfigFactory.Standard.fitsAny_order {factory : SchedulerConfigFactory Meta}
    (hstandard : factory.Standard) {order order' : PredicateOrder Meta}
    {checker checker' : PredicateChecker Meta}
    (hnew : newPredicateChecker factory order = some (.ok checker))
    (hnew' : newPredicateChecker factory order' = some (.ok checker')) (enable : Bool)
    (pod : PodSpec) (nodeInfos : ExtTreeMap String NodeInfoRef) (mapOrder : MapOrder nodeInfos) :
    (checker.setAffinityPredicateEnabled enable).fitsAny pod nodeInfos mapOrder =
      (checker'.setAffinityPredicateEnabled enable).fitsAny pod nodeInfos mapOrder := by
  unfold PredicateChecker.fitsAny
  induction mapOrder.visited with
  | nil => rfl
  | cons entry rest ih =>
      simp only [PredicateChecker.fitsAnyLoop, ih,
        hstandard.checkPredicates_order hnew hnew' enable pod none entry.2]

/-- A node that was cordoned, and a ready one. -/
def sampleInfos : ExtTreeMap String NodeInfoRef :=
  ((∅ : ExtTreeMap String NodeInfoRef).insert "a" readyInfo).insert "b"
    { node := some { name := "b", providerID := "", unschedulable := true } }

/-- The sample predicates, in two orders. -/
example : ∃ checker checker',
    newPredicateChecker sampleFactory forwards = some (.ok checker) ∧
    newPredicateChecker sampleFactory backwards = some (.ok checker') ∧
    checker.fitsAny samplePod sampleInfos ⟨_, .rfl⟩ =
      checker'.fitsAny samplePod sampleInfos ⟨_, .rfl⟩ :=
  ⟨_, _, rfl, rfl, sampleFactory_standard.fitsAny_order rfl rfl true samplePod sampleInfos _⟩

/-- A node that is not there: `FitsAny` panics if it comes to it first. -/
example :
    let p : PredicateChecker Unit :=
      ⟨[⟨"ready", isNodeReadyAndSchedulablePredicate⟩], fun _ _ => none, true⟩
    p.fitsAny samplePod (sampleInfos.insert "A" {}) ⟨_, .rfl⟩ = none := by
  decide

end AutoNodeRepair
