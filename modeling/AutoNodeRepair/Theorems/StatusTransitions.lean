import AutoNodeRepair.Collect.Since
import AutoNodeRepair.Model.Status
import AutoNodeRepair.Theorems.SizeVerdicts

/-!
# Since when a condition has its status

`GetStatus` threads the transition times from one status to the next, looking up the
old condition by provider ID and type. A condition is a dated cell: its transition
time is the probe time of the status with which its current stretch began. Probe
times, in turn, only grow as long as there is something to probe; a group that has
lost its nodes has no readiness record, and its probe time falls back to zero.
-/

namespace AutoNodeRepair

open Interact Collect

/-! ## Reading a status -/

/-- What a condition is about. -/
inductive Subject
  | cluster
  | nodeGroup (providerID : String)

namespace ClusterAutoscalerStatus

/-- The conditions of a subject; of two groups with one ID, those of the first. -/
def conditionsOf (status : ClusterAutoscalerStatus) : Subject → List ClusterAutoscalerCondition
  | .cluster => status.clusterwideConditions
  | .nodeGroup providerID =>
      match status.nodeGroupStatuses.find? fun ngStatus => providerID == ngStatus.providerID with
      | some ngStatus => ngStatus.conditions
      | none => []

/-- The condition of a type. -/
def lookup (status : ClusterAutoscalerStatus) (subject : Subject)
    (type : ClusterAutoscalerConditionType) : Option ClusterAutoscalerCondition :=
  (status.conditionsOf subject).find? fun condition => type == condition.type

/-- The condition is among those reported for the subject. -/
def Reports (status : ClusterAutoscalerStatus) (condition : ClusterAutoscalerCondition) :
    Subject → Prop
  | .cluster => condition ∈ status.clusterwideConditions
  | .nodeGroup providerID => ∃ ngStatus ∈ status.nodeGroupStatuses,
      ngStatus.providerID = providerID ∧ condition ∈ ngStatus.conditions

end ClusterAutoscalerStatus

/-- A condition without its message. -/
def ClusterAutoscalerCondition.verdict (condition : ClusterAutoscalerCondition) :
    ClusterAutoscalerConditionType × ClusterAutoscalerConditionStatus × Time :=
  (condition.type, condition.status, condition.lastProbeTime)

/-! ## The step of the transition times -/

/-- The conditions of a subject depend on its old conditions only. -/
theorem conditionsOf_updateLastTransition (oldStatus newStatus : ClusterAutoscalerStatus)
    (subject : Subject) :
    (updateLastTransition oldStatus newStatus).conditionsOf subject =
      updateLastTransitionSingleList (oldStatus.conditionsOf subject)
        (newStatus.conditionsOf subject) := by
  cases subject with
  | cluster => rfl
  | nodeGroup providerID =>
      simp only [ClusterAutoscalerStatus.conditionsOf, updateLastTransition, List.find?_map,
        Function.comp_def]
      cases hfind : newStatus.nodeGroupStatuses.find? fun ngStatus =>
          providerID == ngStatus.providerID with
      | none => rfl
      | some ngStatus =>
          have hid : providerID = ngStatus.providerID := by simpa using List.find?_some hfind
          rw [hid]
          rfl

namespace ClusterAutoscalerCondition

/-- Only the transition time changes. -/
theorem withTransition_verdict (oldConds : List ClusterAutoscalerCondition)
    (condition : ClusterAutoscalerCondition) :
    (condition.withTransition oldConds).verdict = condition.verdict := by
  unfold withTransition
  dsimp only
  split
  · split <;> rfl
  · rfl

@[simp] theorem withTransition_type (oldConds : List ClusterAutoscalerCondition)
    (condition : ClusterAutoscalerCondition) :
    (condition.withTransition oldConds).type = condition.type :=
  congrArg Prod.fst (condition.withTransition_verdict oldConds)

/-- And it depends on the verdict only. -/
theorem withTransition_congr {oldConds : List ClusterAutoscalerCondition}
    {condition other : ClusterAutoscalerCondition} (hverdict : condition.verdict = other.verdict) :
    (condition.withTransition oldConds).lastTransitionTime =
      (other.withTransition oldConds).lastTransitionTime := by
  obtain ⟨htype, hstatus, hprobe⟩ : condition.type = other.type ∧
      condition.status = other.status ∧ condition.lastProbeTime = other.lastProbeTime := by
    simpa [verdict] using hverdict
  unfold withTransition
  simp only [htype, hstatus, hprobe]
  split
  · split <;> rfl
  · rfl

end ClusterAutoscalerCondition

theorem lookup_updateLastTransition (oldStatus newStatus : ClusterAutoscalerStatus)
    (subject : Subject) (type : ClusterAutoscalerConditionType) :
    (updateLastTransition oldStatus newStatus).lookup subject type =
      (newStatus.lookup subject type).map (.withTransition (oldStatus.conditionsOf subject)) := by
  rw [ClusterAutoscalerStatus.lookup, conditionsOf_updateLastTransition,
    updateLastTransitionSingleList, List.find?_map]
  simp only [Function.comp_def, ClusterAutoscalerCondition.withTransition_type]
  rfl

/-- The status of a condition, and since when it has it. -/
def ClusterAutoscalerCondition.dated (condition : ClusterAutoscalerCondition) :
    ClusterAutoscalerConditionStatus × Time :=
  (condition.status, condition.lastTransitionTime)

/-- A new status dates its conditions by the old one. -/
theorem updateLastTransition_dated (oldStatus newStatus : ClusterAutoscalerStatus)
    (subject : Subject) (type : ClusterAutoscalerConditionType) :
    let condition := (updateLastTransition oldStatus newStatus).lookup subject type
    Dated ((oldStatus.lookup subject type).map ClusterAutoscalerCondition.dated)
      (condition.map ClusterAutoscalerCondition.lastProbeTime)
      (condition.map ClusterAutoscalerCondition.dated) := by
  rw [lookup_updateLastTransition]
  cases hfresh : newStatus.lookup subject type with
  | none => rintro condition value t ⟨⟩
  | some fresh =>
      rintro condition value t ⟨⟩
      obtain rfl : type = fresh.type := by simpa using List.find?_some hfresh
      have hold : (oldStatus.conditionsOf subject).find? (fun oldCondition =>
          fresh.type == oldCondition.type) = oldStatus.lookup subject fresh.type := rfl
      cases hlookup : oldStatus.lookup subject fresh.type with
      | none =>
          refine .inr ⟨by simp, ?_⟩
          simp [condition, ClusterAutoscalerCondition.withTransition, hold, hlookup]
      | some oldCondition =>
          by_cases hsame : fresh.status = oldCondition.status
          · refine .inl ?_
            simp [ClusterAutoscalerCondition.dated, ClusterAutoscalerCondition.withTransition,
              hold, hlookup, hsame]
          · refine .inr ⟨?_, ?_⟩
            · simpa [ClusterAutoscalerCondition.dated, ClusterAutoscalerCondition.withTransition,
                hold, hlookup, hsame] using fun heq => absurd heq.symm hsame
            · simp [condition, ClusterAutoscalerCondition.withTransition, hold, hlookup, hsame]

/-! ## What is reported is what is looked up -/

namespace StatusRegistry

/-- Groups with one ID get one verdict. -/
theorem nodeGroupStatus_lookup (csr : StatusRegistry) (config : ClusterStateRegistryConfig)
    (now : Time) {group first : Asg} (hid : group.id = first.id)
    {condition : ClusterAutoscalerCondition}
    (hcond : condition ∈ (csr.nodeGroupStatus config now group).conditions) :
    ∃ other, (csr.nodeGroupStatus config now first).conditions.find?
        (fun other => condition.type == other.type) = some other ∧
      other.verdict = condition.verdict := by
  simp only [nodeGroupStatus, List.mem_cons, List.not_mem_nil, or_false] at hcond
  rcases hcond with rfl | rfl | rfl
  · refine ⟨_, rfl, ?_⟩
    simp [buildHealthStatusNodeGroup, ClusterAutoscalerCondition.verdict, hid]
  · refine ⟨_, rfl, ?_⟩
    simp [buildScaleUpStatusNodeGroup, ClusterAutoscalerCondition.verdict, hid]
  · refine ⟨_, rfl, ?_⟩
    simp [buildScaleDownStatusNodeGroup, ClusterAutoscalerCondition.verdict, hid]

theorem currentStatus_lookup (csr : StatusRegistry) (config : ClusterStateRegistryConfig)
    (now : Time) (groups : List Asg) {subject : Subject} {condition : ClusterAutoscalerCondition}
    (hreports : (csr.currentStatus config now groups).Reports condition subject) :
    ∃ other, (csr.currentStatus config now groups).lookup subject condition.type = some other ∧
      other.verdict = condition.verdict := by
  cases subject with
  | cluster =>
      simp only [ClusterAutoscalerStatus.Reports, currentStatus, List.mem_cons, List.not_mem_nil,
        or_false] at hreports
      rcases hreports with rfl | rfl | rfl
      · exact ⟨_, rfl, rfl⟩
      · exact ⟨_, rfl, rfl⟩
      · exact ⟨_, rfl, rfl⟩
  | nodeGroup providerID =>
      obtain ⟨ngStatus, hng, rfl, hcond⟩ := hreports
      obtain ⟨group, hgroup, rfl⟩ := List.mem_map.mp hng
      -- the first group with the ID is the one looked up
      have hsome : (groups.find? fun first => group.id == first.id).isSome = true :=
        List.find?_isSome.mpr ⟨group, hgroup, by simp⟩
      obtain ⟨first, hfirst⟩ := Option.isSome_iff_exists.mp hsome
      have hid : group.id = first.id := by simpa using List.find?_some hfirst
      obtain ⟨other, hother, hverdict⟩ := csr.nodeGroupStatus_lookup config now hid hcond
      refine ⟨other, ?_, hverdict⟩
      have hfind : (csr.currentStatus config now groups).nodeGroupStatuses.find? (fun ngStatus =>
          (csr.nodeGroupStatus config now group).providerID == ngStatus.providerID) =
          some (csr.nodeGroupStatus config now first) := by
        simp only [currentStatus, List.find?_map, Function.comp_def]
        exact congrArg (Option.map _) hfirst
      simp only [ClusterAutoscalerStatus.lookup, ClusterAutoscalerStatus.conditionsOf, hfind]
      exact hother

end StatusRegistry

theorem updateLastTransition_reports {oldStatus newStatus : ClusterAutoscalerStatus}
    {condition : ClusterAutoscalerCondition} {subject : Subject}
    (hreports : (updateLastTransition oldStatus newStatus).Reports condition subject) :
    ∃ fresh, newStatus.Reports fresh subject ∧
      condition = fresh.withTransition (oldStatus.conditionsOf subject) := by
  cases subject with
  | cluster =>
      obtain ⟨fresh, hfresh, rfl⟩ := List.mem_map.mp hreports
      exact ⟨fresh, hfresh, rfl⟩
  | nodeGroup providerID =>
      obtain ⟨ngStatus, hng, rfl, hcond⟩ := hreports
      obtain ⟨draft, hdraft, rfl⟩ := List.mem_map.mp hng
      obtain ⟨fresh, hfresh, rfl⟩ := List.mem_map.mp hcond
      exact ⟨fresh, ⟨draft, hdraft, rfl, hfresh⟩, rfl⟩

/-! ## Runs -/

/-- A call of the registry's interface. -/
inductive StatusOp
  | registry (op : RegistryOp)
  | updateScaleDownCandidates (nodes : List Node) (now : Time)
  | getStatus (now : Time)

/-- The operation, run: the registry afterwards, and the status if it returns one. -/
def StatusOp.run (config : ClusterStateRegistryConfig) (csr : StatusRegistry) :
    StatusOp → Ctl (StatusRegistry × Option ClusterAutoscalerStatus)
  | .registry op => do
      let inner ← op.run csr.toClusterStateRegistry
      return ({ csr with toClusterStateRegistry := inner }, none)
  | .updateScaleDownCandidates nodes now => do
      let csr ← csr.updateScaleDownCandidates nodes now
      return (csr, none)
  | .getStatus now => do
      let (csr, status) ← csr.getStatus config now
      return (csr, some status)

/-- A call, and the state of the cloud provider that it finds. -/
structure StatusCall (W : Type) where
  op : StatusOp
  mach : Machine W

/-- A status that was returned, and the registry it was read from. -/
structure Report where
  csr : StatusRegistry
  status : ClusterAutoscalerStatus

section

variable {W : Type} (h : ApiService W) (config : ClusterStateRegistryConfig)

/-- What `GetStatus` returned in the course of these calls, in order. -/
def reportsFrom : StatusRegistry → List (StatusCall W) → List Report
  | _, [] => []
  | csr, call :: rest =>
      let after := ((call.op.run config csr).exec h call.mach).val
      match after.2 with
      | some status => ⟨csr, status⟩ :: reportsFrom after.1 rest
      | none => reportsFrom after.1 rest

/-- The same from a fresh registry. -/
def reports (calls : List (StatusCall W)) : List Report :=
  reportsFrom h config newStatusRegistry calls

end

/-- The report is one of `GetStatus`. -/
def Report.Made (config : ClusterStateRegistryConfig) (report : Report) : Prop :=
  ∃ now groups, report.status = updateLastTransition report.csr.lastStatus
    (report.csr.currentStatus config now groups)

/-- Every condition of a report is the one looked up, up to its message. -/
theorem Report.Made.lookup {config : ClusterStateRegistryConfig} {report : Report}
    (hmade : report.Made config) {subject : Subject} {condition : ClusterAutoscalerCondition}
    (hreports : report.status.Reports condition subject) :
    ∃ other, report.status.lookup subject condition.type = some other ∧
      other.verdict = condition.verdict ∧
      other.lastTransitionTime = condition.lastTransitionTime := by
  obtain ⟨now, groups, hstatus⟩ := hmade
  rw [hstatus] at hreports ⊢
  obtain ⟨fresh, hfresh, rfl⟩ := updateLastTransition_reports hreports
  obtain ⟨other, hother, hverdict⟩ := report.csr.currentStatus_lookup config now groups hfresh
  refine ⟨other.withTransition (report.csr.lastStatus.conditionsOf subject), ?_, ?_,
    ClusterAutoscalerCondition.withTransition_congr hverdict⟩
  · rw [lookup_updateLastTransition, ClusterAutoscalerCondition.withTransition_type, hother]
    rfl
  · rw [ClusterAutoscalerCondition.withTransition_verdict,
      ClusterAutoscalerCondition.withTransition_verdict, hverdict]

section

variable {W : Type} {h : ApiService W} (config : ClusterStateRegistryConfig)

/-- One call reports the status after the last one, or it reports nothing and leaves the
last one as it was. -/
theorem reportsFrom_cons (csr : StatusRegistry) (call : StatusCall W)
    (rest : List (StatusCall W)) :
    (∃ after : StatusRegistry, after.lastStatus = csr.lastStatus ∧
        after = ((call.op.run config csr).exec h call.mach).val.1 ∧
        reportsFrom h config csr (call :: rest) = reportsFrom h config after rest) ∨
      ∃ status, Report.Made config ⟨csr, status⟩ ∧
        reportsFrom h config csr (call :: rest) =
          ⟨csr, status⟩ :: reportsFrom h config { csr with lastStatus := status } rest := by
  obtain ⟨op, m⟩ := call
  cases op with
  | registry op =>
      refine .inl ⟨((StatusOp.run config csr (.registry op)).exec h m).val.1, ?_, rfl, ?_⟩
      · simp [StatusOp.run]
      · simp [reportsFrom, StatusOp.run]
  | updateScaleDownCandidates nodes now =>
      refine .inl ⟨((StatusOp.run config csr (.updateScaleDownCandidates nodes now)).exec
        h m).val.1, ?_, rfl, ?_⟩
      · simp [StatusOp.run, StatusRegistry.updateScaleDownCandidates]
      · simp [reportsFrom, StatusOp.run]
  | getStatus now =>
      refine .inr ⟨updateLastTransition csr.lastStatus
        (csr.currentStatus config now m.store.registeredAsgs), ⟨now, _, rfl⟩, rfl⟩

theorem reportsFrom_made (csr : StatusRegistry) (calls : List (StatusCall W)) :
    ∀ report ∈ reportsFrom h config csr calls, report.Made config := by
  induction calls generalizing csr with
  | nil => simp [reportsFrom]
  | cons call rest ih =>
      rcases reportsFrom_cons (h := h) config csr call rest with
        ⟨after, -, -, hreports⟩ | ⟨status, hmade, hreports⟩
      · rw [hreports]
        exact ih after
      · rw [hreports]
        exact List.forall_mem_cons.mpr ⟨hmade, ih _⟩

/-- Each report starts from the status of the one before. -/
theorem reportsFrom_lastStatus (csr : StatusRegistry) (calls : List (StatusCall W)) {k : ℕ}
    {report : Report} (hreport : (reportsFrom h config csr calls)[k]? = some report) :
    (csr.lastStatus :: (reportsFrom h config csr calls).map Report.status)[k]? =
      some report.csr.lastStatus := by
  induction calls generalizing csr k with
  | nil => simp [reportsFrom] at hreport
  | cons call rest ih =>
      rcases reportsFrom_cons (h := h) config csr call rest with
        ⟨after, hlast, -, hreports⟩ | ⟨status, -, hreports⟩
      · rw [hreports] at hreport ⊢
        rw [← hlast]
        exact ih after hreport
      · rw [hreports] at hreport ⊢
        cases k with
        | zero =>
            obtain rfl := Option.some.inj hreport
            rfl
        | succ k => exact ih _ hreport

variable {config}

/-- The condition that the `k`-th report has for a subject. -/
def lookupAt (reports : List Report) (k : ℕ) (subject : Subject)
    (type : ClusterAutoscalerConditionType) : Option ClusterAutoscalerCondition :=
  reports[k]?.bind fun report => report.status.lookup subject type

/-- Each report dates its conditions by the report before. -/
theorem lookupAt_dated (calls : List (StatusCall W)) (subject : Subject)
    (type : ClusterAutoscalerConditionType) {k : ℕ}
    (hk : k < (reports h config calls).length) :
    Dated
      ((match k with
        | 0 => none
        | before + 1 => lookupAt (reports h config calls) before subject type).map
          ClusterAutoscalerCondition.dated)
      ((lookupAt (reports h config calls) k subject type).map
        ClusterAutoscalerCondition.lastProbeTime)
      ((lookupAt (reports h config calls) k subject type).map
        ClusterAutoscalerCondition.dated) := by
  obtain ⟨report, hreport⟩ : ∃ report, (reports h config calls)[k]? = some report :=
    ⟨_, List.getElem?_eq_getElem hk⟩
  obtain ⟨now, groups, hstatus⟩ :=
    reportsFrom_made config _ calls report (List.mem_of_getElem? hreport)
  have hdated := updateLastTransition_dated report.csr.lastStatus
    (report.csr.currentStatus config now groups) subject type
  rw [← hstatus] at hdated
  have hlast := reportsFrom_lastStatus config newStatusRegistry calls hreport
  have hcondition : lookupAt (reports h config calls) k subject type =
      report.status.lookup subject type := by simp [lookupAt, hreport]
  rw [hcondition]
  cases k with
  | zero =>
      have hnone : report.csr.lastStatus.lookup subject type = none := by
        rw [← Option.some.inj hlast]
        cases subject <;> rfl
      rwa [hnone] at hdated
  | succ before =>
      rw [List.getElem?_cons_succ, List.getElem?_map, Option.map_eq_some_iff] at hlast
      obtain ⟨earlier, hearlier, hsame⟩ := hlast
      have hbefore : lookupAt (reports h config calls) before subject type =
          report.csr.lastStatus.lookup subject type := by
        rw [← hsame]
        exact congrArg (Option.bind · _) hearlier
      rwa [← hbefore] at hdated

/-- The transition time of a condition is the probe time of the report its stretch began
with. -/
theorem transition_of_reports {calls : List (StatusCall W)} {n : ℕ} {subject : Subject}
    {type : ClusterAutoscalerConditionType} {condition : ClusterAutoscalerCondition}
    (hlookup : lookupAt (reports h config calls) n subject type = some condition) :
    ∃ j, IsLeast (stretches (fun k => ∃ c,
        lookupAt (reports h config calls) k subject type = some c ∧
          c.status = condition.status) n) j ∧
      ∃ c, lookupAt (reports h config calls) j subject type = some c ∧
        c.lastProbeTime = condition.lastTransitionTime := by
  have hlen : n < (reports h config calls).length := by
    obtain ⟨report, hreport, -⟩ := Option.bind_eq_some_iff.mp hlookup
    exact (List.getElem?_eq_some_iff.mp hreport).1
  obtain ⟨j, hleast, hstamp⟩ := stamp_of_dated
    (fun k => (lookupAt (reports h config calls) k subject type).map
      ClusterAutoscalerCondition.dated)
    (fun k => (lookupAt (reports h config calls) k subject type).map
      ClusterAutoscalerCondition.lastProbeTime)
    (lookupAt_dated calls subject type (Nat.zero_lt_of_lt hlen))
    (fun k hk => lookupAt_dated calls subject type (Nat.lt_of_le_of_lt hk hlen))
    (Option.map_eq_some_iff.mpr ⟨condition, hlookup, rfl⟩)
  refine ⟨j, ?_, Option.map_eq_some_iff.mp hstamp⟩
  convert hleast using 3
  simp [ClusterAutoscalerCondition.dated]

/-- What is looked up is reported. -/
theorem ClusterAutoscalerStatus.reports_of_lookup {status : ClusterAutoscalerStatus}
    {subject : Subject} {type : ClusterAutoscalerConditionType}
    {condition : ClusterAutoscalerCondition}
    (hlookup : status.lookup subject type = some condition) :
    status.Reports condition subject ∧ condition.type = type := by
  have htype : type = condition.type := by simpa using List.find?_some hlookup
  refine ⟨?_, htype.symm⟩
  have hmem : condition ∈ status.conditionsOf subject := List.mem_of_find?_eq_some hlookup
  cases subject with
  | cluster => exact hmem
  | nodeGroup providerID =>
      simp only [conditionsOf] at hmem
      split at hmem
      case h_1 ngStatus hfind =>
        exact ⟨ngStatus, List.mem_of_find?_eq_some hfind,
          (by simpa using List.find?_some hfind : providerID = ngStatus.providerID).symm, hmem⟩
      case h_2 => cases hmem

/-- A report has one verdict and one transition time for each subject and type. -/
theorem reports_lookupAt {calls : List (StatusCall W)} {k : ℕ} {report : Report}
    (hreport : (reports h config calls)[k]? = some report) {subject : Subject}
    {condition : ClusterAutoscalerCondition}
    (hcondition : report.status.Reports condition subject) :
    ∃ other, lookupAt (reports h config calls) k subject condition.type = some other ∧
      other.verdict = condition.verdict ∧
      other.lastTransitionTime = condition.lastTransitionTime := by
  have hmade := reportsFrom_made config _ calls report (List.mem_of_getElem? hreport)
  rw [lookupAt, hreport]
  exact hmade.lookup hcondition

/-- The reports that show a subject with a status. -/
theorem exists_report_iff (calls : List (StatusCall W)) (k : ℕ) (subject : Subject)
    (type : ClusterAutoscalerConditionType) (value : ClusterAutoscalerConditionStatus) :
    (∃ other c, (reports h config calls)[k]? = some other ∧ other.status.Reports c subject ∧
        c.type = type ∧ c.status = value) ↔
      ∃ c, lookupAt (reports h config calls) k subject type = some c ∧ c.status = value := by
  constructor
  · rintro ⟨report, c, hreport, hc, rfl, rfl⟩
    obtain ⟨other, hother, hverdict, -⟩ := reports_lookupAt hreport hc
    exact ⟨other, hother, congrArg (fun verdict => verdict.2.1) hverdict⟩
  · rintro ⟨c, hc, rfl⟩
    obtain ⟨report, hreport, hlookup⟩ := Option.bind_eq_some_iff.mp hc
    obtain ⟨hc, htype⟩ := ClusterAutoscalerStatus.reports_of_lookup hlookup
    exact ⟨report, c, hreport, hc, htype, rfl⟩

end

/-- **Since when a condition has its status.** Whatever calls are made of a fresh registry,
the transition time of every condition in the `n`-th status, of the cluster or of a node
group, is the probe time reported for it in the least status `j` such that all of the
statuses `j` to `n` have the condition with the same status. -/
theorem lastTransitionTime_dates_status {W : Type} (h : ApiService W)
    (config : ClusterStateRegistryConfig) (calls : List (StatusCall W)) (n : ℕ) (report : Report)
    (hreport : (reports h config calls)[n]? = some report) (subject : Subject)
    (condition : ClusterAutoscalerCondition)
    (hcondition : report.status.Reports condition subject) :
    ∃ j, IsLeast (stretches (fun k => ∃ other c, (reports h config calls)[k]? = some other ∧
        other.status.Reports c subject ∧ c.type = condition.type ∧
          c.status = condition.status) n) j ∧
      ∀ other c, (reports h config calls)[j]? = some other → other.status.Reports c subject →
        c.type = condition.type → condition.lastTransitionTime = c.lastProbeTime := by
  obtain ⟨found, hfound, hverdict, htransition⟩ := reports_lookupAt hreport hcondition
  obtain ⟨j, hleast, first, hfirst, hprobe⟩ := transition_of_reports hfound
  have hstatus : found.status = condition.status := congrArg (fun verdict => verdict.2.1) hverdict
  refine ⟨j, ?_, ?_⟩
  · simpa only [exists_report_iff, hstatus] using hleast
  · intro other c hother hc htype
    obtain ⟨found', hfound', hverdict', -⟩ := reports_lookupAt hother hc
    rw [htype, hfirst] at hfound'
    obtain rfl := Option.some.inj hfound'
    rw [← htransition, ← hprobe]
    exact congrArg (fun verdict => verdict.2.2) hverdict'

/-- So many unready nodes are tolerated that no percentage is computed. -/
def tolerantConfig : ClusterStateRegistryConfig := ⟨45, 10⟩

/-- An update that finds these nodes, and a status after it. -/
def observeAndReport (nodes : List Node) (t : Time) : List (StatusCall ClusterState) :=
  [⟨.registry (.updateNodes nodes t), sampleMachine⟩, ⟨.getStatus t, sampleMachine⟩]

/-- Both nodes of `g` are there all the time. -/
def steadyCalls : List (StatusCall ClusterState) :=
  observeAndReport [node1, node2, node5] minute ++
    observeAndReport [node1, node2, node5] (2 * minute)

/-- In the second status `g` is healthy since the first. -/
theorem lastTransitionTime_dates_steady : ∃ report condition,
    (reports Cluster.sample.service tolerantConfig steadyCalls)[1]? = some report ∧
    report.status.Reports condition (.nodeGroup groupG.id) ∧
    condition.type = .health ∧ condition.status = .healthy ∧
    condition.lastProbeTime = 2 * minute ∧
    ∃ j, IsLeast (stretches (fun k => ∃ other c,
        (reports Cluster.sample.service tolerantConfig steadyCalls)[k]? = some other ∧
        other.status.Reports c (.nodeGroup groupG.id) ∧ c.type = condition.type ∧
          c.status = condition.status) 1) j ∧
      ∀ other c, (reports Cluster.sample.service tolerantConfig steadyCalls)[j]? = some other →
        other.status.Reports c (.nodeGroup groupG.id) → c.type = condition.type →
        condition.lastTransitionTime = c.lastProbeTime := by
  have hlookup : (lookupAt (reports Cluster.sample.service tolerantConfig steadyCalls) 1
      (.nodeGroup groupG.id) .health).map
        (fun c => (c.status, c.lastProbeTime)) = some (.healthy, 2 * minute) := by
    decide +kernel
  obtain ⟨condition, hcondition, heq⟩ := Option.map_eq_some_iff.mp hlookup
  obtain ⟨report, hreport, hfound⟩ := Option.bind_eq_some_iff.mp hcondition
  obtain ⟨hreports, htype⟩ := ClusterAutoscalerStatus.reports_of_lookup hfound
  obtain ⟨hstatus, hprobe⟩ := Prod.mk.inj heq
  exact ⟨report, condition, hreport, hreports, htype, hstatus, hprobe,
    lastTransitionTime_dates_status Cluster.sample.service tolerantConfig steadyCalls 1 report
      hreport (.nodeGroup groupG.id) condition hreports⟩

/-! ## Probe times -/

/-- When a registry has last looked at what a condition is about. -/
def StatusRegistry.probeTime (csr : StatusRegistry) :
    Subject → ClusterAutoscalerConditionType → Time
  | _, .scaleDown => csr.lastScaleDownUpdateTime
  | .cluster, _ => csr.totalReadiness.time
  | .nodeGroup providerID, _ => (csr.readiness providerID).time

theorem StatusRegistry.currentStatus_probe (csr : StatusRegistry)
    (config : ClusterStateRegistryConfig) (now : Time) (groups : List Asg) {subject : Subject}
    {condition : ClusterAutoscalerCondition}
    (hreports : (csr.currentStatus config now groups).Reports condition subject) :
    condition.lastProbeTime = csr.probeTime subject condition.type := by
  cases subject with
  | cluster =>
      simp only [ClusterAutoscalerStatus.Reports, currentStatus, List.mem_cons, List.not_mem_nil,
        or_false] at hreports
      rcases hreports with rfl | rfl | rfl
      · rfl
      · rfl
      · rfl
  | nodeGroup providerID =>
      obtain ⟨ngStatus, hng, rfl, hcond⟩ := hreports
      obtain ⟨group, -, rfl⟩ := List.mem_map.mp hng
      simp only [nodeGroupStatus, List.mem_cons, List.not_mem_nil, or_false] at hcond
      rcases hcond with rfl | rfl | rfl
      · rfl
      · rfl
      · rfl

/-- A report says when its registry has probed. -/
theorem Report.Made.probe {config : ClusterStateRegistryConfig} {report : Report}
    (hmade : report.Made config) {subject : Subject} {condition : ClusterAutoscalerCondition}
    (hreports : report.status.Reports condition subject) :
    condition.lastProbeTime = report.csr.probeTime subject condition.type := by
  obtain ⟨now, groups, hstatus⟩ := hmade
  rw [hstatus] at hreports
  obtain ⟨fresh, hfresh, rfl⟩ := updateLastTransition_reports hreports
  rw [ClusterAutoscalerCondition.withTransition_type,
    ← report.csr.currentStatus_probe config now groups hfresh]
  exact congrArg (fun verdict => verdict.2.2) (fresh.withTransition_verdict _)

/-- Counting does not touch the time. -/
theorem Readiness.time_foldl_tally (currentTime : Time) (nodes : List Node) (r : Readiness) :
    (nodes.foldl (tally currentTime) r).time = r.time := by
  induction nodes generalizing r with
  | nil => rfl
  | cons node rest ih =>
      rw [List.foldl_cons, ih]
      unfold tally update
      dsimp only
      split
      · rfl
      split
      · rfl
      split
      · rfl
      split <;> rfl

/-- All records of an update have its time. -/
theorem ClusterStateRegistry.updateNodes_times {W : Type} {h : ApiService W}
    (csr : ClusterStateRegistry) (nodes : List Node) (currentTime : Time) (m : Machine W)
    (hok : ((csr.updateNodes nodes currentTime).exec h m).val.2 = none) :
    let after := ((csr.updateNodes nodes currentTime).exec h m).val.1
    after.totalReadiness.time = currentTime ∧
      ∀ id r, after.perNodeGroupReadiness id = some r → r.time = currentTime := by
  intro after
  rcases csr.updateNodes_cases (h := h) nodes currentTime m with
    ⟨err, herr⟩ | ⟨targets, missing, seen, hobserve, hsizes, hlisting, -, -, hsettled⟩
  · rw [herr] at hok
    simp at hok
  obtain ⟨info, hscale⟩ := seen.updateScaleRequests_eq currentTime
  have htotal : after.totalReadiness = seen.totalReadiness := by
    have hafter : after = ((csr.updateNodes nodes currentTime).exec h m).val.1 := rfl
    simp only [updateNodes, exec_bind, hobserve, hscale] at hafter
    rw [hafter]
    rfl
  simp only [observe, exec_bind, hsizes, hlisting, updateAcceptableRanges_exec, exec_pure,
    Outcome.after_val, Except.ok.injEq, Prod.mk.injEq, true_and] at hobserve
  constructor
  · rw [htotal, ← hobserve]
    simp only [updateReadinessStats_total, Readiness.time_foldl_tally]
  · intro id r hentry
    rw [hsettled.readiness, ← hobserve] at hentry
    simp only [updateReadinessStats_group] at hentry
    split at hentry
    · cases hentry
    · obtain rfl := Option.some.inj hentry
      rfl

/-- The time a call is given. -/
def StatusOp.time : StatusOp → Option Time
  | .registry (.updateNodes _ currentTime) => some currentTime
  | .registry _ => none
  | .updateScaleDownCandidates _ now | .getStatus now => some now

/-- The times of a run. -/
def callTimes {W : Type} (calls : List (StatusCall W)) : List Time :=
  calls.filterMap fun call => call.op.time

namespace StatusRegistry

/-- The records are those of one update, after the zero time. -/
structure Clocked (csr : StatusRegistry) : Prop where
  total : 0 ≤ csr.totalReadiness.time
  scaleDown : 0 ≤ csr.lastScaleDownUpdateTime
  groups : ∀ id r, csr.perNodeGroupReadiness id = some r → r.time = csr.totalReadiness.time

/-- The second has not looked at anything earlier than the first. -/
structure NotAfter (csr csr' : StatusRegistry) : Prop where
  total : csr.totalReadiness.time ≤ csr'.totalReadiness.time
  scaleDown : csr.lastScaleDownUpdateTime ≤ csr'.lastScaleDownUpdateTime

theorem NotAfter.trans {csr csr' csr'' : StatusRegistry} (hfirst : csr.NotAfter csr')
    (hsecond : csr'.NotAfter csr'') : csr.NotAfter csr'' :=
  ⟨hfirst.total.trans hsecond.total, hfirst.scaleDown.trans hsecond.scaleDown⟩

/-- It has not looked at anything later than that. -/
def Before (csr : StatusRegistry) (t : Time) : Prop :=
  csr.totalReadiness.time ≤ t ∧ csr.lastScaleDownUpdateTime ≤ t

/-- What a call can do to the times: nothing, or it moves some of them to its own. -/
structure Advances (csr : StatusRegistry) (time : Option Time) (after : StatusRegistry) :
    Prop where
  clocked : after.Clocked
  notAfter : csr.NotAfter after
  before : ∀ t, csr.Before t → (∀ t' ∈ time, t' ≤ t) → after.Before t

section

variable {csr : StatusRegistry} (hclocked : csr.Clocked)
include hclocked

theorem Clocked.advances_of_same (time : Option Time) {after : StatusRegistry}
    (htotal : after.totalReadiness = csr.totalReadiness)
    (hgroups : after.perNodeGroupReadiness = csr.perNodeGroupReadiness)
    (hscaleDown : after.lastScaleDownUpdateTime = csr.lastScaleDownUpdateTime) :
    csr.Advances time after where
  clocked :=
    ⟨htotal ▸ hclocked.total, hscaleDown ▸ hclocked.scaleDown, by
      rw [htotal, hgroups]
      exact hclocked.groups⟩
  notAfter := ⟨by rw [htotal], by rw [hscaleDown]⟩
  before t hold _ := by rwa [Before, htotal, hscaleDown]

/-- An update that fails changes nothing; one that does not has all records made anew. -/
theorem Clocked.advances_updateNodes {W : Type} {h : ApiService W} (nodes : List Node)
    {currentTime : Time} (hbefore : csr.Before currentTime) (m : Machine W) :
    csr.Advances (some currentTime) { csr with toClusterStateRegistry :=
      ((csr.updateNodes nodes currentTime).exec h m).val.1 } := by
  rcases csr.updateNodes_cases (h := h) nodes currentTime m with
    ⟨err, herr⟩ | ⟨_, _, _, -, -, -, -, hnone, -⟩
  · exact hclocked.advances_of_same _ (by rw [herr]) (by rw [herr]) rfl
  · obtain ⟨htime, hrecords⟩ := csr.updateNodes_times nodes currentTime m hnone
    refine ⟨⟨?_, hclocked.scaleDown, ?_⟩, ⟨?_, le_rfl⟩, fun t hold hlater => ⟨?_, hold.2⟩⟩
    · exact (hclocked.total.trans hbefore.1).trans_eq htime.symm
    · exact fun id r hentry => (hrecords id r hentry).trans htime.symm
    · exact hbefore.1.trans_eq htime.symm
    · exact htime.trans_le (hlater currentTime rfl)

theorem Clocked.advances_updateScaleDownCandidates {now : Time} (hbefore : csr.Before now)
    (candidates : Std.ExtTreeMap String (List String)) :
    csr.Advances (some now) { csr with
      candidatesForScaleDown := candidates
      lastScaleDownUpdateTime := now } where
  clocked := ⟨hclocked.total, hclocked.scaleDown.trans hbefore.2, hclocked.groups⟩
  notAfter := ⟨le_rfl, hbefore.2⟩
  before _ hold hlater := ⟨hold.1, hlater now rfl⟩

theorem Clocked.advances_run {W : Type} {h : ApiService W} (config : ClusterStateRegistryConfig)
    (call : StatusCall W) (hbefore : ∀ t ∈ call.op.time, csr.Before t) :
    csr.Advances call.op.time ((call.op.run config csr).exec h call.mach).val.1 := by
  obtain ⟨op, m⟩ := call
  cases op with
  | registry op =>
      cases op with
      | registerScaleUp request => exact hclocked.advances_of_same _ rfl rfl rfl
      | registerScaleDown request => exact hclocked.advances_of_same _ rfl rfl rfl
      | registerFailedScaleUp nodeGroupName => exact hclocked.advances_of_same _ rfl rfl rfl
      | updateNodes nodes currentTime =>
          have hrun : ((StatusOp.run config csr (.registry (.updateNodes nodes currentTime))).exec
              h m).val.1 = { csr with toClusterStateRegistry :=
                ((csr.updateNodes nodes currentTime).exec h m).val.1 } := by
            simp [StatusOp.run, RegistryOp.run]
          rw [hrun]
          exact hclocked.advances_updateNodes nodes (hbefore currentTime rfl) m
  | updateScaleDownCandidates nodes now =>
      have hrun : ∃ candidates, ((StatusOp.run config csr
          (.updateScaleDownCandidates nodes now)).exec h m).val.1 =
            { csr with
              candidatesForScaleDown := candidates
              lastScaleDownUpdateTime := now } :=
        ⟨_, by simp [StatusOp.run, updateScaleDownCandidates]; rfl⟩
      obtain ⟨candidates, hrun⟩ := hrun
      rw [hrun]
      exact hclocked.advances_updateScaleDownCandidates (hbefore now rfl) candidates
  | getStatus now => exact hclocked.advances_of_same _ rfl rfl rfl

end

end StatusRegistry

/-- Along calls at times that do not decrease, the times of the reports do not either. -/
theorem reportsFrom_times {W : Type} {h : ApiService W} (config : ClusterStateRegistryConfig)
    (calls : List (StatusCall W)) (csr : StatusRegistry) (hclocked : csr.Clocked)
    (hbefore : ∀ t ∈ callTimes calls, csr.Before t)
    (hordered : (callTimes calls).Pairwise (· ≤ ·)) :
    (∀ report ∈ reportsFrom h config csr calls, report.csr.Clocked ∧
      csr.NotAfter report.csr) ∧
    (reportsFrom h config csr calls).Pairwise fun earlier later =>
      earlier.csr.NotAfter later.csr := by
  induction calls generalizing csr with
  | nil => simp [reportsFrom]
  | cons call rest ih =>
      have htimes : callTimes (call :: rest) = call.op.time.toList ++ callTimes rest := by
        simp only [callTimes, List.filterMap_cons]
        cases call.op.time <;> rfl
      simp only [htimes, List.mem_append, Option.mem_toList, List.pairwise_append]
        at hbefore hordered
      obtain ⟨-, hrest, hlater⟩ := hordered
      rcases reportsFrom_cons (h := h) config csr call rest with
        ⟨after, -, hafter, hreports⟩ | ⟨status, -, hreports⟩
      · obtain ⟨hclocked', hstep, hmoved⟩ :=
          hclocked.advances_run (h := h) config call fun t ht => hbefore t (.inl ht)
        rw [← hafter] at hclocked' hstep hmoved
        obtain ⟨hall, hpairwise⟩ := ih after hclocked'
          (fun t ht => hmoved t (hbefore t (.inr ht)) fun t' ht' => hlater t' ht' t ht) hrest
        rw [hreports]
        exact ⟨fun report hreport => ⟨(hall report hreport).1, hstep.trans (hall report hreport).2⟩,
          hpairwise⟩
      · obtain ⟨hall, hpairwise⟩ := ih { csr with lastStatus := status }
          ⟨hclocked.total, hclocked.scaleDown, hclocked.groups⟩
          (fun t ht => hbefore t (.inr ht)) hrest
        have hfrom : ∀ report ∈ reportsFrom h config { csr with lastStatus := status } rest,
            csr.NotAfter report.csr :=
          fun report hreport => ⟨(hall report hreport).2.total, (hall report hreport).2.scaleDown⟩
        rw [hreports, List.forall_mem_cons, List.pairwise_cons]
        exact ⟨⟨⟨hclocked, le_rfl, le_rfl⟩,
          fun report hreport => ⟨(hall report hreport).1, hfrom report hreport⟩⟩,
          hfrom, hpairwise⟩

namespace StatusRegistry

theorem Clocked.readiness_time {csr : StatusRegistry} (hclocked : csr.Clocked) (id : String) :
    0 ≤ (csr.readiness id).time ∧ (csr.readiness id).time ≤ csr.totalReadiness.time := by
  unfold ClusterStateRegistry.readiness
  cases hentry : csr.perNodeGroupReadiness id with
  | none => exact ⟨le_rfl, hclocked.total⟩
  | some r =>
      rw [Option.getD_some, hclocked.groups id r hentry]
      exact ⟨hclocked.total, le_rfl⟩

/-- A group's time goes back only where its record is gone. -/
theorem NotAfter.readiness_time_le {csr csr' : StatusRegistry} (hle : csr.NotAfter csr')
    (hclocked : csr.Clocked) (hclocked' : csr'.Clocked) {id : String}
    (hrecord : csr'.perNodeGroupReadiness id = none → (csr.readiness id).time = 0) :
    (csr.readiness id).time ≤ (csr'.readiness id).time := by
  cases hentry : csr'.perNodeGroupReadiness id with
  | none =>
      rw [hrecord hentry]
      exact (hclocked'.readiness_time id).1
  | some r =>
      have htime : (csr'.readiness id).time = csr'.totalReadiness.time := by
        rw [ClusterStateRegistry.readiness, hentry, Option.getD_some, hclocked'.groups id r hentry]
      rw [htime]
      exact (hclocked.readiness_time id).2.trans hle.total

theorem NotAfter.probeTime_le {csr csr' : StatusRegistry} (hle : csr.NotAfter csr')
    (hclocked : csr.Clocked) (hclocked' : csr'.Clocked) {subject : Subject}
    {type : ClusterAutoscalerConditionType}
    (hrecord : ∀ id, subject = .nodeGroup id → type ≠ .scaleDown →
      csr'.perNodeGroupReadiness id = none → (csr.readiness id).time = 0) :
    csr.probeTime subject type ≤ csr'.probeTime subject type := by
  cases subject with
  | cluster =>
      cases type with
      | scaleDown => exact hle.scaleDown
      | health => exact hle.total
      | scaleUp => exact hle.total
  | nodeGroup id =>
      cases type with
      | scaleDown => exact hle.scaleDown
      | health =>
          exact hle.readiness_time_le hclocked hclocked' (hrecord id rfl (by simp))
      | scaleUp =>
          exact hle.readiness_time_le hclocked hclocked' (hrecord id rfl (by simp))

theorem probeTime_nodeGroup (csr : StatusRegistry) (id : String)
    {type : ClusterAutoscalerConditionType} (htype : type ≠ .scaleDown) :
    csr.probeTime (.nodeGroup id) type = (csr.readiness id).time := by
  cases type with
  | scaleDown => exact absurd rfl htype
  | health => rfl
  | scaleUp => rfl

end StatusRegistry

section

variable {W : Type} {h : ApiService W} {config : ClusterStateRegistryConfig}

/-- The transition time in terms of the registries: that of the first report of the stretch
is when it was probed. -/
theorem transition_eq_probeTime {calls : List (StatusCall W)} {n : ℕ} {report : Report}
    (hreport : (reports h config calls)[n]? = some report) {subject : Subject}
    {condition : ClusterAutoscalerCondition}
    (hcondition : report.status.Reports condition subject) :
    ∃ j first, IsLeast (stretches (fun k => ∃ other c,
        (reports h config calls)[k]? = some other ∧ other.status.Reports c subject ∧
          c.type = condition.type ∧ c.status = condition.status) n) j ∧
      (reports h config calls)[j]? = some first ∧
      condition.lastTransitionTime = first.csr.probeTime subject condition.type := by
  obtain ⟨found, hfound, hverdict, htransition⟩ := reports_lookupAt hreport hcondition
  obtain ⟨j, hleast, c, hc, hprobe⟩ := transition_of_reports hfound
  obtain ⟨first, hfirst, hlookup⟩ := Option.bind_eq_some_iff.mp hc
  obtain ⟨hreports, htype⟩ := ClusterAutoscalerStatus.reports_of_lookup hlookup
  have hstatus : found.status = condition.status := congrArg (fun verdict => verdict.2.1) hverdict
  refine ⟨j, first, by simpa only [exists_report_iff, hstatus] using hleast, hfirst, ?_⟩
  have hmade := reportsFrom_made config _ calls first (List.mem_of_getElem? hfirst)
  rw [← htransition, ← hprobe, hmade.probe hreports, htype]

/-- The reports of a run with ordered times. -/
theorem reports_times (config : ClusterStateRegistryConfig) {calls : List (StatusCall W)}
    (hordered : (0 :: callTimes calls).Pairwise (· ≤ ·)) :
    (∀ report ∈ reports h config calls, report.csr.Clocked) ∧
      ∀ (j n : ℕ) (first last : Report), j ≤ n → (reports h config calls)[j]? = some first →
        (reports h config calls)[n]? = some last → first.csr.NotAfter last.csr := by
  obtain ⟨hzero, hordered⟩ := List.pairwise_cons.mp hordered
  have hfresh : newStatusRegistry.Clocked := ⟨le_rfl, le_rfl, by rintro id r ⟨⟩⟩
  obtain ⟨hall, hpairwise⟩ := reportsFrom_times (h := h) config calls newStatusRegistry hfresh
    (fun t ht => ⟨hzero t ht, hzero t ht⟩) hordered
  refine ⟨fun report hreport => (hall report hreport).1, ?_⟩
  intro j n first last hjn hfirst hlast
  rcases Nat.eq_or_lt_of_le hjn with rfl | hlt
  · obtain rfl := Option.some.inj (hfirst.symm.trans hlast)
    exact ⟨le_rfl, le_rfl⟩
  · obtain ⟨hj, rfl⟩ := List.getElem?_eq_some_iff.mp hfirst
    obtain ⟨hn, rfl⟩ := List.getElem?_eq_some_iff.mp hlast
    exact List.pairwise_iff_getElem.mp hpairwise j n hj hn hlt

end

/-- **Transitions after the probe.** In a run with times that do not decrease, no condition of
any status has its transition after its probe, if and only if a group that has no readiness
record in a status had none, or one of the zero time, when its current health and scale-up
status were first reported. -/
theorem transition_not_after_probe_iff {W : Type} (h : ApiService W)
    (config : ClusterStateRegistryConfig) (calls : List (StatusCall W))
    (hordered : (0 :: callTimes calls).Pairwise (· ≤ ·)) :
    (∀ report ∈ reports h config calls, ∀ subject condition,
        report.status.Reports condition subject →
        condition.lastTransitionTime ≤ condition.lastProbeTime) ↔
      ∀ n report, (reports h config calls)[n]? = some report →
        ∀ id condition, report.status.Reports condition (.nodeGroup id) →
          condition.type ≠ .scaleDown → report.csr.perNodeGroupReadiness id = none →
          ∀ j first, IsLeast (stretches (fun k => ∃ other c,
              (reports h config calls)[k]? = some other ∧
                other.status.Reports c (.nodeGroup id) ∧
                c.type = condition.type ∧ c.status = condition.status) n) j →
            (reports h config calls)[j]? = some first → (first.csr.readiness id).time = 0 := by
  obtain ⟨hclocked, hnotAfter⟩ := reports_times (h := h) config hordered
  have hmade := reportsFrom_made (h := h) config newStatusRegistry calls
  constructor
  · intro hall n report hreport id condition hcondition htype hnone j first hleast hfirst
    obtain ⟨j', first', hleast', hfirst', htransition⟩ :=
      transition_eq_probeTime hreport hcondition
    obtain rfl := hleast.unique hleast'
    obtain rfl := Option.some.inj (hfirst.symm.trans hfirst')
    have hmem := List.mem_of_getElem? hreport
    have hle := hall report hmem _ condition hcondition
    rw [htransition, (hmade report hmem).probe hcondition,
      StatusRegistry.probeTime_nodeGroup _ _ htype,
      StatusRegistry.probeTime_nodeGroup _ _ htype] at hle
    have hzero : (report.csr.readiness id).time = 0 := by
      rw [ClusterStateRegistry.readiness, hnone]
      rfl
    rw [hzero] at hle
    exact le_antisymm hle ((hclocked _ (List.mem_of_getElem? hfirst)).readiness_time id).1
  · intro hall report hreport subject condition hcondition
    obtain ⟨n, hn⟩ := List.mem_iff_getElem?.mp hreport
    obtain ⟨j, first, hleast, hfirst, htransition⟩ := transition_eq_probeTime hn hcondition
    rw [htransition, (hmade report hreport).probe hcondition]
    refine (hnotAfter j n first report hleast.1.1 hfirst hn).probeTime_le
      (hclocked _ (List.mem_of_getElem? hfirst)) (hclocked _ hreport) ?_
    rintro id rfl htype hnone
    exact hall n report hn id condition hcondition htype hnone j first hleast hfirst

/-- In the steady run every group has a record in both statuses. -/
theorem transition_not_after_probe_steady :
    (0 :: callTimes steadyCalls).Pairwise (· ≤ ·) ∧
    ∀ report ∈ reports Cluster.sample.service tolerantConfig steadyCalls,
      ∀ subject condition, report.status.Reports condition subject →
        condition.lastTransitionTime ≤ condition.lastProbeTime := by
  have hrecords : ∀ report ∈ reports Cluster.sample.service tolerantConfig steadyCalls,
      ∀ ngStatus ∈ report.status.nodeGroupStatuses,
        (report.csr.perNodeGroupReadiness ngStatus.providerID).isSome = true := by
    decide +kernel
  have hordered : (0 :: callTimes steadyCalls).Pairwise (· ≤ ·) := by decide
  refine ⟨hordered, (transition_not_after_probe_iff Cluster.sample.service tolerantConfig
    steadyCalls hordered).mpr ?_⟩
  rintro n report hreport id condition ⟨ngStatus, hng, rfl, -⟩ - hnone
  have hsome := hrecords report (List.mem_of_getElem? hreport) ngStatus hng
  rw [hnone] at hsome
  cases hsome

/-- The sample cluster after `g` was scaled down to nothing. -/
def emptiedMachine : Machine ClusterState :=
  ⟨freshStore [groupG, groupK], { sampleState with desired := fun _ => 0 }⟩

/-- `g` has both its nodes in a first status, and none in a second. -/
def emptyingCalls : List (StatusCall ClusterState) :=
  observeAndReport [node1, node2, node5] minute ++
    [⟨.registry (.updateNodes [] (2 * minute)), emptiedMachine⟩,
      ⟨.getStatus (2 * minute), emptiedMachine⟩]

/-- It is healthy in both, in the second since one minute, but probed at the zero time. -/
theorem transition_after_probe_emptied :
    (0 :: callTimes emptyingCalls).Pairwise (· ≤ ·) ∧
    ∃ report condition,
      (reports Cluster.sample.service tolerantConfig emptyingCalls)[1]? = some report ∧
      report.status.Reports condition (.nodeGroup groupG.id) ∧
      condition.type = .health ∧ condition.status = .healthy ∧
      condition.lastTransitionTime = minute ∧ condition.lastProbeTime = 0 := by
  refine ⟨by decide, ?_⟩
  have hlookup : (lookupAt (reports Cluster.sample.service tolerantConfig emptyingCalls) 1
      (.nodeGroup groupG.id) .health).map (fun c =>
        (c.status, c.lastTransitionTime, c.lastProbeTime)) = some (.healthy, minute, 0) := by
    decide +kernel
  obtain ⟨condition, hcondition, heq⟩ := Option.map_eq_some_iff.mp hlookup
  obtain ⟨report, hreport, hfound⟩ := Option.bind_eq_some_iff.mp hcondition
  obtain ⟨hreports, htype⟩ := ClusterAutoscalerStatus.reports_of_lookup hfound
  simp only [Prod.mk.injEq] at heq
  exact ⟨report, condition, hreport, hreports, htype, heq⟩

end AutoNodeRepair
