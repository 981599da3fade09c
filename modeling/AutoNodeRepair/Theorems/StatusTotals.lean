import AutoNodeRepair.Collect.Totals
import AutoNodeRepair.Theorems.StatusTransitions

/-!
# The cluster-wide status agrees with the groups

`GetStatus` puts the cluster-wide conditions together from other data than those of the
groups: the candidates for scale-down are counted over the whole map, whatever group a node
was filed under. As long as the cache files nodes under registered groups only, which is
what a lookup does, the two parts of every status agree (`reports_agree`).
-/

namespace AutoNodeRepair

open Interact Std

/-! ## The candidates -/

/-- The groups are registered, and nodes are filed under these only. -/
abbrev Filed (asgs : List Asg) (s : AutoScalingGroups) : Prop :=
  CacheInv asgs (fun _ asg => asg ∈ asgs) (fun _ => True) s

/-- The candidates are nodes of these groups. -/
def Known (asgs : List Asg) (candidates : ExtTreeMap String (List String)) : Prop :=
  ∀ id names, candidates[id]? = some names → id ∈ asgs.map Asg.id

section

variable {W : Type} {h : ApiService W} {asgs : List Asg}

/-- A lookup keeps to the registered groups. -/
theorem nodeGroupForNode_known (node : Node) :
    Triple h (fun m => Filed asgs m.store) (fun _ => True) (nodeGroupForNode node)
      fun r m => Filed asgs m.store ∧ ∀ group, r = .ok (some group) → group ∈ asgs := by
  unfold nodeGroupForNode
  split
  · exact Triple.pure _ fun m hm => ⟨hm, nofun⟩
  · rename_i ref _
    intro m hm
    obtain ⟨⟨⟨hcache, -⟩, hfound, -⟩, -⟩ := findForInstance_spec (everywhere_closed h)
      (fun _ _ hlisted => hlisted.1) (fun _ _ => trivial) ref m ⟨hm, trivial⟩
    exact ⟨⟨hcache, hfound⟩, fun _ _ => trivial⟩

theorem candidatesLoop_known :
    ∀ (nodes : List Node) (result : ExtTreeMap String (List String)), Known asgs result →
    Triple h (fun m => Filed asgs m.store) (fun _ => True) (candidatesLoop nodes result)
      fun r _ => Known asgs r := by
  intro nodes
  induction nodes with
  | nil => intro result hresult; exact Triple.pure _ fun _ _ => hresult
  | cons node rest ih =>
      intro result hresult
      refine Triple.bind_val (nodeGroupForNode_known node) fun r hr => ?_
      split
      · rename_i group
        refine ih _ ?_
        intro id names hentry
        rw [ExtTreeMap.getElem?_insert] at hentry
        split at hentry
        · rename_i hid
          rw [← LawfulEqCmp.eq_of_compare hid]
          exact List.mem_map_of_mem (hr group rfl)
        · exact hresult id names hentry
      · exact ih result hresult

end

/-! ## One status -/

/-- A scale-down condition for so many candidates. -/
def ClusterAutoscalerCondition.Counts (c : ClusterAutoscalerCondition) (n : Nat) : Prop :=
  c.message = s!"candidates={n}" ∧ (c.status = .candidatesPresent ↔ 0 < n)

/-- The subject has a condition of the type, and `P` holds of it. -/
def ClusterAutoscalerStatus.Says (status : ClusterAutoscalerStatus) (subject : Subject)
    (type : ClusterAutoscalerConditionType) (P : ClusterAutoscalerCondition → Prop) : Prop :=
  (∃ c, status.Reports c subject ∧ c.type = type) ∧
    ∀ c, status.Reports c subject → c.type = type → P c

/-- A scale-up of one of the groups is reported in progress. -/
def ClusterAutoscalerStatus.ScalesUp (asgs : List Asg) (status : ClusterAutoscalerStatus) : Prop :=
  ∃ asg ∈ asgs, ∃ c, status.Reports c (.nodeGroup asg.id) ∧ c.type = .scaleUp ∧
    c.status = .inProgress

/-- The cluster has the candidates of all groups together, and a scale-up in progress
exactly if one of them has. -/
def ClusterAutoscalerStatus.Agrees (asgs : List Asg) (status : ClusterAutoscalerStatus) : Prop :=
  ∃ count : String → Nat,
    (∀ asg ∈ asgs, status.Says (.nodeGroup asg.id) .scaleDown (·.Counts (count asg.id))) ∧
    status.Says .cluster .scaleDown (·.Counts (asgs.map fun asg => count asg.id).sum) ∧
    status.Says .cluster .scaleUp fun c => c.status = .inProgress ↔ status.ScalesUp asgs

theorem scaleDownCondition_counts (n : Nat) (t : Time) : (scaleDownCondition n t).Counts n := by
  refine ⟨rfl, ?_⟩
  by_cases hn : n > 0 <;> simp [scaleDownCondition, hn]

section

variable {asgs : List Asg} (csr : StatusRegistry) (config : ClusterStateRegistryConfig)
  (now : Time)

/-- The nodes of a group that may be scaled down. -/
def StatusRegistry.candidateCount (csr : StatusRegistry) (id : String) : Nat :=
  (csr.candidatesForScaleDown.getD id []).length

theorem total_candidates (hids : (asgs.map Asg.id).Nodup)
    (hknown : Known asgs csr.candidatesForScaleDown) :
    csr.candidatesForScaleDown.foldl (fun total _ val => total + val.length) 0 =
      (asgs.map fun asg => csr.candidateCount asg.id).sum := by
  rw [Collect.foldl_total _ List.length hids hknown, List.map_map]
  congr 1
  refine List.map_congr_left fun asg _ => ?_
  simp only [Function.comp_apply, StatusRegistry.candidateCount,
    ExtTreeMap.getD_eq_getD_getElem?]
  cases csr.candidatesForScaleDown[asg.id]? <;> rfl

/-- A group reports its own number, under whichever entry with its id. -/
theorem nodeGroup_counts {asg : Asg} (hasg : asg ∈ asgs) :
    (csr.currentStatus config now asgs).Says (.nodeGroup asg.id) .scaleDown
      (·.Counts (csr.candidateCount asg.id)) := by
  constructor
  · refine ⟨_, ⟨_, List.mem_map_of_mem hasg, rfl,
      List.mem_cons_of_mem _ (List.mem_cons_of_mem _ (List.mem_singleton_self _))⟩, rfl⟩
  · rintro c ⟨ngStatus, hng, hid, hmem⟩ htype
    obtain ⟨group, -, rfl⟩ := List.mem_map.mp hng
    have hid : group.id = asg.id := hid
    simp only [StatusRegistry.nodeGroupStatus, List.mem_cons, List.not_mem_nil, or_false] at hmem
    rcases hmem with rfl | rfl | rfl
    · simp [buildHealthStatusNodeGroup] at htype
    · simp [buildScaleUpStatusNodeGroup] at htype
    · rw [hid]
      exact scaleDownCondition_counts _ _

theorem clusterwide_counts (hids : (asgs.map Asg.id).Nodup)
    (hknown : Known asgs csr.candidatesForScaleDown) :
    (csr.currentStatus config now asgs).Says .cluster .scaleDown
      (·.Counts (asgs.map fun asg => csr.candidateCount asg.id).sum) := by
  constructor
  · exact ⟨_, List.mem_cons_of_mem _ (List.mem_cons_of_mem _ (List.mem_singleton_self _)), rfl⟩
  · intro c hc htype
    simp only [ClusterAutoscalerStatus.Reports, StatusRegistry.currentStatus, List.mem_cons,
      List.not_mem_nil, or_false] at hc
    rcases hc with rfl | rfl | rfl
    · simp [buildHealthStatusClusterwide] at htype
    · simp [buildScaleUpStatusClusterwide] at htype
    · rw [buildScaleDownStatusClusterwide, total_candidates csr hids hknown]
      exact scaleDownCondition_counts _ _

theorem clusterwide_scalesUp :
    (csr.currentStatus config now asgs).Says .cluster .scaleUp fun c =>
      c.status = .inProgress ↔ (csr.currentStatus config now asgs).ScalesUp asgs := by
  constructor
  · exact ⟨_, List.mem_cons_of_mem _ (List.mem_cons_self ..), rfl⟩
  · intro c hc htype
    simp only [ClusterAutoscalerStatus.Reports, StatusRegistry.currentStatus, List.mem_cons,
      List.not_mem_nil, or_false] at hc
    rcases hc with rfl | rfl | rfl
    · simp [buildHealthStatusClusterwide] at htype
    · constructor
      · intro hstatus
        simp only [buildScaleUpStatusClusterwide] at hstatus
        split at hstatus
        · rename_i hany
          obtain ⟨ngStatus, hng, hconditions⟩ := List.any_eq_true.mp hany
          obtain ⟨c', hc', hboth⟩ := List.any_eq_true.mp hconditions
          obtain ⟨asg, hasg, rfl⟩ := List.mem_map.mp hng
          simp only [Bool.and_eq_true, beq_iff_eq] at hboth
          exact ⟨asg, hasg, c', ⟨_, hng, rfl, hc'⟩, hboth⟩
        · simp at hstatus
      · rintro ⟨asg, hasg, c', ⟨ngStatus, hng, -, hc'⟩, hscaleUp, hprogress⟩
        refine if_pos (List.any_eq_true.mpr ⟨ngStatus, hng, List.any_eq_true.mpr ⟨c', hc', ?_⟩⟩)
        simp [hscaleUp, hprogress]
    · simp [buildScaleDownStatusClusterwide, scaleDownCondition] at htype

/-- Before its transition times are filled in. -/
theorem currentStatus_agrees (hids : (asgs.map Asg.id).Nodup)
    (hknown : Known asgs csr.candidatesForScaleDown) :
    (csr.currentStatus config now asgs).Agrees asgs :=
  ⟨csr.candidateCount, fun _ hasg => nodeGroup_counts csr config now hasg,
    clusterwide_counts csr config now hids hknown, clusterwide_scalesUp csr config now⟩

end

/-! ## The transition times -/

theorem ClusterAutoscalerCondition.withTransition_status
    (oldConds : List ClusterAutoscalerCondition) (c : ClusterAutoscalerCondition) :
    (c.withTransition oldConds).status = c.status :=
  congrArg (fun verdict => verdict.2.1) (c.withTransition_verdict oldConds)

theorem ClusterAutoscalerCondition.withTransition_message
    (oldConds : List ClusterAutoscalerCondition) (c : ClusterAutoscalerCondition) :
    (c.withTransition oldConds).message = c.message := by
  unfold withTransition
  dsimp only
  split
  · split <;> rfl
  · rfl

/-- The converse of `updateLastTransition_reports`. -/
theorem reports_updateLastTransition (oldStatus : ClusterAutoscalerStatus)
    {newStatus : ClusterAutoscalerStatus} {fresh : ClusterAutoscalerCondition} {subject : Subject}
    (hreports : newStatus.Reports fresh subject) :
    (updateLastTransition oldStatus newStatus).Reports
      (fresh.withTransition (oldStatus.conditionsOf subject)) subject := by
  cases subject with
  | cluster => exact List.mem_map_of_mem hreports
  | nodeGroup providerID =>
      obtain ⟨draft, hdraft, rfl, hfresh⟩ := hreports
      exact ⟨_, List.mem_map_of_mem hdraft, rfl, List.mem_map_of_mem hfresh⟩

section

variable {asgs : List Asg} {status : ClusterAutoscalerStatus} (oldStatus : ClusterAutoscalerStatus)

theorem ClusterAutoscalerStatus.Says.updated {subject : Subject}
    {type : ClusterAutoscalerConditionType} {P Q : ClusterAutoscalerCondition → Prop}
    (hsaid : status.Says subject type P)
    (hPQ : ∀ oldConds c, P c → Q (c.withTransition oldConds)) :
    (updateLastTransition oldStatus status).Says subject type Q := by
  obtain ⟨⟨c, hc, htype⟩, hall⟩ := hsaid
  constructor
  · exact ⟨_, reports_updateLastTransition oldStatus hc, by simpa using htype⟩
  · intro c' hc' htype'
    obtain ⟨fresh, hfresh, rfl⟩ := updateLastTransition_reports hc'
    exact hPQ _ fresh (hall fresh hfresh (by simpa using htype'))

theorem ClusterAutoscalerCondition.Counts.updated {c : ClusterAutoscalerCondition} {n : Nat}
    (hcounts : c.Counts n) (oldConds : List ClusterAutoscalerCondition) :
    (c.withTransition oldConds).Counts n := by
  rwa [Counts, withTransition_message, withTransition_status]

theorem scalesUp_updateLastTransition :
    (updateLastTransition oldStatus status).ScalesUp asgs ↔ status.ScalesUp asgs := by
  constructor
  · rintro ⟨asg, hasg, c, hc, htype, hprogress⟩
    obtain ⟨fresh, hfresh, rfl⟩ := updateLastTransition_reports hc
    rw [ClusterAutoscalerCondition.withTransition_type] at htype
    rw [ClusterAutoscalerCondition.withTransition_status] at hprogress
    exact ⟨asg, hasg, fresh, hfresh, htype, hprogress⟩
  · rintro ⟨asg, hasg, c, hc, htype, hprogress⟩
    refine ⟨asg, hasg, _, reports_updateLastTransition oldStatus hc, ?_, ?_⟩
    · rwa [ClusterAutoscalerCondition.withTransition_type]
    · rwa [ClusterAutoscalerCondition.withTransition_status]

theorem ClusterAutoscalerStatus.Agrees.updated (hagrees : status.Agrees asgs) :
    (updateLastTransition oldStatus status).Agrees asgs := by
  obtain ⟨count, hgroups, hcluster, hscaleUp⟩ := hagrees
  refine ⟨count, fun asg hasg => ?_, ?_, ?_⟩
  · exact (hgroups asg hasg).updated oldStatus fun oldConds c hc => hc.updated oldConds
  · exact hcluster.updated oldStatus fun oldConds c hc => hc.updated oldConds
  · refine hscaleUp.updated oldStatus fun oldConds c hc => ?_
    rw [ClusterAutoscalerCondition.withTransition_status, scalesUp_updateLastTransition]
    exact hc

end

/-! ## Over all calls -/

section

variable {W : Type} {h : ApiService W} {asgs : List Asg} (config : ClusterStateRegistryConfig)

/-- One call keeps the candidates known, and a status that it returns agrees. -/
theorem StatusOp.run_agrees (hids : (asgs.map Asg.id).Nodup) {csr : StatusRegistry}
    (hknown : Known asgs csr.candidatesForScaleDown) (op : StatusOp) (m : Machine W)
    (hstore : Filed asgs m.store) :
    Known asgs ((op.run config csr).exec h m).val.1.candidatesForScaleDown ∧
      ∀ status, ((op.run config csr).exec h m).val.2 = some status → status.Agrees asgs := by
  cases op with
  | registry op => exact ⟨by simpa [StatusOp.run] using hknown, by simp [StatusOp.run]⟩
  | updateScaleDownCandidates nodes now =>
      have hloop := (candidatesLoop_known (h := h) nodes ∅ (by simp [Known]) m hstore).1
      refine ⟨?_, by simp [StatusOp.run]⟩
      simpa [StatusOp.run, StatusRegistry.updateScaleDownCandidates] using hloop
  | getStatus now =>
      refine ⟨hknown, ?_⟩
      rintro status ⟨⟩
      rw [hstore.registered]
      exact (currentStatus_agrees csr config now hids hknown).updated csr.lastStatus

theorem reportsFrom_agree (hids : (asgs.map Asg.id).Nodup) {calls : List (StatusCall W)}
    (hstores : ∀ call ∈ calls, Filed asgs call.mach.store) {csr : StatusRegistry}
    (hknown : Known asgs csr.candidatesForScaleDown) :
    ∀ report ∈ reportsFrom h config csr calls, report.status.Agrees asgs := by
  induction calls generalizing csr with
  | nil => simp [reportsFrom]
  | cons call rest ih =>
      obtain ⟨hfirst, hlater⟩ := List.forall_mem_cons.mp hstores
      obtain ⟨hknown', hagrees⟩ := call.op.run_agrees (h := h) config hids hknown call.mach hfirst
      intro report hreport
      unfold reportsFrom at hreport
      dsimp only at hreport
      split at hreport
      · rename_i status hstatus
        rcases List.mem_cons.mp hreport with rfl | hreport
        · exact hagrees status hstatus
        · exact ih hlater hknown' report hreport
      · exact ih hlater hknown' report hreport

end

/-- Whatever was called before, and whatever the cloud provider answered: in every status
that `GetStatus` returns, the candidates of the cluster are those of the groups added up, and
the cluster is scaled up exactly if a group is. -/
theorem reports_agree {W : Type} (h : ApiService W) (config : ClusterStateRegistryConfig)
    {asgs : List Asg} (hids : (asgs.map Asg.id).Nodup) (calls : List (StatusCall W))
    (hstores : ∀ call ∈ calls, Filed asgs call.mach.store) :
    ∀ report ∈ reports h config calls, report.status.Agrees asgs :=
  reportsFrom_agree config hids hstores (by simp [Known, newStatusRegistry])

/-- One node of each group may go. -/
def candidateCalls : List (StatusCall ClusterState) :=
  [⟨.updateScaleDownCandidates [node1, node5] minute, sampleMachine⟩,
    ⟨.getStatus minute, sampleMachine⟩]

theorem reports_agree_sample :
    (lookupAt (reports Cluster.sample.service tolerantConfig candidateCalls) 0 .cluster
        .scaleDown).map ClusterAutoscalerCondition.message = some "candidates=2" ∧
    ∀ report ∈ reports Cluster.sample.service tolerantConfig candidateCalls,
      report.status.Agrees [groupG, groupK] := by
  refine ⟨by decide +kernel, reports_agree _ _ (by decide) candidateCalls ?_⟩
  simp [candidateCalls, sampleMachine, freshStore_cacheInv]

end AutoNodeRepair
