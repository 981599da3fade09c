import AutoNodeRepair.Logic.Cluster
import AutoNodeRepair.Model.StatusText
import AutoNodeRepair.Text.Number
import AutoNodeRepair.Text.Report

/-!
# The status can be read back from its text

`GetReadableString` is for people, and it keeps only the last condition of each type, in an
order of its own. Of a status that `GetStatus` makes nothing is lost in it: two of them
with the same text are the same (`getReadableString_faithful`).
-/

namespace AutoNodeRepair

open Interact Text

/-- How times are printed: each on one line, and no two alike. -/
structure TimeFormat where
  format : Time → String
  injective : Function.Injective format
  oneLine : ∀ t, '\n' ∉ (format t).toList

/-! ## One condition -/

/-- What is printed on the first line of a condition, behind its type. -/
def ClusterAutoscalerCondition.verdictText (condition : ClusterAutoscalerCondition) : String :=
  condition.status.text ++
    if condition.message ≠ "" then " (" ++ condition.message ++ ")" else ""

namespace ClusterAutoscalerCondition

variable {c c' : ClusterAutoscalerCondition}

theorem verdictText_oneLine (hc : '\n' ∉ c.message.toList) : '\n' ∉ c.verdictText.toList := by
  have hstatus : '\n' ∉ c.status.text.toList := by
    cases c.status <;> decide
  unfold verdictText
  split <;> simp [hstatus, hc]

/-- What is read behind the blank that ends the status. -/
def detail (c : ClusterAutoscalerCondition) : List Char :=
  if c.message ≠ "" then '(' :: c.message.toList ++ [')', ' '] else []

theorem verdictText_blank (c : ClusterAutoscalerCondition) :
    (c.verdictText ++ " ").toList = c.status.text.toList ++ ' ' :: c.detail := by
  unfold verdictText detail
  split <;> simp

theorem detail_inj (heq : c.detail = c'.detail) : c.message = c'.message := by
  unfold detail at heq
  split at heq <;> split at heq
  · exact String.toList_injective (by simpa using heq)
  · simp at heq
  · simp at heq
  · simp_all

theorem statusText_inj {status status' : ClusterAutoscalerConditionStatus}
    (heq : status.text = status'.text) : status = status' := by
  cases status <;> cases status' <;> first | rfl | exact absurd heq (by decide)

/-- The text of a status is a word, so the first line is read up to the blank. -/
theorem verdictText_inj (heq : c.verdictText = c'.verdictText) :
    c.status = c'.status ∧ c.message = c'.message := by
  have hword : ∀ status : ClusterAutoscalerConditionStatus, ' ' ∉ status.text.toList := by
    intro status
    cases status <;> decide
  have hblank : c.status.text.toList ++ ' ' :: c.detail =
      c'.status.text.toList ++ ' ' :: c'.detail := by
    rw [← verdictText_blank, ← verdictText_blank, heq]
  obtain ⟨hstatus, hdetail⟩ := append_cons_inj (hword _) (hword _) hblank
  exact ⟨statusText_inj (String.toList_injective hstatus), detail_inj hdetail⟩

end ClusterAutoscalerCondition

/-- A condition of this type, with a message on one line. -/
def Printable (type : ClusterAutoscalerConditionType) (c : ClusterAutoscalerCondition) : Prop :=
  c.type = type ∧ '\n' ∉ c.message.toList

section

variable (fmt : TimeFormat)

/-- The lines of a condition tell all of it, its type being known. -/
theorem conditionLines_tells (indent : String) (type : ClusterAutoscalerConditionType) :
    Tells (Printable type) (conditionLines fmt.format indent) id := by
  have hverdict : Tells (Printable type) (fun c => indent ++ leftAligned (type.text ++ ":") ++
      " " ++ c.verdictText ++ "\n") ClusterAutoscalerCondition.verdictText :=
    Tells.line _ fun c hc => ClusterAutoscalerCondition.verdictText_oneLine hc.2
  have hprobe : Tells (Printable type) (fun c => indent ++ margin ++ "LastProbeTime:      " ++
      fmt.format c.lastProbeTime ++ "\n") fun c => fmt.format c.lastProbeTime :=
    Tells.line _ fun c _ => fmt.oneLine _
  have htransition : Tells (Printable type) (fun c => indent ++ margin ++ "LastTransitionTime: " ++
      fmt.format c.lastTransitionTime ++ "\n") fun c => fmt.format c.lastTransitionTime :=
    Tells.line _ fun c _ => fmt.oneLine _
  refine (((hverdict.append hprobe).append htransition).congr ?_).imp ?_
  · rintro c ⟨rfl, -⟩
    simp only [conditionLines, ClusterAutoscalerCondition.verdictText, String.append_assoc]
  · rintro c c' ⟨htype, -⟩ ⟨htype', -⟩ heq
    simp only [Prod.mk.injEq] at heq
    obtain ⟨⟨hverdict, hprobe⟩, htransition⟩ := heq
    obtain ⟨hstatus, hmessage⟩ := ClusterAutoscalerCondition.verdictText_inj hverdict
    have hprobe := fmt.injective hprobe
    have htransition := fmt.injective htransition
    cases c
    cases c'
    simp_all

/-! ## The conditions of a subject -/

/-- One condition of each type, in the order of `GetStatus`. -/
def Standard (conditions : List ClusterAutoscalerCondition) : Prop :=
  ∃ health scaleUp scaleDown, conditions = [health, scaleUp, scaleDown] ∧
    Printable .health health ∧ Printable .scaleUp scaleUp ∧ Printable .scaleDown scaleDown

theorem getConditionsString_tells (indent : String) :
    Tells Standard (getConditionsString fmt.format indent) id := by
  have hprint : ∀ health scaleUp scaleDown, Printable .health health →
      Printable .scaleUp scaleUp → Printable .scaleDown scaleDown → ∀ rest,
      getConditionsString fmt.format indent [health, scaleUp, scaleDown] ++ rest =
        conditionLines fmt.format indent health ++ (conditionLines fmt.format indent scaleUp ++
          (conditionLines fmt.format indent scaleDown ++ rest)) := by
    rintro health scaleUp scaleDown ⟨hhealth, -⟩ ⟨hup, -⟩ ⟨hdown, -⟩ rest
    simp only [getConditionsString, List.foldl_cons, List.foldl_nil, ConditionTexts.set, hhealth,
      hup, hdown, String.append_assoc]
  rintro _ _ ⟨health, up, down, rfl, hhealth, hup, hdown⟩
    ⟨health', up', down', rfl, hhealth', hup', hdown'⟩ rest rest' heq
  rw [hprint _ _ _ hhealth hup hdown, hprint _ _ _ hhealth' hup' hdown'] at heq
  obtain ⟨hsame, hafter⟩ := conditionLines_tells fmt indent _ _ _ hhealth hhealth' _ _ heq
  obtain ⟨hsame', hafter'⟩ := conditionLines_tells fmt indent _ _ _ hup hup' _ _ hafter
  obtain ⟨hsame'', hrest⟩ := conditionLines_tells fmt indent _ _ _ hdown hdown' _ _ hafter'
  exact ⟨by simp_all, hrest⟩

/-! ## The whole status -/

/-- A group as `GetStatus` reports it, with a name on one line. -/
def NodeGroupStatus.Printable (group : NodeGroupStatus) : Prop :=
  '\n' ∉ group.providerID.toList ∧ Standard group.conditions

theorem groupLines_tells :
    Tells NodeGroupStatus.Printable (NodeGroupStatus.lines fmt.format) id := by
  have hname : Tells NodeGroupStatus.Printable
      (fun group => "  Name:        " ++ group.providerID ++ "\n") NodeGroupStatus.providerID :=
    Tells.line _ fun group hgroup => hgroup.1
  have hconditions : Tells NodeGroupStatus.Printable
      (fun group => getConditionsString fmt.format "  " group.conditions)
      NodeGroupStatus.conditions :=
    ((getConditionsString_tells fmt "  ").comap NodeGroupStatus.conditions).mono
      fun group hgroup => hgroup.2
  have hlines : Tells NodeGroupStatus.Printable (NodeGroupStatus.lines fmt.format)
      fun group => ((group.providerID, group.conditions), ()) :=
    ((hname.append hconditions).append (Tells.always "\n")).congr fun group _ => rfl
  refine hlines.imp ?_
  rintro ⟨name, conditions⟩ ⟨name', conditions'⟩ _ _ heq
  simp only [Prod.mk.injEq, and_true] at heq
  rw [heq.1, heq.2]

/-- A status as `GetStatus` makes it. -/
structure Reportable (status : ClusterAutoscalerStatus) : Prop where
  clusterwide : Standard status.clusterwideConditions
  groups : ∀ group ∈ status.nodeGroupStatuses, group.Printable

theorem getReadableString_inj {status status' : ClusterAutoscalerStatus}
    (hstatus : Reportable status) (hstatus' : Reportable status')
    (heq : status.getReadableString fmt.format = status'.getReadableString fmt.format) :
    status = status' := by
  obtain ⟨groups, conditions⟩ := status
  obtain ⟨groups', conditions'⟩ := status'
  simp only [ClusterAutoscalerStatus.getReadableString, String.append_assoc,
    String.append_right_inj] at heq
  obtain ⟨hconditions, hgroups⟩ := getConditionsString_tells fmt "  " _ _ hstatus.clusterwide
    hstatus'.clusterwide _ _ heq
  have hsome : ∀ (group : NodeGroupStatus) (rest : List NodeGroupStatus),
      ¬(group :: rest).length = 0 := by simp
  have hsame : groups = groups' := by
    cases groups with
    | nil =>
        cases groups' with
        | nil => rfl
        | cons group rest =>
            rw [if_pos List.length_nil, if_neg (hsome group rest)] at hgroups
            exact absurd (String.append_eq_empty_iff.mp hgroups.symm).1 (by decide)
    | cons group rest =>
        cases groups' with
        | nil =>
            rw [if_neg (hsome group rest), if_pos List.length_nil] at hgroups
            exact absurd (String.append_eq_empty_iff.mp hgroups).1 (by decide)
        | cons group' rest' =>
            rw [if_neg (hsome group rest), if_neg (hsome group' rest')] at hgroups
            have hne : ∀ g : NodeGroupStatus, g.lines fmt.format ≠ "" := by
              intro g hempty
              exact absurd (String.append_eq_empty_iff.mp hempty).2 (by decide)
            simpa using (groupLines_tells fmt).repeated hne _ _ hstatus.groups hstatus'.groups
              ((String.append_right_inj _).mp hgroups)
  rw [hsame, show conditions = conditions' from hconditions]

end

/-! ## What `GetStatus` makes -/

theorem notMem_append {c : Char} {s t : String} (hs : c ∉ s.toList) (ht : c ∉ t.toList) :
    c ∉ (s ++ t).toList := by
  simp [hs, ht]

theorem newline_notMem_int (n : Int) : '\n' ∉ (toString n).toList :=
  notMem_toString_int (by decide) (by decide) n

theorem Printable.withTransition {type : ClusterAutoscalerConditionType}
    {c : ClusterAutoscalerCondition} (hc : Printable type c)
    (oldConds : List ClusterAutoscalerCondition) : Printable type (c.withTransition oldConds) := by
  unfold ClusterAutoscalerCondition.withTransition
  simp only
  split
  · split <;> exact hc
  · exact hc

theorem Standard.updateLastTransition {conditions : List ClusterAutoscalerCondition}
    (hconditions : Standard conditions) (oldConds : List ClusterAutoscalerCondition) :
    Standard (updateLastTransitionSingleList oldConds conditions) := by
  obtain ⟨health, up, down, rfl, hhealth, hup, hdown⟩ := hconditions
  exact ⟨_, _, _, rfl, hhealth.withTransition oldConds, hup.withTransition oldConds,
    hdown.withTransition oldConds⟩

theorem scaleDownCondition_printable (candidates : Nat) (lastProbed : Time) :
    Printable .scaleDown (scaleDownCondition candidates lastProbed) := by
  refine ⟨rfl, ?_⟩
  have hnumber : '\n' ∉ (toString candidates).toList := notMem_toString_nat (by decide) _
  exact notMem_append (by decide) hnumber

theorem nodeGroupStatus_standard (csr : StatusRegistry) (config : ClusterStateRegistryConfig)
    (now : Time) (nodeGroup : Asg) :
    Standard (csr.nodeGroupStatus config now nodeGroup).conditions := by
  refine ⟨_, _, _, rfl, ⟨rfl, ?_⟩, ⟨rfl, ?_⟩, scaleDownCondition_printable _ _⟩
  · simp only [buildHealthStatusNodeGroup, String.toList_append, List.mem_append, not_or]
    repeat' apply And.intro
    all_goals first | decide | exact newline_notMem_int _
  · simp only [buildScaleUpStatusNodeGroup, String.toList_append, List.mem_append, not_or]
    repeat' apply And.intro
    all_goals first | decide | exact newline_notMem_int _

theorem currentStatus_reportable (csr : StatusRegistry) (config : ClusterStateRegistryConfig)
    (now : Time) {groups : List Asg} (hnames : ∀ asg ∈ groups, '\n' ∉ asg.name.toList) :
    Reportable (csr.currentStatus config now groups) where
  clusterwide := by
    refine ⟨_, _, _, rfl, ⟨rfl, ?_⟩, ⟨rfl, ?_⟩, scaleDownCondition_printable _ _⟩
    · simp only [buildHealthStatusClusterwide, String.toList_append, List.mem_append, not_or]
      repeat' apply And.intro
      all_goals first | decide | exact newline_notMem_int _
    · simp only [buildScaleUpStatusClusterwide, String.toList_append, List.mem_append, not_or]
      repeat' apply And.intro
      all_goals first | decide | exact newline_notMem_int _
  groups := by
    intro group hgroup
    obtain ⟨asg, hasg, rfl⟩ := List.mem_map.mp hgroup
    exact ⟨hnames asg hasg, nodeGroupStatus_standard csr config now asg⟩

theorem Reportable.updateLastTransition {status : ClusterAutoscalerStatus}
    (hstatus : Reportable status) (oldStatus : ClusterAutoscalerStatus) :
    Reportable (updateLastTransition oldStatus status) where
  clusterwide := hstatus.clusterwide.updateLastTransition _
  groups := by
    intro group hgroup
    obtain ⟨before, hbefore, rfl⟩ := List.mem_map.mp hgroup
    obtain ⟨hname, hconditions⟩ := hstatus.groups before hbefore
    exact ⟨hname, hconditions.updateLastTransition _⟩

/-- **Nothing of a status is lost in its text.** Two statuses that `GetStatus` made, of any
registries, at any times and of any groups with names on one line, are the same if their
texts are. -/
theorem getReadableString_faithful (fmt : TimeFormat) {W W' : Type} (h : ApiService W)
    (h' : ApiService W') (csr csr' : StatusRegistry) (config config' : ClusterStateRegistryConfig)
    (now now' : Time) (m : Machine W) (m' : Machine W')
    (hnames : ∀ asg ∈ m.store.registeredAsgs, '\n' ∉ asg.name.toList)
    (hnames' : ∀ asg ∈ m'.store.registeredAsgs, '\n' ∉ asg.name.toList)
    (htext : ((csr.getStatus config now).exec h m).val.2.getReadableString fmt.format =
      ((csr'.getStatus config' now').exec h' m').val.2.getReadableString fmt.format) :
    ((csr.getStatus config now).exec h m).val.2 =
      ((csr'.getStatus config' now').exec h' m').val.2 :=
  getReadableString_inj fmt
    ((currentStatus_reportable csr config now hnames).updateLastTransition csr.lastStatus)
    ((currentStatus_reportable csr' config' now' hnames').updateLastTransition csr'.lastStatus)
    htext

/-- Times as numbers. -/
def plainTimes : TimeFormat where
  format t := toString (t : Int)
  injective := by
    intro t t' heq
    have hread : readInt (toString (t : Int)).toList = readInt (toString (t' : Int)).toList :=
      congrArg (fun s => readInt s.toList) heq
    rw [readInt_toString, readInt_toString] at hread
    exact Option.some.inj hread
  oneLine t := newline_notMem_int t

/-- A fresh registry of the sample groups reports the same at all times. -/
theorem getReadableString_faithful_sample :
    let status (now : Time) := ((newStatusRegistry.getStatus ⟨45, 10⟩ now).exec
      Cluster.sample.service sampleMachine).val.2
    (status 0).nodeGroupStatuses.length = 2 ∧ status 0 = status 7 :=
  ⟨rfl, getReadableString_faithful plainTimes Cluster.sample.service Cluster.sample.service
    newStatusRegistry newStatusRegistry ⟨45, 10⟩ ⟨45, 10⟩ 0 7 sampleMachine sampleMachine
    (by decide) (by decide) rfl⟩

end AutoNodeRepair
