import AutoNodeRepair.Model.Labels
import Mathlib.Algebra.BigOperators.Ring.List
import Mathlib.Algebra.Ring.Int.Defs
import Mathlib.Data.List.Induction
import Mathlib.Data.List.Sort

/-!
# What the best label set contains

The stats are the classes of pods with the same selector, each with the cpu its pods are
counted with; the first one after sorting is a class of the most cpu, and the others are
merged into it as far as they go. The cpu is compared in millicores, rounded up: classes
that differ by less may change places. The millicores are an `int64`: what is said here is
said of requests that fit (`CpuFits`).
-/

namespace AutoNodeRepair

open Collect

/-! ## Classes -/

/-- What a pod counts: its requests, 50 millicores if it has none. -/
def PodSpec.countedCpu (pod : PodSpec) : Quantity :=
  if pod.requestedCpu.nanos = 0 then defaultMinCPU else pod.requestedCpu

theorem Quantity.millis_eq_zero_iff (q : Quantity) : q.millis = 0 ↔ q.nanos = 0 := by
  unfold millis units
  split
  case isTrue => omega
  case isFalse => omega

theorem PodSpec.cpu_eq {pod : PodSpec} (hfits : FitsInt64 pod.requestedCpu.millis) :
    pod.cpu = pod.countedCpu := by
  rw [PodSpec.cpu, PodSpec.countedCpu, Quantity.milliValue_of_fits hfits]
  simp only [Quantity.millis_eq_zero_iff]

/-- The cpu of the pods with this selector, in nano units. -/
def classNanos (pods : List PodSpec) (selector : LabelMap) : Int :=
  ((pods.filter fun pod => pod.selector = selector).map fun pod => pod.countedCpu.nanos).sum

/-- The cpu of the pods with this selector. -/
def classCpu (pods : List PodSpec) (selector : LabelMap) : Quantity := ⟨classNanos pods selector⟩

/-- The requests of each pod, and the cpu of each class, fit 64 bits in millicores. -/
structure CpuFits (pods : List PodSpec) : Prop where
  requests : ∀ pod ∈ pods, FitsInt64 pod.requestedCpu.millis
  classes : ∀ pod ∈ pods, FitsInt64 (classCpu pods pod.selector).millis

theorem classNanos_append (pods : List PodSpec) (pod : PodSpec) (selector : LabelMap) :
    classNanos (pods ++ [pod]) selector =
      classNanos pods selector + if pod.selector = selector then pod.countedCpu.nanos else 0 := by
  by_cases hclass : pod.selector = selector
  · simp [classNanos, hclass]
  · simp [classNanos, hclass]

theorem classNanos_of_notMem {pods : List PodSpec} {selector : LabelMap}
    (hnone : selector ∉ pods.map PodSpec.selector) : classNanos pods selector = 0 := by
  have hfilter : (pods.filter fun pod => pod.selector = selector) = [] := by
    rw [List.filter_eq_nil_iff]
    intro pod hpod hclass
    exact hnone (of_decide_eq_true hclass ▸ List.mem_map_of_mem hpod)
  simp [classNanos, hfilter]

theorem addToStats_selectors (selector : LabelMap) (cpu : Quantity)
    (stats : List NodeSelectorStats) :
    (addToStats selector cpu stats).map NodeSelectorStats.nodeSelector =
      if selector ∈ stats.map NodeSelectorStats.nodeSelector
      then stats.map NodeSelectorStats.nodeSelector
      else stats.map NodeSelectorStats.nodeSelector ++ [selector] := by
  fun_induction addToStats selector cpu stats with
  | case1 => simp
  | case2 stats rest heq => simp [heq]
  | case3 stats rest hne ih =>
      have hne' : selector ≠ stats.nodeSelector := Ne.symm hne
      simp only [List.map_cons, List.mem_cons, hne', false_or, ih]
      split
      case isTrue => rfl
      case isFalse => rfl

/-- Only the stats of the pod's own class change. -/
theorem mem_addToStats {selector : LabelMap} {cpu : Quantity} {stats : List NodeSelectorStats}
    (hnodup : (stats.map NodeSelectorStats.nodeSelector).Nodup) {s : NodeSelectorStats}
    (hs : s ∈ addToStats selector cpu stats) :
    (s.nodeSelector ≠ selector ∧ s ∈ stats) ∨
      (s.nodeSelector = selector ∧
        ((∃ before ∈ stats, before.nodeSelector = selector ∧
            s.totalCpu = before.totalCpu.add cpu) ∨
          (selector ∉ stats.map NodeSelectorStats.nodeSelector ∧ s.totalCpu = cpu))) := by
  fun_induction addToStats selector cpu stats with
  | case1 =>
      obtain rfl := List.mem_singleton.mp hs
      exact .inr ⟨rfl, .inr ⟨by simp, rfl⟩⟩
  | case2 stats rest heq =>
      rw [List.map_cons, List.nodup_cons] at hnodup
      rcases List.mem_cons.mp hs with rfl | hs
      · exact .inr ⟨heq, .inl ⟨stats, List.mem_cons_self, heq, rfl⟩⟩
      · refine .inl ⟨fun hsame => hnodup.1 ?_, List.mem_cons_of_mem _ hs⟩
        rw [heq, ← hsame]
        exact List.mem_map_of_mem hs
  | case3 stats rest hne ih =>
      rw [List.map_cons, List.nodup_cons] at hnodup
      rcases List.mem_cons.mp hs with rfl | hs
      · exact .inl ⟨hne, List.mem_cons_self⟩
      · rcases ih hnodup.2 hs with ⟨hother, hmem⟩ | ⟨hsame, ⟨before, hmem, hbefore⟩ | ⟨hnew, hcpu⟩⟩
        · exact .inl ⟨hother, List.mem_cons_of_mem _ hmem⟩
        · exact .inr ⟨hsame, .inl ⟨before, List.mem_cons_of_mem _ hmem, hbefore⟩⟩
        · refine .inr ⟨hsame, .inr ⟨?_, hcpu⟩⟩
          rw [List.map_cons, List.mem_cons, not_or]
          exact ⟨Ne.symm hne, hnew⟩

/-- The stats of each class there is, once. -/
structure StatsOf (pods : List PodSpec) (stats : List NodeSelectorStats) : Prop where
  classes : ∀ selector,
    selector ∈ stats.map NodeSelectorStats.nodeSelector ↔ selector ∈ pods.map PodSpec.selector
  total : ∀ s ∈ stats, s.totalCpu = classCpu pods s.nodeSelector
  nodup : (stats.map NodeSelectorStats.nodeSelector).Nodup

namespace StatsOf

variable {pods : List PodSpec} {stats sorted : List NodeSelectorStats}

theorem perm (hstats : StatsOf pods stats) (hperm : sorted.Perm stats) : StatsOf pods sorted where
  classes selector := (hperm.map _).mem_iff.trans (hstats.classes selector)
  total s hs := hstats.total s (hperm.mem_iff.mp hs)
  nodup := (hperm.map _).nodup_iff.mpr hstats.nodup

theorem exists_stats (hstats : StatsOf pods stats) {pod : PodSpec} (hpod : pod ∈ pods) :
    ∃ s ∈ stats, s.nodeSelector = pod.selector :=
  List.mem_map.mp ((hstats.classes pod.selector).mpr (List.mem_map_of_mem hpod))

theorem exists_pod (hstats : StatsOf pods stats) {s : NodeSelectorStats} (hs : s ∈ stats) :
    ∃ pod ∈ pods, pod.selector = s.nodeSelector :=
  List.mem_map.mp ((hstats.classes s.nodeSelector).mp (List.mem_map_of_mem hs))

end StatsOf

theorem StatsOf.addToStats {pods : List PodSpec} {stats : List NodeSelectorStats}
    (hstats : StatsOf pods stats) (pod : PodSpec) :
    StatsOf (pods ++ [pod]) (addToStats pod.selector pod.countedCpu stats) where
  classes := by
    intro selector
    rw [addToStats_selectors, List.map_append, List.mem_append, ← hstats.classes]
    by_cases hmem : pod.selector ∈ stats.map NodeSelectorStats.nodeSelector
    · rw [if_pos hmem]
      refine ⟨.inl, fun h => h.elim id fun hlast => ?_⟩
      exact List.mem_singleton.mp hlast ▸ hmem
    · rw [if_neg hmem, List.mem_append]
      rfl
  total := by
    intro s hs
    rw [classCpu, classNanos_append]
    rcases mem_addToStats hstats.nodup hs with
      ⟨hother, hmem⟩ | ⟨hsame, ⟨before, hmem, hbefore, hcpu⟩ | ⟨hnew, hcpu⟩⟩
    · rw [if_neg hother.symm, Int.add_zero]
      exact hstats.total s hmem
    · rw [if_pos hsame.symm, hcpu, hstats.total before hmem, hbefore, hsame]
      rfl
    · rw [hstats.classes] at hnew
      rw [if_pos hsame.symm, hcpu, hsame, classNanos_of_notMem hnew, Int.zero_add]
  nodup := by
    rw [addToStats_selectors]
    by_cases hmem : pod.selector ∈ stats.map NodeSelectorStats.nodeSelector
    · rw [if_pos hmem]
      exact hstats.nodup
    · rw [if_neg hmem, ← List.concat_eq_append]
      exact hstats.nodup.concat hmem

theorem statsOf_calculate {pods : List PodSpec}
    (hfits : ∀ pod ∈ pods, FitsInt64 pod.requestedCpu.millis) :
    StatsOf pods (calculateNodeSelectorStats pods) := by
  induction pods using List.reverseRecOn with
  | nil => exact ⟨by simp [calculateNodeSelectorStats], by simp [calculateNodeSelectorStats], .nil⟩
  | append_singleton pods pod ih =>
      have hcpu : pod.cpu = pod.countedCpu := PodSpec.cpu_eq (hfits pod (by simp))
      have hstats := ih fun pod hpod => hfits pod (List.mem_append_left _ hpod)
      rw [calculateNodeSelectorStats, List.foldl_append, List.foldl_cons, List.foldl_nil, hcpu]
      exact hstats.addToStats pod

/-! ## Whole millicores -/

/-- The containers of the pod request whole millicores. -/
def PodSpec.WholeMillis (pod : PodSpec) : Prop :=
  ∀ container ∈ pod.containers, 1000000 ∣ (container.requests.getD resourceCPU ⟨0⟩).nanos

theorem dvd_foldl_add {containers : List Container} {podCpu : Quantity}
    (hcpu : 1000000 ∣ podCpu.nanos) (hwhole : ∀ container ∈ containers,
      1000000 ∣ (container.requests.getD resourceCPU ⟨0⟩).nanos) :
    1000000 ∣ (containers.foldl (fun podCpu container =>
      podCpu.add (container.requests.getD resourceCPU ⟨0⟩)) podCpu).nanos := by
  induction containers generalizing podCpu with
  | nil => exact hcpu
  | cons container rest ih =>
      obtain ⟨hfirst, hrest⟩ := List.forall_mem_cons.mp hwhole
      exact ih (Int.dvd_add hcpu hfirst) hrest

theorem PodSpec.WholeMillis.countedCpu {pod : PodSpec} (hwhole : pod.WholeMillis) :
    1000000 ∣ pod.countedCpu.nanos := by
  unfold PodSpec.countedCpu
  split
  case isTrue => decide
  case isFalse => exact dvd_foldl_add (Int.dvd_zero _) hwhole

theorem dvd_classNanos {pods : List PodSpec} (hwhole : ∀ pod ∈ pods, pod.WholeMillis)
    (selector : LabelMap) : 1000000 ∣ classNanos pods selector := by
  refine List.dvd_sum fun nanos hnanos => ?_
  obtain ⟨pod, hpod, rfl⟩ := List.mem_map.mp hnanos
  exact (hwhole pod (List.mem_of_mem_filter hpod)).countedCpu

theorem millis_mul_of_dvd {q : Quantity} (hwhole : 1000000 ∣ q.nanos) :
    q.millis * 1000000 = q.nanos := by
  unfold Quantity.millis Quantity.units
  omega

/-! ## The result -/

/-- The call merges the selectors of all classes, beginning with one of the most cpu. -/
theorem bestLabelSet_eq (sortStats : SortNodeSelectorStats) {pods : List PodSpec}
    (hpods : pods ≠ []) (hfits : CpuFits pods) :
    ∃ best ∈ pods, ∃ others : List LabelMap,
      bestLabelSet sortStats pods =
        some (mergeAll isInfrastructureLabel best.selector others) ∧
      (∀ pod ∈ pods, (classCpu pods pod.selector).millis ≤
        (classCpu pods best.selector).millis) ∧
      (∀ selector ∈ others, ∃ pod ∈ pods, pod.selector = selector) ∧
      ∀ pod ∈ pods, pod.selector = best.selector ∨ pod.selector ∈ others := by
  have hstats := (statsOf_calculate hfits.requests).perm
    (sortStats (calculateNodeSelectorStats pods)).perm
  have hdescending := (sortStats (calculateNodeSelectorStats pods)).descending
  unfold bestLabelSet
  generalize (sortStats (calculateNodeSelectorStats pods)).sorted = sorted at hstats hdescending
  cases sorted with
  | nil =>
      obtain ⟨pod, hpod⟩ := List.exists_mem_of_ne_nil pods hpods
      obtain ⟨s, hs, -⟩ := hstats.exists_stats hpod
      cases hs
  | cons first rest =>
      obtain ⟨best, hbest, hselector⟩ := hstats.exists_pod List.mem_cons_self
      refine ⟨best, hbest, rest.map NodeSelectorStats.nodeSelector, by rw [hselector], ?_, ?_, ?_⟩
      · intro pod hpod
        obtain ⟨s, hs, heq⟩ := hstats.exists_stats hpod
        have hmilli : ∀ s ∈ first :: rest, s.totalCpu.milliValue = s.totalCpu.millis := by
          intro s hs
          obtain ⟨pod, hpod, hselector⟩ := hstats.exists_pod hs
          rw [hstats.total s hs, ← hselector]
          exact Quantity.milliValue_of_fits (hfits.classes pod hpod)
        rw [← heq, hselector, ← hstats.total s hs, ← hstats.total first List.mem_cons_self,
          ← hmilli s hs, ← hmilli first List.mem_cons_self]
        rcases List.mem_cons.mp hs with rfl | hs
        · exact Int.le_refl _
        · exact (List.pairwise_cons.mp hdescending).1 s hs
      · intro selector hmem
        obtain ⟨s, hs, rfl⟩ := List.mem_map.mp hmem
        exact hstats.exists_pod (List.mem_cons_of_mem _ hs)
      · intro pod hpod
        obtain ⟨s, hs, heq⟩ := hstats.exists_stats hpod
        rw [← heq, hselector]
        exact (List.mem_cons.mp hs).imp (congrArg _) List.mem_map_of_mem

/-- Among whole millicores, the rounding loses nothing. -/
theorem classNanos_le_of_millis_le {pods : List PodSpec}
    (hwhole : ∀ pod ∈ pods, pod.WholeMillis) {selector selector' : LabelMap}
    (hle : (classCpu pods selector).millis ≤ (classCpu pods selector').millis) :
    classNanos pods selector ≤ classNanos pods selector' := by
  have hnanos : (classCpu pods selector).millis * 1000000 = classNanos pods selector :=
    millis_mul_of_dvd (dvd_classNanos hwhole selector)
  have hnanos' : (classCpu pods selector').millis * 1000000 = classNanos pods selector' :=
    millis_mul_of_dvd (dvd_classNanos hwhole selector')
  omega

/-- **The best label set.** For pods whose cpu fits 64 bits in millicores, it contains the
selector of a class of the most cpu in millicores, rounded up, which is a class of the most
cpu if all requests are in whole millicores. What is in it besides comes from the selectors
of pods and is no infrastructure label. And each pod's selector is contained in it, or
contradicts it, or asks for an infrastructure label that it does not have. -/
theorem bestLabelSet_maximal (sortStats : SortNodeSelectorStats) (pods : List PodSpec)
    (hpods : pods ≠ []) (hfits : CpuFits pods) :
    ∃ labels, bestLabelSet sortStats pods = some labels ∧
      (∃ best ∈ pods,
        (∀ pod ∈ pods, (classCpu pods pod.selector).millis ≤
          (classCpu pods best.selector).millis) ∧
        ((∀ pod ∈ pods, pod.WholeMillis) →
          ∀ pod ∈ pods, classNanos pods pod.selector ≤ classNanos pods best.selector) ∧
        SubMap best.selector labels ∧
        ∀ (key value : String), labels[key]? = some value →
          best.selector[key]? = some value ∨
            (∃ pod ∈ pods, pod.selector[key]? = some value) ∧ isInfrastructureLabel key = false) ∧
      ∀ pod ∈ pods, SubMap pod.selector labels ∨
        Rejected isInfrastructureLabel labels pod.selector := by
  obtain ⟨best, hbest, others, hlabels, hmost, hothers, hall⟩ :=
    bestLabelSet_eq sortStats hpods hfits
  refine ⟨_, hlabels, ⟨best, hbest, hmost, ?_, subMap_mergeAll _ others, ?_⟩, ?_⟩
  · intro hwhole pod hpod
    exact classNanos_le_of_millis_le hwhole (hmost pod hpod)
  · intro key value hentry
    rcases entry_mergeAll hentry with hold | ⟨⟨selector, hselector, hvalue⟩, hplain⟩
    · exact .inl hold
    · obtain ⟨pod, hpod, rfl⟩ := hothers selector hselector
      exact .inr ⟨⟨pod, hpod, hvalue⟩, hplain⟩
  · intro pod hpod
    rcases hall pod hpod with heq | hother
    · rw [heq]
      exact .inl (subMap_mergeAll _ others)
    · exact subMap_or_rejected _ others pod.selector hother

/-- Equal classes stay in the order in which they came up. -/
def stableSort : SortNodeSelectorStats := fun stats =>
  { sorted := stats.insertionSort fun a b => b.totalCpu.milliValue ≤ a.totalCpu.milliValue
    perm := List.perm_insertionSort _ _
    descending :=
      have : Std.Total fun a b : NodeSelectorStats =>
          b.totalCpu.milliValue ≤ a.totalCpu.milliValue :=
        ⟨fun _ _ => Int.le_total _ _⟩
      have : IsTrans NodeSelectorStats fun a b =>
          b.totalCpu.milliValue ≤ a.totalCpu.milliValue :=
        ⟨fun _ _ _ hab hbc => Int.le_trans hbc hab⟩
      List.pairwise_insertionSort _ _ }

/-- A pod with this selector entry, of a container with this request. -/
def selectingPod (key value : String) (cpu : Quantity) : PodSpec where
  ns := "default"
  name := "p"
  nodeName := ""
  nodeSelector := some ((∅ : LabelMap).insert key value)
  containers := [{ requests := (∅ : ResourceList).insert resourceCPU cpu }]

theorem bestLabelSet_sample :
    let pods := [selectingPod "disk" "hdd" (.newMilliQuantity 100),
      selectingPod "disk" "ssd" (.newMilliQuantity 200),
      selectingPod "arch" "arm" (.newMilliQuantity 50)]
    pods ≠ [] ∧ CpuFits pods ∧
    ∃ labels, bestLabelSet stableSort pods = some labels ∧
      (∃ best ∈ pods,
        (∀ pod ∈ pods, (classCpu pods pod.selector).millis ≤
          (classCpu pods best.selector).millis) ∧
        ((∀ pod ∈ pods, pod.WholeMillis) →
          ∀ pod ∈ pods, classNanos pods pod.selector ≤ classNanos pods best.selector) ∧
        SubMap best.selector labels ∧
        ∀ (key value : String), labels[key]? = some value →
          best.selector[key]? = some value ∨
            (∃ pod ∈ pods, pod.selector[key]? = some value) ∧ isInfrastructureLabel key = false) ∧
      ∀ pod ∈ pods, SubMap pod.selector labels ∨
        Rejected isInfrastructureLabel labels pod.selector :=
  have hfits : CpuFits [selectingPod "disk" "hdd" (.newMilliQuantity 100),
      selectingPod "disk" "ssd" (.newMilliQuantity 200),
      selectingPod "arch" "arm" (.newMilliQuantity 50)] := ⟨by decide +kernel, by decide +kernel⟩
  ⟨by simp, hfits, bestLabelSet_maximal stableSort _ (by simp) hfits⟩

example :
    (bestLabelSet stableSort [selectingPod "disk" "hdd" (.newMilliQuantity 100),
      selectingPod "disk" "ssd" (.newMilliQuantity 200),
      selectingPod "arch" "arm" (.newMilliQuantity 50)]).map (·.toList) =
        some [("arch", "arm"), ("disk", "ssd")] := by
  decide +kernel

/-- 100.1 and 100.9 millicores are both counted as 101: the smaller class may come first. -/
theorem bestLabelSet_rounds :
    let pods := [selectingPod "disk" "hdd" ⟨100100000⟩, selectingPod "disk" "ssd" ⟨100900000⟩]
    (bestLabelSet stableSort pods).map (·["disk"]?) = some (some "hdd") ∧
      ∀ pod ∈ pods, (∀ other ∈ pods, classNanos pods other.selector ≤
        classNanos pods pod.selector) → pod.selector["disk"]? = some "ssd" := by
  decide +kernel

end AutoNodeRepair
