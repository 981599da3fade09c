import AutoNodeRepair.Text.Split
import AutoNodeRepair.Theorems.CacheTransparency

/-!
# Provider ids

The id of a node is written by `GetAsgNodes`, read by `AwsRefFromProviderId` and looked up
in a cache that `regenerateCache` fills with instance ids: three pieces of code that have to
agree about the instance. They do, for every zone and instance id over the characters of the
pattern, and the pattern leaves the reader nothing to stumble over.
-/

namespace AutoNodeRepair

open Interact Text

/-! ## Writing and reading -/

/-- A zone or an instance id that the pattern lets through. -/
def IsRefText (text : String) : Prop := text.toList.all isRefChar = true

theorem slash_notMem {text : String} (htext : IsRefText text) : '/' ∉ text.toList := by
  intro hmem
  have hslash := List.all_eq_true.mp htext '/' hmem
  simp [isRefChar] at hslash

theorem toList_providerId (zone name : String) :
    s!"aws:///{zone}/{name}".toList = "aws:///".toList ++ (zone.toList ++ '/' :: name.toList) := by
  show ("aws:///" ++ zone ++ "/" ++ name).toList = _
  simp [String.toList_append]

theorem dropWhile_isRefChar {zone : String} (hzone : IsRefText zone) (name : List Char) :
    (zone.toList ++ '/' :: name).dropWhile isRefChar = '/' :: name := by
  rw [List.dropWhile_append_of_pos (List.all_eq_true.mp hzone)]
  rfl

/-- What is written is read back. -/
theorem awsRefFromProviderId_format {zone name : String} (hzone : IsRefText zone)
    (hname : IsRefText name) : awsRefFromProviderId s!"aws:///{zone}/{name}" = .ok ⟨name⟩ := by
  have hdrop : s!"aws:///{zone}/{name}".toList.drop 7 = zone.toList ++ '/' :: name.toList := by
    rw [toList_providerId]
    rfl
  have htake : s!"aws:///{zone}/{name}".toList.take 7 = "aws:///".toList := by
    rw [toList_providerId]
    rfl
  have hvalid : validAwsRefId s!"aws:///{zone}/{name}" = true := by
    simp only [validAwsRefId, hdrop, htake, dropWhile_isRefChar hzone]
    simpa [IsRefText] using hname
  have hsplit : (zone.toList ++ '/' :: name.toList).splitOn '/' = [zone.toList, name.toList] := by
    have hparts : ∀ part ∈ [zone.toList, name.toList], '/' ∉ part := by
      simp [slash_notMem hzone, slash_notMem hname]
    simpa using List.splitOn_intercalate '/' hparts (by simp)
  simp only [awsRefFromProviderId, splitAwsRef, hvalid, hdrop, hsplit]
  simp

/-- A text that matches the pattern has a separator, so there is a part to index. -/
theorem slash_mem_of_valid {id : String} (hvalid : validAwsRefId id = true) :
    '/' ∈ id.toList.drop 7 := by
  unfold validAwsRefId at hvalid
  obtain ⟨-, hrest⟩ := (Bool.and_eq_true _ _).mp hvalid
  split at hrest
  case h_1 => simp at hrest
  case h_2 c name hdrop =>
    have hc : c = '/' := by simpa using ((Bool.and_eq_true _ _).mp hrest).1
    have hmem : c ∈ (id.toList.drop 7).dropWhile isRefChar := by simp [hdrop]
    exact hc ▸ (List.dropWhile_suffix _).subset hmem

/-- Reading the name of a text that matches does not panic. -/
theorem splitAwsRef_isSome {id : String} (hvalid : validAwsRefId id = true) :
    (splitAwsRef id).isSome = true := by
  have hlength := one_lt_length_splitOn (slash_mem_of_valid hvalid)
  simp [splitAwsRef, List.getElem?_eq_getElem hlength]

theorem awsRefFromProviderId_inRange (id : String) :
    awsRefFromProviderId id ≠ .error "runtime error: index out of range" := by
  unfold awsRefFromProviderId
  by_cases hvalid : validAwsRefId id = true
  · obtain ⟨ref, href⟩ := Option.isSome_iff_exists.mp (splitAwsRef_isSome hvalid)
    simp [hvalid, href]
  · simp only [Bool.not_eq_true] at hvalid
    simp only [hvalid, Bool.not_false, if_true, ne_eq, Except.error.injEq]
    intro heq
    have hfirst := congrArg (fun text : String => text.toList.head?) heq
    simp [ToString.toString] at hfirst

/-! ## Filing and looking up -/

section

variable {W : Type} {h : ApiService W}

/-- AWS describes each group with the same instances whenever it is asked. -/
def DescribesGroups (h : ApiService W) (described : String → List Instance) (asgs : List Asg) :
    Prop :=
  ∀ w, ∀ asg ∈ asgs, ∃ group rest,
    (h w (.describeAutoScalingGroups asg.name)).1 = .ok (group :: rest) ∧
      group.instances = described asg.name

/-- The instance ids of a group. -/
def instanceIds (described : String → List Instance) (name : String) : List String :=
  (described name).map Instance.instanceId

/-- No registered group owns the instance. -/
def Foreign (members : String → List String) (asgs : List Asg) (ref : AwsRef) : Prop :=
  ∀ asg ∈ asgs, ref.name ∉ members asg.name

/-- A cache of which no entry is out of date; a fresh one has no negative entry at all. -/
def UpToDate (members : String → List String) (s : AutoScalingGroups) : Prop :=
  CacheInv s.registeredAsgs (MemberOf members s.registeredAsgs)
    (Foreign members s.registeredAsgs) s

variable {described : String → List Instance} {asgs : List Asg}

theorem DescribesGroups.instances (hdescribes : DescribesGroups h described asgs) {asg : Asg}
    (hasg : asg ∈ asgs) {g : Group} (hreport : Reports h (fun _ => True) asg.name g) :
    g.instances = described asg.name := by
  obtain ⟨w, rest, -, hans⟩ := hreport
  obtain ⟨group, rest', hans', hinstances⟩ := hdescribes w asg hasg
  rw [hans] at hans'
  cases hans'
  exact hinstances

theorem DescribesGroups.memberOf (hdescribes : DescribesGroups h described asgs) (ref : AwsRef)
    (asg : Asg) (hlisted : ListedUnder h (fun _ => True) asgs ref asg) :
    MemberOf (instanceIds described) asgs ref asg := by
  obtain ⟨hasg, g, hreport, inst, hinst, hid⟩ := hlisted
  rw [hdescribes.instances hasg hreport] at hinst
  exact ⟨hasg, List.mem_map.mpr ⟨inst, hinst, hid⟩⟩

theorem DescribesGroups.foreign (hdescribes : DescribesGroups h described asgs) (ref : AwsRef)
    (hnowhere : NowhereListed h (fun _ => True) asgs ref) :
    Foreign (instanceIds described) asgs ref := by
  intro asg hasg hmem
  obtain ⟨g, hreport, hmiss⟩ := hnowhere asg hasg
  obtain ⟨inst, hinst, hid⟩ := List.mem_map.mp hmem
  exact hmiss inst (hdescribes.instances hasg hreport ▸ hinst) hid

theorem DescribesGroups.not_fails (hdescribes : DescribesGroups h described asgs) :
    ¬∃ asg ∈ asgs, ReportFails h (fun _ => True) asg.name := by
  rintro ⟨asg, hasg, w, -, hfails⟩
  obtain ⟨group, rest, hans, -⟩ := hdescribes w asg hasg
  exact hfails group rest hans

/-- An instance is in one group: the one that a scan over them finds. -/
theorem MemberOf.unique {members : String → List String} {ref : AwsRef} {asg other : Asg}
    (hother : MemberOf members asgs ref other) (hdisjoint : DisjointGroups members asgs)
    (hasg : MemberOf members asgs ref asg) : other = asg :=
  Option.some.inj ((scan_eq_some hdisjoint hother.1 hother.2).symm.trans
    (scan_eq_some hdisjoint hasg.1 hasg.2))

variable {m : Machine W} (hdescribes : DescribesGroups h described m.store.registeredAsgs)
  (hcache : UpToDate (instanceIds described) m.store)
include hdescribes hcache

/-- What is filed under a group is an instance of it, and all its instances are filed. -/
theorem regenerateCache_files {asg : Asg}
    (hdisjoint : DisjointGroups (instanceIds described) m.store.registeredAsgs)
    (hasg : asg ∈ m.store.registeredAsgs) {inst : Instance} (hinst : inst ∈ described asg.name) :
    (regenerateCache.exec h m).val = .ok () ∧
      (regenerateCache.exec h m).mach.store.instanceToAsg ⟨inst.instanceId⟩ = some asg := by
  obtain ⟨⟨⟨hinv, -⟩, hall, hfails⟩, -⟩ := regenerateCache_spec (everywhere_closed h)
    hdescribes.memberOf hdescribes.foreign m ⟨hcache, trivial⟩
  have hmem : inst.instanceId ∈ instanceIds described asg.name := List.mem_map_of_mem hinst
  cases hval : (regenerateCache.exec h m).val with
  | error err => exact absurd (hfails err hval) hdescribes.not_fails
  | ok done =>
      refine ⟨rfl, ?_⟩
      cases hentry : (regenerateCache.exec h m).mach.store.instanceToAsg ⟨inst.instanceId⟩ with
      | none => exact absurd hmem (hall hval _ hentry asg hasg)
      | some other =>
          rw [(hinv.positive _ other hentry).unique hdisjoint ⟨hasg, hmem⟩]

theorem findForInstance_finds {asg : Asg}
    (hdisjoint : DisjointGroups (instanceIds described) m.store.registeredAsgs)
    (hasg : asg ∈ m.store.registeredAsgs) {inst : Instance} (hinst : inst ∈ described asg.name) :
    ((findForInstance ⟨inst.instanceId⟩).exec h m).val = .ok (some asg) := by
  obtain ⟨⟨-, hfound, hnone, hfails⟩, -⟩ := findForInstance_spec (everywhere_closed h)
    hdescribes.memberOf hdescribes.foreign ⟨inst.instanceId⟩ m ⟨hcache, trivial⟩
  have hmem : inst.instanceId ∈ instanceIds described asg.name := List.mem_map_of_mem hinst
  cases hval : ((findForInstance ⟨inst.instanceId⟩).exec h m).val with
  | error err => exact absurd (hfails err hval) hdescribes.not_fails
  | ok found =>
      cases found with
      | none => exact absurd hmem (hnone hval asg hasg)
      | some other =>
          rw [(hfound other hval).unique hdisjoint ⟨hasg, hmem⟩]

omit hcache in
theorem Asg.nodes_val {asg : Asg} (hasg : asg ∈ m.store.registeredAsgs) :
    (asg.nodes.exec h m).val = .ok ((described asg.name).map fun inst =>
      s!"aws:///{inst.availabilityZone}/{inst.instanceId}") := by
  obtain ⟨group, rest, hans, hinstances⟩ := hdescribes m.world asg hasg
  have hgroup : ((getAutoscalingGroupByName asg.name).exec h m).val = .ok group := by
    rw [getAutoscalingGroupByName, describeAutoScalingGroups, exec_bind,
      exec_call (E := Api) h m (.describeAutoScalingGroups asg.name), hans]
    rfl
  simp only [Asg.nodes, getAsgNodes, exec_bind, hgroup, hinstances, exec_pure, Outcome.after_val]

/-- **Writing, reading and filing agree.** Of every registered group: the ids that `Nodes`
returns are read back as the instances they were written for, under which a regeneration
files the group, and the node of that id is found to be in the group. And whatever the id,
reading it does not leave the range of its parts. -/
theorem providerIds_agree
    (hchars : ∀ asg ∈ m.store.registeredAsgs, ∀ inst ∈ described asg.name,
      IsRefText inst.availabilityZone ∧ IsRefText inst.instanceId)
    (hdisjoint : DisjointGroups (instanceIds described) m.store.registeredAsgs) :
    (∀ asg ∈ m.store.registeredAsgs, ∃ ids, (asg.nodes.exec h m).val = .ok ids ∧
      ∀ id ∈ ids, ∃ inst ∈ described asg.name,
        awsRefFromProviderId id = .ok ⟨inst.instanceId⟩ ∧
        ((regenerateCache.exec h m).val = .ok () ∧
          (regenerateCache.exec h m).mach.store.instanceToAsg ⟨inst.instanceId⟩ = some asg) ∧
        ∀ node : Node, node.providerID = id →
          ((nodeGroupForNode node).exec h m).val = .ok (some asg)) ∧
    ∀ id, awsRefFromProviderId id ≠ .error "runtime error: index out of range" := by
  refine ⟨fun asg hasg => ⟨_, Asg.nodes_val hdescribes hasg, fun id hid => ?_⟩,
    awsRefFromProviderId_inRange⟩
  obtain ⟨inst, hinst, rfl⟩ := List.mem_map.mp hid
  obtain ⟨hzone, hname⟩ := hchars asg hasg inst hinst
  have hread := awsRefFromProviderId_format hzone hname
  refine ⟨inst, hinst, hread, regenerateCache_files hdescribes hcache hdisjoint hasg hinst, ?_⟩
  intro node hnode
  simp only [nodeGroupForNode, hnode, hread]
  exact findForInstance_finds hdescribes hcache hdisjoint hasg hinst

end

/-- The instances of the sample cluster, a group with ids and zones of its own. -/
def describedSample (name : String) : List Instance :=
  if name = "g" then [⟨"i-1", "eu-west-1a"⟩, ⟨"i-2", "eu-west-1b"⟩]
  else if name = "k" then [⟨"i-5", ""⟩] else []

/-- The sample cluster with these instances. -/
def describedGroups : ApiService ClusterState
  | w, .describeAutoScalingGroups name => (.ok [⟨0, describedSample name⟩], w)
  | w, call => Cluster.sample.service w call

theorem describedGroups_describes (asgs : List Asg) :
    DescribesGroups describedGroups describedSample asgs :=
  fun _ _ _ => ⟨_, [], rfl, rfl⟩

theorem freshStore_upToDate (members : String → List String) (asgs : List Asg) :
    UpToDate members (freshStore asgs) :=
  ⟨rfl, by simp [freshStore, newAutoScalingGroups], by simp [freshStore, newAutoScalingGroups]⟩

theorem describedSample_chars :
    ∀ asg ∈ sampleMachine.store.registeredAsgs, ∀ inst ∈ describedSample asg.name,
      IsRefText inst.availabilityZone ∧ IsRefText inst.instanceId := by
  unfold IsRefText
  decide

theorem describedSample_disjoint :
    DisjointGroups (instanceIds describedSample) sampleMachine.store.registeredAsgs := by
  unfold DisjointGroups
  decide

theorem providerIds_sample :
    (DescribesGroups describedGroups describedSample sampleMachine.store.registeredAsgs ∧
      UpToDate (instanceIds describedSample) sampleMachine.store) ∧
    (∀ asg ∈ sampleMachine.store.registeredAsgs,
      ∃ ids, (asg.nodes.exec describedGroups sampleMachine).val = .ok ids ∧
      ∀ id ∈ ids, ∃ inst ∈ describedSample asg.name,
        awsRefFromProviderId id = .ok ⟨inst.instanceId⟩ ∧
        ((regenerateCache.exec describedGroups sampleMachine).val = .ok () ∧
          (regenerateCache.exec describedGroups sampleMachine).mach.store.instanceToAsg
            ⟨inst.instanceId⟩ = some asg) ∧
        ∀ node : Node, node.providerID = id →
          ((nodeGroupForNode node).exec describedGroups sampleMachine).val = .ok (some asg)) ∧
    ∀ id, awsRefFromProviderId id ≠ .error "runtime error: index out of range" :=
  ⟨⟨describedGroups_describes _, freshStore_upToDate _ _⟩,
    providerIds_agree (describedGroups_describes _) (freshStore_upToDate _ _)
      describedSample_chars describedSample_disjoint⟩

example :
    (groupG.nodes.exec describedGroups sampleMachine).val.toOption =
      some ["aws:///eu-west-1a/i-1", "aws:///eu-west-1b/i-2"] := by
  decide

end AutoNodeRepair
