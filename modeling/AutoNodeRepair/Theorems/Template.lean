import AutoNodeRepair.Model.Template

/-!
# Building a node template

`TemplateNodeInfo` puts a node together from what AWS describes, and returns an error where
the description is incomplete. What the description *says* it takes on trust: a type that
is not in the table becomes a nil pointer, and the value of a taint tag is indexed without a
look at its parts. `templateNodeInfo_returns_iff` says exactly when it returns.
-/

namespace AutoNodeRepair

open Interact Text

/-! ## Taints -/

theorem isSome_splitAt_one {sep : String} (hsep : sep ≠ "") (s : String) :
    (splitAt sep s)[1]?.isSome = true ↔ contains s sep = true := by
  rw [← one_lt_length_splitAt hsep]
  simp

/-- A tag that is to become a taint, of a value without an effect. -/
def AsgTag.Effectless (tag : AsgTag) : Prop :=
  contains tag.key taintTag = true ∧ ':' ∉ tag.value.toList

theorem extractTaintsFromAsg_eq_none_iff (tags : List AsgTag) :
    extractTaintsFromAsg tags = none ↔ ∃ tag ∈ tags, tag.Effectless := by
  induction tags with
  | nil => simp [extractTaintsFromAsg]
  | cons tag rest ih =>
      have hmarked := isSome_splitAt_one (show taintTag ≠ "" by decide) tag.key
      rw [List.exists_mem_cons_iff, extractTaintsFromAsg, ← ih, AsgTag.Effectless, ← hmarked]
      cases (splitAt taintTag tag.key)[1]? with
      | none => simp
      | some key =>
          by_cases hcolon : ':' ∈ tag.value.toList
          · obtain ⟨value, effect, hsplit⟩ := exists_splitN_two hcolon
            cases extractTaintsFromAsg rest with
            | none => simp [hsplit, hcolon]
            | some taints => simp [hsplit, hcolon]
          · simp [splitN_two_of_notMem hcolon, hcolon]

/-! ## The template -/

section

variable {W : Type} (service : Service W TemplateApi) (m : Mach AutoScalingGroups W)

theorem getTemplateGroupByName_exec (name : String) :
    ((getTemplateGroupByName name).exec service m).val =
        firstOf s!"Unable to get first autoscaling.Group for {name}"
          (service m.world (.describeAutoScalingGroups name)).1 ∧
      ((getTemplateGroupByName name).exec service m).mach.world =
        (service m.world (.describeAutoScalingGroups name)).2 :=
  ⟨rfl, rfl⟩

theorem getInstanceTypeByLCName_val (name : String) :
    ((getInstanceTypeByLCName name).exec service m).val =
      (firstOf s!"Unable to get first LaunchConfiguration for {name}"
        (service m.world (.describeLaunchConfigurations name)).1).map
          LaunchConfiguration.instanceType :=
  rfl

theorem firstOf_eq_ok_iff {α : Type} (missing : String) (described : Except String (List α))
    (a : α) : firstOf missing described = .ok a ↔ ∃ rest, described = .ok (a :: rest) := by
  fun_cases firstOf missing described with
  | case1 err => simp
  | case2 => simp
  | case3 first rest => simp

/-- What AWS has described when a template gets as far as its zone. -/
structure DescribesTemplate (service : Service W TemplateApi) (w : W) (name : String)
    (group : TemplateGroup) (instanceTypeName az : String) : Prop where
  groups : ∃ others, (service w (.describeAutoScalingGroups name)).1 = .ok (group :: others)
  configurations : ∃ others,
    (service (service w (.describeAutoScalingGroups name)).2
      (.describeLaunchConfigurations group.launchConfigurationName)).1 =
        .ok (⟨instanceTypeName⟩ :: others)
  zones : ∃ others, group.availabilityZones = az :: others

variable {service} in
theorem describesTemplate_iff {w : W} (name : String) {group : TemplateGroup}
    {instanceTypeName az : String} :
    DescribesTemplate service w name group instanceTypeName az ↔
      firstOf s!"Unable to get first autoscaling.Group for {name}"
          (service w (.describeAutoScalingGroups name)).1 = .ok group ∧
        firstOf s!"Unable to get first LaunchConfiguration for {group.launchConfigurationName}"
          (service (service w (.describeAutoScalingGroups name)).2
            (.describeLaunchConfigurations group.launchConfigurationName)).1 =
              .ok ⟨instanceTypeName⟩ ∧
        group.availabilityZones.head? = some az := by
  rw [firstOf_eq_ok_iff, firstOf_eq_ok_iff, List.head?_eq_some_iff]
  constructor
  · rintro ⟨hgroups, hconfigurations, hzones⟩
    exact ⟨hgroups, hconfigurations, hzones⟩
  · rintro ⟨hgroups, hconfigurations, hzones⟩
    exact ⟨hgroups, hconfigurations, hzones⟩

variable {service} in
theorem DescribesTemplate.unique {w : W} {name : String} {group group' : TemplateGroup}
    {instanceTypeName instanceTypeName' az az' : String}
    (h : DescribesTemplate service w name group instanceTypeName az)
    (h' : DescribesTemplate service w name group' instanceTypeName' az') :
    group' = group ∧ instanceTypeName' = instanceTypeName ∧ az' = az := by
  rw [describesTemplate_iff] at h h'
  obtain ⟨hgroup, hconfiguration, hzone⟩ := h
  obtain rfl : group = group' := Except.ok.inj (hgroup.symm.trans h'.1)
  have hname := Except.ok.inj (hconfiguration.symm.trans h'.2.1)
  have hzone := Option.some.inj (hzone.symm.trans h'.2.2)
  exact ⟨rfl, (LaunchConfiguration.mk.inj hname).symm, hzone.symm⟩

/-- The template is what AWS describes, or the description is not complete. -/
theorem getAsgTemplate_spec (name : String) :
    (∃ group instanceTypeName az,
      DescribesTemplate service m.world name group instanceTypeName az ∧
      ((getAsgTemplate name).exec service m).val =
        if az = "" then none
        else some (.ok ⟨lookUpInstanceType instanceTypeName,
          String.ofList az.toList.dropLast, az, group.tags⟩)) ∨
    ((∀ group instanceTypeName az,
        ¬DescribesTemplate service m.world name group instanceTypeName az) ∧
      ∃ err, ((getAsgTemplate name).exec service m).val = some (.error err)) := by
  obtain ⟨hgroups, hworld⟩ := getTemplateGroupByName_exec service m name
  simp only [describesTemplate_iff]
  unfold getAsgTemplate
  simp only [exec_bind, Outcome.after_val]
  rw [hgroups]
  cases hgroup : firstOf s!"Unable to get first autoscaling.Group for {name}"
      (service m.world (.describeAutoScalingGroups name)).1 with
  | error err => exact .inr ⟨by simp, err, rfl⟩
  | ok group =>
      simp only [exec_bind, Outcome.after_val, getInstanceTypeByLCName_val, hworld]
      cases hconfiguration : firstOf
          s!"Unable to get first LaunchConfiguration for {group.launchConfigurationName}"
          (service (service m.world (.describeAutoScalingGroups name)).2
            (.describeLaunchConfigurations group.launchConfigurationName)).1 with
      | error err =>
          refine .inr ⟨?_, err, rfl⟩
          rintro group' instanceTypeName az ⟨⟨⟩, hother, -⟩
          rw [hconfiguration] at hother
          cases hother
      | ok configuration =>
          cases hzones : group.availabilityZones with
          | nil =>
              refine .inr ⟨?_, _, rfl⟩
              rintro group' instanceTypeName az ⟨⟨⟩, -, hzone⟩
              simp [hzones] at hzone
          | cons az others =>
              refine .inl ⟨group, configuration.instanceType, az,
                ⟨rfl, hconfiguration, by rw [hzones]; rfl⟩, ?_⟩
              by_cases hempty : az = ""
              · simp [Except.map, hempty]
              · simp [Except.map, hempty]

/-- A node is built of every template with an instance type and proper taints. -/
theorem buildNodeFromTemplate_eq_none_iff (asg : Asg) (template : AsgTemplate) :
    ((buildNodeFromTemplate asg template).exec service m).val = none ↔
      template.instanceType = none ∨ ∃ tag ∈ template.tags, tag.Effectless := by
  rw [← extractTaintsFromAsg_eq_none_iff]
  unfold buildNodeFromTemplate
  cases hinstance : template.instanceType with
  | none => simp
  | some instanceType =>
      cases htaints : extractTaintsFromAsg template.tags with
      | none => simp
      | some taints => simp

/-- What the code takes on trust: a zone that is not empty, an instance type of the table,
and an effect in the value of each taint tag. -/
structure Buildable (group : TemplateGroup) (instanceTypeName az : String) : Prop where
  zone : az ≠ ""
  listed : (lookUpInstanceType instanceTypeName).isSome = true
  effects : ∀ tag ∈ group.tags, contains tag.key taintTag = true → ':' ∈ tag.value.toList

theorem buildable_iff (group : TemplateGroup) (instanceTypeName az : String) :
    Buildable group instanceTypeName az ↔ az ≠ "" ∧
      ¬(lookUpInstanceType instanceTypeName = none ∨ ∃ tag ∈ group.tags, tag.Effectless) := by
  simp only [not_or, not_exists, not_and, AsgTag.Effectless, not_not,
    ← Option.isSome_iff_ne_none (o := lookUpInstanceType instanceTypeName)]
  constructor
  · rintro ⟨hzone, hlisted, heffects⟩
    exact ⟨hzone, hlisted, heffects⟩
  · rintro ⟨hzone, hlisted, heffects⟩
    exact ⟨hzone, hlisted, heffects⟩

/-- **When a template is built.** Whatever AWS describes, and whatever the random numbers are:
`TemplateNodeInfo` returns a node info or an error exactly if the first zone is not empty,
the instance type is in the table and every taint tag has an effect, as far as the
description brings these up. -/
theorem templateNodeInfo_returns_iff (asg : Asg) :
    (asg.templateNodeInfo.exec service m).val.isSome = true ↔
      ∀ group instanceTypeName az,
        DescribesTemplate service m.world asg.name group instanceTypeName az →
          Buildable group instanceTypeName az := by
  unfold Asg.templateNodeInfo
  simp only [exec_bind, Outcome.after_val]
  rcases getAsgTemplate_spec service m asg.name with
    ⟨group, instanceTypeName, az, hdescribes, hval⟩ | ⟨hnone, err, hval⟩
  · have hall : (∀ group instanceTypeName az,
        DescribesTemplate service m.world asg.name group instanceTypeName az →
          Buildable group instanceTypeName az) ↔ Buildable group instanceTypeName az := by
      constructor
      · intro hbuildable
        exact hbuildable _ _ _ hdescribes
      · rintro hbuildable group' instanceTypeName' az' hdescribes'
        obtain ⟨rfl, rfl, rfl⟩ := hdescribes.unique hdescribes'
        exact hbuildable
    rw [hall, buildable_iff, hval]
    by_cases hzone : az = ""
    · simp [hzone]
    · have hnode := buildNodeFromTemplate_eq_none_iff service
        ((getAsgTemplate asg.name).exec service m).mach asg
        ⟨lookUpInstanceType instanceTypeName, String.ofList az.toList.dropLast, az, group.tags⟩
      simp only [if_neg hzone, exec_bind, Outcome.after_val, ← hnode]
      cases ((buildNodeFromTemplate asg ⟨lookUpInstanceType instanceTypeName,
          String.ofList az.toList.dropLast, az, group.tags⟩).exec service
            ((getAsgTemplate asg.name).exec service m).mach).val with
      | none => simp [hzone]
      | some node => simp [hzone]
  · rw [hval]
    simp [hnone]

end

/-- An AWS with one group, of this launch configuration and these tags. -/
def describedTemplate (instanceType : String) (tags : List AsgTag) : Service Unit TemplateApi
  | world, .describeAutoScalingGroups _ => (.ok [⟨"lc", ["eu-west-1a"], tags⟩], world)
  | world, .describeLaunchConfigurations _ => (.ok [⟨instanceType⟩], world)
  | world, .int63 => (7, world)
  | world, .now => (0, world)

/-- An instance type that is newer than the table, and a taint without an effect. -/
theorem templateNodeInfo_panics :
    ((Asg.templateNodeInfo ⟨0, "g", 0, 4⟩).exec (describedTemplate "m6g.large" [])
      ⟨newAutoScalingGroups, ()⟩).val.isSome = false ∧
    ((Asg.templateNodeInfo ⟨0, "g", 0, 4⟩).exec
      (describedTemplate "m4.large" [⟨taintTag ++ "dedicated", "foo"⟩])
      ⟨newAutoScalingGroups, ()⟩).val.isSome = false := by
  decide +kernel

example :
    (((Asg.templateNodeInfo ⟨0, "g", 0, 4⟩).exec
      (describedTemplate "m4.large" [⟨taintTag ++ "dedicated", "foo:NoSchedule"⟩])
      ⟨newAutoScalingGroups, ()⟩).val.bind Except.toOption).map (·.node.taints) =
        some [⟨"dedicated", "foo", "NoSchedule"⟩] := by
  decide +kernel

end AutoNodeRepair
