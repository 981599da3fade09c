import Mathlib.Data.List.Forall2
import AutoNodeRepair.Model.NodeGroupSpec
import AutoNodeRepair.Theorems.Discovery

/-!
# Node group specifications, printed and read

A specification that is accepted reads back from what it is printed as. Reading is not
the inverse of printing: `+1:02:g` is accepted too. But what was read once is printed in
one way, and reads back from that.
-/

namespace AutoNodeRepair

open Interact Text

namespace NodeGroupSpec

/-- The smallest minimum allowed. -/
def leastMinSize (s : NodeGroupSpec) : Int := if s.supportScaleToZero then 0 else 1

/-- The four checks. -/
theorem validate_ok_iff (s : NodeGroupSpec) :
    s.validate = .ok () ↔
      s.leastMinSize ≤ s.minSize.toInt ∧ s.minSize.toInt ≤ s.maxSize.toInt ∧ s.name ≠ "" := by
  have hzero : (0 : Int64).toInt = 0 := rfl
  have hmin : s.leastMinSize ≤ s.minSize.toInt ↔
      ¬(s.supportScaleToZero && s.minSize < 0) = true ∧
        ¬(!s.supportScaleToZero && s.minSize ≤ 0) = true := by
    unfold leastMinSize
    cases s.supportScaleToZero with
    | true => simp [Int64.lt_iff_toInt_lt, hzero]
    | false =>
        simp [Int64.le_iff_toInt_le, hzero]
        omega
  have hmax : s.minSize.toInt ≤ s.maxSize.toInt ↔ ¬s.maxSize < s.minSize := by
    rw [Int64.lt_iff_toInt_lt, Int.not_lt]
  rw [hmin, hmax]
  unfold validate
  split
  · simp_all
  split
  · simp_all
  split
  · simp_all
  split
  · simp_all
  · simp_all

/-- A minimum that is allowed is not negative, and is printed in digits. -/
theorem nonneg_of_validate {s : NodeGroupSpec} (hvalid : s.validate = .ok ()) :
    0 ≤ s.minSize.toInt ∧ 0 ≤ s.maxSize.toInt := by
  obtain ⟨hmin, hmax, -⟩ := s.validate_ok_iff.mp hvalid
  have hleast : 0 ≤ s.leastMinSize := by
    unfold leastMinSize
    split <;> decide
  omega

/-- Where groups may be empty more is allowed. -/
theorem validate_scaleToZero {s : NodeGroupSpec} (hvalid : s.validate = .ok ()) :
    { s with supportScaleToZero := true }.validate = .ok () := by
  obtain ⟨hmin, hmax⟩ := s.validate_ok_iff.mp hvalid
  have hnonneg := (nonneg_of_validate hvalid).1
  exact (validate_ok_iff _).mpr ⟨hnonneg, hmax⟩

/-- The two sizes end at the first two colons, whatever is in the name. -/
theorem splitN_toString {s : NodeGroupSpec} (hvalid : s.validate = .ok ()) :
    splitN ':' 3 s.toString =
      [ToString.toString s.minSize.toInt, ToString.toString s.maxSize.toInt, s.name] := by
  have hcolon : ∀ n : Int, 0 ≤ n → ':' ∉ (ToString.toString n).toList := by
    intro n hn hmem
    exact absurd (isDigit_of_mem_toString hn hmem) (by decide)
  obtain ⟨hmin, hmax⟩ := nonneg_of_validate hvalid
  have hprint : s.toString = ToString.toString s.minSize.toInt ++ String.singleton ':' ++
      (ToString.toString s.maxSize.toInt ++ String.singleton ':' ++ s.name) := by
    simp only [toString, String.append_assoc]
    rfl
  rw [hprint, splitN_cons (hcolon _ hmin), splitN_cons (hcolon _ hmax), splitN_one]

end NodeGroupSpec

/-- The result is what the parser read, and it was accepted. -/
theorem specFromString_ok {value : String} {supportScaleToZero : Bool} {s : NodeGroupSpec}
    (hread : specFromString value supportScaleToZero = .ok s) :
    s.supportScaleToZero = supportScaleToZero ∧ s.validate = .ok () := by
  revert hread
  fun_cases specFromString value supportScaleToZero with
  | case1 | case2 | case3 | case5 => exact fun hread => by cases hread
  | case4 minSize maxSize name hsplit min hmin max hmax spec hvalid =>
      intro hread
      obtain rfl := Except.ok.inj hread
      exact ⟨rfl, hvalid⟩

/-- What is printed is read as the same sizes and name. -/
theorem specFromString_toString {s : NodeGroupSpec} (hvalid : s.validate = .ok ())
    {supportScaleToZero : Bool}
    (hagain : { s with supportScaleToZero := supportScaleToZero }.validate = .ok ()) :
    specFromString s.toString supportScaleToZero =
      .ok { s with supportScaleToZero := supportScaleToZero } := by
  simp only [specFromString, NodeGroupSpec.splitN_toString hvalid, atoi_toString, hagain]

theorem validateNodeGroups_ok_iff (nodeGroups : List NodeGroupSpec) :
    validateNodeGroups nodeGroups = .ok () ↔ ∀ g ∈ nodeGroups, g.validate = .ok () := by
  induction nodeGroups with
  | nil => simp [validateNodeGroups]
  | cons g rest ih =>
      simp only [validateNodeGroups, List.forall_mem_cons]
      cases g.validate with
      | error err => simp
      | ok _ => simp [ih]

/-- The group that a specification stands for. -/
def NodeGroupSpec.Describes (g : NodeGroupSpec) (asg : Asg) : Prop :=
  asg.name = g.name ∧ asg.minSize = g.minSize.toInt ∧ asg.maxSize = g.maxSize.toInt

theorem buildAsgFromSpec_toString {g : NodeGroupSpec} (hvalid : g.validate = .ok ())
    (m : AutoScalingGroups) :
    ∃ asg, buildAsgFromSpec g.toString m = .ok asg ∧ g.Describes asg := by
  refine ⟨buildAsg m g.minSize.toInt g.maxSize.toInt g.name, ?_, rfl, rfl, rfl⟩
  rw [buildAsgFromSpec, specFromString_toString hvalid (g.validate_scaleToZero hvalid)]

/-- **Printing and reading.** A specification that is valid reads back from its text. The
texts of a valid configuration are accepted as groups of the same names and sizes. And
what any accepted text reads as reads back too. -/
theorem nodeGroupSpecs_survive :
    (∀ s : NodeGroupSpec, s.validate = .ok () →
      specFromString s.toString s.supportScaleToZero = .ok s) ∧
    (∀ (config : Config) (m : AutoScalingGroups), config.validate = .ok () →
      List.Forall₂ (fun text g => ∃ asg, buildAsgFromSpec text m = .ok asg ∧
        asg.name = g.name ∧ asg.minSize = g.minSize.toInt ∧ asg.maxSize = g.maxSize.toInt)
        config.nodeGroupSpecStrings config.nodeGroups) ∧
    ∀ (value : String) (supportScaleToZero : Bool) (s : NodeGroupSpec),
      specFromString value supportScaleToZero = .ok s →
        specFromString s.toString supportScaleToZero = .ok s := by
  refine ⟨fun s hvalid => specFromString_toString hvalid hvalid, ?_, ?_⟩
  · intro config m hvalid
    rw [Config.nodeGroupSpecStrings, List.forall₂_map_left_iff, List.forall₂_same]
    intro g hg
    exact buildAsgFromSpec_toString ((validateNodeGroups_ok_iff _).mp hvalid g hg) m
  · intro value supportScaleToZero s hread
    obtain ⟨rfl, hvalid⟩ := specFromString_ok hread
    exact specFromString_toString hvalid hvalid

/-- A configuration of two groups, and the texts of its specifications. -/
theorem nodeGroupSpecs_survive_sample :
    let config : Config := ⟨[⟨"a:b", 1, 2, false⟩, ⟨"k", 1, 1, false⟩]⟩
    config.validate = .ok () ∧ config.nodeGroupSpecStrings = ["1:2:a:b", "1:1:k"] ∧
      specFromString "1:2:a:b" false = .ok ⟨"a:b", 1, 2, false⟩ ∧
      List.Forall₂ (fun text g => ∃ asg, buildAsgFromSpec text newAutoScalingGroups = .ok asg ∧
        asg.name = g.name ∧ asg.minSize = g.minSize.toInt ∧ asg.maxSize = g.maxSize.toInt)
        config.nodeGroupSpecStrings config.nodeGroups := by
  intro config
  have hvalid : config.validate = .ok () := by decide
  exact ⟨hvalid, by decide, nodeGroupSpecs_survive.1 ⟨"a:b", 1, 2, false⟩ (by decide),
    nodeGroupSpecs_survive.2.1 config newAutoScalingGroups hvalid⟩

example : specFromString "+1:02:a:b" false = .ok ⟨"a:b", 1, 2, false⟩ := by decide

/-! ## The provider -/

section

variable {W : Type} (service : Service W DiscoveryApi)

/-- Every valid specification becomes a group of the provider and of its manager. -/
theorem addNodeGroups_toString (nodeGroups : List NodeGroupSpec)
    (hvalid : ∀ g ∈ nodeGroups, g.validate = .ok ()) (aws : AwsCloudProvider)
    (m : Mach AutoScalingGroups W) :
    ∃ asgs, List.Forall₂ NodeGroupSpec.Describes nodeGroups asgs ∧
      ((addNodeGroups aws (nodeGroups.map NodeGroupSpec.toString)).exec service m).val =
        .ok ⟨aws.asgs ++ asgs⟩ ∧
      ((addNodeGroups aws (nodeGroups.map NodeGroupSpec.toString)).exec service
        m).mach.store.registeredAsgs = m.store.registeredAsgs ++ asgs := by
  induction nodeGroups generalizing aws m with
  | nil => exact ⟨[], .nil, by simp [addNodeGroups], by simp [addNodeGroups]⟩
  | cons g rest ih =>
      obtain ⟨hg, hrest⟩ := List.forall_mem_cons.mp hvalid
      obtain ⟨asg, hasg, hdescribes⟩ := buildAsgFromSpec_toString hg m.store
      obtain ⟨asgs, hasgs, hval, hstore⟩ := ih hrest ⟨aws.asgs ++ [asg]⟩
        ⟨m.store.register asg, m.world⟩
      refine ⟨asg :: asgs, .cons hdescribes hasgs, ?_, ?_⟩
      · simpa [addNodeGroups, AwsCloudProvider.addNodeGroup, AwsCloudProvider.addAsg, hasg]
          using hval
      · simpa [addNodeGroups, AwsCloudProvider.addNodeGroup, AwsCloudProvider.addAsg, hasg,
          AutoScalingGroups.register] using hstore

/-- A valid configuration is a provider with its groups, in order. -/
theorem buildStaticallyDiscoveringProvider_config (config : Config)
    (hvalid : config.validate = .ok ()) (m : Mach AutoScalingGroups W) :
    ∃ provider, ((buildStaticallyDiscoveringProvider config.nodeGroupSpecStrings).exec
        service m).val = .ok provider ∧
      List.Forall₂ NodeGroupSpec.Describes config.nodeGroups provider.asgs := by
  obtain ⟨asgs, hasgs, hval, -⟩ := addNodeGroups_toString service config.nodeGroups
    ((validateNodeGroups_ok_iff _).mp hvalid) ⟨[]⟩ m
  exact ⟨⟨asgs⟩, hval, hasgs⟩

end

end AutoNodeRepair
