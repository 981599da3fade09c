import AutoNodeRepair.Logic.Cluster
import AutoNodeRepair.Logic.Protocol
import AutoNodeRepair.Model.Startup
import AutoNodeRepair.Theorems.Discovery
import AutoNodeRepair.Theorems.Provenance

/-!
# The command line decides what is touched

From the flags to the effects. `NewAutorepair` fails for AWS exactly if the configuration
file or a specification cannot be read or there is no specification
(`newAutorepair_fatal_iff`). Otherwise the groups managed are those of the specifications, or
none for another provider than AWS, and in all the rounds that follow the process asks AWS
for nothing that is not grounded in these groups and in what AWS has said of them
(`process_inScope`). Nothing is assumed of AWS or of the API server.
-/

namespace AutoNodeRepair

open Interact

/-! ## Starting -/

/-- The group is what the text of a flag asks for. -/
def ReadAs (text : String) (asg : Asg) : Prop :=
  ∃ spec, specFromString text true = .ok spec ∧ asg.name = spec.name ∧
    asg.minSize = spec.minSize.toInt ∧ asg.maxSize = spec.maxSize.toInt

/-- The text of a flag cannot be read. -/
def Unreadable (text : String) : Prop := ∃ err, specFromString text true = .error err

section

variable {W : Type} (aws : Service W DiscoveryApi)

theorem addNodeGroup_error (provider : AwsCloudProvider) {text err : String}
    (hspec : specFromString text true = .error err) (m : Mach AutoScalingGroups W) :
    (provider.addNodeGroup text).exec aws m =
      ⟨.error s!"failed to parse node group spec: {err}", [], m⟩ := by
  simp [AwsCloudProvider.addNodeGroup, buildAsgFromSpec, hspec, Outcome.after]

theorem addNodeGroup_ok (provider : AwsCloudProvider) {text : String} {spec : NodeGroupSpec}
    (hspec : specFromString text true = .ok spec) (m : Mach AutoScalingGroups W) :
    ∃ asg, ReadAs text asg ∧ (provider.addNodeGroup text).exec aws m =
      ⟨.ok ⟨provider.asgs ++ [asg]⟩, [], { m with store := m.store.register asg }⟩ := by
  refine ⟨buildAsg m.store spec.minSize.toInt spec.maxSize.toInt spec.name,
    ⟨spec, hspec, rfl, rfl, rfl⟩, ?_⟩
  simp [AwsCloudProvider.addNodeGroup, AwsCloudProvider.addAsg, buildAsgFromSpec, hspec,
    Outcome.after]

/-- The groups are added in order, until one cannot be read. -/
theorem addNodeGroups_outcome (texts : List String) (provider : AwsCloudProvider)
    (m : Mach AutoScalingGroups W) :
    let out := (addNodeGroups provider texts).exec aws m
    out.log = [] ∧
      ((∃ asgs, List.Forall₂ ReadAs texts asgs ∧ out.val = .ok ⟨provider.asgs ++ asgs⟩ ∧
          out.mach.store =
            { m.store with registeredAsgs := m.store.registeredAsgs ++ asgs }) ∨
        (∃ err, out.val = .error err) ∧ ∃ text ∈ texts, Unreadable text) := by
  induction texts generalizing provider m with
  | nil => exact ⟨rfl, .inl ⟨[], .nil, by simp [addNodeGroups], by simp [addNodeGroups]⟩⟩
  | cons text rest ih =>
      cases hspec : specFromString text true with
      | error err =>
          simp only [addNodeGroups, exec_bind, addNodeGroup_error aws provider hspec, exec_pure]
          exact ⟨rfl, .inr ⟨⟨_, rfl⟩, text, List.mem_cons_self, err, hspec⟩⟩
      | ok spec =>
          obtain ⟨asg, hread, hexec⟩ := addNodeGroup_ok aws provider hspec m
          obtain ⟨hlog, hrest⟩ :=
            ih ⟨provider.asgs ++ [asg]⟩ { m with store := m.store.register asg }
          simp only [addNodeGroups, exec_bind, hexec, Outcome.after_val, Outcome.after_log,
            Outcome.after_mach, List.nil_append]
          refine ⟨hlog, ?_⟩
          rcases hrest with ⟨asgs, hasgs, hval, hstore⟩ | ⟨herr, other, hother, hunreadable⟩
          · refine .inl ⟨asg :: asgs, .cons hread hasgs, ?_, ?_⟩
            · simpa using hval
            · simpa [AutoScalingGroups.register] using hstore
          · exact .inr ⟨herr, other, List.mem_cons_of_mem _ hother, hunreadable⟩

/-- The configuration file of the flags, if they name one, is there and can be read. -/
def ConfigReadable (files : Files) (flags : Flags) : Prop :=
  flags.cloudConfig = "" ∨ files flags.cloudConfig = some (.ok ())

theorem openAwsManager_cases (files : Files) (flags : Flags) :
    openAwsManager files flags.cloudConfig = .done newAutoScalingGroups ∧
        ConfigReadable files flags ∨
      (∃ msg, openAwsManager files flags.cloudConfig = .fatal msg) ∧
        ¬ConfigReadable files flags := by
  unfold openAwsManager ConfigReadable
  by_cases hnone : flags.cloudConfig = ""
  · exact .inl ⟨by simp [hnone, createAwsManager], .inl hnone⟩
  · simp only [ne_eq, hnone, not_false_eq_true, if_true, false_or]
    cases files flags.cloudConfig with
    | none => exact .inr ⟨⟨_, rfl⟩, by simp⟩
    | some content =>
        cases content with
        | error err => exact .inr ⟨⟨_, rfl⟩, by simp⟩
        | ok _ => exact .inl ⟨rfl, rfl⟩

/-- Without a specification for the discovery, the provider is built from the groups of the
flags, if there is one. -/
theorem buildAwsCloudProvider_static (order : NameOrder) (texts : List String)
    (m : Mach AutoScalingGroups W) :
    (buildAwsCloudProvider order ⟨texts, ""⟩).exec aws m =
      if texts = [] then
        ⟨some (.error "Failed to build an aws cloud provider: Either node group specs or node group auto discovery spec must be specified"), [], m⟩
      else
        let out := (addNodeGroups ⟨[]⟩ texts).exec aws m
        ⟨some out.val, out.log, out.mach⟩ := by
  cases texts with
  | nil => rfl
  | cons text rest =>
      simp [buildAwsCloudProvider, NodeGroupDiscoveryOptions.validate,
        NodeGroupDiscoveryOptions.staticDiscoverySpecified,
        NodeGroupDiscoveryOptions.autoDiscoverySpecified, buildStaticallyDiscoveringProvider,
        Outcome.after]

/-- How the start ends for AWS, once the provider is built. -/
def startedWith (flags : Flags) :
    Option (Except String AwsCloudProvider) → Started AutorepairingContext
  | none => .panicked
  | some (.error err) => .fatal s!"Failed to create AWS cloud provider: {err}"
  | some (.ok provider) => .done ⟨createAutorepairOptions flags, some provider, ⟨0, 0⟩⟩

theorem startUp_aws {files : Files} {flags : Flags} (order : NameOrder)
    (hflag : flags.cloudProviderFlag = "aws")
    (hopen : openAwsManager files flags.cloudConfig = .done newAutoScalingGroups)
    (m : Mach AutoScalingGroups W) :
    let built := (buildAwsCloudProvider order ⟨flags.nodeGroupsFlag, ""⟩).exec aws
      { m with store := newAutoScalingGroups }
    (startUp files order flags).exec aws m =
      ⟨startedWith flags built.val, built.log, built.mach⟩ := by
  intro built
  simp only [startUp, newAutorepair, newAutorepairContext, CloudProviderBuilder.build,
    createAutorepairOptions, hflag, if_true, hopen, exec_bind, exec_setStore, Outcome.after]
  rcases built.val with _ | err | provider <;>
    simp [built, startedWith, createAutorepairOptions, hflag]

/-- What the start comes to, with the store it leaves. -/
def StartedAs (files : Files) (flags : Flags) (store : AutoScalingGroups) :
    Started AutorepairingContext → Prop
  | .panicked => False
  | .fatal _ =>
      flags.cloudProviderFlag = "aws" ∧
        (¬ConfigReadable files flags ∨ flags.nodeGroupsFlag = [] ∨
          ∃ text ∈ flags.nodeGroupsFlag, Unreadable text)
  | .done context =>
      match context.cloudProvider with
      | none => flags.cloudProviderFlag ≠ "aws"
      | some provider =>
          flags.cloudProviderFlag = "aws" ∧ ConfigReadable files flags ∧
            flags.nodeGroupsFlag ≠ [] ∧
            List.Forall₂ ReadAs flags.nodeGroupsFlag provider.asgs ∧
            store = { newAutoScalingGroups with registeredAsgs := provider.asgs }

/-- The start asks AWS nothing, does not panic, and ends the process only for the reasons
there are. -/
theorem startUp_startedAs (files : Files) (order : NameOrder) (flags : Flags)
    (m : Mach AutoScalingGroups W) :
    let out := (startUp files order flags).exec aws m
    out.log = [] ∧ StartedAs files flags out.mach.store out.val := by
  intro out
  by_cases hflag : flags.cloudProviderFlag = "aws"
  · rcases openAwsManager_cases files flags with ⟨hopen, hconfig⟩ | ⟨⟨msg, hopen⟩, hconfig⟩
    · simp only [out, startUp_aws aws order hflag hopen, buildAwsCloudProvider_static]
      by_cases hnone : flags.nodeGroupsFlag = []
      · simp only [if_pos hnone]
        exact ⟨trivial, hflag, .inr (.inl hnone)⟩
      · simp only [if_neg hnone]
        obtain ⟨hlog, ⟨asgs, hread, hval, hstore⟩ | ⟨⟨err, hval⟩, hunreadable⟩⟩ :=
          addNodeGroups_outcome aws flags.nodeGroupsFlag ⟨[]⟩
            { m with store := newAutoScalingGroups }
        · rw [hval, hstore]
          exact ⟨hlog, hflag, hconfig, hnone, hread, rfl⟩
        · rw [hval]
          exact ⟨hlog, hflag, .inr (.inr hunreadable)⟩
    · have hout : out = ⟨.fatal msg, [], m⟩ := by
        simp only [out, startUp, newAutorepair, newAutorepairContext, CloudProviderBuilder.build,
          createAutorepairOptions, hflag, hopen, if_true, exec_bind, exec_pure]
        rfl
      rw [hout]
      exact ⟨rfl, hflag, .inl hconfig⟩
  · have hout : out = ⟨.done ⟨createAutorepairOptions flags, none, ⟨0, 0⟩⟩, [], m⟩ := by
      simp only [out, startUp, newAutorepair, newAutorepairContext, CloudProviderBuilder.build,
        createAutorepairOptions, hflag, if_false, exec_bind, exec_pure]
      rfl
    rw [hout]
    exact ⟨rfl, hflag⟩

theorem not_unreadable_of_forall₂ {texts : List String} {asgs : List Asg}
    (hread : List.Forall₂ ReadAs texts asgs) : ∀ text ∈ texts, ¬Unreadable text := by
  rintro text htext ⟨err, herr⟩
  induction hread with
  | nil => simp at htext
  | cons hhead _ ih =>
      rcases List.mem_cons.mp htext with rfl | htail
      · obtain ⟨spec, hspec, -⟩ := hhead
        simp [hspec] at herr
      · exact ih htail

/-- **When the controller is not made.** `NewAutorepair`, with the options of the flags, asks
AWS nothing and does not panic. It ends the process exactly if the provider is AWS and the
configuration file cannot be read, or there is no specification, or one cannot be read. In
particular the specifications are not looked at for any other provider. -/
theorem newAutorepair_fatal_iff (files : Files) (order : NameOrder) (flags : Flags)
    (m : Mach AutoScalingGroups W) :
    let out := (newAutorepair files order (createAutorepairOptions flags)).exec aws m
    out.log = [] ∧ out.val ≠ .panicked ∧
      ((∃ msg, out.val = .fatal msg) ↔
        flags.cloudProviderFlag = "aws" ∧
          (¬ConfigReadable files flags ∨ flags.nodeGroupsFlag = [] ∨
            ∃ text ∈ flags.nodeGroupsFlag, Unreadable text)) := by
  intro out
  obtain ⟨hlog, hstarted⟩ := startUp_startedAs aws files order flags m
  refine ⟨hlog, ?_⟩
  change StartedAs files flags out.mach.store out.val at hstarted
  cases hval : out.val with
  | panicked =>
      rw [hval] at hstarted
      exact hstarted.elim
  | fatal msg =>
      rw [hval] at hstarted
      exact ⟨by simp, fun _ => hstarted, fun _ => ⟨msg, rfl⟩⟩
  | done context =>
      rw [hval] at hstarted
      refine ⟨by simp, by simp, ?_⟩
      rintro ⟨hflag, hreason⟩
      cases hprovider : context.cloudProvider with
      | none =>
          simp only [StartedAs, hprovider] at hstarted
          exact absurd hflag hstarted
      | some provider =>
          simp only [StartedAs, hprovider] at hstarted
          obtain ⟨-, hconfig, hsome, hread, -⟩ := hstarted
          rcases hreason with hfile | hnone | ⟨text, htext, hunreadable⟩
          · exact absurd hconfig hfile
          · exact absurd hnone hsome
          · exact absurd hunreadable (not_unreadable_of_forall₂ hread text htext)

end

/-! ## Running -/

/-- Without a provider the process looks and waits. -/
theorem runOnceNil_silent (repairtime : Duration) :
    Silent (StaticAutorepair.runOnceNil repairtime) := by
  refine Prog.Asks.bind Silent.listNotReadyNodes fun notReady => ?_
  refine Prog.Asks.ite (Prog.Asks.pure _) ?_
  refine Prog.Asks.bind (Silent.ask (.sleep repairtime) rfl) fun _ => ?_
  refine Prog.Asks.bind Silent.listNotReadyNodes fun stillNotReady => ?_
  exact Prog.Asks.ite (Prog.Asks.pure _) (Prog.Asks.pure _)

theorem roundsNil_silent (scanInterval repairPeriod : Duration) (k : Nat) :
    Silent (StaticAutorepair.roundsNil scanInterval repairPeriod k) := by
  induction k with
  | zero => exact Prog.Asks.pure _
  | succ k ih =>
      refine Prog.Asks.bind (Silent.ask (.sleep scanInterval) rfl) fun _ => ?_
      refine Prog.Asks.bind (runOnceNil_silent repairPeriod) fun report => ?_
      split
      · exact Prog.Asks.bind ih fun _ => Prog.Asks.pure _
      · exact Prog.Asks.pure _

/-- What a log may show for the provider built from the flags. -/
def InScope {V : Type} (flags : Flags) (log : List (ApiEvent V)) : Option AwsCloudProvider → Prop
  | none => flags.cloudProviderFlag ≠ "aws" ∧ ∀ e ∈ log, ApiCall.silent e.call = true
  | some provider =>
      flags.cloudProviderFlag = "aws" ∧ List.Forall₂ ReadAs flags.nodeGroupsFlag provider.asgs ∧
        ∀ past e rest, log = past ++ e :: rest →
          Grounded provider.asgs (Told (past.map Event.exchange)) e.call

/-- **The command line decides what is touched.** Let the process start, and run for any
number of rounds against any outside. For AWS the groups are those of the specifications,
in their order, and each request that changes a group is grounded in them and in the
exchanges before it. For any other provider nothing is ever tainted, evicted, resized or
terminated. -/
theorem process_inScope {W V : Type} (aws : Service W DiscoveryApi) (files : Files)
    (order : NameOrder) (flags : Flags) (m : Mach AutoScalingGroups W)
    {context : AutorepairingContext}
    (hdone : ((startUp files order flags).exec aws m).val = .done context)
    (a : StaticAutorepair) (fuel k : Nat) (h : ApiService V) (v : V) :
    InScope flags ((context.loop a fuel flags k).exec h
      ⟨((startUp files order flags).exec aws m).mach.store, v⟩).log context.cloudProvider := by
  obtain ⟨-, hstarted⟩ := startUp_startedAs aws files order flags m
  rw [hdone] at hstarted
  unfold AutorepairingContext.loop
  cases hprovider : context.cloudProvider with
  | none =>
      simp only [StartedAs, hprovider] at hstarted
      exact ⟨hstarted, (roundsNil_silent _ _ k).asked h _⟩
  | some provider =>
      simp only [StartedAs, hprovider] at hstarted
      obtain ⟨hflag, -, -, hread, hstore⟩ := hstarted
      refine ⟨hflag, hread, ?_⟩
      intro past e rest hlog
      rw [hstore] at hlog
      exact rounds_grounded h a fuel _ _ k (fun _ => rfl) v hlog

/-- The two groups of the sample cluster on the command line. -/
def sampleFlags : Flags where
  nodeGroupsFlag := ["0:4:g", "1:1:k"]
  cloudProviderFlag := "aws"

/-- A round in the sample cluster. Machines are terminated in it. -/
theorem process_inScope_sample :
    let context : AutorepairingContext :=
      ⟨createAutorepairOptions sampleFlags, some ⟨[groupG, groupK]⟩, ⟨0, 0⟩⟩
    let started := (startUp (fun _ => none) describedOrder sampleFlags).exec oneTagged
      ⟨newAutoScalingGroups, ()⟩
    let log := ((context.loop {} 5 sampleFlags 1).exec Cluster.sample.service
      ⟨started.mach.store, sampleState⟩).log
    log.any (fun e => (ApiCall.termination e.call).isSome) = true ∧
      InScope sampleFlags log (some ⟨[groupG, groupK]⟩) :=
  ⟨by decide +kernel,
    process_inScope oneTagged (fun _ => none) describedOrder sampleFlags ⟨newAutoScalingGroups, ()⟩
      rfl {} 5 1 Cluster.sample.service sampleState⟩

end AutoNodeRepair
