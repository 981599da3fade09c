import AutoNodeRepair.Theorems.Discovery
import Mathlib.Data.List.Perm.Basic

/-!
# Which groups the tags select

AWS can only be asked for the entries of any of the keys; the groups that carry all of
them are recovered by counting how often a name comes up over all the pages. The state
of AWS is described here by its groups and by the keys that each of them carries, and
the selection is compared with that description: the pages may cut the answers anywhere
and bring the entries in any order.
-/

namespace AutoNodeRepair

open Interact

/-! ## Pages -/

namespace Description

variable {α : Type}

/-- The answers to all the requests that the description is read with. -/
def pages (description : Description α) : List (Except String (List α)) :=
  .ok description.items :: description.following

/-- Some request for a following page is answered with an error. -/
def Fails (description : Description α) : Prop :=
  ∃ err, .error err ∈ description.following

/-- No page is empty, unless it is the last one. -/
def OnlyLastEmpty (description : Description α) : Prop :=
  .ok [] ∉ description.pages.dropLast

/-- The pages together bring what is there, in any order. -/
def Holds (description : Description α) (all : List α) : Prop :=
  ∃ rest : List (List α), description.following = rest.map .ok ∧
    (description.items ++ rest.flatten).Perm all

theorem following_of_items_nil {description : Description α} (hempty : description.OnlyLastEmpty)
    (hnil : description.items = []) : description.following = [] := by
  obtain ⟨items, following⟩ := description
  cases following with
  | nil => rfl
  | cons page rest =>
      simp only at hnil
      simp [OnlyLastEmpty, pages, hnil] at hempty

/-- An empty first page is the last one, so there is nothing. -/
theorem eq_nil_of_items_nil {description : Description α} {all : List α}
    (hempty : description.OnlyLastEmpty)
    (hholds : ¬description.Fails → description.Holds all) (hnil : description.items = []) :
    all = [] := by
  have hlast := following_of_items_nil hempty hnil
  obtain ⟨rest, hrest, hperm⟩ := hholds (by simp [Fails, hlast])
  rw [hlast, eq_comm, List.map_eq_nil_iff] at hrest
  rw [hrest, hnil] at hperm
  exact hperm.symm.eq_nil

end Description

/-- The pages are read to the end unless one of them is an error. -/
theorem readPages_error_iff {α : Type} (items : List α)
    (following : List (Except String (List α))) :
    (∃ err, readPages items following = .error err) ↔ ∃ err, .error err ∈ following := by
  fun_induction readPages items following with
  | case1 items => simp
  | case2 items err rest => simp
  | case3 items page rest ih => simp [ih]

theorem readPages_map_ok {α : Type} (items : List α) (rest : List (List α)) :
    readPages items (rest.map .ok) = .ok (items ++ rest.flatten) := by
  induction rest generalizing items with
  | nil => simp [readPages]
  | cons page rest ih => simp [readPages, ih]

/-- What reading the pages returns: an error, or all that is there. -/
theorem readPages_spec {α : Type} {description : Description α} {all : List α}
    (hholds : ¬description.Fails → description.Holds all) :
    (description.Fails ∧ ∃ err, readPages description.items description.following = .error err) ∨
      (¬description.Fails ∧
        ∃ read, readPages description.items description.following = .ok read ∧ read.Perm all) := by
  by_cases hfails : description.Fails
  · exact .inl ⟨hfails, (readPages_error_iff _ _).mpr hfails⟩
  · obtain ⟨rest, hrest, hperm⟩ := hholds hfails
    exact .inr ⟨hfails, _, hrest ▸ readPages_map_ok _ rest, hperm⟩

/-! ## The state of AWS -/

/-- The groups there are, and the keys of the tags on each. -/
structure TaggedGroups where
  groups : List GroupDescription
  carries : String → String → Bool
  nodup : (groups.map GroupDescription.autoScalingGroupName).Nodup

namespace TaggedGroups

/-- One entry for each group and each listed key that it carries. -/
def entries (state : TaggedGroups) (keys : List String) : List TagDescription :=
  state.groups.flatMap fun group =>
    (keys.filter (state.carries group.autoScalingGroupName)).map
      (TagDescription.mk group.autoScalingGroupName)

/-- The groups of these names. -/
def named (state : TaggedGroups) (names : List String) : List GroupDescription :=
  state.groups.filter fun group => group.autoScalingGroupName ∈ names

/-- The groups that carry every key of the list. -/
def fullyTagged (state : TaggedGroups) (keys : List String) : List GroupDescription :=
  state.groups.filter fun group => keys.all (state.carries group.autoScalingGroupName)

/-- Where requests succeed, their pages hold the entries and the groups asked for, each
once. -/
structure AnsweredBy {W : Type} (state : TaggedGroups) (service : Service W DiscoveryApi) :
    Prop where
  tags : ∀ world (keys : List String) (description : Description TagDescription),
    keys.Nodup → (service world (.describeTags keys)).1 = .ok description →
      description.OnlyLastEmpty ∧ (¬description.Fails → description.Holds (state.entries keys))
  groups : ∀ world (names : List String) (description : Description GroupDescription),
    names.Nodup → (service world (.describeAutoScalingGroups names)).1 = .ok description →
      description.OnlyLastEmpty ∧ (¬description.Fails → description.Holds (state.named names))

end TaggedGroups

/-- The call, or one of the requests for its following pages, fails. -/
def CallFails : (call : DiscoveryCall) → call.Ans → Prop
  | .describeTags _, .error _ => True
  | .describeTags _, .ok description => description.Fails
  | .describeAutoScalingGroups _, .error _ => True
  | .describeAutoScalingGroups _, .ok description => description.Fails

/-! ## Counting -/

theorem countOccurrence_getD (occurrences : String → Option Nat) (tag : TagDescription)
    (name : String) :
    (countOccurrence occurrences tag name).getD 0 =
      (occurrences name).getD 0 + if tag.resourceId = name then 1 else 0 := by
  unfold countOccurrence
  by_cases hname : tag.resourceId = name
  · subst hname
    cases occurrences tag.resourceId with
    | none => simp
    | some n => simp
  · have hne : name ≠ tag.resourceId := Ne.symm hname
    cases occurrences tag.resourceId with
    | none => simp [hname, hne]
    | some n => simp [hname, hne]

/-- `asgNameOccurrences` counts the entries of a name. -/
theorem asgNameOccurrences_getD (tags : List TagDescription) (name : String) :
    (asgNameOccurrences tags name).getD 0 = tags.countP (·.resourceId = name) := by
  induction tags using List.reverseRecOn with
  | nil => rfl
  | append_singleton tags tag ih =>
      have hsnoc : asgNameOccurrences (tags ++ [tag]) =
          countOccurrence (asgNameOccurrences tags) tag := by
        simp [asgNameOccurrences]
      rw [hsnoc, countOccurrence_getD, ih]
      simp [List.countP_singleton]

theorem asgNameOccurrences_eq_some_iff (tags : List TagDescription) (name : String) {n : Nat}
    (hn : n ≠ 0) :
    asgNameOccurrences tags name = some n ↔ tags.countP (·.resourceId = name) = n := by
  rw [← asgNameOccurrences_getD]
  cases asgNameOccurrences tags name with
  | none => simp [hn.symm]
  | some m => simp

/-- A name is entered once for each listed key that its group carries. -/
theorem countP_entries (groups : List GroupDescription) (carries : String → String → Bool)
    (hnodup : (groups.map GroupDescription.autoScalingGroupName).Nodup) (keys : List String)
    (name : String) :
    (groups.flatMap fun group => (keys.filter (carries group.autoScalingGroupName)).map
        (TagDescription.mk group.autoScalingGroupName)).countP (·.resourceId = name) =
      if name ∈ groups.map GroupDescription.autoScalingGroupName
      then (keys.filter (carries name)).length else 0 := by
  induction groups with
  | nil => rfl
  | cons group groups ih =>
      rw [List.map_cons, List.nodup_cons] at hnodup
      rw [List.flatMap_cons, List.countP_append, ih hnodup.2, List.countP_map]
      by_cases hname : group.autoScalingGroupName = name
      · subst hname
        simp [hnodup.1, Function.comp_def]
      · have hne : name ≠ group.autoScalingGroupName := Ne.symm hname
        simp [hname, hne, Function.comp_def]

namespace TaggedGroups

variable {state : TaggedGroups} {keys : List String} {tags : List TagDescription}

/-- The test of the source, on all the entries in any order: the group exists and carries
every key. -/
theorem occurrences_eq_length_iff (hkeys : keys ≠ []) (htags : tags.Perm (state.entries keys))
    (name : String) :
    asgNameOccurrences tags name = some keys.length ↔
      name ∈ state.groups.map GroupDescription.autoScalingGroupName ∧
        keys.all (state.carries name) = true := by
  have hlength : keys.length ≠ 0 := by simpa using hkeys
  rw [asgNameOccurrences_eq_some_iff tags name hlength, htags.countP_eq, entries,
    countP_entries _ _ state.nodup]
  by_cases hmem : name ∈ state.groups.map GroupDescription.autoScalingGroupName
  · rw [if_pos hmem, List.length_filter_eq_length_iff]
    simp [hmem]
  · simp [hmem, hlength.symm]

/-- The names that are then asked for. -/
def SelectedNames (state : TaggedGroups) (keys names : List String) : Prop :=
  names.Nodup ∧ ∀ name, name ∈ names ↔
    name ∈ state.groups.map GroupDescription.autoScalingGroupName ∧
      keys.all (state.carries name) = true

theorem selectedNames_filter (hkeys : keys ≠ []) (htags : tags.Perm (state.entries keys))
    (order : RangeOrder (asgNameOccurrences tags)) :
    state.SelectedNames keys
      (order.keys.filter fun asgName => asgNameOccurrences tags asgName = some keys.length) := by
  refine ⟨order.nodup.filter _, fun name => ?_⟩
  rw [List.mem_filter, decide_eq_true_eq, order.mem_keys,
    ← occurrences_eq_length_iff hkeys htags]
  constructor
  · exact And.right
  · intro hcount
    exact ⟨by simp [hcount], hcount⟩

variable {names : List String}

theorem named_selected (hnames : state.SelectedNames keys names) :
    state.named names = state.fullyTagged keys := by
  refine List.filter_congr fun group hgroup => ?_
  have hmem := List.mem_map_of_mem (f := GroupDescription.autoScalingGroupName) hgroup
  rw [Bool.eq_iff_iff, decide_eq_true_eq, hnames.2]
  exact and_iff_right hmem

theorem selectedNames_nil_iff (hnames : state.SelectedNames keys names) :
    names = [] ↔ state.fullyTagged keys = [] := by
  rw [List.eq_nil_iff_forall_not_mem, List.eq_nil_iff_forall_not_mem]
  simp only [hnames.2, fullyTagged, List.mem_filter, List.mem_map]
  constructor
  · rintro hnone group ⟨hgroup, hall⟩
    exact hnone group.autoScalingGroupName ⟨⟨group, hgroup, rfl⟩, hall⟩
  · rintro hnone name ⟨⟨group, hgroup, rfl⟩, hall⟩
    exact hnone group ⟨hgroup, hall⟩

end TaggedGroups

/-! ## The selection -/

section

variable {W : Type} {service : Service W DiscoveryApi} {state : TaggedGroups}

/-- What a selection of groups may end with: the fully tagged groups, each once and with no
request failed, or an error with a reason for it. -/
def Selects (state : TaggedGroups) (keys : List String)
    (out : Outcome AutoScalingGroups W DiscoveryApi (Except String (List GroupDescription))) :
    Prop :=
  (∃ groups, out.val = .ok groups ∧ groups.Perm (state.fullyTagged keys) ∧ groups ≠ [] ∧
      ∀ event ∈ out.log, ¬CallFails event.call event.ans) ∨
    (∃ err, out.val = .error err) ∧
      (state.fullyTagged keys = [] ∨ ∃ event ∈ out.log, CallFails event.call event.ans)

theorem Selects.after {keys : List String}
    {out : Outcome AutoScalingGroups W DiscoveryApi (Except String (List GroupDescription))}
    (hout : Selects state keys out) {log : List (Event W DiscoveryApi)}
    (hlog : ∀ event ∈ log, ¬CallFails event.call event.ans) :
    Selects state keys (out.after log) := by
  rcases hout with ⟨groups, hval, hperm, hne, hclean⟩ | ⟨herror, hreason⟩
  · refine .inl ⟨groups, hval, hperm, hne, fun event hevent => ?_⟩
    rcases List.mem_append.mp hevent with hbefore | hafter
    · exact hlog event hbefore
    · exact hclean event hafter
  · refine .inr ⟨herror, hreason.imp_right fun ⟨event, hevent, hfails⟩ => ?_⟩
    exact ⟨event, List.mem_append_right _ hevent, hfails⟩

theorem selects_byNames (hanswers : state.AnsweredBy service) {keys names : List String}
    (hnames : state.SelectedNames keys names) (m : Mach AutoScalingGroups W) :
    Selects state keys ((getAutoscalingGroupsByNames names).exec service m) := by
  unfold getAutoscalingGroupsByNames
  by_cases hnil : names = []
  · subst hnil
    exact .inr ⟨⟨_, rfl⟩, .inl ((TaggedGroups.selectedNames_nil_iff hnames).mp rfl)⟩
  have hsome : state.fullyTagged keys ≠ [] :=
    mt (TaggedGroups.selectedNames_nil_iff hnames).mpr hnil
  have hlength : ¬names.length < 1 := by simpa using hnil
  rw [if_neg hlength]
  rw [exec_bind, exec_call (E := DiscoveryApi) service m (.describeAutoScalingGroups names)]
  cases hcall : (service m.world (.describeAutoScalingGroups names)).1 with
  | error err => exact .inr ⟨⟨err, rfl⟩, .inr ⟨_, List.mem_singleton.mpr rfl, trivial⟩⟩
  | ok description =>
      obtain ⟨hempty, hholds⟩ := hanswers.groups _ _ _ hnames.1 hcall
      rw [TaggedGroups.named_selected hnames] at hholds
      by_cases hitems : description.items = []
      · exact absurd (Description.eq_nil_of_items_nil hempty hholds hitems) hsome
      · have hitems' : ¬description.items.length < 1 := by simpa using hitems
        simp only [if_neg hitems', exec_pure]
        rcases readPages_spec hholds with ⟨hfails, err, hread⟩ | ⟨hfails, read, hread, hperm⟩
        · exact .inr ⟨⟨err, hread⟩, .inr ⟨_, List.mem_singleton.mpr rfl, hfails⟩⟩
        · refine .inl ⟨read, hread, hperm, fun hnil => ?_, fun event hevent => ?_⟩
          · subst hnil
            exact hsome hperm.nil_eq.symm
          · obtain rfl := List.mem_singleton.mp hevent
            exact hfails

theorem selects_byTags (hanswers : state.AnsweredBy service) (order : NameOrder)
    {keys : List String} (hdistinct : keys.Nodup) (hkeys : keys ≠ [])
    (m : Mach AutoScalingGroups W) :
    Selects state keys ((getAutoscalingGroupsByTags order keys).exec service m) := by
  unfold getAutoscalingGroupsByTags
  rw [exec_bind, exec_call (E := DiscoveryApi) service m (.describeTags keys)]
  cases hcall : (service m.world (.describeTags keys)).1 with
  | error err => exact .inr ⟨⟨err, rfl⟩, .inr ⟨_, List.mem_singleton.mpr rfl, trivial⟩⟩
  | ok description =>
      obtain ⟨hempty, hholds⟩ := hanswers.tags _ _ _ hdistinct hcall
      by_cases hitems : description.items = []
      · -- no entry at all, hence no group with a first key
        have hnone : ([] : List TagDescription).Perm (state.entries keys) := by
          rw [Description.eq_nil_of_items_nil hempty hholds hitems]
        have hselected : state.SelectedNames keys [] := by
          refine ⟨List.nodup_nil, fun name => ?_⟩
          rw [← TaggedGroups.occurrences_eq_length_iff hkeys hnone]
          simp [asgNameOccurrences]
        have htagged := (TaggedGroups.selectedNames_nil_iff hselected).mp rfl
        simp only [hitems, List.length_nil, Nat.zero_lt_one, if_true, exec_pure]
        exact .inr ⟨⟨_, rfl⟩, .inl htagged⟩
      · have hitems' : ¬description.items.length < 1 := by simpa using hitems
        simp only [if_neg hitems']
        rcases readPages_spec hholds with ⟨hfails, err, hread⟩ | ⟨hfails, tags, hread, hperm⟩
        · rw [hread]
          exact .inr ⟨⟨err, rfl⟩, .inr ⟨_, List.mem_singleton.mpr rfl, hfails⟩⟩
        · rw [hread]
          have hnames := TaggedGroups.selectedNames_filter hkeys hperm (order tags)
          refine (selects_byNames hanswers hnames _).after fun event hevent => ?_
          obtain rfl := List.mem_singleton.mp hevent
          exact hfails

/-- **The tags select the groups that carry all of them.** However the answers are cut into
pages: the selection returns the groups with every key of a non-empty list, each once,
and it ends in an error exactly if there is none of them or a request fails. -/
theorem tagSelection_exact (order : NameOrder) (service : Service W DiscoveryApi)
    (state : TaggedGroups) (hanswers : state.AnsweredBy service) (keys : List String)
    (hdistinct : keys.Nodup) (hkeys : keys ≠ []) (m : Mach AutoScalingGroups W) :
    let out := (getAutoscalingGroupsByTags order keys).exec service m
    (∀ groups, out.val = .ok groups → groups.Perm (state.fullyTagged keys)) ∧
      ((∃ err, out.val = .error err) ↔
        state.fullyTagged keys = [] ∨ ∃ event ∈ out.log, CallFails event.call event.ans) := by
  intro out
  rcases selects_byTags hanswers order hdistinct hkeys m with
    ⟨groups, hval, hperm, hne, hclean⟩ | ⟨⟨err, hval⟩, hreason⟩
  · refine ⟨fun groups' hgroups' => ?_, ?_⟩
    · obtain rfl : groups = groups' := by simpa [out, hval] using hgroups'
      exact hperm
    · constructor
      · rintro ⟨err, herr⟩
        simp [out, hval] at herr
      · rintro (hnone | ⟨event, hevent, hfails⟩)
        · rw [hnone] at hperm
          exact absurd hperm.eq_nil hne
        · exact absurd hfails (hclean event hevent)
  · refine ⟨fun groups hgroups => ?_, fun _ => hreason, fun _ => ⟨err, hval⟩⟩
    simp [out, hval] at hgroups

end

/-- Everything there is, one item a page. -/
def Description.single {α : Type} (all : List α) : Description α where
  items := all.take 1
  following := (all.drop 1).map fun item => .ok [item]

theorem Description.single_holds {α : Type} (all : List α) :
    (Description.single all).OnlyLastEmpty ∧ (Description.single all).Holds all := by
  cases all with
  | nil => exact ⟨by simp [OnlyLastEmpty, pages, single], [], rfl, .refl _⟩
  | cons first rest =>
      constructor
      · intro hmem
        have hpage := List.dropLast_subset _ hmem
        simp [pages, single] at hpage
      · exact ⟨rest.map fun item => [item], by simp [single], by simp [single, ← List.flatMap_def]⟩

/-- An AWS of that state, where no request fails. -/
def TaggedGroups.service (state : TaggedGroups) : Service Unit DiscoveryApi
  | world, .describeTags keys => (.ok (.single (state.entries keys)), world)
  | world, .describeAutoScalingGroups names => (.ok (.single (state.named names)), world)

theorem TaggedGroups.answeredBy_service (state : TaggedGroups) :
    state.AnsweredBy state.service where
  tags := by
    rintro world keys description - hcall
    obtain rfl : Description.single (state.entries keys) = description := by
      simpa [TaggedGroups.service] using hcall
    exact (Description.single_holds _).imp_right fun hholds _ => hholds
  groups := by
    rintro world names description - hcall
    obtain rfl : Description.single (state.named names) = description := by
      simpa [TaggedGroups.service] using hcall
    exact (Description.single_holds _).imp_right fun hholds _ => hholds

/-- Both groups are of the cluster, only `g` is to be repaired. -/
def halfTagged : TaggedGroups where
  groups := [⟨"k", 1, 1⟩, ⟨"g", 0, 4⟩]
  carries name key := key = "cluster" ∨ name = "g" ∧ key = "repair"
  nodup := by decide

theorem tagSelection_half :
    (halfTagged.AnsweredBy halfTagged.service ∧ ["cluster", "repair"].Nodup ∧
      ["cluster", "repair"] ≠ []) ∧
    let out := (getAutoscalingGroupsByTags describedOrder ["cluster", "repair"]).exec
      halfTagged.service ⟨newAutoScalingGroups, ()⟩
    (∀ groups, out.val = .ok groups →
        groups.Perm (halfTagged.fullyTagged ["cluster", "repair"])) ∧
      ((∃ err, out.val = .error err) ↔
        halfTagged.fullyTagged ["cluster", "repair"] = [] ∨
          ∃ event ∈ out.log, CallFails event.call event.ans) :=
  ⟨⟨halfTagged.answeredBy_service, by decide, by decide⟩,
    tagSelection_exact describedOrder halfTagged.service halfTagged
      halfTagged.answeredBy_service ["cluster", "repair"] (by decide) (by decide)
      ⟨newAutoScalingGroups, ()⟩⟩

example :
    ((getAutoscalingGroupsByTags describedOrder ["cluster", "repair"]).exec
      halfTagged.service ⟨newAutoScalingGroups, ()⟩).val.toOption = some [⟨"g", 0, 4⟩] := by
  decide

/-- Every group carries all of no keys, but there is no entry that would bring it up. -/
theorem tagSelection_no_keys :
    let out := (getAutoscalingGroupsByTags describedOrder []).exec halfTagged.service
      ⟨newAutoScalingGroups, ()⟩
    (halfTagged.AnsweredBy halfTagged.service ∧ ([] : List String).Nodup) ∧
      out.val = .error "Unable to find ASGs for tag keys []" ∧
      halfTagged.fullyTagged [] = halfTagged.groups ∧ halfTagged.groups ≠ [] ∧
      ∀ event ∈ out.log, ¬CallFails event.call event.ans := by
  refine ⟨⟨halfTagged.answeredBy_service, List.nodup_nil⟩, rfl, rfl, by decide, ?_⟩
  intro event hevent hfails
  obtain rfl := List.mem_singleton.mp hevent
  obtain ⟨err, herr⟩ := hfails
  cases herr

end AutoNodeRepair
