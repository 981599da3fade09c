import Mathlib.Data.List.Dedup
import Mathlib.Data.List.Induction
import AutoNodeRepair.Model.Discovery

/-!
# Which specifications the auto discovery survives

The specification is split three times. The number of parts is looked at after the
first split only; the third part that is used, the tags behind the `=`, need not be
there. That is one string.
-/

namespace AutoNodeRepair

open Interact Text

@[simp] theorem index_zero (token : String) (rest : List String) :
    index (token :: rest) 0 = pure token := rfl

@[simp] theorem index_succ (token : String) (rest : List String) (i : Nat) :
    index (token :: rest) (i + 1) = index rest i := rfl

@[simp] theorem run_index_nil (i : Nat) : (index [] i).run = none := rfl

/-- A specification with discoverer `asg` and key `tag`, and what is behind the key. -/
def Tagged (spec : String) (rest : List String) : Prop :=
  ∃ param, split ':' spec = ["asg", param] ∧ split '=' param = "tag" :: rest

theorem tagged_iff (spec : String) (rest : List String) :
    Tagged spec rest ↔ ∃ param, spec = join ':' ["asg", param] ∧ ':' ∉ param.toList ∧
      param = join '=' ("tag" :: rest) ∧ ∀ part ∈ rest, '=' ∉ part.toList := by
  simp only [Tagged, split_eq_iff]
  refine exists_congr fun param => ?_
  simp
  tauto

/-- What becomes of the parts behind the key. -/
def readTag : List String → Option (Except String (List String))
  | [] => none
  | tag :: _ =>
      if tag = "" then
        some (.error "Invalid ASG tag for auto discovery specified: ASG tag must not be empty")
      else some (.ok (split ',' tag))

theorem discoveryTags_of_tagged {spec : String} {rest : List String} (h : Tagged spec rest) :
    (discoveryTags spec).run = readTag rest := by
  obtain ⟨param, htokens, hparam⟩ := h
  cases rest with
  | nil => simp [discoveryTags, htokens, hparam, readTag, ExceptT.run_bind]
  | cons tag rest =>
      by_cases htag : tag = ""
      · simp [discoveryTags, htokens, hparam, htag, readTag]
      · simp [discoveryTags, htokens, hparam, htag, readTag]

/-- Any other one is an error. -/
theorem discoveryTags_of_not_tagged {spec : String} (h : ∀ rest, ¬Tagged spec rest) :
    ∃ err, (discoveryTags spec).run = some (.error err) := by
  by_cases hlen : (split ':' spec).length = 2
  case neg => exact ⟨_, by simp [discoveryTags, hlen]; rfl⟩
  obtain ⟨discoverer, param, htokens⟩ := List.length_eq_two.mp hlen
  by_cases hasg : discoverer = "asg"
  case neg => exact ⟨_, by simp [discoveryTags, htokens, hasg]; rfl⟩
  obtain ⟨key, rest, hparam⟩ := List.exists_cons_of_ne_nil (split_ne_nil '=' param)
  by_cases hkey : key = "tag"
  case neg => exact ⟨_, by simp [discoveryTags, htokens, hasg, hparam, hkey]; rfl⟩
  exact absurd ⟨param, hasg ▸ htokens, hkey ▸ hparam⟩ (h rest)

/-- So a result that is no error comes from the parts behind the key. -/
theorem discoveryTags_eq_iff (spec : String) {result : Option (Except String (List String))}
    (hresult : ∀ err, result ≠ some (.error err)) :
    (discoveryTags spec).run = result ↔ ∃ rest, Tagged spec rest ∧ readTag rest = result := by
  constructor
  · intro hrun
    by_cases htagged : ∃ rest, Tagged spec rest
    · obtain ⟨rest, hrest⟩ := htagged
      exact ⟨rest, hrest, (discoveryTags_of_tagged hrest).symm.trans hrun⟩
    · obtain ⟨err, herr⟩ := discoveryTags_of_not_tagged (not_exists.mp htagged)
      exact absurd (hrun.symm.trans herr) (hresult err)
  · rintro ⟨rest, hrest, rfl⟩
    exact discoveryTags_of_tagged hrest

theorem readTag_eq_none_iff (rest : List String) : readTag rest = none ↔ rest = [] := by
  cases rest with
  | nil => simp [readTag]
  | cons tag ignored =>
      simp only [readTag]
      split <;> simp

/-- The one way to panic: nothing behind the key. -/
theorem discoveryTags_eq_none_iff (spec : String) :
    (discoveryTags spec).run = none ↔ Tagged spec [] := by
  rw [discoveryTags_eq_iff spec (by simp)]
  simp [readTag_eq_none_iff]

theorem tagged_nil_iff (spec : String) : Tagged spec [] ↔ spec = "asg:tag" := by
  have htag : join '=' ["tag"] = "tag" := by decide
  have hspec : join ':' ["asg", "tag"] = "asg:tag" := by decide
  rw [tagged_iff, htag]
  constructor
  · rintro ⟨param, rfl, -, rfl, -⟩
    exact hspec
  · rintro rfl
    exact ⟨"tag", hspec.symm, by decide, rfl, by simp⟩

section

variable {W : Type} (order : NameOrder) (service : Service W DiscoveryApi)
  (m : Mach AutoScalingGroups W)

/-- Whatever AWS answers, only the specification can make the code panic. -/
theorem buildAutoDiscoveringProvider_eq_none_iff (spec : String) :
    ((buildAutoDiscoveringProvider order spec).exec service m).val = none ↔
      (discoveryTags spec).run = none := by
  unfold buildAutoDiscoveringProvider
  cases hparsed : (discoveryTags spec).run with
  | none => simp
  | some parsed =>
      cases parsed with
      | error err => simp
      | ok tags =>
          simp only [exec_bind, Outcome.after_val]
          cases ((getAutoscalingGroupsByTags order tags).exec service m).val with
          | error err => simp
          | ok asgs => simp

/-- **The discovery returns.** For every specification, whatever AWS answers:
`buildAutoDiscoveringProvider` returns a provider or an error, unless the specification is
`asg:tag`. -/
theorem autoDiscovery_returns_iff (spec : String) :
    ((buildAutoDiscoveringProvider order spec).exec service m).val.isSome = true ↔
      spec ≠ "asg:tag" := by
  rw [Option.isSome_iff_ne_none, ne_eq, buildAutoDiscoveringProvider_eq_none_iff,
    discoveryTags_eq_none_iff, tagged_nil_iff]

end

theorem isSome_countOccurrence (occurrences : String → Option Nat) (tag : TagDescription)
    (name : String) :
    (countOccurrence occurrences tag name).isSome = true ↔
      (occurrences name).isSome = true ∨ name = tag.resourceId := by
  unfold countOccurrence
  by_cases hname : name = tag.resourceId
  · subst hname
    cases occurrences tag.resourceId with
    | none => simp
    | some n => simp
  · cases occurrences tag.resourceId with
    | none => simp [hname]
    | some n => simp [hname]

theorem isSome_asgNameOccurrences (tags : List TagDescription) (name : String) :
    (asgNameOccurrences tags name).isSome = true ↔ name ∈ tags.map TagDescription.resourceId := by
  induction tags using List.reverseRecOn with
  | nil => simp [asgNameOccurrences]
  | append_singleton tags tag ih =>
      have hsnoc : asgNameOccurrences (tags ++ [tag]) =
          countOccurrence (asgNameOccurrences tags) tag := by
        simp [asgNameOccurrences]
      rw [hsnoc, isSome_countOccurrence, ih]
      simp

/-- The names as they come up in the description. -/
def describedOrder : NameOrder := fun tags =>
  { keys := (tags.map TagDescription.resourceId).dedup
    nodup := List.nodup_dedup _
    mem_keys := fun name => by rw [List.mem_dedup, isSome_asgNameOccurrences] }

/-- One group, tagged `cluster`. -/
def oneTagged : Service Unit DiscoveryApi
  | world, .describeTags _ => (.ok ⟨[⟨"g", "cluster"⟩], []⟩, world)
  | world, .describeAutoScalingGroups _ => (.ok ⟨[⟨"g", 0, 4⟩], []⟩, world)

example :
    ((buildAutoDiscoveringProvider describedOrder "asg:tag=cluster").exec oneTagged
      ⟨newAutoScalingGroups, ()⟩).val.map (·.toOption.map AwsCloudProvider.asgs) =
        some (some [⟨0, "g", 0, 4⟩]) := by
  decide

/-- Without the `=` there is no second token to take the tags from. -/
theorem autoDiscovery_panics_at_tag :
    ((buildAutoDiscoveringProvider describedOrder "asg:tag").exec oneTagged
      ⟨newAutoScalingGroups, ()⟩).val.isSome = false := by
  decide

end AutoNodeRepair
