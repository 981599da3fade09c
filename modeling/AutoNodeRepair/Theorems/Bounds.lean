import AutoNodeRepair.Logic.Cluster

/-!
# Size bounds under failures

Whatever calls fail during `AsgRepairNodes`, the desired capacity of the group
stays within its bounds: `IncreaseSize` and `DeleteNodes` re-read the size they
rely on and give up when they cannot. So does `DecreaseTargetSize`, which goes by the
number of instances instead of the minimum.
-/

namespace AutoNodeRepair

open Interact

section

variable {W : Type} {h : ApiService W} {desired : W → String → Int}
  {owner : String → Option String} {asgs : List Asg}

/-- Everything the controller does keeps the bounds of a group whose name no
other registered object has. -/
theorem AwsLaws.kept_bounds (laws : AwsLaws h desired owner) {asg : Asg}
    (hsame : ∀ b ∈ asgs, b.name = asg.name → b = asg) :
    Kept h (fun m => CacheInv asgs (OwnedBy asgs owner) (fun _ => True) m.store ∧
      InBounds asg (desired m.world)) (fun e => InBounds asg (desired e.after))
      (fun b => b ∈ asgs) (fun _ => True) where
  toDrains := by
    refine drains_of_frame ?_ ?_
    · rintro c hc m ⟨hcache, hbounds⟩
      have hframe := laws.other m.world c hc
      exact ⟨⟨hcache, hframe ▸ hbounds⟩, hframe ▸ hbounds⟩
    · rintro ref m ⟨hcache, hbounds⟩
      obtain ⟨hq, hlog⟩ := findForInstance_spec (laws.lookupClosed (desired m.world))
        laws.ownedBy_of_listed (fun _ _ => trivial) ref m ⟨hcache, rfl⟩
      refine ⟨⟨hq.1.1, hq.1.2 ▸ hbounds⟩, ?_⟩
      intro e he
      obtain ⟨w, c, hw, hc, rfl⟩ := hlog e he
      show InBounds asg (desired (h w c).2)
      rw [laws.lookupClosed _ w hw c hc]
      exact hbounds
  found := by
    rintro ref m ⟨hcache, -⟩ b hval
    obtain ⟨⟨-, hfound, -⟩, -⟩ :=
      findForInstance_spec (laws.lookupClosed (desired m.world))
        laws.ownedBy_of_listed (fun _ _ => trivial) ref m ⟨hcache, rfl⟩
    exact (hfound b hval).1
  registered := by
    rintro m ⟨hcache, -⟩ b hb
    exact hcache.registered ▸ hb
  remove := by
    rintro b node hb - m ⟨hcache, hbounds⟩
    obtain ⟨⟨hcache', hshrunk⟩, hlog⟩ :=
      laws.deleteNodes (fun _ _ => trivial) b node m ⟨hcache, rfl⟩
    exact ⟨⟨hcache', hbounds.of_shrunk (hsame b hb) hshrunk⟩,
      fun e he => hbounds.of_shrunk (hsame b hb) (hlog e he)⟩
  grow := by
    rintro b delta hb m ⟨hcache, hbounds⟩
    obtain ⟨⟨hcache', hgrown⟩, hlog⟩ := laws.increaseSize b delta m ⟨hcache, rfl⟩
    exact ⟨⟨hcache', hbounds.of_grown (hsame b hb) hgrown⟩,
      fun e he => hbounds.of_grown (hsame b hb) (hlog e he)⟩

/-- **Size bounds under arbitrary failures.** At every point of
`AsgRepairNodes`, whichever calls fail, the desired capacity of the group is
within its bounds if it was so at the start. -/
theorem asgRepairNodes_inBounds (laws : AwsLaws h desired owner) (a : StaticAutorepair)
    {asg : Asg} (hasg : asg ∈ asgs) (hsame : ∀ b ∈ asgs, b.name = asg.name → b = asg)
    (m : Machine W) (hcache : CacheInv asgs (OwnedBy asgs owner) (fun _ => True) m.store)
    (hstart : InBounds asg (desired m.world)) (fuel : Nat) (ns : List Node) :
    ∀ e ∈ ((a.asgRepairNodes fuel asg ns).exec h m).log,
      asg.minSize ≤ desired e.after asg.name ∧ desired e.after asg.name ≤ asg.maxSize :=
  ((laws.kept_bounds hsame).asgRepairNodes a hasg fuel ns (fun _ _ => trivial)
    m ⟨hcache, hstart⟩).2

end

/-- The sample cluster, on a list with a node of another group in it. -/
theorem asgRepairNodes_inBounds_sample :
    InBounds groupG sampleState.desired ∧
      ∀ e ∈ ((({} : StaticAutorepair).asgRepairNodes 5 groupG [node1, node5, node2]).exec
          Cluster.sample.service sampleMachine).log,
        0 ≤ e.after.desired "g" ∧ e.after.desired "g" ≤ 4 := by
  have hstart : InBounds groupG sampleState.desired := ⟨by decide, by decide⟩
  exact ⟨hstart, asgRepairNodes_inBounds Cluster.sample.awsLaws {}
    (show groupG ∈ [groupG, groupK] by decide) (by decide) sampleMachine
    (freshStore_cacheInv _ _ _) hstart 5 [node1, node5, node2]⟩

/-! ## Decreasing the target size -/

/-- Listing the instances of a group asks for the group only. -/
theorem getAsgNodes_quiet {W : Type} {h : ApiService W} (asg : Asg) (m : Machine W) :
    ∀ e ∈ ((getAsgNodes asg).exec h m).log, e.call.quiet = true := by
  have hkeeps : Keeps h (fun _ => True) (fun e => e.call.quiet = true) (getAsgNodes asg) := by
    refine Keeps.bind (Keeps.bind ((Looks.quiet_only h).ask (.describeAutoScalingGroups asg.name)
      rfl) fun described => ?_) fun found => ?_
    · split <;> exact Keeps.pure _
    · split <;> exact Keeps.pure _
  exact (hkeeps m trivial).2

/-- **No instance is given up.** Whatever AWS answers, a size that `DecreaseTargetSize` asks
for is smaller than the one it was told, and leaves room for all instances it was told of. -/
theorem decreaseTargetSize_spares {W : Type} (h : ApiService W) (asg : Asg) (delta : Int)
    (m : Machine W) :
    let sized := (asg.targetSize).exec h m
    let listed := (asg.nodes).exec h sized.mach
    ∀ e ∈ ((asg.decreaseTargetSize delta).exec h m).log, ∀ name size,
      e.call = .setDesiredCapacity name size →
        name = asg.name ∧ size < sized.val.1 ∧
          ∃ ids, listed.val = .ok ids ∧ (ids.length : Int) ≤ size := by
  intro sized listed e he name size hcall
  have hnot : e.call.quiet ≠ true := by rw [hcall]; simp [ApiCall.quiet]
  have hsized : e ∉ sized.log := fun hmem =>
    hnot (((Looks.quiet_only h).getAsgSize asg m trivial).2 e hmem)
  have hlisted : e ∉ listed.log := fun hmem => hnot (getAsgNodes_quiet asg _ e hmem)
  have hsizedEq : (getAsgSize asg).exec h m = sized := rfl
  have hlistedEq : (getAsgNodes asg).exec h sized.mach = listed := rfl
  unfold Asg.decreaseTargetSize at he
  split at he
  · simp at he
  rename_i hneg
  simp only [exec_bind, hsizedEq, Outcome.after_log, List.mem_append] at he
  replace he := he.resolve_left hsized
  obtain ⟨⟨told, err⟩, log, mach⟩ := sized
  cases err with
  | some err => simp at he
  | none =>
      simp only [exec_bind, hlistedEq, Outcome.after_log, List.mem_append] at he
      replace he := he.resolve_left hlisted
      cases hids : listed.val with
      | error err => simp [hids] at he
      | ok ids =>
          simp only [hids] at he
          split at he
          · simp at he
          · rename_i hroom
            obtain rfl := List.mem_singleton.mp he
            obtain ⟨rfl, rfl⟩ := (ApiCall.setDesiredCapacity.injEq ..).mp hcall
            exact ⟨rfl, by simp only; omega, ids, rfl, by omega⟩

/-- Group `g` of the sample cluster has more instances than its size. -/
example : ((groupG.decreaseTargetSize (-1)).exec Cluster.sample.service sampleMachine).val =
    .error "attempt to delete existing nodes targetSize:2 delta:-1 existingNodes: 4" := by
  decide

end AutoNodeRepair
