import AutoNodeRepair.Logic.MapServer
import AutoNodeRepair.Theorems.SpecRoundTrip

/-!
# Following a configuration that others change

`FetchConfigIfUpdated` is asked again and again and answers with a configuration, with
nothing new, or with an error. The caller of it knows what was delivered, no more. That
is enough: after a fetch without error the last configuration delivered is that of the
map as it is now (`fetches_in_sync`), however the map was changed in between and
whichever fetches failed. And no version is delivered twice (`fetches_deliver_once`).
-/

namespace AutoNodeRepair

open Interact

section

variable (stamps : Stamps) (unmarshal : String → Except String Config)

/-- `n` fetches, and their results with the latest first. -/
def ConfigFetcher.fetches (c : ConfigFetcher) :
    Nat → MapCtl (ConfigFetcher × List (Except String (Option VersionedConfig)))
  | 0 => return (c, [])
  | n + 1 => do
      let before ← c.fetches n
      let next ← before.1.fetchConfigIfUpdated unmarshal
      return (next.1, next.2 :: before.2)

/-- What a result delivers. -/
def delivery : Except String (Option VersionedConfig) → List VersionedConfig
  | .ok (some config) => [config]
  | _ => []

/-- What was delivered, the latest first. -/
def delivered (results : List (Except String (Option VersionedConfig))) :
    List VersionedConfig :=
  results.flatMap delivery

/-- The map is there and has this configuration. -/
def InSync (s : MapServer) (config : VersionedConfig) : Prop :=
  ∃ cm, s.current stamps = some cm ∧ configFromConfigMap unmarshal cm = .ok config

/-- A configuration that was read is valid, and of the version of the map. -/
theorem configFromConfigMap_ok {cm : ConfigMap} {config : VersionedConfig}
    (hok : configFromConfigMap unmarshal cm = .ok config) :
    config.toConfig.validate = .ok () ∧ config.resourceVersion = cm.resourceVersion := by
  unfold configFromConfigMap at hok
  dsimp only at hok
  split at hok
  · cases hok
  · split at hok
    · cases hok
    · split at hok
      · cases hok
      · rename_i hvalid
        cases hok
        exact ⟨hvalid, rfl⟩

/-- What holds of a fetcher and of all it has delivered: the versions are ever later ones
of the server, and the last one, while it is the current one, is in sync. -/
structure Tracks (s : MapServer) (c : ConfigFetcher) (given : List VersionedConfig) : Prop where
  last : c.lastConfig = given.headD newDefaultConfig
  valid : ∀ config ∈ given, config.toConfig.validate = .ok ()
  revisions : ∃ ks : List Nat,
    given.map VersionedConfig.resourceVersion = ks.map stamps.stamp ∧
      ks.Pairwise (fun later earlier => earlier < later) ∧ ∀ k ∈ ks, k ≤ s.cell.revision
  synced : c.lastConfig.resourceVersion = stamps.stamp s.cell.revision →
    InSync stamps unmarshal s c.lastConfig

variable {stamps unmarshal}

variable (stamps unmarshal) in
theorem tracks_new (configMapName ns : String) (s : MapServer) :
    Tracks stamps unmarshal s (newConfigFetcher configMapName ns) [] where
  last := rfl
  valid := by simp
  revisions := ⟨[], by simp, .nil, by simp⟩
  synced h := absurd h.symm (stamps.ne_empty _)

theorem revision_le_arrive (s : MapServer) : s.cell.revision ≤ s.arrive.cell.revision := by
  show _ ≤ (s.cell.edits _).revision
  simp

variable {s : MapServer} {c : ConfigFetcher} {given : List VersionedConfig}

/-- The version of the last configuration, if there is one, is not ahead of the server. -/
theorem Tracks.last_version (h : Tracks stamps unmarshal s c given) :
    c.lastConfig.resourceVersion = "" ∨
      ∃ k ≤ s.cell.revision, c.lastConfig.resourceVersion = stamps.stamp k := by
  obtain ⟨ks, hks, -, hle⟩ := h.revisions
  rw [h.last]
  cases given with
  | nil => exact .inl rfl
  | cons config rest =>
      cases ks with
      | nil => simp at hks
      | cons k ks =>
          simp only [List.map_cons, List.cons.injEq] at hks
          exact .inr ⟨k, hle k (List.mem_cons_self ..), hks.1⟩

/-- The others may act. -/
theorem Tracks.arrive (h : Tracks stamps unmarshal s c given) :
    Tracks stamps unmarshal s.arrive c given where
  last := h.last
  valid := h.valid
  revisions := by
    obtain ⟨ks, hks, hlt, hle⟩ := h.revisions
    exact ⟨ks, hks, hlt, fun k hk => (hle k hk).trans (revision_le_arrive s)⟩
  synced hnow := by
    have hle := revision_le_arrive s
    obtain hnone | ⟨k, hk, hversion⟩ := h.last_version
    · exact absurd (hnow.symm.trans hnone) (stamps.ne_empty _)
    · -- the version is of the past and the current one, so nothing was written
      have hk' : k = s.arrive.cell.revision := stamps.injective (hversion.symm.trans hnow)
      have hrevision : s.arrive.cell.revision = s.cell.revision := by omega
      have hcell : s.arrive.cell = s.cell :=
        MapServer.arrive_cell_of_stamp stamps (congrArg stamps.stamp hrevision)
      obtain ⟨cm, hcm, hconfig⟩ := h.synced (hnow.trans (congrArg stamps.stamp hrevision))
      refine ⟨cm, ?_, hconfig⟩
      rw [MapServer.current, hcell]
      exact hcm

/-- Only the last configuration can be of the current version. -/
theorem Tracks.current_not_given (h : Tracks stamps unmarshal s c given) {ks : List Nat}
    (hks : given.map VersionedConfig.resourceVersion = ks.map stamps.stamp)
    (hlt : ks.Pairwise fun later earlier => earlier < later)
    (hle : ∀ k ∈ ks, k ≤ s.cell.revision)
    (hnew : c.lastConfig.resourceVersion ≠ stamps.stamp s.cell.revision) :
    s.cell.revision ∉ ks := by
  rw [h.last] at hnew
  cases ks with
  | nil => simp
  | cons k ks =>
      cases given with
      | nil => simp at hks
      | cons config rest =>
          simp only [List.map_cons, List.cons.injEq] at hks
          simp only [List.headD_cons, hks.1] at hnew
          intro hmem
          rcases List.mem_cons.mp hmem with hfirst | hearlier
          · exact hnew (congrArg stamps.stamp hfirst.symm)
          · have hbefore := (List.pairwise_cons.mp hlt).1 _ hearlier
            have hafter := hle k (List.mem_cons_self ..)
            omega

/-- A new version is delivered. -/
theorem Tracks.deliver (h : Tracks stamps unmarshal s c given) {cm : ConfigMap}
    {config : VersionedConfig} (hcm : s.current stamps = some cm)
    (hconfig : configFromConfigMap unmarshal cm = .ok config)
    (hnew : c.lastConfig.resourceVersion ≠ config.resourceVersion) :
    Tracks stamps unmarshal s { c with lastConfig := config } (config :: given) where
  last := rfl
  valid := List.forall_mem_cons.mpr ⟨(configFromConfigMap_ok unmarshal hconfig).1, h.valid⟩
  revisions := by
    obtain ⟨ks, hks, hlt, hle⟩ := h.revisions
    have hversion : config.resourceVersion = stamps.stamp s.cell.revision :=
      (configFromConfigMap_ok unmarshal hconfig).2.trans (MapServer.current_eq_some stamps hcm).1
    refine ⟨s.cell.revision :: ks, by simp [hks, hversion],
      List.pairwise_cons.mpr ⟨?_, hlt⟩, List.forall_mem_cons.mpr ⟨le_rfl, hle⟩⟩
    intro k hk
    refine lt_of_le_of_ne (hle k hk) ?_
    rintro rfl
    exact h.current_not_given hks hlt hle (hversion ▸ hnew) hk
  synced _ := ⟨cm, hcm, hconfig⟩

/-- What one fetch does. -/
theorem Tracks.fetch (h : Tracks stamps unmarshal s c given) :
    MapServer.Ends stamps (c.fetchConfigIfUpdated unmarshal) s fun val _ final =>
      Tracks stamps unmarshal final val.1 (delivery val.2 ++ given) ∧
        ∀ d, val.2 = .ok d → InSync stamps unmarshal final val.1.lastConfig := by
  unfold ConfigFetcher.fetchConfigIfUpdated
  have hread := s.service_getConfigMap stamps c.ns c.configMapName
  refine .bind_call hread.same ?_
  cases hget : (MapServer.service stamps s (.getConfigMap c.ns c.configMapName)).1 with
  | error err => exact .pure ⟨h.arrive, by simp⟩
  | ok cm =>
      have hcm := hread.found cm hget
      dsimp only
      cases hconfig : configFromConfigMap unmarshal cm with
      | error err =>
          refine .bind_call (by rw [MapServer.service_recordEvent]) ?_
          exact .pure ⟨h.arrive.arrive, by simp⟩
      | ok config =>
          dsimp only
          split
          · rename_i hnew
            have hne : c.lastConfig.resourceVersion ≠ config.resourceVersion := by
              simpa [VersionedConfig.versionMismatchesAgainst] using hnew
            exact .pure ⟨h.arrive.deliver hcm hconfig hne, fun _ _ => ⟨cm, hcm, hconfig⟩⟩
          · rename_i hold
            have heq : c.lastConfig.resourceVersion = config.resourceVersion := by
              simpa [VersionedConfig.versionMismatchesAgainst] using hold
            refine .pure ⟨h.arrive, fun _ _ => h.arrive.synced (heq.trans ?_)⟩
            exact (configFromConfigMap_ok unmarshal hconfig).2.trans
              (MapServer.current_eq_some stamps hcm).1

/-- What any number of fetches does. -/
theorem tracks_fetches (h : Tracks stamps unmarshal s c []) (n : Nat) :
    let out := (c.fetches unmarshal n).exec (MapServer.service stamps) ⟨(), s⟩
    Tracks stamps unmarshal out.mach.world out.val.1 (delivered out.val.2) ∧
      ∀ d, out.val.2.head? = some (.ok d) →
        InSync stamps unmarshal out.mach.world out.val.1.lastConfig := by
  induction n with
  | zero => exact ⟨h, by simp [ConfigFetcher.fetches]⟩
  | succ n ih =>
      obtain ⟨htracks, hsync⟩ := ih.1.fetch
      simp only [ConfigFetcher.fetches, exec_bind, exec_pure, Outcome.after_val,
        Outcome.after_mach, List.head?_cons, Option.some.injEq]
      exact ⟨htracks, hsync⟩

variable (stamps unmarshal)

/-- **In sync.** When the latest of any number of fetches has not failed, what was last
delivered (the default, if nothing was) is the configuration of the map as it is. -/
theorem fetches_in_sync (configMapName ns : String) (n : Nat) (s : MapServer) :
    let out := ((newConfigFetcher configMapName ns).fetches unmarshal n).exec
      (MapServer.service stamps) ⟨(), s⟩
    ∀ d, out.val.2.head? = some (.ok d) →
      InSync stamps unmarshal out.mach.world
        ((delivered out.val.2).headD newDefaultConfig) := by
  obtain ⟨htracks, hsync⟩ := tracks_fetches (tracks_new stamps unmarshal configMapName ns s) n
  intro out d hd
  exact htracks.last ▸ hsync d hd

/-- A map with settings that another client replaces before the second request. -/
def sampleMapServer : MapServer :=
  let settings (text : String) : ConfigMap :=
    ⟨"kube-system", "config", "", none,
      some fun key => if key = "settings" then some text else none⟩
  ⟨"kube-system", "config", ⟨some (settings "old"), 3⟩,
    [{}, { edits := [fun _ => some (settings "new")] }]⟩

/-- A decoder of the two settings. -/
def sampleSettings (text : String) : Except String Config :=
  .ok ⟨[⟨text, 1, 2, false⟩]⟩

theorem fetches_in_sync_sample :
    let out := ((newConfigFetcher "config" "kube-system").fetches sampleSettings 2).exec
      (MapServer.service Stamps.tally) ⟨(), sampleMapServer⟩
    out.val.2.head? = some (.ok (some ⟨⟨[⟨"new", 1, 2, false⟩]⟩, Stamps.tally.stamp 4⟩)) ∧
      InSync Stamps.tally sampleSettings out.mach.world
        ((delivered out.val.2).headD newDefaultConfig) :=
  ⟨rfl, fetches_in_sync Stamps.tally sampleSettings "config" "kube-system" 2 sampleMapServer _
    rfl⟩

/-- **No version twice.** The configurations delivered are of different versions of the
map, and each of them can be acted on: a provider can be built, with the node groups it
names in that order. -/
theorem fetches_deliver_once (configMapName ns : String) (n : Nat) (s : MapServer) :
    let out := ((newConfigFetcher configMapName ns).fetches unmarshal n).exec
      (MapServer.service stamps) ⟨(), s⟩
    ((delivered out.val.2).map VersionedConfig.resourceVersion).Nodup ∧
      ∀ config ∈ delivered out.val.2, ∀ (W : Type) (aws : Service W DiscoveryApi)
        (m : Mach AutoScalingGroups W), ∃ provider,
          ((buildStaticallyDiscoveringProvider config.nodeGroupSpecStrings).exec aws m).val =
              .ok provider ∧
            List.Forall₂ NodeGroupSpec.Describes config.nodeGroups provider.asgs := by
  obtain ⟨htracks, -⟩ := tracks_fetches (tracks_new stamps unmarshal configMapName ns s) n
  refine ⟨?_, fun config hconfig W aws m =>
    buildStaticallyDiscoveringProvider_config aws config.toConfig (htracks.valid config hconfig) m⟩
  obtain ⟨ks, hks, hlt, -⟩ := htracks.revisions
  rw [hks]
  exact List.Nodup.map stamps.injective (hlt.imp fun h => h.ne')

end

end AutoNodeRepair
