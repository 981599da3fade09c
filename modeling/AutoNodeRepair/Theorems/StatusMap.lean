import AutoNodeRepair.Logic.MapServer

/-!
# The status map under other clients

`WriteStatusConfigMap` reads the map, changes two entries of what it has read and sends all
of it back. Others write to the map in the meantime: with a plain write, what they wrote
would be gone. It is not (`writeStatusConfigMap_atomic`): whatever the others do between
the requests and whichever request fails, the map ends up as the others have left it, or
as that with the two entries set, in one piece.

The recorder that `NewStaticAutorepair` sets up records its events on the map as it was
written, or nothing at all (`newLogRecorder_records`).
-/

namespace AutoNodeRepair

open Interact

/-- The entry of a map that may not be there. -/
def ConfigMap.entry (cm : Option ConfigMap) (key : String) : Option String :=
  (cm.bind ConfigMap.data).bind fun data => data key

def ConfigMap.annotation (cm : Option ConfigMap) (key : String) : Option String :=
  (cm.bind ConfigMap.annotations).bind fun annotations => annotations key

/-- `cm` has the status, and all else as before. -/
structure OnlyStatus (text time : String) (old : Option ConfigMap) (cm : ConfigMap) : Prop where
  status : ConfigMap.entry (some cm) "status" = some text
  lastUpdated : ConfigMap.annotation (some cm) configMapLastUpdatedKey = some time
  entry : ∀ key, key ≠ "status" → ConfigMap.entry (some cm) key = ConfigMap.entry old key
  annotation : ∀ key, key ≠ configMapLastUpdatedKey →
    ConfigMap.annotation (some cm) key = ConfigMap.annotation old key

/-- The server with the status in the map that the others have left. -/
def Amended (text time : String) (others final : MapServer) : Prop :=
  ∃ cm, final = others.put (some cm) ∧ OnlyStatus text time others.cell.content cm

section

variable (stamps : Stamps)

/-- What the caller is told, next to what has happened; `lost` is that the answer to the
write got lost. -/
def Reported (text time : String) (lost : Prop) (logRecorder : Option LogEventRecorder)
    (others final : MapServer) : Except String ConfigMap × Option LogEventRecorder → Prop
  | (.ok cm, recorder) =>
      Amended text time others final ∧ final.current stamps = some cm ∧
        recorder = logRecorder.map fun ler => { ler with statusObject := some cm }
  | (.error _, recorder) =>
      (final = others ∨ lost ∧ Amended text time others final) ∧ recorder = logRecorder

theorem MapServer.Written.reported {accepted lost : Prop} {s : MapServer} {cm : ConfigMap}
    {r : Except KubeError ConfigMap × MapServer} {text time : String}
    (h : MapServer.Written stamps accepted lost s cm r)
    (hcm : accepted → OnlyStatus text time s.cell.content cm)
    (logRecorder : Option LogEventRecorder) :
    Reported stamps text time lost logRecorder s r.2 (statusWritten logRecorder r.1) := by
  cases h with
  | answered h => exact ⟨⟨cm, rfl, hcm h⟩, rfl, rfl⟩
  | lost h hlost err => exact ⟨.inr ⟨hlost, cm, rfl, hcm h⟩, rfl⟩
  | failed err => exact ⟨.inl rfl, rfl⟩

/-- Setting the two entries of a map changes no other. -/
theorem onlyStatus_update {text time : String} {old cm : ConfigMap} {data : StringMap}
    (hdata : cm.data = some data) (holdData : old.data = cm.data)
    (holdAnnotations : old.annotations = cm.annotations) :
    OnlyStatus text time (some old) { cm with
      data := some (Function.update data "status" (some text))
      annotations := some (Function.update (cm.annotations.getD fun _ => none)
        configMapLastUpdatedKey (some time)) } where
  status := by simp [ConfigMap.entry]
  lastUpdated := by simp [ConfigMap.annotation]
  entry key hkey := by simp [ConfigMap.entry, holdData, hdata, Function.update_of_ne hkey]
  annotation key hkey := by
    cases hann : cm.annotations with
    | none => simp [ConfigMap.annotation, holdAnnotations, hann, Function.update_of_ne hkey]
    | some annotations =>
        simp [ConfigMap.annotation, holdAnnotations, hann, Function.update_of_ne hkey]

theorem onlyStatus_fresh {text time ns : String} :
    OnlyStatus text time none {
      ns := ns
      name := statusConfigMapName
      annotations := some (Function.update (fun _ => none) configMapLastUpdatedKey (some time))
      data := some (Function.update (fun _ => none) "status" (some text)) } where
  status := by simp [ConfigMap.entry]
  lastUpdated := by simp [ConfigMap.annotation]
  entry key hkey := by simp [ConfigMap.entry, Function.update_of_ne hkey]
  annotation key hkey := by simp [ConfigMap.annotation, Function.update_of_ne hkey]

/-- The write is about to read a map without data. -/
def MapServer.ReadsNoData (s : MapServer) (ns : String) : Prop :=
  s.arrive.turn.verdict = .answered ∧ (ns = s.ns ∧ statusConfigMapName = s.name) ∧
    ∃ cm, s.arrive.arrive.cell.content = some cm ∧ cm.data = none

theorem MapServer.readsNoData_iff {s : MapServer} {ns : String} :
    s.ReadsNoData ns ↔ ∃ cm,
      (MapServer.service stamps s.arrive (.getConfigMap ns statusConfigMapName)).1 = .ok cm ∧
        cm.data = none := by
  constructor
  · rintro ⟨hverdict, hown, old, hold, hdata⟩
    have hcurrent : s.arrive.arrive.current stamps = some { old with
        resourceVersion := stamps.stamp s.arrive.arrive.cell.revision } := by
      rw [MapServer.current, hold, Option.map_some]
    exact ⟨_, (MapServer.service_getConfigMap_ok_iff stamps).mpr ⟨hverdict, hown, hcurrent⟩, hdata⟩
  · rintro ⟨cm, hget, hdata⟩
    obtain ⟨hverdict, hown, hcurrent⟩ := (MapServer.service_getConfigMap_ok_iff stamps).mp hget
    obtain ⟨-, old, hold, holdData, -⟩ := MapServer.current_eq_some stamps hcurrent
    exact ⟨hverdict, hown, old, hold, holdData.trans hdata⟩

/-- Both halves of the write: on the map as the others have left it, or not at all. -/
theorem writeStatusConfigMap_ends (formatTime : Time → String) (ns msg : String)
    (logRecorder : Option LogEventRecorder) (s : MapServer) :
    MapServer.Ends stamps (writeStatusConfigMap formatTime ns msg logRecorder) s
      fun val others final => match val with
        | none => s.ReadsNoData ns ∧ final = others
        | some reported => ¬ s.ReadsNoData ns ∧
            Reported stamps (statusMessage formatTime s.turn.time msg) (formatTime s.turn.time)
              s.arrive.arrive.Loses logRecorder others final reported := by
  unfold writeStatusConfigMap
  refine .bind_call (by rw [MapServer.service_now]) ?_
  rw [MapServer.service_now]
  have hread := s.arrive.service_getConfigMap stamps ns statusConfigMapName
  refine .bind_call hread.same ?_
  rw [MapServer.readsNoData_iff stamps]
  cases hget : (MapServer.service stamps s.arrive (.getConfigMap ns statusConfigMapName)).1 with
  | ok cm =>
      obtain ⟨hversion, old, hold, hdata, hann⟩ := MapServer.current_eq_some stamps
        (hread.found cm hget)
      dsimp only
      split
      · rename_i hnil
        exact .pure ⟨⟨cm, rfl, hnil⟩, rfl⟩
      · rename_i data hsome
        refine .last_call ⟨by simp [hsome], MapServer.Written.reported stamps
          (s.arrive.arrive.service_updateConfigMap stamps ?_) ?_ logRecorder⟩
        · exact hversion ▸ stamps.ne_empty _
        · intro haccepted
          -- the revision is that of the map read, so the map is
          rw [MapServer.arrive_cell_of_stamp stamps (haccepted.symm.trans hversion), hold]
          exact onlyStatus_update hsome hdata hann
  | error err =>
      dsimp only
      split
      · refine .last_call ⟨by simp, MapServer.Written.reported stamps
          (s.arrive.arrive.service_createConfigMap stamps _) ?_ logRecorder⟩
        intro hnone
        rw [hnone]
        exact onlyStatus_fresh
      · exact .pure ⟨by simp, .inl rfl, rfl⟩

/-- Nothing goes wrong: the requests are answered, the map read (if there is one) is the
status map and has data, and nobody writes to it before it is sent back. -/
structure MapServer.Calm (s : MapServer) (ns : String) : Prop where
  own : s.ns = ns ∧ s.name = statusConfigMapName
  read : s.arrive.turn.verdict = .answered
  write : s.arrive.arrive.turn.verdict = .answered
  alone : s.arrive.arrive.turn.edits = []
  map : ∀ cm, s.arrive.arrive.cell.content = some cm →
    cm.ns = ns ∧ cm.name = statusConfigMapName ∧ ∃ data, cm.data = some data

theorem writeStatusConfigMap_calm (formatTime : Time → String) (ns msg : String)
    (logRecorder : Option LogEventRecorder) {s : MapServer} (hcalm : s.Calm ns) :
    MapServer.Ends stamps (writeStatusConfigMap formatTime ns msg logRecorder) s
      fun val _ _ => ∃ cm recorder, val = some (.ok cm, recorder) := by
  have hcell : s.arrive.arrive.arrive.cell = s.arrive.arrive.cell := by
    show s.arrive.arrive.cell.edits _ = _
    rw [hcalm.alone]
    rfl
  unfold writeStatusConfigMap
  refine .bind_call (by rw [MapServer.service_now]) ?_
  have hread := s.arrive.service_getConfigMap stamps ns statusConfigMapName
  refine .bind_call hread.same ?_
  rw [MapServer.service_of_answered stamps hcalm.read]
  simp only [MapServer.carryOut, MapServer.about_self (s := s.arrive.arrive) hcalm.own.1
    hcalm.own.2, MapServer.read, MapServer.current]
  cases hcontent : s.arrive.arrive.cell.content with
  | none =>
      simp only [Option.map_none, MapServer.notFound, if_true]
      refine .last_call ?_
      rw [MapServer.service_of_answered stamps hcalm.write]
      simp only [MapServer.carryOut, MapServer.create, hcell, hcontent,
        MapServer.about_self (s := s.arrive.arrive.arrive) hcalm.own.1 hcalm.own.2]
      exact ⟨_, _, rfl⟩
  | some cm =>
      obtain ⟨hns, hname, data, hdata⟩ := hcalm.map cm hcontent
      simp only [Option.map_some, hdata]
      refine .last_call ?_
      rw [MapServer.service_of_answered stamps hcalm.write]
      simp only [MapServer.carryOut, MapServer.replace, hcell, hcontent, hns, hname,
        MapServer.about_self (s := s.arrive.arrive.arrive) hcalm.own.1 hcalm.own.2, or_true,
        if_true]
      exact ⟨_, _, rfl⟩

/-- **The status is written in one piece.** Let the others do to the map what they like
before each request and let any request fail. The write panics exactly if the map that it
reads has no data, and then has no effect. Otherwise it is, on the map as the others have
left it when the last request arrives, the two entries of the status and nothing else, or
it has no effect at all. It is the former if it is reported as done, and the recorder is
then left with the map as it is shown; if an error is reported, it is the former only
where the answer to the write was lost. When nothing goes wrong the write is done. -/
theorem writeStatusConfigMap_atomic (formatTime : Time → String) (ns msg : String)
    (logRecorder : Option LogEventRecorder) (s : MapServer) :
    let out := (writeStatusConfigMap formatTime ns msg logRecorder).exec
      (MapServer.service stamps) ⟨(), s⟩
    let others := s.untouched out.log.length
    let final := out.mach.world
    (out.val = none ↔ s.ReadsNoData ns) ∧ (out.val = none → final = others) ∧
      (∀ reported, out.val = some reported →
        Reported stamps (statusMessage formatTime s.turn.time msg) (formatTime s.turn.time)
          s.arrive.arrive.Loses logRecorder others final reported) ∧
      (s.Calm ns → ∃ cm recorder, out.val = some (.ok cm, recorder)) := by
  intro out others final
  have hends : match out.val with
      | none => s.ReadsNoData ns ∧ final = others
      | some reported => ¬ s.ReadsNoData ns ∧
          Reported stamps (statusMessage formatTime s.turn.time msg) (formatTime s.turn.time)
            s.arrive.arrive.Loses logRecorder others final reported :=
    writeStatusConfigMap_ends stamps formatTime ns msg logRecorder s
  have hcalm : s.Calm ns → ∃ cm recorder, out.val = some (.ok cm, recorder) :=
    writeStatusConfigMap_calm stamps formatTime ns msg logRecorder
  refine ⟨?_, ?_, ?_, hcalm⟩
  · cases hval : out.val with
    | none => simp only [hval] at hends; simp [hends.1]
    | some reported => simp only [hval] at hends; simp [hends.1]
  · intro hval
    simp only [hval] at hends
    exact hends.2
  · intro reported hval
    simp only [hval] at hends
    exact hends.2

end

/-- A server with a status map of an earlier write, to which another client adds an entry
before the write reads it. -/
def sharedStatus : MapServer where
  ns := "kube-system"
  name := statusConfigMapName
  cell := ⟨some { ns := "kube-system", name := statusConfigMapName, data := some fun _ => none }, 7⟩
  script := [{ time := 0 }, { time := 1, edits := [Option.map fun cm =>
    { cm with data := cm.data.map fun data => Function.update data "note" (some "kept") }] }]

/-- Nobody writes to the map between the read and the write: the status is written, and the
entry of the other client is still there. -/
theorem writeStatusConfigMap_atomic_sample :
    let out := (writeStatusConfigMap (fun _ => "now") "kube-system" "Running" none).exec
      (MapServer.service Stamps.tally) ⟨(), sharedStatus⟩
    sharedStatus.Calm "kube-system" ∧ ¬ sharedStatus.ReadsNoData "kube-system" ∧
      (∃ cm recorder, out.val = some (.ok cm, recorder)) ∧
      ConfigMap.entry out.mach.world.cell.content "note" = some "kept" := by
  intro out
  have hcalm : sharedStatus.Calm "kube-system" :=
    ⟨⟨rfl, rfl⟩, rfl, rfl, rfl, by
      intro cm hcm
      obtain rfl := Option.some.inj hcm
      exact ⟨rfl, rfl, _, rfl⟩⟩
  obtain ⟨hpanics, -, hreported, hdone⟩ := writeStatusConfigMap_atomic Stamps.tally
    (fun _ => "now") "kube-system" "Running" none sharedStatus
  obtain ⟨cm, recorder, hval⟩ := hdone hcalm
  obtain ⟨⟨written, hfinal, honly⟩, -, -⟩ := hreported _ hval
  refine ⟨hcalm, ?_, ⟨cm, recorder, hval⟩, ?_⟩
  · rw [← hpanics, hval]
    simp
  · exact (congrArg (fun s => ConfigMap.entry s.cell.content "note") hfinal).trans
      ((honly.entry "note" (by decide)).trans rfl)

/-! ## The recorder -/

/-- The recorder after the first write of the status. -/
def recorderOf : Option (Except String ConfigMap × Option LogEventRecorder) →
    Option LogEventRecorder
  | none => none
  | some (.ok cm, _) => some ⟨some cm, true⟩
  | some (.error _, _) => some ⟨none, false⟩

/-- `NewStaticAutorepair` does without the map if it cannot be written. -/
theorem newLogRecorder_exec {W : Type} (h : Service W MapApi) (formatTime : Time → String)
    (ns : String) (m : Mach Unit W) :
    (newLogRecorder formatTime ns true).exec h m =
      ⟨recorderOf ((writeStatusConfigMap formatTime ns "Initializing" none).exec h m).val,
        ((writeStatusConfigMap formatTime ns "Initializing" none).exec h m).log,
        ((writeStatusConfigMap formatTime ns "Initializing" none).exec h m).mach⟩ := by
  simp only [newLogRecorder, newStatusMapRecorder, if_true, exec_bind]
  generalize (writeStatusConfigMap formatTime ns "Initializing" none).exec h m = written
  obtain ⟨val, log, mach⟩ := written
  rcases val with _ | ⟨_ | cm, recorder⟩ <;> simp [recorderOf, Outcome.after]

section

variable (stamps : Stamps)

/-- **Events go to the status map.** With the recorder of `NewStaticAutorepair` an event is
recorded on the map as it is shown after the first status was written, in one piece; or no
event is ever recorded, and the map is as the others have left it unless the answer to the
write was lost. -/
theorem newLogRecorder_records (formatTime : Time → String) (ns : String) (active : Bool)
    (s : MapServer) :
    let out := (newLogRecorder formatTime ns active).exec (MapServer.service stamps) ⟨(), s⟩
    let others := s.untouched out.log.length
    let final := out.mach.world
    let amended := Amended (statusMessage formatTime s.turn.time "Initializing")
      (formatTime s.turn.time) others final
    ∀ ler, out.val = some ler →
      (∃ cm, amended ∧ final.current stamps = some cm ∧ ∀ eventtype reason message,
        ler.event eventtype reason message =
          Prog.call (E := MapApi) (.recordEvent cm eventtype reason message)) ∨
      ((final = others ∨ s.arrive.arrive.Loses ∧ amended) ∧ ∀ eventtype reason message,
        ler.event eventtype reason message = pure ()) := by
  cases active with
  | false =>
      rintro out others final amended ler hval
      obtain rfl : ⟨none, false⟩ = ler := Option.some.inj hval
      exact .inr ⟨.inl rfl, fun _ _ _ => rfl⟩
  | true =>
      intro out others final amended ler hval
      have hout := newLogRecorder_exec (MapServer.service stamps) formatTime ns ⟨(), s⟩
      have hends := writeStatusConfigMap_ends stamps formatTime ns "Initializing" none s
      simp only [out, others, final, amended, hout] at hval ⊢
      unfold MapServer.Ends at hends
      generalize (writeStatusConfigMap formatTime ns "Initializing" none).exec
        (MapServer.service stamps) ⟨(), s⟩ = written at hval hends ⊢
      obtain ⟨val, log, mach⟩ := written
      rcases val with _ | ⟨err | cm, recorder⟩
      · simp [recorderOf] at hval
      · obtain rfl : ⟨none, false⟩ = ler := Option.some.inj hval
        exact .inr ⟨hends.2.1, fun _ _ _ => rfl⟩
      · obtain rfl : ⟨some cm, true⟩ = ler := Option.some.inj hval
        exact .inl ⟨cm, hends.2.1, hends.2.2.1, fun _ _ _ => rfl⟩

/-- What `DeleteStatusConfigMap` tells, next to what has happened. -/
def Removed (lost : Prop) (others final : MapServer) : Except KubeError Unit → Prop
  | .ok () => others.cell.content.isSome = true ∧ final = others.put none
  | .error _ => final = others ∨ lost ∧ final = others.put none

/-- `DeleteStatusConfigMap` removes a map that is there, or changes nothing. -/
theorem deleteStatusConfigMap_ends (ns : String) (s : MapServer) :
    MapServer.Ends stamps (deleteStatusConfigMap ns) s fun val others final =>
      Removed s.Loses others final val := by
  have hremove : Removed s.Loses s.arrive
      (s.arrive.about ns statusConfigMapName s.arrive.remove).2
      (s.arrive.about ns statusConfigMapName s.arrive.remove).1 := by
    unfold MapServer.about MapServer.remove
    split
    · cases hcontent : s.arrive.cell.content with
      | none => exact .inl rfl
      | some cm => exact ⟨by simp [hcontent], rfl⟩
    · exact .inl rfl
  show Removed s.Loses s.arrive
    (MapServer.service stamps s (.deleteConfigMap ns statusConfigMapName)).2
    (MapServer.service stamps s (.deleteConfigMap ns statusConfigMapName)).1
  unfold MapServer.service
  cases hverdict : s.turn.verdict with
  | answered => exact hremove
  | refused err => exact .inl rfl
  | lost err =>
      -- it was carried out, whatever would have been answered
      cases hanswer : (s.arrive.about ns statusConfigMapName s.arrive.remove).1 with
      | ok _ =>
          rw [hanswer] at hremove
          exact .inr ⟨⟨err, hverdict⟩, hremove.2⟩
      | error _ =>
          rw [hanswer] at hremove
          exact hremove

end

end AutoNodeRepair
