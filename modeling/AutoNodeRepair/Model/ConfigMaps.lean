import AutoNodeRepair.Model.NodeGroupSpec

/-!
# Config maps

The two config maps of the controller: the one it writes its status to and attaches its
events to (`clusterstate/utils/status.go`, and how `NewStaticAutorepair` sets that up), and
the one a dynamic configuration is read from (`config/dynamic/config_fetcher.go`, with
`ConfigFromConfigMap` of `config.go`).

A `map[string]string` is a function here and the nil map `none`: a nil map can be read
but not written. The texts of times and the decoder of JSON are parameters.
-/

namespace AutoNodeRepair

open Interact

/-! ## The questions -/

abbrev StringMap := String → Option String

/-- `v1.ConfigMap`. -/
structure ConfigMap where
  ns : String
  name : String
  resourceVersion : String := ""
  annotations : Option StringMap := none
  data : Option StringMap := none

inductive MapCall
  | now
  | getConfigMap (ns name : String)
  | updateConfigMap (configMap : ConfigMap)
  | createConfigMap (configMap : ConfigMap)
  | deleteConfigMap (ns name : String)
  | recordEvent (object : ConfigMap) (eventtype reason message : String)

@[reducible] def MapCall.Ans : MapCall → Type
  | .now => Time
  | .getConfigMap _ _ => Except KubeError ConfigMap
  | .updateConfigMap _ => Except KubeError ConfigMap
  | .createConfigMap _ => Except KubeError ConfigMap
  | .deleteConfigMap _ _ => Except KubeError Unit
  | .recordEvent .. => Unit

/-- The signature of the outside of this code. -/
abbrev MapApi : Sig := ⟨MapCall, MapCall.Ans⟩

/-- Code about config maps; what it remembers is passed along. -/
abbrev MapCtl := Prog Unit MapApi

/-! ## `clusterstate/utils/status.go` -/

/-- `StatusConfigMapName`. -/
def statusConfigMapName : String := "cluster-autorepair-status"

/-- `ConfigMapLastUpdatedKey`. -/
def configMapLastUpdatedKey : String := "cluster-autorepair.kubernetes.io/last-updated"

/-- `LogEventRecorder`. -/
structure LogEventRecorder where
  statusObject : Option ConfigMap
  active : Bool

/-- `Event`, and `Eventf` with its message formatted. -/
def LogEventRecorder.event (ler : LogEventRecorder) (eventtype reason message : String) :
    MapCtl Unit :=
  match ler.active, ler.statusObject with
  | true, some statusObject =>
      Prog.call (E := MapApi) (.recordEvent statusObject eventtype reason message)
  | _, _ => pure ()

section

variable (formatTime : Time → String)

/-- The text of the status. -/
def statusMessage (statusUpdateTime : Time) (msg : String) : String :=
  s!"cluster-autorepair status at {formatTime statusUpdateTime}:\n{msg}"

/-- The end of `WriteStatusConfigMap`, once the map was sent. -/
def statusWritten (logRecorder : Option LogEventRecorder) :
    Except KubeError ConfigMap → Except String ConfigMap × Option LogEventRecorder
  | .error err => (.error s!"Failed to write status configmap: {err.msg}", logRecorder)
  | .ok configMap =>
      (.ok configMap, logRecorder.map fun ler => { ler with statusObject := some configMap })

/-- `WriteStatusConfigMap`, with the recorder as it is left; `none` is a panic. -/
def writeStatusConfigMap (ns msg : String) (logRecorder : Option LogEventRecorder) :
    MapCtl (Option (Except String ConfigMap × Option LogEventRecorder)) := do
  let statusUpdateTime ← Prog.call (E := MapApi) .now
  let statusMsg := statusMessage formatTime statusUpdateTime msg
  match ← Prog.call (E := MapApi) (.getConfigMap ns statusConfigMapName) with
  | .ok configMap =>
      match configMap.data with
      -- only the annotations are looked at before they are written to
      | none => return none
      | some data =>
          let annotations := configMap.annotations.getD fun _ => none
          let written ← Prog.call (E := MapApi) (.updateConfigMap { configMap with
            data := some (Function.update data "status" (some statusMsg))
            annotations := some (Function.update annotations configMapLastUpdatedKey
              (some (formatTime statusUpdateTime))) })
          return some (statusWritten logRecorder written)
  | .error err =>
      if err.notFound then
        let written ← Prog.call (E := MapApi) (.createConfigMap {
          ns := ns
          name := statusConfigMapName
          annotations := some (Function.update (fun _ => none) configMapLastUpdatedKey
            (some (formatTime statusUpdateTime)))
          data := some (Function.update (fun _ => none) "status" (some statusMsg)) })
        return some (statusWritten logRecorder written)
      else
        return some (.error s!"Failed to retrieve status configmap for update: {err.msg}",
          logRecorder)

/-- `NewStatusMapRecorder`. -/
def newStatusMapRecorder (ns : String) (active : Bool) :
    MapCtl (Option (Except String LogEventRecorder)) := do
  if active then
    match ← writeStatusConfigMap formatTime ns "Initializing" none with
    | none => return none
    | some (.error _, _) => return some (.error "Failed to init status ConfigMap")
    | some (.ok mapObj, _) => return some (.ok ⟨some mapObj, active⟩)
  else
    return some (.ok ⟨none, active⟩)

/-- The recorder of `NewStaticAutorepair`. -/
def newLogRecorder (configNamespace : String) (writeStatusConfigMap : Bool) :
    MapCtl (Option LogEventRecorder) := do
  match ← newStatusMapRecorder formatTime configNamespace writeStatusConfigMap with
  | none => return none
  | some (.ok logRecorder) => return some logRecorder
  | some (.error _) =>
      match ← newStatusMapRecorder formatTime configNamespace false with
      | some (.ok logRecorder) => return some logRecorder
      | _ => return none

end

/-- `DeleteStatusConfigMap`. -/
def deleteStatusConfigMap (ns : String) : MapCtl (Except KubeError Unit) :=
  Prog.call (E := MapApi) (.deleteConfigMap ns statusConfigMapName)

/-! ## `config/dynamic` -/

/-- `Config` with the version of the map it is from. -/
structure VersionedConfig extends Config where
  resourceVersion : String

/-- `NewDefaultConfig`. -/
def newDefaultConfig : VersionedConfig := ⟨⟨[]⟩, ""⟩

/-- `VersionMismatchesAgainst`. -/
def VersionedConfig.versionMismatchesAgainst (c other : VersionedConfig) : Bool :=
  c.resourceVersion != other.resourceVersion

section

variable (unmarshal : String → Except String Config)

/-- `ConfigFromConfigMap`. A key that is missing is the empty text. -/
def configFromConfigMap (configmap : ConfigMap) : Except String VersionedConfig :=
  let settingsInJson := ((configmap.data.getD fun _ => none) "settings").getD ""
  if settingsInJson = "" then
    .error s!"invalid format of configmap: missing the key named \"nodeGroups\" in config = {settingsInJson}"
  else
    match unmarshal settingsInJson with
    | .error err => .error s!"failed to parse configmap data: {err}"
    | .ok settings =>
        match settings.validate with
        | .error err => .error s!"invalid config : {err}"
        | .ok () => .ok ⟨settings, configmap.resourceVersion⟩

/-- `configFetcherImpl`. -/
structure ConfigFetcher where
  configMapName : String
  ns : String
  lastConfig : VersionedConfig

/-- `NewConfigFetcher`. -/
def newConfigFetcher (configMapName ns : String) : ConfigFetcher :=
  ⟨configMapName, ns, newDefaultConfig⟩

/-- `FetchConfigIfUpdated`, with the fetcher as it is left. -/
def ConfigFetcher.fetchConfigIfUpdated (c : ConfigFetcher) :
    MapCtl (ConfigFetcher × Except String (Option VersionedConfig)) := do
  match ← Prog.call (E := MapApi) (.getConfigMap c.ns c.configMapName) with
  | .error err =>
      return (c, .error s!"failed to fetch config map named {c.configMapName} in namespace {c.ns}. please confirm if the configmap name and the namespace are correctly spelled and you've already created the configmap: {err.msg}")
  | .ok cm =>
      match configFromConfigMap unmarshal cm with
      | .error err =>
          Prog.call (E := MapApi) (.recordEvent cm "Normal" "FailedToBeLoaded"
            s!"cluster-autorepair tried to load this configmap but failed: {err}")
          return (c, .error s!"failed to load dyamic config: {err}")
      | .ok configFromServer =>
          if c.lastConfig.versionMismatchesAgainst configFromServer then
            return ({ c with lastConfig := configFromServer }, .ok (some configFromServer))
          else
            return (c, .ok none)

end

end AutoNodeRepair
