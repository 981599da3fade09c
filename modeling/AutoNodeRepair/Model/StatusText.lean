import AutoNodeRepair.Model.Status

/-!
# The status as a text

`clusterstate/api/utils.go`: what is written into the status map for people to read. How a
time is printed is a parameter.
-/

namespace AutoNodeRepair

/-- The texts of `ClusterAutoscalerConditionType`. -/
def ClusterAutoscalerConditionType.text : ClusterAutoscalerConditionType → String
  | .health => "Health"
  | .scaleDown => "ScaleDown"
  | .scaleUp => "ScaleUp"

/-- The texts of `ClusterAutoscalerConditionStatus`. -/
def ClusterAutoscalerConditionStatus.text : ClusterAutoscalerConditionStatus → String
  | .healthy => "Healthy"
  | .unhealthy => "Unhealthy"
  | .candidatesPresent => "CandidatesPresent"
  | .noCandidates => "NoCandidates"
  | .needed => "Needed"
  | .notNeeded => "NotNeeded"
  | .inProgress => "InProgress"
  | .noActivity => "NoActivity"
  | .backoff => "Backoff"

/-- The format `%-12v`. -/
def leftAligned (s : String) : String := s.pushn ' ' (12 - s.length)

/-- The format `%13s` of the empty text. -/
def margin : String := "             "

section

variable (formatTime : Time → String) (indent : String)

/-- The lines of one condition. -/
def conditionLines (condition : ClusterAutoscalerCondition) : String :=
  indent ++ leftAligned (condition.type.text ++ ":") ++ " " ++ condition.status.text ++
    (if condition.message ≠ "" then " (" ++ condition.message ++ ")" else "") ++ "\n" ++
  (indent ++ margin ++ "LastProbeTime:      " ++ formatTime condition.lastProbeTime ++ "\n") ++
  (indent ++ margin ++ "LastTransitionTime: " ++ formatTime condition.lastTransitionTime ++ "\n")

/-- The texts that the loop of `getConditionsString` sets. -/
structure ConditionTexts where
  health : String
  scaleUp : String := ""
  scaleDown : String := ""

/-- One turn of it: the last condition of a type decides. -/
def ConditionTexts.set (texts : ConditionTexts) (condition : ClusterAutoscalerCondition) :
    ConditionTexts :=
  match condition.type with
  | .health => { texts with health := conditionLines formatTime indent condition }
  | .scaleUp => { texts with scaleUp := conditionLines formatTime indent condition }
  | .scaleDown => { texts with scaleDown := conditionLines formatTime indent condition }

/-- `getConditionsString`. -/
def getConditionsString (autoscalerConditions : List ClusterAutoscalerCondition) : String :=
  let texts := autoscalerConditions.foldl (ConditionTexts.set formatTime indent)
    { health := indent ++ leftAligned "Health:" ++ " <unknown>" }
  texts.health ++ texts.scaleUp ++ texts.scaleDown

end

/-- What `GetReadableString` says of one group. -/
def NodeGroupStatus.lines (formatTime : Time → String) (nodeGroupStatus : NodeGroupStatus) :
    String :=
  "  Name:        " ++ nodeGroupStatus.providerID ++ "\n" ++
    getConditionsString formatTime "  " nodeGroupStatus.conditions ++ "\n"

/-- `GetReadableString`. -/
def ClusterAutoscalerStatus.getReadableString (formatTime : Time → String)
    (status : ClusterAutoscalerStatus) : String :=
  "Cluster-wide:\n" ++ getConditionsString formatTime "  " status.clusterwideConditions ++
    if status.nodeGroupStatuses.length = 0 then ""
    else "\nNodeGroups:\n" ++
      String.join (status.nodeGroupStatuses.map (NodeGroupStatus.lines formatTime))

end AutoNodeRepair
