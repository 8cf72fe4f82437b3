import NewApi.AttemptConfig
import NewApi.RealtimeBilling
import NewApi.TaskPolling
import NewApi.TruncatedScaling

/-! The settlement of a task by the tokens that it took. The row records the
terms of the submission, the price and the ratios. The settlement does not read
them: it asks for the ratio that the model has when the task completes, and for
that of the task's group with itself. -/
namespace NewApi.TaskTokenPricing
open NewApi.GoText NewApi.TaskRows NewApi.TaskPolling NewApi.TruncatedScaling
open NewApi.AttemptConfig (compactModelSuffix withCompactModelSuffix)
open NewApi.RealtimeBilling (maxQuota minQuota)

/-! ## Floats -/

/-- The maps of `setting/ratio_setting` and the settings beside them. -/
structure RatioSettings where
  modelPriceMap : String → Option Float
  defaultModelPrice : String → Option Float
  modelRatioMap : String → Option Float
  groupRatioMap : String → Option Float
  groupGroupRatioMap : String → Option (String → Option Float)
  selfUseModeEnabled : Bool := false
  enableFreeModelPreConsume : Bool := true
  preConsumedQuota : Int := 500
  quotaPerUnit : Float := 500000

def handleThinkingBudgetModel (name start wildcard : String) : String :=
  if hasPrefix name start && decide ("-thinking-".toList <:+: name.toList) then wildcard else name

def effortSuffixes : List String :=
  ["-xhigh", "-high", "-medium", "-low", "-minimal", "-none", "-max"]

def trimGpt5EffortSuffixForRatio (name : String) : String :=
  if !hasPrefix name "gpt-5" then name
  else
    let compact := hasSuffix name compactModelSuffix
    let name := trimSuffix name compactModelSuffix
    let name := match effortSuffixes.find? (hasSuffix name) with
      | some suffix => trimSuffix name suffix
      | none => name
    if compact then withCompactModelSuffix name else name

/-- `setting/ratio_setting/model_ratio.go::FormatMatchingModelName`. -/
def formatMatchingModelName (name : String) : String :=
  let name := trimGpt5EffortSuffixForRatio name
  let name :=
    if hasPrefix name "gemini-2.5-flash-lite" then
      handleThinkingBudgetModel name "gemini-2.5-flash-lite" "gemini-2.5-flash-lite-thinking-*"
    else if hasPrefix name "gemini-2.5-flash" then
      handleThinkingBudgetModel name "gemini-2.5-flash" "gemini-2.5-flash-thinking-*"
    else if hasPrefix name "gemini-2.5-pro" then
      handleThinkingBudgetModel name "gemini-2.5-pro" "gemini-2.5-pro-thinking-*"
    else name
  let name := if hasPrefix name "gpt-4-gizmo" then "gpt-4-gizmo-*" else name
  if hasPrefix name "gpt-4o-gizmo" then "gpt-4o-gizmo-*" else name

def compactWildcardModelKey : String := "*" ++ compactModelSuffix

/-- `setting/ratio_setting/model_ratio.go::GetModelRatio`. -/
def getModelRatio (settings : RatioSettings) (name : String) : Float × Bool × String :=
  let name := formatMatchingModelName name
  match settings.modelRatioMap name with
  | some ratio => (ratio, true, name)
  | none =>
    match if hasSuffix name compactModelSuffix then settings.modelRatioMap compactWildcardModelKey
      else none with
    | some wildcardRatio => (wildcardRatio, true, name)
    | none => (37.5, settings.selfUseModeEnabled, name)

/-- `setting/ratio_setting/group_ratio.go::GetGroupRatio`. -/
def getGroupRatio (settings : RatioSettings) (name : String) : Float :=
  (settings.groupRatioMap name).getD 1

/-- `setting/ratio_setting/group_ratio.go::GetGroupGroupRatio`. -/
def getGroupGroupRatio (settings : RatioSettings) (userGroup usingGroup : String) : Option Float := do
  let ratios ← settings.groupGroupRatioMap userGroup
  ratios usingGroup

/-- `types/price_data.go::GroupRatioInfo`. -/
structure GroupRatioInfo where
  groupRatio : Float := 1
  groupSpecialRatio : Float := -1
  hasSpecialRatio : Bool := false

/-- `types/price_data.go::PriceData`, as a task has it. -/
structure PriceData where
  freeModel : Bool := false
  modelPrice : Float
  modelRatio : Float := 0
  quota : Int
  groupRatioInfo : GroupRatioInfo

def settledQuota (quota actualQuota : Int) : Int := if actualQuota ≤ 0 then quota else actualQuota

section Task
variable {userGroups : Int → Option String}
variable {totalTokens : Int}

end Task

end NewApi.TaskTokenPricing
