import NewApi.GoText
import NewApi.KeyedTable

/-! Channels and abilities as they are stored. A channel lists models and
groups in two strings, and may hold several keys, each with a status and a
usage of its own. An ability says that a group reaches a model through a
channel. -/
namespace NewApi.Channels
open NewApi.KeyedTable
open NewApi.GoText (split)

/-! ## Rows -/

/-- The constants of `common/constants.go`. -/
inductive ChannelStatus where
  | unknown
  | enabled
  | manuallyDisabled
  | autoDisabled
  deriving DecidableEq, Repr

/-- The values of `ChannelInfo.MultiKeyMode`. No request is refused for another
one. -/
inductive MultiKeyMode where
  | random
  | polling
  | other
  deriving DecidableEq, Repr

abbrev KeyMap (Value : Type) := Int → Option Value

def KeyMap.set {Value : Type} (map : KeyMap Value) (index : Int) (value : Value) : KeyMap Value :=
  Function.update map index (some value)

def KeyMap.delete {Value : Type} (map : KeyMap Value) (index : Int) : KeyMap Value :=
  Function.update map index none

/-- `model/channel.go::ChannelInfo`. A missing map is an empty one. -/
structure ChannelInfo where
  isMultiKey : Bool := false
  multiKeySize : Int := 0
  multiKeyStatusList : KeyMap ChannelStatus := fun _ => none
  multiKeyDisabledReason : KeyMap String := fun _ => none
  multiKeyDisabledTime : KeyMap Int := fun _ => none
  multiKeyUsedCount : KeyMap Int := fun _ => none
  multiKeyUsedQuota : KeyMap Int := fun _ => none
  multiKeyMaxRequestCount : KeyMap Int := fun _ => none
  multiKeyPollingIndex : Int := 0
  multiKeyMode : MultiKeyMode := .random

/-- The entries that the status code writes into `OtherInfo`. -/
structure OtherInfo where
  statusReason : Option String := none
  statusTime : Option Int := none
  deriving DecidableEq, Repr

/-- `model/channel.go::Channel`. `keys` is what `GetKeys` reads out of the key
column. -/
structure Channel where
  id : Int
  keys : List String := []
  status : ChannelStatus := .enabled
  models : String := ""
  group : String := "default"
  weight : Option Nat := some 0
  priority : Option Int := some 0
  tag : Option String := none
  modelMapping : Option String := none
  paramOverride : Option String := none
  headerOverride : Option String := none
  usedCount : Int := 0
  usedQuota : Int := 0
  maxRequestCount : Int := 0
  maxRequestQuota : Int := 0
  otherInfo : OtherInfo := {}
  channelInfo : ChannelInfo := {}

/-- `model/ability.go::Ability`. -/
structure Ability where
  group : String
  model : String
  channelId : Int
  enabled : Bool
  priority : Option Int := some 0
  weight : Nat := 0
  tag : Option String := none
  deriving DecidableEq, Repr

/-! ## What the columns say -/

def Channel.getPriority (channel : Channel) : Int := channel.priority.getD 0

def Channel.getWeight (channel : Channel) : Nat := channel.weight.getD 0

def Channel.modelNames (channel : Channel) : List String := split ',' channel.models

def Channel.groupNames (channel : Channel) : List String := split ',' channel.group

/-- `model/channel.go::getMultiKeyStatus`. -/
def Channel.getMultiKeyStatus (channel : Channel) (index : Int) : ChannelStatus :=
  if channel.channelInfo.isMultiKey then (channel.channelInfo.multiKeyStatusList index).getD .enabled
  else .enabled

/-- `model/channel.go::IsSpecificKeyAvailable`. -/
def Channel.isSpecificKeyAvailable (channel : Channel) (index : Int) : Bool :=
  if index < 0 ∨ index ≥ channel.keys.length then false
  else if channel.channelInfo.isMultiKey then
    let maxCount := (channel.channelInfo.multiKeyMaxRequestCount index).getD 0
    let usedCount := (channel.channelInfo.multiKeyUsedCount index).getD 0
    channel.getMultiKeyStatus index = .enabled && !(maxCount > 0 && usedCount ≥ maxCount)
  else true

/-- `model/channel.go::hasAvailableSpecificKey`. -/
def Channel.hasAvailableSpecificKey (channel : Channel) : Bool :=
  if channel.keys = [] then false
  else if !channel.channelInfo.isMultiKey then true
  else (List.range channel.keys.length).any fun index =>
    channel.isSpecificKeyAvailable (index : Int)

def Channel.isRequestCountLimited (channel : Channel) : Bool :=
  channel.maxRequestCount > 0 && channel.usedCount ≥ channel.maxRequestCount

def Channel.isRequestQuotaLimited (channel : Channel) : Bool :=
  channel.maxRequestQuota > 0 && channel.usedQuota ≥ channel.maxRequestQuota

/-- `model/channel.go::ReachedUsageLimit`. -/
def Channel.reachedUsageLimit (channel : Channel) : Bool :=
  channel.isRequestCountLimited || channel.isRequestQuotaLimited || !channel.hasAvailableSpecificKey

end NewApi.Channels
