import PyMotor.FaultTolerance.FaultManager
import PyMotor.Lib.Json
import PyMotor.Lib.Numeral

/-!
# The parser of the ConfigMap

`motor/controller/fault_tolerance/k8s/configmap_parser.py` and the mappings of `cluster_fault_codes.py`. `json.loads` is
an input, with `none` for what it raises. Where an exception is caught, `none` stands for it.
-/

namespace PyMotor

open Lib

/-! ## The mappings -/

def OriginFaultLevel.value : OriginFaultLevel → String
  | .notHandleFault => "NotHandleFault"
  | .restartRequest => "RestartRequest"
  | .restartBusiness => "RestartBusiness"
  | .freeRestartNpu => "FreeRestartNPU"
  | .restartNpu => "RestartNPU"
  | .separateNpu => "SeparateNPU"
  | .preSeparateNpu => "PreSeparateNPU"

/-- The members in the order of the source. -/
def OriginFaultLevel.members : List OriginFaultLevel :=
  [.notHandleFault, .restartRequest, .restartBusiness, .freeRestartNpu, .restartNpu, .separateNpu, .preSeparateNpu]

/-- `OriginFaultLevel(x)`, with `none` for a `ValueError`. -/
def OriginFaultLevel.ofValue (x : Json) : Option OriginFaultLevel :=
  members.find? fun level => Json.eqStr (some x) level.value

def OriginFaultLevel.faultLevel : OriginFaultLevel → FaultLevel
  | .notHandleFault => .l1
  | .restartRequest => .l2
  | .restartBusiness => .l3
  | .freeRestartNpu => .l4
  | .restartNpu => .l5
  | .separateNpu => .l6
  | .preSeparateNpu => .l6

/-- A list or a dictionary is no key of a dictionary. -/
def hashable : Json → Bool
  | .arr _ => false
  | .obj _ => false
  | _ => true

def mapFaultType (faultType : Json) : Option FaultType :=
  if !hashable faultType then none
  else if Json.eqStr (some faultType) "CardUnhealthy" then some .cardUnhealthy
  else if Json.eqStr (some faultType) "CardNetworkUnhealthy" then some .cardNetworkUnhealthy
  else some .nodeUnhealthy

def mapFaultLevel (faultLevel : Json) : Option FaultLevel :=
  if !hashable faultLevel then none
  else some (match OriginFaultLevel.ofValue faultLevel with
    | some level => level.faultLevel
    | none => .healthy)

namespace ConfigmapParser

variable (loads : String → Option Json)

def parseJsonString (jsonStr : String) : Option Json :=
  if jsonStr = "" then none else loads (String.ofList (Text.strip jsonStr.toList))

/-- `x.get(key, default)`. -/
def getOr (x : Json) (key : String) (default : Json) : Option Json :=
  match x with
  | .obj d => some ((JsonObj.get? d key).getD default)
  | _ => none

/-! ## DeviceInfoCfg -/

def parseDeviceFaultCode : Json → Option Int
  | .str faultCode => some ((Text.int 16 faultCode.toList).getD 0x1001)
  | _ => none

def createDeviceFaultInfo (faultType npuName faultLevel : Json) (faultCode : Int) : Option FaultInfo :=
  let originFaultLevel := (OriginFaultLevel.ofValue faultLevel).getD .notHandleFault
  match mapFaultType faultType, npuName with
  | some faultType, .str npuName => some
    { faultType := faultType
      npuName := npuName
      faultCode := faultCode
      faultLevel := originFaultLevel.faultLevel
      originFaultLevel := originFaultLevel }
  | _, _ => none

def processSingleDeviceFault (faultDevice : Json) : Option FaultInfo := do
  let faultType ← getOr faultDevice "fault_type" (.str "")
  let npuName ← getOr faultDevice "npu_name" (.str "")
  let faultLevel ← getOr faultDevice "fault_level" (.str "")
  let faultCode ← parseDeviceFaultCode (← getOr faultDevice "fault_code" (.str ""))
  createDeviceFaultInfo faultType npuName faultLevel faultCode

def faultDevices (deviceInfo : Json) : Option Json := do
  let deviceInfoData ← getOr deviceInfo "DeviceInfo" (.obj [])
  let deviceList ← getOr deviceInfoData "DeviceList" (.obj [])
  getOr deviceList "huawei.com/Ascend910-Fault" (.arr [])

def processDeviceInfo (deviceInfoJson : String) : List FaultInfo :=
  match parseJsonString loads deviceInfoJson with
  | none => []
  | some deviceInfo =>
    if !deviceInfo.truthy then []
    else
      match faultDevices deviceInfo with
      | some (.arr faultDevices) => faultDevices.filterMap processSingleDeviceFault
      | _ => []

/-! ## SwitchInfoCfg -/

/-- The digits of a chip or port id; the outer `none` is a `ValueError`, at a digit that is no decimal one. -/
def locationId (part : List Char) : Option Int := if Text.isDigits part then Text.int 10 part else some 0

/-- The code in a part `[code,...]`. -/
def switchFaultCode (faultCodePart : List Char) : Int :=
  if faultCodePart.head? = some '[' ∧ faultCodePart.getLast? = some ']' then
    let codeInfo := Text.strip ((faultCodePart.drop 1).dropLast.takeWhile (· ≠ ','))
    if Text.startsWith ['0', 'x'] codeInfo then (Text.int 16 codeInfo).getD 0x2001 else 0x2001
  else 0x2001

/-- The fault code, the chip id and the port id of a key `[code,...]_chip_port`. -/
def parseSwitchFaultKey (faultKey : String) : Option (Int × Int × Int) :=
  match faultKey.toList.splitOn '_' with
  | faultCodePart :: chipId :: portId :: _ => do
    let chipId ← locationId chipId
    let portId ← locationId portId
    return (switchFaultCode faultCodePart, chipId, portId)
  | _ => some (0x2001, 0, 0)

def createSwitchFaultInfo (faultLevel : Json) (faultCode : Int) : FaultInfo :=
  let originFaultLevel := (OriginFaultLevel.ofValue faultLevel).getD .notHandleFault
  { faultType := .nodeUnhealthy
    npuName := ""
    faultCode := faultCode
    faultLevel := originFaultLevel.faultLevel
    originFaultLevel := originFaultLevel }

def processSingleSwitchFault (item : String × Json) : Option FaultInfo := do
  let faultLevel ← getOr item.2 "fault_level" (.str "NotHandle")
  let (faultCode, _, _) ← parseSwitchFaultKey item.1
  return createSwitchFaultInfo faultLevel faultCode

def faultTimeLevelMap (switchInfo : Json) : Option Json := do
  let _ ← mapFaultLevel (← getOr switchInfo "FaultLevel" (.str "NotHandle"))
  getOr switchInfo "FaultTimeAndLevelMap" (.obj [])

def processSwitchInfo (switchInfoJson : String) : List FaultInfo :=
  match parseJsonString loads switchInfoJson with
  | none => []
  | some switchInfo =>
    if !switchInfo.truthy then []
    else
      match faultTimeLevelMap switchInfo with
      | some (.obj items) => items.filterMap processSingleSwitchFault
      | _ => []

example : parseSwitchFaultKey "[0x00f1fef5,155649,na]_1_3" = some (0x00f1fef5, 1, 3) := by decide

/-! ## The data of a ConfigMap -/

def isConfigmapValid (configData : Dict String String) : Bool :=
  ["DeviceInfoCfg", "SwitchInfoCfg", "ManuallySeparateNPU"].any configData.contains

/-- The value under the key, when it is there and not empty, given to `process`. -/
def processSection (process : String → List FaultInfo) (configData : Dict String String) (key : String) : List FaultInfo :=
  match configData.get? key with
  | none => []
  | some text => if text = "" then [] else process text

/-- `_process_configmap_data`; what is made of `ManuallySeparateNPU` is only logged. -/
def processConfigmapData (configData : Dict String String) : List FaultInfo :=
  if isConfigmapValid configData then
    processSection (processDeviceInfo loads) configData "DeviceInfoCfg" ++
      processSection (processSwitchInfo loads) configData "SwitchInfoCfg"
  else []

end ConfigmapParser

end PyMotor
