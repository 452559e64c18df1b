import PyMotor.FaultTolerance.ConfigmapParser
import PyMotor.FaultTolerance.Lemmas.Levels

/-!
# Malformed fault data

A malformed entry is left out alone. A section that cannot be decoded is reported as one without faults, so the recorded
faults of it go unless the other section reports them.
-/

namespace PyMotor

open Lib

/-! ## What a section says -/

inductive ConfigmapSection
  | device
  | switch
deriving DecidableEq

/-- An entry of the fault list, or an item of the fault map. -/
inductive FaultEntry
  | device (faultDevice : Json)
  | switch (faultKey : String) (faultInfoData : Json)

namespace FaultEntry

def IsCode (code : List Char) (n : Int) : Prop :=
  ∃ digits value, Text.IsNumeral 16 digits value ∧ (code = digits ∨ code = '0' :: 'x' :: digits) ∧ n = value

def IsKey (faultKey : String) (n : Int) : Prop :=
  ∃ digits value detail chipId portId, ∃ chip port : Nat,
    faultKey.toList = '[' :: '0' :: 'x' :: digits ++ detail ++ ']' :: '_' :: chipId ++ '_' :: portId ∧
    Text.IsNumeral 16 digits value ∧ n = value ∧ '_' ∉ detail ∧ (∀ c, detail.head? = some c → c = ',') ∧
    Text.str chip = some chipId ∧ Text.str port = some portId

/-- The entry is well-formed and describes the fault. -/
inductive Describes : FaultEntry → FaultInfo → Prop
  | device {faultDevice : JsonObj} {info : FaultInfo} {code : String} :
      faultDevice.get? "fault_type" = some (.str info.faultType.value) →
      faultDevice.get? "npu_name" = some (.str info.npuName) →
      faultDevice.get? "fault_level" = some (.str info.originFaultLevel.value) →
      info.faultLevel = info.originFaultLevel.faultLevel →
      faultDevice.get? "fault_code" = some (.str code) → IsCode code.toList info.faultCode →
      Describes (.device (.obj faultDevice)) info
  | switch {faultKey : String} {faultInfoData : JsonObj} {info : FaultInfo} :
      IsKey faultKey info.faultCode → info.faultType = .nodeUnhealthy → info.npuName = "" →
      faultInfoData.get? "fault_level" = some (.str info.originFaultLevel.value) →
      info.faultLevel = info.originFaultLevel.faultLevel →
      Describes (.switch faultKey (.obj faultInfoData)) info

/-- A well-formed entry is reported as it is. Any other one removes only itself, or is one fault at most. -/
inductive Reported : List FaultEntry → List FaultInfo → Prop
  | nil : Reported [] []
  | wellFormed {entry : FaultEntry} {entries : List FaultEntry} {info : FaultInfo} {infos : List FaultInfo} :
      Describes entry info → Reported entries infos → Reported (entry :: entries) (info :: infos)
  | malformed {entry : FaultEntry} {entries : List FaultEntry} {own : Option FaultInfo} {infos : List FaultInfo} :
      (∀ info, ¬ Describes entry info) → Reported entries infos → Reported (entry :: entries) (own.toList ++ infos)

def fault : FaultEntry → Option FaultInfo
  | device faultDevice => ConfigmapParser.processSingleDeviceFault faultDevice
  | switch faultKey faultInfoData => ConfigmapParser.processSingleSwitchFault (faultKey, faultInfoData)

end FaultEntry

namespace ConfigmapSection

open ConfigmapParser

def key : ConfigmapSection → String
  | .device => "DeviceInfoCfg"
  | .switch => "SwitchInfoCfg"

def other : ConfigmapSection → ConfigmapSection
  | .device => .switch
  | .switch => .device

/-- The value at the end of a path of keys, or what stands for it where a key is absent. -/
def atPath (absent : Json) : List String → Json → Option Json
  | [], value => some value
  | key :: path, .obj items =>
    match JsonObj.get? items key with
    | none => some absent
    | some value => atPath absent path value
  | _ :: _, _ => none

/-- The entries of a fault list; what counts as false is an empty one. -/
def listEntries : Json → Option (List FaultEntry)
  | .arr faultDevices => some (faultDevices.map .device)
  | value => if value.truthy then none else some []

/-- The items of a fault map; what counts as false is an empty one. -/
def mapEntries : Json → Option (List FaultEntry)
  | .obj items => some (items.map fun item => .switch item.1 item.2)
  | value => if value.truthy then none else some []

def deviceEntries (deviceInfo : Json) : Option (List FaultEntry) :=
  (atPath (.arr []) ["DeviceInfo", "DeviceList", "huawei.com/Ascend910-Fault"] deviceInfo).bind listEntries

/-- The fault level of the whole is no list and no object. -/
def switchEntries (switchInfo : Json) : Option (List FaultEntry) :=
  match atPath .null ["FaultLevel"] switchInfo with
  | some (.arr _) => none
  | some (.obj _) => none
  | _ => (atPath (.obj []) ["FaultTimeAndLevelMap"] switchInfo).bind mapEntries

variable (loads : String → Option Json) (data : Dict String String) (sec : ConfigmapSection)

/-- The entries of a text; `none` when it is no JSON or not of the expected shape. -/
def entries (text : String) : Option (List FaultEntry) :=
  if text = "" then none
  else (loads (String.ofList (Text.strip text.toList))).bind fun value =>
    match sec with
    | .device => deviceEntries value
    | .switch => switchEntries value

/-- The faults of the section of a ConfigMap. -/
def reported : List FaultInfo := (((data.get? sec.key).bind (sec.entries loads)).getD []).filterMap FaultEntry.fault

/-- The section is present but cannot be decoded. -/
def Undecodable : Prop := ∃ text, data.get? sec.key = some text ∧ sec.entries loads text = none

end ConfigmapSection

/-! ## Runs of ConfigMap events -/

/-- A system with the faults of each section in the ConfigMap that could be decoded last. -/
structure FaultRun where
  system : FaultSystem
  recorded : ConfigmapSection → List FaultInfo := fun _ => []

namespace FaultRun

open ConfigmapParser ConfigmapSection

def Differ (s : FaultSystem) (nodeName : String) (infos : List FaultInfo) : Bool :=
  (s.faultManager.resourceMonitors.get? nodeName).any fun monitor => monitor.hasFaultInfoChanged infos

variable (loads : String → Option Json) (nodeName : String) (r : FaultRun)

instance (sec : ConfigmapSection) (data : Dict String String) : Decidable (Undecodable loads data sec) :=
  decidable_of_iff ((data.get? sec.key).any fun text => (sec.entries loads text).isNone) (by
    rw [Undecodable]
    cases data.get? sec.key <;> simp)

def step : WatchEvent (Dict String String) → FaultRun
  | .present data =>
    { system := r.system.configmapChange nodeName (.present (processConfigmapData loads data))
      recorded := fun sec => if Undecodable loads data sec then r.recorded sec else sec.reported loads data }
  | .deleted => { system := r.system.configmapChange nodeName .deleted }

theorem any_iff_exists {α : Type} {p : α → Prop} [DecidablePred p] (o : Option α) :
    o.any (fun a => decide (p a)) = true ↔ ∃ a, o = some a ∧ p a := by
  cases o <;> simp

def Has (s : FaultSystem) (info : FaultInfo) : Prop :=
  ∃ node, s.faultManager.nodes.get? nodeName = some node ∧ node.faultInfos.get? info.faultCode = some info

/-- The fault is recorded for the node from the section. -/
def RecordedFrom (sec : ConfigmapSection) (info : FaultInfo) : Prop := info ∈ r.recorded sec ∧ Has nodeName r.system info

instance (s : FaultSystem) (info : FaultInfo) : Decidable (Has nodeName s info) := decidable_of_iff _ (any_iff_exists _)

instance (sec : ConfigmapSection) (info : FaultInfo) : Decidable (r.RecordedFrom nodeName sec info) :=
  inferInstanceAs (Decidable (info ∈ r.recorded sec ∧ Has nodeName r.system info))

def Separated (s : FaultSystem) : Prop := ∃ node, s.faultManager.nodes.get? nodeName = some node ∧
  FaultSystem.isInstanceSeparated s.controller node.instanceId = true

instance (s : FaultSystem) : Decidable (Separated nodeName s) := decidable_of_iff _ (any_iff_exists _)

/-- Both sections are reported, one after the other, with each of their well-formed entries. A section that cannot be
decoded keeps its recorded faults, and with one above L2 the instance stays separated. -/
structure KeepsFaults (data : Dict String String) : Prop where
  reported : processConfigmapData loads data = reported loads data .device ++ reported loads data .switch
  wellFormed : ∀ (sec : ConfigmapSection) text entries, data.get? sec.key = some text →
    sec.entries loads text = some entries → FaultEntry.Reported entries (sec.reported loads data)
  kept : ∀ sec, Undecodable loads data sec → ∀ info, r.RecordedFrom nodeName sec info →
    Has nodeName (r.step loads nodeName (.present data)).system info
  separated : ∀ sec, Undecodable loads data sec → ∀ info, r.RecordedFrom nodeName sec info → .l2 < info.faultLevel →
    Separated nodeName r.system → Separated nodeName (r.step loads nodeName (.present data)).system

def Harmless : WatchEvent (Dict String String) → Prop
  | .present data => r.KeepsFaults loads nodeName data
  | .deleted => True

/-- Where a section cannot be decoded, the faults of the event are the cached ones, or each recorded fault of the section
has the code of the reboot or is the last one under its code in the other section. -/
def Covered : WatchEvent (Dict String String) → Prop
  | .present data => ∀ sec, Undecodable loads data sec →
    Differ r.system nodeName (sec.other.reported loads data) = true →
      ∀ info, r.RecordedFrom nodeName sec info → info.faultCode = nodeReboot ∨
        ((sec.other.reported loads data).filter fun last => last.faultCode = info.faultCode).getLast? = some info
  | .deleted => True

end FaultRun

/-! ## Well-formed entries -/

namespace FaultEntry

open ConfigmapParser

theorem ofValue_value (level : OriginFaultLevel) : OriginFaultLevel.ofValue (.str level.value) = some level := by
  cases level <;> decide

theorem mapFaultType_value (faultType : FaultType) : mapFaultType (.str faultType.value) = some faultType := by
  cases faultType <;> decide

theorem parseDeviceFaultCode_of_isCode {code : String} {n : Int} (h : IsCode code.toList n) :
    parseDeviceFaultCode (.str code) = some n := by
  obtain ⟨digits, value, hvalue, hcode, rfl⟩ := h
  rw [parseDeviceFaultCode]
  rcases hcode with hcode | hcode
  · rw [hcode, hvalue.int_eq.1]
    rfl
  · rw [hcode, hvalue.int_eq.2]
    rfl

theorem locationId_of_str {n : Nat} {part : List Char} (h : Text.str n = some part) : ∃ id, locationId part = some id := by
  rw [locationId]
  split
  · exact ⟨_, Text.int_str h⟩
  · exact ⟨_, rfl⟩

theorem underscore_not_mem_str {n : Nat} {part : List Char} (h : Text.str n = some part) : '_' ∉ part :=
  fun hmem => (nomatch Text.isDigit_of_str h '_' hmem)

theorem switchFaultCode_eq {digits detail : List Char} {value : Nat} (hvalue : Text.IsNumeral 16 digits value)
    (hdetail : ∀ c, detail.head? = some c → c = ',') :
    switchFaultCode ('[' :: (('0' :: 'x' :: digits) ++ detail) ++ [']']) = value := by
  have hplain : ∀ c ∈ '0' :: 'x' :: digits, decide (c ≠ ',') = true := by
    simp only [List.forall_mem_cons]
    refine ⟨by decide, by decide, fun c hc => decide_eq_true ?_⟩
    rintro rfl
    exact (hvalue.plain ',' hc).2.2 (by simp)
  have hcode : (('0' :: 'x' :: digits) ++ detail).takeWhile (fun c => decide (c ≠ ',')) = '0' :: 'x' :: digits := by
    rw [List.takeWhile_append_of_pos hplain]
    cases detail with
    | nil => rw [List.takeWhile_nil, List.append_nil]
    | cons c detail =>
        rw [hdetail c rfl, List.takeWhile_cons_of_neg (by simp), List.append_nil]
  have hstrip : Text.strip ('0' :: 'x' :: digits) = '0' :: 'x' :: digits :=
    hvalue.strip_append ['0', 'x'] (by
      simp only [List.forall_mem_cons]
      exact ⟨rfl, rfl, fun c hc => (nomatch hc)⟩)
  have hinner : ('[' :: (('0' :: 'x' :: digits) ++ detail) ++ [']']).tail.dropLast = ('0' :: 'x' :: digits) ++ detail := by
    rw [List.cons_append, List.tail_cons, List.dropLast_concat]
  have hlast : ('[' :: (('0' :: 'x' :: digits) ++ detail) ++ [']']).getLast? = some ']' := List.getLast?_concat
  rw [switchFaultCode, if_pos ⟨rfl, hlast⟩, List.drop_one]
  simp only [hinner, hcode, hstrip, hvalue.int_eq.2]
  rfl

theorem parseSwitchFaultKey_of_isKey {faultKey : String} {n : Int} (h : IsKey faultKey n) :
    ∃ chipId portId, parseSwitchFaultKey faultKey = some (n, chipId, portId) := by
  obtain ⟨digits, value, detail, chipId, portId, chip, port, hkey, hvalue, rfl, hdetail, hcomma, hchip, hport⟩ := h
  obtain ⟨chip, hchip'⟩ := locationId_of_str hchip
  obtain ⟨port, hport'⟩ := locationId_of_str hport
  have hcode : '_' ∉ '[' :: (('0' :: 'x' :: digits) ++ detail) ++ [']'] := by
    have hdigits : '_' ∉ digits := fun hmem => (hvalue.plain '_' hmem).2.2 (by simp)
    simp [hdetail, hdigits]
  have hparts : faultKey.toList.splitOn '_' =
      ['[' :: (('0' :: 'x' :: digits) ++ detail) ++ [']'], chipId, portId] := by
    have htext : faultKey.toList =
        ('[' :: (('0' :: 'x' :: digits) ++ detail) ++ [']']) ++ '_' :: (chipId ++ '_' :: portId) := by
      simp [hkey]
    rw [htext, List.splitOn_append_cons_self_of_not_mem hcode,
      List.splitOn_append_cons_self_of_not_mem (underscore_not_mem_str hchip),
      List.splitOn_eq_singleton (underscore_not_mem_str hport)]
  rw [parseSwitchFaultKey, hparts]
  dsimp only
  rw [hchip', hport', switchFaultCode_eq hvalue hcomma]
  exact ⟨chip, port, rfl⟩

theorem fault_of_describes {entry : FaultEntry} {info : FaultInfo} (h : Describes entry info) : entry.fault = some info := by
  cases h with
  | device htype hname hlevel hmapped hcode hnumeral =>
      simp [fault, processSingleDeviceFault, getOr, htype, hname, hlevel, hcode, parseDeviceFaultCode_of_isCode hnumeral,
        createDeviceFaultInfo, mapFaultType_value, ofValue_value, ← hmapped]
  | switch hkey htype hname hlevel hmapped =>
      obtain ⟨chipId, portId, hparse⟩ := parseSwitchFaultKey_of_isKey hkey
      simp [fault, processSingleSwitchFault, getOr, hlevel, hparse, createSwitchFaultInfo, ofValue_value, ← hmapped,
        ← htype, ← hname]

theorem reported_filterMap (entries : List FaultEntry) : Reported entries (entries.filterMap fault) := by
  induction entries with
  | nil => exact .nil
  | cons entry entries ih =>
      by_cases hwellFormed : ∃ info, Describes entry info
      · obtain ⟨info, hinfo⟩ := hwellFormed
        rw [List.filterMap_cons_some (fault_of_describes hinfo)]
        exact .wellFormed hinfo ih
      · have hsplit : (entry :: entries).filterMap fault = entry.fault.toList ++ entries.filterMap fault := by
          rw [List.filterMap_cons]
          cases entry.fault <;> rfl
        rw [hsplit]
        exact .malformed (not_exists.mp hwellFormed) ih

end FaultEntry

/-! ## The parser -/

namespace ConfigmapSection

open ConfigmapParser

variable {loads : String → Option Json} {data : Dict String String} {sec : ConfigmapSection}

theorem faultDevices_eq (deviceInfo : Json) :
    faultDevices deviceInfo = atPath (.arr []) ["DeviceInfo", "DeviceList", "huawei.com/Ascend910-Fault"] deviceInfo := by
  cases deviceInfo with
  | obj items =>
      simp only [faultDevices, getOr, atPath, Option.bind_eq_bind, Option.bind_some]
      cases JsonObj.get? items "DeviceInfo" with
      | none => rfl
      | some data =>
          cases data with
          | obj data =>
              simp only [Option.getD_some, Option.bind_some, atPath]
              cases JsonObj.get? data "DeviceList" with
              | none => rfl
              | some list =>
                  cases list with
                  | obj list =>
                      simp only [Option.getD_some, atPath]
                      cases JsonObj.get? list "huawei.com/Ascend910-Fault" <;> rfl
                  | _ => rfl
          | _ => rfl
  | _ => rfl

theorem getD_of_falsy (value : Json) : (if value.truthy = true then none else some ([] : List FaultEntry)).getD [] = [] := by
  split <;> rfl

theorem filterMap_deviceEntries (deviceInfo : Json) :
    (if !deviceInfo.truthy then []
      else
        match faultDevices deviceInfo with
        | some (.arr faultDevices) => faultDevices.filterMap processSingleDeviceFault
        | _ => []) =
      ((deviceEntries deviceInfo).getD []).filterMap FaultEntry.fault := by
  have hlist : ∀ list : Option Json, (match list with
      | some (.arr faultDevices) => faultDevices.filterMap processSingleDeviceFault
      | _ => []) = ((list.bind listEntries).getD []).filterMap FaultEntry.fault := by
    intro list
    cases list with
    | none => rfl
    | some list =>
        cases list with
        | arr entries =>
            rw [Option.bind_some, listEntries, Option.getD_some, List.filterMap_map]
            rfl
        | _ =>
            rw [Option.bind_some, listEntries, getD_of_falsy]
            · rfl
            · simp
  rw [hlist, deviceEntries, ← faultDevices_eq]
  split
  · rename_i hfalsy
    cases deviceInfo with
    | obj items =>
        cases items with
        | nil => rfl
        | cons item items => cases hfalsy
    | _ => rfl
  · rfl

theorem faultTimeLevelMap_eq (switchInfo : Json) :
    faultTimeLevelMap switchInfo =
      match atPath .null ["FaultLevel"] switchInfo with
      | some (.arr _) => none
      | some (.obj _) => none
      | _ => atPath (.obj []) ["FaultTimeAndLevelMap"] switchInfo := by
  cases switchInfo with
  | obj items =>
      have hmap : getOr (.obj items) "FaultTimeAndLevelMap" (.obj []) =
          atPath (.obj []) ["FaultTimeAndLevelMap"] (.obj items) := by
        simp only [getOr, atPath]
        cases JsonObj.get? items "FaultTimeAndLevelMap" <;> rfl
      rw [faultTimeLevelMap, hmap]
      simp only [getOr, atPath, Option.bind_eq_bind, Option.bind_some]
      cases JsonObj.get? items "FaultLevel" with
      | none => rfl
      | some level => cases level <;> rfl
  | _ => rfl

theorem filterMap_switchEntries (switchInfo : Json) :
    (if !switchInfo.truthy then []
      else
        match faultTimeLevelMap switchInfo with
        | some (.obj items) => items.filterMap processSingleSwitchFault
        | _ => []) =
      ((switchEntries switchInfo).getD []).filterMap FaultEntry.fault := by
  have hmap : ∀ map : Option Json, (match map with
      | some (.obj items) => items.filterMap processSingleSwitchFault
      | _ => []) = ((map.bind mapEntries).getD []).filterMap FaultEntry.fault := by
    intro map
    cases map with
    | none => rfl
    | some map =>
        cases map with
        | obj items =>
            rw [Option.bind_some, mapEntries, Option.getD_some, List.filterMap_map]
            rfl
        | _ =>
            rw [Option.bind_some, mapEntries, getD_of_falsy]
            · rfl
            · simp
  have hentries : switchEntries switchInfo = (faultTimeLevelMap switchInfo).bind mapEntries := by
    rw [switchEntries, faultTimeLevelMap_eq]
    cases atPath .null ["FaultLevel"] switchInfo with
    | none => rfl
    | some level => cases level <;> rfl
  rw [hmap, hentries]
  split
  · rename_i hfalsy
    cases switchInfo with
    | obj items =>
        cases items with
        | nil => decide
        | cons item items => cases hfalsy
    | _ => rfl
  · rfl

theorem processed_eq {collect : Json → List FaultInfo} {decode : Json → Option (List FaultEntry)}
    (h : ∀ value, collect value = ((decode value).getD []).filterMap FaultEntry.fault) (text : String) :
    (match parseJsonString loads text with
      | none => []
      | some value => collect value) =
      ((if text = "" then none else (loads (String.ofList (Text.strip text.toList))).bind decode).getD []).filterMap
        FaultEntry.fault := by
  rw [parseJsonString]
  by_cases hempty : text = ""
  · rw [if_pos hempty, if_pos hempty]
    rfl
  · rw [if_neg hempty, if_neg hempty]
    cases loads (String.ofList (Text.strip text.toList)) with
    | none => rfl
    | some value => exact h value

theorem processDeviceInfo_eq (text : String) :
    processDeviceInfo loads text = ((entries loads .device text).getD []).filterMap FaultEntry.fault :=
  processed_eq filterMap_deviceEntries text

theorem processSwitchInfo_eq (text : String) :
    processSwitchInfo loads text = ((entries loads .switch text).getD []).filterMap FaultEntry.fault :=
  processed_eq filterMap_switchEntries text

theorem processSection_eq {process : String → List FaultInfo}
    (h : ∀ text, process text = ((entries loads sec text).getD []).filterMap FaultEntry.fault) :
    processSection process data sec.key = sec.reported loads data := by
  rw [processSection, reported]
  cases data.get? sec.key with
  | none => rfl
  | some text =>
      dsimp only [Option.bind_some]
      split
      · rename_i hempty
        rw [hempty]
        rfl
      · exact h text

theorem processConfigmapData_eq :
    processConfigmapData loads data = reported loads data .device ++ reported loads data .switch := by
  have hdevice : processSection (processDeviceInfo loads) data "DeviceInfoCfg" = reported loads data .device :=
    processSection_eq processDeviceInfo_eq
  have hswitch : processSection (processSwitchInfo loads) data "SwitchInfoCfg" = reported loads data .switch :=
    processSection_eq processSwitchInfo_eq
  rw [processConfigmapData, hdevice, hswitch]
  split
  · rfl
  · rename_i hvalid
    have habsent : ∀ sec : ConfigmapSection, data.get? sec.key = none := by
      intro sec
      rw [isConfigmapValid, List.any_eq_true] at hvalid
      have hkey : sec.key ∈ ["DeviceInfoCfg", "SwitchInfoCfg", "ManuallySeparateNPU"] := by
        cases sec <;> decide
      have hcontains : ¬ data.contains sec.key = true := fun h => hvalid ⟨_, hkey, h⟩
      rw [Dict.contains] at hcontains
      simpa using hcontains
    rw [reported, reported, habsent, habsent]
    rfl

theorem reported_of_undecodable (h : Undecodable loads data sec) : sec.reported loads data = [] := by
  obtain ⟨text, hget, hdecode⟩ := h
  rw [reported, hget, Option.bind_some, hdecode]
  rfl

theorem processConfigmapData_of_undecodable (h : Undecodable loads data sec) :
    processConfigmapData loads data = sec.other.reported loads data := by
  rw [processConfigmapData_eq]
  cases sec with
  | device =>
      rw [reported_of_undecodable h]
      rfl
  | switch =>
      rw [reported_of_undecodable h, List.append_nil]
      rfl

end ConfigmapSection

/-! ## The records of the node -/

namespace FaultRun

open ConfigmapParser ConfigmapSection FaultSystem FaultManager

variable {loads : String → Option Json} {nodeName : String} {r : FaultRun} {s : FaultSystem} {infos : List FaultInfo}
  {info : FaultInfo} {data : Dict String String} {event : WatchEvent (Dict String String)}

theorem get?_withFaultInfos_code (node : NodeMetadata) (infos : List FaultInfo) (code : Int) :
    (node.withFaultInfos infos).faultInfos.get? code =
      (if code = nodeReboot then node.faultInfos.get? nodeReboot else none).or
        (infos.filter fun info => info.faultCode = code).getLast? := by
  rw [NodeMetadata.withFaultInfos]
  cases hget : node.faultInfos.get? nodeReboot with
  | none =>
      dsimp only
      rw [Dict.get?_update_map]
      simp
  | some reboot =>
      dsimp only
      rw [Dict.get?_set, Dict.get?_update_map]
      split <;> simp

theorem configmapChange_cases (s : FaultSystem) (nodeName : String) (infos : List FaultInfo) :
    (Differ s nodeName infos = false ∧ ∃ monitors, s.configmapChange nodeName (.present infos) = s.withMonitors monitors) ∨
    (Differ s nodeName infos = true ∧ ∃ monitors, s.configmapChange nodeName (.present infos) =
      (s.withMonitors monitors).handleFaultInfoUpdate infos nodeName) := by
  rw [Differ, configmapChange]
  cases hmonitor : s.faultManager.resourceMonitors.get? nodeName with
  | none => exact .inl ⟨rfl, s.faultManager.resourceMonitors, rfl⟩
  | some monitor =>
      dsimp only [Option.any_some]
      rw [ResourceMonitor.handleConfigmapChange]
      cases monitor.hasFaultInfoChanged infos with
      | false => exact .inl ⟨rfl, s.faultManager.resourceMonitors.set nodeName monitor, rfl⟩
      | true =>
          exact .inr ⟨rfl, s.faultManager.resourceMonitors.set nodeName { monitor with lastFaultInfos := some infos }, rfl⟩

theorem nodes_refresh (s : FaultSystem) (id : Int) :
    (s.refreshInstanceFaultLevel id).faultManager.nodes = s.faultManager.nodes := by
  rcases refresh_cases s id with ⟨-, heq⟩ | ⟨ins, ins', c, -, heq, -⟩
  · rw [heq]
  · rw [heq]
    rfl

theorem get?_updateNode (s : FaultSystem) (nodeName : String) (node : NodeMetadata) :
    (s.updateNode nodeName node).faultManager.nodes.get? nodeName = some node := by
  rw [updateNode, nodes_refresh]
  exact Dict.get?_set_self ..

theorem handleFaultInfoUpdate_eq {node : NodeMetadata} (hnode : s.faultManager.nodes.get? nodeName = some node) :
    s.handleFaultInfoUpdate infos nodeName = s.updateNode nodeName (node.withFaultInfos infos) := by
  rw [handleFaultInfoUpdate, hnode]

theorem has_configmapChange (h : Has nodeName s info) :
    Has nodeName (s.configmapChange nodeName (.present infos)) info ↔
      (Differ s nodeName infos = true → info.faultCode = nodeReboot ∨
        (infos.filter fun last => last.faultCode = info.faultCode).getLast? = some info) := by
  obtain ⟨node, hnode, hget⟩ := h
  rcases configmapChange_cases s nodeName infos with ⟨hsame, monitors, heq⟩ | ⟨hdiffer, monitors, heq⟩
  · rw [heq, hsame]
    exact ⟨(fun _ hdiffer => by cases hdiffer), fun _ => ⟨node, hnode, hget⟩⟩
  · have hnode' : (s.withMonitors monitors).faultManager.nodes.get? nodeName = some node := hnode
    rw [heq, handleFaultInfoUpdate_eq hnode', Has, hdiffer, get?_updateNode]
    simp only [Option.some.injEq, exists_eq_left', forall_const]
    rw [get?_withFaultInfos_code]
    by_cases hcode : info.faultCode = nodeReboot
    · rw [if_pos hcode, ← hcode, hget]
      exact ⟨fun _ => .inl rfl, fun _ => rfl⟩
    · rw [if_neg hcode, Option.none_or, or_iff_right hcode]

theorem separated_separateInstance {c : Controller} {id : Int} (h : isInstanceSeparated c id = true) :
    isInstanceSeparated (c.separateInstance id) id = true := by
  rw [isInstanceSeparated] at h ⊢
  rw [Controller.instances_separateInstance]
  cases hr : c.instances.get? id with
  | none =>
      rw [hr] at h
      cases h
  | some r =>
      rw [hr] at h
      dsimp only at h ⊢
      have hid : ((c.separateInstance id).obj r).id = (c.obj r).id :=
        ((Controller.managerStep_separateInstance id).form r).id
      have hforced : (c.separateInstance id).forcedSeparatedInstances =
          c.forcedSeparatedInstances.insert (c.obj r).id := by
        simp only [Controller.separateInstance, hr]
        split <;> rfl
      rw [hid, hforced, decide_eq_true_iff]
      exact List.mem_insert_self

theorem separated_configmapChange (hl2 : .l2 < info.faultLevel)
    (h : Has nodeName (s.configmapChange nodeName (.present infos)) info) (hseparated : Separated nodeName s) :
    Separated nodeName (s.configmapChange nodeName (.present infos)) := by
  obtain ⟨node, hnode, hseparated⟩ := hseparated
  rcases configmapChange_cases s nodeName infos with ⟨-, monitors, heq⟩ | ⟨-, monitors, heq⟩
  · rw [heq]
    exact ⟨node, hnode, hseparated⟩
  · have hnode' : (s.withMonitors monitors).faultManager.nodes.get? nodeName = some node := hnode
    rw [heq, handleFaultInfoUpdate_eq hnode'] at h ⊢
    refine ⟨_, get?_updateNode _ _ _, ?_⟩
    obtain ⟨node', hget, hinfo⟩ := h
    rw [get?_updateNode, Option.some.injEq] at hget
    subst hget
    have hfaulty : HasFaulty ((s.withMonitors monitors).faultManager.setNode nodeName (node.withFaultInfos infos))
        node.instanceId :=
      ⟨nodeName, _, Dict.get?_set_self .., rfl, info, Dict.mem_values_iff.mpr ⟨_, hinfo⟩, hl2⟩
    rw [updateNode]
    rcases refresh_cases ⟨(s.withMonitors monitors).controller,
      (s.withMonitors monitors).faultManager.setNode nodeName (node.withFaultInfos infos)⟩
        (node.withFaultInfos infos).instanceId with ⟨-, hrefresh⟩ | ⟨ins, ins', c, -, hrefresh, -, hcase⟩
    · rw [hrefresh]
      exact hseparated
    · rw [hrefresh]
      rcases hcase with ⟨-, -, rfl⟩ | ⟨hnot, -⟩
      · exact separated_separateInstance hseparated
      · exact absurd hfaulty hnot

/-! ## Runs -/

theorem keepsFaults_iff : r.KeepsFaults loads nodeName data ↔ r.Covered loads nodeName (.present data) := by
  constructor
  · intro h sec hsec hdiffer info hinfo
    have hkept := (has_configmapChange hinfo.2).mp (h.kept sec hsec info hinfo)
    rw [processConfigmapData_of_undecodable hsec] at hkept
    exact hkept hdiffer
  · intro h
    have hkept : ∀ sec, Undecodable loads data sec → ∀ info, r.RecordedFrom nodeName sec info →
        Has nodeName (r.step loads nodeName (.present data)).system info := by
      intro sec hsec info hinfo
      refine (has_configmapChange hinfo.2).mpr ?_
      rw [processConfigmapData_of_undecodable hsec]
      exact fun hdiffer => h sec hsec hdiffer info hinfo
    have hwellFormed : ∀ (sec : ConfigmapSection) text entries, data.get? sec.key = some text →
        sec.entries loads text = some entries → FaultEntry.Reported entries (sec.reported loads data) := by
      intro sec text entries htext hentries
      rw [ConfigmapSection.reported, htext, Option.bind_some, hentries]
      exact FaultEntry.reported_filterMap entries
    exact ⟨processConfigmapData_eq, hwellFormed, hkept, fun sec hsec info hinfo hl2 hseparated =>
      separated_configmapChange hl2 (hkept sec hsec info hinfo) hseparated⟩

/-- Malformed data never clears a fault along exactly the runs in which a section that cannot be decoded comes with the
cached faults, or with its recorded faults in the other section. -/
theorem harmless_iff (loads : String → Option Json) (nodeName : String) (r : FaultRun)
    (events : List (WatchEvent (Dict String String))) :
    Along (step loads nodeName) (Harmless loads nodeName) r events ↔
      Along (step loads nodeName) (Covered loads nodeName) r events := by
  have hiff : ∀ (r : FaultRun) (event : WatchEvent (Dict String String)),
      r.Harmless loads nodeName event ↔ r.Covered loads nodeName event := by
    intro r event
    cases event with
    | present data => exact keepsFaults_iff
    | deleted => exact Iff.rfl
  exact ⟨Along.mono fun r event => (hiff r event).mp, Along.mono fun r event => (hiff r event).mpr⟩

def faultyCard : String :=
  "\x7b\"DeviceInfo\":\x7b\"DeviceList\":\x7b\"huawei.com/Ascend910-Fault\":[\x7b\"fault_type\":\"CardUnhealthy\",\"npu_name\":" ++
    "\"Ascend910-0\",\"fault_level\":\"SeparateNPU\",\"fault_code\":\"80CB8002\"\x7d]\x7d\x7d\x7d"

def testLoads (text : String) : Option Json :=
  if text = faultyCard then
    some (.obj [("DeviceInfo", .obj [("DeviceList", .obj [("huawei.com/Ascend910-Fault",
      .arr [.obj [("fault_type", .str "CardUnhealthy"), ("npu_name", .str "Ascend910-0"),
        ("fault_level", .str "SeparateNPU"), ("fault_code", .str "80CB8002")]])])])])
  else none

def testInfo : FaultInfo :=
  { faultType := .cardUnhealthy
    npuName := "Ascend910-0"
    faultCode := 0x80CB8002
    faultLevel := .l6
    originFaultLevel := .separateNpu }

def decodeOnNode : FaultSystem :=
  FaultSystem.step (fun podIp => podIp) (FaultSystem.start {})
    (.addInstance 0 { id := 1, role := "decode", nodeManagers := [{ podIp := "n", port := "1026" }] } fun _ => true)

def deviceInfoCfg (text : String) : WatchEvent (Dict String String) := .present (Dict.empty.set "DeviceInfoCfg" text)

theorem reported_faultyCard :
    reported testLoads (Dict.empty.set "DeviceInfoCfg" faultyCard) .device = [testInfo] := by decide +kernel

theorem processConfigmapData_faultyCard :
    processConfigmapData testLoads (Dict.empty.set "DeviceInfoCfg" faultyCard) = [testInfo] := by
  rw [processConfigmapData_eq, reported_faultyCard]
  rfl

def separatedRun : FaultRun where
  system := decodeOnNode.configmapChange "n" (.present [testInfo])
  recorded sec := if sec = .device then [testInfo] else []

theorem step_faultyCard : step testLoads "n" { system := decodeOnNode } (deviceInfoCfg faultyCard) = separatedRun := by
  have hdecoded : ∀ sec, ¬ Undecodable testLoads (Dict.empty.set "DeviceInfoCfg" faultyCard) sec := by
    intro sec
    cases sec <;> decide +kernel
  have hrecorded : (fun sec => if Undecodable testLoads (Dict.empty.set "DeviceInfoCfg" faultyCard) sec then []
      else reported testLoads (Dict.empty.set "DeviceInfoCfg" faultyCard) sec) = separatedRun.recorded := by
    funext sec
    rw [if_neg (hdecoded sec)]
    cases sec with
    | device => exact reported_faultyCard
    | switch => rfl
  rw [deviceInfoCfg, step, processConfigmapData_faultyCard, hrecorded]
  rfl

/-- A truncated text recovers an instance that a fault of the card has separated. -/
theorem truncated_recovers : ¬ Along (step testLoads "n") (Harmless testLoads "n") { system := decodeOnNode }
    [deviceInfoCfg faultyCard, deviceInfoCfg "\x7b\"DeviceInfo\":"] := by
  intro h
  have hsecond := h.2.1
  rw [step_faultyCard] at hsecond
  have hseparated := hsecond.separated .device ⟨_, rfl, by decide⟩ testInfo (by decide) (by decide)
    (by decide)
  revert hseparated
  decide

end FaultRun

end PyMotor
