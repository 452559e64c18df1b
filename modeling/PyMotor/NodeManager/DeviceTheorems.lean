import PyMotor.Controller.Lemmas.Ranks
import PyMotor.Lib.Lists
import PyMotor.NodeManager.Config

/-!
# The visible devices of a pod

With as many endpoints as the configuration allows, the devices of the last endpoint end within the pod: the daemon's
range never wraps around, and it is the one that the controller writes into the endpoint.
-/

namespace PyMotor

open Lib

namespace NodeManagerConfig

variable {config config' : NodeManagerConfig}

theorem generateEndpointPorts_multi (hmulti : config.enableMultiEndpoints = true)
    (h : config.generateEndpointPorts = .ok config') :
    1 ≤ config.parallelConfig.dpSize ∧ config' = config.setPorts
      (min config.parallelConfig.dpSize (config.deviceNum.fdiv config.parallelConfig.devicesPerDp)) := by
  simp only [generateEndpointPorts, hmulti, true_and, if_true] at h
  split at h
  · cases h
  · rename_i hvalid
    split at h
    · cases h
    · cases h
      exact ⟨by omega, rfl⟩

theorem length_portList (basePort shift endpointNum : Int) :
    (portList basePort shift endpointNum).length = endpointNum.toNat := by
  simp [portList, length_intRange]

end NodeManagerConfig

namespace Daemon

variable {daemon : Daemon} {i j n : Int}

theorem visibleDeviceIds_eq (hw : 0 < daemon.parallelConfig.devicesPerDp) (hi : 0 ≤ i)
    (hfit : i * daemon.parallelConfig.devicesPerDp + daemon.parallelConfig.devicesPerDp ≤ n) :
    daemon.visibleDeviceIds i n = .ok ((Int.range (i * daemon.parallelConfig.devicesPerDp)
      (i * daemon.parallelConfig.devicesPerDp + daemon.parallelConfig.devicesPerDp)).map
        fun x => x + daemon.deviceOffset.getD 0) := by
  have hstart : 0 ≤ i * daemon.parallelConfig.devicesPerDp := mul_nonneg hi hw.le
  have hmod : (i * daemon.parallelConfig.devicesPerDp).fmod n = i * daemon.parallelConfig.devicesPerDp := by
    rw [Int.fmod_eq_emod_of_nonneg _ (by omega)]
    exact Int.emod_eq_of_lt hstart (by omega)
  simp only [visibleDeviceIds, hmod, if_neg (by omega : n ≠ 0), if_neg (not_lt.mpr hfit)]

theorem visibleDeviceIds_none (hoffset : daemon.deviceOffset = none) (hw : 0 < daemon.parallelConfig.devicesPerDp)
    (hi : 0 ≤ i) (hfit : i * daemon.parallelConfig.devicesPerDp + daemon.parallelConfig.devicesPerDp ≤ n) :
    daemon.visibleDeviceIds i n = .ok (Int.range (i * daemon.parallelConfig.devicesPerDp)
      (i * daemon.parallelConfig.devicesPerDp + daemon.parallelConfig.devicesPerDp)) := by
  simp [visibleDeviceIds_eq hw hi hfit, hoffset]

theorem calcVisibleDeviceIds_ok {deviceIds : List Int} (h : daemon.visibleDeviceIds i n = .ok deviceIds) :
    daemon.calcVisibleDeviceIds i n = .ok (",".intercalate (deviceIds.map toString)) := by
  simp [calcVisibleDeviceIds, h]

/-- The ids of every endpoint are distinct devices of the pod, and no device is visible to two endpoints. -/
structure Partitions (daemon : Daemon) (endpointNum deviceNum : Int) : Prop where
  visible : ∀ i, 0 ≤ i → i < endpointNum → ∃ deviceIds, daemon.visibleDeviceIds i deviceNum = .ok deviceIds ∧
    (deviceIds.length : Int) = daemon.parallelConfig.tpSize * daemon.parallelConfig.ppSize ∧ deviceIds.Nodup ∧
    ∀ x ∈ deviceIds, daemon.deviceOffset.getD 0 ≤ x ∧ x < daemon.deviceOffset.getD 0 + deviceNum
  disjoint : ∀ i j deviceIds deviceIds', 0 ≤ i → i < endpointNum → 0 ≤ j → j < endpointNum → i ≠ j →
    daemon.visibleDeviceIds i deviceNum = .ok deviceIds → daemon.visibleDeviceIds j deviceNum = .ok deviceIds' →
    deviceIds.Disjoint deviceIds'

theorem partitions_of_le {endpointNum : Int} (hw : 0 < daemon.parallelConfig.devicesPerDp)
    (hfit : endpointNum * daemon.parallelConfig.devicesPerDp ≤ n) : daemon.Partitions endpointNum n := by
  have hend : ∀ i, i < endpointNum →
      i * daemon.parallelConfig.devicesPerDp + daemon.parallelConfig.devicesPerDp ≤ n :=
    fun i hi => (block_end_le hi hw.le).trans hfit
  constructor
  · intro i hi hlt
    have hstart : 0 ≤ i * daemon.parallelConfig.devicesPerDp := mul_nonneg hi hw.le
    refine ⟨_, visibleDeviceIds_eq hw hi (hend i hlt), ?_, ?_, ?_⟩
    · rw [List.length_map, length_intRange, add_sub_cancel_left, Int.toNat_of_nonneg hw.le]
      rfl
    · exact (nodup_intRange _ _).map fun x y h => by simpa using h
    · intro x hx
      obtain ⟨y, hy, rfl⟩ := List.mem_map.mp hx
      obtain ⟨hle, hylt⟩ := Int.mem_range_iff.mp hy
      have hin := hend i hlt
      constructor <;> omega
  · intro i j deviceIds deviceIds' hi hilt hj hjlt hne hids hids' x hx hx'
    rw [visibleDeviceIds_eq hw hi (hend i hilt)] at hids
    rw [visibleDeviceIds_eq hw hj (hend j hjlt)] at hids'
    cases hids
    cases hids'
    obtain ⟨y, hy, rfl⟩ := List.mem_map.mp hx
    obtain ⟨y', hy', he⟩ := List.mem_map.mp hx'
    have heq : y' = y := by omega
    subst heq
    exact Set.disjoint_left.mp (block_disjoint hw.le hne) (Int.mem_range_iff.mp hy) (Int.mem_range_iff.mp hy')

/-- The devices of every endpoint that the controller builds from the node manager's message are those that are visible
to its engine. -/
def Agrees (daemon : Daemon) (config : NodeManagerConfig) : Prop :=
  ∀ jobName modelName podIp timestamp idOffset, ∃ eps,
    (config.genRegisterMsg jobName modelName podIp none).buildMultiEndpoints timestamp idOffset = .ok eps ∧
    ∀ i, 0 ≤ i → i < config.endpointNum → ∃ ep deviceIds, eps.get? i = some ep ∧
      daemon.visibleDeviceIds i config.deviceNum = .ok deviceIds ∧
      ep.deviceInfos.map (·.deviceId) = deviceIds.map toString ∧
      daemon.calcVisibleDeviceIds i config.deviceNum = .ok (",".intercalate (ep.deviceInfos.map (·.deviceId)))

end Daemon

namespace NodeManagerConfig

variable {config config' : NodeManagerConfig}

theorem agrees_of_ports {endpointNum : Int} (hw : 0 < config.parallelConfig.devicesPerDp)
    (hfit : endpointNum * config.parallelConfig.devicesPerDp ≤ config.deviceNum) (hn : 0 ≤ endpointNum)
    (hoffset : (Daemon.ofConfig (config.setPorts endpointNum)).deviceOffset = none) :
    (Daemon.ofConfig (config.setPorts endpointNum)).Agrees (config.setPorts endpointNum) := by
  intro jobName modelName podIp timestamp idOffset
  have hd : 0 ≤ config.deviceNum := (mul_nonneg hn hw.le).trans hfit
  obtain ⟨w, hwn⟩ := Int.eq_ofNat_of_zero_le hw.le
  obtain ⟨d, hdn⟩ := Int.eq_ofNat_of_zero_le hd
  obtain ⟨n, rfl⟩ := Int.eq_ofNat_of_zero_le hn
  let msg := (config.setPorts (n : Int)).genRegisterMsg jobName modelName podIp none
  have hcount : msg.endpointCount d w = n := by
    have hbusiness : msg.businessPort.length = n := by simp [msg, genRegisterMsg, setPorts, length_portList]
    rw [RegisterMsg.endpointCount, hbusiness]
    refine min_eq_left ((Nat.le_div_iff_mul_le (by omega)).mpr ?_)
    rw [hwn, hdn] at hfit
    exact_mod_cast hfit
  have hbuilt : ∃ eps, msg.buildMultiEndpoints timestamp idOffset = .ok eps ∧
      RegisterMsg.deviceEntries eps = (List.range (msg.endpointCount d w)).map (msg.portDevices idOffset) := by
    have hwidth : msg.devicesPerEndpoint = w := hwn
    refine RegisterMsg.buildMultiEndpoints_devices rfl hwidth (by omega) hdn ?_ timestamp idOffset
    rw [hcount]
    simp [msg, genRegisterMsg, setPorts, length_portList]
  obtain ⟨eps, hok, hdevices⟩ := hbuilt
  refine ⟨eps, hok, fun i hi hlt => ?_⟩
  obtain ⟨k, rfl⟩ := Int.eq_ofNat_of_zero_le hi
  replace hlt : (k : Int) < n := hlt
  have hk : msg.portDevices idOffset k ∈ RegisterMsg.deviceEntries eps := by
    rw [hdevices, hcount]
    exact List.mem_map_of_mem (List.mem_range.mpr (by omega))
  obtain ⟨⟨key, ep⟩, hep, he⟩ := List.mem_map.mp hk
  simp only [RegisterMsg.portDevices, Prod.mk.injEq] at he
  obtain ⟨rfl, hinfos⟩ := he
  have hend : (k : Int) * config.parallelConfig.devicesPerDp + config.parallelConfig.devicesPerDp ≤
      config.deviceNum := (block_end_le hlt hw.le).trans hfit
  have hvisible : (Daemon.ofConfig (config.setPorts (n : Int))).visibleDeviceIds k config.deviceNum =
      .ok (Int.range (k * config.parallelConfig.devicesPerDp)
        (k * config.parallelConfig.devicesPerDp + config.parallelConfig.devicesPerDp)) :=
    Daemon.visibleDeviceIds_none hoffset hw hi hend
  have hids : ep.deviceInfos.map (·.deviceId) = (Int.range (k * config.parallelConfig.devicesPerDp)
      (k * config.parallelConfig.devicesPerDp + config.parallelConfig.devicesPerDp)).map toString := by
    rw [hinfos, RegisterMsg.map_deviceId, mul_comm msg.devicesPerEndpoint]
    rfl
  refine ⟨ep, _, Dict.get?_eq_some_iff.mpr hep, hvisible, hids, ?_⟩
  rw [hids]
  exact Daemon.calcVisibleDeviceIds_ok hvisible

/-- For every pod in multi-endpoint mode. -/
theorem visible_devices (hmulti : config.enableMultiEndpoints = true) (hdevices : 1 ≤ config.deviceNum)
    (htp : 1 ≤ config.parallelConfig.tpSize) (hpp : 1 ≤ config.parallelConfig.ppSize)
    (h : config.generateEndpointPorts = .ok config') :
    (Daemon.ofConfig config').Partitions config'.endpointNum config'.deviceNum ∧
      ((Daemon.ofConfig config').deviceOffset = none → (Daemon.ofConfig config').Agrees config') := by
  have hw : 0 < config.parallelConfig.devicesPerDp := mul_pos (by omega) (by omega)
  obtain ⟨hdp, rfl⟩ := generateEndpointPorts_multi hmulti h
  have hdiv : config.deviceNum.fdiv config.parallelConfig.devicesPerDp * config.parallelConfig.devicesPerDp ≤
      config.deviceNum := by
    rw [Int.fdiv_eq_ediv_of_nonneg _ hw.le]
    exact Int.ediv_mul_le _ hw.ne'
  have hfit := (mul_le_mul_of_nonneg_right (min_le_right config.parallelConfig.dpSize
    (config.deviceNum.fdiv config.parallelConfig.devicesPerDp)) hw.le).trans hdiv
  have hn : 0 ≤ min config.parallelConfig.dpSize (config.deviceNum.fdiv config.parallelConfig.devicesPerDp) := by
    rw [Int.fdiv_eq_ediv_of_nonneg _ hw.le]
    exact le_min (by omega) (Int.ediv_nonneg (by omega) hw.le)
  exact ⟨Daemon.partitions_of_le hw hfit, agrees_of_ports hw hfit hn⟩

def eightDevices : NodeManagerConfig where
  parallelConfig := .ofSizes 4 2
  deviceNum := 8

theorem visible_devices_eightDevices :
    (Daemon.ofConfig (eightDevices.setPorts 4)).Partitions 4 8 ∧
      ((Daemon.ofConfig (eightDevices.setPorts 4)).deviceOffset = none →
        (Daemon.ofConfig (eightDevices.setPorts 4)).Agrees (eightDevices.setPorts 4)) :=
  @visible_devices eightDevices _ rfl (by decide) (by decide) (by decide) rfl

end NodeManagerConfig

end PyMotor
