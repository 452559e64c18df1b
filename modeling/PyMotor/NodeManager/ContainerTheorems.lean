import PyMotor.Lib.Lists
import PyMotor.Lib.Text
import PyMotor.NodeManager.Config

/-!
# Several instances in one container

Ports and devices of the instances are offsets of one base each. The port offsets of the prefill instances are counted
in steps of the decode side's dp size.
-/

namespace PyMotor

open Lib

/-- An instance of a container by role and index. -/
inductive ContainerInstance
  | prefill (index : Nat)
  | decode (index : Nat)
deriving DecidableEq

namespace ContainerInstance

def env : ContainerInstance → Env
  | .prefill index => { role := some "prefill", index := some (index : Int) }
  | .decode index => { role := some "decode", index := some (index : Int) }

def Within (user : UserConfig) : ContainerInstance → Prop
  | .prefill index => (index : Int) < user.pInstancesNum
  | .decode index => (index : Int) < user.dInstancesNum

instance (user : UserConfig) : (ins : ContainerInstance) → Decidable (ins.Within user)
  | .prefill index => inferInstanceAs (Decidable ((index : Int) < user.pInstancesNum))
  | .decode index => inferInstanceAs (Decidable ((index : Int) < user.dInstancesNum))

end ContainerInstance

namespace NodeManagerConfig

def deviceRange (config : NodeManagerConfig) : Set Int :=
  let single := config.singleContainerConfig
  Set.Ico (single.deviceOffset.getD 0) (single.deviceOffset.getD 0 + single.deviceNum.getD 0)

def kvPortRange (config : NodeManagerConfig) : Set Int :=
  match config.singleContainerConfig.kvPort with
  | none => ∅
  | some kvPort => Set.Ico kvPort (kvPort + config.singleContainerConfig.deviceNum.getD 0)

/-- Two instances that share no port and no device. -/
structure Apart (config config' : NodeManagerConfig) : Prop where
  nodeManagerPort : config.nodeManagerPort ≠ config'.nodeManagerPort
  ports : (config.servicePorts ++ config.mgmtPorts).Disjoint (config'.servicePorts ++ config'.mgmtPorts)
  devices : Disjoint config.deviceRange config'.deviceRange
  kvPorts : Disjoint config.kvPortRange config'.kvPortRange
  lookupRpcPort : ∀ port ∈ config.singleContainerConfig.lookupRpcPort,
    ∀ port' ∈ config'.singleContainerConfig.lookupRpcPort, port ≠ port'
  dpRpcPort : ∀ port ∈ config.singleContainerConfig.dpRpcPort,
    ∀ port' ∈ config'.singleContainerConfig.dpRpcPort, port ≠ port'

end NodeManagerConfig

namespace UserConfig

/-- All instances in one container, with positive sizes, in multi-endpoint mode, and with one base for the ports of both
roles. -/
structure SingleContainer (user : UserConfig) : Prop where
  deployMode : user.deployMode = "pd_disaggregation_single_container"
  pInstancesNum : 0 ≤ user.pInstancesNum
  dInstancesNum : 0 ≤ user.dInstancesNum
  positive : ∀ engine ∈ [user.prefill, user.decode], 0 < engine.parallelConfig.dpSize ∧
    0 < engine.parallelConfig.tpSize ∧ 0 < engine.parallelConfig.ppSize
  world : ∀ engine ∈ [user.prefill, user.decode], engine.parallelConfig.worldSize = engine.parallelConfig.sizes ∧
    engine.enableMultiEndpoints = true
  nodeManagerPort : user.decode.nodeManagerPort = user.prefill.nodeManagerPort
  basePort : user.decode.basePort = user.prefill.basePort

/-- The instances are loaded, no two of them share a port or a device, and together they have the devices from 0 on. -/
structure Separate (user : UserConfig) : Prop where
  loads : ∀ ins : ContainerInstance, ins.Within user → ∃ config, NodeManagerConfig.load ins.env user = .ok config
  apart : ∀ (ins ins' : ContainerInstance) (config config' : NodeManagerConfig), ins.Within user → ins'.Within user →
    ins ≠ ins' → NodeManagerConfig.load ins.env user = .ok config → NodeManagerConfig.load ins'.env user = .ok config' →
    config.Apart config'
  devices : ∀ x, 0 ≤ x ∧ x < user.pInstancesNum * user.prefill.parallelConfig.sizes +
      user.dInstancesNum * user.decode.parallelConfig.sizes ↔
    ∃ (ins : ContainerInstance) (config : NodeManagerConfig), ins.Within user ∧
      NodeManagerConfig.load ins.env user = .ok config ∧ x ∈ config.deviceRange

end UserConfig

/-! ## The loaded configuration -/

namespace NodeManagerConfig

variable {config : NodeManagerConfig} {base base' n n' : Int}

theorem mem_ports_iff {port : String} :
    port ∈ portList base 0 n ++ portList base 1 n ↔ ∃ p ∈ Set.Ico base (base + 2 * n), port = toString p := by
  simp only [portList, List.mem_append, List.mem_map, Int.mem_range_iff, Set.mem_Ico]
  constructor
  · rintro (⟨i, ⟨hi, hlt⟩, rfl⟩ | ⟨i, ⟨hi, hlt⟩, rfl⟩)
    · exact ⟨base + i * 2 + 0, by omega, rfl⟩
    · exact ⟨base + i * 2 + 1, by omega, rfl⟩
  · rintro ⟨p, ⟨hle, hlt⟩, rfl⟩
    obtain ⟨k, hk | hk⟩ := Int.even_or_odd' (p - base)
    · exact Or.inl ⟨k, by omega, by congr 1; omega⟩
    · exact Or.inr ⟨k, by omega, by congr 1; omega⟩

theorem disjoint_ports_iff :
    (portList base 0 n ++ portList base 1 n).Disjoint (portList base' 0 n' ++ portList base' 1 n') ↔
      Disjoint (Set.Ico base (base + 2 * n)) (Set.Ico base' (base' + 2 * n')) := by
  rw [Set.disjoint_left]
  constructor
  · intro h p hp hp'
    exact h (mem_ports_iff.mpr ⟨p, hp, rfl⟩) (mem_ports_iff.mpr ⟨p, hp', rfl⟩)
  · intro h port hport hport'
    obtain ⟨p, hp, rfl⟩ := mem_ports_iff.mp hport
    obtain ⟨p', hp', he⟩ := mem_ports_iff.mp hport'
    exact h hp (Text.toString_injective he ▸ hp')

theorem setDeviceCount_single (env : Env) (user : UserConfig)
    (hflag : config.singleContainerConfig.singleContainerFlag = true) (hmulti : config.enableMultiEndpoints = true)
    (hworld : config.parallelConfig.worldSize = config.parallelConfig.sizes)
    (hdp : 0 < config.parallelConfig.dpSize) (hw : 0 < config.parallelConfig.devicesPerDp) :
    config.setDeviceCountFromConfig env user =
      { config with deviceNum := config.parallelConfig.sizes }.setPorts config.parallelConfig.dpSize := by
  have hsizes : config.parallelConfig.sizes = config.parallelConfig.dpSize * config.parallelConfig.devicesPerDp :=
    mul_assoc ..
  have hpos : 0 < config.parallelConfig.sizes := hsizes ▸ mul_pos hdp hw
  have hcount : config.setDeviceCountForSingleContainer = { config with deviceNum := config.parallelConfig.sizes } := by
    rw [setDeviceCountForSingleContainer, hworld, if_pos hpos]
  have henough : config.parallelConfig.devicesPerDp ≤ config.parallelConfig.sizes := by
    rw [hsizes]
    exact le_mul_of_one_le_left hw.le hdp
  have hdiv : config.parallelConfig.sizes.fdiv config.parallelConfig.devicesPerDp = config.parallelConfig.dpSize := by
    rw [hsizes]
    exact Int.mul_fdiv_cancel _ hw.ne'
  have hvalid : ¬ (config.parallelConfig.sizes < config.parallelConfig.devicesPerDp ∨
      config.parallelConfig.dpSize < 1) := by omega
  simp [setDeviceCountFromConfig, hflag, hcount, generateEndpointPorts, hmulti, hvalid, hw.ne', hdiv, setPorts]

end NodeManagerConfig

/-! ## The offsets of an instance -/

def KvTransferConfig.kvPort : KvTransferConfig → Int
  | .multiConnector kvPort _ => kvPort
  | .connector kvPort => kvPort

def KvTransferConfig.lookupRpcPort : KvTransferConfig → Option Int
  | .multiConnector _ lookupRpcPort => some lookupRpcPort
  | .connector _ => none

namespace ContainerInstance

variable {user : UserConfig} {config config' : NodeManagerConfig}

def engine (user : UserConfig) : ContainerInstance → EngineConfig
  | .prefill _ => user.prefill
  | .decode _ => user.decode

def nodeManagerOffset (user : UserConfig) : ContainerInstance → Int
  | .prefill i => i
  | .decode j => user.pInstancesNum * user.prefill.parallelConfig.dpSize + j

def portOffset (user : UserConfig) : ContainerInstance → Int
  | .prefill i => i * user.decode.parallelConfig.dpSize * 2
  | .decode j => (user.pInstancesNum * user.prefill.parallelConfig.dpSize + j * user.decode.parallelConfig.dpSize) * 2

def deviceOffset (user : UserConfig) : ContainerInstance → Int
  | .prefill i => i * user.prefill.parallelConfig.sizes
  | .decode j => user.pInstancesNum * user.prefill.parallelConfig.sizes + j * user.decode.parallelConfig.sizes

def rpcOffset (user : UserConfig) : ContainerInstance → Int
  | .prefill i => i
  | .decode j => user.pInstancesNum + j

def portRange (user : UserConfig) (ins : ContainerInstance) : Set Int :=
  Set.Ico (user.prefill.basePort + ins.portOffset user)
    (user.prefill.basePort + ins.portOffset user + 2 * (ins.engine user).parallelConfig.dpSize)

def devices (user : UserConfig) (ins : ContainerInstance) : Set Int :=
  Set.Ico (ins.deviceOffset user) (ins.deviceOffset user + (ins.engine user).parallelConfig.sizes)

def single (user : UserConfig) (ins : ContainerInstance) : SingleContainerNodemanagerConfig :=
  { ({ singleContainerFlag := true
       nodeManagerPortOffset := some (ins.nodeManagerOffset user)
       basePortOffset := some (ins.portOffset user)
       deviceOffset := some (ins.deviceOffset user)
       deviceNum := some (ins.engine user).parallelConfig.sizes } : SingleContainerNodemanagerConfig).setKvPorts
      user.prefill.kvTransferConfig (ins.deviceOffset user) (ins.rpcOffset user) with
    dpRpcPort := some (user.prefill.dpRpcPort + ins.rpcOffset user) }

theorem fromJson_env (h : user.SingleContainer) (ins : ContainerInstance) :
    SingleContainerNodemanagerConfig.fromJson ins.env user = ins.single user := by
  cases ins with
  | prefill i =>
      simp [SingleContainerNodemanagerConfig.fromJson, env, h.deployMode, single, nodeManagerOffset, portOffset,
        deviceOffset, rpcOffset, engine, ParallelConfig.sizes, mul_assoc]
  | decode j =>
      simp [SingleContainerNodemanagerConfig.fromJson, env, h.deployMode, single, nodeManagerOffset, portOffset,
        deviceOffset, rpcOffset, engine, ParallelConfig.sizes, mul_assoc]

/-- What a configuration has from the offsets. -/
structure Placed (user : UserConfig) (ins : ContainerInstance) (config : NodeManagerConfig) : Prop where
  nodeManagerPort : config.nodeManagerPort = user.prefill.nodeManagerPort + ins.nodeManagerOffset user
  servicePorts : config.servicePorts = NodeManagerConfig.portList (user.prefill.basePort + ins.portOffset user) 0
    (ins.engine user).parallelConfig.dpSize
  mgmtPorts : config.mgmtPorts = NodeManagerConfig.portList (user.prefill.basePort + ins.portOffset user) 1
    (ins.engine user).parallelConfig.dpSize
  single : config.singleContainerConfig = ins.single user

@[simp] theorem single_flag (ins : ContainerInstance) : (ins.single user).singleContainerFlag = true := by
  unfold single SingleContainerNodemanagerConfig.setKvPorts
  split <;> rfl

@[simp] theorem single_nodeManagerPortOffset (ins : ContainerInstance) :
    (ins.single user).nodeManagerPortOffset = some (ins.nodeManagerOffset user) := by
  unfold single SingleContainerNodemanagerConfig.setKvPorts
  split <;> rfl

@[simp] theorem single_basePortOffset (ins : ContainerInstance) :
    (ins.single user).basePortOffset = some (ins.portOffset user) := by
  unfold single SingleContainerNodemanagerConfig.setKvPorts
  split <;> rfl

@[simp] theorem single_deviceOffset (ins : ContainerInstance) :
    (ins.single user).deviceOffset = some (ins.deviceOffset user) := by
  unfold single SingleContainerNodemanagerConfig.setKvPorts
  split <;> rfl

@[simp] theorem single_deviceNum (ins : ContainerInstance) :
    (ins.single user).deviceNum = some (ins.engine user).parallelConfig.sizes := by
  unfold single SingleContainerNodemanagerConfig.setKvPorts
  split <;> rfl

@[simp] theorem single_kvPort (ins : ContainerInstance) :
    (ins.single user).kvPort = user.prefill.kvTransferConfig.map fun kv => kv.kvPort + ins.deviceOffset user := by
  cases hkv : user.prefill.kvTransferConfig with
  | none => simp [single, SingleContainerNodemanagerConfig.setKvPorts, hkv]
  | some kv => cases kv <;> simp [single, SingleContainerNodemanagerConfig.setKvPorts, hkv, KvTransferConfig.kvPort]

@[simp] theorem single_lookupRpcPort (ins : ContainerInstance) : (ins.single user).lookupRpcPort =
    (user.prefill.kvTransferConfig.bind KvTransferConfig.lookupRpcPort).map fun port => port + ins.rpcOffset user := by
  cases hkv : user.prefill.kvTransferConfig with
  | none => simp [single, SingleContainerNodemanagerConfig.setKvPorts, hkv]
  | some kv => cases kv <;> simp [single, SingleContainerNodemanagerConfig.setKvPorts, hkv,
      KvTransferConfig.lookupRpcPort]

@[simp] theorem single_dpRpcPort (ins : ContainerInstance) :
    (ins.single user).dpRpcPort = some (user.prefill.dpRpcPort + ins.rpcOffset user) := rfl

theorem engine_mem (ins : ContainerInstance) : ins.engine user ∈ [user.prefill, user.decode] := by
  cases ins <;> simp [engine]

theorem devicesPerDp_pos (h : user.SingleContainer) (ins : ContainerInstance) :
    0 < (ins.engine user).parallelConfig.devicesPerDp :=
  mul_pos (h.positive _ ins.engine_mem).2.1 (h.positive _ ins.engine_mem).2.2

theorem sizes_pos (h : user.SingleContainer) (ins : ContainerInstance) :
    0 < (ins.engine user).parallelConfig.sizes := by
  obtain ⟨hdp, htp, hpp⟩ := h.positive _ ins.engine_mem
  exact mul_pos (mul_pos hdp htp) hpp

theorem updateFromConfigData_eq (h : user.SingleContainer) (ins : ContainerInstance) :
    ∃ role, NodeManagerConfig.updateFromConfigData ins.env user = .ok
      { nodeManagerPort := user.prefill.nodeManagerPort + ins.nodeManagerOffset user
        basePort := user.prefill.basePort + ins.portOffset user
        role := role
        parallelConfig := (ins.engine user).parallelConfig
        singleContainerConfig := ins.single user } := by
  have hmulti := fun engine he => (h.world engine he).2
  simp only [List.mem_cons, List.not_mem_nil, or_false, forall_eq_or_imp, forall_eq] at hmulti
  cases ins with
  | prefill i =>
      refine ⟨.roleP, ?_⟩
      simp only [NodeManagerConfig.updateFromConfigData, fromJson_env h]
      simp [NodeManagerConfig.engineConfig, env, engine, PDRole.ofString?, hmulti.1]
  | decode j =>
      refine ⟨.roleD, ?_⟩
      simp only [NodeManagerConfig.updateFromConfigData, fromJson_env h]
      simp [NodeManagerConfig.engineConfig, env, engine, PDRole.ofString?, hmulti.2, h.nodeManagerPort, h.basePort]

theorem load_placed (h : user.SingleContainer) (ins : ContainerInstance) :
    ∃ config, NodeManagerConfig.load ins.env user = .ok config ∧ Placed user ins config := by
  obtain ⟨role, hupdate⟩ := updateFromConfigData_eq h ins
  refine ⟨_, by rw [NodeManagerConfig.load, hupdate], ?_⟩
  rw [NodeManagerConfig.setDeviceCount_single ins.env user ins.single_flag rfl (h.world _ ins.engine_mem).1
    (h.positive _ ins.engine_mem).1 (devicesPerDp_pos h ins)]
  exact ⟨rfl, rfl, rfl, rfl⟩

theorem placed_of_load (h : user.SingleContainer) {ins : ContainerInstance}
    (hload : NodeManagerConfig.load ins.env user = .ok config) : Placed user ins config := by
  obtain ⟨config', hload', hplaced⟩ := load_placed h ins
  rw [hload] at hload'
  cases hload'
  exact hplaced

/-! ## Apart by the offsets -/

theorem Placed.deviceRange {ins : ContainerInstance} (h : Placed user ins config) :
    config.deviceRange = ins.devices user := by
  simp [NodeManagerConfig.deviceRange, h.single, devices]

theorem Placed.mem_kvPortRange {ins : ContainerInstance} (h : Placed user ins config) {port : Int} :
    port ∈ config.kvPortRange ↔
      ∃ kv, user.prefill.kvTransferConfig = some kv ∧ port - kv.kvPort ∈ ins.devices user := by
  cases hkv : user.prefill.kvTransferConfig with
  | none => simp [NodeManagerConfig.kvPortRange, h.single, hkv]
  | some kv =>
      simp only [NodeManagerConfig.kvPortRange, h.single, single_kvPort, hkv, Option.map_some, single_deviceNum,
        Option.getD_some, Set.mem_Ico, devices, Option.some.injEq, exists_eq_left']
      constructor <;> intro hport <;> omega

theorem Placed.kvPorts {ins ins' : ContainerInstance} (h : Placed user ins config) (h' : Placed user ins' config')
    (hdevices : Disjoint (ins.devices user) (ins'.devices user)) :
    Disjoint config.kvPortRange config'.kvPortRange := by
  rw [Set.disjoint_left] at hdevices ⊢
  intro port hport hport'
  obtain ⟨kv, hkv, hd⟩ := h.mem_kvPortRange.mp hport
  obtain ⟨kv', hkv', hd'⟩ := h'.mem_kvPortRange.mp hport'
  rw [hkv] at hkv'
  cases hkv'
  exact hdevices hd hd'

theorem Placed.apart {ins ins' : ContainerInstance} (h : Placed user ins config) (h' : Placed user ins' config')
    (hnm : ins.nodeManagerOffset user ≠ ins'.nodeManagerOffset user) (hrpc : ins.rpcOffset user ≠ ins'.rpcOffset user)
    (hdevices : Disjoint (ins.devices user) (ins'.devices user))
    (hports : Disjoint (ins.portRange user) (ins'.portRange user)) : config.Apart config' where
  nodeManagerPort := by
    rw [h.nodeManagerPort, h'.nodeManagerPort]
    omega
  ports := by
    rw [h.servicePorts, h.mgmtPorts, h'.servicePorts, h'.mgmtPorts, NodeManagerConfig.disjoint_ports_iff]
    exact hports
  devices := by rwa [h.deviceRange, h'.deviceRange]
  kvPorts := h.kvPorts h' hdevices
  lookupRpcPort port hport port' hport' := by
    simp only [h.single, h'.single, single_lookupRpcPort, Option.mem_def, Option.map_eq_some_iff] at hport hport'
    obtain ⟨base, hbase, rfl⟩ := hport
    obtain ⟨base', hbase', rfl⟩ := hport'
    rw [hbase] at hbase'
    cases hbase'
    omega
  dpRpcPort port hport port' hport' := by
    simp only [h.single, h'.single, single_dpRpcPort, Option.mem_def, Option.some.injEq] at hport hport'
    omega

/-! ## Which offsets are apart -/

variable {ins ins' : ContainerInstance}

theorem disjoint_of_le {a b c d : Int} (h : b ≤ c) : Disjoint (Set.Ico a b) (Set.Ico c d) := by
  rw [Set.disjoint_left]
  rintro x ⟨-, hlt⟩ ⟨hle, -⟩
  omega

theorem prefill_size_pos (h : user.SingleContainer) : 0 < user.prefill.parallelConfig.sizes := sizes_pos h (.prefill 0)

theorem decode_size_pos (h : user.SingleContainer) : 0 < user.decode.parallelConfig.sizes := sizes_pos h (.decode 0)

theorem prefill_dp_pos (h : user.SingleContainer) : 0 < user.prefill.parallelConfig.dpSize :=
  (h.positive _ (engine_mem (.prefill 0))).1

theorem decode_dp_pos (h : user.SingleContainer) : 0 < user.decode.parallelConfig.dpSize :=
  (h.positive _ (engine_mem (.decode 0))).1

theorem nodeManagerOffset_ne (h : user.SingleContainer) (hin : ins.Within user) (hin' : ins'.Within user)
    (hne : ins ≠ ins') : ins.nodeManagerOffset user ≠ ins'.nodeManagerOffset user := by
  have hp : user.pInstancesNum ≤ user.pInstancesNum * user.prefill.parallelConfig.dpSize :=
    le_mul_of_one_le_right h.pInstancesNum (prefill_dp_pos h)
  cases ins <;> cases ins' <;> simp_all [Within, nodeManagerOffset] <;> omega

theorem rpcOffset_ne (hin : ins.Within user) (hin' : ins'.Within user) (hne : ins ≠ ins') :
    ins.rpcOffset user ≠ ins'.rpcOffset user := by
  cases ins <;> cases ins' <;> simp_all [Within, rpcOffset] <;> omega

theorem mem_devices_decode {j : Nat} {x : Int} : x ∈ (decode j).devices user ↔
    x - user.pInstancesNum * user.prefill.parallelConfig.sizes ∈ block user.decode.parallelConfig.sizes j := by
  simp only [devices, deviceOffset, engine, block, Set.mem_Ico]
  constructor <;> intro hx <;> omega

theorem devices_disjoint (h : user.SingleContainer) (hin : ins.Within user) (hin' : ins'.Within user)
    (hne : ins ≠ ins') : Disjoint (ins.devices user) (ins'.devices user) := by
  have hcross : ∀ i j : Nat, (i : Int) < user.pInstancesNum →
      Disjoint ((prefill i).devices user) ((decode j).devices user) := by
    intro i j hi
    apply disjoint_of_le
    have hend := block_end_le hi (prefill_size_pos h).le
    have hstart : 0 ≤ (j : Int) * user.decode.parallelConfig.sizes := mul_nonneg (by omega) (decode_size_pos h).le
    simp only [deviceOffset, engine]
    omega
  cases ins with
  | prefill i =>
      cases ins' with
      | prefill i' => exact block_disjoint (prefill_size_pos h).le (by simpa using hne)
      | decode j => exact hcross i j hin
  | decode j =>
      cases ins' with
      | prefill i => exact (hcross i j hin').symm
      | decode j' =>
          rw [Set.disjoint_left]
          intro x hx hx'
          have hblocks := block_disjoint (decode_size_pos h).le (by simpa using hne : (j : Int) ≠ j')
          exact Set.disjoint_left.mp hblocks (mem_devices_decode.mp hx) (mem_devices_decode.mp hx')

/-- The devices of all instances are the first ones. -/
theorem exists_devices_iff (h : user.SingleContainer) (x : Int) :
    (∃ ins : ContainerInstance, ins.Within user ∧ x ∈ ins.devices user) ↔
      0 ≤ x ∧ x < user.pInstancesNum * user.prefill.parallelConfig.sizes +
        user.dInstancesNum * user.decode.parallelConfig.sizes := by
  have hprefill := exists_block_iff (n := user.pInstancesNum) (x := x) (prefill_size_pos h)
  have hdecode := exists_block_iff (n := user.dInstancesNum)
    (x := x - user.pInstancesNum * user.prefill.parallelConfig.sizes) (decode_size_pos h)
  have hp : 0 ≤ user.pInstancesNum * user.prefill.parallelConfig.sizes :=
    mul_nonneg h.pInstancesNum (prefill_size_pos h).le
  have hd : 0 ≤ user.dInstancesNum * user.decode.parallelConfig.sizes :=
    mul_nonneg h.dInstancesNum (decode_size_pos h).le
  constructor
  · rintro ⟨ins, hin, hx⟩
    cases ins with
    | prefill i =>
        have hlt := hprefill.mp ⟨i, by omega, hin, hx⟩
        omega
    | decode j =>
        have hlt := hdecode.mp ⟨j, by omega, hin, mem_devices_decode.mp hx⟩
        omega
  · rintro ⟨hx, hlt⟩
    by_cases hcase : x < user.pInstancesNum * user.prefill.parallelConfig.sizes
    · obtain ⟨i, hi, hin, hblock⟩ := hprefill.mpr ⟨hx, hcase⟩
      obtain ⟨k, rfl⟩ := Int.eq_ofNat_of_zero_le hi
      exact ⟨.prefill k, hin, hblock⟩
    · obtain ⟨j, hj, hin, hblock⟩ := hdecode.mpr ⟨by omega, by omega⟩
      obtain ⟨k, rfl⟩ := Int.eq_ofNat_of_zero_le hj
      exact ⟨.decode k, hin, mem_devices_decode.mpr hblock⟩

/-! ## Which ports are apart -/

theorem disjoint_portRange_iff {a a' : Int} (ha : ins.portOffset user = a * 2) (ha' : ins'.portOffset user = a' * 2) :
    Disjoint (ins.portRange user) (ins'.portRange user) ↔
      Disjoint (Set.Ico a (a + (ins.engine user).parallelConfig.dpSize))
        (Set.Ico a' (a' + (ins'.engine user).parallelConfig.dpSize)) := by
  simp only [Set.disjoint_left, portRange, Set.mem_Ico, ha, ha']
  constructor
  · intro hports x hx hx'
    exact hports (a := user.prefill.basePort + 2 * x) (by omega) (by omega)
  · intro hpairs x hx hx'
    exact hpairs (a := (x - user.prefill.basePort) / 2) (by omega) (by omega)

/-- The prefill blocks are one stride of the decode side's dp size apart. -/
def PortsFit (user : UserConfig) : Prop :=
  user.pInstancesNum ≤ 1 ∨ user.prefill.parallelConfig.dpSize = user.decode.parallelConfig.dpSize ∨
    user.dInstancesNum = 0 ∧ user.prefill.parallelConfig.dpSize ≤ user.decode.parallelConfig.dpSize

theorem prefill_ports_disjoint (h : user.SingleContainer) (hfit : PortsFit user) {i i' : Nat}
    (hin : (prefill i).Within user) (hin' : (prefill i').Within user) (hlt : i < i') :
    Disjoint ((prefill i).portRange user) ((prefill i').portRange user) := by
  refine (disjoint_portRange_iff rfl rfl).mpr (disjoint_of_le ?_)
  have hle : user.prefill.parallelConfig.dpSize ≤ user.decode.parallelConfig.dpSize := by
    simp only [Within] at hin hin'
    rcases hfit with hone | heq | ⟨-, hle⟩
    · omega
    · exact heq.le
    · exact hle
  have hend := block_end_le (by omega : (i : Int) < i') (decode_dp_pos h).le
  simp only [engine]
  omega

theorem cross_ports_disjoint (h : user.SingleContainer) (hfit : PortsFit user) {i j : Nat}
    (hin : (prefill i).Within user) (hin' : (decode j).Within user) :
    Disjoint ((prefill i).portRange user) ((decode j).portRange user) := by
  refine (disjoint_portRange_iff rfl rfl).mpr (disjoint_of_le ?_)
  simp only [Within] at hin hin'
  have hstart : 0 ≤ (j : Int) * user.decode.parallelConfig.dpSize := mul_nonneg (by omega) (decode_dp_pos h).le
  have hend := block_end_le hin (prefill_dp_pos h).le
  have hsame : (i : Int) * user.decode.parallelConfig.dpSize = i * user.prefill.parallelConfig.dpSize := by
    rcases hfit with hone | heq | ⟨hzero, -⟩
    · have hi : (i : Int) = 0 := by omega
      rw [hi, zero_mul, zero_mul]
    · rw [heq]
    · omega
  simp only [engine]
  omega

theorem decode_ports_disjoint (h : user.SingleContainer) {j j' : Nat} (hlt : j < j') :
    Disjoint ((decode j).portRange user) ((decode j').portRange user) := by
  refine (disjoint_portRange_iff rfl rfl).mpr (disjoint_of_le ?_)
  have hend := block_end_le (by omega : (j : Int) < j') (decode_dp_pos h).le
  simp only [engine]
  omega

theorem ports_disjoint (h : user.SingleContainer) (hfit : PortsFit user) (hin : ins.Within user)
    (hin' : ins'.Within user) (hne : ins ≠ ins') : Disjoint (ins.portRange user) (ins'.portRange user) := by
  cases ins with
  | prefill i =>
      cases ins' with
      | prefill i' =>
          rcases lt_or_gt_of_ne (by simpa using hne : i ≠ i') with hlt | hlt
          · exact prefill_ports_disjoint h hfit hin hin' hlt
          · exact (prefill_ports_disjoint h hfit hin' hin hlt).symm
      | decode j => exact cross_ports_disjoint h hfit hin hin'
  | decode j =>
      cases ins' with
      | prefill i => exact (cross_ports_disjoint h hfit hin' hin).symm
      | decode j' =>
          rcases lt_or_gt_of_ne (by simpa using hne : j ≠ j') with hlt | hlt
          · exact decode_ports_disjoint h hlt
          · exact (decode_ports_disjoint h hlt).symm

/-- Larger prefill blocks reach into the next prefill instance. -/
theorem prefill_ports_meet (h : user.SingleContainer)
    (hlt : user.decode.parallelConfig.dpSize < user.prefill.parallelConfig.dpSize) :
    ¬ Disjoint ((prefill 0).portRange user) ((prefill 1).portRange user) := by
  rw [disjoint_portRange_iff rfl rfl, Set.disjoint_left]
  intro hdisjoint
  have hdp := decode_dp_pos h
  refine hdisjoint (a := user.decode.parallelConfig.dpSize) ?_ ?_ <;> simp only [Set.mem_Ico, engine] <;> omega

/-- Smaller prefill blocks are too far apart: one of them starts or ends among the ports of the first decode
instance. -/
theorem cross_ports_meet (h : user.SingleContainer) (hp : 1 < user.pInstancesNum)
    (hlt : user.prefill.parallelConfig.dpSize < user.decode.parallelConfig.dpSize) :
    ∃ i : Nat, (prefill i).Within user ∧ ¬ Disjoint ((prefill i).portRange user) ((decode 0).portRange user) := by
  set P := user.pInstancesNum
  set p := user.prefill.parallelConfig.dpSize
  set d := user.decode.parallelConfig.dpSize
  have hppos : 0 < p := prefill_dp_pos h
  -- The block of width `d` that the decode instance starts in.
  obtain ⟨i, hi, hiP, hle, hend⟩ := (exists_block_iff (w := d) (n := P) (x := P * p) (by omega)).mpr
    ⟨mul_nonneg (by omega) hppos.le, mul_lt_mul_of_pos_left hlt (by omega)⟩
  obtain ⟨k, rfl⟩ := Int.eq_ofNat_of_zero_le hi
  have hmeet : ∀ (i : Nat) (x : Int), (i : Int) * d ≤ x → x < i * d + p → P * p ≤ x → x < P * p + d →
      ¬ Disjoint ((prefill i).portRange user) ((decode 0).portRange user) := by
    intro i x h1 h2 h3 h4
    rw [disjoint_portRange_iff rfl rfl, Set.disjoint_left]
    intro hdisjoint
    refine hdisjoint (a := x) ?_ ?_
    · exact ⟨h1, h2⟩
    · simp only [Set.mem_Ico, Nat.cast_zero, zero_mul, add_zero]
      exact ⟨h3, h4⟩
  by_cases hstart : (k : Int) * d = P * p
  · exact ⟨k, hiP, hmeet k (P * p) (by omega) (by omega) le_rfl (by omega)⟩
  · by_cases hnext : (k : Int) + 1 < P
    · have hnextStart : ((k + 1 : Nat) : Int) * d = k * d + d := by push_cast; ring
      refine ⟨k + 1, by exact_mod_cast hnext, hmeet (k + 1) (k * d + d) ?_ ?_ ?_ ?_⟩ <;> omega
    · have hlast : (k : Int) = P - 1 := by omega
      have hreach : P * p < k * d + p := by
        have hmul : (P - 1) * p < (P - 1) * d := mul_lt_mul_of_pos_left hlt (by omega)
        rw [hlast]
        linarith
      exact ⟨k, hiP, hmeet k (P * p) (by omega) hreach le_rfl (by omega)⟩

end ContainerInstance

namespace UserConfig

open ContainerInstance

variable {user : UserConfig}

theorem Separate.portRange (hsep : user.Separate) (h : user.SingleContainer) {ins ins' : ContainerInstance}
    (hin : ins.Within user) (hin' : ins'.Within user) (hne : ins ≠ ins') :
    Disjoint (ins.portRange user) (ins'.portRange user) := by
  obtain ⟨config, hload, hplaced⟩ := load_placed h ins
  obtain ⟨config', hload', hplaced'⟩ := load_placed h ins'
  have hports := (hsep.apart ins ins' config config' hin hin' hne hload hload').ports
  rw [hplaced.servicePorts, hplaced.mgmtPorts, hplaced'.servicePorts, hplaced'.mgmtPorts,
    NodeManagerConfig.disjoint_ports_iff] at hports
  exact hports

/-- The instances of a container are separate exactly when there is at most one prefill instance, or the dp sizes are
equal, or there is no decode instance and the prefill side's dp size is not the larger one. -/
theorem separate_iff (h : user.SingleContainer) : user.Separate ↔
    user.pInstancesNum ≤ 1 ∨ user.prefill.parallelConfig.dpSize = user.decode.parallelConfig.dpSize ∨
      user.dInstancesNum = 0 ∧ user.prefill.parallelConfig.dpSize ≤ user.decode.parallelConfig.dpSize := by
  constructor
  · intro hsep
    by_contra hnot
    simp only [not_or, not_and, not_le] at hnot
    obtain ⟨hp, hne, hd⟩ := hnot
    rcases lt_or_gt_of_ne hne with hlt | hlt
    · obtain ⟨i, hin, hmeet⟩ := cross_ports_meet h hp hlt
      have hdpos : (ContainerInstance.decode 0).Within user := by
        have hd0 : user.dInstancesNum ≠ 0 := fun h0 => absurd (hd h0) (by omega)
        have hle := h.dInstancesNum
        simp only [Within]
        omega
      exact hmeet (hsep.portRange h hin hdpos (by simp))
    · have hin : (ContainerInstance.prefill 0).Within user := by
        simp only [Within]
        omega
      have hin' : (ContainerInstance.prefill 1).Within user := by
        simp only [Within]
        omega
      exact prefill_ports_meet h hlt (hsep.portRange h hin hin' (by simp))
  · intro hfit
    constructor
    · intro ins _
      obtain ⟨config, hload, -⟩ := load_placed h ins
      exact ⟨config, hload⟩
    · intro ins ins' config config' hin hin' hne hload hload'
      exact (placed_of_load h hload).apart (placed_of_load h hload') (nodeManagerOffset_ne h hin hin' hne)
        (rpcOffset_ne hin hin' hne) (devices_disjoint h hin hin' hne) (ports_disjoint h hfit hin hin' hne)
    · intro x
      rw [← exists_devices_iff h]
      constructor
      · rintro ⟨ins, hin, hx⟩
        obtain ⟨config, hload, hplaced⟩ := load_placed h ins
        exact ⟨ins, config, hin, hload, by rwa [hplaced.deviceRange]⟩
      · rintro ⟨ins, config, hin, hload, hx⟩
        rw [(placed_of_load h hload).deviceRange] at hx
        exact ⟨ins, hin, hx⟩

def largerPrefill : UserConfig where
  deployMode := "pd_disaggregation_single_container"
  pInstancesNum := 2
  dInstancesNum := 1
  prefill := { parallelConfig := .ofSizes 4 1, dpRpcPort := 9000 }
  decode := { parallelConfig := .ofSizes 2 1, dpRpcPort := 9000 }

/-- The first prefill instance has the ports from 10000 to 10007, the second one those from 10004 to 10011. -/
theorem largerPrefill_not_separate : largerPrefill.SingleContainer ∧ ¬ largerPrefill.Separate := by
  refine ⟨⟨rfl, by decide, by decide, by decide, by decide, rfl, rfl⟩, fun hsep => ?_⟩
  obtain ⟨config, hload⟩ := hsep.loads (.prefill 0) (by decide)
  obtain ⟨config', hload'⟩ := hsep.loads (.prefill 1) (by decide)
  have hports := (hsep.apart (.prefill 0) (.prefill 1) config config' (by decide) (by decide) (by decide) hload
    hload').ports
  cases hload
  cases hload'
  exact hports (a := "10004") (by decide) (by decide)

def equalSizes : UserConfig where
  deployMode := "pd_disaggregation_single_container"
  pInstancesNum := 2
  dInstancesNum := 2
  prefill := { parallelConfig := .ofSizes 2 4, dpRpcPort := 9000 }
  decode := { parallelConfig := .ofSizes 2 1, dpRpcPort := 9000 }

theorem equalSizes_separate : equalSizes.SingleContainer ∧ equalSizes.Separate := by
  have h : equalSizes.SingleContainer := ⟨rfl, by decide, by decide, by decide, by decide, rfl, rfl⟩
  exact ⟨h, (separate_iff h).mpr (Or.inr (Or.inl rfl))⟩

end UserConfig

end PyMotor
