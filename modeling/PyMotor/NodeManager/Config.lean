import Mathlib.Data.Int.Range
import PyMotor.Controller.Assembler

/-!
# The configuration of a node manager

`motor/config/node_manager.py` with the visible devices of `motor/node_manager/core/daemon.py`. The user's configuration
is the one file of all instances; `ROLE` and `INDEX` of the environment say which instance a node manager serves.
-/

namespace PyMotor

open Lib

/-- `ROLE` and `int(INDEX)` of the environment. -/
structure Env where
  role : Option String
  index : Option Int

/-- `kv_transfer_config`: a MultiConnector has a port for each of its two connectors. -/
inductive KvTransferConfig
  | multiConnector (kvPort lookupRpcPort : Int)
  | connector (kvPort : Int)

/-- `motor_engine_prefill_config` or `motor_engine_decode_config`; the first two ports are those of its
`motor_nodemanger_config`. -/
structure EngineConfig where
  nodeManagerPort : Int := 1026
  basePort : Int := 10000
  parallelConfig : ParallelConfig
  dpRpcPort : Int
  kvTransferConfig : Option KvTransferConfig := none
  enableMultiEndpoints : Bool := true

structure UserConfig where
  deployMode : String := ""
  pInstancesNum : Int
  dInstancesNum : Int
  pPodNpuNum : Int := 0
  dPodNpuNum : Int := 0
  prefill : EngineConfig
  decode : EngineConfig

namespace ParallelConfig

/-- `tp_size * pp_size`. -/
def devicesPerDp (config : ParallelConfig) : Int := config.tpSize * config.ppSize

/-- `dp_size * tp_size * pp_size`. -/
def sizes (config : ParallelConfig) : Int := config.dpSize * config.tpSize * config.ppSize

end ParallelConfig

/-! ## Several instances in one container -/

structure SingleContainerNodemanagerConfig where
  singleContainerFlag : Bool := false
  nodeManagerPortOffset : Option Int := none
  basePortOffset : Option Int := none
  deviceOffset : Option Int := none
  deviceNum : Option Int := none
  kvPort : Option Int := none
  lookupRpcPort : Option Int := none
  dpRpcPort : Option Int := none

namespace SingleContainerNodemanagerConfig

/-- The ports of `kv_transfer_config`, which both roles read from the prefill configuration. -/
def setKvPorts (config : SingleContainerNodemanagerConfig) (kvConfig : Option KvTransferConfig)
    (kvPortOffset lookupRpcPortOffset : Int) : SingleContainerNodemanagerConfig :=
  match kvConfig with
  | none => config
  | some (.multiConnector kvPort lookupRpcPort) =>
    { config with kvPort := some (kvPort + kvPortOffset), lookupRpcPort := some (lookupRpcPort + lookupRpcPortOffset) }
  | some (.connector kvPort) => { config with kvPort := some (kvPort + kvPortOffset) }

def fromJson (env : Env) (user : UserConfig) : SingleContainerNodemanagerConfig :=
  match env.index with
  | none => {}
  | some index =>
    if user.deployMode ≠ "pd_disaggregation_single_container" ∨ env.role.getD "" = "" then {}
    else
      let p := user.prefill.parallelConfig
      let d := user.decode.parallelConfig
      if env.role = some "prefill" then
        { ({ singleContainerFlag := true
             nodeManagerPortOffset := some index
             basePortOffset := some (index * d.dpSize * 2)
             deviceOffset := some (index * p.dpSize * p.tpSize * p.ppSize)
             deviceNum := some p.sizes } : SingleContainerNodemanagerConfig).setKvPorts user.prefill.kvTransferConfig
            (index * p.dpSize * p.tpSize * p.ppSize) index with
          dpRpcPort := some (user.prefill.dpRpcPort + index) }
      else
        let deviceOffset :=
          user.pInstancesNum * p.dpSize * p.tpSize * p.ppSize + index * d.dpSize * d.tpSize * d.ppSize
        { ({ singleContainerFlag := true
             nodeManagerPortOffset := some (user.pInstancesNum * p.dpSize + index)
             basePortOffset := some ((user.pInstancesNum * p.dpSize + index * d.dpSize) * 2)
             deviceOffset := some deviceOffset
             deviceNum := some d.sizes } : SingleContainerNodemanagerConfig).setKvPorts user.prefill.kvTransferConfig
            deviceOffset (user.pInstancesNum + index) with
          dpRpcPort := some (user.prefill.dpRpcPort + (user.pInstancesNum + index)) }

end SingleContainerNodemanagerConfig

/-! ## The configuration -/

structure NodeManagerConfig where
  nodeManagerPort : Int := 1026
  basePort : Int := 10000
  role : PDRole := .roleU
  parallelConfig : ParallelConfig := {}
  enableMultiEndpoints : Bool := true
  deviceNum : Int := 0
  endpointNum : Int := 0
  servicePorts : List String := []
  mgmtPorts : List String := []
  singleContainerConfig : SingleContainerNodemanagerConfig := {}

namespace NodeManagerConfig

/-- The engine configuration that `_load_node_manager_config_data` reads. -/
def engineConfig (env : Env) (user : UserConfig) : Option EngineConfig :=
  if env.role = some "prefill" then some user.prefill
  else if env.role = some "decode" then some user.decode
  else none

/-- `_update_from_config_data` on a new configuration. -/
def updateFromConfigData (env : Env) (user : UserConfig) : Except PyErr NodeManagerConfig :=
  let single := SingleContainerNodemanagerConfig.fromJson env user
  let config : NodeManagerConfig :=
    match engineConfig env user with
    | none => { singleContainerConfig := single }
    | some engine =>
      { nodeManagerPort := engine.nodeManagerPort, basePort := engine.basePort, parallelConfig := engine.parallelConfig,
        enableMultiEndpoints := engine.enableMultiEndpoints, singleContainerConfig := single }
  let config :=
    if single.singleContainerFlag then
      { config with
        nodeManagerPort := config.nodeManagerPort + single.nodeManagerPortOffset.getD 0
        basePort := config.basePort + single.basePortOffset.getD 0 }
    else config
  match PDRole.ofString? (env.role.getD "") with
  | none => .error .valueError
  | some role => .ok { config with role := role }

def setDeviceCountForSingleContainer (config : NodeManagerConfig) : NodeManagerConfig :=
  if config.parallelConfig.worldSize > 0 then { config with deviceNum := config.parallelConfig.worldSize }
  else { config with deviceNum := config.singleContainerConfig.deviceNum.getD 0 }

def setDeviceCountForNormalMode (env : Env) (user : UserConfig) (config : NodeManagerConfig) : NodeManagerConfig :=
  let deviceCount :=
    if env.role = some "prefill" then user.pPodNpuNum
    else if env.role = some "decode" then user.dPodNpuNum
    else 0
  if deviceCount > 0 then { config with deviceNum := deviceCount } else { config with deviceNum := 0 }

/-- `[str(base_port + i * 2 + shift) for i in range(endpoint_num)]`. -/
def portList (basePort shift endpointNum : Int) : List String :=
  (Int.range 0 endpointNum).map fun i => toString (basePort + i * 2 + shift)

def setPorts (config : NodeManagerConfig) (endpointNum : Int) : NodeManagerConfig :=
  { config with
    endpointNum := endpointNum
    servicePorts := portList config.basePort 0 endpointNum
    mgmtPorts := portList config.basePort 1 endpointNum }

def generateEndpointPorts (config : NodeManagerConfig) : Except PyErr NodeManagerConfig :=
  let devicesPerDp := config.parallelConfig.devicesPerDp
  if config.enableMultiEndpoints ∧ config.deviceNum < devicesPerDp ∨ config.parallelConfig.dpSize < 1 then
    .error .valueError
  else if config.enableMultiEndpoints then
    if devicesPerDp = 0 then .error .zeroDivisionError
    else .ok (config.setPorts (min config.parallelConfig.dpSize (config.deviceNum.fdiv devicesPerDp)))
  else .ok (config.setPorts 1)

def setDeviceCountFromConfig (env : Env) (user : UserConfig) (config : NodeManagerConfig) : NodeManagerConfig :=
  let counted :=
    if config.singleContainerConfig.singleContainerFlag then config.setDeviceCountForSingleContainer
    else config.setDeviceCountForNormalMode env user
  match counted.generateEndpointPorts with
  | .ok config => config
  | .error _ => { counted with deviceNum := 0, endpointNum := 0, servicePorts := [], mgmtPorts := [] }

/-- `from_json` up to its validation. -/
def load (env : Env) (user : UserConfig) : Except PyErr NodeManagerConfig :=
  match updateFromConfigData env user with
  | .error e => .error e
  | .ok config => .ok (config.setDeviceCountFromConfig env user)

/-- What `validate_config` says about ports and endpoints. -/
def validateConfig (config : NodeManagerConfig) : Except PyErr NodeManagerConfig :=
  if 0 < config.nodeManagerPort ∧ config.nodeManagerPort ≤ 65535 ∧ 0 ≤ config.basePort ∧ config.basePort ≤ 65535 ∧
      0 ≤ config.endpointNum then .ok config
  else .error .valueError

def fromJson (env : Env) (user : UserConfig) : Except PyErr NodeManagerConfig :=
  match load env user with
  | .error e => .error e
  | .ok config => config.validateConfig

/-- `_gen_register_msg` of a node manager with this configuration. -/
def genRegisterMsg (config : NodeManagerConfig) (jobName modelName podIp : String) (ranktable : Option Ranktable) :
    RegisterMsg where
  jobName := jobName
  modelName := modelName
  role := config.role.value
  podIp := podIp
  businessPort := config.servicePorts
  mgmtPort := config.mgmtPorts
  nmPort := toString config.nodeManagerPort
  parallelConfig := config.parallelConfig
  enableMultiEndpoints := config.enableMultiEndpoints
  deviceNum := config.deviceNum
  ranktable := ranktable

end NodeManagerConfig

/-! ## The daemon that starts the engines -/

/-- The daemon has a device offset only in a single container. -/
structure Daemon where
  parallelConfig : ParallelConfig
  deviceNum : Int
  enableMultiEndpoints : Bool := true
  deviceOffset : Option Int := none

namespace Daemon

def ofConfig (config : NodeManagerConfig) : Daemon where
  parallelConfig := config.parallelConfig
  deviceNum := config.deviceNum
  enableMultiEndpoints := config.enableMultiEndpoints
  deviceOffset :=
    if config.singleContainerConfig.singleContainerFlag then config.singleContainerConfig.deviceOffset else none

/-- The ids of `_calc_visible_device_ids`, before they are written down. -/
def visibleDeviceIds (daemon : Daemon) (index deviceSize : Int) : Except PyErr (List Int) :=
  if deviceSize = 0 then .error .zeroDivisionError
  else
    let localWorldSize := daemon.parallelConfig.devicesPerDp
    let startDeviceId := (index * localWorldSize).fmod deviceSize
    let endDeviceId := startDeviceId + localWorldSize
    let deviceIds :=
      if endDeviceId > deviceSize then Int.range startDeviceId deviceSize ++ Int.range 0 (endDeviceId - deviceSize)
      else Int.range startDeviceId endDeviceId
    .ok (deviceIds.map fun x => x + daemon.deviceOffset.getD 0)

def calcVisibleDeviceIds (daemon : Daemon) (index deviceSize : Int) : Except PyErr String :=
  match daemon.visibleDeviceIds index deviceSize with
  | .error e => .error e
  | .ok deviceIds => .ok (",".intercalate (deviceIds.map toString))

end Daemon

end PyMotor
