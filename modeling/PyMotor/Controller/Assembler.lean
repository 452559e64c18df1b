import PyMotor.Controller.InstanceManager

/-!
# The instance assembler

`motor/controller/core/instance_assembler.py` with the messages of `motor/common/resources/http_msg_spec.py`. Node
managers register their pods; an instance with enough endpoints is handed over to the manager, which from then on
shares the object. The state is that of the controller process: the manager, the assembler, the clock, and what the
two have persisted.
-/

namespace PyMotor

open Lib

structure ServerInfo where
  serverId : String
  containerIp : String
  device : List DeviceInfo
deriving DecidableEq

structure Ranktable where
  version : String
  status : String
  serverCount : String
  serverList : List ServerInfo
deriving DecidableEq

structure RegisterMsg where
  jobName : String
  modelName : String := ""
  role : String := "prefill"
  podIp : String
  businessPort : List String
  mgmtPort : List String
  nmPort : String
  parallelConfig : ParallelConfig
  enableMultiEndpoints : Bool := true
  deviceNum : Int
  ranktable : Option Ranktable := none

structure ReregisterMsg where
  jobName : String
  modelName : String := ""
  instanceId : Int
  role : String := "prefill"
  podIp : String
  nmPort : String
  parallelConfig : ParallelConfig
  enableMultiEndpoints : Bool := true
  deviceNum : Int := 0
  endpoints : List Endpoint

structure StartCmdMsg where
  jobName : String
  role : String
  instanceId : Int
  endpoints : List Endpoint
  masterDpIp : String
  ranktable : Option Ranktable
deriving DecidableEq

inductive RegisterStatus
  | notRegistered
  | assembling
  | assembled
deriving DecidableEq, Repr

/-! ## The endpoints of a pod -/

/-- `xs[:n]`; a negative `n` counts from the end. -/
def sliceTo (xs : List String) (n : Int) : List String :=
  if 0 ≤ n then xs.take n.toNat else xs.take (xs.length - n.natAbs)

namespace RegisterMsg

def devicesPerEndpoint (msg : RegisterMsg) : Int := msg.parallelConfig.tpSize * msg.parallelConfig.ppSize

def buildDeviceInfos (msg : RegisterMsg) (startIdx idOffset : Int) : Except PyErr (List DeviceInfo) :=
  match msg.ranktable with
  | some table =>
    match table.serverList with
    | [] => .error .indexError
    | server :: _ => .ok server.device
  | none =>
    .ok ((List.range msg.devicesPerEndpoint.toNat).filterMap fun j =>
      let deviceIdx := startIdx + j
      if deviceIdx < msg.deviceNum then
        some { deviceId := toString deviceIdx, rankId := toString (idOffset * msg.devicesPerEndpoint + deviceIdx) }
      else none)

def buildSingleEndpoint (msg : RegisterMsg) (timestamp : ℚ) (idOffset : Int) : Except PyErr (Dict Int Endpoint) :=
  match msg.buildDeviceInfos 0 idOffset with
  | .error e => .error e
  | .ok deviceInfos =>
    match msg.businessPort, msg.mgmtPort with
    | businessPort :: _, mgmtPort :: _ =>
      .ok (Dict.empty.set 0
        { id := idOffset, ip := msg.podIp, businessPort := businessPort, mgmtPort := mgmtPort,
          deviceInfos := deviceInfos, hbTimestamp := timestamp })
    | _, _ => .error .indexError

/-- The loop of `_build_multi_endpoints` from port `i` on. -/
def buildLoop (msg : RegisterMsg) (timestamp : ℚ) (idOffset : Int) : Nat → List String → Dict Int Endpoint →
    Except PyErr (Dict Int Endpoint)
  | _, [], podEndpoints => .ok podEndpoints
  | i, port :: ports, podEndpoints =>
    let startIdx := msg.devicesPerEndpoint * i
    if startIdx + msg.devicesPerEndpoint > msg.deviceNum then .ok podEndpoints
    else
      match msg.buildDeviceInfos startIdx idOffset with
      | .error e => .error e
      | .ok deviceInfos =>
        match msg.mgmtPort[i]? with
        | none => .error .indexError
        | some mgmtPort =>
          msg.buildLoop timestamp idOffset (i + 1) ports (podEndpoints.set i
            { id := idOffset + i, ip := msg.podIp, businessPort := port, mgmtPort := mgmtPort,
              deviceInfos := deviceInfos, hbTimestamp := timestamp })

/-- The ports that `_build_multi_endpoints` goes through. -/
def actualPorts (msg : RegisterMsg) : Except PyErr (List String) :=
  if msg.businessPort.length * msg.devicesPerEndpoint > msg.deviceNum then
    if msg.devicesPerEndpoint = 0 then .error .zeroDivisionError
    else .ok (sliceTo msg.businessPort (msg.deviceNum.fdiv msg.devicesPerEndpoint))
  else .ok msg.businessPort

def buildMultiEndpoints (msg : RegisterMsg) (timestamp : ℚ) (idOffset : Int) : Except PyErr (Dict Int Endpoint) :=
  match msg.actualPorts with
  | .error e => .error e
  | .ok ports => msg.buildLoop timestamp idOffset 0 ports Dict.empty

/-- `_build_endpoints` without the ranktable. -/
def buildEndpoints (msg : RegisterMsg) (timestamp : ℚ) (idOffset : Int) : Except PyErr (Dict Int Endpoint) :=
  if msg.enableMultiEndpoints then msg.buildMultiEndpoints timestamp idOffset
  else msg.buildSingleEndpoint timestamp idOffset

/-- The instance-level ranktable after the message. -/
def mergeRanktable (msg : RegisterMsg) (ranktable : Option Ranktable) : Option Ranktable :=
  match msg.ranktable with
  | none => ranktable
  | some table =>
    match ranktable with
    | none => some table
    | some merged =>
      let serverList := merged.serverList ++ table.serverList
      some { merged with serverList := serverList, serverCount := toString serverList.length }

/-- The end of `register`, on the instance: a pod that is known is skipped. -/
def addPod (msg : RegisterMsg) (timestamp : ℚ) (x : ManagedInstance) : Except PyErr Unit × ManagedInstance :=
  if x.hasNodeMgr msg.podIp then (.ok (), x)
  else
    let x := x.addNodeMgr msg.podIp msg.nmPort msg.deviceNum
    match msg.buildEndpoints timestamp x.getEndpointsNum with
    | .error e => (.error e, x)
    | .ok podEndpoints => (.ok (), x.addEndpoints msg.podIp podEndpoints)

end RegisterMsg

/-- `{endpoint.id: endpoint for endpoint in msg.endpoints}` under the pod. -/
def ReregisterMsg.addPod (msg : ReregisterMsg) (x : ManagedInstance) : ManagedInstance :=
  (x.addNodeMgr msg.podIp msg.nmPort msg.deviceNum).addEndpoints msg.podIp
    (Dict.empty.update (msg.endpoints.map fun ep => (ep.id, ep)))

namespace ManagedInstance

/-- A pod whose node manager is not reachable is dropped. -/
def filterNodeManager (queryStatus : NodeManagerInfo → QueryStatus) (x : ManagedInstance) (nm : NodeManagerInfo) :
    ManagedInstance :=
  if queryStatus nm = .raises then (x.delEndpoints nm.podIp).delNodeMgr nm.podIp nm.port else x

def filterAbnormalEndpoints (x : ManagedInstance) (queryStatus : NodeManagerInfo → QueryStatus) : ManagedInstance :=
  x.nodeManagers.foldl (filterNodeManager queryStatus) x

/-- The address of the endpoint with id 0; an empty one does not count. -/
def masterDpIp (x : ManagedInstance) : Option String :=
  ((x.getAllEndpoints.find? fun ep => ep.id = 0).map (·.ip)).filter (· ≠ "")

/-- What `_send_start_command` sends, and to whom. -/
def startCommands (x : ManagedInstance) (ranktable : Option Ranktable) : List (NodeManagerInfo × StartCmdMsg) :=
  match x.masterDpIp with
  | none => []
  | some masterDpIp =>
    x.nodeManagers.filterMap fun nm =>
      let endpoints := x.getEndpoints nm.podIp
      if endpoints.entries = [] then none
      else
        some (nm, { jobName := x.jobName, role := x.role, instanceId := x.id, endpoints := endpoints.values,
                    masterDpIp := masterDpIp, ranktable := ranktable })

end ManagedInstance

/-! ## The process -/

/-- Metadata of an instance `ι`: a reference to the shared object, or a copy of it in what is persisted. -/
structure AssembleInstanceMetadata (ι : Type) where
  ins : ι
  registerStatus : RegisterStatus := .notRegistered
  startCommandSendTimes : Nat := 0
  registerTimestamp : ℚ := 0
  isReregister : Bool := false
  ranktable : Option Ranktable := none

structure InstanceAssembler (ι : Type) where
  insIdCnt : Int := 1
  instances : Dict String (AssembleInstanceMetadata ι) := Dict.empty

/-- The instances by id, with the version they were persisted under. -/
structure ManagerData where
  version : Nat
  data : Dict Int ManagedInstance

structure ControllerProcess where
  controller : Controller := {}
  assembler : InstanceAssembler Ref := {}
  clock : ℚ := 0
  /-- What the manager has persisted. -/
  managerData : Option ManagerData := none
  /-- What the assembler has persisted. -/
  assemblerData : Option (InstanceAssembler ManagedInstance) := none

def Controller.hasActiveInstanceByJobName (c : Controller) (jobName : String) : Bool :=
  (c.instances.values.map c.obj).any fun x => x.jobName = jobName ∧ x.status = .active

namespace ControllerProcess

def modifyObj (p : ControllerProcess) (r : Ref) (f : ManagedInstance → ManagedInstance) : ControllerProcess :=
  { p with controller := p.controller.modifyObj r f }

def setMetadata (p : ControllerProcess) (jobName : String) (metadata : AssembleInstanceMetadata Ref) :
    ControllerProcess :=
  { p with assembler := { p.assembler with instances := p.assembler.instances.set jobName metadata } }

/-- `self.instances.pop(job_name, None)`. -/
def popMetadata (p : ControllerProcess) (jobName : String) : ControllerProcess :=
  { p with assembler := { p.assembler with instances := p.assembler.instances.erase jobName } }

def evalRegisterStatus (p : ControllerProcess) (jobName : String) : RegisterStatus :=
  if p.controller.hasActiveInstanceByJobName jobName then .assembled
  else if p.assembler.instances.contains jobName then .assembling
  else .notRegistered

/-- A new instance in the assembler. -/
def createMetadata (p : ControllerProcess) (x : ManagedInstance) (isReregister : Bool) : ControllerProcess :=
  { p with controller := p.controller.create x }.setMetadata x.jobName
    { ins := p.controller.heap.length, registerTimestamp := p.clock, isReregister := isReregister }

/-- `register` once the metadata are found. -/
def registerPod (p : ControllerProcess) (msg : RegisterMsg) : Except PyErr Int × ControllerProcess :=
  match p.assembler.instances.get? msg.jobName with
  | none => (.error .keyError, p)
  | some metadata =>
    let x := p.controller.obj metadata.ins
    let p' := p.modifyObj metadata.ins fun x => (msg.addPod p.clock x).2
    match (msg.addPod p.clock x).1 with
    | .error e => (.error e, p')
    | .ok _ =>
      if x.hasNodeMgr msg.podIp then (.ok 0, p')
      else (.ok 0, p'.setMetadata msg.jobName { metadata with ranktable := msg.mergeRanktable metadata.ranktable })

def register (p : ControllerProcess) (msg : RegisterMsg) : Except PyErr Int × ControllerProcess :=
  match p.evalRegisterStatus msg.jobName with
  | .assembled => (.ok (-1), p)
  | .notRegistered =>
    let p := p.createMetadata
      { jobName := msg.jobName, modelName := msg.modelName, id := p.assembler.insIdCnt, role := msg.role,
        parallelConfig := some msg.parallelConfig, enableMultiEndpoints := msg.enableMultiEndpoints } false
    { p with assembler := { p.assembler with insIdCnt := p.assembler.insIdCnt + 1 } }.registerPod msg
  | .assembling =>
    match p.assembler.instances.get? msg.jobName with
    | none => (.error .keyError, p)
    | some metadata => (p.setMetadata msg.jobName { metadata with registerTimestamp := p.clock }).registerPod msg

/-- `reregister` once the metadata are found. -/
def reregisterPod (p : ControllerProcess) (msg : ReregisterMsg) : Except PyErr Int × ControllerProcess :=
  match p.assembler.instances.get? msg.jobName with
  | none => (.error .keyError, p)
  | some metadata =>
    let p := { p with assembler := { p.assembler with insIdCnt := max p.assembler.insIdCnt (msg.instanceId + 1) } }
    (.ok 0, p.modifyObj metadata.ins msg.addPod)

def reregister (p : ControllerProcess) (msg : ReregisterMsg) : Except PyErr Int × ControllerProcess :=
  match p.evalRegisterStatus msg.jobName with
  | .assembled => (.ok (-1), p)
  | .notRegistered =>
    (p.createMetadata
      { jobName := msg.jobName, modelName := msg.modelName, id := msg.instanceId, role := msg.role,
        parallelConfig := some msg.parallelConfig, enableMultiEndpoints := msg.enableMultiEndpoints } true).reregisterPod msg
  | .assembling =>
    match p.assembler.instances.get? msg.jobName with
    | none => (.error .keyError, p)
    | some metadata =>
      (p.setMetadata msg.jobName { metadata with registerTimestamp := p.clock, isReregister := true }).reregisterPod msg

/-- `_assemble_instance` for a job of the loop. -/
def assembleInstance (p : ControllerProcess) (queryStatus : NodeManagerInfo → QueryStatus) (assembleTimeout : ℚ)
    (jobName : String) : ControllerProcess :=
  match p.assembler.instances.get? jobName with
  | none => p
  | some metadata =>
    if metadata.registerStatus = .assembled then p
    else
      let p := p.modifyObj metadata.ins (·.filterAbnormalEndpoints queryStatus)
      if (p.controller.obj metadata.ins).isEndpointsEnough then
        let p := { p with controller := p.controller.addInstance p.clock metadata.ins }
        if metadata.isReregister then p.popMetadata jobName
        else p.setMetadata jobName { metadata with registerStatus := .assembled }
      else if p.clock - metadata.registerTimestamp > assembleTimeout then p.popMetadata jobName
      else p

/-- A job of a round of `_start_commmand_sender`; `reply` says which node managers accept. -/
def sendStartCommand (p : ControllerProcess) (reply : NodeManagerInfo → Bool) (maxRetryTimes : Nat) (jobName : String) :
    ControllerProcess :=
  match p.assembler.instances.get? jobName with
  | none => p
  | some metadata =>
    if metadata.registerStatus ≠ .assembled then p
    else
      let x := p.controller.obj metadata.ins
      if x.masterDpIp.isSome ∧ ∀ cmd ∈ x.startCommands metadata.ranktable, reply cmd.1 then p.popMetadata jobName
      else if metadata.startCommandSendTimes + 1 < maxRetryTimes then
        p.setMetadata jobName { metadata with startCommandSendTimes := metadata.startCommandSendTimes + 1 }
      else p.popMetadata jobName

/-! ## Persistence -/

/-- `persist_data` of the manager. -/
def persistManager (p : ControllerProcess) : ControllerProcess :=
  { p with
    controller := { p.controller with dataVersion := p.controller.dataVersion + 1 }
    managerData := some
      { version := p.controller.dataVersion + 1
        data := p.controller.instances.mapValues p.controller.obj } }

/-- `restore_data` of the manager; without data nothing changes. -/
def restoreManager (p : ControllerProcess) : ControllerProcess :=
  match p.managerData with
  | none => p
  | some state =>
    { p with
      controller := { p.controller with
        dataVersion := max p.controller.dataVersion state.version }.restoreInstances p.clock state.data.values }

def AssembleInstanceMetadata.map {ι κ : Type} (f : ι → κ) (metadata : AssembleInstanceMetadata ι) :
    AssembleInstanceMetadata κ :=
  { ins := f metadata.ins, registerStatus := metadata.registerStatus,
    startCommandSendTimes := metadata.startCommandSendTimes, registerTimestamp := metadata.registerTimestamp,
    isReregister := metadata.isReregister, ranktable := metadata.ranktable }

/-- `persist_data` of the assembler. -/
def persistAssembler (p : ControllerProcess) : ControllerProcess :=
  { p with
    assemblerData := some
      { insIdCnt := p.assembler.insIdCnt
        instances := p.assembler.instances.mapValues (AssembleInstanceMetadata.map p.controller.obj) } }

/-- One round of the loop of `restore_data` of the assembler: a new object. -/
def restoreMetadata (p : ControllerProcess) (e : String × AssembleInstanceMetadata ManagedInstance) :
    ControllerProcess :=
  { p with controller := p.controller.create e.2.ins }.setMetadata e.1
    (AssembleInstanceMetadata.map (fun _ => p.controller.heap.length) e.2)

/-- `restore_data` of the assembler; without data nothing changes. -/
def restoreAssembler (p : ControllerProcess) : ControllerProcess :=
  match p.assemblerData with
  | none => p
  | some data => data.instances.entries.foldl restoreMetadata { p with assembler := { insIdCnt := data.insIdCnt } }

/-- The process starts anew; what is persisted stays. -/
def restart (p : ControllerProcess) : ControllerProcess :=
  { clock := p.clock, managerData := p.managerData, assemblerData := p.assemblerData }

/-! ## Steps -/

inductive Event
  | register (msg : RegisterMsg)
  | reregister (msg : ReregisterMsg)
  | assemble (queryStatus : NodeManagerInfo → QueryStatus) (assembleTimeout : ℚ) (jobName : String)
  | startCommand (reply : NodeManagerInfo → Bool) (maxRetryTimes : Nat) (jobName : String)
  | heartbeat (insId : Int) (ip : String) (status : Dict Int EndpointStatus)
  | timeout (queryStatus : NodeManagerInfo → QueryStatus) (insId : Int)
  | separate (instanceId : Int)
  | recover (instanceId : Int)
  | delete (insId : Int)
  | persistManager
  | restoreManager
  | persistAssembler
  | restoreAssembler
  | restart
  /-- Time passes; the clock never goes back. -/
  | tick (timestamp : ℚ)

def step (p : ControllerProcess) : Event → ControllerProcess
  | .register msg => (p.register msg).2
  | .reregister msg => (p.reregister msg).2
  | .assemble queryStatus assembleTimeout jobName => p.assembleInstance queryStatus assembleTimeout jobName
  | .startCommand reply maxRetryTimes jobName => p.sendStartCommand reply maxRetryTimes jobName
  | .heartbeat insId ip status =>
    { p with controller := (p.controller.handleHeartbeat p.clock insId ip status).2 }
  | .timeout queryStatus insId => { p with controller := p.controller.handleTimeout p.clock queryStatus insId }
  | .separate instanceId => { p with controller := p.controller.separateInstance instanceId }
  | .recover instanceId => { p with controller := p.controller.recoverInstance instanceId }
  | .delete insId => { p with controller := p.controller.delInstance insId }
  | .persistManager => p.persistManager
  | .restoreManager => p.restoreManager
  | .persistAssembler => p.persistAssembler
  | .restoreAssembler => p.restoreAssembler
  | .restart => p.restart
  | .tick timestamp => { p with clock := max p.clock timestamp }

end ControllerProcess

end PyMotor
