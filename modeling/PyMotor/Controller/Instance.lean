import PyMotor.Pool.InstanceManager

/-!
# Instances as the controller has them

`motor/common/resources/instance.py` with what only the controller uses: the status, the parallel configuration,
the node managers and the heartbeats of the endpoints. `time.time()` is an argument.
-/

namespace PyMotor

open Lib

inductive InsStatus
  | initial
  | inactive
  | active
  | deleted
deriving DecidableEq, Repr

inductive InsConditionEvent
  | instanceInit
  | instanceHeartbeatTimeout
  | instanceNormal
  | instanceAbnormal
deriving DecidableEq, Repr

def activeInstanceHeartbeatTimeout : ℚ := 5

def clearInstanceTimeout : ℚ := 300

structure NodeManagerInfo where
  podIp : String
  port : String
  deviceNum : Int := 0
deriving DecidableEq

/-- `ParallelConfig`; its `__init__` replaces a world size of 0 by the product of the sizes. -/
structure ParallelConfig where
  dpSize : Int := 1
  cpSize : Int := 1
  tpSize : Int := 1
  spSize : Int := 1
  epSize : Int := 1
  ppSize : Int := 1
  worldSize : Int := 1
  world : worldSize = 0 → dpSize * cpSize * tpSize * ppSize = 0 := by simp
deriving DecidableEq

/-- Data and tensor parallelism only. -/
def ParallelConfig.ofSizes (dpSize tpSize : Int) : ParallelConfig where
  dpSize := dpSize
  tpSize := tpSize
  worldSize := dpSize * tpSize
  world h := by simpa using h

def Endpoint.isAlive (ep : Endpoint) (timestamp heartbeatTimeout : ℚ) : Bool :=
  timestamp - ep.hbTimestamp ≤ heartbeatTimeout

/-- An instance of the controller; `toInstance` is what the coordinator gets. -/
structure ManagedInstance extends Instance where
  status : InsStatus := .initial
  parallelConfig : Option ParallelConfig := none
  enableMultiEndpoints : Bool := true
  nodeManagers : List NodeManagerInfo := []
deriving DecidableEq

instance : Inhabited ManagedInstance := ⟨{ toInstance := default }⟩

namespace ManagedInstance

/-! ## Node managers -/

def addNodeMgr (x : ManagedInstance) (podIp port : String) (deviceNum : Int) : ManagedInstance :=
  if ⟨podIp, port, deviceNum⟩ ∈ x.nodeManagers then x
  else { x with nodeManagers := x.nodeManagers ++ [⟨podIp, port, deviceNum⟩] }

/-- `del_node_mgr`; the entry that is looked for has the default `device_num`. -/
def delNodeMgr (x : ManagedInstance) (podIp port : String) : ManagedInstance :=
  { x with nodeManagers := x.nodeManagers.erase { podIp := podIp, port := port } }

def hasNodeMgr (x : ManagedInstance) (podIp : String) : Bool := x.nodeManagers.any fun nm => nm.podIp = podIp

/-! ## Endpoints -/

def addEndpoints (x : ManagedInstance) (podIp : String) (endpoints : Dict Int Endpoint) : ManagedInstance :=
  { x with endpoints := x.endpoints.set podIp endpoints }

def delEndpoints (x : ManagedInstance) (podIp : String) : ManagedInstance :=
  { x with endpoints := x.endpoints.erase podIp }

def getEndpointsNum (x : ManagedInstance) : Nat := (x.endpoints.values.map fun eps => eps.entries.length).sum

def getEndpoints (x : ManagedInstance) (ip : String) : Dict Int Endpoint := (x.endpoints.get? ip).getD Dict.empty

/-- `get_all_endpoints`, without its cache. -/
def getAllEndpoints (x : ManagedInstance) : List Endpoint :=
  if x.enableMultiEndpoints then x.endpointList else x.endpointList.filter fun ep => ep.id = 0

def getExpectedEndpointCount (x : ManagedInstance) : Int :=
  match x.parallelConfig with
  | none => 0
  | some config =>
    if x.enableMultiEndpoints then config.dpSize
    else
      match x.nodeManagers with
      | [] => 0
      | nm :: _ => if nm.deviceNum ≤ 0 then 0 else (config.worldSize + nm.deviceNum - 1) / nm.deviceNum

def isEndpointsEnough (x : ManagedInstance) : Bool :=
  match x.parallelConfig with
  | none => false
  | some config =>
    if x.enableMultiEndpoints then (x.getEndpointsNum : Int) = config.dpSize
    else 0 < x.getExpectedEndpointCount ∧ (x.nodeManagers.length : Int) = x.getExpectedEndpointCount

/-! ## Status and heartbeats -/

def updateInstanceStatus (x : ManagedInstance) (status : InsStatus) : ManagedInstance := { x with status := status }

def isAllEndpointsAlive (x : ManagedInstance) (timestamp : ℚ) : Bool :=
  let timeout := if x.status = .active then activeInstanceHeartbeatTimeout else clearInstanceTimeout
  x.endpointList.all fun ep => ep.isAlive timestamp timeout

def isAllEndpointsReady (x : ManagedInstance) : Bool := x.endpointList.all fun ep => ep.status = .normal

def isHaveOneEndpointAbnormal (x : ManagedInstance) : Bool := x.endpointList.any fun ep => ep.status = .abnormal

/-- The loop of `update_heartbeat`; `status[endpoint.id]` may raise in the middle of it. -/
def updateStatuses (timestamp : ℚ) (status : Dict Int EndpointStatus) : List (Int × Endpoint) → Dict Int Endpoint →
    Except PyErr Unit × Dict Int Endpoint
  | [], eps => (.ok (), eps)
  | (key, ep) :: rest, eps =>
    let eps := eps.adjust key fun ep => { ep with hbTimestamp := timestamp }
    match status.get? ep.id with
    | none => (.error .keyError, eps)
    | some st => updateStatuses timestamp status rest (eps.adjust key fun ep => { ep with status := st })

def updateHeartbeat (x : ManagedInstance) (ip : String) (timestamp : ℚ) (status : Dict Int EndpointStatus) :
    Except PyErr Bool × ManagedInstance :=
  match x.endpoints.get? ip with
  | none => (.ok false, x)
  | some eps =>
    if eps.entries.length ≠ status.entries.length then (.ok false, x)
    else
      match updateStatuses timestamp status eps.entries eps with
      | (.error e, eps') => (.error e, { x with endpoints := x.endpoints.set ip eps' })
      | (.ok _, eps') => (.ok true, { x with endpoints := x.endpoints.set ip eps' })

/-- `{endpoint.id: EndpointStatus.INITIAL for endpoint in ins.endpoints[pod_ip].values()}`. -/
def initialStatus (x : ManagedInstance) (podIp : String) : Dict Int EndpointStatus :=
  Dict.empty.update ((((x.endpoints.get? podIp).map Dict.values).getD []).map fun ep => (ep.id, .initial))

/-- The initial heartbeats of `add_instance`, one for each pod. -/
def initialHeartbeats (x : ManagedInstance) (timestamp : ℚ) : ManagedInstance :=
  x.endpoints.keys.foldl (fun x podIp => (x.updateHeartbeat podIp timestamp (x.initialStatus podIp)).2) x

/-- `endpoint.hb_timestamp = timestamp` for every endpoint. -/
def refreshHeartbeats (x : ManagedInstance) (timestamp : ℚ) : ManagedInstance :=
  { x with endpoints := x.endpoints.mapValues fun eps => eps.mapValues fun ep => { ep with hbTimestamp := timestamp } }

end ManagedInstance

/-! ## What heartbeats leave alone -/

/-- The endpoint without its status and heartbeat. -/
def Endpoint.still (ep : Endpoint) : Endpoint := { ep with status := .initial, hbTimestamp := 0 }

/-- The pods with their endpoints, without what heartbeats write. -/
def ManagedInstance.shape (x : ManagedInstance) : Dict String (Dict Int Endpoint) :=
  x.endpoints.mapValues fun eps => eps.mapValues Endpoint.still

end PyMotor
