import PyMotor.Controller.Instance
import PyMotor.Lib.Json
import PyMotor.Lib.Selection
import PyMotor.Scheduler.Server

/-!
# The scheduling policies

`motor/coordinator/scheduler/policy/` and `Workload.calculate_workload_score`. A policy picks an instance of a list and
one of its endpoints. The floats of the scores are exact rationals. The reply of the conductor is a JSON value; what it
does not have raises.
-/

namespace PyMotor

open Lib

/-- The `ValueError` is for a missing or an unknown role. -/
def Workload.calculateWorkloadScore (w : Workload) : Option String → Except PyErr ℚ
  | none => .error .valueError
  | some "prefill" => .ok (w.activeTokens + w.activeKvCache * (3 / 10))
  | some "decode" => .ok w.activeTokens
  | some "both" => .ok (w.activeTokens + w.activeKvCache * (15 / 100))
  | some _ => .error .valueError

/-! ## Load balance -/

namespace LoadBalancePolicy

/-- The score of an instance, if it does not raise. -/
def instanceScore (inst : ManagedInstance) : Option ℚ :=
  (inst.gatheredWorkload.calculateWorkloadScore (some inst.role)).toOption

def endpointScore (inst : ManagedInstance) (ep : Endpoint) : Option ℚ :=
  (ep.workload.calculateWorkloadScore (some inst.role)).toOption

/-- The loop for a start index: by position, beginning there. -/
def rotatedLoop (instances : List ManagedInstance) (startIndex : Nat) : Option (ℚ × ManagedInstance) :=
  (List.range instances.length).foldl (fun best i =>
    match instances[(startIndex + i) % instances.length]? with
    | none => best
    | some inst => keepMin instanceScore best inst) none

/-- The loop without a start index. -/
def plainLoop (instances : List ManagedInstance) : Option (ℚ × ManagedInstance) :=
  instances.foldl (keepMin instanceScore) none

/-- `select_instance_from_list`; the role is not read. -/
def selectInstanceFromList (instances : List ManagedInstance) (_role : Option PDRole) (startIndex : Nat) :
    Option ManagedInstance :=
  if startIndex ≠ 0 then
    if instances.isEmpty then none else (rotatedLoop instances startIndex).map Prod.snd
  else (plainLoop instances).map Prod.snd

def selectEndpointFromInstance (inst : ManagedInstance) : Option Endpoint :=
  if inst.getAllEndpoints.isEmpty then none
  else (inst.getAllEndpoints.foldl (keepMin (endpointScore inst)) none).map Prod.snd

/-- `_select_instance` on what `get_available_instances(role)` gives. -/
def selectInstance (active : Dict Int ManagedInstance) (role : Option PDRole) : Option ManagedInstance :=
  if active.values.isEmpty then none else selectInstanceFromList active.values role 0

end LoadBalancePolicy

/-! ## Round robin -/

/-- The counters of the instances by role, and of the endpoints by instance id. -/
structure RoundRobinPolicy where
  instanceRrCounters : Dict (Option PDRole) Int := Dict.empty
  endpointRrCounters : Dict Int Int := Dict.empty

namespace RoundRobinPolicy

/-- `select_instance_from_list`, with the next counter. -/
def selectInstanceFromList (instances : List ManagedInstance) (counter : Int) : Option ManagedInstance × Int :=
  if instances.isEmpty then (none, counter)
  else (instances[(counter % instances.length).toNat]?, counter + 1)

/-- `select_endpoint_from_instance`, with the counters it leaves. -/
def selectEndpointFromInstance (inst : ManagedInstance) (counters : Dict Int Int) : Option Endpoint × Dict Int Int :=
  let allEndpoints := inst.getAllEndpoints
  if allEndpoints.isEmpty then (none, counters)
  else
    let counter := (counters.get? inst.id).getD 0
    (allEndpoints[(counter % allEndpoints.length).toNat]?,
      counters.set inst.id ((counter + 1) % allEndpoints.length))

/-- `_select_instance` on what `get_available_instances(role)` gives; the counter is kept modulo the number. -/
def selectInstance (s : RoundRobinPolicy) (active : Dict Int ManagedInstance) (role : Option PDRole) :
    Option ManagedInstance × RoundRobinPolicy :=
  let instances := active.values
  if instances.isEmpty then (none, s)
  else
    let (selected, next) := selectInstanceFromList instances ((s.instanceRrCounters.get? role).getD 0)
    (selected, { s with instanceRrCounters := s.instanceRrCounters.set role (next % instances.length) })

def selectEndpoint (s : RoundRobinPolicy) (inst : ManagedInstance) : Option Endpoint × RoundRobinPolicy :=
  let (selected, counters) := selectEndpointFromInstance inst s.endpointRrCounters
  (selected, { s with endpointRrCounters := counters })

/-- `select_instance_and_endpoint` of the base class. -/
def selectInstanceAndEndpoint (s : RoundRobinPolicy) (active : Dict Int ManagedInstance) (role : Option PDRole) :
    Option (ManagedInstance × Endpoint) × RoundRobinPolicy :=
  match s.selectInstance active role with
  | (none, s) => (none, s)
  | (some inst, s) =>
    let (selected, s) := s.selectEndpoint inst
    (selected.map fun ep => (inst, ep), s)

end RoundRobinPolicy

/-! ## Affinity to the key-value cache -/

/-- What reading a reply may raise. -/
inductive ReplyError
  | attributeError
  | typeError
deriving DecidableEq, Repr

namespace KvCacheAffinityPolicy

/-- `x.get(k, default)`, which only a dictionary has. -/
def getField (x : Json) (k : String) (default : Json) : Except ReplyError Json :=
  match x with
  | .obj items => .ok ((JsonObj.get? items k).getD default)
  | _ => .error .attributeError

/-- What can be compared with a number. -/
def readNumber : Json → Except ReplyError ℚ
  | .bool b => .ok (if b then 1 else 0)
  | .int n => .ok n
  | .float q => .ok q
  | _ => .error .typeError

/-- The loop over the instances; `best` is `max_kv_matched` with the selected instance and its `DP`. -/
def matchInstances (tenant : Json) : List ManagedInstance → ℚ × Option (ManagedInstance × Json) →
    Except ReplyError (ℚ × Option (ManagedInstance × Json))
  | [], best => .ok best
  | inst :: rest, best => do
    match ← getField tenant ("vllm-prefill-" ++ toString inst.id) .null with
    | .null => matchInstances tenant rest best
    | data =>
      let matched ← readNumber (← getField data "longest_matched" (.int 0))
      if matched < best.1 then matchInstances tenant rest best
      else
        let dp ← getField data "DP" (.obj [])
        matchInstances tenant rest (matched, some (inst, dp))

/-- The loop over the endpoints of all pods; `best` is `max_kv_dp` with the selected endpoint. -/
def matchEndpoints (dp : Json) : List Endpoint → ℚ × Option Endpoint → Except ReplyError (ℚ × Option Endpoint)
  | [], best => .ok best
  | ep :: rest, best => do
    let kvDp ← readNumber (← getField dp (toString ep.id) (.int 0))
    if kvDp < best.1 then matchEndpoints dp rest best else matchEndpoints dp rest (kvDp, some ep)

/-- `select_endpoint_from_list` on the reply of the conductor. -/
def selectEndpointFromList (instances : List ManagedInstance) (reply : Json) :
    Except ReplyError (Option (ManagedInstance × Endpoint)) := do
  match ← getField reply "default" .null with
  | .null => return none
  | tenant =>
    match ← matchInstances tenant instances (0, none) with
    | (_, none) => return none
    | (_, some (inst, dp)) =>
      if dp.truthy then
        let (_, selected) ← matchEndpoints dp inst.endpointList (0, none)
        return selected.map fun ep => (inst, ep)
      else return none

end KvCacheAffinityPolicy

/-!
## The selection of a scheduler client

What `AsyncSchedulerClient` of `motor/coordinator/scheduler/runtime/scheduler_client.py` selects from a list of instances,
and the part of it that the selection reads and changes. The reply of the conductor to the request is an argument.
-/

/-- The constructor raises the worker's number to 0 and the number of workers to 1. -/
structure ClientSelector where
  schedulerType : SchedulerType := .roundRobin
  clientIndex : Nat := 0
  clientCount : Nat := 1
  clientCount_pos : 0 < clientCount := by decide
  instanceRrCounters : Dict PDRole Int := Dict.empty
  endpointRrCounters : Dict Int Int := Dict.empty

namespace ClientSelector

def ofConfig (schedulerType : SchedulerType) (clientIndex clientCount : Int) : ClientSelector where
  schedulerType := schedulerType
  clientIndex := (max 0 clientIndex).toNat
  clientCount := (max 1 clientCount).toNat
  clientCount_pos := by omega

/-- `(n * self._client_index) // self._client_count if n else 0`. -/
def startOffset (client : ClientSelector) (n : Nat) : Nat :=
  if n = 0 then 0 else n * client.clientIndex / client.clientCount

def selectInstanceByLoadBalance (client : ClientSelector) (instances : List ManagedInstance) (role : PDRole) :
    Option ManagedInstance :=
  LoadBalancePolicy.selectInstanceFromList instances (some role) (client.startOffset instances.length)

def selectEndpointForInstance (client : ClientSelector) (inst : ManagedInstance) :
    Option (ManagedInstance × Endpoint) × ClientSelector :=
  match inst.getAllEndpoints with
  | [] => (none, client)
  | first :: _ =>
    match client.schedulerType with
    | .roundRobin =>
      let (ep, counters) := RoundRobinPolicy.selectEndpointFromInstance inst client.endpointRrCounters
      (ep.map fun ep => (inst, ep), { client with endpointRrCounters := counters })
    | _ => (some (inst, (LoadBalancePolicy.selectEndpointFromInstance inst).getD first), client)

/-- The path of the default policy, and the last resort of the others. -/
def selectByRoundRobin (client : ClientSelector) (instances : List ManagedInstance) (role : PDRole) :
    Option (ManagedInstance × Endpoint) × ClientSelector :=
  let offset : Int := client.startOffset instances.length
  let counter := (client.instanceRrCounters.get? role).getD 0
  let (selected, next) := RoundRobinPolicy.selectInstanceFromList instances (counter + offset)
  let client := { client with instanceRrCounters := client.instanceRrCounters.set role (next - offset) }
  match selected with
  | none => (none, client)
  | some inst => client.selectEndpointForInstance inst

/-- The least loaded instance, or the next one in turn. -/
def selectByLoadBalance (client : ClientSelector) (instances : List ManagedInstance) (role : PDRole) :
    Option (ManagedInstance × Endpoint) × ClientSelector :=
  match client.selectInstanceByLoadBalance instances role with
  | some inst => client.selectEndpointForInstance inst
  | none => client.selectByRoundRobin instances role

/-- `_select_instance_and_endpoint_from_list`. -/
def selectFromList (client : ClientSelector) (instances : List ManagedInstance) (role : PDRole) (reply : Json) :
    Except ReplyError (Option (ManagedInstance × Endpoint)) × ClientSelector :=
  if instances.isEmpty then (.ok none, client)
  else
    match client.schedulerType with
    | .loadBalance => (client.selectByLoadBalance instances role).map .ok id
    | .kvCacheAffinity =>
      if role = .roleP then
        match KvCacheAffinityPolicy.selectEndpointFromList instances reply with
        | .error e => (.error e, client)
        | .ok (some selected) => (.ok (some selected), client)
        | .ok none => (client.selectByLoadBalance instances role).map .ok id
      else (client.selectByLoadBalance instances role).map .ok id
    | .roundRobin => (client.selectByRoundRobin instances role).map .ok id

end ClientSelector

end PyMotor
