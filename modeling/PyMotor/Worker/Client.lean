import Mathlib.Data.List.Sort
import PyMotor.Lib.Objects
import PyMotor.Pool.InstanceManager
import PyMotor.Scheduler.Server

/-!
# The scheduler client of a worker

`AsyncSchedulerClient` in `motor/coordinator/scheduler/runtime/scheduler_client.py`, as far as the instance
cache goes, with `workload_shm/reader.py` and the answer of the scheduler. A coroutine suspends only where it
waits for an answer of the scheduler, so what it does up to there and from there on are steps of their own.
The callback `on_instance_refreshed` reads the cache only and is left out.
-/

/-!
## The instance cache of a worker

`_SchedulerInstanceCache` in `motor/coordinator/scheduler/runtime/scheduler_client.py`. The lists, the id
indexes and the endpoint index share their `Instance` and `Endpoint` objects, so the objects live in a heap.
`replace_all` never suspends, since nobody holds `_lock` across a suspension.
-/

namespace PyMotor

open Lib

structure SchedulerInstanceCache where
  heap : Heap Instance := []
  instanceCache : PDRole → List Ref := fun _ => []
  instanceMap : PDRole → Dict Int Ref := fun _ => Dict.empty
  endpointMap : Dict (Int × Int) EndpointRef := Dict.empty

namespace SchedulerInstanceCache

def obj (c : SchedulerInstanceCache) (r : Ref) : Instance := c.heap.read r

def modifyObj (c : SchedulerInstanceCache) (r : Ref) (f : Instance → Instance) : SchedulerInstanceCache :=
  { c with heap := c.heap.modify r f }

/-- The endpoint object behind a reference. -/
def endpointAt (c : SchedulerInstanceCache) (a : EndpointRef) : Option Endpoint :=
  (c.obj a.inst).endpointAt a.pod a.key

def getInstances (c : SchedulerInstanceCache) (role : PDRole) : List Instance := (c.instanceCache role).map c.obj

/-! ## Storing a list -/

/-- `{inst.id: inst for inst in instances}`. -/
def byId (c : SchedulerInstanceCache) (instances : List Ref) : Dict Int Ref :=
  Dict.empty.update (instances.map fun r => ((c.obj r).id, r))

/-- The `(inst.id, ep.id)` entries of the endpoints of one instance. -/
def endpointItems (r : Ref) (inst : Instance) : List ((Int × Int) × EndpointRef) :=
  inst.endpointEntries.map fun e => ((inst.id, e.2.2.id), ⟨r, e.1, e.2.1⟩)

def applyRoleUnderLock (c : SchedulerInstanceCache) (role : PDRole) (instances : List Ref) :
    SchedulerInstanceCache :=
  let oldIdsRole := (c.instanceMap role).keys
  { c with
    instanceCache := Function.update c.instanceCache role instances
    instanceMap := Function.update c.instanceMap role (c.byId instances)
    endpointMap := (c.endpointMap.filterKeys fun key => key.1 ∉ oldIdsRole).update
      (instances.flatMap fun r => endpointItems r (c.obj r)) }

def replaceAll (c : SchedulerInstanceCache) (role : PDRole) (instances : List Ref) : SchedulerInstanceCache :=
  c.applyRoleUnderLock role instances

/-- `sorted(instances, key=lambda i: i.id)`. -/
def sortedById (c : SchedulerInstanceCache) (instances : List Ref) : List Ref :=
  instances.insertionSort fun r r' => (c.obj r).id ≤ (c.obj r').id

/-- The literal `_role_map`. -/
def roleMap : String → Option PDRole
  | "prefill" => some .roleP
  | "decode" => some .roleD
  | "both" => some .roleU
  | "hybrid" => some .roleU
  | _ => none

/-- `role_to_list[role]`, sorted. -/
def roleToList (c : SchedulerInstanceCache) (instances : List Ref) (role : PDRole) : List Ref :=
  c.sortedById (instances.filter fun r => roleMap (c.obj r).role = some role)

/-- Store the instances of a reply: nothing when there are none, the list of the role asked for, or the lists
of all three roles. -/
def storeRefs (c : SchedulerInstanceCache) (role : Option PDRole) (instances : List Ref) : SchedulerInstanceCache :=
  if instances.isEmpty then c
  else
    match role with
    | some role => c.replaceAll role (c.sortedById instances)
    | none => [PDRole.roleP, .roleD, .roleU].foldl (fun c' role => c'.replaceAll role (c.roleToList instances role)) c

/-- What `get_available_instances` does with the instances of a reply: they are new objects, the last one of
an id counts. -/
def storeInstances (c : SchedulerInstanceCache) (role : Option PDRole) (instancesData : List Instance) :
    SchedulerInstanceCache :=
  let refs := (c.heap.alloc instancesData).1
  let c := { c with heap := (c.heap.alloc instancesData).2 }
  c.storeRefs role (c.byId refs).values

/-! ## Patching a workload -/

/-- The sum over the index entries of an instance id. -/
def gatheredOf (c : SchedulerInstanceCache) (instanceId : Int) : Workload :=
  ((c.endpointMap.entries.filter fun e => e.1.1 = instanceId).map fun e =>
    ((c.endpointAt e.2).map Endpoint.workload).getD {}).sum

def patchWorkloadFromShm (c : SchedulerInstanceCache) (instanceId endpointId : Int) (role : PDRole)
    (activeTokens activeKvCache : ℚ) : SchedulerInstanceCache :=
  match (c.instanceMap role).get? instanceId with
  | none => c
  | some r =>
    match c.endpointMap.get? (instanceId, endpointId) with
    | none => c
    | some a =>
      let c := c.modifyObj a.inst (·.setEndpointWorkload a.pod a.key
        { activeTokens := activeTokens, activeKvCache := activeKvCache })
      c.modifyObj r (·.setGathered (c.gatheredOf instanceId))

/-! ## Runs of the cache -/

/-- A reply that is stored, or one entry of the shared memory. -/
inductive Op
  | reply (role : Option PDRole) (instances : List Instance)
  | patch (instanceId endpointId : Int) (role : PDRole) (activeTokens activeKvCache : ℚ)

def step (c : SchedulerInstanceCache) : Op → SchedulerInstanceCache
  | .reply role instances => c.storeInstances role instances
  | .patch iid eid role activeTokens activeKvCache => c.patchWorkloadFromShm iid eid role activeTokens activeKvCache

end SchedulerInstanceCache

/-! ## The answer of the scheduler -/

/-- `get_available_instances`; without a role the three pools are merged into one dictionary. -/
def InstanceManager.getAvailableInstances (m : InstanceManager) : Option PDRole → Dict Int Ref
  | none => (m.prefillPool.update m.decodePool.entries).update m.hybridPool.entries
  | some role => m.rolePool role

/-- The data of a GET_AVAILABLE_INSTANCES answer. -/
structure AvailableInstances where
  instances : List Instance
  workloadShmName : Option String

def InstanceManager.handleGetAvailableInstances (m : InstanceManager) (role : Option PDRole)
    (workloadShmName : Option String) : AvailableInstances :=
  { instances := (m.getAvailableInstances role).values.map m.obj, workloadShmName := workloadShmName }

/-! ## The reader of the shared memory -/

structure WorkloadSharedMemoryReader where
  shmName : String
  lastHeartbeatValue : Nat := 0
  lastHeartbeatTime : ℚ := 0
deriving DecidableEq

def heartbeatStaleSec : ℚ := 5

def shmRoleToPdrole : Nat → PDRole
  | 0 => .roleP
  | 1 => .roleD
  | _ => .roleU

def SchedulerInstanceCache.patchEntry (c : SchedulerInstanceCache) (entry : WorkloadShmEntry) :
    SchedulerInstanceCache :=
  c.patchWorkloadFromShm entry.instanceId entry.endpointId (shmRoleToPdrole entry.role) entry.activeTokens
    entry.activeKvCache

/-- `read_and_patch_cache` at the time `now`: instance version and stale heartbeat. The first header that is
written has sequence 1 and brings the magic number; the buffer was created for `max_entries` entries. -/
def WorkloadSharedMemoryReader.readAndPatchCache (reader : WorkloadSharedMemoryReader)
    (buf : WorkloadSharedMemoryWriter) (now : ℚ) (c : SchedulerInstanceCache) :
    (Option Nat × Bool) × WorkloadSharedMemoryReader × SchedulerInstanceCache :=
  if buf.bufHeader.sequence = 0 then ((none, false), reader, c)
  else if buf.bufHeader.maxEntries < buf.bufHeader.entryCount then ((none, false), reader, c)
  else
    let reader :=
      if buf.bufHeader.heartbeatSequence ≠ reader.lastHeartbeatValue then
        { reader with lastHeartbeatValue := buf.bufHeader.heartbeatSequence, lastHeartbeatTime := now }
      else reader
    let heartbeatStale := decide (0 < reader.lastHeartbeatTime ∧ heartbeatStaleSec < now - reader.lastHeartbeatTime)
    ((some buf.bufHeader.instanceVersion, heartbeatStale), reader, buf.unpackEntries.foldl (·.patchEntry ·) c)

/-! ## The client -/

structure AsyncSchedulerClient where
  cache : SchedulerInstanceCache := {}
  workloadReader : Option WorkloadSharedMemoryReader := none
  lastInstanceVersion : Option Nat := none

namespace AsyncSchedulerClient

/-- Attach to the segment that the answer names, unless the reader has it already. -/
def attachReader (client : AsyncSchedulerClient) (shmName : Option String) (attaches : Bool) :
    AsyncSchedulerClient :=
  match shmName with
  | none => client
  | some name =>
    if name = "" ∨ client.workloadReader.map WorkloadSharedMemoryReader.shmName = some name then client
    else if attaches then { client with workloadReader := some { shmName := name }, lastInstanceVersion := none }
    else { client with workloadReader := none }

/-- `get_available_instances` from the answer on; `none` is a timeout or a lost connection. -/
def getAvailableInstances (client : AsyncSchedulerClient) (role : Option PDRole) (attaches : Bool)
    (response : Option (Except String AvailableInstances)) : AsyncSchedulerClient :=
  match response with
  | some (.ok data) =>
    let client := client.attachReader data.workloadShmName attaches
    { client with cache := client.cache.storeInstances role data.instances }
  | some (.error _) => client
  | none => client

/-- The head of `select_and_allocate` up to the refresh of the cache: the version to record once
`get_available_instances(None)` has returned, when it is called. -/
def checkVersion (client : AsyncSchedulerClient) (buf : WorkloadSharedMemoryWriter) (now : ℚ) :
    Option Nat × AsyncSchedulerClient :=
  match client.workloadReader with
  | none => (none, client)
  | some reader =>
    let ((version, stale), reader, cache) := reader.readAndPatchCache buf now client.cache
    let client := { client with workloadReader := some reader, cache := cache }
    if stale then (version, client)
    else
      match version with
      | none => (none, client)
      | some current =>
        if client.lastInstanceVersion ≠ none ∧ client.lastInstanceVersion ≠ some current then (some current, client)
        else (none, { client with lastInstanceVersion := some current })

/-- `_on_instance_change_notify` up to its refresh of the cache. -/
def onInstanceChangeNotify (client : AsyncSchedulerClient) (version : Nat) : Option Nat :=
  if client.lastInstanceVersion = some version then none else some version

/-- The end of both: the version is recorded however `get_available_instances` ended. -/
def recordVersion (client : AsyncSchedulerClient) (version : Option Nat) : AsyncSchedulerClient :=
  match version with
  | none => client
  | some version => { client with lastInstanceVersion := some version }

end AsyncSchedulerClient

end PyMotor
