import PyMotor.Lib.Ledger
import PyMotor.Scheduler.Shm

/-!
# The scheduler process

`motor/coordinator/scheduler/runtime/scheduler_server.py` and the facade in `scheduler.py`. The process owns
the `InstanceManager` and the shared memory writer; `published` lists the versions handed to the PUB
socket. A handler runs without a suspension, since no lock it takes is ever held across one, so it is one
step. An exception ends up as an ERROR response, next to the state the handler left behind.
-/

namespace PyMotor

open Lib

inductive SchedulerType
  | loadBalance
  | roundRobin
  | kvCacheAffinity
deriving DecidableEq, Repr

/-- `hasattr(policy, "update_workload")`. -/
def SchedulerType.hasUpdateWorkload : SchedulerType → Bool
  | .loadBalance => true
  | .roundRobin => false
  | .kvCacheAffinity => false

structure SchedulerServer where
  policy : SchedulerType := .loadBalance
  instanceManager : InstanceManager := {}
  workloadWriter : WorkloadSharedMemoryWriter := {}
  published : List Nat := []

/-- The data of an UPDATE_WORKLOAD request; a missing field is `none`. -/
structure UpdateWorkloadRequest where
  instanceId : Option Int
  endpointId : Option Int
  role : String := ""
  reqId : String := ""
  workloadAction : String := ""
  workloadChange : Option Workload

structure AllocateOnlyRequest where
  instanceId : Option Int
  endpointId : Option Int
  role : String := ""
  reqId : String := ""
  workload : Option Workload

/-- The data of a REFRESH_INSTANCES request, without the instances that do not deserialise. -/
structure RefreshInstancesRequest where
  eventType : String := ""
  instances : List Instance := []

/-- The answer of a handler: an ERROR text, or the data of a SUCCESS. -/
inductive SchedulerResponse
  | error (message : String)
  | success (success : Bool)
  | allocated (placed : Option (Instance × Option Endpoint))
  | refreshed (count : Nat) (changed : Bool)

namespace SchedulerServer

def updateWorkload (s : SchedulerServer) (instanceId endpointId : Int) (change : Workload) : SchedulerServer :=
  if s.policy.hasUpdateWorkload then
    { s with instanceManager := s.instanceManager.updateInstanceWorkload instanceId endpointId change }
  else s

/-- The incremental write after a workload change. -/
def writeSingleEntry (s : SchedulerServer) (instanceId endpointId : Int) : Except PyErr Unit × SchedulerServer :=
  let (res, w, m) := s.workloadWriter.writeSingleEntry s.instanceManager instanceId endpointId
  (res, { s with workloadWriter := w, instanceManager := m })

def handleUpdateWorkload (s : SchedulerServer) (request : UpdateWorkloadRequest) :
    Except PyErr SchedulerResponse × SchedulerServer :=
  match request.instanceId, request.endpointId with
  | some iid, some eid =>
    match request.workloadChange with
    | none => (.ok (.error "Missing workload_change in request data"), s)
    | some change =>
      match WorkloadAction.ofString? request.workloadAction with
      | none => (.error .valueError, s)
      | some _ =>
        if request.role ≠ "" ∧ PDRole.ofString? request.role = none then (.error .valueError, s)
        else
          match (s.updateWorkload iid eid change).writeSingleEntry iid eid with
          | (.error e, s') => (.error e, s')
          | (.ok _, s') => (.ok (.success true), s')
  | _, _ => (.ok (.error "Missing instance_id or endpoint_id in request data"), s)

/-- The endpoint of an id; the inner `break` leaves one pod only, so the last pod with a match wins. -/
def findEndpoint (inst : Instance) (eid : Int) : Option Endpoint :=
  inst.endpoints.values.foldl (fun found eps => (eps.values.find? fun ep => ep.id = eid).or found) none

/-- One role pool of the search for the ALLOCATE_ONLY answer. The loop goes on after a pool whose object
lacks the endpoint. -/
def placeIn (m : InstanceManager) (iid eid : Int) (found : Option (Instance × Option Endpoint)) (role : PDRole) :
    Option (Instance × Option Endpoint) :=
  match found with
  | some (_, some _) => found
  | _ =>
    match (m.rolePool role).get? iid with
    | none => found
    | some r => some (m.obj r, findEndpoint (m.obj r) eid)

/-- The instance and endpoint of the ALLOCATE_ONLY answer. -/
def findPlaced (m : InstanceManager) (iid eid : Int) : Option (Instance × Option Endpoint) :=
  [PDRole.roleP, .roleD, .roleU].foldl (placeIn m iid eid) none

def handleAllocateOnly (s : SchedulerServer) (request : AllocateOnlyRequest) :
    Except PyErr SchedulerResponse × SchedulerServer :=
  match request.instanceId, request.endpointId with
  | some iid, some eid =>
    match request.workload with
    | none => (.ok (.error "Missing workload in request data"), s)
    | some workload =>
      if s.instanceManager.hasInstanceEndpoint iid eid then
        match (s.updateWorkload iid eid workload).writeSingleEntry iid eid with
        | (.error e, s') => (.error e, s')
        | (.ok _, s') => (.ok (.allocated (findPlaced s'.instanceManager iid eid)), s')
      else (.ok (.allocated none), s)
  | _, _ => (.ok (.error "Missing instance_id or endpoint_id in request data"), s)

def publishInstanceChanged (s : SchedulerServer) : SchedulerServer :=
  { s with published := s.published ++ [s.workloadWriter.instanceVersion] }

def handleRefreshInstances (s : SchedulerServer) (request : RefreshInstancesRequest) :
    Except PyErr SchedulerResponse × SchedulerServer :=
  if request.eventType = "" then (.ok (.error "Invalid event type: "), s)
  else
    match EventType.ofString? request.eventType with
    | none => (.error .valueError, s)
    | some event =>
      match s.instanceManager.refresh event request.instances with
      | (.error e, m) => (.error e, { s with instanceManager := m })
      | (.ok false, m) => (.ok (.refreshed request.instances.length false), { s with instanceManager := m })
      | (.ok true, m) =>
        match s.workloadWriter.writeSnapshot m with
        | (.error e, w) => (.error e, { s with instanceManager := m, workloadWriter := w })
        | (.ok _, w) =>
          (.ok (.refreshed request.instances.length true),
            publishInstanceChanged { s with instanceManager := m, workloadWriter := w })

end SchedulerServer

/-!
## The scheduler with the allocations it has made

A run of the scheduler process is a list of handler calls. Next to the process the run keeps the
allocations made so far, each with the endpoint object that it went to and the part that has not been
released. An object is created by one ADD or SET, so the allocations on an object are those since its
instance was last added.
-/

def WorkloadAction.value : WorkloadAction → String
  | .allocation => "Allocation"
  | .releaseKv => "Release_KV"
  | .releaseTokens => "Release_Tokens"

@[simp] theorem WorkloadAction.ofString?_value (a : WorkloadAction) : WorkloadAction.ofString? a.value = some a := by
  cases a <;> rfl

structure Allocation where
  instanceId : Int
  endpointId : Int
  target : EndpointRef
  outstanding : Workload
deriving DecidableEq

structure AccountedServer where
  server : SchedulerServer := {}
  allocations : List Allocation := []

namespace AccountedServer

/-- The handler calls. An UPDATE_WORKLOAD releases a part of the allocation at `index`. -/
inductive Call
  | allocateOnly (request : AllocateOnlyRequest)
  | updateWorkload (index : Nat) (part : Workload) (role : PDRole) (reqId : String) (action : WorkloadAction)
  | refreshInstances (request : RefreshInstancesRequest)

/-- The allocation that ALLOCATE_ONLY makes, if any: on the last endpoint that has the id in an available instance. -/
def allocationOf (m : InstanceManager) (request : AllocateOnlyRequest) : Option Allocation :=
  request.instanceId.bind fun iid =>
    request.endpointId.bind fun eid =>
      request.workload.bind fun workload =>
        (m.availablePool.get? iid).bind fun r =>
          ((m.obj r).lastEndpoint eid).map fun e => ⟨iid, eid, ⟨r, e.1, e.2.1⟩, workload⟩

/-- The UPDATE_WORKLOAD request that releases a part of an allocation. -/
def releaseRequest (a : Allocation) (part : Workload) (role : PDRole) (reqId : String) (action : WorkloadAction) :
    UpdateWorkloadRequest where
  instanceId := some a.instanceId
  endpointId := some a.endpointId
  role := role.value
  reqId := reqId
  workloadAction := action.value
  workloadChange := some (-part)

def step (s : AccountedServer) : Call → AccountedServer
  | .allocateOnly request =>
    { server := (s.server.handleAllocateOnly request).2
      allocations := s.allocations ++ (allocationOf s.server.instanceManager request).toList }
  | .updateWorkload index part role reqId action =>
    match s.allocations[index]? with
    | none => s
    | some a =>
      { server := (s.server.handleUpdateWorkload (releaseRequest a part role reqId action)).2
        allocations := s.allocations.set index { a with outstanding := a.outstanding - part } }
  | .refreshInstances request => { s with server := (s.server.handleRefreshInstances request).2 }

/-- The not yet released parts of the allocations on an endpoint object. -/
def outstandingOn (s : AccountedServer) (target : EndpointRef) : Workload :=
  balance (s.allocations.map fun a => (a.target, a.outstanding)) target

/-- Allocations are not negative, and no part of an allocation is released twice. -/
def Disciplined (s : AccountedServer) : Call → Prop
  | .allocateOnly request => ∀ workload ∈ request.workload, 0 ≤ workload
  | .updateWorkload index part _ _ _ => ∃ a ∈ s.allocations[index]?, 0 ≤ part ∧ part ≤ a.outstanding
  | .refreshInstances _ => True

/-- A release does not reach the scheduler while the instance id stands for a later object than the one
that the allocation went to. -/
def NotReplaced (s : AccountedServer) : Call → Prop
  | .updateWorkload index _ _ _ _ =>
    ∀ a ∈ s.allocations[index]?, ∀ r ∈ s.server.instanceManager.availablePool.get? a.instanceId,
      r = a.target.inst
  | _ => True

instance (s : AccountedServer) (call : Call) : Decidable (s.Disciplined call) :=
  match call with
  | .allocateOnly request => inferInstanceAs (Decidable (∀ workload ∈ request.workload, 0 ≤ workload))
  | .updateWorkload index part _ _ _ =>
    inferInstanceAs (Decidable (∃ a ∈ s.allocations[index]?, 0 ≤ part ∧ part ≤ a.outstanding))
  | .refreshInstances _ => inferInstanceAs (Decidable True)

instance (s : AccountedServer) (call : Call) : Decidable (s.NotReplaced call) :=
  match call with
  | .updateWorkload index _ _ _ _ =>
    inferInstanceAs (Decidable (∀ a ∈ s.allocations[index]?,
      ∀ r ∈ s.server.instanceManager.availablePool.get? a.instanceId, r = a.target.inst))
  | .allocateOnly _ => inferInstanceAs (Decidable True)
  | .refreshInstances _ => inferInstanceAs (Decidable True)

/-- The workload of every endpoint of an available instance is what has been allocated on it and not
released, and it is not negative. -/
def Conserved (s : AccountedServer) : Prop :=
  ∀ id r, s.server.instanceManager.availablePool.get? id = some r →
    ∀ pod key ep, (s.server.instanceManager.obj r).endpointAt pod key = some ep →
      ep.workload = s.outstandingOn ⟨r, pod, key⟩ ∧ 0 ≤ ep.workload

end AccountedServer

end PyMotor
