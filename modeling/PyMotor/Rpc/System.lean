import PyMotor.Lib.Run
import PyMotor.Request.RequestManager
import PyMotor.Scheduler.Server
import PyMotor.Scheduler.Spec

/-!
# Workers and scheduler over the allocation RPC

`prepare_resource` in `motor/coordinator/router/strategies/base.py`, `select_and_allocate` and `send_request` in
`motor/coordinator/scheduler/runtime/scheduler_client.py`, and the scheduler process behind the socket.

A call of `prepare_resource` suspends while it selects, while it waits for the answer to its ALLOCATE_ONLY
request, and while it sleeps between two attempts. A message is named by its number, the `uuid` of the
source. The network may delay or lose a request or its answer. An answer that nobody waits for is dropped
by `_receive_loop`.
-/

namespace PyMotor

open Lib

inductive CallPhase
  | selecting
  | waiting (rid : Nat)
  | sleeping
  | prepared
  | failed
  | cancelled
deriving DecidableEq, Repr

/-- A call of `prepare_resource` for a request of a worker. -/
structure PrepareCall where
  worker : Nat
  reqId : String
  role : PDRole
  reqLen : Nat
  attempt : Nat := 0
  phase : CallPhase := .selecting

/-- Where a message is. `applied` says whether the scheduler made the allocation, `placed` what it answered. -/
inductive MessageStatus
  | sent
  | lost
  | answered (placed : Option (Instance × Endpoint)) (applied : Bool)
  | answerLost (applied : Bool)
  | received

/-- The scheduler has made the allocation and the client does not know yet, or may still make it. -/
def MessageStatus.Live : MessageStatus → Prop
  | .sent => True
  | .answered _ applied => applied = true
  | .answerLost applied => applied = true
  | .lost => False
  | .received => False

structure AllocateMessage where
  call : Nat
  request : AllocateOnlyRequest
  workload : Workload
  status : MessageStatus := .sent

structure RpcSystem where
  maxRetry : Nat
  server : SchedulerServer := {}
  workers : List RequestManager := []
  calls : List PrepareCall := []
  messages : List AllocateMessage := []

namespace RpcSystem

inductive Event
  | prepareResource (worker : Nat) (reqId : String) (role : PDRole) (reqLen : Nat)
  | select (call : Nat) (chosen : Option (Int × Int))
  | deliver (rid : Nat)
  | loseRequest (rid : Nat)
  | loseAnswer (rid : Nat)
  | receive (rid : Nat)
  | timeout (call : Nat)
  | cancel (call : Nat)
  | wake (call : Nat)

/-- The workload that the client allocates: nothing under round robin, else the demand. -/
def allocationWorkload (policy : SchedulerType) (role : PDRole) (reqLen : Nat) : Workload :=
  if policy = .roundRobin then {} else calculateDemandWorkload role reqLen

def setPhase (s : RpcSystem) (i : Nat) (phase : CallPhase) : RpcSystem :=
  { s with calls := s.calls.modify i fun c => { c with phase := phase } }

def setStatus (s : RpcSystem) (rid : Nat) (status : MessageStatus) : RpcSystem :=
  { s with messages := s.messages.modify rid fun msg => { msg with status := status } }

/-- The `except Exception` branch: sleep and try again, or give up after the last attempt. -/
def attemptFailed (s : RpcSystem) (i : Nat) (c : PrepareCall) : RpcSystem :=
  s.setPhase i (if c.attempt + 1 < s.maxRetry then .sleeping else .failed)

/-- The instance and endpoint that `select_and_allocate` reads from the answer. -/
def placedIn (answer : Except PyErr SchedulerResponse) : Option (Instance × Endpoint) :=
  match answer with
  | .ok (.allocated (some (inst, some endpoint))) => some (inst, endpoint)
  | _ => none

/-- `select_and_allocate` up to the request: the request of a local selection. -/
def sendAllocateOnly (s : RpcSystem) (i : Nat) (c : PrepareCall) (iid eid : Int) : RpcSystem :=
  let workload := allocationWorkload s.server.policy c.role c.reqLen
  let request : AllocateOnlyRequest :=
    { instanceId := some iid
      endpointId := some eid
      role := c.role.value
      reqId := c.reqId
      workload := some workload }
  setPhase { s with messages := s.messages ++ [{ call := i, request := request, workload := workload }] } i
    (.waiting s.messages.length)

/-- The rest of `prepare_resource` after an answer: record the workload. -/
def recordAllocation (s : RpcSystem) (i : Nat) (c : PrepareCall) (workload : Workload) : RpcSystem :=
  match (s.workers.getD c.worker {}).addReqWorkload (c.reqId, c.role) workload with
  | (false, _) => s.attemptFailed i c
  | (true, rm) => setPhase { s with workers := s.workers.set c.worker rm } i .prepared

/-- The scheduler handles a request. -/
def serve (s : RpcSystem) (rid : Nat) (msg : AllocateMessage) : RpcSystem :=
  let (answer, server) := s.server.handleAllocateOnly msg.request
  let applied :=
    match msg.request.instanceId, msg.request.endpointId with
    | some iid, some eid => s.server.instanceManager.hasInstanceEndpoint iid eid
    | _, _ => false
  setStatus { s with server := server } rid (.answered (placedIn answer) applied)

def step (s : RpcSystem) : Event → RpcSystem
  | .prepareResource worker reqId role reqLen =>
    if worker < s.workers.length then
      let phase := if s.maxRetry = 0 then .failed else .selecting
      { s with
        calls := s.calls ++
          [{ worker := worker, reqId := reqId, role := role, reqLen := reqLen, phase := phase }] }
    else s
  | .select i chosen =>
    match s.calls[i]? with
    | some c =>
      if c.phase = .selecting then
        match chosen with
        | none => s.attemptFailed i c
        | some (iid, eid) => s.sendAllocateOnly i c iid eid
      else s
    | none => s
  | .deliver rid =>
    match s.messages[rid]? with
    | some msg =>
      match msg.status with
      | .sent => s.serve rid msg
      | _ => s
    | none => s
  | .loseRequest rid =>
    match s.messages[rid]? with
    | some msg =>
      match msg.status with
      | .sent => s.setStatus rid .lost
      | _ => s
    | none => s
  | .loseAnswer rid =>
    match s.messages[rid]? with
    | some msg =>
      match msg.status with
      | .answered _ applied => s.setStatus rid (.answerLost applied)
      | _ => s
    | none => s
  | .receive rid =>
    match s.messages[rid]? with
    | some msg =>
      match msg.status with
      | .answered placed _ =>
        let s' := s.setStatus rid .received
        match s.calls[msg.call]? with
        | some c =>
          if c.phase = .waiting rid then
            match placed with
            | none => s'.attemptFailed msg.call c
            | some _ => s'.recordAllocation msg.call c msg.workload
          else s'
        | none => s'
      | _ => s
    | none => s
  | .timeout i =>
    match s.calls[i]? with
    | some c =>
      match c.phase with
      | .waiting _ => s.attemptFailed i c
      | _ => s
    | none => s
  | .cancel i =>
    match s.calls[i]? with
    | some c =>
      match c.phase with
      -- `send_request` catches the CancelledError and returns None.
      | .waiting _ => s.attemptFailed i c
      | .selecting => s.setPhase i .cancelled
      | .sleeping => s.setPhase i .cancelled
      | _ => s
    | none => s
  | .wake i =>
    match s.calls[i]? with
    | some c =>
      match c.phase with
      | .sleeping =>
        { s with calls := s.calls.modify i fun c => { c with attempt := c.attempt + 1, phase := .selecting } }
      | _ => s
    | none => s

/-! ## The two totals -/

/-- The workload recorded in the request managers of the workers. -/
def recordedWorkload (s : RpcSystem) : Workload :=
  (s.workers.map fun rm => rm.reqWorkloadDict.values.sum).sum

/-- No call waits for an answer, and no message is in flight. -/
def Quiescent (s : RpcSystem) : Prop :=
  (∀ c ∈ s.calls, ∀ rid, c.phase ≠ .waiting rid) ∧
  ∀ msg ∈ s.messages, msg.status ≠ .sent ∧ ∀ placed applied, msg.status ≠ .answered placed applied

/-! ## The condition on a step -/

/-- The call does not wait for a message that the scheduler has applied or may still apply. -/
def GivesUpSafely (s : RpcSystem) (i : Nat) : Prop :=
  ∀ c ∈ s.calls[i]?, ∀ rid, c.phase = .waiting rid → ∀ msg ∈ s.messages[rid]?, ¬ msg.status.Live

/-- A client gives up only on a message that the scheduler has not applied and will not apply, a granted
allocation meets no record of its key, and the scheduler can write the shared memory. -/
def NoOrphan (s : RpcSystem) : Event → Prop
  | .deliver _ => s.server.WriteFits
  | .receive rid =>
    ∀ msg ∈ s.messages[rid]?, ∀ placed applied, msg.status = .answered (some placed) applied →
      ∀ c ∈ s.calls[msg.call]?, c.phase = .waiting rid →
        (s.workers.getD c.worker {}).getReqWorkload (c.reqId, c.role) = none
  | .timeout i => s.GivesUpSafely i
  | .cancel i => s.GivesUpSafely i
  | _ => True

end RpcSystem

end PyMotor
