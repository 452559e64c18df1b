import PyMotor.Lib.Dict
import PyMotor.Recompute.Retry
import PyMotor.Resources.Instance

/-!
# The request manager of a worker

`motor/coordinator/domain/request_manager.py`: the requests in progress and the workload recorded for each
request and role. Every method runs under `_lock` without a suspension inside. The values of the request
dictionary are shared objects, named by a number here.
-/

namespace PyMotor

open Lib

/-- The key of a workload record. -/
abbrev WorkloadKey := String × PDRole

structure RequestManager where
  reqInfoDict : Dict String Nat := Dict.empty
  reqWorkloadDict : Dict WorkloadKey Workload := Dict.empty

namespace RequestManager

def getReqInfo (rm : RequestManager) (reqId : String) : Option Nat := rm.reqInfoDict.get? reqId

def addReqInfo (rm : RequestManager) (reqId : String) (info : Nat) : Bool × RequestManager :=
  if rm.reqInfoDict.contains reqId then (false, rm)
  else (true, { rm with reqInfoDict := rm.reqInfoDict.set reqId info })

/-- Deletes the request and every workload recorded under its id. -/
def delReqInfo (rm : RequestManager) (reqId : String) : Bool × RequestManager :=
  if rm.reqInfoDict.contains reqId then
    (true, { reqInfoDict := rm.reqInfoDict.erase reqId
             reqWorkloadDict := rm.reqWorkloadDict.filterKeys fun k => k.1 ≠ reqId })
  else (false, rm)

def addReqWorkload (rm : RequestManager) (key : WorkloadKey) (workload : Workload) : Bool × RequestManager :=
  if rm.reqWorkloadDict.contains key then (false, rm)
  else (true, { rm with reqWorkloadDict := rm.reqWorkloadDict.set key workload })

def getReqWorkload (rm : RequestManager) (key : WorkloadKey) : Option Workload := rm.reqWorkloadDict.get? key

def updateReqWorkload (rm : RequestManager) (key : WorkloadKey) (workload : Workload) : Bool × RequestManager :=
  if rm.reqWorkloadDict.contains key then
    (true, { rm with reqWorkloadDict := rm.reqWorkloadDict.set key workload })
  else (false, rm)

def delReqWorkload (rm : RequestManager) (key : WorkloadKey) : Bool × RequestManager :=
  if rm.reqWorkloadDict.contains key then
    (true, { rm with reqWorkloadDict := rm.reqWorkloadDict.erase key })
  else (false, rm)

end RequestManager

/-!
## Request ids

`RequestManager.generate_request_id` of `motor/coordinator/domain/request_manager.py`, and the ids that recomputes make of
its ids.
-/

open Recompute

/-- `f"{n:04d}"`. -/
def fourDigits (n : Nat) : List Char := List.replicate (4 - (Nat.toDigits 10 n).length) '0' ++ Nat.toDigits 10 n

/-- `_counter` and `_last_timestamp`. -/
structure RequestIds where
  counter : Nat := 0
  lastTimestamp : Nat := 0

namespace RequestIds

/-- The part of `generate_request_id` under the lock. -/
def tick (s : RequestIds) (currentTimestamp : Nat) : RequestIds :=
  if currentTimestamp = s.lastTimestamp then { s with counter := s.counter + 1 }
  else { counter := 0, lastTimestamp := currentTimestamp }

/-- `generate_request_id`, at this clock reading in microseconds and with these characters of a random UUID. -/
def generateRequestId (s : RequestIds) (currentTimestamp : Nat) (randomSuffix : List Char) : String × RequestIds :=
  let s := s.tick currentTimestamp
  (String.ofList (Nat.toDigits 10 currentTimestamp ++ fourDigits s.counter ++ randomSuffix), s)

/-- What a call of `generate_request_id` reads. -/
structure Call where
  timestamp : Nat
  suffix : List Char

/-- The ids of the calls. -/
def generateRequestIds (s : RequestIds) : List Call → List String
  | [] => []
  | call :: calls =>
    (s.generateRequestId call.timestamp call.suffix).1 ::
      generateRequestIds (s.generateRequestId call.timestamp call.suffix).2 calls

/-- The clock does not go back and has 16 digits, the suffixes have 8 characters, and no reading serves more than 100
calls. -/
structure Calls (calls : List Call) : Prop where
  clock : (calls.map Call.timestamp).Pairwise (· ≤ ·)
  digits : ∀ call ∈ calls, 10 ^ 15 ≤ call.timestamp ∧ call.timestamp < 10 ^ 16
  suffix : ∀ call ∈ calls, call.suffix.length = 8
  rate : ∀ t, calls.countP (fun call => call.timestamp = t) ≤ 100

end RequestIds

/-! ## The tables -/

namespace RequestManager

/-- What is done to the tables for an id. -/
inductive TableAction
  | addReqInfo (info : Nat)
  | delReqInfo
  | addReqWorkload (role : PDRole) (workload : Workload)
  | updateReqWorkload (role : PDRole) (workload : Workload)
  | delReqWorkload (role : PDRole)

def TableAction.apply (rm : RequestManager) (reqId : String) : TableAction → RequestManager
  | .addReqInfo info => (rm.addReqInfo reqId info).2
  | .delReqInfo => (rm.delReqInfo reqId).2
  | .addReqWorkload role workload => (rm.addReqWorkload (reqId, role) workload).2
  | .updateReqWorkload role workload => (rm.updateReqWorkload (reqId, role) workload).2
  | .delReqWorkload role => (rm.delReqWorkload (reqId, role)).2

/-- An action for a request, whose id was bumped so often. -/
structure TableCall where
  request : Nat
  bumps : Nat
  action : TableAction

end RequestManager

/-- The id of a request after so many recomputes. -/
def bumpedId (ids : List String) (request bumps : Nat) : String :=
  modifyReqIdRetrySegment^[bumps] (ids.getD request "")

/-- The tables after these actions. -/
def runTables (ids : List String) (calls : List RequestManager.TableCall) : RequestManager :=
  calls.foldl (fun rm call => call.action.apply rm (bumpedId ids call.request call.bumps)) {}

/-- The ids stay unique when each is bumped up to 99 times. -/
structure UniqueIds (ids : List String) : Prop where
  distinct : ∀ request₁ request₂ bumps₁ bumps₂, request₁ < ids.length → request₂ < ids.length → bumps₁ ≤ 99 → bumps₂ ≤ 99 →
    bumpedId ids request₁ bumps₁ = bumpedId ids request₂ bumps₂ → request₁ = request₂ ∧ bumps₁ = bumps₂
  length : ∀ request bumps, request < ids.length → bumps ≤ 99 → (bumpedId ids request bumps).toList.length = 28
  segment : ∀ request bumps i, request < ids.length → bumps ≤ 99 → i ≠ 16 → i ≠ 17 →
    (bumpedId ids request bumps).toList[i]? = (bumpedId ids request 0).toList[i]?
  tables : ∀ calls : List RequestManager.TableCall, (∀ call ∈ calls, call.request < ids.length ∧ call.bumps ≤ 99) →
    ∀ request bumps, request < ids.length → bumps ≤ 99 →
      (runTables ids calls).getReqInfo (bumpedId ids request bumps) =
        (runTables ids (calls.filter fun call => call.request = request)).getReqInfo (bumpedId ids request bumps) ∧
      ∀ role, (runTables ids calls).getReqWorkload (bumpedId ids request bumps, role) =
        (runTables ids (calls.filter fun call => call.request = request)).getReqWorkload
          (bumpedId ids request bumps, role)

/-!
## The workload action handler

`motor/coordinator/router/workload.py`. The handler computes the change that an action sends to the
scheduler and keeps the record of the request manager in step.
-/

/-- `motor/coordinator/domain/scheduling.py`. -/
structure ScheduledResource where
  inst : Option Instance := none
  endpoint : Option Endpoint := none
deriving DecidableEq

namespace RequestManager

/-- The part of the record that a release action gives back, as the change that is sent. -/
def releaseChange : WorkloadAction → Workload → Workload
  | .releaseKv, w => ⟨-w.activeKvCache, 0⟩
  | .releaseTokens, w => ⟨0, -w.activeTokens⟩
  | .allocation, _ => {}

/-- The record after a release action. -/
def releaseRest : WorkloadAction → Workload → Workload
  | .releaseKv, w => { w with activeKvCache := 0 }
  | .releaseTokens, w => { w with activeTokens := 0 }
  | .allocation, w => w

/-- The test for deleting the record, on the component that the action does not clear. -/
def nothingLeft : WorkloadAction → Workload → Bool
  | .releaseKv, w => decide (w.activeTokens ≤ 0)
  | .releaseTokens, w => decide (w.activeKvCache ≤ 0)
  | .allocation, _ => false

/-- The RELEASE_KV and RELEASE_TOKENS branches. -/
def release (rm : RequestManager) (action : WorkloadAction) (key : WorkloadKey) :
    Option (Workload × PDRole) × RequestManager :=
  match rm.getReqWorkload key with
  | none => (none, rm)
  | some current =>
    let rest := releaseRest action current
    let rm' := (rm.updateReqWorkload key rest).2
    (some (releaseChange action current, key.2),
      if nothingLeft action rest then (rm'.delReqWorkload key).2 else rm')

/-- The ALLOCATION branch. -/
def allocate (rm : RequestManager) (key : WorkloadKey) (reqLen : Nat) :
    Option (Workload × PDRole) × RequestManager :=
  let workload := calculateDemandWorkload key.2 reqLen
  match rm.addReqWorkload key workload with
  | (false, rm') => (none, rm')
  | (true, rm') => (some (workload, key.2), rm')

/-- `_normalize_role`, after the checks that the resource is there. -/
def normalizeRole (resource : Option ScheduledResource) : Option PDRole :=
  match resource with
  | some ⟨some inst, some _⟩ => PDRole.ofString? inst.role
  | _ => none

/-- `compute_and_update`: the change and the role for the scheduler, if there is one to send. -/
def computeAndUpdate (rm : RequestManager) (resource : Option ScheduledResource) (reqId : String)
    (action : WorkloadAction) (reqLen : Nat) : Option (Workload × PDRole) × RequestManager :=
  match normalizeRole resource with
  | none => (none, rm)
  | some role =>
    match action with
    | .allocation => rm.allocate (reqId, role) reqLen
    | .releaseKv => rm.release .releaseKv (reqId, role)
    | .releaseTokens => rm.release .releaseTokens (reqId, role)

end RequestManager

/-! ## Runs of the handler -/

structure HandlerCall where
  resource : Option ScheduledResource
  reqId : String
  action : WorkloadAction
  reqLen : Nat

structure EmittedChange where
  key : WorkloadKey
  action : WorkloadAction
  change : Workload

/-- The records together with the changes that the handler has emitted. -/
structure HandlerRun where
  manager : RequestManager := {}
  emitted : List EmittedChange := []

def HandlerRun.step (s : HandlerRun) (call : HandlerCall) : HandlerRun :=
  let (result, manager) := s.manager.computeAndUpdate call.resource call.reqId call.action call.reqLen
  { manager := manager
    emitted := s.emitted ++ (result.map fun p => ⟨(call.reqId, p.2), call.action, p.1⟩).toList }

/-- The changes emitted for a key since its latest allocation, that one first. An ignored allocation emits
nothing. -/
def sinceAllocation (key : WorkloadKey) (emitted : List EmittedChange) : List Workload :=
  emitted.foldl (fun window e =>
    if e.key = key then if e.action = .allocation then [e.change] else window ++ [e.change] else window) []

end PyMotor
