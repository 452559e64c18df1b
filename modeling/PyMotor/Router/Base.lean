import PyMotor.Recompute.Retry
import PyMotor.Request.RequestManager
import PyMotor.Scheduler.Server

/-!
# The base router

`motor/coordinator/router/strategies/base.py` and `motor/coordinator/models/request.py`. What a router
meets at its awaits (the scheduler, the engines, the client) comes as data.
-/

namespace PyMotor

open Lib Recompute

inductive ReqState
  | arrive
  | pScheduling
  | pAllocated
  | prefillEnd
  | firstTokenFinish
  | dScheduling
  | dAllocated
  | decodeEnd
  | invalid
  | timeout
  | exception
  | recompute
deriving DecidableEq, Repr

structure RequestInfo where
  reqId : String
  reqData : JsonObj
  reqLen : Nat
  api : String
  entryApi : String := ""
  recomputeEngineMode : Option String := none
  state : ReqState := .arrive

def RequestInfo.effectiveEntryApi (info : RequestInfo) : String :=
  if info.entryApi = "" then info.api else info.entryApi

structure ErrorResponse where
  message : String
  type : String
  code : Nat
deriving DecidableEq, Repr

def buildErrorResponse : PyException → ErrorResponse
  | .httpException status detail => ⟨detail, "HTTPException", status⟩
  | .httpStatusError status message => ⟨message, "HTTPStatusError", status⟩
  | .other type message => ⟨message, type, 500⟩
  | .builtin type => ⟨"", type, 500⟩

/-- What the client gets: a chunk made from a frame of the engine, or an error chunk. -/
inductive StreamOutput
  | chunk (frame sent : Bytes)
  | error (response : ErrorResponse)

/-- The configuration, the JSON library and the client of a request. -/
structure RouterEnv where
  codec : Recompute.JsonCodec
  schedulerType : SchedulerType := .loadBalance
  maxRetry : Nat := 5
  transportRetryLimit : Nat := 5
  recomputeRetryLimit : Nat := 5
  recomputeEnabled : Bool := true
  /-- The metaserver of the worker in CDP mode. -/
  metaserverUrl : String := ""
  /-- The client closes the stream at the yield with this number. -/
  closesAt : Nat → Bool := fun _ => false
  /-- The role of the instance with which the scheduler answers an allocation for a role, when this many workload changes
  have been sent. It finds the instance by its id, in whichever pool. -/
  answeredRole : Nat → PDRole → PDRole := fun _ role => role

/-- The scheduler answers with an instance of the role that it is asked for. -/
def RouterEnv.AnswersAsRequested (env : RouterEnv) : Prop := ∀ n role, env.answeredRole n role = role

/-- The state of a router. `sent` holds the workload changes that the router has sent and that the scheduler has
answered, by instance and endpoint. -/
structure Router where
  reqInfo : RequestInfo
  requestManager : RequestManager := {}
  sent : List ((Int × Int) × Workload) := []
  firstChunkSent : Bool := false
  streamChunkSentToClient : Bool := false
  isFinished : Bool := false
  retryCount : Nat := 0
  wantsRetry : Bool := false
  out : List StreamOutput := []

namespace Router

def updateState (s : Router) (state : ReqState) : Router := { s with reqInfo := { s.reqInfo with state := state } }

/-! ## Resources -/

/-- What one `select_and_allocate` gives: no resource, the endpoint on which the scheduler has allocated, or a
cancellation (also of the sleep before the next attempt). `applied` is where the scheduler has allocated although
the client has given up on the answer. -/
inductive SelectOutcome
  | nothing (applied : Option (Int × Int) := none)
  | allocated (instanceId endpointId : Int)
  | cancelled (applied : Option (Int × Int) := none)
deriving DecidableEq

/-- The workload that `select_and_allocate` allocates. -/
def allocateWorkload (env : RouterEnv) (s : Router) (role : PDRole) : Workload :=
  if env.schedulerType = .roundRobin then {} else calculateDemandWorkload role s.reqInfo.reqLen

/-- The instance and the endpoint in an answer of the scheduler. -/
def scheduledResource (role : PDRole) (instanceId endpointId : Int) : ScheduledResource :=
  { inst := some { id := instanceId, role := role.value }, endpoint := some { id := endpointId } }

def schedulingFailed (env : RouterEnv) (role : PDRole) (lastError : Option String) : PyException :=
  .httpException 503 ("Scheduling failed after " ++ toString env.maxRetry ++ " attempts, role: " ++ role.text ++
    match lastError with
    | some e => ", last error: " ++ e
    | none => "")

/-- The attempts of `prepare_resource`. -/
def prepareAttempts (env : RouterEnv) (role : PDRole) :
    Nat → List SelectOutcome → Option String → Router → Except Raised ScheduledResource × Router
  | 0, _, lastError, s => (.error (.exception (schedulingFailed env role lastError)), s.updateState .exception)
  | n + 1, outcomes, _, s =>
    match outcomes.head?.getD .nothing with
    | .nothing _ =>
      prepareAttempts env role n outcomes.tail
        (some ("No instance available for role " ++ role.text ++ " or allocate failed")) s
    | .cancelled _ => (.error .cancelled, s)
    | .allocated iid eid =>
      let workload := allocateWorkload env s role
      let resource := scheduledResource (env.answeredRole s.sent.length role) iid eid
      let s := { s with sent := s.sent ++ [((iid, eid), workload)] }
      match s.requestManager.addReqWorkload (s.reqInfo.reqId, role) workload with
      | (false, _) =>
        prepareAttempts env role n outcomes.tail
          (some ("Request " ++ s.reqInfo.reqId ++ " already allocated for role " ++ role.text)) s
      | (true, rm) =>
        (.ok resource,
          updateState { s with requestManager := rm } (if role = .roleP then .pAllocated else .dAllocated))

def prepareResource (env : RouterEnv) (role : PDRole) (outcomes : List SelectOutcome) (s : Router) :
    Except Raised ScheduledResource × Router :=
  prepareAttempts env role env.maxRetry outcomes none
    (s.updateState (if role = .roleP then .pScheduling else .dScheduling))

/-- What the scheduler holds for an allocation that the client has given up on. -/
def givenUp (workload : Workload) : SelectOutcome → List ((Int × Int) × Workload)
  | .nothing (some p) => [(p, workload)]
  | .cancelled (some p) => [(p, workload)]
  | _ => []

/-- What the scheduler holds for the attempts of `prepare_resource` that the client has given up on. -/
def abandonedAttempts (env : RouterEnv) (role : PDRole) (s : Router) :
    Nat → List SelectOutcome → List ((Int × Int) × Workload)
  | 0, _ => []
  | n + 1, outcomes =>
    let workload := allocateWorkload env s role
    let outcome := outcomes.head?.getD .nothing
    let rest := abandonedAttempts env role s n outcomes.tail
    givenUp workload outcome ++
      match outcome with
      | .nothing _ => rest
      | .cancelled _ => []
      | .allocated _ _ => if (s.requestManager.addReqWorkload (s.reqInfo.reqId, role) workload).1 then [] else rest

/-- The instance and endpoint of a resource. -/
def place (resource : ScheduledResource) : Int × Int :=
  ((resource.inst.map Instance.id).getD 0, (resource.endpoint.map Endpoint.id).getD 0)

/-- `_update_workload`, where the RPC succeeds. -/
def updateWorkload (resource : ScheduledResource) (action : WorkloadAction) (s : Router) : Bool × Router :=
  match s.requestManager.computeAndUpdate (some resource) s.reqInfo.reqId action s.reqInfo.reqLen with
  | (none, rm) => (false, { s with requestManager := rm })
  | (some (change, _), rm) =>
    (true, { s with requestManager := rm, sent := s.sent ++ [(place resource, change)] })

def releaseTokens (resource : ScheduledResource) (s : Router) : Router :=
  (s.updateWorkload resource .releaseTokens).2

def releaseKv (resource : ScheduledResource) (s : Router) : Router := (s.updateWorkload resource .releaseKv).2

def releaseAll (resource : ScheduledResource) (s : Router) : Router := (s.releaseTokens resource).releaseKv resource

/-! ## Recompute -/

def checkRecomputeLimit (env : RouterEnv) (s : Router) : Except PyException Unit :=
  if recomputeLimitReached s.retryCount env.recomputeRetryLimit then
    .error (.httpException 503
      ("Recompute retry limit exceeded (recompute_retry_exhausted); " ++ "client may retry with backoff."))
  else .ok ()

def prepareRecomputeRetry (env : RouterEnv) (reqData : JsonObj) (track : RequestTrack) (s : Router) :
    Except PyException Router :=
  if env.recomputeEnabled then do
    let retry ← prepareRetryRequest env.codec reqData track
    return { s with
      retryCount := s.retryCount + 1
      reqInfo := { s.reqInfo with
        reqData := retry.reqData
        reqLen := retry.reqLen
        api := retry.api.getD s.reqInfo.api
        recomputeEngineMode := retry.recomputeEngineMode } }
  else .error recomputeDisabledHttpException

/-- `_bump_req_id_after_recompute_workloads_released`. -/
def bumpReqId (s : Router) : Router :=
  { s with reqInfo := { s.reqInfo with reqId := modifyReqIdRetrySegment s.reqInfo.reqId } }

/-! ## Streams -/

/-- A yield to the client, who may close the generator there. -/
def yieldOut (env : RouterEnv) (output : StreamOutput) (s : Router) : Except Raised Unit × Router :=
  (if env.closesAt s.out.length then .error .cancelled else .ok (), { s with out := s.out ++ [output] })

/-- The first frame of the bytes that are pending, and the rest. -/
def nextFrame (pending : Bytes) : Option (Bytes × Bytes) :=
  match Bytes.find [10, 10] pending, Bytes.find [13, 10, 13, 10] pending with
  | none, none => none
  | some lf, none => some (pending.splitAt (lf + 2))
  | none, some crlf => some (pending.splitAt (crlf + 4))
  | some lf, some crlf => some (pending.splitAt (if crlf < lf then crlf + 4 else lf + 2))

/-- The frames of the pending bytes and what stays pending; a frame takes at least one byte of the fuel. -/
def splitFrames : Nat → Bytes → List Bytes × Bytes
  | 0, pending => ([], pending)
  | fuel + 1, pending =>
    match nextFrame pending with
    | none => ([], pending)
    | some (frame, rest) =>
      let (frames, rest) := splitFrames fuel rest
      (frame :: frames, rest)

/-- What an engine answers to a stream request: a failure to connect, or byte chunks and how they end. -/
structure DecodeStream where
  connect : Option Raised := none
  chunks : List Bytes := []
  ending : Option Raised := none

/-- How the loop over a stream ends. -/
inductive LoopEnd
  | exhausted
  | broke
  | raised (e : Raised)

/-- How the body of the loop ends for one frame. -/
inductive FrameEnd
  | next
  | broke
  | raised (e : Raised)

/-- The first chunk of a stream. -/
def noteChunk (chunk : Bytes) (s : Router) : Router :=
  if !s.firstChunkSent && !chunk.isEmpty then updateState { s with firstChunkSent := true } .firstTokenFinish else s

section Loop

variable {σ : Type} (body : Bytes → σ × Router → FrameEnd × σ × Router)

/-- The loop body on the frames that one chunk completes. -/
def forFrames : List Bytes → σ × Router → FrameEnd × σ × Router
  | [], st => (.next, st)
  | frame :: frames, st =>
    match body frame st with
    | (.next, st) => forFrames frames st
    | stop => stop

/-- `async for chunk in self.forward_stream_request(...)` after the connection, with the loop body. -/
def forChunks (ending : Option Raised) : List Bytes → Bytes → σ × Router → LoopEnd × σ × Router
  | [], pending, st =>
    match ending with
    | some e => (.raised e, st)
    | none =>
      if pending.isEmpty then (.exhausted, st)
      else
        match body pending st with
        | (.next, st) => (.exhausted, st)
        | (.broke, st) => (.broke, st)
        | (.raised e, st) => (.raised e, st)
  | chunk :: chunks, pending, (locals, s) =>
    let (frames, pending) := splitFrames (pending ++ chunk).length (pending ++ chunk)
    match forFrames body frames (locals, s.noteChunk chunk) with
    | (.next, st) => forChunks ending chunks pending st
    | (.broke, st) => (.broke, st)
    | (.raised e, st) => (.raised e, st)

/-- `forward_stream_request` with the loop over it. -/
def forwardStreamRequest (stream : DecodeStream) (locals : σ) (s : Router) : LoopEnd × σ × Router :=
  let s := { s with firstChunkSent := false }
  match stream.connect with
  | some e => (.raised e, locals, s)
  | none => forChunks body stream.ending stream.chunks [] (locals, s)

end Loop

end Router

end PyMotor
