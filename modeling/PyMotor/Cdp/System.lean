import PyMotor.Lib.Ledger
import PyMotor.Lib.Run
import PyMotor.Router.Base

/-!
# A decode handler and its metaserver handlers

`motor/coordinator/router/strategies/cdp_separate.py`, with `_manage_request_context`,
`_manage_resource_context` and `prepare_resource` of the base router. All handlers of a request share its
`RequestInfo` and the request manager; each step runs from one await to the next. The two parts of
`release_all` are two steps, and each reads the request id anew.
-/

namespace PyMotor

open Lib Recompute

/-- How the engine's answer ends a decode leg. A recompute carries the new request length when
`_prepare_recompute_retry` succeeds. -/
inductive LegSignal
  | finished
  | recomputed (reqLen : Option Nat)
  | httpException
  | failed (chunkSent : Bool)
  | cancelled

/-- How a decode leg ends. -/
inductive LegOutcome
  | finished
  | recompute
  | httpException
  | failed (chunkSent : Bool)
  | cancelled
deriving DecidableEq

/-- Where the decode handler is. `leaving` waits for the RPC of `release_tokens`. -/
inductive DecodePhase
  | entering
  | preparing (attempt : Nat)
  | waiting (attempt : Nat) (workload : Workload)
  | holding (resource : ScheduledResource)
  | leaving (outcome : LegOutcome)
  | sleeping
  | ended

/-- Where a metaserver handler is. `releasing` waits for the RPC of `release_tokens`. -/
inductive MetaPhase
  | preparing (attempt : Nat)
  | waiting (attempt : Nat) (workload : Workload)
  | holding (resource : ScheduledResource)
  | releasing (resource : ScheduledResource)
  | ended

/-- A request in CDP mode. `router` is what the handlers share; `info` names the `RequestInfo`; `abandoned` is what
the scheduler holds for allocations that a client has given up on. -/
structure CdpSystem where
  router : Router
  info : Nat := 0
  stream : Bool
  attempt : Nat := 0
  decode : DecodePhase := .entering
  metas : List MetaPhase := []
  abandoned : List ((Int × Int) × Workload) := []

namespace CdpSystem

inductive Event
  | decodeFail (chunkSent : Bool)
  | decodeRefuse
  | decodeEnter
  | decodeSelect
  | decodeAnswer (outcome : Router.SelectOutcome)
  | decodeCancel
  | decodeLeave (signal : LegSignal)
  | decodeExit
  | decodeWake
  | metaStart (requestId : String)
  | metaSelect (i : Nat)
  | metaAnswer (i : Nat) (outcome : Router.SelectOutcome)
  | metaCancel (i : Nat)
  | metaLeave (i : Nat)
  | metaRelease (i : Nat)

variable (env : RouterEnv)

/-! ## The decode handler -/

/-- `add_req_info` on entering `_manage_request_context`. -/
def addReqInfo (s : CdpSystem) : CdpSystem :=
  { s with router := { s.router with
      requestManager := (s.router.requestManager.addReqInfo s.router.reqInfo.reqId s.info).2 } }

/-- `del_req_info` on leaving `_manage_request_context`. -/
def delReqInfo (s : CdpSystem) : CdpSystem :=
  { s with router := { s.router with
      requestManager := (s.router.requestManager.delReqInfo s.router.reqInfo.reqId).2 } }

/-- The request context is left without a resource, and the handler ends. -/
def decodeAbort (s : CdpSystem) : CdpSystem := { s.delReqInfo with decode := .ended }

/-- An attempt of `prepare_resource` has failed. -/
def decodeAttemptFailed (s : CdpSystem) (attempt : Nat) : CdpSystem :=
  if attempt + 1 < env.maxRetry then { s with decode := .preparing (attempt + 1) } else s.decodeAbort

/-- The scheduler has allocated for the decode: record it. -/
def decodeAllocated (s : CdpSystem) (attempt : Nat) (workload : Workload) (iid eid : Int) : CdpSystem :=
  let resource := Router.scheduledResource (env.answeredRole s.router.sent.length .roleD) iid eid
  let router := { s.router with sent := s.router.sent ++ [((iid, eid), workload)] }
  match router.requestManager.addReqWorkload (router.reqInfo.reqId, .roleD) workload with
  | (false, _) => decodeAttemptFailed env { s with router := router } attempt
  | (true, rm) => { s with router := { router with requestManager := rm }, decode := .holding resource }

/-- What a signal makes of the leg: the limit and the policy turn a recompute into an HTTP exception. -/
def legOutcome (s : CdpSystem) : LegSignal → LegOutcome
  | .finished => .finished
  | .recomputed none => .httpException
  | .recomputed (some _) =>
    if !env.recomputeEnabled || recomputeLimitReached s.router.retryCount env.recomputeRetryLimit then .httpException
    else .recompute
  | .httpException => .httpException
  | .failed chunkSent => .failed chunkSent
  | .cancelled => .cancelled

/-- `_prepare_recompute_retry` writes the new length and counts. -/
def noteRecompute (s : CdpSystem) (signal : LegSignal) : CdpSystem :=
  match s.legOutcome env signal, signal with
  | .recompute, .recomputed (some reqLen) =>
    { s with router := { s.router with
        retryCount := s.router.retryCount + 1
        reqInfo := { s.router.reqInfo with reqLen := reqLen } } }
  | _, _ => s

/-- The next pass of the loop over the attempts. -/
def nextAttempt (s : CdpSystem) : CdpSystem :=
  { s with
    attempt := s.attempt + 1
    decode := if s.attempt + 1 < env.transportRetryLimit then .entering else .ended }

/-- After the contexts of a leg are left. Without streaming the `break` of a recompute leaves the inner loop, so
that the id is not bumped and the next attempt is taken. -/
def afterLeg (s : CdpSystem) : LegOutcome → CdpSystem
  | .finished => { s with decode := .ended }
  | .recompute =>
    if s.stream then { s with router := s.router.bumpReqId, decode := .entering } else s.nextAttempt env
  | .httpException => { s with decode := .ended }
  | .failed chunkSent =>
    if (s.stream && chunkSent) || s.attempt + 1 = env.transportRetryLimit then { s with decode := .ended }
    else { s with decode := .sleeping }
  | .cancelled => { s with decode := .ended }

/-! ## The metaserver handlers -/

def setMeta (s : CdpSystem) (i : Nat) (phase : MetaPhase) : CdpSystem := { s with metas := s.metas.set i phase }

def metaAttemptFailed (s : CdpSystem) (i attempt : Nat) : CdpSystem :=
  s.setMeta i (if attempt + 1 < env.maxRetry then .preparing (attempt + 1) else .ended)

/-- The scheduler has allocated for the prefill: record it under the id that the request has now. -/
def metaAllocated (s : CdpSystem) (i attempt : Nat) (workload : Workload) (iid eid : Int) : CdpSystem :=
  let resource := Router.scheduledResource (env.answeredRole s.router.sent.length .roleP) iid eid
  let router := { s.router with sent := s.router.sent ++ [((iid, eid), workload)] }
  match router.requestManager.addReqWorkload (router.reqInfo.reqId, .roleP) workload with
  | (false, _) => metaAttemptFailed env { s with router := router } i attempt
  | (true, rm) => setMeta { s with router := { router with requestManager := rm } } i (.holding resource)

/-- What the handlers do at an event. -/
def advance (s : CdpSystem) : Event → CdpSystem
  -- The request of the leg cannot be built, before any context is entered.
  | .decodeFail chunkSent =>
    match s.decode with
    | .entering => s.afterLeg env (.failed chunkSent)
    | _ => s
  | .decodeRefuse =>
    match s.decode with
    | .entering => s.afterLeg env .httpException
    | _ => s
  | .decodeEnter =>
    match s.decode with
    | .entering =>
      if 0 < env.maxRetry then { s.addReqInfo with decode := .preparing 0 } else s.addReqInfo.decodeAbort
    | _ => s
  | .decodeSelect =>
    match s.decode with
    | .preparing n => { s with decode := .waiting n (Router.allocateWorkload env s.router .roleD) }
    | _ => s
  | .decodeAnswer outcome =>
    match s.decode with
    | .waiting n workload =>
      match outcome with
      | .nothing _ => s.decodeAttemptFailed env n
      | .cancelled _ => s.decodeAbort
      | .allocated iid eid => s.decodeAllocated env n workload iid eid
    | _ => s
  | .decodeCancel =>
    match s.decode with
    | .preparing _ => s.decodeAbort
    | .sleeping => { s with decode := .ended }
    | _ => s
  | .decodeLeave signal =>
    match s.decode with
    | .holding resource =>
      let s' := s.noteRecompute env signal
      { s' with
        router := s'.router.releaseTokens resource
        decode := .leaving (s.legOutcome env signal) }
    | _ => s
  | .decodeExit =>
    match s.decode with
    | .leaving outcome => s.delReqInfo.afterLeg env outcome
    | _ => s
  | .decodeWake =>
    match s.decode with
    | .sleeping => s.nextAttempt env
    | _ => s
  | .metaStart requestId =>
    if s.router.requestManager.getReqInfo requestId = some s.info then
      { s with metas := s.metas ++ [if 0 < env.maxRetry then .preparing 0 else .ended] }
    else s
  | .metaSelect i =>
    match s.metas[i]? with
    | some (.preparing n) => s.setMeta i (.waiting n (Router.allocateWorkload env s.router .roleP))
    | _ => s
  | .metaAnswer i outcome =>
    match s.metas[i]? with
    | some (.waiting n workload) =>
      match outcome with
      | .nothing _ => s.metaAttemptFailed env i n
      | .cancelled _ => s.setMeta i .ended
      | .allocated iid eid => s.metaAllocated env i n workload iid eid
    | _ => s
  | .metaCancel i =>
    match s.metas[i]? with
    | some (.preparing _) => s.setMeta i .ended
    | _ => s
  | .metaLeave i =>
    match s.metas[i]? with
    | some (.holding resource) =>
      setMeta { s with router := s.router.releaseTokens resource } i (.releasing resource)
    | _ => s
  | .metaRelease i =>
    match s.metas[i]? with
    | some (.releasing resource) => setMeta { s with router := s.router.releaseKv resource } i .ended
    | _ => s

/-- What the scheduler holds after an event because a client has given up on an allocation. -/
def abandonedBy (s : CdpSystem) : Event → List ((Int × Int) × Workload)
  | .decodeAnswer outcome =>
    match s.decode with
    | .waiting _ workload => Router.givenUp workload outcome
    | _ => []
  | .metaAnswer i outcome =>
    match s.metas[i]? with
    | some (.waiting _ workload) => Router.givenUp workload outcome
    | _ => []
  | _ => []

def step (s : CdpSystem) (event : Event) : CdpSystem :=
  { s.advance env event with abandoned := s.abandoned ++ s.abandonedBy event }

/-- The request before its decode handler has started. -/
def start (info : RequestInfo) (rm : RequestManager) (stream : Bool) : CdpSystem :=
  { router := { reqInfo := info, requestManager := rm }
    stream := stream
    decode := if 0 < env.transportRetryLimit then .entering else .ended }

/-! ## What is claimed, and when it holds -/

/-- The decode handler and all metaserver handlers have ended. -/
def AllEnded (s : CdpSystem) : Prop :=
  s.decode = .ended ∧ ∀ phase ∈ s.metas, phase = .ended

/-- What the scheduler has got sums to zero on every endpoint. -/
def Released (s : CdpSystem) : Prop := ∀ p, balance s.router.sent p + balance s.abandoned p = 0

/-- No prefill workload is recorded under the id of the request. -/
def NoPrefillRecord (s : CdpSystem) : Prop :=
  s.router.requestManager.getReqWorkload (s.router.reqInfo.reqId, .roleP) = none

instance (s : CdpSystem) : Decidable s.NoPrefillRecord := inferInstanceAs (Decidable (_ = _))

/-- The event leaves `_manage_request_context`. -/
def leavesContext (s : CdpSystem) : Event → Bool
  | .decodeEnter =>
    match s.decode with
    | .entering => env.maxRetry = 0
    | _ => false
  | .decodeAnswer outcome =>
    match s.decode, outcome with
    | .waiting n _, .nothing _ => env.maxRetry ≤ n + 1
    | .waiting _ _, .cancelled _ => true
    | _, _ => false
  | .decodeCancel =>
    match s.decode with
    | .preparing _ => true
    | _ => false
  | .decodeExit =>
    match s.decode with
    | .leaving _ => true
    | _ => false
  | _ => false

/-- The event records an allocated prefill. -/
def recordsPrefill (s : CdpSystem) : Event → Bool
  | .metaAnswer i (.allocated _ _) =>
    match s.metas[i]? with
    | some (.waiting _ _) => true
    | _ => false
  | _ => false

/-- An allocation is answered with an instance of the role that it was asked for. -/
def AnswersAsRequested (s : CdpSystem) : Event → Prop
  | .decodeAnswer (.allocated _ _) =>
    match s.decode with
    | .waiting _ _ => env.answeredRole s.router.sent.length .roleD = .roleD
    | _ => True
  | .metaAnswer i (.allocated _ _) =>
    match s.metas[i]? with
    | some (.waiting _ _) => env.answeredRole s.router.sent.length .roleP = .roleP
    | _ => True
  | _ => True

instance (s : CdpSystem) (event : Event) : Decidable (s.AnswersAsRequested env event) := by
  unfold AnswersAsRequested
  split
  · split <;> infer_instance
  · split <;> infer_instance
  · infer_instance

/-- The request context is left, and an allocated prefill is recorded, only while no prefill workload is
recorded under the id of the request; no client gives up on an allocation that the scheduler makes; and the scheduler
answers as it is asked. -/
def PrefillApart (s : CdpSystem) (event : Event) : Prop :=
  ((s.leavesContext env event || s.recordsPrefill event) = true → s.NoPrefillRecord) ∧
    (∀ x ∈ s.abandonedBy event, x.2 = 0) ∧ s.AnswersAsRequested env event

instance (s : CdpSystem) (event : Event) : Decidable (s.PrefillApart env event) :=
  inferInstanceAs (Decidable ((_ → _) ∧ _ ∧ _))

end CdpSystem

end PyMotor
