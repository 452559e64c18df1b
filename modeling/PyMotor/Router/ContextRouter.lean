import PyMotor.Router.PdSeparate

/-!
# Routers that hold their resources in context managers

`pd_hybrid.py` and `pd_dual_dispatch.py` under `motor/coordinator/router/strategies`, one await at a time. An
attempt enters its context managers, forwards the request to the engine, and leaves the context managers in the
opposite order however its body ends.
-/

namespace PyMotor

open Lib Recompute

namespace Router

/-! ## Context managers -/

/-- The function with which a resource is released. -/
inductive ReleaseFunc
  | releaseAll
  | releaseTokens
deriving DecidableEq

def ReleaseFunc.run (release : ReleaseFunc) (resource : ScheduledResource) (s : Router) : Router :=
  match release with
  | .releaseAll => s.releaseAll resource
  | .releaseTokens => s.releaseTokens resource

/-- `_manage_request_context`, `_manage_resource_context` and `_manage_client_context`. -/
inductive ContextManager
  | request
  | resource (role : PDRole) (release : ReleaseFunc)
  | client
deriving DecidableEq

/-- A context manager that has been entered. -/
inductive Entered
  | request
  | resource (release : ReleaseFunc) (resource : ScheduledResource)
  | client
deriving DecidableEq

/-- What a context manager does when it is left. A release is shielded, and its awaits end well. -/
def Entered.exit (context : Entered) (s : Router) : Router :=
  match context with
  | .request => { s with requestManager := (s.requestManager.delReqInfo s.reqInfo.reqId).2 }
  | .resource release scheduled => release.run scheduled s
  | .client => s

/-- Leaves the context managers, the one entered last first. -/
def exitAll (held : List Entered) (s : Router) : Router := held.foldl (fun s context => context.exit s) s

/-! ## What goes to the client -/

def clientReturnTokenIds (s : Router) : Bool :=
  ((s.reqInfo.reqData.get? "_client_return_token_ids").getD (.bool false)).truthy

/-- `strip_openai_token_id_fields_for_client` on any JSON value: `pop` with two arguments is no method of a list,
and the other values have none of the methods. -/
def stripJson (keep : Bool) : Json → Except PyException JsonObj
  | .obj d => stripOpenaiTokenIdFieldsForClient d keep
  | .arr _ => .error (.builtin (if keep then "AttributeError" else "TypeError"))
  | _ => .error (.builtin "AttributeError")

def stripStreamChunkBytesForClient (codec : Recompute.JsonCodec) (keep : Bool) (chunk : Bytes) : Except PyException Bytes :=
  match parseStreamChunkJson codec chunk with
  | .error e => .error e
  | .ok none => .ok (if containsDone chunk then chunk else [])
  | .ok (some chunkJson) => (stripJson keep chunkJson).map (encodeStreamChunkBytes codec chunk)

/-- The body of the hybrid router. -/
def hybridBody (s : Router) (body : Json) : Except PyException JsonObj :=
  match body with
  | .obj d => s.clientBody d
  | other =>
    if isChatApi s.reqInfo.effectiveEntryApi then .error (.builtin "AttributeError")
    else stripJson s.clientReturnTokenIds other

end Router

open Router

/-! ## The routers -/

/-- A router of this kind, by its class. -/
inductive ContextRouter
  | pdHybridRouter
  | separatePdDualDispatchRouter
deriving DecidableEq

namespace ContextRouter

def dualEnvContext : List ContextManager :=
  [.request, .resource .roleP .releaseAll, .resource .roleD .releaseTokens, .client, .client]

/-- The `async with` of an attempt. -/
def contexts : ContextRouter → List ContextManager
  | pdHybridRouter => [.resource .roleP .releaseAll, .client]
  | separatePdDualDispatchRouter => dualEnvContext

/-- The prefill runs in the background, and both sides run in cancel scopes of the request. -/
def dual : ContextRouter → Bool
  | pdHybridRouter => false
  | separatePdDualDispatchRouter => true

/-- The body of a response without streaming. -/
def responseBody (kind : ContextRouter) (s : Router) (body : Json) : Except PyException JsonObj :=
  match kind with
  | pdHybridRouter => s.hybridBody body
  | separatePdDualDispatchRouter => stripJson s.clientReturnTokenIds body

end ContextRouter

/-- The task of `_run_prefill`. -/
inductive PrefillTask
  | running
  | cancelling
  | done
deriving DecidableEq

/-- `p_task.cancel()`. -/
def PrefillTask.cancel : PrefillTask → PrefillTask
  | running => cancelling
  | task => task

/-- Where a handler waits: in the `async with` before the context managers `todo`, for the engine, at the yield of
a frame, in the sleep between two attempts, or at the yield of the error chunk. -/
inductive Phase
  | entering (todo : List ContextManager)
  | forwarding (pending : Bytes)
  | yielding (frames : List Bytes) (pending : Bytes) (last : Bool)
  | sleeping
  | reporting
  | ended (how : HandlerEnd)

/-- What a handler has allocated: where, how much, and the function that is to release it. -/
structure AllocatedWorkload where
  release : ReleaseFunc
  place : Int × Int
  workload : Workload
deriving DecidableEq

/-- A handler at one of its awaits or yields. The cancel scopes of the request hold their `cancel_called`. The
last two fields are a record of its allocations and of those that the client has given up on. -/
structure ContextHandler where
  router : Router
  info : Nat := 0
  stream : Bool
  attempt : Nat := 0
  held : List Entered := []
  pScope : Option Bool := none
  dScope : Option Bool := none
  prefills : List PrefillTask := []
  phase : Phase
  allocated : List AllocatedWorkload := []
  abandoned : List ((Int × Int) × Workload) := []

/-- What an await of a handler, or of its prefill task, can end with. -/
inductive AwaitEnd
  /-- A context manager without a resource is entered. -/
  | entered
  | selects (outcomes : List SelectOutcome)
  | chunk (bytes : Bytes)
  | streamEnds
  /-- The engine answers, and `response.json()` gives a value or raises. -/
  | answers (body : Except PyException Json)
  | raises (e : Raised)
  /-- The cancellation that `d_scope` delivers and catches. -/
  | scopeCancels
  | resumes
  /-- The generator is closed, by its own task or by another one. -/
  | closes (foreign : Bool)
  | wakes
  | prefillEnds (i : Nat) (result : Except Raised Unit)

/-- How the body of an attempt ends. -/
inductive BodyEnd
  | returned (how : HandlerEnd)
  | raised (e : Raised)
  | closed

namespace ContextHandler

variable (env : RouterEnv) (kind : ContextRouter)

/-! ## Cancel scopes -/

def isCancelled (h : ContextHandler) : Bool := h.pScope = some true || h.dScope = some true

def cancelScope (h : ContextHandler) : ContextHandler :=
  { h with pScope := h.pScope.map fun _ => true, dScope := h.dScope.map fun _ => true }

/-- `_run_prefill` after its request. A task whose cancellation was asked for gets no answer. -/
def prefillEnds (i : Nat) (result : Except Raised Unit) (h : ContextHandler) : ContextHandler :=
  let finished := { h with prefills := h.prefills.set i .done }
  match h.prefills[i]?, result with
  | some .running, .ok () => { finished with router := finished.router.updateState .prefillEnd }
  | some .running, .error (.exception _) => finished.cancelScope
  | some .running, .error .cancelled => finished
  | some .cancelling, .error (.exception _) => finished.cancelScope
  | some .cancelling, .error .cancelled => finished
  | _, _ => h

/-! ## Leaving an attempt -/

def unwind (h : ContextHandler) : ContextHandler := { h with router := exitAll h.held h.router, held := [] }

/-- The `except` blocks around an attempt. -/
def attemptFailed (e : Raised) (h : ContextHandler) : ContextHandler :=
  let h := if kind.dual then h.cancelScope else h
  match e with
  | .cancelled => { h with phase := .ended (.raised .cancelled) }
  | .exception e =>
    if h.stream then
      if h.router.firstChunkSent || h.attempt + 1 = env.transportRetryLimit then
        let s := h.router.updateState .exception
        { h with router := { s with out := s.out ++ [.error (buildErrorResponse e)] }, phase := .reporting }
      else { h with phase := .sleeping }
    else if h.attempt + 1 < env.transportRetryLimit then { h with phase := .sleeping }
    else { h with router := h.router.updateState .exception, phase := .ended (.raised (.exception e)) }

/-- The `finally` block of the dual dispatch. -/
def finallyBlock (r : BodyEnd) (h : ContextHandler) : BodyEnd × ContextHandler :=
  if kind.dual then
    (if h.isCancelled then .raised (.exception (.other "Exception" "Exception occurred in dual dispatch")) else r,
      { h with prefills := h.prefills.modifyLast PrefillTask.cancel })
  else (r, h)

/-- The end of the body of an attempt. -/
def endBody (r : BodyEnd) (h : ContextHandler) : ContextHandler :=
  let (r, h) := h.finallyBlock kind r
  match r with
  | .returned how => { h.unwind with phase := .ended how }
  | .raised e => h.unwind.attemptFailed env kind e
  | .closed => { h.unwind with phase := .ended (.raised .cancelled) }

/-! ## The body of an attempt -/

/-- The body up to its first await. -/
def startBody (h : ContextHandler) : ContextHandler :=
  let h :=
    if kind.dual then
      { h with pScope := some false, dScope := some false, prefills := h.prefills ++ [.running] }
    else h
  { h with
    router := if h.stream then { h.router with firstChunkSent := false } else h.router
    phase := .forwarding [] }

/-- The stream of the engine has ended. -/
def streamEnded (h : ContextHandler) : ContextHandler :=
  endBody env kind (.returned .returned) { h with router := h.router.updateState .decodeEnd }

/-- The loop over the stream up to its next yield or await; after the last frames the stream has ended. -/
def yieldFrames (frames : List Bytes) (pending : Bytes) (last : Bool) (h : ContextHandler) : ContextHandler :=
  match frames with
  | [] => if last then h.streamEnded env kind else { h with phase := .forwarding pending }
  | frame :: frames =>
    match stripStreamChunkBytesForClient env.codec h.router.clientReturnTokenIds frame with
    | .error e => h.endBody env kind (.raised (.exception e))
    | .ok bytes =>
      { h with
        router := { h.router with out := h.router.out ++ [.chunk frame bytes] }
        phase := .yielding frames pending last }

/-- The answer of the engine without streaming. -/
def answered (body : Except PyException Json) (h : ContextHandler) : ContextHandler :=
  let h := { h with router := h.router.updateState .decodeEnd }
  match body with
  | .error e => h.endBody env kind (.raised (.exception e))
  | .ok body =>
    match kind.responseBody h.router body with
    | .error e => h.endBody env kind (.raised (.exception e))
    | .ok content => h.endBody env kind (.returned (.responded (.body content)))

/-- `d_scope` catches its cancellation. Without streaming there is then no response to read. -/
def scopeCaught (h : ContextHandler) : ContextHandler :=
  let h := { h with router := h.router.updateState .decodeEnd }
  h.endBody env kind (if h.stream then .returned .returned else .raised (.exception (.builtin "UnboundLocalError")))

/-- What a generator that is closed by another task raises: a cancel scope can only be left in its own task. -/
def closeEnd (foreign : Bool) (h : ContextHandler) : BodyEnd :=
  if foreign && h.dScope.isSome then
    .raised (.exception (.other "RuntimeError"
      "Attempted to exit cancel scope in a different task than it was entered in"))
  else .closed

/-! ## Steps -/

/-- The context managers that are left to enter, or the body. -/
def proceed (todo : List ContextManager) (h : ContextHandler) : ContextHandler :=
  match todo with
  | [] => h.startBody kind
  | _ :: _ => { h with phase := .entering todo }

/-- The entry of a resource context. -/
def enterResource (role : PDRole) (release : ReleaseFunc) (todo : List ContextManager) (outcomes : List SelectOutcome)
    (h : ContextHandler) : ContextHandler :=
  let abandoned := h.abandoned ++ abandonedAttempts env role h.router env.maxRetry outcomes
  match prepareResource env role outcomes h.router with
  | (.error e, s) => { h with router := s, abandoned := abandoned }.unwind.attemptFailed env kind e
  | (.ok resource, s) =>
    { h with
      router := s
      held := .resource release resource :: h.held
      allocated := h.allocated ++ [AllocatedWorkload.mk release (place resource) (allocateWorkload env h.router role)]
      abandoned := abandoned }.proceed kind todo

/-- An await of the `async with`. -/
def stepEntering (todo : List ContextManager) (h : ContextHandler) : AwaitEnd → ContextHandler
  | .entered =>
    match todo with
    | .request :: todo =>
      { h with
        router := { h.router with
          requestManager := (h.router.requestManager.addReqInfo h.router.reqInfo.reqId h.info).2 }
        held := .request :: h.held }.proceed kind todo
    | .client :: todo => { h with held := .client :: h.held }.proceed kind todo
    | _ => h
  | .selects outcomes =>
    match todo with
    | .resource role release :: todo => h.enterResource env kind role release todo outcomes
    | _ => h
  | .raises e =>
    match todo with
    | .request :: _ => h.unwind.attemptFailed env kind e
    | .client :: _ => h.unwind.attemptFailed env kind e
    | _ => h
  | _ => h

/-- An await of `forward_stream_request` or `forward_request`. -/
def stepForwarding (pending : Bytes) (h : ContextHandler) : AwaitEnd → ContextHandler
  | .chunk bytes =>
    if h.stream then
      let (frames, pending) := splitFrames (pending ++ bytes).length (pending ++ bytes)
      yieldFrames env kind frames pending false { h with router := h.router.noteChunk bytes }
    else h
  | .streamEnds =>
    if h.stream then yieldFrames env kind (if pending.isEmpty then [] else [pending]) [] true h else h
  | .answers body => if h.stream then h else h.answered env kind body
  | .raises e => h.endBody env kind (.raised e)
  | .scopeCancels => if h.dScope = some true then h.scopeCaught env kind else h
  | _ => h

/-- The next pass of the loop over the attempts. -/
def nextAttempt (h : ContextHandler) : ContextHandler :=
  let h := { h with attempt := h.attempt + 1 }
  if h.attempt < env.transportRetryLimit then h.proceed kind kind.contexts else { h with phase := .ended .returned }

/-- An await or yield of the handler ends. -/
def stepPhase (h : ContextHandler) (e : AwaitEnd) : ContextHandler :=
  match h.phase, e with
  | .entering todo, e => h.stepEntering env kind todo e
  | .forwarding pending, e => h.stepForwarding env kind pending e
  | .yielding frames pending last, .resumes => h.yieldFrames env kind frames pending last
  | .yielding _ _ _, .closes foreign => h.endBody env kind (h.closeEnd foreign)
  | .sleeping, .wakes => h.nextAttempt env kind
  | .sleeping, .raises e => { h with phase := .ended (.raised e) }
  | .reporting, .resumes => { h with phase := .ended .returned }
  | .reporting, .closes _ => { h with phase := .ended (.raised .cancelled) }
  | _, _ => h

/-- An await or yield of the handler, or the request of a prefill task, ends. -/
def step (h : ContextHandler) (e : AwaitEnd) : ContextHandler :=
  match e with
  | .prefillEnds i result => h.prefillEnds i result
  | e => h.stepPhase env kind e

/-- The handler of a request before its first await. -/
def start (router : Router) (info : Nat) (stream : Bool) : ContextHandler :=
  let h : ContextHandler := { router := router, info := info, stream := stream, phase := .ended .returned }
  if 0 < env.transportRetryLimit then h.proceed kind kind.contexts else h

end ContextHandler

end PyMotor
