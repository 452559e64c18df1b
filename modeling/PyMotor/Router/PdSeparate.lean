import PyMotor.Lib.Run
import PyMotor.Router.Base

/-!
# The router for separate prefill and decode instances

`motor/coordinator/router/strategies/pd_separate.py`. A leg is one pass of the inner loop: prefill, then
decode. What its awaits meet is a `PdLeg`; a handler is run over a list of legs.
-/

namespace PyMotor

open Lib Recompute

/-- What the awaits of one leg meet; `δ` is what the decode engine answers. -/
structure PdLeg (δ : Type) where
  prefillSelect : List Router.SelectOutcome
  prefill : Except Raised Json
  decodeSelect : List Router.SelectOutcome
  decode : δ

/-- How `process_single_attempt` ends. -/
inductive AttemptEnd
  | returned
  | decodeTransportRetry
  | raised (e : Raised)
deriving DecidableEq

inductive JsonResponse
  | body (content : JsonObj)
  | error (content : ErrorResponse)

/-- How the handler ends: the generator returns, a response is returned, or an exception leaves it. -/
inductive HandlerEnd
  | returned
  | responded (response : JsonResponse)
  | raised (e : Raised)

namespace Router

/-! ## Prefill -/

def forwardPRequest (answer : Except Raised Json) (resource : ScheduledResource) (s : Router) :
    Except Raised Json × Router :=
  match answer with
  | .error e => (.error e, s)
  | .ok respJson => (.ok respJson, (s.updateState .prefillEnd).releaseTokens resource)

/-- The `finally` block of the prefill. -/
def releasePrefill (resource : ScheduledResource) (s : Router) : Router :=
  if s.reqInfo.state ≠ .prefillEnd then s.releaseAll resource else s

def genDRequest (env : RouterEnv) (s : Router) (respJson : Json) : Except PyException JsonObj := do
  let resp ← respJson.asObj
  let reqData := s.reqInfo.reqData
  let kvTransferParams := (resp.get? "kv_transfer_params").getD (.obj [])
  let reqData := if kvTransferParams.truthy then reqData.set "kv_transfer_params" kvTransferParams else reqData
  return reqData.set "return_token_ids"
    (if env.recomputeEnabled then .bool true
      else (reqData.get? "_client_return_token_ids").getD (.bool false))

def handleStreamError (prefill : ScheduledResource) (s : Router) : Router :=
  if s.firstChunkSent then s else s.releaseKv prefill

/-! ## Streaming -/

/-- The variables of the loop in `_process_stream_chunks`. -/
structure StreamLocals where
  releaseKv : Bool := false
  leg : LegTrack

def handleRecomputation (env : RouterEnv) (reqData : JsonObj) (track : RequestTrack) (prefill : ScheduledResource)
    (prefillKvReleased : Bool) (s : Router) : Except PyException Unit × Router :=
  match s.checkRecomputeLimit env with
  | .error e => (.error e, s)
  | .ok () =>
    let s := updateState { s with wantsRetry := true } .recompute
    let s := if prefillKvReleased then s else s.releaseKv prefill
    match s.prepareRecomputeRetry env reqData track with
    | .error e => (.error e, s)
    | .ok s => (.ok (), s)

/-- The release of the prefill's KV cache on the first frame. -/
def releaseKvOnce (prefill : ScheduledResource) (frame : Bytes) (st : StreamLocals × Router) : StreamLocals × Router :=
  if !st.1.releaseKv && !frame.isEmpty then ({ st.1 with releaseKv := true }, st.2.releaseKv prefill) else st

/-- A frame goes through `process_stream_chunk` and to the client, or starts a recompute. -/
def forwardFrame (env : RouterEnv) (reqData : JsonObj) (prefill : ScheduledResource) (frame : Bytes)
    (locals : StreamLocals) (s : Router) : FrameEnd × StreamLocals × Router :=
  match processStreamChunk env.codec frame locals.leg s.retryCount s.reqInfo.effectiveEntryApi s.reqInfo.reqId
      env.recomputeEnabled with
  | .error e => (.raised (.exception e), locals, s)
  | .ok (none, leg) =>
    if leg.track.recomputeBlockedByPolicy then
      (.raised (.exception recomputeDisabledHttpException), { locals with leg := leg }, s)
    else
      match s.handleRecomputation env reqData leg.track prefill locals.releaseKv with
      | (.error e, s) => (.raised (.exception e), { locals with leg := leg }, s)
      | (.ok (), s) => (.broke, { locals with leg := leg }, s)
  | .ok (some bytes, leg) =>
    if bytes.isEmpty then (.next, { locals with leg := leg }, s)
    else
      match yieldOut env (.chunk frame bytes) { s with streamChunkSentToClient := true } with
      | (.error e, s) => (.raised e, { locals with leg := leg }, s)
      | (.ok (), s) => (.next, { locals with leg := leg }, s)

/-- The loop body of `_process_stream_chunks`, with the yields of the generators around it. -/
def streamBody (env : RouterEnv) (reqData : JsonObj) (prefill : ScheduledResource) (frame : Bytes)
    (st : StreamLocals × Router) : FrameEnd × StreamLocals × Router :=
  forwardFrame env reqData prefill frame (releaseKvOnce prefill frame st).1 (releaseKvOnce prefill frame st).2

/-- `_forward_d_request` after its loop. -/
def afterStream (prefill : ScheduledResource) (r : LoopEnd × StreamLocals × Router) : Except Raised Unit × Router :=
  match r with
  | (.raised (.exception e), _, s) => (.error (.exception e), s.handleStreamError prefill)
  | (.raised .cancelled, _, s) => (.error .cancelled, s)
  | (_, _, s) => (.ok (), if s.wantsRetry then s else s.updateState .decodeEnd)

def forwardDRequest (env : RouterEnv) (respJson : Json) (stream : DecodeStream) (prefill : ScheduledResource)
    (s : Router) : Except Raised Unit × Router :=
  match genDRequest env s respJson with
  | .error e => (.error (.exception e), s.handleStreamError prefill)
  | .ok reqData =>
    match extractRequestInfo reqData with
    | .error e => (.error (.exception e), s.handleStreamError prefill)
    | .ok track =>
      afterStream prefill
        (forwardStreamRequest (streamBody env reqData prefill) stream { leg := { track := track } } s)

/-- An error chunk, then the end of the handler. -/
def finishWithErrorChunk (env : RouterEnv) (e : PyException) (s : Router) : AttemptEnd × Router :=
  match yieldOut env (.error (buildErrorResponse e)) s with
  | (.error closed, s) => (.raised closed, s)
  | (.ok (), s) => (.returned, { s with isFinished := true })

/-- The `except` block of the prefill. -/
def prefillFailed (env : RouterEnv) (attempt : Nat) (e : Raised) (s : Router) : AttemptEnd × Router :=
  match e with
  | .cancelled => (.raised e, s)
  | .exception e =>
    if attempt + 1 ≠ env.transportRetryLimit then (.returned, { s with isFinished := false })
    else finishWithErrorChunk env e s

/-- The `except` blocks of the decode. -/
def decodeFailed (env : RouterEnv) (attempt : Nat) (prefill : ScheduledResource) (e : Raised) (s : Router) :
    AttemptEnd × Router :=
  match e with
  | .cancelled => (.raised e, s)
  | .exception (.httpException status detail) =>
    finishWithErrorChunk env (.httpException status detail) (s.handleStreamError prefill)
  | .exception e =>
    let s := s.handleStreamError prefill
    if s.streamChunkSentToClient || attempt + 1 = env.transportRetryLimit then finishWithErrorChunk env e s
    else (.decodeTransportRetry, s)

/-- The end of the decode part, before its `finally` block. -/
def afterDecode (env : RouterEnv) (attempt : Nat) (prefill : ScheduledResource) (r : Except Raised Unit × Router) :
    AttemptEnd × Router :=
  match r with
  | (.ok (), s) => (.returned, if s.wantsRetry then s else { s with isFinished := true })
  | (.error e, s) => decodeFailed env attempt prefill e s

/-- The decode part of `process_single_attempt`. -/
def decodePhase (env : RouterEnv) (leg : PdLeg DecodeStream) (attempt : Nat) (prefill : ScheduledResource)
    (respJson : Json) (s : Router) : AttemptEnd × Router :=
  match prepareResource env .roleD leg.decodeSelect s with
  | (.error e, s) => decodeFailed env attempt prefill e s
  | (.ok decode, s) =>
    let (result, s) := afterDecode env attempt prefill (forwardDRequest env respJson leg.decode prefill s)
    (result, s.releaseTokens decode)

def processSingleAttempt (env : RouterEnv) (leg : PdLeg DecodeStream) (attempt : Nat) (s : Router) :
    AttemptEnd × Router :=
  match prepareResource env .roleP leg.prefillSelect s with
  | (.error e, s) => prefillFailed env attempt e s
  | (.ok prefill, s) =>
    match forwardPRequest leg.prefill prefill s with
    | (.error e, s) =>
      let (result, s) := prefillFailed env attempt e s
      (result, s.releasePrefill prefill)
    | (.ok respJson, s) => decodePhase env leg attempt prefill respJson (s.releasePrefill prefill)

/-! ## Without streaming -/

/-- `_nonstream_error_json_response`, then the end of the handler. -/
def finishWithErrorResponse (e : PyException) (s : Router) : Except Raised (Option JsonResponse) × Router :=
  (.ok (some (.error (buildErrorResponse e))), { s with isFinished := true })

/-- A recomputed body in `_fetch_nonstream_decode_body`. -/
def nonstreamRecompute (env : RouterEnv) (reqData body : JsonObj) (prefill : ScheduledResource) (s : Router) :
    Except PyException (Option JsonObj) × Router :=
  if !env.recomputeEnabled then (.error recomputeDisabledHttpException, s)
  else
    match s.checkRecomputeLimit env with
    | .error e => (.error e, s)
    | .ok () =>
      let s := updateState { s with wantsRetry := true } .recompute
      match validateNonstreamRecomputeBody body with
      | .error e => (.error e, s)
      | .ok () =>
        match buildRequestInfoForNonstreamRecompute reqData body with
        | .error e => (.error e, s)
        | .ok track =>
          let s := s.releaseKv prefill
          match s.prepareRecomputeRetry env reqData track with
          | .error e => (.error e, s)
          | .ok s => (.ok none, s)

/-- The body for the client. -/
def clientBody (s : Router) (body : JsonObj) : Except PyException JsonObj := do
  let body ←
    if isChatApi s.reqInfo.effectiveEntryApi && Json.eqStr (body.get? "object") "text_completion" then
      adaptCompletionNonstreamToChat body s.reqInfo.reqId
    else .ok body
  stripOpenaiTokenIdFieldsForClient body
    ((s.reqInfo.reqData.get? "_client_return_token_ids").getD (.bool false)).truthy

/-- `_fetch_nonstream_decode_body` on the answer of the engine, without its `finally` block. -/
def nonstreamBody (env : RouterEnv) (reqData : JsonObj) (answer : Json) (prefill : ScheduledResource) (s : Router) :
    Except PyException (Option JsonObj) × Router :=
  match answer.asObj with
  | .error e => (.error e, s)
  | .ok body =>
    match isRecomputedNonstreamResponse body with
    | .error e => (.error e, s)
    | .ok true => s.nonstreamRecompute env reqData body prefill
    | .ok false =>
      let s := { s.releaseKv prefill with firstChunkSent := true }
      ((s.clientBody body).map some, s)

/-- The `except` block of the prefill. -/
def nonstreamPrefillFailed (env : RouterEnv) (attempt : Nat) (e : Raised) (s : Router) :
    Except Raised (Option JsonResponse) × Router :=
  match e with
  | .cancelled => (.error e, s)
  | .exception e =>
    if attempt + 1 ≠ env.transportRetryLimit then (.ok none, { s with isFinished := false })
    else finishWithErrorResponse e s

/-- The `except Exception` blocks of the decode. -/
def nonstreamDecodeFailed (env : RouterEnv) (attempt : Nat) (prefill : ScheduledResource) (e : PyException)
    (s : Router) : Except Raised (Option JsonResponse) × Router :=
  match e with
  | .httpException _ _ => finishWithErrorResponse e (s.handleStreamError prefill)
  | _ =>
    let s := s.handleStreamError prefill
    if s.firstChunkSent || attempt + 1 = env.transportRetryLimit then finishWithErrorResponse e s
    else (.ok none, s)

/-- The decode part after the `finally` block of `_fetch_nonstream_decode_body`. -/
def afterNonstreamBody (env : RouterEnv) (attempt : Nat) (prefill decode : ScheduledResource)
    (r : Except PyException (Option JsonObj) × Router) : Except Raised (Option JsonResponse) × Router :=
  let s := r.2.releaseTokens decode
  match r.1 with
  | .error e => nonstreamDecodeFailed env attempt prefill e s
  | .ok (some body) => (.ok (some (.body body)), { s.updateState .decodeEnd with isFinished := true })
  | .ok none => (.ok none, s)

/-- The decode part of `_nonstream_single_attempt`. -/
def nonstreamDecodePhase (env : RouterEnv) (leg : PdLeg (Except Raised Json)) (attempt : Nat)
    (prefill : ScheduledResource) (respJson : Json) (s : Router) : Except Raised (Option JsonResponse) × Router :=
  match prepareResource env .roleD leg.decodeSelect s with
  | (.error .cancelled, s) => (.error .cancelled, s)
  | (.error (.exception e), s) => nonstreamDecodeFailed env attempt prefill e s
  | (.ok decode, s) =>
    match genDRequest env s respJson with
    | .error e => nonstreamDecodeFailed env attempt prefill e (s.releaseTokens decode)
    | .ok reqData =>
      match leg.decode with
      | .error .cancelled => (.error .cancelled, s.releaseTokens decode)
      | .error (.exception e) => nonstreamDecodeFailed env attempt prefill e (s.releaseTokens decode)
      | .ok answer => afterNonstreamBody env attempt prefill decode (nonstreamBody env reqData answer prefill s)

def nonstreamSingleAttempt (env : RouterEnv) (leg : PdLeg (Except Raised Json)) (attempt : Nat) (s : Router) :
    Except Raised (Option JsonResponse) × Router :=
  match prepareResource env .roleP leg.prefillSelect s with
  | (.error e, s) => nonstreamPrefillFailed env attempt e s
  | (.ok prefill, s) =>
    match forwardPRequest leg.prefill prefill s with
    | (.error e, s) =>
      let (result, s) := nonstreamPrefillFailed env attempt e s
      (result, s.releasePrefill prefill)
    | (.ok respJson, s) => nonstreamDecodePhase env leg attempt prefill respJson (s.releasePrefill prefill)

end Router

/-- The request id of a recompute. -/
def Router.bumpIfRetry (s : Router) : Router := if s.wantsRetry then s.bumpReqId else s

/-! ## The loops over the legs -/

/-- What the scheduler holds for the allocations of a leg that the client has given up on. -/
def PdLeg.abandoned {δ : Type} (env : RouterEnv) (s : Router) (leg : PdLeg δ) : List ((Int × Int) × Workload) :=
  Router.abandonedAttempts env .roleP s env.maxRetry leg.prefillSelect ++
    match Router.prepareResource env .roleP leg.prefillSelect s with
    | (.error _, _) => []
    | (.ok prefill, s) =>
      match Router.forwardPRequest leg.prefill prefill s with
      | (.error _, _) => []
      | (.ok _, s) => Router.abandonedAttempts env .roleD (s.releasePrefill prefill) env.maxRetry leg.decodeSelect

/-- A handler between two legs, with what the scheduler holds for allocations that the client has given up on. -/
structure PdHandler where
  router : Router
  attempt : Nat := 0
  ended : Option HandlerEnd := none
  abandoned : List ((Int × Int) × Workload) := []

namespace PdHandler

/-- The handler before its first leg. -/
def start (env : RouterEnv) (exhausted : HandlerEnd) (router : Router) : PdHandler :=
  { router := router, ended := if 0 < env.transportRetryLimit then none else some exhausted }

/-- The next pass of the outer loop. -/
def nextAttempt (env : RouterEnv) (exhausted : HandlerEnd) (attempt : Nat) (router : Router) : PdHandler :=
  { router := router
    attempt := attempt + 1
    ended := if attempt + 1 < env.transportRetryLimit then none else some exhausted }

/-- The rest of the inner loop of `generate_stream` after a leg. -/
def afterStreamLeg (env : RouterEnv) (h : PdHandler) (r : AttemptEnd × Router) : PdHandler :=
  match r with
  | (.raised e, s) => { h with router := s, ended := some (.raised e) }
  | (result, s) =>
    let s := s.bumpIfRetry
    if s.isFinished then { h with router := s, ended := some .returned }
    else if result = .decodeTransportRetry ∨ s.wantsRetry = false then nextAttempt env .returned h.attempt s
    else { h with router := s }

/-- `generate_stream`, one leg. -/
def streamLeg (env : RouterEnv) (h : PdHandler) (leg : PdLeg Router.DecodeStream) : PdHandler :=
  match h.ended with
  | some _ => h
  | none =>
    let s := { h.router with firstChunkSent := false, streamChunkSentToClient := false, wantsRetry := false }
    { afterStreamLeg env h (Router.processSingleAttempt env leg h.attempt s) with
      abandoned := h.abandoned ++ leg.abandoned env h.router }

/-- `_generate_nonstream_json` after the last attempt. -/
def retriesExhausted : HandlerEnd :=
  .responded (.error ⟨"All retries exhausted for non-stream PD request", "RuntimeError", 500⟩)

/-- The rest of the inner loop of `_generate_nonstream_json` after a leg. -/
def afterNonstreamLeg (env : RouterEnv) (h : PdHandler) (r : Except Raised (Option JsonResponse) × Router) :
    PdHandler :=
  match r with
  | (.error e, s) => { h with router := s, ended := some (.raised e) }
  | (.ok (some response), s) => { h with router := s, ended := some (.responded response) }
  | (.ok none, s) =>
    let s := s.bumpIfRetry
    if s.isFinished then
      { h with
        router := s
        ended := some (.responded (.error ⟨"Non-stream PD request ended without response", "RuntimeError", 500⟩)) }
    else if s.wantsRetry then { h with router := s }
    else nextAttempt env retriesExhausted h.attempt s

/-- `_generate_nonstream_json`, one leg. -/
def nonstreamLeg (env : RouterEnv) (h : PdHandler) (leg : PdLeg (Except Raised Json)) : PdHandler :=
  match h.ended with
  | some _ => h
  | none =>
    let s := { h.router with firstChunkSent := false, wantsRetry := false }
    { afterNonstreamLeg env h (Router.nonstreamSingleAttempt env leg h.attempt s) with
      abandoned := h.abandoned ++ leg.abandoned env h.router }

end PdHandler

end PyMotor
