import PyMotor.Router.PdSeparate

/-!
# The router for CDP mode, leg by leg

The decode handler of `motor/coordinator/router/strategies/cdp_separate.py`. A leg is one pass of `while True`;
what the prefill side does to it shows only in how its awaits end. The handler keeps `req_data` across the legs
and rewrites it in place.
-/

namespace PyMotor

open Lib Recompute

/-- What the awaits of one decode leg meet; the sleep is the one before the next attempt. -/
structure CdpLeg (δ : Type) where
  decodeSelect : List Router.SelectOutcome
  decode : δ
  sleepCancelled : Bool := false

def attachCdpDecodeKvParams (env : RouterEnv) (reqData : JsonObj) : JsonObj :=
  let reqData := reqData.set "kv_transfer_params"
    (.obj [("do_remote_decode", .bool false), ("do_remote_prefill", .bool true),
      ("metaserver", .str env.metaserverUrl)])
  reqData.set "return_token_ids"
    (if env.recomputeEnabled then .bool true
      else (reqData.get? "_client_return_token_ids").getD (.bool false))

namespace Router

/-- The variables of the loop over a decode stream. -/
structure CdpLocals where
  leg : LegTrack
  reqData : JsonObj

/-- A chunk that asks for a recompute. -/
def cdpRecompute (env : RouterEnv) (locals : CdpLocals) (s : Router) : FrameEnd × CdpLocals × Router :=
  match s.checkRecomputeLimit env with
  | .error e => (.raised (.exception e), locals, s)
  | .ok () =>
    let s := s.updateState .recompute
    match s.prepareRecomputeRetry env locals.reqData locals.leg.track with
    | .error e =>
      (.raised (.exception e), { locals with reqData := failedRetryReqData locals.reqData locals.leg.track }, s)
    | .ok s => (.broke, { locals with reqData := s.reqInfo.reqData }, s)

/-- The loop body of `_generate_stream_response`. -/
def cdpBody (env : RouterEnv) (frame : Bytes) (st : CdpLocals × Router) : FrameEnd × CdpLocals × Router :=
  match processStreamChunk env.codec frame st.1.leg st.2.retryCount st.2.reqInfo.effectiveEntryApi
      st.2.reqInfo.reqId env.recomputeEnabled with
  | .error e => (.raised (.exception e), st)
  | .ok (none, leg) =>
    if leg.track.recomputeBlockedByPolicy then
      (.raised (.exception recomputeDisabledHttpException), { st.1 with leg := leg }, st.2)
    else cdpRecompute env { st.1 with leg := leg } st.2
  | .ok (some bytes, leg) =>
    if bytes.isEmpty then (.next, { st.1 with leg := leg }, st.2)
    else
      match yieldOut env (.chunk frame bytes) { st.2 with streamChunkSentToClient := true } with
      | (.error e, s) => (.raised e, { st.1 with leg := leg }, s)
      | (.ok (), s) => (.next, { st.1 with leg := leg }, s)

/-- A recomputed body in `_generate_response`, with the request that it leaves. -/
def cdpNonstreamRecompute (env : RouterEnv) (reqData body : JsonObj) (s : Router) :
    Except PyException (Option JsonObj) × JsonObj × Router :=
  if !env.recomputeEnabled then (.error recomputeDisabledHttpException, reqData, s)
  else
    match s.checkRecomputeLimit env with
    | .error e => (.error e, reqData, s)
    | .ok () =>
      let s := s.updateState .recompute
      match validateNonstreamRecomputeBody body with
      | .error e => (.error e, reqData, s)
      | .ok () =>
        match buildRequestInfoForNonstreamRecompute reqData body with
        | .error e => (.error e, reqData, s)
        | .ok track =>
          match s.prepareRecomputeRetry env reqData track with
          | .error e => (.error e, failedRetryReqData reqData track, s)
          | .ok s => (.ok none, s.reqInfo.reqData, s)

/-- `_generate_response` on the answer of the engine. -/
def cdpNonstreamBody (env : RouterEnv) (reqData : JsonObj) (answer : Json) (s : Router) :
    Except PyException (Option JsonObj) × JsonObj × Router :=
  match answer.asObj with
  | .error e => (.error e, reqData, s)
  | .ok body =>
    match isRecomputedNonstreamResponse body with
    | .error e => (.error e, reqData, s)
    | .ok true => s.cdpNonstreamRecompute env reqData body
    | .ok false =>
      let s := s.updateState .decodeEnd
      ((s.clientBody body).map some, reqData, s)

end Router

/-- The decode handler between two legs; `info` names its `RequestInfo`. -/
structure CdpHandler where
  router : Router
  reqData : JsonObj
  info : Nat := 0
  attempt : Nat := 0
  ended : Option HandlerEnd := none

namespace CdpHandler

open Router

/-- `handle_request` up to the first leg. -/
def start (env : RouterEnv) (router : Router) : CdpHandler :=
  { router := router
    reqData := attachCdpDecodeKvParams env router.reqInfo.reqData
    ended := if 0 < env.transportRetryLimit then none else some .returned }

def enterContext (h : CdpHandler) : Router :=
  { h.router with requestManager := (h.router.requestManager.addReqInfo h.router.reqInfo.reqId h.info).2 }

def leaveContext (h : CdpHandler) (s : Router) : CdpHandler :=
  { h with router := { s with requestManager := (s.requestManager.delReqInfo s.reqInfo.reqId).2 } }

/-- The next pass of the loop over the attempts. -/
def nextAttempt (env : RouterEnv) (h : CdpHandler) : CdpHandler :=
  if h.attempt + 1 < env.transportRetryLimit then
    { h with router := { h.router with streamChunkSentToClient := false }, attempt := h.attempt + 1 }
  else { h with attempt := h.attempt + 1, ended := some .returned }

def sleepThenRetry (env : RouterEnv) (cancelled : Bool) (h : CdpHandler) : CdpHandler :=
  if cancelled then { h with ended := some (.raised .cancelled) } else h.nextAttempt env

/-! ## Streaming -/

/-- The `except` blocks of `_generate_stream_response`. -/
def streamFailed (env : RouterEnv) (sleepCancelled : Bool) (e : Raised) (h : CdpHandler) : CdpHandler :=
  match e with
  | .cancelled => { h with ended := some (.raised e) }
  | .exception (.httpException _ _) => { h with ended := some (.raised e) }
  | .exception e =>
    if h.router.streamChunkSentToClient || h.attempt + 1 = env.transportRetryLimit then
      match yieldOut env (.error (buildErrorResponse e)) (h.router.updateState .exception) with
      | (.error closed, s) => { h with router := s, ended := some (.raised closed) }
      | (.ok (), s) => { h with router := s, ended := some .returned }
    else h.sleepThenRetry env sleepCancelled

/-- The end of a leg whose stream was read. -/
def afterStream (env : RouterEnv) (sleepCancelled : Bool) (decode : ScheduledResource) (h : CdpHandler)
    (r : LoopEnd × CdpLocals × Router) : CdpHandler :=
  let h := { h with reqData := r.2.1.reqData }
  match r.1 with
  | .exhausted =>
    { h.leaveContext ((r.2.2.updateState .decodeEnd).releaseTokens decode) with ended := some .returned }
  | .broke =>
    let h := h.leaveContext (r.2.2.releaseTokens decode)
    { h with router := h.router.bumpReqId }
  | .raised e => (h.leaveContext (r.2.2.releaseTokens decode)).streamFailed env sleepCancelled e

/-- `_generate_stream_response`, one leg. -/
def streamLeg (env : RouterEnv) (h : CdpHandler) (leg : CdpLeg DecodeStream) : CdpHandler :=
  match h.ended with
  | some _ => h
  | none =>
    let h := { h with reqData := attachCdpDecodeKvParams env h.reqData }
    match extractRequestInfo h.reqData with
    | .error e => h.streamFailed env leg.sleepCancelled (.exception e)
    | .ok track =>
      match prepareResource env .roleD leg.decodeSelect h.enterContext with
      | (.error e, s) => (h.leaveContext s).streamFailed env leg.sleepCancelled e
      | (.ok decode, s) =>
        h.afterStream env leg.sleepCancelled decode
          (forwardStreamRequest (cdpBody env) leg.decode { leg := { track := track }, reqData := h.reqData } s)

/-! ## Without streaming -/

/-- The `except` blocks of `_generate_response`. -/
def responseFailed (env : RouterEnv) (sleepCancelled : Bool) (e : Raised) (h : CdpHandler) : CdpHandler :=
  match e with
  | .cancelled => { h with ended := some (.raised e) }
  | .exception (.httpException _ _) => { h with ended := some (.raised e) }
  | .exception _ =>
    if h.attempt + 1 < env.transportRetryLimit then h.sleepThenRetry env sleepCancelled
    else { h with router := h.router.updateState .exception, ended := some (.raised e) }

/-- The end of a leg whose body was read. The `break` of a recompute leaves `while True`, so that the id is not
bumped and the next attempt is taken. -/
def afterBody (env : RouterEnv) (sleepCancelled : Bool) (decode : ScheduledResource) (h : CdpHandler)
    (r : Except PyException (Option JsonObj) × JsonObj × Router) : CdpHandler :=
  let h := { h with reqData := r.2.1 }.leaveContext (r.2.2.releaseTokens decode)
  match r.1 with
  | .ok (some body) => { h with ended := some (.responded (.body body)) }
  | .ok none => h.nextAttempt env
  | .error e => h.responseFailed env sleepCancelled (.exception e)

/-- `_generate_response`, one leg. -/
def responseLeg (env : RouterEnv) (h : CdpHandler) (leg : CdpLeg (Except Raised Json)) : CdpHandler :=
  match h.ended with
  | some _ => h
  | none =>
    let h := { h with reqData := attachCdpDecodeKvParams env h.reqData }
    match prepareResource env .roleD leg.decodeSelect h.enterContext with
    | (.error e, s) => (h.leaveContext s).responseFailed env leg.sleepCancelled e
    | (.ok decode, s) =>
      match leg.decode with
      | .error e => (h.leaveContext (s.releaseTokens decode)).responseFailed env leg.sleepCancelled e
      | .ok answer => h.afterBody env leg.sleepCancelled decode (cdpNonstreamBody env h.reqData answer s)

end CdpHandler

end PyMotor
