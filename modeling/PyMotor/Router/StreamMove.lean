import PyMotor.Lib.Run
import PyMotor.Recompute.Rounds
import PyMotor.Router.CdpSeparate
import PyMotor.Router.Spec

/-!
# What a streaming leg can do

Both routers run legs until one of them ends the handler. A view holds what the loops and the client see of a
handler; a move lists what one leg can do to it.
-/

namespace PyMotor

open Lib Recompute Router

def StreamOutput.isError : StreamOutput → Bool
  | .chunk _ _ => false
  | .error _ => true

structure StreamView where
  attempt : Nat
  retryCount : Nat
  ended : Option HandlerEnd
  out : List StreamOutput

def PdHandler.view (h : PdHandler) : StreamView := ⟨h.attempt, h.router.retryCount, h.ended, h.router.out⟩

def CdpHandler.view (h : CdpHandler) : StreamView := ⟨h.attempt, h.router.retryCount, h.ended, h.router.out⟩

/-- The outputs are chunks of the engine. -/
def AllChunks (sent : List StreamOutput) : Prop := ∀ o ∈ sent, o.isError = false

/-- What a leg does: it raises, its stream ends normally, it ends with an error chunk, it is recomputed, or the next
attempt starts and the client has got nothing of it. -/
inductive StreamMove (env : RouterEnv) (endsNormally : Prop) (raises : Raised → Prop) (v v' : StreamView) : Prop
  | raised {e : Raised} (h : raises e) (ended : v'.ended = some (.raised e))
  | normal {sent : List StreamOutput} (h : endsNormally) (ended : v'.ended = some .returned) (chunks : AllChunks sent)
      (out : v'.out = v.out ++ sent)
  | error {sent : List StreamOutput} {r : ErrorResponse} (ended : v'.ended = some .returned) (chunks : AllChunks sent)
      (out : v'.out = v.out ++ sent ++ [.error r])
  | recompute {sent : List StreamOutput} (ended : v'.ended = none) (attempt : v'.attempt = v.attempt)
      (limit : v.retryCount < env.recomputeRetryLimit) (count : v'.retryCount = v.retryCount + 1)
      (chunks : AllChunks sent) (out : v'.out = v.out ++ sent)
  | retry (ended : v'.ended = none) (attempt : v'.attempt = v.attempt + 1)
      (limit : v.attempt + 1 < env.transportRetryLimit) (count : v'.retryCount = v.retryCount) (out : v'.out = v.out)

def PyException.isHttp : PyException → Bool
  | .httpException _ _ => true
  | _ => false

/-- The first frame that is refused, or asks for a recompute, is refused with an HTTP exception: the recompute is
disabled, the limit is reached, the token ids are missing, or the request cannot be retried. -/
def refusesRecompute (env : RouterEnv) (s : Router) (reqData : JsonObj) : List Bytes → LegTrack → Bool
  | [], _ => false
  | frame :: frames, leg =>
    match processStreamChunk env.codec frame leg s.retryCount s.reqInfo.effectiveEntryApi s.reqInfo.reqId
        env.recomputeEnabled with
    | .error e => e.isHttp
    | .ok (some _, leg) => refusesRecompute env s reqData frames leg
    | .ok (none, leg) =>
      leg.track.recomputeBlockedByPolicy || recomputeLimitReached s.retryCount env.recomputeRetryLimit ||
        match prepareRetryRequest env.codec reqData leg.track with
        | .error e => e.isHttp
        | .ok _ => false

/-- The leg gets no decode resource, or its recompute is refused with an HTTP exception. -/
def CdpHandler.refuses (env : RouterEnv) (h : CdpHandler) (leg : CdpLeg DecodeStream) : Bool :=
  match extractRequestInfo (attachCdpDecodeKvParams env h.reqData) with
  | .error _ => false
  | .ok track =>
    match prepareResource env .roleD leg.decodeSelect h.enterContext with
    | (.error _, _) => true
    | (.ok _, _) => leg.decode.connect.isNone &&
        refusesRecompute env h.router (attachCdpDecodeKvParams env h.reqData) leg.decode.frames { track := track }

/-- What is left of the attempts and of the recomputes. -/
def StreamView.budget (env : RouterEnv) (v : StreamView) : Nat :=
  (env.transportRetryLimit - v.attempt) + (env.recomputeRetryLimit - v.retryCount)

theorem AllChunks.append {sent more : List StreamOutput} (h : AllChunks sent) (h' : AllChunks more) :
    AllChunks (sent ++ more) := by
  intro o ho
  rcases List.mem_append.mp ho with ho | ho
  · exact h o ho
  · exact h' o ho

namespace StreamMove

variable {env : RouterEnv} {endsNormally : Prop} {raises : Raised → Prop} {v v' : StreamView}

theorem attempt_lt (h : StreamMove env endsNormally raises v v') (hlt : v.attempt < env.transportRetryLimit)
    (hend : v'.ended = none) : v'.attempt < env.transportRetryLimit := by
  cases h with
  | raised _ ended => rw [ended] at hend; cases hend
  | normal _ ended => rw [ended] at hend; cases hend
  | error ended => rw [ended] at hend; cases hend
  | recompute _ attempt => rw [attempt]; exact hlt
  | retry _ attempt limit => rw [attempt]; exact limit

theorem budget_lt (h : StreamMove env endsNormally raises v v') (hlt : v.attempt < env.transportRetryLimit)
    (hend : v'.ended = none) : v'.budget env < v.budget env := by
  unfold StreamView.budget
  cases h with
  | raised _ ended => rw [ended] at hend; cases hend
  | normal _ ended => rw [ended] at hend; cases hend
  | error ended => rw [ended] at hend; cases hend
  | recompute _ attempt limit count => omega
  | retry _ attempt limit count => omega

end StreamMove

section Runs

variable {σ ε : Type} (step : σ → ε → σ) (view : σ → StreamView)

/-- After a run of a live handler whose legs do not raise: it has not ended and the client has got chunks only, or
its last leg ended normally, or the last thing that the client has got is the only error chunk. -/
inductive Seen (normal : ε → Prop) (s : σ) (es : List ε) : Prop
  | running (ended : (view (run step s es)).ended = none) (chunks : AllChunks (view (run step s es)).out)
  | normal (pre post : List ε) (e : ε) (split : es = pre ++ e :: post) (running : (view (run step s pre)).ended = none)
      (ended : (view (run step s (pre ++ [e]))).ended = some .returned) (h : normal e)
      (last : (view (run step s es)).ended = some .returned) (chunks : AllChunks (view (run step s es)).out)
  | error (sent : List StreamOutput) (r : ErrorResponse) (last : (view (run step s es)).ended = some .returned)
      (chunks : AllChunks sent) (out : (view (run step s es)).out = sent ++ [.error r])

/-- The client has got nothing of a leg that the next attempt starts again. -/
def NotRestarted (s : σ) (e : ε) : Prop :=
  (view (step s e)).ended = none → (view (step s e)).attempt ≠ (view s).attempt →
    (view (step s e)).out = (view s).out

/-- The stream does not raise, ends visibly within the attempts and recomputes, and no leg that the client has got
something of is started again. -/
structure EndsVisibly (env : RouterEnv) (normal : ε → Prop) (s : σ) (es : List ε) : Prop where
  seen : Seen step view normal s es
  ends : env.transportRetryLimit + env.recomputeRetryLimit ≤ es.length → (view (run step s es)).ended.isSome = true
  notRestarted : Along step (NotRestarted step view) s es

end Runs

/-! ## Legs without streaming -/

/-- A recomputed body passes the checks of the policy and the limit, and then something other than an HTTP exception
is raised before the recompute is counted. -/
def losesCount (env : RouterEnv) (s : Router) (reqData body : JsonObj) : Bool :=
  env.recomputeEnabled && !recomputeLimitReached s.retryCount env.recomputeRetryLimit &&
    match validateNonstreamRecomputeBody body with
    | .error e => !e.isHttp
    | .ok () =>
      match buildRequestInfoForNonstreamRecompute reqData body with
      | .error e => !e.isHttp
      | .ok track =>
        match prepareRetryRequest env.codec reqData track with
        | .error e => !e.isHttp
        | .ok _ => false

/-- The answer of the prefill, when the leg gets as far as its decode engine. -/
def PdLeg.decodeAsked {δ : Type} (env : RouterEnv) (s : Router) (leg : PdLeg δ) : Option Json :=
  match prepareResource env .roleP leg.prefillSelect s with
  | (.error _, _) => none
  | (.ok prefill, s) =>
    match forwardPRequest leg.prefill prefill s with
    | (.error _, _) => none
    | (.ok respJson, s) =>
      match prepareResource env .roleD leg.decodeSelect (s.releasePrefill prefill) with
      | (.error _, _) => none
      | (.ok _, _) => some respJson

/-- The leg is asked for a recompute that it does not count, in an attempt that is not the last one. -/
def PdHandler.losesRecompute (env : RouterEnv) (h : PdHandler) (leg : PdLeg (Except Raised Json)) : Bool :=
  h.attempt + 1 ≠ env.transportRetryLimit &&
    match leg.decodeAsked env { h.router with firstChunkSent := false, wantsRetry := false }, leg.decode with
    | some respJson, .ok (.obj body) =>
      match genDRequest env h.router respJson, isRecomputedNonstreamResponse body with
      | .ok reqData, .ok true => losesCount env h.router reqData body
      | _, _ => false
    | _, _ => false

/-- The leg gets a recomputed body, and the recompute is counted and prepared. -/
def CdpHandler.acceptsRecompute (env : RouterEnv) (h : CdpHandler) (leg : CdpLeg (Except Raised Json)) : Bool :=
  match (prepareResource env .roleD leg.decodeSelect h.enterContext).1, leg.decode with
  | .ok _, .ok (.obj body) =>
    match isRecomputedNonstreamResponse body with
    | .ok true =>
      env.recomputeEnabled && !recomputeLimitReached h.router.retryCount env.recomputeRetryLimit &&
        (validateNonstreamRecomputeBody body).isOk &&
        match buildRequestInfoForNonstreamRecompute (attachCdpDecodeKvParams env h.reqData) body with
        | .ok track => (prepareRetryRequest env.codec (attachCdpDecodeKvParams env h.reqData) track).isOk
        | .error _ => false
    | _ => false
  | _, _ => false

/-- A recompute that the leg accepts is followed by a leg of the same attempt under the next id. -/
def CdpHandler.FollowsRecompute (env : RouterEnv) (h : CdpHandler) (leg : CdpLeg (Except Raised Json)) : Prop :=
  h.ended = none → h.acceptsRecompute env leg = true →
    (responseLeg env h leg).ended = none ∧ (responseLeg env h leg).attempt = h.attempt ∧
      (responseLeg env h leg).router.reqInfo.reqId = modifyReqIdRetrySegment h.router.reqInfo.reqId

/-- The leg is scheduled, the prefill answers, and the decode engine answers with `body`. -/
structure PdLeg.Served (env : RouterEnv) (leg : PdLeg (Except Raised Json)) (body : JsonObj) : Prop where
  prefillSelect : ∃ iid eid, selected env.maxRetry leg.prefillSelect = .allocated iid eid
  prefill : ∃ resp, leg.prefill = .ok (.obj resp)
  decodeSelect : ∃ iid eid, selected env.maxRetry leg.decodeSelect = .allocated iid eid
  decode : leg.decode = .ok (.obj body)

structure CdpLeg.Served (env : RouterEnv) (leg : CdpLeg (Except Raised Json)) (body : JsonObj) : Prop where
  decodeSelect : ∃ iid eid, selected env.maxRetry leg.decodeSelect = .allocated iid eid
  decode : leg.decode = .ok (.obj body)

/-- The text that a handler has responded with. -/
def respondedText : Option HandlerEnd → Option String
  | some (.responded (.body content)) => some (bodyText content)
  | _ => none

end PyMotor
