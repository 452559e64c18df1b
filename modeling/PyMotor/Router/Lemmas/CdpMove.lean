import PyMotor.Router.Lemmas.PdMove

/-!
# The moves of a streaming CDP leg
-/

namespace PyMotor.Router

open Lib Recompute

variable {env : RouterEnv} {s₀ : Router} {reqData : JsonObj} {leg₀ : LegTrack} {taken : List Bytes}

structure SameRouter (s₀ s : Router) : Prop where
  count : s.retryCount = s₀.retryCount
  reqId : s.reqInfo.reqId = s₀.reqInfo.reqId
  entryApi : s.reqInfo.effectiveEntryApi = s₀.reqInfo.effectiveEntryApi
  sent : Sent s₀.out s

/-- Between two frames: whether the recompute will be refused is decided by the frames to come. -/
structure CdpReading (env : RouterEnv) (s₀ : Router) (reqData : JsonObj) (leg₀ : LegTrack) (taken : List Bytes)
    (st : CdpLocals × Router) : Prop where
  router : SameRouter s₀ st.2
  data : st.1.reqData = reqData
  noSignal : ∀ frame ∈ taken, isRecomputeSignal env.codec frame = false
  refuses : ∀ frames, refusesRecompute env s₀ reqData (taken ++ frames) leg₀ =
    refusesRecompute env s₀ reqData frames st.1.leg

structure CdpRecomputing (env : RouterEnv) (s₀ s : Router) : Prop where
  count : s.retryCount = s₀.retryCount + 1
  limit : s₀.retryCount < env.recomputeRetryLimit
  sent : Sent s₀.out s

/-- After a frame that raises: an HTTP exception refuses the recompute. -/
structure CdpFailing (env : RouterEnv) (s₀ : Router) (reqData : JsonObj) (leg₀ : LegTrack) (e : Raised)
    (taken : List Bytes) (st : CdpLocals × Router) : Prop where
  router : SameRouter s₀ st.2
  cancelled : e = .cancelled → ∃ k, env.closesAt k = true
  refuses : ∀ err : PyException, e = .exception err → err.isHttp = true →
    ∀ frames, refusesRecompute env s₀ reqData (taken ++ frames) leg₀ = true

theorem SameRouter.noteChunk {s : Router} (h : SameRouter s₀ s) (chunk : Bytes) : SameRouter s₀ (s.noteChunk chunk) := by
  unfold Router.noteChunk
  split
  · exact ⟨h.count, h.reqId, h.entryApi, h.sent⟩
  · exact h

theorem CdpReading.noteChunk {locals : CdpLocals} {s : Router} (h : CdpReading env s₀ reqData leg₀ taken (locals, s))
    (chunk : Bytes) : CdpReading env s₀ reqData leg₀ taken (locals, s.noteChunk chunk) :=
  ⟨h.router.noteChunk chunk, h.data, h.noSignal, h.refuses⟩

theorem SameRouter.cdpRecompute {locals : CdpLocals} {s : Router} (h : SameRouter s₀ s) (hd : locals.reqData = reqData)
    (hrefuses : (recomputeLimitReached s₀.retryCount env.recomputeRetryLimit ||
        match prepareRetryRequest env.codec reqData locals.leg.track with
        | .error e => e.isHttp
        | .ok _ => false) = true →
      ∀ frames, refusesRecompute env s₀ reqData (taken ++ frames) leg₀ = true)
    (henabled : env.recomputeEnabled = true) :
    FramePost (CdpReading env s₀ reqData leg₀) (fun _ st => CdpRecomputing env s₀ st.2)
      (CdpFailing env s₀ reqData leg₀) taken (cdpRecompute env locals s) := by
  unfold Router.cdpRecompute
  cases hlimit : s.checkRecomputeLimit env with
  | error e =>
      refine ⟨h, fun he => (by cases he), fun err _ _ => hrefuses ?_⟩
      have hreached : recomputeLimitReached s₀.retryCount env.recomputeRetryLimit = true := by
        by_contra hne
        rw [← h.count] at hne
        simp [checkRecomputeLimit, hne] at hlimit
      rw [hreached, Bool.true_or]
  | ok u =>
      have hlt := checkRecomputeLimit_ok hlimit
      rw [h.count] at hlt
      dsimp only
      cases hp : (s.updateState .recompute).prepareRecomputeRetry env locals.reqData locals.leg.track with
      | error e =>
          refine ⟨⟨h.count, h.reqId, h.entryApi, h.sent⟩, fun he => (by cases he), fun err he hhttp => hrefuses ?_⟩
          rw [hd] at hp
          have hretry : prepareRetryRequest env.codec reqData locals.leg.track = .error e :=
            prepareRecomputeRetry_error henabled hp
          cases he
          rw [hretry]
          simp [hhttp]
      | ok s' =>
          obtain ⟨retry, -, rfl⟩ := prepareRecomputeRetry_ok hp
          exact ⟨by simp [updateState, h.count], hlt, h.sent.congr rfl rfl⟩

theorem CdpReading.cdpBody {st : CdpLocals × Router} (h : CdpReading env s₀ reqData leg₀ taken st) (frame : Bytes) :
    FramePost (CdpReading env s₀ reqData leg₀) (fun _ st => CdpRecomputing env s₀ st.2)
      (CdpFailing env s₀ reqData leg₀) (taken ++ [frame]) (cdpBody env frame st) := by
  have hstep : ∀ frames, refusesRecompute env s₀ reqData (taken ++ [frame] ++ frames) leg₀ =
      refusesRecompute env s₀ reqData (frame :: frames) st.1.leg := by
    intro frames
    rw [List.append_assoc]
    exact h.refuses _
  unfold Router.cdpBody
  rw [h.router.count, h.router.reqId, h.router.entryApi]
  cases hok : processStreamChunk env.codec frame st.1.leg s₀.retryCount s₀.reqInfo.effectiveEntryApi s₀.reqInfo.reqId
    env.recomputeEnabled with
  | error e =>
      refine ⟨h.router, fun he => (by cases he), fun err he hhttp frames => ?_⟩
      cases he
      rw [hstep]
      simpa [refusesRecompute, hok] using hhttp
  | ok r =>
      obtain ⟨bytes, leg⟩ := r
      cases bytes with
      | none =>
          dsimp only
          cases hblocked : leg.track.recomputeBlockedByPolicy with
          | true =>
              refine ⟨h.router, fun he => (by cases he), fun err _ _ frames => ?_⟩
              rw [hstep]
              simp [refusesRecompute, hok, hblocked]
          | false =>
              have henabled : env.recomputeEnabled = true := by
                rcases processStreamChunk_none hok with he | hb
                · exact he
                · rw [hblocked] at hb; cases hb
              refine SameRouter.cdpRecompute h.router h.data (fun hr frames => ?_) henabled
              rw [hstep]
              simp only [refusesRecompute, hok, hblocked, Bool.false_or]
              exact hr
      | some bytes =>
          have htaken := noSignal_append h.noSignal hok
          have hrefuses : ∀ frames, refusesRecompute env s₀ reqData (taken ++ [frame] ++ frames) leg₀ =
              refusesRecompute env s₀ reqData frames leg := by
            intro frames
            rw [hstep]
            simp [refusesRecompute, hok]
          have hsent := h.router.sent.yieldOut env frame bytes
          dsimp only
          split
          · exact ⟨h.router, h.data, htaken, hrefuses⟩
          · cases hclose : env.closesAt st.2.out.length with
            | true =>
                simp only [yieldOut, hclose, if_true]
                exact ⟨⟨h.router.count, h.router.reqId, h.router.entryApi, hsent⟩, fun _ => ⟨_, hclose⟩,
                  fun err he => (by cases he)⟩
            | false =>
                simp only [yieldOut, hclose, Bool.false_eq_true, if_false]
                exact ⟨⟨h.router.count, h.router.reqId, h.router.entryApi, hsent⟩, h.data, htaken, hrefuses⟩

/-- What holds after the loop over a decode stream. -/
def CdpRead (env : RouterEnv) (s₀ : Router) (reqData : JsonObj) (leg₀ : LegTrack) (stream : DecodeStream) :
    LoopEnd × CdpLocals × Router → Prop
  | (.exhausted, st) => SameRouter s₀ st.2 ∧ stream.EndsNormally env.codec
  | (.broke, st) => CdpRecomputing env s₀ st.2
  | (.raised e, st) => SameRouter s₀ st.2 ∧
    (e = .cancelled → ¬ (stream.Uncancelled ∧ ∀ k, env.closesAt k = false)) ∧
    ∀ err : PyException, e = .exception err → err.isHttp = true → stream.EngineOnly →
      stream.connect = none ∧ refusesRecompute env s₀ reqData stream.frames leg₀ = true

theorem not_http_of_engineOnly {stream : DecodeStream} {err : PyException} (h : stream.EngineOnly)
    (hhttp : err.isHttp = true) : stream.connect ≠ some (.exception err) ∧ stream.ending ≠ some (.exception err) := by
  cases err with
  | httpException status detail => exact h status detail
  | _ => cases hhttp

theorem cdp_forwardStreamRequest (env : RouterEnv) (reqData : JsonObj) (leg₀ : LegTrack) (s : Router)
    (stream : DecodeStream) :
    CdpRead env s reqData leg₀ stream
      (forwardStreamRequest (cdpBody env) stream { leg := leg₀, reqData := reqData } s) := by
  have hsame : SameRouter s { s with firstChunkSent := false } := ⟨rfl, rfl, rfl, sent_self _⟩
  have h₀ : CdpReading env s reqData leg₀ [] ({ leg := leg₀, reqData := reqData }, { s with firstChunkSent := false }) :=
    ⟨hsame, rfl, fun _ hf => (nomatch hf), fun _ => rfl⟩
  unfold Router.forwardStreamRequest
  cases hconnect : stream.connect with
  | some e =>
      refine ⟨hsame, ?_, ?_⟩
      · rintro rfl ⟨hu, -⟩
        exact hu.1 hconnect
      · rintro err rfl hhttp hengine
        exact absurd hconnect (not_http_of_engineOnly hengine hhttp).1
  | none =>
      have hloop := forChunks_rule (fun taken frame st hst => CdpReading.cdpBody hst frame)
        (fun _ _ _ chunk hst => hst.noteChunk chunk) stream.ending stream.chunks [] h₀
      dsimp only
      rcases hres : forChunks (Router.cdpBody env) stream.ending stream.chunks []
        ({ leg := leg₀, reqData := reqData }, { s with firstChunkSent := false }) with ⟨result, st⟩
      rw [hres] at hloop
      cases result with
      | exhausted =>
          obtain ⟨hend, hr⟩ := hloop
          exact ⟨hr.router, hconnect, hend, hr.noSignal⟩
      | broke =>
          obtain ⟨t, -, hB⟩ := hloop
          exact hB
      | raised e =>
          rcases hloop with ⟨t, ⟨rest, hpre⟩, hX⟩ | ⟨hend, hr⟩
          · refine ⟨hX.router, ?_, fun err he hhttp _ => ⟨hconnect, ?_⟩⟩
            · rintro he ⟨-, hk⟩
              obtain ⟨k, hc⟩ := hX.cancelled he
              rw [hk k] at hc
              cases hc
            · have href := hX.refuses err he hhttp rest
              rw [hpre] at href
              exact href
          · refine ⟨hr.router, ?_, ?_⟩
            · rintro rfl ⟨hu, -⟩
              exact hu.2 hend
            · rintro err rfl hhttp hengine
              exact absurd hend (not_http_of_engineOnly hengine hhttp).2

end PyMotor.Router

namespace PyMotor

open Lib Recompute Router

/-- No await of the leg is cancelled, and the client stays. -/
structure CdpLeg.Calm (env : RouterEnv) (leg : CdpLeg DecodeStream) : Prop where
  decodeSelect : SelectsUncancelled leg.decodeSelect
  decode : leg.decode.Uncancelled
  sleep : leg.sleepCancelled = false
  client : ∀ k, env.closesAt k = false

namespace CdpHandler

variable {env : RouterEnv} {h : CdpHandler} {leg : CdpLeg DecodeStream}

/-- What a leg may raise: a cancellation, or an HTTP exception that refuses it. -/
def StreamRaises (env : RouterEnv) (h : CdpHandler) (leg : CdpLeg DecodeStream) (e : Raised) : Prop :=
  e = .cancelled ∧ ¬ leg.Calm env ∨
    ∃ err : PyException, e = .exception err ∧ err.isHttp = true ∧
      (leg.decode.EngineOnly → h.refuses env leg = true)

theorem streamFailed_move {h' : CdpHandler} {e : Raised} (hattempt : h'.attempt = h.attempt) (hend : h'.ended = none)
    (hcount : h'.router.retryCount = h.router.retryCount) (hsent : Sent h.router.out h'.router)
    (hlt : h.attempt < env.transportRetryLimit) (hcancel : e = .cancelled → ¬ leg.Calm env)
    (hhttp : ∀ err : PyException, e = .exception err → err.isHttp = true →
      leg.decode.EngineOnly → h.refuses env leg = true) :
    StreamMove env (leg.decode.EndsNormally env.codec) (StreamRaises env h leg) h.view
      (h'.streamFailed env leg.sleepCancelled e).view := by
  obtain ⟨sent, hchunks, hout, hnil⟩ := hsent
  unfold streamFailed
  split
  · exact .raised (.inl ⟨rfl, hcancel rfl⟩) rfl
  · exact .raised (.inr ⟨_, rfl, rfl, hhttp _ rfl rfl⟩) rfl
  · rename_i err _
    split
    · cases hclose : env.closesAt (h'.router.updateState .exception).out.length with
      | true =>
          simp only [yieldOut, hclose, if_true]
          refine .raised (.inl ⟨rfl, fun hcalm => ?_⟩) rfl
          rw [hcalm.client] at hclose
          cases hclose
      | false =>
          simp only [yieldOut, hclose, Bool.false_eq_true, if_false]
          have hout' : h'.router.out ++ [StreamOutput.error (buildErrorResponse err)] =
              h.router.out ++ sent ++ [.error (buildErrorResponse err)] := by rw [hout]
          exact .error rfl hchunks hout'
    · rename_i hcond
      rw [Bool.or_eq_true, not_or] at hcond
      have hlt' : h.attempt + 1 < env.transportRetryLimit := by
        have hne : h'.attempt + 1 ≠ env.transportRetryLimit := by simpa using hcond.2
        omega
      unfold sleepThenRetry
      split
      · rename_i hsleep
        refine .raised (.inl ⟨rfl, fun hcalm => ?_⟩) rfl
        rw [hcalm.sleep] at hsleep
        cases hsleep
      · rw [nextAttempt, hattempt, if_pos hlt']
        refine .retry hend rfl hlt' hcount ?_
        show h'.router.out = h.router.out
        rw [hout, hnil (by simpa using hcond.1), List.append_nil]

theorem extractRequestInfo_error {reqData : JsonObj} {e : PyException} (h : extractRequestInfo reqData = .error e) :
    e.isHttp = false := by
  have hhead : ∀ {x : Json} {e : PyException}, x.head = .error e → e.isHttp = false := by
    intro x e hx
    unfold Json.head at hx
    split at hx
    · cases hx
    · cases hx; rfl
    · split at hx
      · cases hx
      · cases hx; rfl
    · cases hx; rfl
    · cases hx; rfl
  cases ho : originPromptForRecompute reqData with
  | ok prompt => simp [extractRequestInfo, ho, bind, Except.bind, pure, Except.pure] at h
  | error e' =>
      have he : e' = e := by simpa [extractRequestInfo, ho, bind, Except.bind] using h
      subst he
      unfold originPromptForRecompute at ho
      split at ho
      · cases ho
      · dsimp only at ho
        split at ho
        · cases hm : (Json.orElse (reqData.get? "messages") (.arr [])).head with
          | error e'' =>
              rw [hm] at ho
              have he : e'' = e' := by simpa [bind, Except.bind] using ho
              rw [← he]
              exact hhead hm
          | ok first =>
              rw [hm] at ho
              simp only [bind, Except.bind] at ho
              split at ho <;> cases ho
        · cases ho

/-- The router before the loop over the stream is the one before the leg. -/
theorem sameRouter_prepared (env : RouterEnv) (h : CdpHandler) (outcomes : List SelectOutcome) :
    SameRouter h.router (prepareResource env .roleD outcomes h.enterContext).2 := by
  have hframe := frame_prepareResource env h.enterContext .roleD outcomes
  exact ⟨hframe.retryCount, by rw [hframe]; rfl, by rw [hframe]; rfl, hframe.sent (sent_self _)⟩

theorem SameRouter.refuses {s₀ s : Router} (h : SameRouter s₀ s) (env : RouterEnv) (reqData : JsonObj)
    (frames : List Bytes) (leg : LegTrack) :
    refusesRecompute env s reqData frames leg = refusesRecompute env s₀ reqData frames leg := by
  induction frames generalizing leg with
  | nil => rfl
  | cons frame frames ih =>
      unfold refusesRecompute
      rw [h.count, h.reqId, h.entryApi]
      simp only [ih]

theorem refuses_of_track (leg : CdpLeg DecodeStream) {track : RequestTrack}
    (htrack : extractRequestInfo (attachCdpDecodeKvParams env h.reqData) = .ok track) :
    h.refuses env leg =
      match prepareResource env .roleD leg.decodeSelect h.enterContext with
      | (.error _, _) => true
      | (.ok _, _) => leg.decode.connect.isNone &&
        refusesRecompute env h.router (attachCdpDecodeKvParams env h.reqData) leg.decode.frames { track := track } := by
  unfold refuses
  rewrite [htrack]
  rfl

theorem afterStream_move (hend : h.ended = none) (hlt : h.attempt < env.transportRetryLimit) {s : Router}
    (hsame : SameRouter h.router s) (hout : s.out = h.router.out) {reqData : JsonObj} {leg₀ : LegTrack} (decode : ScheduledResource)
    {r : LoopEnd × CdpLocals × Router} (hread : CdpRead env s reqData leg₀ leg.decode r)
    (hrefuses : leg.decode.connect = none → refusesRecompute env h.router reqData leg.decode.frames leg₀ = true →
      h.refuses env leg = true) :
    StreamMove env (leg.decode.EndsNormally env.codec) (StreamRaises env h leg) h.view
      (afterStream env leg.sleepCancelled decode { h with reqData := reqData } r).view := by
  obtain ⟨result, locals, s'⟩ := r
  cases result with
  | exhausted =>
      obtain ⟨hs', hnormal⟩ := hread
      have hframe := frame_updateWorkload (s := s'.updateState .decodeEnd) decode .releaseTokens
      obtain ⟨sent, hchunks, hsent, -⟩ := hs'.sent
      refine .normal hnormal rfl hchunks ?_
      show (releaseTokens decode (s'.updateState .decodeEnd)).out = _
      rw [← show s.out = h.view.out from hout, ← hsent]
      exact hframe.output
  | broke =>
      have hr : CdpRecomputing env s s' := hread
      have hframe := frame_updateWorkload (s := s') decode .releaseTokens
      obtain ⟨sent, hchunks, hsent, -⟩ := hr.sent
      refine .recompute hend rfl ?_ ?_ hchunks ?_
      · show h.router.retryCount < env.recomputeRetryLimit
        rw [← hsame.count]
        exact hr.limit
      · show (releaseTokens decode s').retryCount = h.router.retryCount + 1
        rw [← hsame.count, ← hr.count]
        exact hframe.retryCount
      · show (releaseTokens decode s').out = h.router.out ++ sent
        rw [← hout, ← hsent]
        exact hframe.output
  | raised e =>
      obtain ⟨hs', hcancel, hhttp⟩ := hread
      have hframe := frame_updateWorkload (s := s') decode .releaseTokens
      refine streamFailed_move rfl hend ?_ ?_ hlt (fun he hcalm => hcancel he ⟨hcalm.decode, hcalm.client⟩) ?_
      · exact hframe.retryCount.trans (hs'.count.trans hsame.count)
      · have hsent := hframe.sent hs'.sent
        rw [hout] at hsent
        exact hsent.congr rfl rfl
      · intro err he hh hengine
        obtain ⟨hconnect, href⟩ := hhttp err he hh hengine
        exact hrefuses hconnect (by rw [← SameRouter.refuses hsame]; exact href)

theorem streamLeg_move (hend : h.ended = none) (hlt : h.attempt < env.transportRetryLimit)
    (leg : CdpLeg DecodeStream) :
    StreamMove env (leg.decode.EndsNormally env.codec) (StreamRaises env h leg) h.view (streamLeg env h leg).view := by
  unfold streamLeg
  cases hended : h.ended with
  | some e => rw [hend] at hended; cases hended
  | none =>
      dsimp only
      cases htrack : extractRequestInfo (attachCdpDecodeKvParams env h.reqData) with
      | error e =>
          refine streamFailed_move rfl rfl rfl (sent_self _) hlt (fun he => by cases he) fun err he hhttp => ?_
          cases he
          rw [extractRequestInfo_error htrack] at hhttp
          cases hhttp
      | ok track =>
          have hsame := sameRouter_prepared env h leg.decodeSelect
          have hframe := frame_prepareResource env h.enterContext .roleD leg.decodeSelect
          have hout := hframe.output
          have hrefuses := refuses_of_track leg htrack
          rcases hp : prepareResource env .roleD leg.decodeSelect h.enterContext with ⟨result, s⟩
          rw [hp] at hsame hout hrefuses
          have hp' : prepareResource env .roleD leg.decodeSelect
              (enterContext { h with reqData := attachCdpDecodeKvParams env h.reqData, ended := none }) = (result, s) := hp
          rw [hp']
          cases result with
          | error e =>
              refine streamFailed_move rfl rfl hsame.count (hsame.sent.congr rfl rfl) hlt ?_ fun _ _ _ _ => hrefuses
              rintro rfl hcalm
              exact prepareResource_cancelled (by rw [hp]) hcalm.decodeSelect
          | ok decode =>
              have hread := cdp_forwardStreamRequest env (attachCdpDecodeKvParams env h.reqData) { track := track } s
                leg.decode
              have hmove := afterStream_move hend hlt hsame hout decode hread fun hconnect href => by
                rw [hrefuses, hconnect, href]; rfl
              rw [hended] at hmove
              exact hmove

end CdpHandler

/-!
## The moves of a CDP leg without streaming
-/

/-- What a leg does: it responds or raises, it fails and the next attempt starts, or it accepts a recompute, which
takes the next attempt too. -/
inductive ResponseMove (env : RouterEnv) (accepts : Bool) (h h' : CdpHandler) : Prop
  | responded {response : JsonResponse} (haccepts : accepts = false) (ended : h'.ended = some (.responded response))
      (count : h'.router.retryCount = h.router.retryCount)
  | raised {e : Raised} (haccepts : accepts = false) (ended : h'.ended = some (.raised e))
      (count : h'.router.retryCount = h.router.retryCount)
  | retry (haccepts : accepts = false) (ended : h'.ended = none) (attempt : h'.attempt = h.attempt + 1)
      (limit : h.attempt + 1 < env.transportRetryLimit) (count : h'.router.retryCount = h.router.retryCount)
  | recompute (haccepts : accepts = true) (attempt : h'.attempt = h.attempt + 1)
      (limit : h.router.retryCount < env.recomputeRetryLimit) (count : h'.router.retryCount = h.router.retryCount + 1)
      (reqId : h'.router.reqInfo.reqId = h.router.reqInfo.reqId)
      (ended : h'.ended = if h.attempt + 1 < env.transportRetryLimit then none else some .returned)

/-- What the answer of the engine comes to. -/
inductive CdpBodyMove (env : RouterEnv) (s : Router) (accepts : Bool) (s' : Router) :
    Except PyException (Option JsonObj) → Prop
  | body (content : JsonObj) (haccepts : accepts = false) (count : s'.retryCount = s.retryCount) :
      CdpBodyMove env s accepts s' (.ok (some content))
  | error (e : PyException) (haccepts : accepts = false) (count : s'.retryCount = s.retryCount) :
      CdpBodyMove env s accepts s' (.error e)
  | recompute (haccepts : accepts = true) (limit : s.retryCount < env.recomputeRetryLimit)
      (count : s'.retryCount = s.retryCount + 1) (reqId : s'.reqInfo.reqId = s.reqInfo.reqId) :
      CdpBodyMove env s accepts s' (.ok none)

namespace Router

variable {env : RouterEnv} {s : Router}

theorem cdpNonstreamRecompute_move (env : RouterEnv) (s : Router) (reqData body : JsonObj) :
    CdpBodyMove env s
      (env.recomputeEnabled && !recomputeLimitReached s.retryCount env.recomputeRetryLimit &&
        (validateNonstreamRecomputeBody body).isOk &&
        match buildRequestInfoForNonstreamRecompute reqData body with
        | .ok track => (prepareRetryRequest env.codec reqData track).isOk
        | .error _ => false)
      (cdpNonstreamRecompute env reqData body s).2.2 (cdpNonstreamRecompute env reqData body s).1 := by
  unfold cdpNonstreamRecompute
  cases henabled : env.recomputeEnabled with
  | false => exact .error _ rfl rfl
  | true =>
      cases hlimit : s.checkRecomputeLimit env with
      | error e =>
          have hreached : recomputeLimitReached s.retryCount env.recomputeRetryLimit = true := by
            by_contra hne
            simp [checkRecomputeLimit, hne] at hlimit
          exact .error _ (by rw [hreached]; rfl) rfl
      | ok u =>
          have hlt := checkRecomputeLimit_ok hlimit
          have hreached : recomputeLimitReached s.retryCount env.recomputeRetryLimit = false := by
            simpa [recomputeLimitReached] using hlt
          rw [hreached]
          dsimp only
          cases hv : validateNonstreamRecomputeBody body with
          | error e => exact .error _ rfl rfl
          | ok u =>
              cases hb : buildRequestInfoForNonstreamRecompute reqData body with
              | error e => exact .error _ rfl rfl
              | ok track =>
                  dsimp only
                  cases hp : (s.updateState .recompute).prepareRecomputeRetry env reqData track with
                  | error e =>
                      have hretry := prepareRecomputeRetry_error henabled hp
                      exact .error _ (by rw [hretry]; rfl) rfl
                  | ok s' =>
                      obtain ⟨retry, hretry, rfl⟩ := prepareRecomputeRetry_ok hp
                      exact .recompute (by rw [hretry]; rfl) hlt rfl rfl

end Router

namespace CdpHandler

variable {env : RouterEnv} {h : CdpHandler}

theorem responseFailed_move {h' : CdpHandler} (hattempt : h'.attempt = h.attempt) (hend : h'.ended = none)
    (hcount : h'.router.retryCount = h.router.retryCount) (sleepCancelled : Bool) (e : Raised) :
    ResponseMove env false h (h'.responseFailed env sleepCancelled e) := by
  unfold responseFailed
  split
  · exact .raised rfl rfl hcount
  · exact .raised rfl rfl hcount
  · split
    · rename_i hlt
      unfold sleepThenRetry
      split
      · exact .raised rfl rfl hcount
      · rw [nextAttempt, if_pos hlt]
        rw [hattempt] at hlt
        exact .retry rfl hend (congrArg (· + 1) hattempt) hlt hcount
    · exact .raised rfl rfl hcount

theorem afterBody_move {s : Router} (hsame : SameRouter h.router s) {accepts : Bool} (sleepCancelled : Bool)
    (decode : ScheduledResource) {r : Except PyException (Option JsonObj) × JsonObj × Router}
    (hbody : CdpBodyMove env s accepts r.2.2 r.1) {h₁ : CdpHandler} (hattempt : h₁.attempt = h.attempt)
    (hend : h₁.ended = none) : ResponseMove env accepts h (afterBody env sleepCancelled decode h₁ r) := by
  obtain ⟨result, reqData, s'⟩ := r
  have hframe := frame_updateWorkload (s := s') decode .releaseTokens
  unfold afterBody
  cases hbody with
  | body content haccepts count =>
      exact .responded haccepts rfl (hframe.retryCount.trans (count.trans hsame.count))
  | error e haccepts count =>
      subst haccepts
      refine responseFailed_move ?_ ?_ ?_ _ _
      · exact hattempt
      · exact hend
      · exact hframe.retryCount.trans (count.trans hsame.count)
  | recompute haccepts limit count reqId =>
      have hcount : (releaseTokens decode s').retryCount = h.router.retryCount + 1 := by
        rw [← hsame.count, ← count]
        exact hframe.retryCount
      have hreqId : (releaseTokens decode s').reqInfo.reqId = h.router.reqInfo.reqId := by
        rw [← hsame.reqId, ← reqId]
        exact Frame.reqId hframe
      rw [hsame.count] at limit
      dsimp only [nextAttempt, leaveContext]
      rw [hattempt]
      split
      · exact .recompute haccepts rfl limit hcount hreqId (by simp [*])
      · exact .recompute haccepts rfl limit hcount hreqId (by simp [*])

theorem responseLeg_move (env : RouterEnv) (hend : h.ended = none) (leg : CdpLeg (Except Raised Json)) :
    ResponseMove env (h.acceptsRecompute env leg) h (responseLeg env h leg) := by
  have hsame := sameRouter_prepared env h leg.decodeSelect
  unfold responseLeg acceptsRecompute
  rw [hend]
  dsimp only
  rcases hp : prepareResource env .roleD leg.decodeSelect h.enterContext with ⟨result, s⟩
  rw [hp] at hsame
  have hp' : prepareResource env .roleD leg.decodeSelect
      (enterContext { h with reqData := attachCdpDecodeKvParams env h.reqData, ended := none }) = (result, s) := hp
  rw [hp']
  cases result with
  | error e =>
      refine responseFailed_move ?_ ?_ ?_ _ _
      · rfl
      · rfl
      · exact hsame.count
  | ok decode =>
      cases hdecode : leg.decode with
      | error e =>
          have hframe := frame_updateWorkload (s := s) decode .releaseTokens
          refine responseFailed_move ?_ ?_ ?_ _ _
          · rfl
          · rfl
          · exact hframe.retryCount.trans hsame.count
      | ok answer =>
          refine afterBody_move hsame _ decode ?_ rfl rfl
          unfold cdpNonstreamBody
          cases answer with
          | obj body =>
              dsimp only [Json.asObj]
              cases hrec : isRecomputedNonstreamResponse body with
              | error e => exact .error _ rfl rfl
              | ok recomputed =>
                  cases recomputed with
                  | true =>
                      have hmove := cdpNonstreamRecompute_move env s (attachCdpDecodeKvParams env h.reqData) body
                      rw [hsame.count] at hmove
                      exact hmove
                  | false =>
                      dsimp only
                      cases clientBody (s.updateState .decodeEnd) body with
                      | error e => exact .error _ rfl rfl
                      | ok content => exact .body _ rfl rfl
          | _ => exact .error _ rfl rfl

end CdpHandler

end PyMotor
