import PyMotor.Router.Lemmas.PdFollow

namespace PyMotor.Router

open Lib Recompute

variable {env : RouterEnv} {s₀ s : Router} {engine : Engine} {maxTokens resumes : Nat} {asked : Bool} {prompt given part : List Int}
  {reqData : JsonObj} {stream : DecodeStream} {before taken : List Bytes} {signal : Bytes} {track₀ : RequestTrack}
  {a : PDRole → Account}

/-- Between two frames of a CDP leg. -/
structure CdpRelaying (codec : Recompute.JsonCodec) (s₀ : Router) (track₀ : RequestTrack) (reqData : JsonObj) (a : PDRole → Account)
    (taken : List Bytes) (st : CdpLocals × Router) : Prop where
  relaying : Relaying codec s₀ track₀ taken st.1.leg st.2
  data : st.1.reqData = reqData
  accounts : Accounts st.2 a

theorem CdpRelaying.noteChunk {codec : Recompute.JsonCodec} {locals : CdpLocals} (chunk : Bytes)
    (h : CdpRelaying codec s₀ track₀ reqData a taken (locals, s)) :
    CdpRelaying codec s₀ track₀ reqData a taken (locals, s.noteChunk chunk) :=
  ⟨⟨h.relaying.relayed.noteChunk chunk, h.relaying.tracked⟩, h.data, h.accounts.noteChunk chunk⟩

theorem cdpBody_passes (henv : env.Relays) {frames : List Bytes} (hframes : ∀ frame ∈ frames, IsBatch env.codec frame) :
    Passes (cdpBody env) (CdpRelaying env.codec s₀ track₀ reqData a) frames := by
  intro taken frame st hframe hst
  obtain ⟨bytes, leg', hprocess, hrelaying⟩ := hst.relaying.batch henv (hframes frame hframe)
  unfold cdpBody
  rw [hprocess]
  dsimp only
  split
  · rename_i hempty
    rw [if_pos hempty] at hrelaying
    exact ⟨_, rfl, hrelaying, hst.data, hst.accounts⟩
  · rename_i hempty
    rw [if_neg hempty, yieldOut_stays henv] at hrelaying
    rw [yieldOut_stays henv]
    exact ⟨_, rfl, hrelaying, hst.data, hst.accounts.congr rfl rfl rfl⟩

structure CdpRecomputed (env : RouterEnv) (engine : Engine) (maxTokens : Nat) (asked : Bool) (prompt : List Int) (resumes : Nat)
    (given : List Int) (before : List Bytes) (a : PDRole → Account) (s : Router) (st : CdpLocals × Router) : Prop where
  count : st.2.retryCount = s.retryCount + 1
  shown : st.2.streamChunkSentToClient = (s.streamChunkSentToClient || before.any (isShown env.codec))
  request : Resumable engine maxTokens asked prompt resumes given st.1.reqData
  sent : Shows env.codec asked s st.2 before
  accounts : Accounts st.2 a

section Decode

variable (henv : env.Relays) (hsent : Resumable engine maxTokens asked prompt resumes given reqData)
  (htrack : extractRequestInfo reqData = .ok track₀) (haccounts : Accounts s a)

include henv hsent htrack haccounts

omit henv in
theorem cdpRelaying_self : CdpRelaying env.codec s track₀ reqData a []
    ({ leg := { track := track₀ }, reqData := reqData }, { s with firstChunkSent := false }) :=
  ⟨⟨relayed_self s, hsent.tracked htrack⟩, rfl, haccounts.congr rfl rfl rfl⟩

theorem cdpStream_finished (hstream : engine.Finishes env.codec (copyReqDataForEngine reqData) stream) : ∃ st,
    forwardStreamRequest (cdpBody env) stream { leg := { track := track₀ }, reqData := reqData } s = (.exhausted, st) ∧
      Shows env.codec asked s st.2 stream.frames := by
  obtain ⟨st, hloop, hst⟩ := forwardStreamRequest_passed hstream.connect hstream.ending (cdpBody_passes henv hstream.batches)
    (fun _ _ _ chunk hst => hst.noteChunk chunk) (cdpRelaying_self hsent htrack haccounts)
  rw [← hsent.track_returns htrack]
  exact ⟨st, hloop, hst.relaying.relayed.sent⟩

theorem cdpStream_recomputed (hstream : engine.Interrupts env.codec (copyReqDataForEngine reqData) stream before signal part)
    (hlimit : s.retryCount < env.recomputeRetryLimit) (hne : prompt ++ given ≠ []) : ∃ st,
    forwardStreamRequest (cdpBody env) stream { leg := { track := track₀ }, reqData := reqData } s = (.broke, st) ∧
      CdpRecomputed env engine maxTokens asked prompt (resumes + 1) (given ++ part) before a s st := by
  have hsignal : ∀ st, CdpRelaying env.codec s track₀ reqData a before st → ∃ st', cdpBody env signal st = (.broke, st') ∧
      CdpRecomputed env engine maxTokens asked prompt (resumes + 1) (given ++ part) before a s st' := by
    intro st hst
    obtain ⟨leg', retry, hprocess, hallowed, hretry, hresumable⟩ := hst.relaying.recomputes henv hsent htrack hstream hne
    have hcount : st.2.retryCount = s.retryCount := hst.relaying.relayed.frame.retryCount
    have hprepare : (st.2.updateState .recompute).prepareRecomputeRetry env st.1.reqData leg'.track =
        .ok ((st.2.updateState .recompute).retried retry) := by
      rw [hst.data]
      simp [prepareRecomputeRetry, retried, henv.enabled, hretry, bind, Except.bind, pure, Except.pure]
    rw [cdpBody, hprocess]
    simp only [hallowed, Bool.false_eq_true, if_false, cdpRecompute,
      checkRecomputeLimit_lt (show st.2.retryCount < env.recomputeRetryLimit by rw [hcount]; exact hlimit), hprepare]
    have hshows := hst.relaying.relayed.sent
    rw [hsent.track_returns htrack] at hshows
    exact ⟨_, rfl, congrArg (· + 1) hcount, hst.relaying.relayed.shown, hresumable, hshows.congr rfl,
      hst.accounts.congr rfl rfl rfl⟩
  exact forwardStreamRequest_broke hstream.connect hstream.frames (cdpBody_passes henv hstream.batches) hsignal
    (fun _ _ _ chunk hst => hst.noteChunk chunk) (cdpRelaying_self hsent htrack haccounts)

theorem cdpStream_refused (hstream : engine.Interrupts env.codec (copyReqDataForEngine reqData) stream before signal part)
    (hnil : prompt ++ given = []) : ∃ e st,
    forwardStreamRequest (cdpBody env) stream { leg := { track := track₀ }, reqData := reqData } s = (.raised e, st) ∧
      ∃ status detail, e = .exception (.httpException status detail) := by
  have hsignal : ∀ st, CdpRelaying env.codec s track₀ reqData a before st → ∃ e st', cdpBody env signal st = (.raised e, st') ∧
      ∃ status detail, e = .exception (.httpException status detail) := by
    intro st hst
    obtain ⟨status, detail, hprocess⟩ := hst.relaying.refused henv hsent hstream hnil
    rw [cdpBody, hprocess]
    exact ⟨_, _, rfl, status, detail, rfl⟩
  exact forwardStreamRequest_raised hstream.connect hstream.frames (cdpBody_passes henv hstream.batches) hsignal
    (fun _ _ _ chunk hst => hst.noteChunk chunk) (cdpRelaying_self hsent htrack haccounts)

end Decode

end PyMotor.Router

namespace PyMotor.CdpHandler

open Lib Recompute Router

variable {engine : Engine} {env : RouterEnv} {maxTokens : Nat} {asked : Bool} {prompt : List Int} {x : Session Int} {h : CdpHandler}
  {leg : CdpLeg DecodeStream}

/-- The handler is where the session says. -/
structure Follows (engine : Engine) (env : RouterEnv) (maxTokens : Nat) (asked : Bool) (prompt : List Int) (x : Session Int)
    (h : CdpHandler) : Prop where
  view : StreamView.Follows engine env maxTokens asked prompt x h.view h.reqData
  accounts : Accounts h.router fun _ => none
  shown : h.router.streamChunkSentToClient = x.shown

theorem prepared (hroles : env.AnswersAsRequested) (haccounts : Accounts h.router fun _ => none) {decodeSelect : List SelectOutcome}
    (hsel : ∃ iid eid, selected env.maxRetry decodeSelect = .allocated iid eid) :
    ∃ iid eid s, prepareResource env .roleD decodeSelect h.enterContext = (.ok (scheduledResource .roleD iid eid), s) ∧
      Frame h.enterContext s ∧
      Accounts s (Function.update (fun _ => none) .roleD (some ((iid, eid), allocateWorkload env h.router .roleD))) := by
  obtain ⟨iid, eid, hsel⟩ := hsel
  have haccounts' : Accounts h.enterContext fun _ => none := haccounts.addReqInfo _ _
  rcases haccounts'.prepareResource hroles (a := fun _ => none) rfl decodeSelect with
    ⟨e, -, hcase, -⟩ | ⟨iid', eid', he, -, hs⟩
  · rcases hcase with ⟨hn, -⟩ | ⟨⟨applied, hn⟩, -⟩ <;> (rw [hsel] at hn; cases hn)
  · exact ⟨iid', eid', _, Prod.ext he rfl, frame_prepareResource env h.enterContext .roleD decodeSelect, hs⟩

theorem streamLeg_served (hend : h.ended = none) {track : RequestTrack} {decode : ScheduledResource} {s : Router}
    (htrack : extractRequestInfo (attachCdpDecodeKvParams env h.reqData) = .ok track)
    (hprepared : prepareResource env .roleD leg.decodeSelect h.enterContext = (.ok decode, s)) :
    streamLeg env h leg = afterStream env leg.sleepCancelled decode { h with reqData := attachCdpDecodeKvParams env h.reqData }
      (forwardStreamRequest (cdpBody env) leg.decode
        { leg := { track := track }, reqData := attachCdpDecodeKvParams env h.reqData } s) := by
  rw [streamLeg, hend]
  dsimp only
  rw [htrack]
  dsimp only
  have hprepared' : prepareResource env .roleD leg.decodeSelect
      (enterContext { h with reqData := attachCdpDecodeKvParams env h.reqData, ended := none }) = (.ok decode, s) := hprepared
  rw [hprepared']

theorem streamFailed_transport {e : PyException} (he : e.isHttp = false) (henv : env.Relays) (h : CdpHandler) :
    h.streamFailed env false (.exception e) =
      if h.router.streamChunkSentToClient || h.attempt + 1 = env.transportRetryLimit then
        { h with
          router := { h.router.updateState .exception with out := h.router.out ++ [.error (buildErrorResponse e)] }
          ended := some .returned }
      else h.nextAttempt env := by
  cases e with
  | httpException status detail => cases he
  | _ =>
      rw [streamFailed]
      · rw [yieldOut_stays henv]
        rfl
      · intro status detail hhttp
        cases hhttp

theorem frame_leaveContext (h : CdpHandler) (decode : ScheduledResource) (s : Router) :
    Frame s (h.leaveContext (s.releaseTokens decode)).router := by
  have hleave : Frame (s.releaseTokens decode) (h.leaveContext (s.releaseTokens decode)).router := rfl
  exact (frame_updateWorkload _ _).trans hleave

theorem Follows.restarted (hf : Follows engine env maxTokens asked prompt x h) (henv : env.Relays) {h' : CdpHandler}
    {e : PyException} (he : e.isHttp = false) (hended : h'.ended = none) (hattempt : h'.attempt = h.attempt)
    (hedit : DecodeEdit h.reqData h'.reqData) (haccounts : Accounts h'.router fun _ => none) (hcount : h'.router.retryCount = h.router.retryCount)
    (hout : h'.router.out = h.router.out) (hshown : h'.router.streamChunkSentToClient = h.router.streamChunkSentToClient) :
    if x.survives env.transportRetryLimit (!prompt.isEmpty) .failed then
      Follows engine env maxTokens asked prompt (x.after true .failed) (h'.streamFailed env false (.exception e))
    else (h'.streamFailed env false (.exception e)).view.Lost := by
  have hattempt' : h'.attempt = x.attempt := hattempt.trans hf.view.attempt
  have hshown' : h'.router.streamChunkSentToClient = x.shown := hshown.trans hf.shown
  have hlimit := hf.view.limit
  rw [streamFailed_transport he henv, hshown', hattempt']
  by_cases hsurvives : x.survives env.transportRetryLimit (!prompt.isEmpty) .failed = true
  · rw [if_pos hsurvives]
    simp only [Session.survives, Bool.and_eq_true, decide_eq_true_eq, Bool.not_eq_true'] at hsurvives
    obtain ⟨hlt, hnew⟩ := hsurvives
    have hne : ¬ (x.shown || decide (x.attempt + 1 = env.transportRetryLimit)) = true := by
      simp [hnew]
      omega
    rw [if_neg hne, nextAttempt, hattempt', if_pos hlt]
    refine ⟨hf.view.failed hended (congrArg (· + 1) hf.view.attempt).symm hlt hcount hout hedit true,
      haccounts.congr rfl rfl rfl, ?_⟩
    exact hnew.symm
  · rw [if_neg hsurvives]
    simp only [Session.survives, Bool.and_eq_true, decide_eq_true_eq, Bool.not_eq_true', not_and,
      Bool.not_eq_false] at hsurvives
    have hstop : (x.shown || decide (x.attempt + 1 = env.transportRetryLimit)) = true := by
      by_cases hlt : x.attempt + 1 < env.transportRetryLimit
      · rw [hsurvives hlt, Bool.true_or]
      · rw [Bool.or_eq_true, decide_eq_true_eq]
        omega
    rw [if_pos hstop]
    exact ⟨rfl, fun _ => not_allChunks _ _⟩

theorem Follows.failed (hf : Follows engine env maxTokens asked prompt x h) (henv : env.Relays)
    (hsel : ∃ iid eid, selected env.maxRetry leg.decodeSelect = .allocated iid eid) (hawake : leg.sleepCancelled = false)
    {e : PyException} (hfails : leg.decode.Fails e) :
    if x.survives env.transportRetryLimit (!prompt.isEmpty) .failed then
      Follows engine env maxTokens asked prompt (x.after true .failed) (streamLeg env h leg)
    else (streamLeg env h leg).view.Lost := by
  obtain ⟨iid, eid, s, hprepared, hframe, hs⟩ := prepared henv.roles hf.accounts hsel
  have hedit := attach_edit env h.reqData
  obtain ⟨track, htrack⟩ := (hf.view.request.edit hedit).info
  rw [streamLeg_served hf.view.running htrack hprepared, forwardStreamRequest_failed hfails, afterStream, hawake]
  have hs' : Accounts { s with firstChunkSent := false } _ := hs.congr rfl rfl rfl
  have hleft := frame_leaveContext { h with reqData := attachCdpDecodeKvParams env h.reqData }
    (scheduledResource .roleD iid eid) { s with firstChunkSent := false }
  exact hf.restarted henv hfails.transport hf.view.running rfl hedit
    (accounts_left hs' (allocateWorkload_nonneg env h.router .roleD) (allocateWorkload_decode_kv env h.router) _)
    (hleft.retryCount.trans hframe.retryCount) (hleft.output.trans hframe.output) (hleft.chunkSent.trans hframe.chunkSent)

theorem Follows.interrupted (hf : Follows engine env maxTokens asked prompt x h) (henv : env.Relays)
    (hsel : ∃ iid eid, selected env.maxRetry leg.decodeSelect = .allocated iid eid) {before : List Bytes} {signal : Bytes}
    {part : List Int}
    (hstream : engine.Interrupts env.codec (copyReqDataForEngine (attachCdpDecodeKvParams env h.reqData)) leg.decode before
      signal part) (hcount : x.resumes < env.recomputeRetryLimit) :
    if x.survives env.transportRetryLimit (!prompt.isEmpty) (.interrupted (before.any (isShown env.codec)) part) then
      Follows engine env maxTokens asked prompt (x.after true (.interrupted (before.any (isShown env.codec)) part))
        (streamLeg env h leg)
    else (streamLeg env h leg).view.Lost := by
  obtain ⟨iid, eid, s, hprepared, hframe, hs⟩ := prepared henv.roles hf.accounts hsel
  have hsent := hf.view.request.edit (attach_edit env h.reqData)
  obtain ⟨track, htrack⟩ := hsent.info
  rw [streamLeg_served hf.view.running htrack hprepared]
  cases hprompt : prompt with
  | nil =>
      subst hprompt
      obtain ⟨e, st, hloop, status, detail, rfl⟩ := cdpStream_refused henv hsent htrack hs hstream
        (by rw [hf.view.known rfl]; rfl)
      rw [hloop, if_neg (by simp [Session.survives])]
      exact ⟨rfl, fun hreturned => by cases hreturned⟩
  | cons t ts =>
      rw [← hprompt]
      have hne : prompt ≠ [] := by rw [hprompt]; exact List.cons_ne_nil _ _
      have hscount : s.retryCount = x.resumes := hframe.retryCount.trans hf.view.count
      obtain ⟨st, hloop, hrec⟩ := cdpStream_recomputed henv hsent htrack hs hstream (by rw [hscount]; exact hcount)
        (by simp [hne])
      rw [hloop, if_pos (by simp [Session.survives, hne])]
      have hleft := frame_leaveContext { h with reqData := st.1.reqData } (scheduledResource .roleD iid eid) st.2
      have haccounts := accounts_left hrec.accounts (allocateWorkload_nonneg env h.router .roleD)
        (allocateWorkload_decode_kv env h.router) { h with reqData := st.1.reqData }
      refine ⟨hf.view.interrupted s st.2 hframe.output hrec.sent hstream.tokens ?_ hne ?_ ?_ ?_ ?_ ?_ true,
        haccounts.bumpReqId, ?_⟩
      · rw [← hsent.output]
        exact hstream.part
      · exact hf.view.running
      · rfl
      · exact hleft.retryCount.trans (hrec.count.trans (congrArg (· + 1) hframe.retryCount))
      · exact hleft.output
      · exact hrec.request
      · refine hleft.chunkSent.trans (hrec.shown.trans ?_)
        rw [show s.streamChunkSentToClient = x.shown from hframe.chunkSent.trans hf.shown]
        rfl

theorem Follows.step (hf : Follows engine env maxTokens asked prompt x h) (henv : env.Relays) {fate : LegFate Int}
    (hasks : CdpLeg.Asks engine env h.reqData (fate, leg)) (hfate : fate ≠ .finished)
    (hcount : fate.isInterrupted = true → x.resumes < env.recomputeRetryLimit) :
    if x.survives env.transportRetryLimit (!prompt.isEmpty) fate then
      Follows engine env maxTokens asked prompt (x.after true fate) (streamLeg env h leg)
    else (streamLeg env h leg).view.Lost := by
  have hanswers := hasks.answers
  dsimp only at hanswers
  cases hanswers with
  | failed hfails => exact hf.failed henv hasks.decodeSelect hasks.awake hfails
  | interrupted hstream => exact hf.interrupted henv hasks.decodeSelect hstream (hcount rfl)
  | finished => exact absurd rfl hfate

theorem Follows.finished (hf : Follows engine env maxTokens asked prompt x h) (henv : env.Relays)
    (hasks : CdpLeg.Asks engine env h.reqData (.finished, leg)) :
    (streamLeg env h leg).view.Delivers env.codec asked
      ((engine.cont prompt).take (x.given.length + legTokens maxTokens x.resumes x.given)) := by
  obtain ⟨iid, eid, s, hprepared, hframe, hs⟩ := prepared henv.roles hf.accounts hasks.decodeSelect
  have hsent := hf.view.request.edit (attach_edit env h.reqData)
  obtain ⟨track, htrack⟩ := hsent.info
  have hanswers := hasks.answers
  dsimp only at hanswers
  cases hanswers with
  | finished hstream =>
      obtain ⟨st, hloop, hshows⟩ := cdpStream_finished henv hsent htrack hs hstream
      rw [streamLeg_served hf.view.running htrack hprepared, hloop]
      have hleft := frame_leaveContext { h with reqData := st.1.reqData } (scheduledResource .roleD iid eid)
        (st.2.updateState .decodeEnd)
      refine hf.view.finished s st.2 hframe.output hshows ?_ rfl hleft.output
      rw [← hsent.output]
      exact hstream.tokens

theorem followsAlong (henv : env.Relays) : FollowsAlong engine env maxTokens asked prompt true (streamLeg env) view
    (fun h => CdpLeg.Asks engine env h.reqData) (Follows engine env maxTokens asked prompt) where
  fixed _ leg hend := streamLeg_ended hend leg
  follows hf := ⟨_, hf.view⟩
  leg hf hasks hfate hcount := hf.step henv hasks hfate hcount
  last hf hasks := hf.finished henv hasks

theorem follows_start (engine : Engine) (hlimit : 0 < env.transportRetryLimit) {info : RequestInfo} {rm : RequestManager}
    (hrm : Unrecorded { reqInfo := info, requestManager := rm }) (hinfo : ClientRequest maxTokens info.reqData) :
    Follows engine env maxTokens (asksTokenIds info.reqData) (engine.promptIds (copyReqDataForEngine info.reqData)) {}
      (start env { reqInfo := info, requestManager := rm }) where
  view := StreamView.Follows.start (if_pos hlimit) rfl rfl rfl hlimit
    ((hinfo.resumable engine).edit (attach_edit env info.reqData))
  accounts := PdHandler.accounts_start hrm
  shown := rfl

end PyMotor.CdpHandler
