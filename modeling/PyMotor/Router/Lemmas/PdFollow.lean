import PyMotor.Router.Lemmas.Relay

/-!
# Handlers that follow a session
-/

namespace PyMotor

open Lib Recompute Router

variable {engine : Engine} {env : RouterEnv} {maxTokens : Nat} {asked : Bool} {prompt part : List Int} {x : Session Int} {v v' : StreamView}
  {reqData reqData' : JsonObj}

/-- The stream is where the session says: it is running, the client has got what is given, and the request goes on after it. -/
structure StreamView.Follows (engine : Engine) (env : RouterEnv) (maxTokens : Nat) (asked : Bool) (prompt : List Int) (x : Session Int)
    (v : StreamView) (reqData : JsonObj) : Prop where
  running : v.ended = none
  attempt : v.attempt = x.attempt
  limit : x.attempt < env.transportRetryLimit
  count : v.retryCount = x.resumes
  chunks : AllChunks v.out
  bytes : Carries env.codec asked v.out
  tokens : deliveredTokens env.codec v.out = x.given.map .int
  request : Resumable engine maxTokens asked prompt x.resumes x.given reqData
  part : x.given <+: engine.cont prompt
  fresh : x.resumes = 0 → x.given = []
  known : prompt = [] → x.given = []

/-- The stream has ended without the output. -/
structure StreamView.Lost (v : StreamView) : Prop where
  ended : v.ended.isSome = true
  failed : v.ended = some .returned → ¬ AllChunks v.out

theorem StreamView.Lost.not_delivers (h : v.Lost) (codec : Recompute.JsonCodec) (asked : Bool) (tokens : List Int) :
    ¬ v.Delivers codec asked tokens := fun hd => h.failed hd.ended hd.chunks

theorem not_allChunks (out : List StreamOutput) (r : ErrorResponse) : ¬ AllChunks (out ++ [.error r]) := by
  intro h
  have herror := h (.error r) (List.mem_append_right _ (List.mem_singleton_self _))
  cases herror

theorem Recompute.Resumable.output {resumes : Nat} {given : List Int}
    (h : Resumable engine maxTokens asked prompt resumes given reqData) : engine.output (copyReqDataForEngine reqData) =
      (engine.cont (prompt ++ given)).take (legTokens maxTokens resumes given) := by
  rw [Engine.output, h.prompt, h.asked]

namespace StreamView.Follows

theorem failed (h : Follows engine env maxTokens asked prompt x v reqData) (hended : v'.ended = none)
    (hattempt : v'.attempt = v.attempt + 1) (hlimit : x.attempt + 1 < env.transportRetryLimit)
    (hcount : v'.retryCount = v.retryCount) (hout : v'.out = v.out) (hedit : DecodeEdit reqData reqData') (keeps : Bool) :
    Follows engine env maxTokens asked prompt (x.after keeps .failed) v' reqData' where
  running := hended
  attempt := hattempt.trans (congrArg (· + 1) h.attempt)
  limit := hlimit
  count := hcount.trans h.count
  chunks := by
    rw [hout]
    exact h.chunks
  bytes := by
    rw [hout]
    exact h.bytes
  tokens := by
    rw [hout]
    exact h.tokens
  request := h.request.edit hedit
  part := h.part
  fresh := h.fresh
  known := h.known

theorem interrupted (h : Follows engine env maxTokens asked prompt x v reqData) {shown : Bool} {before : List Bytes} (s₀ s : Router)
    (hstart : s₀.out = v.out) (hshows : Shows env.codec asked s₀ s before) (htokens : framesTokens env.codec before = part.map .int)
    (hpart : part <+: (engine.cont (prompt ++ x.given)).take (legTokens maxTokens x.resumes x.given)) (hne : prompt ≠ [])
    (hended : v'.ended = none) (hattempt : v'.attempt = v.attempt) (hcount : v'.retryCount = v.retryCount + 1)
    (hout : v'.out = s.out) (hrequest : Resumable engine maxTokens asked prompt (x.resumes + 1) (x.given ++ part) reqData')
    (keeps : Bool) : Follows engine env maxTokens asked prompt (x.after keeps (.interrupted shown part)) v' reqData' where
  running := hended
  attempt := hattempt.trans h.attempt
  limit := h.limit
  count := hcount.trans (congrArg (· + 1) h.count)
  chunks := by
    rw [hout]
    exact hshows.chunks (by rw [hstart]; exact h.chunks)
  bytes := by
    rw [hout]
    exact hshows.bytes (by rw [hstart]; exact h.bytes)
  tokens := by
    rw [hout, hshows.tokens, hstart, h.tokens, htokens]
    exact List.map_append.symm
  request := hrequest
  part := Generator.append_prefix h.part hpart
  fresh := fun hzero => absurd hzero (Nat.succ_ne_zero _)
  known := fun hnil => absurd hnil hne

theorem finished (h : Follows engine env maxTokens asked prompt x v reqData) {frames : List Bytes} (s₀ s : Router)
    (hstart : s₀.out = v.out) (hshows : Shows env.codec asked s₀ s frames)
    (htokens : framesTokens env.codec frames =
      ((engine.cont (prompt ++ x.given)).take (legTokens maxTokens x.resumes x.given)).map .int)
    (hended : v'.ended = some .returned) (hout : v'.out = s.out) :
    v'.Delivers env.codec asked ((engine.cont prompt).take (x.given.length + legTokens maxTokens x.resumes x.given)) where
  ended := hended
  chunks := by
    rw [hout]
    exact hshows.chunks (by rw [hstart]; exact h.chunks)
  bytes := by
    rw [hout]
    exact hshows.bytes (by rw [hstart]; exact h.bytes)
  tokens := by
    rw [hout, hshows.tokens, hstart, h.tokens, htokens, ← List.map_append, Generator.append_take h.part]

/-- The output is the uninterrupted one exactly when no leg was resumed, or the continuation ends within the budget. -/
theorem output_iff (h : Follows engine env maxTokens asked prompt x v reqData) :
    (engine.cont prompt).take (x.given.length + legTokens maxTokens x.resumes x.given) = (engine.cont prompt).take maxTokens ↔
      x.resumes = 0 ∨ (engine.cont prompt).length ≤ maxTokens := by
  rw [List.take_eq_take_iff, legTokens]
  by_cases hzero : x.resumes = 0
  · simp [hzero, h.fresh hzero]
  · rw [if_neg hzero]
    simp only [hzero, false_or]
    omega

theorem start (hended : v.ended = none) (hattempt : v.attempt = 0) (hcount : v.retryCount = 0) (hout : v.out = [])
    (hlimit : 0 < env.transportRetryLimit) (hrequest : Resumable engine maxTokens asked prompt 0 [] reqData) :
    Follows engine env maxTokens asked prompt {} v reqData where
  running := hended
  attempt := hattempt
  limit := hlimit
  count := hcount
  chunks := by
    rw [hout]
    exact fun o ho => absurd ho List.not_mem_nil
  bytes := by
    rw [hout]
    exact fun _ _ ho => absurd ho List.not_mem_nil
  tokens := by
    rw [hout]
    rfl
  request := hrequest
  part := List.nil_prefix
  fresh _ := rfl
  known _ := rfl

end StreamView.Follows

theorem StreamView.Delivers.inj {codec : Recompute.JsonCodec} {tokens tokens' : List Int} (h : v.Delivers codec asked tokens)
    (h' : v.Delivers codec asked tokens') : tokens = tokens' :=
  (List.map_injective_iff.mpr fun _ _ => Json.int.inj) (h.tokens.symm.trans h'.tokens)

theorem StreamView.delivers_silent_iff (hended : v.ended = some .returned) (hout : v.out = []) {codec : Recompute.JsonCodec}
    {tokens : List Int} : v.Delivers codec asked tokens ↔ tokens = [] := by
  have hsilent : deliveredTokens codec v.out = [] := by
    rw [hout]
    rfl
  constructor
  · intro h
    exact List.map_eq_nil_iff.mp (h.tokens.symm.trans hsilent)
  · rintro rfl
    refine ⟨hended, ?_, ?_, hsilent⟩
    · rw [hout]
      exact fun o ho => absurd ho List.not_mem_nil
    · rw [hout]
      exact fun _ _ ho => absurd ho List.not_mem_nil

/-- Every leg goes on with the session that the handler follows. -/
structure FollowsAlong {σ ε : Type} (engine : Engine) (env : RouterEnv) (maxTokens : Nat) (asked : Bool) (prompt : List Int) (keeps : Bool)
    (step : σ → ε → σ) (view : σ → StreamView) (asks : σ → LegFate Int × ε → Prop) (Goes : Session Int → σ → Prop) : Prop where
  fixed : ∀ s e, (view s).ended.isSome = true → step s e = s
  follows : ∀ {x s}, Goes x s → ∃ reqData, StreamView.Follows engine env maxTokens asked prompt x (view s) reqData
  leg : ∀ {x s fate e}, Goes x s → asks s (fate, e) → fate ≠ .finished →
    (fate.isInterrupted = true → x.resumes < env.recomputeRetryLimit) →
    if x.survives env.transportRetryLimit (!prompt.isEmpty) fate then Goes (x.after keeps fate) (step s e)
    else (view (step s e)).Lost
  last : ∀ {x s e}, Goes x s → asks s (.finished, e) → (view (step s e)).Delivers env.codec asked
    ((engine.cont prompt).take (x.given.length + legTokens maxTokens x.resumes x.given))

namespace FollowsAlong

variable {σ ε : Type} {keeps : Bool} {step : σ → ε → σ} {view : σ → StreamView} {asks : σ → LegFate Int × ε → Prop}
  {Goes : Session Int → σ → Prop} {s : σ} {legs : List (LegFate Int × ε)} {last : ε}

theorem run (h : FollowsAlong engine env maxTokens asked prompt keeps step view asks Goes) (hs : Goes {} s)
    (hrun : CompleteRun step view asks s legs last)
    (hlimit : interruptions (legs.map Prod.fst) ≤ env.recomputeRetryLimit) :
    (Session.Lasts env.transportRetryLimit (!prompt.isEmpty) keeps {} (legs.map Prod.fst) →
      Goes (Lib.run (Session.after keeps) {} (legs.map Prod.fst)) (Lib.run step s (legs.map Prod.snd))) ∧
    (¬ Session.Lasts env.transportRetryLimit (!prompt.isEmpty) keeps {} (legs.map Prod.fst) →
      (view (Lib.run step s (legs.map Prod.snd))).Lost) := by
  rw [show Lib.run step s (legs.map Prod.snd) = Lib.run (fun s x => step s x.2) s legs from List.foldl_map]
  refine Session.follows_run (fun s => (view s).Lost) ?_ ?_ hs (along_append.mp hrun.asks).1 hrun.unfinished
    (by simpa using hlimit)
  · intro s x hlost
    rw [h.fixed s x.2 hlost.ended]
    exact hlost
  · intro x s leg hx hasks hfate hcount
    obtain ⟨_, hf⟩ := h.follows hx
    exact h.leg hx (hasks hf.running) hfate hcount

theorem delivers_iff (h : FollowsAlong engine env maxTokens asked prompt keeps step view asks Goes) (hs : Goes {} s)
    (hrun : CompleteRun step view asks s legs last)
    (hlimit : interruptions (legs.map Prod.fst) ≤ env.recomputeRetryLimit) :
    (view (Lib.run step s (legs.map Prod.snd ++ [last]))).Delivers env.codec asked ((engine.cont prompt).take maxTokens) ↔
      failures (legs.map Prod.fst) < env.transportRetryLimit ∧ (keeps = true → Session.Calm (legs.map Prod.fst)) ∧
        (interruptions (legs.map Prod.fst) = 0 ∨ prompt ≠ [] ∧ (engine.cont prompt).length ≤ maxTokens) := by
  obtain ⟨hgoes, hlost⟩ := h.run hs hrun hlimit
  obtain ⟨_, hstart⟩ := h.follows hs
  have hlasts : Session.Lasts env.transportRetryLimit (!prompt.isEmpty) keeps {} (legs.map Prod.fst) ↔
      failures (legs.map Prod.fst) < env.transportRetryLimit ∧ (interruptions (legs.map Prod.fst) = 0 ∨ prompt ≠ []) ∧
        (keeps = true → Session.Calm (legs.map Prod.fst)) := by
    rw [Session.lasts_iff hstart.limit (fun hshown => by cases hshown) hrun.unfinished]
    simp
  rw [run_append, run_cons, run_nil]
  by_cases hgo : Session.Lasts env.transportRetryLimit (!prompt.isEmpty) keeps {} (legs.map Prod.fst)
  · have hend := hgoes hgo
    obtain ⟨_, hf⟩ := h.follows hend
    have hasks := (along_append.mp hrun.asks).2.1
    rw [show Lib.run (fun s x => step s x.2) s legs = Lib.run step s (legs.map Prod.snd) from List.foldl_map.symm] at hasks
    have hdelivers := h.last hend (hasks hf.running)
    have hresumes : (Lib.run (Session.after keeps) {} (legs.map Prod.fst)).resumes = 0 ↔
        interruptions (legs.map Prod.fst) = 0 := by
      rw [Session.resumes_run]
      simp
    have houtput := hf.output_iff.trans (or_congr_left hresumes)
    obtain ⟨hfailures, hresumable, hcalm⟩ := hlasts.mp hgo
    constructor
    · intro hd
      refine ⟨hfailures, hcalm, ?_⟩
      rcases houtput.mp (hdelivers.inj hd) with hzero | hle
      · exact .inl hzero
      · exact hresumable.imp_right fun hne => ⟨hne, hle⟩
    · rintro ⟨-, -, hcase⟩
      rw [← houtput.mpr (hcase.imp_right And.right)]
      exact hdelivers
  · have hend := hlost hgo
    rw [h.fixed _ _ hend.ended]
    constructor
    · exact fun hd => absurd hd (hend.not_delivers _ _ _)
    · rintro ⟨hfailures, hcalm, hcase⟩
      exact absurd (hlasts.mpr ⟨hfailures, hcase.imp_right And.left, hcalm⟩) hgo

end FollowsAlong

end PyMotor

namespace PyMotor.Router

open Lib Recompute

theorem completeFrames_withoutFrame {chunks : List Bytes} {pending rest : Bytes}
    (h : withoutFrame pending chunks = some rest) :
    completeFrames chunks pending = ([], rest) := by
  induction chunks generalizing pending with
  | nil =>
      cases h
      rfl
  | cons chunk chunks ih =>
      rw [withoutFrame] at h
      cases hn : nextFrame (pending ++ chunk) with
      | some p =>
          rw [hn] at h
          cases h
      | none =>
          rw [hn] at h
          rw [completeFrames, splitFrames_none hn]
          dsimp only
          rw [ih h]
          rfl

theorem leavesKv_of_frames {stream : DecodeStream} (hconnect : stream.connect = none) (hframes : stream.frames ≠ []) :
    stream.leavesKv = false := by
  rw [DecodeStream.leavesKv, hconnect]
  dsimp only
  cases hw : withoutFrame [] stream.chunks with
  | none => rfl
  | some rest =>
      rw [DecodeStream.frames, streamFrames, completeFrames_withoutFrame hw] at hframes
      dsimp only
      cases hend : stream.ending with
      | some e => simp [hend] at hframes
      | none =>
          rw [hend] at hframes
          simpa [endLeavesKv] using hframes

theorem leavesKv_of_fails {stream : DecodeStream} {e : PyException} (h : stream.Fails e) : stream.leavesKv = false := by
  rcases h.broken with hconnect | ⟨hconnect, hchunks, hending⟩
  · rw [DecodeStream.leavesKv, hconnect]
    rfl
  · rw [DecodeStream.leavesKv, hconnect]
    dsimp only
    rw [hchunks, hending]
    rfl

theorem decodeFailed_transport {env : RouterEnv} {s : Router} {e : PyException} (he : e.isHttp = false)
    (hshown : s.streamChunkSentToClient = false) (attempt : Nat) (prefill : ScheduledResource) :
    decodeFailed env attempt prefill (.exception e) s =
      if attempt + 1 = env.transportRetryLimit then finishWithErrorChunk env e (s.handleStreamError prefill)
      else (.decodeTransportRetry, s.handleStreamError prefill) := by
  have hshown' : (s.handleStreamError prefill).streamChunkSentToClient = false :=
    (frame_handleStreamError prefill).chunkSent.trans hshown
  cases e with
  | httpException status detail => cases he
  | _ =>
      rw [decodeFailed]
      · rw [hshown']
        by_cases hlast : attempt + 1 = env.transportRetryLimit <;> simp [hlast]
      · intro status detail hhttp
        cases hhttp

theorem afterDecode_finished (env : RouterEnv) {s : Router} (hretry : s.wantsRetry = false) {attempt : Nat}
    {prefill : ScheduledResource} :
    afterDecode env attempt prefill (.ok (), s) = (.returned, { s with isFinished := true }) := by
  rw [afterDecode]
  split
  · rename_i h
    rw [hretry] at h
    cases h
  · rfl

end PyMotor.Router

namespace PyMotor.PdHandler

open Lib Recompute Router

variable {engine : Engine} {env : RouterEnv} {maxTokens : Nat} {asked : Bool} {prompt : List Int} {x : Session Int} {h : PdHandler}
  {leg : PdLeg DecodeStream} {s : Router}

def legStart (h : PdHandler) : Router :=
  { h.router with firstChunkSent := false, streamChunkSentToClient := false, wantsRetry := false }

theorem streamLeg_running (hend : h.ended = none) (leg : PdLeg DecodeStream) : streamLeg env h leg =
    { afterStreamLeg env h (processSingleAttempt env leg h.attempt h.legStart) with
      abandoned := h.abandoned ++ leg.abandoned env h.router } := by
  rw [streamLeg, hend]
  rfl

theorem streamLeg_ends (hend : h.ended = none) (hres : processSingleAttempt env leg h.attempt h.legStart = (.returned, s))
    (hfin : s.isFinished = true) :
    (streamLeg env h leg).ended = some .returned ∧ (streamLeg env h leg).router = s.bumpIfRetry := by
  obtain ⟨-, -, hfin', -⟩ := bumpIfRetry_same s
  rw [streamLeg_running hend, hres]
  simp [afterStreamLeg, hfin', hfin]

theorem streamLeg_lost (hend : h.ended = none) {out : List StreamOutput} {r : ErrorResponse}
    (hres : processSingleAttempt env leg h.attempt h.legStart = (.returned, s)) (hfin : s.isFinished = true)
    (hout : s.out = out ++ [.error r]) : (streamLeg env h leg).view.Lost := by
  obtain ⟨-, hout', -⟩ := bumpIfRetry_same s
  obtain ⟨hended, hrouter⟩ := streamLeg_ends hend hres hfin
  refine ⟨congrArg Option.isSome hended, fun _ hchunks => not_allChunks out r ?_⟩
  rw [← hout, ← hout', ← hrouter]
  exact hchunks

theorem streamLeg_retried (hend : h.ended = none) (hlimit : h.attempt + 1 < env.transportRetryLimit) {result : AttemptEnd}
    (hres : processSingleAttempt env leg h.attempt h.legStart = (result, s)) (hfin : s.isFinished = false)
    (hnext : result = .returned ∧ s.wantsRetry = false ∨ result = .decodeTransportRetry) :
    (streamLeg env h leg).ended = none ∧ (streamLeg env h leg).attempt = h.attempt + 1 ∧
      (streamLeg env h leg).router = s.bumpIfRetry := by
  obtain ⟨-, -, hfin', -⟩ := bumpIfRetry_same s
  rw [streamLeg_running hend, hres, afterStreamLeg_next (hfin'.trans hfin) hnext, nextAttempt, if_pos hlimit]
  exact ⟨rfl, rfl, rfl⟩

theorem reqData_bumpIfRetry (s : Router) : s.bumpIfRetry.reqInfo.reqData = s.reqInfo.reqData := by
  unfold bumpIfRetry
  split <;> rfl

/-- The handler is where the session says. -/
structure Follows (engine : Engine) (env : RouterEnv) (maxTokens : Nat) (asked : Bool) (prompt : List Int) (x : Session Int) (h : PdHandler) :
    Prop where
  view : StreamView.Follows engine env maxTokens asked prompt x h.view h.router.reqInfo.reqData
  unfinished : h.router.isFinished = false
  accounts : Accounts h.router fun _ => none
  unshown : x.shown = false

theorem Follows.start (hf : Follows engine env maxTokens asked prompt x h) : Accounts h.legStart fun _ => none :=
  hf.accounts.congr rfl rfl rfl

theorem Follows.accounts_next (hf : Follows engine env maxTokens asked prompt x h) (henv : env.Relays) (hleaves : streamLeaves env h leg = false) :
    Accounts (streamLeg env h leg).router fun _ => none := by
  have hbetween := streamLeg_between henv.roles hf.accounts leg
  rw [hleaves] at hbetween
  simpa [Between] using hbetween

theorem finishWithErrorChunk_eq (henv : env.Relays) (e : PyException) (s : Router) : finishWithErrorChunk env e s =
    (.returned, { s with out := s.out ++ [.error (buildErrorResponse e)], isFinished := true }) := by
  rw [finishWithErrorChunk, yieldOut_stays henv]

theorem Follows.failed (hf : Follows engine env maxTokens asked prompt x h) (henv : env.Relays)
    (hleaves : streamLeaves env h leg = false) {result : AttemptEnd} {s₁ s : Router} {e : PyException}
    (hs₁ : Frame h.legStart s₁)
    (hres : processSingleAttempt env leg h.attempt h.legStart = (result, s))
    (hcases : if h.attempt + 1 = env.transportRetryLimit then
        result = .returned ∧ Frame (finishWithErrorChunk env e s₁).2 s
      else Frame { s₁ with isFinished := false } s ∧ (result = .returned ∨ result = .decodeTransportRetry)) :
    if x.survives env.transportRetryLimit (!prompt.isEmpty) .failed then
      Follows engine env maxTokens asked prompt (x.after false .failed) (streamLeg env h leg)
    else (streamLeg env h leg).view.Lost := by
  have hattempt : h.attempt = x.attempt := hf.view.attempt
  have hlimit := hf.view.limit
  by_cases hlast : h.attempt + 1 = env.transportRetryLimit
  · rw [if_pos hlast, finishWithErrorChunk_eq henv] at hcases
    obtain ⟨rfl, hframe⟩ := hcases
    have hnot : ¬ x.survives env.transportRetryLimit (!prompt.isEmpty) .failed = true := by
      simp only [Session.survives, Bool.and_eq_true, decide_eq_true_eq, not_and]
      omega
    rw [if_neg hnot]
    exact streamLeg_lost hf.view.running hres hframe.isFinished hframe.output
  · rw [if_neg hlast] at hcases
    obtain ⟨hframe, hresult⟩ := hcases
    have hlt : x.attempt + 1 < env.transportRetryLimit := by omega
    have hsurvives : x.survives env.transportRetryLimit (!prompt.isEmpty) .failed = true := by
      simp [Session.survives, hlt, hf.unshown]
    rw [if_pos hsurvives]
    have hnoRetry : s.wantsRetry = false := hframe.wantsRetry.trans hs₁.wantsRetry
    obtain ⟨hended, hnext, hrouter⟩ := streamLeg_retried hf.view.running (by omega) hres hframe.isFinished
      (hresult.imp_left fun hr => ⟨hr, hnoRetry⟩)
    obtain ⟨hcount', hout', hfin', -⟩ := bumpIfRetry_same s
    refine ⟨hf.view.failed hended hnext hlt ?_ ?_ ?_ false, ?_, hf.accounts_next henv hleaves, hf.unshown⟩
    · exact (congrArg Router.retryCount hrouter).trans (hcount'.trans (hframe.retryCount.trans hs₁.retryCount))
    · exact (congrArg Router.out hrouter).trans (hout'.trans (hframe.output.trans hs₁.output))
    · rw [hrouter, reqData_bumpIfRetry, hframe.reqData]
      rw [show ({ s₁ with isFinished := false } : Router).reqInfo.reqData = s₁.reqInfo.reqData from rfl, hs₁.reqData]
      exact fun _ _ _ => rfl
    · rw [hrouter, hfin']
      exact hframe.isFinished

theorem leaves_of_decode (h : PdHandler) {iid eid : Int}
    (hselD : selected env.maxRetry leg.decodeSelect = .allocated iid eid) (hdecode : leg.decode.leavesKv = false) :
    streamLeaves env h leg = false := by
  have hleg : leg.leavesKv (fun respJson => leg.decodeLeavesKv env h.router respJson) env = false := by
    unfold PdLeg.leavesKv
    split
    · unfold PdLeg.decodeLeavesKv
      rw [hselD, hdecode]
      exact Bool.and_false _
    · rfl
  rw [streamLeaves, hleg, Bool.and_false]

theorem streamLeg_recomputed (hend : h.ended = none)
    (hres : processSingleAttempt env leg h.attempt h.legStart = (.returned, s)) (hfin : s.isFinished = false) (hretry : s.wantsRetry = true) :
    (streamLeg env h leg).ended = none ∧ (streamLeg env h leg).attempt = h.attempt ∧
      (streamLeg env h leg).router = s.bumpIfRetry := by
  obtain ⟨-, -, hfin', hretry'⟩ := bumpIfRetry_same s
  rw [streamLeg_running hend, hres]
  simp [afterStreamLeg, hfin', hfin, hretry', hretry, hend]

theorem Follows.prefillFailed (hf : Follows engine env maxTokens asked prompt x h) (henv : env.Relays) {iid eid : Int}
    {e : PyException} (hsel : selected env.maxRetry leg.prefillSelect = .allocated iid eid)
    (hprefill : leg.prefill = .error (.exception e)) :
    if x.survives env.transportRetryLimit (!prompt.isEmpty) .failed then
      Follows engine env maxTokens asked prompt (x.after false .failed) (streamLeg env h leg)
    else (streamLeg env h leg).view.Lost := by
  obtain ⟨resource, s₁, hs₁, hres⟩ := processSingleAttempt_prefillFailed henv.roles hf.start hsel hprefill h.attempt
  have hleaves : streamLeaves env h leg = false := by
    rw [streamLeaves, PdLeg.leavesKv_of_error _ hprefill, Bool.and_false]
  refine hf.failed (e := e) henv hleaves hs₁ hres ?_
  unfold Router.prefillFailed
  dsimp only
  by_cases hlast : h.attempt + 1 = env.transportRetryLimit
  · rw [if_pos hlast, if_neg (not_not.mpr hlast)]
    exact ⟨by rw [finishWithErrorChunk_eq henv], frame_releasePrefill _ _⟩
  · rw [if_neg hlast, if_pos hlast]
    exact ⟨frame_releasePrefill _ _, .inl rfl⟩

theorem Follows.decodeFailed (hf : Follows engine env maxTokens asked prompt x h) (henv : env.Relays)
    (hleaves : streamLeaves env h leg = false) {prefill decode : ScheduledResource} {s₁ : Router}
    {r : Except Raised Unit × Router} {e : PyException} (hs₁ : Frame h.legStart s₁) (he : e.isHttp = false)
    (hr : r = (.error (.exception e), s) ∧ Frame { s₁ with firstChunkSent := false } s)
    (hres : processSingleAttempt env leg h.attempt h.legStart =
      ((afterDecode env h.attempt prefill r).1, (afterDecode env h.attempt prefill r).2.releaseTokens decode)) :
    if x.survives env.transportRetryLimit (!prompt.isEmpty) .failed then
      Follows engine env maxTokens asked prompt (x.after false .failed) (streamLeg env h leg)
    else (streamLeg env h leg).view.Lost := by
  obtain ⟨rfl, hs⟩ := hr
  have hself : { s₁ with firstChunkSent := false } = s₁ := by
    have hfirst : s₁.firstChunkSent = false := hs₁.firstChunkSent
    cases s₁
    cases hfirst
    rfl
  rw [hself] at hs
  have hframe := (hs₁.trans hs).trans (frame_handleStreamError prefill)
  refine hf.failed (e := e) henv hleaves hframe hres ?_
  rw [afterDecode, decodeFailed_transport he ((hs₁.trans hs).chunkSent)]
  by_cases hlast : h.attempt + 1 = env.transportRetryLimit
  · rw [if_pos hlast, if_pos hlast]
    exact ⟨by rw [finishWithErrorChunk_eq henv], frame_updateWorkload _ _⟩
  · rw [if_neg hlast, if_neg hlast]
    have hfin : ({ s.handleStreamError prefill with isFinished := false } : Router) = s.handleStreamError prefill := by
      have hfin' : (s.handleStreamError prefill).isFinished = false := hframe.isFinished.trans hf.unfinished
      generalize s.handleStreamError prefill = s' at hfin'
      cases s'
      cases hfin'
      rfl
    rw [hfin]
    exact ⟨frame_updateWorkload _ _, .inr rfl⟩

theorem Follows.interrupted (hf : Follows engine env maxTokens asked prompt x h) (henv : env.Relays)
    (hleaves : streamLeaves env h leg = false) {prefill decode : ScheduledResource} {s₁ : Router} {resp sent : JsonObj}
    (hs₁ : Frame h.legStart s₁) (hrequest : genDRequest env s₁ (.obj resp) = .ok sent)
    (hsent : Resumable engine maxTokens asked prompt x.resumes x.given sent) {before : List Bytes} {signal : Bytes} {part : List Int}
    (hstream : engine.Interrupts env.codec (copyReqDataForEngine sent) leg.decode before signal part)
    (hcount : x.resumes < env.recomputeRetryLimit)
    (hres : processSingleAttempt env leg h.attempt h.legStart =
      ((afterDecode env h.attempt prefill (forwardDRequest env (.obj resp) leg.decode prefill s₁)).1,
        (afterDecode env h.attempt prefill (forwardDRequest env (.obj resp) leg.decode prefill s₁)).2.releaseTokens decode))
    (shown : Bool) :
    if x.survives env.transportRetryLimit (!prompt.isEmpty) (.interrupted shown part) then
      Follows engine env maxTokens asked prompt (x.after false (.interrupted shown part)) (streamLeg env h leg)
    else (streamLeg env h leg).view.Lost := by
  cases hprompt : prompt with
  | nil =>
      subst hprompt
      obtain ⟨status, detail, s, hforward⟩ := forwardDRequest_refused henv hsent hrequest prefill hstream
        (by rw [hf.view.known rfl]; rfl)
      rw [hforward] at hres
      rw [if_neg (by simp [Session.survives])]
      rw [show afterDecode env h.attempt prefill (.error (.exception (.httpException status detail)), s) =
        finishWithErrorChunk env (.httpException status detail) (s.handleStreamError prefill) from rfl,
        finishWithErrorChunk_eq henv] at hres
      have hframe := frame_updateWorkload (s := { s.handleStreamError prefill with
        out := (s.handleStreamError prefill).out ++ [.error (buildErrorResponse (.httpException status detail))]
        isFinished := true }) decode .releaseTokens
      exact streamLeg_lost hf.view.running hres hframe.isFinished hframe.output
  | cons t ts =>
      rw [← hprompt]
      have hne : prompt ≠ [] := by rw [hprompt]; exact List.cons_ne_nil _ _
      rw [if_pos (by simp [Session.survives, hne])]
      have hs₁count : s₁.retryCount = x.resumes := hs₁.retryCount.trans hf.view.count
      obtain ⟨s, hforward, hrec⟩ := forwardDRequest_recomputed henv hsent hrequest prefill hstream
        (by rw [hs₁count]; exact hcount) (by simp [hne])
      rw [hforward] at hres
      have hframe := frame_updateWorkload (s := s) decode .releaseTokens
      have hres' : processSingleAttempt env leg h.attempt h.legStart = (.returned, s.releaseTokens decode) := by
        rw [hres, afterDecode, hrec.retry]
        rfl
      have hfin : (s.releaseTokens decode).isFinished = false :=
        hframe.isFinished.trans (hrec.finished.trans (hs₁.isFinished.trans hf.unfinished))
      obtain ⟨hended, hattempt, hrouter⟩ := streamLeg_recomputed hf.view.running hres' hfin
        (hframe.wantsRetry.trans hrec.retry)
      obtain ⟨hcount', hout', hfin', -⟩ := bumpIfRetry_same (s.releaseTokens decode)
      refine ⟨hf.view.interrupted s₁ s hs₁.output hrec.sent hstream.tokens ?_ hne hended hattempt ?_ ?_ ?_ false,
        ?_, hf.accounts_next henv hleaves, rfl⟩
      · rw [← hsent.output]
        exact hstream.part
      · refine (congrArg Router.retryCount hrouter).trans (hcount'.trans (hframe.retryCount.trans ?_))
        exact hrec.count.trans (congrArg (· + 1) hs₁.retryCount)
      · exact (congrArg Router.out hrouter).trans (hout'.trans hframe.output)
      · rw [hrouter, reqData_bumpIfRetry,
          show (s.releaseTokens decode).reqInfo.reqData = s.reqInfo.reqData from hframe.reqData]
        exact hrec.request
      · rw [hrouter, hfin']
        exact hfin

theorem Follows.step (hf : Follows engine env maxTokens asked prompt x h) (henv : env.Relays) {fate : LegFate Int}
    (hasks : PdLeg.Asks engine env h.router (fate, leg)) (hfate : fate ≠ .finished)
    (hcount : fate.isInterrupted = true → x.resumes < env.recomputeRetryLimit) :
    if x.survives env.transportRetryLimit (!prompt.isEmpty) fate then
      Follows engine env maxTokens asked prompt (x.after false fate) (streamLeg env h leg)
    else (streamLeg env h leg).view.Lost := by
  cases hasks with
  | prefillFails prefillSelect prefill => exact hf.prefillFailed henv prefillSelect prefill
  | served prefillSelect prefill decodeSelect request answers =>
      have hsent := hf.view.request.edit (genDRequest_edit request)
      obtain ⟨resource, decode, s₁, hs₁, hres⟩ := processSingleAttempt_served henv.roles hf.start prefillSelect prefill decodeSelect
        h.attempt
      have hrequest := (genDRequest_frame hs₁ _).trans request
      cases answers with
      | failed hfails =>
          have hleaves := leaves_of_decode h decodeSelect (leavesKv_of_fails hfails)
          obtain ⟨s, hforward, hs⟩ := forwardDRequest_failed hsent hrequest resource hfails
          exact hf.decodeFailed henv hleaves hs₁ hfails.transport ⟨hforward, hs⟩ hres
      | interrupted hstream =>
          have hframes : leg.decode.frames ≠ [] := by
            intro hnil
            have hpre := hstream.frames
            rw [hnil] at hpre
            simpa using hpre.length_le
          have hleaves := leaves_of_decode h decodeSelect (leavesKv_of_frames hstream.connect hframes)
          exact hf.interrupted henv hleaves hs₁ hrequest hsent hstream (hcount rfl) hres _
      | finished => exact absurd rfl hfate

theorem Follows.finished (hf : Follows engine env maxTokens asked prompt x h) (henv : env.Relays)
    (hasks : PdLeg.Asks engine env h.router (.finished, leg)) :
    (streamLeg env h leg).view.Delivers env.codec asked
      ((engine.cont prompt).take (x.given.length + legTokens maxTokens x.resumes x.given)) := by
  cases hasks with
  | served prefillSelect prefill decodeSelect request answers =>
      have hsent := hf.view.request.edit (genDRequest_edit request)
      obtain ⟨resource, decode, s₁, hs₁, hres⟩ := processSingleAttempt_served henv.roles hf.start prefillSelect prefill decodeSelect
        h.attempt
      have hrequest := (genDRequest_frame hs₁ _).trans request
      cases answers with
      | finished hstream =>
          obtain ⟨s, hforward, hretry, hshows⟩ := forwardDRequest_finished henv hsent hrequest resource hstream hs₁.wantsRetry
          rw [hforward, afterDecode_finished env hretry] at hres
          have hframe := frame_updateWorkload (s := { s with isFinished := true }) decode .releaseTokens
          obtain ⟨-, hout', -⟩ := bumpIfRetry_same (({ s with isFinished := true } : Router).releaseTokens decode)
          obtain ⟨hended, hrouter⟩ := streamLeg_ends hf.view.running hres hframe.isFinished
          refine hf.view.finished s₁ s hs₁.output hshows ?_ hended ?_
          · rw [← hsent.output]
            exact hstream.tokens
          · exact (congrArg Router.out hrouter).trans (hout'.trans hframe.output)

theorem followsAlong (henv : env.Relays) : FollowsAlong engine env maxTokens asked prompt false (streamLeg env) view
    (fun h => PdLeg.Asks engine env h.router) (Follows engine env maxTokens asked prompt) where
  fixed _ leg hend := streamLeg_ended hend leg
  follows hf := ⟨_, hf.view⟩
  leg hf hasks hfate hcount := hf.step henv hasks hfate hcount
  last hf hasks := hf.finished henv hasks

theorem follows_start (engine : Engine) (hlimit : 0 < env.transportRetryLimit) {info : RequestInfo} {rm : RequestManager}
    (hrm : Unrecorded { reqInfo := info, requestManager := rm }) (hinfo : ClientRequest maxTokens info.reqData) :
    Follows engine env maxTokens (asksTokenIds info.reqData) (engine.promptIds (copyReqDataForEngine info.reqData)) {}
      (start env .returned { reqInfo := info, requestManager := rm }) where
  view := StreamView.Follows.start (if_pos hlimit) rfl rfl rfl hlimit (hinfo.resumable engine)
  unfinished := rfl
  accounts := accounts_start hrm
  unshown := rfl

end PyMotor.PdHandler
