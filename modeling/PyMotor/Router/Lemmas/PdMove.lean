import PyMotor.Recompute.Lemmas.Stream
import PyMotor.Router.Lemmas.PdLeg
import PyMotor.Router.StreamMove

/-!
# The moves of a streaming PD leg
-/

namespace PyMotor.Router

open Lib Recompute

variable {s : Router} {out : List StreamOutput} {n : Nat} (env : RouterEnv)

/-- Since `out` the client has got chunks only, and none while none is noted as sent. -/
def Sent (out : List StreamOutput) (s : Router) : Prop :=
  ∃ sent, AllChunks sent ∧ s.out = out ++ sent ∧ (s.streamChunkSentToClient = false → sent = [])

theorem Sent.congr {s' : Router} (h : Sent out s) (ho : s'.out = s.out)
    (hc : s'.streamChunkSentToClient = s.streamChunkSentToClient) : Sent out s' := by
  unfold Sent
  rw [ho, hc]
  exact h

theorem sent_self (s : Router) : Sent s.out s := ⟨[], fun _ ho => (nomatch ho), by simp, fun _ => rfl⟩

theorem Sent.yieldOut (h : Sent out s) (frame bytes : Bytes) :
    Sent out (yieldOut env (.chunk frame bytes) { s with streamChunkSentToClient := true }).2 := by
  obtain ⟨sent, hchunks, hout, -⟩ := h
  refine ⟨sent ++ [.chunk frame bytes], hchunks.append ?_, ?_, fun hf => (nomatch hf)⟩
  · intro o ho
    rw [List.mem_singleton.mp ho]
    rfl
  · simp [Router.yieldOut, hout]

theorem Frame.retryCount {s' : Router} (h : Frame s s') : s'.retryCount = s.retryCount := by rw [h]

theorem Frame.reqId {s' : Router} (h : Frame s s') : s'.reqInfo.reqId = s.reqInfo.reqId := by rw [h]

theorem Frame.reqData {s' : Router} (h : Frame s s') : s'.reqInfo.reqData = s.reqInfo.reqData := by rw [h]

theorem Frame.output {s' : Router} (h : Frame s s') : s'.out = s.out := by rw [h]

theorem Frame.chunkSent {s' : Router} (h : Frame s s') : s'.streamChunkSentToClient = s.streamChunkSentToClient := by
  rw [h]

theorem Frame.isFinished {s' : Router} (h : Frame s s') : s'.isFinished = s.isFinished := by rw [h]

theorem Frame.sent {s' : Router} (h : Frame s s') (hs : Sent out s) : Sent out s' := hs.congr h.output h.chunkSent

theorem prepareRecomputeRetry_ok {env : RouterEnv} {reqData : JsonObj} {track : RequestTrack} {s' : Router}
    (h : s.prepareRecomputeRetry env reqData track = .ok s') :
    ∃ retry, prepareRetryRequest env.codec reqData track = .ok retry ∧
      s' = { s with
        retryCount := s.retryCount + 1
        reqInfo := { s.reqInfo with
          reqData := retry.reqData
          reqLen := retry.reqLen
          api := retry.api.getD s.reqInfo.api
          recomputeEngineMode := retry.recomputeEngineMode } } := by
  unfold Router.prepareRecomputeRetry at h
  split at h
  · obtain ⟨retry, hr, he⟩ := bind_eq_ok.mp h
    cases he
    exact ⟨retry, hr, rfl⟩
  · cases h

theorem prepareRecomputeRetry_error {env : RouterEnv} {reqData : JsonObj} {track : RequestTrack} {e : PyException}
    (henabled : env.recomputeEnabled = true) (h : s.prepareRecomputeRetry env reqData track = .error e) :
    prepareRetryRequest env.codec reqData track = .error e := by
  unfold Router.prepareRecomputeRetry at h
  rw [if_pos henabled] at h
  cases hr : prepareRetryRequest env.codec reqData track with
  | error e' =>
      rw [hr] at h
      simpa [bind, Except.bind] using h
  | ok retry =>
      rw [hr] at h
      cases h

theorem checkRecomputeLimit_ok {env : RouterEnv} (h : s.checkRecomputeLimit env = .ok ()) :
    s.retryCount < env.recomputeRetryLimit := by
  unfold checkRecomputeLimit recomputeLimitReached at h
  split at h
  · cases h
  · rename_i hlt
    simpa using hlt

theorem noSignal_append {env : RouterEnv} {taken : List Bytes} {frame : Bytes} {leg leg' : LegTrack} {retryCount : Nat}
    {entryApi reqId : String} {enabled : Bool} {bytes : Bytes}
    (h : ∀ f ∈ taken, isRecomputeSignal env.codec f = false)
    (hok : processStreamChunk env.codec frame leg retryCount entryApi reqId enabled = .ok (some bytes, leg')) :
    ∀ f ∈ taken ++ [frame], isRecomputeSignal env.codec f = false := by
  intro f hf
  rcases List.mem_append.mp hf with hf | hf
  · exact h f hf
  · rw [List.mem_singleton.mp hf]
    by_contra hne
    have hnone := processStreamChunk_signal (by simpa using hne) hok
    cases hnone

/-! ## The loop -/

/-- Between two frames: no recompute is noted, and no frame so far has asked for one. -/
structure Reading (n : Nat) (out : List StreamOutput) (finished : Bool) (taken : List Bytes) (s : Router) : Prop where
  count : s.retryCount = n
  noRetry : s.wantsRetry = false
  finished : s.isFinished = finished
  sent : Sent out s
  noSignal : ∀ frame ∈ taken, isRecomputeSignal env.codec frame = false

/-- After a frame that starts a recompute. -/
structure Recomputing (n : Nat) (out : List StreamOutput) (finished : Bool) (s : Router) : Prop where
  count : s.retryCount = n + 1
  limit : n < env.recomputeRetryLimit
  retry : s.wantsRetry = true
  finished : s.isFinished = finished
  sent : Sent out s

/-- After an exception. -/
structure Failing (n : Nat) (out : List StreamOutput) (finished : Bool) (s : Router) : Prop where
  count : s.retryCount = n
  finished : s.isFinished = finished
  sent : Sent out s

variable {env} {finished : Bool} {taken : List Bytes}

theorem Reading.failing (h : Reading env n out finished taken s) : Failing n out finished s :=
  ⟨h.count, h.finished, h.sent⟩

theorem Frame.failing {s' : Router} (h : Frame s s') (hs : Failing n out finished s) : Failing n out finished s' :=
  ⟨h.retryCount.trans hs.count, h.isFinished.trans hs.finished, h.sent hs.sent⟩

theorem Frame.reading {s' : Router} (h : Frame s s') (hs : Reading env n out finished taken s) :
    Reading env n out finished taken s' :=
  ⟨h.retryCount.trans hs.count, h.wantsRetry.trans hs.noRetry, h.isFinished.trans hs.finished, h.sent hs.sent,
    hs.noSignal⟩

theorem Reading.noteChunk (h : Reading env n out finished taken s) (chunk : Bytes) :
    Reading env n out finished taken (s.noteChunk chunk) := by
  unfold Router.noteChunk
  split
  · exact ⟨h.count, h.noRetry, h.finished, h.sent, h.noSignal⟩
  · exact h

theorem frame_releaseKvOnce (prefill : ScheduledResource) (frame : Bytes) (st : StreamLocals × Router) :
    Frame st.2 (releaseKvOnce prefill frame st).2 := by
  unfold releaseKvOnce
  split
  · exact frame_updateWorkload _ _
  · exact Frame.refl _

theorem Reading.handleRecomputation (h : Reading env n out finished taken s) (reqData : JsonObj)
    (track : RequestTrack) (prefill : ScheduledResource) (released : Bool) :
    (∃ e s', s.handleRecomputation env reqData track prefill released = (.error e, s') ∧ Failing n out finished s') ∨
    ∃ s', s.handleRecomputation env reqData track prefill released = (.ok (), s') ∧
      Recomputing env n out finished s' := by
  unfold Router.handleRecomputation
  cases hlimit : s.checkRecomputeLimit env with
  | error e => exact .inl ⟨e, s, rfl, h.failing⟩
  | ok u =>
      have hlt := checkRecomputeLimit_ok hlimit
      rw [h.count] at hlt
      dsimp only
      generalize hs₁ : updateState { s with wantsRetry := true } ReqState.recompute = s₁
      have hbase : s₁.retryCount = n ∧ s₁.wantsRetry = true ∧ s₁.isFinished = finished ∧ Sent out s₁ := by
        rw [← hs₁]
        exact ⟨h.count, rfl, h.finished, h.sent⟩
      have hframe : Frame s₁ (if released = true then s₁ else s₁.releaseKv prefill) := by
        split
        · exact Frame.refl _
        · exact frame_updateWorkload _ _
      generalize (if released = true then s₁ else s₁.releaseKv prefill) = s₂ at hframe ⊢
      obtain ⟨hcount, hretry, hfin, hsent⟩ := hbase
      cases hp : s₂.prepareRecomputeRetry env reqData track with
      | error e =>
          exact .inl ⟨e, s₂, rfl, hframe.retryCount.trans hcount, hframe.isFinished.trans hfin, hframe.sent hsent⟩
      | ok s₃ =>
          obtain ⟨retry, -, rfl⟩ := prepareRecomputeRetry_ok hp
          refine .inr ⟨_, rfl, ?_, hlt, hframe.wantsRetry.trans hretry, hframe.isFinished.trans hfin,
            (hframe.sent hsent).congr rfl rfl⟩
          simp [hframe.retryCount, hcount]

theorem Reading.forwardFrame (h : Reading env n out finished taken s) (reqData : JsonObj)
    (prefill : ScheduledResource) (frame : Bytes) (locals : StreamLocals) :
    FramePost (fun taken st => Reading env n out finished taken st.2) (fun _ st => Recomputing env n out finished st.2)
      (fun e _ st => Failing n out finished st.2 ∧ (e = .cancelled → ∃ k, env.closesAt k = true)) (taken ++ [frame])
      (forwardFrame env reqData prefill frame locals s) := by
  unfold Router.forwardFrame
  split
  · exact ⟨h.failing, fun he => (nomatch he)⟩
  · rename_i leg _
    split
    · exact ⟨h.failing, fun he => (nomatch he)⟩
    · rcases h.handleRecomputation reqData leg.track prefill locals.releaseKv with ⟨e, s', he, hf⟩ | ⟨s', he, hr⟩
      · rw [he]
        exact ⟨hf, fun he => (nomatch he)⟩
      · rw [he]
        exact hr
  · rename_i bytes leg hok
    have htaken := noSignal_append h.noSignal hok
    split
    · exact ⟨h.count, h.noRetry, h.finished, h.sent, htaken⟩
    · have hsent := h.sent.yieldOut env frame bytes
      split
      · rename_i e s' he
        have hs' : s' = (yieldOut env (.chunk frame bytes) { s with streamChunkSentToClient := true }).2 := by rw [he]
        subst hs'
        refine ⟨⟨h.count, h.finished, hsent⟩, fun _ => ⟨s.out.length, ?_⟩⟩
        by_contra hne
        simp [yieldOut, hne] at he
      · rename_i s' he
        have hs' : s' = (yieldOut env (.chunk frame bytes) { s with streamChunkSentToClient := true }).2 := by rw [he]
        subst hs'
        exact ⟨h.count, h.noRetry, h.finished, hsent, htaken⟩

/-- What holds after the loop over a decode stream. -/
def StreamRead (env : RouterEnv) (n : Nat) (out : List StreamOutput) (finished : Bool) (stream : DecodeStream) :
    LoopEnd × StreamLocals × Router → Prop
  | (.exhausted, _, s) => Reading env n out finished [] s ∧ stream.EndsNormally env.codec
  | (.broke, _, s) => Recomputing env n out finished s
  | (.raised e, _, s) =>
    Failing n out finished s ∧ (e = .cancelled → ¬ (stream.Uncancelled ∧ ∀ k, env.closesAt k = false))

theorem Reading.forwardStreamRequest (h : Reading env n out finished [] s) (reqData : JsonObj)
    (prefill : ScheduledResource) (stream : DecodeStream) (locals : StreamLocals) :
    StreamRead env n out finished stream (forwardStreamRequest (streamBody env reqData prefill) stream locals s) := by
  have h₀ : Reading env n out finished [] { s with firstChunkSent := false } :=
    ⟨h.count, h.noRetry, h.finished, h.sent, h.noSignal⟩
  unfold Router.forwardStreamRequest
  cases hconnect : stream.connect with
  | some e =>
      refine ⟨h₀.failing, ?_⟩
      rintro rfl ⟨hu, -⟩
      exact hu.1 hconnect
  | none =>
      have hbody : ∀ taken frame (st : StreamLocals × Router), Reading env n out finished taken st.2 → _ :=
        fun taken frame st hst => ((frame_releaseKvOnce prefill frame st).reading hst).forwardFrame reqData prefill
          frame (releaseKvOnce prefill frame st).1
      have hloop := forChunks_rule hbody (fun _ _ _ chunk hst => hst.noteChunk chunk) stream.ending stream.chunks []
        (show Reading env n out finished [] (locals, { s with firstChunkSent := false }).2 from h₀)
      dsimp only
      rcases hres : forChunks (streamBody env reqData prefill) stream.ending stream.chunks []
        (locals, { s with firstChunkSent := false }) with ⟨result, locals', s'⟩
      have hres' : forChunks (fun frame st => Router.forwardFrame env reqData prefill frame
          (releaseKvOnce prefill frame st).1 (releaseKvOnce prefill frame st).2) stream.ending stream.chunks []
          (locals, { s with firstChunkSent := false }) = (result, locals', s') := hres
      rw [hres'] at hloop
      cases result with
      | exhausted =>
          obtain ⟨hend, hr⟩ := hloop
          exact ⟨⟨hr.count, hr.noRetry, hr.finished, hr.sent, fun _ hf => (nomatch hf)⟩, hconnect, hend, hr.noSignal⟩
      | broke =>
          obtain ⟨t, -, hB⟩ := hloop
          exact hB
      | raised e =>
          rcases hloop with ⟨t, -, hX, hclosed⟩ | ⟨hend, hr⟩
          · refine ⟨hX, fun he => ?_⟩
            rintro ⟨-, hk⟩
            obtain ⟨k, hc⟩ := hclosed he
            rw [hk k] at hc
            cases hc
          · refine ⟨hr.failing, ?_⟩
            rintro rfl ⟨hu, -⟩
            exact hu.2 hend

/-! ## The leg -/

/-- No await of the leg is cancelled, and the client stays. -/
def Calm (env : RouterEnv) (leg : PdLeg DecodeStream) : Prop := leg.Uncancelled ∧ ∀ k, env.closesAt k = false

inductive AttemptMove (env : RouterEnv) (leg : PdLeg DecodeStream) (attempt n : Nat) (out : List StreamOutput)
    (s : Router) : AttemptEnd → Prop
  | raised (h : ¬ Calm env leg) : AttemptMove env leg attempt n out s (.raised .cancelled)
  | normal (h : leg.decode.EndsNormally env.codec) (finished : s.isFinished = true) (sent : Sent out s) :
      AttemptMove env leg attempt n out s .returned
  | error {sent : List StreamOutput} {r : ErrorResponse} (finished : s.isFinished = true) (chunks : AllChunks sent)
      (output : s.out = out ++ sent ++ [.error r]) : AttemptMove env leg attempt n out s .returned
  | recompute (finished : s.isFinished = false) (h : Recomputing env n out false s) :
      AttemptMove env leg attempt n out s .returned
  | retry {result : AttemptEnd} (h : result = .returned ∧ s.wantsRetry = false ∨ result = .decodeTransportRetry)
      (finished : s.isFinished = false) (count : s.retryCount = n) (output : s.out = out)
      (limit : attempt + 1 ≠ env.transportRetryLimit) : AttemptMove env leg attempt n out s result

variable {leg : PdLeg DecodeStream} {attempt : Nat} {result : AttemptEnd}

theorem AttemptMove.frame {s' : Router} (h : AttemptMove env leg attempt n out s result) (hframe : Frame s s') :
    AttemptMove env leg attempt n out s' result := by
  cases h with
  | raised h => exact .raised h
  | normal h finished sent => exact .normal h (hframe.isFinished.trans finished) (hframe.sent sent)
  | error finished chunks output => exact .error (hframe.isFinished.trans finished) chunks (hframe.output.trans output)
  | recompute finished h =>
      exact .recompute (hframe.isFinished.trans finished)
        ⟨hframe.retryCount.trans h.count, h.limit, hframe.wantsRetry.trans h.retry, hframe.isFinished.trans finished,
          hframe.sent h.sent⟩
  | retry h finished count output limit =>
      refine .retry ?_ (hframe.isFinished.trans finished) (hframe.retryCount.trans count) (hframe.output.trans output)
        limit
      rw [hframe.wantsRetry]
      exact h

theorem Failing.finishWithErrorChunk (h : Failing n out finished s) (e : PyException) :
    AttemptMove env leg attempt n out (finishWithErrorChunk env e s).2 (finishWithErrorChunk env e s).1 := by
  obtain ⟨sent, hchunks, hout, -⟩ := h.sent
  cases hclose : env.closesAt s.out.length with
  | true =>
      simp only [Router.finishWithErrorChunk, yieldOut, hclose, if_true]
      refine .raised fun hcalm => ?_
      rw [hcalm.2] at hclose
      cases hclose
  | false =>
      simp only [Router.finishWithErrorChunk, yieldOut, hclose, Bool.false_eq_true, if_false]
      exact .error rfl hchunks (by rw [← hout])

theorem Failing.decodeFailed (h : Failing n out false s) {e : Raised} (he : e = .cancelled → ¬ Calm env leg)
    (prefill : ScheduledResource) :
    AttemptMove env leg attempt n out (decodeFailed env attempt prefill e s).2
      (decodeFailed env attempt prefill e s).1 := by
  have hs := (frame_handleStreamError prefill).failing h
  unfold Router.decodeFailed
  split
  · exact .raised (he rfl)
  · exact hs.finishWithErrorChunk _
  · dsimp only
    split
    · exact hs.finishWithErrorChunk _
    · rename_i hcond
      rw [Bool.or_eq_true, not_or] at hcond
      obtain ⟨sent, -, hout, hnil⟩ := hs.sent
      refine .retry (.inr rfl) hs.finished hs.count ?_ (by simpa using hcond.2)
      rw [hout, hnil (by simpa using hcond.1), List.append_nil]

theorem Reading.forwardDRequest (h : Reading env n out false [] s) (respJson : Json) (prefill : ScheduledResource) :
    AttemptMove env leg attempt n out
      (afterDecode env attempt prefill (forwardDRequest env respJson leg.decode prefill s)).2
      (afterDecode env attempt prefill (forwardDRequest env respJson leg.decode prefill s)).1 := by
  have hfail : ∀ e : PyException, AttemptMove env leg attempt n out
      (decodeFailed env attempt prefill (.exception e) (s.handleStreamError prefill)).2
      (decodeFailed env attempt prefill (.exception e) (s.handleStreamError prefill)).1 := by
    intro e
    have he : Raised.exception e = .cancelled → ¬ Calm env leg := fun he => (nomatch he)
    exact ((frame_handleStreamError prefill).failing h.failing).decodeFailed he prefill
  unfold Router.forwardDRequest
  split
  · exact hfail _
  · rename_i reqData _
    split
    · exact hfail _
    · rename_i track _
      have hread := h.forwardStreamRequest reqData prefill leg.decode { leg := { track := track } }
      rcases hres : Router.forwardStreamRequest (streamBody env reqData prefill) leg.decode { leg := { track := track } }
        s with ⟨loopEnd, locals, s'⟩
      rw [hres] at hread
      cases loopEnd with
      | exhausted =>
          obtain ⟨hr, hnormal⟩ := hread
          have hretry : (s'.updateState .decodeEnd).wantsRetry = false := hr.noRetry
          simp only [afterStream, afterDecode, hr.noRetry, hretry, Bool.false_eq_true, if_false]
          exact .normal hnormal rfl (hr.sent.congr rfl rfl)
      | broke =>
          have hr : Recomputing env n out false s' := hread
          simp only [afterStream, afterDecode, hr.retry, if_true]
          exact .recompute hr.finished hr
      | raised e =>
          obtain ⟨hf, hcancel⟩ := hread
          have hcalm : e = .cancelled → ¬ Calm env leg := fun he hc => hcancel he ⟨hc.1.decode, hc.2⟩
          cases e with
          | cancelled => exact hf.decodeFailed hcalm prefill
          | exception e =>
              exact ((frame_handleStreamError prefill).failing hf).decodeFailed hcalm prefill

theorem prepareResource_cancelled {role : PDRole} {outcomes : List SelectOutcome}
    (h : (prepareResource env role outcomes s).1 = .error .cancelled) : ¬ SelectsUncancelled outcomes := by
  have key : ∀ (n : Nat) (outcomes : List SelectOutcome) (lastError : Option String) (s : Router),
      (prepareAttempts env role n outcomes lastError s).1 = .error .cancelled → ¬ SelectsUncancelled outcomes := by
    intro n
    induction n with
    | zero => intro _ _ _ h; cases h
    | succ n ih =>
        intro outcomes lastError s h
        cases outcomes with
        | nil => exact absurd (fun _ ho => nomatch ho) (ih _ _ _ h)
        | cons outcome outcomes =>
            have hrest : ¬ SelectsUncancelled outcomes → ¬ SelectsUncancelled (outcome :: outcomes) :=
              fun hno hu => hno fun applied hmem => hu applied (List.mem_cons_of_mem _ hmem)
            cases outcome with
            | nothing applied => exact hrest (ih _ _ _ h)
            | cancelled applied => exact fun hu => hu applied (List.mem_cons_self ..)
            | allocated iid eid =>
                unfold prepareAttempts at h
                simp only [List.head?_cons, Option.getD_some, List.tail_cons] at h
                split at h
                · exact hrest (ih _ _ _ h)
                · cases h
  exact key _ _ _ _ h

theorem Reading.decodePhase (h : Reading env n out false [] s) (respJson : Json) (prefill : ScheduledResource) :
    AttemptMove env leg attempt n out (decodePhase env leg attempt prefill respJson s).2
      (decodePhase env leg attempt prefill respJson s).1 := by
  have hframe := frame_prepareResource env s .roleD leg.decodeSelect
  unfold Router.decodePhase
  rcases hp : prepareResource env .roleD leg.decodeSelect s with ⟨result, s'⟩
  rw [hp] at hframe
  cases result with
  | error e =>
      refine (hframe.failing h.failing).decodeFailed ?_ prefill
      rintro rfl hcalm
      exact prepareResource_cancelled (by rw [hp]) hcalm.1.decodeSelect
  | ok decode => exact ((hframe.reading h).forwardDRequest respJson prefill).frame (frame_updateWorkload _ _)

theorem Failing.prefillFailed (h : Failing n out false s) (hretry : s.wantsRetry = false)
    (hnew : s.streamChunkSentToClient = false) {e : Raised} (he : e = .cancelled → ¬ Calm env leg) :
    AttemptMove env leg attempt n out (prefillFailed env attempt e s).2 (prefillFailed env attempt e s).1 := by
  unfold Router.prefillFailed
  split
  · exact .raised (he rfl)
  · split
    · rename_i hlimit
      obtain ⟨sent, -, hout, hnil⟩ := h.sent
      exact .retry (.inl ⟨rfl, hretry⟩) rfl h.count (by rw [← List.append_nil out, ← hnil hnew]; exact hout) hlimit
    · exact h.finishWithErrorChunk _

theorem frame_releasePrefill (prefill : ScheduledResource) (s : Router) : Frame s (s.releasePrefill prefill) := by
  unfold releasePrefill
  split
  · exact frame_releaseAll _
  · exact Frame.refl _

theorem frame_prefilled (prefill : ScheduledResource) (s : Router) :
    Frame s (((s.updateState .prefillEnd).releaseTokens prefill).releasePrefill prefill) := by
  have hstate : Frame s (s.updateState .prefillEnd) := rfl
  exact (hstate.trans (frame_updateWorkload _ _)).trans (frame_releasePrefill prefill _)

theorem Reading.processSingleAttempt (h : Reading env n out false [] s) (hnew : s.streamChunkSentToClient = false) :
    AttemptMove env leg attempt n out (processSingleAttempt env leg attempt s).2
      (processSingleAttempt env leg attempt s).1 := by
  have hframe := frame_prepareResource env s .roleP leg.prefillSelect
  unfold Router.processSingleAttempt
  rcases hp : prepareResource env .roleP leg.prefillSelect s with ⟨result, s'⟩
  rw [hp] at hframe
  have hs' := hframe.reading h
  have hnew' := hframe.chunkSent.trans hnew
  cases result with
  | error e =>
      refine hs'.failing.prefillFailed hs'.noRetry hnew' ?_
      rintro rfl hcalm
      exact prepareResource_cancelled (by rw [hp]) hcalm.1.prefillSelect
  | ok prefill =>
      cases hanswer : leg.prefill with
      | error e =>
          have he : e = .cancelled → ¬ Calm env leg := by
            rintro rfl hcalm
            exact hcalm.1.prefill hanswer
          exact (hs'.failing.prefillFailed hs'.noRetry hnew' he).frame (frame_releasePrefill prefill _)
      | ok respJson => exact ((frame_prefilled prefill s').reading hs').decodePhase respJson prefill

end PyMotor.Router

namespace PyMotor.PdHandler

open Lib Recompute Router

variable {env : RouterEnv} {h : PdHandler}

theorem bumpIfRetry_same (s : Router) : s.bumpIfRetry.retryCount = s.retryCount ∧ s.bumpIfRetry.out = s.out ∧
    s.bumpIfRetry.isFinished = s.isFinished ∧ s.bumpIfRetry.wantsRetry = s.wantsRetry := by
  unfold bumpIfRetry
  split <;> exact ⟨rfl, rfl, rfl, rfl⟩

theorem afterStreamLeg_next {result : AttemptEnd} {s : Router} (hfin : s.bumpIfRetry.isFinished = false)
    (hnext : result = .returned ∧ s.wantsRetry = false ∨ result = .decodeTransportRetry) :
    afterStreamLeg env h (result, s) = nextAttempt env .returned h.attempt s.bumpIfRetry := by
  have hretry := (bumpIfRetry_same s).2.2.2
  rcases hnext with ⟨rfl, hw⟩ | rfl
  · simp [afterStreamLeg, hfin, hretry, hw]
  · simp [afterStreamLeg, hfin]

theorem streamLeg_move (hend : h.ended = none) (hfin : h.router.isFinished = false)
    (hlt : h.attempt < env.transportRetryLimit) (leg : PdLeg DecodeStream) :
    StreamMove env (leg.decode.EndsNormally env.codec) (fun e => e = .cancelled ∧ ¬ Calm env leg) h.view
        (streamLeg env h leg).view ∧
      ((streamLeg env h leg).ended = none → (streamLeg env h leg).router.isFinished = false) := by
  have hread : Reading env h.router.retryCount h.router.out false []
      { h.router with firstChunkSent := false, streamChunkSentToClient := false, wantsRetry := false } :=
    ⟨rfl, rfl, hfin, sent_self _, fun _ hf => (nomatch hf)⟩
  unfold streamLeg
  rw [hend]
  dsimp only
  generalize hs₀ : { h.router with firstChunkSent := false, streamChunkSentToClient := false, wantsRetry := false } = s₀
    at hread
  have hmove : AttemptMove env leg h.attempt h.router.retryCount h.router.out
      (processSingleAttempt env leg h.attempt s₀).2 (processSingleAttempt env leg h.attempt s₀).1 :=
    hread.processSingleAttempt (by rw [← hs₀])
  rcases hres : processSingleAttempt env leg h.attempt s₀ with ⟨result, s⟩
  rw [hres] at hmove
  dsimp only at hmove
  obtain ⟨hcount, hout, hfinished, hretry⟩ := bumpIfRetry_same s
  cases hmove with
  | raised hc => exact ⟨.raised ⟨rfl, hc⟩ rfl, fun he => (nomatch he)⟩
  | normal hn finished sent =>
      obtain ⟨sent, hchunks, hsent, -⟩ := sent
      simp only [afterStreamLeg, hfinished, finished, if_true]
      exact ⟨.normal hn rfl hchunks (hout.trans hsent), fun he => (nomatch he)⟩
  | error finished hchunks output =>
      simp only [afterStreamLeg, hfinished, finished, if_true]
      exact ⟨.error rfl hchunks (hout.trans output), fun he => (nomatch he)⟩
  | recompute finished hr =>
      obtain ⟨sent, hchunks, hsent, -⟩ := hr.sent
      simp only [afterStreamLeg, hfinished, finished, hretry, hr.retry, Bool.false_eq_true, if_false, reduceCtorEq,
        or_self]
      exact ⟨.recompute hend rfl hr.limit (hcount.trans hr.count) hchunks (hout.trans hsent), fun _ => trivial⟩
  | retry hr finished count output limit =>
      have hlt' : h.attempt + 1 < env.transportRetryLimit := by omega
      rw [afterStreamLeg_next (hfinished.trans finished) hr]
      simp only [nextAttempt, hlt', if_true]
      exact ⟨.retry rfl rfl hlt' (hcount.trans count) (hout.trans output), fun _ => hfinished.trans finished⟩

end PyMotor.PdHandler
