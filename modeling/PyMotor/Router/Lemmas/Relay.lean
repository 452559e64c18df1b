import PyMotor.Recompute.Lemmas.Resume
import PyMotor.Router.Lemmas.Frames
import PyMotor.Router.Lemmas.Served

/-!
# Relayed batches
-/

namespace PyMotor.Recompute

open Lib

variable {codec : Recompute.JsonCodec} {frame : Bytes} {frames taken : List Bytes} {track₀ : RequestTrack} {leg : LegTrack}
  {d : JsonObj}

theorem frameJson_obj (h : parseStreamChunkJson codec frame = .ok (some (.obj d))) : frameJson codec frame = some d := by
  rw [frameJson, h]

theorem framesJson_obj (h : parseStreamChunkJson codec frame = .ok (some (.obj d))) :
    framesJson codec (taken ++ [frame]) = framesJson codec taken ++ [d] := by
  rw [framesJson, framesJson, List.filterMap_append, List.filterMap_cons_some (frameJson_obj h), List.filterMap_nil]

theorem framesJson_none (h : parseStreamChunkJson codec frame = .ok none) :
    framesJson codec (taken ++ [frame]) = framesJson codec taken := by
  have hnone : frameJson codec frame = none := by rw [frameJson, h]
  rw [framesJson, framesJson, List.filterMap_append, List.filterMap_cons_none hnone, List.filterMap_nil, List.append_nil]

theorem framesTokens_shown (codec : Recompute.JsonCodec) (frames : List Bytes) :
    framesTokens codec (frames.filter (isShown codec)) = framesTokens codec frames := by
  have hjson : framesJson codec (frames.filter (isShown codec)) = framesJson codec frames := by
    rw [framesJson, framesJson, List.filterMap_filter]
    refine List.filterMap_congr fun frame _ => ?_
    unfold isShown
    cases frameJson codec frame with
    | some d => rfl
    | none => split <;> rfl
  rw [framesTokens, framesTokens, hjson]

theorem framesTokens_append (frames more : List Bytes) :
    framesTokens codec (frames ++ more) = framesTokens codec frames ++ framesTokens codec more := by
  rw [framesTokens, framesTokens, framesTokens, framesJson, framesJson, framesJson, List.filterMap_append, legOutput,
    legOutput, legOutput, List.flatMap_append]

theorem containsDone_ne_nil (h : containsDone frame = true) : frame ≠ [] := by
  rintro rfl
  cases h

theorem Tracked.passes (entryApi reqId : String) (retryCount : Nat) (h : Tracked track₀ (framesJson codec taken) leg.track)
    (hcodec : codec.Braced) (hbatch : IsBatch codec frame) : ∃ bytes leg',
      Tracked track₀ (framesJson codec (taken ++ [frame])) leg'.track ∧ bytes.isEmpty = !isShown codec frame ∧
      (isShown codec frame = true → ClientBytes codec track₀.clientReturnTokenIds frame bytes) ∧
      processStreamChunk codec frame leg retryCount entryApi reqId true = .ok (some bytes, leg') := by
  rcases hbatch with hnone | ⟨d, hp, hd⟩
  · refine ⟨_, leg, ?_, ?_, ?_, processStreamChunk_unparsed hnone⟩
    · rw [framesJson_none hnone]
      exact h
    · have hjson : frameJson codec frame = none := by rw [frameJson, hnone]
      rw [isShown, hjson]
      cases hdone : containsDone frame with
      | true => simpa using containsDone_ne_nil hdone
      | false => rfl
    · intro hshown
      have hjson : frameJson codec frame = none := by rw [frameJson, hnone]
      rw [isShown, hjson, Option.isSome_none, Bool.false_or] at hshown
      rw [if_pos hshown]
      exact .other hnone
  · obtain ⟨client, leg', htracked, hbytes, hprocess⟩ := h.batch entryApi reqId retryCount hp hd
    refine ⟨_, leg', ?_, ?_, fun _ => hbytes, hprocess⟩
    · rw [framesJson_obj hp]
      exact htracked
    · rw [isShown, frameJson_obj hp, Option.isSome_some, Bool.true_or, Bool.not_true, List.isEmpty_eq_false_iff]
      exact encodeStreamChunkBytes_ne_nil hcodec frame client

end PyMotor.Recompute

namespace PyMotor.Router

open Lib Recompute

variable {codec : Recompute.JsonCodec} {asked : Bool} {frame : Bytes} {taken : List Bytes} {s₀ s s' : Router}

theorem Carries.append {sent more : List StreamOutput} (h : Carries codec asked sent) (h' : Carries codec asked more) :
    Carries codec asked (sent ++ more) := by
  intro frame bytes ho
  rcases List.mem_append.mp ho with ho | ho
  · exact h frame bytes ho
  · exact h' frame bytes ho

/-- Since `s₀` the client has got the shown ones of the frames. -/
def Shows (codec : Recompute.JsonCodec) (asked : Bool) (s₀ s : Router) (frames : List Bytes) : Prop :=
  ∃ sent, s.out = s₀.out ++ sent ∧ AllChunks sent ∧ Carries codec asked sent ∧
    deliveredFrames sent = frames.filter (isShown codec)

theorem Shows.congr (h : Shows codec asked s₀ s taken) (ho : s'.out = s.out) : Shows codec asked s₀ s' taken := by
  unfold Shows
  rw [ho]
  exact h

theorem Shows.chunks (h : Shows codec asked s₀ s taken) (hchunks : AllChunks s₀.out) : AllChunks s.out := by
  obtain ⟨sent, hout, hsent, -⟩ := h
  rw [hout]
  exact hchunks.append hsent

theorem Shows.bytes (h : Shows codec asked s₀ s taken) (hbytes : Carries codec asked s₀.out) : Carries codec asked s.out := by
  obtain ⟨sent, hout, -, hsent, -⟩ := h
  rw [hout]
  exact hbytes.append hsent

theorem Shows.tokens (h : Shows codec asked s₀ s taken) :
    deliveredTokens codec s.out = deliveredTokens codec s₀.out ++ framesTokens codec taken := by
  obtain ⟨sent, hout, -, -, hframes⟩ := h
  rw [deliveredTokens, deliveredTokens, hout, deliveredFrames, List.filterMap_append, framesTokens_append]
  exact congrArg (_ ++ ·) ((congrArg (framesTokens codec) hframes).trans (framesTokens_shown codec taken))

/-- The frames `taken` have been relayed to the client. -/
structure Relayed (codec : Recompute.JsonCodec) (asked : Bool) (s₀ : Router) (taken : List Bytes) (s : Router) : Prop where
  frame : Frame { s₀ with
    out := s.out, streamChunkSentToClient := s.streamChunkSentToClient, firstChunkSent := s.firstChunkSent } s
  sent : Shows codec asked s₀ s taken
  shown : s.streamChunkSentToClient = (s₀.streamChunkSentToClient || taken.any (isShown codec))

theorem relayed_self (s : Router) : Relayed codec asked s [] { s with firstChunkSent := false } :=
  ⟨rfl, ⟨[], (List.append_nil _).symm, fun _ ho => (by cases ho), fun _ _ ho => (by cases ho), rfl⟩, (Bool.or_false _).symm⟩

theorem Relayed.congr (h : Relayed codec asked s₀ taken s) (hframe : Frame s s') : Relayed codec asked s₀ taken s' := by
  refine ⟨?_, ?_, ?_⟩
  · rw [hframe.output, hframe.chunkSent, hframe.firstChunkSent]
    exact h.frame.trans hframe
  · exact h.sent.congr hframe.output
  · rw [hframe.chunkSent]
    exact h.shown

theorem Relayed.noteChunk (h : Relayed codec asked s₀ taken s) (chunk : Bytes) : Relayed codec asked s₀ taken (s.noteChunk chunk) := by
  unfold Router.noteChunk
  split
  · refine ⟨?_, h.sent, h.shown⟩
    have hframe := h.frame
    unfold Frame at hframe ⊢
    rw [hframe]
    rfl
  · exact h

theorem Relayed.hidden (h : Relayed codec asked s₀ taken s) (hframe : isShown codec frame = false) :
    Relayed codec asked s₀ (taken ++ [frame]) s := by
  refine ⟨h.frame, ?_, ?_⟩
  · rw [Shows, List.filter_append, List.filter_singleton, hframe, cond_false, List.append_nil]
    exact h.sent
  · rw [List.any_append, List.any_cons, hframe]
    simpa using h.shown

theorem Relayed.yieldOut (h : Relayed codec asked s₀ taken s) (env : RouterEnv) (hframe : isShown codec frame = true)
    {bytes : Bytes} (hbytes : ClientBytes codec asked frame bytes) :
    Relayed codec asked s₀ (taken ++ [frame])
      (yieldOut env (.chunk frame bytes) { s with streamChunkSentToClient := true }).2 := by
  obtain ⟨sent, hout, hchunks, hcarries, hframes⟩ := h.sent
  refine ⟨?_, ⟨sent ++ [.chunk frame bytes], ?_, hchunks.append ?_, hcarries.append ?_, ?_⟩, ?_⟩
  · have hrest := h.frame
    unfold Frame at hrest ⊢
    rw [Router.yieldOut, hrest]
  · rw [Router.yieldOut, hout, List.append_assoc]
  · intro o ho
    rw [List.mem_singleton.mp ho]
    rfl
  · intro frame' bytes' ho
    cases List.mem_singleton.mp ho
    exact hbytes
  · rw [deliveredFrames, List.filterMap_append, List.filter_append, List.filter_singleton, hframe]
    exact congrArg (· ++ [frame]) hframes
  · rw [List.any_append, List.any_cons, hframe]
    simp [Router.yieldOut]

structure Relaying (codec : Recompute.JsonCodec) (s₀ : Router) (track₀ : RequestTrack) (taken : List Bytes) (leg : LegTrack)
    (s : Router) :
    Prop where
  relayed : Relayed codec track₀.clientReturnTokenIds s₀ taken s
  tracked : Tracked track₀ (framesJson codec taken) leg.track

variable {env : RouterEnv} {track₀ : RequestTrack} {leg : LegTrack}

theorem yieldOut_stays (h : env.Relays) (output : StreamOutput) (s : Router) : yieldOut env output s =
    (.ok (), { s with out := s.out ++ [output] }) := by
  rw [yieldOut, h.client, if_neg Bool.false_ne_true]

theorem Relaying.batch (h : Relaying env.codec s₀ track₀ taken leg s) (henv : env.Relays) (hbatch : IsBatch env.codec frame) :
    ∃ bytes leg', processStreamChunk env.codec frame leg s.retryCount s.reqInfo.effectiveEntryApi s.reqInfo.reqId
        env.recomputeEnabled = .ok (some bytes, leg') ∧
      Relaying env.codec s₀ track₀ (taken ++ [frame]) leg'
        (if bytes.isEmpty then s
          else (Router.yieldOut env (.chunk frame bytes) { s with streamChunkSentToClient := true }).2) := by
  obtain ⟨bytes, leg', htracked, hempty, hbytes, hprocess⟩ := h.tracked.passes s.reqInfo.effectiveEntryApi s.reqInfo.reqId s.retryCount
    henv.codec hbatch
  refine ⟨bytes, leg', by rw [henv.enabled]; exact hprocess, ⟨?_, htracked⟩⟩
  cases hshown : isShown env.codec frame with
  | true =>
      rw [hempty, hshown]
      exact h.relayed.yieldOut env hshown (hbytes hshown)
  | false =>
      rw [hempty, hshown]
      exact h.relayed.hidden hshown

/-! ## Prefill and decode -/

/-- The frames of a leg between two passes of the loop over its stream. -/
def PdRelaying (codec : Recompute.JsonCodec) (s₀ : Router) (track₀ : RequestTrack) (taken : List Bytes)
    (st : StreamLocals × Router) : Prop :=
  Relaying codec s₀ track₀ taken st.1.leg st.2

theorem PdRelaying.once {st : StreamLocals × Router} (h : PdRelaying codec s₀ track₀ taken st) (prefill : ScheduledResource)
    (frame : Bytes) :
    Relaying codec s₀ track₀ taken (releaseKvOnce prefill frame st).1.leg (releaseKvOnce prefill frame st).2 := by
  refine ⟨h.relayed.congr (frame_releaseKvOnce prefill frame st), ?_⟩
  unfold releaseKvOnce
  split
  · exact h.tracked
  · exact h.tracked

theorem streamBody_passes (henv : env.Relays) (reqData : JsonObj) (prefill : ScheduledResource) {frames : List Bytes}
    (hframes : ∀ frame ∈ frames, IsBatch env.codec frame) :
    Passes (streamBody env reqData prefill) (PdRelaying env.codec s₀ track₀) frames := by
  intro taken frame st hframe hst
  obtain ⟨bytes, leg', hprocess, hrelaying⟩ := (hst.once prefill frame).batch henv (hframes frame hframe)
  unfold streamBody forwardFrame
  rw [hprocess]
  dsimp only
  split
  · rename_i hempty
    rw [if_pos hempty] at hrelaying
    exact ⟨_, rfl, hrelaying⟩
  · rename_i hempty
    rw [if_neg hempty, yieldOut_stays henv] at hrelaying
    rw [yieldOut_stays henv]
    exact ⟨_, rfl, hrelaying⟩

section Signal

variable {engine : Engine} {maxTokens resumes : Nat} {asked : Bool} {prompt given part : List Int} {sent : JsonObj}
  {stream : DecodeStream}
  {before : List Bytes} {signal : Bytes}

/-- The frame that asks for a recompute, when the prompt is known: the request of the next leg goes on after what the client
has got. -/
theorem Relaying.recomputes (h : Relaying env.codec s₀ track₀ before leg s) (henv : env.Relays)
    (hsent : Resumable engine maxTokens asked prompt resumes given sent) (htrack : extractRequestInfo sent = .ok track₀)
    (hstream : engine.Interrupts env.codec (copyReqDataForEngine sent) stream before signal part)
    (hne : prompt ++ given ≠ []) :
    ∃ leg' retry, processStreamChunk env.codec signal leg s.retryCount s.reqInfo.effectiveEntryApi s.reqInfo.reqId
        env.recomputeEnabled = .ok (none, leg') ∧ leg'.track.recomputeBlockedByPolicy = false ∧
      prepareRetryRequest env.codec sent leg'.track = .ok retry ∧
      Resumable engine maxTokens asked prompt (resumes + 1) (given ++ part) retry.reqData := by
  obtain ⟨d, hp, hd, hnone⟩ := hstream.asks
  have hids := hstream.prompt
  rw [framesJson_obj hp, hsent.prompt] at hids
  obtain ⟨leg', hallowed, hchat, horigin, hkv, hprocess⟩ := h.tracked.signal s.reqInfo.effectiveEntryApi s.reqInfo.reqId
    s.retryCount hp hd hids (by simpa using hne)
  have hout : legOutput (framesJson env.codec before ++ [d]) = part.map .int := by
    rw [legOutput_append, hnone, List.append_nil]
    exact hstream.tokens
  rw [hout] at hkv
  obtain ⟨retry, hretry, hresumable⟩ := hsent.retry htrack hchat horigin hkv env.codec
  exact ⟨leg', retry, by rw [henv.enabled]; exact hprocess, hallowed, hretry, hresumable⟩

theorem Relaying.refused (h : Relaying env.codec s₀ track₀ before leg s) (henv : env.Relays)
    (hsent : Resumable engine maxTokens asked prompt resumes given sent)
    (hstream : engine.Interrupts env.codec (copyReqDataForEngine sent) stream before signal part)
    (hnil : prompt ++ given = []) :
    ∃ status detail, processStreamChunk env.codec signal leg s.retryCount s.reqInfo.effectiveEntryApi s.reqInfo.reqId
      env.recomputeEnabled = .error (.httpException status detail) := by
  obtain ⟨d, hp, hd, -⟩ := hstream.asks
  have hids := hstream.prompt
  rw [framesJson_obj hp, hsent.prompt, hnil] at hids
  rw [henv.enabled]
  exact h.tracked.refused s.reqInfo.effectiveEntryApi s.reqInfo.reqId s.retryCount hp hd hids

end Signal

/-!
## The legs of a PD request that is resumed
-/

variable {env : RouterEnv} {s : Router} {engine : Engine} {maxTokens resumes : Nat} {asked : Bool} {prompt given part : List Int}
  {sent : JsonObj}
  {stream : DecodeStream} {before : List Bytes} {signal : Bytes} {track₀ : RequestTrack} {respJson : Json}

/-- A recompute is noted, and its request goes on after what the client has got. -/
structure Recomputed (env : RouterEnv) (engine : Engine) (maxTokens : Nat) (asked : Bool) (prompt : List Int) (resumes : Nat)
    (given : List Int) (before : List Bytes) (s s' : Router) : Prop where
  retry : s'.wantsRetry = true
  finished : s'.isFinished = s.isFinished
  count : s'.retryCount = s.retryCount + 1
  request : Resumable engine maxTokens asked prompt resumes given s'.reqInfo.reqData
  sent : Shows env.codec asked s s' before

theorem handleRecomputation_retried {track : RequestTrack} {retry : RetryRequest} (henv : env.Relays)
    (hlimit : s.retryCount < env.recomputeRetryLimit) (hretry : prepareRetryRequest env.codec sent track = .ok retry)
    (prefill : ScheduledResource) (released : Bool) : ∃ s₁, Frame { s with wantsRetry := true } s₁ ∧
      s.handleRecomputation env sent track prefill released = (.ok (), s₁.retried retry) := by
  have hbase : Frame { s with wantsRetry := true } (updateState { s with wantsRetry := true } .recompute) := rfl
  have hframe : Frame { s with wantsRetry := true }
      (if released then updateState { s with wantsRetry := true } .recompute
        else (updateState { s with wantsRetry := true } .recompute).releaseKv prefill) := by
    split
    · exact hbase
    · exact hbase.trans (frame_updateWorkload _ _)
  refine ⟨_, hframe, ?_⟩
  rw [handleRecomputation, checkRecomputeLimit_lt hlimit]
  simp only [prepareRecomputeRetry, henv.enabled, if_true, hretry, bind, Except.bind, pure, Except.pure]
  rfl

theorem pdRelaying_noteChunk {taken : List Bytes} {locals : StreamLocals} {s₀ : Router} (chunk : Bytes)
    (h : PdRelaying env.codec s₀ track₀ taken (locals, s)) :
    PdRelaying env.codec s₀ track₀ taken (locals, s.noteChunk chunk) :=
  ⟨h.relayed.noteChunk chunk, h.tracked⟩

theorem pdRelaying_self (s : Router) (h : Tracked track₀ [] track₀) :
    PdRelaying env.codec s track₀ [] ({ leg := { track := track₀ } }, { s with firstChunkSent := false }) :=
  ⟨relayed_self s, h⟩

theorem forwardStreamRequest_failed {σ : Type} {e : PyException} (h : stream.Fails e)
    (body : Bytes → σ × Router → FrameEnd × σ × Router) (locals : σ) (s : Router) :
    forwardStreamRequest body stream locals s = (.raised (.exception e), locals, { s with firstChunkSent := false }) := by
  rcases h.broken with hconnect | ⟨hconnect, hchunks, hending⟩
  · rw [forwardStreamRequest, hconnect]
  · rw [forwardStreamRequest, hconnect]
    dsimp only
    rw [hchunks, hending]
    rfl

section Decode

variable (henv : env.Relays) (hsent : Resumable engine maxTokens asked prompt resumes given sent)
  (hrequest : genDRequest env s respJson = .ok sent) (prefill : ScheduledResource)

include henv hsent hrequest

theorem forwardDRequest_finished (hstream : engine.Finishes env.codec (copyReqDataForEngine sent) stream)
    (hretry : s.wantsRetry = false) : ∃ s', forwardDRequest env respJson stream prefill s = (.ok (), s') ∧
      s'.wantsRetry = false ∧ Shows env.codec asked s s' stream.frames := by
  obtain ⟨track, htrack⟩ := hsent.info
  obtain ⟨st, hloop, hst⟩ := forwardStreamRequest_passed hstream.connect hstream.ending
    (streamBody_passes henv sent prefill hstream.batches) (fun _ _ _ chunk hst => pdRelaying_noteChunk chunk hst)
    (pdRelaying_self s (hsent.tracked htrack))
  have hnoRetry : st.2.wantsRetry = false := hst.relayed.frame.wantsRetry.trans hretry
  rw [forwardDRequest, hrequest]
  dsimp only
  rw [htrack]
  dsimp only
  rw [hloop]
  refine ⟨_, rfl, ?_, ?_⟩
  · rw [hnoRetry, if_neg Bool.false_ne_true]
    exact hnoRetry
  · rw [hnoRetry, if_neg Bool.false_ne_true]
    rw [← hsent.track_returns htrack]
    exact hst.relayed.sent.congr rfl

theorem forwardDRequest_recomputed
    (hstream : engine.Interrupts env.codec (copyReqDataForEngine sent) stream before signal part)
    (hlimit : s.retryCount < env.recomputeRetryLimit) (hne : prompt ++ given ≠ []) :
    ∃ s', forwardDRequest env respJson stream prefill s = (.ok (), s') ∧
      Recomputed env engine maxTokens asked prompt (resumes + 1) (given ++ part) before s s' := by
  obtain ⟨track, htrack⟩ := hsent.info
  have hsignal : ∀ st, PdRelaying env.codec s track before st → ∃ st', streamBody env sent prefill signal st = (.broke, st') ∧
      Recomputed env engine maxTokens asked prompt (resumes + 1) (given ++ part) before s st'.2 := by
    intro st hst
    have hst' := hst.once prefill signal
    obtain ⟨leg', retry, hprocess, hallowed, hretry, hresumable⟩ := hst'.recomputes henv hsent htrack hstream hne
    have hcount : (releaseKvOnce prefill signal st).2.retryCount = s.retryCount := hst'.relayed.frame.retryCount
    obtain ⟨s₁, hframe, hrecompute⟩ := handleRecomputation_retried henv (by rw [hcount]; exact hlimit) hretry prefill
      (releaseKvOnce prefill signal st).1.releaseKv
    rw [streamBody, forwardFrame, hprocess]
    simp only [hallowed, Bool.false_eq_true, if_false, hrecompute]
    refine ⟨_, rfl, hframe.wantsRetry, hframe.isFinished.trans hst'.relayed.frame.isFinished, ?_, hresumable, ?_⟩
    · exact congrArg (· + 1) (hframe.retryCount.trans hcount)
    · rw [← hsent.track_returns htrack]
      exact hst'.relayed.sent.congr hframe.output
  obtain ⟨st', hloop, hst'⟩ := forwardStreamRequest_broke hstream.connect hstream.frames
    (streamBody_passes henv sent prefill hstream.batches) hsignal (fun _ _ _ chunk hst => pdRelaying_noteChunk chunk hst)
    (pdRelaying_self s (hsent.tracked htrack))
  rw [forwardDRequest, hrequest]
  dsimp only
  rw [htrack]
  dsimp only
  rw [hloop]
  refine ⟨_, rfl, ?_⟩
  rw [hst'.retry, if_pos rfl]
  exact hst'

theorem forwardDRequest_refused (hstream : engine.Interrupts env.codec (copyReqDataForEngine sent) stream before signal part)
    (hnil : prompt ++ given = []) : ∃ status detail s',
    forwardDRequest env respJson stream prefill s = (.error (.exception (.httpException status detail)), s') := by
  obtain ⟨track, htrack⟩ := hsent.info
  have hsignal : ∀ st, PdRelaying env.codec s track before st →
      ∃ e st', streamBody env sent prefill signal st = (.raised e, st') ∧ ∃ status detail, e = .exception (.httpException status detail) := by
    intro st hst
    obtain ⟨status, detail, hprocess⟩ := (hst.once prefill signal).refused henv hsent hstream hnil
    rw [streamBody, forwardFrame, hprocess]
    exact ⟨_, _, rfl, status, detail, rfl⟩
  obtain ⟨e, st', hloop, status, detail, rfl⟩ := forwardStreamRequest_raised hstream.connect hstream.frames
    (streamBody_passes henv sent prefill hstream.batches) hsignal (fun _ _ _ chunk hst => pdRelaying_noteChunk chunk hst)
    (pdRelaying_self s (hsent.tracked htrack))
  rw [forwardDRequest, hrequest]
  dsimp only
  rw [htrack]
  dsimp only
  rw [hloop]
  exact ⟨status, detail, _, rfl⟩

omit henv in
theorem forwardDRequest_failed {e : PyException} (hstream : stream.Fails e) : ∃ s',
    forwardDRequest env respJson stream prefill s = (.error (.exception e), s') ∧
      Frame { s with firstChunkSent := false } s' := by
  obtain ⟨track, htrack⟩ := hsent.info
  rw [forwardDRequest, hrequest]
  dsimp only
  rw [htrack]
  dsimp only
  rw [forwardStreamRequest_failed hstream]
  exact ⟨_, rfl, frame_handleStreamError _⟩

end Decode

theorem scheduled (hroles : env.AnswersAsRequested) (h : Accounts s fun _ => none) {prefillSelect decodeSelect : List SelectOutcome}
    {iidP eidP iidD eidD : Int} (hselP : selected env.maxRetry prefillSelect = .allocated iidP eidP)
    (hselD : selected env.maxRetry decodeSelect = .allocated iidD eidD) (respJson : Json) :
    ∃ prefill decode s₁ s₂ s', prepareResource env .roleP prefillSelect s = (.ok prefill, s₁) ∧
      forwardPRequest (.ok respJson) prefill s₁ = (.ok respJson, s₂) ∧ s₂.releasePrefill prefill = s₂ ∧
      prepareResource env .roleD decodeSelect s₂ = (.ok decode, s') ∧ Frame s s' := by
  rcases prefill_cases hroles h prefillSelect (.ok respJson) with ⟨e, s', -, -, -, hsel⟩ | ⟨iid, eid, s₁, hp, -, hrest⟩
  · exact absurd hselP (hsel iidP eidP)
  · rcases hrest with ⟨e, hanswer, -⟩ | ⟨resp, s₂, hanswer, hforward, hrelease, hframe, hs⟩
    · cases hanswer
    · cases hanswer
      have hframeD := frame_prepareResource env s₂ .roleD decodeSelect
      have hnone : prefillAccount env s iid eid .roleD = none := rfl
      rcases hs.prepareResource hroles hnone decodeSelect with ⟨e, -, hcase, -⟩ | ⟨iid', eid', he, -, -⟩
      · rcases hcase with ⟨hn, -⟩ | ⟨⟨applied, hn⟩, -⟩ <;> (rw [hselD] at hn; cases hn)
      · exact ⟨_, _, s₁, s₂, _, hp, hforward, hrelease, Prod.ext he rfl, hframe.trans hframeD⟩

variable {leg : PdLeg DecodeStream}

theorem processSingleAttempt_served (hroles : env.AnswersAsRequested) (h : Accounts s fun _ => none) {iidP eidP iidD eidD : Int}
    {resp : JsonObj} (hselP : selected env.maxRetry leg.prefillSelect = .allocated iidP eidP) (hprefill : leg.prefill = .ok (.obj resp))
    (hselD : selected env.maxRetry leg.decodeSelect = .allocated iidD eidD) (attempt : Nat) :
    ∃ prefill decode s', Frame s s' ∧ processSingleAttempt env leg attempt s =
      ((afterDecode env attempt prefill (forwardDRequest env (.obj resp) leg.decode prefill s')).1,
        (afterDecode env attempt prefill (forwardDRequest env (.obj resp) leg.decode prefill s')).2.releaseTokens decode) := by
  obtain ⟨prefill, decode, s₁, s₂, s', hP, hforward, hrelease, hD, hframe⟩ := scheduled hroles h hselP hselD (.obj resp)
  refine ⟨prefill, decode, s', hframe, ?_⟩
  rw [processSingleAttempt, hP]
  dsimp only
  rw [hprefill, hforward]
  dsimp only
  rw [hrelease, decodePhase, hD]

theorem processSingleAttempt_prefillFailed (hroles : env.AnswersAsRequested) (h : Accounts s fun _ => none) {iid eid : Int} {e : PyException}
    (hsel : selected env.maxRetry leg.prefillSelect = .allocated iid eid) (hprefill : leg.prefill = .error (.exception e))
    (attempt : Nat) : ∃ prefill s', Frame s s' ∧ processSingleAttempt env leg attempt s =
      ((prefillFailed env attempt (.exception e) s').1,
        (prefillFailed env attempt (.exception e) s').2.releasePrefill prefill) := by
  have hframe := frame_prepareResource env s .roleP leg.prefillSelect
  rcases prefill_cases hroles h leg.prefillSelect leg.prefill with ⟨e', s', -, -, -, hnot⟩ | ⟨iid', eid', s₁, hp, -, hrest⟩
  · exact absurd hsel (hnot iid eid)
  · rw [hp] at hframe
    rcases hrest with ⟨e', hanswer, hforward, -, -⟩ | ⟨resp, s₂, hanswer, -⟩
    · rw [hprefill] at hanswer
      cases hanswer
      refine ⟨scheduledResource .roleP iid' eid', s₁, hframe, ?_⟩
      rw [processSingleAttempt, hp]
      dsimp only
      rw [hforward]
    · rw [hprefill] at hanswer
      cases hanswer

end PyMotor.Router
