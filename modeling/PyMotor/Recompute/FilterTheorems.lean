import PyMotor.Recompute.Filter

/-!
# What the filter lets through
-/

namespace PyMotor.Recompute

open Lib

variable {codec : JsonCodec} {chunk : Bytes} {leg : LegTrack} {retryCount : Nat} {entryApi reqId : String} {enabled : Bool}
  {track : RequestTrack} {d c0 : JsonObj} {rest : List Json} {asked : Bool}

theorem isRecomputeSignal_choice (hp : parseStreamChunkJson codec chunk = .ok (some (.obj d))) (h : HasChoice d c0 rest) :
    isRecomputeSignal codec chunk = Json.eqStr (c0.get? "stop_reason") "recomputed" := by
  rw [HasChoice] at h
  rw [isRecomputeSignal, hp]
  simp only [h]

theorem Choiceless.isRecomputeSignal (hp : parseStreamChunkJson codec chunk = .ok (some (.obj d))) (h : Choiceless d) :
    isRecomputeSignal codec chunk = false := by
  cases hsignal : Recompute.isRecomputeSignal codec chunk with
  | false => rfl
  | true =>
      obtain ⟨d', c0, rest, hp', hchoice, -⟩ := isRecomputeSignal_iff.mp hsignal
      rw [hp] at hp'
      cases hp'
      rw [Choiceless, hchoice.truthy] at h
      cases h

theorem Counted.congr {d' : JsonObj} (h : d'.get? "usage" = d.get? "usage") (hd : Counted d) : Counted d' := by
  rw [Counted, h]
  exact hd

theorem extractRequestInfo_tokens {reqData : JsonObj} (h : extractRequestInfo reqData = .ok track) :
    track.completionTokens = .int 0 := by
  obtain ⟨prompt, -, h⟩ := bind_eq_ok.mp h
  cases h
  rfl

theorem shaped_text {adapted c0' : JsonObj} (h : AdaptedChoice entryApi reqId d adapted c0 c0' rest)
    (htext : shouldAdaptCompletionStreamToChat entryApi reqId d = .ok true ∨ Textual c0) : Textual c0' := by
  rcases h.text with ⟨-, htextual⟩ | ⟨hfalse, rfl, -⟩
  · exact htextual
  · rcases htext with htrue | htextual
    · rw [hfalse] at htrue
      cases htrue
    · exact htextual

theorem Choiceless.processStreamChunk (hp : parseStreamChunkJson codec chunk = .ok (some (.obj d))) (h : Choiceless d) :
    ∃ adapted roleSent client leg', Recompute.adaptChunk entryApi reqId leg.roleSent d = .ok (adapted, roleSent) ∧
      stripOpenaiTokenIdFieldsForClient adapted leg.track.clientReturnTokenIds = .ok client ∧
      Recompute.processStreamChunk codec chunk leg retryCount entryApi reqId enabled =
        .ok (some (encodeStreamChunkBytes codec chunk client), leg') := by
  obtain ⟨track, hcache⟩ := h.cacheChunk enabled leg.track
  obtain ⟨adapted, roleSent, hadapt, hadapted⟩ := h.adaptChunk entryApi reqId leg.roleSent
  obtain ⟨client, hclient, hemit⟩ := hadapted.emitChunk codec chunk retryCount enabled track roleSent
  rw [(cacheChunk_fields hcache).2.2] at hclient
  refine ⟨adapted, roleSent, client, .mk track roleSent, hadapt, hclient, ?_⟩
  rw [processStreamChunk_eq hp, hcache, Except.bind, hadapt, Except.bind, hemit]

section

variable (entryApi reqId)

theorem ShapedChoice.prepared {choiceRest : List Json} (h : ShapedChoice chunk leg retryCount entryApi reqId d c0 choiceRest)
    (hzero : leg.track.completionTokens = .int 0) (enabled : Bool) : ∃ track adapted roleSent c0',
    cacheChunk enabled leg.track d = .ok track ∧ track.streamFlag = leg.track.streamFlag ∧
      track.clientReturnTokenIds = leg.track.clientReturnTokenIds ∧ track.completionTokens = .int 0 ∧
      adaptChunk entryApi reqId leg.roleSent d = .ok (adapted, roleSent) ∧
      AdaptedChoice entryApi reqId d adapted c0 c0' choiceRest ∧ Textual c0' ∧
      (track.streamFlag = true ∨ Counted adapted) := by
  obtain ⟨track, hcache⟩ := h.choice.cacheChunk enabled leg.track
  obtain ⟨hstream, htokens, hasked⟩ := cacheChunk_fields hcache
  obtain ⟨adapted, roleSent, c0', hadapt, hadapted⟩ := h.choice.adaptChunk entryApi reqId leg.roleSent
  refine ⟨track, adapted, roleSent, c0', hcache, hstream, hasked, htokens.trans hzero, hadapt, hadapted,
    shaped_text hadapted h.text, ?_⟩
  rw [hstream]
  exact h.usage.imp_right (Counted.congr hadapted.usage)

end

theorem ShapedChoice.processStreamChunk_signal (hp : parseStreamChunkJson codec chunk = .ok (some (.obj d)))
    (h : ShapedChoice chunk leg retryCount entryApi reqId d c0 rest) (hzero : leg.track.completionTokens = .int 0)
    (hsignal : Json.eqStr (c0.get? "stop_reason") "recomputed" = true) (enabled : Bool) :
    (∃ leg', processStreamChunk codec chunk leg retryCount entryApi reqId enabled = .ok (none, leg')) ∨
      ∃ status detail, processStreamChunk codec chunk leg retryCount entryApi reqId enabled =
        .error (.httpException status detail) := by
  obtain ⟨track, adapted, roleSent, c0', hcache, -, -, htokens, hadapt, hadapted, htext, hcounted⟩ :=
    h.prepared entryApi reqId hzero enabled
  rw [processStreamChunk_eq hp, hcache, Except.bind, hadapt, Except.bind]
  exact hadapted.choice.emitChunk_signal (hadapted.stopReason.trans hsignal) htext htokens hcounted

theorem ShapedChoice.processStreamChunk_sent (hp : parseStreamChunkJson codec chunk = .ok (some (.obj d)))
    (h : ShapedChoice chunk leg retryCount entryApi reqId d c0 rest) (hzero : leg.track.completionTokens = .int 0)
    (hsignal : Json.eqStr (c0.get? "stop_reason") "recomputed" = false) (enabled : Bool) :
    ∃ adapted roleSent client leg', adaptChunk entryApi reqId leg.roleSent d = .ok (adapted, roleSent) ∧
      stripOpenaiTokenIdFieldsForClient adapted leg.track.clientReturnTokenIds = .ok client ∧
      processStreamChunk codec chunk leg retryCount entryApi reqId enabled =
        .ok (some (encodeStreamChunkBytes codec chunk client), leg') := by
  obtain ⟨track, adapted, roleSent, c0', hcache, hstream, hasked, htokens, hadapt, hadapted, htext, hcounted⟩ :=
    h.prepared entryApi reqId hzero enabled
  have hsent : ¬ Json.eqStr (c0'.get? "stop_reason") "recomputed" = true := by
    rw [hadapted.stopReason, hsignal]
    exact Bool.false_ne_true
  obtain ⟨client, leg', hclient, hemit⟩ := hadapted.choice.emitChunk_sent codec chunk retryCount enabled roleSent hsent
    htext htokens hcounted
  rw [hasked] at hclient
  refine ⟨adapted, roleSent, client, leg', hadapt, hclient, ?_⟩
  rw [processStreamChunk_eq hp, hcache, Except.bind, hadapt, Except.bind, hemit, hstream]
  split
  · rename_i hretried
    rw [Bool.and_eq_true, decide_eq_true_iff, Bool.not_eq_true'] at hretried
    rcases h.bare with hbare | hbare | hbare | ⟨hbegin, hend⟩
    · rw [hsignal] at hbare
      cases hbare
    · omega
    · rw [hretried.2] at hbare
      cases hbare
    · have hterm : Terminated chunk := by simp [Terminated, hend]
      rw [encodeStreamChunkBytes_eq hterm, framedAs_bare hbegin hend]
  · rfl

/-! ## From the shape to the filter -/

theorem strip_parsed (hp : parseStreamChunkJson codec chunk = .ok (some (.obj d))) (asked : Bool) :
    Router.stripStreamChunkBytesForClient codec asked chunk =
      (stripOpenaiTokenIdFieldsForClient d asked).map (encodeStreamChunkBytes codec chunk) := by
  rw [Router.stripStreamChunkBytesForClient, hp]
  rfl

theorem processStreamChunk_unparsed (hp : parseStreamChunkJson codec chunk = .ok none) :
    processStreamChunk codec chunk leg retryCount entryApi reqId enabled =
      .ok (some (if containsDone chunk then chunk else []), leg) := by
  rw [processStreamChunk, hp]

theorem filters_unparsed (hp : parseStreamChunkJson codec chunk = .ok none) :
    Filters codec chunk leg retryCount entryApi reqId enabled := by
  have hprocess : processStreamChunk codec chunk leg retryCount entryApi reqId enabled =
      .ok (some (if containsDone chunk then chunk else []), leg) := processStreamChunk_unparsed hp
  have hsignal : isRecomputeSignal codec chunk = false := by
    rw [isRecomputeSignal, hp]
  constructor
  · intro e he
    rw [hprocess] at he
    cases he
  · intro leg' hnone
    rw [hprocess] at hnone
    cases hnone
  · intro htrue
    rw [hsignal] at htrue
    cases htrue
  · intro bytes leg' _ json hjson
    rw [hp] at hjson
    cases hjson
  · intro _ _
    refine ⟨_, _, hprocess, ?_⟩
    rw [Router.stripStreamChunkBytesForClient, hp]

/-- A chunk that is stripped and framed is what the client is to see. -/
theorem filters_of_sent {adapted client : JsonObj} {roleSent : Bool} {leg' : LegTrack}
    (hp : parseStreamChunkJson codec chunk = .ok (some (.obj d))) (hsignal : isRecomputeSignal codec chunk = false)
    (hterm : Terminated chunk) (hadapt : adaptChunk entryApi reqId leg.roleSent d = .ok (adapted, roleSent))
    (hclient : stripOpenaiTokenIdFieldsForClient adapted leg.track.clientReturnTokenIds = .ok client)
    (hprocess : processStreamChunk codec chunk leg retryCount entryApi reqId enabled =
      .ok (some (encodeStreamChunkBytes codec chunk client), leg')) :
    Filters codec chunk leg retryCount entryApi reqId enabled := by
  constructor
  · intro e he
    rw [hprocess] at he
    cases he
  · intro leg₁ hnone
    rw [hprocess] at hnone
    cases hnone
  · intro htrue
    rw [hsignal] at htrue
    cases htrue
  · intro bytes leg₁ hsent json hjson
    rw [hprocess] at hsent
    cases hsent
    rw [hp] at hjson
    cases hjson
    exact ⟨d, adapted, roleSent, client, rfl, hadapt, clientJson_of_strip hclient,
      encodeStreamChunkBytes_eq hterm client⟩
  · intro _ hplain
    refine ⟨_, _, hprocess, ?_⟩
    rw [adaptChunk] at hadapt
    obtain ⟨adapts, hadapts, hadapt⟩ := bind_eq_ok.mp hadapt
    cases adapts with
    | true => exact absurd hadapts (hplain d hp)
    | false =>
        cases hadapt
        rw [strip_parsed hp, hclient]
        rfl

theorem filters_of_signal (hsignal : isRecomputeSignal codec chunk = true)
    (h : (∃ leg', processStreamChunk codec chunk leg retryCount entryApi reqId enabled = .ok (none, leg')) ∨
      ∃ status detail, processStreamChunk codec chunk leg retryCount entryApi reqId enabled =
        .error (.httpException status detail)) :
    Filters codec chunk leg retryCount entryApi reqId enabled := by
  have hbytes : ∀ bytes leg',
      processStreamChunk codec chunk leg retryCount entryApi reqId enabled ≠ .ok (some bytes, leg') := by
    intro bytes leg' hsome
    rcases h with ⟨leg₁, hnone⟩ | ⟨status, detail, herror⟩
    · rw [hnone] at hsome
      cases hsome
    · rw [herror] at hsome
      cases hsome
  constructor
  · intro e he
    rcases h with ⟨leg₁, hnone⟩ | ⟨status, detail, herror⟩
    · rw [hnone] at he
      cases he
    · rw [herror] at he
      cases he
      exact ⟨status, detail, rfl⟩
  · exact fun _ _ => hsignal
  · exact fun _ => hbytes
  · intro bytes leg' hsome
    exact absurd hsome (hbytes bytes leg')
  · intro hfalse
    rw [hsignal] at hfalse
    cases hfalse

theorem Shaped.filters (hzero : leg.track.completionTokens = .int 0)
    (h : Shaped codec chunk leg retryCount entryApi reqId) : Filters codec chunk leg retryCount entryApi reqId enabled := by
  obtain ⟨parsed, hp⟩ := h.parsed
  cases parsed with
  | none => exact filters_unparsed hp
  | some json =>
      obtain ⟨d, rfl, hchoice⟩ := h.object json hp
      have hterm : isRecomputeSignal codec chunk = false → Terminated chunk := by
        intro hfalse
        rcases h.terminated _ hp with htrue | hterm
        · rw [hfalse] at htrue
          cases htrue
        · exact hterm
      cases htruthy : ((d.get? "choices").getD (.arr [])).truthy with
      | false =>
          have hless : Choiceless d := htruthy
          obtain ⟨adapted, roleSent, client, leg', hadapt, hclient, hprocess⟩ := hless.processStreamChunk hp
          have hsignal := hless.isRecomputeSignal hp
          exact filters_of_sent hp hsignal (hterm hsignal) hadapt hclient hprocess
      | true =>
          obtain ⟨c0, rest, hshaped⟩ := hchoice htruthy
          have hsignal := isRecomputeSignal_choice hp hshaped.choice
          cases hstop : Json.eqStr (c0.get? "stop_reason") "recomputed" with
          | true => exact filters_of_signal (hsignal.trans hstop) (hshaped.processStreamChunk_signal hp hzero hstop enabled)
          | false =>
              have hnone := hsignal.trans hstop
              obtain ⟨adapted, roleSent, client, leg', hadapt, hclient, hprocess⟩ :=
                hshaped.processStreamChunk_sent hp hzero hstop enabled
              exact filters_of_sent hp hnone (hterm hnone) hadapt hclient hprocess

/-! ## From the filter to the shape -/

theorem Filters.not_crashes (h : Filters codec chunk leg retryCount entryApi reqId enabled) :
    ¬ Crashes (processStreamChunk codec chunk leg retryCount entryApi reqId enabled) := by
  rintro ⟨type, herror⟩
  obtain ⟨status, detail, he⟩ := h.raises _ herror
  cases he

theorem parseStreamChunkJson_error {e : PyException} (h : parseStreamChunkJson codec chunk = .error e) :
    ∃ type, e = .builtin type := by
  rw [parseStreamChunkJson] at h
  split at h
  · cases h
  · dsimp only at h
    split at h
    · cases h
    · split at h <;> cases h
      exact ⟨_, rfl⟩

theorem crashes_of_unread {type : String} (hp : parseStreamChunkJson codec chunk = .error (.builtin type)) :
    Crashes (processStreamChunk codec chunk leg retryCount entryApi reqId enabled) := by
  rw [processStreamChunk, hp]
  exact ⟨type, rfl⟩

theorem crashes_of_noObject {json : Json} (hp : parseStreamChunkJson codec chunk = .ok (some json))
    (h : ∀ d, json ≠ .obj d) : Crashes (processStreamChunk codec chunk leg retryCount entryApi reqId enabled) := by
  rw [processStreamChunk, hp]
  exact (crashes_asObj h).bind _

theorem Headless.processStreamChunk (hp : parseStreamChunkJson codec chunk = .ok (some (.obj d))) (h : Headless d) :
    Crashes (processStreamChunk codec chunk leg retryCount entryApi reqId enabled) := by
  rw [processStreamChunk_eq hp]
  cases hcache : cacheChunk enabled leg.track d with
  | error e =>
      cases enabled with
      | false => cases hcache
      | true =>
          have hcrash : Crashes (Recompute.cacheChunk true leg.track d) := h.crashes_cache leg.track
          rw [hcache] at hcrash
          exact hcrash.bind _
  | ok track =>
      rcases h.adaptChunk entryApi reqId leg.roleSent with hcrash | hadapt
      · exact hcrash.bind _
      · rw [Except.bind, hadapt]
        exact h.emitChunk

theorem HasChoice.processStreamChunk_crashes (hp : parseStreamChunkJson codec chunk = .ok (some (.obj d)))
    (h : HasChoice d c0 rest) (hbad : (shouldAdaptCompletionStreamToChat entryApi reqId d ≠ .ok true ∧ ¬ Textual c0) ∨
      (leg.track.streamFlag = false ∧ ¬ Counted d)) :
    Crashes (processStreamChunk codec chunk leg retryCount entryApi reqId enabled) := by
  obtain ⟨track, hcache⟩ := h.cacheChunk enabled leg.track
  obtain ⟨adapted, roleSent, c0', hadapt, hadapted⟩ := h.adaptChunk entryApi reqId leg.roleSent
  rw [processStreamChunk_eq hp, hcache, Except.bind, hadapt, Except.bind]
  refine hadapted.choice.emitChunk_crashes ?_
  by_cases htext : Textual c0'
  · refine .inr ⟨htext, ?_⟩
    rcases hbad with ⟨hplain, hbad⟩ | ⟨hstream, hcounted⟩
    · rcases hadapted.text with ⟨htrue, -⟩ | ⟨-, rfl, -⟩
      · exact absurd htrue hplain
      · exact absurd htext hbad
    · exact ⟨(cacheChunk_fields hcache).1.trans hstream, fun hadaptedCounted =>
        hcounted (hadaptedCounted.congr hadapted.usage.symm)⟩
  · exact .inl htext

theorem HasChoice.bare_of_filters (hp : parseStreamChunkJson codec chunk = .ok (some (.obj d))) (h : HasChoice d c0 rest)
    (hzero : leg.track.completionTokens = .int 0) (hcodec : codec.Braced)
    (htext : shouldAdaptCompletionStreamToChat entryApi reqId d = .ok true ∨ Textual c0)
    (husage : leg.track.streamFlag = true ∨ Counted d)
    (hfilters : Filters codec chunk leg retryCount entryApi reqId enabled) :
    Json.eqStr (c0.get? "stop_reason") "recomputed" = true ∨ retryCount = 0 ∨ leg.track.streamFlag = true ∨
      (hasDataPrefix chunk = false ∧ terminator chunk = []) := by
  by_contra hframed
  simp only [not_or, not_and_or, Bool.not_eq_true, Bool.not_eq_false] at hframed
  obtain ⟨hsignal, hretry, hstream, hframe⟩ := hframed
  obtain ⟨track, hcache⟩ := h.cacheChunk enabled leg.track
  obtain ⟨htrackStream, htokens, -⟩ := cacheChunk_fields hcache
  obtain ⟨adapted, roleSent, c0', hadapt, hadapted⟩ := h.adaptChunk entryApi reqId leg.roleSent
  have hsent : ¬ Json.eqStr (c0'.get? "stop_reason") "recomputed" = true := by
    rw [hadapted.stopReason, hsignal]
    exact Bool.false_ne_true
  have hcounted : track.streamFlag = true ∨ Counted adapted := by
    rw [htrackStream]
    exact husage.imp_right (Counted.congr hadapted.usage)
  obtain ⟨client, leg', -, hemit⟩ := hadapted.choice.emitChunk_sent codec chunk retryCount enabled roleSent hsent
    (shaped_text hadapted htext) (htokens.trans hzero) hcounted
  have hretried : (retryCount > 0 && !track.streamFlag) = true := by
    rw [htrackStream, hstream]
    simp only [gt_iff_lt, Bool.not_false, Bool.and_true, decide_eq_true_iff]
    omega
  rw [if_pos hretried] at hemit
  have hprocess : processStreamChunk codec chunk leg retryCount entryApi reqId enabled =
      .ok (some (codec.compact (.obj client)), leg') := by
    rw [processStreamChunk_eq hp, hcache, Except.bind, hadapt, Except.bind, hemit]
  obtain ⟨-, -, -, client', -, -, -, hbytes⟩ := hfilters.sent _ _ hprocess _ hp
  exact framedAs_ne hcodec hframe client client' hbytes

theorem Filters.parsed (h : Filters codec chunk leg retryCount entryApi reqId enabled) :
    ∃ parsed, parseStreamChunkJson codec chunk = .ok parsed := by
  cases hp : parseStreamChunkJson codec chunk with
  | ok parsed => exact ⟨parsed, rfl⟩
  | error e =>
      obtain ⟨type, rfl⟩ := parseStreamChunkJson_error hp
      exact absurd (crashes_of_unread hp) h.not_crashes

theorem Filters.shaped_object (hzero : leg.track.completionTokens = .int 0) (hcodec : codec.Braced)
    (h : Filters codec chunk leg retryCount entryApi reqId enabled)
    (hp : parseStreamChunkJson codec chunk = .ok (some (.obj d)))
    (htruthy : ((d.get? "choices").getD (.arr [])).truthy = true) :
    ∃ c0 rest, ShapedChoice chunk leg retryCount entryApi reqId d c0 rest := by
  by_cases hchoice : ∃ c0 rest, HasChoice d c0 rest
  · obtain ⟨c0, rest, hchoice⟩ := hchoice
    have htext : shouldAdaptCompletionStreamToChat entryApi reqId d = .ok true ∨ Textual c0 := by
      by_contra hbad
      rw [not_or] at hbad
      exact h.not_crashes (hchoice.processStreamChunk_crashes hp (.inl hbad))
    have husage : leg.track.streamFlag = true ∨ Counted d := by
      by_contra hbad
      rw [not_or, Bool.not_eq_true] at hbad
      exact h.not_crashes (hchoice.processStreamChunk_crashes hp (.inr hbad))
    exact ⟨c0, rest, hchoice, htext, husage, hchoice.bare_of_filters hp hzero hcodec htext husage h⟩
  · have hheadless : Headless d := ⟨htruthy, fun c0 rest hc => hchoice ⟨c0, rest, hc⟩⟩
    exact absurd (hheadless.processStreamChunk hp) h.not_crashes

/-- What was framed by the last bytes of the chunk keeps its terminator only if the chunk ends in a usual way. -/
theorem Filters.terminated_of_sent (hcodec : codec.Braced) (h : Filters codec chunk leg retryCount entryApi reqId enabled)
    {json : Json} (hp : parseStreamChunkJson codec chunk = .ok (some json)) {client : JsonObj} {leg' : LegTrack}
    (hprocess : processStreamChunk codec chunk leg retryCount entryApi reqId enabled =
      .ok (some (encodeStreamChunkBytes codec chunk client), leg')) : Terminated chunk := by
  obtain ⟨-, -, -, client', -, -, -, hbytes⟩ := h.sent _ _ hprocess _ hp
  exact terminated_of_encode hcodec hbytes

theorem Filters.terminated (hzero : leg.track.completionTokens = .int 0) (hcodec : codec.Braced)
    (h : Filters codec chunk leg retryCount entryApi reqId enabled)
    (hp : parseStreamChunkJson codec chunk = .ok (some (.obj d))) :
    isRecomputeSignal codec chunk = true ∨ Terminated chunk := by
  cases htruthy : ((d.get? "choices").getD (.arr [])).truthy with
  | false =>
      have hless : Choiceless d := htruthy
      obtain ⟨adapted, roleSent, client, leg', -, -, hprocess⟩ := hless.processStreamChunk hp
      exact .inr (h.terminated_of_sent hcodec hp hprocess)
  | true =>
      obtain ⟨c0, rest, hshaped⟩ := h.shaped_object hzero hcodec hp htruthy
      have hsignal := isRecomputeSignal_choice hp hshaped.choice
      cases hstop : Json.eqStr (c0.get? "stop_reason") "recomputed" with
      | true => exact .inl (hsignal.trans hstop)
      | false =>
          obtain ⟨adapted, roleSent, client, leg', -, -, hprocess⟩ :=
            hshaped.processStreamChunk_sent hp hzero hstop enabled
          exact .inr (h.terminated_of_sent hcodec hp hprocess)

theorem Filters.shaped (hzero : leg.track.completionTokens = .int 0) (hcodec : codec.Braced)
    (h : Filters codec chunk leg retryCount entryApi reqId enabled) : Shaped codec chunk leg retryCount entryApi reqId := by
  have hobject : ∀ json, parseStreamChunkJson codec chunk = .ok (some json) → ∃ d : JsonObj, json = .obj d := by
    intro json hp
    by_contra hobj
    exact h.not_crashes (crashes_of_noObject hp fun d hd => hobj ⟨d, hd⟩)
  refine ⟨h.parsed, fun json hp => ?_, fun json hp => ?_⟩
  · obtain ⟨d, rfl⟩ := hobject json hp
    exact ⟨d, rfl, h.shaped_object hzero hcodec hp⟩
  · obtain ⟨d, rfl⟩ := hobject json hp
    exact h.terminated hzero hcodec hp

def emptyJsonCodec : JsonCodec where
  loads text := .ok (if text = ['{', '}'] then some (.obj []) else if text = ['[', ']'] then some (.arr []) else none)
  compact _ := [123, 125]
  dumps _ := [123, 125]

def promptLeg : LegTrack where
  track :=
    { streamFlag := false
      chatFlag := false
      originPrompt := .str "a"
      originMaxTokens := .int 16
      clientReturnTokenIds := false }

end PyMotor.Recompute
