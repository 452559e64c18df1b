import PyMotor.Recompute.Retry

/-!
# Chunks of a decode stream
-/

namespace PyMotor.Recompute

open Lib

variable {codec : JsonCodec} {chunk : JsonObj} {c0 : JsonObj} {rest : List Json}

/-- The chunk has a first choice. -/
def HasChoice (chunk c0 : JsonObj) (rest : List Json) : Prop := chunk.get? "choices" = some (.arr (.obj c0 :: rest))

theorem isRecomputeSignal_iff {frame : Bytes} :
    isRecomputeSignal codec frame = true ↔ ∃ chunk c0 rest, parseStreamChunkJson codec frame = .ok (some (.obj chunk)) ∧
      HasChoice chunk c0 rest ∧ Json.eqStr (c0.get? "stop_reason") "recomputed" = true := by
  unfold isRecomputeSignal HasChoice
  constructor
  · intro h
    split at h
    · rename_i chunk hp
      split at h
      · rename_i c0 rest hc
        exact ⟨chunk, c0, rest, hp, hc, h⟩
      · cases h
    · cases h
  · rintro ⟨chunk, c0, rest, hp, hc, hs⟩
    rw [hp]
    simp only [hc, hs]

theorem HasChoice.orElse (h : HasChoice chunk c0 rest) :
    Json.orElse (chunk.get? "choices") (.arr []) = .arr (.obj c0 :: rest) := by
  rw [h]
  rfl

theorem eqStr_iff {x : Option Json} {s : String} : Json.eqStr x s = true ↔ x = some (.str s) := by
  unfold Json.eqStr
  split
  · rename_i t
    simp
  · rename_i h
    constructor
    · intro hf; cases hf
    · intro he; exact absurd he (h _)

theorem get?_setIfNotNone_ne {k k' : String} (h : k' ≠ k) (choice : JsonObj) (value : Option Json) :
    (setIfNotNone choice k value).get? k' = choice.get? k' := by
  unfold setIfNotNone
  split
  · rfl
  · rfl
  · exact JsonObj.get?_set_ne h _ _

theorem getD_setIfNotNone {choice : JsonObj} {k : String} (h : choice.get? k = none) (value : Option Json) :
    ((setIfNotNone choice k value).get? k).getD .null = value.getD .null := by
  unfold setIfNotNone
  split
  · rw [h]
  · rw [h]
    rfl
  · rw [JsonObj.get?_set_self]

theorem eqStr_setIfNotNone {choice : JsonObj} {k : String} (h : choice.get? k = none) (value : Option Json) (s : String) :
    Json.eqStr ((setIfNotNone choice k value).get? k) s = Json.eqStr value s := by
  unfold setIfNotNone
  split
  · rw [h]
  · rw [h]; rfl
  · rw [JsonObj.get?_set_self]

theorem HasChoice.set (h : HasChoice chunk c0 rest) {k : String} (hk : "choices" ≠ k) (v : Json) :
    HasChoice (chunk.set k v) c0 rest := by
  unfold HasChoice
  rw [JsonObj.get?_set_ne hk, h]

theorem adaptCompletionStreamChunkToChat_choice (h : HasChoice chunk c0 rest) (reqId : String) (roleSent : Bool) :
    ∃ chunk' c0', adaptCompletionStreamChunkToChat chunk reqId roleSent = .ok (chunk', true) ∧
      HasChoice chunk' c0' rest ∧ Json.eqStr (c0'.get? "stop_reason") "recomputed" =
        Json.eqStr (c0.get? "stop_reason") "recomputed" := by
  have hset := (h.set (k := "object") (by decide) (.str "chat.completion.chunk")).set (k := "id") (by decide)
    (.str (chatCompletionId reqId))
  unfold adaptCompletionStreamChunkToChat
  dsimp only
  rw [hset.orElse]
  refine ⟨_, _, rfl, JsonObj.get?_set_self _ _ _, eqStr_setIfNotNone ?_ _ _⟩
  rw [get?_setIfNotNone_ne (by decide)]
  rfl

/-! ## The parts of `process_stream_chunk` -/

def cacheChunk (enabled : Bool) (track : RequestTrack) (chunk : JsonObj) : Except PyException RequestTrack :=
  if enabled then updateTokenIdCache track chunk else .ok track

def adaptChunk (entryApi reqId : String) (roleSent : Bool) (chunk : JsonObj) : Except PyException (JsonObj × Bool) :=
  (shouldAdaptCompletionStreamToChat entryApi reqId chunk).bind fun adapts =>
    if adapts then adaptCompletionStreamChunkToChat chunk reqId roleSent else .ok (chunk, roleSent)

def emitChunk (codec : JsonCodec) (frame : Bytes) (retryCount : Nat) (enabled : Bool) (track : RequestTrack)
    (roleSent : Bool) (chunk : JsonObj) : Except PyException (Option Bytes × LegTrack) :=
  if ((chunk.get? "choices").getD (.arr [])).truthy then do
    let c0 ← (← ((chunk.get? "choices").getD (.arr [])).head).asObj
    let content ← extractContentFromChoice c0
    let track ← updateCompletionTokens { track with generatedToken := track.generatedToken ++ content } chunk
    if Json.eqStr (c0.get? "stop_reason") "recomputed" then
      if enabled then return (none, { track := ← fillRecomputeKvFromTokenCache track, roleSent := roleSent })
      else return (none, { track := { track with recomputeBlockedByPolicy := true }, roleSent := roleSent })
    else
      let stripped ← stripOpenaiTokenIdFieldsForClient chunk track.clientReturnTokenIds
      if retryCount > 0 && !track.streamFlag then
        return (some (codec.compact (.obj stripped)), { track := track, roleSent := roleSent })
      else return (some (encodeStreamChunkBytes codec frame stripped), { track := track, roleSent := roleSent })
  else do
    let stripped ← stripOpenaiTokenIdFieldsForClient chunk track.clientReturnTokenIds
    return (some (encodeStreamChunkBytes codec frame stripped), { track := track, roleSent := roleSent })

theorem processStreamChunk_eq {frame : Bytes} (hp : parseStreamChunkJson codec frame = .ok (some (.obj chunk)))
    (leg : LegTrack) (retryCount : Nat) (entryApi reqId : String) (enabled : Bool) :
    processStreamChunk codec frame leg retryCount entryApi reqId enabled =
      (cacheChunk enabled leg.track chunk).bind fun track =>
        (adaptChunk entryApi reqId leg.roleSent chunk).bind fun adapted =>
          emitChunk codec frame retryCount enabled track adapted.2 adapted.1 := by
  unfold processStreamChunk cacheChunk adaptChunk
  rw [hp]
  cases enabled with
  | true =>
      cases hcache : updateTokenIdCache leg.track chunk with
      | error e => simp [Json.asObj, bind, Except.bind, hcache]
      | ok track =>
          cases hadapt : shouldAdaptCompletionStreamToChat entryApi reqId chunk with
          | error e => simp [Json.asObj, bind, Except.bind, hcache, hadapt]
          | ok adapts =>
              cases adapts <;> (simp only [Json.asObj, bind, Except.bind, if_true, hcache, hadapt]; rfl)
  | false =>
      cases hadapt : shouldAdaptCompletionStreamToChat entryApi reqId chunk with
      | error e => simp [Json.asObj, bind, Except.bind, hadapt]
      | ok adapts => cases adapts <;> (simp only [Json.asObj, bind, Except.bind, hadapt]; rfl)

theorem emitChunk_signal {frame : Bytes} {retryCount : Nat} {enabled roleSent : Bool} {track : RequestTrack}
    (hc : HasChoice chunk c0 rest) (hs : Json.eqStr (c0.get? "stop_reason") "recomputed" = true)
    {r : Option Bytes × LegTrack} (hok : emitChunk codec frame retryCount enabled track roleSent chunk = .ok r) :
    r.1 = none := by
  have hget : (chunk.get? "choices").getD (.arr []) = .arr (.obj c0 :: rest) := by rw [hc]; rfl
  unfold emitChunk at hok
  rw [hget] at hok
  simp only [Json.truthy, Json.head, Json.asObj, List.isEmpty_cons, Bool.not_false, if_true, bind_eq_ok,
    Except.ok.injEq, exists_eq_left', hs] at hok
  obtain ⟨content, -, track', -, hok⟩ := hok
  cases enabled with
  | true =>
      simp only [if_true, bind_eq_ok] at hok
      obtain ⟨filled, -, hok⟩ := hok
      cases hok
      rfl
  | false =>
      cases hok
      rfl

theorem processStreamChunk_signal {frame : Bytes} (h : isRecomputeSignal codec frame = true) {leg : LegTrack}
    {retryCount : Nat} {entryApi reqId : String} {enabled : Bool} {r : Option Bytes × LegTrack}
    (hok : processStreamChunk codec frame leg retryCount entryApi reqId enabled = .ok r) : r.1 = none := by
  obtain ⟨chunk, c0, rest, hp, hc, hs⟩ := isRecomputeSignal_iff.mp h
  rw [processStreamChunk_eq hp] at hok
  obtain ⟨track, -, hok⟩ := bind_eq_ok.mp hok
  obtain ⟨⟨chunk', roleSent⟩, hadapt, hok⟩ := bind_eq_ok.mp hok
  obtain ⟨adapts, -, hadapt⟩ := bind_eq_ok.mp hadapt
  cases adapts with
  | true =>
      obtain ⟨chunk₁, c0', he, hc', hs'⟩ := adaptCompletionStreamChunkToChat_choice hc reqId leg.roleSent
      rw [if_pos rfl, he] at hadapt
      cases hadapt
      exact emitChunk_signal hc' (hs'.trans hs) hok
  | false =>
      cases hadapt
      exact emitChunk_signal hc hs hok

theorem emitChunk_none {frame : Bytes} {retryCount : Nat} {enabled roleSent : Bool} {track : RequestTrack}
    {leg : LegTrack} (hok : emitChunk codec frame retryCount enabled track roleSent chunk = .ok (none, leg)) :
    enabled = true ∨ leg.track.recomputeBlockedByPolicy = true := by
  cases enabled with
  | true => exact .inl rfl
  | false =>
      right
      unfold emitChunk at hok
      split at hok
      · simp only [bind_eq_ok] at hok
        obtain ⟨_, -, c0, -, content, -, track', -, hok⟩ := hok
        split at hok
        · cases hok
          rfl
        · obtain ⟨stripped, -, hok⟩ := bind_eq_ok.mp hok
          split at hok <;> cases hok
      · obtain ⟨stripped, -, hok⟩ := bind_eq_ok.mp hok
        cases hok

theorem processStreamChunk_none {frame : Bytes} {leg leg' : LegTrack} {retryCount : Nat} {entryApi reqId : String}
    {enabled : Bool} (hok : processStreamChunk codec frame leg retryCount entryApi reqId enabled = .ok (none, leg')) :
    enabled = true ∨ leg'.track.recomputeBlockedByPolicy = true := by
  cases hp : parseStreamChunkJson codec frame with
  | error e => simp [processStreamChunk, hp] at hok
  | ok parsed =>
      cases parsed with
      | none => simp [processStreamChunk, hp] at hok
      | some parsed =>
          cases parsed with
          | obj chunk =>
              rw [processStreamChunk_eq hp] at hok
              obtain ⟨track, -, hok⟩ := bind_eq_ok.mp hok
              obtain ⟨adapted, -, hok⟩ := bind_eq_ok.mp hok
              exact emitChunk_none hok
          | _ => simp [processStreamChunk, hp, Json.asObj, bind, Except.bind] at hok

end PyMotor.Recompute
