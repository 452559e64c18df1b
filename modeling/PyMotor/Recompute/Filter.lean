import PyMotor.Recompute.Lemmas.Retry
import PyMotor.Recompute.Lemmas.Stream
import PyMotor.Router.ContextRouter

/-!
# What the client is to see of a chunk
-/

namespace PyMotor.Recompute

open Lib

/-! ## JSON for the client -/

/-- A choice without the ids that were not asked for, and without the stop reason of a recompute. -/
def ClientChoice (asked : Bool) (choice client : JsonObj) : Prop :=
  ∀ key, client.get? key =
    if asked = false ∧ (key = "token_ids" ∨ key = "prompt_token_ids") then none
    else if key = "stop_reason" ∧ Json.eqStr (choice.get? key) "recomputed" then some (.str "stop")
    else choice.get? key

/-- The choices that are no objects stay as they are. -/
inductive ClientItem (asked : Bool) : Json → Json → Prop
  | choice {choice client : JsonObj} : ClientChoice asked choice client → ClientItem asked (.obj choice) (.obj client)
  | other {item : Json} : (∀ d, item ≠ .obj d) → ClientItem asked item item

/-- The root without the ids that were not asked for, and its choices. -/
structure ClientJson (asked : Bool) (json client : JsonObj) : Prop where
  fields : ∀ key, key ≠ "choices" →
    client.get? key = if asked = false ∧ key = "prompt_token_ids" then none else json.get? key
  choices : (∃ items items', json.get? "choices" = some (.arr items) ∧ client.get? "choices" = some (.arr items') ∧
      List.Forall₂ (ClientItem asked) items items') ∨
    (∀ items, json.get? "choices" ≠ some (.arr items)) ∧ client.get? "choices" = json.get? "choices"

/-- The chunk begins with `data: `. -/
def hasDataPrefix (chunk : Bytes) : Bool := Text.startsWith dataPrefix (Text.strip (chunk.decodeUtf8.getD []))

def isLineEnd (b : UInt8) : Bool := b = 13 || b = 10

/-- The line terminator of the chunk: all the line ends that it ends with. -/
def terminator (chunk : Bytes) : Bytes := chunk.rtakeWhile isLineEnd

/-- The bytes with the prefix and the line terminator of the chunk. -/
def framedAs (chunk payload : Bytes) : Bytes :=
  (if hasDataPrefix chunk then dataPrefixBytes else []) ++ payload ++ terminator chunk

/-- The chunk ends with no line end, with one or two `LF`, or with one or two `CR LF`. -/
def Terminated (chunk : Bytes) : Prop := terminator chunk ∈ [[], [10], [10, 10], [13, 10], [13, 10, 13, 10]]

/-- An object is written between braces. -/
def JsonCodec.Braced (codec : JsonCodec) : Prop := ∀ d, ∃ inner, codec.compact (.obj d) = 123 :: inner ++ [125]

/-! ## The filter -/

section

variable (codec : JsonCodec) (chunk : Bytes) (leg : LegTrack) (retryCount : Nat) (entryApi reqId : String) (enabled : Bool)

/-- What the filter is for. -/
structure Filters : Prop where
  raises : ∀ e, processStreamChunk codec chunk leg retryCount entryApi reqId enabled = .error e →
    ∃ status detail, e = .httpException status detail
  signal : ∀ leg', processStreamChunk codec chunk leg retryCount entryApi reqId enabled = .ok (none, leg') →
    isRecomputeSignal codec chunk = true
  withheld : isRecomputeSignal codec chunk = true → ∀ bytes leg',
    processStreamChunk codec chunk leg retryCount entryApi reqId enabled ≠ .ok (some bytes, leg')
  sent : ∀ bytes leg', processStreamChunk codec chunk leg retryCount entryApi reqId enabled = .ok (some bytes, leg') →
    ∀ json, parseStreamChunkJson codec chunk = .ok (some json) →
    ∃ d adapted roleSent client, json = .obj d ∧ adaptChunk entryApi reqId leg.roleSent d = .ok (adapted, roleSent) ∧
      ClientJson leg.track.clientReturnTokenIds adapted client ∧ bytes = framedAs chunk (codec.compact (.obj client))
  agrees : isRecomputeSignal codec chunk = false →
    (∀ d, parseStreamChunkJson codec chunk = .ok (some (.obj d)) →
      shouldAdaptCompletionStreamToChat entryApi reqId d ≠ .ok true) →
    ∃ bytes leg', processStreamChunk codec chunk leg retryCount entryApi reqId enabled = .ok (some bytes, leg') ∧
      Router.stripStreamChunkBytesForClient codec leg.track.clientReturnTokenIds chunk = .ok bytes

/-! ## The chunks that it can handle -/

/-- `extract_content_from_choice` meets objects only. -/
def Textual (c0 : JsonObj) : Prop :=
  ∃ delta : JsonObj, Json.orElse (c0.get? "delta") (.obj []) = .obj delta ∧
    (((delta.get? "content").getD .null).truthy = true ∨
      ∃ message, Json.orElse (c0.get? "message") (.obj []) = .obj message)

/-- The usage is an object whose tokens are a number. -/
def Counted (d : JsonObj) : Prop :=
  ∃ (usage : JsonObj) (tokens : Json), (d.get? "usage").getD (.obj []) = .obj usage ∧
    (usage.get? "completion_tokens").getD (.int 0) = tokens ∧
    ((∃ n, tokens = .int n) ∨ (∃ b, tokens = .bool b) ∨ ∃ q, tokens = .float q)

/-- The first choice is an object, its text can be read unless the adapter replaces it, and so can the usage of a
request without streaming. Such a request that is retried gets its answer neither with a prefix nor with a terminator. -/
structure ShapedChoice (d c0 : JsonObj) (rest : List Json) : Prop where
  choice : HasChoice d c0 rest
  text : shouldAdaptCompletionStreamToChat entryApi reqId d = .ok true ∨ Textual c0
  usage : leg.track.streamFlag = true ∨ Counted d
  bare : Json.eqStr (c0.get? "stop_reason") "recomputed" = true ∨ retryCount = 0 ∨ leg.track.streamFlag = true ∨
    (hasDataPrefix chunk = false ∧ terminator chunk = [])

/-- The chunk is no JSON, or it is an object that has no choice or a first choice in shape, and it asks for a recompute or
ends in one of the usual ways. -/
structure Shaped : Prop where
  parsed : ∃ parsed, parseStreamChunkJson codec chunk = .ok parsed
  object : ∀ json, parseStreamChunkJson codec chunk = .ok (some json) → ∃ d : JsonObj, json = .obj d ∧
    (((d.get? "choices").getD (.arr [])).truthy = true →
      ∃ c0 rest, ShapedChoice chunk leg retryCount entryApi reqId d c0 rest)
  terminated : ∀ json, parseStreamChunkJson codec chunk = .ok (some json) →
    isRecomputeSignal codec chunk = true ∨ Terminated chunk

end

/-!
## The steps of the filter

When a chunk is cached, adapted, read and stripped without an error of the language.
-/

variable {codec : JsonCodec} {chunk : Bytes} {leg : LegTrack} {retryCount : Nat} {entryApi reqId : String} {enabled : Bool}
  {track : RequestTrack} {d c0 : JsonObj} {rest : List Json} {asked : Bool}

/-! ## Errors of the language -/

/-- An error of the language. -/
def Crashes {α : Type} (x : Except PyException α) : Prop := ∃ type, x = .error (.builtin type)

theorem Crashes.bind {α β : Type} {x : Except PyException α} (h : Crashes x) (f : α → Except PyException β) :
    Crashes (x.bind f) := by
  obtain ⟨type, rfl⟩ := h
  exact ⟨type, rfl⟩

theorem crashes_bind {α β : Type} {x : Except PyException α} {f : α → Except PyException β}
    (h : Crashes x ∨ ∃ a, x = .ok a ∧ Crashes (f a)) : Crashes (x.bind f) := by
  rcases h with h | ⟨a, rfl, h⟩
  · exact h.bind f
  · exact h

theorem Crashes.then {α β γ : Type} {x : Except PyException α} {f : α → Except PyException β} (h : Crashes (x.bind f))
    (g : β → Except PyException γ) : Crashes (x.bind fun a => (f a).bind g) := by
  cases x with
  | error e =>
      obtain ⟨type, htype⟩ := h
      cases htype
      exact ⟨type, rfl⟩
  | ok a => exact Crashes.bind h g

theorem crashes_asObj {x : Json} (h : ∀ d, x ≠ .obj d) : Crashes x.asObj := by
  cases x with
  | obj d => exact absurd rfl (h d)
  | _ => exact ⟨_, rfl⟩

theorem crashes_choice {choices : Json} (htruthy : choices.truthy = true)
    (h : ∀ c0 rest, choices ≠ .arr (.obj c0 :: rest)) :
    Crashes (choices.head.bind Json.asObj) := by
  cases choices with
  | arr items =>
      cases items with
      | nil => cases htruthy
      | cons item items => exact crashes_asObj fun c0 hitem => h c0 items (by rw [hitem])
  | str s =>
      rw [Json.head]
      split
      · exact ⟨_, rfl⟩
      · exact ⟨_, rfl⟩
  | obj items => exact ⟨_, rfl⟩
  | null => exact ⟨_, rfl⟩
  | bool b => exact ⟨_, rfl⟩
  | int n => exact ⟨_, rfl⟩
  | float q => exact ⟨_, rfl⟩

/-! ## Choices -/

theorem orElse_choices (d : JsonObj) :
    (Json.orElse (d.get? "choices") (.arr [])).truthy = ((d.get? "choices").getD (.arr [])).truthy ∧
      (((d.get? "choices").getD (.arr [])).truthy = true →
        Json.orElse (d.get? "choices") (.arr []) = (d.get? "choices").getD (.arr [])) := by
  cases d.get? "choices" with
  | none => exact ⟨rfl, fun _ => rfl⟩
  | some v =>
      rw [Json.orElse, Option.getD_some]
      cases hv : v.truthy with
      | true => simp [hv]
      | false => simp [Json.truthy]

theorem HasChoice.truthy (h : HasChoice d c0 rest) : ((d.get? "choices").getD (.arr [])).truthy = true := by
  rw [h]
  rfl

/-- Choices that are there, but without a first choice. -/
structure Headless (d : JsonObj) : Prop where
  truthy : ((d.get? "choices").getD (.arr [])).truthy = true
  none : ∀ c0 rest, ¬ HasChoice d c0 rest

theorem Headless.crashes (h : Headless d) : Crashes (((d.get? "choices").getD (.arr [])).head.bind Json.asObj) := by
  refine crashes_choice h.truthy fun c0 rest heq => h.none c0 rest ?_
  cases hget : d.get? "choices" with
  | none =>
      rw [hget] at heq
      cases heq
  | some v =>
      rw [hget, Option.getD_some] at heq
      rw [HasChoice, hget, heq]

/-! ## Caching -/

theorem head_cases (x : Json) : (∃ y, x.head = .ok y) ∨ Crashes x.head := by
  cases x with
  | arr items =>
      cases items with
      | nil => exact .inr ⟨_, rfl⟩
      | cons item items => exact .inl ⟨_, rfl⟩
  | str s =>
      rw [Json.head]
      split
      · exact .inl ⟨_, rfl⟩
      · exact .inr ⟨_, rfl⟩
  | obj items => exact .inr ⟨_, rfl⟩
  | null => exact .inr ⟨_, rfl⟩
  | bool b => exact .inr ⟨_, rfl⟩
  | int n => exact .inr ⟨_, rfl⟩
  | float q => exact .inr ⟨_, rfl⟩

theorem chunkPromptTokenIds_cases (d : JsonObj) : (∃ prompt, chunkPromptTokenIds d = .ok prompt) ∨
    Crashes (chunkPromptTokenIds d) := by
  rw [chunkPromptTokenIds]
  split
  · exact .inl ⟨_, rfl⟩
  · dsimp only
    split
    · rcases head_cases (Json.orElse (d.get? "choices") (.arr [])) with ⟨first, hfirst⟩ | hcrash
      · left
        rw [hfirst]
        cases first <;> exact ⟨_, rfl⟩
      · exact .inr (hcrash.bind _)
    · exact .inl ⟨_, rfl⟩

theorem HasChoice.promptTokenIds (h : HasChoice d c0 rest) : ∃ prompt, chunkPromptTokenIds d = .ok prompt := by
  rw [chunkPromptTokenIds, h.orElse]
  split
  · exact ⟨_, rfl⟩
  · exact ⟨_, rfl⟩

theorem Headless.crashes_cache (h : Headless d) (track : RequestTrack) : Crashes (updateTokenIdCache track d) := by
  obtain ⟨htruthy, heq⟩ := orElse_choices d
  rw [updateTokenIdCache_eq]
  refine crashes_bind ?_
  rcases chunkPromptTokenIds_cases d with ⟨prompt, hprompt⟩ | hcrash
  · refine .inr ⟨prompt, hprompt, ?_⟩
    rw [cacheOutputIds, heq h.truthy, if_pos h.truthy]
    exact h.crashes.then _
  · exact .inl hcrash

theorem cacheChunk_fields {track' : RequestTrack} (h : cacheChunk enabled track d = .ok track') :
    track'.streamFlag = track.streamFlag ∧ track'.completionTokens = track.completionTokens ∧
      track'.clientReturnTokenIds = track.clientReturnTokenIds := by
  cases enabled with
  | false =>
      cases h
      exact ⟨rfl, rfl, rfl⟩
  | true =>
      rw [updateTokenIdCache_ok h]
      exact ⟨rfl, rfl, rfl⟩

theorem HasChoice.cacheChunk (h : HasChoice d c0 rest) (enabled : Bool) (track : RequestTrack) :
    ∃ track', cacheChunk enabled track d = .ok track' := by
  cases enabled with
  | false => exact ⟨_, rfl⟩
  | true =>
      obtain ⟨prompt, hprompt⟩ := h.promptTokenIds
      rw [Recompute.cacheChunk, if_pos rfl, updateTokenIdCache_eq, hprompt]
      simp only [Except.bind, h.orElse, cacheOutputIds, Json.truthy, List.isEmpty_cons, Bool.not_false, if_true, Json.head,
        Json.asObj, bind]
      split
      · exact ⟨_, rfl⟩
      · exact ⟨_, rfl⟩

/-- The chunk has no choices. -/
def Choiceless (d : JsonObj) : Prop := ((d.get? "choices").getD (.arr [])).truthy = false

theorem Choiceless.orElse (h : Choiceless d) : (Json.orElse (d.get? "choices") (.arr [])).truthy = false :=
  (orElse_choices d).1.trans h

theorem Choiceless.cacheChunk (h : Choiceless d) (enabled : Bool) (track : RequestTrack) :
    ∃ track', cacheChunk enabled track d = .ok track' := by
  cases enabled with
  | false => exact ⟨_, rfl⟩
  | true =>
      have hprompt : ∃ prompt, chunkPromptTokenIds d = .ok prompt := by
        rw [chunkPromptTokenIds]
        split
        · exact ⟨_, rfl⟩
        · dsimp only
          rw [h.orElse]
          exact ⟨_, rfl⟩
      obtain ⟨prompt, hprompt⟩ := hprompt
      rw [Recompute.cacheChunk, if_pos rfl, updateTokenIdCache_eq, hprompt]
      simp only [Except.bind, cacheOutputIds, h.orElse]
      exact ⟨_, rfl⟩

/-! ## Adapting -/

theorem get?_usage_lift (choice response : JsonObj) :
    (liftPromptTokenIdsFromChoice choice response).get? "usage" = response.get? "usage" := by
  rw [liftPromptTokenIdsFromChoice]
  split
  · rfl
  · rfl
  · split
    · rfl
    · exact JsonObj.get?_set_ne (by decide) _ _

theorem Choiceless.adaptChunk (h : Choiceless d) (entryApi reqId : String) (roleSent : Bool) :
    ∃ adapted roleSent', adaptChunk entryApi reqId roleSent d = .ok (adapted, roleSent') ∧ Choiceless adapted := by
  have hlike : ∃ like, isCompletionLikeStreamChunk d = .ok like := by
    rw [isCompletionLikeStreamChunk]
    split
    · exact ⟨_, rfl⟩
    · simp only [h.orElse]
      exact ⟨_, rfl⟩
  have hadapts : ∃ adapts, shouldAdaptCompletionStreamToChat entryApi reqId d = .ok adapts := by
    rw [shouldAdaptCompletionStreamToChat]
    split
    · exact hlike
    · exact ⟨_, rfl⟩
  obtain ⟨adapts, hadapts⟩ := hadapts
  rw [Recompute.adaptChunk, hadapts]
  cases adapts with
  | false => exact ⟨d, roleSent, rfl, h⟩
  | true =>
      have hset : Choiceless ((d.set "object" (.str "chat.completion.chunk")).set "id" (.str (chatCompletionId reqId))) := by
        rw [Choiceless, JsonObj.get?_set_ne (by decide), JsonObj.get?_set_ne (by decide)]
        exact h
      refine ⟨_, roleSent, ?_, hset⟩
      simp only [Except.bind, if_true, adaptCompletionStreamChunkToChat, hset.orElse]
      rfl

/-- A first choice that the adapter has made, or left. -/
structure AdaptedChoice (entryApi reqId : String) (d adapted c0 c0' : JsonObj) (rest : List Json) : Prop where
  choice : HasChoice adapted c0' rest
  stopReason : Json.eqStr (c0'.get? "stop_reason") "recomputed" = Json.eqStr (c0.get? "stop_reason") "recomputed"
  usage : adapted.get? "usage" = d.get? "usage"
  text : shouldAdaptCompletionStreamToChat entryApi reqId d = .ok true ∧ Textual c0' ∨
    shouldAdaptCompletionStreamToChat entryApi reqId d = .ok false ∧ c0' = c0 ∧ adapted = d

theorem get?_delta_setIfNotNone (choice : JsonObj) (finish stop : Option Json) :
    (setIfNotNone (setIfNotNone choice "finish_reason" finish) "stop_reason" stop).get? "delta" = choice.get? "delta" := by
  rw [get?_setIfNotNone_ne (by decide), get?_setIfNotNone_ne (by decide)]

theorem get?_message_setIfNotNone (choice : JsonObj) (finish stop : Option Json) :
    (setIfNotNone (setIfNotNone choice "finish_reason" finish) "stop_reason" stop).get? "message" =
      choice.get? "message" := by
  rw [get?_setIfNotNone_ne (by decide), get?_setIfNotNone_ne (by decide)]

theorem orElse_arr {v : Option Json} {x : Json} {xs : List Json} (h : Json.orElse v (.arr []) = .arr (x :: xs)) :
    v = some (.arr (x :: xs)) := by
  cases v with
  | none => cases h
  | some v =>
      rw [Json.orElse] at h
      split at h
      · rw [h]
      · cases h

theorem orElse_obj (x : JsonObj) : ∃ delta : JsonObj, Json.orElse (some (.obj x)) (.obj []) = .obj delta := by
  rw [Json.orElse]
  split
  · exact ⟨_, rfl⟩
  · exact ⟨_, rfl⟩

theorem HasChoice.adaptChunk (h : HasChoice d c0 rest) (entryApi reqId : String) (roleSent : Bool) :
    ∃ adapted roleSent' c0', adaptChunk entryApi reqId roleSent d = .ok (adapted, roleSent') ∧
      AdaptedChoice entryApi reqId d adapted c0 c0' rest := by
  have hadapts : ∃ adapts, shouldAdaptCompletionStreamToChat entryApi reqId d = .ok adapts := by
    rw [shouldAdaptCompletionStreamToChat]
    split
    · rw [isCompletionLikeStreamChunk, h.orElse]
      split
      · exact ⟨_, rfl⟩
      · exact ⟨_, rfl⟩
    · exact ⟨_, rfl⟩
  obtain ⟨adapts, hadapts⟩ := hadapts
  rw [Recompute.adaptChunk, hadapts]
  cases adapts with
  | false => exact ⟨d, roleSent, c0, rfl, h, rfl, rfl, .inr ⟨hadapts, rfl, rfl⟩⟩
  | true =>
      have hset := (h.set (k := "object") (by decide) (.str "chat.completion.chunk")).set (k := "id") (by decide)
        (.str (chatCompletionId reqId))
      simp only [Except.bind, if_true, adaptCompletionStreamChunkToChat, hset.orElse]
      refine ⟨_, true, _, rfl, JsonObj.get?_set_self _ _ _, eqStr_setIfNotNone ?_ _ _, ?_, .inl ⟨hadapts, ?_⟩⟩
      · rw [get?_setIfNotNone_ne (by decide)]
        rfl
      · rw [setChoice0, JsonObj.get?_set_ne (by decide), get?_usage_lift, JsonObj.get?_set_ne (by decide),
          JsonObj.get?_set_ne (by decide)]
      · rw [Textual, get?_delta_setIfNotNone, get?_message_setIfNotNone]
        obtain ⟨delta, hdelta⟩ := orElse_obj _
        exact ⟨delta, hdelta, .inr ⟨[], rfl⟩⟩

theorem Headless.adaptChunk (h : Headless d) (entryApi reqId : String) (roleSent : Bool) :
    Crashes (adaptChunk entryApi reqId roleSent d) ∨ adaptChunk entryApi reqId roleSent d = .ok (d, roleSent) := by
  obtain ⟨-, heq⟩ := orElse_choices d
  have hlike : Crashes (isCompletionLikeStreamChunk d) ∨ ∃ like, isCompletionLikeStreamChunk d = .ok like := by
    rw [isCompletionLikeStreamChunk]
    split
    · exact .inr ⟨_, rfl⟩
    · left
      dsimp only
      rw [heq h.truthy, if_pos h.truthy]
      exact h.crashes.then _
  have hadapts : Crashes (shouldAdaptCompletionStreamToChat entryApi reqId d) ∨
      ∃ adapts, shouldAdaptCompletionStreamToChat entryApi reqId d = .ok adapts := by
    rw [shouldAdaptCompletionStreamToChat]
    split
    · exact hlike
    · exact .inr ⟨_, rfl⟩
  rw [Recompute.adaptChunk]
  rcases hadapts with hcrash | ⟨adapts, hadapts⟩
  · exact .inl (hcrash.bind _)
  · rw [hadapts]
    cases adapts with
    | false => exact .inr rfl
    | true =>
        left
        have hset : Headless ((d.set "object" (.str "chat.completion.chunk")).set "id" (.str (chatCompletionId reqId))) := by
          have hget : ((d.set "object" (.str "chat.completion.chunk")).set "id"
              (.str (chatCompletionId reqId))).get? "choices" = d.get? "choices" := by
            rw [JsonObj.get?_set_ne (by decide), JsonObj.get?_set_ne (by decide)]
          refine ⟨by rw [hget]; exact h.truthy, fun c0 rest hc => h.none c0 rest ?_⟩
          rw [HasChoice, hget] at hc
          exact hc
        obtain ⟨-, heq'⟩ := orElse_choices
          ((d.set "object" (.str "chat.completion.chunk")).set "id" (.str (chatCompletionId reqId)))
        simp only [Except.bind, if_true, adaptCompletionStreamChunkToChat]
        rw [heq' hset.truthy, if_pos hset.truthy]
        exact hset.crashes.then _

/-! ## Stripping -/

theorem get?_pop_tokenIds (asked : Bool) (choice : JsonObj) (key : String) :
    (if asked then choice else (JsonObj.pop choice "token_ids").pop "prompt_token_ids").get? key =
      if asked = false ∧ (key = "token_ids" ∨ key = "prompt_token_ids") then none else choice.get? key := by
  cases asked with
  | true => simp
  | false =>
      simp only [Bool.false_eq_true, if_false, JsonObj.get?_pop, true_and]
      by_cases hprompt : key = "prompt_token_ids"
      · simp [hprompt]
      · simp [hprompt]

theorem clientChoice_strip (asked : Bool) (choice : JsonObj) :
    ∃ client, stripChoice asked (.obj choice) = .obj client ∧ ClientChoice asked choice client := by
  have hpop := get?_pop_tokenIds asked choice
  rw [stripChoice]
  generalize (if asked then choice else (JsonObj.pop choice "token_ids").pop "prompt_token_ids") = ch at hpop
  have hstop := hpop "stop_reason"
  simp only [String.reduceEq, or_self, and_false, if_false] at hstop
  refine ⟨_, rfl, fun key => ?_⟩
  rw [hstop]
  split
  · rename_i heq
    rw [JsonObj.get?_set]
    by_cases hkey : key = "stop_reason"
    · simp [hkey, heq]
    · simp [hkey, hpop]
  · rename_i heq
    rw [hpop]
    by_cases hkey : key = "stop_reason"
    · simp [hkey, heq]
    · simp [hkey]

theorem clientItem_strip (asked : Bool) (item : Json) : ClientItem asked item (stripChoice asked item) := by
  cases item with
  | obj choice =>
      obtain ⟨client, heq, hclient⟩ := clientChoice_strip asked choice
      rw [heq]
      exact .choice hclient
  | _ => exact .other fun d h => by cases h

theorem forall₂_stripChoice (asked : Bool) (items : List Json) :
    List.Forall₂ (ClientItem asked) items (items.map (stripChoice asked)) := by
  induction items with
  | nil => exact .nil
  | cons item items ih => exact .cons (clientItem_strip asked item) ih

theorem get?_popRoot (asked : Bool) (d : JsonObj) (key : String) :
    (if asked then d else d.pop "prompt_token_ids").get? key =
      if asked = false ∧ key = "prompt_token_ids" then none else d.get? key := by
  cases asked with
  | true => simp
  | false => simp [JsonObj.get?_pop]

theorem clientJson_of_strip {client : JsonObj} (h : stripOpenaiTokenIdFieldsForClient d asked = .ok client) :
    ClientJson asked d client := by
  have hroot := get?_popRoot asked d
  rw [stripOpenaiTokenIdFieldsForClient] at h
  generalize (if asked then d else d.pop "prompt_token_ids") = root at hroot h
  have hchoices := hroot "choices"
  simp only [String.reduceEq, and_false, if_false] at hchoices
  obtain ⟨items, -, h⟩ := bind_eq_ok.mp h
  split at h
  · rename_i x xs heq
    cases h
    have hget : d.get? "choices" = some (.arr (x :: xs)) := by
      rw [← hchoices]
      exact orElse_arr heq
    refine ⟨fun key hkey => ?_, .inl ⟨x :: xs, _, hget, JsonObj.get?_set_self _ _ _, forall₂_stripChoice _ _⟩⟩
    rw [JsonObj.get?_set_ne hkey, hroot]
  · rename_i hnot
    cases h
    refine ⟨fun key _ => hroot key, ?_⟩
    cases hget : d.get? "choices" with
    | none => exact .inr ⟨fun items hitems => (by cases hitems), hchoices.trans hget⟩
    | some v =>
        rw [hget] at hchoices
        cases v with
        | arr items =>
            cases items with
            | nil => exact .inl ⟨[], [], rfl, hchoices, .nil⟩
            | cons x xs => exact absurd (by rw [hchoices]; rfl) (hnot x xs)
        | _ => exact .inr ⟨fun items hitems => (by cases hitems), hchoices⟩

theorem strip_of_iterate {choices : Json} (h : Json.orElse (d.get? "choices") (.arr []) = choices)
    (hiterate : ∃ items, choices.iterate = .ok items) :
    ∃ client, stripOpenaiTokenIdFieldsForClient d asked = .ok client := by
  have hroot := get?_popRoot asked d "choices"
  simp only [String.reduceEq, and_false, if_false] at hroot
  rw [stripOpenaiTokenIdFieldsForClient]
  generalize (if asked then d else d.pop "prompt_token_ids") = root at hroot
  obtain ⟨items, hitems⟩ := hiterate
  rw [hroot, h, hitems]
  cases choices with
  | arr xs =>
      cases xs with
      | nil => exact ⟨_, rfl⟩
      | cons x xs => exact ⟨_, rfl⟩
  | _ => exact ⟨_, rfl⟩

theorem HasChoice.strip (h : HasChoice d c0 rest) (asked : Bool) :
    ∃ client, stripOpenaiTokenIdFieldsForClient d asked = .ok client :=
  strip_of_iterate h.orElse ⟨_, rfl⟩

theorem Choiceless.strip (h : Choiceless d) (asked : Bool) :
    ∃ client, stripOpenaiTokenIdFieldsForClient d asked = .ok client := by
  refine strip_of_iterate rfl ?_
  have horElse := h.orElse
  cases hget : d.get? "choices" with
  | none => exact ⟨_, rfl⟩
  | some v =>
      rw [hget, Json.orElse] at horElse
      rw [Json.orElse]
      split at horElse
      · rename_i hv
        rw [hv] at horElse
        cases horElse
      · rename_i hv
        rw [if_neg hv]
        exact ⟨_, rfl⟩

/-! ## Reading -/

theorem contentText_ok (raw : Json) :
    ∃ content, (match raw with | .str s => pure s | _ => pure "" : Except PyException String) = .ok content := by
  cases raw with
  | _ => exact ⟨_, rfl⟩

theorem extractContent_ok (h : Textual c0) : ∃ content, extractContentFromChoice c0 = .ok content := by
  obtain ⟨delta, hdelta, hcontent⟩ := h
  rw [extractContentFromChoice, hdelta]
  simp only [Json.asObj, bind, Except.bind]
  by_cases htruthy : ((delta.get? "content").getD .null).truthy = true
  · rw [if_pos htruthy]
    exact contentText_ok _
  · rcases hcontent with hcontent | ⟨message, hmessage⟩
    · exact absurd hcontent htruthy
    · rw [if_neg htruthy, hmessage]
      exact contentText_ok _

theorem extractContent_crashes (h : ¬ Textual c0) : Crashes (extractContentFromChoice c0) := by
  rw [extractContentFromChoice]
  refine crashes_bind ?_
  by_cases hdelta : ∃ delta : JsonObj, Json.orElse (c0.get? "delta") (.obj []) = .obj delta
  · obtain ⟨delta, hdelta⟩ := hdelta
    refine .inr ⟨delta, by rw [hdelta]; rfl, ?_⟩
    have hcontent : ¬ ((delta.get? "content").getD .null).truthy = true := fun hcontent =>
      h ⟨delta, hdelta, .inl hcontent⟩
    dsimp only
    rw [if_neg hcontent]
    exact crashes_bind (.inl (crashes_asObj fun message hmessage => h ⟨delta, hdelta, .inr ⟨message, hmessage⟩⟩))
  · exact .inl (crashes_asObj fun delta heq => hdelta ⟨delta, heq⟩)

theorem updateCompletionTokens_ok (track : RequestTrack) {n : Int} (hzero : track.completionTokens = .int n)
    (h : track.streamFlag = true ∨ Counted d) :
    ∃ tokens, updateCompletionTokens track d = .ok { track with completionTokens := tokens } := by
  rw [updateCompletionTokens]
  split
  · rw [hzero]
    exact ⟨_, rfl⟩
  · rename_i hstream
    rcases h with h | ⟨usage, tokens, husage, htokens, hnumber⟩
    · exact absurd h hstream
    · rw [husage]
      simp only [Json.asObj, bind, Except.bind, htokens, hzero]
      rcases hnumber with ⟨m, rfl⟩ | ⟨b, rfl⟩ | ⟨q, rfl⟩
      · exact ⟨_, rfl⟩
      · exact ⟨_, rfl⟩
      · exact ⟨_, rfl⟩

theorem updateCompletionTokens_crashes (hstream : track.streamFlag = false) (h : ¬ Counted d) :
    Crashes (updateCompletionTokens track d) := by
  rw [updateCompletionTokens, hstream, if_neg Bool.false_ne_true]
  refine crashes_bind ?_
  by_cases husage : ∃ usage : JsonObj, (d.get? "usage").getD (.obj []) = .obj usage
  · obtain ⟨usage, husage⟩ := husage
    refine .inr ⟨usage, by rw [husage]; rfl, ?_⟩
    cases htokens : (usage.get? "completion_tokens").getD (.int 0) with
    | int n => exact absurd ⟨usage, _, husage, htokens, .inl ⟨n, rfl⟩⟩ h
    | bool b => exact absurd ⟨usage, _, husage, htokens, .inr (.inl ⟨b, rfl⟩)⟩ h
    | float q => exact absurd ⟨usage, _, husage, htokens, .inr (.inr ⟨q, rfl⟩)⟩ h
    | _ => exact ⟨_, rfl⟩
  · exact .inl (crashes_asObj fun usage heq => husage ⟨usage, heq⟩)

/-! ## Emitting -/

variable {roleSent : Bool}

theorem HasChoice.getD (h : HasChoice d c0 rest) : (d.get? "choices").getD (.arr []) = .arr (.obj c0 :: rest) := by
  rw [h]
  rfl

theorem Choiceless.emitChunk (h : Choiceless d) (codec : JsonCodec) (chunk : Bytes) (retryCount : Nat) (enabled : Bool)
    (track : RequestTrack) (roleSent : Bool) : ∃ client,
    stripOpenaiTokenIdFieldsForClient d track.clientReturnTokenIds = .ok client ∧
      emitChunk codec chunk retryCount enabled track roleSent d =
        .ok (some (encodeStreamChunkBytes codec chunk client), { track := track, roleSent := roleSent }) := by
  obtain ⟨client, hclient⟩ := h.strip track.clientReturnTokenIds
  refine ⟨client, hclient, ?_⟩
  rw [Recompute.emitChunk, if_neg (by rw [h]; exact Bool.false_ne_true), hclient]
  rfl

theorem Headless.emitChunk (h : Headless d) : Crashes (emitChunk codec chunk retryCount enabled track roleSent d) := by
  rw [Recompute.emitChunk, if_pos h.truthy]
  exact h.crashes.then _

theorem HasChoice.emitChunk_crashes (h : HasChoice d c0 rest)
    (hbad : ¬ Textual c0 ∨ (Textual c0 ∧ track.streamFlag = false ∧ ¬ Counted d)) :
    Crashes (emitChunk codec chunk retryCount enabled track roleSent d) := by
  rw [emitChunk, if_pos h.truthy, h.getD]
  rcases hbad with htext | ⟨htext, hstream, hcounted⟩
  · exact (extractContent_crashes htext).bind _
  · obtain ⟨content, hcontent⟩ := extractContent_ok htext
    have hcrash : Crashes (updateCompletionTokens { track with generatedToken := track.generatedToken ++ content } d) :=
      updateCompletionTokens_crashes hstream hcounted
    exact crashes_bind (.inr ⟨.obj c0, rfl, crashes_bind (.inr ⟨c0, rfl,
      crashes_bind (.inr ⟨content, hcontent, hcrash.bind _⟩)⟩)⟩)

theorem fillRecomputeKv_cases (track : RequestTrack) :
    (∃ filled, fillRecomputeKvFromTokenCache track = .ok filled) ∨
      ∃ status detail, fillRecomputeKvFromTokenCache track = .error (.httpException status detail) := by
  rw [fillRecomputeKvFromTokenCache]
  split
  · exact .inl ⟨_, rfl⟩
  · exact .inr ⟨_, _, rfl⟩

theorem HasChoice.emitChunk_signal {n : Int} (h : HasChoice d c0 rest)
    (hsignal : Json.eqStr (c0.get? "stop_reason") "recomputed" = true) (htext : Textual c0)
    (hzero : track.completionTokens = .int n) (hcounted : track.streamFlag = true ∨ Counted d) :
    (∃ leg', emitChunk codec chunk retryCount enabled track roleSent d = .ok (none, leg')) ∨
      ∃ status detail, emitChunk codec chunk retryCount enabled track roleSent d = .error (.httpException status detail) := by
  obtain ⟨content, hcontent⟩ := extractContent_ok htext
  obtain ⟨tokens, htokens⟩ := updateCompletionTokens_ok
    { track with generatedToken := track.generatedToken ++ content } hzero hcounted
  rw [emitChunk, if_pos h.truthy, h.getD]
  simp only [Json.head, Json.asObj, bind, Except.bind, hcontent, htokens, hsignal, if_true]
  cases enabled with
  | false => exact .inl ⟨_, rfl⟩
  | true =>
      rw [if_pos rfl]
      rcases fillRecomputeKv_cases { track with
        generatedToken := track.generatedToken ++ content, completionTokens := tokens } with
        ⟨filled, hfilled⟩ | ⟨status, detail, herror⟩
      · rw [hfilled]
        exact .inl ⟨_, rfl⟩
      · rw [herror]
        exact .inr ⟨_, _, rfl⟩

theorem HasChoice.emitChunk_sent {n : Int} (h : HasChoice d c0 rest) (codec : JsonCodec) (chunk : Bytes)
    (retryCount : Nat) (enabled roleSent : Bool)
    (hsignal : ¬ Json.eqStr (c0.get? "stop_reason") "recomputed" = true) (htext : Textual c0)
    (hzero : track.completionTokens = .int n) (hcounted : track.streamFlag = true ∨ Counted d) :
    ∃ client leg', stripOpenaiTokenIdFieldsForClient d track.clientReturnTokenIds = .ok client ∧
      emitChunk codec chunk retryCount enabled track roleSent d =
        .ok (some (if retryCount > 0 && !track.streamFlag then codec.compact (.obj client)
          else encodeStreamChunkBytes codec chunk client), leg') := by
  obtain ⟨content, hcontent⟩ := extractContent_ok htext
  obtain ⟨tokens, htokens⟩ := updateCompletionTokens_ok
    { track with generatedToken := track.generatedToken ++ content } hzero hcounted
  obtain ⟨client, hclient⟩ := h.strip track.clientReturnTokenIds
  refine ⟨client, .mk { track with generatedToken := track.generatedToken ++ content, completionTokens := tokens } roleSent,
    hclient, ?_⟩
  rw [emitChunk, if_pos h.truthy, h.getD]
  simp only [Json.head, Json.asObj, bind, Except.bind, hcontent, htokens, hsignal, hclient]
  by_cases hretried : (retryCount > 0 && !track.streamFlag) = true
  · simp only [hretried, if_true]
    rfl
  · simp only [hretried]
    rfl

/-! ## Frames -/

theorem isPrefixOf_takeWhile {p : UInt8 → Bool} {pat : Bytes} (h : ∀ b ∈ pat, p b = true) (s : Bytes) :
    pat.isPrefixOf (s.takeWhile p) = pat.isPrefixOf s := by
  induction pat generalizing s with
  | nil => rfl
  | cons b pat ih =>
      rw [List.forall_mem_cons] at h
      cases s with
      | nil => rfl
      | cons c s =>
          by_cases hbc : b = c
          · subst hbc
            rw [List.takeWhile_cons_of_pos h.1]
            simp [ih h.2]
          · have hne : (b == c) = false := by simpa using hbc
            rw [List.takeWhile_cons]
            split
            · rw [List.isPrefixOf_cons_cons, List.isPrefixOf_cons_cons, hne, Bool.false_and, Bool.false_and]
            · rw [List.isPrefixOf_cons_cons, hne, Bool.false_and]
              rfl

theorem endsWith_terminator {pat : Bytes} (h : ∀ b ∈ pat, isLineEnd b = true) (chunk : Bytes) :
    Bytes.endsWith pat (terminator chunk) = Bytes.endsWith pat chunk := by
  rw [Bytes.endsWith, Bytes.endsWith, terminator, List.rtakeWhile, List.reverse_reverse]
  exact isPrefixOf_takeWhile (fun b hb => h b (List.mem_reverse.mp hb)) _

theorem lineEnd_terminator (chunk : Bytes) : lineEnd (terminator chunk) = lineEnd chunk := by
  have hcrlfs : ∀ b ∈ ([13, 10, 13, 10] : Bytes), isLineEnd b = true := by simp [isLineEnd]
  have hlfs : ∀ b ∈ ([10, 10] : Bytes), isLineEnd b = true := by simp [isLineEnd]
  have hcrlf : ∀ b ∈ ([13, 10] : Bytes), isLineEnd b = true := by simp [isLineEnd]
  have hlf : ∀ b ∈ ([10] : Bytes), isLineEnd b = true := by simp [isLineEnd]
  simp only [lineEnd, endsWith_terminator hcrlfs, endsWith_terminator hlfs, endsWith_terminator hcrlf,
    endsWith_terminator hlf]

theorem lineEnd_mem (chunk : Bytes) : lineEnd chunk ∈ ([[], [10], [10, 10], [13, 10], [13, 10, 13, 10]] : List Bytes) := by
  unfold lineEnd
  split
  · decide
  · split
    · decide
    · split
      · decide
      · split <;> decide

theorem lineEnd_eq_terminator_iff : lineEnd chunk = terminator chunk ↔ Terminated chunk := by
  constructor
  · intro h
    rw [Terminated, ← h]
    exact lineEnd_mem chunk
  · intro h
    rw [← lineEnd_terminator]
    rw [Terminated] at h
    generalize terminator chunk = ending at h
    revert ending
    decide

theorem encodeStreamChunkBytes_eq (h : Terminated chunk) (client : JsonObj) :
    encodeStreamChunkBytes codec chunk client = framedAs chunk (codec.compact (.obj client)) := by
  rw [encodeStreamChunkBytes, framedAs, hasDataPrefix, lineEnd_eq_terminator_iff.mpr h]
  split
  · rfl
  · rfl

theorem framedAs_bare {payload : Bytes} (hbegin : hasDataPrefix chunk = false) (hend : terminator chunk = []) :
    framedAs chunk payload = payload := by
  rw [framedAs, hbegin, hend]
  simp

theorem JsonCodec.Braced.terminator (hcodec : codec.Braced) (before : Bytes) (d : JsonObj) {ending : Bytes}
    (h : ∀ b ∈ ending, isLineEnd b = true) : terminator (before ++ codec.compact (.obj d) ++ ending) = ending := by
  obtain ⟨inner, hinner⟩ := hcodec d
  rw [hinner, Recompute.terminator, List.rtakeWhile, List.reverse_append, List.takeWhile_append_of_pos]
  · simp [isLineEnd]
  · exact fun b hb => h b (List.mem_reverse.mp hb)

theorem isLineEnd_terminator (chunk : Bytes) : ∀ b ∈ terminator chunk, isLineEnd b = true :=
  fun _ hb => List.mem_rtakeWhile_imp hb

theorem isLineEnd_lineEnd (chunk : Bytes) : ∀ b ∈ lineEnd chunk, isLineEnd b = true := by
  have hmem := lineEnd_mem chunk
  simp only [List.mem_cons, List.not_mem_nil, or_false] at hmem
  rcases hmem with h | h | h | h | h <;> simp [h, isLineEnd]

theorem terminated_of_encode (hcodec : codec.Braced) {client client' : JsonObj}
    (h : encodeStreamChunkBytes codec chunk client = framedAs chunk (codec.compact (.obj client'))) : Terminated chunk := by
  rw [← lineEnd_eq_terminator_iff]
  have hends := congrArg terminator h
  rw [framedAs, hcodec.terminator _ _ (isLineEnd_terminator chunk), encodeStreamChunkBytes] at hends
  split at hends
  · rwa [hcodec.terminator _ _ (isLineEnd_lineEnd chunk)] at hends
  · have hplain := hcodec.terminator [] client (isLineEnd_lineEnd chunk)
    rw [List.nil_append] at hplain
    rwa [hplain] at hends

theorem framedAs_ne (hcodec : codec.Braced) (h : hasDataPrefix chunk = true ∨ terminator chunk ≠ []) (d₁ d₂ : JsonObj) :
    codec.compact (.obj d₁) ≠ framedAs chunk (codec.compact (.obj d₂)) := by
  intro heq
  rcases h with h | h
  · obtain ⟨inner₁, h₁⟩ := hcodec d₁
    rw [h₁, framedAs, if_pos h] at heq
    have hhead := congrArg List.head? heq
    simp [dataPrefixBytes] at hhead
  · have hends := congrArg terminator heq
    have hplain : terminator ([] ++ codec.compact (.obj d₁) ++ []) = [] := hcodec.terminator [] d₁ (by simp)
    rw [List.nil_append, List.append_nil] at hplain
    rw [framedAs, hcodec.terminator _ _ (isLineEnd_terminator chunk), hplain] at hends
    exact h hends.symm

end PyMotor.Recompute
