import PyMotor.Recompute.Adapted
import PyMotor.Recompute.FilterTheorems

/-!
# Adapted choices
-/

namespace PyMotor.Recompute

open Lib

variable {codec : JsonCodec} {entryApi reqId : String} {enabled asked roleSent : Bool} {leg : LegTrack}
  {d c c0 : JsonObj} {cs rest : List JsonObj}

/-! ## From the JSON to the bytes -/

theorem bind_eq_map {α β γ : Type} {x : Except PyException α} {f : α → Except PyException γ}
    {g : α → Except PyException β} {k : β → γ} (h : ∀ a, x = .ok a → f a = (g a).map k) :
    (x >>= f) = (x >>= g).map k := by
  cases x with
  | error e => rfl
  | ok a => exact h a rfl

theorem updateCompletionTokens_streamFlag {track track' : RequestTrack} (h : updateCompletionTokens track d = .ok track') :
    track'.streamFlag = track.streamFlag := by
  rw [updateCompletionTokens] at h
  split at h
  · obtain ⟨tokens, -, h⟩ := bind_eq_ok.mp h
    cases h
    rfl
  · obtain ⟨usage, -, h⟩ := bind_eq_ok.mp h
    split at h
    · obtain ⟨tokens, -, h⟩ := bind_eq_ok.mp h
      cases h
      rfl
    · obtain ⟨tokens, -, h⟩ := bind_eq_ok.mp h
      cases h
      rfl
    · split at h
      · cases h
        rfl
      · cases h
        rfl
      · cases h
    · cases h

theorem processStreamChunk_json {frame : Bytes} (hp : parseStreamChunkJson codec frame = .ok (some (.obj d)))
    (hstream : leg.track.streamFlag = true) (retryCount : Nat) :
    processStreamChunk codec frame leg retryCount entryApi reqId enabled =
      (processChunkJson entryApi reqId enabled d leg).map
        fun r => (r.1.map (encodeStreamChunkBytes codec frame), r.2) := by
  rw [processStreamChunk_eq hp, processChunkJson]
  refine bind_eq_map fun track hcache => bind_eq_map fun adapted _ => ?_
  have htrack := (cacheChunk_fields hcache).1.trans hstream
  rw [emitChunk]
  dsimp only
  split
  · refine bind_eq_map fun first _ => bind_eq_map fun c0 _ => bind_eq_map fun content _ => ?_
    refine bind_eq_map fun counted hcounted => ?_
    split
    · cases enabled with
      | true => exact bind_eq_map fun filled _ => rfl
      | false => rfl
    · refine bind_eq_map fun client _ => ?_
      have hflag := (updateCompletionTokens_streamFlag hcounted).trans htrack
      rw [hflag, Bool.not_true, Bool.and_false]
      rfl
  · exact bind_eq_map fun client _ => rfl

/-- What a leg sends of its frames: a recompute and an error end it. -/
def deliverFrames (codec : JsonCodec) (retryCount : Nat) (entryApi reqId : String) (enabled : Bool) :
    LegTrack → List Bytes → List Bytes
  | _, [] => []
  | leg, frame :: frames =>
    match processStreamChunk codec frame leg retryCount entryApi reqId enabled with
    | .ok (some client, leg) => client :: deliverFrames codec retryCount entryApi reqId enabled leg frames
    | _ => []

theorem processChunkJson_streamFlag {client : JsonObj} {leg' : LegTrack}
    (h : processChunkJson entryApi reqId enabled d leg = .ok (some client, leg')) :
    leg'.track.streamFlag = leg.track.streamFlag := by
  rw [processChunkJson] at h
  obtain ⟨track, hcache, h⟩ := bind_eq_ok.mp h
  obtain ⟨adapted, -, h⟩ := bind_eq_ok.mp h
  have htrack := (cacheChunk_fields hcache).1
  dsimp only at h
  split at h
  · obtain ⟨first, -, h⟩ := bind_eq_ok.mp h
    obtain ⟨c0, -, h⟩ := bind_eq_ok.mp h
    obtain ⟨content, -, h⟩ := bind_eq_ok.mp h
    obtain ⟨counted, hcounted, h⟩ := bind_eq_ok.mp h
    split at h
    · split at h
      · obtain ⟨filled, -, h⟩ := bind_eq_ok.mp h
        cases h
      · cases h
    · obtain ⟨stripped, -, h⟩ := bind_eq_ok.mp h
      cases h
      exact (updateCompletionTokens_streamFlag hcounted).trans htrack
  · obtain ⟨stripped, -, h⟩ := bind_eq_ok.mp h
    cases h
    exact htrack

theorem deliverFrames_eq {frames : List Bytes} {chunks : List JsonObj}
    (hframes : List.Forall₂ (fun frame chunk => parseStreamChunkJson codec frame = .ok (some (.obj chunk))) frames chunks)
    (hstream : leg.track.streamFlag = true) (retryCount : Nat) :
    deliverFrames codec retryCount entryApi reqId enabled leg frames =
      List.zipWith (encodeStreamChunkBytes codec) frames (deliver entryApi reqId enabled leg chunks) := by
  induction hframes generalizing leg with
  | nil => rfl
  | @cons frame chunk frames chunks hframe _ ih =>
      rw [deliverFrames, deliver, processStreamChunk_json hframe hstream]
      rcases hprocess : processChunkJson entryApi reqId enabled chunk leg with e | ⟨_ | client, leg'⟩
      · rfl
      · rfl
      · simp only [Except.map, Option.map_some, List.zipWith_cons_cons]
        rw [ih ((processChunkJson_streamFlag hprocess).trans hstream)]

/-! ## What becomes of the choices -/

def adaptedDelta (roleSent : Bool) (c0 : JsonObj) : JsonObj :=
  if (Json.orElse (c0.get? "text") (.str "")).truthy then
    JsonObj.set (if roleSent then [] else [("role", .str "assistant")]) "content" (Json.orElse (c0.get? "text") (.str ""))
  else if roleSent then [] else [("role", .str "assistant")]

def adaptedChoice (roleSent : Bool) (c0 : JsonObj) : JsonObj :=
  setIfNotNone (setIfNotNone [("index", (c0.get? "index").getD (.int 0)), ("delta", .obj (adaptedDelta roleSent c0))]
    "finish_reason" (c0.get? "finish_reason")) "stop_reason" (c0.get? "stop_reason")

/-- Only the first choice is adapted. -/
def adaptedChoices (roleSent : Bool) : List JsonObj → List JsonObj
  | [] => []
  | c0 :: rest => adaptedChoice roleSent c0 :: rest

def strippedChoice (asked : Bool) (c : JsonObj) : JsonObj :=
  let ch := if asked then c else (JsonObj.pop c "token_ids").pop "prompt_token_ids"
  if Json.eqStr (ch.get? "stop_reason") "recomputed" then ch.set "stop_reason" (.str "stop") else ch

theorem strippedChoice_client (asked : Bool) (c : JsonObj) : ClientChoice asked c (strippedChoice asked c) := by
  obtain ⟨client, heq, hclient⟩ := clientChoice_strip asked c
  cases heq
  exact hclient

theorem filterMap_object (cs : List JsonObj) : (cs.map Json.obj).filterMap object? = cs := by
  induction cs with
  | nil => rfl
  | cons c cs ih =>
      rw [List.map_cons, List.filterMap_cons]
      exact congrArg (c :: ·) ih

theorem choicesOf_of_get? (h : d.get? "choices" = some (.arr (cs.map .obj))) : choicesOf d = cs := by
  rw [choicesOf, h]
  exact filterMap_object cs

theorem stripped_choices (h : d.get? "choices" = some (.arr (cs.map .obj))) (asked : Bool) :
    ∃ client, stripOpenaiTokenIdFieldsForClient d asked = .ok client ∧
      choicesOf client = cs.map (strippedChoice asked) := by
  have hroot := get?_popRoot asked d "choices"
  simp only [String.reduceEq, and_false, if_false] at hroot
  rw [stripOpenaiTokenIdFieldsForClient]
  generalize (if asked then d else d.pop "prompt_token_ids") = root at hroot
  rw [h] at hroot
  cases cs with
  | nil =>
      rw [hroot]
      exact ⟨root, rfl, choicesOf_of_get? hroot⟩
  | cons c0 rest =>
      rw [hroot]
      refine ⟨_, rfl, choicesOf_of_get? ?_⟩
      rw [JsonObj.get?_set_self, ← List.map_cons, List.map_map, List.map_map]
      rfl

theorem TextCompletion.adaptChunk (h : TextCompletion d) (hapi : isChatApi entryApi = true) (hid : reqId ≠ "")
    (roleSent : Bool) : ∃ adapted, adaptChunk entryApi reqId roleSent d = .ok (adapted, roleSent || hasChoices d) ∧
      adapted.get? "choices" = some (.arr ((adaptedChoices roleSent (choicesOf d)).map .obj)) := by
  have hadapts : shouldAdaptCompletionStreamToChat entryApi reqId d = .ok true := by
    rw [shouldAdaptCompletionStreamToChat, hapi, isCompletionLikeStreamChunk, h.object]
    simp [hid, Json.eqStr]
  rw [Recompute.adaptChunk, hadapts, Except.bind, if_pos rfl, adaptCompletionStreamChunkToChat, hasChoices]
  have hget : ((d.set "object" (.str "chat.completion.chunk")).set "id" (.str (chatCompletionId reqId))).get? "choices" =
      some (.arr ((choicesOf d).map .obj)) := by
    rw [JsonObj.get?_set_ne (by decide), JsonObj.get?_set_ne (by decide), h.choices]
  dsimp only
  cases hcs : choicesOf d with
  | nil =>
      rw [hcs] at hget
      rw [hget]
      refine ⟨_, ?_, hget⟩
      rw [List.isEmpty_nil, Bool.not_true, Bool.or_false]
      rfl
  | cons c0 rest =>
      rw [hcs] at hget
      rw [hget, List.isEmpty_cons, Bool.not_false, Bool.or_true]
      exact ⟨_, rfl, JsonObj.get?_set_self _ _ _⟩

/-! ## A chunk -/

/-- The leg streams to the client, and its tokens are counted. -/
structure Streams (asked : Bool) (leg : LegTrack) : Prop where
  streams : leg.track.streamFlag = true
  returns : leg.track.clientReturnTokenIds = asked
  tokens : ∃ n, leg.track.completionTokens = .int n

theorem get?_adaptedChoice (roleSent : Bool) (c0 : JsonObj) :
    (adaptedChoice roleSent c0).get? "delta" = some (.obj (adaptedDelta roleSent c0)) := by
  rw [adaptedChoice, get?_delta_setIfNotNone]
  rfl

theorem textual_adaptedChoice (roleSent : Bool) (c0 : JsonObj) : Textual (adaptedChoice roleSent c0) := by
  obtain ⟨delta, hdelta⟩ := orElse_obj (adaptedDelta roleSent c0)
  refine ⟨delta, by rw [get?_adaptedChoice, hdelta], .inr ⟨[], ?_⟩⟩
  rw [adaptedChoice, get?_message_setIfNotNone]
  rfl

theorem eqStr_adaptedChoice (roleSent : Bool) (c0 : JsonObj) (s : String) :
    Json.eqStr ((adaptedChoice roleSent c0).get? "stop_reason") s = Json.eqStr (c0.get? "stop_reason") s := by
  rw [adaptedChoice, eqStr_setIfNotNone]
  rw [get?_setIfNotNone_ne (by decide)]
  rfl

theorem updateCompletionTokens_stream (track : RequestTrack) {n : Int} (hstream : track.streamFlag = true)
    (htokens : track.completionTokens = .int n) (d : JsonObj) :
    updateCompletionTokens track d = .ok { track with completionTokens := .int (n + 1) } := by
  rw [updateCompletionTokens, if_pos hstream, htokens]
  rfl

theorem TextCompletion.cacheChunk (h : TextCompletion d) (enabled : Bool) (track : RequestTrack) :
    ∃ track', cacheChunk enabled track d = .ok track' := by
  cases hcs : choicesOf d with
  | nil =>
      have hless : Choiceless d := by
        rw [Choiceless, h.choices, hcs]
        rfl
      exact hless.cacheChunk enabled track
  | cons c0 rest =>
      have hchoice : HasChoice d c0 (rest.map .obj) := by
        rw [HasChoice, h.choices, hcs]
        rfl
      exact hchoice.cacheChunk enabled track

theorem Streams.caches {track : RequestTrack} (h : Streams asked leg) (hcache : cacheChunk enabled leg.track d = .ok track)
    (roleSent : Bool) : Streams asked { track := track, roleSent := roleSent } := by
  obtain ⟨hstream, htokens, hreturns⟩ := cacheChunk_fields hcache
  exact ⟨hstream.trans h.streams, hreturns.trans h.returns, htokens ▸ h.tokens⟩

theorem TextCompletion.processChunkJson (h : TextCompletion d) (hask : asksRecompute d = false)
    (hapi : isChatApi entryApi = true) (hid : reqId ≠ "") (hleg : Streams asked leg) (enabled : Bool) :
    ∃ client leg', processChunkJson entryApi reqId enabled d leg = .ok (some client, leg') ∧ Streams asked leg' ∧
      leg'.roleSent = (leg.roleSent || hasChoices d) ∧
      choicesOf client = (adaptedChoices leg.roleSent (choicesOf d)).map (strippedChoice asked) := by
  obtain ⟨track, hcache⟩ := h.cacheChunk enabled leg.track
  obtain ⟨adapted, hadapt, hchoices⟩ := h.adaptChunk hapi hid leg.roleSent
  have htrack := hleg.caches hcache (leg.roleSent || hasChoices d)
  obtain ⟨client, hclient, hshown⟩ := stripped_choices hchoices asked
  rw [Recompute.processChunkJson, hcache]
  simp only [bind, Except.bind, hadapt]
  rw [asksRecompute] at hask
  cases hcs : choicesOf d with
  | nil =>
      rw [hcs] at hchoices hshown
      rw [hchoices]
      refine ⟨client, _, ?_, htrack, rfl, hshown⟩
      simp only [Option.getD_some, adaptedChoices, List.map_nil, Json.truthy, List.isEmpty_nil, Bool.not_true,
        Bool.false_eq_true, if_false]
      rw [htrack.returns, hclient]
      rfl
  | cons c0 rest =>
      rw [hcs] at hchoices hshown hask
      rw [hchoices]
      obtain ⟨content, hcontent⟩ := extractContent_ok (textual_adaptedChoice leg.roleSent c0)
      obtain ⟨n, hn⟩ := htrack.tokens
      simp only [Option.getD_some, adaptedChoices, List.map_cons, Json.truthy, List.isEmpty_cons, Bool.not_false, if_true,
        Json.head, Json.asObj, hcontent, eqStr_adaptedChoice, hask, Bool.false_eq_true, if_false]
      rw [updateCompletionTokens_stream { track with generatedToken := track.generatedToken ++ content } htrack.streams hn
        adapted]
      dsimp only
      rw [htrack.returns, hclient]
      exact ⟨client, _, rfl, ⟨htrack.streams, rfl, n + 1, rfl⟩, rfl, hshown⟩

theorem TextCompletion.not_sent (h : TextCompletion d) (hask : asksRecompute d = true) (hapi : isChatApi entryApi = true)
    (hid : reqId ≠ "") (hleg : Streams asked leg) (enabled : Bool) (client : JsonObj) (leg' : LegTrack) :
    Recompute.processChunkJson entryApi reqId enabled d leg ≠ .ok (some client, leg') := by
  obtain ⟨track, hcache⟩ := h.cacheChunk enabled leg.track
  obtain ⟨adapted, hadapt, hchoices⟩ := h.adaptChunk hapi hid leg.roleSent
  have htrack := hleg.caches hcache (leg.roleSent || hasChoices d)
  rw [Recompute.processChunkJson, hcache]
  simp only [bind, Except.bind, hadapt]
  rw [asksRecompute] at hask
  cases hcs : choicesOf d with
  | nil =>
      rw [hcs] at hask
      cases hask
  | cons c0 rest =>
      rw [hcs] at hchoices hask
      rw [hchoices]
      obtain ⟨content, hcontent⟩ := extractContent_ok (textual_adaptedChoice leg.roleSent c0)
      obtain ⟨n, hn⟩ := htrack.tokens
      simp only [Option.getD_some, adaptedChoices, List.map_cons, Json.truthy, List.isEmpty_cons, Bool.not_false, if_true,
        Json.head, Json.asObj, hcontent, eqStr_adaptedChoice, hask]
      rw [updateCompletionTokens_stream { track with generatedToken := track.generatedToken ++ content } htrack.streams hn
        adapted]
      dsimp only
      cases enabled with
      | false =>
          intro heq
          cases heq
      | true =>
          rw [if_pos rfl]
          intro heq
          cases hfill : fillRecomputeKvFromTokenCache
              { track with generatedToken := track.generatedToken ++ content, completionTokens := .int (n + 1) } with
          | error e =>
              rw [hfill] at heq
              cases heq
          | ok filled =>
              rw [hfill] at heq
              cases heq

/-! ## A leg -/

/-- Chunks and what is sent of them. -/
inductive Sends (asked : Bool) : Bool → List JsonObj → List JsonObj → Prop
  | nil {roleSent : Bool} : Sends asked roleSent [] []
  | cons {roleSent : Bool} {chunk client : JsonObj} {chunks clients : List JsonObj}
      (head : choicesOf client = (adaptedChoices roleSent (choicesOf chunk)).map (strippedChoice asked))
      (tail : Sends asked (roleSent || hasChoices chunk) chunks clients) :
      Sends asked roleSent (chunk :: chunks) (client :: clients)

theorem deliver_signal {signal : Option JsonObj}
    (h : ∀ chunk ∈ signal.toList, TextCompletion chunk ∧ asksRecompute chunk = true)
    (hapi : isChatApi entryApi = true) (hid : reqId ≠ "") (hleg : Streams asked leg) :
    deliver entryApi reqId enabled leg signal.toList = [] := by
  cases signal with
  | none => rfl
  | some chunk =>
      obtain ⟨hcompletion, hask⟩ := h chunk (by simp)
      rw [Option.toList_some, deliver]
      split
      · rename_i client leg' heq
        exact absurd heq (hcompletion.not_sent hask hapi hid hleg enabled client leg')
      · rfl

theorem deliver_sends {shown : List JsonObj} {signal : Option JsonObj}
    (hshown : ∀ chunk ∈ shown, TextCompletion chunk ∧ asksRecompute chunk = false)
    (hsignal : ∀ chunk ∈ signal.toList, TextCompletion chunk ∧ asksRecompute chunk = true)
    (hapi : isChatApi entryApi = true) (hid : reqId ≠ "") (hleg : Streams asked leg) :
    Sends asked leg.roleSent shown (deliver entryApi reqId enabled leg (shown ++ signal.toList)) := by
  induction shown generalizing leg with
  | nil =>
      rw [List.nil_append, deliver_signal hsignal hapi hid hleg]
      exact .nil
  | cons chunk shown ih =>
      rw [List.forall_mem_cons] at hshown
      obtain ⟨⟨hcompletion, hask⟩, htail⟩ := hshown
      obtain ⟨client, leg', hprocess, hleg', hrole, hchoices⟩ := hcompletion.processChunkJson hask hapi hid hleg enabled
      rw [List.cons_append, deliver, hprocess]
      have hrest := ih htail hleg'
      rw [hrole] at hrest
      exact .cons hchoices hrest

theorem CompletionLeg.Valid.sends {leg : CompletionLeg} (h : leg.Valid asked) (hapi : isChatApi entryApi = true)
    (enabled : Bool) : Sends asked false leg.shown (leg.delivered entryApi enabled) := by
  obtain ⟨reqData, hinfo⟩ := h.request
  have hleg : Streams asked { track := leg.track } := ⟨h.streams, h.returns, 0, extractRequestInfo_tokens hinfo⟩
  exact deliver_sends h.shown h.signal hapi h.reqId hleg

/-! ## A choice -/

theorem field_setIfNotNone (c : JsonObj) (key : String) (value : Option Json) (key' : String) (h : c.get? key = none) :
    field (setIfNotNone c key value) key' = if key' = key then value.getD .null else field c key' := by
  have hnone : field c key' = if key' = key then .null else field c key' := by
    split
    · rename_i heq
      rw [heq, field, h]
      rfl
    · rfl
  unfold setIfNotNone
  split
  · exact hnone
  · exact hnone
  · rw [field, JsonObj.get?_set]
    split
    · rfl
    · rfl

theorem field_adaptedChoice (roleSent : Bool) (c0 : JsonObj) (key : String) :
    field (adaptedChoice roleSent c0) key =
      if key = "stop_reason" ∨ key = "finish_reason" then field c0 key
      else if key = "index" then (c0.get? "index").getD (.int 0)
      else if key = "delta" then .obj (adaptedDelta roleSent c0) else .null := by
  rw [adaptedChoice, field_setIfNotNone, field_setIfNotNone]
  · by_cases hstop : key = "stop_reason"
    · simp [hstop, field]
    · by_cases hfinish : key = "finish_reason"
      · simp [hfinish, field]
      · by_cases hindex : key = "index"
        · simp [hindex, field, JsonObj.get?_cons]
        · by_cases hdelta : key = "delta"
          · simp [hdelta, field, JsonObj.get?_cons]
          · simp [hstop, hfinish, hindex, hdelta, field, JsonObj.get?_cons]
  · rfl
  · rw [get?_setIfNotNone_ne (by decide)]
    rfl

theorem field_strippedChoice (asked : Bool) (c : JsonObj) (key : String) (hkey : key ≠ "stop_reason") :
    field (strippedChoice asked c) key =
      if asked = false ∧ (key = "token_ids" ∨ key = "prompt_token_ids") then .null else field c key := by
  rw [field, strippedChoice_client asked c key]
  split
  · rfl
  · rw [if_neg fun h => hkey h.1]
    rfl

theorem field_strippedChoice_stop (asked : Bool) (c : JsonObj) :
    field (strippedChoice asked c) "stop_reason" =
      if Json.eqStr (c.get? "stop_reason") "recomputed" then .str "stop" else field c "stop_reason" := by
  rw [field, strippedChoice_client asked c "stop_reason"]
  simp only [String.reduceEq, or_self, and_false, if_false, true_and]
  split
  · rfl
  · rfl

theorem get?_delta_stripped (asked : Bool) (c : JsonObj) : (strippedChoice asked c).get? "delta" = c.get? "delta" := by
  rw [strippedChoice_client asked c "delta"]
  simp

theorem deltaContent_further (h : CompletionChoice c) : deltaContent (strippedChoice asked c) = [] := by
  rw [deltaContent, get?_delta_stripped, h.delta]

theorem hasRole_further (h : CompletionChoice c) : hasRole (strippedChoice asked c) = false := by
  rw [hasRole, get?_delta_stripped, h.delta]

theorem deltaContent_first (h : CompletionChoice c0) :
    deltaContent (strippedChoice asked (adaptedChoice roleSent c0)) = choiceText c0 := by
  obtain ⟨text, htext⟩ := h.text
  rw [deltaContent, get?_delta_stripped, get?_adaptedChoice]
  dsimp only
  rw [adaptedDelta, choiceText, htext, Json.orElse]
  by_cases hempty : text = ""
  · subst hempty
    cases roleSent with
    | true => rfl
    | false => rfl
  · have htruthy : (Json.str text).truthy = true := by simpa [Json.truthy] using hempty
    rw [if_pos htruthy, if_pos htruthy, JsonObj.get?_set_self]

theorem hasRole_first (roleSent : Bool) (c0 : JsonObj) :
    hasRole (strippedChoice asked (adaptedChoice roleSent c0)) = !roleSent := by
  rw [hasRole, get?_delta_stripped, get?_adaptedChoice]
  dsimp only
  rw [adaptedDelta]
  split
  · rw [JsonObj.get?_set_ne (by decide)]
    cases roleSent with
    | true => rfl
    | false => rfl
  · cases roleSent with
    | true => rfl
    | false => rfl

theorem keeps_further (asked : Bool) (c : JsonObj) :
    KeepsChoice asked c (strippedChoice asked c) ↔ Json.eqStr (c.get? "stop_reason") "recomputed" = false := by
  constructor
  · intro h
    have hstop := h.fields "stop_reason" (by simp)
    rw [field_strippedChoice_stop] at hstop
    cases hrecomputed : Json.eqStr (c.get? "stop_reason") "recomputed" with
    | false => rfl
    | true =>
        rw [if_pos hrecomputed, field, eqStr_iff.mp hrecomputed] at hstop
        simp at hstop
  · intro h
    refine ⟨fun key hkey => ?_, fun hasked => ?_⟩
    · simp only [List.mem_cons, List.not_mem_nil, or_false] at hkey
      rcases hkey with rfl | rfl | rfl
      · rw [field_strippedChoice _ _ _ (by decide)]
        simp
      · rw [field_strippedChoice _ _ _ (by decide)]
        simp
      · rw [field_strippedChoice_stop, h, if_neg Bool.false_ne_true]
    · rw [field_strippedChoice _ _ _ (by decide), hasked]
      simp

theorem keeps_first (h : CompletionChoice c0) (hask : Json.eqStr (c0.get? "stop_reason") "recomputed" = false)
    (roleSent : Bool) : KeepsChoice asked c0 (strippedChoice asked (adaptedChoice roleSent c0)) ↔
      (asked = true → field c0 "token_ids" = .null) := by
  have hids : asked = true → field (strippedChoice asked (adaptedChoice roleSent c0)) "token_ids" = .null := by
    intro hasked
    rw [field_strippedChoice _ _ _ (by decide), hasked, field_adaptedChoice]
    simp
  constructor
  · intro hkeeps hasked
    rw [← hkeeps.tokenIds hasked, hids hasked]
  · intro htoken
    refine ⟨fun key hkey => ?_, fun hasked => (hids hasked).trans (htoken hasked).symm⟩
    simp only [List.mem_cons, List.not_mem_nil, or_false] at hkey
    rcases hkey with rfl | rfl | rfl
    · obtain ⟨i, hi⟩ := h.index
      rw [field_strippedChoice _ _ _ (by decide), field_adaptedChoice, field, hi]
      simp
    · rw [field_strippedChoice _ _ _ (by decide), field_adaptedChoice]
      simp
    · rw [field_strippedChoice_stop, eqStr_adaptedChoice, hask, if_neg Bool.false_ne_true, field_adaptedChoice]
      simp

/-! ## The choices of a chunk -/

/-- What the adapter keeps of the chunk's choices. -/
def KeepsChunk (asked : Bool) (chunk client : JsonObj) : Prop :=
  List.Forall₂ (KeepsChoice asked) (choicesOf chunk) (choicesOf client)

def headText (chunk : JsonObj) : List Char := ((choicesOf chunk).head?.map choiceText).getD []

theorem forall₂_map_right {α β : Type} {R : α → β → Prop} {f : α → β} {l : List α} :
    List.Forall₂ R l (l.map f) ↔ ∀ a ∈ l, R a (f a) := by
  rw [List.forall₂_map_right_iff, List.forall₂_same]

theorem keepsChunk_iff {client : JsonObj} (h : TextCompletion d) (hask : asksRecompute d = false)
    (hclient : choicesOf client = (adaptedChoices roleSent (choicesOf d)).map (strippedChoice asked)) :
    KeepsChunk asked d client ↔ (∀ c ∈ (choicesOf d).tail, Json.eqStr (c.get? "stop_reason") "recomputed" = false) ∧
      (asked = true → ∀ c ∈ (choicesOf d).head?, field c "token_ids" = .null) := by
  rw [KeepsChunk, hclient]
  rw [asksRecompute] at hask
  have hchoice := h.choice
  cases hcs : choicesOf d with
  | nil => simp [adaptedChoices]
  | cons c0 rest =>
      rw [hcs] at hask hchoice
      rw [adaptedChoices, List.map_cons, List.forall₂_cons, keeps_first (hchoice c0 List.mem_cons_self) hask,
        forall₂_map_right, List.tail_cons, List.head?_cons]
      simp only [keeps_further, Option.mem_def, Option.some.injEq, forall_eq']
      exact and_comm

theorem chatContent_client {client : JsonObj} (h : TextCompletion d)
    (hclient : choicesOf client = (adaptedChoices roleSent (choicesOf d)).map (strippedChoice asked)) :
    chatContent client = headText d := by
  rw [chatContent, hclient, headText]
  have hchoice := h.choice
  cases hcs : choicesOf d with
  | nil => rfl
  | cons c0 rest =>
      rw [hcs, List.forall_mem_cons] at hchoice
      rw [adaptedChoices, List.map_cons, List.flatMap_cons, deltaContent_first hchoice.1, List.flatMap_map]
      have hrest : rest.flatMap (fun c => deltaContent (strippedChoice asked c)) = [] :=
        List.flatMap_eq_nil_iff.mpr fun c hc => deltaContent_further (hchoice.2 c hc)
      rw [hrest, List.append_nil]
      rfl

theorem headText_sublist (d : JsonObj) : (headText d).Sublist (completionText d) := by
  rw [headText, completionText]
  cases choicesOf d with
  | nil => exact List.Sublist.refl _
  | cons c0 rest => exact List.sublist_append_left _ _

theorem headText_eq_iff (d : JsonObj) : headText d = completionText d ↔ ∀ c ∈ (choicesOf d).tail, choiceText c = [] := by
  rw [headText, completionText]
  cases choicesOf d with
  | nil => simp
  | cons c0 rest => simp [List.flatMap_eq_nil_iff]

theorem hasChoices_client {client : JsonObj}
    (hclient : choicesOf client = (adaptedChoices roleSent (choicesOf d)).map (strippedChoice asked)) :
    hasChoices client = hasChoices d := by
  rw [hasChoices, hasChoices, hclient]
  cases choicesOf d with
  | nil => rfl
  | cons c0 rest => rfl

theorem roles_client {client : JsonObj} (h : TextCompletion d)
    (hclient : choicesOf client = (adaptedChoices roleSent (choicesOf d)).map (strippedChoice asked)) :
    roles client = if roleSent = false ∧ hasChoices d = true then 1 else 0 := by
  rw [roles, hclient, hasChoices]
  have hchoice := h.choice
  cases hcs : choicesOf d with
  | nil => simp [adaptedChoices]
  | cons c0 rest =>
      rw [hcs, List.forall_mem_cons] at hchoice
      have hrest : (rest.map (strippedChoice asked)).countP hasRole = 0 := by
        rw [List.countP_eq_zero]
        intro c hc
        obtain ⟨c', hc', rfl⟩ := List.mem_map.mp hc
        rw [hasRole_further (hchoice.2 c' hc')]
        exact Bool.false_ne_true
      rw [adaptedChoices, List.map_cons, List.countP_cons, hrest, hasRole_first]
      cases roleSent with
      | true => rfl
      | false => rfl

/-! ## The chunks of a leg -/

section

variable {shown clients : List JsonObj}

theorem Sends.keeps (h : Sends asked roleSent shown clients)
    (hshown : ∀ chunk ∈ shown, TextCompletion chunk ∧ asksRecompute chunk = false) :
    List.Forall₂ (KeepsChunk asked) shown clients ↔ ∀ chunk ∈ shown,
      (∀ c ∈ (choicesOf chunk).tail, Json.eqStr (c.get? "stop_reason") "recomputed" = false) ∧
        (asked = true → ∀ c ∈ (choicesOf chunk).head?, field c "token_ids" = .null) := by
  induction h with
  | nil => simp
  | cons head tail ih =>
      rw [List.forall_mem_cons] at hshown
      rw [List.forall₂_cons, keepsChunk_iff hshown.1.1 hshown.1.2 head, ih hshown.2, List.forall_mem_cons]

theorem Sends.length (h : Sends asked roleSent shown clients) : shown.length = clients.length := by
  induction h with
  | nil => rfl
  | cons head tail ih => rw [List.length_cons, List.length_cons, ih]

theorem Sends.content (h : Sends asked roleSent shown clients) (hshown : ∀ chunk ∈ shown, TextCompletion chunk) :
    clients.flatMap chatContent = shown.flatMap headText := by
  induction h with
  | nil => rfl
  | cons head tail ih =>
      rw [List.forall_mem_cons] at hshown
      rw [List.flatMap_cons, List.flatMap_cons, chatContent_client hshown.1 head, ih hshown.2]

/-- After the role, nothing names it again. -/
theorem Sends.roles_zero (h : Sends asked true shown clients) (hshown : ∀ chunk ∈ shown, TextCompletion chunk) :
    ∀ client ∈ clients, roles client = 0 := by
  generalize hsent : true = roleSent at h
  induction h with
  | nil => simp
  | cons head tail ih =>
      subst hsent
      rw [List.forall_mem_cons] at hshown ⊢
      refine ⟨?_, ih hshown.2 (by simp)⟩
      rw [roles_client hshown.1 head]
      simp

/-- The clients' chunks with choices: the first names the role. -/
structure OneRole (clients : List JsonObj) : Prop where
  role : ∀ first rest, clients = first :: rest → roles first = 1 ∧ ∀ client ∈ rest, roles client = 0

theorem Sends.oneRole (h : Sends asked false shown clients) (hshown : ∀ chunk ∈ shown, TextCompletion chunk) :
    OneRole (clients.filter hasChoices) ∧ ((clients.filter hasChoices).isEmpty = !shown.any hasChoices) := by
  generalize hsent : false = roleSent at h
  induction h with
  | nil => exact ⟨⟨fun first rest heq => by cases heq⟩, rfl⟩
  | @cons roleSent chunk client chunks clients head tail ih =>
      subst hsent
      rw [List.forall_mem_cons] at hshown
      have hclient := hasChoices_client head
      have hroles := roles_client hshown.1 head
      cases hchoices : hasChoices chunk with
      | true =>
          rw [hchoices] at hclient hroles tail
          rw [List.filter_cons_of_pos hclient, List.any_cons, hchoices]
          refine ⟨⟨fun first rest heq => ?_⟩, rfl⟩
          cases heq
          refine ⟨hroles, fun other hother => ?_⟩
          exact tail.roles_zero hshown.2 other (List.mem_of_mem_filter hother)
      | false =>
          rw [hchoices] at hclient
          rw [List.filter_cons_of_neg (by simp [hclient]), List.any_cons, hchoices, Bool.false_or]
          exact ih hshown.2 (by simp [hchoices])

end

/-! ## Bodies -/

section

variable {body : JsonObj}

def messageChoice (c0 : JsonObj) : JsonObj :=
  setIfNotNone (setIfNotNone (setIfNotNone [("index", .int 0),
    ("message", .obj [("role", .str "assistant"), ("content", Json.orElse (c0.get? "text") (.str ""))])]
    "finish_reason" (c0.get? "finish_reason")) "stop_reason" (c0.get? "stop_reason")) "token_ids" (c0.get? "token_ids")

def messageChoices : List JsonObj → List JsonObj
  | [] => []
  | c0 :: rest => messageChoice c0 :: rest

theorem field_messageChoice (c0 : JsonObj) (key : String) (hkey : key ≠ "message") :
    field (messageChoice c0) key =
      if key = "stop_reason" ∨ key = "finish_reason" ∨ key = "token_ids" then field c0 key
      else if key = "index" then .int 0 else .null := by
  rw [messageChoice, field_setIfNotNone, field_setIfNotNone, field_setIfNotNone]
  · by_cases hids : key = "token_ids"
    · simp [hids, field]
    · by_cases hstop : key = "stop_reason"
      · simp [hstop, field]
      · by_cases hfinish : key = "finish_reason"
        · simp [hfinish, field]
        · by_cases hindex : key = "index"
          · simp [hindex, field, JsonObj.get?_cons]
          · simp [hids, hstop, hfinish, hindex, hkey, field, JsonObj.get?_cons]
  · rfl
  · rw [get?_setIfNotNone_ne (by decide)]
    rfl
  · rw [get?_setIfNotNone_ne (by decide), get?_setIfNotNone_ne (by decide)]
    rfl

theorem messageContent_first (h : CompletionChoice c0) : messageContent (messageChoice c0) = some (choiceText c0) := by
  obtain ⟨text, htext⟩ := h.text
  rw [messageContent, messageChoice, get?_setIfNotNone_ne (by decide), get?_message_setIfNotNone, choiceText, htext]
  have horElse : Json.orElse (some (.str text)) (.str "") = .str text := by
    rw [Json.orElse]
    split
    · rfl
    · rename_i hfalsy
      rw [Json.truthy, decide_eq_true_eq, not_not] at hfalsy
      rw [hfalsy]
  rw [horElse]
  rfl

theorem TextCompletion.adaptBody (h : TextCompletion body) (reqId : String) (roleSent : Bool) :
    ∃ adapted streamed roleSent', adaptCompletionNonstreamToChat body reqId = .ok adapted ∧
      adaptCompletionStreamChunkToChat body reqId roleSent = .ok (streamed, roleSent') ∧
      choicesOf adapted = messageChoices (choicesOf body) ∧
      choicesOf streamed = adaptedChoices roleSent (choicesOf body) := by
  have hget : ∀ object : String, ((body.set "object" (.str object)).set "id" (.str (chatCompletionId reqId))).get? "choices" =
      some (.arr ((choicesOf body).map .obj)) := by
    intro object
    rw [JsonObj.get?_set_ne (by decide), JsonObj.get?_set_ne (by decide), h.choices]
  rw [adaptCompletionNonstreamToChat, adaptCompletionStreamChunkToChat]
  dsimp only
  rw [hget, hget]
  cases hcs : choicesOf body with
  | nil =>
      rw [hcs] at hget
      exact ⟨_, _, _, rfl, rfl, choicesOf_of_get? (hget _), choicesOf_of_get? (hget _)⟩
  | cons c0 rest =>
      exact ⟨_, _, _, rfl, rfl, choicesOf_of_get? (JsonObj.get?_set_self _ _ _),
        choicesOf_of_get? (JsonObj.get?_set_self _ _ _)⟩

/-- The two adapters agree on the first choice but for its index and its ids. -/
theorem sameFields_iff (h : CompletionChoice c0) (roleSent : Bool) :
    (∀ key, key ≠ "delta" → key ≠ "message" → field (adaptedChoice roleSent c0) key = field (messageChoice c0) key) ↔
      field c0 "index" = .int 0 ∧ field c0 "token_ids" = .null := by
  obtain ⟨i, hi⟩ := h.index
  constructor
  · intro hsame
    have hindex := hsame "index" (by decide) (by decide)
    have hids := hsame "token_ids" (by decide) (by decide)
    rw [field_adaptedChoice, field_messageChoice _ _ (by decide)] at hindex hids
    simp only [String.reduceEq, or_self, or_true, if_true, if_false] at hindex hids
    rw [field, hi]
    rw [hi] at hindex
    exact ⟨hindex, hids.symm⟩
  · rintro ⟨hindex, hids⟩ key hdelta hmessage
    rw [field, hi] at hindex
    rw [field_adaptedChoice, field_messageChoice _ _ hmessage]
    by_cases htoken : key = "token_ids"
    · simp [htoken, hids]
    · by_cases hkey : key = "index"
      · simp only [hkey, hi]
        simpa using hindex
      · simp [htoken, hkey, hdelta]

theorem bodyPreserves_iff (h : TextCompletion body) (reqId : String) (roleSent : Bool) :
    BodyPreserves reqId roleSent body ↔ BodyPreservable body := by
  obtain ⟨adapted, streamed, roleSent', hadapted, hstreamed, hmessage, hdelta⟩ := h.adaptBody reqId roleSent
  have hchoice := h.choice
  have hkept : BodyPreserves reqId roleSent body ↔ BodyKept body adapted streamed := by
    rw [BodyPreserves, hadapted, hstreamed]
    constructor
    · rintro ⟨_, _, _, hadapted', hstreamed', hkept⟩
      cases hadapted'
      cases hstreamed'
      exact hkept
    · exact fun hkept => ⟨_, _, _, rfl, rfl, hkept⟩
  rw [hkept]
  cases hcs : choicesOf body with
  | nil =>
      rw [hcs] at hmessage hdelta
      refine ⟨fun _ => ⟨by simp [hcs], by simp [hcs]⟩, fun _ => ⟨?_, ?_⟩⟩
      · rw [hcs, hmessage]
        exact .nil
      · rw [hdelta, hmessage]
        exact .nil
  | cons c0 rest =>
      rw [hcs, List.forall_mem_cons] at hchoice
      rw [hcs] at hmessage hdelta
      have hfields := sameFields_iff hchoice.1 roleSent
      constructor
      · intro hkept
        have hcontent := hkept.message
        have hsame := hkept.fields
        rw [hcs, hmessage, messageChoices, List.forall₂_cons] at hcontent
        rw [hdelta, hmessage, adaptedChoices, messageChoices, List.forall₂_cons] at hsame
        cases rest with
        | nil =>
            refine ⟨by simp [hcs], fun c hc => ?_⟩
            rw [hcs, List.mem_singleton] at hc
            rw [hc]
            exact hfields.mp hsame.1
        | cons c rest =>
            have hfurther := (List.forall₂_cons.mp hcontent.2).1
            rw [messageContent, (hchoice.2 c List.mem_cons_self).message] at hfurther
            cases hfurther
      · intro hsingle
        have hrest : rest = [] := by
          have hlength := hsingle.single
          rw [hcs, List.length_cons] at hlength
          exact List.length_eq_zero_iff.mp (by omega)
        subst hrest
        refine ⟨?_, ?_⟩
        · rw [hcs, hmessage]
          exact .cons (messageContent_first hchoice.1) .nil
        · rw [hdelta, hmessage]
          exact .cons (hfields.mpr (hsingle.fields c0 (by simp [hcs]))) .nil

end

end PyMotor.Recompute
