import PyMotor.Recompute.FilterTheorems
import PyMotor.Recompute.Lemmas.Nonstream
import PyMotor.Recompute.Theorems
import PyMotor.Router.Transparency

/-!
# The tokens of a leg
-/

namespace PyMotor.Recompute

open Lib

variable {codec : JsonCodec} {frame : Bytes} {track₀ : RequestTrack} {leg : LegTrack} {d : JsonObj} {chunks : List JsonObj}
  {entryApi reqId : String} {retryCount : Nat}

/-- The track after some chunks of a streaming request. -/
structure Tracked (track₀ : RequestTrack) (chunks : List JsonObj) (track : RequestTrack) : Prop where
  streams : track.streamFlag = true
  chat : track.chatFlag = track₀.chatFlag
  returns : track.clientReturnTokenIds = track₀.clientReturnTokenIds
  origin : track.originMaxTokens = track₀.originMaxTokens
  tokens : ∃ n, track.completionTokens = .int n
  allowed : track.recomputeBlockedByPolicy = false
  prompt : track.cachedPromptTokenIds = legPromptIds chunks
  output : track.cachedOutputTokenIds = legOutput chunks

theorem legPromptIds_append (chunks : List JsonObj) (d : JsonObj) :
    legPromptIds (chunks ++ [d]) = (legPromptIds chunks).or (chunkPromptIds d) := by
  rw [legPromptIds, legPromptIds, List.findSome?_append]
  cases hd : chunkPromptIds d <;> simp [List.findSome?, hd]

theorem legOutput_append (chunks : List JsonObj) (d : JsonObj) :
    legOutput (chunks ++ [d]) = legOutput chunks ++ chunkTokenIds d := by
  rw [legOutput, legOutput, List.flatMap_append, List.flatMap_singleton]

theorem Tracked.cached (h : Tracked track₀ chunks leg.track) {track : RequestTrack}
    (hcache : cacheChunk true leg.track d = .ok track) : Tracked track₀ (chunks ++ [d]) track := by
  rw [updateTokenIdCache_ok hcache]
  exact ⟨h.streams, h.chat, h.returns, h.origin, h.tokens, h.allowed, by rw [legPromptIds_append, h.prompt],
    by rw [legOutput_append, h.output]⟩

/-- The track after a chunk whose text is read. -/
def counted (track : RequestTrack) (text : String) (n : Int) : RequestTrack :=
  { track with generatedToken := track.generatedToken ++ text, completionTokens := .int n }

theorem Tracked.counted {track : RequestTrack} (h : Tracked track₀ chunks track) (text : String) (n : Int) :
    Tracked track₀ chunks (counted track text n) :=
  ⟨h.streams, h.chat, h.returns, h.origin, ⟨n, rfl⟩, h.allowed, h.prompt, h.output⟩

theorem chatChoice_adapted {c0 : JsonObj} {rest : List Json} (h : HasChoice d c0 rest) {roleSent roleSent' : Bool}
    {adapted : JsonObj} (hadapt : adaptCompletionStreamChunkToChat d reqId roleSent = .ok (adapted, roleSent')) :
    ∃ c, adapted.get? "choices" = some (.arr (.obj c :: rest)) ∧ ChatChoice c0 c := by
  have hset := (h.set (k := "object") (by decide) (.str "chat.completion.chunk")).set (k := "id") (by decide)
    (.str (chatCompletionId reqId))
  unfold adaptCompletionStreamChunkToChat at hadapt
  dsimp only at hadapt
  rw [hset.orElse] at hadapt
  cases hadapt
  refine ⟨_, JsonObj.get?_set_self _ _ _, ⟨_, get?_delta_setIfNotNone _ _ _, ?_⟩, ?_⟩
  · have hrole : JsonObj.get? (if roleSent then [] else [("role", Json.str "assistant")]) "content" = none := by
      cases roleSent <;> rfl
    cases htext : c0.get? "text" with
    | none => simpa [Json.orElse, Json.truthy] using hrole
    | some v =>
        cases hv : v.truthy with
        | false =>
            rw [Json.orElse, hv, if_neg Bool.false_ne_true, Option.getD_some, hv, if_neg Bool.false_ne_true]
            exact hrole
        | true => simp [Json.orElse, hv, JsonObj.get?_set_self]
  · rw [get?_setIfNotNone_ne (by decide)]
    exact getD_setIfNotNone rfl _

/-- What is sent of a chunk with one choice has its ids as they were asked for, or its text. -/
theorem clientBatch_of_strip {c0 client adapted : JsonObj} {asked roleSent roleSent' : Bool}
    (hchoices : d.get? "choices" = some (.arr [.obj c0]))
    (hadapt : adaptChunk entryApi reqId roleSent d = .ok (adapted, roleSent'))
    (hclient : stripOpenaiTokenIdFieldsForClient adapted asked = .ok client) : ClientBatch asked d client := by
  have hjson := clientJson_of_strip hclient
  obtain ⟨adapts, -, hadapt⟩ := bind_eq_ok.mp hadapt
  cases adapts with
  | false =>
      cases hadapt
      exact .same hjson
  | true =>
      obtain ⟨c, hget, ⟨delta, hdelta, hcontent⟩, hfinish⟩ := chatChoice_adapted hchoices hadapt
      rcases hjson.choices with ⟨items, items', hitems, hsent, hall⟩ | ⟨hnone, -⟩
      · rw [hget] at hitems
        cases hitems
        cases hall with
        | cons hitem hrest =>
            cases hrest
            cases hitem with
            | choice hc =>
                refine .chat hchoices hsent ⟨⟨delta, ?_, hcontent⟩, ?_⟩
                · rw [hc]
                  simpa using hdelta
                · rw [hc]
                  simpa using hfinish
            | other hno => exact absurd rfl (hno c)
      · exact absurd hget (hnone _)

theorem suffix_lineEnd {blank : Bytes} (h : Router.Delimiter blank) (hends : blank <:+ frame) : blank <:+ lineEnd frame := by
  have hcases : ∀ pat : Bytes, pat <:+ frame → Bytes.endsWith pat frame = true := by
    intro pat hpat
    rw [Bytes.endsWith, List.isPrefixOf_iff_prefix, List.reverse_prefix]
    exact hpat
  have hends' := hcases blank hends
  unfold lineEnd
  rcases h with rfl | rfl
  · split
    · rename_i hcrlf
      rw [Bytes.endsWith, List.isPrefixOf_iff_prefix, List.reverse_prefix] at hcrlf
      exact absurd (List.suffix_of_suffix_length_le hends hcrlf (by decide)) (by decide)
    · exact List.suffix_rfl
  · rw [if_pos hends']

theorem clientBytes_encode {client : JsonObj} {asked : Bool} (hp : parseStreamChunkJson codec frame = .ok (some (.obj d)))
    (h : ClientBatch asked d client) : ClientBytes codec asked frame (encodeStreamChunkBytes codec frame client) := by
  have hframe : encodeStreamChunkBytes codec frame client =
      (if hasDataPrefix frame then dataPrefixBytes else []) ++ codec.compact (.obj client) ++ lineEnd frame := by
    rw [encodeStreamChunkBytes, hasDataPrefix]
    split
    · rfl
    · rfl
  rw [hframe]
  exact .batch hp h (isLineEnd_lineEnd frame) fun blank hblank hends => suffix_lineEnd hblank hends

theorem encodeStreamChunkBytes_ne_nil (hcodec : codec.Braced) (frame : Bytes) (client : JsonObj) :
    encodeStreamChunkBytes codec frame client ≠ [] := by
  obtain ⟨inner, hinner⟩ := hcodec client
  rw [encodeStreamChunkBytes, hinner]
  split
  · simp
  · simp

section

variable (retryCount)

theorem HasChoice.emitChunk_streaming {c0 : JsonObj} {rest : List Json} {track : RequestTrack} {n : Int} (codec : JsonCodec)
    (frame : Bytes) (roleSent : Bool) (h : HasChoice d c0 rest) (htext : Textual c0) (hstream : track.streamFlag = true)
    (hn : track.completionTokens = .int n) : ∃ text, emitChunk codec frame retryCount true track roleSent d =
      if Json.eqStr (c0.get? "stop_reason") "recomputed" = true then
        (fillRecomputeKvFromTokenCache (Recompute.counted track text (n + 1))).map fun filled => (none, .mk filled roleSent)
      else (stripOpenaiTokenIdFieldsForClient d track.clientReturnTokenIds).map fun client =>
        (some (encodeStreamChunkBytes codec frame client), .mk (Recompute.counted track text (n + 1)) roleSent) := by
  obtain ⟨text, hcontent⟩ := extractContent_ok htext
  have htokens : updateCompletionTokens { track with generatedToken := track.generatedToken ++ text } d =
      .ok (Recompute.counted track text (n + 1)) := by
    rw [updateCompletionTokens, if_pos hstream, hn]
    rfl
  have hframed : ¬ (decide (retryCount > 0) && !(Recompute.counted track text (n + 1)).streamFlag) = true := by
    rw [show (Recompute.counted track text (n + 1)).streamFlag = true from hstream, Bool.not_true, Bool.and_false]
    exact Bool.false_ne_true
  refine ⟨text, ?_⟩
  rw [emitChunk, if_pos h.truthy, h.getD]
  simp only [Json.head, Json.asObj, bind, Except.bind, hcontent, htokens, hframed, if_true]
  split
  · rfl
  · rfl

variable (entryApi reqId)

theorem Tracked.process (h : Tracked track₀ chunks leg.track)
    (hp : parseStreamChunkJson codec frame = .ok (some (.obj d))) {recomputed : Bool} (hd : OneChoice recomputed d) :
    ∃ track adapted roleSent c0 rest, Tracked track₀ (chunks ++ [d]) track ∧ HasChoice adapted c0 rest ∧
      adaptChunk entryApi reqId leg.roleSent d = .ok (adapted, roleSent) ∧
      processStreamChunk codec frame leg retryCount entryApi reqId true =
        if recomputed = true then (fillRecomputeKvFromTokenCache track).map fun filled => (none, .mk filled roleSent)
        else (stripOpenaiTokenIdFieldsForClient adapted track.clientReturnTokenIds).map fun client =>
          (some (encodeStreamChunkBytes codec frame client), .mk track roleSent) := by
  obtain ⟨c0, hchoices, htext, hstop⟩ := hd
  have hc : HasChoice d c0 [] := hchoices
  obtain ⟨track, hcache⟩ := hc.cacheChunk true leg.track
  have htracked := h.cached hcache
  obtain ⟨adapted, roleSent, c0', hadapt, hchoice⟩ := hc.adaptChunk entryApi reqId leg.roleSent
  obtain ⟨n, hn⟩ := htracked.tokens
  obtain ⟨text, hemit⟩ := hchoice.choice.emitChunk_streaming retryCount codec frame
    roleSent (shaped_text hchoice (.inr htext)) htracked.streams hn
  refine ⟨Recompute.counted track text (n + 1), adapted, roleSent, c0', [], htracked.counted _ _, hchoice.choice, hadapt, ?_⟩
  rw [processStreamChunk_eq hp, hcache, Except.bind, hadapt, Except.bind, hemit, hchoice.stopReason, hstop]
  rfl

theorem Tracked.batch (h : Tracked track₀ chunks leg.track) (hp : parseStreamChunkJson codec frame = .ok (some (.obj d)))
    (hd : OneChoice false d) : ∃ client leg', Tracked track₀ (chunks ++ [d]) leg'.track ∧
      ClientBytes codec track₀.clientReturnTokenIds frame (encodeStreamChunkBytes codec frame client) ∧
      processStreamChunk codec frame leg retryCount entryApi reqId true =
        .ok (some (encodeStreamChunkBytes codec frame client), leg') := by
  obtain ⟨track, adapted, roleSent, c0, rest, htracked, hchoice, hadapt, hprocess⟩ :=
    h.process entryApi reqId retryCount hp hd
  obtain ⟨client, hclient⟩ := hchoice.strip track.clientReturnTokenIds
  rw [if_neg Bool.false_ne_true, hclient] at hprocess
  rw [htracked.returns] at hclient
  obtain ⟨c, hchoices, -⟩ := hd
  exact ⟨client, _, htracked, clientBytes_encode hp (clientBatch_of_strip hchoices hadapt hclient), hprocess⟩

theorem Tracked.signal (h : Tracked track₀ chunks leg.track) (hp : parseStreamChunkJson codec frame = .ok (some (.obj d)))
    (hd : OneChoice true d) {ids : List Json} (hids : legPromptIds (chunks ++ [d]) = some ids) (hne : ids ≠ []) :
    ∃ leg', leg'.track.recomputeBlockedByPolicy = false ∧ leg'.track.chatFlag = track₀.chatFlag ∧
      leg'.track.originMaxTokens = track₀.originMaxTokens ∧
      leg'.track.recomputeKvTransfer = some (ids ++ legOutput (chunks ++ [d]), ids) ∧
      processStreamChunk codec frame leg retryCount entryApi reqId true = .ok (none, leg') := by
  obtain ⟨track, adapted, roleSent, c0, rest, htracked, hchoice, -, hprocess⟩ := h.process entryApi reqId retryCount hp hd
  have hprompt := htracked.prompt.trans hids
  cases ids with
  | nil => exact absurd rfl hne
  | cons x ids =>
      rw [if_pos rfl, fillRecomputeKvFromTokenCache, hprompt] at hprocess
      dsimp only [Except.map] at hprocess
      rw [htracked.output] at hprocess
      exact ⟨_, htracked.allowed, htracked.chat, htracked.origin, rfl, hprocess⟩

theorem Tracked.refused (h : Tracked track₀ chunks leg.track) (hp : parseStreamChunkJson codec frame = .ok (some (.obj d)))
    (hd : OneChoice true d) (hids : legPromptIds (chunks ++ [d]) = some []) : ∃ status detail,
    processStreamChunk codec frame leg retryCount entryApi reqId true = .error (.httpException status detail) := by
  obtain ⟨track, adapted, roleSent, c0, rest, htracked, hchoice, -, hprocess⟩ := h.process entryApi reqId retryCount hp hd
  rw [if_pos rfl, fillRecomputeKvFromTokenCache, htracked.prompt, hids] at hprocess
  exact ⟨_, _, hprocess⟩

end

variable {engine : Engine} {maxTokens resumes : Nat} {asked : Bool} {prompt given : List Int} {reqData sent : JsonObj}

def legTokens (maxTokens resumes : Nat) (given : List Int) : Nat :=
  if resumes = 0 then maxTokens else max 1 (maxTokens + 1 - given.length)

/-- A request that goes on after `given`. -/
structure Resumable (engine : Engine) (maxTokens : Nat) (asked : Bool) (prompt : List Int) (resumes : Nat) (given : List Int)
    (reqData : JsonObj) : Prop where
  eligible : Eligible reqData
  streams : ((reqData.get? "stream").getD (.bool false)).truthy = true
  returns : asksTokenIds reqData = asked
  prompt : engine.promptIds (copyReqDataForEngine reqData) = prompt ++ given
  stored : storedCumulative reqData = given.length
  origin : originMaxTokens reqData = .int maxTokens
  asked : askedTokens (copyReqDataForEngine reqData) = legTokens maxTokens resumes given

theorem DecodeEdit.copy (h : DecodeEdit reqData sent) :
    DecodeEdit (copyReqDataForEngine reqData) (copyReqDataForEngine sent) := by
  intro k hkv hreturn
  rw [get?_copyReqDataForEngine, get?_copyReqDataForEngine, h k hkv hreturn]

theorem DecodeEdit.askedTokens (h : DecodeEdit reqData sent) : askedTokens sent = askedTokens reqData := by
  unfold PyMotor.askedTokens clientMaxTokens
  rw [h _ (by decide) (by decide)]

theorem Resumable.edit (h : Resumable engine maxTokens asked prompt resumes given reqData) (he : DecodeEdit reqData sent) :
    Resumable engine maxTokens asked prompt resumes given sent where
  eligible := h.eligible.edit he
  streams := by
    rw [he _ (by decide) (by decide)]
    exact h.streams
  returns := by
    rw [asksTokenIds, he _ (by decide) (by decide)]
    exact h.returns
  prompt := (engine.promptIds_edit _ _ he.copy).trans h.prompt
  stored := he.stored.trans h.stored
  origin := he.originMaxTokens.trans h.origin
  asked := he.copy.askedTokens.trans h.asked

theorem ClientRequest.resumable (h : ClientRequest maxTokens reqData) (engine : Engine) :
    Resumable engine maxTokens (asksTokenIds reqData) (engine.promptIds (copyReqDataForEngine reqData)) 0 [] reqData where
  eligible := h.eligible
  streams := h.streams
  returns := rfl
  prompt := (List.append_nil _).symm
  stored := by
    rw [storedCumulative, h.cumulative]
    rfl
  origin := by
    rw [originMaxTokens, h.origin, Option.getD_none, clientMaxTokens, h.budget]
    rfl
  asked := by
    rw [askedTokens, clientMaxTokens, get?_copyReqDataForEngine, if_neg (by decide), h.budget]
    exact Int.toNat_natCast _

theorem ClientRequest.output (h : ClientRequest maxTokens reqData) (engine : Engine) :
    engine.output (copyReqDataForEngine reqData) =
      (engine.cont (engine.promptIds (copyReqDataForEngine reqData))).take maxTokens := by
  rw [Engine.output, (h.resumable engine).asked]
  rfl

theorem Resumable.track_returns (h : Resumable engine maxTokens asked prompt resumes given reqData) {track : RequestTrack}
    (htrack : extractRequestInfo reqData = .ok track) : track.clientReturnTokenIds = asked := by
  obtain ⟨prompt, -, heq⟩ := bind_eq_ok.mp htrack
  cases heq
  exact h.returns

theorem Resumable.tracked (h : Resumable engine maxTokens asked prompt resumes given reqData) {track : RequestTrack}
    (htrack : extractRequestInfo reqData = .ok track) : Tracked track [] track := by
  obtain ⟨-, -, hprompt, houtput⟩ := extractRequestInfo_ok htrack
  obtain ⟨origin, -, heq⟩ := bind_eq_ok.mp htrack
  refine ⟨?_, rfl, rfl, rfl, ⟨0, extractRequestInfo_tokens htrack⟩, ?_, hprompt, houtput⟩
  · cases heq
    exact h.streams
  · cases heq
    rfl

theorem Resumable.info (h : Resumable engine maxTokens asked prompt resumes given reqData) :
    ∃ track, extractRequestInfo reqData = .ok track := by
  obtain ⟨prompt, hprompt⟩ := h.eligible.prompt
  exact ⟨_, by rw [extractRequestInfo, hprompt]; rfl⟩

theorem retryMaxTokens_int (maxTokens : Nat) (cumulative : Int) :
    retryMaxTokens (.int maxTokens) cumulative = .ok (.int (max 1 (maxTokens + -cumulative + 1))) := rfl

theorem Resumable.retry (h : Resumable engine maxTokens asked prompt resumes given sent) {track₀ track : RequestTrack}
    (htrack : extractRequestInfo sent = .ok track₀) (hchat : track.chatFlag = track₀.chatFlag)
    (horigin : track.originMaxTokens = track₀.originMaxTokens) {part : List Int}
    (hkv : track.recomputeKvTransfer =
      some ((prompt ++ given).map .int ++ part.map .int, (prompt ++ given).map .int)) (codec : JsonCodec) :
    ∃ retry, prepareRetryRequest codec sent track = .ok retry ∧
      Resumable engine maxTokens asked prompt (resumes + 1) (given ++ part) retry.reqData := by
  obtain ⟨hflag, hcap, -, -⟩ := extractRequestInfo_ok htrack
  have hflag' := hchat.trans hflag
  have hcap' : originCap sent track = .int maxTokens := by
    rw [← h.origin, ← hcap, originCap, originCap, horigin]
  obtain ⟨retry, hretry, heligible⟩ := h.eligible.prepareRetryRequest codec hkv hflag' (hcap'.trans h.origin.symm)
  obtain ⟨allIds, promptIds, m, hkv', hmax, hdata⟩ := prepareRetryRequest_ok hretry
  obtain ⟨rfl, rfl⟩ := Prod.mk.inj (Option.some.inj (hkv'.symm.trans hkv))
  have hlen : storedCumulative sent + ((((prompt ++ given).map Json.int ++ part.map Json.int).length : Int) -
      ((prompt ++ given).map Json.int).length) = (given ++ part).length := by
    rw [h.stored]
    simp only [List.length_append, List.length_map]
    push_cast
    omega
  rw [hlen, hcap'] at hmax hdata
  rw [retryMaxTokens_int] at hmax
  cases hmax
  have hself : (sent.get? "_origin_max_tokens").getD (.int maxTokens) = .int maxTokens := by
    rw [← hcap', originCap]
    cases sent.get? "_origin_max_tokens" <;> rfl
  refine ⟨retry, hretry, heligible, ?_, ?_, ?_, ?_, ?_, ?_⟩
  · rw [hdata, get?_retryReqData, if_neg (by decide), if_neg (by simp [chatOnlyKeysRecompute]), get?_budgetReqData]
    simpa using h.streams
  · rw [asksTokenIds, hdata, get?_retryReqData, if_neg (by decide), if_neg (by simp [chatOnlyKeysRecompute]),
      get?_budgetReqData]
    simpa [asksTokenIds] using h.returns
  · refine engine.promptIds_tokens _ _ ?_ ?_
    · rw [get?_copyReqDataForEngine, if_neg (by decide), hdata, get?_retryReqData, if_pos rfl]
      simp
    · rw [get?_copyReqDataForEngine, if_neg (by decide), hdata, get?_retryReqData, if_neg (by decide)]
      cases hchat' : track.chatFlag with
      | true => simp [chatOnlyKeysRecompute]
      | false =>
          rw [hchat', JsonObj.contains_eq] at hflag'
          simpa [get?_budgetReqData] using hflag'.symm
  · rw [storedCumulative, hdata, get?_retryReqData, if_neg (by decide), if_neg (by simp [chatOnlyKeysRecompute]),
      get?_budgetReqData]
    rfl
  · rw [originMaxTokens, hdata, get?_retryReqData, if_neg (by decide), if_neg (by simp [chatOnlyKeysRecompute]),
      get?_budgetReqData]
    simp [hself]
  · rw [askedTokens, clientMaxTokens, get?_copyReqDataForEngine, if_neg (by decide), hdata, get?_retryReqData,
      if_neg (by decide), if_neg (by simp [chatOnlyKeysRecompute]), get?_budgetReqData, legTokens, if_neg (Nat.succ_ne_zero _)]
    simp [Json.toInt?]
    omega

end PyMotor.Recompute
