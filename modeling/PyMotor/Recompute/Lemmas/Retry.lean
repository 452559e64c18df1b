import PyMotor.Recompute.Rounds

/-!
# The request of the next leg
-/

namespace PyMotor.Recompute

open Lib

variable {codec : JsonCodec} {reqData : JsonObj} {track : RequestTrack}

/-! ## The token cache -/

def cachePromptIds (track : RequestTrack) (prompt : Option Json) : RequestTrack :=
  match prompt, track.cachedPromptTokenIds with
  | some (.arr ids), none => { track with cachedPromptTokenIds := some ids }
  | _, _ => track

def cacheOutputIds (track : RequestTrack) (choices : Json) : Except PyException RequestTrack :=
  if choices.truthy then do
    let c0 ← (← choices.head).asObj
    match c0.get? "token_ids" with
    | some (.arr ids) => return { track with cachedOutputTokenIds := track.cachedOutputTokenIds ++ ids }
    | _ => return track
  else .ok track

theorem updateTokenIdCache_eq (track : RequestTrack) (chunk : JsonObj) :
    updateTokenIdCache track chunk =
      (chunkPromptTokenIds chunk).bind fun prompt =>
        cacheOutputIds (cachePromptIds track prompt) (Json.orElse (chunk.get? "choices") (.arr [])) := rfl

theorem cachePromptIds_eq {chunk : JsonObj} {prompt : Option Json} (h : chunkPromptTokenIds chunk = .ok prompt) :
    cachePromptIds track prompt =
      { track with cachedPromptTokenIds := track.cachedPromptTokenIds.or (chunkPromptIds chunk) } := by
  unfold cachePromptIds chunkPromptIds
  rw [h]
  cases hcached : track.cachedPromptTokenIds with
  | some ids =>
      cases track
      simp_all
  | none =>
      cases track
      cases prompt with
      | none => simp_all
      | some p => cases p <;> simp_all

theorem cacheOutputIds_ok {track' : RequestTrack} {chunk : JsonObj}
    (h : cacheOutputIds track (Json.orElse (chunk.get? "choices") (.arr [])) = .ok track') :
    track' = { track with cachedOutputTokenIds := track.cachedOutputTokenIds ++ chunkTokenIds chunk } := by
  unfold chunkTokenIds
  generalize Json.orElse (chunk.get? "choices") (.arr []) = choices at h
  unfold cacheOutputIds at h
  split at h
  · simp only [bind_eq_ok] at h
    obtain ⟨first, hfirst, c0, hc0, h⟩ := h
    obtain rfl := Json.asObj_ok hc0
    obtain ⟨rest, rfl⟩ := Json.head_obj hfirst
    dsimp only
    split at h <;> cases h <;> simp_all
  · rename_i hfalsy
    cases h
    cases choices with
    | arr xs =>
        cases xs with
        | nil => simp
        | cons x xs => simp [Json.truthy] at hfalsy
    | _ => simp

theorem updateTokenIdCache_ok {track' : RequestTrack} {chunk : JsonObj}
    (h : updateTokenIdCache track chunk = .ok track') :
    track' = { track with
      cachedPromptTokenIds := track.cachedPromptTokenIds.or (chunkPromptIds chunk)
      cachedOutputTokenIds := track.cachedOutputTokenIds ++ chunkTokenIds chunk } := by
  rw [updateTokenIdCache_eq] at h
  obtain ⟨prompt, hprompt, h⟩ := bind_eq_ok.mp h
  rw [cachePromptIds_eq hprompt] at h
  exact cacheOutputIds_ok h

theorem tokenCache_ok {track' : RequestTrack} {chunks : List JsonObj}
    (h : chunks.foldlM updateTokenIdCache track = .ok track') :
    track' = { track with
      cachedPromptTokenIds := track.cachedPromptTokenIds.or (legPromptIds chunks)
      cachedOutputTokenIds := track.cachedOutputTokenIds ++ legOutput chunks } := by
  induction chunks generalizing track with
  | nil =>
      cases h
      simp [legPromptIds, legOutput]
  | cons chunk chunks ih =>
      rw [List.foldlM_cons] at h
      obtain ⟨track₁, h₁, h⟩ := bind_eq_ok.mp h
      rw [ih h, updateTokenIdCache_ok h₁]
      simp only [legPromptIds, legOutput, List.findSome?_cons, List.flatMap_cons, List.append_assoc, Option.or_assoc]
      cases chunkPromptIds chunk <;> simp

theorem fillRecomputeKvFromTokenCache_ok {track' : RequestTrack} (h : fillRecomputeKvFromTokenCache track = .ok track') :
    ∃ ids, track.cachedPromptTokenIds = some ids ∧ ids ≠ [] ∧
      track' = { track with recomputeKvTransfer := some (ids ++ track.cachedOutputTokenIds, ids) } := by
  unfold fillRecomputeKvFromTokenCache at h
  split at h
  · rename_i x ids hids
    cases h
    exact ⟨x :: ids, hids, by simp, rfl⟩
  · cases h

/-! ## The rewriting of the request -/

def originCap (reqData : JsonObj) (track : RequestTrack) : Json :=
  (reqData.get? "_origin_max_tokens").getD track.originMaxTokens

def budgetReqData (reqData : JsonObj) (origin : Json) (cumulative : Int) (maxTokens : Json) : JsonObj :=
  (((if reqData.contains "_origin_max_tokens" then reqData else reqData.set "_origin_max_tokens" origin).set
    "_cumulative_completion_tokens" (.int cumulative)).set "max_tokens" maxTokens).pop "kv_transfer_params"

def retryReqData (chat : Bool) (reqData : JsonObj) (allIds : List Json) : JsonObj :=
  (if chat then chatOnlyKeysRecompute.foldl JsonObj.pop reqData else reqData).set "prompt" (.arr allIds)

theorem storedCumulative_set (origin : Json) :
    (((((if reqData.contains "_origin_max_tokens" then reqData
      else reqData.set "_origin_max_tokens" origin).get? "_cumulative_completion_tokens").getD (.int 0)).toInt?).getD 0) =
        storedCumulative reqData := by
  unfold storedCumulative
  split
  · rfl
  · rw [JsonObj.get?_set_ne (by decide)]

theorem prepareRetryRequest_eq {allIds promptIds : List Json}
    (hkv : track.recomputeKvTransfer = some (allIds, promptIds))
    (hn : ((reqData.get? "n").getD (.int 1)).toInt? = some 1) :
    prepareRetryRequest codec reqData track =
      (retryMaxTokens (originCap reqData track)
        (storedCumulative reqData + (allIds.length - promptIds.length))).bind fun maxTokens =>
      let budget := budgetReqData reqData (originCap reqData track)
        (storedCumulative reqData + (allIds.length - promptIds.length)) maxTokens
      (if track.chatFlag then completionsRetryEligibleForChatRequest budget else .ok true).bind fun eligible =>
        if eligible then
          .ok ⟨retryReqData track.chatFlag budget allIds,
            (codec.dumps (.obj (copyReqDataForEngine (retryReqData track.chatFlag budget allIds)))).length,
            if track.chatFlag then some "v1/completions" else none, if track.chatFlag then some "completions" else none⟩
        else .error (.httpException 502 ("Recompute is not supported for this Chat request (tools, logprobs, " ++
          "top_logprobs, non-text multimodal content, structured " ++
          "response_format, or n>1). vLLM does not accept token-id arrays in Chat messages.")) := by
  unfold prepareRetryRequest
  rw [hkv]
  dsimp only
  rw [hn]
  dsimp only
  rw [if_neg (by simp), storedCumulative_set]
  cases hmax : retryMaxTokens (originCap reqData track)
      (storedCumulative reqData + (allIds.length - promptIds.length)) with
  | error e =>
      unfold originCap at hmax
      simp [hmax, bind, Except.bind]
  | ok maxTokens =>
      unfold originCap at hmax ⊢
      simp only [hmax, bind, Except.bind, budgetReqData, retryReqData]
      cases track.chatFlag with
      | false => rfl
      | true =>
          simp only [if_true]
          rfl

theorem prepareRetryRequest_ok {retry : RetryRequest} (h : prepareRetryRequest codec reqData track = .ok retry) :
    ∃ allIds promptIds maxTokens, track.recomputeKvTransfer = some (allIds, promptIds) ∧
      retryMaxTokens (originCap reqData track) (storedCumulative reqData + (allIds.length - promptIds.length)) =
        .ok maxTokens ∧
      retry.reqData = retryReqData track.chatFlag (budgetReqData reqData (originCap reqData track)
        (storedCumulative reqData + (allIds.length - promptIds.length)) maxTokens) allIds := by
  cases hkv : track.recomputeKvTransfer with
  | none => simp [prepareRetryRequest, hkv] at h
  | some ids =>
      obtain ⟨allIds, promptIds⟩ := ids
      have hn : ((reqData.get? "n").getD (.int 1)).toInt? = some 1 := by
        cases hn : ((reqData.get? "n").getD (.int 1)).toInt? with
        | none => simp [prepareRetryRequest, hkv, hn] at h
        | some n =>
            by_contra hne
            simp [prepareRetryRequest, hkv, hn, show n ≠ 1 by simpa using hne] at h
      rw [prepareRetryRequest_eq hkv hn] at h
      obtain ⟨maxTokens, hmax, h⟩ := bind_eq_ok.mp h
      obtain ⟨eligible, -, h⟩ := bind_eq_ok.mp h
      cases eligible with
      | false => cases h
      | true =>
          cases h
          exact ⟨allIds, promptIds, maxTokens, rfl, hmax, rfl⟩

theorem get?_budgetReqData (origin : Json) (cumulative : Int) (maxTokens : Json) (k : String) :
    (budgetReqData reqData origin cumulative maxTokens).get? k =
      if k = "kv_transfer_params" then none
      else if k = "max_tokens" then some maxTokens
      else if k = "_cumulative_completion_tokens" then some (.int cumulative)
      else if k = "_origin_max_tokens" then some ((reqData.get? "_origin_max_tokens").getD origin)
      else reqData.get? k := by
  unfold budgetReqData
  rw [JsonObj.get?_pop, JsonObj.get?_set, JsonObj.get?_set, JsonObj.contains_eq]
  cases hget : reqData.get? "_origin_max_tokens" with
  | none =>
      simp only [Option.isSome_none, Bool.false_eq_true, if_false, JsonObj.get?_set, Option.getD_none]
  | some v =>
      simp only [Option.isSome_some, if_true, Option.getD_some]
      by_cases hk : k = "_origin_max_tokens"
      · simp [hk, hget]
      · simp [hk]

theorem get?_retryReqData (chat : Bool) (allIds : List Json) (k : String) :
    (retryReqData chat reqData allIds).get? k =
      if k = "prompt" then some (.arr allIds)
      else if chat = true ∧ k ∈ chatOnlyKeysRecompute then none
      else reqData.get? k := by
  unfold retryReqData
  rw [JsonObj.get?_set]
  cases chat with
  | false => simp
  | true => simp [JsonObj.get?_foldl_pop]

/-! ## A round -/

theorem extractRequestInfo_ok (h : extractRequestInfo reqData = .ok track) :
    track.chatFlag = reqData.contains "messages" ∧ originCap reqData track = originMaxTokens reqData ∧
      track.cachedPromptTokenIds = none ∧ track.cachedOutputTokenIds = [] := by
  obtain ⟨prompt, -, h⟩ := bind_eq_ok.mp h
  cases h
  refine ⟨rfl, ?_, rfl, rfl⟩
  unfold originCap originMaxTokens clientMaxTokens
  cases reqData.get? "_origin_max_tokens" <;> rfl

/-- What a round writes: `ids` are the prompt ids of its leg. -/
structure Rewritten (reqData : JsonObj) (chunks : List JsonObj) (ids : List Json) (maxTokens : Json) (reqData' : JsonObj) :
    Prop where
  promptIds : legPromptIds chunks = some ids
  budget : retryMaxTokens (originMaxTokens reqData) (storedCumulative reqData + (legOutput chunks).length) = .ok maxTokens
  prompt : reqData'.get? "prompt" = some (.arr (ids ++ legOutput chunks))
  cumulative : reqData'.get? "_cumulative_completion_tokens" =
    some (.int (storedCumulative reqData + (legOutput chunks).length))
  origin : reqData'.get? "_origin_max_tokens" = some (originMaxTokens reqData)
  maxTokens : reqData'.get? "max_tokens" = some maxTokens

theorem recomputeRound_ok {chunks : List JsonObj} {reqData' : JsonObj}
    (h : recomputeRound codec reqData chunks = .ok reqData') :
    ∃ ids maxTokens, Rewritten reqData chunks ids maxTokens reqData' := by
  unfold recomputeRound at h
  obtain ⟨track, htrack, h⟩ := bind_eq_ok.mp h
  obtain ⟨cached, hcached, h⟩ := bind_eq_ok.mp h
  obtain ⟨filled, hfilled, h⟩ := bind_eq_ok.mp h
  obtain ⟨retry, hretry, h⟩ := bind_eq_ok.mp h
  cases h
  obtain ⟨hchat, horigin, hprompt, houtput⟩ := extractRequestInfo_ok htrack
  have hcache := tokenCache_ok hcached
  rw [hprompt, houtput, Option.none_or, List.nil_append] at hcache
  obtain ⟨ids, hids, -, hfill⟩ := fillRecomputeKvFromTokenCache_ok hfilled
  obtain ⟨allIds, promptIds, maxTokens, hkv, hmax, hdata⟩ := prepareRetryRequest_ok hretry
  have hcap : originCap reqData filled = originMaxTokens reqData := by
    rw [hfill, hcache]
    exact horigin
  have hall : allIds = ids ++ legOutput chunks ∧ promptIds = ids := by
    rw [hfill, hcache] at hkv
    simpa using hkv.symm
  obtain ⟨rfl, rfl⟩ := hall
  have hlen : storedCumulative reqData + (((promptIds ++ legOutput chunks).length : Int) - promptIds.length) =
      storedCumulative reqData + (legOutput chunks).length := by
    rw [List.length_append]
    omega
  rw [hcap, hlen] at hmax hdata
  refine ⟨promptIds, maxTokens, ?_, hmax, ?_, ?_, ?_, ?_⟩
  · rw [hcache] at hids
    exact hids
  · rw [hdata, get?_retryReqData, if_pos rfl]
  all_goals rw [hdata, get?_retryReqData, if_neg (by decide), if_neg (by simp [chatOnlyKeysRecompute])]
  · simp [get?_budgetReqData]
  · simp only [get?_budgetReqData, originMaxTokens]
    cases reqData.get? "_origin_max_tokens" <;> rfl
  · simp [get?_budgetReqData]

/-! ## The edits of the routers -/

variable {sent : JsonObj}

theorem DecodeEdit.stored (h : DecodeEdit reqData sent) : storedCumulative sent = storedCumulative reqData := by
  unfold storedCumulative
  rw [h _ (by decide) (by decide)]

theorem DecodeEdit.originMaxTokens (h : DecodeEdit reqData sent) : originMaxTokens sent = originMaxTokens reqData := by
  unfold Recompute.originMaxTokens clientMaxTokens
  rw [h _ (by decide) (by decide), h _ (by decide) (by decide)]

end PyMotor.Recompute
