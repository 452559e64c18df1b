import PyMotor.Recompute.Lemmas.Retry
import PyMotor.Recompute.Lemmas.Stream

/-!
# Recomputed bodies
-/

namespace PyMotor.Recompute

open Lib

variable {reqData sent body : JsonObj}

/-! ## Eligible requests -/

theorem originPromptForRecompute_congr (hp : sent.get? "prompt" = reqData.get? "prompt")
    (hm : sent.get? "messages" = reqData.get? "messages") :
    originPromptForRecompute sent = originPromptForRecompute reqData := by
  unfold originPromptForRecompute
  rw [hp, hm]

theorem completionsRetryEligible_congr
    (h : ∀ k ∈ ["response_format", "tools", "logprobs", "top_logprobs", "messages"], sent.get? k = reqData.get? k) :
    completionsRetryEligibleForChatRequest sent = completionsRetryEligibleForChatRequest reqData := by
  simp only [List.mem_cons, List.not_mem_nil, or_false, forall_eq_or_imp, forall_eq] at h
  obtain ⟨h₁, h₂, h₃, h₄, h₅⟩ := h
  unfold completionsRetryEligibleForChatRequest
  simp only [h₁, h₂, h₃, h₄, h₅, List.any_cons, List.any_nil]
  rfl

theorem Eligible.edit (h : Eligible reqData) (he : DecodeEdit reqData sent) : Eligible sent where
  single := by
    rw [he _ (by decide) (by decide)]
    exact h.single
  budget := by
    rw [he.originMaxTokens]
    exact h.budget
  prompt := by
    rw [originPromptForRecompute_congr (he _ (by decide) (by decide)) (he _ (by decide) (by decide))]
    exact h.prompt
  chat hm := by
    rw [JsonObj.contains_eq, he _ (by decide) (by decide), ← JsonObj.contains_eq] at hm
    rw [completionsRetryEligible_congr fun k hk => ?_]
    · exact h.chat hm
    · simp only [List.mem_cons, List.not_mem_nil, or_false] at hk
      rcases hk with rfl | rfl | rfl | rfl | rfl <;> exact he _ (by decide) (by decide)

theorem retryMaxTokens_of_number {origin : Json} {q : ℚ} (h : origin.number? = some q) (cumulative : Int) :
    ∃ m, retryMaxTokens origin cumulative = .ok m := by
  cases origin with
  | bool b => exact ⟨_, rfl⟩
  | int n => exact ⟨_, rfl⟩
  | float q => exact ⟨_, rfl⟩
  | _ => cases h

theorem Eligible.prepareRetryRequest (codec : JsonCodec) (h : Eligible sent) {track : RequestTrack} {allIds promptIds : List Json}
    (hkv : track.recomputeKvTransfer = some (allIds, promptIds)) (hchat : track.chatFlag = sent.contains "messages")
    (horigin : originCap sent track = originMaxTokens sent) :
    ∃ retry, prepareRetryRequest codec sent track = .ok retry ∧ Eligible retry.reqData := by
  obtain ⟨q, hq⟩ := h.budget
  rw [← horigin] at hq
  obtain ⟨m, hm⟩ := retryMaxTokens_of_number hq (storedCumulative sent + (allIds.length - promptIds.length))
  have heligible : (if track.chatFlag then completionsRetryEligibleForChatRequest
      (budgetReqData sent (originCap sent track) (storedCumulative sent + (allIds.length - promptIds.length)) m)
      else .ok true) = .ok true := by
    cases hflag : track.chatFlag with
    | false => rfl
    | true =>
        rw [if_pos rfl, completionsRetryEligible_congr fun k hk => ?_]
        · exact h.chat (by rw [← hchat, hflag])
        · simp only [List.mem_cons, List.not_mem_nil, or_false] at hk
          rcases hk with rfl | rfl | rfl | rfl | rfl <;> simp [get?_budgetReqData]
  rw [prepareRetryRequest_eq hkv h.single, hm]
  dsimp only [Except.bind]
  rw [heligible]
  refine ⟨_, rfl, ?_, ?_, ?_, ?_⟩
  · rw [get?_retryReqData, if_neg (by decide), if_neg (by simp [chatOnlyKeysRecompute]), get?_budgetReqData]
    simpa using h.single
  · refine ⟨q, ?_⟩
    unfold originMaxTokens
    rw [get?_retryReqData, if_neg (by decide), if_neg (by simp [chatOnlyKeysRecompute]), get?_budgetReqData]
    have hself : (sent.get? "_origin_max_tokens").getD (originCap sent track) = originCap sent track := by
      unfold originCap
      cases sent.get? "_origin_max_tokens" <;> rfl
    simpa [hself] using hq
  · unfold originPromptForRecompute
    rw [get?_retryReqData, if_pos rfl]
    exact ⟨_, rfl⟩
  · intro hmessages
    rw [JsonObj.contains_eq, get?_retryReqData, if_neg (by decide)] at hmessages
    cases hflag : track.chatFlag with
    | true => simp [hflag, chatOnlyKeysRecompute] at hmessages
    | false =>
        rw [hflag, JsonObj.contains_eq] at hchat
        simp [hflag, get?_budgetReqData, ← hchat] at hmessages

/-! ## Recomputed bodies -/

theorem hasChoice_of_orElse {c0 : JsonObj} {rest : List Json}
    (h : Json.orElse (body.get? "choices") (.arr []) = .arr (.obj c0 :: rest)) : HasChoice body c0 rest := by
  unfold HasChoice
  unfold Json.orElse at h
  split at h
  · rename_i v hv
    split at h
    · rw [hv, h]
    · cases h
  · cases h

theorem RecomputedBody.hasChoice (h : RecomputedBody body) : ∃ c0 rest, HasChoice body c0 rest := by
  have hr := h.recomputed
  unfold isRecomputedNonstreamResponse at hr
  dsimp only at hr
  split at hr
  · obtain ⟨first, hfirst, hr⟩ := bind_eq_ok.mp hr
    obtain ⟨c0, hc0, -⟩ := bind_eq_ok.mp hr
    obtain rfl := Json.asObj_ok hc0
    obtain ⟨rest, hrest⟩ := Json.head_obj hfirst
    exact ⟨c0, rest, hasChoice_of_orElse hrest⟩
  · cases hr

theorem RecomputedBody.promptIds (h : RecomputedBody body) :
    ∃ ids, ids ≠ [] ∧ chunkPromptTokenIds body = .ok (some (.arr ids)) := by
  obtain ⟨c0, rest, hc⟩ := h.hasChoice
  have hv := h.valid
  unfold validateNonstreamRecomputeBody at hv
  rw [hc.orElse] at hv
  simp only [Json.truthy, List.isEmpty_cons, Bool.not_false, if_true, Json.head, bind, Except.bind] at hv
  unfold chunkPromptTokenIds
  rw [hc.orElse]
  simp only [Json.truthy, List.isEmpty_cons, Bool.not_false, if_true, Json.head, bind, Except.bind, pure, Except.pure]
  split at hv
  · rename_i x ids hids
    refine ⟨x :: ids, by simp, ?_⟩
    by_cases hroot : Json.isNotNone (body.get? "prompt_token_ids") = true
    · rw [if_pos hroot] at hids ⊢
      rw [hids]
    · rw [if_neg hroot] at hids ⊢
      rw [hids]
  · cases hv

theorem updateTokenIdCache_of_choice {c0 : JsonObj} {rest : List Json} {prompt : Option Json} (track : RequestTrack)
    (hc : HasChoice body c0 rest) (hp : chunkPromptTokenIds body = .ok prompt) :
    ∃ cached, updateTokenIdCache track body = .ok cached := by
  rw [updateTokenIdCache_eq, hp]
  dsimp only [Except.bind]
  rw [hc.orElse]
  simp only [cacheOutputIds, Json.truthy, List.isEmpty_cons, Bool.not_false, if_true, Json.head, Json.asObj, bind,
    Except.bind]
  split <;> exact ⟨_, rfl⟩

theorem RecomputedBody.build (hb : RecomputedBody body) (h : Eligible sent) :
    ∃ track allIds promptIds, buildRequestInfoForNonstreamRecompute sent body = .ok track ∧
      track.recomputeKvTransfer = some (allIds, promptIds) ∧ track.chatFlag = sent.contains "messages" ∧
      originCap sent track = originMaxTokens sent := by
  obtain ⟨prompt, hprompt⟩ := h.prompt
  have hinfo : ∃ info, extractRequestInfo sent = .ok info := ⟨_, by unfold extractRequestInfo; rw [hprompt]; rfl⟩
  obtain ⟨info, hinfo⟩ := hinfo
  obtain ⟨hchat, horigin, hnone, hempty⟩ := extractRequestInfo_ok hinfo
  obtain ⟨c0, rest, hc⟩ := hb.hasChoice
  obtain ⟨ids, hne, hids⟩ := hb.promptIds
  obtain ⟨cached, hcached⟩ := updateTokenIdCache_of_choice info hc hids
  have hcache := updateTokenIdCache_ok hcached
  obtain ⟨text, htext⟩ := hb.content c0 rest hc
  have husage : ∃ usage : JsonObj, (body.get? "usage").getD (.obj []) = .obj usage := by
    cases hu : body.get? "usage" with
    | none => exact ⟨[], rfl⟩
    | some u =>
        obtain ⟨usage, rfl⟩ := hb.usage u hu
        exact ⟨usage, rfl⟩
  obtain ⟨usage, husage⟩ := husage
  have hprompts : cached.cachedPromptTokenIds = some ids := by
    rw [hcache, hnone]
    simp [chunkPromptIds, hids]
  obtain ⟨x, ids', rfl⟩ := List.exists_cons_of_ne_nil hne
  have hbuild : buildRequestInfoForNonstreamRecompute sent body = fillRecomputeKvFromTokenCache
      { cached with generatedToken := text, completionTokens := (usage.get? "completion_tokens").getD (.int 0) } := by
    unfold buildRequestInfoForNonstreamRecompute
    rw [hinfo]
    simp only [bind, Except.bind, hcached, hc.orElse, Json.truthy, List.isEmpty_cons, Bool.not_false, if_true, Json.head,
      Json.asObj, htext, husage]
  refine ⟨{ cached with
    generatedToken := text
    completionTokens := (usage.get? "completion_tokens").getD (.int 0)
    recomputeKvTransfer := some (x :: ids' ++ cached.cachedOutputTokenIds, x :: ids') }, _, _, ?_, rfl, ?_, ?_⟩
  · rw [hbuild]
    unfold fillRecomputeKvFromTokenCache
    rw [hprompts]
  · rw [hcache]
    exact hchat
  · rw [hcache]
    exact horigin

/-! ## The body for the client -/

theorem extractContentFromChoice_congr {c0 c0' : JsonObj}
    (h : ∀ k ∈ ["delta", "message", "text"], c0'.get? k = c0.get? k) :
    extractContentFromChoice c0' = extractContentFromChoice c0 := by
  simp only [List.mem_cons, List.not_mem_nil, or_false, forall_eq_or_imp, forall_eq] at h
  obtain ⟨h₁, h₂, h₃⟩ := h
  unfold extractContentFromChoice
  rw [h₁, h₂, h₃]

theorem bodyText_of_choice {c0 : JsonObj} {rest : List Json} (hc : HasChoice body c0 rest) :
    bodyText body = match extractContentFromChoice c0 with
      | .ok text => text
      | .error _ => "" := by
  unfold bodyText
  rewrite [hc]
  rfl

theorem stripChoice_obj (keep : Bool) (c0 : JsonObj) :
    ∃ ch : JsonObj, stripChoice keep (.obj c0) = .obj ch ∧ ∀ k ∈ ["delta", "message", "text"], ch.get? k = c0.get? k := by
  refine ⟨_, rfl, fun k hk => ?_⟩
  have hpop : ∀ d : JsonObj, ((d.pop "token_ids").pop "prompt_token_ids").get? k = d.get? k := by
    intro d
    simp only [List.mem_cons, List.not_mem_nil, or_false] at hk
    rcases hk with rfl | rfl | rfl <;> simp [JsonObj.get?_pop]
  have hstop : ∀ d : JsonObj, (d.set "stop_reason" (.str "stop")).get? k = d.get? k := by
    intro d
    simp only [List.mem_cons, List.not_mem_nil, or_false] at hk
    rcases hk with rfl | rfl | rfl <;> simp [JsonObj.get?_set]
  cases keep with
  | true =>
      simp only [if_true]
      split
      · exact hstop c0
      · rfl
  | false =>
      simp only [Bool.false_eq_true, if_false]
      split
      · rw [hstop]
        exact hpop c0
      · exact hpop c0

theorem strip_bodyText {c0 : JsonObj} {rest : List Json} (hc : HasChoice body c0 rest) (keep : Bool) :
    ∃ stripped, stripOpenaiTokenIdFieldsForClient body keep = .ok stripped ∧ bodyText stripped = bodyText body := by
  have hc' : HasChoice (if keep then body else body.pop "prompt_token_ids") c0 rest := by
    cases keep with
    | true => exact hc
    | false =>
        unfold HasChoice
        simp only [Bool.false_eq_true, if_false]
        rw [JsonObj.get?_pop, if_neg (by decide)]
        exact hc
  unfold stripOpenaiTokenIdFieldsForClient
  dsimp only
  rw [hc'.orElse]
  obtain ⟨ch, hch, hkeys⟩ := stripChoice_obj keep c0
  refine ⟨_, rfl, ?_⟩
  have hchoice : HasChoice ((if keep then body else body.pop "prompt_token_ids").set "choices"
      (.arr ((.obj c0 :: rest).map (stripChoice keep)))) ch (rest.map (stripChoice keep)) := by
    unfold HasChoice
    rw [JsonObj.get?_set_self, List.map_cons, hch]
  rw [bodyText_of_choice hchoice, bodyText_of_choice hc, extractContentFromChoice_congr hkeys]

theorem extractContentFromChoice_message {choice : JsonObj} {role text : Json} (hd : choice.get? "delta" = none)
    (hm : choice.get? "message" = some (.obj [("role", role), ("content", text)])) (ht : choice.get? "text" = none) :
    extractContentFromChoice choice = match Json.orElse (some text) (.str "") with
      | .str s => .ok s
      | _ => .ok "" := by
  unfold extractContentFromChoice
  rewrite [hd, hm, ht]
  rfl

theorem extractContentFromChoice_text {choice : JsonObj} (hd : choice.get? "delta" = none)
    (hm : choice.get? "message" = none) :
    extractContentFromChoice choice = match Json.orElse (choice.get? "text") (.str "") with
      | .str s => .ok s
      | _ => .ok "" := by
  unfold extractContentFromChoice
  rewrite [hd, hm]
  rfl

theorem orElse_orElse (x : Option Json) : Json.orElse (some (Json.orElse x (.str ""))) (.str "") = Json.orElse x (.str "") := by
  cases x with
  | none => rfl
  | some v =>
      simp only [Json.orElse]
      split <;> rfl

theorem adapt_bodyText {c0 : JsonObj} {rest : List Json} (hc : HasChoice body c0 rest) (hd : c0.get? "delta" = none)
    (hm : c0.get? "message" = none) (reqId : String) :
    ∃ adapted c0', adaptCompletionNonstreamToChat body reqId = .ok adapted ∧ HasChoice adapted c0' rest ∧
      bodyText adapted = bodyText body := by
  have hset := (hc.set (k := "object") (by decide) (.str "chat.completion")).set (k := "id") (by decide)
    (.str (chatCompletionId reqId))
  unfold adaptCompletionNonstreamToChat
  dsimp only
  rw [hset.orElse]
  have hchoice : ∀ (d choice : JsonObj), HasChoice (setChoice0 d (.arr (.obj c0 :: rest)) choice) choice rest :=
    fun _ _ => JsonObj.get?_set_self _ _ _
  refine ⟨_, _, rfl, hchoice _ _, ?_⟩
  rw [bodyText_of_choice (hchoice _ _), bodyText_of_choice hc, extractContentFromChoice_text hd hm,
    extractContentFromChoice_message]
  · rw [orElse_orElse]
  all_goals
    rw [get?_setIfNotNone_ne (by decide), get?_setIfNotNone_ne (by decide), get?_setIfNotNone_ne (by decide)]
    rfl

theorem NormalBody.clientText (h : NormalBody body) (adapts keep : Bool) (reqId : String)
    (hadapts : adapts = true → Json.eqStr (body.get? "object") "text_completion" = true) :
    ∃ content, (do
      let body ← if adapts then adaptCompletionNonstreamToChat body reqId else .ok body
      stripOpenaiTokenIdFieldsForClient body keep) = Except.ok content ∧ bodyText content = bodyText body := by
  obtain ⟨c0, rest, hc, hcompletion⟩ := h.choice
  cases adapts with
  | true =>
      obtain ⟨hd, hm⟩ := hcompletion (hadapts rfl)
      obtain ⟨adapted, c0', hadapt, hc', htext⟩ := adapt_bodyText hc hd hm reqId
      obtain ⟨stripped, hstrip, hs⟩ := strip_bodyText hc' keep
      refine ⟨stripped, ?_, hs.trans htext⟩
      simp only [if_true, hadapt, bind, Except.bind, hstrip]
  | false =>
      obtain ⟨stripped, hstrip, hs⟩ := strip_bodyText hc keep
      exact ⟨stripped, hstrip, hs⟩

end PyMotor.Recompute
