import PyMotor.Recompute.Stream

/-!
# The request of a recompute

`motor/coordinator/router/recompute/retry.py`: the request id of the next leg, the checks of a recomputed
body and the rewriting of the request.
-/

namespace PyMotor.Recompute

open Lib

/-- `f"{n:02d}"` for a number below 100. -/
def twoDigits (n : Nat) : List Char := [Char.ofNat (48 + n / 10), Char.ofNat (48 + n % 10)]

/-- `modify_req_id_retry_segment`, on the characters of the id. -/
def modifyReqIdRetrySegment (reqId : String) : String :=
  let cs := reqId.toList
  let target := (cs.drop 16).take 2
  if 16 < cs.length && target.all Char.isDigit then
    let digit := target.foldl (fun n c => 10 * n + (c.toNat - 48)) 0
    String.ofList (cs.take 16 ++ twoDigits ((digit + 1) % 100) ++ cs.drop 18)
  else reqId

def copyReqDataForEngine (reqData : JsonObj) : JsonObj :=
  if coordinatorOnlyReqKeys.any fun k => reqData.contains k then
    reqData.filter fun item => item.1 ∉ coordinatorOnlyReqKeys
  else reqData

def isRecomputedNonstreamResponse (respJson : JsonObj) : Except PyException Bool :=
  let choices := Json.orElse (respJson.get? "choices") (.arr [])
  if choices.truthy then do
    let c0 ← (← choices.head).asObj
    return Json.eqStr (c0.get? "stop_reason") "recomputed"
  else .ok false

/-- `usage.completion_tokens` as `validate_nonstream_recompute_body` reads it. -/
def usageCompletionTokens (respJson : JsonObj) : Int :=
  match respJson.get? "usage" with
  | some (.obj usage) => ((JsonObj.get? usage "completion_tokens").getD (.int 0)).toInt?.getD 0
  | _ => 0

/-- The output ids of `validate_nonstream_recompute_body`. -/
def validateOutputIds (respJson c0 : JsonObj) : Except PyException Unit :=
  let missing : Except PyException Unit :=
    if 0 < usageCompletionTokens respJson then
      .error (.httpException 502 ("Recompute requires non-stream choices[0].token_ids when " ++
        "usage.completion_tokens > 0."))
    else .ok ()
  match c0.get? "token_ids" with
  | none => missing
  | some .null => missing
  | some (.arr []) => missing
  | some (.arr _) => .ok ()
  | some _ => .error (.httpException 502
      "Recompute token cache corrupted: non-stream choices[0].token_ids is not a list.")

def validateNonstreamRecomputeBody (respJson : JsonObj) : Except PyException Unit := do
  let choices := Json.orElse (respJson.get? "choices") (.arr [])
  match ← if choices.truthy then choices.head else .ok .null with
  | .obj c0 =>
    let promptIds :=
      if Json.isNotNone (respJson.get? "prompt_token_ids") then respJson.get? "prompt_token_ids"
      else JsonObj.get? c0 "prompt_token_ids"
    match promptIds with
    | some (.arr (_ :: _)) => validateOutputIds respJson c0
    | _ => .error (.httpException 502 ("Recompute requires non-stream prompt_token_ids; " ++
        "ensure decode returns return_token_ids."))
  | _ => .error (.httpException 502 "Recompute non-stream response malformed: missing choices[0].")

/-- A part of a message that is not text. -/
def isNonTextPart : Json → Bool
  | .obj part =>
    let ptype := (JsonObj.get? part "type").getD .null
    ptype.truthy && !Json.eqStr (some ptype) "text"
  | _ => false

/-- The messages have only texts. -/
def messagesTextOnly : List Json → Except PyException Bool
  | [] => .ok true
  | msg :: rest => do
    let msg ← msg.asObj
    match msg.get? "content" with
    | some (.arr parts) => if parts.any isNonTextPart then return false else messagesTextOnly rest
    | _ => messagesTextOnly rest

def completionsRetryEligibleForChatRequest (reqData : JsonObj) : Except PyException Bool :=
  let formatOk :=
    match reqData.get? "response_format" with
    | none => true
    | some .null => true
    | some (.obj rf) =>
      !Json.isNotNone (JsonObj.get? rf "type") || Json.eqStr (JsonObj.get? rf "type") "text"
    | some _ => false
  if !formatOk then .ok false
  else if ["tools", "logprobs", "top_logprobs"].any fun k => ((reqData.get? k).getD .null).truthy then .ok false
  else
    match Json.orElse (reqData.get? "messages") (.arr []) with
    | .arr messages => messagesTextOnly messages
    | .obj _ => .error (.builtin "AttributeError")
    | .str _ => .error (.builtin "AttributeError")
    | _ => .error (.builtin "TypeError")

def buildRequestInfoForNonstreamRecompute (reqData respJson : JsonObj) : Except PyException RequestTrack := do
  let info ← extractRequestInfo reqData
  let info ← updateTokenIdCache info respJson
  let choices := Json.orElse (respJson.get? "choices") (.arr [])
  if choices.truthy then
    let c0 ← (← choices.head).asObj
    let content ← extractContentFromChoice c0
    let usage ← ((respJson.get? "usage").getD (.obj [])).asObj
    fillRecomputeKvFromTokenCache
      { info with
        generatedToken := content
        completionTokens := (usage.get? "completion_tokens").getD (.int 0) }
  else fillRecomputeKvFromTokenCache info

/-- What `prepare_retry_request` writes: the request of the next leg, and of `req_info` its length, the
engine api when it changes and the engine mode. -/
structure RetryRequest where
  reqData : JsonObj
  reqLen : Nat
  api : Option String
  recomputeEngineMode : Option String

/-- The budget of the next leg. -/
def retryMaxTokens (originCap : Json) (cumulative : Int) : Except PyException Json := do
  let raw ← originCap.addInt (-cumulative)
  return (← raw.addInt 1).maxOne

def prepareRetryRequest (codec : JsonCodec) (reqData : JsonObj) (track : RequestTrack) :
    Except PyException RetryRequest :=
  match track.recomputeKvTransfer with
  | none => .error (.httpException 502 "Recompute requires token id cache (all_token_ids and prompt_token_ids)")
  | some (allIds, promptIds) =>
    match ((reqData.get? "n").getD (.int 1)).toInt? with
    | none => .error (.httpException 502 "Recompute aborted: invalid n parameter.")
    | some n =>
      if n ≠ 1 then .error (.httpException 502 "Recompute does not support parallel sampling (n>1).")
      else do
        let originCap := (reqData.get? "_origin_max_tokens").getD track.originMaxTokens
        let reqData := if reqData.contains "_origin_max_tokens" then reqData
          else reqData.set "_origin_max_tokens" originCap
        let prev := (((reqData.get? "_cumulative_completion_tokens").getD (.int 0)).toInt?).getD 0
        let cumulative := prev + (allIds.length - promptIds.length)
        let reqData := reqData.set "_cumulative_completion_tokens" (.int cumulative)
        let reqData := (reqData.set "max_tokens" (← retryMaxTokens originCap cumulative)).pop "kv_transfer_params"
        if track.chatFlag then
          if ← completionsRetryEligibleForChatRequest reqData then
            let reqData := (chatOnlyKeysRecompute.foldl JsonObj.pop reqData).set "prompt" (.arr allIds)
            return ⟨reqData, (codec.dumps (.obj (copyReqDataForEngine reqData))).length, some "v1/completions",
              some "completions"⟩
          else .error (.httpException 502 ("Recompute is not supported for this Chat request (tools, logprobs, " ++
            "top_logprobs, non-text multimodal content, structured " ++
            "response_format, or n>1). vLLM does not accept token-id arrays in Chat messages."))
        else
          let reqData := reqData.set "prompt" (.arr allIds)
          return ⟨reqData, (codec.dumps (.obj (copyReqDataForEngine reqData))).length, none, none⟩

/-- What `prepare_retry_request` has written to the request when it raises. -/
def failedRetryReqData (reqData : JsonObj) (track : RequestTrack) : JsonObj :=
  match track.recomputeKvTransfer with
  | none => reqData
  | some (allIds, promptIds) =>
    if ((reqData.get? "n").getD (.int 1)).toInt? ≠ some 1 then reqData
    else
      let originCap := (reqData.get? "_origin_max_tokens").getD track.originMaxTokens
      let reqData := if reqData.contains "_origin_max_tokens" then reqData
        else reqData.set "_origin_max_tokens" originCap
      let prev := (((reqData.get? "_cumulative_completion_tokens").getD (.int 0)).toInt?).getD 0
      let cumulative := prev + (allIds.length - promptIds.length)
      let reqData := reqData.set "_cumulative_completion_tokens" (.int cumulative)
      match retryMaxTokens originCap cumulative with
      | .error _ => reqData
      | .ok maxTokens => (reqData.set "max_tokens" maxTokens).pop "kv_transfer_params"

def recomputeLimitReached (currentRetryCount maxRetry : Nat) : Bool := maxRetry ≤ currentRetryCount

end PyMotor.Recompute
