import PyMotor.Recompute.Common

/-!
# Decode stream chunks

`motor/coordinator/router/recompute/stream.py`. `json.loads` and the JSON encoders are parameters.
-/

/-!
## Completion chunks in the shape of chat chunks

`motor/coordinator/router/adapters/completion_to_chat.py`. A chunk is changed in place, so the functions
return the new chunk.
-/

namespace PyMotor.Recompute

open Lib

/-- `_lift_prompt_token_ids_from_choice`, on the response; the choice is cleared afterwards. -/
def liftPromptTokenIdsFromChoice (choice response : JsonObj) : JsonObj :=
  match choice.get? "prompt_token_ids" with
  | none => response
  | some .null => response
  | some ids => if Json.isNotNone (response.get? "prompt_token_ids") then response
    else response.set "prompt_token_ids" ids

def chatCompletionId (reqId : String) : String :=
  "chatcmpl-" ++ (reqId.replace "cmpl-" "").replace "chatcmpl-" ""

def isCompletionLikeStreamChunk (chunkJson : JsonObj) : Except PyException Bool :=
  if Json.eqStr (chunkJson.get? "object") "text_completion" then .ok true
  else
    let choices := Json.orElse (chunkJson.get? "choices") (.arr [])
    if choices.truthy then do
      let c0 ← (← choices.head).asObj
      return !((c0.get? "delta").getD .null).truthy && c0.contains "text"
    else .ok false

/-- `c[key] = value` when the value is not `None`. -/
def setIfNotNone (choice : JsonObj) (key : String) (value : Option Json) : JsonObj :=
  match value with
  | none => choice
  | some .null => choice
  | some v => choice.set key v

/-- `choices[0]` replaced. -/
def setChoice0 (chunkJson : JsonObj) (choices : Json) (choice : JsonObj) : JsonObj :=
  match choices with
  | .arr (_ :: rest) => chunkJson.set "choices" (.arr (.obj choice :: rest))
  | _ => chunkJson

/-- `adapt_completion_stream_chunk_to_chat`; `roleSent` is `stream_role_sent` of the stream state. -/
def adaptCompletionStreamChunkToChat (chunkJson : JsonObj) (reqId : String) (roleSent : Bool) :
    Except PyException (JsonObj × Bool) :=
  let chunkJson := (chunkJson.set "object" (.str "chat.completion.chunk")).set "id" (.str (chatCompletionId reqId))
  let choices := Json.orElse (chunkJson.get? "choices") (.arr [])
  if choices.truthy then do
    let c0 ← (← choices.head).asObj
    let text := Json.orElse (c0.get? "text") (.str "")
    let chunkJson := liftPromptTokenIdsFromChoice c0 chunkJson
    let delta : JsonObj := if roleSent then [] else [("role", .str "assistant")]
    let delta := if text.truthy then delta.set "content" text else delta
    let adapted : JsonObj := [("index", (c0.get? "index").getD (.int 0)), ("delta", .obj delta)]
    let adapted := setIfNotNone adapted "finish_reason" (c0.get? "finish_reason")
    let adapted := setIfNotNone adapted "stop_reason" (c0.get? "stop_reason")
    return (setChoice0 chunkJson choices adapted, true)
  else .ok (chunkJson, roleSent)

def adaptCompletionNonstreamToChat (body : JsonObj) (reqId : String) : Except PyException JsonObj :=
  let body := (body.set "object" (.str "chat.completion")).set "id" (.str (chatCompletionId reqId))
  let choices := Json.orElse (body.get? "choices") (.arr [])
  if choices.truthy then do
    let c0 ← (← choices.head).asObj
    let text := Json.orElse (c0.get? "text") (.str "")
    let body := liftPromptTokenIdsFromChoice c0 body
    let adapted : JsonObj :=
      [("index", .int 0), ("message", .obj [("role", .str "assistant"), ("content", text)])]
    let adapted := setIfNotNone adapted "finish_reason" (c0.get? "finish_reason")
    let adapted := setIfNotNone adapted "stop_reason" (c0.get? "stop_reason")
    let adapted := setIfNotNone adapted "token_ids" (c0.get? "token_ids")
    return setChoice0 body choices adapted
  else .ok body

/-- The JSON library: `json.loads`, `_compact_json_bytes` and `json.dumps(...).encode("utf-8")`. -/
structure JsonCodec where
  /-- `none` for a `JSONDecodeError`, else the name of the error: an integer may have too many digits for the language
  (`ValueError`), and a text may be nested too deeply (`RecursionError`). -/
  loads : List Char → Except String (Option Json)
  compact : Json → Bytes
  dumps : Json → Bytes

variable (codec : JsonCodec)

/-- `"data: "`. -/
def dataPrefix : List Char := ['d', 'a', 't', 'a', ':', ' ']

/-- `b"data: "`. -/
def dataPrefixBytes : Bytes := [100, 97, 116, 97, 58, 32]

/-- `"[DONE]" in text`. Decoding with replacement keeps the ASCII bytes, and stripping takes none of these. -/
def containsDone (chunk : Bytes) : Bool := Bytes.contains [91, 68, 79, 78, 69, 93] chunk

def parseStreamChunkJson (chunk : Bytes) : Except PyException (Option Json) :=
  match chunk.decodeUtf8 with
  | none => .ok none
  | some text =>
    let chunkStr := Text.strip text
    if chunkStr.isEmpty then .ok none
    else
      match codec.loads (if Text.startsWith dataPrefix chunkStr then chunkStr.drop dataPrefix.length else chunkStr) with
      | .error type => .error (.builtin type)
      -- The value `None` of the text `null` is taken for no JSON at all.
      | .ok (some .null) => .ok none
      | .ok parsed => .ok parsed

/-- `prompt_token_ids` of the chunk, or of its first choice. -/
def chunkPromptTokenIds (chunkJson : JsonObj) : Except PyException (Option Json) :=
  if Json.isNotNone (chunkJson.get? "prompt_token_ids") then .ok (chunkJson.get? "prompt_token_ids")
  else
    let choices := Json.orElse (chunkJson.get? "choices") (.arr [])
    if choices.truthy then do
      match ← choices.head with
      | .obj c0 => return JsonObj.get? c0 "prompt_token_ids"
      | _ => return none
    else .ok none

def updateTokenIdCache (track : RequestTrack) (chunkJson : JsonObj) : Except PyException RequestTrack := do
  let track :=
    match ← chunkPromptTokenIds chunkJson, track.cachedPromptTokenIds with
    | some (.arr ids), none => { track with cachedPromptTokenIds := some ids }
    | _, _ => track
  let choices := Json.orElse (chunkJson.get? "choices") (.arr [])
  if choices.truthy then
    let c0 ← (← choices.head).asObj
    match c0.get? "token_ids" with
    | some (.arr ids) => return { track with cachedOutputTokenIds := track.cachedOutputTokenIds ++ ids }
    | _ => return track
  else return track

def fillRecomputeKvFromTokenCache (track : RequestTrack) : Except PyException RequestTrack :=
  match track.cachedPromptTokenIds with
  | some (x :: prompt) =>
    .ok { track with
      recomputeKvTransfer := some (x :: prompt ++ track.cachedOutputTokenIds, x :: prompt) }
  | _ => .error (.httpException 502 ("Recompute requires cached prompt_token_ids from stream or response; " ++
      "enable return_token_ids on decode requests."))

def updateCompletionTokens (track : RequestTrack) (chunkJson : JsonObj) : Except PyException RequestTrack :=
  if track.streamFlag then do
    return { track with completionTokens := ← track.completionTokens.addInt 1 }
  else do
    let usage ← ((chunkJson.get? "usage").getD (.obj [])).asObj
    match (usage.get? "completion_tokens").getD (.int 0) with
    | .int n => return { track with completionTokens := ← track.completionTokens.addInt n }
    | .bool b => return { track with completionTokens := ← track.completionTokens.addInt (if b then 1 else 0) }
    | .float q =>
      match track.completionTokens with
      | .int n => return { track with completionTokens := .float (n + q) }
      | .float p => return { track with completionTokens := .float (p + q) }
      | _ => .error (.builtin "TypeError")
    | _ => .error (.builtin "TypeError")

/-- One choice of `strip_openai_token_id_fields_for_client`. -/
def stripChoice (clientReturnTokenIds : Bool) (choice : Json) : Json :=
  match choice with
  | .obj ch =>
    let ch : JsonObj := if clientReturnTokenIds then ch else (JsonObj.pop ch "token_ids").pop "prompt_token_ids"
    .obj (if Json.eqStr (ch.get? "stop_reason") "recomputed" then ch.set "stop_reason" (.str "stop") else ch)
  | other => other

def stripOpenaiTokenIdFieldsForClient (obj : JsonObj) (clientReturnTokenIds : Bool) : Except PyException JsonObj := do
  let obj := if clientReturnTokenIds then obj else obj.pop "prompt_token_ids"
  let choices := Json.orElse (obj.get? "choices") (.arr [])
  let _ ← choices.iterate
  match choices with
  | .arr (x :: xs) => return obj.set "choices" (.arr ((x :: xs).map (stripChoice clientReturnTokenIds)))
  | _ => return obj

/-- The line end of a chunk. -/
def lineEnd (chunk : Bytes) : Bytes :=
  if Bytes.endsWith [13, 10, 13, 10] chunk then [13, 10, 13, 10]
  else if Bytes.endsWith [10, 10] chunk then [10, 10]
  else if Bytes.endsWith [13, 10] chunk then [13, 10]
  else if Bytes.endsWith [10] chunk then [10]
  else []

/-- `encode_stream_chunk_bytes`, on a chunk that `parse_stream_chunk_json` could decode. -/
def encodeStreamChunkBytes (originalChunk : Bytes) (chunkJson : JsonObj) : Bytes :=
  let raw := Text.strip (originalChunk.decodeUtf8.getD [])
  let payload := codec.compact (.obj chunkJson)
  (if Text.startsWith dataPrefix raw then dataPrefixBytes ++ payload else payload) ++ lineEnd originalChunk

/-- `"chat" in api`. -/
def isChatApi (api : String) : Bool := api.toList.tails.any fun t => ['c', 'h', 'a', 't'].isPrefixOf t

def shouldAdaptCompletionStreamToChat (entryApi reqId : String) (chunkJson : JsonObj) : Except PyException Bool :=
  if isChatApi entryApi && reqId ≠ "" then isCompletionLikeStreamChunk chunkJson else .ok false

/-- The chunk is JSON whose first choice has the stop reason `recomputed`. -/
def isRecomputeSignal (frame : Bytes) : Bool :=
  match parseStreamChunkJson codec frame with
  | .ok (some (.obj chunk)) =>
    match JsonObj.get? chunk "choices" with
    | some (.arr (.obj c0 :: _)) => Json.eqStr (JsonObj.get? c0 "stop_reason") "recomputed"
    | _ => false
  | _ => false

/-- What a decode leg keeps between its chunks: `request_info` and the state of the adapter. -/
structure LegTrack where
  track : RequestTrack
  roleSent : Bool := false

/-- `process_stream_chunk` without a `nonstream_retry_patch`, as the routers call it. The result is `none` when
the engine asks for a recompute. -/
def processStreamChunk (chunk : Bytes) (leg : LegTrack) (retryCount : Nat) (entryApi reqId : String)
    (recomputeEnabled : Bool) : Except PyException (Option Bytes × LegTrack) :=
  match parseStreamChunkJson codec chunk with
  | .error e => .error e
  | .ok none => .ok (some (if containsDone chunk then chunk else []), leg)
  | .ok (some parsed) => do
    let chunkJson ← parsed.asObj
    let track ← if recomputeEnabled then updateTokenIdCache leg.track chunkJson else .ok leg.track
    let (chunkJson, roleSent) ←
      if ← shouldAdaptCompletionStreamToChat entryApi reqId chunkJson then
        adaptCompletionStreamChunkToChat chunkJson reqId leg.roleSent
      else .ok (chunkJson, leg.roleSent)
    let choices := (chunkJson.get? "choices").getD (.arr [])
    if choices.truthy then
      let choice0 ← (← choices.head).asObj
      let content ← extractContentFromChoice choice0
      let track ← updateCompletionTokens { track with generatedToken := track.generatedToken ++ content } chunkJson
      if Json.eqStr (choice0.get? "stop_reason") "recomputed" then
        if recomputeEnabled then
          return (none, { track := ← fillRecomputeKvFromTokenCache track, roleSent := roleSent })
        else
          return (none, { track := { track with recomputeBlockedByPolicy := true }, roleSent := roleSent })
      else
        let stripped ← stripOpenaiTokenIdFieldsForClient chunkJson track.clientReturnTokenIds
        if retryCount > 0 && !track.streamFlag then
          return (some (codec.compact (.obj stripped)), { track := track, roleSent := roleSent })
        else return (some (encodeStreamChunkBytes codec chunk stripped), { track := track, roleSent := roleSent })
    else
      let stripped ← stripOpenaiTokenIdFieldsForClient chunkJson track.clientReturnTokenIds
      return (some (encodeStreamChunkBytes codec chunk stripped), { track := track, roleSent := roleSent })

end PyMotor.Recompute
