import Mathlib.Algebra.Order.Ring.Nat
import Mathlib.Algebra.Order.Ring.Rat
import PyMotor.Recompute.Retry

/-!
# Rounds of recomputes

A round fills the token cache from the chunks of a leg and rewrites the request. Between two rounds the routers
put the KV parameters of the next leg into the request.
-/

namespace PyMotor

namespace Lib.Json

/-- The value of a number. -/
def number? : Json → Option ℚ
  | .bool b => some (if b then 1 else 0)
  | .int n => some n
  | .float q => some q
  | _ => none

end Lib.Json

namespace Recompute

open Lib

/-- The output ids of a chunk. -/
def chunkTokenIds (chunk : JsonObj) : List Json :=
  match Json.orElse (chunk.get? "choices") (.arr []) with
  | .arr (.obj c0 :: _) =>
    match JsonObj.get? c0 "token_ids" with
    | some (.arr ids) => ids
    | _ => []
  | _ => []

/-- The prompt ids of a chunk. -/
def chunkPromptIds (chunk : JsonObj) : Option (List Json) :=
  match chunkPromptTokenIds chunk with
  | .ok (some (.arr ids)) => some ids
  | _ => none

/-- The output of a leg. -/
def legOutput (chunks : List JsonObj) : List Json := chunks.flatMap chunkTokenIds

/-- The prompt ids that a leg reports first. -/
def legPromptIds (chunks : List JsonObj) : Option (List Json) := chunks.findSome? chunkPromptIds

/-- One recompute: `extract_request_info`, the chunks of the leg, and `prepare_retry_request`. -/
def recomputeRound (codec : JsonCodec) (reqData : JsonObj) (chunks : List JsonObj) : Except PyException JsonObj := do
  let track ← extractRequestInfo reqData
  let track ← chunks.foldlM updateTokenIdCache track
  let track ← fillRecomputeKvFromTokenCache track
  let retry ← prepareRetryRequest codec reqData track
  return retry.reqData

/-- The request differs only in what the routers set for a decode leg. -/
def DecodeEdit (reqData sent : JsonObj) : Prop :=
  ∀ k, k ≠ "kv_transfer_params" → k ≠ "return_token_ids" → sent.get? k = reqData.get? k

/-- The engine reports the prompt that it was sent. -/
def Echoes (sent : JsonObj) (chunks : List JsonObj) : Prop :=
  ∀ ids, sent.get? "prompt" = some (.arr ids) → legPromptIds chunks = some ids

/-- Successful rounds, each with the chunks of its leg; the engine echoes the prompts of the later legs. -/
inductive Rounds (codec : JsonCodec) (reqData₀ : JsonObj) : List (List JsonObj) → JsonObj → Prop
  | start : Rounds codec reqData₀ [] reqData₀
  | round {legs : List (List JsonObj)} {reqData sent reqData' : JsonObj} {chunks : List JsonObj}
      (before : Rounds codec reqData₀ legs reqData) (edit : DecodeEdit reqData sent)
      (echo : legs ≠ [] → Echoes sent chunks) (ok : recomputeRound codec sent chunks = .ok reqData') :
      Rounds codec reqData₀ (legs ++ [chunks]) reqData'

/-- The budget of the client's request. -/
def clientMaxTokens (reqData : JsonObj) : Json := (reqData.get? "max_tokens").getD (.int 16)

/-- The budget that a round counts against. -/
def originMaxTokens (reqData : JsonObj) : Json :=
  (reqData.get? "_origin_max_tokens").getD (clientMaxTokens reqData)

/-- The completion tokens that a request has stored. -/
def storedCumulative (reqData : JsonObj) : Int :=
  (((reqData.get? "_cumulative_completion_tokens").getD (.int 0)).toInt?).getD 0

/-- The output of all legs. -/
def outputs (legs : List (List JsonObj)) : List Json := legs.flatMap legOutput

/-- What the request holds after the rounds `legs`. -/
structure LedgerClosed (codec : JsonCodec) (reqData₀ : JsonObj) (legs : List (List JsonObj)) (reqData : JsonObj) :
    Prop where
  cumulative : reqData.get? "_cumulative_completion_tokens" =
    some (.int ((legs.map fun chunks => (legOutput chunks).length).sum : Nat))
  prompt : ∃ ids, legs.head?.bind legPromptIds = some ids ∧
    reqData.get? "prompt" = some (.arr (ids ++ outputs legs))
  origin : reqData.get? "_origin_max_tokens" = some (clientMaxTokens reqData₀)
  maxTokens : ∃ q m, (clientMaxTokens reqData₀).number? = some q ∧
    (reqData.get? "max_tokens").bind Json.number? = some m ∧ m = max 1 (q - (outputs legs).length + 1) ∧ 1 ≤ m
  nonIncreasing : ∀ sent chunks reqData', DecodeEdit reqData sent → Echoes sent chunks →
    recomputeRound codec sent chunks = .ok reqData' → ∃ m m', (reqData.get? "max_tokens").bind Json.number? = some m ∧
      (reqData'.get? "max_tokens").bind Json.number? = some m' ∧ m' ≤ m
  engine : ∀ k, (copyReqDataForEngine reqData).get? k = if k ∈ coordinatorOnlyReqKeys then none else reqData.get? k

/-! ## Bodies without streaming -/

/-- A request that can be recomputed: one sequence, a budget that is a number, and a prompt or text messages. -/
structure Eligible (reqData : JsonObj) : Prop where
  single : ((reqData.get? "n").getD (.int 1)).toInt? = some 1
  budget : ∃ q, (originMaxTokens reqData).number? = some q
  prompt : ∃ prompt, originPromptForRecompute reqData = .ok prompt
  chat : reqData.contains "messages" = true → completionsRetryEligibleForChatRequest reqData = .ok true

/-- The text of the first choice. -/
def bodyText (body : JsonObj) : String :=
  match JsonObj.get? body "choices" with
  | some (.arr (.obj c0 :: _)) =>
    match extractContentFromChoice c0 with
    | .ok text => text
    | .error _ => ""
  | _ => ""

/-- A recomputed body with valid token ids. -/
structure RecomputedBody (body : JsonObj) : Prop where
  recomputed : isRecomputedNonstreamResponse body = .ok true
  valid : validateNonstreamRecomputeBody body = .ok ()
  content : ∀ c0 rest, body.get? "choices" = some (.arr (.obj c0 :: rest)) → ∃ text, extractContentFromChoice c0 = .ok text
  usage : ∀ u, body.get? "usage" = some u → ∃ usage, u = .obj usage

/-- A body with a first choice that is not recomputed; a completion has its text in the choice itself. -/
structure NormalBody (body : JsonObj) : Prop where
  normal : isRecomputedNonstreamResponse body = .ok false
  choice : ∃ c0 rest, body.get? "choices" = some (.arr (.obj c0 :: rest)) ∧
    (Json.eqStr (body.get? "object") "text_completion" = true →
      JsonObj.get? c0 "delta" = none ∧ JsonObj.get? c0 "message" = none)

end Recompute

end PyMotor
