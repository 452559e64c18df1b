import PyMotor.Lib.Json

/-!
# Request tracking for recompute

`motor/coordinator/router/recompute/common.py`, with the exceptions that the routers meet.
-/

namespace PyMotor

open Lib

/-- An exception of class `Exception`. `builtin` is an error of the language, whose text is not in the source. -/
inductive PyException
  | httpException (status : Nat) (detail : String)
  | httpStatusError (status : Nat) (message : String)
  | other (type message : String)
  | builtin (type : String)
deriving DecidableEq, Repr

/-- What an await can raise: an exception, or `asyncio.CancelledError` or `GeneratorExit`, which
`except Exception` lets pass. -/
inductive Raised
  | exception (e : PyException)
  | cancelled
deriving DecidableEq, Repr

theorem bind_eq_ok {α β : Type} {x : Except PyException α} {f : α → Except PyException β} {r : β} :
    (x >>= f) = .ok r ↔ ∃ a, x = .ok a ∧ f a = .ok r := by
  cases x with
  | error e => simp [bind, Except.bind]
  | ok a => simp [bind, Except.bind]

namespace Lib.Json

/-- The dictionary of `x.get(...)`. -/
def asObj : Json → Except PyException JsonObj
  | .obj d => .ok d
  | _ => .error (.builtin "AttributeError")

theorem asObj_ok {x : Json} {d : JsonObj} (h : x.asObj = .ok d) : x = .obj d := by
  cases x <;> simp_all [asObj]

/-- `x[0]`. -/
def head : Json → Except PyException Json
  | .arr (x :: _) => .ok x
  | .arr [] => .error (.builtin "IndexError")
  | .str s =>
    match s.toList with
    | c :: _ => .ok (.str (String.ofList [c]))
    | [] => .error (.builtin "IndexError")
  | .obj _ => .error (.builtin "KeyError")
  | _ => .error (.builtin "TypeError")

theorem head_obj {x : Json} {d : JsonObj} (h : x.head = .ok (.obj d)) : ∃ rest, x = .arr (.obj d :: rest) := by
  cases x with
  | arr xs =>
      cases xs with
      | nil => simp [head] at h
      | cons y rest => exact ⟨rest, by simpa [head] using h⟩
  | str s =>
      simp only [head] at h
      split at h <;> cases h
  | _ => simp [head] at h

/-- The elements of `for y in x`; the characters of a text and the keys of a dictionary are no dictionaries. -/
def iterate : Json → Except PyException (List Json)
  | .arr xs => .ok xs
  | .str _ => .ok []
  | .obj _ => .ok []
  | _ => .error (.builtin "TypeError")

/-- `x + n` for an integer `n`. -/
def addInt (n : Int) : Json → Except PyException Json
  | .bool b => .ok (.int ((if b then 1 else 0) + n))
  | .int m => .ok (.int (m + n))
  | .float q => .ok (.float (q + n))
  | _ => .error (.builtin "TypeError")

/-- `max(1, x)` for a number. -/
def maxOne : Json → Json
  | .int n => .int (max 1 n)
  | .float q => if 1 < q then .float q else .int 1
  | x => x

end Lib.Json

namespace Recompute

def coordinatorOnlyReqKeys : List String :=
  ["_origin_max_tokens", "_cumulative_completion_tokens", "_client_return_token_ids"]

def chatOnlyKeysRecompute : List String :=
  ["messages", "tools", "tool_choice", "functions", "function_call", "modalities", "parallel_tool_calls",
    "response_format", "reasoning_effort", "include_reasoning", "audio", "metadata"]

def recomputeDisabledHttpException : PyException :=
  .httpException 503 "Coordinator recompute is disabled (exception_config.recompute_enabled=false)."

/-- The text of a choice: of its delta, else of its message, else its own. -/
def extractContentFromChoice (choice : JsonObj) : Except PyException String := do
  let delta ← (Json.orElse (choice.get? "delta") (.obj [])).asObj
  let content := (delta.get? "content").getD .null
  let raw ←
    if content.truthy then .ok content
    else do
      let message ← (Json.orElse (choice.get? "message") (.obj [])).asObj
      .ok (Json.orElse (message.get? "content") (Json.orElse (choice.get? "text") (.str "")))
  match raw with
  | .str s => return s
  | _ => return ""

/-- The dictionary `request_info`: what a decode leg tells about a later recompute. -/
structure RequestTrack where
  streamFlag : Bool
  chatFlag : Bool
  originPrompt : Json
  originMaxTokens : Json
  generatedToken : String := ""
  completionTokens : Json := .int 0
  cachedPromptTokenIds : Option (List Json) := none
  cachedOutputTokenIds : List Json := []
  clientReturnTokenIds : Bool
  recomputeBlockedByPolicy : Bool := false
  /-- `all_token_ids` and `prompt_token_ids` of `recompute_kv_transfer`. -/
  recomputeKvTransfer : Option (List Json × List Json) := none

def originPromptForRecompute (reqData : JsonObj) : Except PyException Json :=
  match reqData.get? "prompt" with
  | some prompt => .ok prompt
  | none =>
    let messages := Json.orElse (reqData.get? "messages") (.arr [])
    if messages.truthy then do
      match ← messages.head with
      | .obj first => return (JsonObj.get? first "content").getD (.str "")
      | _ => return .str ""
    else .ok (.str "")

def extractRequestInfo (reqData : JsonObj) : Except PyException RequestTrack := do
  let originPrompt ← originPromptForRecompute reqData
  return {
    streamFlag := ((reqData.get? "stream").getD (.bool false)).truthy
    chatFlag := reqData.contains "messages"
    originPrompt := originPrompt
    originMaxTokens := (reqData.get? "_origin_max_tokens").getD ((reqData.get? "max_tokens").getD (.int 16))
    clientReturnTokenIds := ((reqData.get? "_client_return_token_ids").getD (.bool false)).truthy }

end Recompute

end PyMotor
