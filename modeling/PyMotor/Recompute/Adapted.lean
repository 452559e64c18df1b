import PyMotor.Recompute.Filter
import PyMotor.Lib.Lists

/-!
# Completions for a chat client

What a client that asked for a chat gets of the chunks that the engine completes a text in.
-/

namespace PyMotor.Recompute

open Lib

/-! ## The chunks of a leg -/

section

variable (entryApi reqId : String) (enabled : Bool)

/-- `process_stream_chunk` of a streaming request, from the JSON of a chunk to the JSON for the client. -/
def processChunkJson (chunkJson : JsonObj) (leg : LegTrack) : Except PyException (Option JsonObj × LegTrack) := do
  let track ← cacheChunk enabled leg.track chunkJson
  let (chunkJson, roleSent) ← adaptChunk entryApi reqId leg.roleSent chunkJson
  let choices := (chunkJson.get? "choices").getD (.arr [])
  if choices.truthy then
    let choice0 ← (← choices.head).asObj
    let content ← extractContentFromChoice choice0
    let track ← updateCompletionTokens { track with generatedToken := track.generatedToken ++ content } chunkJson
    if Json.eqStr (choice0.get? "stop_reason") "recomputed" then
      if enabled then return (none, { track := ← fillRecomputeKvFromTokenCache track, roleSent := roleSent })
      else return (none, { track := { track with recomputeBlockedByPolicy := true }, roleSent := roleSent })
    else
      let stripped ← stripOpenaiTokenIdFieldsForClient chunkJson track.clientReturnTokenIds
      return (some stripped, { track := track, roleSent := roleSent })
  else
    let stripped ← stripOpenaiTokenIdFieldsForClient chunkJson track.clientReturnTokenIds
    return (some stripped, { track := track, roleSent := roleSent })

/-- What a leg sends of its chunks: a recompute and an error end it. -/
def deliver : LegTrack → List JsonObj → List JsonObj
  | _, [] => []
  | leg, chunk :: chunks =>
    match processChunkJson entryApi reqId enabled chunk leg with
    | .ok (some client, leg) => client :: deliver leg chunks
    | _ => []

end

/-! ## Completions -/

/-- `c.get(key)`. -/
def field (c : JsonObj) (key : String) : Json := (c.get? key).getD .null

def object? : Json → Option JsonObj
  | .obj d => some d
  | _ => none

/-- The objects among the choices. -/
def choicesOf (chunk : JsonObj) : List JsonObj :=
  match chunk.get? "choices" with
  | some (.arr items) => items.filterMap object?
  | _ => []

/-- A choice of a completion. -/
structure CompletionChoice (c : JsonObj) : Prop where
  text : ∃ text, c.get? "text" = some (.str text)
  index : ∃ i, c.get? "index" = some (.int i)
  delta : c.get? "delta" = none
  message : c.get? "message" = none

/-- A completion, with any number of choices. -/
structure TextCompletion (d : JsonObj) : Prop where
  object : d.get? "object" = some (.str "text_completion")
  choices : d.get? "choices" = some (.arr ((choicesOf d).map .obj))
  choice : ∀ c ∈ choicesOf d, CompletionChoice c

/-- The first choice asks for a recompute. -/
def asksRecompute (chunk : JsonObj) : Bool :=
  match choicesOf chunk with
  | c0 :: _ => Json.eqStr (c0.get? "stop_reason") "recomputed"
  | [] => false

/-- A leg: the chunks before a recompute, and the chunk that asks for it. -/
structure CompletionLeg where
  reqId : String
  track : RequestTrack
  shown : List JsonObj
  signal : Option JsonObj

namespace CompletionLeg

def chunks (leg : CompletionLeg) : List JsonObj := leg.shown ++ leg.signal.toList

/-- Every leg begins with an adapter of its own. -/
def delivered (entryApi : String) (enabled : Bool) (leg : CompletionLeg) : List JsonObj :=
  deliver entryApi leg.reqId enabled { track := leg.track } leg.chunks

/-- The leg answers a streaming request with completions. -/
structure Valid (asked : Bool) (leg : CompletionLeg) : Prop where
  reqId : leg.reqId ≠ ""
  request : ∃ reqData, extractRequestInfo reqData = .ok leg.track
  streams : leg.track.streamFlag = true
  returns : leg.track.clientReturnTokenIds = asked
  shown : ∀ chunk ∈ leg.shown, TextCompletion chunk ∧ asksRecompute chunk = false
  signal : ∀ chunk ∈ leg.signal.toList, TextCompletion chunk ∧ asksRecompute chunk = true

end CompletionLeg

/-! ## The answer -/

def choiceText (c : JsonObj) : List Char :=
  match c.get? "text" with
  | some (.str s) => s.toList
  | _ => []

def deltaContent (c : JsonObj) : List Char :=
  match c.get? "delta" with
  | some (.obj delta) =>
    match JsonObj.get? delta "content" with
    | some (.str s) => s.toList
    | _ => []
  | _ => []

def messageContent (c : JsonObj) : Option (List Char) :=
  match c.get? "message" with
  | some (.obj message) =>
    match JsonObj.get? message "content" with
    | some (.str s) => some s.toList
    | _ => none
  | _ => none

def hasRole (c : JsonObj) : Bool :=
  match c.get? "delta" with
  | some (.obj delta) => Json.eqStr (JsonObj.get? delta "role") "assistant"
  | _ => false

def completionText (chunk : JsonObj) : List Char := (choicesOf chunk).flatMap choiceText

def chatContent (chunk : JsonObj) : List Char := (choicesOf chunk).flatMap deltaContent

def hasChoices (chunk : JsonObj) : Bool := !(choicesOf chunk).isEmpty

/-- How often a chunk names the assistant. -/
def roles (chunk : JsonObj) : Nat := (choicesOf chunk).countP hasRole

structure KeepsChoice (asked : Bool) (c client : JsonObj) : Prop where
  fields : ∀ key ∈ ["index", "finish_reason", "stop_reason"], field client key = field c key
  tokenIds : asked = true → field client "token_ids" = field c "token_ids"

/-- The chunks that are sent are the answer: what they say, the choices of the chunks that are shown, and the role. -/
structure Preserves (asked : Bool) (chunks shown sent : List JsonObj) : Prop where
  content : sent.flatMap chatContent = chunks.flatMap completionText
  choices : List.Forall₂ (fun chunk client => List.Forall₂ (KeepsChoice asked) (choicesOf chunk) (choicesOf client))
    shown sent
  role : ∀ first rest, sent.filter hasChoices = first :: rest → roles first = 1 ∧ ∀ client ∈ rest, roles client = 0

/-- Nothing is lost of these legs: the further choices have no text and ask for no recompute, the chunk that asks for one
has no text, the first choices have no ids that the client asked for, and one leg sends all choices. -/
structure Preservable (asked : Bool) (legs : List CompletionLeg) : Prop where
  further : ∀ leg ∈ legs, ∀ chunk ∈ leg.shown, ∀ c ∈ (choicesOf chunk).tail,
    choiceText c = [] ∧ Json.eqStr (c.get? "stop_reason") "recomputed" = false
  signal : ∀ leg ∈ legs, ∀ chunk ∈ leg.signal.toList, completionText chunk = []
  tokenIds : asked = true → ∀ leg ∈ legs, ∀ chunk ∈ leg.shown, ∀ c ∈ (choicesOf chunk).head?,
    field c "token_ids" = .null
  single : (legs.filter fun leg => leg.shown.any hasChoices).length ≤ 1

/-! ## Bodies -/

/-- The adapted body has the text of each choice in its message, and keeps of each choice what a chunk would. -/
structure BodyKept (body adapted streamed : JsonObj) : Prop where
  message : List.Forall₂ (fun c a => messageContent a = some (choiceText c)) (choicesOf body) (choicesOf adapted)
  fields : List.Forall₂ (fun s a => ∀ key, key ≠ "delta" → key ≠ "message" → field s key = field a key)
    (choicesOf streamed) (choicesOf adapted)

/-- Both adapters accept the body. -/
def BodyPreserves (reqId : String) (roleSent : Bool) (body : JsonObj) : Prop :=
  ∃ adapted streamed roleSent', adaptCompletionNonstreamToChat body reqId = .ok adapted ∧
    adaptCompletionStreamChunkToChat body reqId roleSent = .ok (streamed, roleSent') ∧ BodyKept body adapted streamed

/-- The body has at most one choice, at index 0 and without ids. -/
structure BodyPreservable (body : JsonObj) : Prop where
  single : (choicesOf body).length ≤ 1
  fields : ∀ c ∈ choicesOf body, field c "index" = .int 0 ∧ field c "token_ids" = .null

end PyMotor.Recompute
