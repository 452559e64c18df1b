import PyMotor.Lib.Resume
import PyMotor.Recompute.Filter
import PyMotor.Recompute.Rounds
import PyMotor.Router.Framing
import PyMotor.Router.StreamMove

/-!
# What a client gets of a request that is recomputed

An engine with a fixed continuation for every prompt, the legs in which it answers, and the tokens that reach the client.
-/

namespace PyMotor

open Lib Recompute Router

/-- A deterministic engine. `promptIds` is how it reads the prompt or the messages of a request: what the routers set
for a decode leg does not matter to it, and a prompt of token ids is taken as it is. -/
structure Engine extends Generator Int where
  promptIds : JsonObj → List Int
  promptIds_edit : ∀ reqData sent, DecodeEdit reqData sent → promptIds sent = promptIds reqData
  promptIds_tokens : ∀ (reqData : JsonObj) ids, reqData.get? "prompt" = some (.arr (ids.map .int)) →
    reqData.get? "messages" = none → promptIds reqData = ids

/-- The tokens that a request asks for. -/
def askedTokens (reqData : JsonObj) : Nat := ((clientMaxTokens reqData).toInt?.getD 0).toNat

/-- The output for a request that is not interrupted. -/
def Engine.output (engine : Engine) (reqData : JsonObj) : List Int :=
  (engine.cont (engine.promptIds reqData)).take (askedTokens reqData)

section Frames

variable (codec : Recompute.JsonCodec)

def frameJson (frame : Bytes) : Option JsonObj :=
  match parseStreamChunkJson codec frame with
  | .ok (some (.obj d)) => some d
  | _ => none

def framesJson (frames : List Bytes) : List JsonObj := frames.filterMap (frameJson codec)

/-- The tokens of the frames. -/
def framesTokens (frames : List Bytes) : List Json := legOutput (framesJson codec frames)

/-- A chunk with one choice, whose text can be read. -/
def OneChoice (recomputed : Bool) (d : JsonObj) : Prop :=
  ∃ c0 : JsonObj, d.get? "choices" = some (.arr [.obj c0]) ∧ Textual c0 ∧
    Json.eqStr (c0.get? "stop_reason") "recomputed" = recomputed

/-- A frame of a token batch, or one without JSON, such as the end of the stream. -/
def IsBatch (frame : Bytes) : Prop :=
  parseStreamChunkJson codec frame = .ok none ∨
    ∃ d, parseStreamChunkJson codec frame = .ok (some (.obj d)) ∧ OneChoice false d

/-- The client gets something of the frame. -/
def isShown (frame : Bytes) : Bool := (frameJson codec frame).isSome || containsDone frame

/-- The frames that the client has got. -/
def deliveredFrames (out : List StreamOutput) : List Bytes :=
  out.filterMap fun
    | .chunk frame _ => some frame
    | .error _ => none

/-- The tokens of the frames that the client has got. -/
def deliveredTokens (out : List StreamOutput) : List Json := framesTokens codec (deliveredFrames out)

end Frames

/-! ## The bytes for the client -/

/-- The client has asked for the ids of the tokens. -/
def asksTokenIds (reqData : JsonObj) : Bool := ((reqData.get? "_client_return_token_ids").getD (.bool false)).truthy

/-- The choice of a completion, as the choice of a chat. -/
structure ChatChoice (c0 client : JsonObj) : Prop where
  text : ∃ delta : JsonObj, client.get? "delta" = some (.obj delta) ∧
    delta.get? "content" = if ((c0.get? "text").getD .null).truthy then c0.get? "text" else none
  finish : (client.get? "finish_reason").getD .null = (c0.get? "finish_reason").getD .null

/-- The object of a batch without the ids that were not asked for, or the text of its choice for a chat. -/
inductive ClientBatch (asked : Bool) (d : JsonObj) : JsonObj → Prop
  | same {client : JsonObj} (h : ClientJson asked d client) : ClientBatch asked d client
  | chat {c0 c client : JsonObj} (completed : d.get? "choices" = some (.arr [.obj c0]))
      (sent : client.get? "choices" = some (.arr [.obj c])) (choice : ChatChoice c0 c) : ClientBatch asked d client

/-- What the client is to get of a frame: its batch, between its prefix and the blank line that ends it, or the frame itself
when it is no JSON. -/
inductive ClientBytes (codec : Recompute.JsonCodec) (asked : Bool) (frame : Bytes) : Bytes → Prop
  | batch {d client : JsonObj} {ending : Bytes} (parsed : parseStreamChunkJson codec frame = .ok (some (.obj d)))
      (json : ClientBatch asked d client) (lineEnds : ∀ b ∈ ending, isLineEnd b = true)
      (ends : ∀ blank, Delimiter blank → blank <:+ frame → blank <:+ ending) :
      ClientBytes codec asked frame
        ((if hasDataPrefix frame then dataPrefixBytes else []) ++ codec.compact (.obj client) ++ ending)
  | other (parsed : parseStreamChunkJson codec frame = .ok none) : ClientBytes codec asked frame frame

/-- The chunks have the bytes of their frames. -/
def Router.Carries (codec : Recompute.JsonCodec) (asked : Bool) (out : List StreamOutput) : Prop :=
  ∀ frame bytes, .chunk frame bytes ∈ out → ClientBytes codec asked frame bytes

/-! ## Legs -/

/-- The engine cannot be reached, or the connection breaks before its first byte. -/
structure Router.DecodeStream.Fails (stream : DecodeStream) (e : PyException) : Prop where
  transport : e.isHttp = false
  broken : stream.connect = some (.exception e) ∨
    stream.connect = none ∧ stream.chunks = [] ∧ stream.ending = some (.exception e)

/-- The engine emits its output in batches. -/
structure Engine.Finishes (engine : Engine) (codec : Recompute.JsonCodec) (reqData : JsonObj) (stream : DecodeStream) :
    Prop where
  connect : stream.connect = none
  ending : stream.ending = none
  batches : ∀ frame ∈ stream.frames, IsBatch codec frame
  tokens : framesTokens codec stream.frames = (engine.output reqData).map .int

/-- The engine emits a part of its output, and then asks for a recompute. -/
structure Engine.Interrupts (engine : Engine) (codec : Recompute.JsonCodec) (reqData : JsonObj) (stream : DecodeStream)
    (before : List Bytes) (signal : Bytes) (part : List Int) : Prop where
  connect : stream.connect = none
  frames : before ++ [signal] <+: stream.frames
  batches : ∀ frame ∈ before, IsBatch codec frame
  asks : ∃ d, parseStreamChunkJson codec signal = .ok (some (.obj d)) ∧ OneChoice true d ∧ chunkTokenIds d = []
  tokens : framesTokens codec before = part.map .int
  part : part <+: engine.output reqData
  prompt : legPromptIds (framesJson codec (before ++ [signal])) = some ((engine.promptIds reqData).map .int)

/-- How the engine answers to a request. -/
inductive Engine.Answers (engine : Engine) (codec : Recompute.JsonCodec) (reqData : JsonObj) :
    LegFate Int → DecodeStream → Prop
  | failed {stream : DecodeStream} {e : PyException} (h : stream.Fails e) : Answers engine codec reqData .failed stream
  | interrupted {stream : DecodeStream} {before : List Bytes} {signal : Bytes} {part : List Int}
      (h : engine.Interrupts codec reqData stream before signal part) :
      Answers engine codec reqData (.interrupted (before.any (isShown codec)) part) stream
  | finished {stream : DecodeStream} (h : engine.Finishes codec reqData stream) :
      Answers engine codec reqData .finished stream

/-- A leg that is scheduled: its prefill fails, or it answers, and the decode engine answers to what it is sent. -/
inductive PdLeg.Asks (engine : Engine) (env : RouterEnv) (s : Router) : LegFate Int × PdLeg DecodeStream → Prop
  | prefillFails {leg : PdLeg DecodeStream} {iid eid : Int} {e : PyException}
      (prefillSelect : selected env.maxRetry leg.prefillSelect = .allocated iid eid)
      (prefill : leg.prefill = .error (.exception e)) : Asks engine env s (.failed, leg)
  | served {fate : LegFate Int} {leg : PdLeg DecodeStream} {iidP eidP iidD eidD : Int} {resp sent : JsonObj}
      (prefillSelect : selected env.maxRetry leg.prefillSelect = .allocated iidP eidP)
      (prefill : leg.prefill = .ok (.obj resp))
      (decodeSelect : selected env.maxRetry leg.decodeSelect = .allocated iidD eidD)
      (request : genDRequest env s (.obj resp) = .ok sent)
      (answers : engine.Answers env.codec (copyReqDataForEngine sent) fate leg.decode) : Asks engine env s (fate, leg)

structure CdpLeg.Asks (engine : Engine) (env : RouterEnv) (reqData : JsonObj) (x : LegFate Int × CdpLeg DecodeStream) :
    Prop where
  decodeSelect : ∃ iid eid, selected env.maxRetry x.2.decodeSelect = .allocated iid eid
  awake : x.2.sleepCancelled = false
  answers : engine.Answers env.codec (copyReqDataForEngine (attachCdpDecodeKvParams env reqData)) x.1 x.2.decode

/-- Legs that are run while the handler is running, and only the last one of which runs to its end. -/
structure CompleteRun {σ ε : Type} (step : σ → ε → σ) (view : σ → StreamView) (asks : σ → LegFate Int × ε → Prop) (s : σ)
    (legs : List (LegFate Int × ε)) (last : ε) : Prop where
  asks : Along (fun s x => step s x.2) (fun s x => (view s).ended = none → asks s x) s (legs ++ [(.finished, last)])
  unfinished : .finished ∉ legs.map Prod.fst

/-! ## Requests -/

/-- Recomputes are enabled, the scheduler answers with the roles that it is asked for, the client stays, and objects are
written between braces. -/
structure RouterEnv.Relays (env : RouterEnv) : Prop where
  enabled : env.recomputeEnabled = true
  roles : env.AnswersAsRequested
  client : ∀ k, env.closesAt k = false
  codec : env.codec.Braced

/-- A streaming request that can be recomputed, and brings no count of the coordinator. -/
structure Recompute.ClientRequest (maxTokens : Nat) (reqData : JsonObj) : Prop where
  eligible : Eligible reqData
  streams : ((reqData.get? "stream").getD (.bool false)).truthy = true
  budget : reqData.get? "max_tokens" = some (.int maxTokens)
  origin : reqData.get? "_origin_max_tokens" = none
  cumulative : reqData.get? "_cumulative_completion_tokens" = none

/-- The stream has ended without an error, and the client has got the bytes of frames with these tokens. -/
structure StreamView.Delivers (codec : Recompute.JsonCodec) (asked : Bool) (v : StreamView) (tokens : List Int) : Prop where
  ended : v.ended = some .returned
  chunks : AllChunks v.out
  bytes : Carries codec asked v.out
  tokens : deliveredTokens codec v.out = tokens.map .int

end PyMotor
