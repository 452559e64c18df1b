import PyMotor.Lib.Ledger
import PyMotor.Router.PdSeparate

/-!
# What a router owes

The workload changes that the scheduler has got from a router that has ended sum to zero on every endpoint.
-/

namespace PyMotor

open Lib Recompute

namespace Router

/-- The ids that the request has or can get by recomputes. -/
def Owns (s : Router) (id : String) : Prop := ∃ n : Nat, id = modifyReqIdRetrySegment^[n] s.reqInfo.reqId

/-- No workload is recorded under an id of the request. -/
def Unrecorded (s : Router) : Prop :=
  ∀ id, s.Owns id → ∀ role, s.requestManager.getReqWorkload (id, role) = none

/-- What the attempts of a `prepare_resource` come to when no record is in the way. -/
def selected : Nat → List SelectOutcome → SelectOutcome
  | 0, _ => .nothing
  | n + 1, outcomes =>
    match outcomes.head?.getD .nothing with
    | .nothing _ => selected n outcomes.tail
    | outcome => outcome

/-- The bytes of the chunks, when they complete no frame. -/
def withoutFrame : Bytes → List Bytes → Option Bytes
  | pending, [] => some pending
  | pending, chunk :: chunks =>
    match nextFrame (pending ++ chunk) with
    | some _ => none
    | none => withoutFrame (pending ++ chunk) chunks

/-- The frames that the chunks complete, and the bytes after them. -/
def completeFrames : List Bytes → Bytes → List Bytes × Bytes
  | [], pending => ([], pending)
  | chunk :: chunks, pending =>
    let (frames, rest) := splitFrames (pending ++ chunk).length (pending ++ chunk)
    let (more, rest) := completeFrames chunks rest
    (frames ++ more, rest)

/-- The frames that the loop gets; the bytes after the last one count when the stream ends by itself. -/
def streamFrames (ending : Option Raised) (chunks : List Bytes) (pending : Bytes) : List Bytes :=
  (completeFrames chunks pending).1 ++
    if ending.isSome || (completeFrames chunks pending).2.isEmpty then [] else [(completeFrames chunks pending).2]

def DecodeStream.frames (stream : DecodeStream) : List Bytes := streamFrames stream.ending stream.chunks []

/-- A stream that ends before its first frame leaves the prefill's KV cache: it is cancelled, or it ends
without a byte, or it breaks off after some bytes. -/
def endLeavesKv (pending : Bytes) : Option Raised → Bool
  | none => pending.isEmpty
  | some .cancelled => true
  | some (.exception _) => !pending.isEmpty

def DecodeStream.leavesKv (stream : DecodeStream) : Bool :=
  match stream.connect with
  | some e => e = .cancelled
  | none =>
    match withoutFrame [] stream.chunks with
    | none => false
    | some pending => endLeavesKv pending stream.ending

/-- The stream ends by itself, and no frame of it asks for a recompute. -/
def DecodeStream.EndsNormally (codec : Recompute.JsonCodec) (stream : DecodeStream) : Prop :=
  stream.connect = none ∧ stream.ending = none ∧
    ∀ frame ∈ stream.frames, isRecomputeSignal codec frame = false

/-- Nothing of the stream is cancelled. -/
def DecodeStream.Uncancelled (stream : DecodeStream) : Prop :=
  stream.connect ≠ some .cancelled ∧ stream.ending ≠ some .cancelled

/-- An engine raises no HTTP exception of the coordinator. -/
def DecodeStream.EngineOnly (stream : DecodeStream) : Prop :=
  ∀ status detail, stream.connect ≠ some (.exception (.httpException status detail)) ∧
    stream.ending ≠ some (.exception (.httpException status detail))

/-- No scheduling attempt is cancelled. -/
def SelectsUncancelled (outcomes : List SelectOutcome) : Prop := ∀ applied, .cancelled applied ∉ outcomes

/-- The request of the decode leg can be built. -/
def decodeRequest (env : RouterEnv) (s : Router) (respJson : Json) : Except PyException RequestTrack :=
  (genDRequest env s respJson).bind extractRequestInfo

end Router

namespace PdLeg

open Router

/-- No await of the leg is cancelled. -/
structure Uncancelled (leg : PdLeg DecodeStream) : Prop where
  prefillSelect : SelectsUncancelled leg.prefillSelect
  prefill : leg.prefill ≠ .error .cancelled
  decodeSelect : SelectsUncancelled leg.decodeSelect
  decode : leg.decode.Uncancelled

/-- The decode part of a leg leaves the KV cache of the prefill. -/
def decodeLeavesKv (env : RouterEnv) (s : Router) (respJson : Json) (leg : PdLeg DecodeStream) : Bool :=
  match selected env.maxRetry leg.decodeSelect with
  | .nothing _ => false
  | .cancelled _ => true
  | .allocated _ _ => (decodeRequest env s respJson).isOk && leg.decode.leavesKv

/-- The same without streaming: only a cancellation leaves it. -/
def nonstreamDecodeLeavesKv (env : RouterEnv) (s : Router) (respJson : Json) (leg : PdLeg (Except Raised Json)) : Bool :=
  match selected env.maxRetry leg.decodeSelect with
  | .nothing _ => false
  | .cancelled _ => true
  | .allocated _ _ =>
    (genDRequest env s respJson).isOk &&
      match leg.decode with
      | .error e => e = .cancelled
      | .ok _ => false

/-- The prefill succeeds, and the decode part leaves its KV cache. -/
def leavesKv {δ : Type} (decodeLeaves : Json → Bool) (env : RouterEnv) (leg : PdLeg δ) : Bool :=
  match selected env.maxRetry leg.prefillSelect, leg.prefill with
  | .allocated _ _, .ok respJson => decodeLeaves respJson
  | _, _ => false

end PdLeg

namespace PdHandler

open Router

/-- What the scheduler has got sums to zero on every endpoint. -/
def Released (h : PdHandler) : Prop := ∀ p, balance h.router.sent p + balance h.abandoned p = 0

/-- In a leg that the handler still runs the client gives up on an allocation that the scheduler makes. -/
def abandons {δ : Type} (env : RouterEnv) (h : PdHandler) (leg : PdLeg δ) : Bool :=
  h.ended.isNone && (leg.abandoned env h.router).any fun x => x.2 ≠ 0

/-- A leg that the handler still runs leaves the KV cache of its prefill. -/
def streamLeaves (env : RouterEnv) (h : PdHandler) (leg : PdLeg DecodeStream) : Bool :=
  h.ended.isNone && leg.leavesKv (fun respJson => leg.decodeLeavesKv env h.router respJson) env

def nonstreamLeaves (env : RouterEnv) (h : PdHandler) (leg : PdLeg (Except Raised Json)) : Bool :=
  h.ended.isNone && leg.leavesKv (fun respJson => leg.nonstreamDecodeLeavesKv env h.router respJson) env

end PdHandler

end PyMotor
