import Mathlib.Logic.Relation
import PyMotor.Lib.Bytes

/-!
# The messages between a worker and the scheduler process

`zmq_protocol.py`: a message is one main frame and side frames for its large values. The main frame holds
`{"__ref__": i}` where the value of side frame `i` belongs. The msgpack encoder and decoder are a parameter.
-/

namespace PyMotor

open Lib

namespace Zmq

structure SchedulerRequest where
  requestType : String
  requestId : String
  data : Msg

structure SchedulerResponse where
  responseType : String
  requestId : String
  data : Msg := .nil
  error : Option String := none

/-- `bytes | list[bytes]`. -/
inductive Payload
  | single (frame : Bytes)
  | multi (frames : List Bytes)

inductive ReadError
  | decode
  | index
deriving DecidableEq

/-- What reading a message gives: `none` while the recursion has not come to its end. -/
abbrev Reading := ExceptT ReadError Option

def zeroCopyRefKey : String := "__ref__"

/-- `{ZERO_COPY_REF_KEY: index}`. -/
def refTo (index : Nat) : Msg := .map [(.str zeroCopyRefKey, .int index)]

/-- `obj.get(ZERO_COPY_REF_KEY) is not None and len(obj) == 1`. -/
def isRefDict : Msg.Items → Bool
  | [(.str _, .nil)] => false
  | [(.str k, _)] => k = zeroCopyRefKey
  | _ => false

/-- `blob` in `_replace_large_with_refs`: an encoder that raises leaves it empty. -/
def blobOf (codec : Codec) (v : Msg) : Bytes := (codec.encode v).getD []

mutual
/-- `_replace_large_with_refs`, with the new `aux_list`. -/
def replaceLargeWithRefs (codec : Codec) (threshold : Nat) : Msg → List Bytes → Msg × List Bytes
  | .map items, aux =>
      if isRefDict items then (.map items, aux)
      else
        let (out, aux) := replaceItems codec threshold items aux
        (.map out, aux)
  | .arr xs, aux =>
      if threshold < (blobOf codec (.arr xs)).length then (refTo aux.length, aux ++ [blobOf codec (.arr xs)])
      else
        let (out, aux) := replaceElements codec threshold xs aux
        (.arr out, aux)
  | obj, aux => (obj, aux)

/-- The loop over the items of a dictionary. -/
def replaceItems (codec : Codec) (threshold : Nat) : Msg.Items → List Bytes → Msg.Items × List Bytes
  | [], aux => ([], aux)
  | (k, v) :: items, aux =>
      let (v', aux) :=
        if v.isContainer then
          if threshold < (blobOf codec v).length then (refTo aux.length, aux ++ [blobOf codec v])
          else replaceLargeWithRefs codec threshold v aux
        else (v, aux)
      let (out, aux) := replaceItems codec threshold items aux
      ((k, v') :: out, aux)

/-- The list comprehension. -/
def replaceElements (codec : Codec) (threshold : Nat) : List Msg → List Bytes → List Msg × List Bytes
  | [], aux => ([], aux)
  | x :: xs, aux =>
      let (x', aux) := replaceLargeWithRefs codec threshold x aux
      let (out, aux) := replaceElements codec threshold xs aux
      (x' :: out, aux)
end

/-- The index that a dictionary with the one key `__ref__` holds; a `bool` is an `int`. -/
def refIndex : Msg.Items → Option Int
  | [(.str k, .int i)] => if k = zeroCopyRefKey then some i else none
  | [(.str k, .bool b)] => if k = zeroCopyRefKey then some (if b then 1 else 0) else none
  | _ => none

/-- The side frame that a dictionary refers to: the index passes `0 <= idx < len(aux_buffers)`. -/
def refFrame (count : Nat) (items : Msg.Items) : Option Nat :=
  match refIndex items with
  | some i => if 0 ≤ i ∧ i < count then some i.toNat else none
  | none => none

/-- `_resolve_refs`; the fuel bounds the depth of the recursion. -/
def resolveRefs (codec : Codec) (auxBuffers : List Bytes) : Nat → Msg → Reading Msg
  | 0, _ => ExceptT.mk none
  | fuel + 1, .map items =>
      match refFrame auxBuffers.length items with
      | some idx =>
          match codec.decode (auxBuffers.getD idx []) with
          | some decoded => resolveRefs codec auxBuffers fuel decoded
          | none => throw .decode
      | none => do
          let items ← items.mapM fun item => do return (item.1, ← resolveRefs codec auxBuffers fuel item.2)
          return .map items
  | fuel + 1, .arr xs => do
      let xs ← xs.mapM (resolveRefs codec auxBuffers fuel)
      return .arr xs
  | _ + 1, obj => return obj

namespace SchedulerRequest

/-- The dictionary that `msgspec` writes for the struct. -/
def toMsg (request : SchedulerRequest) : Msg :=
  .map [(.str "request_type", .str request.requestType), (.str "request_id", .str request.requestId),
    (.str "data", request.data)]

end SchedulerRequest

namespace SchedulerResponse

def toMsg (response : SchedulerResponse) : Msg :=
  .map [(.str "response_type", .str response.responseType), (.str "request_id", .str response.requestId),
    (.str "data", response.data), (.str "error", (response.error.map Msg.str).getD .nil)]

end SchedulerResponse

def isKey (name : String) : Msg → Bool
  | .str s => s = name
  | _ => false

/-- The value of a field of a struct; a field that the struct does not have is ignored. -/
def field (items : Msg.Items) (name : String) : Option Msg :=
  (items.find? fun item => isKey name item.1).map Prod.snd

def asStr : Msg → Option String
  | .str s => some s
  | _ => none

def isStr : Msg → Bool
  | .str _ => true
  | _ => false

/-- `dict[str, Any]`. -/
def asDict : Msg → Option Msg
  | .map items => if items.all fun item => isStr item.1 then some (.map items) else none
  | _ => none

/-- `T | None = None` for a type read by `read`. -/
def asOptional {α : Type} (read : Msg → Option α) : Option Msg → Option (Option α)
  | none => some none
  | some .nil => some none
  | some m => (read m).map some

/-- `_request_decoder.decode`. -/
def decodeRequest (codec : Codec) (buf : Bytes) : Option SchedulerRequest :=
  match codec.decode buf with
  | some (.map items) => do
      let requestType ← (field items "request_type").bind asStr
      let requestId ← (field items "request_id").bind asStr
      let data ← (field items "data").bind asDict
      return { requestType, requestId, data }
  | _ => none

/-- `_response_decoder.decode`. -/
def decodeResponse (codec : Codec) (buf : Bytes) : Option SchedulerResponse :=
  match codec.decode buf with
  | some (.map items) => do
      let responseType ← (field items "response_type").bind asStr
      let requestId ← (field items "request_id").bind asStr
      let data ← asOptional asDict (field items "data")
      let error ← asOptional asStr (field items "error")
      return { responseType, requestId, data := data.getD .nil, error }
  | _ => none

/-- The decoded message, or the exception of the decoder. -/
def readOrThrow {α : Type} : Option α → Reading α
  | some x => return x
  | none => throw .decode

/-- `main_buf` alone, or `[main_buf] + aux`. -/
def payloadOf (mainBuf : Bytes) (aux : List Bytes) : Payload :=
  if aux.isEmpty then .single mainBuf else .multi (mainBuf :: aux)

/-- `serialize_request`, with `none` for an exception of the encoder. -/
def serializeRequest (codec : Codec) (threshold : Nat) (request : SchedulerRequest) : Option Payload :=
  let (data, aux) := replaceLargeWithRefs codec threshold request.data []
  (codec.encode { request with data }.toMsg).map fun mainBuf => payloadOf mainBuf aux

def deserializeRequest (codec : Codec) (fuel : Nat) : Payload → Reading SchedulerRequest
  | .single data => readOrThrow (decodeRequest codec data)
  | .multi [] => throw .index
  | .multi (mainBuf :: aux) => do
      let obj ← readOrThrow (decodeRequest codec mainBuf)
      if aux.isEmpty then return obj
      else
        let data ← resolveRefs codec aux fuel obj.data
        return { obj with data }

def serializeResponse (codec : Codec) (threshold : Nat) (response : SchedulerResponse) : Option Payload :=
  let (data, aux) := match response.data with
    | .nil => (.nil, [])
    | data => replaceLargeWithRefs codec threshold data []
  (codec.encode { response with data }.toMsg).map fun mainBuf => payloadOf mainBuf aux

/-- `bool(data)` for a dictionary or `None`. -/
def hasItems : Msg → Bool
  | .map items => !items.isEmpty
  | _ => false

/-- `deserialize_response`: an empty dictionary counts as no data. -/
def deserializeResponse (codec : Codec) (fuel : Nat) : Payload → Reading SchedulerResponse
  | .single data => readOrThrow (decodeResponse codec data)
  | .multi [] => throw .index
  | .multi (mainBuf :: aux) => do
      let obj ← readOrThrow (decodeResponse codec mainBuf)
      if aux.isEmpty then return obj
      else if hasItems obj.data then do
        let data ← resolveRefs codec aux fuel obj.data
        return { obj with data }
      else return { obj with data := .nil }

/-- `pack_send_frames`; the prefix stands before the payload. -/
def packSendFrames (head : List Bytes) : Payload → List Bytes
  | .multi frames => head ++ frames
  | .single frame => head ++ [frame]

def unpackRecvPayload (parts : List Bytes) (payloadStart : Nat := 1) : Payload :=
  if parts.length ≤ payloadStart then .single []
  else if parts.length = payloadStart + 1 then .single (parts.getD payloadStart [])
  else .multi (parts.drop payloadStart)

/-- `_SchedulerFrontendTransport.recv`: the identity of the client and the frames behind the empty one. -/
def recv : List Bytes → Option (Bytes × List Bytes)
  | clientId :: _ :: frame :: frames => some (clientId, frame :: frames)
  | _ => none

/-- The payload that `_handle_request_async` decodes. -/
def requestPayload (payloadFrames : List Bytes) : Payload := unpackRecvPayload ([[], []] ++ payloadFrames) 2

/-! ## References -/

mutual
/-- The side frames that `_resolve_refs` reads for a value, in the order it meets them. -/
def refs (count : Nat) : Msg → List Nat
  | .map items =>
      match refFrame count items with
      | some idx => [idx]
      | none => refsItems count items
  | .arr xs => refsElements count xs
  | _ => []

def refsItems (count : Nat) : Msg.Items → List Nat
  | [] => []
  | (_, v) :: items => refs count v ++ refsItems count items

def refsElements (count : Nat) : List Msg → List Nat
  | [] => []
  | x :: xs => refs count x ++ refsElements count xs
end

/-- The dictionary has other keys than just `__ref__`. -/
def NotRef (items : Msg.Items) : Prop := items.map Prod.fst ≠ [.str zeroCopyRefKey]

/-- A tree of dictionaries with string keys, lists and scalars, none of its dictionaries with `__ref__` as its only
key. -/
def Sendable (m : Msg) : Prop := m.Tree ∧ m.Everywhere NotRef

/-- The data of a request is a dictionary. -/
def SchedulerRequest.Sendable (x : SchedulerRequest) : Prop := (∃ items, x.data = .map items) ∧ Zmq.Sendable x.data

/-- The data of a response is a dictionary or `None`. -/
def SchedulerResponse.Sendable (x : SchedulerResponse) : Prop :=
  (x.data = .nil ∨ ∃ items, x.data = .map items) ∧ Zmq.Sendable x.data

/-- What sending a message guarantees: the reader gets `x` behind one frame, behind the two frames of the server, and
from what the server's transport passes on; and every side frame is referred to once, all of it from the main frame. -/
structure Carried {α : Type} (codec : Codec) (deserialize : Nat → Payload → Reading α)
    (dataOf : Bytes → Option Msg) (x : α) (payload : Payload) : Prop where
  read : ∃ depth, ∀ fuel, depth ≤ fuel → ∀ first clientId empty,
    deserialize fuel (unpackRecvPayload (packSendFrames [first] payload)) = pure x ∧
    deserialize fuel (unpackRecvPayload (packSendFrames [clientId, empty] payload) 2) = pure x ∧
    ∃ frames, recv (packSendFrames [clientId, empty] payload) = some (clientId, frames) ∧
      deserialize fuel (requestPayload frames) = pure x
  referred : ∀ mainBuf aux, payload = .multi (mainBuf :: aux) →
    (∃ data, dataOf mainBuf = some data ∧ refs aux.length data = List.range aux.length) ∧
    ∀ b ∈ aux, ∃ m, codec.decode b = some m ∧ refs aux.length m = []

/-- The value of side frame `i` refers to side frame `j`. -/
def Refers (codec : Codec) (aux : List Bytes) (i j : Nat) : Prop :=
  ∃ b m, aux[i]? = some b ∧ codec.decode b = some m ∧ j ∈ refs aux.length m

/-- A chain of references from the value leads to a side frame that refers to itself, directly or through others. -/
def ReachesCycle (codec : Codec) (aux : List Bytes) (m : Msg) : Prop :=
  ∃ i ∈ refs aux.length m, ∃ j, Relation.ReflTransGen (Refers codec aux) i j ∧ Relation.TransGen (Refers codec aux) j j

end Zmq

end PyMotor
