import PyMotor.Lib.Dict
import PyMotor.Lib.Bytes

/-!
# The etcd client

`motor/common/etcd/etcd_client.py`. The store maps keys to texts. What pydantic and json do is a parameter. A prefix
request goes from the prefix to the next key that does not start with it: the last byte of UTF-8 text is never `0xff`.
-/

namespace PyMotor

open Lib

/-- Values of type `V` and their texts. -/
structure JsonCodec (V T : Type) where
  /-- `model_dump_json` or `json.dumps`; `none` where it raises. -/
  dumps : V → Option T
  /-- `json.loads`, and the model class where one is given. -/
  loads : T → Option V

structure JsonCodec.Lawful {V T : Type} (codec : JsonCodec V T) : Prop where
  loads_dumps : ∀ {v t}, codec.dumps v = some t → codec.loads t = some v

/-- How a request to etcd ends: applied and answered, applied but not answered, or not applied. -/
inductive OpOutcome
  | answered
  | unanswered
  | refused
deriving DecidableEq, Repr

def OpOutcome.applied : OpOutcome → Bool
  | .answered => true
  | .unanswered => true
  | .refused => false

/-- How the requests of one call of `persist_data` end; a put that is not listed is answered. -/
structure PersistOutcomes where
  locked : Bool := true
  delete : OpOutcome := .answered
  puts : List OpOutcome := []

/-- The client reads the names of its pod from the environment. -/
structure EtcdClient where
  podNamespace : String
  jobName : String

namespace EtcdClient

variable {V T : Type} (codec : JsonCodec V T) (c : EtcdClient)

def startsWith (key start : String) : Bool := start.toList.isPrefixOf key.toList

def getKeyWithNamespaceAndJobName (key : String) : String :=
  if startsWith key (c.podNamespace ++ "/" ++ c.jobName ++ "/") then key
  else c.podNamespace ++ "/" ++ c.jobName ++ key

def putJson (store : Dict String T) (key : String) (data : V) (outcome : OpOutcome) : Bool × Dict String T :=
  match codec.dumps data with
  | none => (false, store)
  | some jsonData =>
    let stored := store.set (c.getKeyWithNamespaceAndJobName key) jsonData
    match outcome with
    | .answered => (true, stored)
    | .unanswered => (false, stored)
    | .refused => (false, store)

def deletePrefix (store : Dict String T) (keyPrefix : String) (outcome : OpOutcome) : Bool × Dict String T :=
  let rest := store.filterKeys fun key => !startsWith key (c.getKeyWithNamespaceAndJobName keyPrefix)
  match outcome with
  | .answered => (true, rest)
  | .unanswered => (false, rest)
  | .refused => (false, store)

/-- The loop over the new data. -/
def putAll (keyPrefix : String) : Dict String T → List (String × V) → List OpOutcome → Bool × Dict String T
  | store, [], _ => (true, store)
  | store, (dataKey, dataValue) :: data, outcomes =>
    match putJson codec c store (keyPrefix ++ "/" ++ dataKey) dataValue (outcomes.headD .answered) with
    | (false, store) => (false, store)
    | (true, store) => putAll keyPrefix store data outcomes.tail

/-- The result of `delete_prefix` is not looked at. -/
def persistData (store : Dict String T) (keyPrefix : String) (data : Dict String V) (outcomes : PersistOutcomes) :
    Bool × Dict String T :=
  if outcomes.locked then
    putAll codec c keyPrefix (c.deletePrefix store keyPrefix outcomes.delete).2 data.entries outcomes.puts
  else (false, store)

/-- The pairs under a resolved prefix, in the order of their keys. -/
def rangePrefix (store : Dict String T) (keyPrefix : String) : List (String × T) :=
  (store.entries.filter fun e => startsWith e.1 keyPrefix).mergeSort fun a b => decide (a.1 ≤ b.1)

/-- `full_key[prefix_len + 1:]`. -/
def relativeKey (keyPrefix fullKey : String) : String := String.ofList (fullKey.toList.drop (keyPrefix.length + 1))

def readItem (keyPrefix : String) (kv : String × T) : Option (String × V) :=
  (codec.loads kv.2).map fun item => (relativeKey keyPrefix kv.1, item)

/-- A text that cannot be read makes the whole result empty. -/
def getPrefixData (store : Dict String T) (keyPrefix : String) : Dict String V :=
  let keyPrefix := c.getKeyWithNamespaceAndJobName keyPrefix
  match (rangePrefix store keyPrefix).mapM (readItem codec keyPrefix) with
  | none => Dict.empty
  | some items => Dict.empty.update items

/-- What is returned for the data: no data is `None`. -/
def nonEmpty (data : Dict String V) : Option (Dict String V) := if data.entries.isEmpty then none else some data

def restoreData (store : Dict String T) (keyPrefix : String) : Option (Dict String V) :=
  nonEmpty (getPrefixData codec c store keyPrefix)

/-! ## What persisting is for -/

/-- Equality of two results, as `==`: the order of a dictionary does not count. -/
def SameData (a b : Option (Dict String V)) : Prop :=
  a.isSome = b.isSome ∧ ∀ key, (a.bind fun d => d.get? key) = b.bind fun d => d.get? key

/-- What is restored after the call is the complete old data or the complete new data. -/
def AllOrNothing (store : Dict String T) (keyPrefix : String) (data : Dict String V) (outcomes : PersistOutcomes) :
    Prop :=
  SameData (restoreData codec c (persistData codec c store keyPrefix data outcomes).2 keyPrefix)
      (restoreData codec c store keyPrefix) ∨
    SameData (restoreData codec c (persistData codec c store keyPrefix data outcomes).2 keyPrefix) (nonEmpty data)

/-- The keys of the data are resolved as the prefix is: a prefix starts with `/`, and is not itself the name that the
client puts in front. -/
def Resolves (keyPrefix : String) : Prop :=
  ∀ dataKey, c.getKeyWithNamespaceAndJobName (keyPrefix ++ "/" ++ dataKey) =
    c.getKeyWithNamespaceAndJobName keyPrefix ++ "/" ++ dataKey

/-- Exactly the data are stored under the prefix. -/
structure Stores (store : Dict String T) (keyPrefix : String) (data : Dict String V) : Prop where
  under : ∀ key text, store.get? key = some text → startsWith key (c.getKeyWithNamespaceAndJobName keyPrefix) = true →
    ∃ dataKey, key = c.getKeyWithNamespaceAndJobName keyPrefix ++ "/" ++ dataKey
  items : ∀ dataKey, (store.get? (c.getKeyWithNamespaceAndJobName keyPrefix ++ "/" ++ dataKey)).map codec.loads =
    (data.get? dataKey).map some

/-- How many of the entries are put: up to the first put that fails, which may still be applied. -/
def written : List (String × V) → List OpOutcome → Nat
  | [], _ => 0
  | (_, dataValue) :: data, outcomes =>
    match codec.dumps dataValue, outcomes.headD .answered with
    | none, _ => 0
    | some _, .answered => 1 + written data outcomes.tail
    | some _, .unanswered => 1
    | some _, .refused => 0

/-- Nothing is deleted and what is put was stored before, or what is missing was; or all is deleted and all is put, or
what is put is what was stored before. -/
def Harmless (old data : Dict String V) (outcomes : PersistOutcomes) : Prop :=
  let put := data.entries.take (written codec data.entries outcomes.puts)
  let missing := data.entries.drop (written codec data.entries outcomes.puts)
  if outcomes.delete.applied then missing = [] ∨ ∀ e, e ∈ old.entries ↔ e ∈ put
  else (∀ e ∈ put, e ∈ old.entries) ∨ (∀ key ∈ old.keys, key ∈ data.keys) ∧ ∀ e ∈ missing, e ∈ old.entries

end EtcdClient

/-!
## Etcd as an ordered map of byte strings

The same calls of the client on the keys that etcd has. Every request is applied and answered. The key of the lock is
not in the map before the call nor after it.
-/

/-- The loop of `_prefix_range_end` over the bytes from the last one. -/
def bumpLast : Bytes → Bytes
  | [] => []
  | b :: s => if b < 0xff then (b + 1) :: s else b :: bumpLast s

def prefixRangeEnd (keyPrefix : String) : Bytes := (bumpLast (Bytes.encode keyPrefix).reverse).reverse

/-- The keys of a request: the key alone when there is no end, and all keys from it on when the end is a zero byte. -/
def inRange (key rangeEnd k : Bytes) : Bool :=
  if rangeEnd = [] then decide (k = key)
  else !Bytes.lt k key && (decide (rangeEnd = [0]) || Bytes.lt k rangeEnd)

abbrev EtcdStore (T : Type) := Dict Bytes T

namespace EtcdStore

variable {V T : Type} (codec : JsonCodec V T) (c : EtcdClient)

/-- The answer to a `Range` request, in the order of the keys. -/
def range (store : EtcdStore T) (key rangeEnd : Bytes) : List (Bytes × T) :=
  (store.entries.filter fun kv => inRange key rangeEnd kv.1).mergeSort fun a b => !Bytes.lt b.1 a.1

def deleteRange (store : EtcdStore T) (key rangeEnd : Bytes) : EtcdStore T :=
  store.filterKeys fun k => !inRange key rangeEnd k

def deletePrefix (store : EtcdStore T) (keyPrefix : String) : EtcdStore T :=
  let keyPrefix := c.getKeyWithNamespaceAndJobName keyPrefix
  deleteRange store (Bytes.encode keyPrefix) (prefixRangeEnd keyPrefix)

def putJson (store : EtcdStore T) (key : String) (data : V) : Bool × EtcdStore T :=
  match codec.dumps data with
  | none => (false, store)
  | some jsonData => (true, store.set (Bytes.encode (c.getKeyWithNamespaceAndJobName key)) jsonData)

def putAll (keyPrefix : String) : EtcdStore T → List (String × V) → Bool × EtcdStore T
  | store, [] => (true, store)
  | store, (dataKey, dataValue) :: data =>
    match putJson codec c store (keyPrefix ++ "/" ++ dataKey) dataValue with
    | (false, store) => (false, store)
    | (true, store) => putAll keyPrefix store data

def persistData (store : EtcdStore T) (keyPrefix : String) (data : Dict String V) : Bool × EtcdStore T :=
  putAll codec c keyPrefix (deletePrefix c store keyPrefix) data.entries

/-- A key that is no text, and a text that cannot be read, are exceptions. -/
def readItem (keyPrefix : String) (kv : Bytes × T) : Option (String × V) := do
  let fullKey ← Bytes.decode kv.1
  let item ← codec.loads kv.2
  return (EtcdClient.relativeKey keyPrefix fullKey, item)

def getPrefixData (store : EtcdStore T) (keyPrefix : String) : Dict String V :=
  let keyPrefix := c.getKeyWithNamespaceAndJobName keyPrefix
  match (range store (Bytes.encode keyPrefix) (prefixRangeEnd keyPrefix)).mapM (readItem codec keyPrefix) with
  | none => Dict.empty
  | some items => Dict.empty.update items

def restoreData (store : EtcdStore T) (keyPrefix : String) : Option (Dict String V) :=
  EtcdClient.nonEmpty (getPrefixData codec c store keyPrefix)

/-! ## What a prefix store is for -/

/-- The data come back, and all keys that are not under the prefix keep their values. -/
structure Persists (store : EtcdStore T) (keyPrefix : String) (data : Dict String V) : Prop where
  persisted : (persistData codec c store keyPrefix data).1 = true
  restored : ∃ restored, restoreData codec c (persistData codec c store keyPrefix data).2 keyPrefix = some restored ∧
    ∀ dataKey, restored.get? dataKey = data.get? dataKey
  frame : ∀ key value, store.get? key = some value →
    ¬ Bytes.encode (c.getKeyWithNamespaceAndJobName keyPrefix) <+: key →
    (persistData codec c store keyPrefix data).2.get? key = some value

end EtcdStore

/-- Every value is written, and read back. -/
def JsonCodec.Invertible {V T : Type} (codec : JsonCodec V T) : Prop :=
  ∀ v, ∃ t, codec.dumps v = some t ∧ codec.loads t = some v

namespace EtcdClient

/-- What the client puts in front of a key is in front of the key of the data, but not of the prefix. -/
def Misresolved (c : EtcdClient) (keyPrefix dataKey : String) : Prop :=
  startsWith (keyPrefix ++ "/" ++ dataKey) (c.podNamespace ++ "/" ++ c.jobName ++ "/") = true ∧
    startsWith keyPrefix (c.podNamespace ++ "/" ++ c.jobName ++ "/") = false

end EtcdClient

end PyMotor
