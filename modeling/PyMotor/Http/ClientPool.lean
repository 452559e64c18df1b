import PyMotor.Lib.Dict
import PyMotor.Lib.Run

/-!
# The pool of HTTP clients

`HTTPClientPool` of `motor/common/http/http_client.py`. A call computes its key first; its locked section, and the
closing of a client after such a section, are steps of their own. The hash of a text is an input.
-/

namespace PyMotor

open Lib

structure TLSConfig where
  enableTls : Bool := false
  caFile : String := "security/mgmt/cert/ca.crt"
  certFile : String := "security/mgmt/cert/server.crt"
  keyFile : String := "security/mgmt/keys/server.key"
  passwdFile : String := "security/mgmt/keys/key_pwd.txt"
  crlFile : String := ""
deriving DecidableEq

/-- `tls_str`, the text that is hashed. -/
def TLSConfig.text (tlsConfig : TLSConfig) : String :=
  (if tlsConfig.enableTls then "True" else "False") ++ "_" ++ tlsConfig.caFile ++ "_" ++ tlsConfig.certFile ++ "_" ++
    tlsConfig.keyFile

/-- A client with what `create_client` made it for. -/
structure HttpClient where
  ip : String
  port : String
  tlsConfig : Option TLSConfig
  isClosed : Bool := false
deriving DecidableEq

/-- A call after its key is computed. `tlsId` is the identity of its configuration, and `tlsConfig` what that was then. -/
structure ClientCall where
  ip : String
  port : String
  tlsId : Option Nat
  tlsConfig : Option TLSConfig
  poolKey : String
deriving DecidableEq

/-- What is left to do: the locked section of a call, or the closing of a client that has been taken out of the pool. -/
inductive PoolTask
  | get (call : ClientCall)
  | warmup (call : ClientCall)
  | close (poolKey : String)
  | aclose (client : Nat)
deriving DecidableEq

/-- `objects` are the configurations by identity, and `clients` all the clients that were ever created. -/
structure HTTPClientPool where
  clientPool : Dict String Nat := Dict.empty
  tlsHashCache : Dict Nat String := Dict.empty
  objects : Nat → TLSConfig := fun _ => {}
  clients : List HttpClient := []
  tasks : List PoolTask := []

namespace HTTPClientPool

inductive Event
  /-- The object of the identity changes, or another one takes its identity. -/
  | tlsConfig (tlsId : Nat) (tlsConfig : TLSConfig)
  | getClient (ip port : String) (tlsId : Option Nat)
  | warmupClients (endpoints : List (String × String)) (tlsId : Option Nat)
  | closeClient (ip port : String) (tlsId : Option Nat)
  | closeAll
  | cleanupUnusedClients (activeEndpoints : List String)
  /-- The check of a call before it takes the lock. -/
  | check (task : Nat)
  /-- The locked section of a task; `creates` says whether `create_client` returns. -/
  | locked (task : Nat) (creates : Bool)
  | aclose (task : Nat)
  /-- A client is closed by its user. -/
  | closeElsewhere (client : Nat)

variable (md5 : String → String) (p : HTTPClientPool)

/-! ## Keys -/

def poolKey (ip port tlsHash : String) : String := ip ++ ":" ++ port ++ ":" ++ tlsHash

/-- `_get_pool_key`, with the pool after it. -/
def getPoolKey (ip port : String) (tlsId : Option Nat) : String × HTTPClientPool :=
  match tlsId with
  | none => (poolKey ip port "", p)
  | some tlsId =>
    match p.tlsHashCache.get? tlsId with
    | some tlsHash => (poolKey ip port tlsHash, p)
    | none =>
      let tlsHash := md5 (p.objects tlsId).text
      (poolKey ip port tlsHash, { p with tlsHashCache := p.tlsHashCache.set tlsId tlsHash })

def isOpen (client : Nat) : Bool := (p.clients[client]?).any fun c => !c.isClosed

/-- The client under the key, when it is not closed. -/
def existing (key : String) : Option Nat := (p.clientPool.get? key).filter p.isOpen

/-- The call, with the pool after its key is computed. -/
def begin (ip port : String) (tlsId : Option Nat) : ClientCall × HTTPClientPool :=
  let (key, p) := p.getPoolKey md5 ip port tlsId
  ({ ip := ip, port := port, tlsId := tlsId, tlsConfig := tlsId.map p.objects, poolKey := key }, p)

/-! ## Steps -/

def addTasks (tasks : List PoolTask) : HTTPClientPool := { p with tasks := p.tasks ++ tasks }

def endTask (task : Nat) : HTTPClientPool := { p with tasks := p.tasks.eraseIdx task }

/-- One endpoint of `warmup_clients`; an open client needs no warm-up. -/
def warmupEndpoint (tlsId : Option Nat) (p : HTTPClientPool) (endpoint : String × String) : HTTPClientPool :=
  let (call, p) := p.begin md5 endpoint.1 endpoint.2 tlsId
  match p.existing call.poolKey with
  | some _ => p
  | none => p.addTasks [.warmup call]

/-- `create_client` and the entry for it. A client that is replaced is closed, so none is left to close. -/
def createClient (call : ClientCall) : HTTPClientPool :=
  { p with
    clients := p.clients ++ [{ ip := call.ip, port := call.port, tlsConfig := call.tlsId.map p.objects }]
    clientPool := p.clientPool.set call.poolKey p.clients.length }

/-- The locked section of a call, with the client it finds or creates. -/
def getOrCreate (call : ClientCall) (creates : Bool) : Option Nat × HTTPClientPool :=
  match p.existing call.poolKey with
  | some client => (some client, p)
  | none => if creates then (some p.clients.length, p.createClient call) else (none, p)

def closeAll : HTTPClientPool :=
  { p.addTasks (p.clientPool.values.map .aclose) with clientPool := Dict.empty }

/-- The clients that the locked section takes out. A client that is closed by then is passed over when they are closed. -/
def toRemove (activeEndpoints : List String) : List Nat :=
  (p.clientPool.entries.filter fun entry => !activeEndpoints.contains entry.1).map Prod.snd

def cleanupUnusedClients (activeEndpoints : List String) : HTTPClientPool :=
  { p.addTasks ((p.toRemove activeEndpoints).map .aclose) with
    clientPool := p.clientPool.filterKeys activeEndpoints.contains }

def popClient (key : String) : HTTPClientPool :=
  match p.clientPool.get? key with
  | some client => { p.addTasks [.aclose client] with clientPool := p.clientPool.erase key }
  | none => p

def closeClientAt (client : Nat) : HTTPClientPool :=
  { p with clients := p.clients.modify client fun c => { c with isClosed := true } }

def step : Event → HTTPClientPool
  | .tlsConfig tlsId tlsConfig => { p with objects := Function.update p.objects tlsId tlsConfig }
  | .getClient ip port tlsId =>
    let (call, p) := p.begin md5 ip port tlsId
    p.addTasks [.get call]
  | .warmupClients endpoints tlsId => endpoints.foldl (warmupEndpoint md5 tlsId) p
  | .closeClient ip port tlsId =>
    let (call, p) := p.begin md5 ip port tlsId
    p.addTasks [.close call.poolKey]
  | .closeAll => p.closeAll
  | .cleanupUnusedClients activeEndpoints => p.cleanupUnusedClients activeEndpoints
  | .check task =>
    match p.tasks[task]? with
    | some (.get call) =>
      match p.existing call.poolKey with
      | some _ => p.endTask task
      | none => p
    | _ => p
  | .locked task creates =>
    match p.tasks[task]? with
    | some (.get call) => (p.endTask task |>.getOrCreate call creates).2
    | some (.warmup call) => (p.endTask task |>.getOrCreate call creates).2
    | some (.close key) => (p.endTask task).popClient key
    | _ => p
  | .aclose task =>
    match p.tasks[task]? with
    | some (.aclose client) => (p.endTask task).closeClientAt client
    | _ => p
  | .closeElsewhere client => p.closeClientAt client

/-- The call of `get_client` that returns at the event, with its client. -/
def returned : Event → Option (ClientCall × Nat)
  | .check task =>
    match p.tasks[task]? with
    | some (.get call) => (p.existing call.poolKey).map fun client => (call, client)
    | _ => none
  | .locked task creates =>
    match p.tasks[task]? with
    | some (.get call) => (p.getOrCreate call creates).1.map fun client => (call, client)
    | _ => none
  | _ => none

end HTTPClientPool

end PyMotor
