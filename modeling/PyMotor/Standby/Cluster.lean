import PyMotor.Lib.Lease
import PyMotor.Lib.Run
import PyMotor.Standby.StandbyManager

/-!
# Pods that compete for their locks

The loops of several pods and one etcd, request by request. A request is applied at any time after it is sent, its
answer is received later or not at all, and a request whose client has given up may still be applied. A pod may crash
and start again. The locks of `motor/common/etcd/locks.py` have keys of their own; their values are never read. Etcd
answers as the comments of `motor/common/etcd/proto/rpc.proto` have it.
-/

namespace PyMotor

open Lib

/-! ## Etcd -/

inductive EtcdRequest
  | lease (request : LeaseRequest String)
  | range (key : String)
  | put (key value : String)
deriving DecidableEq

inductive EtcdAnswer
  | lease (answer : LeaseAnswer)
  | value (value : Option String)
  | stored
deriving DecidableEq

structure EtcdServer where
  locks : LeaseServer String := LeaseServer.initial
  store : Dict String String := Dict.empty

def EtcdServer.serve (s : EtcdServer) : EtcdRequest → EtcdAnswer × EtcdServer
  | .lease r => (.lease (s.locks.serve r).1, { s with locks := (s.locks.serve r).2 })
  | .range key => (.value (s.store.get? key), s)
  | .put key value => (.stored, { s with store := s.store.set key value })

/-- `get_bool`; the default is false, also where the request raises. -/
def boolOfAnswer : Option EtcdAnswer → Bool
  | some (.value (some value)) =>
    let strValue := (Text.strip value.toList).map Char.toLower
    decide (strValue = "true".toList ∨ strValue = "1".toList)
  | some (.value none) => false
  | some (.lease _) => false
  | some .stored => false
  | none => false

/-! ## Pods -/

/-- Where the loop of a pod is; each phase but the first and the last is one request. -/
inductive StandbyPhase
  | looping
  | granting
  | claiming (leaseId : Int)
  | abandoning (leaseId : Int)
  | reporting
  | flagging
  | renewing (leaseId : Int)
  | releasing (leaseId : Int)
  | closing (leaseId : Int)
  | ended
deriving DecidableEq

def StandbyPhase.leaseId? : StandbyPhase → Option Int
  | .looping => none
  | .granting => none
  | .claiming leaseId => some leaseId
  | .abandoning leaseId => some leaseId
  | .reporting => none
  | .flagging => none
  | .renewing leaseId => some leaseId
  | .releasing leaseId => some leaseId
  | .closing leaseId => some leaseId
  | .ended => none

inductive EtcdCall
  | idle
  | sent (request : EtcdRequest)
  | answered (answer : EtcdAnswer)
deriving DecidableEq

structure StandbyPod where
  manager : StandbyManager
  lockTtl : Nat := 10
  stopped : Bool := false
  phase : StandbyPhase := .looping
  call : EtcdCall := .idle

namespace StandbyPod

variable (pod : StandbyPod)

def lockKey : String := pod.manager.etcdClient.lockKeyOf pod.manager.masterLockKey

/-- The lease of the lock, as the client has it. -/
def leaseId? : Option Int := pod.manager.etcdClient.leases.get? pod.lockKey

/-- `key` of `locks.Lock`. -/
def txnKey : String := "/locks/" ++ pod.lockKey

/-- `should_report_event`; it has no slash in front. -/
def flagKey : String := pod.manager.etcdClient.getKeyWithNamespaceAndJobName "should_report_event"

/-- The request of the phase. -/
def request : Option EtcdRequest :=
  match pod.phase with
  | .looping => none
  | .granting => some (.lease (.grant pod.lockTtl))
  | .claiming leaseId => some (.lease (.claim pod.txnKey leaseId))
  | .abandoning leaseId => some (.lease (.revoke leaseId))
  | .reporting => some (.range pod.flagKey)
  | .flagging => some (.put pod.flagKey "true")
  | .renewing leaseId => some (.lease (.keepAlive leaseId))
  | .releasing leaseId => some (.lease (.revoke leaseId))
  | .closing leaseId => some (.lease (.revoke leaseId))
  | .ended => none

def goTo (phase : StandbyPhase) : StandbyPod := { pod with phase := phase, call := .idle }

/-- An iteration whose lock and lease requests end so. -/
def finish (lock : LockAnswers) (renew : RenewAnswers) : StandbyPod :=
  { pod with manager := pod.manager.iterate { lock := lock, renew := renew }, phase := .looping, call := .idle }

/-- The start of an iteration, or the end of the loop. -/
def begin : StandbyPod :=
  match pod.phase with
  | .looping =>
    if pod.stopped then
      match pod.manager.isMaster, pod.leaseId? with
      | true, some leaseId => pod.goTo (.closing leaseId)
      | true, none => { pod with manager := pod.manager.setRole .standby, phase := .ended }
      | false, _ => pod.goTo .ended
    else
      match pod.manager.isMaster, pod.leaseId? with
      | true, some leaseId => pod.goTo (.renewing leaseId)
      | false, none => if 0 < pod.manager.maxLockFailures then pod.goTo .granting else pod
      | true, none => pod.finish ⟨none, none⟩ { keepAlive := none }
      | false, some _ => pod.finish ⟨none, none⟩ { keepAlive := none }
  | _ => pod

/-- `none` where the request raises. The revocation after a lease that is not granted is that of lease 0, which there is
not. -/
def resume (answer : Option EtcdAnswer) : StandbyPod :=
  match pod.phase with
  | .looping => pod
  | .granting =>
    match answer with
    | some (.lease (.granted leaseId)) => pod.goTo (.claiming leaseId)
    | _ => pod.finish ⟨none, none⟩ { keepAlive := none }
  | .claiming leaseId =>
    match answer with
    | some (.lease (.claimed true)) =>
      { pod with
        manager := (pod.manager.tryBecomeMaster false ⟨some leaseId, some true⟩).2
        phase := .reporting
        call := .idle }
    | _ => pod.goTo (.abandoning leaseId)
  | .abandoning leaseId => pod.finish ⟨some leaseId, none⟩ { keepAlive := none }
  | .reporting =>
    { pod with manager := pod.manager.invoke (.onBecomeMaster (boolOfAnswer answer)), phase := .flagging, call := .idle }
  | .flagging => pod.goTo .looping
  | .renewing leaseId =>
    match answer with
    | some (.lease (.renewed ttl)) => if ttl = 0 then pod.goTo (.releasing leaseId) else pod.goTo .looping
    | _ => pod.goTo (.releasing leaseId)
  | .releasing _ => pod.finish ⟨none, none⟩ { keepAlive := none, revoked := answer = some (.lease .revoked) }
  | .closing _ =>
    { pod with
      manager := { pod.manager with
        etcdClient := (pod.manager.etcdClient.releaseLock pod.manager.masterLockKey (answer = some (.lease .revoked))).2
        currentRole := .standby }
      phase := .ended
      call := .idle }
  | .ended => pod

/-- A new process with the same configuration. -/
def restart : StandbyPod where
  manager := StandbyManager.start pod.manager.etcdClient.toEtcdClient pod.manager.masterLockKey
    pod.manager.maxLockFailures
  lockTtl := pod.lockTtl

/-- The pod has the lease, or is about to use it. -/
def Knows (leaseId : Int) : Prop :=
  pod.leaseId? = some leaseId ∨ pod.phase.leaseId? = some leaseId ∨ pod.call = .answered (.lease (.granted leaseId))

instance (leaseId : Int) : Decidable (pod.Knows leaseId) := inferInstanceAs (Decidable (_ ∨ _ ∨ _))

/-- The pod gives its lease up. -/
def Leaves : Prop := ∃ leaseId, pod.phase = .releasing leaseId ∨ pod.phase = .closing leaseId

end StandbyPod

/-! ## The cluster -/

/-- `late` are the requests that no client waits for any more; `masters` are the calls of `on_become_master`. -/
structure StandbyCluster (P : Type) where
  etcd : EtcdServer := {}
  pods : P → StandbyPod
  late : List EtcdRequest := []
  masters : List (P × Bool) := []

inductive StandbyEvent (P : Type)
  | begin (p : P)
  | send (p : P)
  | serve (p : P)
  | receive (p : P)
  | fail (p : P)
  /-- The callback of a new master raises. -/
  | raises (p : P)
  | stop (p : P)
  | crash (p : P)
  /-- A late request is applied. -/
  | deliver (i : Nat)
  | expire (leaseId : Int)
  | tick
deriving DecidableEq

namespace StandbyCluster

variable {P : Type} [DecidableEq P] (c : StandbyCluster P)

def setPod (p : P) (pod : StandbyPod) : StandbyCluster P := { c with pods := Function.update c.pods p pod }

/-- The request that a pod waits for. -/
def outstanding (p : P) : List EtcdRequest :=
  match (c.pods p).call with
  | .idle => []
  | .sent request => [request]
  | .answered _ => []

/-- A request returns or raises, and the loop goes on. -/
def proceed (p : P) (answer : Option EtcdAnswer) : StandbyCluster P :=
  { c.setPod p ((c.pods p).resume answer) with
    masters := match (c.pods p).phase with
      | .reporting => c.masters ++ [(p, boolOfAnswer answer)]
      | _ => c.masters }

def step : StandbyEvent P → StandbyCluster P
  | .begin p => c.setPod p (c.pods p).begin
  | .send p =>
    match (c.pods p).call, (c.pods p).request with
    | .idle, some request => c.setPod p { c.pods p with call := .sent request }
    | _, _ => c
  | .serve p =>
    match (c.pods p).call with
    | .sent request =>
      { c.setPod p { c.pods p with call := .answered (c.etcd.serve request).1 } with etcd := (c.etcd.serve request).2 }
    | _ => c
  | .receive p =>
    match (c.pods p).call with
    | .answered answer => c.proceed p (some answer)
    | _ => c
  | .fail p =>
    match (c.pods p).call with
    | .idle => c
    | .sent _ => { c.proceed p none with late := c.late ++ c.outstanding p }
    | .answered _ => c.proceed p none
  | .raises p =>
    match (c.pods p).phase, (c.pods p).call with
    | .flagging, .idle => c.setPod p ((c.pods p).goTo .looping)
    | _, _ => c
  | .stop p => c.setPod p { c.pods p with stopped := true }
  | .crash p => { c.setPod p (c.pods p).restart with late := c.late ++ c.outstanding p }
  | .deliver i =>
    match c.late[i]? with
    | some request => { c with etcd := (c.etcd.serve request).2, late := c.late.eraseIdx i }
    | none => c
  | .expire leaseId => { c with etcd := { c.etcd with locks := c.etcd.locks.drop leaseId } }
  | .tick => { c with etcd := { c.etcd with locks := c.etcd.locks.step .tick } }

/-- Pods that have just been started, each with its configuration. -/
def start (store : Dict String String) (configs : P → StandbyPod) : StandbyCluster P :=
  { etcd := { store := store }, pods := fun p => (configs p).restart }

def after (store : Dict String String) (configs : P → StandbyPod) (es : List (StandbyEvent P)) : StandbyCluster P :=
  run step (start store configs) es

/-! ## What the lock is for -/

/-- The pod is master, and the lease it has lives. -/
def LiveMaster (p : P) : Prop :=
  (c.pods p).manager.currentRole = .master ∧ ∃ leaseId, (c.pods p).leaseId? = some leaseId ∧ c.etcd.locks.Live leaseId

/-- No renewal of the lease is under way that nobody waits for. -/
def Unrenewed (leaseId : Int) : Prop := .lease (.keepAlive leaseId) ∉ c.late

instance (leaseId : Int) : Decidable (c.Unrenewed leaseId) := inferInstanceAs (Decidable (_ ∉ _))

/-- The lease has been granted, and no pod knows it. -/
def Orphan (leaseId : Int) : Prop := leaseId ≤ c.etcd.locks.granted ∧ ∀ p, ¬ (c.pods p).Knows leaseId

end StandbyCluster

end PyMotor
