import PyMotor.Etcd.Client

/-!
# Master and standby

`motor/common/standby/standby_manager.py` and the locks of `motor/common/etcd`. The requests to etcd come with their
answers.
-/

namespace PyMotor

open Lib

/-! ## Locks -/

/-- The answers to the requests of `Lock.acquire`: the new lease, and whether the key is written; `none` where a request
raises. -/
structure LockAnswers where
  leaseGrant : Option Int
  txn : Option Bool

/-- The lease of an acquired lock. When it is not acquired the lease is revoked, and an error of that is dropped. -/
def LockAnswers.acquire (answers : LockAnswers) : Option Int :=
  match answers.leaseGrant, answers.txn with
  | some leaseId, some true => some leaseId
  | some _, some false => none
  | some _, none => none
  | none, _ => none

/-- The answers to a renewal: the TTL, or `none` where the request raises; and whether the revocation succeeds, where
there is one. -/
structure RenewAnswers where
  keepAlive : Option Int
  revoked : Bool := true

structure LockClient extends EtcdClient where
  leases : Dict String Int := Dict.empty

namespace LockClient

variable (c : LockClient) (lockKey : String)

def lockKeyOf : String := c.getKeyWithNamespaceAndJobName lockKey

/-- `acquire_lock`; it raises nothing. -/
def acquireLock (answers : LockAnswers) : Bool × LockClient :=
  if c.leases.contains (c.lockKeyOf lockKey) then (false, c)
  else match answers.acquire with
    | some leaseId => (true, { c with leases := c.leases.set (c.lockKeyOf lockKey) leaseId })
    | none => (false, c)

/-- The lease is dropped also when its revocation fails. -/
def releaseLock (revoked : Bool) : Bool × LockClient :=
  match c.leases.get? (c.lockKeyOf lockKey) with
  | none => (false, c)
  | some _ => (revoked, { c with leases := c.leases.erase (c.lockKeyOf lockKey) })

/-- The lock that is released has the resolved key. -/
def renewLease (answers : RenewAnswers) : Bool × LockClient :=
  match c.leases.get? (c.lockKeyOf lockKey) with
  | none => (false, c)
  | some _ =>
    match answers.keepAlive with
    | some newTtl =>
      if newTtl ≤ 0 then (false, (c.releaseLock (c.lockKeyOf lockKey) answers.revoked).2) else (true, c)
    | none => (false, (c.releaseLock (c.lockKeyOf lockKey) answers.revoked).2)

end LockClient

/-! ## Roles -/

inductive StandbyRole
  | standby
  | master
deriving DecidableEq, Repr

inductive RoleCallback
  | onBecomeMaster (shouldReportEvent : Bool)
  | onBecomeStandby
deriving DecidableEq, Repr

/-- `callbacks` are the callbacks that have been invoked. -/
structure StandbyManager where
  etcdClient : LockClient
  masterLockKey : String
  maxLockFailures : Nat
  currentRole : StandbyRole := .standby
  callbacks : List RoleCallback := []

/-- What one iteration of the loop meets. -/
structure Iteration where
  stopped : Bool := false
  lock : LockAnswers
  renew : RenewAnswers
  shouldReportEvent : Bool := false

namespace StandbyManager

def isMaster (m : StandbyManager) : Bool := m.currentRole = .master

def setRole (m : StandbyManager) (role : StandbyRole) : StandbyManager := { m with currentRole := role }

def renewMasterLock (m : StandbyManager) (answers : RenewAnswers) : Bool × StandbyManager :=
  if m.isMaster then
    let (renewed, c) := m.etcdClient.renewLease m.masterLockKey answers
    (renewed, { m with etcdClient := c })
  else (false, m)

/-- An attempt raises nothing, so there is at most one. -/
def tryBecomeMaster (m : StandbyManager) (stopped : Bool) (answers : LockAnswers) : Bool × StandbyManager :=
  if 0 < m.maxLockFailures ∧ stopped = false then
    match m.etcdClient.acquireLock m.masterLockKey answers with
    | (true, c) => (true, { m with etcdClient := c }.setRole .master)
    | (false, c) => (false, { m with etcdClient := c }.setRole .standby)
  else (false, m)

def invoke (m : StandbyManager) (callback : RoleCallback) : StandbyManager :=
  { m with callbacks := m.callbacks ++ [callback] }

/-- One iteration of `_master_standby_loop`. A callback may raise: it is the last thing that the iteration does. -/
def iterate (m : StandbyManager) (it : Iteration) : StandbyManager :=
  if m.isMaster then
    match m.renewMasterLock it.renew with
    | (true, m) => m
    | (false, m) => (m.setRole .standby).invoke .onBecomeStandby
  else
    match m.tryBecomeMaster it.stopped it.lock with
    | (true, m) => m.invoke (.onBecomeMaster it.shouldReportEvent)
    | (false, m) => m

def start (c : EtcdClient) (masterLockKey : String) (maxLockFailures : Nat) : StandbyManager :=
  { etcdClient := { c with }, masterLockKey := masterLockKey, maxLockFailures := maxLockFailures }

/-! ## What roles are for -/

def HoldsLock (m : StandbyManager) : Prop := m.etcdClient.leases.contains (m.etcdClient.lockKeyOf m.masterLockKey) = true

/-- The role whose callback comes after a callback, which is that of the given role. -/
def turn : StandbyRole → RoleCallback → Option StandbyRole
  | .master, .onBecomeMaster _ => some .standby
  | .standby, .onBecomeStandby => some .master
  | .master, .onBecomeStandby => none
  | .standby, .onBecomeMaster _ => none

/-- The callbacks take turns, and `on_become_master` is the first. -/
def TakeTurns (callbacks : List RoleCallback) : Prop := (callbacks.foldlM turn .master).isSome = true

/-- The lock is free for a standby that etcd gives it. -/
def CanCompete (m : StandbyManager) : Prop := m.currentRole = .standby → 0 < m.maxLockFailures →
  ∀ it : Iteration, it.stopped = false → it.lock.acquire.isSome = true → (m.iterate it).currentRole = .master

end StandbyManager

end PyMotor
