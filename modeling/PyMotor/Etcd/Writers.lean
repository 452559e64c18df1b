import PyMotor.Etcd.Client
import PyMotor.Lib.Lease
import PyMotor.Lib.Run

/-!
# Clients that persist under one prefix

`persist_data` of several clients under its lock, request by request, between the writes of others elsewhere. A request
is applied or refused when it is sent, and its answer may get lost. A client may crash at any time; the lease of the lock
is not renewed. Leases are those of `motor/common/etcd/proto/rpc.proto`, whose comments say when a key goes with its
lease. The key of the lock is not under the prefix, so it is kept apart from the store.
-/

namespace PyMotor

open Lib

/-- Where a call of `persist_data` is; each phase but the first is one request. `puts` are the outcomes of the puts so
far. -/
inductive WriterPhase (V : Type)
  | idle
  | granting (data : Dict String V)
  | claiming (data : Dict String V) (leaseId : Int)
  | abandoning (leaseId : Int)
  | deleting (data : Dict String V) (leaseId : Int)
  | putting (data : Dict String V) (leaseId : Int) (delete : OpOutcome) (puts : List OpOutcome) (rest : List (String × V))
  | releasing (leaseId : Int)

namespace WriterPhase

variable {V : Type}

/-- The lease of a call that may change the data. -/
def writing? : WriterPhase V → Option Int
  | .idle => none
  | .granting _ => none
  | .claiming _ _ => none
  | .abandoning _ => none
  | .deleting _ leaseId => some leaseId
  | .putting _ leaseId _ _ _ => some leaseId
  | .releasing _ => none

def leaseId? : WriterPhase V → Option Int
  | .idle => none
  | .granting _ => none
  | .claiming _ leaseId => some leaseId
  | .abandoning leaseId => some leaseId
  | .deleting _ leaseId => some leaseId
  | .putting _ leaseId _ _ _ => some leaseId
  | .releasing leaseId => some leaseId

end WriterPhase

/-- A call that has written; it returns nothing where the client has crashed. -/
structure PersistCall (W V : Type) where
  writer : W
  data : Dict String V
  outcomes : PersistOutcomes
  returned : Option Bool

/-- `calls` are the calls that have written, in the order in which they were done with it. -/
structure Writers (W V T : Type) where
  locks : LeaseServer String := LeaseServer.initial
  store : Dict String T
  phases : W → WriterPhase V := fun _ => .idle
  calls : List (PersistCall W V) := []

inductive WriterEvent (W V T : Type)
  | persist (w : W) (data : Dict String V)
  | request (w : W) (outcome : OpOutcome)
  | crash (w : W)
  | expire (leaseId : Int)
  /-- Another client writes a key, or removes it. -/
  | elsewhere (key : String) (value : Option T)

namespace Writers

variable {W V T : Type} [DecidableEq W] (codec : JsonCodec V T) (c : EtcdClient) (keyPrefix : String)

/-- The key of the lock of `lock_context`. -/
def lockKey : String := "/locks/" ++ c.getKeyWithNamespaceAndJobName ("persist_" ++ keyPrefix)

/-- The lock is held for this many seconds. -/
def lockTtl : Nat := 30

def goTo (s : Writers W V T) (w : W) (phase : WriterPhase V) : Writers W V T :=
  { s with phases := Function.update s.phases w phase }

/-- What a request does to the locks; one that is refused does nothing. -/
def lockRequest (s : Writers W V T) (r : LeaseRequest String) (outcome : OpOutcome) : Writers W V T :=
  if outcome.applied then { s with locks := (s.locks.serve r).2 } else s

/-- The answer, where there is one. -/
def answer? (s : Writers W V T) (r : LeaseRequest String) : OpOutcome → Option LeaseAnswer
  | .answered => some (s.locks.serve r).1
  | .unanswered => none
  | .refused => none

/-- The call is done with the data. -/
def record (s : Writers W V T) (call : PersistCall W V) (phase : WriterPhase V) : Writers W V T :=
  { s.goTo call.writer phase with calls := s.calls ++ [call] }

/-- The next put, where there is one. -/
def putNext (s : Writers W V T) (w : W) (data : Dict String V) (leaseId : Int) (delete : OpOutcome)
    (puts : List OpOutcome) : List (String × V) → Writers W V T
  | [] => s.record ⟨w, data, { delete := delete, puts := puts }, some true⟩ (.releasing leaseId)
  | item :: rest => s.goTo w (.putting data leaseId delete puts (item :: rest))

def request (s : Writers W V T) (w : W) (outcome : OpOutcome) : Writers W V T :=
  match s.phases w with
  | .idle => s
  | .granting data =>
    match s.answer? (.grant lockTtl) outcome with
    | some (.granted leaseId) => (s.lockRequest (.grant lockTtl) outcome).goTo w (.claiming data leaseId)
    | _ => (s.lockRequest (.grant lockTtl) outcome).goTo w .idle
  | .claiming data leaseId =>
    match s.answer? (.claim (lockKey c keyPrefix) leaseId) outcome with
    | some (.claimed true) =>
      (s.lockRequest (.claim (lockKey c keyPrefix) leaseId) outcome).goTo w (.deleting data leaseId)
    | _ => (s.lockRequest (.claim (lockKey c keyPrefix) leaseId) outcome).goTo w (.abandoning leaseId)
  | .abandoning leaseId => (s.lockRequest (.revoke leaseId) outcome).goTo w .idle
  | .deleting data leaseId =>
    { s with store := (c.deletePrefix s.store keyPrefix outcome).2 }.putNext w data leaseId outcome [] data.entries
  | .putting data leaseId delete puts rest =>
    match rest with
    | [] => s
    | (dataKey, dataValue) :: rest =>
      match EtcdClient.putJson codec c s.store (keyPrefix ++ "/" ++ dataKey) dataValue outcome with
      | (true, store) => { s with store := store }.putNext w data leaseId delete (puts ++ [outcome]) rest
      | (false, store) =>
        { s with store := store }.record ⟨w, data, { delete := delete, puts := puts ++ [outcome] }, some false⟩
          (.releasing leaseId)
  | .releasing leaseId => (s.lockRequest (.revoke leaseId) outcome).goTo w .idle

/-- A crash is as if the next request was refused; the lease stays. -/
def crash (s : Writers W V T) (w : W) : Writers W V T :=
  match s.phases w with
  | .deleting data _ => s.record ⟨w, data, { delete := .refused, puts := [.refused] }, none⟩ .idle
  | .putting data _ delete puts _ => s.record ⟨w, data, { delete := delete, puts := puts ++ [.refused] }, none⟩ .idle
  | .idle => s
  | .granting _ => s.goTo w .idle
  | .claiming _ _ => s.goTo w .idle
  | .abandoning _ => s.goTo w .idle
  | .releasing _ => s.goTo w .idle

def step (s : Writers W V T) : WriterEvent W V T → Writers W V T
  | .persist w data =>
    match s.phases w with
    | .idle => s.goTo w (.granting data)
    -- the client has the lock; a call that waits for another to acquire it comes later
    | _ => s
  | .request w outcome => s.request codec c keyPrefix w outcome
  | .crash w => s.crash w
  | .expire leaseId => { s with locks := s.locks.drop leaseId }
  | .elsewhere key value =>
    if EtcdClient.startsWith key (c.getKeyWithNamespaceAndJobName keyPrefix) then s
    else match value with
      | some value => { s with store := s.store.set key value }
      | none => { s with store := s.store.erase key }

/-! ## What the lock is for -/

/-- The lease of a call does not expire while it writes. -/
def KeepsLease (s : Writers W V T) : WriterEvent W V T → Prop
  | .expire leaseId => ∀ w, (s.phases w).writing? ≠ some leaseId
  | .persist _ _ => True
  | .request _ _ => True
  | .crash _ => True
  | .elsewhere _ _ => True

/-- The calls one after the other. -/
def oneByOne (store : Dict String T) (calls : List (PersistCall W V)) : Dict String T :=
  calls.foldl (fun store call => (EtcdClient.persistData codec c store keyPrefix call.data call.outcomes).2) store

end Writers

end PyMotor
