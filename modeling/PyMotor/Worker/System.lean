import PyMotor.Pool.InstanceManager
import PyMotor.Scheduler.Spec
import PyMotor.Worker.Client

/-!
# A worker and the scheduler

The scheduler handles requests and publishes versions; the worker reads the version from the shared memory,
hears of it by PUB, and fetches the list. Several coroutines of the worker may wait for an answer at a time,
and the answers come in any order, late or never. The history keeps the pools of the scheduler by version; how
often the list of a role has changed there, and which list the worker was last told, are counted beside.
-/

namespace PyMotor

open Lib

/-! ## What the worker cache is for -/

namespace SchedulerInstanceCache

/-- The id index of every role lists that role's instances, and the endpoint index has one entry for every
endpoint of every cached instance, which leads to that instance's own endpoint object. -/
structure Indexed (c : SchedulerInstanceCache) : Prop where
  nodup : ∀ role, ((c.instanceCache role).map fun r => (c.obj r).id).Nodup
  instanceMap : ∀ {role id r}, (c.instanceMap role).get? id = some r ↔
    r ∈ c.instanceCache role ∧ (c.obj r).id = id
  endpointMap : ∀ {iid eid a}, c.endpointMap.get? (iid, eid) = some a ↔
    (∃ role, a.inst ∈ c.instanceCache role) ∧ (c.obj a.inst).id = iid ∧
      ∃ ep, c.endpointAt a = some ep ∧ ep.id = eid

/-- A patch sets the workload of the endpoint it names and gathers the workloads of all endpoints. -/
def Patchable (c : SchedulerInstanceCache) : Prop :=
  ∀ role, ∀ r ∈ c.instanceCache role, ∀ pod key ep, (c.obj r).endpointAt pod key = some ep →
    ∀ activeTokens activeKvCache,
      let c' := c.patchWorkloadFromShm (c.obj r).id ep.id role activeTokens activeKvCache
      (c'.obj r).endpointAt pod key =
        some { ep with workload := { activeTokens := activeTokens, activeKvCache := activeKvCache } } ∧
      (c'.obj r).Gathered

/-- The place of a role in the order in which `get_available_instances(None)` replaces the lists. -/
def replaceOrder : PDRole → Nat
  | .roleP => 0
  | .roleD => 1
  | .roleU => 2

/-- The id is cached under the role. -/
def Caches (c : SchedulerInstanceCache) (role : PDRole) (id : Int) : Prop :=
  ∃ r ∈ c.instanceCache role, (c.obj r).id = id

instance (c : SchedulerInstanceCache) (role : PDRole) (id : Int) : Decidable (c.Caches role id) :=
  inferInstanceAs (Decidable (∃ r ∈ c.instanceCache role, _))

/-- Every list is replaced while none of its ids is cached under another role: a reply for one role lists no
id that another role caches, and a reply for all roles lists no id that a role replaced later still
caches. -/
def RoleKept (c : SchedulerInstanceCache) : Op → Prop
  | .reply none instances => ∀ x ∈ instances, x.UniqueEndpoints ∧
      ∀ role ∈ roleMap x.role, ∀ role' ∈ [PDRole.roleP, .roleD, .roleU],
        replaceOrder role < replaceOrder role' → ¬ c.Caches role' x.id
  | .reply (some role) instances => ∀ x ∈ instances, x.UniqueEndpoints ∧
      ∀ role' ∈ [PDRole.roleP, .roleD, .roleU], role' ≠ role → ¬ c.Caches role' x.id
  | .patch .. => True

instance (c : SchedulerInstanceCache) (op : Op) : Decidable (c.RoleKept op) :=
  match op with
  | .reply none instances => inferInstanceAs (Decidable (∀ x ∈ instances, x.UniqueEndpoints ∧
      ∀ role ∈ roleMap x.role, ∀ role' ∈ [PDRole.roleP, .roleD, .roleU],
        replaceOrder role < replaceOrder role' → ¬ c.Caches role' x.id))
  | .reply (some role) instances => inferInstanceAs (Decidable (∀ x ∈ instances, x.UniqueEndpoints ∧
      ∀ role' ∈ [PDRole.roleP, .roleD, .roleU], role' ≠ role → ¬ c.Caches role' x.id))
  | .patch .. => inferInstanceAs (Decidable True)

end SchedulerInstanceCache

/-! ## Fetching -/

/-- In the order of the ids. -/
def sortById (instances : List Instance) : List Instance := instances.insertionSort fun x y => x.id ≤ y.id

/-- The available instances of a role, sorted by id. -/
def InstanceManager.sortedInstances (m : InstanceManager) (role : PDRole) : List Instance :=
  sortById ((m.rolePool role).values.map m.obj)

/-- After a fetch the cache holds the server's instances: of every role, or of the role asked for while the
lists of the others stay. -/
def Refines (m : InstanceManager) (before after : SchedulerInstanceCache) : Option PDRole → Prop
  | none => ∀ role, after.getInstances role = m.sortedInstances role
  | some role => after.getInstances role = m.sortedInstances role ∧
      ∀ role' ≠ role, after.getInstances role' = before.getInstances role'

/-- The answer is not empty, or there is nothing to forget; and no id is available under two roles. -/
def FetchSound (m : InstanceManager) (c : SchedulerInstanceCache) : Option PDRole → Prop
  | none => m.Apart ∧ ((∃ role, (m.rolePool role).values ≠ []) ∨ ∀ role, c.instanceCache role = [])
  | some role => (m.rolePool role).values ≠ [] ∨ c.instanceCache role = []

instance (m : InstanceManager) (c : SchedulerInstanceCache) (role : Option PDRole) : Decidable (FetchSound m c role) :=
  match role with
  | none => inferInstanceAs (Decidable (m.Apart ∧ _))
  | some _ => inferInstanceAs (Decidable (_ ∨ _))

/-! ## The parties -/

/-- An answer on its way, with the version and the pools it was given at and how often the lists had changed by then. -/
structure Answer where
  version : Nat
  pools : InstanceManager
  changes : PDRole → Nat
  data : AvailableInstances

/-- A call of `get_available_instances` that waits for its answer, and the version its caller records when it
returns. -/
structure Fetch where
  role : Option PDRole := none
  record : Option Nat := none
  answer : Option Answer := none

structure WorkerSystem where
  server : SchedulerServer
  history : List (Nat × InstanceManager)
  /-- How often the list of a role has changed at the scheduler. -/
  changes : PDRole → Nat := fun _ => 0
  /-- The count at which the worker was told the list of a role, when it was. -/
  told : PDRole → Option Nat := fun _ => none
  notifications : List Nat := []
  client : AsyncSchedulerClient := {}
  fetches : List Fetch := []

/-- The name of the segment, without the process id. -/
def workloadShmName : String := "mindie_workload"

namespace WorkerSystem

/-- The current version of the scheduler. -/
def version (s : WorkerSystem) : Nat := s.server.workloadWriter.instanceVersion

/-- Nothing is fetched, the scheduler has started. -/
def start (policy : SchedulerType) (maxEntries : Nat) : WorkerSystem :=
  { server := SchedulerServer.start policy maxEntries
    history := [((SchedulerServer.start policy maxEntries).workloadWriter.instanceVersion, {})] }

inductive Event
  /-- The scheduler handles a request of any process. -/
  | request (request : SchedulerRequest)
  | heartbeat
  /-- The next notification is delivered. -/
  | notify
  /-- The next notification is lost. -/
  | lose
  /-- A call of `select_and_allocate` checks the version. -/
  | select (now : ℚ)
  /-- A fetch that records no version: of one role by `select_instance_and_endpoint`, of all roles by `connect`
  and `has_required_instances`. -/
  | fetch (role : Option PDRole)
  /-- The scheduler answers a fetch. -/
  | serve (i : Nat)
  /-- The answer arrives in time. -/
  | deliver (i : Nat) (attaches : Bool)
  /-- The fetch times out: its request or its answer is lost or late. -/
  | giveUp (i : Nat)

/-- The fetch of all roles that a version asks for, if any. -/
def versionFetch (record : Option Nat) : List Fetch :=
  match record with
  | none => []
  | some version => [{ record := some version }]

/-- The answer to a fetch, given once. -/
def answerFetch (s : WorkerSystem) (f : Fetch) : Fetch :=
  match f.answer with
  | some _ => f
  | none =>
    { f with
      answer := some ⟨s.version, s.server.instanceManager, s.changes,
        s.server.instanceManager.handleGetAvailableInstances f.role (some workloadShmName)⟩ }

/-- The instances of a role are others than before; the workloads do not count. -/
def ListChanges (m m' : InstanceManager) (role : PDRole) : Prop :=
  (m'.sortedInstances role).map Instance.initWorkload ≠ (m.sortedInstances role).map Instance.initWorkload

instance (m m' : InstanceManager) (role : PDRole) : Decidable (ListChanges m m' role) :=
  inferInstanceAs (Decidable (_ ≠ _))

/-- What the worker has been told once an answer has arrived. An empty one tells it nothing about a role of which it
knows instances, and one for all roles tells it nothing when an id has two of them. -/
def hear (s : WorkerSystem) (f : Fetch) (a : Answer) (role : PDRole) : Option Nat :=
  if f.role ≠ none ∧ f.role ≠ some role ∨ a.data.instances = [] ∧ s.client.cache.instanceCache role ≠ [] then
    s.told role
  else if f.role = none ∧ ¬ a.pools.Apart then none
  else some (a.changes role)

def step (s : WorkerSystem) : Event → WorkerSystem
  | .request request =>
    let server := s.server.handle request
    { s with
      changes := fun role =>
        if ListChanges s.server.instanceManager server.instanceManager role then s.changes role + 1 else s.changes role
      server := server
      history := (server.workloadWriter.instanceVersion, server.instanceManager) :: s.history
      notifications := s.notifications ++ server.published.drop s.server.published.length }
  | .heartbeat => { s with server := { s.server with workloadWriter := s.server.workloadWriter.writeHeartbeat } }
  | .notify =>
    match s.notifications with
    | [] => s
    | version :: rest =>
      { s with
        notifications := rest
        fetches := s.fetches ++ versionFetch (s.client.onInstanceChangeNotify version) }
  | .lose => { s with notifications := s.notifications.tail }
  | .select now =>
    let (record, client) := s.client.checkVersion s.server.workloadWriter now
    { s with client := client, fetches := s.fetches ++ versionFetch record }
  | .fetch role => { s with fetches := s.fetches ++ [{ role := role }] }
  | .serve i => { s with fetches := s.fetches.modify i s.answerFetch }
  | .deliver i attaches =>
    match s.fetches[i]? with
    | none => s
    | some f =>
      match f.answer with
      | none => s
      | some a =>
        { s with
          client := (s.client.getAvailableInstances f.role attaches (some (.ok a.data))).recordVersion f.record
          told := s.hear f a
          fetches := s.fetches.eraseIdx i }
  | .giveUp i =>
    match s.fetches[i]? with
    | none => s
    | some f =>
      { s with
        client := (s.client.getAvailableInstances f.role false none).recordVersion f.record
        fetches := s.fetches.eraseIdx i }

/-! ## Coherence -/

/-- The cached list of a role is the one in the pools, up to the workloads. -/
def HoldsRole (c : SchedulerInstanceCache) (m : InstanceManager) (role : PDRole) : Prop :=
  (c.getInstances role).map Instance.initWorkload = (m.sortedInstances role).map Instance.initWorkload

instance (c : SchedulerInstanceCache) (m : InstanceManager) (role : PDRole) : Decidable (HoldsRole c m role) :=
  inferInstanceAs (Decidable (_ = _))

/-- The cache holds the instance list of the pools. -/
def Holds (c : SchedulerInstanceCache) (m : InstanceManager) : Prop := ∀ role, HoldsRole c m role

instance (c : SchedulerInstanceCache) (m : InstanceManager) : Decidable (Holds c m) :=
  inferInstanceAs (Decidable (∀ role, HoldsRole c m role))

/-- The cache holds the list of the scheduler at some version not below the recorded one. -/
def Coherent (s : WorkerSystem) : Prop :=
  ∀ v, s.client.lastInstanceVersion = some v → ∃ w m, v ≤ w ∧ (w, m) ∈ s.history ∧ Holds s.client.cache m

/-- The worker has been told the list of every role since it last changed. -/
def UpToDate (s : WorkerSystem) : Prop := ∀ role, s.told role = some (s.changes role)

instance (s : WorkerSystem) : Decidable s.UpToDate := inferInstanceAs (Decidable (∀ _, _))

/-- A version check that takes the version of a readable segment over, since none is recorded and the heartbeat is not
stale. -/
def Adopts (s : WorkerSystem) (now : ℚ) : Prop :=
  s.client.lastInstanceVersion = none ∧ s.server.workloadWriter.bufHeader.sequence ≠ 0 ∧
    s.server.workloadWriter.bufHeader.entryCount ≤ s.server.workloadWriter.bufHeader.maxEntries ∧
    ∃ reader ∈ s.client.workloadReader,
      s.server.workloadWriter.bufHeader.heartbeatSequence = reader.lastHeartbeatValue →
        0 < reader.lastHeartbeatTime → now - reader.lastHeartbeatTime ≤ heartbeatStaleSec

instance (s : WorkerSystem) (now : ℚ) : Decidable (s.Adopts now) :=
  inferInstanceAs (Decidable (_ ∧ _ ∧ _ ∧ ∃ reader ∈ s.client.workloadReader, _))

/-- An answer that no version is recorded for: it is not older than the recorded version, and an answer for one role was
given while the worker had been told the lists of the others. -/
def Current (s : WorkerSystem) (role : Option PDRole) (a : Answer) (v : Nat) : Prop :=
  v ≤ a.version ∧ FetchSound a.pools s.client.cache role ∧
    ∀ r ∈ role, ∀ role', role' ≠ r → s.told role' = some (a.changes role')

instance (s : WorkerSystem) (role : Option PDRole) (a : Answer) (v : Nat) : Decidable (s.Current role a v) :=
  inferInstanceAs (Decidable (_ ∧ _ ∧ ∀ r ∈ role, ∀ role', role' ≠ r → _))

/-- A version is taken over without a fetch, or recorded after a fetch that timed out or was answered unsoundly, only while
no list has changed since the worker was told it; and no answer for which none is recorded replaces a newer list under a
recorded version. -/
def Sound (s : WorkerSystem) : Event → Prop
  | .select now => s.Adopts now → s.UpToDate
  | .deliver i _ => ∀ f ∈ s.fetches[i]?, ∀ a ∈ f.answer,
      (f.record ≠ none → FetchSound a.pools s.client.cache none ∨ a.data.instances = [] ∧ s.UpToDate) ∧
      (f.record = none → a.data.instances ≠ [] → ∀ v ∈ s.client.lastInstanceVersion, s.Current f.role a v)
  | .giveUp i => ∀ f ∈ s.fetches[i]?, f.record ≠ none → s.UpToDate
  | _ => True

instance (s : WorkerSystem) (event : Event) : Decidable (s.Sound event) :=
  match event with
  | .select now => inferInstanceAs (Decidable (s.Adopts now → s.UpToDate))
  | .deliver i _ => inferInstanceAs (Decidable (∀ f ∈ s.fetches[i]?, ∀ a ∈ f.answer,
      (f.record ≠ none → FetchSound a.pools s.client.cache none ∨ a.data.instances = [] ∧ s.UpToDate) ∧
      (f.record = none → a.data.instances ≠ [] → ∀ v ∈ s.client.lastInstanceVersion, s.Current f.role a v)))
  | .giveUp i => inferInstanceAs (Decidable (∀ f ∈ s.fetches[i]?, f.record ≠ none → s.UpToDate))
  | .request _ => inferInstanceAs (Decidable True)
  | .heartbeat => inferInstanceAs (Decidable True)
  | .notify => inferInstanceAs (Decidable True)
  | .lose => inferInstanceAs (Decidable True)
  | .fetch _ => inferInstanceAs (Decidable True)
  | .serve _ => inferInstanceAs (Decidable True)

/-! ## Patching -/

/-- The scheduler handles fitting requests only. -/
def Fitting (roleOf : Int → PDRole) (s : WorkerSystem) : Event → Prop
  | .request request => s.server.Fitting roleOf request
  | _ => True

instance (roleOf : Int → PDRole) (s : WorkerSystem) (event : Event) : Decidable (s.Fitting roleOf event) :=
  match event with
  | .request request => inferInstanceAs (Decidable (s.server.Fitting roleOf request))
  | .heartbeat => inferInstanceAs (Decidable True)
  | .notify => inferInstanceAs (Decidable True)
  | .lose => inferInstanceAs (Decidable True)
  | .select _ => inferInstanceAs (Decidable True)
  | .fetch _ => inferInstanceAs (Decidable True)
  | .serve _ => inferInstanceAs (Decidable True)
  | .deliver _ _ => inferInstanceAs (Decidable True)
  | .giveUp _ => inferInstanceAs (Decidable True)

/-- A cache that holds the list of the scheduler takes every workload over when it is patched. -/
def TakesOver (s : WorkerSystem) : Prop :=
  Holds s.client.cache s.server.instanceManager → ∀ (reader : WorkloadSharedMemoryReader) (now : ℚ) (role : PDRole),
    (reader.readAndPatchCache s.server.workloadWriter now s.client.cache).2.2.getInstances role =
      s.server.instanceManager.sortedInstances role

end WorkerSystem

end PyMotor
