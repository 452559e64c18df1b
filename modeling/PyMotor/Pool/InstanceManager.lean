import PyMotor.Lib.Run
import PyMotor.Resources.Instance

/-!
# The coordinator's `InstanceManager`

`motor/coordinator/domain/instance_manager.py`. The pools of the source map ids to shared, mutable
`Instance` objects, so the objects live in a heap here and the pools hold references into it. An
endpoint object belongs to its instance object and is named by it, the pod and the key.

A method that can raise returns the exception next to the state it leaves behind. Every method runs
under `_lock` without a suspension inside, so it is one step. The lock objects carry no pool data and are left
out. `PyMotor.Pool.Conductor` adds what `_register_kv_instance` posts.
-/

namespace PyMotor

open Lib

abbrev Ref := Nat

/-- The identity of an endpoint object. -/
structure EndpointRef where
  inst : Ref
  pod : String
  key : Int
deriving DecidableEq, Repr

inductive EventType
  | add
  | del
  | set
deriving DecidableEq, Repr

/-- `EventType(value)`. -/
def EventType.ofString? : String → Option EventType
  | "add" => some .add
  | "del" => some .del
  | "set" => some .set
  | _ => none

inductive UpdateInstanceMode
  | available
  | unavailable
deriving DecidableEq, Repr

/-- The exceptions the pool code can raise. -/
inductive PyErr
  | valueError
  | keyError
  | structError
  | indexError
  | zeroDivisionError
deriving DecidableEq, Repr

structure InstanceManager where
  heap : List Instance := []
  availablePool : Dict Int Ref := Dict.empty
  unavailablePool : Dict Int Ref := Dict.empty
  prefillPool : Dict Int Ref := Dict.empty
  decodePool : Dict Int Ref := Dict.empty
  hybridPool : Dict Int Ref := Dict.empty
  endpointIdCache : Dict Int (Dict Int EndpointRef) := Dict.empty

/-- `instance_id -> endpoint` index of one instance; a later endpoint replaces an earlier one of the same id. -/
def buildEndpointCache (r : Ref) (inst : Instance) : Dict Int EndpointRef :=
  inst.endpointEntries.foldl (fun cache e => cache.set e.2.2.id ⟨r, e.1, e.2.1⟩) Dict.empty

namespace InstanceManager

/-- The object behind a reference. -/
def obj (m : InstanceManager) (r : Ref) : Instance := m.heap.getD r default

def modifyObj (m : InstanceManager) (r : Ref) (f : Instance → Instance) : InstanceManager :=
  { m with heap := m.heap.modify r f }

/-- Create the objects of a deserialised request. -/
def alloc (m : InstanceManager) (instances : List Instance) : List Ref × InstanceManager :=
  (List.range' m.heap.length instances.length, { m with heap := m.heap ++ instances })

/-- `_available_role_pools[role]`. -/
def rolePool (m : InstanceManager) : PDRole → Dict Int Ref
  | .roleP => m.prefillPool
  | .roleD => m.decodePool
  | .roleU => m.hybridPool

def setRolePool (m : InstanceManager) (role : PDRole) (pool : Dict Int Ref) : InstanceManager :=
  match role with
  | .roleP => { m with prefillPool := pool }
  | .roleD => { m with decodePool := pool }
  | .roleU => { m with hybridPool := pool }

/-! ## Adding and deleting -/

/-- Enter an object in the pool of its role, in the available pool and in the endpoint index. -/
def putAvailable (m : InstanceManager) (role : PDRole) (r : Ref) : InstanceManager :=
  { m.setRolePool role ((m.rolePool role).set (m.obj r).id r) with
    availablePool := m.availablePool.set (m.obj r).id r
    endpointIdCache := m.endpointIdCache.set (m.obj r).id (buildEndpointCache r (m.obj r)) }

/-- Take an id out of the pool of a role, of the available pool and of the endpoint index. -/
def dropAvailable (m : InstanceManager) (role : PDRole) (id : Int) : InstanceManager :=
  { m.setRolePool role ((m.rolePool role).erase id) with
    availablePool := m.availablePool.erase id
    endpointIdCache := m.endpointIdCache.erase id }

def addInstanceToAvailablePool (m : InstanceManager) (r : Ref) : Except PyErr Bool × InstanceManager :=
  match PDRole.ofString? (m.obj r).role with
  -- `_role_to_pdrole` raises before the `update_pool is None` branch can be taken.
  | none => (.error .valueError, m)
  | some role =>
    if (m.rolePool role).contains (m.obj r).id then (.ok false, m) else (.ok true, m.putAvailable role r)

def deleteInstanceFromAvailablePool (m : InstanceManager) (id : Int) : Except PyErr Bool × InstanceManager :=
  match m.availablePool.get? id with
  | none => (.ok false, m)
  | some r =>
    match PDRole.ofString? (m.obj r).role with
    | none => (.error .valueError, m)
    | some role =>
      -- `update_pool[instance_id]`
      if (m.rolePool role).contains id then (.ok true, m.dropAvailable role id) else (.error .keyError, m)

/-- The loop of `_add_instances`. -/
def addInstances (modified : Bool) : List Ref → InstanceManager → Except PyErr Bool × InstanceManager
  | [], m => (.ok modified, m)
  | r :: rs, m =>
    if m.unavailablePool.contains (m.obj r).id then addInstances modified rs m
    else
      match m.addInstanceToAvailablePool r with
      | (.error e, m') => (.error e, m')
      | (.ok false, m') => addInstances modified rs m'
      | (.ok true, m') => addInstances true rs (m'.modifyObj r Instance.initWorkload)

/-- `instances_tmp` of `_add_instances`: the objects that are entered. -/
def instancesTmp : List Ref → InstanceManager → List Ref
  | [], _ => []
  | r :: rs, m =>
    if m.unavailablePool.contains (m.obj r).id then instancesTmp rs m
    else
      match m.addInstanceToAvailablePool r with
      | (.error _, _) => []
      | (.ok false, m') => instancesTmp rs m'
      | (.ok true, m') => r :: instancesTmp rs (m'.modifyObj r Instance.initWorkload)

/-- The loop of `_delete_instances`. -/
def deleteInstances (modified : Bool) : List Ref → InstanceManager → Except PyErr Bool × InstanceManager
  | [], m => (.ok modified, m)
  | r :: rs, m =>
    let id := (m.obj r).id
    if m.unavailablePool.contains id then
      deleteInstances true rs { m with unavailablePool := m.unavailablePool.erase id }
    else
      match m.deleteInstanceFromAvailablePool id with
      | (.error e, m') => (.error e, m')
      | (.ok false, m') => deleteInstances modified rs m'
      | (.ok true, m') => deleteInstances true rs m'

/-- The ids of both pools. -/
def currentIds (m : InstanceManager) : List Int := m.availablePool.keys ++ m.unavailablePool.keys

/-- `_compute_set_diff`: the instances to add and to remove. The source iterates over a set of ids; the
order of the removals is the order of the pools here. -/
def computeSetDiff (m : InstanceManager) (instances : List Ref) : List Ref × List Ref :=
  let newIds := instances.map fun r => (m.obj r).id
  let toRemoveIds := m.currentIds.filter fun id => id ∉ newIds
  let toRemove := toRemoveIds.filterMap fun id => (m.availablePool.get? id).or (m.unavailablePool.get? id)
  let toAdd := instances.filter fun r => (m.obj r).id ∉ m.currentIds
  (toAdd, toRemove)

def applySetDiff (m : InstanceManager) (instances : List Ref) : Except PyErr Bool × InstanceManager :=
  let diff := m.computeSetDiff instances
  if diff.2.isEmpty && diff.1.isEmpty then (.ok false, m)
  else
    match deleteInstances false diff.2 m with
    | (.error e, m') => (.error e, m')
    | (.ok _, m') =>
      match addInstances false diff.1 m' with
      | (.error e, m'') => (.error e, m'')
      | (.ok _, m'') => (.ok true, m'')

/-! ## The public methods -/

/-- `refresh_instances` on instance objects. -/
def refreshInstances (m : InstanceManager) (event : EventType) (instances : List Ref) :
    Except PyErr Bool × InstanceManager :=
  match event with
  | .add => addInstances false instances m
  | .del => deleteInstances false instances m
  | .set => m.applySetDiff instances

def deleteUnavailableInstance (m : InstanceManager) (id : Int) : InstanceManager :=
  if m.unavailablePool.contains id then { m with unavailablePool := m.unavailablePool.erase id } else m

def updateInstanceState (m : InstanceManager) (id : Int) (mode : UpdateInstanceMode) : InstanceManager :=
  match mode with
  | .available =>
    match m.unavailablePool.get? id with
    | none => m
    | some r =>
      -- The instance has left the unavailable pool before the add, which may fail or raise.
      (addInstanceToAvailablePool { m with unavailablePool := m.unavailablePool.erase id } r).2
  | .unavailable =>
    match m.availablePool.get? id with
    | none => m
    | some r =>
      match m.deleteInstanceFromAvailablePool id with
      | (.ok true, m') => { m' with unavailablePool := m'.unavailablePool.set id r }
      | (_, m') => m'

/-- The endpoint index of a pooled instance, rebuilt when it is missing. -/
def endpointCache (m : InstanceManager) (id : Int) (r : Ref) : Dict Int EndpointRef :=
  (m.endpointIdCache.get? id).getD (buildEndpointCache r (m.obj r))

/-- The index entry written back by `update_instance_workload` and `get_endpoint_workload`. -/
def fillEndpointCache (m : InstanceManager) (id : Int) (r : Ref) : InstanceManager :=
  if m.endpointIdCache.contains id then m
  else { m with endpointIdCache := m.endpointIdCache.set id (buildEndpointCache r (m.obj r)) }

def updateInstanceWorkload (m : InstanceManager) (instanceId endpointId : Int) (change : Workload) :
    InstanceManager :=
  match m.availablePool.get? instanceId with
  | none => m
  | some r =>
    match (m.endpointCache instanceId r).get? endpointId with
    | none => m.fillEndpointCache instanceId r
    | some ep =>
      (((m.fillEndpointCache instanceId r).modifyObj r (·.addGathered change)).modifyObj ep.inst
        (·.addEndpointWorkload ep.pod ep.key change))

def hasInstanceEndpoint (m : InstanceManager) (instanceId endpointId : Int) : Bool :=
  match m.availablePool.get? instanceId with
  | none => false
  | some r => (m.endpointCache instanceId r).contains endpointId

def stop (m : InstanceManager) : InstanceManager := { heap := m.heap }

/-! ## Runs of the manager -/

/-- A call of a public method. The instances of a refresh are fresh objects, deserialised by the caller. -/
inductive Op
  | refresh (event : EventType) (instances : List Instance)
  | updateState (id : Int) (mode : UpdateInstanceMode)
  | deleteUnavailable (id : Int)
  | updateWorkload (instanceId endpointId : Int) (change : Workload)
  | stop

/-- `refresh_instances` on the instances of a request. -/
def refresh (m : InstanceManager) (event : EventType) (instances : List Instance) :
    Except PyErr Bool × InstanceManager :=
  (m.alloc instances).2.refreshInstances event (m.alloc instances).1

def step (m : InstanceManager) : Op → InstanceManager
  | .refresh event instances => (m.refresh event instances).2
  | .updateState id mode => m.updateInstanceState id mode
  | .deleteUnavailable id => m.deleteUnavailableInstance id
  | .updateWorkload iid eid change => m.updateInstanceWorkload iid eid change
  | .stop => m.stop

end InstanceManager

end PyMotor

/-!
## What the pools are for

The declarative reading of the six maps of the manager, and the condition on a refresh under which no id
enters a second role pool.
-/

namespace PyMotor.InstanceManager

open Lib

/-- The role pools split the available pool by role, no id is in both pools, and the endpoint index leads
from every available id to the endpoint objects of the pooled instance. -/
structure Consistent (m : InstanceManager) : Prop where
  disjoint : ∀ {id role role'}, (m.rolePool role).contains id = true → (m.rolePool role').contains id = true →
    role = role'
  union : ∀ {id r}, m.availablePool.get? id = some r ↔ ∃ role, (m.rolePool role).get? id = some r
  ownRole : ∀ {role id r}, (m.rolePool role).get? id = some r →
    (m.obj r).id = id ∧ PDRole.ofString? (m.obj r).role = some role
  exclusive : ∀ {id}, m.availablePool.contains id = true → m.unavailablePool.contains id = false
  cacheKeys : ∀ {id}, m.endpointIdCache.contains id = m.availablePool.contains id
  cacheSound : ∀ {id r c eid a}, m.availablePool.get? id = some r → m.endpointIdCache.get? id = some c →
    c.get? eid = some a → a.inst = r ∧ ∃ ep, (m.obj r).endpointAt a.pod a.key = some ep ∧ ep.id = eid
  cacheComplete : ∀ {id r c ep}, m.availablePool.get? id = some r → m.endpointIdCache.get? id = some c →
    ep ∈ (m.obj r).endpointList → c.contains ep.id = true

/-- No id is available under two roles. -/
def Apart (m : InstanceManager) : Prop :=
  ∀ role role', ∀ id ∈ (m.rolePool role).keys, id ∈ (m.rolePool role').keys → role = role'

instance (m : InstanceManager) : Decidable m.Apart :=
  inferInstanceAs (Decidable (∀ role _, ∀ id ∈ (m.rolePool role).keys, _))

/-- The listed instances that `_add_instances` tries to add: an unavailable id is skipped, and SET passes
only unknown ids on. -/
def handed (m : InstanceManager) (event : EventType) (instances : List Instance) : List Instance :=
  match event with
  | .add => instances.filter fun x => !m.unavailablePool.contains x.id
  | .del => []
  | .set => instances.filter fun x => x.id ∉ m.currentIds

/-- The first role that is not a `PDRole` value ends the loop. -/
def admitted (m : InstanceManager) (event : EventType) (instances : List Instance) : List Instance :=
  (m.handed event instances).takeWhile fun x => (PDRole.ofString? x.role).isSome

/-- No instance to add has an id that is available, or listed before, with another role. -/
def RoleKept (m : InstanceManager) : Op → Prop
  | .refresh event instances =>
    ∀ x ∈ m.admitted event instances,
      (∀ r ∈ m.availablePool.get? x.id, (m.obj r).role = x.role) ∧
      ∀ y ∈ m.admitted event instances, y.id = x.id → y.role = x.role
  | _ => True

instance (m : InstanceManager) (op : Op) : Decidable (RoleKept m op) :=
  match op with
  | .refresh event instances =>
    inferInstanceAs (Decidable (∀ x ∈ m.admitted event instances,
      (∀ r ∈ m.availablePool.get? x.id, (m.obj r).role = x.role) ∧
      ∀ y ∈ m.admitted event instances, y.id = x.id → y.role = x.role))
  | .updateState _ _ => inferInstanceAs (Decidable True)
  | .deleteUnavailable _ => inferInstanceAs (Decidable True)
  | .updateWorkload _ _ _ => inferInstanceAs (Decidable True)
  | .stop => inferInstanceAs (Decidable True)

/-- Every instance that the operation may enter has the property; a DEL is looked at for its ids only. -/
def Lists (Q : Instance → Prop) : Op → Prop
  | .refresh event instances => event ≠ .del → ∀ x ∈ instances, Q x
  | _ => True

instance (Q : Instance → Prop) [DecidablePred Q] (op : Op) : Decidable (Lists Q op) :=
  match op with
  | .refresh event instances => inferInstanceAs (Decidable (event ≠ .del → ∀ x ∈ instances, Q x))
  | .updateState _ _ => inferInstanceAs (Decidable True)
  | .deleteUnavailable _ => inferInstanceAs (Decidable True)
  | .updateWorkload _ _ _ => inferInstanceAs (Decidable True)
  | .stop => inferInstanceAs (Decidable True)

/-- The instance has the role that its id has for good. -/
def OwnsRole (roleOf : Int → PDRole) (x : Instance) : Prop := PDRole.ofString? x.role = some (roleOf x.id)

instance (roleOf : Int → PDRole) : DecidablePred (OwnsRole roleOf) :=
  fun x => inferInstanceAs (Decidable (PDRole.ofString? x.role = some (roleOf x.id)))

/-- The six maps and the objects are the same; `m'` may hold new objects that are in no pool. -/
structure SamePools (m m' : InstanceManager) : Prop where
  availablePool : m'.availablePool = m.availablePool
  unavailablePool : m'.unavailablePool = m.unavailablePool
  rolePool : ∀ role, m'.rolePool role = m.rolePool role
  endpointIdCache : m'.endpointIdCache = m.endpointIdCache
  obj : ∀ r < m.heap.length, m'.obj r = m.obj r

/-! ## What a refresh does -/

/-- The pool of the instance's role knows its id already. -/
def refused (m : InstanceManager) (x : Instance) : Bool :=
  match PDRole.ofString? x.role with
  | none => false
  | some role => (m.rolePool role).contains x.id

/-- The loop reaches a role that is not a `PDRole` value. -/
def Invalid (m : InstanceManager) (event : EventType) (instances : List Instance) : Prop :=
  ∃ x ∈ m.handed event instances, PDRole.ofString? x.role = none

/-- An instance is entered before the loop ends. -/
def Accepts (m : InstanceManager) (event : EventType) (instances : List Instance) : Prop :=
  ∃ x ∈ m.admitted event instances, m.refused x = false

/-- A known id is not listed. -/
def Removes (m : InstanceManager) (instances : List Instance) : Prop :=
  ∃ id ∈ m.currentIds, id ∉ instances.map Instance.id

/-- Some pool changes. -/
def Changes (m : InstanceManager) (event : EventType) (instances : List Instance) : Prop :=
  match event with
  | .add => m.Accepts .add instances
  | .del => ∃ x ∈ instances, x.id ∈ m.currentIds
  | .set => m.Removes instances ∨ m.Accepts .set instances

/-- The boolean of `refresh_instances` when nothing raises. SET looks at the difference, not at the outcome. -/
def Announces (m : InstanceManager) (event : EventType) (instances : List Instance) : Prop :=
  match event with
  | .set => m.Removes instances ∨ m.handed .set instances ≠ []
  | _ => m.Changes event instances

/-- The role of the available instance of the id. -/
def availableRole (m : InstanceManager) (id : Int) : Option PDRole :=
  (m.availablePool.get? id).bind fun r => PDRole.ofString? (m.obj r).role

/-- The refresh drops the id. -/
def DropsId (event : EventType) (instances : List Instance) (id : Int) : Prop :=
  match event with
  | .add => False
  | .del => id ∈ instances.map Instance.id
  | .set => id ∉ instances.map Instance.id

instance (event : EventType) (instances : List Instance) (id : Int) : Decidable (DropsId event instances id) :=
  match event with
  | .add => inferInstanceAs (Decidable False)
  | .del => inferInstanceAs (Decidable (id ∈ instances.map Instance.id))
  | .set => inferInstanceAs (Decidable (id ∉ instances.map Instance.id))

/-- What the pool of a role is to hold after a refresh that meets no invalid role: the instances that are not taken out,
then, for every id that the pool does not know, the first instance of the role that is listed with it. -/
def intended (m : InstanceManager) (event : EventType) (instances : List Instance) (role : PDRole) : List Instance :=
  ((m.rolePool role).entries.filter fun e =>
      ¬ (DropsId event instances e.1 ∧ m.availableRole e.1 = some role)).map (fun e => m.obj e.2) ++
    ((m.handed event instances).filter fun x =>
      PDRole.ofString? x.role = some role ∧ (m.rolePool role).contains x.id = false).eraseDupsBy fun x y => x.id = y.id

/-- `m'` holds exactly the listed ids: the known ones as they were, the new ones available and idle. -/
structure Assigned (m : InstanceManager) (instances : List Instance) (m' : InstanceManager) : Prop where
  ids : ∀ id, id ∈ m'.currentIds ↔ id ∈ instances.map Instance.id
  keptPool : ∀ id ∈ m.currentIds, id ∈ instances.map Instance.id →
    m'.availablePool.get? id = m.availablePool.get? id ∧ m'.unavailablePool.get? id = m.unavailablePool.get? id
  keptObj : ∀ r < m.heap.length, m'.obj r = m.obj r
  new : ∀ x ∈ instances, x.id ∉ m.currentIds →
    ∃ r, m'.availablePool.get? x.id = some r ∧ m'.obj r = x.initWorkload

end PyMotor.InstanceManager
