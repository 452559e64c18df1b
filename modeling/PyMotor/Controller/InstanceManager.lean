import PyMotor.Controller.Instance
import PyMotor.Lib.Objects
import PyMotor.Pool.InstanceManager

/-!
# The instance manager of the controller

`motor/controller/core/instance_manager.py` with the event pusher as its observer. The assembler, the manager and the
pusher share the `Instance` objects, which live in a heap. A call of a handler is one step, its notification included;
the time and what the node managers answer are arguments of the step.
-/

/-!
## The event pusher of the controller

`motor/controller/core/event_pusher.py`. The pusher keeps references to the instances that are ready, by job
name, and a queue of events; the consumer turns one event at a time into a message for the coordinator.
-/

namespace PyMotor

open Lib

inductive ObserverEvent
  | instanceInitial
  | instanceReady
  | instanceSeperated
  | instanceRemoved
deriving DecidableEq, Repr

/-- An `Event` of the queue; ADD and DEL carry a deep copy of the instance. -/
inductive PusherEvent
  | add (x : Instance)
  | del (x : Instance)
  | set
deriving DecidableEq

structure InsEventMsg where
  event : EventType
  instances : List Instance
deriving DecidableEq

structure EventPusher where
  isCoordinatorReset : Bool := false
  isFirstHeartbeatSuccess : Bool := false
  hbLossCnt : Nat := 0
  eventQueue : List PusherEvent := []
  instances : Dict String Ref := Dict.empty

namespace EventPusher

/-- `update` on the instance object at `r`, of which `x` is a copy. -/
def update (p : EventPusher) (r : Ref) (x : Instance) : ObserverEvent → EventPusher
  | .instanceReady =>
    { p with instances := p.instances.set x.jobName r, eventQueue := p.eventQueue ++ [.add x] }
  | .instanceSeperated =>
    if p.instances.contains x.jobName then
      { p with instances := p.instances.erase x.jobName, eventQueue := p.eventQueue ++ [.del x] }
    else p
  | .instanceInitial => p
  | .instanceRemoved => p

/-- `push_event`, which is called with SET only. -/
def pushSet (p : EventPusher) : EventPusher := { p with eventQueue := p.eventQueue ++ [.set] }

/-- The message that an event is turned into. A SET event lists the objects as they are now, and is skipped
without a prefill instance. -/
def eventMsg (p : EventPusher) (obj : Ref → Instance) : PusherEvent → Option InsEventMsg
  | .add x => some ⟨.add, [x]⟩
  | .del x => some ⟨.del, [x]⟩
  | .set =>
    let instances := p.instances.values.map obj
    if instances.any fun x => x.role = "prefill" then some ⟨.set, instances⟩ else none

/-- One round of `_event_consumer`; an empty queue blocks it. -/
def eventConsumer (p : EventPusher) (obj : Ref → Instance) : Option InsEventMsg × EventPusher :=
  match p.eventQueue with
  | [] => (none, p)
  | event :: rest => (p.eventMsg obj event, { p with eventQueue := rest })

/-- One round of `_coordinator_heartbeat_detector`: the query of the status raises, or answers whether the
coordinator is ready. -/
def coordinatorHeartbeatDetector (p : EventPusher) : Option (Option Bool) → EventPusher
  | some ready =>
    let p := { p with isFirstHeartbeatSuccess := true }
    let p := if ready = some true then p else { p with isCoordinatorReset := true }
    if p.isCoordinatorReset then { p.pushSet with isCoordinatorReset := false, hbLossCnt := 0 } else p
  | none =>
    if p.isFirstHeartbeatSuccess then
      if 2 ≤ p.hbLossCnt + 1 then { p with isCoordinatorReset := true, hbLossCnt := 0 }
      else { p with hbLossCnt := p.hbLossCnt + 1 }
    else p

end EventPusher

/-- What `NodeManagerApiClient.query_status` comes to: a dict with a true status, any other response, or an
exception. -/
inductive QueryStatus
  | normal
  | abnormal
  | raises
deriving DecidableEq, Repr

/-- The literal `transitions`. -/
def transitions : InsStatus → InsConditionEvent → Option InsStatus
  | .initial, .instanceInit => some .initial
  | .initial, .instanceNormal => some .active
  | .initial, .instanceAbnormal => some .inactive
  | .initial, .instanceHeartbeatTimeout => some .deleted
  | .active, .instanceNormal => some .active
  | .active, .instanceHeartbeatTimeout => some .inactive
  | .active, .instanceAbnormal => some .inactive
  | .inactive, .instanceAbnormal => some .inactive
  | .inactive, .instanceNormal => some .active
  | .inactive, .instanceInit => some .initial
  | .inactive, .instanceHeartbeatTimeout => some .deleted
  | _, _ => none

/-- The data that `persist_data` writes, keyed by id. -/
structure PersistentState where
  data : Dict Int ManagedInstance
  ids : ∀ e ∈ data.entries, e.2.id = e.1

structure Controller where
  heap : Heap ManagedInstance := []
  instances : Dict Int Ref := Dict.empty
  forcedSeparatedInstances : List Int := []
  dataVersion : Nat := 0
  eventPusher : EventPusher := {}

namespace Controller

def obj (c : Controller) (r : Ref) : ManagedInstance := c.heap.read r

def modifyObj (c : Controller) (r : Ref) (f : ManagedInstance → ManagedInstance) : Controller :=
  { c with heap := c.heap.modify r f }

def notify (c : Controller) (r : Ref) (event : ObserverEvent) : Controller :=
  { c with eventPusher := c.eventPusher.update r (c.obj r).toInstance event }

/-- A new instance object. -/
def create (c : Controller) (x : ManagedInstance) : Controller := { c with heap := c.heap ++ [x] }

/-- `add_instance` of the instance object at `r`. -/
def addInstance (c : Controller) (timestamp : ℚ) (r : Ref) : Controller :=
  if c.instances.contains (c.obj r).id then c
  else
    let c := { c with instances := c.instances.set (c.obj r).id r }
    (c.modifyObj r (·.initialHeartbeats timestamp)).notify r .instanceInitial

def delInstance (c : Controller) (insId : Int) : Controller :=
  if c.instances.contains insId then
    { c with
      instances := c.instances.erase insId
      forcedSeparatedInstances := c.forcedSeparatedInstances.filter (· ≠ insId) }
  else c

def separateInstance (c : Controller) (instanceId : Int) : Controller :=
  match c.instances.get? instanceId with
  | none => c
  | some r =>
    let c := { c with forcedSeparatedInstances := c.forcedSeparatedInstances.insert (c.obj r).id }
    if (c.obj r).status = .active then
      (c.modifyObj r (·.updateInstanceStatus .inactive)).notify r .instanceSeperated
    else c

def recoverInstance (c : Controller) (instanceId : Int) : Controller :=
  match c.instances.get? instanceId with
  | none => c
  | some r => { c with forcedSeparatedInstances := c.forcedSeparatedInstances.filter (· ≠ (c.obj r).id) }

/-! ## The state handlers -/

def handleInitial (c : Controller) (fromState : InsStatus) (event : InsConditionEvent) (r : Ref) : Controller :=
  if fromState = .inactive ∧ event = .instanceInit then c.modifyObj r (·.updateInstanceStatus .initial) else c

def handleActive (c : Controller) (fromState : InsStatus) (event : InsConditionEvent) (r : Ref) : Controller :=
  if fromState = .active then c
  else if event = .instanceNormal then
    (c.modifyObj r (·.updateInstanceStatus .active)).notify r .instanceReady
  else c

def checkNodeManagersStatus (x : ManagedInstance) (queryStatus : NodeManagerInfo → QueryStatus) : Bool :=
  x.nodeManagers.isEmpty || x.nodeManagers.any fun nm => queryStatus nm ≠ .normal

def handleInactive (c : Controller) (timestamp : ℚ) (queryStatus : NodeManagerInfo → QueryStatus)
    (fromState : InsStatus) (event : InsConditionEvent) (r : Ref) : Controller :=
  if fromState = .inactive then c
  else if event = .instanceAbnormal then
    (c.modifyObj r (·.updateInstanceStatus .inactive)).notify r .instanceSeperated
  else if event = .instanceHeartbeatTimeout then
    if checkNodeManagersStatus (c.obj r) queryStatus then
      (c.modifyObj r (·.updateInstanceStatus .inactive)).notify r .instanceSeperated
    else c.modifyObj r (·.refreshHeartbeats timestamp)
  else c

def handleDeleted (c : Controller) (fromState : InsStatus) (event : InsConditionEvent) (r : Ref) : Controller :=
  if fromState = .deleted then c
  else if event = .instanceHeartbeatTimeout ∨ event = .instanceAbnormal then
    ((c.modifyObj r (·.updateInstanceStatus .deleted)).notify r .instanceRemoved).delInstance (c.obj r).id
  else c

/-- The event that the endpoints of an instance stand for. -/
def conditionEvent (x : ManagedInstance) : InsConditionEvent :=
  if x.isAllEndpointsReady then .instanceNormal
  else if x.isHaveOneEndpointAbnormal then .instanceAbnormal
  else .instanceInit

def handleStateTransition (c : Controller) (timestamp : ℚ) (queryStatus : NodeManagerInfo → QueryStatus) (r : Ref)
    (eventOverride : Option InsConditionEvent) : Bool × Controller :=
  let fromState := (c.obj r).status
  let event := eventOverride.getD (conditionEvent (c.obj r))
  match transitions fromState event with
  | none => (false, c)
  | some toState =>
    if (c.obj r).id ∈ c.forcedSeparatedInstances ∧ toState = .active then (true, c)
    else
      match toState with
      | .initial => (true, c.handleInitial fromState event r)
      | .active => (true, c.handleActive fromState event r)
      | .inactive => (true, c.handleInactive timestamp queryStatus fromState event r)
      -- `del_instance` has taken the id out of the forced set already.
      | .deleted => (true, c.handleDeleted fromState event r)

/-- What `handle_heartbeat` raises. -/
inductive HeartbeatError
  | httpException (code : Nat)
  | py (e : PyErr)
deriving DecidableEq, Repr

/-- `handle_heartbeat`. A heartbeat is never a timeout, so the node managers are not asked. -/
def handleHeartbeat (c : Controller) (timestamp : ℚ) (insId : Int) (ip : String) (status : Dict Int EndpointStatus) :
    Except HeartbeatError (Bool × Nat) × Controller :=
  match c.instances.get? insId with
  | none => (.error (.httpException 503), c)
  | some r =>
    let c' := c.modifyObj r fun x => (x.updateHeartbeat ip timestamp status).2
    match ((c.obj r).updateHeartbeat ip timestamp status).1 with
    | .error e => (.error (.py e), c')
    | .ok false => (.error (.httpException 500), c')
    | .ok true =>
      match c'.handleStateTransition timestamp (fun _ => .normal) r none with
      | (false, c'') => (.error (.httpException 500), c'')
      | (true, c'') => (.ok (true, 200), c'')

/-- One instance of a round of `_instances_management_loop`. -/
def handleTimeout (c : Controller) (timestamp : ℚ) (queryStatus : NodeManagerInfo → QueryStatus) (insId : Int) :
    Controller :=
  match c.instances.get? insId with
  | none => c
  | some r =>
    if (c.obj r).status = .deleted then c
    else if (c.obj r).isAllEndpointsAlive timestamp then c
    else (c.handleStateTransition timestamp queryStatus r (some .instanceHeartbeatTimeout)).2

/-! ## Restoring -/

/-- `_maybe_refresh_heartbeat` without its notification. -/
def maybeRefreshHeartbeat (timestamp : ℚ) (x : ManagedInstance) : ManagedInstance :=
  if x.status = .active then x.refreshHeartbeats timestamp else x

/-- One round of the loop of `restore_data`; an ACTIVE instance is announced before it is entered. -/
def restoreInstance (timestamp : ℚ) (c : Controller) (x : ManagedInstance) : Controller :=
  let r := c.heap.length
  let c := c.create (maybeRefreshHeartbeat timestamp x)
  let c := if x.status = .active then c.notify r .instanceReady else c
  { c with instances := c.instances.set x.id r }

/-- The rest of `restore_data`, once the instances are read from the persisted state. -/
def restoreInstances (c : Controller) (timestamp : ℚ) (xs : List ManagedInstance) : Controller :=
  let c := xs.foldl (restoreInstance timestamp) { c with instances := Dict.empty }
  { c with eventPusher := c.eventPusher.pushSet }

/-- `restore_data` once the persisted state is found valid. -/
def restoreData (c : Controller) (timestamp : ℚ) (state : PersistentState) : Controller :=
  c.restoreInstances timestamp state.data.values

end Controller

end PyMotor
