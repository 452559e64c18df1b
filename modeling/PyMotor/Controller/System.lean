import PyMotor.Controller.InstanceManager
import PyMotor.Lib.Run
import PyMotor.Pool.InstanceManager

/-!
# The controller and a coordinator

The instance manager, the fault manager and the detector act in any order, the consumer sends one message at a
time, and any message may be lost. The coordinator may be told of instances by others too, and may be restarted.
-/

namespace PyMotor

open Lib

def Controller.getActiveInstances (c : Controller) : List ManagedInstance :=
  (c.instances.values.map c.obj).filter fun x => x.status = .active

structure ControllerSystem where
  controller : Controller := {}
  coordinator : InstanceManager := {}

namespace ControllerSystem

inductive Event
  /-- A new instance is handed over; its status is INITIAL. -/
  | addInstance (timestamp : ℚ) (ins : ManagedInstance)
  | heartbeat (timestamp : ℚ) (insId : Int) (ip : String) (status : Dict Int EndpointStatus)
  | timeout (timestamp : ℚ) (queryStatus : NodeManagerInfo → QueryStatus) (insId : Int)
  | separate (instanceId : Int)
  | recover (instanceId : Int)
  | restore (timestamp : ℚ) (state : PersistentState)
  /-- The heartbeat detector asks for the status of the coordinator. -/
  | detect (response : Option (Option Bool))
  /-- The consumer takes the next event; its message arrives or is lost. -/
  | consume (delivered : Bool)
  | coordinate (op : InstanceManager.Op)

/-- The message for the next event of the queue. -/
def nextMsg (s : ControllerSystem) : Option InsEventMsg :=
  (s.controller.eventPusher.eventConsumer fun r => (s.controller.obj r).toInstance).1

/-- `/instances/refresh` at the coordinator. -/
def deliver (m : InstanceManager) : Option InsEventMsg → InstanceManager
  | none => m
  | some msg => m.step (.refresh msg.event msg.instances)

def step (s : ControllerSystem) : Event → ControllerSystem
  | .addInstance timestamp ins =>
    { s with controller :=
        (s.controller.create (ins.updateInstanceStatus .initial)).addInstance timestamp s.controller.heap.length }
  | .heartbeat timestamp insId ip status =>
    { s with controller := (s.controller.handleHeartbeat timestamp insId ip status).2 }
  | .timeout timestamp queryStatus insId =>
    { s with controller := s.controller.handleTimeout timestamp queryStatus insId }
  | .separate instanceId => { s with controller := s.controller.separateInstance instanceId }
  | .recover instanceId => { s with controller := s.controller.recoverInstance instanceId }
  | .restore timestamp state => { s with controller := s.controller.restoreData timestamp state }
  | .detect response =>
    { s with controller :=
        { s.controller with eventPusher := s.controller.eventPusher.coordinatorHeartbeatDetector response } }
  | .consume delivered =>
    { controller :=
        { s.controller with
          eventPusher := (s.controller.eventPusher.eventConsumer fun r => (s.controller.obj r).toInstance).2 }
      coordinator := if delivered then deliver s.coordinator s.nextMsg else s.coordinator }
  | .coordinate op => { s with coordinator := s.coordinator.step op }

/-! ## What a SET event is for -/

/-- The next event is SET. -/
def SetNext (s : ControllerSystem) : Prop := s.controller.eventPusher.eventQueue.head? = some .set

instance (s : ControllerSystem) : Decidable s.SetNext := inferInstanceAs (Decidable (_ = _))

/-- The delivered message leaves the coordinator with the ids that are active in the controller. -/
def InStep (s : ControllerSystem) : Prop :=
  ∀ id, id ∈ (s.step (.consume true)).coordinator.currentIds ↔ id ∈ s.controller.getActiveInstances.map (·.id)

/-- A SET event becomes a message that brings the coordinator in step. -/
def Resynchronises (s : ControllerSystem) : Prop := s.SetNext → s.nextMsg ≠ none ∧ s.InStep

/-- Some active instance is a prefill instance. -/
def HasPrefill (c : Controller) : Prop := ∃ x ∈ c.getActiveInstances, x.role = "prefill"

/-- A SET event becomes a message that brings the coordinator in step while there is an active prefill instance,
and is dropped otherwise. -/
def ResynchronisesPrefill (s : ControllerSystem) : Prop :=
  s.SetNext → (HasPrefill s.controller → s.nextMsg ≠ none ∧ s.InStep) ∧
    (¬ HasPrefill s.controller → s.nextMsg = none)

/-! ## Job names -/

/-- The pusher has no other instance under the job name. -/
def OwnName (c : Controller) (r : Ref) : Prop :=
  ∀ r' ∈ c.eventPusher.instances.get? (c.obj r).jobName, r' = r

instance (c : Controller) (r : Ref) : Decidable (OwnName c r) :=
  inferInstanceAs (Decidable (∀ r' ∈ c.eventPusher.instances.get? (c.obj r).jobName, r' = r))

/-- An instance that becomes active or inactive shares its job name with no other instance of the pusher. -/
def NamesKept (s : ControllerSystem) (event : Event) : Prop :=
  ∀ r ∈ s.controller.instances.values,
    ((s.step event).controller.obj r).status ∈ [InsStatus.active, .inactive] →
    ((s.step event).controller.obj r).status ≠ (s.controller.obj r).status → OwnName s.controller r

instance (s : ControllerSystem) (event : Event) : Decidable (s.NamesKept event) :=
  inferInstanceAs (Decidable (∀ r ∈ s.controller.instances.values, _ → _ → OwnName s.controller r))

/-- The persisted instances have the roles of their ids, the active ones have distinct job names, and the pusher
knows no other job name. -/
def Restorable (roleOf : Int → PDRole) (c : Controller) (state : PersistentState) : Prop :=
  (∀ x ∈ state.data.values, InstanceManager.OwnsRole roleOf x.toInstance) ∧
  ((state.data.values.filter fun x => x.status = .active).map (·.jobName)).Nodup ∧
  ∀ name ∈ c.eventPusher.instances.keys, ∃ x ∈ state.data.values, x.status = .active ∧ x.jobName = name

instance (roleOf : Int → PDRole) (c : Controller) (state : PersistentState) : Decidable (Restorable roleOf c state) :=
  inferInstanceAs (Decidable ((∀ x ∈ state.data.values, InstanceManager.OwnsRole roleOf x.toInstance) ∧ _ ∧
    ∀ name ∈ c.eventPusher.instances.keys, ∃ x ∈ state.data.values, x.status = .active ∧ x.jobName = name))

/-- Every id keeps its role, and no job name is shared when an instance is announced. -/
def Sound (roleOf : Int → PDRole) (s : ControllerSystem) (event : Event) : Prop :=
  s.NamesKept event ∧
    match event with
    | .addInstance _ ins => InstanceManager.OwnsRole roleOf ins.toInstance
    | .restore _ state => Restorable roleOf s.controller state
    | .coordinate op => InstanceManager.Lists (InstanceManager.OwnsRole roleOf) op
    | _ => True

instance (roleOf : Int → PDRole) (s : ControllerSystem) (event : Event) : Decidable (s.Sound roleOf event) :=
  match event with
  | .addInstance _ ins => inferInstanceAs (Decidable (_ ∧ InstanceManager.OwnsRole roleOf ins.toInstance))
  | .restore _ state => inferInstanceAs (Decidable (_ ∧ Restorable roleOf s.controller state))
  | .coordinate op => inferInstanceAs (Decidable (_ ∧ InstanceManager.Lists (InstanceManager.OwnsRole roleOf) op))
  | .heartbeat _ _ _ _ => inferInstanceAs (Decidable (_ ∧ True))
  | .timeout _ _ _ => inferInstanceAs (Decidable (_ ∧ True))
  | .separate _ => inferInstanceAs (Decidable (_ ∧ True))
  | .recover _ => inferInstanceAs (Decidable (_ ∧ True))
  | .detect _ => inferInstanceAs (Decidable (_ ∧ True))
  | .consume _ => inferInstanceAs (Decidable (_ ∧ True))

end ControllerSystem

end PyMotor
