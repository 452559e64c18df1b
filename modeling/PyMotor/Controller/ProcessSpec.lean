import PyMotor.Controller.Assembler
import PyMotor.Controller.System

/-!
# What the controller process is for

Properties of the states of the process, and the conditions on its steps under which they hold.
-/

namespace PyMotor

open Lib

namespace ControllerProcess

/-! ## Forced separation -/

/-- A separated id belongs to a managed instance that is not active, and a new instance is never separated because
of an earlier one. -/
structure SeparationRespected (c : Controller) : Prop where
  inactive : ∀ {id r}, id ∈ c.forcedSeparatedInstances → c.instances.get? id = some r → (c.obj r).status ≠ .active
  managed : ∀ {id}, id ∈ c.forcedSeparatedInstances → ∃ r, c.instances.get? id = some r
  fresh : ∀ timestamp r, c.instances.get? (c.obj r).id = none →
    (c.obj r).id ∉ (c.addInstance timestamp r).forcedSeparatedInstances

/-- The manager is restored from data that have every separated id, with a status other than ACTIVE. -/
def RestoresSeparated (p : ControllerProcess) : Event → Prop
  | .restoreManager => ∀ state ∈ p.managerData, ∀ id ∈ p.controller.forcedSeparatedInstances,
      ∃ x ∈ state.data.get? id, x.status ≠ .active
  | _ => True

instance (p : ControllerProcess) (event : Event) : Decidable (p.RestoresSeparated event) :=
  match event with
  | .restoreManager => inferInstanceAs (Decidable (∀ state ∈ p.managerData,
      ∀ id ∈ p.controller.forcedSeparatedInstances, ∃ x ∈ state.data.get? id, x.status ≠ .active))
  | .register _ | .reregister _ | .assemble _ _ _ | .startCommand _ _ _ | .heartbeat _ _ _ | .timeout _ _
  | .separate _ | .recover _ | .delete _ | .persistManager | .persistAssembler | .restoreAssembler | .restart
  | .tick _ => inferInstanceAs (Decidable True)

/-! ## The event pusher -/

/-- The pusher has exactly the ids of the active instances. -/
def PusherMirrors (c : Controller) : Prop :=
  ∀ id, id ∈ c.eventPusher.instances.values.map (fun r => (c.obj r).id) ↔ id ∈ c.getActiveInstances.map (·.id)

/-- The table takes the instance to another status, ACTIVE or INACTIVE. -/
def Moves (x : ManagedInstance) (event : InsConditionEvent) : Prop :=
  transitions x.status event ∈ [some InsStatus.active, some .inactive] ∧
    transitions x.status event ≠ some x.status

/-- No other active instance has the job name. -/
def SoleActive (c : Controller) (r : Ref) : Prop :=
  ∀ r' ∈ c.instances.values, (c.obj r').status = .active → (c.obj r').jobName = (c.obj r).jobName → r' = r

instance (x : ManagedInstance) (event : InsConditionEvent) : Decidable (Moves x event) :=
  inferInstanceAs (Decidable (_ ∧ _))

instance (c : Controller) (r : Ref) : Decidable (SoleActive c r) :=
  inferInstanceAs (Decidable (∀ r' ∈ c.instances.values, _ → _ → r' = r))

/-- A heartbeat moves an instance only while no other active instance has its job name, no active instance is
deleted, and the manager is restored from data in which every job name of the pusher is active. -/
def JobNamesApart (p : ControllerProcess) : Event → Prop
  | .heartbeat insId ip status => ∀ r ∈ p.controller.instances.get? insId,
      Moves (p.controller.obj r) (Controller.conditionEvent
        ((p.controller.obj r).updateHeartbeat ip p.clock status).2) → SoleActive p.controller r
  | .delete insId => ∀ r ∈ p.controller.instances.get? insId, (p.controller.obj r).status ≠ .active
  | .restoreManager => ∀ state ∈ p.managerData, ∀ name ∈ p.controller.eventPusher.instances.keys,
      ∃ x ∈ state.data.values, x.status = .active ∧ x.jobName = name
  | _ => True

instance (p : ControllerProcess) (event : Event) : Decidable (p.JobNamesApart event) :=
  match event with
  | .heartbeat insId ip status => inferInstanceAs (Decidable (∀ r ∈ p.controller.instances.get? insId,
      Moves (p.controller.obj r) (Controller.conditionEvent
        ((p.controller.obj r).updateHeartbeat ip p.clock status).2) → SoleActive p.controller r))
  | .delete insId => inferInstanceAs (Decidable (∀ r ∈ p.controller.instances.get? insId,
      (p.controller.obj r).status ≠ .active))
  | .restoreManager => inferInstanceAs (Decidable (∀ state ∈ p.managerData,
      ∀ name ∈ p.controller.eventPusher.instances.keys, ∃ x ∈ state.data.values, x.status = .active ∧ x.jobName = name))
  | .register _ | .reregister _ | .assemble _ _ _ | .startCommand _ _ _ | .timeout _ _ | .separate _ | .recover _
  | .persistManager | .persistAssembler | .restoreAssembler | .restart | .tick _ => inferInstanceAs (Decidable True)

/-! ## Readiness -/

/-- The heartbeat has a status for every endpoint of the pod. -/
def Covers (x : ManagedInstance) (ip : String) (status : Dict Int EndpointStatus) : Prop :=
  ∀ eps ∈ x.endpoints.get? ip, ∀ ep ∈ eps.values, status.contains ep.id

/-- The heartbeat of a pod of the instance, with one status for each of its endpoints. -/
def WellFormed (x : ManagedInstance) (ip : String) (status : Dict Int EndpointStatus) : Prop :=
  (∃ eps ∈ x.endpoints.get? ip, eps.entries.length = status.entries.length) ∧ Covers x ip status

/-- A well-formed heartbeat of an instance that is managed and not deleted is handled without an error. -/
def HeartbeatHandled (p : ControllerProcess) : Event → Prop
  | .heartbeat insId ip status => ∀ r ∈ p.controller.instances.get? insId, (p.controller.obj r).status ≠ .deleted →
      WellFormed (p.controller.obj r) ip status →
      (p.controller.handleHeartbeat p.clock insId ip status).1 = .ok (true, 200)
  | _ => True

/-- All endpoints of the pod are reported NORMAL, or one is reported ABNORMAL. -/
def Decides (eps : Dict Int Endpoint) (status : Dict Int EndpointStatus) : Prop :=
  (∀ ep ∈ eps.values, status.get? ep.id = some .normal) ∨ ∃ ep ∈ eps.values, status.get? ep.id = some .abnormal

instance (eps : Dict Int Endpoint) (status : Dict Int EndpointStatus) : Decidable (Decides eps status) :=
  inferInstanceAs (Decidable ((∀ ep ∈ eps.values, _) ∨ ∃ ep ∈ eps.values, _))

/-- A heartbeat with as many statuses as its pod has endpoints has a status for each of them, and decides about an active
instance. -/
def ActiveDecided (p : ControllerProcess) : Event → Prop
  | .heartbeat insId ip status => ∀ r ∈ p.controller.instances.get? insId,
      ∀ eps ∈ (p.controller.obj r).endpoints.get? ip, eps.entries.length = status.entries.length →
        (∀ ep ∈ eps.values, status.contains ep.id) ∧ ((p.controller.obj r).status = .active → Decides eps status)
  | _ => True

instance (x : ManagedInstance) (ip : String) (status : Dict Int EndpointStatus) : Decidable (Covers x ip status) :=
  inferInstanceAs (Decidable (∀ eps ∈ x.endpoints.get? ip, ∀ ep ∈ eps.values, status.contains ep.id = true))

instance (x : ManagedInstance) (ip : String) (status : Dict Int EndpointStatus) : Decidable (WellFormed x ip status) :=
  inferInstanceAs (Decidable ((∃ eps ∈ x.endpoints.get? ip, eps.entries.length = status.entries.length) ∧ _))

instance (p : ControllerProcess) (event : Event) : Decidable (p.ActiveDecided event) :=
  match event with
  | .heartbeat insId ip status => inferInstanceAs (Decidable (∀ r ∈ p.controller.instances.get? insId,
      ∀ eps ∈ (p.controller.obj r).endpoints.get? ip, eps.entries.length = status.entries.length →
        (∀ ep ∈ eps.values, status.contains ep.id = true) ∧
          ((p.controller.obj r).status = .active → Decides eps status)))
  | .register _ | .reregister _ | .assemble _ _ _ | .startCommand _ _ _ | .timeout _ _ | .separate _ | .recover _
  | .delete _ | .persistManager | .restoreManager | .persistAssembler | .restoreAssembler | .restart | .tick _ =>
    inferInstanceAs (Decidable True)

end ControllerProcess

/-! ## Reported statuses -/

/-- The status that was last reported for an endpoint, by the address of its pod and its id. -/
abbrev Reports := String → Int → Option EndpointStatus

/-- The reports of a pod; what it says nothing of was reported before. -/
def Reports.hear (reports : Reports) (podIp : String) (statuses : Int → Option EndpointStatus) : Reports :=
  fun ip endpointId => if ip = podIp then (statuses endpointId).or (reports ip endpointId) else reports ip endpointId

/-- The process, with what was last reported to each instance object, and to the instances that were persisted. -/
structure ReportedProcess where
  process : ControllerProcess := {}
  reported : Ref → Reports := fun _ _ _ => none
  managerReported : Int → Reports := fun _ _ _ => none
  assemblerReported : String → Reports := fun _ _ _ => none

namespace ReportedProcess

open ControllerProcess

/-- The instance object that a message of a pod reaches, when it is not refused. -/
def reregistered (p : ControllerProcess) (msg : ReregisterMsg) : Option Ref :=
  match p.evalRegisterStatus msg.jobName with
  | .assembled => none
  | .notRegistered => some p.controller.heap.length
  | .assembling => (p.assembler.instances.get? msg.jobName).map (·.ins)

/-- A restore leaves the old objects their reports, and gives the new ones those that they were persisted with. -/
def restored (s : ReportedProcess) (event : Event) (persisted : ManagedInstance → Reports) (r : Ref) : Reports :=
  if r < s.process.controller.heap.length then s.reported r
  else if r < (s.process.step event).controller.heap.length then persisted ((s.process.step event).controller.obj r)
  else fun _ _ => none

/-- A pod reports by a heartbeat that has as many statuses as the instance has endpoints of it, and by registering again. -/
def record (s : ReportedProcess) : Event → Ref → Reports
  | .heartbeat insId ip status => fun r =>
    if s.process.controller.instances.get? insId = some r ∧
        ∃ eps ∈ (s.process.controller.obj r).endpoints.get? ip, eps.entries.length = status.entries.length then
      (s.reported r).hear ip status.get?
    else s.reported r
  | .reregister msg => fun r =>
    if reregistered s.process msg = some r then
      (s.reported r).hear msg.podIp (Dict.empty.update (msg.endpoints.map fun ep => (ep.id, ep.status))).get?
    else s.reported r
  | .restoreManager => s.restored .restoreManager fun x => s.managerReported x.id
  | .restoreAssembler => s.restored .restoreAssembler fun x => s.assemblerReported x.jobName
  | .restart => fun _ _ _ => none
  | _ => s.reported

def step (s : ReportedProcess) (event : Event) : ReportedProcess where
  process := s.process.step event
  reported := s.record event
  managerReported :=
    match event with
    | .persistManager => fun id => ((s.process.controller.instances.get? id).map s.reported).getD fun _ _ => none
    | _ => s.managerReported
  assemblerReported :=
    match event with
    | .persistAssembler => fun jobName =>
      ((s.process.assembler.instances.get? jobName).map fun m => s.reported m.ins).getD fun _ _ => none
    | _ => s.assemblerReported

/-- Every endpoint of an active instance was last reported NORMAL. -/
def ActiveNormal (s : ReportedProcess) : Prop :=
  ∀ id r, s.process.controller.instances.get? id = some r → (s.process.controller.obj r).status = .active →
    ∀ pod ∈ (s.process.controller.obj r).endpoints.entries, ∀ ep ∈ pod.2.values,
      s.reported r pod.1 ep.id = some .normal

end ReportedProcess

/-! ## Silent pods -/

/-- The process, with the time of the last heartbeat of each pod of each instance object. -/
structure HeardProcess where
  process : ControllerProcess := {}
  heard : Dict (Ref × String) ℚ := Dict.empty

namespace HeardProcess

open ControllerProcess

/-- A heartbeat counts when the endpoints of its pod are updated. -/
def record (s : HeardProcess) : Event → Dict (Ref × String) ℚ
  | .heartbeat insId ip status =>
    match s.process.controller.instances.get? insId with
    | none => s.heard
    | some r =>
      if ((s.process.controller.obj r).updateHeartbeat ip s.process.clock status).1 = .ok true then
        s.heard.set (r, ip) s.process.clock
      else s.heard
  | .restart => Dict.empty
  | _ => s.heard

def step (s : HeardProcess) (event : Event) : HeardProcess :=
  { process := s.process.step event, heard := s.record event }

/-- The pod has sent a heartbeat within the timeout of active instances. -/
def Heard (s : HeardProcess) (r : Ref) (ip : String) : Prop :=
  ∃ t ∈ s.heard.get? (r, ip), s.process.clock - t ≤ activeInstanceHeartbeatTimeout

instance (s : HeardProcess) (r : Ref) (ip : String) : Decidable (s.Heard r ip) :=
  inferInstanceAs (Decidable (∃ t ∈ s.heard.get? (r, ip), _))

/-- The step makes the managed instance active. -/
def BecomesActive (s : HeardProcess) (event : Event) (r : Ref) : Prop :=
  (∃ id, s.process.controller.instances.get? id = some r) ∧ (s.process.controller.obj r).status ≠ .active ∧
    ((s.step event).process.controller.obj r).status = .active

/-- An instance becomes active only when each of its endpoints was heard of within the timeout. -/
def AllHeard (s : HeardProcess) (event : Event) : Prop :=
  ∀ r, s.BecomesActive event r → ∀ pod ∈ ((s.step event).process.controller.obj r).endpoints.entries,
    pod.2.values ≠ [] → (s.step event).Heard r pod.1

/-- Steps of the manager, but no heartbeat of the pod. -/
def OfOthers (insId : Int) (ip : String) : Event → Prop
  | .heartbeat insId' ip' _ => ¬ (insId' = insId ∧ ip' = ip)
  | .timeout _ _ | .separate _ | .recover _ | .tick _ => True
  | _ => False

/-- Once an instance is not active and one of its pods is silent, the other pods alone do not make it active. -/
def StaysOut (events : List Event) : Prop :=
  ∀ before after id r ip eps, events = before ++ after →
    (run step {} before).process.controller.instances.get? id = some r →
    ((run step {} before).process.controller.obj r).status ≠ .active →
    ((run step {} before).process.controller.obj r).endpoints.get? ip = some eps → eps.values ≠ [] →
    ¬ (run step {} before).Heard r ip → (∀ event ∈ after, OfOthers id ip event) →
    ((run step {} events).process.controller.obj r).status ≠ .active

/-- While an instance is not active, a heartbeat finds no endpoint of another pod that is stored as NORMAL and has
not been heard of within the timeout. -/
def NormalsHeard (s : HeardProcess) : Event → Prop
  | .heartbeat insId ip _ => ∀ r ∈ s.process.controller.instances.get? insId,
      (s.process.controller.obj r).status ≠ .active →
      ∀ pod ∈ (s.process.controller.obj r).endpoints.entries, pod.1 ≠ ip →
        (∃ ep ∈ pod.2.values, ep.status = .normal) → s.Heard r pod.1
  | _ => True

instance (s : HeardProcess) (event : Event) : Decidable (s.NormalsHeard event) :=
  match event with
  | .heartbeat insId ip _ => inferInstanceAs (Decidable (∀ r ∈ s.process.controller.instances.get? insId,
      (s.process.controller.obj r).status ≠ .active →
      ∀ pod ∈ (s.process.controller.obj r).endpoints.entries, pod.1 ≠ ip →
        (∃ ep ∈ pod.2.values, ep.status = .normal) → s.Heard r pod.1))
  | .register _ | .reregister _ | .assemble _ _ _ | .startCommand _ _ _ | .timeout _ _ | .separate _ | .recover _
  | .delete _ | .persistManager | .restoreManager | .persistAssembler | .restoreAssembler | .restart | .tick _ =>
    inferInstanceAs (Decidable True)

end HeardProcess

end PyMotor
