import PyMotor.Controller.System

/-!
# The alarms of the instance manager

`_report_inst_alarm` and `_report_coordinator_alarm` of `motor/controller/core/instance_manager.py`, and which alarms
each call adds. The other fields of an alarm are the same in every alarm of its kind.
-/

namespace PyMotor

open Lib

/-- `InstanceExceptionAlarm` with the job name, and `CoordinatorExceptionAlarm` for INSTANCE_MISSING. -/
inductive ControllerAlarm
  | instanceException (instanceId : String) (isCleared : Bool)
  | instanceMissing (isCleared : Bool)
deriving DecidableEq, Repr

namespace Controller

def reportInstAlarm (x : ManagedInstance) (isCleared : Bool) : List ControllerAlarm :=
  [.instanceException x.jobName isCleared]

/-- `role_to_partner.get(role)`. -/
def roleToPartner : String → Option String
  | "prefill" => some "decode"
  | "decode" => some "prefill"
  | _ => none

def reportCoordinatorAlarm (c : Controller) (x : ManagedInstance) (isCleared : Bool) : List ControllerAlarm :=
  match if isCleared then roleToPartner x.role else some x.role with
  | none => []
  | some role =>
    let hasRole := c.getActiveInstances.any fun inst => inst.role = role
    if hasRole ≠ isCleared then [] else [.instanceMissing isCleared]

/-! ## The alarms of the state handlers -/

/-- `_handle_active` reports in the state that it has made. -/
def alarmsOfActive (c : Controller) (fromState : InsStatus) (event : InsConditionEvent) (r : Ref) :
    List ControllerAlarm :=
  if fromState = .active then []
  else if event = .instanceNormal then
    let c := c.handleActive fromState event r
    reportInstAlarm (c.obj r) true ++ c.reportCoordinatorAlarm (c.obj r) true
  else []

/-- `_handle_inactive`; an abnormal instance returns before it reports. -/
def alarmsOfInactive (c : Controller) (timestamp : ℚ) (queryStatus : NodeManagerInfo → QueryStatus)
    (fromState : InsStatus) (event : InsConditionEvent) (r : Ref) : List ControllerAlarm :=
  if fromState = .inactive then []
  else if event = .instanceAbnormal then []
  else if event = .instanceHeartbeatTimeout then
    if checkNodeManagersStatus (c.obj r) queryStatus then
      let c := c.handleInactive timestamp queryStatus fromState event r
      reportInstAlarm (c.obj r) false ++ c.reportCoordinatorAlarm (c.obj r) false
    else []
  else []

def alarmsOfStateTransition (c : Controller) (timestamp : ℚ) (queryStatus : NodeManagerInfo → QueryStatus) (r : Ref)
    (eventOverride : Option InsConditionEvent) : List ControllerAlarm :=
  let fromState := (c.obj r).status
  let event := eventOverride.getD (conditionEvent (c.obj r))
  match transitions fromState event with
  | none => []
  | some toState =>
    if (c.obj r).id ∈ c.forcedSeparatedInstances ∧ toState = .active then []
    else
      match toState with
      | .initial => []
      | .active => c.alarmsOfActive fromState event r
      | .inactive => c.alarmsOfInactive timestamp queryStatus fromState event r
      | .deleted => []

def alarmsOfHeartbeat (c : Controller) (timestamp : ℚ) (insId : Int) (ip : String)
    (status : Dict Int EndpointStatus) : List ControllerAlarm :=
  match c.instances.get? insId with
  | none => []
  | some r =>
    match ((c.obj r).updateHeartbeat ip timestamp status).1 with
    | .ok true =>
      (c.modifyObj r fun x => (x.updateHeartbeat ip timestamp status).2).alarmsOfStateTransition timestamp
        (fun _ => .normal) r none
    | _ => []

def alarmsOfTimeout (c : Controller) (timestamp : ℚ) (queryStatus : NodeManagerInfo → QueryStatus) (insId : Int) :
    List ControllerAlarm :=
  match c.instances.get? insId with
  | none => []
  | some r =>
    if (c.obj r).status = .deleted then []
    else if (c.obj r).isAllEndpointsAlive timestamp then []
    else c.alarmsOfStateTransition timestamp queryStatus r (some .instanceHeartbeatTimeout)

/-! ## The calls of the manager -/

/-- Calls of the instance manager: heartbeats make instances active, abnormal and initial, timeouts make them inactive
and delete them. -/
inductive ManagerCall
  | addInstance (timestamp : ℚ) (ins : ManagedInstance)
  | heartbeat (timestamp : ℚ) (insId : Int) (ip : String) (status : Dict Int EndpointStatus)
  | timeout (timestamp : ℚ) (queryStatus : NodeManagerInfo → QueryStatus) (insId : Int)
  | separate (instanceId : Int)
  | recover (instanceId : Int)

def step (c : Controller) : ManagerCall → Controller
  | .addInstance timestamp ins => (c.create (ins.updateInstanceStatus .initial)).addInstance timestamp c.heap.length
  | .heartbeat timestamp insId ip status => (c.handleHeartbeat timestamp insId ip status).2
  | .timeout timestamp queryStatus insId => c.handleTimeout timestamp queryStatus insId
  | .separate instanceId => c.separateInstance instanceId
  | .recover instanceId => c.recoverInstance instanceId

/-- The alarms that a call adds. -/
def alarms (c : Controller) : ManagerCall → List ControllerAlarm
  | .heartbeat timestamp insId ip status => c.alarmsOfHeartbeat timestamp insId ip status
  | .timeout timestamp queryStatus insId => c.alarmsOfTimeout timestamp queryStatus insId
  | _ => []

/-! ## What the alarms are for -/

def HasActive (c : Controller) (role : String) : Prop := ∃ x ∈ c.getActiveInstances, x.role = role

instance (c : Controller) (role : String) : Decidable (c.HasActive role) :=
  inferInstanceAs (Decidable (∃ x ∈ c.getActiveInstances, x.role = role))

def BothActive (c : Controller) : Prop := c.HasActive "prefill" ∧ c.HasActive "decode"

instance (c : Controller) : Decidable c.BothActive := inferInstanceAs (Decidable (_ ∧ _))

/-- A role that had an active instance has none. -/
def LosesRole (c c' : Controller) : Prop :=
  c.HasActive "prefill" ∧ ¬ c'.HasActive "prefill" ∨ c.HasActive "decode" ∧ ¬ c'.HasActive "decode"

instance (c c' : Controller) : Decidable (LosesRole c c') := inferInstanceAs (Decidable (_ ∧ _ ∨ _ ∧ _))

/-- The instance is managed under the id, and active. -/
def ActiveAt (c : Controller) (id : Int) (r : Ref) : Prop := c.instances.get? id = some r ∧ (c.obj r).status = .active

/-- An instance becomes active. -/
def Activates (c c' : Controller) : Prop := ∃ id r, ActiveAt c' id r ∧ ¬ ActiveAt c id r

/-- An abnormal endpoint and a separation make an instance inactive without a report. -/
def ManagerCall.Unreported : ManagerCall → Prop
  | .heartbeat _ _ _ _ => True
  | .separate _ => True
  | _ => False

/-- A raised alarm where a role loses its last active instance, and a cleared one where both roles come to have one. -/
structure AlarmsPaired (c : Controller) (call : ManagerCall) : Prop where
  raised : .instanceMissing false ∈ c.alarms call ↔ LosesRole c (c.step call)
  cleared : .instanceMissing true ∈ c.alarms call ↔ (c.step call).BothActive ∧ ¬ c.BothActive

/-- A raised alarm where a role loses its last active instance, and a cleared one where an instance becomes active and
both roles have one. Nothing is said of the unreported calls by which a role loses its last one. -/
def AlarmsReported (c : Controller) (call : ManagerCall) : Prop :=
  ¬ (call.Unreported ∧ LosesRole c (c.step call)) →
    (.instanceMissing false ∈ c.alarms call ↔ LosesRole c (c.step call)) ∧
      (.instanceMissing true ∈ c.alarms call ↔ Activates c (c.step call) ∧ (c.step call).BothActive)

/-- The roles are those of prefill and decode instances. -/
def OnlyPd (c : Controller) : Prop :=
  ∀ id r, c.instances.get? id = some r → (c.obj r).role = "prefill" ∨ (c.obj r).role = "decode"

def ManagerCall.OnlyPd : ManagerCall → Prop
  | .addInstance _ ins => ins.role = "prefill" ∨ ins.role = "decode"
  | _ => True

end Controller

end PyMotor
