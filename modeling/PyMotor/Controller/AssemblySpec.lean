import PyMotor.Controller.Assembler
import PyMotor.Lib.Run

/-!
# What the assembler promises

An instance that is handed over keeps its pods, and ids belong to one job. The conditions on the steps of the process
under which this holds.
-/

namespace PyMotor

open Lib

/-! ## Assembled instances -/

namespace ManagedInstance

/-- The node managers, the pods and their endpoints are the same. -/
def SamePods (x y : ManagedInstance) : Prop := x.nodeManagers = y.nodeManagers ∧ x.shape = y.shape

/-- A multi-endpoint instance has `dp_size` endpoints. -/
def Full (x : ManagedInstance) : Prop :=
  x.enableMultiEndpoints = true → ∃ config ∈ x.parallelConfig, (x.getEndpointsNum : Int) = config.dpSize

instance (x : ManagedInstance) : Decidable x.Full :=
  inferInstanceAs (Decidable (x.enableMultiEndpoints = true →
    ∃ config ∈ x.parallelConfig, (x.getEndpointsNum : Int) = config.dpSize))

end ManagedInstance

open ManagedInstance

/-- `{endpoint.id: endpoint for endpoint in msg.endpoints}`. -/
def ReregisterMsg.endpointDict (msg : ReregisterMsg) : Dict Int Endpoint :=
  Dict.empty.update (msg.endpoints.map fun ep => (ep.id, ep))

namespace ControllerProcess

/-- The instance is managed, or its metadata wait for the start command. -/
def HandedOver (p : ControllerProcess) (r : Ref) : Prop :=
  (∃ id, p.controller.instances.get? id = some r) ∨
    ∃ jobName m, p.assembler.instances.get? jobName = some m ∧ m.registerStatus = .assembled ∧ m.ins = r

/-- The start command of a job goes to each endpoint of its instance, once. -/
def StartsAll (p : ControllerProcess) : Prop :=
  ∀ jobName m, p.assembler.instances.get? jobName = some m → m.registerStatus = .assembled →
    (p.controller.obj m.ins).masterDpIp.isSome = true →
      (((p.controller.obj m.ins).startCommands m.ranktable).flatMap fun cmd => cmd.2.endpoints).Perm
        (p.controller.obj m.ins).endpointList

/-- From the moment it is handed over an instance keeps its pods as long as the process runs, managed multi-endpoint
instances are full, and start commands are complete. -/
structure StaysAssembled (events : List Event) : Prop where
  kept : ∀ before after r, events = before ++ after → .restart ∉ after → HandedOver (run step {} before) r →
    SamePods ((run step {} events).controller.obj r) ((run step {} before).controller.obj r)
  full : ∀ id r, (run step {} events).controller.instances.get? id = some r →
    Full ((run step {} events).controller.obj r)
  started : StartsAll (run step {} events)

/-- While a job is assembled and not active, its messages come from known pods, and a recovered pod has the endpoints
that it had. -/
def NotLate (p : ControllerProcess) : Event → Prop
  | .register msg => p.controller.hasActiveInstanceByJobName msg.jobName = false →
      ∀ m ∈ p.assembler.instances.get? msg.jobName, m.registerStatus = .assembled →
        (p.controller.obj m.ins).hasNodeMgr msg.podIp = true
  | .reregister msg => p.controller.hasActiveInstanceByJobName msg.jobName = false →
      ∀ m ∈ p.assembler.instances.get? msg.jobName, m.registerStatus = .assembled →
        ⟨msg.podIp, msg.nmPort, msg.deviceNum⟩ ∈ (p.controller.obj m.ins).nodeManagers ∧
          ((p.controller.obj m.ins).shape.get? msg.podIp) = some (msg.endpointDict.mapValues Endpoint.still)
  | _ => True

instance (p : ControllerProcess) (event : Event) : Decidable (p.NotLate event) :=
  match event with
  | .register msg => inferInstanceAs (Decidable (p.controller.hasActiveInstanceByJobName msg.jobName = false →
      ∀ m ∈ p.assembler.instances.get? msg.jobName, m.registerStatus = .assembled →
        (p.controller.obj m.ins).hasNodeMgr msg.podIp = true))
  | .reregister msg => inferInstanceAs (Decidable (p.controller.hasActiveInstanceByJobName msg.jobName = false →
      ∀ m ∈ p.assembler.instances.get? msg.jobName, m.registerStatus = .assembled →
        ⟨msg.podIp, msg.nmPort, msg.deviceNum⟩ ∈ (p.controller.obj m.ins).nodeManagers ∧
          ((p.controller.obj m.ins).shape.get? msg.podIp) = some (msg.endpointDict.mapValues Endpoint.still)))
  | .assemble _ _ _ | .startCommand _ _ _ | .heartbeat _ _ _ | .timeout _ _ | .separate _ | .recover _ | .delete _
  | .persistManager | .restoreManager | .persistAssembler | .restoreAssembler | .restart | .tick _ =>
    inferInstanceAs (Decidable True)

/-! ## Instance ids -/

/-- The job has an instance with the id, in the manager or in the assembler. -/
def Holds (p : ControllerProcess) (id : Int) (jobName : String) : Prop :=
  (∃ r, p.controller.instances.get? id = some r ∧ (p.controller.obj r).jobName = jobName) ∨
    ∃ m, p.assembler.instances.get? jobName = some m ∧ (p.controller.obj m.ins).id = id

/-- No two jobs hold the same id. -/
def IdsUnique (p : ControllerProcess) : Prop :=
  ∀ id jobName jobName', p.Holds id jobName → p.Holds id jobName' → jobName = jobName'

end ControllerProcess

/-- The process with the ids that were handed out by `register` or recovered by `reregister`, and their jobs: before
the counter was last reset, and since then. -/
structure IdProcess where
  process : ControllerProcess := {}
  earlier : List (Int × String) := []
  current : List (Int × String) := []

namespace IdProcess

open ControllerProcess

def used (s : IdProcess) : List (Int × String) := s.current ++ s.earlier

/-- What the event hands out or recovers. -/
def assigned (s : IdProcess) : Event → List (Int × String)
  | .register msg =>
    if s.process.evalRegisterStatus msg.jobName = .notRegistered then
      [(s.process.assembler.insIdCnt, msg.jobName)]
    else []
  | .reregister msg =>
    if s.process.evalRegisterStatus msg.jobName = .assembled then [] else [(msg.instanceId, msg.jobName)]
  | _ => []

/-- The events that set the counter back. -/
def Resets : Event → Bool
  | .restart | .restoreAssembler => true
  | _ => false

def step (s : IdProcess) (event : Event) : IdProcess :=
  if Resets event then { process := s.process.step event, earlier := s.used, current := [] }
  else { process := s.process.step event, earlier := s.earlier, current := s.assigned event ++ s.current }

/-- A new id was never handed out or recovered before, and a recovered instance has the id of its message. -/
def IdsStable (s : IdProcess) : Event → Prop
  | .register msg => s.process.evalRegisterStatus msg.jobName = .notRegistered →
      ∃ m, (s.process.register msg).2.assembler.instances.get? msg.jobName = some m ∧
        ∀ e ∈ s.used, e.1 ≠ ((s.process.register msg).2.controller.obj m.ins).id
  | .reregister msg => (s.process.reregister msg).1 = .ok 0 →
      ∃ m, (s.process.reregister msg).2.assembler.instances.get? msg.jobName = some m ∧
        ((s.process.reregister msg).2.controller.obj m.ins).id = msg.instanceId
  | _ => True

/-- When an instance is created the counter has come above the ids from before it was reset. A message recovers no id
of another job, and a job that is being assembled has the id of the message. -/
def IdsKept (s : IdProcess) : Event → Prop
  | .register msg => s.process.evalRegisterStatus msg.jobName = .notRegistered →
      ∀ e ∈ s.earlier, e.1 < s.process.assembler.insIdCnt
  | .reregister msg => s.process.evalRegisterStatus msg.jobName ≠ .assembled →
      (∀ e ∈ s.used, e.1 = msg.instanceId → e.2 = msg.jobName) ∧
        ∀ m ∈ s.process.assembler.instances.get? msg.jobName, (s.process.controller.obj m.ins).id = msg.instanceId
  | _ => True

instance (s : IdProcess) (event : Event) : Decidable (s.IdsKept event) :=
  match event with
  | .register msg => inferInstanceAs (Decidable (s.process.evalRegisterStatus msg.jobName = .notRegistered →
      ∀ e ∈ s.earlier, e.1 < s.process.assembler.insIdCnt))
  | .reregister msg => inferInstanceAs (Decidable (s.process.evalRegisterStatus msg.jobName ≠ .assembled →
      (∀ e ∈ s.used, e.1 = msg.instanceId → e.2 = msg.jobName) ∧
        ∀ m ∈ s.process.assembler.instances.get? msg.jobName, (s.process.controller.obj m.ins).id = msg.instanceId))
  | .assemble _ _ _ | .startCommand _ _ _ | .heartbeat _ _ _ | .timeout _ _ | .separate _ | .recover _ | .delete _
  | .persistManager | .restoreManager | .persistAssembler | .restoreAssembler | .restart | .tick _ =>
    inferInstanceAs (Decidable True)

end IdProcess

end PyMotor
