import PyMotor.Controller.Assembler
import PyMotor.Lib.Run

/-!
# An instance while it is assembled

What the messages of its pods and `_filter_abnormal_endpoints` do to one instance, with the properties of the
endpoint ids and of the two lists of pods.
-/

namespace PyMotor

open Lib

namespace ManagedInstance

inductive PodEvent
  | register (timestamp : ℚ) (msg : RegisterMsg)
  | filter (queryStatus : NodeManagerInfo → QueryStatus)

def podStep (x : ManagedInstance) : PodEvent → ManagedInstance
  | .register timestamp msg => (msg.addPod timestamp x).2
  | .filter queryStatus => x.filterAbnormalEndpoints queryStatus

/-- No pod has registered yet. -/
def New (x : ManagedInstance) : Prop := x.endpoints = Dict.empty ∧ x.nodeManagers = []

/-- One of the node managers of the pod is not reachable. -/
def Dropped (x : ManagedInstance) (queryStatus : NodeManagerInfo → QueryStatus) (podIp : String) : Prop :=
  ∃ nm ∈ x.nodeManagers, nm.podIp = podIp ∧ queryStatus nm = .raises

instance (x : ManagedInstance) (queryStatus : NodeManagerInfo → QueryStatus) (podIp : String) :
    Decidable (x.Dropped queryStatus podIp) :=
  inferInstanceAs (Decidable (∃ nm ∈ x.nodeManagers, nm.podIp = podIp ∧ queryStatus nm = .raises))

/-! ## The ids of the endpoints -/

/-- The ids are distinct, and with enough endpoints they are those below `dp_size`. -/
structure Numbered (x : ManagedInstance) : Prop where
  distinct : (x.endpointList.map (·.id)).Nodup
  enough : x.enableMultiEndpoints = true → x.isEndpointsEnough = true → ∀ config ∈ x.parallelConfig, ∀ id,
    id ∈ x.endpointList.map (·.id) ↔ 0 ≤ id ∧ id < config.dpSize

/-- No endpoint that is kept has a larger id than one that is dropped. -/
def DropsLast (x : ManagedInstance) : PodEvent → Prop
  | .register _ _ => True
  | .filter queryStatus => ∀ e ∈ x.endpoints.entries, x.Dropped queryStatus e.1 →
      ∀ e' ∈ x.endpoints.entries, ¬ x.Dropped queryStatus e'.1 →
        ∀ ep ∈ e.2.values, ∀ ep' ∈ e'.2.values, ep'.id < ep.id

instance (x : ManagedInstance) (event : PodEvent) : Decidable (x.DropsLast event) :=
  match event with
  | .register _ _ => inferInstanceAs (Decidable True)
  | .filter queryStatus => inferInstanceAs (Decidable (∀ e ∈ x.endpoints.entries, x.Dropped queryStatus e.1 →
      ∀ e' ∈ x.endpoints.entries, ¬ x.Dropped queryStatus e'.1 →
        ∀ ep ∈ e.2.values, ∀ ep' ∈ e'.2.values, ep'.id < ep.id))

/-! ## The pods -/

/-- The pods with endpoints are those of the node managers. -/
def PodsAgree (x : ManagedInstance) : Prop := ∀ ip, ip ∈ x.endpoints.keys ↔ x.hasNodeMgr ip = true

/-- An unreachable node manager is gone as soon as the loop has come to it, and a pod without endpoints gets those of
its message. -/
def ComesBack (x : ManagedInstance) : PodEvent → Prop
  | .register timestamp msg => msg.podIp ∉ x.endpoints.keys →
      ∃ eps, msg.buildEndpoints timestamp x.getEndpointsNum = .ok eps ∧
        (msg.addPod timestamp x).2.endpoints.get? msg.podIp = some eps
  | .filter queryStatus => ∀ nms, nms <+: x.nodeManagers → ∀ nm ∈ nms, queryStatus nm = .raises →
      ∀ nm' ∈ (nms.foldl (filterNodeManager queryStatus) x).nodeManagers,
        ¬ (nm'.podIp = nm.podIp ∧ nm'.port = nm.port)

end ManagedInstance

/-- A ranktable of the message has a server. -/
def RegisterMsg.HasServer (msg : RegisterMsg) : Prop := ∀ table ∈ msg.ranktable, table.serverList ≠ []

/-- The endpoints can be built: every port that has its devices has a management port. -/
def RegisterMsg.Buildable (msg : RegisterMsg) : Prop :=
  if msg.enableMultiEndpoints then
    (msg.devicesPerEndpoint = 0 → 0 ≤ msg.deviceNum) ∧
      ∀ i < msg.businessPort.length, msg.devicesPerEndpoint * i + msg.devicesPerEndpoint ≤ msg.deviceNum →
        i < msg.mgmtPort.length ∧ msg.HasServer
  else msg.businessPort ≠ [] ∧ msg.mgmtPort ≠ [] ∧ msg.HasServer

/-- Node managers that are not reachable have no devices, and the message of a pod that is not known can be built. -/
def ManagedInstance.Removable (x : ManagedInstance) : ManagedInstance.PodEvent → Prop
  | .register _ msg => x.hasNodeMgr msg.podIp = false → msg.Buildable
  | .filter queryStatus => ∀ nm ∈ x.nodeManagers, queryStatus nm = .raises → nm.deviceNum = 0

instance (msg : RegisterMsg) : Decidable msg.HasServer :=
  inferInstanceAs (Decidable (∀ table ∈ msg.ranktable, table.serverList ≠ []))

instance (msg : RegisterMsg) : Decidable msg.Buildable :=
  inferInstanceAs (Decidable (if msg.enableMultiEndpoints then
      (msg.devicesPerEndpoint = 0 → 0 ≤ msg.deviceNum) ∧
        ∀ i < msg.businessPort.length, msg.devicesPerEndpoint * i + msg.devicesPerEndpoint ≤ msg.deviceNum →
          i < msg.mgmtPort.length ∧ msg.HasServer
    else msg.businessPort ≠ [] ∧ msg.mgmtPort ≠ [] ∧ msg.HasServer))

instance (x : ManagedInstance) (event : ManagedInstance.PodEvent) : Decidable (x.Removable event) :=
  match event with
  | .register _ msg => inferInstanceAs (Decidable (x.hasNodeMgr msg.podIp = false → msg.Buildable))
  | .filter queryStatus => inferInstanceAs (Decidable (∀ nm ∈ x.nodeManagers, queryStatus nm = .raises →
      nm.deviceNum = 0))

end PyMotor
