import PyMotor.Controller.InstanceManager
import PyMotor.FaultTolerance.FaultManager
import PyMotor.Lib.Run

/-!
# The fault manager and the instance manager

The fault manager observes the instance manager, and separates and recovers its instances. The watches of Kubernetes,
the strategy center and the instance manager act in any order. A pod stays on its node, `nodeOf`; Kubernetes may fail
to tell the node of a pod. What Kubernetes has shown last, the faults in the ConfigMap of each node and the status of
the node, is recorded beside the two managers.
-/

namespace PyMotor

open Lib

structure FaultSystem where
  controller : Controller := {}
  faultManager : FaultManager := {}

namespace FaultSystem

/-! ## Fault levels -/

def isInstanceSeparated (c : Controller) (instanceId : Int) : Bool :=
  match c.instances.get? instanceId with
  | none => false
  | some r => (c.obj r).id ∈ c.forcedSeparatedInstances

def refreshInstanceFaultLevel (s : FaultSystem) (instanceId : Int) : FaultSystem :=
  match s.faultManager.instances.get? instanceId with
  | none => s
  | some ins =>
    let instanceNodes := s.faultManager.faultyNodesOf instanceId
    if instanceNodes.isEmpty then
      if ins.faultLevel ≠ .healthy then
        { controller := s.controller.recoverInstance instanceId
          faultManager :=
            s.faultManager.setInstance instanceId { ins with faultLevel := .healthy, faultCode := 0 } }
      else s
    else
      let ins := s.faultManager.updateHighestFaultLevel instanceNodes ins
      { controller :=
          if .l2 < ins.faultLevel then s.controller.separateInstance instanceId
          else if isInstanceSeparated s.controller instanceId then s.controller.recoverInstance instanceId
          else s.controller
        faultManager := s.faultManager.setInstance instanceId ins }

/-- Write a node and refresh its instance. -/
def updateNode (s : FaultSystem) (nodeName : String) (node : NodeMetadata) : FaultSystem :=
  refreshInstanceFaultLevel { s with faultManager := s.faultManager.setNode nodeName node } node.instanceId

def handleFaultInfoUpdate (s : FaultSystem) (faultInfos : List FaultInfo) (nodeName : String) : FaultSystem :=
  match s.faultManager.nodes.get? nodeName with
  | none => s
  | some node => s.updateNode nodeName (node.withFaultInfos faultInfos)

def handleNodeStatusUpdate (s : FaultSystem) (status : NodeStatus) (nodeName : String) : FaultSystem :=
  match s.faultManager.nodes.get? nodeName with
  | none => s
  | some node => s.updateNode nodeName (node.withStatus status)

def setMonitor (s : FaultSystem) (nodeName : String) (monitor : ResourceMonitor) : FaultSystem :=
  { s with faultManager :=
      { s.faultManager with resourceMonitors := s.faultManager.resourceMonitors.set nodeName monitor } }

/-- A ConfigMap event at the monitor of the node. -/
def configmapChange (s : FaultSystem) (nodeName : String) (event : WatchEvent (List FaultInfo)) : FaultSystem :=
  match s.faultManager.resourceMonitors.get? nodeName with
  | none => s
  | some monitor =>
    match monitor.handleConfigmapChange event with
    | (monitor, none) => s.setMonitor nodeName monitor
    | (monitor, some faultInfos) => (s.setMonitor nodeName monitor).handleFaultInfoUpdate faultInfos nodeName

/-- A Node event at the monitor of the node. -/
def nodeChange (s : FaultSystem) (nodeName : String) (event : WatchEvent NodeStatus) : FaultSystem :=
  match s.faultManager.resourceMonitors.get? nodeName with
  | none => s
  | some monitor =>
    match monitor.handleNodeChange event with
    | (monitor, none) => s.setMonitor nodeName monitor
    | (monitor, some status) => (s.setMonitor nodeName monitor).handleNodeStatusUpdate status nodeName

/-! ## Strategies -/

def level2Strategy (config : FaultToleranceConfig) (faultCode : Int) : Option StrategyClass :=
  if config.enableLingquNetworkRecover then
    if faultCode ∈ [0x00f1fef5, 0x08520003] then some .lingquNetworkRecover else none
  else none

def level4Strategy (config : FaultToleranceConfig) (c : Controller) (instanceId : Int) : Option StrategyClass :=
  if config.enableScaleP2d then
    match c.instances.get? instanceId with
    | none => none
    | some r => if (c.obj r).role = "decode" then some .scaleP2d else none
  else none

/-- `generate_strategy_map`. -/
def strategies (s : FaultSystem) (level : FaultLevel) (faultCode instanceId : Int) : Option StrategyClass :=
  match level with
  | .healthy => none
  | .l1 => none
  | .l2 => level2Strategy s.faultManager.config faultCode
  | .l3 => none
  | .l4 => level4Strategy s.faultManager.config s.controller instanceId
  | .l5 => level4Strategy s.faultManager.config s.controller instanceId
  | .l6 => level4Strategy s.faultManager.config s.controller instanceId

/-- The class of the strategy that the center starts for the instance, in place of the current one if there is one. -/
def startedClass (s : FaultSystem) (instanceId : Int) (ins : InstanceMetadata) : Option StrategyClass :=
  match s.strategies ins.faultLevel ins.faultCode instanceId, ins.strategy with
  | none, _ => none
  | some cls, none => some cls
  | some cls, some current => if cls ≠ current.cls then some cls else none

/-- The strategy that the center finds or starts. -/
def centerStrategy (s : FaultSystem) (instanceId : Int) (ins : InstanceMetadata) : Option Strategy :=
  match s.startedClass instanceId ins with
  | some cls => some { cls := cls, startLevel := ins.faultLevel }
  | none => ins.strategy

/-- `_process_instance_strategy`; a strategy may finish while the center looks at it. -/
def processInstanceStrategy (s : FaultSystem) (instanceId : Int) (finishes : Bool) : FaultSystem :=
  match s.faultManager.instances.get? instanceId with
  | none => s
  | some ins =>
    let ins :=
      match s.centerStrategy instanceId ins with
      | none => ins
      | some current =>
        if current.isFinished || finishes then { ins with strategy := none, faultLevel := .healthy, faultCode := 0 }
        else { ins with strategy := some current }
    { s with faultManager := s.faultManager.setInstance instanceId ins }

/-- The strategy of an instance completes. -/
def finishStrategy (s : FaultSystem) (instanceId : Int) : FaultSystem :=
  { s with faultManager :=
      { s.faultManager with instances := s.faultManager.instances.adjust instanceId fun ins =>
          { ins with strategy := ins.strategy.map fun strategy => { strategy with isFinished := true } } } }

/-! ## Instances -/

/-- `get_node_hostname_by_pod_ip`, with the pods for which Kubernetes answers. -/
def hostname (nodeOf : String → String) (answers : String → Bool) (podIp : String) : Option String :=
  if answers podIp then some (nodeOf podIp) else none

/-- A new instance at the instance manager; it is announced when its id is not known there. -/
def addInstance (nodeOf : String → String) (s : FaultSystem) (timestamp : ℚ) (ins : ManagedInstance)
    (answers : String → Bool) : FaultSystem :=
  { controller :=
      (s.controller.create (ins.updateInstanceStatus .initial)).addInstance timestamp s.controller.heap.length
    faultManager :=
      if s.controller.instances.contains ins.id then s.faultManager
      else s.faultManager.updateInitial (hostname nodeOf answers) ins.id ins.nodeManagers }

/-- `_handle_deleted` of an instance that is not deleted yet. -/
def removeInstance (s : FaultSystem) (instanceId : Int) : FaultSystem :=
  match s.controller.instances.get? instanceId with
  | none => s
  | some r =>
    { controller := ((s.controller.modifyObj r (·.updateInstanceStatus .deleted)).notify r .instanceRemoved).delInstance
        instanceId
      faultManager := s.faultManager.updateRemoved instanceId }

/-- `get_active_instances` and `get_inactive_instances`. -/
def knownInstances (c : Controller) : List ManagedInstance :=
  let instances := c.instances.values.map c.obj
  (instances.filter fun x => x.status = .active) ++ instances.filter fun x => x.status = .inactive

/-- `update_instances` with the instances of the instance manager. -/
def updateInstances (nodeOf : String → String) (s : FaultSystem) (answers : String → Bool) : FaultSystem :=
  { s with faultManager := (knownInstances s.controller).foldl (fun fm x =>
      fm.syncInstanceNodes (hostname nodeOf answers) x.id x.nodeManagers) s.faultManager }

/-- The controller starts again: the fault manager restores what it has persisted, without the strategies, and the
instance manager finds nothing to restore. -/
def restart (s : FaultSystem) (nodes : Dict String NodeMetadata) (instances : Dict Int InstanceMetadata) :
    FaultSystem :=
  { controller := {}
    faultManager :=
      { nodes := nodes
        instances := instances.mapValues fun ins => { ins with strategy := none }
        resourceMonitors := Dict.empty.update (nodes.keys.map fun nodeName => (nodeName, {}))
        config := s.faultManager.config } }

inductive Event
  | addInstance (timestamp : ℚ) (ins : ManagedInstance) (answers : String → Bool)
  | removeInstance (instanceId : Int)
  | updateInstances (answers : String → Bool)
  | restart (nodes : Dict String NodeMetadata) (instances : Dict Int InstanceMetadata)
  | updateConfig (config : FaultToleranceConfig)
  | configmapChange (nodeName : String) (event : WatchEvent (List FaultInfo))
  | nodeChange (nodeName : String) (event : WatchEvent NodeStatus)
  | finishStrategy (instanceId : Int)
  | processInstanceStrategy (instanceId : Int) (finishes : Bool)

def step (nodeOf : String → String) (s : FaultSystem) : Event → FaultSystem
  | .addInstance timestamp ins answers => addInstance nodeOf s timestamp ins answers
  | .removeInstance instanceId => s.removeInstance instanceId
  | .updateInstances answers => updateInstances nodeOf s answers
  | .restart nodes instances => s.restart nodes instances
  | .updateConfig config => { s with faultManager := { s.faultManager with config := config } }
  | .configmapChange nodeName event => s.configmapChange nodeName event
  | .nodeChange nodeName event => s.nodeChange nodeName event
  | .finishStrategy instanceId => s.finishStrategy instanceId
  | .processInstanceStrategy instanceId finishes => s.processInstanceStrategy instanceId finishes

def start (config : FaultToleranceConfig) : FaultSystem := { faultManager := { config := config } }

end FaultSystem

/-! ## What Kubernetes shows -/

/-- What an event shows; `gone` when there is nothing any more. -/
def WatchEvent.shown {α : Type} (gone : α) : WatchEvent α → α
  | .present data => data
  | .deleted => gone

inductive NodeEvent
  | configmap (nodeName : String) (event : WatchEvent (List FaultInfo))
  | status (nodeName : String) (event : WatchEvent NodeStatus)

def NodeEvent.nodeName : NodeEvent → String
  | .configmap nodeName _ => nodeName
  | .status nodeName _ => nodeName

structure Cluster where
  faultInfos : String → List FaultInfo := fun _ => []
  status : String → NodeStatus := fun _ => .ready

namespace Cluster

def observe (c : Cluster) : NodeEvent → Cluster
  | .configmap nodeName event => { c with faultInfos := Function.update c.faultInfos nodeName (event.shown []) }
  | .status nodeName event => { c with status := Function.update c.status nodeName (event.shown .notReady) }

/-- The faults of a node: those of its ConfigMap, and the reboot when it is not ready. -/
def faults (c : Cluster) (nodeName : String) : List FaultInfo :=
  c.faultInfos nodeName ++ if c.status nodeName = .notReady then [nodeRebootFault] else []

/-- The faults of the nodes that are recorded for an instance. -/
def faultsOf (c : Cluster) (fm : FaultManager) (instanceId : Int) : List FaultInfo :=
  (fm.nodesOf instanceId).flatMap c.faults

end Cluster

structure Watched where
  cluster : Cluster := {}
  system : FaultSystem

/-- What an event of the fault manager shows. -/
def FaultSystem.Event.shown : FaultSystem.Event → Option NodeEvent
  | .configmapChange nodeName event => some (.configmap nodeName event)
  | .nodeChange nodeName event => some (.status nodeName event)
  | _ => none

namespace Watched

def step (w : Watched) (event : NodeEvent) : Watched where
  cluster := w.cluster.observe event
  system := match event with
    | .configmap nodeName event => w.system.configmapChange nodeName event
    | .status nodeName event => w.system.nodeChange nodeName event

/-- A step of the two managers. -/
def follow (nodeOf : String → String) (w : Watched) (event : FaultSystem.Event) : Watched where
  cluster := event.shown.elim w.cluster w.cluster.observe
  system := FaultSystem.step nodeOf w.system event

/-- New instances with their nodes, which are ready and have no faults. -/
def start (controller : Controller) (config : FaultToleranceConfig) (instances : List (Int × Dict String String)) :
    Watched where
  system :=
    { controller := controller
      faultManager := instances.foldl (fun fm e => fm.addNewInstanceWithNodes e.1 e.2) { config := config } }

end Watched

namespace FaultSystem

/-! ## What the fault manager is for -/

/-- A node has a fault above L2. -/
def Faulty (node : NodeMetadata) : Prop := ∃ info ∈ node.faultInfos.values, .l2 < info.faultLevel

/-- A managed instance has a node manager on the node. -/
def OnNode (nodeOf : String → String) (c : Controller) (id : Int) (nodeName : String) : Prop :=
  ∃ r, c.instances.get? id = some r ∧ ∃ nm ∈ (c.obj r).nodeManagers, nodeOf nm.podIp = nodeName

/-- A managed instance has a node manager on a node with a recorded fault above L2. -/
def OnFaulty (nodeOf : String → String) (s : FaultSystem) (id : Int) : Prop :=
  ∃ nodeName node, OnNode nodeOf s.controller id nodeName ∧ s.faultManager.nodes.get? nodeName = some node ∧ Faulty node

/-- Every instance with a node manager on such a node is separated. -/
def FaultySeparated (nodeOf : String → String) (s : FaultSystem) : Prop :=
  ∀ id, OnFaulty nodeOf s id → id ∈ s.controller.forcedSeparatedInstances

/-- A running strategy is replaced only when the level has gone up since it was started. -/
def NotDowngraded (s : FaultSystem) : Event → Prop
  | .processInstanceStrategy instanceId _ => ∀ ins current cls,
      s.faultManager.instances.get? instanceId = some ins → ins.strategy = some current → current.isFinished = false →
        s.startedClass instanceId ins = some cls → current.startLevel < ins.faultLevel
  | _ => True

/-! ## Where it does its work -/

/-- An announced instance takes no node from a separated one, the center completes no strategy of a separated instance,
and no ConfigMap has a fault above L2 under the code of the reboot. There is no restart, and so nothing to catch up with. -/
def ReleaseSound (nodeOf : String → String) (s : FaultSystem) : Event → Prop
  | .addInstance _ ins _ => s.controller.instances.contains ins.id = false →
      ∀ nm ∈ ins.nodeManagers, ∀ node, s.faultManager.nodes.get? (nodeOf nm.podIp) = some node →
        node.instanceId ∉ s.controller.forcedSeparatedInstances
  | .processInstanceStrategy instanceId finishes => ∀ ins current,
      s.faultManager.instances.get? instanceId = some ins → s.centerStrategy instanceId ins = some current →
        (current.isFinished || finishes) = true → instanceId ∉ s.controller.forcedSeparatedInstances
  | .configmapChange _ event => ∀ info ∈ event.shown [], .l2 < info.faultLevel → info.faultCode ≠ nodeReboot
  | .updateInstances _ => False
  | .restart _ _ => False
  | _ => True

/-- An announced instance is alone on its nodes, none of them has a recorded fault above L2, and those that are
recorded become its own. -/
def SeparationSound (nodeOf : String → String) (s : FaultSystem) : Event → Prop
  | .addInstance _ ins answers => s.controller.instances.contains ins.id = false →
      ∀ nm ∈ ins.nodeManagers, (∀ id, ¬ OnNode nodeOf s.controller id (nodeOf nm.podIp)) ∧
        ∀ node, s.faultManager.nodes.get? (nodeOf nm.podIp) = some node → ¬ Faulty node ∧
          (s.faultManager.instances.contains ins.id = true → node.instanceId = ins.id) ∧
          (s.faultManager.instances.contains ins.id = false → node.instanceId = ins.id ∨
            answers nm.podIp = true ∧ nodeOf nm.podIp ≠ "")
  | _ => True

/-- The center does not meet an unfinished scale-in strategy of an instance whose level has gone down to L2, with a
fault code and a configuration for a network recovery. -/
def StrategySound (s : FaultSystem) : Event → Prop
  | .processInstanceStrategy instanceId _ => ∀ ins current,
      s.faultManager.instances.get? instanceId = some ins → ins.strategy = some current → current.isFinished = false →
        current.cls = .scaleP2d → ins.faultLevel = .l2 → level2Strategy s.faultManager.config ins.faultCode = none
  | _ => True

end FaultSystem

namespace Watched

/-- Every separated instance has a node manager on a node that shows a fault above L2. -/
def HealthyReleased (nodeOf : String → String) (w : Watched) : Prop :=
  ∀ id ∈ w.system.controller.forcedSeparatedInstances, ∃ nodeName,
    FaultSystem.OnNode nodeOf w.system.controller id nodeName ∧ ∃ info ∈ w.cluster.faults nodeName, .l2 < info.faultLevel

end Watched

/-! ## The exact level -/

/-- The level is the highest of the faults and the code is that of a fault with this level. -/
structure LevelExact (infos : List FaultInfo) (ins : InstanceMetadata) : Prop where
  highest : ∀ info ∈ infos, ¬ ins.faultLevel < info.faultLevel
  attained : ins.faultLevel ≠ .healthy →
    ∃ info ∈ infos, info.faultLevel = ins.faultLevel ∧ info.faultCode = ins.faultCode
  healthy : ins.faultLevel = .healthy → ins.faultCode = 0

namespace Watched

def Exact (w : Watched) : Prop := ∀ id ins, w.system.faultManager.instances.get? id = some ins →
  LevelExact (w.cluster.faultsOf w.system.faultManager id) ins

/-! ## Where the level is exact -/

/-- The last fault with its code has a level that is not lower, and the code is not that of the reboot. -/
def NoneHidden (infos : List FaultInfo) : Prop := ∀ info ∈ infos, info.faultCode ≠ nodeReboot ∧
  ∀ last ∈ (infos.filter fun other => other.faultCode = info.faultCode).getLast?, ¬ last.faultLevel < info.faultLevel

instance (infos : List FaultInfo) : Decidable (NoneHidden infos) :=
  inferInstanceAs (Decidable (∀ info ∈ infos, info.faultCode ≠ nodeReboot ∧
    ∀ last ∈ (infos.filter fun other => other.faultCode = info.faultCode).getLast?,
      ¬ last.faultLevel < info.faultLevel))

/-- When the level of an instance stays the highest, there is a fault with its code. -/
def CodeKept (infos : List FaultInfo) (ins : InstanceMetadata) : Prop := ins.faultLevel ≠ .healthy →
  (∀ info ∈ infos, ¬ ins.faultLevel < info.faultLevel) → (∃ info ∈ infos, info.faultLevel = ins.faultLevel) →
    ∃ info ∈ infos, info.faultLevel = ins.faultLevel ∧ info.faultCode = ins.faultCode

/-- A ConfigMap hides no fault, and an instance that stays at its level has a fault with its code after the event. -/
structure Sound (w : Watched) (event : NodeEvent) : Prop where
  noneHidden : ∀ nodeName infos, event = .configmap nodeName (.present infos) → NoneHidden infos
  codeKept : ∀ node ins, w.system.faultManager.nodes.get? event.nodeName = some node →
    w.system.faultManager.instances.get? node.instanceId = some ins →
      CodeKept ((w.cluster.observe event).faultsOf w.system.faultManager node.instanceId) ins

end Watched

end PyMotor
