import PyMotor.Controller.Instance

/-!
# The fault manager

`motor/controller/fault_tolerance/`: the nodes of the instances with their faults, and the monitors that watch the
nodes. A handler runs as one step. The fault infos are those of a parsed ConfigMap.
-/

namespace PyMotor

open Lib

/-! ## Faults -/

inductive FaultLevel
  | healthy
  | l1
  | l2
  | l3
  | l4
  | l5
  | l6
deriving DecidableEq, Repr

def FaultLevel.value : FaultLevel → Nat
  | .healthy => 0
  | .l1 => 1
  | .l2 => 2
  | .l3 => 3
  | .l4 => 4
  | .l5 => 5
  | .l6 => 6

instance : LT FaultLevel := ⟨fun a b => a.value < b.value⟩

instance (a b : FaultLevel) : Decidable (a < b) := inferInstanceAs (Decidable (a.value < b.value))

inductive NodeStatus
  | ready
  | notReady
deriving DecidableEq, Repr

inductive FaultType
  | cardUnhealthy
  | cardNetworkUnhealthy
  | nodeUnhealthy
deriving DecidableEq, Repr

def FaultType.value : FaultType → String
  | .cardUnhealthy => "CardUnhealthy"
  | .cardNetworkUnhealthy => "CardNetworkUnhealthy"
  | .nodeUnhealthy => "NodeUnhealthy"

inductive OriginFaultLevel
  | notHandleFault
  | restartRequest
  | restartBusiness
  | freeRestartNpu
  | restartNpu
  | separateNpu
  | preSeparateNpu
deriving DecidableEq, Repr

structure FaultInfo where
  faultType : FaultType
  npuName : String := ""
  faultCode : Int := 0
  faultLevel : FaultLevel := .l1
  originFaultLevel : OriginFaultLevel := .notHandleFault
deriving DecidableEq, Repr

def nodeReboot : Int := 1

def nodeRebootFault : FaultInfo :=
  { faultType := .nodeUnhealthy, faultCode := nodeReboot, faultLevel := .l6 }

/-- One round of the search for the highest level. -/
def higherFault (acc : FaultLevel × Option FaultInfo) (info : FaultInfo) : FaultLevel × Option FaultInfo :=
  if acc.1 < info.faultLevel then (info.faultLevel, some info) else acc

/-- The first of the faults with the highest level, next to that level. -/
def highestFault (infos : List FaultInfo) : FaultLevel × Option FaultInfo := infos.foldl higherFault (.healthy, none)

/-! ## The monitor of a node -/

/-- An event of a watch: ADDED and MODIFIED carry the object. -/
inductive WatchEvent (α : Type)
  | present (data : α)
  | deleted

structure ResourceMonitor where
  lastFaultInfos : Option (List FaultInfo) := none
  lastNodeStatus : Option NodeStatus := none

namespace ResourceMonitor

/-- The order of `sort_key`. -/
def sortLe (a b : FaultInfo) : Bool :=
  ((((compare a.faultType.value b.faultType.value).then (compare a.npuName b.npuName)).then
    (compare a.faultCode b.faultCode)).then (compare a.faultLevel.value b.faultLevel.value)).isLE

def hasFaultInfoChanged (m : ResourceMonitor) (newFaultInfos : List FaultInfo) : Bool :=
  match m.lastFaultInfos with
  | none => true
  | some last =>
    if newFaultInfos.length ≠ last.length then true
    else newFaultInfos.mergeSort sortLe ≠ last.mergeSort sortLe

/-- `_handle_configmap_change`, with the fault infos that the handler gets. -/
def handleConfigmapChange (m : ResourceMonitor) : WatchEvent (List FaultInfo) → ResourceMonitor × Option (List FaultInfo)
  | .present faultInfos =>
    if m.hasFaultInfoChanged faultInfos then ({ m with lastFaultInfos := some faultInfos }, some faultInfos)
    else (m, none)
  | .deleted => ({ m with lastFaultInfos := none }, some [])

/-- `_handle_node_change`, with the status that the handler gets. -/
def handleNodeChange (m : ResourceMonitor) : WatchEvent NodeStatus → ResourceMonitor × Option NodeStatus
  | .present nodeStatus =>
    if some nodeStatus ≠ m.lastNodeStatus then ({ m with lastNodeStatus := some nodeStatus }, some nodeStatus)
    else (m, none)
  | .deleted => ({ m with lastNodeStatus := none }, some .notReady)

end ResourceMonitor

/-! ## Nodes and instances -/

/-- A node, under its name in Kubernetes. -/
structure NodeMetadata where
  podIp : String
  instanceId : Int
  nodeStatus : NodeStatus := .ready
  faultInfos : Dict Int FaultInfo := Dict.empty

namespace NodeMetadata

/-- The faults of a node after an update: those of the ConfigMap, and the reboot that is under its code before. -/
def withFaultInfos (node : NodeMetadata) (faultInfos : List FaultInfo) : NodeMetadata :=
  let infos : Dict Int FaultInfo := Dict.empty.update (faultInfos.map fun info => (info.faultCode, info))
  { node with faultInfos :=
      match node.faultInfos.get? nodeReboot with
      | some reboot => infos.set nodeReboot reboot
      | none => infos }

/-- A change to NOT_READY adds the reboot fault, a change to READY removes it. -/
def withStatus (node : NodeMetadata) (status : NodeStatus) : NodeMetadata :=
  let updated := { node with nodeStatus := status }
  if node.nodeStatus ≠ status then
    match status with
    | .notReady => { updated with faultInfos := node.faultInfos.set nodeReboot nodeRebootFault }
    | .ready => { updated with faultInfos := node.faultInfos.erase nodeReboot }
  else updated

end NodeMetadata

inductive StrategyClass
  | lingquNetworkRecover
  | scaleP2d
deriving DecidableEq, Repr

/-- A started strategy; `startLevel` is the fault level that it was started for. -/
structure Strategy where
  cls : StrategyClass
  startLevel : FaultLevel
  isFinished : Bool := false
deriving DecidableEq, Repr

structure InstanceMetadata where
  faultLevel : FaultLevel := .healthy
  faultCode : Int := 0
  strategy : Option Strategy := none
deriving DecidableEq, Repr

structure FaultToleranceConfig where
  enableLingquNetworkRecover : Bool := false
  enableScaleP2d : Bool := false

structure FaultManager where
  nodes : Dict String NodeMetadata := Dict.empty
  instances : Dict Int InstanceMetadata := Dict.empty
  resourceMonitors : Dict String ResourceMonitor := Dict.empty
  config : FaultToleranceConfig := {}

namespace FaultManager

/-- A live monitor stays. -/
def createResourceMonitorForNode (fm : FaultManager) (nodeName : String) : FaultManager :=
  if fm.resourceMonitors.contains nodeName then fm
  else { fm with resourceMonitors := fm.resourceMonitors.set nodeName {} }

def stopResourceMonitorForNode (fm : FaultManager) (nodeName : String) : FaultManager :=
  { fm with resourceMonitors := fm.resourceMonitors.erase nodeName }

/-- The node names by pod address; a pod that Kubernetes does not resolve is left out. -/
def buildNodeNameMapping (hostname : String → Option String) (nodeManagers : List NodeManagerInfo) :
    Dict String String :=
  Dict.empty.update (nodeManagers.filterMap fun nm =>
    (hostname nm.podIp).bind fun nodeName => if nodeName = "" then none else some (nm.podIp, nodeName))

def ensureNodeMetadata (fm : FaultManager) (nodeName podIp : String) (instanceId : Int) (updateInstanceId : Bool) :
    NodeMetadata × Bool :=
  match fm.nodes.get? nodeName with
  | some node =>
    ({ node with podIp := podIp, instanceId := if updateInstanceId then instanceId else node.instanceId }, false)
  | none => ({ podIp := podIp, instanceId := instanceId }, true)

/-- The names of the nodes that are recorded for an instance. -/
def nodesOf (fm : FaultManager) (instanceId : Int) : List String :=
  fm.nodes.keys.filter fun nodeName => (fm.nodes.get? nodeName).any fun node => node.instanceId = instanceId

def removeNode (fm : FaultManager) (nodeName : String) : FaultManager :=
  { fm with nodes := fm.nodes.erase nodeName }.stopResourceMonitorForNode nodeName

def syncNode (instanceId : Int) (fm : FaultManager) (entry : String × String) : FaultManager :=
  let (node, isNew) := fm.ensureNodeMetadata entry.2 entry.1 instanceId false
  let fm := { fm with nodes := fm.nodes.set entry.2 node }
  if isNew then fm.createResourceMonitorForNode entry.2 else fm

def syncExistingInstanceNodes (fm : FaultManager) (instanceId : Int) (podToNodeName : Dict String String) :
    FaultManager :=
  let removed := (fm.nodesOf instanceId).filter fun nodeName => nodeName ∉ podToNodeName.values
  podToNodeName.entries.foldl (syncNode instanceId) (removed.foldl removeNode fm)

def addNewInstanceWithNodes (fm : FaultManager) (instanceId : Int) (podToNodeName : Dict String String) :
    FaultManager :=
  let nodeMetadatas : Dict String NodeMetadata := Dict.empty.update (podToNodeName.entries.map fun e =>
    (e.2, (fm.ensureNodeMetadata e.2 e.1 instanceId true).1))
  nodeMetadatas.keys.foldl createResourceMonitorForNode
    { fm with
      instances := fm.instances.set instanceId {}
      nodes := fm.nodes.update nodeMetadatas.entries }

def syncInstanceNodes (fm : FaultManager) (hostname : String → Option String) (instanceId : Int)
    (nodeManagers : List NodeManagerInfo) : FaultManager :=
  let podToNodeName := buildNodeNameMapping hostname nodeManagers
  if fm.instances.contains instanceId then fm.syncExistingInstanceNodes instanceId podToNodeName
  else fm.addNewInstanceWithNodes instanceId podToNodeName

/-- `update` at INSTANCE_INITIAL. -/
def updateInitial (fm : FaultManager) (hostname : String → Option String) (instanceId : Int)
    (nodeManagers : List NodeManagerInfo) : FaultManager :=
  if fm.instances.contains instanceId then fm else fm.syncInstanceNodes hostname instanceId nodeManagers

/-- `update` at INSTANCE_REMOVED. -/
def updateRemoved (fm : FaultManager) (instanceId : Int) : FaultManager :=
  if fm.instances.contains instanceId then
    let fm := (fm.nodesOf instanceId).foldl removeNode fm
    { fm with instances := fm.instances.erase instanceId }
  else fm

/-! ## Fault levels -/

def evalNodeStatus (fm : FaultManager) (nodeName : String) : Option FaultInfo :=
  match fm.nodes.get? nodeName with
  | none => none
  | some node => (highestFault node.faultInfos.values).2

/-- The nodes of an instance that have faults. -/
def faultyNodesOf (fm : FaultManager) (instanceId : Int) : List String :=
  (fm.nodesOf instanceId).filter fun nodeName => (fm.nodes.get? nodeName).any fun node => node.faultInfos.entries ≠ []

def updateHighestFaultLevel (fm : FaultManager) (nodeNames : List String) (ins : InstanceMetadata) :
    InstanceMetadata :=
  let highest := highestFault (nodeNames.filterMap fm.evalNodeStatus)
  if ins.faultLevel ≠ highest.1 then
    { ins with
      faultLevel := highest.1
      faultCode := match highest.2 with
        | some info => info.faultCode
        | none => 0 }
  else ins

def setInstance (fm : FaultManager) (instanceId : Int) (ins : InstanceMetadata) : FaultManager :=
  { fm with instances := fm.instances.set instanceId ins }

def setNode (fm : FaultManager) (nodeName : String) (node : NodeMetadata) : FaultManager :=
  { fm with nodes := fm.nodes.set nodeName node }

end FaultManager

end PyMotor
