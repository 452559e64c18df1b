import PyMotor.Controller.Persistence
import PyMotor.Etcd.Client
import PyMotor.FaultTolerance.FaultManager
import PyMotor.Lib.Json

/-!
# Restoring the managers of the controller

`restore_data` of the instance manager, the instance assembler and the fault manager, down to the range request. What
pydantic, json and hashlib do is a parameter.
-/

namespace PyMotor

open Lib

/-- The models that the managers construct. -/
structure RestoreCodec (T : Type) extends Etcd.Codec Json T where
  /-- `AssembleInstanceMetadata.model_validate(metadata_data)`. -/
  assembleInit : Json → Option (AssembleInstanceMetadata ManagedInstance)
  /-- `NodeMetadata.model_validate(node_dict)`. -/
  nodeInit : Json → Option NodeMetadata
  /-- `InstanceMetadata.model_validate(ins_dict)`, with its `instance_id`. -/
  instanceMetadataInit : Json → Option (Int × InstanceMetadata)

variable {T M κ β : Type}

/-- The codec of `PersistentState`. -/
def RestoreCodec.states (codec : RestoreCodec T) : JsonCodec (Etcd.PersistentState Json) T where
  dumps state := some (codec.jsonDumps state)
  loads := codec.jsonLoads

namespace EtcdClient

variable {V : Type} (codec : JsonCodec V T) (client : EtcdClient) (store : Dict String T) (keyPrefix : String)

/-- `restore_data`, where the range request may fail; the failure makes the data empty. -/
def restoreDataOf (answered : Bool) : Option (Dict String V) :=
  nonEmpty (if answered then getPrefixData codec client store keyPrefix else Dict.empty)

end EtcdClient

/-- What the three functions do with the result: `load` is the part under the lock. -/
def restoreVia (load : Etcd.PersistentState Json → M → Bool × M) (isValid : Etcd.PersistentState Json → Bool)
    (persistentStates : Option (Dict String (Etcd.PersistentState Json))) (m : M) : Bool × M :=
  match persistentStates with
  | none => (true, m)
  | some states =>
    match states.get? "state" with
    | none => (false, m)
    | some state => if isValid state then load state m else (false, m)

/-- A loop that constructs its items; it stops at an item that raises. -/
def constructAll (init : String × Json → Option (κ × β)) [DecidableEq κ] :
    List (String × Json) → Dict κ β → Bool × Dict κ β
  | [], d => (true, d)
  | item :: items, d =>
    match init item with
    | none => (false, d)
    | some (key, value) => constructAll init items (d.set key value)

/-! ## The managers -/

/-- The ids are not checked when they are restored. -/
structure AssemblerMemory where
  dataVersion : Nat := 0
  insIdCnt : Json := .int 1
  instances : Dict String (AssembleInstanceMetadata ManagedInstance) := Dict.empty

structure FaultManagerMemory where
  dataVersion : Nat := 0
  nodes : Dict String NodeMetadata := Dict.empty
  instances : Dict Int InstanceMetadata := Dict.empty

/-- `data.get(key, {})`. -/
def field (state : Etcd.PersistentState Json) (key : String) : Json := (state.data.get? key).getD (.obj [])

namespace RestoreCodec

variable (codec : RestoreCodec T)

/-- An instance that cannot be constructed is skipped. -/
def loadInstances (timestamp : ℚ) (state : Etcd.PersistentState Json) (c : Controller) : Bool × Controller :=
  (true, { c with dataVersion := max c.dataVersion state.version }.restoreInstances timestamp
    (state.data.values.filterMap codec.modelInit))

def assembleItem (item : String × Json) : Option (String × AssembleInstanceMetadata ManagedInstance) :=
  (codec.assembleInit item.2).map fun metadata => (item.1, metadata)

/-- Metadata that cannot be constructed are skipped. -/
def loadAssembler (state : Etcd.PersistentState Json) (a : AssemblerMemory) : Bool × AssemblerMemory :=
  let a : AssemblerMemory :=
    { dataVersion := max a.dataVersion state.version
      insIdCnt := (state.data.get? "ins_id_cnt").getD (.int 0) }
  match field state "instances" with
  | .obj items => (true, { a with instances := Dict.empty.update (items.filterMap codec.assembleItem) })
  | _ => (false, a)

def nodeItem (item : String × Json) : Option (String × NodeMetadata) :=
  (codec.nodeInit item.2).map fun node => (item.1, node)

/-- Metadata that cannot be constructed end the restoring. -/
def loadFaultManager (state : Etcd.PersistentState Json) (f : FaultManagerMemory) : Bool × FaultManagerMemory :=
  let f : FaultManagerMemory := { dataVersion := max f.dataVersion state.version }
  match field state "nodes" with
  | .obj nodes =>
    match constructAll codec.nodeItem nodes Dict.empty with
    | (false, loaded) => (false, { f with nodes := loaded })
    | (true, loaded) =>
      let f := { f with nodes := loaded }
      match field state "instances" with
      | .obj instances =>
        let (complete, loaded) := constructAll (fun item => codec.instanceMetadataInit item.2) instances Dict.empty
        (complete, { f with instances := loaded })
      | _ => (false, f)
  | _ => (false, f)

end RestoreCodec

section Managers

variable (codec : RestoreCodec T) (client : EtcdClient) (store : Dict String T) (answered : Bool)

/-- `InstanceManager.restore_data`. -/
def Controller.restoreFrom (timestamp : ℚ) (c : Controller) : Bool × Controller :=
  restoreVia (codec.loadInstances timestamp) (Etcd.PersistentState.isValid codec.toCodec)
    (client.restoreDataOf codec.states store "/controller/instance_manager" answered) c

/-- `InstanceAssembler.restore_data`. -/
def AssemblerMemory.restoreFrom (a : AssemblerMemory) : Bool × AssemblerMemory :=
  restoreVia codec.loadAssembler (Etcd.PersistentState.isValid codec.toCodec)
    (client.restoreDataOf codec.states store "/controller/instance_assembler" answered) a

/-- `FaultManager.restore_data`. -/
def FaultManagerMemory.restoreFrom (f : FaultManagerMemory) : Bool × FaultManagerMemory :=
  restoreVia codec.loadFaultManager (Etcd.PersistentState.isValid codec.toCodec)
    (client.restoreDataOf codec.states store "/controller/fault_manager" answered) f

end Managers

/-! ## What restoring is for -/

/-- The instance of a record as the manager has it: one that is ACTIVE has been heard of now. -/
def asRestored (timestamp : ℚ) (x : ManagedInstance) : ManagedInstance :=
  { x with endpoints := x.endpoints.mapValues fun eps => eps.mapValues fun ep =>
      { ep with hbTimestamp := if x.status = .active then timestamp else ep.hbTimestamp } }

/-- Every record can be constructed, and the dictionary has what the last record of each key stands for, and nothing
else. -/
structure HoldsRecords {ρ : Type} [DecidableEq κ] (construct : ρ → Option (κ × β)) (records : List ρ) (d : Dict κ β) :
    Prop where
  constructed : ∀ record ∈ records, (construct record).isSome = true
  entries : ∀ key, d.get? key = ((records.filterMap construct).filter fun e => e.1 = key).getLast?.map Prod.snd

namespace RestoreCodec

variable (codec : RestoreCodec T)

/-- The manager has the stored instances. -/
structure HoldsInstances (timestamp : ℚ) (state : Etcd.PersistentState Json) (c c' : Controller) : Prop where
  version : c'.dataVersion = max c.dataVersion state.version
  instances : HoldsRecords (fun record => (codec.modelInit record).map fun x => (x.id, asRestored timestamp x))
    state.data.values (c'.instances.mapValues c'.obj)

/-- The assembler has the stored counter and metadata. -/
structure HoldsAssembler (state : Etcd.PersistentState Json) (a a' : AssemblerMemory) : Prop where
  version : a'.dataVersion = max a.dataVersion state.version
  insIdCnt : a'.insIdCnt = (state.data.get? "ins_id_cnt").getD (.int 0)
  instances : ∃ items, field state "instances" = .obj items ∧
    HoldsRecords (fun item => (codec.assembleInit item.2).map fun metadata => (item.1, metadata)) items a'.instances

/-- The fault manager has the stored nodes and instances. -/
structure HoldsFaultManager (state : Etcd.PersistentState Json) (f f' : FaultManagerMemory) : Prop where
  version : f'.dataVersion = max f.dataVersion state.version
  nodes : ∃ items, field state "nodes" = .obj items ∧
    HoldsRecords (fun item => (codec.nodeInit item.2).map fun node => (item.1, node)) items f'.nodes
  instances : ∃ items, field state "instances" = .obj items ∧
    HoldsRecords (fun item => codec.instanceMetadataInit item.2) items f'.instances

end RestoreCodec

section Spec

variable (codec : RestoreCodec T) (client : EtcdClient) (store : Dict String T) (keyPrefix : String)

/-- The texts under a prefix. -/
def stored : List (String × T) := EtcdClient.rangePrefix store (client.getKeyWithNamespaceAndJobName keyPrefix)

/-- The range is answered, and every text can be read. -/
def Readable (answered : Bool) : Prop :=
  answered = true ∧ ∀ kv ∈ stored client store keyPrefix, (codec.jsonLoads kv.2).isSome = true

/-- The stored state: the last text whose key ends in `state` after the prefix. -/
def storedState : Option (Etcd.PersistentState Json) :=
  ((stored client store keyPrefix).filter fun kv => EtcdClient.relativeKey
    (client.getKeyWithNamespaceAndJobName keyPrefix) kv.1 = "state").getLast?.bind fun kv => codec.jsonLoads kv.2

/-- Success means that nothing is stored, or that memory holds the stored state; what is stored and cannot be read is no
success. -/
def RestoresHonestly (holds : Etcd.PersistentState Json → M → M → Prop) (answered : Bool) (m : M) (r : Bool × M) : Prop :=
  (r.1 = true → stored client store keyPrefix = [] ∨
    ∃ state, storedState codec client store keyPrefix = some state ∧ holds state m r.2) ∧
  (stored client store keyPrefix ≠ [] → ¬ Readable codec client store keyPrefix answered → r.1 = false)

/-- The stored state, when it is read and valid. -/
def ValidState (state : Etcd.PersistentState Json) : Prop :=
  storedState codec client store keyPrefix = some state ∧ state.isValid codec.toCodec = true

end Spec

end PyMotor
