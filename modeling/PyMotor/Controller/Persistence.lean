import PyMotor.Controller.Assembler
import PyMotor.Lib.Run

/-!
# Failover of the instance manager

`persist_data` and `restore_data` of the manager with `motor/common/etcd/persistent_state.py`. What pydantic, json and
hashlib do is a parameter, and etcd keeps the text it is given.
-/

namespace PyMotor

open Lib

namespace Etcd

/-- The data are dumped instances in the order of the dictionary. -/
structure PersistentState (J : Type) where
  data : Dict String J
  version : Nat
  timestamp : ℚ
  checksum : String

/-- Dumped values are of type `J`, texts in etcd of type `T`. -/
structure Codec (J T : Type) where
  /-- `instance.model_dump(mode="json")`. -/
  modelDump : ManagedInstance → J
  /-- `Instance(**instance_data)`; `none` where it raises. -/
  modelInit : J → Option ManagedInstance
  /-- `str(list(self.data.items()))`. -/
  strItems : List (String × J) → String
  strFloat : ℚ → String
  /-- `hashlib.sha256(..).hexdigest()`. -/
  sha256 : String → String
  jsonDumps : PersistentState J → T
  jsonLoads : T → Option (PersistentState J)

variable {J T : Type}

/-- Dumped models and their JSON can be read back. -/
structure Codec.Lawful (codec : Codec J T) : Prop where
  modelInit_modelDump : ∀ x, codec.modelInit (codec.modelDump x) = some x
  jsonLoads_jsonDumps : ∀ state, codec.jsonLoads (codec.jsonDumps state) = some state

def PersistentState.calculateChecksum (codec : Codec J T) (state : PersistentState J) : String :=
  codec.sha256 (codec.strItems state.data.entries ++ toString state.version ++ codec.strFloat state.timestamp)

def PersistentState.isValid (codec : Codec J T) (state : PersistentState J) : Bool :=
  state.checksum = state.calculateChecksum codec

end Etcd

namespace Controller

open Etcd

variable {J T : Type}

/-- `persist_data` at a time: the manager and the text that etcd gets. -/
def persistData (codec : Codec J T) (c : Controller) (timestamp : ℚ) : Controller × T :=
  let nextVersion := c.dataVersion + 1
  let state : Etcd.PersistentState J :=
    { data := Dict.empty.update (c.instances.entries.map fun e => (toString e.1, codec.modelDump (c.obj e.2)))
      version := nextVersion
      timestamp := timestamp
      checksum := "" }
  let state := { state with checksum := state.calculateChecksum codec }
  ({ c with dataVersion := nextVersion }, codec.jsonDumps state)

/-- `restore_data` at a time, with its result. A text that cannot be read counts as no data; an instance that cannot be
constructed is skipped. -/
def restorePersisted (codec : Codec J T) (c : Controller) (timestamp : ℚ) (text : Option T) : Bool × Controller :=
  match text.bind codec.jsonLoads with
  | none => (true, c)
  | some state =>
    if state.isValid codec then
      (true, { c with dataVersion := max c.dataVersion state.version }.restoreInstances timestamp
        (state.data.values.filterMap codec.modelInit))
    else (false, c)

end Controller

/-! ## What failover preserves -/

/-- Everything but the heartbeat timestamp. -/
def Endpoint.timeless (ep : Endpoint) : Endpoint := { ep with hbTimestamp := 0 }

/-- The instance is the same, but for the heartbeat timestamps of an ACTIVE instance, which are set to the time. -/
structure ManagedInstance.RestoredAs (timestamp : ℚ) (x y : ManagedInstance) : Prop where
  rest : { y with endpoints := x.endpoints } = x
  endpoints : (y.endpoints.mapValues fun eps => eps.mapValues Endpoint.timeless) =
    x.endpoints.mapValues fun eps => eps.mapValues Endpoint.timeless
  unchanged : x.status ≠ .active → y = x
  refreshed : x.status = .active → ∀ ep ∈ y.endpointList, ep.hbTimestamp = timestamp

namespace Controller

open Etcd

variable {J T : Type}

/-- Heartbeats at their times. -/
def heartbeats (c : Controller) (beats : List (ℚ × Int × String × Dict Int EndpointStatus)) : Controller :=
  run (fun c beat => (c.handleHeartbeat beat.1 beat.2.1 beat.2.2.1 beat.2.2.2).2) c beats

/-- The manager that a fresh one becomes when it restores what `c` has persisted. -/
def failover (codec : Codec J T) (c : Controller) (persisted restored : ℚ) : Bool × Controller :=
  ({} : Controller).restorePersisted codec restored (some (c.persistData codec persisted).2)

/-- The instances, the version and the separated ids survive failover, and no heartbeats activate an instance that was
separated. -/
structure FailoverPreserves (codec : Codec J T) (c : Controller) (persisted restored : ℚ) : Prop where
  succeeds : (c.failover codec persisted restored).1 = true
  keys : (c.failover codec persisted restored).2.instances.keys = c.instances.keys
  instances : ∀ id r, c.instances.get? id = some r →
    ∃ r', (c.failover codec persisted restored).2.instances.get? id = some r' ∧
      (c.obj r).RestoredAs restored ((c.failover codec persisted restored).2.obj r')
  version : (c.persistData codec persisted).1.dataVersion ≤ (c.failover codec persisted restored).2.dataVersion
  separated : ∀ id, id ∈ (c.failover codec persisted restored).2.forcedSeparatedInstances ↔
    id ∈ c.forcedSeparatedInstances
  guarded : ∀ id ∈ c.forcedSeparatedInstances, ∀ beats r,
    ((c.failover codec persisted restored).2.heartbeats beats).instances.get? id = some r →
      (((c.failover codec persisted restored).2.heartbeats beats).obj r).status ≠ .active

end Controller

end PyMotor
