import PyMotor.Pool.InstanceManager

/-!
# The workload shared memory

`motor/coordinator/scheduler/runtime/workload_shm/layout.py` and `writer.py`. The buffer is kept as the
values a reader unpacks from it: one header and the written slots. `struct.pack` raises on a value that
does not fit its field and leaves the buffer alone.
-/

namespace PyMotor

open Lib

structure WorkloadShmEntry where
  instanceId : Int
  endpointId : Int
  role : Nat
  activeTokens : ℚ
  activeKvCache : ℚ
deriving DecidableEq

/-- The header fields that change; magic number and schema version are constants. -/
structure WorkloadShmHeader where
  sequence : Nat := 0
  entryCount : Nat := 0
  maxEntries : Nat := 0
  instanceVersion : Nat := 0
  heartbeatSequence : Nat := 0
deriving DecidableEq

def defaultWorkloadShmMaxEntries : Nat := 10240

/-- Fits the signed 32-bit field `i`. -/
def FitsInt32 (n : Int) : Prop := -2147483648 ≤ n ∧ n < 2147483648

instance (n : Int) : Decidable (FitsInt32 n) := inferInstanceAs (Decidable (_ ∧ _))

/-- `pack_entry` with the format `<i i B 3x d d 4x`; the roles all fit `B`. -/
def packEntry (entry : WorkloadShmEntry) : Except PyErr WorkloadShmEntry :=
  if FitsInt32 entry.instanceId ∧ FitsInt32 entry.endpointId then .ok entry else .error .structError

/-- `pack_header` with the format `<I H H q I I Q Q 24x`. -/
def packHeader (header : WorkloadShmHeader) : Except PyErr WorkloadShmHeader :=
  if header.sequence < 2 ^ 63 ∧ header.entryCount < 2 ^ 32 ∧ header.maxEntries < 2 ^ 32 then
    .ok { header with
      instanceVersion := header.instanceVersion % 2 ^ 64
      heartbeatSequence := header.heartbeatSequence % 2 ^ 64 }
  else .error .structError

def pdroleToShmRole : PDRole → Nat
  | .roleP => 0
  | .roleD => 1
  | .roleU => 2

/-- The entries of all role pools, before they are cut to the size of the buffer. -/
def InstanceManager.workloadEntries (m : InstanceManager) : List WorkloadShmEntry :=
  [PDRole.roleP, .roleD, .roleU].flatMap fun role =>
    (m.rolePool role).values.flatMap fun r =>
      (m.obj r).endpointList.map fun ep =>
        { instanceId := (m.obj r).id
          endpointId := ep.id
          role := pdroleToShmRole role
          activeTokens := ep.workload.activeTokens
          activeKvCache := ep.workload.activeKvCache }

def collectEntriesAndSlotMap (m : InstanceManager) (maxEntries : Nat) :
    List WorkloadShmEntry × Dict (Int × Int) Nat :=
  let entries := m.workloadEntries.take maxEntries
  (entries, entries.zipIdx.foldl (fun map e => map.set (e.1.instanceId, e.1.endpointId) e.2) Dict.empty)

/-- The writer together with the buffer it writes to. -/
structure WorkloadSharedMemoryWriter where
  maxEntries : Nat := defaultWorkloadShmMaxEntries
  slotMap : Dict (Int × Int) Nat := Dict.empty
  sequence : Nat := 0
  entryCount : Nat := 0
  instanceVersion : Nat := 0
  heartbeatSequence : Nat := 0
  bufHeader : WorkloadShmHeader := {}
  bufEntries : Dict Nat WorkloadShmEntry := Dict.empty

namespace WorkloadSharedMemoryWriter

def writeEntryAtSlot (w : WorkloadSharedMemoryWriter) (slot : Nat) (entry : WorkloadShmEntry) :
    Except PyErr Unit × WorkloadSharedMemoryWriter :=
  match packEntry entry with
  | .error e => (.error e, w)
  | .ok data => (.ok (), { w with bufEntries := w.bufEntries.set slot data })

/-- The loop of `write_snapshot`. -/
def writeEntries (w : WorkloadSharedMemoryWriter) : List (WorkloadShmEntry × Nat) →
    Except PyErr Unit × WorkloadSharedMemoryWriter
  | [] => (.ok (), w)
  | (entry, slot) :: rest =>
    match w.writeEntryAtSlot slot entry with
    | (.error e, w') => (.error e, w')
    | (.ok _, w') => writeEntries w' rest

def writeHeader (w : WorkloadSharedMemoryWriter) : Except PyErr Unit × WorkloadSharedMemoryWriter :=
  let w := { w with heartbeatSequence := max w.heartbeatSequence w.bufHeader.heartbeatSequence }
  let header : WorkloadShmHeader :=
    { sequence := w.sequence
      entryCount := w.entryCount
      maxEntries := w.maxEntries
      instanceVersion := w.instanceVersion
      heartbeatSequence := w.heartbeatSequence }
  match packHeader header with
  | .error e => (.error e, w)
  | .ok header => (.ok (), { w with bufHeader := header })

def writeSnapshot (w : WorkloadSharedMemoryWriter) (m : InstanceManager) :
    Except PyErr Unit × WorkloadSharedMemoryWriter :=
  let collected := collectEntriesAndSlotMap m w.maxEntries
  match writeEntries { w with slotMap := collected.2, entryCount := collected.1.length } collected.1.zipIdx with
  | (.error e, w') => (.error e, w')
  | (.ok _, w') =>
    writeHeader { w' with sequence := w'.sequence + 1, instanceVersion := w'.instanceVersion + 1 }

def writeHeartbeat (w : WorkloadSharedMemoryWriter) : WorkloadSharedMemoryWriter :=
  let next := (w.heartbeatSequence + 1) % 2 ^ 64
  { w with heartbeatSequence := next, bufHeader := { w.bufHeader with heartbeatSequence := next } }

end WorkloadSharedMemoryWriter

/-- `get_endpoint_workload`: role and workload of an available endpoint. -/
def InstanceManager.getEndpointWorkload (m : InstanceManager) (instanceId endpointId : Int) :
    Except PyErr (Option (PDRole × Workload)) × InstanceManager :=
  match m.availablePool.get? instanceId with
  | none => (.ok none, m)
  | some r =>
    let m' := m.fillEndpointCache instanceId r
    match (m.endpointCache instanceId r).get? endpointId with
    | none => (.ok none, m')
    | some a =>
      let workload := (((m.obj a.inst).endpointAt a.pod a.key).map Endpoint.workload).getD {}
      if (m.obj r).role = "" then (.ok (some (.roleU, workload)), m')
      else
        match PDRole.ofString? (m.obj r).role with
        | none => (.error .valueError, m')
        | some role => (.ok (some (role, workload)), m')

/-- `write_single_entry`: one slot, or a snapshot when the pair has no slot yet. -/
def WorkloadSharedMemoryWriter.writeSingleEntry (w : WorkloadSharedMemoryWriter) (m : InstanceManager)
    (instanceId endpointId : Int) : Except PyErr Unit × WorkloadSharedMemoryWriter × InstanceManager :=
  match w.slotMap.get? (instanceId, endpointId) with
  | none =>
    let (res, w') := w.writeSnapshot m
    (res, w', m)
  | some slot =>
    match m.getEndpointWorkload instanceId endpointId with
    | (.error e, m') => (.error e, w, m')
    | (.ok none, m') => (.ok (), w, m')
    | (.ok (some (role, workload)), m') =>
      let entry : WorkloadShmEntry :=
        { instanceId := instanceId
          endpointId := endpointId
          role := pdroleToShmRole role
          activeTokens := workload.activeTokens
          activeKvCache := workload.activeKvCache }
      match w.writeEntryAtSlot slot entry with
      | (.error e, w') => (.error e, w', m')
      | (.ok _, w') =>
        let (res, w'') := ({ w' with sequence := w'.sequence + 1 } : WorkloadSharedMemoryWriter).writeHeader
        (res, w'', m')

/-- `unpack_entry`; a slot that was never written holds zeros. -/
def WorkloadSharedMemoryWriter.unpackEntry (buf : WorkloadSharedMemoryWriter) (slot : Nat) : WorkloadShmEntry :=
  (buf.bufEntries.get? slot).getD
    { instanceId := 0, endpointId := 0, role := 0, activeTokens := 0, activeKvCache := 0 }

/-- The entries that the header announces. -/
def WorkloadSharedMemoryWriter.unpackEntries (buf : WorkloadSharedMemoryWriter) : List WorkloadShmEntry :=
  (List.range buf.bufHeader.entryCount).map buf.unpackEntry

end PyMotor
