import PyMotor.Lib.Struct
import PyMotor.Lib.Dict
import PyMotor.Scheduler.Shm

/-!
# The bytes of the workload shared memory

`motor/coordinator/scheduler/runtime/workload_shm/layout.py` and `writer.py`, down to the bytes of the buffer. A float is
given by its bits. The pool is an input of each write: the entries that a snapshot collects, and what the pool answers for one
endpoint after the await.
-/

namespace PyMotor.ShmLayout

open Lib

def magic : Nat := 0x574B4C44

def schemaVersion : Nat := 1

def headerSize : Nat := 64

/-- `<I H H q I I Q Q 24x`. -/
def headerFmt : Struct.Format :=
  [.unsigned 4, .unsigned 2, .unsigned 2, .signed 8, .unsigned 4, .unsigned 4, .unsigned 8, .unsigned 8, .pad 24]

def heartbeatOffset : Nat := 32

def entrySize : Nat := 32

/-- `<i i B 3x d d 4x`. -/
def entryFmt : Struct.Format :=
  [.signed 4, .signed 4, .unsigned 1, .pad 3, .double, .double, .pad 4]

/-- `<Q`. -/
def heartbeatFmt : Struct.Format := [.unsigned 8]

def defaultWorkloadShmMaxEntries : Nat := 10240

structure WorkloadShmEntry where
  instanceId : Int
  endpointId : Int
  role : Int
  activeTokens : UInt64
  activeKvCache : UInt64
deriving DecidableEq, Repr

structure WorkloadShmHeader where
  magic : Int
  schemaVersion : Int
  sequence : Int
  entryCount : Int
  maxEntries : Int
  instanceVersion : Int := 0
  heartbeatSequence : Int := 0
deriving DecidableEq, Repr

/-! ## Codec -/

def structPack (format : Struct.Format) (values : List Struct.Value) : Except PyErr Bytes :=
  match Struct.pack format values with
  | some data => .ok data
  | none => .error .structError

def structUnpack (format : Struct.Format) (data : Bytes) : Except PyErr (List Struct.Value) :=
  match Struct.unpack format data with
  | some values => .ok values
  | none => .error .structError

/-- The values of a header, a zero for the padding after the schema version. -/
def WorkloadShmHeader.values (header : WorkloadShmHeader) : List Struct.Value :=
  [.int header.magic, .int header.schemaVersion, .int 0, .int header.sequence, .int header.entryCount,
    .int header.maxEntries, .int header.instanceVersion, .int header.heartbeatSequence]

def WorkloadShmHeader.ofValues : List Struct.Value → Except PyErr WorkloadShmHeader
  | [.int magic, .int schemaVersion, _, .int sequence, .int entryCount, .int maxEntries, .int instanceVersion,
      .int heartbeatSequence] =>
    .ok { magic, schemaVersion, sequence, entryCount, maxEntries, instanceVersion, heartbeatSequence }
  | _ => .error .structError

/-- A counter is brought into an unsigned 64-bit field. -/
def wrap64 (n : Int) : Int := if n < 0 ∨ n > 2 ^ 64 - 1 then n % 2 ^ 64 else n

def packHeader (header : WorkloadShmHeader) : Except PyErr Bytes :=
  structPack headerFmt { header with
    instanceVersion := wrap64 header.instanceVersion
    heartbeatSequence := wrap64 header.heartbeatSequence }.values

def unpackHeader (buf : Bytes) : Except PyErr WorkloadShmHeader :=
  if buf.length < headerSize then .error .valueError
  else
    match structUnpack headerFmt (Struct.slice buf 0 headerSize) with
    | .error e => .error e
    | .ok t => WorkloadShmHeader.ofValues t

def WorkloadShmEntry.values (entry : WorkloadShmEntry) : List Struct.Value :=
  [.int entry.instanceId, .int entry.endpointId, .int entry.role, .double entry.activeTokens, .double entry.activeKvCache]

def WorkloadShmEntry.ofValues : List Struct.Value → Except PyErr WorkloadShmEntry
  | [.int instanceId, .int endpointId, .int role, .double activeTokens, .double activeKvCache] =>
    .ok { instanceId, endpointId, role, activeTokens, activeKvCache }
  | _ => .error .structError

def packEntry (entry : WorkloadShmEntry) : Except PyErr Bytes := structPack entryFmt entry.values

def slotOffset (slot : Nat) : Nat := headerSize + slot * entrySize

def unpackEntry (buf : Bytes) (slot : Nat) : Except PyErr WorkloadShmEntry :=
  if slotOffset slot + entrySize > buf.length then .error .valueError
  else
    match structUnpack entryFmt (Struct.slice buf (slotOffset slot) entrySize) with
    | .error e => .error e
    | .ok t => WorkloadShmEntry.ofValues t

def totalSize (maxEntries : Nat) : Nat := headerSize + maxEntries * entrySize

/-! ## Writer -/

/-- `buf[start:start + len(data)] = data` of a `memoryview`, which keeps its size. -/
def assign (buf : Bytes) (start : Nat) (data : Bytes) : Except PyErr Bytes :=
  if (Struct.slice buf start data.length).length = data.length then .ok (Struct.overwrite buf start data)
  else .error .valueError

/-- `_collect_entries_and_slot_map`, given the entries of all pools. -/
def collectEntriesAndSlotMap (pools : List WorkloadShmEntry) (maxEntries : Nat) :
    List WorkloadShmEntry × Dict (Int × Int) Nat :=
  let entries := pools.take maxEntries
  (entries, entries.zipIdx.foldl (fun map e => map.set (e.1.instanceId, e.1.endpointId) e.2) Dict.empty)

structure WorkloadSharedMemoryWriter where
  buf : Bytes
  maxEntries : Nat := defaultWorkloadShmMaxEntries
  slotMap : Dict (Int × Int) Nat := Dict.empty
  sequence : Nat := 0
  entryCount : Nat := 0
  instanceVersion : Nat := 0
  heartbeatSequence : Nat := 0

namespace WorkloadSharedMemoryWriter

/-- Packed bytes go into the buffer; an exception leaves it alone. -/
def store (w : WorkloadSharedMemoryWriter) (start : Nat) (packed : Except PyErr Bytes) :
    Except PyErr Unit × WorkloadSharedMemoryWriter :=
  match packed with
  | .error e => (.error e, w)
  | .ok data =>
    match assign w.buf start data with
    | .error e => (.error e, w)
    | .ok buf => (.ok (), { w with buf })

/-- The assignment of `write_heartbeat`, after the counter was raised. -/
def storeHeartbeat (w : WorkloadSharedMemoryWriter) : Except PyErr Unit × WorkloadSharedMemoryWriter :=
  w.store heartbeatOffset (structPack heartbeatFmt [.int w.heartbeatSequence])

def writeHeartbeat (w : WorkloadSharedMemoryWriter) : Except PyErr Unit × WorkloadSharedMemoryWriter :=
  { w with heartbeatSequence := (w.heartbeatSequence + 1) % 2 ^ 64 }.storeHeartbeat

def writeEntryAtSlot (w : WorkloadSharedMemoryWriter) (slot : Nat) (entry : WorkloadShmEntry) :
    Except PyErr Unit × WorkloadSharedMemoryWriter :=
  w.store (slotOffset slot) (packEntry entry)

/-- The header of the writer's counters. -/
def header (w : WorkloadSharedMemoryWriter) : WorkloadShmHeader where
  magic := magic
  schemaVersion := schemaVersion
  sequence := w.sequence
  entryCount := w.entryCount
  maxEntries := w.maxEntries
  instanceVersion := w.instanceVersion
  heartbeatSequence := w.heartbeatSequence

/-- The newer of the writer's heartbeat and the one in the buffer. -/
def mergeHeartbeat (w : WorkloadSharedMemoryWriter) : List Struct.Value → WorkloadSharedMemoryWriter
  | .int currentInBuf :: _ => { w with heartbeatSequence := max w.heartbeatSequence currentInBuf.toNat }
  | _ => w

/-- The end of `_write_header`, after the heartbeat was read. -/
def storeHeader (w : WorkloadSharedMemoryWriter) : Except PyErr Unit × WorkloadSharedMemoryWriter :=
  w.store 0 (packHeader w.header)

/-- `_write_header`; `struct.error` is no `ValueError` and leaves the function. -/
def writeHeader (w : WorkloadSharedMemoryWriter) : Except PyErr Unit × WorkloadSharedMemoryWriter :=
  match structUnpack heartbeatFmt (Struct.slice w.buf heartbeatOffset 8) with
  | .error e => (.error e, w)
  | .ok t => (w.mergeHeartbeat t).storeHeader

/-- The loop of `write_snapshot`. -/
def writeEntries (w : WorkloadSharedMemoryWriter) : List (WorkloadShmEntry × Nat) →
    Except PyErr Unit × WorkloadSharedMemoryWriter
  | [] => (.ok (), w)
  | (entry, slot) :: rest =>
    match w.writeEntryAtSlot slot entry with
    | (.error e, w) => (.error e, w)
    | (.ok _, w) => w.writeEntries rest

def writeSnapshot (w : WorkloadSharedMemoryWriter) (pools : List WorkloadShmEntry) :
    Except PyErr Unit × WorkloadSharedMemoryWriter :=
  let collected := collectEntriesAndSlotMap pools w.maxEntries
  match { w with slotMap := collected.2, entryCount := collected.1.length }.writeEntries collected.1.zipIdx with
  | (.error e, w) => (.error e, w)
  | (.ok _, w) => { w with sequence := w.sequence + 1, instanceVersion := w.instanceVersion + 1 }.writeHeader

/-- `write_single_entry` after the await; nothing is written for an endpoint the pool no longer has. -/
def finishSingleEntry (w : WorkloadSharedMemoryWriter) (slot : Nat) (instanceId endpointId : Int)
    (answer : Except PyErr (Option (PDRole × UInt64 × UInt64))) : Except PyErr Unit × WorkloadSharedMemoryWriter :=
  match answer with
  | .error e => (.error e, w)
  | .ok none => (.ok (), w)
  | .ok (some (role, activeTokens, activeKvCache)) =>
    match w.writeEntryAtSlot slot { instanceId, endpointId, role := pdroleToShmRole role, activeTokens, activeKvCache } with
    | (.error e, w) => (.error e, w)
    | (.ok _, w) => { w with sequence := w.sequence + 1 }.writeHeader

end WorkloadSharedMemoryWriter

/-! ## Tasks -/

/-- A call of `write_single_entry` that waits for the pool. -/
structure SingleWrite where
  slot : Nat
  instanceId : Int
  endpointId : Int
deriving DecidableEq, Repr

structure Tasks where
  writer : WorkloadSharedMemoryWriter
  waiting : List SingleWrite := []

/-- What a task of the scheduler does before it gives way; `pools` is what a snapshot collects at that time. -/
inductive Event
  | writeHeartbeat
  | writeSnapshot (pools : List WorkloadShmEntry)
  | writeSingleEntry (instanceId endpointId : Int) (pools : List WorkloadShmEntry)
  | answer (task : Nat) (answer : Except PyErr (Option (PDRole × UInt64 × UInt64)))

namespace Tasks

/-- An exception ends its task and leaves the writer as it is then. -/
def step (s : Tasks) : Event → Tasks
  | .writeHeartbeat => { s with writer := s.writer.writeHeartbeat.2 }
  | .writeSnapshot pools => { s with writer := (s.writer.writeSnapshot pools).2 }
  | .writeSingleEntry instanceId endpointId pools =>
    match s.writer.slotMap.get? (instanceId, endpointId) with
    | none => { s with writer := (s.writer.writeSnapshot pools).2 }
    | some slot => { s with waiting := s.waiting ++ [{ slot, instanceId, endpointId }] }
  | .answer task answer =>
    match s.waiting[task]? with
    | none => s
    | some call =>
      { writer := (s.writer.finishSingleEntry call.slot call.instanceId call.endpointId answer).2
        waiting := s.waiting.eraseIdx task }

def run (s : Tasks) (events : List Event) : Tasks := events.foldl step s

/-- A writer on a block that was just created; such a block is filled with zeros. -/
def created (size maxEntries : Nat) : Tasks where
  writer := { buf := List.replicate size 0, maxEntries }

end Tasks

/-- How often the heartbeat was written. -/
def heartbeats (events : List Event) : Nat :=
  (events.filter fun
    | .writeHeartbeat => true
    | _ => false).length

/-! ## Round trips -/

theorem structPack_eq_ok {format : Struct.Format} {values : List Struct.Value} {data : Bytes}
    (h : structPack format values = .ok data) : Struct.pack format values = some data := by
  unfold structPack at h
  split at h
  · rename_i hpack
    cases h
    exact hpack
  · cases h

theorem structPack_of_admits {format : Struct.Format} {values : List Struct.Value} (h : Struct.Admits format values) :
    ∃ data, structPack format values = .ok data := by
  obtain ⟨data, hdata⟩ := Struct.exists_pack h
  exact ⟨data, by rw [structPack, hdata]⟩

theorem length_of_structPack {format : Struct.Format} {values : List Struct.Value} {data : Bytes}
    (h : structPack format values = .ok data) : data.length = Struct.size format :=
  Struct.length_of_pack (structPack_eq_ok h)

theorem structUnpack_structPack {format : Struct.Format} {values : List Struct.Value} {data : Bytes}
    (h : structPack format values = .ok data) : structUnpack format data = .ok values := by
  rw [structUnpack, Struct.unpack_pack (structPack_eq_ok h)]

theorem structUnpack_of_length {format : Struct.Format} {data : Bytes} (h : data.length = Struct.size format) :
    structUnpack format data = .ok (Struct.fields format data) := by
  rw [structUnpack, Struct.unpack, if_pos h]

theorem wrap64_of_lt {n : Int} (hlow : 0 ≤ n) (hhigh : n < 2 ^ 64) : wrap64 n = n := by
  rw [wrap64, if_neg (by omega)]

theorem unpackHeader_of_slice {header : WorkloadShmHeader} {data buf : Bytes} (h : packHeader header = .ok data)
    (hbuf : headerSize ≤ buf.length) (hslice : Struct.slice buf 0 headerSize = data) :
    unpackHeader buf = .ok { header with
      instanceVersion := wrap64 header.instanceVersion
      heartbeatSequence := wrap64 header.heartbeatSequence } := by
  rw [unpackHeader, if_neg (by omega), hslice, structUnpack_structPack h]
  rfl

theorem length_of_packHeader {header : WorkloadShmHeader} {data : Bytes} (h : packHeader header = .ok data) :
    data.length = headerSize :=
  length_of_structPack h

theorem unpackHeader_packHeader {header : WorkloadShmHeader} (h : Struct.Admits headerFmt header.values) :
    ∃ data, packHeader header = .ok data ∧ data.length = headerSize ∧ unpackHeader data = .ok header := by
  have hfits := h
  obtain ⟨_, _, _, _, _, _, ⟨hversionLow, hversionHigh⟩, ⟨hbeatLow, hbeatHigh⟩, _⟩ := hfits
  have hversion : wrap64 header.instanceVersion = header.instanceVersion := wrap64_of_lt hversionLow hversionHigh
  have hbeat : wrap64 header.heartbeatSequence = header.heartbeatSequence := wrap64_of_lt hbeatLow hbeatHigh
  have hpack : packHeader header = structPack headerFmt header.values := by
    rw [packHeader, hversion, hbeat]
  obtain ⟨data, hdata⟩ := structPack_of_admits h
  have hlength : data.length = headerSize := length_of_structPack hdata
  have hslice : Struct.slice data 0 headerSize = data := by
    rw [← hlength]
    exact List.take_length
  refine ⟨data, hpack.trans hdata, hlength, ?_⟩
  rw [unpackHeader_of_slice (hpack.trans hdata) hlength.ge hslice, hversion, hbeat]

theorem length_of_packEntry {entry : WorkloadShmEntry} {data : Bytes} (h : packEntry entry = .ok data) :
    data.length = entrySize :=
  length_of_structPack h

/-! ## Places in the buffer -/

theorem assign_of_le {buf data : Bytes} {start : Nat} (h : start + data.length ≤ buf.length) :
    assign buf start data = .ok (Struct.overwrite buf start data) := by
  rw [assign, if_pos (Struct.length_slice h)]

theorem assign_eq_ok {buf buf' data : Bytes} {start : Nat} (hdata : 0 < data.length) (h : assign buf start data = .ok buf') :
    start + data.length ≤ buf.length ∧ buf' = Struct.overwrite buf start data := by
  unfold assign at h
  split at h
  · rename_i hlength
    cases h
    rw [Struct.slice, List.length_take, List.length_drop] at hlength
    exact ⟨by omega, rfl⟩
  · cases h

theorem unpackHeader_congr {buf buf' : Bytes} (hlength : buf'.length = buf.length)
    (h : Struct.slice buf' 0 headerSize = Struct.slice buf 0 headerSize) : unpackHeader buf' = unpackHeader buf := by
  rw [unpackHeader, unpackHeader, hlength, h]

theorem unpackEntry_congr {buf buf' : Bytes} {slot : Nat} (hlength : buf'.length = buf.length)
    (h : Struct.slice buf' (slotOffset slot) entrySize = Struct.slice buf (slotOffset slot) entrySize) :
    unpackEntry buf' slot = unpackEntry buf slot := by
  rw [unpackEntry, unpackEntry, hlength, h]

theorem slotOffset_disjoint {slot other : Nat} (h : other ≠ slot) :
    slotOffset other + entrySize ≤ slotOffset slot ∨ slotOffset slot + entrySize ≤ slotOffset other := by
  unfold slotOffset entrySize
  omega

theorem slotOffset_le_totalSize {slot maxEntries : Nat} (h : slot < maxEntries) :
    slotOffset slot + entrySize ≤ totalSize maxEntries := by
  unfold slotOffset totalSize entrySize
  omega

theorem headerSize_le_slotOffset (slot : Nat) : headerSize ≤ slotOffset slot := Nat.le_add_right _ _

theorem unpackEntry_assign {buf : Bytes} {slot : Nat} {entry : WorkloadShmEntry}
    (hslot : slotOffset slot + entrySize ≤ buf.length) (h : Struct.Admits entryFmt entry.values) :
    ∃ data buf', packEntry entry = .ok data ∧ assign buf (slotOffset slot) data = .ok buf' ∧
      unpackEntry buf' slot = .ok entry ∧ (∀ other, other ≠ slot → unpackEntry buf' other = unpackEntry buf other) ∧
      unpackHeader buf' = unpackHeader buf := by
  obtain ⟨data, hdata⟩ := structPack_of_admits h
  have hlength : data.length = entrySize := length_of_packEntry hdata
  rw [← hlength] at hslot
  have hsize := Struct.length_overwrite hslot
  have hstart : slotOffset slot ≤ buf.length := (Nat.le_add_right _ _).trans hslot
  refine ⟨data, _, hdata, assign_of_le hslot, ?_, ?_, ?_⟩
  · have hself := Struct.slice_overwrite_self hslot
    rw [hlength] at hself hslot
    rw [unpackEntry, if_neg (by omega), hself, structUnpack_structPack hdata]
    rfl
  · intro other hother
    have hdisjoint := slotOffset_disjoint hother
    rw [← hlength] at hdisjoint
    apply unpackEntry_congr hsize
    rw [← hlength]
    exact Struct.slice_overwrite_of_disjoint hstart hdisjoint
  · apply unpackHeader_congr hsize
    apply Struct.slice_overwrite_of_disjoint hstart
    rw [Nat.zero_add]
    exact Or.inl (headerSize_le_slotOffset slot)

/-! ## The heartbeat field -/

/-- The codes before the heartbeat. -/
def beforeHeartbeat : Struct.Format := headerFmt.take 7

theorem fields_beforeHeartbeat (data : Bytes) :
    ∃ magic schemaVersion padding sequence entryCount maxEntries instanceVersion, Struct.fields beforeHeartbeat data =
      [.int magic, .int schemaVersion, .int padding, .int sequence, .int entryCount, .int maxEntries,
        .int instanceVersion] :=
  ⟨_, _, _, _, _, _, _, rfl⟩

theorem fields_headerFmt (data : Bytes) :
    Struct.fields headerFmt data = Struct.fields beforeHeartbeat data ++
      [.int (Struct.ofLeBytes (Struct.slice data heartbeatOffset 8))] :=
  @Struct.fields_split beforeHeartbeat [.pad 24] (.unsigned 8) rfl data

theorem fields_headerFmt_overwrite {data field : Bytes} (hdata : data.length = headerSize) (hfield : field.length = 8) :
    Struct.fields headerFmt (Struct.overwrite data heartbeatOffset field) = Struct.fields beforeHeartbeat data ++
      [.int (Struct.ofLeBytes field)] := by
  have hroom : Struct.size beforeHeartbeat + 8 ≤ data.length := by
    rw [hdata]
    decide
  exact @Struct.fields_overwrite beforeHeartbeat [.pad 24] (.unsigned 8) rfl data field hfield hroom

theorem structUnpack_heartbeatFmt {data : Bytes} (h : data.length = 8) :
    structUnpack heartbeatFmt data = .ok [.int (Struct.ofLeBytes data)] := by
  have hsize : data.length = Struct.size heartbeatFmt := h
  have htake : data.take (Struct.Code.unsigned 8).size = data := List.take_of_length_le h.le
  rw [structUnpack_of_length hsize, heartbeatFmt, Struct.fields_field rfl, htake]
  rfl

theorem unpackHeader_of_fields {buf : Bytes} (h : headerSize ≤ buf.length) :
    unpackHeader buf = WorkloadShmHeader.ofValues (Struct.fields headerFmt (Struct.slice buf 0 headerSize)) := by
  have hlength : (Struct.slice buf 0 headerSize).length = headerSize := Struct.length_slice (by omega)
  rw [unpackHeader, if_neg (by omega), structUnpack_of_length hlength]

theorem unpackHeader_eq_ok {buf : Bytes} (h : headerSize ≤ buf.length) :
    ∃ header, unpackHeader buf = .ok header ∧
      structUnpack heartbeatFmt (Struct.slice buf heartbeatOffset 8) = .ok [.int header.heartbeatSequence] := by
  have hoffset : heartbeatOffset + 8 ≤ headerSize := by decide
  obtain ⟨magic, schemaVersion, padding, sequence, entryCount, maxEntries, instanceVersion, hfields⟩ :=
    fields_beforeHeartbeat (Struct.slice buf 0 headerSize)
  have hlength : (Struct.slice buf heartbeatOffset 8).length = 8 := Struct.length_slice (by omega)
  refine ⟨_, by rw [unpackHeader_of_fields h, fields_headerFmt, hfields]; rfl, ?_⟩
  rw [structUnpack_heartbeatFmt hlength, Struct.slice_slice buf hoffset, Nat.zero_add]

theorem unpackHeader_assign_heartbeat {buf : Bytes} {beat : Nat} (h : headerSize ≤ buf.length) (hbeat : beat < 2 ^ 64) :
    ∃ data buf' header, structPack heartbeatFmt [.int beat] = .ok data ∧ assign buf heartbeatOffset data = .ok buf' ∧
      unpackHeader buf = .ok header ∧ unpackHeader buf' = .ok { header with heartbeatSequence := beat } ∧
      ∀ slot, unpackEntry buf' slot = unpackEntry buf slot := by
  have hoffset : heartbeatOffset + 8 ≤ headerSize := by decide
  have hadmits : Struct.Admits heartbeatFmt [.int beat] := ⟨⟨Int.natCast_nonneg beat, by exact_mod_cast hbeat⟩, trivial⟩
  obtain ⟨data, hdata⟩ := structPack_of_admits hadmits
  have hlength : data.length = 8 := length_of_structPack hdata
  have hroom : heartbeatOffset + data.length ≤ buf.length := by omega
  have hstart : heartbeatOffset ≤ buf.length := by omega
  have hsize := Struct.length_overwrite hroom
  obtain ⟨magic, schemaVersion, padding, sequence, entryCount, maxEntries, instanceVersion, hfields⟩ :=
    fields_beforeHeartbeat (Struct.slice buf 0 headerSize)
  have hslice : Struct.slice (Struct.overwrite buf heartbeatOffset data) 0 headerSize =
      Struct.overwrite (Struct.slice buf 0 headerSize) heartbeatOffset data :=
    Struct.take_overwrite hstart (by omega)
  have hvalue : Struct.ofLeBytes data = beat := by
    have hunpack := structUnpack_structPack hdata
    rw [structUnpack_heartbeatFmt hlength] at hunpack
    rw [Except.ok.injEq, List.cons.injEq, Struct.Value.int.injEq] at hunpack
    exact_mod_cast hunpack.1
  refine ⟨data, _, _, hdata, assign_of_le hroom, by rw [unpackHeader_of_fields h, fields_headerFmt, hfields]; rfl, ?_, ?_⟩
  · rw [unpackHeader_of_fields (hsize.symm ▸ h), hslice,
      fields_headerFmt_overwrite (Struct.length_slice (by omega)) hlength, hfields, hvalue]
    rfl
  · intro slot
    apply unpackEntry_congr hsize
    apply Struct.slice_overwrite_of_disjoint hstart
    have hslot := headerSize_le_slotOffset slot
    exact Or.inr (by omega)

/-! ## Runs -/

namespace WorkloadSharedMemoryWriter

/-- The counter of the writer and the heartbeat in the buffer are the same number. -/
structure Beats (w : WorkloadSharedMemoryWriter) (beat : Nat) : Prop where
  lt : beat < 2 ^ 64
  length : headerSize ≤ w.buf.length
  counter : w.heartbeatSequence = beat
  field : structUnpack heartbeatFmt (Struct.slice w.buf heartbeatOffset 8) = .ok [.int beat]

variable {w : WorkloadSharedMemoryWriter} {beat : Nat}

theorem store_cases (w : WorkloadSharedMemoryWriter) (start : Nat) {packed : Except PyErr Bytes}
    (hpos : ∀ data, packed = .ok data → 0 < data.length) :
    (w.store start packed).2 = w ∨ ∃ data, packed = .ok data ∧ start + data.length ≤ w.buf.length ∧
      (w.store start packed).2 = { w with buf := Struct.overwrite w.buf start data } := by
  cases packed with
  | error e => exact Or.inl rfl
  | ok data =>
      rw [store]
      split
      · exact Or.inl rfl
      · rename_i buf hbuf
        obtain ⟨hroom, rfl⟩ := assign_eq_ok (hpos data rfl) hbuf
        exact Or.inr ⟨data, rfl, hroom, rfl⟩

theorem Beats.writeEntryAtSlot (h : w.Beats beat) (slot : Nat) (entry : WorkloadShmEntry) :
    (w.writeEntryAtSlot slot entry).2.Beats beat := by
  have hpos : ∀ data, packEntry entry = .ok data → 0 < data.length := by
    intro data hdata
    rw [length_of_packEntry hdata]
    decide
  rw [WorkloadSharedMemoryWriter.writeEntryAtSlot]
  obtain hsame | ⟨data, -, hroom, hstored⟩ := store_cases w (slotOffset slot) hpos
  · rw [hsame]
    exact h
  · have hoffset : heartbeatOffset + 8 ≤ slotOffset slot :=
      (show heartbeatOffset + 8 ≤ headerSize by decide).trans (headerSize_le_slotOffset slot)
    rw [hstored]
    refine ⟨h.lt, (Struct.length_overwrite hroom).symm ▸ h.length, h.counter, ?_⟩
    rw [Struct.slice_overwrite_of_disjoint (by omega) (Or.inl hoffset)]
    exact h.field

theorem Beats.writeEntries (h : w.Beats beat) (entries : List (WorkloadShmEntry × Nat)) :
    (w.writeEntries entries).2.Beats beat := by
  induction entries generalizing w with
  | nil => exact h
  | cons e rest ih =>
      obtain ⟨entry, slot⟩ := e
      have hentry := h.writeEntryAtSlot slot entry
      rw [WorkloadSharedMemoryWriter.writeEntries]
      split
      · rename_i hwrite
        rw [hwrite] at hentry
        exact hentry
      · rename_i hwrite
        rw [hwrite] at hentry
        exact ih hentry

theorem Beats.storeHeader (h : w.Beats beat) : w.storeHeader.2.Beats beat := by
  have hpos : ∀ data, packHeader w.header = .ok data → 0 < data.length := by
    intro data hdata
    rw [length_of_packHeader hdata]
    decide
  rw [WorkloadSharedMemoryWriter.storeHeader]
  obtain hsame | ⟨data, hdata, hroom, hstored⟩ := store_cases w 0 hpos
  · rw [hsame]
    exact h
  · have hsize : headerSize ≤ (Struct.overwrite w.buf 0 data).length := (Struct.length_overwrite hroom).symm ▸ h.length
    have hself := Struct.slice_overwrite_self hroom
    rw [length_of_packHeader hdata] at hself
    have hheader := unpackHeader_of_slice hdata hsize hself
    obtain ⟨read, hread, hfield⟩ := unpackHeader_eq_ok hsize
    have hcounter : w.header.heartbeatSequence = beat := congrArg Nat.cast h.counter
    have hbeat : wrap64 w.header.heartbeatSequence = beat := by
      rw [hcounter]
      exact wrap64_of_lt (Int.natCast_nonneg beat) (by exact_mod_cast h.lt)
    rw [hheader, hbeat] at hread
    cases hread
    rw [hstored]
    exact ⟨h.lt, hsize, h.counter, hfield⟩

theorem Beats.writeHeader (h : w.Beats beat) : w.writeHeader.2.Beats beat := by
  have hmax : max w.heartbeatSequence (beat : Int).toNat = beat := by
    rw [h.counter, Int.toNat_natCast, max_self]
  have hmerged : (w.mergeHeartbeat [.int beat]).Beats beat := ⟨h.lt, h.length, hmax, h.field⟩
  rw [WorkloadSharedMemoryWriter.writeHeader, h.field]
  exact hmerged.storeHeader

theorem Beats.writeSnapshot (h : w.Beats beat) (pools : List WorkloadShmEntry) : (w.writeSnapshot pools).2.Beats beat := by
  have hcollected : ∀ slotMap entryCount, { w with slotMap, entryCount }.Beats beat := fun _ _ =>
    ⟨h.lt, h.length, h.counter, h.field⟩
  have hentries := (hcollected (collectEntriesAndSlotMap pools w.maxEntries).2
    (collectEntriesAndSlotMap pools w.maxEntries).1.length).writeEntries
      (collectEntriesAndSlotMap pools w.maxEntries).1.zipIdx
  unfold WorkloadSharedMemoryWriter.writeSnapshot
  dsimp only
  split
  · rename_i hwrite
    rw [hwrite] at hentries
    exact hentries
  · rename_i hwrite
    rw [hwrite] at hentries
    exact Beats.writeHeader ⟨hentries.lt, hentries.length, hentries.counter, hentries.field⟩

theorem Beats.finishSingleEntry (h : w.Beats beat) (call : SingleWrite)
    (answer : Except PyErr (Option (PDRole × UInt64 × UInt64))) :
    (w.finishSingleEntry call.slot call.instanceId call.endpointId answer).2.Beats beat := by
  unfold WorkloadSharedMemoryWriter.finishSingleEntry
  split
  · exact h
  · exact h
  · rename_i role activeTokens activeKvCache
    have hentry := h.writeEntryAtSlot call.slot
      { instanceId := call.instanceId, endpointId := call.endpointId, role := pdroleToShmRole role, activeTokens,
        activeKvCache }
    split
    · rename_i hwrite
      rw [hwrite] at hentry
      exact hentry
    · rename_i hwrite
      rw [hwrite] at hentry
      exact Beats.writeHeader ⟨hentry.lt, hentry.length, hentry.counter, hentry.field⟩

theorem Beats.writeHeartbeat (h : w.Beats beat) : w.writeHeartbeat.2.Beats ((beat + 1) % 2 ^ 64) := by
  have hlt : (beat + 1) % 2 ^ 64 < 2 ^ 64 := Nat.mod_lt _ (by decide)
  obtain ⟨data, buf, header, hdata, hbuf, -, -, -⟩ := unpackHeader_assign_heartbeat h.length hlt
  have hlength : data.length = 8 := length_of_structPack hdata
  obtain ⟨hroom, rfl⟩ := assign_eq_ok (by omega) hbuf
  have hself := Struct.slice_overwrite_self hroom
  rw [hlength] at hself
  have hstored : w.writeHeartbeat.2 = { w with
      buf := Struct.overwrite w.buf heartbeatOffset data
      heartbeatSequence := (beat + 1) % 2 ^ 64 } := by
    rw [WorkloadSharedMemoryWriter.writeHeartbeat, storeHeartbeat, h.counter, hdata, store, hbuf]
  rw [hstored]
  refine ⟨hlt, (Struct.length_overwrite hroom).symm ▸ h.length, rfl, ?_⟩
  rw [hself]
  exact structUnpack_structPack hdata

end WorkloadSharedMemoryWriter

-- Rewritten with, since a comparison of the two sides would go into the packed bytes.
theorem Tasks.writer_mk (writer : WorkloadSharedMemoryWriter) (waiting : List SingleWrite) :
    (Tasks.mk writer waiting).writer = writer := rfl

theorem Tasks.beats_step {s : Tasks} {n : Nat} (h : s.writer.Beats (n % 2 ^ 64)) (event : Event) :
    (s.step event).writer.Beats ((n + heartbeats [event]) % 2 ^ 64) := by
  cases event with
  | writeHeartbeat =>
      have hcount : heartbeats [.writeHeartbeat] = 1 := rfl
      have hnext := h.writeHeartbeat
      rw [Nat.mod_add_mod] at hnext
      rw [hcount, step, writer_mk]
      exact hnext
  | writeSnapshot pools =>
      have hcount : heartbeats [.writeSnapshot pools] = 0 := rfl
      rw [hcount, Nat.add_zero]
      exact h.writeSnapshot pools
  | writeSingleEntry instanceId endpointId pools =>
      have hcount : heartbeats [.writeSingleEntry instanceId endpointId pools] = 0 := rfl
      rw [hcount, Nat.add_zero, step]
      split
      · exact h.writeSnapshot pools
      · exact h
  | answer task answer =>
      have hcount : heartbeats [.answer task answer] = 0 := rfl
      rw [hcount, Nat.add_zero, step]
      split
      · exact h
      · rename_i call _
        exact h.finishSingleEntry call answer

theorem heartbeats_cons (event : Event) (events : List Event) :
    heartbeats (event :: events) = heartbeats [event] + heartbeats events := by
  rw [heartbeats, heartbeats, heartbeats, ← List.length_append, ← List.filter_append]
  rfl

theorem heartbeats_append (before after : List Event) :
    heartbeats (before ++ after) = heartbeats before + heartbeats after := by
  rw [heartbeats, heartbeats, heartbeats, List.filter_append, List.length_append]

theorem Tasks.beats_run {s : Tasks} {n : Nat} (h : s.writer.Beats (n % 2 ^ 64)) (events : List Event) :
    (s.run events).writer.Beats ((n + heartbeats events) % 2 ^ 64) := by
  induction events generalizing s n with
  | nil => exact h
  | cons event events ih =>
      rw [heartbeats_cons, ← Nat.add_assoc]
      exact ih (beats_step h event)

theorem Tasks.beats_created {size : Nat} (h : headerSize ≤ size) (maxEntries : Nat) :
    (created size maxEntries).writer.Beats 0 := by
  have hlength : headerSize ≤ (List.replicate size (0 : UInt8)).length := by
    rw [List.length_replicate]
    exact h
  have hslice : Struct.slice (List.replicate size (0 : UInt8)) heartbeatOffset 8 = List.replicate 8 0 := by
    unfold headerSize at h
    rw [Struct.slice, heartbeatOffset, List.drop_replicate, List.take_replicate, min_eq_left (by omega)]
  refine ⟨by decide, hlength, rfl, ?_⟩
  rw [created, hslice]
  rfl

theorem Tasks.unpackHeader_run {size maxEntries : Nat} (h : totalSize maxEntries ≤ size) (events : List Event) :
    ∃ header, unpackHeader ((created size maxEntries).run events).writer.buf = .ok header ∧
      header.heartbeatSequence = heartbeats events % 2 ^ 64 := by
  have hbeats := beats_run (n := 0) (beats_created ((Nat.le_add_right _ _).trans h) maxEntries) events
  obtain ⟨header, hheader, hfield⟩ := unpackHeader_eq_ok hbeats.length
  refine ⟨header, hheader, ?_⟩
  have hread := hfield.symm.trans hbeats.field
  rw [Except.ok.injEq, List.cons.injEq, Struct.Value.int.injEq] at hread
  rw [hread.1, Nat.zero_add]
  norm_cast

theorem Tasks.heartbeat_le {size maxEntries : Nat} (h : totalSize maxEntries ≤ size) (before after : List Event)
    (hwrap : heartbeats (before ++ after) < 2 ^ 64) {header header' : WorkloadShmHeader}
    (hheader : unpackHeader ((created size maxEntries).run before).writer.buf = .ok header)
    (hheader' : unpackHeader ((created size maxEntries).run (before ++ after)).writer.buf = .ok header') :
    header.heartbeatSequence ≤ header'.heartbeatSequence := by
  have hle : heartbeats before ≤ heartbeats (before ++ after) := by
    rw [heartbeats_append]
    exact Nat.le_add_right _ _
  obtain ⟨read, hread, hcount⟩ := unpackHeader_run h before
  obtain ⟨read', hread', hcount'⟩ := unpackHeader_run h (before ++ after)
  rw [hheader] at hread
  rw [hheader'] at hread'
  cases hread
  cases hread'
  rw [hcount, hcount']
  norm_cast
  rw [Nat.mod_eq_of_lt (hle.trans_lt hwrap), Nat.mod_eq_of_lt hwrap]
  exact hle

/-- Headers and entries are read back as they were written, each at its own place, the heartbeat's offset is that of its
field, and in every run the buffer holds the number of heartbeats written. -/
theorem roundTrip_and_heartbeat :
    (∀ header : WorkloadShmHeader, Struct.Admits headerFmt header.values →
      ∃ data, packHeader header = .ok data ∧ data.length = headerSize ∧ unpackHeader data = .ok header) ∧
    (∀ (buf : Bytes) (maxEntries slot : Nat) (entry : WorkloadShmEntry), totalSize maxEntries ≤ buf.length →
      slot < maxEntries → Struct.Admits entryFmt entry.values →
      ∃ data buf', packEntry entry = .ok data ∧ assign buf (slotOffset slot) data = .ok buf' ∧
        unpackEntry buf' slot = .ok entry ∧ (∀ other, other ≠ slot → unpackEntry buf' other = unpackEntry buf other) ∧
        unpackHeader buf' = unpackHeader buf) ∧
    (∀ (buf : Bytes) (beat : Nat), headerSize ≤ buf.length → beat < 2 ^ 64 →
      ∃ data buf' header, structPack heartbeatFmt [.int beat] = .ok data ∧ assign buf heartbeatOffset data = .ok buf' ∧
        unpackHeader buf = .ok header ∧ unpackHeader buf' = .ok { header with heartbeatSequence := beat } ∧
        ∀ slot, unpackEntry buf' slot = unpackEntry buf slot) ∧
    (∀ buf : Bytes, headerSize ≤ buf.length → ∃ header, unpackHeader buf = .ok header ∧
      structUnpack heartbeatFmt (Struct.slice buf heartbeatOffset 8) = .ok [.int header.heartbeatSequence]) ∧
    (∀ (size maxEntries : Nat) (events : List Event), totalSize maxEntries ≤ size →
      ∃ header, unpackHeader ((Tasks.created size maxEntries).run events).writer.buf = .ok header ∧
        header.heartbeatSequence = heartbeats events % 2 ^ 64) ∧
    ∀ (size maxEntries : Nat) (before after : List Event) (header header' : WorkloadShmHeader),
      totalSize maxEntries ≤ size → heartbeats (before ++ after) < 2 ^ 64 →
      unpackHeader ((Tasks.created size maxEntries).run before).writer.buf = .ok header →
      unpackHeader ((Tasks.created size maxEntries).run (before ++ after)).writer.buf = .ok header' →
      header.heartbeatSequence ≤ header'.heartbeatSequence := by
  refine ⟨?_, ?_, ?_, ?_, ?_, ?_⟩
  · intro header h
    exact unpackHeader_packHeader h
  · intro buf maxEntries slot entry hsize hslot h
    exact unpackEntry_assign ((slotOffset_le_totalSize hslot).trans hsize) h
  · intro buf beat hsize hbeat
    exact unpackHeader_assign_heartbeat hsize hbeat
  · intro buf hsize
    exact unpackHeader_eq_ok hsize
  · intro size maxEntries events hsize
    exact Tasks.unpackHeader_run hsize events
  · intro size maxEntries before after header header' hsize hwrap hheader hheader'
    exact Tasks.heartbeat_le hsize before after hwrap hheader hheader'

theorem roundTrip_and_heartbeat_twoEntries :
    (∃ data, packHeader ⟨1, 1, 4, 2, 2, 1, 7⟩ = .ok data ∧ unpackHeader data = .ok ⟨1, 1, 4, 2, 2, 1, 7⟩) ∧
    (∃ data buf', packEntry ⟨1, 7, 0, 0, 0⟩ = .ok data ∧
      assign (List.replicate (totalSize 2) 0) (slotOffset 1) data = .ok buf' ∧ unpackEntry buf' 1 = .ok ⟨1, 7, 0, 0, 0⟩) ∧
    (∃ data buf' header, structPack heartbeatFmt [.int 8] = .ok data ∧
      assign (List.replicate headerSize 0) heartbeatOffset data = .ok buf' ∧ unpackHeader buf' = .ok header ∧
      header.heartbeatSequence = 8) ∧
    ∃ header header', unpackHeader ((Tasks.created (totalSize 2) 2).run [.writeHeartbeat]).writer.buf = .ok header ∧
      unpackHeader ((Tasks.created (totalSize 2) 2).run [.writeHeartbeat, .writeHeartbeat]).writer.buf = .ok header' ∧
      header.heartbeatSequence ≤ header'.heartbeatSequence := by
  obtain ⟨hheader, hentry, hbeat, -, hrun, hgrow⟩ := roundTrip_and_heartbeat
  have hheaderFits : Struct.Admits headerFmt (WorkloadShmHeader.values ⟨1, 1, 4, 2, 2, 1, 7⟩) := by
    norm_num [Struct.Admits, Struct.Code.Fits, headerFmt, WorkloadShmHeader.values]
  have hentryFits : Struct.Admits entryFmt (WorkloadShmEntry.values ⟨1, 7, 0, 0, 0⟩) := by
    norm_num [Struct.Admits, Struct.Code.Fits, entryFmt, WorkloadShmEntry.values]
  refine ⟨?_, ?_, ?_, ?_⟩
  · obtain ⟨data, hpack, -, hunpack⟩ := hheader ⟨1, 1, 4, 2, 2, 1, 7⟩ hheaderFits
    exact ⟨data, hpack, hunpack⟩
  · obtain ⟨data, buf', hpack, hassign, hunpack, -⟩ :=
      hentry (List.replicate (totalSize 2) 0) 2 1 ⟨1, 7, 0, 0, 0⟩ List.length_replicate.ge (by decide) hentryFits
    exact ⟨data, buf', hpack, hassign, hunpack⟩
  · obtain ⟨data, buf', header, hpack, hassign, -, hunpack, -⟩ :=
      hbeat (List.replicate headerSize 0) 8 List.length_replicate.ge (by decide)
    exact ⟨data, buf', _, hpack, hassign, hunpack, rfl⟩
  · obtain ⟨header, hunpack, -⟩ := hrun (totalSize 2) 2 [.writeHeartbeat] (le_refl _)
    obtain ⟨header', hunpack', -⟩ := hrun (totalSize 2) 2 [.writeHeartbeat, .writeHeartbeat] (le_refl _)
    exact ⟨header, header', hunpack, hunpack',
      hgrow (totalSize 2) 2 [.writeHeartbeat] [.writeHeartbeat] header header' (le_refl _) (by decide) hunpack hunpack'⟩

end PyMotor.ShmLayout
