import PyMotor.Worker.Lemmas.Fetch
import PyMotor.Worker.System

/-!
# Versions and lists
-/

namespace PyMotor

open Lib

/-! ## The version of the writer -/

namespace WorkloadSharedMemoryWriter

variable {w : WorkloadSharedMemoryWriter}

/-- The version does not go down and the header does not run ahead of it. -/
structure Follows (w w' : WorkloadSharedMemoryWriter) : Prop where
  version : w.instanceVersion ≤ w'.instanceVersion
  header : w.bufHeader.instanceVersion ≤ w.instanceVersion →
    w'.bufHeader.instanceVersion ≤ w'.instanceVersion

theorem Follows.refl (w : WorkloadSharedMemoryWriter) : Follows w w := ⟨le_rfl, id⟩

theorem Follows.trans {w₁ w₂ w₃ : WorkloadSharedMemoryWriter} (h₁ : Follows w₁ w₂) (h₂ : Follows w₂ w₃) :
    Follows w₁ w₃ := ⟨h₁.version.trans h₂.version, fun h => h₂.header (h₁.header h)⟩

theorem writeEntries_frame (es : List (WorkloadShmEntry × Nat)) (w : WorkloadSharedMemoryWriter) :
    ∃ bufEntries, (w.writeEntries es).2 = { w with bufEntries := bufEntries } := by
  induction es generalizing w with
  | nil => exact ⟨w.bufEntries, rfl⟩
  | cons e es ih =>
      simp only [writeEntries, writeEntryAtSlot]
      cases packEntry e.1 with
      | error _ => exact ⟨w.bufEntries, rfl⟩
      | ok data => exact ih _

theorem follows_writeHeader (w : WorkloadSharedMemoryWriter) : Follows w w.writeHeader.2 := by
  simp only [writeHeader, packHeader]
  split
  · rename_i heq
    split at heq
    · cases heq
    · exact ⟨le_rfl, id⟩
  · rename_i heq
    split at heq
    · cases heq
      exact ⟨le_rfl, fun _ => Nat.mod_le _ _⟩
    · cases heq

theorem follows_writeSnapshot (w : WorkloadSharedMemoryWriter) (m : InstanceManager) :
    Follows w (w.writeSnapshot m).2 := by
  unfold writeSnapshot
  have hframe := writeEntries_frame (collectEntriesAndSlotMap m w.maxEntries).1.zipIdx
    { w with
      slotMap := (collectEntriesAndSlotMap m w.maxEntries).2
      entryCount := (collectEntriesAndSlotMap m w.maxEntries).1.length }
  dsimp only
  rcases hw : writeEntries _ _ with ⟨res, w'⟩
  rw [hw] at hframe
  obtain ⟨buf, rfl⟩ := hframe
  cases res with
  | error e => exact ⟨le_rfl, id⟩
  | ok _ =>
      refine Follows.trans ?_ (follows_writeHeader _)
      exact ⟨Nat.le_succ _, fun h => h.trans (Nat.le_succ _)⟩

theorem follows_writeSingleEntry (w : WorkloadSharedMemoryWriter) (m : InstanceManager) (iid eid : Int) :
    Follows w (w.writeSingleEntry m iid eid).2.1 := by
  unfold writeSingleEntry
  split
  · exact follows_writeSnapshot w m
  · split
    · exact Follows.refl w
    · exact Follows.refl w
    · rename_i slot _ role workload m' _
      simp only [writeEntryAtSlot]
      cases packEntry ⟨iid, eid, pdroleToShmRole role, workload.activeTokens, workload.activeKvCache⟩ with
      | error _ => exact Follows.refl w
      | ok data =>
          refine Follows.trans ?_ (follows_writeHeader _)
          exact ⟨le_rfl, id⟩

end WorkloadSharedMemoryWriter

open WorkloadSharedMemoryWriter in
theorem SchedulerServer.follows_handle {s : SchedulerServer} (hi : s.instanceManager.Inv)
    (request : SchedulerRequest) :
    Follows s.workloadWriter (s.handle request).workloadWriter ∧
    ∀ v ∈ (s.handle request).published, v ∈ s.published ∨ v ≤ (s.handle request).workloadWriter.instanceVersion := by
  have hmove := move_handle hi request
  generalize s.handle request = s' at hmove ⊢
  cases hmove with
  | idle => exact ⟨Follows.refl _, fun v hv => Or.inl hv⟩
  | quiet _ instances event _ _ => exact ⟨Follows.refl _, fun v hv => Or.inl hv⟩
  | refreshed _ instances event published _ _ hp =>
      exact ⟨follows_writeSnapshot _ _, fun v hv => (hp v hv).imp_right le_of_eq⟩
  | workload iid eid m hm => exact ⟨follows_writeSingleEntry _ m iid eid, fun v hv => Or.inl hv⟩

/-! ## Lists up to workloads -/

namespace Instance

@[simp] theorem initWorkload_setEndpointWorkload (x : Instance) (pod : String) (key : Int) (w : Workload) :
    (x.setEndpointWorkload pod key w).initWorkload = x.initWorkload := by
  unfold initWorkload setEndpointWorkload
  congr 1
  dsimp only
  apply Dict.mapValues_adjust
  intro eps
  apply Dict.mapValues_adjust
  intro ep
  rfl

end Instance

namespace SchedulerInstanceCache

theorem idle_getInstances_patch (c : SchedulerInstanceCache) (iid eid : Int) (role role' : PDRole)
    (activeTokens activeKvCache : ℚ) :
    ((c.patchWorkloadFromShm iid eid role activeTokens activeKvCache).getInstances role').map Instance.initWorkload =
      (c.getInstances role').map Instance.initWorkload := by
  unfold getInstances
  rw [instanceCache_patch, List.map_map, List.map_map]
  apply List.map_congr_left
  intro r _
  simp only [Function.comp]
  unfold patchWorkloadFromShm
  split
  · rfl
  · split
    · rfl
    · refine (Heap.read_modify_congr (g := Instance.initWorkload) ?_ _ r).trans ?_
      · intro x
        rfl
      · exact Heap.read_modify_congr (fun x => x.initWorkload_setEndpointWorkload _ _ _) _ r

/-- What reading the shared memory leaves of the cache. -/
structure SameList (c c' : SchedulerInstanceCache) : Prop where
  list : ∀ role, (c'.getInstances role).map Instance.initWorkload = (c.getInstances role).map Instance.initWorkload
  valid : Valid c → Valid c'

theorem SameList.refl (c : SchedulerInstanceCache) : SameList c c := ⟨fun _ => rfl, id⟩

theorem sameList_foldl_patchEntry (entries : List WorkloadShmEntry) (c : SchedulerInstanceCache) :
    SameList c (entries.foldl (·.patchEntry ·) c) := by
  induction entries generalizing c with
  | nil => exact SameList.refl c
  | cons entry entries ih =>
      have htail := ih (c.patchEntry entry)
      refine ⟨fun role => (htail.list role).trans (idle_getInstances_patch c _ _ _ role _ _), fun h => htail.valid ?_⟩
      exact h.step (.patch entry.instanceId entry.endpointId (shmRoleToPdrole entry.role) entry.activeTokens
        entry.activeKvCache)

theorem SameList.holdsRole {c c' : SchedulerInstanceCache} (h : SameList c c') {m : InstanceManager} {role : PDRole} :
    WorkerSystem.HoldsRole c' m role ↔ WorkerSystem.HoldsRole c m role := by
  unfold WorkerSystem.HoldsRole
  rw [h.list role]

theorem SameList.holds {c c' : SchedulerInstanceCache} (h : SameList c c') {m : InstanceManager} :
    WorkerSystem.Holds c' m ↔ WorkerSystem.Holds c m := forall_congr' fun _ => h.holdsRole

end SchedulerInstanceCache

/-! ## Checking the version -/

namespace AsyncSchedulerClient

open SchedulerInstanceCache

theorem readAndPatchCache_spec (reader : WorkloadSharedMemoryReader) (buf : WorkloadSharedMemoryWriter) (now : ℚ)
    (c : SchedulerInstanceCache) :
    (∀ v, (reader.readAndPatchCache buf now c).1.1 = some v → v = buf.bufHeader.instanceVersion) ∧
    SameList c (reader.readAndPatchCache buf now c).2.2 := by
  unfold WorkloadSharedMemoryReader.readAndPatchCache
  split
  · exact ⟨fun v hv => (nomatch hv), SameList.refl c⟩
  · split
    · exact ⟨fun v hv => (nomatch hv), SameList.refl c⟩
    · exact ⟨fun v hv => (Option.some.inj hv).symm, sameList_foldl_patchEntry _ c⟩

theorem fresh_of_readAndPatchCache {reader : WorkloadSharedMemoryReader} {buf : WorkloadSharedMemoryWriter} {now : ℚ}
    {c : SchedulerInstanceCache} {v : Nat} (h : (reader.readAndPatchCache buf now c).1 = (some v, false)) :
    buf.bufHeader.sequence ≠ 0 ∧ buf.bufHeader.entryCount ≤ buf.bufHeader.maxEntries ∧
      (buf.bufHeader.heartbeatSequence = reader.lastHeartbeatValue → 0 < reader.lastHeartbeatTime →
        now - reader.lastHeartbeatTime ≤ heartbeatStaleSec) := by
  unfold WorkloadSharedMemoryReader.readAndPatchCache at h
  split at h
  · cases h
  · rename_i hseq
    split at h
    · cases h
    · rename_i hcount
      refine ⟨hseq, Nat.le_of_not_lt hcount, fun hbeat hpos => ?_⟩
      have hstale := of_decide_eq_false (congrArg Prod.snd h)
      rw [if_neg (by simpa using hbeat)] at hstale
      exact not_lt.mp fun hlt => hstale ⟨hpos, hlt⟩

/-- The check asks for a fetch of the version in the header, or goes on; the recorded version changes only when
there was none and the segment is fresh. -/
theorem checkVersion_spec (client : AsyncSchedulerClient) (buf : WorkloadSharedMemoryWriter) (now : ℚ) :
    (∀ v, (client.checkVersion buf now).1 = some v → v = buf.bufHeader.instanceVersion) ∧
    SameList client.cache (client.checkVersion buf now).2.cache ∧
    ((client.checkVersion buf now).2.lastInstanceVersion = client.lastInstanceVersion ∨
      client.lastInstanceVersion = none ∧
      (∃ reader c v, client.workloadReader = some reader ∧ (reader.readAndPatchCache buf now c).1 = (some v, false)) ∧
      (client.checkVersion buf now).2.lastInstanceVersion = some buf.bufHeader.instanceVersion) := by
  unfold checkVersion
  cases hreader : client.workloadReader with
  | none => exact ⟨fun v hv => (nomatch hv), SameList.refl _, Or.inl rfl⟩
  | some reader =>
      obtain ⟨hversion, hlist⟩ := readAndPatchCache_spec reader buf now client.cache
      rcases hread : reader.readAndPatchCache buf now client.cache with ⟨⟨version, stale⟩, reader', cache⟩
      rw [hread] at hversion hlist
      simp only [hread] at hversion hlist ⊢
      cases stale with
      | true => exact ⟨hversion, hlist, Or.inl rfl⟩
      | false =>
          cases version with
          | none => exact ⟨fun v hv => (nomatch hv), hlist, Or.inl rfl⟩
          | some current =>
              have hcurrent := hversion current rfl
              simp only [Bool.false_eq_true, ↓reduceIte]
              split
              · exact ⟨fun v hv => hversion v hv, hlist, Or.inl rfl⟩
              · rename_i hcond
                refine ⟨fun v hv => (nomatch hv), hlist, ?_⟩
                cases hlast : client.lastInstanceVersion with
                | none =>
                    exact Or.inr ⟨rfl, ⟨reader, client.cache, current, rfl, congrArg Prod.fst hread⟩,
                      congrArg some hcurrent⟩
                | some last =>
                    rw [hlast] at hcond
                    have heq : last = current := by simpa using hcond
                    exact Or.inl (congrArg some heq.symm)

end AsyncSchedulerClient

end PyMotor
