import PyMotor.Pool.Lemmas.PooledAll
import PyMotor.Scheduler.Spec

/-!
# Writing a snapshot
-/

namespace PyMotor

open Lib

namespace WorkloadSharedMemoryWriter

/-- The entry's ids fit their fields. -/
def EntryFits (entry : WorkloadShmEntry) : Prop := FitsInt32 entry.instanceId ∧ FitsInt32 entry.endpointId

theorem packEntry_fits {entry : WorkloadShmEntry} (h : EntryFits entry) : packEntry entry = .ok entry := if_pos h

theorem writeEntries_spec {es : List (WorkloadShmEntry × Nat)} (h : ∀ e ∈ es, EntryFits e.1)
    (hn : (es.map Prod.snd).Nodup) (w : WorkloadSharedMemoryWriter) :
    (∃ bufEntries, w.writeEntries es = (.ok (), { w with bufEntries := bufEntries }) ∧
      (∀ e ∈ es, bufEntries.get? e.2 = some e.1) ∧
      ∀ slot, slot ∉ es.map Prod.snd → bufEntries.get? slot = w.bufEntries.get? slot) := by
  induction es generalizing w with
  | nil => exact ⟨w.bufEntries, rfl, by simp, fun _ _ => rfl⟩
  | cons e es ih =>
      obtain ⟨entry, slot⟩ := e
      rw [List.map_cons, List.nodup_cons] at hn
      have hpack := packEntry_fits (h (entry, slot) (List.mem_cons_self ..))
      obtain ⟨buf, hw, hin, hout⟩ := ih (fun e he => h e (List.mem_cons_of_mem _ he)) hn.2
        { w with bufEntries := w.bufEntries.set slot entry }
      refine ⟨buf, by simp only [writeEntries, writeEntryAtSlot, hpack]; exact hw, ?_, ?_⟩
      · intro e he
        rcases List.mem_cons.mp he with rfl | he
        · rw [hout slot hn.1]
          exact Dict.get?_set_self _ _ _
        · exact hin e he
      · intro slot' hs
        rw [List.map_cons, List.mem_cons, not_or] at hs
        rw [hout slot' hs.2]
        exact Dict.get?_set_ne hs.1

theorem writeHeader_spec {w : WorkloadSharedMemoryWriter} (hseq : w.sequence < 2 ^ 63)
    (hcount : w.entryCount < 2 ^ 32) (hmax : w.maxEntries < 2 ^ 32) :
    ∃ heartbeat, w.writeHeader = (.ok (), { w with
      heartbeatSequence := heartbeat
      bufHeader := ⟨w.sequence, w.entryCount, w.maxEntries, w.instanceVersion % 2 ^ 64, heartbeat % 2 ^ 64⟩ }) := by
  simp only [writeHeader, packHeader, hseq, hcount, hmax, and_self, ↓reduceIte]
  exact ⟨_, rfl⟩

/-- What a snapshot leaves in the writer and in the buffer. -/
structure Snapshot (m : InstanceManager) (w w' : WorkloadSharedMemoryWriter) : Prop where
  maxEntries : w'.maxEntries = w.maxEntries
  version : w'.instanceVersion = w.instanceVersion + 1
  sequence : w'.sequence = w.sequence + 1
  entryCount : w'.entryCount = (m.workloadEntries.take w.maxEntries).length
  slotMap : w'.slotMap = (collectEntriesAndSlotMap m w.maxEntries).2
  headerVersion : w'.bufHeader.instanceVersion = w'.instanceVersion % 2 ^ 64
  headerCount : w'.bufHeader.entryCount = (m.workloadEntries.take w.maxEntries).length
  headerSequence : w'.bufHeader.sequence = w.sequence + 1
  headerMax : w'.bufHeader.maxEntries = w.maxEntries
  entries : ∀ slot entry, (m.workloadEntries.take w.maxEntries)[slot]? = some entry →
    w'.bufEntries.get? slot = some entry

theorem writeSnapshot_spec {m : InstanceManager} {w : WorkloadSharedMemoryWriter}
    (h : ∀ entry ∈ m.workloadEntries.take w.maxEntries, EntryFits entry) (hseq : w.sequence + 1 < 2 ^ 63)
    (hmax : w.maxEntries < 2 ^ 32) : ∃ w', w.writeSnapshot m = (.ok (), w') ∧ Snapshot m w w' := by
  have hfits : ∀ e ∈ (m.workloadEntries.take w.maxEntries).zipIdx, EntryFits e.1 :=
    fun e he => h _ (List.fst_mem_of_mem_zipIdx he)
  have hnodup : ((m.workloadEntries.take w.maxEntries).zipIdx.map Prod.snd).Nodup := by
    rw [List.zipIdx_map_snd]
    exact List.nodup_range'
  obtain ⟨buf, hw, hin, -⟩ := writeEntries_spec hfits hnodup
    { w with
      slotMap := (collectEntriesAndSlotMap m w.maxEntries).2
      entryCount := (m.workloadEntries.take w.maxEntries).length }
  have hlen : (m.workloadEntries.take w.maxEntries).length < 2 ^ 32 :=
    lt_of_le_of_lt (List.length_take_le ..) hmax
  have hw' : ∃ w₁ : WorkloadSharedMemoryWriter, w.writeSnapshot m = w₁.writeHeader ∧ w₁ = { w with
      slotMap := (collectEntriesAndSlotMap m w.maxEntries).2
      entryCount := (m.workloadEntries.take w.maxEntries).length
      bufEntries := buf
      sequence := w.sequence + 1
      instanceVersion := w.instanceVersion + 1 } := by
    unfold writeSnapshot
    simp only [collectEntriesAndSlotMap] at hw ⊢
    rw [hw]
    exact ⟨_, rfl, rfl⟩
  obtain ⟨w₁, hsnap, rfl⟩ := hw'
  obtain ⟨heartbeat, hh⟩ := writeHeader_spec (w := { w with
      slotMap := (collectEntriesAndSlotMap m w.maxEntries).2
      entryCount := (m.workloadEntries.take w.maxEntries).length
      bufEntries := buf
      sequence := w.sequence + 1
      instanceVersion := w.instanceVersion + 1 }) hseq hlen hmax
  refine ⟨_, hsnap.trans hh, rfl, rfl, rfl, rfl, rfl, rfl, rfl, rfl, rfl, ?_⟩
  intro slot entry he
  exact hin (entry, slot) (List.mem_zipIdx_iff_getElem?.mpr he)

theorem fits_of_writeEntries {es : List (WorkloadShmEntry × Nat)} {w : WorkloadSharedMemoryWriter}
    (h : (w.writeEntries es).1 = .ok ()) : ∀ e ∈ es, EntryFits e.1 := by
  induction es generalizing w with
  | nil => exact fun e he => absurd he List.not_mem_nil
  | cons e es ih =>
      obtain ⟨entry, slot⟩ := e
      by_cases hfits : EntryFits entry
      · simp only [writeEntries, writeEntryAtSlot, packEntry_fits hfits] at h
        exact List.forall_mem_cons.mpr ⟨hfits, ih h⟩
      · have hpack : packEntry entry = .error .structError := if_neg hfits
        simp only [writeEntries, writeEntryAtSlot, hpack] at h
        cases h

theorem fits_of_writeHeader {w : WorkloadSharedMemoryWriter} (h : w.writeHeader.1 = .ok ()) :
    w.sequence < 2 ^ 63 ∧ w.maxEntries < 2 ^ 32 := by
  by_cases hfits : w.sequence < 2 ^ 63 ∧ w.entryCount < 2 ^ 32 ∧ w.maxEntries < 2 ^ 32
  · exact ⟨hfits.1, hfits.2.2⟩
  · rw [writeHeader, packHeader, if_neg hfits] at h
    cases h

theorem writeSnapshot_ok_iff {m : InstanceManager} {w : WorkloadSharedMemoryWriter} :
    (w.writeSnapshot m).1 = .ok () ↔ w.sequence + 1 < 2 ^ 63 ∧ w.maxEntries < 2 ^ 32 ∧
      ∀ entry ∈ m.workloadEntries.take w.maxEntries, EntryFits entry := by
  constructor
  · intro h
    have hnodup : ((m.workloadEntries.take w.maxEntries).zipIdx.map Prod.snd).Nodup := by
      rw [List.zipIdx_map_snd]
      exact List.nodup_range'
    unfold writeSnapshot at h
    simp only [collectEntriesAndSlotMap] at h
    -- The loop goes through, and then the header.
    split at h
    · cases h
    · rename_i w₁ hloop
      have hfits := fits_of_writeEntries (congrArg Prod.fst hloop)
      obtain ⟨buf, hw, -, -⟩ := writeEntries_spec hfits hnodup { w with
        slotMap := (collectEntriesAndSlotMap m w.maxEntries).2
        entryCount := (m.workloadEntries.take w.maxEntries).length }
      obtain rfl : _ = w₁ := congrArg Prod.snd (hw.symm.trans hloop)
      obtain ⟨hseq, hmax⟩ := fits_of_writeHeader h
      refine ⟨hseq, hmax, fun entry he => ?_⟩
      obtain ⟨slot, hslot⟩ := List.mem_iff_getElem?.mp he
      exact hfits (entry, slot) (List.mem_zipIdx_iff_getElem?.mpr hslot)
  · rintro ⟨hseq, hmax, hfits⟩
    obtain ⟨w', hw, -⟩ := writeSnapshot_spec hfits hseq hmax
    rw [hw]

end WorkloadSharedMemoryWriter

theorem InstanceManager.workloadEntries_fit {m : InstanceManager}
    (h : ∀ role, ∀ r ∈ (m.rolePool role).values, (m.obj r).FitsShm) :
    ∀ entry ∈ m.workloadEntries, WorkloadSharedMemoryWriter.EntryFits entry := by
  intro entry he
  simp only [workloadEntries, List.mem_flatMap, List.mem_map] at he
  obtain ⟨role, _, r, hr, ep, hep, rfl⟩ := he
  obtain ⟨hid, heps⟩ := h role r hr
  exact ⟨hid, heps ep hep⟩

theorem Instance.ignoresWorkload_fitsShm : InstanceManager.IgnoresWorkload Instance.FitsShm := by
  have key : ∀ x y : Instance, y.id = x.id →
      (∀ ep ∈ y.endpointList, ∃ ep' ∈ x.endpointList, ep'.id = ep.id) → x.FitsShm → y.FitsShm := by
    intro x y hid heps hx
    refine ⟨hid ▸ hx.1, fun ep hep => ?_⟩
    obtain ⟨ep', hep', he⟩ := heps ep hep
    exact he ▸ hx.2 ep' hep'
  constructor
  · intro x
    refine key x _ rfl fun ep hep => ?_
    obtain ⟨pod, key, hat⟩ := Instance.mem_endpointList_iff.mp hep
    rw [Instance.endpointAt_initWorkload] at hat
    obtain ⟨ep', hat', rfl⟩ := Option.map_eq_some_iff.mp hat
    exact ⟨ep', Instance.mem_endpointList_iff.mpr ⟨pod, key, hat'⟩, rfl⟩
  · intro x change
    exact key x _ rfl fun ep hep => ⟨ep, hep, rfl⟩
  · intro x pod key' change
    refine key x _ rfl fun ep hep => ?_
    obtain ⟨pod', key'', hat⟩ := Instance.mem_endpointList_iff.mp hep
    rw [Instance.endpointAt_addEndpointWorkload] at hat
    split at hat
    · obtain ⟨ep', hat', rfl⟩ := Option.map_eq_some_iff.mp hat
      exact ⟨ep', Instance.mem_endpointList_iff.mpr ⟨pod', key'', hat'⟩, rfl⟩
    · exact ⟨ep, Instance.mem_endpointList_iff.mpr ⟨pod', key'', hat⟩, rfl⟩

end PyMotor
