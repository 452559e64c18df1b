import PyMotor.Pool.Lemmas.Invariant
import PyMotor.Pool.Lemmas.Outcome
import PyMotor.Scheduler.Lemmas.Allocate
import PyMotor.Scheduler.Lemmas.Entries

/-!
# The shared memory along a run

`Buffered` says that the buffer holds the entries of the pools in order. A snapshot establishes it, and the
incremental write keeps it, since a workload change touches one entry and the slot map knows its place.
-/

namespace PyMotor

open Lib InstanceManager

variable {m m' : InstanceManager} {w : WorkloadSharedMemoryWriter}

/-! ## The buffer -/

/-- Header, slots and slot map are those of the entries. -/
structure Buffered (entries : List WorkloadShmEntry) (w : WorkloadSharedMemoryWriter) : Prop where
  size : entries.length ≤ w.maxEntries
  sequence : w.bufHeader.sequence ≠ 0
  headerCount : w.bufHeader.entryCount = entries.length
  headerMax : w.bufHeader.maxEntries = w.maxEntries
  entryCount : w.entryCount = entries.length
  slots : ∀ i entry, entries[i]? = some entry → w.bufEntries.get? i = some entry
  slotMap : ∀ key i, w.slotMap.get? key = some i ↔ ∃ entry, entries[i]? = some entry ∧ entry.key = key

theorem get?_slotMap {entries : List WorkloadShmEntry} (hn : (entries.map WorkloadShmEntry.key).Nodup)
    {key : Int × Int} {i : Nat} :
    (entries.zipIdx.foldl (fun map e => map.set (e.1.instanceId, e.1.endpointId) e.2)
      (Dict.empty : Dict (Int × Int) Nat)).get? key = some i ↔
        ∃ entry, entries[i]? = some entry ∧ entry.key = key := by
  have hfold : entries.zipIdx.foldl (fun map e => map.set (e.1.instanceId, e.1.endpointId) e.2)
      (Dict.empty : Dict (Int × Int) Nat) = Dict.empty.update (entries.zipIdx.map fun e => (e.1.key, e.2)) := by
    rw [Dict.update, List.foldl_map]
    rfl
  have hn' : ((entries.zipIdx.map fun e => (e.1.key, e.2)).map Prod.fst).Nodup := by
    have heq : (entries.zipIdx.map fun e => (e.1.key, e.2)).map Prod.fst = entries.map WorkloadShmEntry.key := by
      rw [List.map_map]
      change entries.zipIdx.map (WorkloadShmEntry.key ∘ Prod.fst) = _
      rw [← List.map_map, List.zipIdx_map_fst]
    rw [heq]
    exact hn
  rw [hfold, Dict.get?_update_iff hn']
  simp only [Dict.get?_empty, reduceCtorEq, and_false, or_false, List.mem_map, Prod.mk.injEq, Prod.exists,
    List.mem_zipIdx_iff_getElem?]
  constructor
  · rintro ⟨entry, j, he, hk, rfl⟩
    exact ⟨entry, he, hk⟩
  · rintro ⟨entry, he, hk⟩
    exact ⟨entry, i, he, hk, rfl⟩

open WorkloadSharedMemoryWriter in
theorem Snapshot.buffered {w' : WorkloadSharedMemoryWriter} (h : Snapshot m w w')
    (hn : (m.workloadEntries.map WorkloadShmEntry.key).Nodup) (hsize : m.workloadEntries.length ≤ w.maxEntries) :
    Buffered m.workloadEntries w' := by
  have htake : m.workloadEntries.take w.maxEntries = m.workloadEntries := List.take_of_length_le hsize
  refine ⟨?_, ?_, ?_, ?_, ?_, ?_, ?_⟩
  · rw [h.maxEntries]
    exact hsize
  · rw [h.headerSequence]
    exact Nat.succ_ne_zero _
  · rw [h.headerCount, htake]
  · rw [h.headerMax, h.maxEntries]
  · rw [h.entryCount, htake]
  · intro i entry he
    exact h.entries i entry (by rw [htake]; exact he)
  · intro key i
    rw [h.slotMap, collectEntriesAndSlotMap, htake]
    exact get?_slotMap hn

/-- The counters fit their fields for one more write. -/
structure Writable (w : WorkloadSharedMemoryWriter) : Prop where
  sequence : w.sequence + 1 < 2 ^ 63
  maxEntries : w.maxEntries < 2 ^ 32

/-- One write: the counter goes up by at most one, the size of the buffer stays. -/
structure WroteOnce (w w' : WorkloadSharedMemoryWriter) : Prop where
  sequence : w'.sequence ≤ w.sequence + 1
  maxEntries : w'.maxEntries = w.maxEntries

theorem Buffered.writeSlot {entries entries' : List WorkloadShmEntry} (h : Buffered entries w) (hw : Writable w)
    (hn : (entries.map WorkloadShmEntry.key).Nodup)
    (hkeys : entries'.map WorkloadShmEntry.key = entries.map WorkloadShmEntry.key) {slot : Nat}
    {entry : WorkloadShmEntry} (he : entries'[slot]? = some entry)
    (hothers : ∀ (i : Nat) (e : WorkloadShmEntry), entries[i]? = some e → e.key ≠ entry.key → entries'[i]? = some e) :
    ∃ w', ({ w with
        bufEntries := w.bufEntries.set slot entry
        sequence := w.sequence + 1 } : WorkloadSharedMemoryWriter).writeHeader = (.ok (), w') ∧
      Buffered entries' w' ∧ WroteOnce w w' := by
  have hlen : entries'.length = entries.length := by
    have := congrArg List.length hkeys
    simpa using this
  have hcount : w.entryCount < 2 ^ 32 := by
    rw [h.entryCount]
    exact lt_of_le_of_lt h.size hw.maxEntries
  have hkey : ∀ i : Nat, (entries'[i]?).map WorkloadShmEntry.key = (entries[i]?).map WorkloadShmEntry.key := by
    intro i
    rw [← List.getElem?_map, ← List.getElem?_map, hkeys]
  obtain ⟨heartbeat, hh⟩ := WorkloadSharedMemoryWriter.writeHeader_spec
    (w := { w with bufEntries := w.bufEntries.set slot entry, sequence := w.sequence + 1 })
    hw.sequence hcount hw.maxEntries
  refine ⟨_, hh, ⟨?_, Nat.succ_ne_zero _, ?_, rfl, ?_, ?_, ?_⟩, le_rfl, rfl⟩
  · rw [hlen]
    exact h.size
  · exact h.entryCount.trans hlen.symm
  · exact h.entryCount.trans hlen.symm
  · intro i e hi
    dsimp only
    rw [Dict.get?_set]
    split
    · rename_i hs
      rw [hs, he] at hi
      exact hi
    · rename_i hs
      -- Another slot has another key, and its entry is the old one.
      have hne : e.key ≠ entry.key := by
        intro heq
        have hnodup : (entries'.map WorkloadShmEntry.key).Nodup := hkeys ▸ hn
        have hi' : (entries'.map WorkloadShmEntry.key)[i]? = some entry.key := by
          rw [List.getElem?_map, hi, Option.map_some, heq]
        have hslot' : (entries'.map WorkloadShmEntry.key)[slot]? = some entry.key := by
          rw [List.getElem?_map, he, Option.map_some]
        exact hs ((List.getElem?_inj (List.getElem?_eq_some_iff.mp hi').1 hnodup).mp (hi'.trans hslot'.symm))
      have hold := hkey i
      rw [hi] at hold
      obtain ⟨e₀, he₀, hk₀⟩ := Option.map_eq_some_iff.mp hold.symm
      have hsame := hothers i e₀ he₀ (hk₀ ▸ hne)
      rw [hi] at hsame
      cases hsame
      exact h.slots i e he₀
  · intro key i
    rw [h.slotMap]
    have hold := hkey i
    constructor
    · rintro ⟨e, hi, rfl⟩
      rw [hi] at hold
      obtain ⟨e', he', hk'⟩ := Option.map_eq_some_iff.mp hold
      exact ⟨e', he', hk'⟩
    · rintro ⟨e, hi, rfl⟩
      rw [hi] at hold
      obtain ⟨e', he', hk'⟩ := Option.map_eq_some_iff.mp hold.symm
      exact ⟨e', he', hk'⟩

/-! ## The pools of the server -/

namespace SchedulerServer

/-- What the requests keep of the pools. -/
structure PoolsInv (roleOf : Int → PDRole) (m : InstanceManager) : Prop where
  inv : m.Inv
  noStale : m.NoStale
  pooled : PooledAll (Admissible roleOf) m
  gathered : m.AllGathered

variable {roleOf : Int → PDRole} {s : SchedulerServer}

theorem poolsInv_init : PoolsInv roleOf {} := ⟨inv_init, noStale_init, pooledAll_init, allGathered_init⟩

theorem ignoresWorkload_admissible : IgnoresWorkload (Admissible roleOf) where
  initWorkload x h :=
    ⟨h.1, Instance.ignoresWorkload_uniqueEndpoints.initWorkload x h.2.1,
      Instance.ignoresWorkload_fitsShm.initWorkload x h.2.2⟩
  addGathered x change h :=
    ⟨h.1, Instance.ignoresWorkload_uniqueEndpoints.addGathered x change h.2.1,
      Instance.ignoresWorkload_fitsShm.addGathered x change h.2.2⟩
  addEndpointWorkload x pod key change h :=
    ⟨h.1, Instance.ignoresWorkload_uniqueEndpoints.addEndpointWorkload x pod key change h.2.1,
      Instance.ignoresWorkload_fitsShm.addEndpointWorkload x pod key change h.2.2⟩

theorem PoolsInv.unique (h : PoolsInv roleOf m) : PooledAll Instance.UniqueEndpoints m :=
  h.pooled.mono fun _ hx => hx.2.1

theorem PoolsInv.fits (h : PoolsInv roleOf m) :
    ∀ entry ∈ m.workloadEntries, WorkloadSharedMemoryWriter.EntryFits entry := by
  apply workloadEntries_fit
  intro role r hr
  obtain ⟨id, hid⟩ := Dict.mem_values_iff.mp hr
  exact (h.pooled.rolePool role id r hid).2.2

theorem PoolsInv.nodup (h : PoolsInv roleOf m) : (m.workloadEntries.map WorkloadShmEntry.key).Nodup :=
  nodup_workloadEntries h.inv h.noStale h.unique

theorem PoolsInv.roleKept (h : PoolsInv roleOf m) {event : EventType} {instances : List Instance}
    (hl : event ≠ .del → ∀ x ∈ instances, Admissible roleOf x) : RoleKept m (.refresh event instances) :=
  roleKept_of_ownsRole h.inv (h.pooled.mono fun _ hx => hx.1) fun hne x hx => (hl hne x hx).1

theorem PoolsInv.refresh (h : PoolsInv roleOf m) {event : EventType} {instances : List Instance}
    (hl : event ≠ .del → ∀ x ∈ instances, Admissible roleOf x) : PoolsInv roleOf (m.refresh event instances).2 where
  inv := h.inv.step (.refresh event instances)
  noStale := h.noStale.step h.inv (h.roleKept hl)
  pooled := h.pooled.refresh ignoresWorkload_admissible h.inv event hl
  gathered := h.gathered.step h.inv (.refresh event instances)

theorem PoolsInv.updateInstanceWorkload (h : PoolsInv roleOf m) (iid eid : Int) (change : Workload) :
    PoolsInv roleOf (m.updateInstanceWorkload iid eid change) where
  inv := h.inv.step (.updateWorkload iid eid change)
  noStale := h.noStale.step (show m.Inv from h.inv) (show RoleKept m (.updateWorkload iid eid change) from trivial)
  pooled := h.pooled.poolStep ignoresWorkload_admissible h.inv (.work iid eid change)
  gathered := h.gathered.step h.inv (.updateWorkload iid eid change)

theorem PoolsInv.samePools_of_quiet (h : PoolsInv roleOf m) {event : EventType} {instances : List Instance}
    (hl : event ≠ .del → ∀ x ∈ instances, Admissible roleOf x)
    (hquiet : (m.refresh event instances).1 ≠ .ok true) : SamePools m (m.refresh event instances).2 := by
  have hout := refreshOutcome h.inv event instances
  have hvalid : ¬ m.Invalid event instances := by
    rintro ⟨x, hx, hnone⟩
    cases event with
    | add => simp [(hl (by decide) x (List.mem_filter.mp hx).1).1] at hnone
    | del => cases hx
    | set => simp [(hl (by decide) x (List.mem_filter.mp hx).1).1] at hnone
  obtain ⟨b, hb, hann⟩ := hout.returns hvalid
  have hfalse : b ≠ true := fun ht => hquiet (ht ▸ hb)
  exact hout.samePools.mpr fun hc => hfalse (hann.mpr (changes_announces hc))

theorem PoolsInv.workloadEntries_same (h : PoolsInv roleOf m) (hs : SamePools m m') :
    m'.workloadEntries = m.workloadEntries := by
  rw [workloadEntries_eq, workloadEntries_eq]
  have hrefs : m'.pooledRefs = m.pooledRefs := by simp only [pooledRefs, hs.rolePool]
  rw [hrefs]
  apply List.flatMap_congr
  rintro ⟨role, r⟩ hm
  obtain ⟨id, hr⟩ := mem_pooledRefs.mp hm
  dsimp only
  rw [hs.obj r (h.inv.rolePool hr).1]

/-! ## The invariant -/

structure MirrorInv (roleOf : Int → PDRole) (s : SchedulerServer) : Prop where
  pools : PoolsInv roleOf s.instanceManager
  buffered : Buffered s.instanceManager.workloadEntries s.workloadWriter

theorem PoolsInv.getEndpointWorkload (h : PoolsInv roleOf m) {entry : WorkloadShmEntry} (hm : m.Publishes entry) :
    ∃ role workload, m.getEndpointWorkload entry.instanceId entry.endpointId = (.ok (some (role, workload)), m) ∧
      entry = ⟨entry.instanceId, entry.endpointId, pdroleToShmRole role, workload.activeTokens,
        workload.activeKvCache⟩ := by
  obtain ⟨id, r, role, ha, hrole, ep, hep, rfl⟩ := hm
  obtain ⟨_, _, role', hrole', hp⟩ := h.inv.available ha
  have hne : (m.obj r).role ≠ "" := by
    intro he
    rw [he] at hrole
    cases hrole
  obtain ⟨a, hc⟩ := Dict.contains_iff.mp (buildEndpointCache_contains (r := r) hep)
  obtain ⟨hinst, ep', hat, hid⟩ := buildEndpointCache_get? hc
  -- The index leads to the endpoint with the id, and there is one such endpoint.
  obtain ⟨pod, key, hat'⟩ := Instance.mem_endpointList_iff.mp hep
  have heq := (h.unique.rolePool role' id r hp).eq_of_id (Instance.endpointAt_iff.mp hat)
    (Instance.endpointAt_iff.mp hat') hid
  have hep' : ep' = ep := congrArg (fun e => e.2.2) heq
  refine ⟨role, ep.workload, ?_, rfl⟩
  unfold InstanceManager.getEndpointWorkload
  simp only [shmEntry, ha, h.inv.endpointCache ha, h.inv.fillEndpointCache ha, hc, hinst, hat, hep', hne, ↓reduceIte,
    hrole, Option.map_some, Option.getD_some]

theorem MirrorInv.writeSingleEntry (h : MirrorInv roleOf s) (hw : PyMotor.Writable s.workloadWriter) (iid eid : Int)
    {m : InstanceManager} (hpools : PoolsInv roleOf m)
    (hm : m = s.instanceManager ∨ ∃ change, m = s.instanceManager.updateInstanceWorkload iid eid change) :
    Buffered m.workloadEntries (s.workloadWriter.writeSingleEntry m iid eid).2.1 ∧
    WroteOnce s.workloadWriter (s.workloadWriter.writeSingleEntry m iid eid).2.1 := by
  obtain ⟨change, hentries⟩ : ∃ change,
      m.workloadEntries = s.instanceManager.workloadEntries.map (bump iid eid change) := by
    rcases hm with rfl | ⟨change, rfl⟩
    · refine ⟨0, ?_⟩
      have hid : ∀ e ∈ s.instanceManager.workloadEntries, bump iid eid 0 e = e := by
        intro e _
        simp [bump]
      rw [List.map_congr_left hid, List.map_id']
    · exact workloadEntries_update h.pools.inv h.pools.noStale h.pools.unique iid eid change
  have hkeys : m.workloadEntries.map WorkloadShmEntry.key =
      s.instanceManager.workloadEntries.map WorkloadShmEntry.key := by
    rw [hentries, List.map_map]
    exact List.map_congr_left fun e _ => key_bump iid eid change e
  have hsize : m.workloadEntries.length ≤ s.workloadWriter.maxEntries := by
    rw [hentries, List.length_map]
    exact h.buffered.size
  unfold WorkloadSharedMemoryWriter.writeSingleEntry
  cases hslot : s.workloadWriter.slotMap.get? (iid, eid) with
  | none =>
      obtain ⟨w', hsnap, hspec⟩ :=
        WorkloadSharedMemoryWriter.writeSnapshot_spec
          (fun entry he => hpools.fits entry (List.mem_of_mem_take he)) hw.sequence hw.maxEntries
      simp only [hsnap]
      exact ⟨Snapshot.buffered hspec hpools.nodup hsize, hspec.sequence.le, hspec.maxEntries⟩
  | some slot =>
      obtain ⟨e₀, he₀, hk₀⟩ := (h.buffered.slotMap _ _).mp hslot
      have he : m.workloadEntries[slot]? = some (bump iid eid change e₀) := by
        rw [hentries, List.getElem?_map, he₀, Option.map_some]
      have hk : (bump iid eid change e₀).key = (iid, eid) := (key_bump iid eid change e₀).trans hk₀
      generalize hentry : bump iid eid change e₀ = entry at he hk
      have hpub := (mem_workloadEntries hpools.inv hpools.noStale).mp (List.mem_of_getElem? he)
      obtain ⟨role, workload, hget, hval⟩ := hpools.getEndpointWorkload hpub
      have hiid : entry.instanceId = iid := congrArg Prod.fst hk
      have heid : entry.endpointId = eid := congrArg Prod.snd hk
      rw [hiid, heid] at hget hval
      have hpack : packEntry entry = .ok entry :=
        WorkloadSharedMemoryWriter.packEntry_fits (hpools.fits entry (List.mem_of_getElem? he))
      obtain ⟨w', hwrite, hbuf, honce⟩ := h.buffered.writeSlot hw h.pools.nodup hkeys he (by
        intro i e hi hne
        rw [hk] at hne
        rw [hentries, List.getElem?_map, hi, Option.map_some, bump, if_neg hne])
      simp only [hget, ← hval, WorkloadSharedMemoryWriter.writeEntryAtSlot, hpack, hwrite]
      exact ⟨hbuf, honce⟩

theorem MirrorInv.handle (h : MirrorInv roleOf s) (hw : PyMotor.Writable s.workloadWriter) {request : SchedulerRequest}
    (hf : s.Fitting roleOf request) :
    MirrorInv roleOf (s.handle request) ∧ WroteOnce s.workloadWriter (s.handle request).workloadWriter := by
  obtain ⟨hl, hsize⟩ := hf
  have hmove := move_handle h.pools.inv request
  generalize s.handle request = s' at hmove hsize ⊢
  cases hmove with
  | idle => exact ⟨h, Nat.le_succ _, rfl⟩
  | quiet eventType instances event hevent hquiet =>
      have hl' : event ≠ .del → ∀ x ∈ instances, Admissible roleOf x := fun hne => hl (by simpa [hevent] using hne)
      refine ⟨⟨h.pools.refresh hl', ?_⟩, Nat.le_succ _, rfl⟩
      dsimp only
      rw [h.pools.workloadEntries_same (h.pools.samePools_of_quiet hl' hquiet)]
      exact h.buffered
  | refreshed eventType instances event published hevent hchanged hp =>
      have hl' : event ≠ .del → ∀ x ∈ instances, Admissible roleOf x := fun hne => hl (by simpa [hevent] using hne)
      have hpools := h.pools.refresh hl'
      obtain ⟨w', hsnap, hspec⟩ :=
        WorkloadSharedMemoryWriter.writeSnapshot_spec
          (fun entry he => hpools.fits entry (List.mem_of_mem_take he)) hw.sequence hw.maxEntries
      rw [← length_workloadEntries hpools.inv hpools.noStale] at hsize
      simp only [hsnap]
      exact ⟨⟨hpools, Snapshot.buffered hspec hpools.nodup hsize⟩, hspec.sequence.le, hspec.maxEntries⟩
  | workload iid eid m hm =>
      have hpools : PoolsInv roleOf m := by
        rcases hm with rfl | ⟨change, rfl⟩
        · exact h.pools
        · exact h.pools.updateInstanceWorkload iid eid change
      obtain ⟨hbuf, honce⟩ := h.writeSingleEntry hw iid eid hpools hm
      exact ⟨⟨hpools, hbuf⟩, honce⟩

theorem mirrorInv_start (roleOf : Int → PDRole) (policy : SchedulerType) {maxEntries : Nat} (hmax : maxEntries < 2 ^ 32) :
    MirrorInv roleOf (start policy maxEntries) ∧ (start policy maxEntries).workloadWriter.sequence = 1 ∧
      (start policy maxEntries).workloadWriter.maxEntries = maxEntries := by
  have hinit : PoolsInv roleOf {} := poolsInv_init
  obtain ⟨w', hsnap, hspec⟩ := WorkloadSharedMemoryWriter.writeSnapshot_spec (m := {}) (w := { maxEntries := maxEntries })
    (fun entry he => hinit.fits entry (List.mem_of_mem_take he)) (show 0 + 1 < 2 ^ 63 by decide) hmax
  have hwriter : (start policy maxEntries).workloadWriter = w' := by
    unfold start
    rw [hsnap]
  refine ⟨⟨poolsInv_init, ?_⟩, ?_, ?_⟩
  · rw [hwriter]
    exact Snapshot.buffered hspec hinit.nodup (Nat.zero_le _)
  · rw [hwriter, hspec.sequence]
  · rw [hwriter, hspec.maxEntries]

/-! ## What a reader finds -/

theorem MirrorInv.unpackEntries (h : MirrorInv roleOf s) :
    s.workloadWriter.unpackEntries = s.instanceManager.workloadEntries := by
  unfold WorkloadSharedMemoryWriter.unpackEntries
  rw [h.buffered.headerCount]
  apply List.ext_getElem
  · simp
  · intro i hi hi'
    have hget := h.buffered.slots i _ (List.getElem?_eq_getElem hi')
    simp [WorkloadSharedMemoryWriter.unpackEntry, hget]

theorem MirrorInv.mirrored (h : MirrorInv roleOf s) : s.Mirrored where
  accepted := by
    refine ⟨h.buffered.sequence, ?_⟩
    rw [h.buffered.headerCount, h.buffered.headerMax]
    exact h.buffered.size
  entries entry := by
    rw [h.unpackEntries]
    exact mem_workloadEntries h.pools.inv h.pools.noStale
  nodup := by
    rw [h.unpackEntries]
    exact h.pools.nodup
  slots entry hp := by
    obtain ⟨slot, hs⟩ := List.mem_iff_getElem?.mp ((mem_workloadEntries h.pools.inv h.pools.noStale).mpr hp)
    refine ⟨slot, ?_, (h.buffered.slotMap _ _).mpr ⟨entry, hs, rfl⟩, ?_⟩
    · rw [h.buffered.headerCount]
      exact (List.getElem?_eq_some_iff.mp hs).1
    · simp [WorkloadSharedMemoryWriter.unpackEntry, h.buffered.slots slot entry hs]

end SchedulerServer

end PyMotor
