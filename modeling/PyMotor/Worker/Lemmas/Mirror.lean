import PyMotor.Scheduler.Lemmas.Mirror
import PyMotor.Worker.Lemmas.Index
import PyMotor.Worker.Lemmas.Versions

/-!
# Patching from a mirror

Every id keeps its role, so the indexes of the worker cache stay sound. The entries of the segment have distinct
keys, so an endpoint keeps the workload of its entry to the end of the loop.
-/

namespace PyMotor

open Lib

namespace Instance

theorem eq_of_initWorkload {x y : Instance} (h : x.initWorkload = y.initWorkload)
    (hat : ∀ pod key, x.endpointAt pod key = y.endpointAt pod key) (hx : x.Gathered) (hy : y.Gathered) : x = y := by
  obtain ⟨jobName, modelName, id, role, endpoints, gathered⟩ := x
  obtain ⟨jobName', modelName', id', role', endpoints', gathered'⟩ := y
  simp only [initWorkload, Instance.mk.injEq, and_true] at h
  obtain ⟨rfl, rfl, rfl, rfl, hmap⟩ := h
  have hend : endpoints = endpoints' := by
    apply Dict.ext_of_get?
    · simpa using congrArg Dict.keys hmap
    · intro pod
      have hpod := congrArg (·.get? pod) hmap
      simp only [Dict.get?_mapValues] at hpod
      have hpat := hat pod
      simp only [endpointAt] at hpat
      cases hp : endpoints.get? pod with
      | none =>
          rw [hp] at hpod
          exact (Option.map_eq_none_iff.mp hpod.symm).symm
      | some eps =>
          rw [hp] at hpod hpat
          obtain ⟨eps', hp', heps⟩ := Option.map_eq_some_iff.mp hpod.symm
          rw [hp'] at hpat
          rw [hp']
          congr 1
          refine Dict.ext_of_get? ?_ hpat
          simpa using (congrArg Dict.keys heps).symm
  subst hend
  unfold Gathered at hx hy
  dsimp only at hx hy
  rw [hx, hy]
  rfl

end Instance

namespace SchedulerInstanceCache

variable {c : SchedulerInstanceCache} {roleOf : Int → PDRole}

/-! ## What the cache of a worker keeps -/

structure CacheInv (roleOf : Int → PDRole) (c : SchedulerInstanceCache) : Prop where
  index : IndexInv c
  role : ∀ {role r}, r ∈ c.instanceCache role → roleOf (c.obj r).id = role
  gathered : ∀ {role r}, r ∈ c.instanceCache role → (c.obj r).Gathered

theorem cacheInv_init : CacheInv roleOf {} := ⟨indexInv_init, fun h => (nomatch h), fun h => (nomatch h)⟩

@[simp] theorem instanceCache_patchEntry (entry : WorkloadShmEntry) :
    (c.patchEntry entry).instanceCache = c.instanceCache := instanceCache_patch ..

@[simp] theorem id_patchEntry (entry : WorkloadShmEntry) (r : Ref) :
    ((c.patchEntry entry).obj r).id = (c.obj r).id := by
  unfold patchEntry patchWorkloadFromShm
  split
  · rfl
  · split
    · rfl
    · refine (Heap.read_modify_congr (g := Instance.id) ?_ _ r).trans ?_
      · intro x
        rfl
      · refine Heap.read_modify_congr (g := Instance.id) ?_ _ r
        intro x
        rfl

theorem IndexInv.obj_patch_cases (hi : IndexInv c) (iid eid : Int) (role : PDRole) (activeTokens activeKvCache : ℚ)
    (r : Ref) :
    (c.patchWorkloadFromShm iid eid role activeTokens activeKvCache).obj r = c.obj r ∨
    ∃ pod key ep, (c.obj r).id = iid ∧ (c.obj r).endpointAt pod key = some ep ∧ ep.id = eid ∧
      (c.patchWorkloadFromShm iid eid role activeTokens activeKvCache).obj r =
        ((c.obj r).setEndpointWorkload pod key ⟨activeKvCache, activeTokens⟩).gathered := by
  rcases hi.patch_cases iid eid role activeTokens activeKvCache with h | ⟨r', hr', pod, key, ep, rfl, hat, rfl, h⟩
  · exact Or.inl (by rw [h])
  · by_cases he : r = r'
    · subst he
      exact Or.inr ⟨pod, key, ep, rfl, hat, rfl, hi.obj_patch hr' hat activeTokens activeKvCache⟩
    · refine Or.inl ?_
      rw [h]
      exact (Heap.read_modify_ne he _).trans (Heap.read_modify_ne he _)

theorem CacheInv.patchEntry (h : CacheInv roleOf c) (entry : WorkloadShmEntry) : CacheInv roleOf (c.patchEntry entry) where
  index := h.index.patch _ _ _ _ _
  role {role r} hr := by
    rw [instanceCache_patchEntry] at hr
    rw [id_patchEntry]
    exact h.role hr
  gathered {role r} hr := by
    rw [instanceCache_patchEntry] at hr
    rcases h.index.obj_patch_cases entry.instanceId entry.endpointId (shmRoleToPdrole entry.role) entry.activeTokens
      entry.activeKvCache r with heq | ⟨pod, key, ep, -, -, -, heq⟩
    · rw [SchedulerInstanceCache.patchEntry, heq]
      exact h.gathered hr
    · rw [SchedulerInstanceCache.patchEntry, heq]
      rfl

theorem CacheInv.foldl_patchEntry (h : CacheInv roleOf c) (entries : List WorkloadShmEntry) :
    CacheInv roleOf (entries.foldl (·.patchEntry ·) c) := by
  induction entries generalizing c with
  | nil => exact h
  | cons entry entries ih => exact ih (h.patchEntry entry)

@[simp] theorem instanceCache_foldl_patchEntry (entries : List WorkloadShmEntry) :
    (entries.foldl (·.patchEntry ·) c).instanceCache = c.instanceCache := by
  induction entries generalizing c with
  | nil => rfl
  | cons entry entries ih => exact ih.trans (instanceCache_patchEntry entry)

/-! ## The loop over the entries -/

theorem CacheInv.endpointAt_patchEntry_other (h : CacheInv roleOf c) {r : Ref} {pod : String}
    {key : Int} {ep : Endpoint} (hat : (c.obj r).endpointAt pod key = some ep) {entry : WorkloadShmEntry}
    (hne : entry.key ≠ ((c.obj r).id, ep.id)) : ((c.patchEntry entry).obj r).endpointAt pod key = some ep := by
  rcases h.index.obj_patch_cases entry.instanceId entry.endpointId (shmRoleToPdrole entry.role) entry.activeTokens
    entry.activeKvCache r with heq | ⟨pod', key', ep', hid, hat', heid, heq⟩
  · rw [SchedulerInstanceCache.patchEntry, heq]
    exact hat
  · rw [SchedulerInstanceCache.patchEntry, heq]
    refine (Instance.endpointAt_setEndpointWorkload _ pod' pod key' key _).trans ?_
    rw [if_neg, hat]
    rintro ⟨rfl, rfl⟩
    rw [hat] at hat'
    obtain rfl := Option.some.inj hat'
    exact hne (Prod.ext hid.symm heid.symm)

theorem CacheInv.endpointAt_patchEntry_self (h : CacheInv roleOf c) {role : PDRole} {r : Ref}
    (hr : r ∈ c.instanceCache role) {pod : String} {key : Int} {ep : Endpoint}
    (hat : (c.obj r).endpointAt pod key = some ep) {entry : WorkloadShmEntry}
    (hkey : entry.key = ((c.obj r).id, ep.id)) (hrole : shmRoleToPdrole entry.role = role) :
    ((c.patchEntry entry).obj r).endpointAt pod key =
      some { ep with workload := ⟨entry.activeKvCache, entry.activeTokens⟩ } := by
  have hiid : entry.instanceId = (c.obj r).id := congrArg Prod.fst hkey
  have heid : entry.endpointId = ep.id := congrArg Prod.snd hkey
  rw [SchedulerInstanceCache.patchEntry, hiid, heid, hrole]
  exact (h.index.patchable role r hr pod key ep hat entry.activeTokens entry.activeKvCache).1

theorem CacheInv.endpointAt_foldl_other (h : CacheInv roleOf c) {r : Ref} {pod : String} {key : Int} {ep : Endpoint}
    (hat : (c.obj r).endpointAt pod key = some ep) {entries : List WorkloadShmEntry}
    (hne : ∀ entry ∈ entries, entry.key ≠ ((c.obj r).id, ep.id)) :
    ((entries.foldl (·.patchEntry ·) c).obj r).endpointAt pod key = some ep := by
  induction entries generalizing c with
  | nil => exact hat
  | cons entry entries ih =>
      refine ih (h.patchEntry entry) (h.endpointAt_patchEntry_other hat (hne entry (List.mem_cons_self ..))) ?_
      intro e he
      rw [id_patchEntry]
      exact hne e (List.mem_cons_of_mem _ he)

theorem CacheInv.endpointAt_foldl_mem (h : CacheInv roleOf c) {role : PDRole} {r : Ref}
    (hr : r ∈ c.instanceCache role) {pod : String} {key : Int} {ep : Endpoint}
    (hat : (c.obj r).endpointAt pod key = some ep) {entries : List WorkloadShmEntry}
    (hn : (entries.map WorkloadShmEntry.key).Nodup) {entry : WorkloadShmEntry} (hm : entry ∈ entries)
    (hkey : entry.key = ((c.obj r).id, ep.id)) (hrole : shmRoleToPdrole entry.role = role) :
    ((entries.foldl (·.patchEntry ·) c).obj r).endpointAt pod key =
      some { ep with workload := ⟨entry.activeKvCache, entry.activeTokens⟩ } := by
  induction entries generalizing c with
  | nil => cases hm
  | cons e entries ih =>
      rw [List.map_cons, List.nodup_cons] at hn
      have hid : ((c.patchEntry e).obj r).id = (c.obj r).id := id_patchEntry e r
      rcases List.mem_cons.mp hm with rfl | hm
      · refine (h.patchEntry entry).endpointAt_foldl_other (h.endpointAt_patchEntry_self hr hat hkey hrole) ?_
        intro e he heq
        rw [hid] at heq
        exact hn.1 (hkey.trans heq.symm ▸ List.mem_map_of_mem he)
      · have hne : e.key ≠ ((c.obj r).id, ep.id) := fun heq =>
          hn.1 (heq.trans hkey.symm ▸ List.mem_map_of_mem hm)
        refine ih (h.patchEntry e) ?_ (h.endpointAt_patchEntry_other hat hne) hn.2 hm ?_
        · rw [instanceCache_patchEntry]
          exact hr
        · rw [hid]
          exact hkey

/-! ## Storing an answer -/

theorem mem_storeInstances {role : Option PDRole} {data : List Instance} {role' : PDRole} {r : Ref}
    (h : r ∈ (c.storeInstances role data).instanceCache role') :
    r ∈ c.instanceCache role' ∨ r ∈ c.receivedRefs data ∧
      (role = none → roleMap ((c.received data).obj r).role = some role') ∧ ∀ ρ ∈ role, ρ = role' := by
  rw [storeInstances_eq] at h
  cases he : (c.receivedRefs data).isEmpty with
  | true =>
      rw [storeRefs_empty he] at h
      exact Or.inl h
  | false =>
      cases role with
      | none =>
          rw [instanceCache_storeRefs_none he] at h
          obtain ⟨hm, hrole⟩ := mem_roleToList.mp h
          exact Or.inr ⟨hm, fun _ => hrole, fun ρ hρ => (nomatch hρ)⟩
      | some ρ =>
          rw [storeRefs_some he] at h
          rcases mem_replaceAll.mp h with ⟨rfl, hm⟩ | ⟨-, hm⟩
          · exact Or.inr ⟨mem_sortedById.mp hm, fun hn => (nomatch hn), fun ρ hρ => (Option.some.inj hρ).symm⟩
          · exact Or.inl hm

/-- What an answer of the scheduler lists. -/
structure Answers (roleOf : Int → PDRole) (asked : Option PDRole) (x : Instance) : Prop where
  role : PDRole.ofString? x.role = some (roleOf x.id)
  asked : ∀ ρ ∈ asked, ρ = roleOf x.id
  unique : x.UniqueEndpoints
  gathered : x.Gathered

theorem CacheInv.roleKept (h : CacheInv roleOf c) {role : Option PDRole} {data : List Instance}
    (hd : ∀ x ∈ data, Answers roleOf role x) : c.RoleKept (.reply role data) := by
  -- The role under which an id is cached is the role of the id.
  have hcached : ∀ {role' id}, c.Caches role' id → role' = roleOf id := by
    rintro role' id ⟨r, hr, rfl⟩
    exact (h.role hr).symm
  cases role with
  | none =>
      intro x hx
      refine ⟨(hd x hx).unique, ?_⟩
      intro role hrole role' _ horder hc
      rw [InstanceManager.roleMap_of_ofString? (hd x hx).role] at hrole
      rw [hcached hc, ← Option.some.inj hrole] at horder
      exact lt_irrefl _ horder
  | some ρ =>
      intro x hx
      refine ⟨(hd x hx).unique, ?_⟩
      intro role' _ hne hc
      exact hne ((hcached hc).trans ((hd x hx).asked ρ rfl).symm)

theorem CacheInv.storeInstances (h : CacheInv roleOf c) {role : Option PDRole} {data : List Instance}
    (hd : ∀ x ∈ data, Answers roleOf role x) : CacheInv roleOf (c.storeInstances role data) := by
  have hobj : ∀ r, (c.storeInstances role data).obj r = (c.received data).obj r := by
    intro r
    rw [storeInstances_eq, obj_storeRefs]
  have hold : ∀ {role' r}, r ∈ c.instanceCache role' → (c.received data).obj r = c.obj r :=
    fun hr => Heap.read_alloc_old (h.index.lt hr) data
  refine ⟨h.index.storeInstances (h.roleKept hd), ?_, ?_⟩
  · intro role' r hr
    rw [hobj]
    rcases mem_storeInstances hr with hr | ⟨hm, hall, hone⟩
    · rw [hold hr]
      exact h.role hr
    · have hx := hd _ (obj_receivedRefs hm)
      cases role with
      | none =>
          have hrole := hall rfl
          rw [InstanceManager.roleMap_of_ofString? hx.role] at hrole
          exact Option.some.inj hrole
      | some ρ => exact (hx.asked ρ rfl).symm.trans (hone ρ rfl)
  · intro role' r hr
    rw [hobj]
    rcases mem_storeInstances hr with hr | ⟨hm, -, -⟩
    · rw [hold hr]
      exact h.gathered hr
    · exact (hd _ (obj_receivedRefs hm)).gathered

end SchedulerInstanceCache

namespace SchedulerServer

open SchedulerInstanceCache

variable {roleOf : Int → PDRole} {m : InstanceManager} {s : SchedulerServer} {c : SchedulerInstanceCache}

theorem PoolsInv.answers (h : PoolsInv roleOf m) (role : Option PDRole) (shmName : Option String) :
    ∀ x ∈ (m.handleGetAvailableInstances role shmName).instances, Answers roleOf role x := by
  intro x hx
  obtain ⟨r, hr, rfl⟩ := List.mem_map.mp hx
  obtain ⟨id, hid⟩ := Dict.mem_values_iff.mp hr
  obtain ⟨role', hp, hasked⟩ : ∃ role', (m.rolePool role').get? id = some r ∧ ∀ ρ ∈ role, ρ = role' := by
    cases role with
    | none =>
        obtain ⟨role', hp⟩ := InstanceManager.get?_merged hid
        exact ⟨role', hp, fun ρ hρ => (nomatch hρ)⟩
    | some ρ => exact ⟨ρ, hid, fun ρ' hρ' => (Option.some.inj hρ').symm⟩
  obtain ⟨hrole, hunique, -⟩ := h.pooled.rolePool role' id r hp
  have heq : role' = roleOf (m.obj r).id := Option.some.inj ((h.inv.rolePool hp).2.2.symm.trans hrole)
  exact ⟨hrole, fun ρ hρ => (hasked ρ hρ).trans heq, hunique, h.gathered r ⟨id, Or.inl (h.noStale _ _ _ hp)⟩⟩

/-! ## The patched lists -/

theorem mem_sortedInstances {role : PDRole} {x : Instance} :
    x ∈ m.sortedInstances role ↔ ∃ id r, (m.rolePool role).get? id = some r ∧ m.obj r = x := by
  unfold InstanceManager.sortedInstances sortById
  rw [(List.perm_insertionSort _ _).mem_iff, List.mem_map]
  simp only [Dict.mem_values_iff]
  constructor
  · rintro ⟨r, ⟨id, hr⟩, rfl⟩
    exact ⟨id, r, hr, rfl⟩
  · rintro ⟨id, r, hr, rfl⟩
    exact ⟨r, ⟨id, hr⟩, rfl⟩

@[simp] theorem shmRoleToPdrole_pdroleToShmRole (role : PDRole) : shmRoleToPdrole (pdroleToShmRole role) = role := by
  cases role <;> rfl

theorem PoolsInv.obj_foldl (h : PoolsInv roleOf m) (hc : CacheInv roleOf c) {role : PDRole} {r : Ref}
    (hr : r ∈ c.instanceCache role) {y : Instance} (hy : y ∈ m.sortedInstances role)
    (heq : (c.obj r).initWorkload = y.initWorkload)
    (heq' : ((m.workloadEntries.foldl (·.patchEntry ·) c).obj r).initWorkload = y.initWorkload) :
    (m.workloadEntries.foldl (·.patchEntry ·) c).obj r = y := by
  obtain ⟨id, r', hr', rfl⟩ := mem_sortedInstances.mp hy
  have hgy := h.gathered r' ⟨id, Or.inl (h.noStale _ _ _ hr')⟩
  have hr₁ : r ∈ (m.workloadEntries.foldl (·.patchEntry ·) c).instanceCache role := by
    rw [instanceCache_foldl_patchEntry]
    exact hr
  have hgx := (hc.foldl_patchEntry m.workloadEntries).gathered hr₁
  refine Instance.eq_of_initWorkload heq' ?_ hgx hgy
  intro pod key
  have hat := congrArg (·.endpointAt pod key) heq
  simp only [Instance.endpointAt_initWorkload] at hat
  cases hx : (c.obj r).endpointAt pod key with
  | none =>
      have hat' := congrArg (·.endpointAt pod key) heq'
      simp only [Instance.endpointAt_initWorkload] at hat'
      rw [hx] at hat
      have hnone := Option.map_eq_none_iff.mp hat.symm
      rw [hnone] at hat' ⊢
      exact Option.map_eq_none_iff.mp hat'
  | some ep =>
      rw [hx] at hat
      obtain ⟨ep', hep', hsame⟩ := Option.map_eq_some_iff.mp hat.symm
      have hid : (c.obj r).id = (m.obj r').id := congrArg (fun x => x.id) heq
      have heid : ep'.id = ep.id := congrArg (fun x => x.id) hsame
      have hentry : shmEntry (m.obj r').id role ep' ∈ m.workloadEntries := by
        rw [InstanceManager.workloadEntries_eq]
        exact List.mem_flatMap.mpr ⟨(role, r'), InstanceManager.mem_pooledRefs.mpr ⟨id, hr'⟩,
          List.mem_map_of_mem (Instance.mem_endpointList_iff.mpr ⟨pod, key, hep'⟩)⟩
      have hfold := hc.endpointAt_foldl_mem hr hx h.nodup hentry (Prod.ext hid.symm heid)
        (shmRoleToPdrole_pdroleToShmRole role)
      rw [hfold, hep']
      obtain ⟨eid, ip, business, mgmt, status, w, devices, hb⟩ := ep
      obtain ⟨eid', ip', business', mgmt', status', w', devices', hb'⟩ := ep'
      simp only [Endpoint.mk.injEq, true_and] at hsame
      obtain ⟨rfl, rfl, rfl, rfl, rfl, rfl, rfl⟩ := hsame
      rfl

theorem PoolsInv.getInstances_foldl (h : PoolsInv roleOf m) (hc : CacheInv roleOf c)
    (hholds : WorkerSystem.Holds c m) (role : PDRole) :
    (m.workloadEntries.foldl (·.patchEntry ·) c).getInstances role = m.sortedInstances role := by
  have hlist := (sameList_foldl_patchEntry m.workloadEntries c).holds.mpr hholds role
  have hbefore := hholds role
  unfold WorkerSystem.HoldsRole at hlist hbefore
  have hlen := congrArg List.length hlist
  rw [List.length_map, List.length_map] at hlen
  apply List.ext_getElem hlen
  intro i hi hi'
  have hic : i < (c.instanceCache role).length := by simpa [getInstances] using hi
  have hafter := List.getElem_of_eq hlist (by simpa using hi)
  have hbefore := List.getElem_of_eq hbefore (by simpa [getInstances] using hic)
  simp only [getInstances, instanceCache_foldl_patchEntry, List.getElem_map] at hafter hbefore ⊢
  exact h.obj_foldl hc (List.getElem_mem hic) (List.getElem_mem hi') hbefore hafter

end SchedulerServer

namespace WorkerSystem

open SchedulerInstanceCache SchedulerServer

variable {s : WorkerSystem} {roleOf : Int → PDRole}

/-! ## The invariant of the system -/

structure PatchInv (roleOf : Int → PDRole) (s : WorkerSystem) : Prop where
  mirror : MirrorInv roleOf s.server
  maxEntries : s.server.workloadWriter.maxEntries < 2 ^ 32
  answers : ∀ f ∈ s.fetches, ∀ a ∈ f.answer, ∀ x ∈ a.data.instances, Answers roleOf f.role x
  cache : CacheInv roleOf s.client.cache

theorem patchInv_start (policy : SchedulerType) {maxEntries : Nat} (hmax : maxEntries < 2 ^ 32) :
    PatchInv roleOf (start policy maxEntries) := by
  obtain ⟨hmirror, -, hsize⟩ := mirrorInv_start roleOf policy hmax
  exact ⟨hmirror, lt_of_eq_of_lt hsize hmax, fun f hf => (nomatch hf), cacheInv_init⟩

theorem PatchInv.of_client (h : PatchInv roleOf s) {client : AsyncSchedulerClient} {fetches : List Fetch}
    {notifications : List Nat} {told : PDRole → Option Nat} (hc : CacheInv roleOf client.cache)
    (hf : ∀ f ∈ fetches, ∀ a ∈ f.answer, ∀ x ∈ a.data.instances, Answers roleOf f.role x) :
    PatchInv roleOf { s with client := client, fetches := fetches, notifications := notifications, told := told } where
  mirror := h.mirror
  maxEntries := h.maxEntries
  answers := hf
  cache := hc

theorem PatchInv.answers_append (h : PatchInv roleOf s) {fetches : List Fetch} (hnew : ∀ f ∈ fetches, f.answer = none) :
    ∀ f ∈ s.fetches ++ fetches, ∀ a ∈ f.answer, ∀ x ∈ a.data.instances, Answers roleOf f.role x := by
  intro f hf a ha
  rcases List.mem_append.mp hf with hf | hf
  · exact h.answers f hf a ha
  · rw [hnew f hf] at ha
    cases ha

theorem answer_versionFetch {record : Option Nat} : ∀ f ∈ versionFetch record, f.answer = none := by
  intro f hf
  cases record with
  | none => cases hf
  | some version => rw [List.mem_singleton.mp hf]

theorem cacheInv_readAndPatchCache {c : SchedulerInstanceCache} (h : CacheInv roleOf c)
    (reader : WorkloadSharedMemoryReader) (buf : WorkloadSharedMemoryWriter) (now : ℚ) :
    CacheInv roleOf (reader.readAndPatchCache buf now c).2.2 := by
  unfold WorkloadSharedMemoryReader.readAndPatchCache
  split
  · exact h
  · split
    · exact h
    · exact h.foldl_patchEntry _

theorem cacheInv_checkVersion {client : AsyncSchedulerClient} (h : CacheInv roleOf client.cache)
    (buf : WorkloadSharedMemoryWriter) (now : ℚ) : CacheInv roleOf (client.checkVersion buf now).2.cache := by
  unfold AsyncSchedulerClient.checkVersion
  cases client.workloadReader with
  | none => exact h
  | some reader =>
      have hread := cacheInv_readAndPatchCache h reader buf now
      rcases reader.readAndPatchCache buf now client.cache with ⟨⟨version, stale⟩, reader', cache⟩
      dsimp only at hread ⊢
      split
      · exact hread
      · split
        · exact hread
        · split <;> exact hread

theorem PatchInv.request (h : PatchInv roleOf s) (hseq : s.server.workloadWriter.sequence + 1 < 2 ^ 63)
    {request : SchedulerRequest} (hf : s.server.Fitting roleOf request) :
    PatchInv roleOf (s.step (.request request)) ∧
      (s.step (.request request)).server.workloadWriter.sequence ≤ s.server.workloadWriter.sequence + 1 := by
  obtain ⟨hmirror, honce⟩ := h.mirror.handle ⟨hseq, h.maxEntries⟩ hf
  refine ⟨⟨hmirror, ?_, h.answers, h.cache⟩, honce.sequence⟩
  have hmax : (s.step (.request request)).server.workloadWriter.maxEntries = s.server.workloadWriter.maxEntries :=
    honce.maxEntries
  rw [hmax]
  exact h.maxEntries

theorem PatchInv.heartbeat (h : PatchInv roleOf s) : PatchInv roleOf (s.step .heartbeat) where
  mirror :=
    { pools := h.mirror.pools
      buffered :=
        { size := h.mirror.buffered.size
          sequence := h.mirror.buffered.sequence
          headerCount := h.mirror.buffered.headerCount
          headerMax := h.mirror.buffered.headerMax
          entryCount := h.mirror.buffered.entryCount
          slots := h.mirror.buffered.slots
          slotMap := h.mirror.buffered.slotMap } }
  maxEntries := h.maxEntries
  answers := h.answers
  cache := h.cache

theorem PatchInv.notify (h : PatchInv roleOf s) : PatchInv roleOf (s.step .notify) := by
  simp only [WorkerSystem.step]
  cases s.notifications with
  | nil => exact h
  | cons version rest => exact h.of_client h.cache (h.answers_append answer_versionFetch)

theorem mem_serve {i : Nat} {f : Fetch} (hf : f ∈ s.fetches.modify i s.answerFetch) :
    f ∈ s.fetches ∨ ∃ f' ∈ s.fetches, f = { f' with
      answer := some ⟨s.version, s.server.instanceManager, s.changes,
        s.server.instanceManager.handleGetAvailableInstances f'.role (some workloadShmName)⟩ } := by
  obtain ⟨j, hj⟩ := List.mem_iff_getElem?.mp hf
  rw [List.getElem?_modify] at hj
  obtain ⟨f', hf', heq⟩ := Option.map_eq_some_iff.mp hj
  have hmem := List.mem_of_getElem? hf'
  subst heq
  split
  · unfold answerFetch
    split
    · exact Or.inl hmem
    · exact Or.inr ⟨f', hmem, rfl⟩
  · exact Or.inl hmem

theorem PatchInv.serve (h : PatchInv roleOf s) (i : Nat) : PatchInv roleOf (s.step (.serve i)) := by
  refine h.of_client h.cache ?_
  intro f hf a ha
  rcases mem_serve hf with hold | ⟨f', hf', rfl⟩
  · exact h.answers f hold a ha
  · cases ha
    exact h.mirror.pools.answers f'.role (some workloadShmName)

theorem PatchInv.deliver (h : PatchInv roleOf s) (i : Nat) (attaches : Bool) :
    PatchInv roleOf (s.step (.deliver i attaches)) := by
  simp only [WorkerSystem.step]
  cases hi : s.fetches[i]? with
  | none => exact h
  | some f =>
      dsimp only
      cases ha : f.answer with
      | none => exact h
      | some a =>
          refine h.of_client ?_ fun f hf => h.answers f (List.mem_of_mem_eraseIdx hf)
          have hstore := h.cache.storeInstances (h.answers f (List.mem_of_getElem? hi) a ha)
          rw [AsyncSchedulerClient.cache_recordVersion]
          simpa [AsyncSchedulerClient.getAvailableInstances] using hstore

theorem PatchInv.giveUp (h : PatchInv roleOf s) (i : Nat) : PatchInv roleOf (s.step (.giveUp i)) := by
  simp only [WorkerSystem.step]
  cases s.fetches[i]? with
  | none => exact h
  | some f =>
      refine h.of_client ?_ fun f hf => h.answers f (List.mem_of_mem_eraseIdx hf)
      rw [AsyncSchedulerClient.cache_recordVersion]
      exact h.cache

theorem PatchInv.step (h : PatchInv roleOf s) (hseq : s.server.workloadWriter.sequence + 1 < 2 ^ 63) {event : Event}
    (hf : s.Fitting roleOf event) : PatchInv roleOf (s.step event) ∧
      (s.step event).server.workloadWriter.sequence ≤ s.server.workloadWriter.sequence + 1 := by
  -- Only a request writes; the steps of the worker leave the scheduler alone.
  have hkeep : (∀ request, event ≠ .request request) →
      (s.step event).server.workloadWriter.sequence ≤ s.server.workloadWriter.sequence + 1 := by
    intro hne
    cases event with
    | request request => exact absurd rfl (hne request)
    | heartbeat => exact Nat.le_succ _
    | notify => simp only [WorkerSystem.step]; split <;> exact Nat.le_succ _
    | lose => exact Nat.le_succ _
    | select now => exact Nat.le_succ _
    | fetch role => exact Nat.le_succ _
    | serve i => exact Nat.le_succ _
    | deliver i attaches =>
        simp only [WorkerSystem.step]
        split
        · exact Nat.le_succ _
        · split <;> exact Nat.le_succ _
    | giveUp i => simp only [WorkerSystem.step]; split <;> exact Nat.le_succ _
  cases event with
  | request request => exact h.request hseq hf
  | heartbeat => exact ⟨h.heartbeat, hkeep (by simp)⟩
  | notify => exact ⟨h.notify, hkeep (by simp)⟩
  | lose => exact ⟨h.of_client h.cache h.answers, hkeep (by simp)⟩
  | select now =>
      exact ⟨h.of_client (cacheInv_checkVersion h.cache _ now) (h.answers_append answer_versionFetch), hkeep (by simp)⟩
  | fetch role =>
      refine ⟨h.of_client h.cache (h.answers_append fun f hf => ?_), hkeep (by simp)⟩
      rw [List.mem_singleton.mp hf]
  | serve i => exact ⟨h.serve i, hkeep (by simp)⟩
  | deliver i attaches => exact ⟨h.deliver i attaches, hkeep (by simp)⟩
  | giveUp i => exact ⟨h.giveUp i, hkeep (by simp)⟩

theorem PatchInv.takesOver (h : PatchInv roleOf s) : s.TakesOver := by
  intro hholds reader now role
  obtain ⟨hseq, hcount⟩ := h.mirror.mirrored.accepted
  unfold WorkloadSharedMemoryReader.readAndPatchCache
  rw [if_neg hseq, if_neg (not_lt.mpr hcount), h.mirror.unpackEntries]
  exact h.mirror.pools.getInstances_foldl h.cache hholds role

end WorkerSystem

end PyMotor
