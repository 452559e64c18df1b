import PyMotor.Pool.Lemmas.Consistent
import PyMotor.Pool.Lemmas.PooledAll
import PyMotor.Scheduler.Spec

/-!
# The entries of the pools
-/

namespace PyMotor

open Lib

namespace Instance

theorem UniqueEndpoints.eq_of_id {x : Instance} (h : x.UniqueEndpoints) {e e' : String × Int × Endpoint}
    (he : e ∈ x.endpointEntries) (he' : e' ∈ x.endpointEntries) (hid : e.2.2.id = e'.2.2.id) : e = e' := by
  have hn : (x.endpointEntries.map fun e => e.2.2.id).Nodup := by
    have heq : (x.endpointEntries.map fun e => e.2.2.id) = x.endpointList.map Endpoint.id := by
      rw [← map_endpointEntries, List.map_map]
      rfl
    rw [heq]
    exact h
  exact List.inj_on_of_nodup_map hn he he' hid

theorem endpointEntries_add (x : Instance) (pod : String) (key : Int) (w : Workload) :
    (x.addEndpointWorkload pod key w).endpointEntries = x.endpointEntries.map fun e =>
      if e.1 = pod ∧ e.2.1 = key then (e.1, e.2.1, { e.2.2 with workload := e.2.2.workload + w }) else e :=
  x.endpointEntries_adjust pod key _

theorem endpointList_add {x : Instance} (h : x.UniqueEndpoints) {pod : String} {key : Int} {ep : Endpoint}
    (hat : x.endpointAt pod key = some ep) (w : Workload) :
    (x.addEndpointWorkload pod key w).endpointList = x.endpointList.map fun e =>
      if e.id = ep.id then { e with workload := e.workload + w } else e := by
  rw [← map_endpointEntries, ← map_endpointEntries, endpointEntries_add, List.map_map, List.map_map]
  apply List.map_congr_left
  rintro ⟨pod', key', ep'⟩ he
  have hep : (pod, key, ep) ∈ x.endpointEntries := endpointAt_iff.mp hat
  have hiff : (pod' = pod ∧ key' = key) ↔ ep'.id = ep.id := by
    constructor
    · rintro ⟨rfl, rfl⟩
      have hat' := endpointAt_iff.mpr he
      rw [hat] at hat'
      rw [Option.some.inj hat']
    · intro hid
      have heq := h.eq_of_id he hep hid
      exact ⟨congrArg Prod.fst heq, congrArg (fun e => e.2.1) heq⟩
  simp only [Function.comp, hiff]
  split <;> rfl

theorem layout_addEndpointWorkload (x : Instance) (pod : String) (key : Int) (w : Workload) :
    (x.addEndpointWorkload pod key w).layout = x.layout :=
  InstanceManager.endpointEntries_addEndpointWorkload x pod key w

theorem layout_initWorkload (x : Instance) : x.initWorkload.layout = x.layout :=
  InstanceManager.endpointEntries_initWorkload x

theorem ignoresWorkload_uniqueEndpoints : InstanceManager.IgnoresWorkload UniqueEndpoints where
  initWorkload x h := by
    rw [uniqueEndpoints_iff, layout_initWorkload, ← uniqueEndpoints_iff]
    exact h
  addGathered _ _ h := h
  addEndpointWorkload x pod key w h := by
    rw [uniqueEndpoints_iff, layout_addEndpointWorkload, ← uniqueEndpoints_iff]
    exact h

end Instance

namespace InstanceManager

variable {m : InstanceManager}

/-! ## The pooled references -/

theorem NoStale.eq_of_id (hs : NoStale m) {role role' : PDRole} {id : Int} {r r' : Ref}
    (h : (m.rolePool role).get? id = some r) (h' : (m.rolePool role').get? id = some r') : r = r' :=
  Option.some.inj ((hs _ _ _ h).symm.trans (hs _ _ _ h'))

theorem NoStale.apart (hs : NoStale m) (hi : Inv m) : m.Apart := by
  intro role role' id h h'
  obtain ⟨r, hr⟩ := Dict.mem_keys_iff.mp h
  obtain ⟨r', hr'⟩ := Dict.mem_keys_iff.mp h'
  obtain rfl := hs.eq_of_id hr hr'
  exact Option.some.inj ((hi.rolePool hr).2.2.symm.trans (hi.rolePool hr').2.2)

/-- The references of the role pools, in the order of the entries. -/
def pooledRefs (m : InstanceManager) : List (PDRole × Ref) :=
  [PDRole.roleP, .roleD, .roleU].flatMap fun role => (m.rolePool role).values.map fun r => (role, r)

theorem mem_pooledRefs {role : PDRole} {r : Ref} :
    (role, r) ∈ m.pooledRefs ↔ ∃ id, (m.rolePool role).get? id = some r := by
  have hroles : role ∈ [PDRole.roleP, .roleD, .roleU] := by cases role <;> decide
  simp only [pooledRefs, List.mem_flatMap, List.mem_map, Prod.mk.injEq, Dict.mem_values_iff]
  constructor
  · rintro ⟨role', _, r', h, rfl, rfl⟩
    exact h
  · intro h
    exact ⟨role, hroles, r, h, rfl, rfl⟩

theorem workloadEntries_eq (m : InstanceManager) : m.workloadEntries = m.pooledRefs.flatMap fun p =>
    (m.obj p.2).endpointList.map (shmEntry (m.obj p.2).id p.1) := by
  simp only [workloadEntries, pooledRefs, List.flatMap_assoc, List.flatMap_map]
  rfl

theorem nodup_pooledRefs (hi : Inv m) (hs : NoStale m) : (m.pooledRefs.map fun p => (m.obj p.2).id).Nodup := by
  have hkeys : ∀ role, ((m.rolePool role).values.map fun r => (m.obj r).id) = (m.rolePool role).keys := by
    intro role
    rw [Dict.values, Dict.keys, List.map_map]
    apply List.map_congr_left
    intro e he
    exact (hi.rolePool (Dict.get?_eq_some_iff.mpr he)).2.1
  have hmap : (m.pooledRefs.map fun p => (m.obj p.2).id) =
      [PDRole.roleP, .roleD, .roleU].flatMap fun role => (m.rolePool role).keys := by
    simp only [pooledRefs, List.map_flatMap, List.map_map, ← hkeys]
    rfl
  rw [hmap, List.nodup_flatMap]
  refine ⟨fun role _ => (m.rolePool role).nodup, ?_⟩
  have hne : List.Pairwise (· ≠ ·) [PDRole.roleP, .roleD, .roleU] := by decide
  refine hne.imp fun {role role'} hne => ?_
  intro id hid hid'
  exact hne (hs.apart hi role role' id hid hid')

/-! ## The entries -/

theorem mem_workloadEntries (hi : Inv m) (hs : NoStale m) {entry : WorkloadShmEntry} :
    entry ∈ m.workloadEntries ↔ m.Publishes entry := by
  rw [workloadEntries_eq]
  simp only [List.mem_flatMap, List.mem_map, Prod.exists, mem_pooledRefs]
  constructor
  · rintro ⟨role, r, ⟨id, hr⟩, ep, hep, rfl⟩
    obtain ⟨_, hid, hrole⟩ := hi.rolePool hr
    exact ⟨id, r, role, hs _ _ _ hr, hrole, ep, hep, by rw [hid]⟩
  · rintro ⟨id, r, role, ha, hrole, ep, hep, rfl⟩
    obtain ⟨_, hid, role', hrole', hr⟩ := hi.available ha
    obtain rfl : role' = role := Option.some.inj (hrole'.symm.trans hrole)
    exact ⟨role', r, ⟨id, hr⟩, ep, hep, by rw [hid]⟩

theorem nodup_workloadEntries (hi : Inv m) (hs : NoStale m) (hu : PooledAll Instance.UniqueEndpoints m) :
    (m.workloadEntries.map WorkloadShmEntry.key).Nodup := by
  rw [workloadEntries_eq, List.map_flatMap, List.nodup_flatMap]
  constructor
  · rintro ⟨role, r⟩ hp
    obtain ⟨id, hr⟩ := mem_pooledRefs.mp hp
    have heq : ((m.obj r).endpointList.map (shmEntry (m.obj r).id role)).map WorkloadShmEntry.key =
        ((m.obj r).endpointList.map Endpoint.id).map fun eid => ((m.obj r).id, eid) := by
      rw [List.map_map, List.map_map]
      rfl
    rw [heq]
    exact (hu.rolePool role id r hr).map fun _ _ h => (Prod.mk.inj h).2
  · have hpair := List.pairwise_map.mp (nodup_pooledRefs hi hs)
    refine hpair.imp fun {p p'} hne => ?_
    intro key hk hk'
    obtain ⟨_, he, rfl⟩ := List.mem_map.mp hk
    obtain ⟨ep, _, rfl⟩ := List.mem_map.mp he
    obtain ⟨_, he', heq⟩ := List.mem_map.mp hk'
    obtain ⟨ep', _, rfl⟩ := List.mem_map.mp he'
    exact hne (congrArg Prod.fst heq).symm

theorem length_workloadEntries (hi : Inv m) (hs : NoStale m) :
    m.workloadEntries.length = m.availableEndpoints.length := by
  have hrefs : (m.pooledRefs.map Prod.snd).Perm m.availablePool.values := by
    have hn : (m.pooledRefs.map Prod.snd).Nodup := by
      have h := nodup_pooledRefs hi hs
      have heq : (m.pooledRefs.map fun p => (m.obj p.2).id) =
          (m.pooledRefs.map Prod.snd).map fun r => (m.obj r).id := by
        rw [List.map_map]
        rfl
      rw [heq] at h
      exact h.of_map
    have hn' : m.availablePool.values.Nodup := by
      have heq : (m.availablePool.values.map fun r => (m.obj r).id) = m.availablePool.keys := by
        rw [Dict.values, Dict.keys, List.map_map]
        apply List.map_congr_left
        intro e he
        exact (hi.available (Dict.get?_eq_some_iff.mpr he)).2.1
      have hkeys : m.availablePool.keys.Nodup := m.availablePool.nodup
      rw [← heq] at hkeys
      exact hkeys.of_map
    refine (List.perm_ext_iff_of_nodup hn hn').mpr fun r => ?_
    simp only [List.mem_map, Prod.exists, exists_eq_right, mem_pooledRefs, Dict.mem_values_iff]
    constructor
    · rintro ⟨role, id, hr⟩
      exact ⟨id, hs _ _ _ hr⟩
    · rintro ⟨id, ha⟩
      obtain ⟨_, _, role, _, hr⟩ := hi.available ha
      exact ⟨role, id, hr⟩
  rw [workloadEntries_eq, availableEndpoints, List.length_flatMap, List.length_flatMap, ← (hrefs.map _).sum_eq,
    List.map_map]
  simp [Function.comp_def]

/-! ## A workload change -/

def bump (iid eid : Int) (change : Workload) (entry : WorkloadShmEntry) : WorkloadShmEntry :=
  if entry.key = (iid, eid) then
    { entry with
      activeTokens := entry.activeTokens + change.activeTokens
      activeKvCache := entry.activeKvCache + change.activeKvCache }
  else entry

theorem key_bump (iid eid : Int) (change : Workload) (entry : WorkloadShmEntry) :
    (bump iid eid change entry).key = entry.key := by
  unfold bump
  split <;> rfl

theorem workloadEntries_update (hi : Inv m) (hs : NoStale m) (hu : PooledAll Instance.UniqueEndpoints m)
    (iid eid : Int) (change : Workload) :
    ∃ change', (m.updateInstanceWorkload iid eid change).workloadEntries =
      m.workloadEntries.map (bump iid eid change') := by
  rcases hi.updateInstanceWorkload_cases iid eid change with ⟨_, he⟩ | ⟨r, a, ep, _, ha, _, _, hat, heid, he⟩
  · refine ⟨0, ?_⟩
    rw [he]
    have hid : ∀ e ∈ m.workloadEntries, bump iid eid 0 e = e := by
      intro e _
      simp [bump]
    rw [List.map_congr_left hid, List.map_id']
  · refine ⟨change, ?_⟩
    rw [he, workloadEntries_eq, workloadEntries_eq, List.map_flatMap]
    have hr := (hi.available ha).1
    obtain ⟨_, hid, role, _, hp⟩ := hi.available ha
    have hrefs : ((m.modifyObj r (·.addGathered change)).modifyObj r
        (·.addEndpointWorkload a.pod a.key change)).pooledRefs = m.pooledRefs := by
      simp only [pooledRefs, rolePool_modifyObj]
    have hself : ((m.modifyObj r (·.addGathered change)).modifyObj r
        (·.addEndpointWorkload a.pod a.key change)).obj r =
          ((m.obj r).addGathered change).addEndpointWorkload a.pod a.key change := by
      rw [obj_modifyObj_self (by simpa using hr), obj_modifyObj_self hr]
    rw [hrefs]
    apply List.flatMap_congr
    rintro ⟨role', r'⟩ hm
    obtain ⟨id', hr'⟩ := mem_pooledRefs.mp hm
    by_cases hrr : r' = r
    · subst hrr
      have hlist : (((m.obj r').addGathered change).addEndpointWorkload a.pod a.key change).endpointList =
          (m.obj r').endpointList.map fun e =>
            if e.id = ep.id then { e with workload := e.workload + change } else e :=
        Instance.endpointList_add (x := (m.obj r').addGathered change) (hu.rolePool role iid r' hp) hat change
      dsimp only
      rw [hself, hlist, List.map_map, List.map_map]
      apply List.map_congr_left
      intro e _
      simp only [Function.comp, bump, shmEntry, WorkloadShmEntry.key, hid, Prod.mk.injEq, true_and, heid]
      have hid' : (((m.obj r').addGathered change).addEndpointWorkload a.pod a.key change).id = iid := hid
      by_cases hee : e.id = eid <;> simp [hee, hid']
    · have hne : (m.obj r').id ≠ iid := by
        intro heq
        have hid' := (hi.rolePool hr').2.1
        rw [heq] at hid'
        subst hid'
        exact hrr (hs.eq_of_id hr' hp)
      dsimp only
      rw [obj_modifyObj_ne hrr, obj_modifyObj_ne hrr, List.map_map]
      apply List.map_congr_left
      intro e _
      simp [bump, shmEntry, WorkloadShmEntry.key, hne]

end InstanceManager

end PyMotor
