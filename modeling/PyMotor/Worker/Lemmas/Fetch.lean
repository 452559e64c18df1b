import PyMotor.Pool.Lemmas.Invariant
import PyMotor.Worker.Lemmas.Index

/-!
# The cached lists after a fetch
-/

/-!
## Storing a reply

The instances of a reply are new objects with distinct ids. Storing them keeps the indexes when every list is
replaced while none of its ids is cached under another role.
-/

namespace PyMotor.SchedulerInstanceCache

open Lib

variable {c : SchedulerInstanceCache} {instances : List Ref}

/-! ## The instances by id -/

theorem get?_byId {refs : List Ref} {id : Int} {r : Ref} (h : (c.byId refs).get? id = some r) :
    r ∈ refs ∧ (c.obj r).id = id := by
  rcases Dict.get?_update_or h with hm | hd
  · obtain ⟨r', hr', he⟩ := List.mem_map.mp hm
    obtain ⟨hid, rfl⟩ := Prod.mk.inj he
    exact ⟨hr', hid⟩
  · cases hd

theorem mem_values_byId {refs : List Ref} {r : Ref} (h : r ∈ (c.byId refs).values) : r ∈ refs := by
  obtain ⟨id, hid⟩ := Dict.mem_values_iff.mp h
  exact (get?_byId hid).1

theorem nodup_values_byId (refs : List Ref) : ((c.byId refs).values.map fun r => (c.obj r).id).Nodup := by
  have hkeys : ((c.byId refs).values.map fun r => (c.obj r).id) = (c.byId refs).keys := by
    unfold Dict.values Dict.keys
    rw [List.map_map]
    apply List.map_congr_left
    intro e he
    exact (get?_byId (Dict.get?_eq_some_iff.mpr he)).2
  rw [hkeys]
  exact (c.byId refs).nodup

/-! ## The lists of the roles -/

theorem mem_sortedById {r : Ref} : r ∈ c.sortedById instances ↔ r ∈ instances :=
  (List.perm_insertionSort _ instances).mem_iff

theorem nodup_sortedById (h : (instances.map fun r => (c.obj r).id).Nodup) :
    ((c.sortedById instances).map fun r => (c.obj r).id).Nodup :=
  (((List.perm_insertionSort _ instances).map _).nodup_iff).mpr h

theorem mem_roleToList {role : PDRole} {r : Ref} :
    r ∈ c.roleToList instances role ↔ r ∈ instances ∧ roleMap (c.obj r).role = some role := by
  simp [roleToList, mem_sortedById]

theorem nodup_roleToList (h : (instances.map fun r => (c.obj r).id).Nodup) (role : PDRole) :
    ((c.roleToList instances role).map fun r => (c.obj r).id).Nodup :=
  nodup_sortedById (h.sublist (List.filter_sublist.map _))

/-! ## Storing the lists -/

/-- New objects with distinct ids. -/
structure Listed (c : SchedulerInstanceCache) (instances : List Ref) : Prop where
  lt : ∀ r ∈ instances, r < c.heap.length
  nodup : (instances.map fun r => (c.obj r).id).Nodup
  unique : ∀ r ∈ instances, (c.obj r).UniqueEndpoints

theorem replaceable_sortedById (h : Listed c instances) {role : PDRole}
    (hkept : ∀ r ∈ instances, ∀ role' ≠ role, ¬ c.Caches role' (c.obj r).id) :
    Replaceable c role (c.sortedById instances) where
  lt r hr := h.lt r (mem_sortedById.mp hr)
  nodup := nodup_sortedById h.nodup
  unique r hr := h.unique r (mem_sortedById.mp hr)
  notElsewhere r hr := hkept r (mem_sortedById.mp hr)

/-- When a role's turn comes, the roles before it hold their new lists and the roles after it their old ones. -/
theorem replaceable_roleToList (h : Listed c instances)
    (hkept : ∀ r ∈ instances, ∀ role ∈ roleMap (c.obj r).role, ∀ role', replaceOrder role < replaceOrder role' →
      ¬ c.Caches role' (c.obj r).id)
    {c' : SchedulerInstanceCache} (role : PDRole) (hheap : c'.heap = c.heap)
    (hcache : ∀ role' ≠ role, c'.instanceCache role' =
      if replaceOrder role' < replaceOrder role then c.roleToList instances role' else c.instanceCache role') :
    Replaceable c' role (c.roleToList instances role) := by
  have hobj : ∀ r, c'.obj r = c.obj r := fun r => by rw [obj, obj, hheap]
  constructor
  · intro r hr
    rw [hheap]
    exact h.lt r (mem_roleToList.mp hr).1
  · simp only [hobj]
    exact nodup_roleToList h.nodup role
  · intro r hr
    rw [hobj]
    exact h.unique r (mem_roleToList.mp hr).1
  · rintro r hr role' hne ⟨r', hr', hid⟩
    obtain ⟨hin, hrole⟩ := mem_roleToList.mp hr
    rw [hobj, hobj] at hid
    rw [hcache role' hne] at hr'
    split at hr'
    · obtain ⟨hin', hrole'⟩ := mem_roleToList.mp hr'
      obtain rfl : r' = r := List.inj_on_of_nodup_map h.nodup hin' hin hid
      rw [hrole] at hrole'
      exact hne (Option.some.inj hrole').symm
    · rename_i hle
      have horder : replaceOrder role < replaceOrder role' := by
        cases role <;> cases role' <;> simp_all [replaceOrder]
      exact hkept r hin role hrole role' horder ⟨r', hr', hid⟩

theorem storeRefs_none (h : instances.isEmpty = false) :
    c.storeRefs none instances =
      ((c.replaceAll .roleP (c.roleToList instances .roleP)).replaceAll .roleD
        (c.roleToList instances .roleD)).replaceAll .roleU (c.roleToList instances .roleU) := by
  simp [storeRefs, h]

theorem storeRefs_some (h : instances.isEmpty = false) (role : PDRole) :
    c.storeRefs (some role) instances = c.replaceAll role (c.sortedById instances) := by
  simp [storeRefs, h]

theorem storeRefs_empty (h : instances.isEmpty = true) (role : Option PDRole) :
    c.storeRefs role instances = c := by
  simp [storeRefs, h]

theorem IndexInv.storeRefs_none (hi : IndexInv c) (h : Listed c instances)
    (hkept : ∀ r ∈ instances, ∀ role ∈ roleMap (c.obj r).role, ∀ role', replaceOrder role < replaceOrder role' →
      ¬ c.Caches role' (c.obj r).id) : IndexInv (c.storeRefs none instances) := by
  cases hempty : instances.isEmpty with
  | true =>
      rw [storeRefs_empty hempty]
      exact hi
  | false =>
      rw [SchedulerInstanceCache.storeRefs_none hempty]
      have hp := hi.replaceAll (replaceable_roleToList h hkept .roleP rfl fun role' hne => by
        cases role' <;> simp_all [replaceOrder])
      have hd := hp.replaceAll (replaceable_roleToList h hkept .roleD rfl fun role' hne => by
        cases role' <;> simp_all [replaceOrder, instanceCache_replaceAll])
      exact hd.replaceAll (replaceable_roleToList h hkept .roleU rfl fun role' hne => by
        cases role' <;> simp_all [replaceOrder, instanceCache_replaceAll])

theorem IndexInv.storeRefs_some (hi : IndexInv c) (h : Listed c instances) {role : PDRole}
    (hkept : ∀ r ∈ instances, ∀ role' ≠ role, ¬ c.Caches role' (c.obj r).id) :
    IndexInv (c.storeRefs (some role) instances) := by
  cases hempty : instances.isEmpty with
  | true =>
      rw [storeRefs_empty hempty]
      exact hi
  | false =>
      rw [SchedulerInstanceCache.storeRefs_some hempty]
      exact hi.replaceAll (replaceable_sortedById h hkept)

/-! ## Storing a reply -/

theorem mem_roles (role : PDRole) : role ∈ [PDRole.roleP, .roleD, .roleU] := by cases role <;> decide

/-- The cache with the objects of a reply, before they are stored. -/
def received (c : SchedulerInstanceCache) (data : List Instance) : SchedulerInstanceCache :=
  { c with heap := (c.heap.alloc data).2 }

/-- The objects of a reply, the last one of each id. -/
def receivedRefs (c : SchedulerInstanceCache) (data : List Instance) : List Ref :=
  ((c.received data).byId (c.heap.alloc data).1).values

theorem storeInstances_eq (role : Option PDRole) (data : List Instance) :
    c.storeInstances role data = (c.received data).storeRefs role (c.receivedRefs data) := rfl

theorem obj_receivedRefs {data : List Instance} {r : Ref} (h : r ∈ c.receivedRefs data) :
    (c.received data).obj r ∈ data := by
  have hm := List.mem_map_of_mem (f := (c.heap.alloc data).2.read) (mem_values_byId h)
  rwa [Heap.map_read_alloc] at hm

theorem listed_receivedRefs {data : List Instance} (hu : ∀ x ∈ data, x.UniqueEndpoints) :
    Listed (c.received data) (c.receivedRefs data) where
  lt r hr := by
    have := (Heap.mem_alloc.mp (mem_values_byId hr)).2
    simpa [received] using this
  nodup := nodup_values_byId _
  unique r hr := hu _ (obj_receivedRefs hr)

theorem IndexInv.caches_received (hi : IndexInv c) {data : List Instance} {role : PDRole} {id : Int}
    (h : (c.received data).Caches role id) : c.Caches role id := by
  obtain ⟨r, hr, hid⟩ := h
  have hobj : (c.received data).obj r = c.obj r := Heap.read_alloc_old (hi.lt hr) data
  exact ⟨r, hr, hobj ▸ hid⟩

theorem IndexInv.storeInstances (hi : IndexInv c) {role : Option PDRole} {data : List Instance}
    (h : c.RoleKept (.reply role data)) : IndexInv (c.storeInstances role data) := by
  rw [storeInstances_eq]
  cases role with
  | none =>
      refine (hi.alloc data).storeRefs_none (listed_receivedRefs fun x hx => (h x hx).1) ?_
      intro r hr role hrole role' horder hc
      exact (h _ (obj_receivedRefs hr)).2 role hrole role' (mem_roles role') horder (hi.caches_received hc)
  | some role =>
      refine (hi.alloc data).storeRefs_some (listed_receivedRefs fun x hx => (h x hx).1) ?_
      intro r hr role' hne hc
      exact (h _ (obj_receivedRefs hr)).2 role' (mem_roles role') hne (hi.caches_received hc)

end PyMotor.SchedulerInstanceCache

namespace PyMotor

open Lib

namespace SchedulerInstanceCache

variable {c : SchedulerInstanceCache} {data : List Instance}

/-! ## References that are in use -/

/-- Every cached reference leads to an object. -/
def Valid (c : SchedulerInstanceCache) : Prop := ∀ role, ∀ r ∈ c.instanceCache role, r < c.heap.length

@[simp] theorem instanceCache_patch (iid eid : Int) (role : PDRole) (activeTokens activeKvCache : ℚ) :
    (c.patchWorkloadFromShm iid eid role activeTokens activeKvCache).instanceCache = c.instanceCache := by
  unfold patchWorkloadFromShm
  split
  · rfl
  · split <;> rfl

@[simp] theorem length_patch (iid eid : Int) (role : PDRole) (activeTokens activeKvCache : ℚ) :
    (c.patchWorkloadFromShm iid eid role activeTokens activeKvCache).heap.length = c.heap.length := by
  unfold patchWorkloadFromShm
  split
  · rfl
  · split <;> simp [modifyObj]

theorem Valid.received (h : Valid c) (data : List Instance) : Valid (c.received data) := by
  intro role r hr
  simp only [SchedulerInstanceCache.received, Heap.length_alloc]
  exact Nat.lt_add_right _ (h role r hr)

theorem instanceCache_storeRefs_none {instances : List Ref} (h : instances.isEmpty = false) (role : PDRole) :
    (c.storeRefs none instances).instanceCache role = c.roleToList instances role := by
  rw [storeRefs_none h]
  cases role <;> simp [instanceCache_replaceAll]

theorem heap_storeRefs (role : Option PDRole) (instances : List Ref) :
    (c.storeRefs role instances).heap = c.heap := by
  cases he : instances.isEmpty with
  | true => rw [storeRefs_empty he]
  | false =>
      cases role with
      | none => rw [storeRefs_none he]; rfl
      | some role => rw [storeRefs_some he]; rfl

theorem receivedRefs_lt {r : Ref} (h : r ∈ c.receivedRefs data) : r < (c.received data).heap.length := by
  have := (Heap.mem_alloc.mp (mem_values_byId h)).2
  simpa [received] using this

theorem Valid.storeInstances (h : Valid c) (role : Option PDRole) (data : List Instance) :
    Valid (c.storeInstances role data) := by
  intro role' r hr
  rw [storeInstances_eq] at hr ⊢
  rw [heap_storeRefs]
  cases he : (c.receivedRefs data).isEmpty with
  | true =>
      rw [storeRefs_empty he] at hr
      exact h.received data role' r hr
  | false =>
      cases role with
      | none =>
          rw [instanceCache_storeRefs_none he] at hr
          exact receivedRefs_lt (mem_roleToList.mp hr).1
      | some role =>
          rw [storeRefs_some he] at hr
          rcases mem_replaceAll.mp hr with ⟨-, hr⟩ | ⟨-, hr⟩
          · exact receivedRefs_lt (mem_sortedById.mp hr)
          · exact h.received data role' r hr

theorem Valid.step (h : Valid c) (op : Op) : Valid (c.step op) := by
  cases op with
  | reply role data => exact h.storeInstances role data
  | patch iid eid role activeTokens activeKvCache =>
      intro role' r hr
      simp only [SchedulerInstanceCache.step, instanceCache_patch, length_patch] at hr ⊢
      exact h role' r hr

theorem valid_run (ops : List Op) : Valid (run SchedulerInstanceCache.step {} ops) :=
  run_invariant' (fun _ op h => h.step op) (fun _ _ hr => by cases hr) ops

/-! ## The objects of an answer -/

theorem map_obj_sortedById (instances : List Ref) :
    (c.sortedById instances).map c.obj = sortById (instances.map c.obj) :=
  List.map_insertionSort _ _ _ _ fun _ _ _ _ => Iff.rfl

theorem map_obj_roleToList (instances : List Ref) (role : PDRole) :
    (c.roleToList instances role).map c.obj =
      sortById ((instances.map c.obj).filter fun x => roleMap x.role = some role) := by
  rw [roleToList, map_obj_sortedById, List.filter_map]
  rfl

theorem map_obj_receivedRefs (hn : (data.map Instance.id).Nodup) :
    (c.receivedRefs data).map (c.received data).obj = data := by
  have hmap : (c.heap.alloc data).1.map (c.received data).obj = data := Heap.map_read_alloc data
  have hkeys : (((c.heap.alloc data).1.map fun r => (((c.received data).obj r).id, r)).map Prod.fst).Nodup := by
    rw [List.map_map]
    change ((c.heap.alloc data).1.map (Instance.id ∘ (c.received data).obj)).Nodup
    rw [← List.map_map, hmap]
    exact hn
  have hentries := Dict.entries_update_absent (d := Dict.empty) hkeys fun _ _ => rfl
  have hvalues : c.receivedRefs data = (c.heap.alloc data).1 := by
    unfold receivedRefs byId Dict.values
    rw [hentries]
    simp [Function.comp_def]
  rw [hvalues, hmap]

theorem isEmpty_receivedRefs (hn : (data.map Instance.id).Nodup) : (c.receivedRefs data).isEmpty = data.isEmpty := by
  have h := congrArg List.length (map_obj_receivedRefs (c := c) hn)
  rw [List.length_map] at h
  cases data <;> cases hr : c.receivedRefs _ <;> simp_all

theorem getInstances_received (h : Valid c) (role : PDRole) :
    (c.received data).getInstances role = c.getInstances role :=
  List.map_congr_left fun r hr => Heap.read_alloc_old (h role r hr) data

/-! ## The stored lists -/

theorem obj_storeRefs (role : Option PDRole) (instances : List Ref) (r : Ref) :
    (c.storeRefs role instances).obj r = c.obj r := by
  rw [obj, obj, heap_storeRefs]

theorem getInstances_storeInstances_empty (h : Valid c) (role : Option PDRole) (role' : PDRole) :
    (c.storeInstances role []).getInstances role' = c.getInstances role' := by
  have hempty : (c.receivedRefs []).isEmpty = true := isEmpty_receivedRefs (by simp)
  rw [storeInstances_eq, storeRefs_empty hempty, getInstances_received h]

theorem getInstances_storeInstances_none (hn : (data.map Instance.id).Nodup) (hne : data ≠ []) (role : PDRole) :
    (c.storeInstances none data).getInstances role =
      sortById (data.filter fun x => roleMap x.role = some role) := by
  have he : (c.receivedRefs data).isEmpty = false := by
    rw [isEmpty_receivedRefs hn]
    simpa using hne
  rw [storeInstances_eq, getInstances, instanceCache_storeRefs_none he,
    List.map_congr_left fun r _ => obj_storeRefs none _ r, map_obj_roleToList, map_obj_receivedRefs hn]

theorem getInstances_storeInstances_some (h : Valid c) (hn : (data.map Instance.id).Nodup) (hne : data ≠ [])
    (role role' : PDRole) :
    (c.storeInstances (some role) data).getInstances role' =
      if role' = role then sortById data else c.getInstances role' := by
  have he : (c.receivedRefs data).isEmpty = false := by
    rw [isEmpty_receivedRefs hn]
    simpa using hne
  rw [storeInstances_eq, getInstances, storeRefs_some he, instanceCache_replaceAll]
  split
  · exact (map_obj_sortedById _).trans (congrArg sortById (map_obj_receivedRefs hn))
  · exact getInstances_received h role'

end SchedulerInstanceCache

namespace InstanceManager

variable {m : InstanceManager}

/-! ## The answer of the server -/

theorem roleMap_of_ofString? {role : String} {r : PDRole} (h : PDRole.ofString? role = some r) :
    SchedulerInstanceCache.roleMap role = some r := by
  unfold PDRole.ofString? at h
  split at h <;> simp_all [SchedulerInstanceCache.roleMap]

theorem nodup_ids {d : Dict Int Ref} (h : ∀ {id r}, d.get? id = some r → (m.obj r).id = id) :
    ((d.values.map m.obj).map Instance.id).Nodup := by
  have hkeys : (d.values.map m.obj).map Instance.id = d.keys := by
    rw [Dict.values, Dict.keys, List.map_map, List.map_map]
    apply List.map_congr_left
    intro e he
    exact h (Dict.get?_eq_some_iff.mpr he)
  rw [hkeys]
  exact d.nodup

theorem get?_merged {id : Int} {r : Ref} (h : (m.getAvailableInstances none).get? id = some r) :
    ∃ role, (m.rolePool role).get? id = some r := by
  rcases Dict.get?_update_or h with hu | h
  · exact ⟨.roleU, Dict.get?_eq_some_iff.mpr hu⟩
  · rcases Dict.get?_update_or h with hd | hp
    · exact ⟨.roleD, Dict.get?_eq_some_iff.mpr hd⟩
    · exact ⟨.roleP, hp⟩

theorem Inv.nodup_answer (hi : Inv m) (role : Option PDRole) (shmName : Option String) :
    ((m.handleGetAvailableInstances role shmName).instances.map Instance.id).Nodup := by
  cases role with
  | none =>
      refine nodup_ids fun {id r} h => ?_
      obtain ⟨role, hr⟩ := get?_merged h
      exact (hi.rolePool hr).2.1
  | some role => exact nodup_ids fun h => (hi.rolePool h).2.1

theorem entries_merged (h : m.Apart) :
    (m.getAvailableInstances none).entries =
      (m.rolePool .roleP).entries ++ (m.rolePool .roleD).entries ++ (m.rolePool .roleU).entries := by
  have habsent : ∀ role role', role ≠ role' → ∀ e ∈ (m.rolePool role).entries,
      (m.rolePool role').get? e.1 = none := by
    intro role role' hne e he
    rw [Dict.get?_eq_none_iff]
    exact fun hk => hne (h role role' e.1 (List.mem_map_of_mem he) hk)
  have hpd : (m.prefillPool.update m.decodePool.entries).entries =
      m.prefillPool.entries ++ m.decodePool.entries :=
    Dict.entries_update_absent m.decodePool.nodup (habsent .roleD .roleP (by decide))
  have hu : ∀ e ∈ m.hybridPool.entries, (m.prefillPool.update m.decodePool.entries).get? e.1 = none := by
    intro e he
    have hd : m.decodePool.get? e.1 = none := habsent .roleU .roleD (by decide) e he
    have hp : m.prefillPool.get? e.1 = none := habsent .roleU .roleP (by decide) e he
    rw [Dict.get?_update_of_not_mem (Dict.get?_eq_none_iff.mp hd), hp]
  show ((m.prefillPool.update m.decodePool.entries).update m.hybridPool.entries).entries = _
  rw [Dict.entries_update_absent m.hybridPool.nodup hu, hpd]
  rfl

theorem Inv.filter_answer (hi : Inv m) (h : m.Apart) (role : PDRole) (shmName : Option String) :
    (m.handleGetAvailableInstances none shmName).instances.filter
        (fun x => SchedulerInstanceCache.roleMap x.role = some role) = (m.rolePool role).values.map m.obj := by
  have hpool : ∀ role', ((m.rolePool role').values.map m.obj).filter
      (fun x => SchedulerInstanceCache.roleMap x.role = some role) =
        if role' = role then (m.rolePool role').values.map m.obj else [] := by
    intro role'
    have hrole : ∀ x ∈ (m.rolePool role').values.map m.obj, SchedulerInstanceCache.roleMap x.role = some role' := by
      intro x hx
      obtain ⟨r, hr, rfl⟩ := List.mem_map.mp hx
      obtain ⟨id, hid⟩ := Dict.mem_values_iff.mp hr
      exact roleMap_of_ofString? (hi.rolePool hid).2.2
    split
    · rename_i he
      exact List.filter_eq_self.mpr fun x hx => by simp [hrole x hx, he]
    · rename_i hne
      exact List.filter_eq_nil_iff.mpr fun x hx => by simp [hrole x hx, hne]
  have hvalues : (m.handleGetAvailableInstances none shmName).instances =
      (m.rolePool .roleP).values.map m.obj ++ (m.rolePool .roleD).values.map m.obj ++
        (m.rolePool .roleU).values.map m.obj := by
    simp [handleGetAvailableInstances, Dict.values, entries_merged h]
  rw [hvalues, List.filter_append, List.filter_append, hpool, hpool, hpool]
  cases role <;> simp

end InstanceManager

/-! ## When a fetch is sound -/

section Fetch

open SchedulerInstanceCache

variable {m : InstanceManager} {c : SchedulerInstanceCache}

@[simp] theorem AsyncSchedulerClient.cache_attachReader (client : AsyncSchedulerClient) (shmName : Option String)
    (attaches : Bool) : (client.attachReader shmName attaches).cache = client.cache := by
  unfold attachReader
  split
  · rfl
  · split
    · rfl
    · split <;> rfl

@[simp] theorem AsyncSchedulerClient.cache_recordVersion (client : AsyncSchedulerClient) (version : Option Nat) :
    (client.recordVersion version).cache = client.cache := by
  cases version <;> rfl

theorem getInstances_eq_nil {role : PDRole} : c.getInstances role = [] ↔ c.instanceCache role = [] := by
  simp [getInstances]

theorem sortedInstances_nil {role : PDRole} (h : (m.rolePool role).values = []) : m.sortedInstances role = [] := by
  simp [InstanceManager.sortedInstances, h, sortById]

theorem roles_apart_of_answer {data : List Instance} (hn : (data.map Instance.id).Nodup) {role role' : PDRole}
    {x y : Instance} (hx : x ∈ sortById (data.filter fun x => roleMap x.role = some role))
    (hy : y ∈ sortById (data.filter fun x => roleMap x.role = some role')) (hid : x.id = y.id) : role = role' := by
  have hx' := List.mem_filter.mp ((List.perm_insertionSort _ _).mem_iff.mp hx)
  have hy' := List.mem_filter.mp ((List.perm_insertionSort _ _).mem_iff.mp hy)
  obtain rfl := List.inj_on_of_nodup_map hn hx'.1 hy'.1 hid
  have h := (decide_eq_true_eq.mp hx'.2).symm.trans (decide_eq_true_eq.mp hy'.2)
  exact Option.some.inj h

theorem refines_some_iff (hc : Valid c) (hi : m.Inv) (role : PDRole) (shmName : Option String) :
    Refines m c (c.storeInstances (some role) (m.handleGetAvailableInstances (some role) shmName).instances)
      (some role) ↔ FetchSound m c (some role) := by
  have hn := hi.nodup_answer (some role) shmName
  by_cases hempty : (m.rolePool role).values = []
  · have hdata : (m.handleGetAvailableInstances (some role) shmName).instances = [] := by
      simp [InstanceManager.handleGetAvailableInstances, InstanceManager.getAvailableInstances, hempty]
    simp only [Refines, FetchSound, hdata, getInstances_storeInstances_empty hc, sortedInstances_nil hempty,
      getInstances_eq_nil, hempty]
    simp
  · have hdata : (m.handleGetAvailableInstances (some role) shmName).instances ≠ [] := by
      simpa [InstanceManager.handleGetAvailableInstances, InstanceManager.getAvailableInstances] using hempty
    simp only [Refines, FetchSound, getInstances_storeInstances_some hc hn hdata, ↓reduceIte]
    refine ⟨fun _ => Or.inl hempty, fun _ => ⟨rfl, fun role' hne => ?_⟩⟩
    rw [if_neg hne]

theorem answer_eq_nil_iff (shmName : Option String) :
    (m.handleGetAvailableInstances none shmName).instances = [] ↔ ∀ role, (m.rolePool role).values = [] := by
  simp only [InstanceManager.handleGetAvailableInstances, List.map_eq_nil_iff]
  constructor
  · intro h role
    rw [List.eq_nil_iff_forall_not_mem] at h ⊢
    intro r hr
    obtain ⟨id, hid⟩ := Dict.mem_values_iff.mp hr
    have hkey : ∃ r', (m.getAvailableInstances none).get? id = some r' := by
      have hkeys := Dict.mem_keys_iff.mpr ⟨r, hid⟩
      unfold InstanceManager.getAvailableInstances
      by_cases hu : id ∈ m.hybridPool.keys
      · obtain ⟨e, he, rfl⟩ := List.mem_map.mp hu
        exact ⟨e.2, Dict.get?_update_of_mem m.hybridPool.nodup he⟩
      · by_cases hd : id ∈ m.decodePool.keys
        · obtain ⟨e, he, rfl⟩ := List.mem_map.mp hd
          exact ⟨e.2, by rw [Dict.get?_update_of_not_mem hu]; exact Dict.get?_update_of_mem m.decodePool.nodup he⟩
        · cases role with
          | roleP => exact ⟨r, by rw [Dict.get?_update_of_not_mem hu, Dict.get?_update_of_not_mem hd]; exact hid⟩
          | roleD => exact absurd hkeys hd
          | roleU => exact absurd hkeys hu
    obtain ⟨r', hr'⟩ := hkey
    exact h r' (Dict.mem_values_iff.mpr ⟨id, hr'⟩)
  · intro h
    rw [List.eq_nil_iff_forall_not_mem]
    intro r hr
    obtain ⟨id, hid⟩ := Dict.mem_values_iff.mp hr
    obtain ⟨role, hrole⟩ := InstanceManager.get?_merged hid
    have hmem := Dict.mem_values_iff.mpr ⟨id, hrole⟩
    rw [h role] at hmem
    cases hmem

theorem refines_none_iff (hc : Valid c) (hi : m.Inv) (shmName : Option String) :
    Refines m c (c.storeInstances none (m.handleGetAvailableInstances none shmName).instances) none ↔
      FetchSound m c none := by
  have hn := hi.nodup_answer none shmName
  by_cases hdata : (m.handleGetAvailableInstances none shmName).instances = []
  · have hempty := (answer_eq_nil_iff shmName).mp hdata
    have hapart : m.Apart := by
      intro role role' id h
      obtain ⟨r, hr⟩ := Dict.mem_keys_iff.mp h
      have hmem := Dict.mem_values_iff.mpr ⟨id, hr⟩
      rw [hempty role] at hmem
      cases hmem
    simp only [Refines, FetchSound, hdata, getInstances_storeInstances_empty hc, sortedInstances_nil (hempty _),
      getInstances_eq_nil, hempty]
    constructor
    · exact fun h => ⟨hapart, Or.inr h⟩
    · rintro ⟨-, ⟨role, hne⟩ | h⟩
      · exact absurd rfl hne
      · exact h
  · have hne : ∃ role, (m.rolePool role).values ≠ [] := by
      by_contra hall
      push Not at hall
      exact hdata ((answer_eq_nil_iff shmName).mpr hall)
    simp only [Refines, FetchSound, getInstances_storeInstances_none hn hdata]
    constructor
    · intro h
      refine ⟨fun role role' id hr hr' => ?_, Or.inl hne⟩
      -- Both lists would hold the id, but the answer lists it once.
      have hmem : ∀ role, id ∈ (m.rolePool role).keys → ∃ x ∈ m.sortedInstances role, x.id = id := by
        intro role hr
        obtain ⟨r, hr⟩ := Dict.mem_keys_iff.mp hr
        refine ⟨m.obj r, (List.perm_insertionSort _ _).mem_iff.mpr ?_, (hi.rolePool hr).2.1⟩
        exact List.mem_map_of_mem (Dict.mem_values_iff.mpr ⟨id, hr⟩)
      obtain ⟨x, hx, hxid⟩ := hmem role hr
      obtain ⟨y, hy, hyid⟩ := hmem role' hr'
      rw [← h role] at hx
      rw [← h role'] at hy
      exact roles_apart_of_answer hn hx hy (hxid.trans hyid.symm)
    · rintro ⟨hapart, -⟩ role
      rw [hi.filter_answer hapart]
      rfl

end Fetch

end PyMotor
