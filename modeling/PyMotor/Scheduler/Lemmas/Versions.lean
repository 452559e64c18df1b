import Mathlib.Data.List.TakeWhile
import PyMotor.Pool.Lemmas.Outcome
import PyMotor.Pool.Lemmas.PooledAll
import PyMotor.Scheduler.Lemmas.Entries
import PyMotor.Scheduler.Lemmas.Snapshot
import PyMotor.Scheduler.Spec

/-!
# The instance version along a run

A refresh that changes the pools moves the pairs of an instance that comes or goes; a workload request changes no
pair, and it leaves the version alone when its pair has a slot.
-/

namespace PyMotor

open Lib

theorem Instance.endpointIds_eq (x : Instance) : x.endpointIds = x.layout.map (·.2.2) := by
  rw [endpointIds, layout, ← map_endpointEntries, List.map_map, List.map_map]
  rfl

namespace InstanceManager

variable {m m' : InstanceManager}

/-! ## Entering an id -/

theorem layout_accept {r : Ref} {role : PDRole} (hr : r < m.heap.length) (x : Ref) :
    ((m.accept role r).obj x).layout = (m.obj x).layout := by
  rw [accept, obj_modifyObj_congr (f := Instance.initWorkload) (g := Instance.layout) Instance.layout_initWorkload
    (by simpa using hr), obj_putAvailable]

theorem addInstances_layout {rs : List Ref} (hlt : ∀ r ∈ rs, r < m.heap.length) (b : Bool) (x : Ref) :
    ((addInstances b rs m).2.obj x).layout = (m.obj x).layout := by
  induction rs generalizing m b with
  | nil => rfl
  | cons r rs ih =>
      have hr := hlt r (List.mem_cons_self ..)
      have hlt' : ∀ r' ∈ rs, r' < m.heap.length := fun r' h => hlt r' (List.mem_cons_of_mem _ h)
      rcases addInstances_cons r rs b m with ⟨_, he⟩ | ⟨_, _, he⟩ | ⟨_, _, _, _, he⟩ | ⟨role, _, _, _, he⟩
      · rw [he]
        exact ih hlt' b
      · rw [he]
      · rw [he]
        exact ih hlt' b
      · rw [he, ih (m := m.accept role r) (by simpa [accept] using hlt') true, layout_accept hr]

theorem addInstances_kept {rs : List Ref} (hlt : ∀ r ∈ rs, r < m.heap.length) {id : Int} {role : PDRole}
    (hin : (m.rolePool role).contains id = true)
    (hroles : ∀ r ∈ rs, (m.obj r).id = id → PDRole.ofString? (m.obj r).role = some role) (b : Bool) :
    (addInstances b rs m).2.availablePool.get? id = m.availablePool.get? id := by
  induction rs generalizing m b with
  | nil => rfl
  | cons r rs ih =>
      have hr := hlt r (List.mem_cons_self ..)
      have hlt' : ∀ r' ∈ rs, r' < m.heap.length := fun r' h => hlt r' (List.mem_cons_of_mem _ h)
      have hroles' : ∀ x ∈ rs, (m.obj x).id = id → PDRole.ofString? (m.obj x).role = some role :=
        fun x hx => hroles x (List.mem_cons_of_mem _ hx)
      rcases addInstances_cons r rs b m with ⟨_, he⟩ | ⟨_, _, he⟩ | ⟨_, _, _, _, he⟩ | ⟨role', _, hrole', hc, he⟩
      · rw [he]
        exact ih hlt' hin hroles' b
      · rw [he]
      · rw [he]
        exact ih hlt' hin hroles' b
      · -- An accepted object has another id, since the pool of its role does not know it.
        have hne : id ≠ (m.obj r).id := by
          rintro rfl
          rw [hroles r (List.mem_cons_self ..) rfl] at hrole'
          cases hrole'
          rw [hin] at hc
          cases hc
        have hin' : ((m.accept role' r).rolePool role).contains id = true := by
          obtain ⟨x, hx⟩ := Dict.contains_iff.mp hin
          refine Dict.contains_iff.mpr ⟨x, ?_⟩
          rw [accept, rolePool_modifyObj, rolePool_putAvailable]
          split
          · rename_i hsame
            rw [hsame] at hx
            rw [Dict.get?_set_ne hne]
            exact hx
          · exact hx
        rw [he, ih (m := m.accept role' r) (by simpa [accept] using hlt') hin'
          (fun x hx => by rw [id_accept hr, role_accept hr]; exact hroles' x hx) true]
        exact Dict.get?_set_ne hne

theorem addInstances_first {rs : List Ref} (hlt : ∀ r ∈ rs, r < m.heap.length) {id : Int} {r₀ : Ref}
    (hfirst : rs.find? (fun r => (m.obj r).id = id) = some r₀) (hnew : ∀ role, (m.rolePool role).get? id = none)
    (hun : m.unavailablePool.get? id = none)
    (hvalid : ∀ r ∈ m.handedRefs rs, PDRole.ofString? (m.obj r).role ≠ none)
    (hroles : ∀ r ∈ rs, (m.obj r).id = id → (m.obj r).role = (m.obj r₀).role) (b : Bool) :
    (addInstances b rs m).2.availablePool.get? id = some r₀ := by
  induction rs generalizing m b with
  | nil => cases hfirst
  | cons r rs ih =>
      have hr := hlt r (List.mem_cons_self ..)
      have hlt' : ∀ r' ∈ rs, r' < m.heap.length := fun r' h => hlt r' (List.mem_cons_of_mem _ h)
      have hroles' : ∀ x ∈ rs, (m.obj x).id = id → (m.obj x).role = (m.obj r₀).role :=
        fun x hx => hroles x (List.mem_cons_of_mem _ hx)
      by_cases hid : (m.obj r).id = id
      · obtain rfl : r = r₀ := by simpa [hid] using hfirst
        have hskip : m.unavailablePool.contains (m.obj r).id = false := by
          rw [hid]
          exact Dict.contains_eq_false_iff.mpr hun
        rcases addInstances_cons r rs b m with ⟨hh, _⟩ | ⟨hh, hnone, _⟩ | ⟨role, _, _, hc, _⟩ | ⟨role, _, hrole, _, he⟩
        · have hlen := congrArg List.length hh
          simp [handedRefs, hskip] at hlen
        · exact absurd hnone (hvalid r (by rw [hh]; exact List.mem_cons_self ..))
        · rw [hid, Dict.contains_iff] at hc
          obtain ⟨x, hx⟩ := hc
          rw [hnew role] at hx
          cases hx
        · have hav : (m.accept role r).availablePool.get? id = some r := by
            rw [← hid]
            exact Dict.get?_set_self _ _ _
          have hin : ((m.accept role r).rolePool role).contains id = true := by
            refine Dict.contains_iff.mpr ⟨r, ?_⟩
            rw [accept, rolePool_modifyObj, rolePool_putAvailable, if_pos rfl, hid]
            exact Dict.get?_set_self _ _ _
          rw [he, addInstances_kept (m := m.accept role r) (by simpa [accept] using hlt') hin ?_ true, hav]
          intro x hx hxid
          rw [id_accept hr] at hxid
          rw [role_accept hr, hroles' x hx hxid, hrole]
      · have hfirst' : rs.find? (fun r => (m.obj r).id = id) = some r₀ := by simpa [hid] using hfirst
        rcases addInstances_cons r rs b m with ⟨hh, he⟩ | ⟨hh, hnone, _⟩ | ⟨role, hh, _, _, he⟩ |
          ⟨role, hh, _, _, he⟩
        · rw [he]
          exact ih hlt' hfirst' hnew hun (hh ▸ hvalid) hroles' b
        · exact absurd hnone (hvalid r (by rw [hh]; exact List.mem_cons_self ..))
        · rw [he]
          exact ih hlt' hfirst' hnew hun (fun x hx => hvalid x (by rw [hh]; exact List.mem_cons_of_mem _ hx)) hroles' b
        · have hnew' : ∀ role', ((m.accept role r).rolePool role').get? id = none := by
            intro role'
            rw [accept, rolePool_modifyObj, rolePool_putAvailable]
            split
            · rw [Dict.get?_set_ne (Ne.symm hid)]
              exact hnew role
            · exact hnew role'
          rw [he]
          refine ih (m := m.accept role r) (by simpa [accept] using hlt') ?_ hnew' (by simpa [accept] using hun) ?_ ?_ true
          · simpa only [id_accept hr] using hfirst'
          · intro x hx
            rw [handedRefs_accept hr] at hx
            rw [role_accept hr]
            exact hvalid x (by rw [hh]; exact List.mem_cons_of_mem _ hx)
          · intro x hx
            rw [id_accept hr, role_accept hr, role_accept hr]
            exact hroles' x hx

/-! ## Pairs -/

theorem mem_availablePairs {id eid : Int} :
    (id, eid) ∈ m.availablePairs ↔ ∃ r, m.availablePool.get? id = some r ∧ eid ∈ (m.obj r).endpointIds := Iff.rfl

theorem availablePairs_congr (hav : m'.availablePool = m.availablePool)
    (hobj : ∀ id r, m.availablePool.get? id = some r → (m'.obj r).layout = (m.obj r).layout) :
    m'.availablePairs = m.availablePairs := by
  ext ⟨id, eid⟩
  rw [mem_availablePairs, mem_availablePairs, hav]
  refine exists_congr fun r => and_congr_right fun hr => ?_
  rw [Instance.endpointIds_eq, Instance.endpointIds_eq, hobj id r hr]

theorem SamePools.availablePairs (hi : Inv m) (h : SamePools m m') : m'.availablePairs = m.availablePairs :=
  availablePairs_congr h.availablePool fun id r hr => by rw [h.obj r (hi.available hr).1]

theorem Inv.availablePairs_updateInstanceWorkload (hi : Inv m) (iid eid : Int) (change : Workload) :
    (m.updateInstanceWorkload iid eid change).availablePairs = m.availablePairs := by
  rcases hi.updateInstanceWorkload_cases iid eid change with ⟨_, he⟩ | ⟨r', a, _, _, ha', _, _, _, _, he⟩
  · rw [he]
  · have hr := (hi.available ha').1
    rw [he]
    refine availablePairs_congr rfl fun id r _ => ?_
    have h₁ := obj_modifyObj_congr (f := (·.addGathered change)) (g := Instance.layout) (fun _ => rfl) hr r
    exact (obj_modifyObj_congr (f := (·.addEndpointWorkload a.pod a.key change)) (g := Instance.layout)
      (fun _ => Instance.layout_addEndpointWorkload _ _ _ _) (by simpa using hr) r).trans h₁

theorem availablePairs_ne_of_gone {id : Int} (h : m.HasEndpoints id) (hgone : m'.availablePool.get? id = none) :
    m'.availablePairs ≠ m.availablePairs := by
  obtain ⟨r, hr, hne⟩ := h
  obtain ⟨eid, heid⟩ := List.exists_mem_of_ne_nil _ hne
  intro heq
  have hmem : (id, eid) ∈ m'.availablePairs := by
    rw [heq]
    exact ⟨r, hr, heid⟩
  obtain ⟨r', hr', -⟩ := hmem
  rw [hgone] at hr'
  cases hr'

theorem availablePairs_ne_of_new {id : Int} (hnone : m.availablePool.get? id = none) (h : m'.HasEndpoints id) :
    m'.availablePairs ≠ m.availablePairs := (availablePairs_ne_of_gone h hnone).symm

/-! ## A refresh -/

section Refresh

variable {instances : List Instance}

theorem not_mem_currentIds_alloc {id : Int} (h : id ∉ m.currentIds) : id ∉ (m.alloc instances).2.currentIds := h

theorem find?_alloc {x : Instance} {id : Int} (h : instances.find? (fun y => y.id = id) = some x) :
    ∃ r, (m.alloc instances).1.find? (fun r => ((m.alloc instances).2.obj r).id = id) = some r ∧
      (m.alloc instances).2.obj r = x := by
  rw [← alloc_refs_map (m := m) instances, List.find?_map] at h
  obtain ⟨r, hr, hx⟩ := Option.map_eq_some_iff.1 h
  exact ⟨r, hr, hx⟩

/-- What a refresh is handed has valid roles and one role for an id. -/
structure Clean (m : InstanceManager) (event : EventType) (instances : List Instance) : Prop where
  valid : ∀ x ∈ m.handed event instances, PDRole.ofString? x.role ≠ none
  oneRole : ∀ x ∈ m.handed event instances, ∀ y ∈ m.handed event instances, y.id = x.id → y.role = x.role

theorem clean_of_roleKept {event : EventType} (hv : ¬ m.Invalid event instances)
    (hr : RoleKept m (.refresh event instances)) : Clean m event instances := by
  have hvalid : ∀ x ∈ m.handed event instances, PDRole.ofString? x.role ≠ none := fun x hx hn => hv ⟨x, hx, hn⟩
  have hall : m.admitted event instances = m.handed event instances := by
    rw [admitted, List.takeWhile_eq_self_iff]
    intro x hx
    exact Option.isSome_iff_ne_none.2 (hvalid x hx)
  have hkept : ∀ x ∈ m.handed event instances, ∀ y ∈ m.handed event instances, y.id = x.id → y.role = x.role := by
    rw [← hall]
    exact fun x hx => (hr x hx).2
  exact ⟨hvalid, hkept⟩

theorem hasEndpoints_of_first {rs : List Ref} {m₁ : InstanceManager} (hlt : ∀ r ∈ rs, r < m₁.heap.length) {b : Bool}
    {id : Int} {r : Ref} (hav : (addInstances b rs m₁).2.availablePool.get? id = some r)
    (hne : (m₁.obj r).endpointIds ≠ []) : (addInstances b rs m₁).2.HasEndpoints id := by
  refine ⟨r, hav, ?_⟩
  rw [Instance.endpointIds_eq, addInstances_layout hlt, ← Instance.endpointIds_eq]
  exact hne

theorem enters_add (hs : NoStale m) (hc : Clean m .add instances) {x : Instance} (hnew : x.id ∉ m.currentIds)
    (hfirst : instances.find? (fun y => y.id = x.id) = some x) (hne : x.endpointIds ≠ []) :
    (m.refresh .add instances).2.HasEndpoints x.id := by
  obtain ⟨hav, hun⟩ := not_mem_currentIds.1 hnew
  obtain ⟨r, hr, hobj⟩ := find?_alloc (m := m) hfirst
  have hlt : ∀ r ∈ (m.alloc instances).1, r < (m.alloc instances).2.heap.length := fun r hr => (mem_alloc_refs hr).2
  have hhanded : ∀ r' ∈ (m.alloc instances).1, ((m.alloc instances).2.obj r').id = x.id →
      (m.alloc instances).2.obj r' ∈ m.handed .add instances := by
    intro r' hr' hid
    rw [← map_handedRefs]
    refine List.mem_map_of_mem (List.mem_filter.2 ⟨hr', ?_⟩)
    rw [hid, Bool.not_eq_true', Dict.contains_eq_false_iff]
    exact hun
  refine hasEndpoints_of_first hlt (r := r) (addInstances_first hlt hr ?_ hun ?_ ?_ false) (hobj ▸ hne)
  · intro role
    cases hp : (m.rolePool role).get? x.id with
    | none => cases role <;> exact hp
    | some r' =>
        rw [hs role x.id r' hp] at hav
        cases hav
  · intro r' hr'
    refine hc.valid _ ?_
    rw [← map_handedRefs]
    exact List.mem_map_of_mem hr'
  · intro r' hr' hid
    rw [hobj]
    have hx := hhanded r (List.mem_of_find?_eq_some hr) (by rw [hobj])
    rw [hobj] at hx
    exact hc.oneRole x hx _ (hhanded r' hr' hid) hid

theorem enters_set (hi : Inv m) (hs : NoStale m) (hc : Clean m .set instances) {x : Instance}
    (hnew : x.id ∉ m.currentIds) (hfirst : instances.find? (fun y => y.id = x.id) = some x)
    (hne : x.endpointIds ≠ []) : (m.refresh .set instances).2.HasEndpoints x.id := by
  have hia := hi.alloc instances
  have hsa : NoStale (m.alloc instances).2 := by
    intro role id r hr
    exact hs role id r (by cases role <;> exact hr)
  have hstate : (m.refresh .set instances).2 = _ := applySetDiff_snd hia (m.alloc instances).1
  rw [hstate]
  generalize hm₁ : (deleteInstances false ((m.alloc instances).2.computeSetDiff (m.alloc instances).1).2
    (m.alloc instances).2).2 = m₁
  have hheap : m₁.heap = (m.alloc instances).2.heap := by
    rw [← hm₁]
    exact deleteInstances_heap
  have hobj₁ : m₁.obj = (m.alloc instances).2.obj := by
    funext y
    simp only [obj, hheap]
  have hs₁ : NoStale m₁ := by
    rw [← hm₁]
    exact NoStale.deleteInstances hsa hia _ _
  obtain ⟨hav, hun⟩ := not_mem_currentIds.1 hnew
  have hav₁ : m₁.availablePool.get? x.id = none := by
    rw [← hm₁, Option.eq_none_iff_forall_ne_some]
    intro r hr
    have hav' := (deleteInstances_sub hia).1 hr
    change m.availablePool.get? x.id = some r at hav'
    rw [hav] at hav'
    cases hav'
  have hun₁ : m₁.unavailablePool.get? x.id = none := by
    rw [← hm₁, Option.eq_none_iff_forall_ne_some]
    intro r hr
    have hun' := (deleteInstances_sub hia).2 hr
    change m.unavailablePool.get? x.id = some r at hun'
    rw [hun] at hun'
    cases hun'
  obtain ⟨r, hr, hobj⟩ := find?_alloc (m := m) hfirst
  have hmem : ∀ r', r' ∈ ((m.alloc instances).2.computeSetDiff (m.alloc instances).1).1 →
      (m.alloc instances).2.obj r' ∈ m.handed .set instances := by
    intro r' hr'
    rw [← map_toAdd]
    exact List.mem_map_of_mem hr'
  have hlt : ∀ r' ∈ ((m.alloc instances).2.computeSetDiff (m.alloc instances).1).1, r' < m₁.heap.length := by
    intro r' hr'
    rw [hheap]
    exact (mem_alloc_refs (mem_toAdd.1 hr').1).2
  -- The instances to add are the listed ones that are unknown, so the first one of the id stays the first.
  have hfind : ((m.alloc instances).2.computeSetDiff (m.alloc instances).1).1.find? (fun r => (m₁.obj r).id = x.id) =
      some r := by
    rw [hobj₁, ← hr, computeSetDiff, List.find?_filter]
    congr 1
    funext r'
    by_cases hid : ((m.alloc instances).2.obj r').id = x.id
    · simp [hid, not_mem_currentIds_alloc hnew]
    · simp [hid]
  have hr_mem := List.mem_of_find?_eq_some hfind
  refine hasEndpoints_of_first hlt (r := r) (addInstances_first hlt hfind ?_ hun₁ ?_ ?_ false) ?_
  · intro role
    cases hp : (m₁.rolePool role).get? x.id with
    | none => rfl
    | some r' =>
        rw [hs₁ role x.id r' hp] at hav₁
        cases hav₁
  · intro r' hr'
    rw [hobj₁]
    exact hc.valid _ (hmem r' (List.mem_of_mem_filter hr'))
  · intro r' hr' hid
    rw [hobj₁] at hid ⊢
    exact hc.oneRole _ (hmem r hr_mem) _ (hmem r' hr') (by rw [hid, hobj])
  · rw [hobj₁, hobj]
    exact hne

theorem gone_del (hi : Inv m) {x : Instance} (hx : x ∈ instances) :
    (m.refresh .del instances).2.availablePool.get? x.id = none := by
  have hspec := ((deleteInstances_spec (hi.alloc instances) (m.alloc instances).1 false).2 x.id).1
  rw [if_pos (by rw [alloc_ids]; exact List.mem_map_of_mem hx)] at hspec
  exact hspec

theorem gone_set (hi : Inv m) {id : Int} (hid : id ∉ instances.map Instance.id) (hav : id ∈ m.currentIds) :
    (m.refresh .set instances).2.availablePool.get? id = none := by
  have hia := hi.alloc instances
  have hstate : (m.refresh .set instances).2 = _ := applySetDiff_snd hia (m.alloc instances).1
  have hdel := ((deleteInstances_spec hia ((m.alloc instances).2.computeSetDiff (m.alloc instances).1).2 false).2 id).1
  rw [if_pos ((mem_toRemove hia).2 ⟨hav, by rw [alloc_ids]; exact hid⟩)] at hdel
  have hheap : (deleteInstances false ((m.alloc instances).2.computeSetDiff (m.alloc instances).1).2
      (m.alloc instances).2).2.heap = (m.alloc instances).2.heap := deleteInstances_heap
  rw [hstate, (addInstances_frame ?_ id ?_ false).1, hdel]
  · intro r hr
    rw [hheap]
    exact (mem_alloc_refs (mem_toAdd.1 hr).1).2
  · intro hmem
    obtain ⟨r, hr, hrid⟩ := List.mem_map.1 hmem
    have hlisted : id ∈ (m.alloc instances).1.map fun r => ((m.alloc instances).2.obj r).id := by
      refine List.mem_map.2 ⟨r, (mem_toAdd.1 hr).1, ?_⟩
      simpa only [obj, hheap] using hrid
    rw [alloc_ids] at hlisted
    exact hid hlisted

/-- Where an instance with an endpoint comes or goes, the pairs change. -/
theorem availablePairs_refresh_ne (hi : Inv m) (hs : NoStale m) {event : EventType} (hc : Clean m event instances)
    (h : m.MovesPairs event instances) : (m.refresh event instances).2.availablePairs ≠ m.availablePairs := by
  cases event with
  | add =>
      obtain ⟨x, hnew, hfirst, hne⟩ := h
      exact availablePairs_ne_of_new (not_mem_currentIds.1 hnew).1 (enters_add hs hc hnew hfirst hne)
  | del =>
      obtain ⟨x, hx, hends⟩ := h
      exact availablePairs_ne_of_gone hends (gone_del hi hx)
  | set =>
      rcases h with ⟨id, hid, hends⟩ | ⟨x, hnew, hfirst, hne⟩
      · refine availablePairs_ne_of_gone hends (gone_set hi hid ?_)
        obtain ⟨r, hr, -⟩ := hends
        exact mem_currentIds.2 (.inl ⟨r, hr⟩)
      · exact availablePairs_ne_of_new (not_mem_currentIds.1 hnew).1 (enters_set hi hs hc hnew hfirst hne)

theorem changes_of_announces (hs : NoStale m) {event : EventType} (hc : Clean m event instances)
    (h : m.Announces event instances) : m.Changes event instances := by
  cases event with
  | add => exact h
  | del => exact h
  | set =>
      rcases h with h | h
      · exact .inl h
      · obtain ⟨x, hx⟩ := List.exists_mem_of_ne_nil _ h
        refine .inr ⟨x, ?_, ?_⟩
        · rw [admitted, List.takeWhile_eq_self_iff.2 fun y hy => Option.isSome_iff_ne_none.2 (hc.valid y hy)]
          exact hx
        · have hnew : x.id ∉ m.currentIds := by simpa using (List.mem_filter.1 hx).2
          unfold refused
          split
          · rfl
          · rename_i role _
            rw [Dict.contains_eq_false_iff, Option.eq_none_iff_forall_ne_some]
            intro r hr
            have hav := hs role x.id r hr
            rw [(not_mem_currentIds.1 hnew).1] at hav
            cases hav

end Refresh

end InstanceManager

namespace WorkloadSharedMemoryWriter

variable {w : WorkloadSharedMemoryWriter} {m : InstanceManager}

/-! ## The version of the writer -/

@[simp] theorem instanceVersion_writeHeader (w : WorkloadSharedMemoryWriter) :
    w.writeHeader.2.instanceVersion = w.instanceVersion := by
  unfold writeHeader
  dsimp only
  split <;> rfl

theorem instanceVersion_writeSnapshot (h : ∀ entry ∈ m.workloadEntries, EntryFits entry) :
    (w.writeSnapshot m).2.instanceVersion = w.instanceVersion + 1 := by
  have hfits : ∀ e ∈ (m.workloadEntries.take w.maxEntries).zipIdx, EntryFits e.1 := by
    intro e he
    exact h _ (List.mem_of_mem_take (List.fst_mem_of_mem_zipIdx he))
  have hnodup : ((m.workloadEntries.take w.maxEntries).zipIdx.map Prod.snd).Nodup := by
    rw [List.zipIdx_map_snd]
    exact List.nodup_range'
  obtain ⟨buf, hw, -, -⟩ := writeEntries_spec hfits hnodup
    { w with
      slotMap := (collectEntriesAndSlotMap m w.maxEntries).2
      entryCount := (m.workloadEntries.take w.maxEntries).length }
  unfold writeSnapshot
  simp only [collectEntriesAndSlotMap] at hw ⊢
  rw [hw, instanceVersion_writeHeader]

theorem instanceVersion_writeSingleEntry {iid eid : Int} (h : w.slotMap.contains (iid, eid) = true) :
    (w.writeSingleEntry m iid eid).2.1.instanceVersion = w.instanceVersion := by
  obtain ⟨slot, hslot⟩ := Dict.contains_iff.1 h
  unfold writeSingleEntry
  simp only [hslot]
  split
  · rfl
  · rfl
  · unfold writeEntryAtSlot
    split
    · rename_i he
      split at he
      · cases he
        rfl
      · cases he
    · rename_i he
      split at he
      · cases he
      · cases he
        exact instanceVersion_writeHeader _

end WorkloadSharedMemoryWriter

namespace SchedulerServer

open InstanceManager

variable {s : SchedulerServer}

/-! ## One request -/

theorem handle_workload {request : SchedulerRequest} (hr : ∀ data, request ≠ .refreshInstances data) :
    s.writtenPair request = none ∧ s.handle request = s ∨
    ∃ iid eid change, s.writtenPair request = some (iid, eid) ∧
      s.handle request = ((s.updateWorkload iid eid change).writeSingleEntry iid eid).2 := by
  cases request with
  | refreshInstances data => exact absurd rfl (hr data)
  | allocateOnly data =>
      obtain ⟨instanceId, endpointId, role, reqId, workload⟩ := data
      simp only [handle, dispatch, handleAllocateOnly, writtenPair]
      cases instanceId with
      | none => exact .inl ⟨rfl, rfl⟩
      | some iid =>
          cases endpointId with
          | none => exact .inl ⟨rfl, rfl⟩
          | some eid =>
              cases workload with
              | none => exact .inl ⟨rfl, rfl⟩
              | some change =>
                  by_cases hhas : s.instanceManager.hasInstanceEndpoint iid eid = true
                  · refine .inr ⟨iid, eid, change, by simp [hhas], ?_⟩
                    simp only [hhas, if_true]
                    split <;> simp_all
                  · exact .inl ⟨by simp [hhas], by simp [hhas]⟩
  | updateWorkload data =>
      obtain ⟨instanceId, endpointId, role, reqId, action, workload⟩ := data
      simp only [handle, dispatch, handleUpdateWorkload, writtenPair]
      cases instanceId with
      | none => exact .inl ⟨rfl, rfl⟩
      | some iid =>
          cases endpointId with
          | none => exact .inl ⟨rfl, rfl⟩
          | some eid =>
              cases workload with
              | none => exact .inl ⟨rfl, rfl⟩
              | some change =>
                  cases haction : WorkloadAction.ofString? action with
                  | none => exact .inl ⟨by simp, rfl⟩
                  | some a =>
                      by_cases hrole : role ≠ "" ∧ PDRole.ofString? role = none
                      · exact .inl ⟨by simp [hrole], by simp [hrole]⟩
                      · have hok : role = "" ∨ PDRole.ofString? role ≠ none := by
                          by_cases hempty : role = ""
                          · exact .inl hempty
                          · exact .inr fun hn => hrole ⟨hempty, hn⟩
                        refine .inr ⟨iid, eid, change, by simp [hok], ?_⟩
                        simp only [if_neg hrole]
                        split <;> simp_all

/-- What the requests keep of the pools. -/
structure PairsInv (m : InstanceManager) : Prop where
  inv : m.Inv
  noStale : m.NoStale
  fits : PooledAll Instance.FitsShm m

theorem pairsInv_init : PairsInv {} := ⟨inv_init, noStale_init, pooledAll_init⟩

theorem PairsInv.entries_fit {m : InstanceManager} (h : PairsInv m) :
    ∀ entry ∈ m.workloadEntries, WorkloadSharedMemoryWriter.EntryFits entry := by
  apply workloadEntries_fit
  intro role r hr
  obtain ⟨id, hid⟩ := Dict.mem_values_iff.mp hr
  exact h.fits.rolePool role id r hid

theorem PairsInv.step {m : InstanceManager} (h : PairsInv m) (op : Op) (hr : RoleKept m op)
    (hl : Lists Instance.FitsShm op) : PairsInv (m.step op) :=
  ⟨h.inv.step op, h.noStale.step h.inv hr, h.fits.step Instance.ignoresWorkload_fitsShm h.inv hl⟩

theorem pools_writeSingleEntry (hi : s.instanceManager.Inv) (iid eid : Int) (change : Workload) :
    ((s.updateWorkload iid eid change).writeSingleEntry iid eid).2.instanceManager = s.instanceManager ∨
    ((s.updateWorkload iid eid change).writeSingleEntry iid eid).2.instanceManager =
      s.instanceManager.updateInstanceWorkload iid eid change := by
  unfold SchedulerServer.updateWorkload
  split
  · exact .inr (instanceManager_writeSingleEntry (hi.updateInstanceWorkload iid eid change) iid eid).1
  · exact .inl (instanceManager_writeSingleEntry hi iid eid).1

theorem countsPairs_quiet (h : PairsInv s.instanceManager) {data : RefreshInstancesRequest} {event : EventType}
    (hevent : EventType.ofString? data.eventType = some event)
    (hv : ¬ s.instanceManager.Invalid event data.instances) (hquiet : ¬ s.instanceManager.Announces event data.instances) :
    s.CountsPairs (.refreshInstances data) := by
  have hout := refreshOutcome h.inv event data.instances
  have hres : (s.instanceManager.refresh event data.instances).1 ≠ .ok true := by
    intro htrue
    obtain ⟨b, hb, hann⟩ := hout.returns hv
    rw [htrue] at hb
    cases hb
    exact hquiet (hann.1 rfl)
  have hstate : s.handle (.refreshInstances data) = _ := (handleRefreshInstances_quiet hevent hres).2
  have hsame := hout.samePools.2 fun hc => hquiet (changes_announces hc)
  unfold CountsPairs
  rw [hstate]
  exact iff_of_false (Nat.lt_irrefl _) fun hne => hne (hsame.availablePairs h.inv)

theorem version_refreshed {data : RefreshInstancesRequest} {event : EventType}
    (hevent : EventType.ofString? data.eventType = some event)
    (hres : (s.instanceManager.refresh event data.instances).1 = .ok true)
    (hfit : ∀ entry ∈ (s.instanceManager.refresh event data.instances).2.workloadEntries,
      WorkloadSharedMemoryWriter.EntryFits entry) :
    (s.handle (.refreshInstances data)).workloadWriter.instanceVersion = s.workloadWriter.instanceVersion + 1 ∧
    (s.handle (.refreshInstances data)).instanceManager = (s.instanceManager.refresh event data.instances).2 := by
  have hversion := WorkloadSharedMemoryWriter.instanceVersion_writeSnapshot (w := s.workloadWriter) hfit
  simp only [handle, dispatch, handleRefreshInstances, if_neg (eventType_ne_empty hevent), hevent]
  rcases hr : s.instanceManager.refresh event data.instances with ⟨res, m'⟩
  rw [hr] at hres hversion
  cases hres
  rcases hw : s.workloadWriter.writeSnapshot m' with ⟨res', w'⟩
  simp only [hw] at hversion ⊢
  cases res' with
  | error e => exact ⟨hversion, rfl⟩
  | ok u => exact ⟨hversion, rfl⟩

theorem countsPairs_refresh (h : PairsInv s.instanceManager) {data : RefreshInstancesRequest}
    (hok : s.VersionSound (.refreshInstances data)) : s.CountsPairs (.refreshInstances data) := by
  cases hevent : EventType.ofString? data.eventType with
  | none =>
      have hstate : s.handle (.refreshInstances data) = s := handleRefreshInstances_none hevent
      unfold CountsPairs
      rw [hstate]
      exact iff_of_false (Nat.lt_irrefl _) fun hne => hne rfl
  | some event =>
      obtain ⟨hv, hkept, hlist, hmoves⟩ := hok event hevent
      by_cases hann : s.instanceManager.Announces event data.instances
      · have hc := clean_of_roleKept hv hkept
        have hchanges := changes_of_announces h.noStale hc hann
        obtain ⟨b, hb, hiff⟩ := (refreshOutcome h.inv event data.instances).returns hv
        rw [hiff.2 hann] at hb
        have hnext : PairsInv (s.instanceManager.refresh event data.instances).2 :=
          h.step (.refresh event data.instances) hkept hlist
        obtain ⟨hversion, hpools⟩ := version_refreshed hevent hb hnext.entries_fit
        unfold CountsPairs
        rw [hversion, hpools]
        exact iff_of_true (Nat.lt_succ_self _) (availablePairs_refresh_ne h.inv h.noStale hc (hmoves hchanges))
      · exact countsPairs_quiet h hevent hv hann

theorem availablePairs_workload (hi : s.instanceManager.Inv) {request : SchedulerRequest}
    (hr : ∀ data, request ≠ .refreshInstances data) :
    (s.handle request).instanceManager.availablePairs = s.instanceManager.availablePairs := by
  rcases handle_workload (s := s) hr with ⟨-, hstate⟩ | ⟨iid, eid, change, -, hstate⟩
  · rw [hstate]
  · rw [hstate]
    rcases pools_writeSingleEntry hi iid eid change with hp | hp
    · rw [hp]
    · rw [hp]
      exact hi.availablePairs_updateInstanceWorkload iid eid change

theorem countsPairs_workload (h : PairsInv s.instanceManager) {request : SchedulerRequest}
    (hr : ∀ data, request ≠ .refreshInstances data) (hok : s.VersionSound request) : s.CountsPairs request := by
  have hslots : ∀ p, s.writtenPair request = some p → s.workloadWriter.slotMap.contains p = true := by
    cases request with
    | refreshInstances data => exact absurd rfl (hr data)
    | allocateOnly data => exact hok
    | updateWorkload data => exact hok
  unfold CountsPairs
  rcases handle_workload hr with ⟨-, hstate⟩ | ⟨iid, eid, change, hpair, hstate⟩
  · rw [hstate]
    exact iff_of_false (Nat.lt_irrefl _) fun hne => hne rfl
  · rw [hstate]
    have hversion : ((s.updateWorkload iid eid change).writeSingleEntry iid eid).2.workloadWriter.instanceVersion =
        s.workloadWriter.instanceVersion := by
      obtain ⟨m, hu, -⟩ := updateWorkload_eq (s := s) iid eid change
      rw [hu]
      exact WorkloadSharedMemoryWriter.instanceVersion_writeSingleEntry (hslots _ hpair)
    rw [hversion, ← hstate]
    exact iff_of_false (Nat.lt_irrefl _) fun hne => hne (availablePairs_workload h.inv hr)

theorem countsPairs_of_sound (h : PairsInv s.instanceManager) {request : SchedulerRequest}
    (hok : s.VersionSound request) : s.CountsPairs request := by
  cases request with
  | refreshInstances data => exact countsPairs_refresh h hok
  | allocateOnly data => exact countsPairs_workload h (fun _ he => by cases he) hok
  | updateWorkload data => exact countsPairs_workload h (fun _ he => by cases he) hok

theorem PairsInv.handle (h : PairsInv s.instanceManager) {request : SchedulerRequest} (hok : s.VersionSound request) :
    PairsInv (s.handle request).instanceManager := by
  have hwork : ∀ request : SchedulerRequest, (∀ data, request ≠ .refreshInstances data) →
      PairsInv (s.handle request).instanceManager := by
    intro request hr
    rcases handle_workload (s := s) hr with ⟨-, hstate⟩ | ⟨iid, eid, change, -, hstate⟩
    · rw [hstate]
      exact h
    · rw [hstate]
      rcases pools_writeSingleEntry h.inv iid eid change with hp | hp
      · rw [hp]
        exact h
      · rw [hp]
        exact h.step (.updateWorkload iid eid change) trivial trivial
  cases request with
  | refreshInstances data =>
      have hmove := move_handle h.inv (.refreshInstances data)
      generalize s.handle (.refreshInstances data) = s' at hmove ⊢
      cases hmove with
      | idle => exact h
      | quiet eventType instances event hevent _ =>
          obtain ⟨-, hkept, hlist, -⟩ := hok event hevent
          exact h.step (.refresh event instances) hkept hlist
      | refreshed eventType instances event _ hevent _ _ =>
          obtain ⟨-, hkept, hlist, -⟩ := hok event hevent
          exact h.step (.refresh event instances) hkept hlist
      | workload iid eid m hm =>
          rcases hm with rfl | ⟨change, rfl⟩
          · exact h
          · exact h.step (.updateWorkload iid eid change) trivial trivial
  | allocateOnly data => exact hwork _ fun _ he => by cases he
  | updateWorkload data => exact hwork _ fun _ he => by cases he

end SchedulerServer

end PyMotor
