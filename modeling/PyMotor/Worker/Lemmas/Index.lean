import PyMotor.Pool.Lemmas.Basic
import PyMotor.Worker.System

/-!
# The indexes of the worker cache

`IndexInv` is what replacing a list keeps as long as no id of the list is cached under another role. It gives
`Indexed` and `Patchable`.
-/

namespace PyMotor

open Lib

namespace Instance

@[simp] theorem layout_setEndpointWorkload (inst : Instance) (pod : String) (key : Int) (w : Workload) :
    (inst.setEndpointWorkload pod key w).layout = inst.layout :=
  inst.layout_adjust pod key fun _ => rfl

@[simp] theorem layout_setGathered (inst : Instance) (w : Workload) : (inst.setGathered w).layout = inst.layout :=
  rfl

end Instance

namespace SchedulerInstanceCache

variable {c : SchedulerInstanceCache}

/-! ## Items of the endpoint index -/

theorem endpointItems_eq (r : Ref) (inst : Instance) :
    endpointItems r inst = inst.layout.map fun e => ((inst.id, e.2.2), ⟨r, e.1, e.2.1⟩) := by
  simp [endpointItems, Instance.layout]

theorem mem_endpointItems {r : Ref} {inst : Instance} {iid eid : Int} {a : EndpointRef} :
    ((iid, eid), a) ∈ endpointItems r inst ↔
      a.inst = r ∧ inst.id = iid ∧ ∃ ep, inst.endpointAt a.pod a.key = some ep ∧ ep.id = eid := by
  obtain ⟨ref, pod, key⟩ := a
  simp only [endpointItems, List.mem_map, Prod.mk.injEq, EndpointRef.mk.injEq, Prod.exists,
    Instance.endpointAt_iff]
  constructor
  · rintro ⟨pod', key', ep, hm, ⟨hid, heid⟩, rfl, rfl, rfl⟩
    exact ⟨rfl, hid, ep, hm, heid⟩
  · rintro ⟨rfl, hid, ep, hm, heid⟩
    exact ⟨pod, key, ep, hm, ⟨hid, heid⟩, rfl, rfl, rfl⟩

theorem nodup_endpointItems {inst : Instance} (h : inst.UniqueEndpoints) (r : Ref) :
    ((endpointItems r inst).map Prod.fst).Nodup := by
  have h' := Instance.uniqueEndpoints_iff.mp h
  have he : (endpointItems r inst).map Prod.fst = (inst.layout.map (·.2.2)).map fun eid => (inst.id, eid) := by
    simp [endpointItems_eq]
  rw [he]
  exact h'.map fun _ _ heq => (Prod.mk.inj heq).2

theorem nodup_flatMap_endpointItems {refs : List Ref} (hn : (refs.map fun r => (c.obj r).id).Nodup)
    (hu : ∀ r ∈ refs, (c.obj r).UniqueEndpoints) :
    ((refs.flatMap fun r => endpointItems r (c.obj r)).map Prod.fst).Nodup := by
  rw [List.map_flatMap, List.nodup_flatMap]
  refine ⟨fun r hr => nodup_endpointItems (hu r hr) r, ?_⟩
  have hpair := List.pairwise_map.mp hn
  refine hpair.imp fun {r r'} hne => ?_
  intro key hk hk'
  obtain ⟨⟨k, a⟩, hm, rfl⟩ := List.mem_map.mp hk
  obtain ⟨⟨k', a'⟩, hm', rfl⟩ := List.mem_map.mp hk'
  exact hne ((mem_endpointItems.mp hm).2.1.trans (mem_endpointItems.mp hm').2.1.symm)

/-! ## The invariant -/

structure IndexInv (c : SchedulerInstanceCache) : Prop where
  lt : ∀ {role r}, r ∈ c.instanceCache role → r < c.heap.length
  nodup : ∀ role, ((c.instanceCache role).map fun r => (c.obj r).id).Nodup
  apart : ∀ {role role' r r'}, r ∈ c.instanceCache role → r' ∈ c.instanceCache role' →
    (c.obj r).id = (c.obj r').id → role = role'
  unique : ∀ {role r}, r ∈ c.instanceCache role → (c.obj r).UniqueEndpoints
  instanceMap : ∀ {role id r}, (c.instanceMap role).get? id = some r ↔
    r ∈ c.instanceCache role ∧ (c.obj r).id = id
  endpointMap : ∀ {key a}, c.endpointMap.get? key = some a ↔
    ∃ role, ∃ r ∈ c.instanceCache role, (key, a) ∈ endpointItems r (c.obj r)

theorem indexInv_init : IndexInv {} where
  lt h := by cases h
  nodup _ := List.nodup_nil
  apart h := by cases h
  unique h := by cases h
  instanceMap := by simp
  endpointMap := by simp

theorem IndexInv.eq_of_id (h : IndexInv c) {role role' : PDRole} {r r' : Ref} (hr : r ∈ c.instanceCache role)
    (hr' : r' ∈ c.instanceCache role') (hid : (c.obj r).id = (c.obj r').id) : r = r' := by
  cases h.apart hr hr' hid
  exact List.inj_on_of_nodup_map (h.nodup role) hr hr' hid

theorem IndexInv.indexed (h : IndexInv c) : c.Indexed where
  nodup := h.nodup
  instanceMap := h.instanceMap
  endpointMap {iid eid a} := by
    rw [h.endpointMap]
    constructor
    · rintro ⟨role, r, hr, hm⟩
      obtain ⟨rfl, hid, hep⟩ := mem_endpointItems.mp hm
      exact ⟨⟨role, hr⟩, hid, hep⟩
    · rintro ⟨⟨role, hr⟩, hid, hep⟩
      exact ⟨role, a.inst, hr, mem_endpointItems.mpr ⟨rfl, hid, hep⟩⟩

/-! ## Changes of an object -/

theorem IndexInv.modifyObj (h : IndexInv c) (r : Ref) {f : Instance → Instance}
    (hid : ∀ x, (f x).id = x.id) (hlayout : ∀ x, (f x).layout = x.layout) : IndexInv (c.modifyObj r f) := by
  have oid : ∀ r', ((c.modifyObj r f).obj r').id = (c.obj r').id := Heap.read_modify_congr hid r
  have olayout : ∀ r', ((c.modifyObj r f).obj r').layout = (c.obj r').layout := Heap.read_modify_congr hlayout r
  constructor
  · intro role r' hr'
    have hlen : (c.modifyObj r f).heap.length = c.heap.length := by simp [SchedulerInstanceCache.modifyObj]
    rw [hlen]
    exact h.lt hr'
  · intro role
    simp only [oid]
    exact h.nodup role
  · intro role role' r₁ r₂ h₁ h₂ he
    rw [oid, oid] at he
    exact h.apart h₁ h₂ he
  · intro role r' hr'
    rw [Instance.uniqueEndpoints_iff, olayout, ← Instance.uniqueEndpoints_iff]
    exact h.unique hr'
  · intro role id r'
    rw [oid]
    exact h.instanceMap
  · intro key a
    simp only [endpointItems_eq, oid, olayout]
    simp only [← endpointItems_eq]
    exact h.endpointMap

theorem IndexInv.alloc (h : IndexInv c) (instances : List Instance) :
    IndexInv { c with heap := (c.heap.alloc instances).2 } := by
  have hobj : ∀ {role r}, r ∈ c.instanceCache role →
      ({ c with heap := (c.heap.alloc instances).2 } : SchedulerInstanceCache).obj r = c.obj r :=
    fun hr => Heap.read_alloc_old (h.lt hr) instances
  constructor
  · intro role r hr
    rw [Heap.length_alloc]
    exact Nat.lt_add_right _ (h.lt hr)
  · intro role
    rw [List.map_congr_left fun r hr => congrArg Instance.id (hobj hr)]
    exact h.nodup role
  · intro role role' r r' hr hr' he
    rw [hobj hr, hobj hr'] at he
    exact h.apart hr hr' he
  · intro role r hr
    rw [hobj hr]
    exact h.unique hr
  · intro role id r
    refine h.instanceMap.trans (and_congr_right fun hr => ?_)
    rw [hobj hr]
  · intro key a
    refine h.endpointMap.trans (exists_congr fun role => exists_congr fun r => and_congr_right fun hr => ?_)
    rw [hobj hr]

/-! ## Replacing a list -/

@[simp] theorem obj_replaceAll (role : PDRole) (refs : List Ref) (r : Ref) :
    (c.replaceAll role refs).obj r = c.obj r := rfl

@[simp] theorem heap_replaceAll (role : PDRole) (refs : List Ref) : (c.replaceAll role refs).heap = c.heap := rfl

theorem instanceCache_replaceAll (role role' : PDRole) (refs : List Ref) :
    (c.replaceAll role refs).instanceCache role' = if role' = role then refs else c.instanceCache role' := by
  simp [replaceAll, applyRoleUnderLock, Function.update_apply]

theorem mem_replaceAll {role role' : PDRole} {refs : List Ref} {r : Ref} :
    r ∈ (c.replaceAll role refs).instanceCache role' ↔
      role' = role ∧ r ∈ refs ∨ role' ≠ role ∧ r ∈ c.instanceCache role' := by
  rw [instanceCache_replaceAll]
  by_cases h : role' = role <;> simp [h]

/-- What `replace_all` is given: cached objects with distinct ids that no other role caches. -/
structure Replaceable (c : SchedulerInstanceCache) (role : PDRole) (refs : List Ref) : Prop where
  lt : ∀ r ∈ refs, r < c.heap.length
  nodup : (refs.map fun r => (c.obj r).id).Nodup
  unique : ∀ r ∈ refs, (c.obj r).UniqueEndpoints
  notElsewhere : ∀ r ∈ refs, ∀ role' ≠ role, ¬ c.Caches role' (c.obj r).id

theorem get?_endpointMap_replaceAll {role : PDRole} {refs : List Ref} (h : Replaceable c role refs) {key : Int × Int}
    {a : EndpointRef} : (c.replaceAll role refs).endpointMap.get? key = some a ↔
      (∃ r ∈ refs, (key, a) ∈ endpointItems r (c.obj r)) ∨
      (∀ r ∈ refs, key ∉ (endpointItems r (c.obj r)).map Prod.fst) ∧ key.1 ∉ (c.instanceMap role).keys ∧
        c.endpointMap.get? key = some a := by
  unfold replaceAll applyRoleUnderLock
  rw [Dict.get?_update_iff (nodup_flatMap_endpointItems h.nodup h.unique), List.map_flatMap]
  simp only [List.mem_flatMap, Dict.get?_filterKeys, decide_eq_true_eq, not_exists, not_and]
  by_cases hk : key.1 ∉ (c.instanceMap role).keys
  · simp [hk]
  · simp [hk]

theorem IndexInv.replaceAll (hi : IndexInv c) {role : PDRole} {refs : List Ref} (h : Replaceable c role refs) :
    IndexInv (c.replaceAll role refs) := by
  constructor
  · intro role' r hr
    rcases mem_replaceAll.mp hr with ⟨-, hr⟩ | ⟨-, hr⟩
    · exact h.lt r hr
    · exact hi.lt hr
  · intro role'
    rw [instanceCache_replaceAll]
    split
    · exact h.nodup
    · exact hi.nodup role'
  · intro role₁ role₂ r₁ r₂ h₁ h₂ he
    rcases mem_replaceAll.mp h₁ with ⟨rfl, hr₁⟩ | ⟨hne₁, hr₁⟩ <;>
      rcases mem_replaceAll.mp h₂ with ⟨rfl, hr₂⟩ | ⟨hne₂, hr₂⟩
    · rfl
    · exact absurd ⟨r₂, hr₂, he.symm⟩ (h.notElsewhere r₁ hr₁ role₂ hne₂)
    · exact absurd ⟨r₁, hr₁, he⟩ (h.notElsewhere r₂ hr₂ role₁ hne₁)
    · exact hi.apart hr₁ hr₂ he
  · intro role' r hr
    rcases mem_replaceAll.mp hr with ⟨-, hr⟩ | ⟨-, hr⟩
    · exact h.unique r hr
    · exact hi.unique hr
  · intro role' id r
    rw [mem_replaceAll]
    by_cases hrole : role' = role
    · subst hrole
      have hn : ((refs.map fun r => ((c.obj r).id, r)).map Prod.fst).Nodup := by
        rw [List.map_map]
        exact h.nodup
      simp only [SchedulerInstanceCache.replaceAll, applyRoleUnderLock, byId, Function.update_self,
        Dict.get?_update_iff hn]
      simp [SchedulerInstanceCache.obj, and_comm]
    · simp only [SchedulerInstanceCache.replaceAll, applyRoleUnderLock, ne_eq, hrole, not_false_eq_true,
        Function.update_of_ne, hi.instanceMap, false_and, true_and, false_or]
      rfl
  · intro key a
    rw [get?_endpointMap_replaceAll h, hi.endpointMap]
    constructor
    · rintro (⟨r, hr, hm⟩ | ⟨-, hk, role', r, hr, hm⟩)
      · exact ⟨role, r, mem_replaceAll.mpr (Or.inl ⟨rfl, hr⟩), hm⟩
      · refine ⟨role', r, mem_replaceAll.mpr (Or.inr ⟨?_, hr⟩), hm⟩
        -- The ids of the replaced role are the keys that were deleted.
        rintro rfl
        have hid := (mem_endpointItems.mp hm).2.1
        exact hk (Dict.mem_keys_iff.mpr ⟨r, hi.instanceMap.mpr ⟨hr, hid⟩⟩)
    · rintro ⟨role', r, hmem, hm⟩
      have hid := (mem_endpointItems.mp hm).2.1
      rcases mem_replaceAll.mp hmem with ⟨-, hr⟩ | ⟨hne, hr⟩
      · exact Or.inl ⟨r, hr, hm⟩
      · refine Or.inr ⟨fun r' hr' hk => ?_, fun hk => ?_, role', r, hr, hm⟩
        · obtain ⟨⟨k, a'⟩, hm', rfl⟩ := List.mem_map.mp hk
          have hid' := (mem_endpointItems.mp hm').2.1
          exact h.notElsewhere r' hr' role' hne ⟨r, hr, hid.trans hid'.symm⟩
        · obtain ⟨r', hr'⟩ := Dict.mem_keys_iff.mp hk
          obtain ⟨hr', hid'⟩ := hi.instanceMap.mp hr'
          exact hne (hi.apart hr hr' (hid.trans hid'.symm))

end SchedulerInstanceCache

/-!
## Patching a workload

With sound indexes a patch finds the endpoint object and sums over exactly the endpoints of its instance.
-/

/-- The instance with the sum over its endpoints as its gathered workload. -/
def Instance.gathered (x : Instance) : Instance := x.setGathered (x.endpointList.map Endpoint.workload).sum

namespace SchedulerInstanceCache

variable {c : SchedulerInstanceCache}

theorem IndexInv.perm_items (hi : IndexInv c) {role : PDRole} {r : Ref} (hr : r ∈ c.instanceCache role) :
    (c.endpointMap.entries.filter fun e => e.1.1 = (c.obj r).id).Perm (endpointItems r (c.obj r)) := by
  apply (List.perm_ext_iff_of_nodup (c.endpointMap.nodup_entries.filter _)
    (List.Nodup.of_map _ (nodup_endpointItems (hi.unique hr) r))).mpr
  rintro ⟨⟨iid, eid⟩, a⟩
  simp only [List.mem_filter, decide_eq_true_eq, ← Dict.get?_eq_some_iff, hi.endpointMap]
  constructor
  · rintro ⟨⟨role', r', hr', hm⟩, hid⟩
    have hid' := (mem_endpointItems.mp hm).2.1
    obtain rfl := hi.eq_of_id hr' hr (hid'.trans hid)
    exact hm
  · intro hm
    exact ⟨⟨role, r, hr, hm⟩, (mem_endpointItems.mp hm).2.1.symm⟩

theorem IndexInv.gatheredOf_eq (hi : IndexInv c) {role : PDRole} {r : Ref} (hr : r ∈ c.instanceCache role) :
    c.gatheredOf (c.obj r).id = ((c.obj r).endpointList.map Endpoint.workload).sum := by
  unfold gatheredOf
  rw [((hi.perm_items hr).map _).sum_eq, ← Instance.map_endpointEntries, endpointItems, List.map_map, List.map_map]
  congr 1
  apply List.map_congr_left
  rintro ⟨pod, key, ep⟩ he
  have hat : (c.obj r).endpointAt pod key = some ep := Instance.endpointAt_iff.mpr he
  simp [endpointAt, hat]

/-- A patch of an endpoint that is not cached does nothing; otherwise it sets that endpoint's workload and
then the gathered workload of its instance. -/
theorem IndexInv.patch_cases (hi : IndexInv c) (iid eid : Int) (role : PDRole) (activeTokens activeKvCache : ℚ) :
    c.patchWorkloadFromShm iid eid role activeTokens activeKvCache = c ∨
    ∃ r ∈ c.instanceCache role, ∃ pod key ep, (c.obj r).id = iid ∧ (c.obj r).endpointAt pod key = some ep ∧
      ep.id = eid ∧
      c.patchWorkloadFromShm iid eid role activeTokens activeKvCache =
        ((c.modifyObj r (·.setEndpointWorkload pod key ⟨activeKvCache, activeTokens⟩)).modifyObj r
          (·.setGathered ((c.modifyObj r (·.setEndpointWorkload pod key
            ⟨activeKvCache, activeTokens⟩)).gatheredOf iid))) := by
  unfold patchWorkloadFromShm
  cases hr : (c.instanceMap role).get? iid with
  | none => exact Or.inl rfl
  | some r =>
      cases ha : c.endpointMap.get? (iid, eid) with
      | none => exact Or.inl rfl
      | some a =>
          obtain ⟨hr, hid⟩ := hi.instanceMap.mp hr
          obtain ⟨role', r', hr', hm⟩ := hi.endpointMap.mp ha
          obtain ⟨hinst, hid', ep, hat, heid⟩ := mem_endpointItems.mp hm
          obtain rfl : r' = r := hi.eq_of_id hr' hr (hid'.trans hid.symm)
          refine Or.inr ⟨r', hr, a.pod, a.key, ep, hid, hat, heid, ?_⟩
          simp only [hinst]

theorem IndexInv.patch (hi : IndexInv c) (iid eid : Int) (role : PDRole) (activeTokens activeKvCache : ℚ) :
    IndexInv (c.patchWorkloadFromShm iid eid role activeTokens activeKvCache) := by
  rcases hi.patch_cases iid eid role activeTokens activeKvCache with h | ⟨r, hr, pod, key, ep, -, -, -, h⟩
  · rw [h]
    exact hi
  · rw [h]
    have hset := hi.modifyObj r (f := (·.setEndpointWorkload pod key ⟨activeKvCache, activeTokens⟩))
      (fun _ => rfl) (fun x => x.layout_setEndpointWorkload pod key _)
    exact hset.modifyObj r (fun _ => rfl) (fun _ => rfl)

theorem IndexInv.obj_patch (hi : IndexInv c) {role : PDRole} {r : Ref} (hr : r ∈ c.instanceCache role) {pod : String}
    {key : Int} {ep : Endpoint} (hat : (c.obj r).endpointAt pod key = some ep) (activeTokens activeKvCache : ℚ) :
    (c.patchWorkloadFromShm (c.obj r).id ep.id role activeTokens activeKvCache).obj r =
      ((c.obj r).setEndpointWorkload pod key ⟨activeKvCache, activeTokens⟩).gathered := by
  have hmap : (c.instanceMap role).get? (c.obj r).id = some r := hi.instanceMap.mpr ⟨hr, rfl⟩
  have hep : c.endpointMap.get? ((c.obj r).id, ep.id) = some ⟨r, pod, key⟩ :=
    hi.endpointMap.mpr ⟨role, r, hr, mem_endpointItems.mpr ⟨rfl, rfl, ep, hat, rfl⟩⟩
  have hlt := hi.lt hr
  have hset := hi.modifyObj r (f := (·.setEndpointWorkload pod key ⟨activeKvCache, activeTokens⟩))
    (fun _ => rfl) (fun x => x.layout_setEndpointWorkload pod key _)
  have hobj : (c.modifyObj r (·.setEndpointWorkload pod key ⟨activeKvCache, activeTokens⟩)).obj r =
      (c.obj r).setEndpointWorkload pod key ⟨activeKvCache, activeTokens⟩ := Heap.read_modify_self hlt _
  have hsum := hset.gatheredOf_eq hr
  rw [hobj] at hsum
  simp only [patchWorkloadFromShm, hmap, hep]
  refine (Heap.read_modify_self (hset.lt hr) _).trans ?_
  unfold obj at hobj hsum
  rw [hobj]
  exact congrArg (Instance.setGathered _) hsum

theorem IndexInv.patchable (hi : IndexInv c) : c.Patchable := by
  intro role r hr pod key ep hat activeTokens activeKvCache
  have hobj := hi.obj_patch hr hat activeTokens activeKvCache
  refine ⟨?_, ?_⟩
  · rw [hobj]
    refine (Instance.endpointAt_setEndpointWorkload _ pod pod key key _).trans ?_
    rw [if_pos ⟨rfl, rfl⟩, hat]
    rfl
  · rw [hobj]
    rfl

end SchedulerInstanceCache

end PyMotor
