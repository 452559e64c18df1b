import PyMotor.Pool.Lemmas.Basic

/-!
# Invariants of the pools

`Inv` holds after every run. `NoStale` says that the role pools hold nothing but the available objects;
it needs that no id enters a second role pool. `AllGathered` is the sum property of the pooled objects.
-/

namespace PyMotor.InstanceManager

open Lib

variable {G : InstanceManager → Ref → Prop} {m m' : InstanceManager}

/-- Valid for every run, also when an id comes back with another role. -/
structure Inv (m : InstanceManager) : Prop where
  available : ∀ {id r}, m.availablePool.get? id = some r →
    r < m.heap.length ∧ (m.obj r).id = id ∧
      ∃ role, PDRole.ofString? (m.obj r).role = some role ∧ (m.rolePool role).get? id = some r
  cache : ∀ {id r}, m.availablePool.get? id = some r →
    m.endpointIdCache.get? id = some (buildEndpointCache r (m.obj r))
  cacheKeys : ∀ {id c}, m.endpointIdCache.get? id = some c → ∃ r, m.availablePool.get? id = some r
  unavailable : ∀ {id r}, m.unavailablePool.get? id = some r →
    r < m.heap.length ∧ (m.obj r).id = id ∧ m.availablePool.get? id = none
  rolePool : ∀ {role id r}, (m.rolePool role).get? id = some r →
    r < m.heap.length ∧ (m.obj r).id = id ∧ PDRole.ofString? (m.obj r).role = some role

theorem inv_init : Inv {} where
  available h := by simp at h
  cache h := by simp at h
  cacheKeys h := by simp at h
  unavailable h := by simp at h
  rolePool {role _ _} h := by cases role <;> simp [InstanceManager.rolePool] at h

/-! ## Preservation by each elementary update -/

theorem inv_stop (m : InstanceManager) : Inv m.stop where
  available h := by simp [InstanceManager.stop] at h
  cache h := by simp [InstanceManager.stop] at h
  cacheKeys h := by simp [InstanceManager.stop] at h
  unavailable h := by simp [InstanceManager.stop] at h
  rolePool {role _ _} h := by cases role <;> simp [InstanceManager.stop, InstanceManager.rolePool] at h

theorem Inv.alloc (h : Inv m) (instances : List Instance) : Inv (m.alloc instances).2 := by
  have hlen := length_alloc (m := m) instances
  have hpool : ∀ role, (m.alloc instances).2.rolePool role = m.rolePool role := by
    intro role; cases role <;> rfl
  constructor
  · intro id r ha
    obtain ⟨hr, hid, role, hrole, hp⟩ := h.available ha
    rw [obj_alloc_old hr, hlen]
    exact ⟨Nat.lt_add_right _ hr, hid, role, hrole, by rw [hpool]; exact hp⟩
  · intro id r ha
    rw [obj_alloc_old (h.available ha).1]
    exact h.cache ha
  · exact h.cacheKeys
  · intro id r hu
    obtain ⟨hr, hid, hn⟩ := h.unavailable hu
    rw [obj_alloc_old hr, hlen]
    exact ⟨Nat.lt_add_right _ hr, hid, hn⟩
  · intro role id r hp
    rw [hpool] at hp
    obtain ⟨hr, hid, hrole⟩ := h.rolePool hp
    rw [obj_alloc_old hr, hlen]
    exact ⟨Nat.lt_add_right _ hr, hid, hrole⟩

theorem Inv.modifyObj (h : Inv m) {r : Ref} {f : Instance → Instance} (hr : r < m.heap.length)
    (hid : ∀ x, (f x).id = x.id) (hrole : ∀ x, (f x).role = x.role)
    (hcache : ∀ r x, buildEndpointCache r (f x) = buildEndpointCache r x) : Inv (m.modifyObj r f) := by
  have oid : ∀ r', ((m.modifyObj r f).obj r').id = (m.obj r').id := obj_modifyObj_congr hid hr
  have orole : ∀ r', ((m.modifyObj r f).obj r').role = (m.obj r').role := obj_modifyObj_congr hrole hr
  have ocache : ∀ r', buildEndpointCache r' ((m.modifyObj r f).obj r') = buildEndpointCache r' (m.obj r') :=
    fun r' => obj_modifyObj_congr (g := buildEndpointCache r') (hcache r') hr r'
  constructor
  · intro id r' ha
    rw [oid, orole, length_modifyObj]
    simpa using h.available ha
  · intro id r' ha
    rw [ocache]
    exact h.cache ha
  · exact h.cacheKeys
  · intro id r' hu
    rw [oid, length_modifyObj]
    exact h.unavailable hu
  · intro role id r' hp
    rw [rolePool_modifyObj] at hp
    rw [oid, orole, length_modifyObj]
    exact h.rolePool hp

theorem Inv.discard (h : Inv m) (id : Int) : Inv { m with unavailablePool := m.unavailablePool.erase id } where
  available ha := by
    obtain ⟨hr, hid, role, hrole, hp⟩ := h.available ha
    exact ⟨hr, hid, role, hrole, by cases role <;> exact hp⟩
  cache ha := h.cache ha
  cacheKeys hc := h.cacheKeys hc
  unavailable {id' r} hu := by
    simp only [Dict.get?_erase] at hu
    split at hu
    · cases hu
    · exact h.unavailable hu
  rolePool {role _ _} hp := by cases role <;> exact h.rolePool hp

theorem Inv.putAvailable (h : Inv m) {r : Ref} {role : PDRole} (hr : r < m.heap.length)
    (hrole : PDRole.ofString? (m.obj r).role = some role)
    (hp : (m.rolePool role).get? (m.obj r).id = none)
    (hu : m.unavailablePool.get? (m.obj r).id = none) : Inv (m.putAvailable role r) := by
  constructor
  · intro id r' ha
    rw [availablePool_putAvailable, Dict.get?_set] at ha
    split at ha
    · rename_i hid
      cases ha
      refine ⟨by simpa using hr, by simpa using hid.symm, role, by simpa using hrole, ?_⟩
      rw [rolePool_putAvailable, if_pos rfl, hid, Dict.get?_set_self]
    · rename_i hid
      obtain ⟨hr', hid', role', hrole', hp'⟩ := h.available ha
      refine ⟨by simpa using hr', by simpa using hid', role', by simpa using hrole', ?_⟩
      rw [rolePool_putAvailable]
      split
      · rename_i he; subst he; rw [Dict.get?_set_ne hid]; exact hp'
      · exact hp'
  · intro id r' ha
    rw [availablePool_putAvailable, Dict.get?_set] at ha
    rw [endpointIdCache_putAvailable, Dict.get?_set]
    split at ha
    · rename_i hid
      cases ha
      simp [hid]
    · rename_i hid
      simpa [hid] using h.cache ha
  · intro id c hc
    rw [endpointIdCache_putAvailable, Dict.get?_set] at hc
    rw [availablePool_putAvailable, Dict.get?_set]
    split at hc
    · rename_i hid; exact ⟨r, by simp [hid]⟩
    · rename_i hid; simpa [hid] using h.cacheKeys hc
  · intro id r' hu'
    rw [unavailablePool_putAvailable] at hu'
    obtain ⟨hr', hid', hn⟩ := h.unavailable hu'
    refine ⟨by simpa using hr', by simpa using hid', ?_⟩
    have hne : id ≠ (m.obj r).id := by rintro rfl; rw [hu] at hu'; cases hu'
    rw [availablePool_putAvailable, Dict.get?_set_ne hne]
    exact hn
  · intro role' id r' hp'
    rw [rolePool_putAvailable] at hp'
    simp only [heap_putAvailable, obj_putAvailable]
    split at hp'
    · rename_i he
      subst he
      rw [Dict.get?_set] at hp'
      split at hp'
      · rename_i hid; cases hp'; exact ⟨hr, hid.symm, hrole⟩
      · exact h.rolePool hp'
    · exact h.rolePool hp'

theorem Inv.dropAvailable (h : Inv m) (role : PDRole) (id : Int) : Inv (m.dropAvailable role id) := by
  constructor
  · intro id' r' ha'
    rw [availablePool_dropAvailable, Dict.get?_erase] at ha'
    split at ha'
    · cases ha'
    · rename_i hne
      obtain ⟨hr', hid', role', hrole', hp'⟩ := h.available ha'
      refine ⟨by simpa using hr', by simpa using hid', role', by simpa using hrole', ?_⟩
      rw [rolePool_dropAvailable]
      split
      · rename_i he; subst he; rw [Dict.get?_erase_ne hne]; exact hp'
      · exact hp'
  · intro id' r' ha'
    rw [availablePool_dropAvailable, Dict.get?_erase] at ha'
    rw [endpointIdCache_dropAvailable, Dict.get?_erase]
    split at ha'
    · cases ha'
    · rename_i hne; simpa [hne] using h.cache ha'
  · intro id' c hc
    rw [endpointIdCache_dropAvailable, Dict.get?_erase] at hc
    rw [availablePool_dropAvailable, Dict.get?_erase]
    split at hc
    · cases hc
    · rename_i hne; simpa [hne] using h.cacheKeys hc
  · intro id' r' hu'
    rw [unavailablePool_dropAvailable] at hu'
    obtain ⟨hr', hid', hn⟩ := h.unavailable hu'
    refine ⟨by simpa using hr', by simpa using hid', ?_⟩
    rw [availablePool_dropAvailable, Dict.get?_erase]
    split
    · rfl
    · exact hn
  · intro role' id' r' hp'
    rw [rolePool_dropAvailable] at hp'
    simp only [heap_dropAvailable, obj_dropAvailable]
    split at hp'
    · rename_i he
      subst he
      rw [Dict.get?_erase] at hp'
      split at hp'
      · cases hp'
      · exact h.rolePool hp'
    · exact h.rolePool hp'

theorem Inv.setUnavailable (h : Inv m) {id : Int} {r : Ref} (hr : r < m.heap.length)
    (hid : (m.obj r).id = id) (ha : m.availablePool.get? id = none) :
    Inv { m with unavailablePool := m.unavailablePool.set id r } where
  available ha := by
    obtain ⟨hr, hid, role, hrole, hp⟩ := h.available ha
    exact ⟨hr, hid, role, hrole, by cases role <;> exact hp⟩
  cache ha := h.cache ha
  cacheKeys hc := h.cacheKeys hc
  unavailable {id' r'} hu := by
    simp only [Dict.get?_set] at hu
    split at hu
    · rename_i he; cases hu; rw [he]; exact ⟨hr, hid, ha⟩
    · exact h.unavailable hu
  rolePool {role _ _} hp := by cases role <;> exact h.rolePool hp

/-! ## The workload update -/

theorem Inv.endpointCache (h : Inv m) {id : Int} {r : Ref} (ha : m.availablePool.get? id = some r) :
    m.endpointCache id r = buildEndpointCache r (m.obj r) := by
  rw [InstanceManager.endpointCache, h.cache ha, Option.getD_some]

theorem Inv.fillEndpointCache (h : Inv m) {id : Int} {r : Ref} (ha : m.availablePool.get? id = some r) :
    m.fillEndpointCache id r = m := by
  rw [InstanceManager.fillEndpointCache, if_pos (Dict.contains_iff.mpr ⟨_, h.cache ha⟩)]

theorem Inv.updateInstanceWorkload_cases (h : Inv m) (iid eid : Int) (change : Workload) :
    (m.hasInstanceEndpoint iid eid = false ∧ m.updateInstanceWorkload iid eid change = m) ∨
    (∃ r a ep, m.hasInstanceEndpoint iid eid = true ∧ m.availablePool.get? iid = some r ∧
      (buildEndpointCache r (m.obj r)).get? eid = some a ∧
      a.inst = r ∧ (m.obj r).endpointAt a.pod a.key = some ep ∧ ep.id = eid ∧
      m.updateInstanceWorkload iid eid change =
        (m.modifyObj r (·.addGathered change)).modifyObj r (·.addEndpointWorkload a.pod a.key change)) := by
  unfold updateInstanceWorkload hasInstanceEndpoint
  cases ha : m.availablePool.get? iid with
  | none => exact Or.inl ⟨rfl, rfl⟩
  | some r =>
      simp only [h.endpointCache ha, h.fillEndpointCache ha]
      cases hc : (buildEndpointCache r (m.obj r)).get? eid with
      | none => exact Or.inl ⟨Dict.contains_eq_false_iff.mpr hc, rfl⟩
      | some a =>
          obtain ⟨hinst, ep, hat, hid⟩ := buildEndpointCache_get? hc
          exact Or.inr ⟨r, a, ep, Dict.contains_iff.mpr ⟨a, hc⟩, rfl, hc, hinst, hat, hid, by simp only [hinst]⟩

theorem Inv.updateInstanceWorkload (h : Inv m) (iid eid : Int) (change : Workload) :
    Inv (m.updateInstanceWorkload iid eid change) := by
  rcases h.updateInstanceWorkload_cases iid eid change with ⟨_, he⟩ | ⟨r, a, ep, _, ha, _, _, _, _, he⟩
  · rw [he]; exact h
  · rw [he]
    have hr := (h.available ha).1
    have h' : Inv (m.modifyObj r (·.addGathered change)) :=
      h.modifyObj hr (fun _ => rfl) (fun _ => rfl) (fun _ _ => rfl)
    exact h'.modifyObj (by simpa using hr) (fun _ => rfl) (fun _ => rfl)
      (fun _ _ => buildEndpointCache_addEndpointWorkload _ _ _ _ _)

/-! ## Preservation by the calls -/

theorem Inv.poolStep (h : Inv m) (hs : PoolStep G m m') : Inv m' := by
  cases hs with
  | alloc instances => exact h.alloc instances
  | put hr hrole hp hu _ =>
      exact (h.putAvailable hr hrole hp hu).modifyObj (by simpa using hr) (fun _ => rfl) (fun _ => rfl)
        (fun _ _ => buildEndpointCache_initWorkload _ _)
  | @restore id r role hu hrole hp =>
      obtain ⟨hr, hid, _⟩ := h.unavailable hu
      refine (h.discard id).putAvailable hr hrole ?_ ?_
      · cases role <;> exact hp
      · show (m.unavailablePool.erase id).get? (m.obj r).id = none
        rw [hid, Dict.get?_erase_self]
  | discard id => exact h.discard id
  | @drop id _ role _ _ => exact h.dropAvailable role id
  | @park id r role ha hrole =>
      obtain ⟨hr, hid, _⟩ := h.available ha
      have h' : Inv { m.dropAvailable role id with
          unavailablePool := (m.dropAvailable role id).unavailablePool.set id r } :=
        (h.dropAvailable role id).setUnavailable (by simpa using hr) (by simpa using hid) (by simp)
      simpa using h'
  | work iid eid change => exact h.updateInstanceWorkload iid eid change
  | stop => exact inv_stop m

theorem Inv.poolSteps (h : Inv m) (hs : PoolSteps G m m') : Inv m' :=
  PoolSteps.invariant (fun h hs => h.poolStep hs) h hs

theorem Inv.step (h : Inv m) (op : Op) : Inv (m.step op) :=
  h.poolSteps (step_steps (G := fun _ _ => True) fun _ _ _ => refreshMeets_true _ _ _)

theorem inv_run (ops : List Op) : Inv (run InstanceManager.step {} ops) :=
  run_invariant' (I := Inv) (fun _ op h => h.step op) inv_init ops

/-!
## What the loops do to the pools

`_delete_instances` takes exactly the listed ids out and cannot raise in a reachable state.
`_add_instances` enters every listed object when the ids are new and distinct and the roles are valid.
-/

variable {m m' : InstanceManager}

theorem mem_currentIds {id : Int} :
    id ∈ m.currentIds ↔ (∃ r, m.availablePool.get? id = some r) ∨ ∃ r, m.unavailablePool.get? id = some r := by
  simp only [currentIds, List.mem_append, Dict.mem_keys_iff]

theorem not_mem_currentIds {id : Int} :
    id ∉ m.currentIds ↔ m.availablePool.get? id = none ∧ m.unavailablePool.get? id = none := by
  rw [mem_currentIds, not_or, not_exists, not_exists, ← Option.eq_none_iff_forall_ne_some,
    ← Option.eq_none_iff_forall_ne_some]

/-! ## Deleting -/

theorem deleteInstanceFromAvailablePool_spec (hi : Inv m) (id : Int) :
    (m.availablePool.get? id = none ∧ m.deleteInstanceFromAvailablePool id = (.ok false, m)) ∨
    (∃ r role, m.availablePool.get? id = some r ∧
      m.deleteInstanceFromAvailablePool id = (.ok true, m.dropAvailable role id)) := by
  rcases deleteInstanceFromAvailablePool_cases m id with h | ⟨r, role, ha, _, _, h⟩ | ⟨r, _, ha, hp, _⟩
  · exact Or.inl h
  · exact Or.inr ⟨r, role, ha, h⟩
  · -- The pooled object is in the pool of its role.
    obtain ⟨_, _, role, hrole, hp'⟩ := hi.available ha
    have hc := hp role hrole
    rw [Dict.contains_eq_false_iff, hp'] at hc; cases hc

theorem deleteInstances_spec (hi : Inv m) (rs : List Ref) (b : Bool) :
    (deleteInstances b rs m).1 = .ok (b || rs.any fun r => (m.obj r).id ∈ m.currentIds) ∧
    ∀ id,
      (deleteInstances b rs m).2.availablePool.get? id =
        (if id ∈ rs.map fun r => (m.obj r).id then none else m.availablePool.get? id) ∧
      (deleteInstances b rs m).2.unavailablePool.get? id =
        if id ∈ rs.map fun r => (m.obj r).id then none else m.unavailablePool.get? id := by
  induction rs generalizing m b with
  | nil => simp [deleteInstances]
  | cons r rs ih =>
      unfold deleteInstances
      dsimp only
      -- The ids that the rest of the loop finds, when this iteration took the id of `r` out.
      have found : ∀ m' : InstanceManager, m'.heap = m.heap →
          (∀ id, m'.availablePool.get? id = if id = (m.obj r).id then none else m.availablePool.get? id) →
          (∀ id, m'.unavailablePool.get? id = if id = (m.obj r).id then none else m.unavailablePool.get? id) →
          Inv m' → (m.obj r).id ∈ m.currentIds →
          (deleteInstances true rs m').1 = .ok (b || (r :: rs).any fun r => (m.obj r).id ∈ m.currentIds) ∧
          ∀ id,
            (deleteInstances true rs m').2.availablePool.get? id =
              (if id ∈ (r :: rs).map fun r => (m.obj r).id then none else m.availablePool.get? id) ∧
            (deleteInstances true rs m').2.unavailablePool.get? id =
              if id ∈ (r :: rs).map fun r => (m.obj r).id then none else m.unavailablePool.get? id := by
        intro m' hheap ha hu hi' hmem
        have hobj : m'.obj = m.obj := by funext x; simp only [obj, hheap]
        obtain ⟨hres, hpools⟩ := ih hi' true
        refine ⟨by simp [hres, hmem], fun id => ?_⟩
        obtain ⟨ha', hu'⟩ := hpools id
        rw [ha', hu', ha, hu, hobj]
        by_cases h₁ : id = (m.obj r).id
        · simp [h₁]
        · simp [h₁]
      cases hu : m.unavailablePool.contains (m.obj r).id with
      | true =>
          obtain ⟨r', hr'⟩ := Dict.contains_iff.mp hu
          have han := (hi.unavailable hr').2.2
          refine found { m with unavailablePool := m.unavailablePool.erase (m.obj r).id } rfl ?_ ?_
            (hi.discard _) (mem_currentIds.mpr (Or.inr ⟨r', hr'⟩))
          · intro id
            split
            · rename_i he; rw [he]; exact han
            · rfl
          · intro id; exact Dict.get?_erase _ _ _
      | false =>
          have hun := Dict.contains_eq_false_iff.mp hu
          rcases deleteInstanceFromAvailablePool_spec hi (m.obj r).id with ⟨hn, h⟩ | ⟨r', role, ha, h⟩ <;>
            simp only [h, Bool.false_eq_true, ↓reduceIte]
          · have hmem : (m.obj r).id ∉ m.currentIds := not_mem_currentIds.mpr ⟨hn, hun⟩
            obtain ⟨hres, hpools⟩ := ih hi b
            refine ⟨by simp [hres, hmem], fun id => ?_⟩
            obtain ⟨ha', hu'⟩ := hpools id
            rw [ha', hu']
            by_cases h₁ : id = (m.obj r).id
            · simp [h₁, hn, hun]
            · simp [h₁]
          · refine found (m.dropAvailable role (m.obj r).id) (heap_dropAvailable _ _) ?_ ?_ (hi.dropAvailable _ _)
              (mem_currentIds.mpr (Or.inl ⟨r', ha⟩))
            · intro id; exact Dict.get?_erase _ _ _
            · intro id
              rw [unavailablePool_dropAvailable]
              split
              · rename_i he; rw [he]; exact hun
              · rfl

/-! ## Adding -/

/-- The object can be entered: its role is valid and no pool knows its id. -/
structure Addable (m : InstanceManager) (r : Ref) : Prop where
  lt : r < m.heap.length
  role : (PDRole.ofString? (m.obj r).role).isSome
  unavailable : m.unavailablePool.get? (m.obj r).id = none
  rolePool : ∀ role, (m.rolePool role).get? (m.obj r).id = none

def accept (m : InstanceManager) (role : PDRole) (r : Ref) : InstanceManager :=
  (m.putAvailable role r).modifyObj r Instance.initWorkload

theorem addInstances_cons_accept {r : Ref} (h : Addable m r) (rs : List Ref) (b : Bool) :
    ∃ role, PDRole.ofString? (m.obj r).role = some role ∧
      addInstances b (r :: rs) m = addInstances true rs (m.accept role r) := by
  obtain ⟨role, hrole⟩ := Option.isSome_iff_exists.mp h.role
  refine ⟨role, hrole, ?_⟩
  have hu := Dict.contains_eq_false_iff.mpr h.unavailable
  have hp := Dict.contains_eq_false_iff.mpr (h.rolePool role)
  simp [addInstances, hu, addInstanceToAvailablePool, hrole, hp, accept]

theorem obj_accept_ne {r r' : Ref} (h : r' ≠ r) (role : PDRole) : (m.accept role r).obj r' = m.obj r' := by
  rw [accept, obj_modifyObj_ne h, obj_putAvailable]

theorem Addable.accept {r r' : Ref} (h : Addable m r') (role : PDRole) (hne : (m.obj r').id ≠ (m.obj r).id) :
    Addable (m.accept role r) r' := by
  have hobj : (m.accept role r).obj r' = m.obj r' := obj_accept_ne (fun he => hne (by rw [he])) role
  refine ⟨by simpa [InstanceManager.accept] using h.lt, by rw [hobj]; exact h.role, ?_, ?_⟩
  · rw [hobj]
    simpa [InstanceManager.accept] using h.unavailable
  · intro role'
    rw [hobj, InstanceManager.accept, rolePool_modifyObj, rolePool_putAvailable]
    split
    · rename_i he
      subst he
      rw [Dict.get?_set_ne hne]
      exact h.rolePool _
    · exact h.rolePool _

theorem addInstances_spec {rs : List Ref} (h : ∀ r ∈ rs, Addable m r)
    (hn : (rs.map fun r => (m.obj r).id).Nodup) (b : Bool) :
    (∃ b', (addInstances b rs m).1 = .ok b') ∧
    (addInstances b rs m).2.unavailablePool = m.unavailablePool ∧
    (∀ r ∈ rs, (addInstances b rs m).2.availablePool.get? (m.obj r).id = some r ∧
      (addInstances b rs m).2.obj r = (m.obj r).initWorkload) ∧
    (∀ id, id ∉ (rs.map fun r => (m.obj r).id) →
      (addInstances b rs m).2.availablePool.get? id = m.availablePool.get? id) ∧
    ∀ r, r ∉ rs → (addInstances b rs m).2.obj r = m.obj r := by
  induction rs generalizing m b with
  | nil => simp [addInstances]
  | cons r rs ih =>
      obtain ⟨role, _, heq⟩ := addInstances_cons_accept (h r (List.mem_cons_self ..)) rs b
      rw [List.map_cons, List.nodup_cons] at hn
      have hne : ∀ r' ∈ rs, (m.obj r').id ≠ (m.obj r).id := by
        intro r' hr' he
        exact hn.1 (he ▸ List.mem_map_of_mem (f := fun r => (m.obj r).id) hr')
      have hobj : ∀ r' ∈ rs, (m.accept role r).obj r' = m.obj r' := by
        intro r' hr'
        exact obj_accept_ne (fun he => hne r' hr' (by rw [he])) role
      have hids : (rs.map fun x => ((m.accept role r).obj x).id) = rs.map fun x => (m.obj x).id := by
        apply List.map_congr_left
        intro x hx
        rw [hobj x hx]
      have hr : r ∉ rs := fun hr => hne r hr rfl
      obtain ⟨hok, hu, hin, hout, hobjs⟩ := ih
        (fun r' hr' => (h r' (List.mem_cons_of_mem _ hr')).accept role (hne r' hr')) (hids ▸ hn.2) true
      have hput : (m.accept role r).availablePool = m.availablePool.set (m.obj r).id r := rfl
      rw [heq]
      refine ⟨hok, by rw [hu]; simp [InstanceManager.accept], ?_, ?_, ?_⟩
      · intro x hx
        rcases List.mem_cons.mp hx with rfl | hx
        · constructor
          · rw [hout _ (hids ▸ hn.1), hput, Dict.get?_set_self]
          · rw [hobjs x hr, InstanceManager.accept,
              obj_modifyObj_self (by simpa using (h x (List.mem_cons_self ..)).lt), obj_putAvailable]
        · have := hin x hx
          rwa [hobj x hx] at this
      · intro id hid
        rw [List.map_cons, List.mem_cons, not_or] at hid
        rw [hout id (hids ▸ hid.2), hput, Dict.get?_set_ne hid.1]
      · intro x hx
        rw [List.mem_cons, not_or] at hx
        rw [hobjs x hx.2, obj_accept_ne hx.1]

/-!
## The gathered workload of the pooled objects

The sum is kept on every object that is in a pool: an object enters with its workload reset, and a
workload update changes the sum and one endpoint by the same amount.
-/

variable {G : InstanceManager → Ref → Prop} {m m' : InstanceManager}

def Pooled (m : InstanceManager) (r : Ref) : Prop :=
  ∃ id, m.availablePool.get? id = some r ∨ m.unavailablePool.get? id = some r

def AllGathered (m : InstanceManager) : Prop := ∀ r, m.Pooled r → (m.obj r).Gathered

theorem Inv.pooled_lt (hi : Inv m) {r : Ref} (h : m.Pooled r) : r < m.heap.length := by
  obtain ⟨id, h | h⟩ := h
  · exact (hi.available h).1
  · exact (hi.unavailable h).1

theorem allGathered_init : AllGathered {} := by
  rintro r ⟨id, h | h⟩ <;> simp at h

theorem AllGathered.of_pooled (h : AllGathered m) (hp : ∀ r, m'.Pooled r → m.Pooled r)
    (ho : ∀ r, m'.obj r = m.obj r) : AllGathered m' := by
  intro r hr
  rw [ho]
  exact h r (hp r hr)

theorem pooled_of_dropAvailable {role : PDRole} {id : Int} {r : Ref} (h : (m.dropAvailable role id).Pooled r) :
    m.Pooled r := by
  obtain ⟨id', h | h⟩ := h
  · rw [availablePool_dropAvailable, Dict.get?_erase] at h
    split at h
    · cases h
    · exact ⟨id', Or.inl h⟩
  · rw [unavailablePool_dropAvailable] at h
    exact ⟨id', Or.inr h⟩

theorem pooled_of_discard {id : Int} {r : Ref}
    (h : Pooled { m with unavailablePool := m.unavailablePool.erase id } r) : m.Pooled r := by
  obtain ⟨id', h | h⟩ := h
  · exact ⟨id', Or.inl h⟩
  · rw [Dict.get?_erase] at h
    split at h
    · cases h
    · exact ⟨id', Or.inr h⟩

theorem pooled_of_putAvailable {role : PDRole} {r x : Ref} (h : (m.putAvailable role x).Pooled r) :
    r = x ∨ m.Pooled r := by
  obtain ⟨id', h | h⟩ := h
  · rw [availablePool_putAvailable, Dict.get?_set] at h
    split at h
    · cases h; exact Or.inl rfl
    · exact Or.inr ⟨id', Or.inl h⟩
  · rw [unavailablePool_putAvailable] at h
    exact Or.inr ⟨id', Or.inr h⟩

theorem AllGathered.updateInstanceWorkload (h : AllGathered m) (hi : Inv m) (iid eid : Int) (change : Workload) :
    AllGathered (m.updateInstanceWorkload iid eid change) := by
  rcases hi.updateInstanceWorkload_cases iid eid change with
    ⟨_, he⟩ | ⟨x, a, ep, _, ha, _, _, hat, _, he⟩
  · rw [he]; exact h
  · rw [he]
    intro r hr
    have hr' : m.Pooled r := hr
    have hx := (hi.available ha).1
    by_cases hrx : r = x
    · subst hrx
      rw [obj_modifyObj_self (by simpa using hx), obj_modifyObj_self hx]
      exact Instance.gathered_add (h r hr') hat change
    · rw [obj_modifyObj_ne hrx, obj_modifyObj_ne hrx]
      exact h r hr'

theorem AllGathered.poolStep (h : AllGathered m) (hi : Inv m) (hs : PoolStep G m m') : AllGathered m' := by
  cases hs with
  | alloc instances =>
      intro r hr
      have hr' : m.Pooled r := hr
      rw [obj_alloc_old (hi.pooled_lt hr')]
      exact h r hr'
  | @put x role hx hrole hp hu _ =>
      intro r hr
      have hr' : (m.putAvailable role x).Pooled r := hr
      by_cases hrx : r = x
      · subst hrx
        rw [obj_modifyObj_self (by simpa using hx)]
        exact Instance.gathered_initWorkload _
      · rw [obj_modifyObj_ne hrx, obj_putAvailable]
        rcases pooled_of_putAvailable hr' with he | hp
        · exact absurd he hrx
        · exact h r hp
  | @restore id x role hu hrole hp =>
      refine h.of_pooled ?_ (fun r => obj_putAvailable _ _ _)
      intro r hr
      rcases pooled_of_putAvailable hr with he | hp
      · rw [he]; exact ⟨id, Or.inr hu⟩
      · exact pooled_of_discard hp
  | discard id => exact h.of_pooled (fun _ => pooled_of_discard) (fun _ => rfl)
  | drop _ _ => exact h.of_pooled (fun _ => pooled_of_dropAvailable) (fun _ => obj_dropAvailable _ _ _)
  | @park id x role ha _ =>
      refine h.of_pooled ?_ (fun r => obj_dropAvailable role id r)
      rintro r ⟨id', hr | hr⟩
      · have hd : (m.dropAvailable role id).Pooled r := ⟨id', Or.inl hr⟩
        exact pooled_of_dropAvailable hd
      · rw [Dict.get?_set] at hr
        split at hr
        · cases hr; exact ⟨id, Or.inl ha⟩
        · exact ⟨id', Or.inr hr⟩
  | work iid eid change => exact h.updateInstanceWorkload hi iid eid change
  | stop => rintro r ⟨id, hr | hr⟩ <;> simp [InstanceManager.stop] at hr

theorem AllGathered.step (h : AllGathered m) (hi : Inv m) (op : Op) : AllGathered (m.step op) := by
  have hs : PoolSteps (fun _ _ => True) m (m.step op) := step_steps fun _ _ _ => refreshMeets_true _ _ _
  have := PoolSteps.invariant (P := fun m => Inv m ∧ AllGathered m)
    (fun h hs => ⟨h.1.poolStep hs, h.2.poolStep h.1 hs⟩) ⟨hi, h⟩ hs
  exact this.2

theorem allGathered_run (ops : List Op) : AllGathered (run InstanceManager.step {} ops) := by
  have := run_invariant' (I := fun m => Inv m ∧ AllGathered m)
    (fun m op hm => ⟨hm.1.step op, hm.2.step hm.1 op⟩) ⟨inv_init, allGathered_init⟩ ops
  exact this.2

end PyMotor.InstanceManager
