import PyMotor.Pool.Lemmas.Consistent
import PyMotor.Pool.InstanceManager

/-!
# Properties of the pooled instances
-/

namespace PyMotor.InstanceManager

open Lib

variable {Q : Instance → Prop} {m m' : InstanceManager}

/-- The property does not look at workloads. -/
structure IgnoresWorkload (Q : Instance → Prop) : Prop where
  initWorkload : ∀ x, Q x → Q x.initWorkload
  addGathered : ∀ x change, Q x → Q (x.addGathered change)
  addEndpointWorkload : ∀ x pod key change, Q x → Q (x.addEndpointWorkload pod key change)

/-- Every instance of a role pool or of the unavailable pool. -/
structure PooledAll (Q : Instance → Prop) (m : InstanceManager) : Prop where
  rolePool : ∀ role id r, (m.rolePool role).get? id = some r → Q (m.obj r)
  unavailable : ∀ id r, m.unavailablePool.get? id = some r → Q (m.obj r)

theorem pooledAll_init : PooledAll Q {} where
  rolePool role id r h := by cases role <;> simp [InstanceManager.rolePool] at h
  unavailable id r h := by simp at h

theorem PooledAll.mono {Q' : Instance → Prop} (h : PooledAll Q m) (hQ : ∀ x, Q x → Q' x) : PooledAll Q' m where
  rolePool role id r hr := hQ _ (h.rolePool role id r hr)
  unavailable id r hr := hQ _ (h.unavailable id r hr)

theorem PooledAll.modifyObj (h : PooledAll Q m) {r : Ref} {f : Instance → Instance} (hr : r < m.heap.length)
    (hf : ∀ x, Q x → Q (f x)) : PooledAll Q (m.modifyObj r f) := by
  have hobj : ∀ x, Q (m.obj x) → Q ((m.modifyObj r f).obj x) := by
    intro x hx
    by_cases he : x = r
    · subst he
      rw [obj_modifyObj_self hr]
      exact hf _ hx
    · rw [obj_modifyObj_ne he]
      exact hx
  refine ⟨fun role id x hx => hobj x (h.rolePool role id x ?_), fun id x hx => hobj x (h.unavailable id x hx)⟩
  rwa [rolePool_modifyObj] at hx

theorem PooledAll.putAvailable (h : PooledAll Q m) {role : PDRole} {r : Ref} (hr : Q (m.obj r)) :
    PooledAll Q (m.putAvailable role r) := by
  constructor
  · intro role' id x hx
    rw [obj_putAvailable]
    rw [rolePool_putAvailable] at hx
    split at hx
    · rw [Dict.get?_set] at hx
      split at hx
      · cases hx; exact hr
      · exact h.rolePool _ _ _ hx
    · exact h.rolePool _ _ _ hx
  · intro id x hx
    rw [unavailablePool_putAvailable] at hx
    rw [obj_putAvailable]
    exact h.unavailable _ _ hx

theorem PooledAll.dropAvailable (h : PooledAll Q m) (role : PDRole) (id : Int) :
    PooledAll Q (m.dropAvailable role id) := by
  constructor
  · intro role' id' x hx
    rw [obj_dropAvailable]
    rw [rolePool_dropAvailable] at hx
    split at hx
    · rw [Dict.get?_erase] at hx
      split at hx
      · cases hx
      · exact h.rolePool _ _ _ hx
    · exact h.rolePool _ _ _ hx
  · intro id' x hx
    rw [unavailablePool_dropAvailable] at hx
    rw [obj_dropAvailable]
    exact h.unavailable _ _ hx

theorem PooledAll.discard (h : PooledAll Q m) (id : Int) :
    PooledAll Q { m with unavailablePool := m.unavailablePool.erase id } := by
  refine ⟨fun role id' r hr => h.rolePool role id' r (by cases role <;> exact hr), fun id' r hr => ?_⟩
  simp only [Dict.get?_erase] at hr
  split at hr
  · cases hr
  · exact h.unavailable id' r hr

theorem PooledAll.poolStep (hQ : IgnoresWorkload Q) (h : PooledAll Q m) (hi : Inv m)
    (hs : PoolStep (fun m r => Q (m.obj r)) m m') : PooledAll Q m' := by
  cases hs with
  | alloc instances =>
      constructor
      · intro role id r hr
        have hr' : (m.rolePool role).get? id = some r := by cases role <;> exact hr
        rw [obj_alloc_old (hi.rolePool hr').1]
        exact h.rolePool role id r hr'
      · intro id r hr
        rw [obj_alloc_old (hi.unavailable hr).1]
        exact h.unavailable id r hr
  | put hr hrole hp hu hG => exact (h.putAvailable hG).modifyObj (by simpa using hr) hQ.initWorkload
  | @restore id r role hu hrole hp => exact (h.discard id).putAvailable (h.unavailable id r hu)
  | discard id => exact h.discard id
  | @drop id r role _ _ => exact h.dropAvailable role id
  | @park id r role ha hrole =>
      have hd := h.dropAvailable role id
      obtain ⟨_, _, role', _, hp⟩ := hi.available ha
      refine ⟨fun role' id' x hx => hd.rolePool role' id' x (by cases role' <;> exact hx), fun id' x hx => ?_⟩
      simp only [Dict.get?_set] at hx
      split at hx
      · cases hx
        have := h.rolePool _ _ _ hp
        rwa [← obj_dropAvailable role id] at this
      · have := h.unavailable _ _ hx
        rwa [← obj_dropAvailable role id] at this
  | work iid eid change =>
      rcases hi.updateInstanceWorkload_cases iid eid change with ⟨_, he⟩ | ⟨r, a, _, _, ha, _, _, _, _, he⟩
      · rw [he]; exact h
      · have hr := (hi.available ha).1
        rw [he]
        exact (h.modifyObj hr (hQ.addGathered · change)).modifyObj (by simpa using hr)
          (hQ.addEndpointWorkload · a.pod a.key change)
  | stop =>
      refine ⟨fun role id r hr => ?_, fun id r hr => ?_⟩
      · cases role <;> simp [InstanceManager.stop, InstanceManager.rolePool] at hr
      · simp [InstanceManager.stop] at hr

theorem PooledAll.poolSteps (hQ : IgnoresWorkload Q) (h : PooledAll Q m) (hi : Inv m)
    (hs : PoolSteps (fun m r => Q (m.obj r)) m m') : PooledAll Q m' := by
  have := PoolSteps.invariant (P := fun m => Inv m ∧ PooledAll Q m)
    (fun h hs => ⟨h.1.poolStep hs, h.2.poolStep hQ h.1 hs⟩) ⟨hi, h⟩ hs
  exact this.2

theorem addsMeet_of_forall (hQ : IgnoresWorkload Q) {rs : List Ref}
    (h : ∀ r ∈ rs, r < m.heap.length ∧ Q (m.obj r)) : AddsMeet (fun m r => Q (m.obj r)) rs m := by
  induction rs generalizing m with
  | nil => trivial
  | cons r rs ih =>
      obtain ⟨hr, hq⟩ := h r (List.mem_cons_self ..)
      have h' : ∀ x ∈ rs, x < m.heap.length ∧ Q (m.obj x) := fun x hx => h x (List.mem_cons_of_mem _ hx)
      unfold AddsMeet
      split
      · exact ih h'
      · rcases addInstanceToAvailablePool_cases m r with ⟨_, he⟩ | ⟨_, _, _, he⟩ | ⟨role, _, _, he⟩ <;>
          simp only [he]
        · exact ih h'
        · refine ⟨hq, ih fun x hx => ⟨by simpa using (h' x hx).1, ?_⟩⟩
          by_cases hxr : x = r
          · subst hxr
            rw [obj_modifyObj_self (by simpa using hr), obj_putAvailable]
            exact hQ.initWorkload _ hq
          · rw [obj_modifyObj_ne hxr, obj_putAvailable]
            exact (h' x hx).2

theorem PooledAll.refresh (hQ : IgnoresWorkload Q) (h : PooledAll Q m) (hi : Inv m) (event : EventType)
    {instances : List Instance} (hl : event ≠ .del → ∀ x ∈ instances, Q x) :
    PooledAll Q (m.refresh event instances).2 := by
  have hrefs : event ≠ .del → ∀ r ∈ (m.alloc instances).1,
      r < (m.alloc instances).2.heap.length ∧ Q ((m.alloc instances).2.obj r) := by
    intro hne r hr
    refine ⟨(mem_alloc_refs hr).2, hl hne _ ?_⟩
    have := List.mem_map_of_mem (f := (m.alloc instances).2.obj) hr
    rwa [alloc_refs_map] at this
  have hmeets : RefreshMeets (fun m r => Q (m.obj r)) (m.alloc instances).2 event (m.alloc instances).1 := by
    cases event with
    | add => exact addsMeet_of_forall hQ (hrefs (by decide))
    | del => trivial
    | set =>
        have hheap : ∀ rs, (deleteInstances false rs (m.alloc instances).2).2.heap = (m.alloc instances).2.heap :=
          fun _ => deleteInstances_heap
        refine addsMeet_of_forall hQ fun r hr => ?_
        have := hrefs (by decide) r (List.mem_of_mem_filter hr)
        simpa only [obj, hheap] using this
  exact h.poolSteps hQ hi (refresh_steps hmeets)

theorem PooledAll.step (hQ : IgnoresWorkload Q) (h : PooledAll Q m) (hi : Inv m) {op : Op} (hl : Lists Q op) :
    PooledAll Q (m.step op) := by
  cases op with
  | refresh event instances => exact h.refresh hQ hi event hl
  | updateState | deleteUnavailable | updateWorkload | stop =>
      exact h.poolSteps hQ hi (step_steps fun _ _ he => by cases he)

/-! ## Roles that are kept for good -/

section OwnsRole

variable {roleOf : Int → PDRole}

theorem ofString?_inj {a b : String} {role : PDRole} (ha : PDRole.ofString? a = some role)
    (hb : PDRole.ofString? b = some role) : a = b := by
  cases role <;> simp only [PDRole.ofString?] at ha hb <;> split at ha <;> split at hb <;> simp_all

theorem ignoresWorkload_ownsRole : IgnoresWorkload (OwnsRole roleOf) where
  initWorkload _ h := h
  addGathered _ _ h := h
  addEndpointWorkload _ _ _ _ h := h

theorem roleKept_of_ownsRole (hi : Inv m) (hp : PooledAll (OwnsRole roleOf) m) {op : Op}
    (hl : Lists (OwnsRole roleOf) op) : RoleKept m op := by
  cases op with
  | updateState | deleteUnavailable | updateWorkload | stop => trivial
  | refresh event instances =>
      have howns : ∀ x ∈ m.admitted event instances, OwnsRole roleOf x := by
        intro x hx
        have hx' := (List.takeWhile_sublist _).subset hx
        cases event with
        | add => exact hl (by decide) x (List.mem_filter.mp hx').1
        | del => cases hx'
        | set => exact hl (by decide) x (List.mem_filter.mp hx').1
      intro x hx
      have hrole := howns x hx
      constructor
      · intro r hr
        obtain ⟨_, hid, role, _, hp'⟩ := hi.available hr
        have hrole' := hp.rolePool role _ r hp'
        rw [OwnsRole, hid] at hrole'
        exact ofString?_inj hrole' hrole
      · intro y hy hid
        have hrole' := howns y hy
        rw [OwnsRole, hid] at hrole'
        exact ofString?_inj hrole' hrole

end OwnsRole

/-!
## What a call pools

A refresh removes some objects and then enters some. Without stale entries a change of state pools what was pooled.
-/

variable {G : InstanceManager → Ref → Prop} {m m' : InstanceManager} {refs : List Ref}

/-! ### Entering -/

/-- The objects are entered one after the other. -/
inductive Enters (G : InstanceManager → Ref → Prop) : InstanceManager → List Ref → InstanceManager → Prop
  | nil (m : InstanceManager) : Enters G m [] m
  | cons {m m' : InstanceManager} {r : Ref} {role : PDRole} {refs : List Ref} (hr : r < m.heap.length)
    (hu : m.unavailablePool.get? (m.obj r).id = none) (hG : G m r) (h : Enters G (m.accept role r) refs m') :
    Enters G m (r :: refs) m'

theorem addInstances_enters {b : Bool} (hlt : ∀ r ∈ refs, r < m.heap.length) (hG : AddsMeet G refs m) :
    Enters G m (instancesTmp refs m) (addInstances b refs m).2 := by
  induction refs generalizing m b with
  | nil => exact .nil m
  | cons r rs ih =>
      rw [List.forall_mem_cons] at hlt
      unfold addInstances instancesTmp
      unfold AddsMeet at hG
      cases hu : m.unavailablePool.contains (m.obj r).id with
      | true =>
          simp only [hu, ↓reduceIte] at hG ⊢
          exact ih hlt.2 hG
      | false =>
          simp only [hu, Bool.false_eq_true, ↓reduceIte] at hG ⊢
          rcases addInstanceToAvailablePool_cases m r with ⟨_, h⟩ | ⟨_, _, _, h⟩ | ⟨role, _, _, h⟩ <;>
            simp only [h] at hG ⊢
          · exact .nil m
          · exact ih hlt.2 hG
          · apply Enters.cons hlt.1 (Dict.contains_eq_false_iff.mp hu) hG.1 (ih _ hG.2)
            simpa [accept] using hlt.2

theorem instancesTmp_subset {r : Ref} (h : r ∈ instancesTmp refs m) : r ∈ refs := by
  induction refs generalizing m with
  | nil => cases h
  | cons x rs ih =>
      unfold instancesTmp at h
      split at h
      · exact List.mem_cons_of_mem _ (ih h)
      · split at h
        · cases h
        · exact List.mem_cons_of_mem _ (ih h)
        · rcases List.mem_cons.mp h with rfl | h
          · exact List.mem_cons_self ..
          · exact List.mem_cons_of_mem _ (ih h)

/-- Everything but the workloads. -/
def SameShape (x y : Instance) : Prop :=
  x.role = y.role ∧ x.id = y.id ∧ x.modelName = y.modelName ∧ x.layout = y.layout

theorem SameShape.refl (x : Instance) : SameShape x x := ⟨rfl, rfl, rfl, rfl⟩

theorem SameShape.trans {x y z : Instance} (hxy : SameShape x y) (hyz : SameShape y z) : SameShape x z :=
  ⟨hxy.1.trans hyz.1, hxy.2.1.trans hyz.2.1, hxy.2.2.1.trans hyz.2.2.1, hxy.2.2.2.trans hyz.2.2.2⟩

theorem sameShape_accept {r : Ref} (hr : r < m.heap.length) (role : PDRole) (x : Ref) :
    SameShape ((m.accept role r).obj x) (m.obj x) := by
  by_cases h : x = r
  · subst h
    rw [accept, obj_modifyObj_self (by simpa using hr), obj_putAvailable]
    exact ⟨rfl, rfl, rfl, endpointEntries_initWorkload _⟩
  · rw [obj_accept_ne h]
    exact .refl _

theorem Enters.sameShape (h : Enters G m refs m') (x : Ref) : SameShape (m'.obj x) (m.obj x) := by
  induction h with
  | nil => exact .refl _
  | cons hr _ _ _ ih => exact ih.trans (sameShape_accept hr _ x)

theorem Enters.unavailablePool (h : Enters G m refs m') : m'.unavailablePool = m.unavailablePool := by
  induction h with
  | nil => rfl
  | cons _ _ _ _ ih => simpa [accept] using ih

theorem Enters.pooled {r : Ref} (h : Enters G m refs m') (hr : m'.Pooled r) : m.Pooled r ∨ r ∈ refs := by
  induction h with
  | nil => exact Or.inl hr
  | @cons m m' x role refs _ _ _ _ ih =>
      rcases ih hr with hr | hr
      · have hput : (m.putAvailable role x).Pooled r := hr
        rcases pooled_of_putAvailable hput with rfl | hr
        · exact Or.inr (List.mem_cons_self ..)
        · exact Or.inl hr
      · exact Or.inr (List.mem_cons_of_mem _ hr)

theorem Enters.available {id : Int} {r : Ref} (h : Enters NewId m refs m') (ha : m.availablePool.get? id = some r) :
    m'.availablePool.get? id = some r := by
  induction h with
  | nil => exact ha
  | @cons m m' x role refs _ _ hG _ ih =>
      apply ih
      have hne : id ≠ (m.obj x).id := by
        rintro rfl
        rw [hG] at ha
        cases ha
      simpa [accept, Dict.get?_set_ne hne] using ha

theorem Enters.entered {r : Ref} (h : Enters NewId m refs m') (hr : r ∈ refs) :
    m'.availablePool.get? (m.obj r).id = some r := by
  induction h with
  | nil => cases hr
  | @cons m m' x role refs hx _ _ h ih =>
      rcases List.mem_cons.mp hr with rfl | hr
      · apply h.available
        simp [accept]
      · rw [← (sameShape_accept hx role r).2.1]
        exact ih hr

/-! ### Removing -/

theorem pooled_deleteInstances (hi : Inv m) {b : Bool} {r : Ref} : (deleteInstances b refs m).2.Pooled r ↔
    m.Pooled r ∧ (m.obj r).id ∉ refs.map fun r => (m.obj r).id := by
  have hpools := (deleteInstances_spec hi refs b).2
  have hid : ∀ id, m.availablePool.get? id = some r ∨ m.unavailablePool.get? id = some r → (m.obj r).id = id := by
    rintro id (h | h)
    · exact (hi.available h).2.1
    · exact (hi.unavailable h).2.1
  constructor
  · rintro ⟨id, hr⟩
    rw [(hpools id).1, (hpools id).2] at hr
    by_cases hmem : id ∈ refs.map fun r => (m.obj r).id
    · simp [hmem] at hr
    · simp only [hmem, if_false] at hr
      exact ⟨⟨id, hr⟩, by rwa [hid id hr]⟩
  · rintro ⟨⟨id, hr⟩, hmem⟩
    rw [hid id hr] at hmem
    refine ⟨id, ?_⟩
    rw [(hpools id).1, (hpools id).2, if_neg hmem, if_neg hmem]
    exact hr

theorem mem_currentIds_of_pooled (hi : Inv m) {r : Ref} (h : m.Pooled r) : (m.obj r).id ∈ m.currentIds := by
  rw [mem_currentIds]
  obtain ⟨id, h | h⟩ := h
  · exact Or.inl ⟨r, by rw [(hi.available h).2.1]; exact h⟩
  · exact Or.inr ⟨r, by rw [(hi.unavailable h).2.1]; exact h⟩

/-! ### A refresh -/

/-- What a refresh hands to `_add_instances`, and the state it does so in. -/
def additions (m : InstanceManager) (event : EventType) (refs : List Ref) : List Ref × InstanceManager :=
  match event with
  | .add => (refs, m)
  | .del => ([], (deleteInstances false refs m).2)
  | .set => ((m.computeSetDiff refs).1, (deleteInstances false (m.computeSetDiff refs).2 m).2)

theorem refreshInstances_snd (hi : Inv m) (event : EventType) (refs : List Ref) :
    (m.refreshInstances event refs).2 =
      (addInstances false (m.additions event refs).1 (m.additions event refs).2).2 := by
  cases event with
  | add | del => rfl
  | set => exact applySetDiff_snd hi refs

theorem heap_additions (event : EventType) (refs : List Ref) : (m.additions event refs).2.heap = m.heap := by
  cases event with
  | add => rfl
  | del | set => exact deleteInstances_heap

theorem obj_additions (event : EventType) (refs : List Ref) : (m.additions event refs).2.obj = m.obj := by
  funext r
  simp only [obj, heap_additions]

theorem mem_additions {event : EventType} {r : Ref} (h : r ∈ (m.additions event refs).1) : r ∈ refs := by
  cases event with
  | add => exact h
  | del => cases h
  | set => exact (mem_toAdd.mp h).1

theorem additions_enters {event : EventType} (hlt : ∀ r ∈ refs, r < m.heap.length) (hG : RefreshMeets G m event refs) :
    Enters G (m.additions event refs).2 (instancesTmp (m.additions event refs).1 (m.additions event refs).2)
      (addInstances false (m.additions event refs).1 (m.additions event refs).2).2 := by
  apply addInstances_enters
  · intro r hr
    rw [heap_additions]
    exact hlt r (mem_additions hr)
  · cases event with
    | add | set => exact hG
    | del => trivial

/-! ### A change of state -/

/-- Every pooled instance has a role. -/
abbrev HasRole (x : Instance) : Prop := (PDRole.ofString? x.role).isSome

theorem ignoresWorkload_hasRole : IgnoresWorkload HasRole where
  initWorkload _ h := h
  addGathered _ _ h := h
  addEndpointWorkload _ _ _ _ h := h

theorem PoolStep.hasRole (h : PoolStep G m m') : PoolStep (fun m r => HasRole (m.obj r)) m m' := by
  cases h with
  | alloc instances => exact .alloc instances
  | put hr hrole hp hu _ => exact .put hr hrole hp hu (by rw [HasRole, hrole]; rfl)
  | restore hu hrole hp => exact .restore hu hrole hp
  | discard id => exact .discard id
  | drop ha hrole => exact .drop ha hrole
  | park ha hrole => exact .park ha hrole
  | work iid eid change => exact .work iid eid change
  | stop => exact .stop

theorem PooledAll.hasRole_step (h : PooledAll HasRole m) (hi : Inv m) (op : Op) : PooledAll HasRole (m.step op) := by
  have hs : PoolSteps (fun _ _ => True) m (m.step op) := step_steps fun _ _ _ => refreshMeets_true _ _ _
  exact h.poolSteps ignoresWorkload_hasRole hi (Relation.ReflTransGen.mono (fun _ _ => PoolStep.hasRole) _ _ hs)

theorem pooled_updateInstanceState (hi : Inv m) (hs : NoStale m) (hr : PooledAll HasRole m) (id : Int)
    (mode : UpdateInstanceMode) {r : Ref} (h : m.Pooled r) : (m.updateInstanceState id mode).Pooled r ∧
      (m.updateInstanceState id mode).obj r = m.obj r := by
  cases mode with
  | available =>
      cases hu : m.unavailablePool.get? id with
      | none => simpa [updateInstanceState, hu] using h
      | some x =>
          obtain ⟨role, hrole⟩ := Option.isSome_iff_exists.mp (hr.unavailable id x hu)
          obtain ⟨_, hid, ha⟩ := hi.unavailable hu
          have hfree : (m.rolePool role).contains (m.obj x).id = false := by
            rw [Dict.contains_eq_false_iff, hid, Option.eq_none_iff_forall_ne_some]
            intro y hy
            rw [hs role id y hy] at ha
            cases ha
          have hpool : rolePool { m with unavailablePool := m.unavailablePool.erase id } role = m.rolePool role := by
            cases role <;> rfl
          have hobj : obj { m with unavailablePool := m.unavailablePool.erase id } x = m.obj x := rfl
          have hstate : m.updateInstanceState id .available =
              putAvailable { m with unavailablePool := m.unavailablePool.erase id } role x := by
            simp [updateInstanceState, hu, addInstanceToAvailablePool, hobj, hrole, hpool, hfree]
          rw [hstate]
          refine ⟨?_, obj_putAvailable _ _ _⟩
          obtain ⟨id', h | h⟩ := h
          · have hne : id' ≠ id := by
              rintro rfl
              rw [ha] at h
              cases h
            refine ⟨id', Or.inl ?_⟩
            rwa [availablePool_putAvailable, hobj, hid, Dict.get?_set_ne hne]
          · by_cases he : id' = id
            · subst he
              rw [hu] at h
              cases h
              refine ⟨id', Or.inl ?_⟩
              rw [availablePool_putAvailable, hobj, hid, Dict.get?_set_self]
            · refine ⟨id', Or.inr ?_⟩
              rw [unavailablePool_putAvailable, Dict.get?_erase, if_neg he]
              exact h
  | unavailable =>
      rcases deleteInstanceFromAvailablePool_spec hi id with ⟨ha, _⟩ | ⟨x, role, ha, hdel⟩
      · simpa [updateInstanceState, ha] using h
      · have hstate : m.updateInstanceState id .unavailable =
            { m.dropAvailable role id with unavailablePool := m.unavailablePool.set id x } := by
          simp [updateInstanceState, ha, hdel]
        rw [hstate]
        refine ⟨?_, obj_dropAvailable role id r⟩
        obtain ⟨id', h | h⟩ := h
        · by_cases he : id' = id
          · subst he
            rw [ha] at h
            cases h
            exact ⟨id', Or.inr (Dict.get?_set_self _ _ _)⟩
          · refine ⟨id', Or.inl ?_⟩
            change (m.availablePool.erase id).get? id' = some r
            rw [Dict.get?_erase, if_neg he]
            exact h
        · have hne : id' ≠ id := by
            rintro rfl
            rw [(hi.unavailable h).2.2] at ha
            cases ha
          refine ⟨id', Or.inr ?_⟩
          change (m.unavailablePool.set id x).get? id' = some r
          rwa [Dict.get?_set_ne hne]

end PyMotor.InstanceManager
