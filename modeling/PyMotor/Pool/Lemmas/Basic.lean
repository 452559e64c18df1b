import Mathlib.Logic.Relation
import PyMotor.Pool.InstanceManager

/-!
# Fields after each pool update

What an update of the manager changes and what it leaves alone, one lemma for each field. The later
proofs go through these lemmas and never unfold an update.
-/

namespace PyMotor.InstanceManager

open Lib

section

variable {m : InstanceManager}

/-! ## Entering and leaving the available pool -/

@[simp] theorem heap_setRolePool (role : PDRole) (p : Dict Int Ref) : (m.setRolePool role p).heap = m.heap := by
  cases role <;> rfl

@[simp] theorem unavailablePool_setRolePool (role : PDRole) (p : Dict Int Ref) :
    (m.setRolePool role p).unavailablePool = m.unavailablePool := by cases role <;> rfl

@[simp] theorem heap_putAvailable (role : PDRole) (r : Ref) : (m.putAvailable role r).heap = m.heap :=
  heap_setRolePool _ _

@[simp] theorem obj_putAvailable (role : PDRole) (r r' : Ref) : (m.putAvailable role r).obj r' = m.obj r' := by
  simp [obj]

@[simp] theorem unavailablePool_putAvailable (role : PDRole) (r : Ref) :
    (m.putAvailable role r).unavailablePool = m.unavailablePool := unavailablePool_setRolePool _ _

@[simp] theorem availablePool_putAvailable (role : PDRole) (r : Ref) :
    (m.putAvailable role r).availablePool = m.availablePool.set (m.obj r).id r := rfl

@[simp] theorem endpointIdCache_putAvailable (role : PDRole) (r : Ref) :
    (m.putAvailable role r).endpointIdCache =
      m.endpointIdCache.set (m.obj r).id (buildEndpointCache r (m.obj r)) := rfl

theorem rolePool_putAvailable (role role' : PDRole) (r : Ref) :
    (m.putAvailable role r).rolePool role' =
      if role' = role then (m.rolePool role).set (m.obj r).id r else m.rolePool role' := by
  cases role <;> cases role' <;> rfl

@[simp] theorem heap_dropAvailable (role : PDRole) (id : Int) : (m.dropAvailable role id).heap = m.heap :=
  heap_setRolePool _ _

@[simp] theorem obj_dropAvailable (role : PDRole) (id : Int) (r : Ref) :
    (m.dropAvailable role id).obj r = m.obj r := by
  simp [obj]

@[simp] theorem unavailablePool_dropAvailable (role : PDRole) (id : Int) :
    (m.dropAvailable role id).unavailablePool = m.unavailablePool := unavailablePool_setRolePool _ _

@[simp] theorem availablePool_dropAvailable (role : PDRole) (id : Int) :
    (m.dropAvailable role id).availablePool = m.availablePool.erase id := rfl

@[simp] theorem endpointIdCache_dropAvailable (role : PDRole) (id : Int) :
    (m.dropAvailable role id).endpointIdCache = m.endpointIdCache.erase id := rfl

theorem rolePool_dropAvailable (role role' : PDRole) (id : Int) :
    (m.dropAvailable role id).rolePool role' =
      if role' = role then (m.rolePool role).erase id else m.rolePool role' := by
  cases role <;> cases role' <;> rfl

/-! ## Objects -/

@[simp] theorem length_modifyObj (r : Ref) (f : Instance → Instance) :
    (m.modifyObj r f).heap.length = m.heap.length := by
  simp [modifyObj]

@[simp] theorem availablePool_modifyObj (r : Ref) (f : Instance → Instance) :
    (m.modifyObj r f).availablePool = m.availablePool := rfl

@[simp] theorem unavailablePool_modifyObj (r : Ref) (f : Instance → Instance) :
    (m.modifyObj r f).unavailablePool = m.unavailablePool := rfl

@[simp] theorem endpointIdCache_modifyObj (r : Ref) (f : Instance → Instance) :
    (m.modifyObj r f).endpointIdCache = m.endpointIdCache := rfl

@[simp] theorem rolePool_modifyObj (r : Ref) (f : Instance → Instance) (role : PDRole) :
    (m.modifyObj r f).rolePool role = m.rolePool role := by
  cases role <;> rfl

theorem obj_modifyObj_self {r : Ref} (h : r < m.heap.length) (f : Instance → Instance) :
    (m.modifyObj r f).obj r = f (m.obj r) := by
  simp [obj, modifyObj, h]

theorem obj_modifyObj_ne {r r' : Ref} (h : r' ≠ r) (f : Instance → Instance) :
    (m.modifyObj r f).obj r' = m.obj r' := by
  have h' : ¬ r = r' := fun e => h e.symm
  simp [obj, modifyObj, h']

theorem obj_modifyObj_congr {α : Type} {r : Ref} {f : Instance → Instance} {g : Instance → α}
    (hg : ∀ x, g (f x) = g x) (hr : r < m.heap.length) (r' : Ref) :
    g ((m.modifyObj r f).obj r') = g (m.obj r') := by
  by_cases h : r' = r
  · subst h; rw [obj_modifyObj_self hr, hg]
  · rw [obj_modifyObj_ne h]

/-! ## Fresh objects -/

theorem obj_alloc_old {r : Ref} (h : r < m.heap.length) (instances : List Instance) :
    (m.alloc instances).2.obj r = m.obj r := by
  simp [obj, alloc, List.getElem?_append_left h]

theorem obj_alloc_new {i : Nat} {instances : List Instance} (h : i < instances.length) :
    (m.alloc instances).2.obj (m.heap.length + i) = instances[i] := by
  simp [obj, alloc, h]

theorem alloc_refs_map (instances : List Instance) :
    (m.alloc instances).1.map (m.alloc instances).2.obj = instances := by
  apply List.ext_getElem
  · simp [alloc]
  · intro i h _
    have hi : i < instances.length := by simpa [alloc] using h
    have := obj_alloc_new (m := m) hi
    simpa [alloc] using this

theorem length_alloc (instances : List Instance) :
    (m.alloc instances).2.heap.length = m.heap.length + instances.length := by
  simp [alloc]

theorem mem_alloc_refs {r : Ref} {instances : List Instance} (h : r ∈ (m.alloc instances).1) :
    m.heap.length ≤ r ∧ r < (m.alloc instances).2.heap.length := by
  rw [length_alloc]
  simp only [alloc, List.mem_range'_1] at h
  omega

/-! ## The endpoint index -/

theorem get?_buildEndpointCache (r : Ref) (inst : Instance) (eid : Int) :
    (buildEndpointCache r inst).get? eid = (inst.lastEndpoint eid).map fun e => ⟨r, e.1, e.2.1⟩ := by
  have hupdate : buildEndpointCache r inst =
      Dict.empty.update (inst.endpointEntries.map fun e => (e.2.2.id, (⟨r, e.1, e.2.1⟩ : EndpointRef))) := by
    rw [buildEndpointCache, Dict.update, List.foldl_map]
  rw [hupdate, Dict.get?_update, List.filter_map, List.getLast?_map, Option.map_map, Dict.get?_empty, Option.or_none]
  rfl

theorem buildEndpointCache_get? {r : Ref} {inst : Instance} {eid : Int} {a : EndpointRef}
    (h : (buildEndpointCache r inst).get? eid = some a) :
    a.inst = r ∧ ∃ ep, inst.endpointAt a.pod a.key = some ep ∧ ep.id = eid := by
  rw [get?_buildEndpointCache, Option.map_eq_some_iff] at h
  obtain ⟨e, he, rfl⟩ := h
  obtain ⟨hmem, hid⟩ := List.mem_filter.mp (List.mem_of_getLast? he)
  exact ⟨rfl, e.2.2, Instance.endpointAt_iff.mpr hmem, of_decide_eq_true hid⟩

theorem buildEndpointCache_contains {r : Ref} {inst : Instance} {ep : Endpoint}
    (h : ep ∈ inst.endpointList) : (buildEndpointCache r inst).contains ep.id = true := by
  obtain ⟨pod, key, hat⟩ := Instance.mem_endpointList_iff.mp h
  have hmem : (pod, key, ep) ∈ inst.endpointEntries.filter fun e => e.2.2.id = ep.id :=
    List.mem_filter.mpr ⟨Instance.endpointAt_iff.mp hat, decide_eq_true rfl⟩
  obtain ⟨last, hlast⟩ := Option.isSome_iff_exists.mp (List.getLast?_isSome.mpr (List.ne_nil_of_mem hmem))
  rw [Dict.contains_iff, get?_buildEndpointCache, Instance.lastEndpoint, hlast]
  exact ⟨_, rfl⟩

theorem buildEndpointCache_congr {r : Ref} {x y : Instance}
    (h : x.endpointEntries.map (fun e => (e.1, e.2.1, e.2.2.id)) =
      y.endpointEntries.map (fun e => (e.1, e.2.1, e.2.2.id))) :
    buildEndpointCache r x = buildEndpointCache r y := by
  have hfold : ∀ es : List (String × Int × Endpoint),
      es.foldl (fun (cache : Dict Int EndpointRef) e => cache.set e.2.2.id ⟨r, e.1, e.2.1⟩) Dict.empty =
        (es.map (fun e => (e.1, e.2.1, e.2.2.id))).foldl
          (fun (cache : Dict Int EndpointRef) t => cache.set t.2.2 ⟨r, t.1, t.2.1⟩) Dict.empty := by
    intro es
    rw [List.foldl_map]
  unfold buildEndpointCache
  rw [hfold, hfold, h]

theorem endpointEntries_initWorkload (inst : Instance) :
    inst.initWorkload.endpointEntries.map (fun e => (e.1, e.2.1, e.2.2.id)) =
      inst.endpointEntries.map (fun e => (e.1, e.2.1, e.2.2.id)) := by
  simp [Instance.endpointEntries, Instance.initWorkload, Dict.mapValues, List.map_flatMap,
    List.flatMap_map, Function.comp_def]

theorem endpointEntries_addEndpointWorkload (inst : Instance) (pod : String) (key : Int) (w : Workload) :
    (inst.addEndpointWorkload pod key w).endpointEntries.map (fun e => (e.1, e.2.1, e.2.2.id)) =
      inst.endpointEntries.map (fun e => (e.1, e.2.1, e.2.2.id)) :=
  inst.layout_adjust pod key fun _ => rfl

@[simp] theorem buildEndpointCache_initWorkload (r : Ref) (inst : Instance) :
    buildEndpointCache r inst.initWorkload = buildEndpointCache r inst :=
  buildEndpointCache_congr (endpointEntries_initWorkload inst)

@[simp] theorem buildEndpointCache_addEndpointWorkload (r : Ref) (inst : Instance) (pod : String) (key : Int)
    (w : Workload) : buildEndpointCache r (inst.addEndpointWorkload pod key w) = buildEndpointCache r inst :=
  buildEndpointCache_congr (endpointEntries_addEndpointWorkload inst pod key w)

@[simp] theorem buildEndpointCache_addGathered (r : Ref) (inst : Instance) (w : Workload) :
    buildEndpointCache r (inst.addGathered w) = buildEndpointCache r inst := rfl

end

/-!
## The elementary pool updates of a call

Every call of the manager is a sequence of a few elementary updates, each with the checks the source
made before it. Invariants are shown for the elementary updates only. `G` restricts the updates that
enter a new object, so that a condition on the requests can be carried through the loops.
-/

inductive PoolStep (G : InstanceManager → Ref → Prop) : InstanceManager → InstanceManager → Prop
  /-- New objects, not yet in a pool. -/
  | alloc {m} (instances : List Instance) : PoolStep G m (m.alloc instances).2
  /-- `_add_instances` accepts an object and resets its workload. -/
  | put {m} {r : Ref} {role : PDRole} :
      r < m.heap.length → PDRole.ofString? (m.obj r).role = some role →
      (m.rolePool role).get? (m.obj r).id = none → m.unavailablePool.get? (m.obj r).id = none →
      G m r → PoolStep G m ((m.putAvailable role r).modifyObj r Instance.initWorkload)
  /-- An unavailable object becomes available again. -/
  | restore {m} {id : Int} {r : Ref} {role : PDRole} :
      m.unavailablePool.get? id = some r → PDRole.ofString? (m.obj r).role = some role →
      (m.rolePool role).get? (m.obj r).id = none →
      PoolStep G m (putAvailable { m with unavailablePool := m.unavailablePool.erase id } role r)
  /-- An unavailable id is forgotten. -/
  | discard {m} (id : Int) : PoolStep G m { m with unavailablePool := m.unavailablePool.erase id }
  /-- An available id is deleted. -/
  | drop {m} {id : Int} {r : Ref} {role : PDRole} :
      m.availablePool.get? id = some r → PDRole.ofString? (m.obj r).role = some role →
      PoolStep G m (m.dropAvailable role id)
  /-- An available object becomes unavailable. -/
  | park {m} {id : Int} {r : Ref} {role : PDRole} :
      m.availablePool.get? id = some r → PDRole.ofString? (m.obj r).role = some role →
      PoolStep G m { m.dropAvailable role id with unavailablePool := m.unavailablePool.set id r }
  /-- A workload change on an available instance. -/
  | work {m} (iid eid : Int) (change : Workload) : PoolStep G m (m.updateInstanceWorkload iid eid change)
  | stop {m} : PoolStep G m m.stop

abbrev PoolSteps (G : InstanceManager → Ref → Prop) := Relation.ReflTransGen (PoolStep G)

variable {G : InstanceManager → Ref → Prop} {m : InstanceManager}

theorem PoolSteps.invariant {P : InstanceManager → Prop} (hP : ∀ {m m'}, P m → PoolStep G m m' → P m')
    {m m' : InstanceManager} (h : P m) (hs : PoolSteps G m m') : P m' := by
  induction hs with
  | refl => exact h
  | tail _ hstep ih => exact hP ih hstep

/-! ## Adding and deleting one object -/

theorem addInstanceToAvailablePool_cases (m : InstanceManager) (r : Ref) :
    (PDRole.ofString? (m.obj r).role = none ∧
        m.addInstanceToAvailablePool r = (.error .valueError, m)) ∨
    (∃ role, PDRole.ofString? (m.obj r).role = some role ∧
      (m.rolePool role).contains (m.obj r).id = true ∧ m.addInstanceToAvailablePool r = (.ok false, m)) ∨
    (∃ role, PDRole.ofString? (m.obj r).role = some role ∧
      (m.rolePool role).get? (m.obj r).id = none ∧
      m.addInstanceToAvailablePool r = (.ok true, m.putAvailable role r)) := by
  unfold addInstanceToAvailablePool
  cases hrole : PDRole.ofString? (m.obj r).role with
  | none => exact Or.inl ⟨rfl, rfl⟩
  | some role =>
      right
      cases hc : (m.rolePool role).contains (m.obj r).id with
      | true => exact Or.inl ⟨role, rfl, hc, by simp [hc]⟩
      | false => exact Or.inr ⟨role, rfl, Dict.contains_eq_false_iff.mp hc, by simp [hc]⟩

theorem deleteInstanceFromAvailablePool_cases (m : InstanceManager) (id : Int) :
    (m.availablePool.get? id = none ∧ m.deleteInstanceFromAvailablePool id = (.ok false, m)) ∨
    (∃ r role, m.availablePool.get? id = some r ∧ PDRole.ofString? (m.obj r).role = some role ∧
      (m.rolePool role).contains id = true ∧
      m.deleteInstanceFromAvailablePool id = (.ok true, m.dropAvailable role id)) ∨
    (∃ r e, m.availablePool.get? id = some r ∧
      (∀ role, PDRole.ofString? (m.obj r).role = some role → (m.rolePool role).contains id = false) ∧
      m.deleteInstanceFromAvailablePool id = (.error e, m)) := by
  unfold deleteInstanceFromAvailablePool
  cases ha : m.availablePool.get? id with
  | none => exact Or.inl ⟨rfl, rfl⟩
  | some r =>
      right
      cases hrole : PDRole.ofString? (m.obj r).role with
      | none => exact Or.inr ⟨r, .valueError, rfl, by simp [hrole], by simp [hrole]⟩
      | some role =>
          cases hc : (m.rolePool role).contains id with
          | true => exact Or.inl ⟨r, role, rfl, hrole, hc, by simp [hrole, hc]⟩
          | false =>
              refine Or.inr ⟨r, .keyError, rfl, ?_, by simp [hrole, hc]⟩
              intro role' hr'
              rw [hrole] at hr'; cases hr'
              exact hc

/-! ## The loops -/

/-- The objects `_add_instances` accepts on its way all meet `G`. -/
def AddsMeet (G : InstanceManager → Ref → Prop) : List Ref → InstanceManager → Prop
  | [], _ => True
  | r :: rs, m =>
    if m.unavailablePool.contains (m.obj r).id then AddsMeet G rs m
    else
      match m.addInstanceToAvailablePool r with
      | (.error _, _) => True
      | (.ok false, m') => AddsMeet G rs m'
      | (.ok true, m') => G m r ∧ AddsMeet G rs (m'.modifyObj r Instance.initWorkload)

theorem addsMeet_true (rs : List Ref) (m : InstanceManager) : AddsMeet (fun _ _ => True) rs m := by
  induction rs generalizing m with
  | nil => trivial
  | cons r rs ih =>
      unfold AddsMeet
      split
      · exact ih m
      · rcases addInstanceToAvailablePool_cases m r with ⟨_, h⟩ | ⟨_, _, _, h⟩ | ⟨_, _, _, h⟩ <;> rw [h]
        · trivial
        · exact ih m
        · exact ⟨trivial, ih _⟩

theorem addInstances_steps {rs : List Ref} {b : Bool} (hrs : ∀ r ∈ rs, r < m.heap.length)
    (hG : AddsMeet G rs m) : PoolSteps G m (addInstances b rs m).2 := by
  induction rs generalizing m b with
  | nil => exact .refl
  | cons r rs ih =>
      have hr := hrs r (List.mem_cons_self ..)
      have hrs' : ∀ r' ∈ rs, r' < m.heap.length := fun r' h => hrs r' (List.mem_cons_of_mem _ h)
      unfold addInstances
      unfold AddsMeet at hG
      cases hu : m.unavailablePool.contains (m.obj r).id with
      | true =>
          simp only [hu, ↓reduceIte] at hG ⊢
          exact ih hrs' hG
      | false =>
          simp only [hu, Bool.false_eq_true, ↓reduceIte] at hG ⊢
          rcases addInstanceToAvailablePool_cases m r with ⟨_, h⟩ | ⟨role, _, _, h⟩ | ⟨role, hrole, hp, h⟩ <;>
            simp only [h] at hG ⊢
          · exact .refl
          · exact ih hrs' hG
          · refine .head (.put hr hrole hp (Dict.contains_eq_false_iff.mp hu) hG.1) (ih ?_ hG.2)
            simpa using hrs'

theorem deleteInstances_steps (rs : List Ref) (b : Bool) : PoolSteps G m (deleteInstances b rs m).2 := by
  induction rs generalizing m b with
  | nil => exact .refl
  | cons r rs ih =>
      unfold deleteInstances
      cases hu : m.unavailablePool.contains (m.obj r).id with
      | true =>
          simp only [hu, ↓reduceIte]
          exact .head (.discard _) (ih _)
      | false =>
          simp only [hu, Bool.false_eq_true, ↓reduceIte]
          rcases deleteInstanceFromAvailablePool_cases m (m.obj r).id with
            ⟨_, h⟩ | ⟨r', role, ha, hrole, _, h⟩ | ⟨_, _, _, _, h⟩ <;> simp only [h]
          · exact ih b
          · exact .head (.drop ha hrole) (ih true)
          · exact .refl

theorem addInstances_length {rs : List Ref} {b : Bool} :
    (addInstances b rs m).2.heap.length = m.heap.length := by
  induction rs generalizing m b with
  | nil => rfl
  | cons r rs ih =>
      unfold addInstances
      split
      · exact ih
      · rcases addInstanceToAvailablePool_cases m r with ⟨_, h⟩ | ⟨_, _, _, h⟩ | ⟨_, _, _, h⟩ <;> simp only [h]
        · exact ih
        · rw [ih]; simp

theorem deleteInstances_heap {rs : List Ref} {b : Bool} : (deleteInstances b rs m).2.heap = m.heap := by
  induction rs generalizing m b with
  | nil => rfl
  | cons r rs ih =>
      unfold deleteInstances
      dsimp only
      split
      · exact ih
      · rcases deleteInstanceFromAvailablePool_cases m (m.obj r).id with
          ⟨_, h⟩ | ⟨_, _, _, _, _, h⟩ | ⟨_, _, _, _, h⟩ <;> simp only [h]
        · exact ih
        · rw [ih]; simp

/-! ## The calls -/

/-- The instances a refresh hands to `_add_instances`, and the state it does so in. -/
def RefreshMeets (G : InstanceManager → Ref → Prop) (m : InstanceManager) (event : EventType)
    (refs : List Ref) : Prop :=
  match event with
  | .add => AddsMeet G refs m
  | .del => True
  | .set => AddsMeet G (m.computeSetDiff refs).1 (deleteInstances false (m.computeSetDiff refs).2 m).2

theorem refreshMeets_true (m : InstanceManager) (event : EventType) (refs : List Ref) :
    RefreshMeets (fun _ _ => True) m event refs := by
  cases event with
  | add => exact addsMeet_true _ _
  | del => trivial
  | set => exact addsMeet_true _ _

theorem refreshInstances_steps {event : EventType} {refs : List Ref} (hrs : ∀ r ∈ refs, r < m.heap.length)
    (hG : RefreshMeets G m event refs) : PoolSteps G m (m.refreshInstances event refs).2 := by
  cases event with
  | add => exact addInstances_steps hrs hG
  | del => exact deleteInstances_steps refs false
  | set =>
      simp only [refreshInstances, applySetDiff]
      split
      · exact .refl
      · have hdel := deleteInstances_steps (G := G) (m := m) (m.computeSetDiff refs).2 false
        have hadd : PoolSteps G (deleteInstances false (m.computeSetDiff refs).2 m).2
            (addInstances false (m.computeSetDiff refs).1
              (deleteInstances false (m.computeSetDiff refs).2 m).2).2 := by
          apply addInstances_steps _ hG
          intro r hr
          rw [deleteInstances_heap]
          exact hrs r (List.mem_of_mem_filter hr)
        rcases hd : deleteInstances false (m.computeSetDiff refs).2 m with ⟨res, m'⟩
        rw [hd] at hdel hadd
        cases res with
        | error e => exact hdel
        | ok b =>
            rcases ha : addInstances false (m.computeSetDiff refs).1 m' with ⟨res', m''⟩
            rw [ha] at hadd
            cases res' <;> simpa only [ha] using hdel.trans hadd

theorem refresh_steps {event : EventType} {instances : List Instance}
    (hG : RefreshMeets G (m.alloc instances).2 event (m.alloc instances).1) :
    PoolSteps G m (m.refresh event instances).2 :=
  .head (.alloc instances) (refreshInstances_steps (fun _ hr => (mem_alloc_refs hr).2) hG)

theorem updateInstanceState_steps (id : Int) (mode : UpdateInstanceMode) :
    PoolSteps G m (m.updateInstanceState id mode) := by
  cases mode with
  | available =>
      simp only [updateInstanceState]
      cases hu : m.unavailablePool.get? id with
      | none => exact .refl
      | some r =>
          rcases addInstanceToAvailablePool_cases { m with unavailablePool := m.unavailablePool.erase id } r with
            ⟨_, h⟩ | ⟨role, _, _, h⟩ | ⟨role, hrole, hp, h⟩ <;> simp only [h]
          · exact .single (.discard id)
          · exact .single (.discard id)
          · refine .single (.restore hu hrole ?_)
            cases role <;> exact hp
  | unavailable =>
      simp only [updateInstanceState]
      cases ha : m.availablePool.get? id with
      | none => exact .refl
      | some r =>
          rcases deleteInstanceFromAvailablePool_cases m id with
            ⟨_, h⟩ | ⟨r', role, ha', hrole, _, h⟩ | ⟨_, _, _, _, h⟩ <;> simp only [h]
          · exact .refl
          · rw [ha] at ha'; cases ha'
            have hs : PoolStep G m _ := .park ha hrole
            simpa using Relation.ReflTransGen.single hs
          · exact .refl

theorem step_steps {op : Op}
    (hG : ∀ event instances, op = .refresh event instances →
      RefreshMeets G (m.alloc instances).2 event (m.alloc instances).1) : PoolSteps G m (m.step op) := by
  cases op with
  | refresh event instances => exact refresh_steps (hG event instances rfl)
  | updateState id mode => exact updateInstanceState_steps id mode
  | deleteUnavailable id =>
      simp only [step, deleteUnavailableInstance]
      split
      · exact .single (.discard id)
      · exact .refl
  | updateWorkload iid eid change => exact .single (.work iid eid change)
  | stop => exact .single .stop

end PyMotor.InstanceManager
