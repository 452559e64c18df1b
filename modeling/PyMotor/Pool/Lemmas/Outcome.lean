import PyMotor.Pool.Lemmas.PooledAll

/-!
# What a refresh returns and whether it changes a pool

Both are read off the request and the state before it: `Invalid` decides whether the call raises,
`Changes` whether a pool changes, `Announces` what a call that does not raise returns, and `intended` what
the pools then hold.
-/

namespace PyMotor.InstanceManager

open Lib

variable {m m' : InstanceManager}

/-! ## Adding -/

/-- The references that `_add_instances` tries to add. -/
def handedRefs (m : InstanceManager) (rs : List Ref) : List Ref :=
  rs.filter fun r => !m.unavailablePool.contains (m.obj r).id

theorem admittedRefs_eq (rs : List Ref) :
    m.admittedRefs rs = (m.handedRefs rs).takeWhile fun r => (PDRole.ofString? (m.obj r).role).isSome := rfl

theorem refused_of_role {x : Instance} {role : PDRole} (h : PDRole.ofString? x.role = some role) :
    m.refused x = (m.rolePool role).contains x.id := by
  simp [refused, h]

theorem id_accept {r : Ref} {role : PDRole} (hr : r < m.heap.length) (x : Ref) :
    ((m.accept role r).obj x).id = (m.obj x).id := by
  rw [accept, obj_modifyObj_congr (f := Instance.initWorkload) (g := Instance.id) (fun _ => rfl) (by simpa using hr),
    obj_putAvailable]

theorem handedRefs_accept {r : Ref} {rs : List Ref} {role : PDRole} (hr : r < m.heap.length) :
    (m.accept role r).handedRefs rs = m.handedRefs rs := by
  have hu : (m.accept role r).unavailablePool = m.unavailablePool := by simp [accept]
  simp only [handedRefs, id_accept hr, hu]

theorem role_accept {r : Ref} {role : PDRole} (hr : r < m.heap.length) (x : Ref) :
    ((m.accept role r).obj x).role = (m.obj x).role := by
  rw [accept, obj_modifyObj_congr (f := Instance.initWorkload) (g := Instance.role) (fun _ => rfl) (by simpa using hr),
    obj_putAvailable]

theorem addInstances_cons (r : Ref) (rs : List Ref) (b : Bool) (m : InstanceManager) :
    (m.handedRefs (r :: rs) = m.handedRefs rs ∧ addInstances b (r :: rs) m = addInstances b rs m) ∨
    (m.handedRefs (r :: rs) = r :: m.handedRefs rs ∧ PDRole.ofString? (m.obj r).role = none ∧
      addInstances b (r :: rs) m = (.error .valueError, m)) ∨
    (∃ role, m.handedRefs (r :: rs) = r :: m.handedRefs rs ∧ PDRole.ofString? (m.obj r).role = some role ∧
      (m.rolePool role).contains (m.obj r).id = true ∧ addInstances b (r :: rs) m = addInstances b rs m) ∨
    (∃ role, m.handedRefs (r :: rs) = r :: m.handedRefs rs ∧ PDRole.ofString? (m.obj r).role = some role ∧
      (m.rolePool role).contains (m.obj r).id = false ∧
      addInstances b (r :: rs) m = addInstances true rs (m.accept role r)) := by
  cases hu : m.unavailablePool.contains (m.obj r).id with
  | true => exact Or.inl ⟨by simp [handedRefs, hu], by simp [addInstances, hu]⟩
  | false =>
      have hh : m.handedRefs (r :: rs) = r :: m.handedRefs rs := by simp [handedRefs, hu]
      right
      rcases addInstanceToAvailablePool_cases m r with ⟨hrole, h⟩ | ⟨role, hrole, hc, h⟩ | ⟨role, hrole, hp, h⟩
      · exact Or.inl ⟨hh, hrole, by simp [addInstances, hu, h]⟩
      · exact Or.inr (Or.inl ⟨role, hh, hrole, hc, by simp [addInstances, hu, h]⟩)
      · exact Or.inr (Or.inr ⟨role, hh, hrole, Dict.contains_eq_false_iff.mpr hp,
          by simp [addInstances, hu, h, accept]⟩)

theorem addInstances_error_iff {rs : List Ref} (hlt : ∀ r ∈ rs, r < m.heap.length) (b : Bool) :
    ((∃ r ∈ m.handedRefs rs, PDRole.ofString? (m.obj r).role = none) →
      (addInstances b rs m).1 = .error .valueError) ∧
    ((∀ r ∈ m.handedRefs rs, PDRole.ofString? (m.obj r).role ≠ none) →
      ∃ b', (addInstances b rs m).1 = .ok b') := by
  induction rs generalizing m b with
  | nil => simp [handedRefs, addInstances]
  | cons r rs ih =>
      have hr := hlt r (List.mem_cons_self ..)
      have hlt' : ∀ r' ∈ rs, r' < m.heap.length := fun r' h => hlt r' (List.mem_cons_of_mem _ h)
      rcases addInstances_cons r rs b m with ⟨hh, h⟩ | ⟨hh, hrole, h⟩ | ⟨role, hh, hrole, _, h⟩ |
        ⟨role, hh, hrole, _, h⟩
      · rw [hh, h]; exact ih hlt' b
      · rw [hh, h]
        exact ⟨fun _ => rfl, fun hv => absurd hrole (hv r (List.mem_cons_self ..))⟩
      · rw [hh, h]
        simpa [hrole] using ih hlt' b
      · have hi := ih (m := m.accept role r) (by simpa [accept] using hlt') true
        simp only [handedRefs_accept hr, role_accept hr] at hi
        rw [hh, h]
        simpa [hrole] using hi

theorem addInstances_refused {rs : List Ref} (h : ∀ r ∈ m.admittedRefs rs, m.refused (m.obj r) = true)
    (b : Bool) : (addInstances b rs m).2 = m ∧ ∀ b', (addInstances b rs m).1 = .ok b' → b' = b := by
  induction rs with
  | nil => simp [addInstances]
  | cons r rs ih =>
      rw [admittedRefs_eq] at h
      rcases addInstances_cons r rs b m with ⟨hh, he⟩ | ⟨hh, hrole, he⟩ | ⟨role, hh, hrole, _, he⟩ |
        ⟨role, hh, hrole, hc, he⟩
      · rw [hh] at h
        rw [he]
        exact ih h
      · rw [he]; exact ⟨rfl, fun b' hb => by cases hb⟩
      · rw [hh, List.takeWhile_cons, hrole] at h
        rw [he]
        exact ih fun x hx => h x (List.mem_cons_of_mem _ hx)
      · rw [hh, List.takeWhile_cons, hrole] at h
        have := h r (List.mem_cons_self ..)
        rw [refused_of_role hrole, hc] at this; cases this

theorem addInstances_mono {role : PDRole} {id : Int} (h : (m.rolePool role).contains id = true)
    (rs : List Ref) :
    ((addInstances true rs m).2.rolePool role).contains id = true ∧
    ∀ b', (addInstances true rs m).1 = .ok b' → b' = true := by
  induction rs generalizing m with
  | nil => exact ⟨h, fun b' hb => by cases hb; rfl⟩
  | cons r rs ih =>
      rcases addInstances_cons r rs true m with ⟨_, he⟩ | ⟨_, _, he⟩ | ⟨_, _, _, _, he⟩ | ⟨role', _, _, _, he⟩
      · rw [he]; exact ih h
      · rw [he]; exact ⟨h, fun b' hb => by cases hb⟩
      · rw [he]; exact ih h
      · rw [he]
        apply ih
        rw [accept, rolePool_modifyObj, rolePool_putAvailable]
        split
        · rename_i hr
          subst hr
          obtain ⟨v, hv⟩ := Dict.contains_iff.mp h
          rw [Dict.contains_iff, Dict.get?_set]
          split
          · exact ⟨_, rfl⟩
          · exact ⟨v, hv⟩
        · exact h

theorem addInstances_accepted {rs : List Ref} (h : ∃ r ∈ m.admittedRefs rs, m.refused (m.obj r) = false)
    (b : Bool) :
    (∃ role id, (m.rolePool role).contains id = false ∧
      ((addInstances b rs m).2.rolePool role).contains id = true) ∧
    ∀ b', (addInstances b rs m).1 = .ok b' → b' = true := by
  induction rs with
  | nil => simp [admittedRefs] at h
  | cons r rs ih =>
      rw [admittedRefs_eq] at h
      rcases addInstances_cons r rs b m with ⟨hh, he⟩ | ⟨hh, hrole, he⟩ | ⟨role, hh, hrole, hc, he⟩ |
        ⟨role, hh, hrole, hc, he⟩
      · rw [hh] at h
        rw [he]
        exact ih h
      · rw [hh, List.takeWhile_cons, hrole] at h
        simp at h
      · rw [hh, List.takeWhile_cons, hrole] at h
        obtain ⟨x, hx, hx'⟩ := h
        rw [he]
        rcases List.mem_cons.mp hx with rfl | hx
        · rw [refused_of_role hrole, hc] at hx'; cases hx'
        · exact ih ⟨x, hx, hx'⟩
      · -- The first accepted object is in its role pool from here on.
        rw [he]
        have hin : ((m.accept role r).rolePool role).contains (m.obj r).id = true := by
          rw [accept, rolePool_modifyObj, rolePool_putAvailable, if_pos rfl, Dict.contains_iff]
          exact ⟨r, Dict.get?_set_self _ _ _⟩
        obtain ⟨hmono, hb⟩ := addInstances_mono hin rs
        exact ⟨⟨role, (m.obj r).id, hc, hmono⟩, hb⟩

theorem addInstances_frame {rs : List Ref} (hlt : ∀ r ∈ rs, r < m.heap.length) (id : Int)
    (h : id ∉ rs.map fun r => (m.obj r).id) (b : Bool) :
    (addInstances b rs m).2.availablePool.get? id = m.availablePool.get? id ∧
    (addInstances b rs m).2.unavailablePool = m.unavailablePool := by
  induction rs generalizing m b with
  | nil => exact ⟨rfl, rfl⟩
  | cons r rs ih =>
      have hr := hlt r (List.mem_cons_self ..)
      have hlt' : ∀ r' ∈ rs, r' < m.heap.length := fun r' h => hlt r' (List.mem_cons_of_mem _ h)
      rw [List.map_cons, List.mem_cons, not_or] at h
      rcases addInstances_cons r rs b m with ⟨_, he⟩ | ⟨_, _, he⟩ | ⟨_, _, _, _, he⟩ | ⟨role, _, _, _, he⟩
      · rw [he]; exact ih hlt' h.2 b
      · rw [he]; exact ⟨rfl, rfl⟩
      · rw [he]; exact ih hlt' h.2 b
      · have hid : ∀ x, ((m.accept role r).obj x).id = (m.obj x).id := id_accept hr
        obtain ⟨ha, hu⟩ := ih (m := m.accept role r) (by simpa [accept] using hlt') (by simpa [hid] using h.2) true
        rw [he, ha, hu]
        exact ⟨Dict.get?_set_ne h.1, by simp [accept]⟩

/-! ## Deleting and SET -/

theorem deleteInstances_unknown {rs : List Ref} (h : ∀ r ∈ rs, (m.obj r).id ∉ m.currentIds) (b : Bool) :
    deleteInstances b rs m = (.ok b, m) := by
  induction rs with
  | nil => rfl
  | cons r rs ih =>
      obtain ⟨ha, hu⟩ := not_mem_currentIds.mp (h r (List.mem_cons_self ..))
      have hd : m.deleteInstanceFromAvailablePool (m.obj r).id = (.ok false, m) := by
        simp [deleteInstanceFromAvailablePool, ha]
      have hc := Dict.contains_eq_false_iff.mpr hu
      simp only [deleteInstances, hc, hd, Bool.false_eq_true, ↓reduceIte]
      exact ih fun x hx => h x (List.mem_cons_of_mem _ hx)

theorem toRemove_eq_nil_iff (hi : Inv m) {refs : List Ref} :
    (m.computeSetDiff refs).2 = [] ↔ ∀ id ∈ m.currentIds, id ∈ refs.map fun r => (m.obj r).id := by
  constructor
  · intro h id hid
    by_contra hl
    have := (mem_toRemove hi).mpr ⟨hid, hl⟩
    rw [h] at this
    simp at this
  · intro h
    rw [List.eq_nil_iff_forall_not_mem]
    intro r hr
    obtain ⟨hid, hl⟩ := (mem_toRemove hi).mp (List.mem_map_of_mem (f := fun r => (m.obj r).id) hr)
    exact hl (h _ hid)

theorem applySetDiff_fst (hi : Inv m) (refs : List Ref) :
    (m.applySetDiff refs).1 =
      if (m.computeSetDiff refs).2 = [] ∧ (m.computeSetDiff refs).1 = [] then .ok false
      else (addInstances false (m.computeSetDiff refs).1
        (deleteInstances false (m.computeSetDiff refs).2 m).2).1.map fun _ => true := by
  have hd := (deleteInstances_spec hi (m.computeSetDiff refs).2 false).1
  unfold applySetDiff
  simp only [Bool.and_eq_true, List.isEmpty_iff]
  split
  · rfl
  · rcases h : deleteInstances false (m.computeSetDiff refs).2 m with ⟨res, m'⟩
    rw [h] at hd
    cases hd
    rcases h' : addInstances false (m.computeSetDiff refs).1 m' with ⟨res', m''⟩
    cases res' <;> simp only [h'] <;> rfl

/-! ## A refresh -/

section Request

variable {instances : List Instance}

theorem map_handedRefs : ((m.alloc instances).2.handedRefs (m.alloc instances).1).map (m.alloc instances).2.obj =
    m.handed .add instances := by
  have hu : (m.alloc instances).2.unavailablePool = m.unavailablePool := rfl
  conv_rhs => rw [handed, ← alloc_refs_map (m := m) instances, List.filter_map]
  rfl

theorem map_admittedRefs :
    ((m.alloc instances).2.admittedRefs (m.alloc instances).1).map (m.alloc instances).2.obj =
      m.admitted .add instances := by
  rw [admitted, ← map_handedRefs, List.takeWhile_map]
  rfl

theorem map_toAdd : ((m.alloc instances).2.computeSetDiff (m.alloc instances).1).1.map (m.alloc instances).2.obj =
    m.handed .set instances := by
  conv_rhs => rw [handed, ← alloc_refs_map (m := m) instances, List.filter_map]
  rfl

theorem exists_mem_of_map {α β : Type} {l : List α} {f : α → β} {l' : List β} (h : l.map f = l') (P : β → Prop) :
    (∃ x ∈ l', P x) ↔ ∃ r ∈ l, P (f r) := by
  subst h
  simp

theorem refused_alloc (x : Instance) : (m.alloc instances).2.refused x = m.refused x := by
  have hp : ∀ role, (m.alloc instances).2.rolePool role = m.rolePool role := by intro role; cases role <;> rfl
  simp only [refused, hp]

theorem invalid_add_iff : m.Invalid .add instances ↔
    ∃ r ∈ (m.alloc instances).2.handedRefs (m.alloc instances).1,
      PDRole.ofString? ((m.alloc instances).2.obj r).role = none :=
  exists_mem_of_map map_handedRefs fun x => PDRole.ofString? x.role = none

theorem accepts_add_iff : m.Accepts .add instances ↔
    ∃ r ∈ (m.alloc instances).2.admittedRefs (m.alloc instances).1,
      (m.alloc instances).2.refused ((m.alloc instances).2.obj r) = false := by
  simp only [refused_alloc]
  exact exists_mem_of_map map_admittedRefs fun x => m.refused x = false

end Request

theorem changes_announces {event : EventType} {instances : List Instance}
    (h : m.Changes event instances) : m.Announces event instances := by
  cases event with
  | add => exact h
  | del => exact h
  | set =>
      rcases h with h | ⟨x, hx, _⟩
      · exact Or.inl h
      · exact Or.inr (List.ne_nil_of_mem ((List.takeWhile_sublist _).subset hx))

/-- What a refresh returns and whether it changes a pool. -/
structure RefreshOutcome (m : InstanceManager) (event : EventType) (instances : List Instance) : Prop where
  raises : m.Invalid event instances → (m.refresh event instances).1 = .error .valueError
  returns : ¬ m.Invalid event instances →
    ∃ b, (m.refresh event instances).1 = .ok b ∧ (b = true ↔ m.Announces event instances)
  samePools : SamePools m (m.refresh event instances).2 ↔ ¬ m.Changes event instances

theorem refreshOutcome_add (m : InstanceManager) (instances : List Instance) :
    RefreshOutcome m .add instances := by
  have herr := addInstances_error_iff (m := (m.alloc instances).2) (fun r hr => (mem_alloc_refs hr).2) false
  rw [← invalid_add_iff] at herr
  -- Either an object is entered, or the loop leaves the state alone.
  have hacc : m.Accepts .add instances →
      ¬ SamePools m (m.refresh .add instances).2 ∧ ∀ b, (m.refresh .add instances).1 = .ok b → b = true := by
    intro h
    obtain ⟨⟨role, id, hn, hin⟩, hb⟩ := addInstances_accepted (accepts_add_iff.mp h) false
    refine ⟨fun hs => ?_, hb⟩
    have hp := hs.rolePool role
    have hold : (m.rolePool role).contains id = false := by cases role <;> exact hn
    have hnew : ((m.refresh .add instances).2.rolePool role).contains id = true := hin
    rw [hp, hold] at hnew; cases hnew
  have href : ¬ m.Accepts .add instances →
      SamePools m (m.refresh .add instances).2 ∧ ∀ b, (m.refresh .add instances).1 = .ok b → b = false := by
    intro h
    rw [accepts_add_iff] at h
    simp only [not_exists, not_and, Bool.not_eq_false] at h
    obtain ⟨hs, hb⟩ := addInstances_refused h false
    refine ⟨?_, hb⟩
    have he : (m.refresh .add instances).2 = (m.alloc instances).2 := hs
    rw [he]
    exact SamePools.alloc m instances
  refine ⟨herr.1, fun hv => ?_, fun hs h => (hacc h).1 hs, fun h => (href h).1⟩
  have hvalid : ∀ r ∈ (m.alloc instances).2.handedRefs (m.alloc instances).1,
      PDRole.ofString? ((m.alloc instances).2.obj r).role ≠ none := by
    rw [invalid_add_iff] at hv
    exact fun r hr hn => hv ⟨r, hr, hn⟩
  obtain ⟨b, hb⟩ := herr.2 hvalid
  refine ⟨b, hb, ?_⟩
  by_cases h : m.Accepts .add instances
  · exact ⟨fun _ => h, fun _ => (hacc h).2 b hb⟩
  · have hf := (href h).2 b hb
    subst hf
    exact ⟨fun ht => (nomatch ht), fun ha => absurd ha h⟩

theorem refreshOutcome_del (hi : Inv m) (instances : List Instance) : RefreshOutcome m .del instances := by
  have hia := hi.alloc instances
  obtain ⟨hres, hpools⟩ := deleteInstances_spec hia (m.alloc instances).1 false
  have hids := alloc_ids (m := m) instances
  have hmap := alloc_refs_map (m := m) instances
  have hany : ((m.alloc instances).1.any fun r => ((m.alloc instances).2.obj r).id ∈ (m.alloc instances).2.currentIds) =
      true ↔ m.Changes .del instances := by
    rw [List.any_eq_true]
    simp only [decide_eq_true_eq]
    exact (exists_mem_of_map hmap fun x => x.id ∈ m.currentIds).symm
  refine ⟨fun ⟨x, hx, _⟩ => (nomatch hx), fun _ => ⟨_, hres, ?_⟩, ?_⟩
  · rw [Bool.false_or]
    exact hany
  · constructor
    · rintro hs ⟨x, hx, hid⟩
      have hmem : x.id ∈ (m.alloc instances).1.map fun r => ((m.alloc instances).2.obj r).id := by
        rw [hids]; exact List.mem_map_of_mem hx
      obtain ⟨ha, hu⟩ := hpools x.id
      rw [if_pos hmem] at ha hu
      refine not_mem_currentIds.mpr ⟨?_, ?_⟩ hid
      · rw [← hs.availablePool]; exact ha
      · rw [← hs.unavailablePool]; exact hu
    · intro h
      have hun : ∀ r ∈ (m.alloc instances).1,
          ((m.alloc instances).2.obj r).id ∉ (m.alloc instances).2.currentIds := by
        intro r hr hid
        refine h ⟨(m.alloc instances).2.obj r, ?_, hid⟩
        have := List.mem_map_of_mem (f := (m.alloc instances).2.obj) hr
        rwa [hmap] at this
      have he : m.refresh .del instances = (.ok false, (m.alloc instances).2) := deleteInstances_unknown hun false
      rw [he]
      exact SamePools.alloc m instances

/-! ## SET -/

section Set

variable {instances : List Instance}

theorem removes_iff : m.Removes instances ↔
    ∃ id ∈ (m.alloc instances).2.currentIds,
      id ∉ (m.alloc instances).1.map fun r => ((m.alloc instances).2.obj r).id := by
  rw [alloc_ids]
  rfl

theorem toRemove_nil_iff (hi : Inv m) :
    ((m.alloc instances).2.computeSetDiff (m.alloc instances).1).2 = [] ↔ ¬ m.Removes instances := by
  rw [toRemove_eq_nil_iff (hi.alloc instances), removes_iff]
  simp only [not_exists, not_and, not_not]

theorem toAdd_nil_iff :
    ((m.alloc instances).2.computeSetDiff (m.alloc instances).1).1 = [] ↔ m.handed .set instances = [] := by
  rw [← map_toAdd, List.map_eq_nil_iff]

/-- An id that SET adds is not unavailable, so nothing is skipped. -/
theorem handedRefs_toAdd (hi : Inv m) (refs rs : List Ref) :
    (deleteInstances false rs m).2.handedRefs (m.computeSetDiff refs).1 = (m.computeSetDiff refs).1 := by
  have hheap : (deleteInstances false rs m).2.heap = m.heap := deleteInstances_heap
  rw [handedRefs, List.filter_eq_self]
  intro r hr
  have hu := (not_mem_currentIds.mp (mem_toAdd.mp hr).2).2
  have hobj : (deleteInstances false rs m).2.obj r = m.obj r := by simp only [obj, hheap]
  rw [Bool.not_eq_true', Dict.contains_eq_false_iff, hobj, Option.eq_none_iff_forall_ne_some]
  intro r' hr'
  have := (deleteInstances_sub hi).2 hr'
  rw [hu] at this; cases this

end Set

theorem applySetDiff_outcome (hi : Inv m) {refs : List Ref} (hlt : ∀ r ∈ refs, r < m.heap.length) :
    ((∃ r ∈ (m.computeSetDiff refs).1, PDRole.ofString? (m.obj r).role = none) →
      (m.applySetDiff refs).1 = .error .valueError) ∧
    ((∀ r ∈ (m.computeSetDiff refs).1, PDRole.ofString? (m.obj r).role ≠ none) →
      ∃ b, (m.applySetDiff refs).1 = .ok b ∧
        (b = true ↔ (m.computeSetDiff refs).2 ≠ [] ∨ (m.computeSetDiff refs).1 ≠ [])) ∧
    ((m.computeSetDiff refs).2 ≠ [] → ∃ id ∈ m.currentIds, id ∉ (m.applySetDiff refs).2.currentIds) ∧
    ((m.computeSetDiff refs).2 = [] →
      (m.applySetDiff refs).2 = (addInstances false (m.computeSetDiff refs).1 m).2) := by
  have hheap : (deleteInstances false (m.computeSetDiff refs).2 m).2.heap = m.heap := deleteInstances_heap
  have hobj : (deleteInstances false (m.computeSetDiff refs).2 m).2.obj = m.obj := by
    funext r; simp only [obj, hheap]
  have hlt' : ∀ r ∈ (m.computeSetDiff refs).1,
      r < (deleteInstances false (m.computeSetDiff refs).2 m).2.heap.length :=
    fun r hr => hheap ▸ hlt r (mem_toAdd.mp hr).1
  obtain ⟨herr, hok⟩ := addInstances_error_iff hlt' false
  rw [handedRefs_toAdd hi, hobj] at herr hok
  refine ⟨?_, ?_, ?_, ?_⟩
  · rintro ⟨r, hr, hrole⟩
    have hne : ¬ ((m.computeSetDiff refs).2 = [] ∧ (m.computeSetDiff refs).1 = []) := by
      rintro ⟨_, he⟩
      rw [he] at hr; cases hr
    rw [applySetDiff_fst hi, if_neg hne, herr ⟨r, hr, hrole⟩]
    rfl
  · intro hv
    obtain ⟨b, hb⟩ := hok hv
    rw [applySetDiff_fst hi]
    split
    · rename_i he
      exact ⟨false, rfl, by simp [he.1, he.2]⟩
    · rename_i he
      rw [not_and_or] at he
      exact ⟨true, by rw [hb]; rfl, fun _ => he, fun _ => rfl⟩
  · intro hne
    obtain ⟨r, hr⟩ := List.exists_mem_of_ne_nil _ hne
    have hmem := List.mem_map_of_mem (f := fun r => (m.obj r).id) hr
    obtain ⟨hid, hl⟩ := (mem_toRemove hi).mp hmem
    -- The removed id is not listed, so it is not added again.
    have hnot : (m.obj r).id ∉ (m.computeSetDiff refs).1.map fun r => (m.obj r).id := by
      intro h
      obtain ⟨r', hr', he⟩ := List.mem_map.mp h
      exact (mem_toAdd.mp hr').2 (he ▸ hid)
    obtain ⟨ha, hu⟩ := (deleteInstances_spec hi (m.computeSetDiff refs).2 false).2 (m.obj r).id
    rw [if_pos hmem] at ha hu
    obtain ⟨ha', hu'⟩ := addInstances_frame hlt' (m.obj r).id (by rw [hobj]; exact hnot) false
    refine ⟨(m.obj r).id, hid, not_mem_currentIds.mpr ⟨?_, ?_⟩⟩
    · rw [applySetDiff_snd hi, ha', ha]
    · rw [applySetDiff_snd hi, hu', hu]
  · intro he
    rw [applySetDiff_snd hi, he]
    rfl

theorem invalid_set_iff {instances : List Instance} : m.Invalid .set instances ↔
    ∃ r ∈ ((m.alloc instances).2.computeSetDiff (m.alloc instances).1).1,
      PDRole.ofString? ((m.alloc instances).2.obj r).role = none :=
  exists_mem_of_map map_toAdd fun x => PDRole.ofString? x.role = none

theorem accepts_set_iff (hi : Inv m) {instances : List Instance} : m.Accepts .set instances ↔
    ∃ r ∈ (m.alloc instances).2.admittedRefs ((m.alloc instances).2.computeSetDiff (m.alloc instances).1).1,
      (m.alloc instances).2.refused ((m.alloc instances).2.obj r) = false := by
  have hh : (m.alloc instances).2.handedRefs ((m.alloc instances).2.computeSetDiff (m.alloc instances).1).1 =
      ((m.alloc instances).2.computeSetDiff (m.alloc instances).1).1 :=
    handedRefs_toAdd (hi.alloc instances) _ []
  have hmap : ((m.alloc instances).2.admittedRefs
      ((m.alloc instances).2.computeSetDiff (m.alloc instances).1).1).map (m.alloc instances).2.obj =
      m.admitted .set instances := by
    rw [admittedRefs_eq, hh, admitted, ← map_toAdd, List.takeWhile_map]
    rfl
  simp only [refused_alloc]
  exact exists_mem_of_map hmap fun x => m.refused x = false

theorem refreshOutcome_set (hi : Inv m) (instances : List Instance) : RefreshOutcome m .set instances := by
  obtain ⟨herr, hok, hrem, hkeep⟩ := applySetDiff_outcome (hi.alloc instances) fun r hr => (mem_alloc_refs hr).2
  rw [← invalid_set_iff] at herr
  refine ⟨herr, fun hv => ?_, ?_⟩
  · obtain ⟨b, hb, hiff⟩ := hok fun r hr hn => hv (invalid_set_iff.mpr ⟨r, hr, hn⟩)
    rw [ne_eq, ne_eq, toRemove_nil_iff hi, toAdd_nil_iff, not_not] at hiff
    exact ⟨b, hb, hiff⟩
  · by_cases hr : m.Removes instances
    · obtain ⟨id, hid, hgone⟩ := hrem fun he => (toRemove_nil_iff hi).mp he hr
      refine ⟨fun hs => ?_, fun h => absurd (Or.inl hr) h⟩
      obtain ⟨ha, hu⟩ := not_mem_currentIds.mp hgone
      refine absurd hid (not_mem_currentIds.mpr ⟨?_, ?_⟩)
      · rw [← ha]; exact congrArg (Dict.get? · id) hs.availablePool.symm
      · rw [← hu]; exact congrArg (Dict.get? · id) hs.unavailablePool.symm
    · have hstate : (m.refresh .set instances).2 = _ := hkeep ((toRemove_nil_iff hi).mpr hr)
      by_cases ha : m.Accepts .set instances
      · obtain ⟨⟨role, id, hn, hin⟩, _⟩ := addInstances_accepted ((accepts_set_iff hi).mp ha) false
        refine ⟨fun hs => ?_, fun h => absurd (Or.inr ha) h⟩
        have hold : (m.rolePool role).contains id = false := by cases role <;> exact hn
        rw [← hstate, hs.rolePool role, hold] at hin
        cases hin
      · refine ⟨fun _ hc => hc.elim hr ha, fun _ => ?_⟩
        rw [accepts_set_iff hi] at ha
        simp only [not_exists, not_and, Bool.not_eq_false] at ha
        rw [hstate, (addInstances_refused ha false).1]
        exact SamePools.alloc m instances

theorem refreshOutcome (hi : Inv m) (event : EventType) (instances : List Instance) :
    RefreshOutcome m event instances := by
  cases event with
  | add => exact refreshOutcome_add m instances
  | del => exact refreshOutcome_del hi instances
  | set => exact refreshOutcome_set hi instances

/-! ## The objects after a refresh -/

def Idle (x : Instance) : Prop := ∀ ep ∈ x.endpointList, ep.workload = 0

theorem addInstances_objects {rs : List Ref} (hlt : ∀ r ∈ rs, r < m.heap.length) (hn : rs.Nodup) (b : Bool) :
    (∀ r, r ∉ rs → (addInstances b rs m).2.obj r = m.obj r) ∧
    ∀ id r, (addInstances b rs m).2.availablePool.get? id = some r →
      m.availablePool.get? id = some r ∨ (r ∈ rs ∧ Idle ((addInstances b rs m).2.obj r)) := by
  induction rs generalizing m b with
  | nil => exact ⟨fun _ _ => rfl, fun _ _ h => Or.inl h⟩
  | cons x rs ih =>
      have hx := hlt x (List.mem_cons_self ..)
      have hlt' : ∀ r ∈ rs, r < m.heap.length := fun r h => hlt r (List.mem_cons_of_mem _ h)
      rw [List.nodup_cons] at hn
      have hskip : ∀ b, (∀ r, r ∉ x :: rs → (addInstances b rs m).2.obj r = m.obj r) ∧
          ∀ id r, (addInstances b rs m).2.availablePool.get? id = some r →
            m.availablePool.get? id = some r ∨ (r ∈ x :: rs ∧ Idle ((addInstances b rs m).2.obj r)) := by
        intro b
        obtain ⟨hobj, hav⟩ := ih hlt' hn.2 b
        refine ⟨fun r hr => hobj r fun h => hr (List.mem_cons_of_mem _ h), fun id r h => ?_⟩
        rcases hav id r h with h | ⟨hr, hi⟩
        · exact Or.inl h
        · exact Or.inr ⟨List.mem_cons_of_mem _ hr, hi⟩
      rcases addInstances_cons x rs b m with ⟨_, he⟩ | ⟨_, _, he⟩ | ⟨_, _, _, _, he⟩ | ⟨role, _, _, _, he⟩
      · rw [he]; exact hskip b
      · rw [he]; exact ⟨fun _ _ => rfl, fun _ _ h => Or.inl h⟩
      · rw [he]; exact hskip b
      · rw [he]
        obtain ⟨hobj, hav⟩ := ih (m := m.accept role x) (by simpa [accept] using hlt') hn.2 true
        constructor
        · intro r hr
          rw [List.mem_cons, not_or] at hr
          rw [hobj r hr.2, obj_accept_ne hr.1]
        · intro id r h
          rcases hav id r h with h | ⟨hr, hi⟩
          · have hput : (m.accept role x).availablePool = m.availablePool.set (m.obj x).id x := rfl
            rw [hput, Dict.get?_set] at h
            split at h
            · cases h
              refine Or.inr ⟨List.mem_cons_self .., ?_⟩
              rw [hobj x hn.1, accept, obj_modifyObj_self (by simpa using hx)]
              exact fun ep => Instance.workload_initWorkload
            · exact Or.inl h
          · exact Or.inr ⟨List.mem_cons_of_mem _ hr, hi⟩

/-- After a refresh an available object is one that was available before, unchanged, or a new idle one. -/
theorem refresh_objects (hi : Inv m) (event : EventType) (instances : List Instance) :
    m.heap.length ≤ (m.refresh event instances).2.heap.length ∧
    (∀ r < m.heap.length, (m.refresh event instances).2.obj r = m.obj r) ∧
    ∀ id r, (m.refresh event instances).2.availablePool.get? id = some r →
      m.availablePool.get? id = some r ∨ (m.heap.length ≤ r ∧ Idle ((m.refresh event instances).2.obj r)) := by
  have hia := hi.alloc instances
  have hlen : m.heap.length ≤ (m.alloc instances).2.heap.length := by
    rw [length_alloc]
    exact Nat.le_add_right ..
  have hnodup : (m.alloc instances).1.Nodup := List.nodup_range'
  have hfresh : ∀ r < m.heap.length, r ∉ (m.alloc instances).1 :=
    fun r hr h => absurd (mem_alloc_refs h).1 (Nat.not_le.mpr hr)
  cases event with
  | add =>
      obtain ⟨hobj, hav⟩ := addInstances_objects (m := (m.alloc instances).2)
        (fun r hr => (mem_alloc_refs hr).2) hnodup false
      refine ⟨hlen.trans_eq addInstances_length.symm, fun r hr => ?_, fun id r h => ?_⟩
      · exact (hobj r (hfresh r hr)).trans (obj_alloc_old hr instances)
      · rcases hav id r h with h | ⟨hr, hi⟩
        · exact Or.inl h
        · exact Or.inr ⟨(mem_alloc_refs hr).1, hi⟩
  | del =>
      have hheap : (m.refresh .del instances).2.heap = (m.alloc instances).2.heap := deleteInstances_heap
      refine ⟨by rw [hheap]; exact hlen, fun r hr => ?_, fun id r h => Or.inl ?_⟩
      · rw [← obj_alloc_old hr instances]
        simp only [obj, hheap]
      · exact (deleteInstances_sub hia).1 h
  | set =>
      have hheap : ∀ rs, (deleteInstances false rs (m.alloc instances).2).2.heap = (m.alloc instances).2.heap :=
        fun _ => deleteInstances_heap
      have hstate : (m.refresh .set instances).2 = _ := applySetDiff_snd hia (m.alloc instances).1
      have hsubl : ((m.alloc instances).2.computeSetDiff (m.alloc instances).1).1.Sublist (m.alloc instances).1 :=
        List.filter_sublist
      obtain ⟨hobj, hav⟩ := addInstances_objects
        (m := (deleteInstances false ((m.alloc instances).2.computeSetDiff (m.alloc instances).1).2
          (m.alloc instances).2).2)
        (fun r hr => hheap _ ▸ (mem_alloc_refs (hsubl.subset hr)).2) (hnodup.sublist hsubl) false
      rw [hstate]
      refine ⟨?_, fun r hr => ?_, fun id r h => ?_⟩
      · rw [addInstances_length, hheap]
        exact hlen
      · rw [hobj r fun h => hfresh r hr (hsubl.subset h), ← obj_alloc_old hr instances]
        simp only [obj, hheap]
      · rcases hav id r h with h | ⟨hr, hi⟩
        · exact Or.inl ((deleteInstances_sub hia).1 h)
        · exact Or.inr ⟨(mem_alloc_refs (hsubl.subset hr)).1, hi⟩

/-! ## The pools after a refresh -/

theorem availableRole_dropAvailable (role : PDRole) (id id' : Int) :
    (m.dropAvailable role id).availableRole id' = if id' = id then none else m.availableRole id' := by
  simp only [availableRole, availablePool_dropAvailable, obj_dropAvailable, Dict.get?_erase]
  split <;> rfl

theorem entries_rolePool_deleteInstances (hi : Inv m) (rs : List Ref) (b : Bool) (role : PDRole) :
    ((deleteInstances b rs m).2.rolePool role).entries = (m.rolePool role).entries.filter fun e =>
      ¬ (e.1 ∈ rs.map (fun r => (m.obj r).id) ∧ m.availableRole e.1 = some role) := by
  induction rs generalizing m b with
  | nil => simp [deleteInstances]
  | cons r rs ih =>
      unfold deleteInstances
      dsimp only
      -- The id of `r` is no reason to leave the pool when it is not available.
      have skip : m.availableRole (m.obj r).id = none →
          ((m.rolePool role).entries.filter fun e =>
            ¬ (e.1 ∈ rs.map (fun r => (m.obj r).id) ∧ m.availableRole e.1 = some role)) =
          (m.rolePool role).entries.filter fun e =>
            ¬ (e.1 ∈ (r :: rs).map (fun r => (m.obj r).id) ∧ m.availableRole e.1 = some role) := by
        intro hn
        apply List.filter_congr
        intro e _
        simp only [List.map_cons, List.mem_cons]
        by_cases he : e.1 = (m.obj r).id
        · simp [he, hn]
        · simp [he]
      cases hu : m.unavailablePool.contains (m.obj r).id with
      | true =>
          obtain ⟨r', hr'⟩ := Dict.contains_iff.mp hu
          rw [if_pos rfl, ih (hi.discard _)]
          exact skip (by simp [availableRole, (hi.unavailable hr').2.2])
      | false =>
          rw [if_neg Bool.false_ne_true]
          rcases deleteInstanceFromAvailablePool_cases m (m.obj r).id with
            ⟨hn, h⟩ | ⟨r', role', ha, hrole, _, h⟩ | ⟨r', _, ha, hp, _⟩
          · simp only [h]
            rw [ih hi]
            exact skip (by simp [availableRole, hn])
          · simp only [h]
            rw [ih (hi.dropAvailable _ _), rolePool_dropAvailable]
            have hown : m.availableRole (m.obj r).id = some role' := by simp [availableRole, ha, hrole]
            simp only [availableRole_dropAvailable, obj_dropAvailable, List.map_cons, List.mem_cons]
            by_cases hr : role = role'
            · subst hr
              rw [if_pos rfl, Dict.erase, List.filter_filter]
              apply List.filter_congr
              intro e _
              by_cases he : e.1 = (m.obj r).id
              · simp [he, hown]
              · simp [he]
            · rw [if_neg hr]
              apply List.filter_congr
              intro e _
              by_cases he : e.1 = (m.obj r).id
              · simp [he, hown, Ne.symm hr]
              · simp [he]
          · obtain ⟨_, _, role', hrole, hp'⟩ := hi.available ha
            have hc := hp role' hrole
            rw [Dict.contains_eq_false_iff, hp'] at hc
            cases hc

def appended (m : InstanceManager) (rs : List Ref) (role : PDRole) : List Ref :=
  ((m.handedRefs rs).filter fun r =>
    PDRole.ofString? (m.obj r).role = some role ∧
      (m.rolePool role).contains (m.obj r).id = false).eraseDupsBy fun r r' => (m.obj r).id = (m.obj r').id

theorem entries_rolePool_addInstances {rs : List Ref} (hlt : ∀ r ∈ rs, r < m.heap.length)
    (hv : ∀ r ∈ m.handedRefs rs, PDRole.ofString? (m.obj r).role ≠ none) (b : Bool) (role : PDRole) :
    ((addInstances b rs m).2.rolePool role).entries =
      (m.rolePool role).entries ++ (m.appended rs role).map fun r => ((m.obj r).id, r) := by
  induction rs generalizing m b with
  | nil => simp [addInstances, appended, handedRefs]
  | cons r rs ih =>
      rw [List.forall_mem_cons] at hlt
      rcases addInstances_cons r rs b m with ⟨hh, h⟩ | ⟨hh, hrole, h⟩ | ⟨role', hh, hrole, hc, h⟩ |
        ⟨role', hh, hrole, hc, h⟩
      · rw [hh] at hv
        rw [h, ih hlt.2 hv, appended, appended, hh]
      · rw [hh] at hv
        exact absurd hrole (hv r (List.mem_cons_self ..))
      · rw [hh, List.forall_mem_cons] at hv
        rw [h, ih hlt.2 hv.2, appended, appended, hh, List.filter_cons_of_neg]
        -- The pool of its role knows the id.
        rintro hr
        obtain ⟨hr, hn⟩ := of_decide_eq_true hr
        rw [hrole] at hr
        cases hr
        rw [hc] at hn
        cases hn
      · rw [hh, List.forall_mem_cons] at hv
        have hlen : ∀ r' ∈ rs, r' < (m.accept role' r).heap.length := by simpa [accept] using hlt.2
        have hnone := Dict.contains_eq_false_iff.mp hc
        rw [h, ih hlen (by simpa only [handedRefs_accept hlt.1, role_accept hlt.1] using hv.2)]
        simp only [appended, handedRefs_accept hlt.1, role_accept hlt.1, id_accept hlt.1, hh]
        rw [accept, rolePool_modifyObj, rolePool_putAvailable]
        by_cases hr : role = role'
        · subst hr
          -- The ids of the pool that `r` is entered in.
          have hfilter : ((m.handedRefs rs).filter fun x => PDRole.ofString? (m.obj x).role = some role ∧
              ((m.rolePool role).set (m.obj r).id r).contains (m.obj x).id = false) =
              ((m.handedRefs rs).filter fun x => PDRole.ofString? (m.obj x).role = some role ∧
                (m.rolePool role).contains (m.obj x).id = false).filter
                  fun x => decide ((m.obj x).id = (m.obj r).id) = false := by
            rw [List.filter_filter]
            apply List.filter_congr
            intro x _
            by_cases hx : (m.obj x).id = (m.obj r).id
            · simp [hx, Dict.contains]
            · simp [hx, Dict.contains, Dict.get?_set_ne hx]
          rw [if_pos rfl, Dict.entries_set_absent hnone, List.filter_cons_of_pos (by simp [hrole, hc]),
            List.eraseDupsBy_cons, List.map_cons, List.append_assoc, hfilter]
          rfl
        · rw [if_neg hr, List.filter_cons_of_neg (by simp [hrole, Ne.symm hr])]

theorem eraseDupsBy_map {α β : Type} (f : α → β) (r : β → β → Bool) (l : List α) :
    (l.map f).eraseDupsBy r = (l.eraseDupsBy fun x y => r (f x) (f y)).map f := by
  induction hn : l.length using Nat.strong_induction_on generalizing l with
  | _ n ih =>
      cases l with
      | nil => rfl
      | cons x l =>
          have hlt : (l.filter fun y => r (f y) (f x) = false).length < n := by
            rw [← hn, List.length_cons]
            exact Nat.lt_succ_of_le (List.length_filter_le _ _)
          rw [List.map_cons, List.eraseDupsBy_cons, List.eraseDupsBy_cons, List.map_cons, List.filter_map]
          congr 1
          exact ih _ hlt _ rfl

section Intended

variable {event : EventType} {instances : List Instance}

theorem dropsId_del {id : Int} : DropsId .del instances id ↔ id ∈ instances.map Instance.id := Iff.rfl

theorem dropsId_set {id : Int} : DropsId .set instances id ↔ id ∉ instances.map Instance.id := Iff.rfl

theorem availableRole_alloc (hi : Inv m) (id : Int) :
    (m.alloc instances).2.availableRole id = m.availableRole id := by
  have ha : (m.alloc instances).2.availablePool = m.availablePool := rfl
  simp only [availableRole, ha]
  cases hr : m.availablePool.get? id with
  | none => rfl
  | some r =>
      simp only [Option.bind_some, obj_alloc_old (hi.available hr).1]

theorem map_handedRefs_additions (hi : Inv m) (event : EventType) (instances : List Instance) :
    (((m.alloc instances).2.additions event (m.alloc instances).1).2.handedRefs
      ((m.alloc instances).2.additions event (m.alloc instances).1).1).map (m.alloc instances).2.obj =
      m.handed event instances := by
  cases event with
  | add => exact map_handedRefs
  | del => rfl
  | set =>
      simp only [additions]
      rw [handedRefs_toAdd (hi.alloc instances), map_toAdd]

theorem entries_rolePool_additions (hi : Inv m) (role : PDRole) :
    (((m.alloc instances).2.additions event (m.alloc instances).1).2.rolePool role).entries =
      (m.rolePool role).entries.filter fun e =>
        ¬ (DropsId event instances e.1 ∧ m.availableRole e.1 = some role) := by
  have hpool : ((m.alloc instances).2.rolePool role) = m.rolePool role := (SamePools.alloc m instances).rolePool role
  cases event with
  | add =>
      simp only [additions, hpool]
      exact (List.filter_eq_self.mpr fun e _ => decide_eq_true fun h => h.1).symm
  | del =>
      simp only [additions]
      rw [entries_rolePool_deleteInstances (hi.alloc instances), hpool]
      simp only [alloc_ids, availableRole_alloc hi, dropsId_del]
  | set =>
      simp only [additions]
      rw [entries_rolePool_deleteInstances (hi.alloc instances), hpool]
      apply List.filter_congr
      intro e _
      simp only [mem_toRemove (hi.alloc instances), alloc_ids, availableRole_alloc hi, dropsId_set]
      -- An id with a role is known.
      have hknown : m.availableRole e.1 = some role → e.1 ∈ (m.alloc instances).2.currentIds := by
        intro h
        obtain ⟨r, hr, _⟩ := Option.bind_eq_some_iff.mp h
        exact mem_currentIds.mpr (Or.inl ⟨r, hr⟩)
      rw [decide_eq_decide]
      tauto

theorem contains_additions (hi : Inv m) {x : Instance} (hx : x ∈ m.handed event instances) (role : PDRole) :
    (((m.alloc instances).2.additions event (m.alloc instances).1).2.rolePool role).contains x.id =
      (m.rolePool role).contains x.id := by
  have hstays : ¬ (DropsId event instances x.id ∧ m.availableRole x.id = some role) := by
    rintro ⟨ht, hr⟩
    cases event with
    | add => exact ht
    | del => cases hx
    | set =>
        have hn := of_decide_eq_true (List.mem_filter.mp hx).2
        simp [availableRole, (not_mem_currentIds.mp hn).1] at hr
  rw [Bool.eq_iff_iff, Dict.contains_iff_mem_keys, Dict.contains_iff_mem_keys, Dict.keys, Dict.keys,
    entries_rolePool_additions hi]
  constructor
  · exact fun h => (List.filter_sublist.map _).subset h
  · intro h
    obtain ⟨e, he, hid⟩ := List.mem_map.mp h
    refine List.mem_map.mpr ⟨e, List.mem_filter.mpr ⟨he, decide_eq_true ?_⟩, hid⟩
    rwa [hid]

theorem map_rolePool_refresh {α : Type} {f : Instance → α} (hf : ∀ x y, SameShape x y → f x = f y) (hi : Inv m)
    (hv : ¬ m.Invalid event instances) (role : PDRole) :
    ((m.refresh event instances).2.rolePool role).values.map (fun r => f ((m.refresh event instances).2.obj r)) =
      (m.intended event instances role).map f := by
  have hia := hi.alloc instances
  have hobj := obj_additions (m := (m.alloc instances).2) event (m.alloc instances).1
  have hlt : ∀ r ∈ (m.alloc instances).1, r < (m.alloc instances).2.heap.length := fun r hr => (mem_alloc_refs hr).2
  have henters := additions_enters hlt (refreshMeets_true (m.alloc instances).2 event (m.alloc instances).1)
  have hstate : (m.refresh event instances).2 = _ := refreshInstances_snd hia event (m.alloc instances).1
  have hshape : ∀ r, f ((m.refresh event instances).2.obj r) = f ((m.alloc instances).2.obj r) := by
    intro r
    rw [hstate, ← congrFun hobj r]
    exact hf _ _ (henters.sameShape r)
  have hhanded := map_handedRefs_additions hi event instances
  have hvalid : ∀ r ∈ ((m.alloc instances).2.additions event (m.alloc instances).1).2.handedRefs
      ((m.alloc instances).2.additions event (m.alloc instances).1).1,
      PDRole.ofString? (((m.alloc instances).2.additions event (m.alloc instances).1).2.obj r).role ≠ none := by
    intro r hr hnone
    rw [hobj] at hnone
    exact hv ⟨_, hhanded ▸ List.mem_map_of_mem hr, hnone⟩
  have hentries := entries_rolePool_addInstances (b := false)
    (fun r hr => by rw [heap_additions]; exact hlt r (mem_additions hr)) hvalid role
  rw [← hstate, entries_rolePool_additions hi] at hentries
  simp only [hshape]
  rw [Dict.values, hentries, List.map_map, List.map_append, List.map_map, intended, List.map_append, List.map_map]
  congr 1
  · apply List.map_congr_left
    intro e he
    have hin := Dict.get?_eq_some_iff.mpr (List.mem_filter.mp he).1
    simp only [Function.comp_apply, obj_alloc_old (hi.rolePool hin).1]
  · have hadded : (m.handed event instances).filter (fun x => PDRole.ofString? x.role = some role ∧
        (m.rolePool role).contains x.id = false) =
        (m.handed event instances).filter fun x => PDRole.ofString? x.role = some role ∧
          (((m.alloc instances).2.additions event (m.alloc instances).1).2.rolePool role).contains x.id = false := by
      apply List.filter_congr
      intro x hx
      rw [contains_additions hi hx]
    rw [hadded, ← hhanded, List.filter_map, eraseDupsBy_map, List.map_map, appended, hobj]
    rfl

end Intended

end PyMotor.InstanceManager
