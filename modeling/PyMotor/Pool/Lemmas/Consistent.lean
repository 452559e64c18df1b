import PyMotor.Pool.Lemmas.Invariant
import PyMotor.Pool.InstanceManager

/-!
# Consistency of the six maps

`NoStale` together with `Inv` gives `Consistent`. It is kept by every update that enters an object only
under an id that is not available, and a refresh that keeps roles makes no other update.
-/

namespace PyMotor.InstanceManager

open Lib

variable {G : InstanceManager → Ref → Prop} {m m' : InstanceManager}

/-- The role pools hold nothing but available objects. -/
def NoStale (m : InstanceManager) : Prop :=
  ∀ role id r, (m.rolePool role).get? id = some r → m.availablePool.get? id = some r

/-- The id of the object is not available. -/
def NewId (m : InstanceManager) (r : Ref) : Prop := m.availablePool.get? (m.obj r).id = none

theorem noStale_init : NoStale {} := by
  intro role id r h
  cases role <;> simp [rolePool] at h

theorem NoStale.putAvailable (h : NoStale m) {r : Ref} (role : PDRole) (hn : NewId m r) :
    NoStale (m.putAvailable role r) := by
  intro role' id r' hp
  rw [rolePool_putAvailable] at hp
  rw [availablePool_putAvailable, Dict.get?_set]
  split at hp
  · rename_i he
    subst he
    rw [Dict.get?_set] at hp
    split at hp
    · rename_i hid; simpa [hid] using hp
    · rename_i hid; simpa [hid] using h _ _ _ hp
  · -- Another role pool knows the id only when it is available already.
    have hne : id ≠ (m.obj r).id := by
      rintro rfl
      have := h _ _ _ hp
      rw [hn] at this; cases this
    rw [if_neg hne]
    exact h _ _ _ hp

theorem NoStale.dropAvailable (h : NoStale m) (hi : Inv m) {id : Int} {r : Ref} {role : PDRole}
    (ha : m.availablePool.get? id = some r) (hrole : PDRole.ofString? (m.obj r).role = some role) :
    NoStale (m.dropAvailable role id) := by
  intro role' id' r' hp
  rw [rolePool_dropAvailable] at hp
  rw [availablePool_dropAvailable, Dict.get?_erase]
  split at hp
  · rw [Dict.get?_erase] at hp
    split at hp
    · cases hp
    · rename_i he hne
      subst he
      simpa [hne] using h _ _ _ hp
  · rename_i hne
    have hid : id' ≠ id := by
      rintro rfl
      have hr := h _ _ _ hp
      rw [ha] at hr; cases hr
      obtain ⟨_, _, hrole'⟩ := hi.rolePool hp
      rw [hrole] at hrole'; cases hrole'
      exact hne rfl
    rw [if_neg hid]
    exact h _ _ _ hp

theorem NoStale.congr (h : NoStale m) (hp : ∀ role, m'.rolePool role = m.rolePool role)
    (ha : m'.availablePool = m.availablePool) : NoStale m' := by
  intro role id r hr
  rw [hp] at hr
  rw [ha]
  exact h _ _ _ hr

theorem NoStale.poolStep (h : NoStale m) (hi : Inv m) (hs : PoolStep NewId m m') : NoStale m' := by
  cases hs with
  | alloc instances => exact h.congr (fun role => by cases role <;> rfl) rfl
  | put hr hrole hp hu hn => exact (h.putAvailable _ hn).congr (fun _ => rolePool_modifyObj _ _ _) rfl
  | @restore id r role hu hrole hp =>
      have h' : NoStale { m with unavailablePool := m.unavailablePool.erase id } :=
        h.congr (fun role => by cases role <;> rfl) rfl
      refine h'.putAvailable role ?_
      obtain ⟨_, hid, ha⟩ := hi.unavailable hu
      exact hid ▸ ha
  | discard id => exact h.congr (fun role => by cases role <;> rfl) rfl
  | drop ha hrole => exact h.dropAvailable hi ha hrole
  | park ha hrole => exact (h.dropAvailable hi ha hrole).congr (fun role => by cases role <;> rfl) rfl
  | work iid eid change =>
      rcases hi.updateInstanceWorkload_cases iid eid change with ⟨_, he⟩ | ⟨_, _, _, _, _, _, _, _, _, he⟩
      · rw [he]; exact h
      · rw [he]; exact h.congr (fun role => by simp) rfl
  | stop => intro role id r hp; cases role <;> simp [InstanceManager.stop, rolePool] at hp

theorem Inv.consistent (hi : Inv m) (h : NoStale m) : Consistent m where
  disjoint {id role role'} h₁ h₂ := by
    obtain ⟨r₁, hr₁⟩ := Dict.contains_iff.mp h₁
    obtain ⟨r₂, hr₂⟩ := Dict.contains_iff.mp h₂
    have ha₁ := h _ _ _ hr₁
    have ha₂ := h _ _ _ hr₂
    rw [ha₁] at ha₂; cases ha₂
    have hrole₁ := (hi.rolePool hr₁).2.2
    have hrole₂ := (hi.rolePool hr₂).2.2
    rw [hrole₁] at hrole₂; cases hrole₂
    rfl
  union {id r} := by
    constructor
    · intro ha
      obtain ⟨_, _, role, _, hp⟩ := hi.available ha
      exact ⟨role, hp⟩
    · rintro ⟨role, hp⟩
      exact h _ _ _ hp
  ownRole hp := (hi.rolePool hp).2
  exclusive {id} ha := by
    rw [Dict.contains_eq_false_iff]
    cases hu : m.unavailablePool.get? id with
    | none => rfl
    | some r =>
        obtain ⟨r', hr'⟩ := Dict.contains_iff.mp ha
        rw [(hi.unavailable hu).2.2] at hr'; cases hr'
  cacheKeys {id} := by
    rw [Bool.eq_iff_iff, Dict.contains_iff, Dict.contains_iff]
    constructor
    · rintro ⟨c, hc⟩; exact hi.cacheKeys hc
    · rintro ⟨r, hr⟩; exact ⟨_, hi.cache hr⟩
  cacheSound ha hc he := by
    rw [hi.cache ha] at hc; cases hc
    exact buildEndpointCache_get? he
  cacheComplete ha hc he := by
    rw [hi.cache ha] at hc; cases hc
    exact buildEndpointCache_contains he

/-! ## A refresh that keeps roles -/

/-- The references behind the admitted instances. -/
def admittedRefs (m : InstanceManager) (rs : List Ref) : List Ref :=
  (rs.filter fun r => !m.unavailablePool.contains (m.obj r).id).takeWhile
    fun r => (PDRole.ofString? (m.obj r).role).isSome

/-- `RoleKept` for references. -/
def RefsKept (m : InstanceManager) (rs : List Ref) : Prop :=
  ∀ r ∈ m.admittedRefs rs,
    (∀ r', m.availablePool.get? (m.obj r).id = some r' → (m.obj r').role = (m.obj r).role) ∧
    ∀ r' ∈ m.admittedRefs rs, (m.obj r').id = (m.obj r).id → (m.obj r').role = (m.obj r).role

theorem admittedRefs_congr (hu : m'.unavailablePool = m.unavailablePool)
    (hid : ∀ r, (m'.obj r).id = (m.obj r).id) (hrole : ∀ r, (m'.obj r).role = (m.obj r).role)
    (rs : List Ref) : m'.admittedRefs rs = m.admittedRefs rs := by
  simp only [admittedRefs, hu, hid, hrole]

theorem refsKept_tail {r : Ref} {rs : List Ref} (h : RefsKept m (r :: rs))
    (hsub : ∀ x ∈ m.admittedRefs rs, x ∈ m.admittedRefs (r :: rs)) : RefsKept m rs := by
  intro x hx
  obtain ⟨ha, hy⟩ := h x (hsub x hx)
  exact ⟨ha, fun y hy' => hy y (hsub y hy')⟩

theorem addsMeet_of_refsKept (hi : Inv m) {rs : List Ref} (hrs : ∀ r ∈ rs, r < m.heap.length)
    (h : RefsKept m rs) : AddsMeet NewId rs m := by
  induction rs generalizing m with
  | nil => trivial
  | cons r rs ih =>
      have hr := hrs r (List.mem_cons_self ..)
      have hrs' : ∀ r' ∈ rs, r' < m.heap.length := fun r' h => hrs r' (List.mem_cons_of_mem _ h)
      unfold AddsMeet
      cases hu : m.unavailablePool.contains (m.obj r).id with
      | true =>
          simp only [↓reduceIte]
          refine ih hi hrs' (refsKept_tail h ?_)
          intro x hx
          simpa [admittedRefs, hu] using hx
      | false =>
          simp only [Bool.false_eq_true, ↓reduceIte]
          have hhead : ∀ {role}, PDRole.ofString? (m.obj r).role = some role →
              m.admittedRefs (r :: rs) = r :: m.admittedRefs rs := by
            intro role hrole
            simp [admittedRefs, hu, hrole]
          rcases addInstanceToAvailablePool_cases m r with ⟨_, he⟩ | ⟨role, hrole, _, he⟩ | ⟨role, hrole, hp, he⟩ <;>
            simp only [he]
          · refine ih hi hrs' (refsKept_tail h ?_)
            intro x hx
            rw [hhead hrole]
            exact List.mem_cons_of_mem _ hx
          · have hmem : r ∈ m.admittedRefs (r :: rs) := by rw [hhead hrole]; exact List.mem_cons_self ..
            constructor
            · -- An available object of this id has the same role, hence would be in the same role pool.
              unfold NewId
              cases ha : m.availablePool.get? (m.obj r).id with
              | none => rfl
              | some r' =>
                  obtain ⟨_, _, role', hrole', hp'⟩ := hi.available ha
                  rw [(h r hmem).1 r' ha, hrole] at hrole'; cases hrole'
                  rw [hp] at hp'; cases hp'
            · have hst : PoolStep (fun _ _ => True) m ((m.putAvailable role r).modifyObj r Instance.initWorkload) :=
                .put hr hrole hp (Dict.contains_eq_false_iff.mp hu) trivial
              have hr' : r < (m.putAvailable role r).heap.length := by simpa using hr
              have oid : ∀ x, (((m.putAvailable role r).modifyObj r Instance.initWorkload).obj x).id =
                  (m.obj x).id := by
                intro x
                rw [obj_modifyObj_congr (f := Instance.initWorkload) (g := Instance.id) (fun _ => rfl) hr',
                  obj_putAvailable]
              have orole : ∀ x, (((m.putAvailable role r).modifyObj r Instance.initWorkload).obj x).role =
                  (m.obj x).role := by
                intro x
                rw [obj_modifyObj_congr (f := Instance.initWorkload) (g := Instance.role) (fun _ => rfl) hr',
                  obj_putAvailable]
              refine ih (hi.poolStep hst) (by simpa using hrs') ?_
              intro x hx
              rw [admittedRefs_congr (by simp) oid orole] at hx ⊢
              have hxm : x ∈ m.admittedRefs (r :: rs) := by rw [hhead hrole]; exact List.mem_cons_of_mem _ hx
              constructor
              · intro y hy
                rw [oid, availablePool_modifyObj, availablePool_putAvailable, Dict.get?_set] at hy
                rw [orole, orole]
                split at hy
                · rename_i hid
                  cases hy
                  exact (h x hxm).2 r hmem hid.symm
                · exact (h x hxm).1 y hy
              · intro y hy hid
                rw [oid, oid] at hid
                rw [orole, orole]
                refine (h x hxm).2 y ?_ hid
                rw [hhead hrole]; exact List.mem_cons_of_mem _ hy

theorem deleteInstances_sub (hi : Inv m) {rs : List Ref} {b : Bool} {id : Int} {r : Ref} :
    ((deleteInstances b rs m).2.availablePool.get? id = some r → m.availablePool.get? id = some r) ∧
    ((deleteInstances b rs m).2.unavailablePool.get? id = some r → m.unavailablePool.get? id = some r) := by
  obtain ⟨ha, hu⟩ := (deleteInstances_spec hi rs b).2 id
  rw [ha, hu]
  constructor <;>
    · intro h
      split at h
      · cases h
      · exact h

theorem refreshMeets_of_roleKept (hi : Inv m) {event : EventType} {instances : List Instance}
    (h : RoleKept m (.refresh event instances)) :
    RefreshMeets NewId (m.alloc instances).2 event (m.alloc instances).1 := by
  have hmap := alloc_refs_map (m := m) instances
  have hlt : ∀ r ∈ (m.alloc instances).1, r < (m.alloc instances).2.heap.length :=
    fun r hr => (mem_alloc_refs hr).2
  -- The condition on instances, read for the new references in a state with smaller pools.
  have key : ∀ (refs : List Ref) (ms : InstanceManager),
      ms.heap = (m.alloc instances).2.heap →
      (∀ id r, ms.availablePool.get? id = some r → m.availablePool.get? id = some r) →
      (∀ r ∈ ms.admittedRefs refs, ms.obj r ∈ m.admitted event instances) → RefsKept ms refs := by
    intro refs ms hheap hav hadm r hr
    have hobj : ∀ x, x < m.heap.length → ms.obj x = m.obj x := by
      intro x hx
      have : ms.obj x = (m.alloc instances).2.obj x := by simp only [obj, hheap]
      rw [this, obj_alloc_old hx]
    obtain ⟨h₁, h₂⟩ := h _ (hadm r hr)
    constructor
    · intro r' ha
      have ha' := hav _ _ ha
      rw [hobj r' (hi.available ha').1]
      exact h₁ r' ha'
    · intro r' hr'
      exact h₂ _ (hadm r' hr')
  -- The admitted references lead to admitted instances.
  have hadm : ∀ (refs : List Ref) (ms : InstanceManager), ms.heap = (m.alloc instances).2.heap →
      ∀ r ∈ ms.admittedRefs refs, ms.obj r ∈
        ((refs.map (m.alloc instances).2.obj).filter fun x => !ms.unavailablePool.contains x.id).takeWhile
          fun x => (PDRole.ofString? x.role).isSome := by
    intro refs ms hheap r hr
    have hobj : (m.alloc instances).2.obj = ms.obj := by funext x; simp only [obj, hheap]
    rw [hobj, List.filter_map, List.takeWhile_map]
    exact List.mem_map_of_mem hr
  cases event with
  | add =>
      refine addsMeet_of_refsKept (hi.alloc instances) hlt (key _ _ rfl (fun _ _ h => h) ?_)
      intro r hr
      have h := hadm _ _ rfl r hr
      rw [hmap] at h
      exact h
  | del => trivial
  | set =>
      set ma := (m.alloc instances).2 with hma
      set refs := (m.alloc instances).1 with hrefs
      set md := (deleteInstances false (ma.computeSetDiff refs).2 ma).2 with hmd
      have hheap : md.heap = ma.heap := deleteInstances_heap
      have hid : Inv md := (hi.alloc instances).poolSteps (deleteInstances_steps (G := NewId) _ _)
      refine addsMeet_of_refsKept hid ?_ (key _ _ hheap ?_ ?_)
      · intro r hr
        rw [hheap]
        exact hlt r (List.mem_of_mem_filter hr)
      · intro id r ha
        have ha' : ma.availablePool.get? id = some r := (deleteInstances_sub (hi.alloc instances)).1 ha
        exact ha'
      · intro r hr
        have hmem := hadm _ _ hheap r hr
        -- An id that SET adds was unknown, so it is not unavailable after the removals either.
        have hadd : ((ma.computeSetDiff refs).1.map ma.obj) = instances.filter fun x => x.id ∉ m.currentIds := by
          conv_rhs => rw [← hmap, List.filter_map]
          rfl
        rw [hadd, List.filter_eq_self.mpr] at hmem
        · exact hmem
        · intro x hx
          have hx' := (List.mem_filter.mp hx).2
          rw [decide_eq_true_eq, not_mem_currentIds] at hx'
          rw [Bool.not_eq_true', Dict.contains_eq_false_iff]
          cases hu : md.unavailablePool.get? x.id with
          | none => rfl
          | some r' =>
              have hu' : ma.unavailablePool.get? x.id = some r' := (deleteInstances_sub (hi.alloc instances)).2 hu
              exact absurd (hu'.symm.trans hx'.2) (by simp)

theorem NoStale.step (h : NoStale m) (hi : Inv m) {op : Op} (hop : RoleKept m op) : NoStale (m.step op) := by
  have hs : PoolSteps NewId m (m.step op) := by
    apply step_steps
    rintro event instances rfl
    exact refreshMeets_of_roleKept hi hop
  have := PoolSteps.invariant (P := fun m => Inv m ∧ NoStale m)
    (fun h hs => ⟨h.1.poolStep hs, h.2.poolStep h.1 hs⟩) ⟨hi, h⟩ hs
  exact this.2

theorem noStale_run {ops : List Op} (h : Along InstanceManager.step RoleKept {} ops) :
    NoStale (run InstanceManager.step {} ops) := by
  have := run_invariant (I := fun m => Inv m ∧ NoStale m)
    (fun m op hm hop => ⟨hm.1.step op, hm.2.step hm.1 hop⟩) ⟨inv_init, noStale_init⟩ h
  exact this.2

/-!
## SET as an assignment

`_apply_set_diff` first deletes the known ids that are not listed and then adds the listed ids that are
not known. In a state without stale role pool entries both loops go through.
-/

variable {m : InstanceManager}

theorem SamePools.alloc (m : InstanceManager) (instances : List Instance) :
    SamePools m (m.alloc instances).2 where
  availablePool := rfl
  unavailablePool := rfl
  rolePool role := by cases role <;> rfl
  endpointIdCache := rfl
  obj _ hr := obj_alloc_old hr instances

theorem mem_toRemove (hi : Inv m) {refs : List Ref} {id : Int} :
    (id ∈ (m.computeSetDiff refs).2.map fun r => (m.obj r).id) ↔
      id ∈ m.currentIds ∧ id ∉ refs.map fun r => (m.obj r).id := by
  -- The object found for a known id carries that id.
  have found : ∀ id r, (m.availablePool.get? id).or (m.unavailablePool.get? id) = some r → (m.obj r).id = id := by
    intro id r h
    cases ha : m.availablePool.get? id with
    | none => rw [ha] at h; exact (hi.unavailable h).2.1
    | some r' => rw [ha] at h; cases h; exact (hi.available ha).2.1
  simp only [computeSetDiff, List.mem_map, List.mem_filterMap, List.mem_filter, decide_eq_true_eq]
  constructor
  · rintro ⟨r, ⟨id', hid', h⟩, rfl⟩
    rw [found id' r h]
    exact hid'
  · rintro ⟨hid, hn⟩
    rcases mem_currentIds.mp hid with ⟨r, hr⟩ | ⟨r, hr⟩
    · exact ⟨r, ⟨id, ⟨hid, hn⟩, by rw [hr]; rfl⟩, (hi.available hr).2.1⟩
    · have ha := (hi.unavailable hr).2.2
      exact ⟨r, ⟨id, ⟨hid, hn⟩, by rw [ha, hr]; rfl⟩, (hi.unavailable hr).2.1⟩

theorem mem_toAdd {refs : List Ref} {r : Ref} :
    r ∈ (m.computeSetDiff refs).1 ↔ r ∈ refs ∧ (m.obj r).id ∉ m.currentIds := by
  simp [computeSetDiff]

/-- The deletions cannot raise, so the additions always follow. -/
theorem applySetDiff_snd (hi : Inv m) (refs : List Ref) :
    (m.applySetDiff refs).2 =
      (addInstances false (m.computeSetDiff refs).1 (deleteInstances false (m.computeSetDiff refs).2 m).2).2 := by
  have hd := (deleteInstances_spec hi (m.computeSetDiff refs).2 false).1
  unfold applySetDiff
  dsimp only
  split
  · rename_i he
    rw [Bool.and_eq_true, List.isEmpty_iff, List.isEmpty_iff] at he
    rw [he.1, he.2]
    rfl
  · rcases h : deleteInstances false (m.computeSetDiff refs).2 m with ⟨res, m'⟩
    rw [h] at hd
    cases hd
    rcases h' : addInstances false (m.computeSetDiff refs).1 m' with ⟨res', m''⟩
    cases res' <;> simp only [h']

theorem NoStale.deleteInstances (hs : NoStale m) (hi : Inv m) (b : Bool) (rs : List Ref) :
    NoStale (deleteInstances b rs m).2 := by
  have := PoolSteps.invariant (P := fun m => Inv m ∧ NoStale m)
    (fun h hs => ⟨h.1.poolStep hs, h.2.poolStep h.1 hs⟩) ⟨hi, hs⟩
    (deleteInstances_steps (G := NewId) (m := m) rs b)
  exact this.2

theorem toAdd_addable (hi : Inv m) (hs : NoStale m) {refs : List Ref} (hlt : ∀ r ∈ refs, r < m.heap.length)
    (hrole : ∀ r ∈ refs, (PDRole.ofString? (m.obj r).role).isSome) :
    ∀ r ∈ (m.computeSetDiff refs).1, Addable (deleteInstances false (m.computeSetDiff refs).2 m).2 r := by
  intro r hr
  obtain ⟨hr, hid⟩ := mem_toAdd.mp hr
  obtain ⟨ha, hu⟩ := not_mem_currentIds.mp hid
  have hheap : (deleteInstances false (m.computeSetDiff refs).2 m).2.heap = m.heap := deleteInstances_heap
  have hobj : (deleteInstances false (m.computeSetDiff refs).2 m).2.obj r = m.obj r := by simp only [obj, hheap]
  refine ⟨hheap ▸ hlt r hr, by rw [hobj]; exact hrole r hr, ?_, ?_⟩
  · rw [hobj, Option.eq_none_iff_forall_ne_some]
    intro r' hr'
    have := (deleteInstances_sub hi).2 hr'
    rw [hu] at this; cases this
  · intro role
    rw [hobj, Option.eq_none_iff_forall_ne_some]
    intro r' hr'
    -- An entry of a role pool is available, hence was known.
    have := (deleteInstances_sub hi).1 (hs.deleteInstances hi _ _ _ _ _ hr')
    rw [ha] at this; cases this

theorem applySetDiff_spec (hi : Inv m) (hs : NoStale m) {refs : List Ref} (hlt : ∀ r ∈ refs, r < m.heap.length)
    (hrole : ∀ r ∈ refs, (PDRole.ofString? (m.obj r).role).isSome)
    (hn : (refs.map fun r => (m.obj r).id).Nodup) :
    (∀ id, id ∈ (m.applySetDiff refs).2.currentIds ↔ id ∈ refs.map fun r => (m.obj r).id) ∧
    (∀ id ∈ m.currentIds, (id ∈ refs.map fun r => (m.obj r).id) →
      (m.applySetDiff refs).2.availablePool.get? id = m.availablePool.get? id ∧
      (m.applySetDiff refs).2.unavailablePool.get? id = m.unavailablePool.get? id) ∧
    (∀ r, r ∉ refs → (m.applySetDiff refs).2.obj r = m.obj r) ∧
    (∀ r ∈ refs, (m.obj r).id ∉ m.currentIds →
      (m.applySetDiff refs).2.availablePool.get? (m.obj r).id = some r ∧
      (m.applySetDiff refs).2.obj r = (m.obj r).initWorkload) := by
  have hdel := (deleteInstances_spec hi (m.computeSetDiff refs).2 false).2
  have hheap : (deleteInstances false (m.computeSetDiff refs).2 m).2.heap = m.heap := deleteInstances_heap
  have hobj : (deleteInstances false (m.computeSetDiff refs).2 m).2.obj = m.obj := by
    funext r; simp only [obj, hheap]
  have hsubl : (m.computeSetDiff refs).1.Sublist refs := List.filter_sublist
  have hadd := addInstances_spec (toAdd_addable hi hs hlt hrole)
    (hobj ▸ hn.sublist (hsubl.map fun r => (m.obj r).id)) false
  rw [← applySetDiff_snd hi refs, hobj] at hadd
  obtain ⟨-, hu, hin, hout, hobjs⟩ := hadd
  generalize (deleteInstances false (m.computeSetDiff refs).2 m).2 = md at *
  generalize (m.applySetDiff refs).2 = m' at *
  -- A known id is not among the added ones, so the additions leave its entry alone.
  have hknown : ∀ id ∈ m.currentIds, m'.availablePool.get? id = md.availablePool.get? id := by
    intro id hid
    apply hout
    rw [List.mem_map]
    rintro ⟨r, hr, rfl⟩
    exact (mem_toAdd.mp hr).2 hid
  have hkept : ∀ id ∈ m.currentIds, (id ∈ refs.map fun r => (m.obj r).id) →
      m'.availablePool.get? id = m.availablePool.get? id ∧
      m'.unavailablePool.get? id = m.unavailablePool.get? id := by
    intro id hid hl
    have hrem : id ∉ (m.computeSetDiff refs).2.map fun r => (m.obj r).id :=
      fun h => ((mem_toRemove hi).mp h).2 hl
    rw [hknown id hid, hu, (hdel id).1, (hdel id).2, if_neg hrem, if_neg hrem]
    exact ⟨rfl, rfl⟩
  refine ⟨?_, hkept, fun r hr => ?_, fun r hr hid => hin r (mem_toAdd.mpr ⟨hr, hid⟩)⟩
  · intro id
    by_cases hid : id ∈ m.currentIds
    · by_cases hl : id ∈ refs.map fun r => (m.obj r).id
      · obtain ⟨ha, hu'⟩ := hkept id hid hl
        rw [mem_currentIds, ha, hu', ← mem_currentIds]
        exact ⟨fun _ => hl, fun _ => hid⟩
      · have hrem := (mem_toRemove hi).mpr ⟨hid, hl⟩
        have ha : m'.availablePool.get? id = none := by rw [hknown id hid, (hdel id).1, if_pos hrem]
        have hu' : m'.unavailablePool.get? id = none := by rw [hu, (hdel id).2, if_pos hrem]
        exact ⟨fun h => absurd h (not_mem_currentIds.mpr ⟨ha, hu'⟩), fun h => absurd h hl⟩
    · obtain ⟨ha, hu'⟩ := not_mem_currentIds.mp hid
      have hun : m'.unavailablePool.get? id = none := by
        rw [hu, (hdel id).2]; split
        · rfl
        · exact hu'
      constructor
      · intro h
        by_contra hl
        refine not_mem_currentIds.mpr ⟨?_, hun⟩ h
        rw [hout, (hdel id).1]
        · split
          · rfl
          · exact ha
        · exact fun h' => hl (hsubl.map (fun r => (m.obj r).id) |>.subset h')
      · intro hl
        obtain ⟨r, hr, rfl⟩ := List.mem_map.mp hl
        exact mem_currentIds.mpr (Or.inl ⟨r, (hin r (mem_toAdd.mpr ⟨hr, hid⟩)).1⟩)
  · exact hobjs r fun h => hr (hsubl.subset h)

/-! ## SET on the instances of a request -/

theorem alloc_ids (instances : List Instance) :
    ((m.alloc instances).1.map fun r => ((m.alloc instances).2.obj r).id) = instances.map Instance.id := by
  conv_rhs => rw [← alloc_refs_map (m := m) instances, List.map_map]
  rfl

theorem refresh_set_same {instances : List Instance}
    (h : ∀ id, id ∈ m.currentIds ↔ id ∈ instances.map Instance.id) :
    m.refresh .set instances = (.ok false, (m.alloc instances).2) := by
  have hadd : ((m.alloc instances).2.computeSetDiff (m.alloc instances).1).1 = [] := by
    rw [List.eq_nil_iff_forall_not_mem]
    intro r hr
    obtain ⟨hr, hid⟩ := mem_toAdd.mp hr
    refine hid ((h _).mpr ?_)
    rw [← alloc_ids (m := m)]
    exact List.mem_map_of_mem (f := fun r => ((m.alloc instances).2.obj r).id) hr
  have hrem : ((m.alloc instances).2.computeSetDiff (m.alloc instances).1).2 = [] := by
    have hnone : (m.currentIds.filter fun id => id ∉ instances.map Instance.id) = [] := by
      rw [List.filter_eq_nil_iff]
      intro id hid
      simpa using (h id).mp hid
    simp only [computeSetDiff, alloc_ids]
    show List.filterMap _ (m.currentIds.filter _) = []
    rw [hnone]
    rfl
  unfold refresh refreshInstances applySetDiff
  simp [hadd, hrem]

theorem refresh_set_assigned (hi : Inv m) (hs : NoStale m) {instances : List Instance}
    (hrole : ∀ x ∈ instances, (PDRole.ofString? x.role).isSome) (hn : (instances.map Instance.id).Nodup) :
    Assigned m instances (m.refresh .set instances).2 := by
  have hobj : ∀ r ∈ (m.alloc instances).1, (m.alloc instances).2.obj r ∈ instances := by
    intro r hr
    have h := List.mem_map_of_mem (f := (m.alloc instances).2.obj) hr
    rwa [alloc_refs_map] at h
  obtain ⟨hids, hkept, hold, hnew⟩ := applySetDiff_spec (hi.alloc instances) (hs.poolStep hi (.alloc instances))
    (fun r hr => (mem_alloc_refs hr).2) (fun r hr => hrole _ (hobj r hr)) (alloc_ids (m := m) instances ▸ hn)
  rw [alloc_ids] at hids hkept
  refine ⟨hids, hkept, ?_, ?_⟩
  · intro r hr
    have hfresh : r ∉ (m.alloc instances).1 := fun h => absurd (mem_alloc_refs h).1 (Nat.not_le.mpr hr)
    have := hold r hfresh
    rwa [obj_alloc_old hr] at this
  · intro x hx hid
    rw [← alloc_refs_map (m := m) instances] at hx
    obtain ⟨r, hr, rfl⟩ := List.mem_map.mp hx
    exact ⟨r, hnew r hr hid⟩

end PyMotor.InstanceManager
