import PyMotor.Controller.Lemmas.Transitions
import PyMotor.Controller.System

/-!
# The pusher follows the manager

`Tracked` says that the pusher has exactly the active instances, each under its job name. Restoring starts from an
empty manager while the pusher still has older objects, so the references below `base` are left out until the
loop is over.
-/

namespace PyMotor

open Lib ControllerSystem

namespace Controller

variable {c : Controller} {base : Nat} {r : Ref} {id : Int}

/-! ## The invariant -/

structure Tracked (base : Nat) (c : Controller) : Prop where
  base_le : base ≤ c.heap.length
  managed : ∀ {id r}, c.instances.get? id = some r →
    base ≤ r ∧ r < c.heap.length ∧ (c.obj r).id = id
  ready : ∀ {id r}, c.instances.get? id = some r → (c.obj r).status = .active →
    c.eventPusher.instances.get? (c.obj r).jobName = some r
  named : ∀ {name r}, c.eventPusher.instances.get? name = some r → base ≤ r →
    ∃ id, c.instances.get? id = some r ∧ (c.obj r).status = .active ∧ (c.obj r).jobName = name

theorem tracked_init : Tracked 0 {} where
  base_le := le_rfl
  managed h := by cases h
  ready h := by cases h
  named h := by cases h

theorem Tracked.forced (h : Tracked base c) (ids : List Int) :
    Tracked base { c with forcedSeparatedInstances := ids } :=
  ⟨h.base_le, h.managed, h.ready, h.named⟩

theorem Tracked.managed_modifyObj (h : Tracked base c) {f : ManagedInstance → ManagedInstance} (hf : Keeps f)
    (r : Ref) {id : Int} {r' : Ref} (hr' : c.instances.get? id = some r') :
    base ≤ r' ∧ r' < (c.modifyObj r f).heap.length ∧ ((c.modifyObj r f).obj r').id = id := by
  obtain ⟨hb, hlt, hid⟩ := h.managed hr'
  rw [length_modifyObj, hf.id_obj]
  exact ⟨hb, hlt, hid⟩

theorem Tracked.modifyObj (h : Tracked base c) {f : ManagedInstance → ManagedInstance} (hf : Keeps f) {r : Ref}
    (hstatus : (f (c.obj r)).status = .active ↔ (c.obj r).status = .active) :
    Tracked base (c.modifyObj r f) := by
  have hactive : ∀ {id r'}, c.instances.get? id = some r' →
      (((c.modifyObj r f).obj r').status = .active ↔ (c.obj r').status = .active) := by
    intro id r' hr'
    by_cases he : r' = r
    · subst he
      rw [obj_modifyObj_self (h.managed hr').2.1]
      exact hstatus
    · rw [obj_modifyObj_ne he]
  refine ⟨?_, fun hr' => h.managed_modifyObj hf r hr', ?_, ?_⟩
  · rw [length_modifyObj]
    exact h.base_le
  · intro id r' hr' hs
    rw [hf.jobName_obj]
    exact h.ready hr' ((hactive hr').mp hs)
  · intro name r' hn hb
    obtain ⟨id, hr', hs, hname⟩ := h.named hn hb
    exact ⟨id, hr', (hactive hr').mpr hs, (hf.jobName_obj r r').trans hname⟩

/-! ## Announcements -/

theorem Tracked.notify_ready (h : Tracked base c) (hr : c.instances.get? id = some r) (hown : OwnName c r) :
    Tracked base ((c.modifyObj r (·.updateInstanceStatus .active)).notify r .instanceReady) := by
  have hf := keeps_updateInstanceStatus .active
  have hlt := (h.managed hr).2.1
  have hself := obj_modifyObj_self hlt (·.updateInstanceStatus .active)
  refine ⟨?_, fun hr' => h.managed_modifyObj hf r hr', ?_, ?_⟩
  · exact h.base_le.trans (length_modifyObj _).ge
  · intro id' r' hr' hs
    change (c.eventPusher.instances.set ((c.modifyObj r (·.updateInstanceStatus .active)).obj r).jobName r).get?
      ((c.modifyObj r (·.updateInstanceStatus .active)).obj r').jobName = some r'
    rw [hf.jobName_obj, hf.jobName_obj]
    by_cases he : r' = r
    · rw [he, Dict.get?_set_self]
    · have hold : (c.obj r').status = .active := by
        rw [← obj_modifyObj_ne he (·.updateInstanceStatus .active)]
        exact hs
      have hget := h.ready hr' hold
      rw [Dict.get?_set_ne, hget]
      intro hname
      rw [hname] at hget
      exact he (hown r' hget)
  · intro name r' hn hb
    replace hn : (c.eventPusher.instances.set
      ((c.modifyObj r (·.updateInstanceStatus .active)).obj r).jobName r).get? name = some r' := hn
    rw [hf.jobName_obj, Dict.get?_set] at hn
    split at hn
    · rename_i hname
      obtain rfl := Option.some.inj hn
      exact ⟨id, hr, congrArg ManagedInstance.status hself, (hf.jobName_obj r r).trans hname.symm⟩
    · rename_i hname
      obtain ⟨id', hr', hs, hn'⟩ := h.named hn hb
      have hne : r' ≠ r := by
        rintro rfl
        exact hname hn'.symm
      refine ⟨id', hr', ?_, (hf.jobName_obj r r').trans hn'⟩
      exact (congrArg ManagedInstance.status (obj_modifyObj_ne hne _)).trans hs

theorem Tracked.notify_seperated (h : Tracked base c) (hr : c.instances.get? id = some r) (hown : OwnName c r) :
    Tracked base ((c.modifyObj r (·.updateInstanceStatus .inactive)).notify r .instanceSeperated) := by
  have hf := keeps_updateInstanceStatus .inactive
  have hlt := (h.managed hr).2.1
  have hself := obj_modifyObj_self hlt (·.updateInstanceStatus .inactive)
  have hinactive : ∀ {r'}, ((c.modifyObj r (·.updateInstanceStatus .inactive)).obj r').status = .active →
      r' ≠ r ∧ (c.obj r').status = .active := by
    intro r' hs
    have hne : r' ≠ r := by
      rintro rfl
      rw [hself] at hs
      cases hs
    rw [obj_modifyObj_ne hne] at hs
    exact ⟨hne, hs⟩
  have hkept : ∀ {r'}, r' ≠ r → (c.obj r').status = .active →
      ((c.modifyObj r (·.updateInstanceStatus .inactive)).obj r').status = .active := by
    intro r' hne hs
    rw [obj_modifyObj_ne hne]
    exact hs
  unfold Controller.notify EventPusher.update
  dsimp only
  split
  · -- The entry under the job name is that of the instance itself.
    refine ⟨h.base_le.trans (length_modifyObj _).ge, fun hr' => h.managed_modifyObj hf r hr', ?_, ?_⟩
    · intro id' r' hr' hs
      obtain ⟨hne, hold⟩ := hinactive hs
      have hget := h.ready hr' hold
      change (c.eventPusher.instances.erase ((c.modifyObj r (·.updateInstanceStatus .inactive)).obj r).jobName).get?
        ((c.modifyObj r (·.updateInstanceStatus .inactive)).obj r').jobName = some r'
      rw [hf.jobName_obj, hf.jobName_obj, Dict.get?_erase_ne, hget]
      intro hname
      rw [hname] at hget
      exact hne (hown r' hget)
    · intro name r' hn hb
      dsimp only at hn
      rw [hf.jobName_obj, Dict.get?_erase] at hn
      split at hn
      · cases hn
      · rename_i hname
        obtain ⟨id', hr', hs, hn'⟩ := h.named hn hb
        have hne : r' ≠ r := by
          rintro rfl
          exact hname hn'.symm
        exact ⟨id', hr', hkept hne hs, (hf.jobName_obj r r').trans hn'⟩
  · rename_i hc
    refine ⟨h.base_le.trans (length_modifyObj _).ge, fun hr' => h.managed_modifyObj hf r hr', ?_, ?_⟩
    · intro id' r' hr' hs
      exact (congrArg _ (hf.jobName_obj r r')).trans (h.ready hr' (hinactive hs).2)
    · intro name r' hn hb
      obtain ⟨id', hr', hs, hn'⟩ := h.named hn hb
      have hne : r' ≠ r := by
        rintro rfl
        refine hc (Dict.contains_iff.mpr ⟨r', ?_⟩)
        rw [hf.jobName_obj, hn']
        exact hn
      exact ⟨id', hr', hkept hne hs, (hf.jobName_obj r r').trans hn'⟩

theorem Tracked.delInstance (h : Tracked base c) (hr : c.instances.get? id = some r)
    (hs : (c.obj r).status ≠ .active) : Tracked base (c.delInstance id) := by
  have hsub : ∀ {id' r'}, (c.instances.erase id).get? id' = some r' → c.instances.get? id' = some r' := by
    intro id' r' he
    rw [Dict.get?_erase] at he
    split at he
    · cases he
    · exact he
  unfold Controller.delInstance
  split
  · refine ⟨h.base_le, fun hr' => h.managed (hsub hr'), fun hr' => h.ready (hsub hr'), ?_⟩
    intro name r' hn hb
    obtain ⟨id', hr', hs', hname⟩ := h.named hn hb
    refine ⟨id', ?_, hs', hname⟩
    dsimp only
    rw [Dict.get?_erase_ne, hr']
    rintro rfl
    rw [hr] at hr'
    obtain rfl := Option.some.inj hr'
    exact hs hs'
  · exact h

/-! ## The steps of the manager -/

/-- The instance may be announced: if it becomes active or inactive, its job name is its own. -/
def Announced (c c' : Controller) (r : Ref) : Prop :=
  (c'.obj r).status ∈ [InsStatus.active, .inactive] → (c'.obj r).status ≠ (c.obj r).status → OwnName c r

theorem Tracked.transition (h : Tracked 0 c) {timestamp : ℚ} {event : InsConditionEvent} {c' : Controller}
    (hr : c.instances.get? id = some r) (ht : Transition c timestamp r event c') (hown : Announced c c' r) :
    Tracked 0 c' := by
  obtain ⟨-, hlt, hid⟩ := h.managed hr
  cases ht with
  | idle _ => exact h
  | ready hne _ _ =>
      have hs := congrArg ManagedInstance.status (obj_modifyObj_self hlt (·.updateInstanceStatus .active))
      refine h.notify_ready hr (hown ?_ ?_)
      · exact List.mem_cons.mpr (Or.inl hs)
      · exact fun he => hne (he.symm.trans hs)
  | seperated hne _ =>
      have hs := congrArg ManagedInstance.status (obj_modifyObj_self hlt (·.updateInstanceStatus .inactive))
      refine h.notify_seperated hr (hown ?_ ?_)
      · exact List.mem_cons_of_mem _ (List.mem_singleton.mpr hs)
      · exact fun he => hne (he.symm.trans hs)
  | refreshed _ _ => exact h.modifyObj (keeps_refreshHeartbeats timestamp) Iff.rfl
  | initial hs _ =>
      refine h.modifyObj (keeps_updateInstanceStatus .initial) ⟨fun he => ?_, fun he => ?_⟩
      · cases he
      · rw [hs] at he
        cases he
  | deleted hne _ =>
      rw [hid]
      have hmod := h.modifyObj (r := r) (keeps_updateInstanceStatus .deleted)
        ⟨fun he => (nomatch he), fun he => absurd he hne⟩
      have hs := congrArg ManagedInstance.status (obj_modifyObj_self hlt (·.updateInstanceStatus .deleted))
      exact Tracked.delInstance (r := r) hmod hr fun he => (nomatch hs.symm.trans he)

theorem Tracked.create (h : Tracked base c) (x : ManagedInstance) : Tracked base (c.create x) := by
  have hobj : ∀ {id r}, c.instances.get? id = some r → (c.create x).obj r = c.obj r := by
    intro id r hr
    exact obj_create_old (h.managed hr).2.1 x
  refine ⟨h.base_le.trans (by simp), ?_, ?_, ?_⟩
  · intro id r hr
    obtain ⟨hb, hlt, hid⟩ := h.managed hr
    rw [hobj hr, length_create]
    exact ⟨hb, Nat.lt_succ_of_lt hlt, hid⟩
  · intro id r hr hs
    rw [hobj hr] at hs ⊢
    exact h.ready hr hs
  · intro name r hn hb
    obtain ⟨id, hr, hs, hname⟩ := h.named hn hb
    refine ⟨id, hr, ?_, ?_⟩
    · rw [hobj hr]
      exact hs
    · rw [hobj hr]
      exact hname

theorem Tracked.addInstance (h : Tracked 0 c) (timestamp : ℚ) (hlt : r < c.heap.length)
    (hs : (c.obj r).status ≠ .active) : Tracked 0 (c.addInstance timestamp r) := by
  unfold Controller.addInstance
  split
  · exact h
  · rename_i hc
    have hnone : c.instances.get? (c.obj r).id = none := Dict.contains_eq_false_iff.mp (Bool.not_eq_true _ ▸ hc)
    have hcases : ∀ {id' r'}, (c.instances.set (c.obj r).id r).get? id' = some r' →
        id' = (c.obj r).id ∧ r' = r ∨ c.instances.get? id' = some r' := by
      intro id' r' hr'
      rw [Dict.get?_set] at hr'
      split at hr'
      · rename_i hid
        exact Or.inl ⟨hid, (Option.some.inj hr').symm⟩
      · exact Or.inr hr'
    have hentered : Tracked 0 { c with instances := c.instances.set (c.obj r).id r } := by
      refine ⟨Nat.zero_le _, ?_, ?_, ?_⟩
      · intro id' r' hr'
        rcases hcases hr' with ⟨rfl, rfl⟩ | hr'
        · exact ⟨Nat.zero_le _, hlt, rfl⟩
        · exact h.managed hr'
      · intro id' r' hr' hs'
        rcases hcases hr' with ⟨rfl, rfl⟩ | hr'
        · exact absurd hs' hs
        · exact h.ready hr' hs'
      · intro name r' hn hb
        obtain ⟨id', hr', hs', hname⟩ := h.named hn hb
        refine ⟨id', ?_, hs', hname⟩
        dsimp only
        rw [Dict.get?_set_ne, hr']
        rintro rfl
        rw [hr'] at hnone
        cases hnone
    exact hentered.modifyObj (keeps_initialHeartbeats timestamp) (by rw [ManagedInstance.status_initialHeartbeats])

theorem Tracked.handleHeartbeat (h : Tracked 0 c) (timestamp : ℚ) (insId : Int) (ip : String)
    (status : Dict Int EndpointStatus)
    (hown : ∀ r, c.instances.get? insId = some r → Announced c (c.handleHeartbeat timestamp insId ip status).2 r) :
    Tracked 0 (c.handleHeartbeat timestamp insId ip status).2 := by
  have hf := keeps_updateHeartbeat ip timestamp status
  have htouch : ∀ r, Tracked 0 (c.modifyObj r fun x => (x.updateHeartbeat ip timestamp status).2) :=
    fun r => h.modifyObj hf (by rw [ManagedInstance.status_updateHeartbeat])
  revert hown
  apply handleHeartbeat_rule (P := fun c' => (∀ r, c.instances.get? insId = some r → Announced c c' r) → Tracked 0 c')
  · exact fun _ _ => h
  · exact fun r _ _ _ => htouch r
  · intro r c' hr _ ht hown
    refine (htouch r).transition hr ht fun hs hne => ?_
    rw [obj_modifyObj_self (h.managed hr).2.1, ManagedInstance.status_updateHeartbeat] at hne
    have hname := hown r hr hs hne
    unfold OwnName at hname ⊢
    rw [hf.jobName_obj]
    exact hname

theorem Tracked.handleTimeout (h : Tracked 0 c) (timestamp : ℚ) (queryStatus : NodeManagerInfo → QueryStatus)
    (insId : Int)
    (hown : ∀ r, c.instances.get? insId = some r → Announced c (c.handleTimeout timestamp queryStatus insId) r) :
    Tracked 0 (c.handleTimeout timestamp queryStatus insId) := by
  revert hown
  apply handleTimeout_rule (P := fun c' => (∀ r, c.instances.get? insId = some r → Announced c c' r) → Tracked 0 c')
  · exact fun _ => h
  · exact fun r c' hr _ ht hown => h.transition hr ht (hown r hr)

theorem Tracked.separateInstance (h : Tracked 0 c) (insId : Int)
    (hown : ∀ r, c.instances.get? insId = some r → Announced c (c.separateInstance insId) r) :
    Tracked 0 (c.separateInstance insId) := by
  revert hown
  apply separateInstance_rule (P := fun c' => (∀ r, c.instances.get? insId = some r → Announced c c' r) → Tracked 0 c')
  · exact fun _ _ => h
  · intro r hr hs hown
    have hforced := h.forced (c.forcedSeparatedInstances.insert (c.obj r).id)
    have hself := congrArg ManagedInstance.status
      (obj_modifyObj_self (h.managed hr).2.1 (·.updateInstanceStatus .inactive))
    refine hforced.notify_seperated hr (hown r hr ?_ ?_)
    · exact List.mem_cons_of_mem _ (List.mem_singleton.mpr hself)
    · intro he
      have hinactive : InsStatus.inactive = .active := (hself.symm.trans he).trans hs
      cases hinactive
  · exact fun r _ _ _ => h.forced _

theorem Tracked.recoverInstance (h : Tracked 0 c) (insId : Int) : Tracked 0 (c.recoverInstance insId) := by
  unfold Controller.recoverInstance
  split
  · exact h
  · exact h.forced _

/-! ## The queue -/

theorem Tracked.of_pusher (h : Tracked 0 c) {p : EventPusher} (hp : p.instances = c.eventPusher.instances) :
    Tracked 0 { c with eventPusher := p } := by
  refine ⟨h.base_le, h.managed, ?_, ?_⟩
  · intro id r hr hs
    dsimp only
    rw [hp]
    exact h.ready hr hs
  · intro name r hn hb
    dsimp only at hn
    rw [hp] at hn
    exact h.named hn hb

end Controller

/-!
## Restoring the manager

The loop creates the persisted instances anew and announces the active ones. An older object stays with the pusher
only under a job name that no active instance has.
-/

namespace Controller

variable {c : Controller} {base : Nat} {x : ManagedInstance} {timestamp : ℚ}

/-! ## One round of the loop -/

theorem keeps_maybeRefreshHeartbeat (timestamp : ℚ) : Keeps (maybeRefreshHeartbeat timestamp) := by
  apply keeps_of_endpoints
  intro x
  unfold maybeRefreshHeartbeat
  split
  · exact ⟨_, rfl⟩
  · exact ⟨x.endpoints, rfl⟩

@[simp] theorem status_maybeRefreshHeartbeat (timestamp : ℚ) (x : ManagedInstance) :
    (maybeRefreshHeartbeat timestamp x).status = x.status := by
  unfold maybeRefreshHeartbeat
  split <;> rfl

@[simp] theorem heap_restoreInstance (timestamp : ℚ) (c : Controller) (x : ManagedInstance) :
    (c.restoreInstance timestamp x).heap = c.heap ++ [maybeRefreshHeartbeat timestamp x] := by
  unfold restoreInstance
  dsimp only
  split <;> rfl

theorem instances_restoreInstance (timestamp : ℚ) (c : Controller) (x : ManagedInstance) :
    (c.restoreInstance timestamp x).instances = c.instances.set x.id c.heap.length := by
  unfold restoreInstance
  dsimp only
  split <;> rfl

@[simp] theorem forced_restoreInstance (timestamp : ℚ) (c : Controller) (x : ManagedInstance) :
    (c.restoreInstance timestamp x).forcedSeparatedInstances = c.forcedSeparatedInstances := by
  unfold restoreInstance
  dsimp only
  split <;> rfl

@[simp] theorem dataVersion_restoreInstance (timestamp : ℚ) (c : Controller) (x : ManagedInstance) :
    (c.restoreInstance timestamp x).dataVersion = c.dataVersion := by
  unfold restoreInstance
  dsimp only
  split <;> rfl

theorem obj_restoreInstance_old {r : Ref} (hr : r < c.heap.length) (timestamp : ℚ) (x : ManagedInstance) :
    (c.restoreInstance timestamp x).obj r = c.obj r := by
  unfold obj
  rw [heap_restoreInstance]
  exact Heap.read_alloc_old hr [_]

theorem obj_restoreInstance_new (timestamp : ℚ) (c : Controller) (x : ManagedInstance) :
    (c.restoreInstance timestamp x).obj c.heap.length = maybeRefreshHeartbeat timestamp x := by
  simp [obj, Heap.read]

theorem eventPusher_restoreInstance_active (c : Controller) (hx : x.status = .active) :
    (c.restoreInstance timestamp x).eventPusher =
      { c.eventPusher with
        instances := c.eventPusher.instances.set x.jobName c.heap.length
        eventQueue := c.eventPusher.eventQueue ++ [.add (maybeRefreshHeartbeat timestamp x).toInstance] } := by
  have hobj := obj_create_new c (maybeRefreshHeartbeat timestamp x)
  unfold restoreInstance
  simp only [hx, ↓reduceIte, notify, hobj, EventPusher.update, (keeps_maybeRefreshHeartbeat timestamp).jobName]
  rfl

theorem eventPusher_restoreInstance_other (c : Controller) (hx : x.status ≠ .active) :
    (c.restoreInstance timestamp x).eventPusher = c.eventPusher := by
  unfold restoreInstance
  simp only [hx, ↓reduceIte]
  rfl

theorem get?_restoreInstance (timestamp : ℚ) (c : Controller) (x : ManagedInstance) (name : String) :
    (c.restoreInstance timestamp x).eventPusher.instances.get? name =
      if x.status = .active ∧ name = x.jobName then some c.heap.length else c.eventPusher.instances.get? name := by
  by_cases hx : x.status = .active
  · rw [eventPusher_restoreInstance_active c hx, Dict.get?_set]
    simp only [hx, true_and]
  · rw [eventPusher_restoreInstance_other c hx, if_neg fun h => hx h.1]

theorem Tracked.restoreInstance (h : Tracked base c) (timestamp : ℚ) (hfresh : c.instances.get? x.id = none)
    (hname : x.status = .active → ∀ id r, c.instances.get? id = some r → (c.obj r).status = .active →
      (c.obj r).jobName ≠ x.jobName) : Tracked base (c.restoreInstance timestamp x) := by
  -- An entry of the manager is the new one, or an older one whose object is untouched.
  have hcases : ∀ {id r}, (c.restoreInstance timestamp x).instances.get? id = some r →
      id = x.id ∧ r = c.heap.length ∨ c.instances.get? id = some r ∧ (c.restoreInstance timestamp x).obj r = c.obj r := by
    intro id r hr
    rw [instances_restoreInstance, Dict.get?_set] at hr
    split at hr
    · rename_i hid
      exact Or.inl ⟨hid, (Option.some.inj hr).symm⟩
    · exact Or.inr ⟨hr, obj_restoreInstance_old (h.managed hr).2.1 timestamp x⟩
  have hnew := obj_restoreInstance_new timestamp c x
  have hkeeps := keeps_maybeRefreshHeartbeat timestamp
  refine ⟨?_, ?_, ?_, ?_⟩
  · rw [heap_restoreInstance, List.length_append]
    exact h.base_le.trans (Nat.le_add_right _ _)
  · intro id r hr
    rw [heap_restoreInstance, List.length_append, List.length_singleton]
    rcases hcases hr with ⟨rfl, rfl⟩ | ⟨hr, hobj⟩
    · rw [hnew]
      exact ⟨h.base_le, Nat.lt_succ_self _, hkeeps.id x⟩
    · obtain ⟨hb, hlt, hid⟩ := h.managed hr
      rw [hobj]
      exact ⟨hb, Nat.lt_succ_of_lt hlt, hid⟩
  · intro id r hr hs
    rw [get?_restoreInstance]
    rcases hcases hr with ⟨rfl, rfl⟩ | ⟨hr, hobj⟩
    · rw [hnew, status_maybeRefreshHeartbeat] at hs
      rw [hnew, hkeeps.jobName, if_pos ⟨hs, rfl⟩]
    · rw [hobj] at hs ⊢
      rw [if_neg, h.ready hr hs]
      rintro ⟨hx, hn⟩
      exact hname hx id r hr hs hn
  · intro name r hn hb
    rw [get?_restoreInstance] at hn
    split at hn
    · rename_i hx
      obtain rfl := Option.some.inj hn
      refine ⟨x.id, ?_, ?_, ?_⟩
      · rw [instances_restoreInstance, Dict.get?_set_self]
      · rw [hnew, status_maybeRefreshHeartbeat]
        exact hx.1
      · rw [hnew, hkeeps.jobName]
        exact hx.2.symm
    · obtain ⟨id, hr, hs, hn'⟩ := h.named hn hb
      have hobj := obj_restoreInstance_old (h.managed hr).2.1 timestamp x
      refine ⟨id, ?_, ?_, ?_⟩
      · rw [instances_restoreInstance, Dict.get?_set_ne, hr]
        rintro rfl
        rw [hr] at hfresh
        cases hfresh
      · rw [hobj]
        exact hs
      · rw [hobj]
        exact hn'

/-! ## What the loop makes -/

@[simp] theorem heap_foldl_restoreInstance (timestamp : ℚ) (xs : List ManagedInstance) (c : Controller) :
    (xs.foldl (restoreInstance timestamp) c).heap = c.heap ++ xs.map (maybeRefreshHeartbeat timestamp) := by
  induction xs generalizing c with
  | nil => simp
  | cons x xs ih => rw [List.foldl_cons, ih, heap_restoreInstance, List.map_cons, List.append_assoc]; rfl

@[simp] theorem forced_foldl_restoreInstance (timestamp : ℚ) (xs : List ManagedInstance) (c : Controller) :
    (xs.foldl (restoreInstance timestamp) c).forcedSeparatedInstances = c.forcedSeparatedInstances := by
  induction xs generalizing c with
  | nil => rfl
  | cons x xs ih => rw [List.foldl_cons, ih, forced_restoreInstance]

@[simp] theorem dataVersion_foldl_restoreInstance (timestamp : ℚ) (xs : List ManagedInstance) (c : Controller) :
    (xs.foldl (restoreInstance timestamp) c).dataVersion = c.dataVersion := by
  induction xs generalizing c with
  | nil => rfl
  | cons x xs ih => rw [List.foldl_cons, ih, dataVersion_restoreInstance]

theorem obj_foldl_restoreInstance_old {r : Ref} (hr : r < c.heap.length) (timestamp : ℚ) (xs : List ManagedInstance) :
    (xs.foldl (restoreInstance timestamp) c).obj r = c.obj r := by
  unfold obj
  rw [heap_foldl_restoreInstance]
  exact Heap.read_alloc_old hr _

theorem get?_foldl_restoreInstance {timestamp : ℚ} {xs : List ManagedInstance} {id : Int} {r : Ref}
    (h : (xs.foldl (restoreInstance timestamp) c).instances.get? id = some r) :
    c.instances.get? id = some r ∨ ∃ x ∈ xs, x.id = id ∧ c.heap.length ≤ r ∧
      r < (xs.foldl (restoreInstance timestamp) c).heap.length ∧
      (xs.foldl (restoreInstance timestamp) c).obj r = maybeRefreshHeartbeat timestamp x := by
  induction xs generalizing c with
  | nil => exact Or.inl h
  | cons x xs ih =>
      rw [List.foldl_cons] at h ⊢
      rcases ih h with hr | ⟨y, hy, hid, hle, hlt, hobj⟩
      · rw [instances_restoreInstance, Dict.get?_set] at hr
        split at hr
        · rename_i hid
          obtain rfl := Option.some.inj hr
          have hlt : c.heap.length < (c.restoreInstance timestamp x).heap.length := by simp
          refine Or.inr ⟨x, List.mem_cons_self .., hid.symm, le_rfl, ?_, ?_⟩
          · rw [heap_foldl_restoreInstance, List.length_append]
            exact Nat.lt_add_right _ hlt
          · rw [obj_foldl_restoreInstance_old hlt, obj_restoreInstance_new]
        · exact Or.inl hr
      · rw [heap_restoreInstance, List.length_append] at hle
        exact Or.inr ⟨y, List.mem_cons_of_mem _ hy, hid, Nat.le_of_add_right_le hle, hlt, hobj⟩

theorem get?_map_foldl_restoreInstance (timestamp : ℚ) (xs : List ManagedInstance) {d : Dict Int ManagedInstance}
    (hlt : ∀ id r, c.instances.get? id = some r → r < c.heap.length)
    (hd : ∀ id, (c.instances.get? id).map c.obj = d.get? id) (id : Int) :
    ((xs.foldl (restoreInstance timestamp) c).instances.get? id).map (xs.foldl (restoreInstance timestamp) c).obj =
      (d.update (xs.map fun x => (x.id, maybeRefreshHeartbeat timestamp x))).get? id := by
  induction xs generalizing c d with
  | nil => exact hd id
  | cons x xs ih =>
      rw [List.foldl_cons, List.map_cons, Dict.update_cons]
      refine ih (fun id r hr => ?_) fun id => ?_
      · rw [heap_restoreInstance, List.length_append]
        rw [instances_restoreInstance, Dict.get?_set] at hr
        split at hr
        · cases hr
          exact Nat.lt_succ_self _
        · exact Nat.lt_add_right _ (hlt id r hr)
      · rw [instances_restoreInstance, Dict.get?_set, Dict.get?_set]
        split
        · exact congrArg some (obj_restoreInstance_new ..)
        · rw [← hd id]
          cases hr : c.instances.get? id with
          | none => rfl
          | some r => exact congrArg some (obj_restoreInstance_old (hlt id r hr) ..)

theorem get?_foldl_restoreInstance_other {timestamp : ℚ} {xs : List ManagedInstance} {id : Int}
    (h : ∀ x ∈ xs, x.id ≠ id) : (xs.foldl (restoreInstance timestamp) c).instances.get? id = c.instances.get? id := by
  induction xs generalizing c with
  | nil => rfl
  | cons x xs ih =>
      rw [List.foldl_cons, ih fun y hy => h y (List.mem_cons_of_mem _ hy), instances_restoreInstance,
        Dict.get?_set_ne (h x (List.mem_cons_self ..)).symm]

theorem get?_foldl_restoreInstance_mem {timestamp : ℚ} {xs : List ManagedInstance} (hids : (xs.map (·.id)).Nodup)
    {x : ManagedInstance} (hx : x ∈ xs) :
    ∃ r, (xs.foldl (restoreInstance timestamp) c).instances.get? x.id = some r ∧
      (xs.foldl (restoreInstance timestamp) c).obj r = maybeRefreshHeartbeat timestamp x := by
  induction xs generalizing c with
  | nil => cases hx
  | cons y xs ih =>
      rw [List.map_cons, List.nodup_cons] at hids
      rw [List.foldl_cons]
      rcases List.mem_cons.mp hx with rfl | hx
      · have hother : ∀ z ∈ xs, z.id ≠ x.id := fun z hz he => hids.1 (List.mem_map.mpr ⟨z, hz, he⟩)
        refine ⟨c.heap.length, ?_, ?_⟩
        · rw [get?_foldl_restoreInstance_other hother, instances_restoreInstance, Dict.get?_set_self]
        · rw [obj_foldl_restoreInstance_old (by simp), obj_restoreInstance_new]
      · exact ih hids.2 hx

/-! ## The pusher during the loop -/

/-- What the loop needs of the instances still to come. -/
structure Pending (c : Controller) (l : List ManagedInstance) : Prop where
  ids : (l.map (·.id)).Nodup
  fresh : ∀ x ∈ l, c.instances.get? x.id = none
  names : ((l.filter fun x => x.status = .active).map (·.jobName)).Nodup
  apart : ∀ x ∈ l, x.status = .active → ∀ id r, c.instances.get? id = some r → (c.obj r).status = .active →
    (c.obj r).jobName ≠ x.jobName

theorem Pending.tail {l : List ManagedInstance} (h : Pending c (x :: l)) (ht : Tracked base c) (timestamp : ℚ) :
    Pending (c.restoreInstance timestamp x) l := by
  have hids := List.nodup_cons.mp h.ids
  refine ⟨hids.2, ?_, ?_, ?_⟩
  · intro y hy
    rw [instances_restoreInstance, Dict.get?_set_ne, h.fresh y (List.mem_cons_of_mem _ hy)]
    intro hid
    exact hids.1 (List.mem_map.mpr ⟨y, hy, hid⟩)
  · exact h.names.sublist (((List.sublist_cons_self x l).filter _).map _)
  · intro y hy hya id r hr hs
    rw [instances_restoreInstance, Dict.get?_set] at hr
    split at hr
    · obtain rfl := Option.some.inj hr
      rw [obj_restoreInstance_new, status_maybeRefreshHeartbeat] at hs
      rw [obj_restoreInstance_new, (keeps_maybeRefreshHeartbeat timestamp).jobName]
      have hnames := h.names
      rw [List.filter_cons_of_pos (by simpa using hs), List.map_cons, List.nodup_cons] at hnames
      intro hn
      exact hnames.1 (List.mem_map.mpr ⟨y, List.mem_filter.mpr ⟨hy, by simpa using hya⟩, hn.symm⟩)
    · rw [obj_restoreInstance_old (ht.managed hr).2.1] at hs ⊢
      exact h.apart y (List.mem_cons_of_mem _ hy) hya id r hr hs

theorem Tracked.foldl_restoreInstance (h : Tracked base c) (timestamp : ℚ) {l : List ManagedInstance}
    (hl : Pending c l) :
    Tracked base (l.foldl (Controller.restoreInstance timestamp) c) ∧
    (∀ name r, (l.foldl (Controller.restoreInstance timestamp) c).eventPusher.instances.get? name = some r → r < base →
      c.eventPusher.instances.get? name = some r ∧ ∀ x ∈ l, x.status = .active → x.jobName ≠ name) := by
  induction l generalizing c with
  | nil => exact ⟨h, fun name r hn _ => ⟨hn, fun x hx => (nomatch hx)⟩⟩
  | cons x l ih =>
      have hx : x ∈ x :: l := List.mem_cons_self ..
      have hstep := h.restoreInstance timestamp (hl.fresh x hx) (hl.apart x hx)
      obtain ⟨htracked, hold⟩ := ih hstep (hl.tail h timestamp)
      refine ⟨htracked, fun name r hn hlt => ?_⟩
      obtain ⟨hget, hnames⟩ := hold name r hn hlt
      rw [get?_restoreInstance] at hget
      split at hget
      · obtain rfl := Option.some.inj hget
        exact absurd hlt (Nat.not_lt.mpr h.base_le)
      · rename_i hother
        refine ⟨hget, fun y hy hya => ?_⟩
        rcases List.mem_cons.mp hy with rfl | hy
        · intro hname
          exact hother ⟨hya, hname.symm⟩
        · exact hnames y hy hya

theorem Tracked.restoreInstances (h : Tracked 0 c) (timestamp : ℚ) {xs : List ManagedInstance}
    (hids : (xs.map (·.id)).Nodup) (hnames : ((xs.filter fun x => x.status = .active).map (·.jobName)).Nodup)
    (hknown : ∀ name ∈ c.eventPusher.instances.keys, ∃ x ∈ xs, x.status = .active ∧ x.jobName = name) :
    Tracked 0 (c.restoreInstances timestamp xs) := by
  have hstart : Tracked c.heap.length { c with instances := Dict.empty } := by
    refine ⟨le_rfl, fun hr => (nomatch hr), fun hr => (nomatch hr), ?_⟩
    intro name r hn hb
    obtain ⟨id, hr, -, -⟩ := h.named hn (Nat.zero_le _)
    exact absurd (h.managed hr).2.1 (Nat.not_lt.mpr hb)
  obtain ⟨ht, hold⟩ := hstart.foldl_restoreInstance timestamp
    ⟨hids, fun x hx => rfl, hnames, fun x hx hxa id r hr => (nomatch hr)⟩
  refine ⟨Nat.zero_le _, ?_, ht.ready, ?_⟩
  · intro id r hr
    exact ⟨Nat.zero_le _, (ht.managed hr).2⟩
  · intro name r hn _
    by_cases hlt : r < c.heap.length
    · -- The pusher knew the name, so an active instance has taken it over.
      obtain ⟨hget, hother⟩ := hold name r hn hlt
      obtain ⟨x, hx, hxa, hname⟩ := hknown name (Dict.mem_keys_iff.mpr ⟨r, hget⟩)
      exact absurd hname (hother x hx hxa)
    · exact ht.named hn (Nat.not_lt.mp hlt)

theorem nodup_ids {data : Dict Int ManagedInstance} (h : ∀ e ∈ data.entries, e.2.id = e.1) :
    (data.values.map (·.id)).Nodup := by
  have heq : data.values.map (·.id) = data.keys := by
    rw [Dict.values, Dict.keys, List.map_map]
    exact List.map_congr_left h
  rw [heq]
  exact data.nodup

end Controller

end PyMotor
