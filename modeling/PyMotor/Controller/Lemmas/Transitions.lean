import PyMotor.Controller.InstanceManager

/-!
# Objects and state transitions
-/

namespace PyMotor

open Lib

namespace ManagedInstance

/-! ## What a heartbeat changes -/

theorem updateHeartbeat_eq (x : ManagedInstance) (ip : String) (timestamp : ℚ) (status : Dict Int EndpointStatus) :
    ∃ endpoints, (x.updateHeartbeat ip timestamp status).2 = { x with endpoints := endpoints } := by
  unfold updateHeartbeat
  split
  · exact ⟨x.endpoints, rfl⟩
  · split
    · exact ⟨x.endpoints, rfl⟩
    · split
      · exact ⟨_, rfl⟩
      · exact ⟨_, rfl⟩

@[simp] theorem status_updateHeartbeat (x : ManagedInstance) (ip : String) (timestamp : ℚ)
    (status : Dict Int EndpointStatus) : (x.updateHeartbeat ip timestamp status).2.status = x.status := by
  obtain ⟨endpoints, h⟩ := x.updateHeartbeat_eq ip timestamp status
  rw [h]

theorem initialHeartbeats_eq (x : ManagedInstance) (timestamp : ℚ) :
    ∃ endpoints, x.initialHeartbeats timestamp = { x with endpoints := endpoints } := by
  unfold initialHeartbeats
  generalize x.endpoints.keys = pods
  induction pods generalizing x with
  | nil => exact ⟨x.endpoints, rfl⟩
  | cons pod pods ih =>
      obtain ⟨endpoints, h⟩ := x.updateHeartbeat_eq pod timestamp (x.initialStatus pod)
      obtain ⟨endpoints', h'⟩ := ih (x.updateHeartbeat pod timestamp (x.initialStatus pod)).2
      refine ⟨endpoints', ?_⟩
      rw [List.foldl_cons, h', h]

@[simp] theorem status_initialHeartbeats (x : ManagedInstance) (timestamp : ℚ) :
    (x.initialHeartbeats timestamp).status = x.status := by
  obtain ⟨endpoints, h⟩ := x.initialHeartbeats_eq timestamp
  rw [h]

end ManagedInstance

namespace Controller

variable {c : Controller} {r r' : Ref} {timestamp : ℚ} {queryStatus : NodeManagerInfo → QueryStatus}

/-! ## Changes of an object -/

/-- The change keeps what an instance is known by. -/
structure Keeps (f : ManagedInstance → ManagedInstance) : Prop where
  id : ∀ x, (f x).id = x.id
  jobName : ∀ x, (f x).jobName = x.jobName
  role : ∀ x, (f x).role = x.role

theorem keeps_of_endpoints {f : ManagedInstance → ManagedInstance}
    (h : ∀ x, ∃ endpoints, f x = { x with endpoints := endpoints }) : Keeps f := by
  constructor
  · intro x
    obtain ⟨endpoints, hx⟩ := h x
    rw [hx]
  · intro x
    obtain ⟨endpoints, hx⟩ := h x
    rw [hx]
  · intro x
    obtain ⟨endpoints, hx⟩ := h x
    rw [hx]

theorem keeps_updateInstanceStatus (status : InsStatus) : Keeps (·.updateInstanceStatus status) :=
  ⟨fun _ => rfl, fun _ => rfl, fun _ => rfl⟩

theorem keeps_refreshHeartbeats (timestamp : ℚ) : Keeps (·.refreshHeartbeats timestamp) :=
  ⟨fun _ => rfl, fun _ => rfl, fun _ => rfl⟩

theorem keeps_updateHeartbeat (ip : String) (timestamp : ℚ) (status : Dict Int EndpointStatus) :
    Keeps fun x => (x.updateHeartbeat ip timestamp status).2 :=
  keeps_of_endpoints fun x => x.updateHeartbeat_eq ip timestamp status

theorem keeps_initialHeartbeats (timestamp : ℚ) : Keeps (·.initialHeartbeats timestamp) :=
  keeps_of_endpoints fun x => x.initialHeartbeats_eq timestamp

@[simp] theorem length_modifyObj (f : ManagedInstance → ManagedInstance) :
    (c.modifyObj r f).heap.length = c.heap.length := by
  simp [modifyObj]

@[simp] theorem length_create (x : ManagedInstance) : (c.create x).heap.length = c.heap.length + 1 := by
  simp [create]

theorem obj_modifyObj_self (hr : r < c.heap.length) (f : ManagedInstance → ManagedInstance) :
    (c.modifyObj r f).obj r = f (c.obj r) := Heap.read_modify_self hr f

theorem obj_modifyObj_ne (h : r' ≠ r) (f : ManagedInstance → ManagedInstance) :
    (c.modifyObj r f).obj r' = c.obj r' := Heap.read_modify_ne h f

theorem obj_create_old (hr : r < c.heap.length) (x : ManagedInstance) : (c.create x).obj r = c.obj r :=
  Heap.read_alloc_old hr [x]

theorem obj_create_new (c : Controller) (x : ManagedInstance) : (c.create x).obj c.heap.length = x := by
  simp [obj, create, Heap.read]

@[simp] theorem obj_notify (event : ObserverEvent) : (c.notify r event).obj r' = c.obj r' := rfl

section Keeps

variable {f : ManagedInstance → ManagedInstance}

theorem Keeps.id_obj (hf : Keeps f) (r r' : Ref) : ((c.modifyObj r f).obj r').id = (c.obj r').id :=
  Heap.read_modify_congr (g := fun x : ManagedInstance => x.id) hf.id r r'

theorem Keeps.jobName_obj (hf : Keeps f) (r r' : Ref) : ((c.modifyObj r f).obj r').jobName = (c.obj r').jobName :=
  Heap.read_modify_congr (g := fun x : ManagedInstance => x.jobName) hf.jobName r r'

theorem Keeps.role_obj (hf : Keeps f) (r r' : Ref) : ((c.modifyObj r f).obj r').role = (c.obj r').role :=
  Heap.read_modify_congr (g := fun x : ManagedInstance => x.role) hf.role r r'

end Keeps

@[simp] theorem obj_delInstance (insId : Int) (r : Ref) : (c.delInstance insId).obj r = c.obj r := by
  unfold delInstance
  split <;> rfl

/-! ## State transitions -/

/-- What `_handle_state_transition` can do with an instance on an event. -/
inductive Transition (c : Controller) (timestamp : ℚ) (r : Ref) (event : InsConditionEvent) : Controller → Prop
  | idle (h : ∀ toState, transitions (c.obj r).status event = some toState →
      toState = (c.obj r).status ∨ toState = .active ∧ (c.obj r).id ∈ c.forcedSeparatedInstances) :
      Transition c timestamp r event c
  | ready (hne : (c.obj r).status ≠ .active) (hto : transitions (c.obj r).status event = some .active)
      (hforced : (c.obj r).id ∉ c.forcedSeparatedInstances) :
      Transition c timestamp r event ((c.modifyObj r (·.updateInstanceStatus .active)).notify r .instanceReady)
  | seperated (hne : (c.obj r).status ≠ .inactive) (hto : transitions (c.obj r).status event = some .inactive) :
      Transition c timestamp r event ((c.modifyObj r (·.updateInstanceStatus .inactive)).notify r .instanceSeperated)
  /-- The node managers are all normal. -/
  | refreshed (hs : (c.obj r).status = .active) (he : event = .instanceHeartbeatTimeout) :
      Transition c timestamp r event (c.modifyObj r (·.refreshHeartbeats timestamp))
  | initial (hs : (c.obj r).status = .inactive) (hto : transitions (c.obj r).status event = some .initial) :
      Transition c timestamp r event (c.modifyObj r (·.updateInstanceStatus .initial))
  | deleted (hne : (c.obj r).status ≠ .active) (hto : transitions (c.obj r).status event = some .deleted) :
      Transition c timestamp r event
        (((c.modifyObj r (·.updateInstanceStatus .deleted)).notify r .instanceRemoved).delInstance (c.obj r).id)

theorem transitions_initial {status : InsStatus} {event : InsConditionEvent}
    (h : transitions status event = some .initial) (hne : status ≠ .initial) :
    status = .inactive ∧ event = .instanceInit := by
  cases status <;> cases event <;> simp_all [transitions]

theorem transitions_active {status : InsStatus} {event : InsConditionEvent}
    (h : transitions status event = some .active) : event = .instanceNormal := by
  cases status <;> cases event <;> simp_all [transitions]

theorem transitions_inactive {status : InsStatus} {event : InsConditionEvent}
    (h : transitions status event = some .inactive) (hne : event ≠ .instanceAbnormal) :
    status = .active ∧ event = .instanceHeartbeatTimeout := by
  cases status <;> cases event <;> simp_all [transitions]

theorem transitions_deleted {status : InsStatus} {event : InsConditionEvent}
    (h : transitions status event = some .deleted) :
    status ≠ .active ∧ status ≠ .deleted ∧ event = .instanceHeartbeatTimeout := by
  cases status <;> cases event <;> simp_all [transitions]

theorem transition_handleStateTransition (c : Controller) (timestamp : ℚ)
    (queryStatus : NodeManagerInfo → QueryStatus) (r : Ref) (eventOverride : Option InsConditionEvent) :
    Transition c timestamp r (eventOverride.getD (conditionEvent (c.obj r)))
      (c.handleStateTransition timestamp queryStatus r eventOverride).2 := by
  unfold handleStateTransition
  dsimp only
  generalize eventOverride.getD (conditionEvent (c.obj r)) = event
  have hidle : ∀ {toState}, transitions (c.obj r).status event = some toState →
      (toState = (c.obj r).status ∨ toState = .active ∧ (c.obj r).id ∈ c.forcedSeparatedInstances) →
      Transition c timestamp r event c := by
    intro toState hto h
    refine .idle fun st hst => ?_
    rw [hto] at hst
    cases hst
    exact h
  split
  · rename_i hto
    exact .idle fun toState h => (nomatch hto.symm.trans h)
  · rename_i toState hto
    split
    · rename_i hforced
      exact hidle hto (Or.inr ⟨hforced.2, hforced.1⟩)
    · rename_i hforced
      cases toState with
      | initial =>
          by_cases hs : (c.obj r).status = .initial
          · have hc : c.handleInitial (c.obj r).status event r = c := by simp [handleInitial, hs]
            dsimp only
            rw [hc]
            exact hidle hto (Or.inl hs.symm)
          · obtain ⟨hs', he⟩ := transitions_initial hto hs
            simp only [handleInitial, hs', he, and_self, ↓reduceIte]
            rw [he] at hto
            exact .initial hs' hto
      | active =>
          simp only [handleActive]
          split
          · rename_i hs
            exact hidle hto (Or.inl hs.symm)
          · rename_i hs
            rw [if_pos (transitions_active hto)]
            exact .ready hs hto fun hid => hforced ⟨hid, rfl⟩
      | inactive =>
          simp only [handleInactive]
          split
          · rename_i hs
            exact hidle hto (Or.inl hs.symm)
          · rename_i hs
            split
            · exact .seperated hs hto
            · rename_i he
              obtain ⟨hs', he'⟩ := transitions_inactive hto he
              rw [if_pos he']
              split
              · exact .seperated hs hto
              · exact .refreshed hs' he'
      | deleted =>
          obtain ⟨hne, hne', he⟩ := transitions_deleted hto
          simp only [handleDeleted, hne', he, true_or, ↓reduceIte]
          rw [he] at hto
          exact .deleted hne hto

theorem handleStateTransition_fst (c : Controller) (timestamp : ℚ) (queryStatus : NodeManagerInfo → QueryStatus)
    (r : Ref) (eventOverride : Option InsConditionEvent) :
    (c.handleStateTransition timestamp queryStatus r eventOverride).1 =
      (transitions (c.obj r).status (eventOverride.getD (conditionEvent (c.obj r)))).isSome := by
  unfold handleStateTransition
  dsimp only
  cases transitions (c.obj r).status (eventOverride.getD (conditionEvent (c.obj r))) with
  | none => rfl
  | some toState =>
      dsimp only [Option.isSome_some]
      split
      · rfl
      · cases toState <;> rfl

/-! ## The steps of the manager -/

theorem handleHeartbeat_rule {P : Controller → Prop} {insId : Int} {ip : String} {status : Dict Int EndpointStatus}
    (hnone : c.instances.get? insId = none → P c)
    (hfailed : ∀ r, c.instances.get? insId = some r → ((c.obj r).updateHeartbeat ip timestamp status).1 ≠ .ok true →
      P (c.modifyObj r fun x => (x.updateHeartbeat ip timestamp status).2))
    (hmoved : ∀ r c', c.instances.get? insId = some r → ((c.obj r).updateHeartbeat ip timestamp status).1 = .ok true →
      Transition (c.modifyObj r fun x => (x.updateHeartbeat ip timestamp status).2) timestamp r
        (conditionEvent ((c.modifyObj r fun x => (x.updateHeartbeat ip timestamp status).2).obj r)) c' → P c') :
    P (c.handleHeartbeat timestamp insId ip status).2 := by
  unfold handleHeartbeat
  cases hr : c.instances.get? insId with
  | none => exact hnone hr
  | some r =>
      dsimp only
      cases hupdate : ((c.obj r).updateHeartbeat ip timestamp status).1 with
      | error e => exact hfailed r hr (by rw [hupdate]; simp)
      | ok b =>
          cases b with
          | false => exact hfailed r hr (by rw [hupdate]; simp)
          | true =>
              have ht := transition_handleStateTransition
                (c.modifyObj r fun x => (x.updateHeartbeat ip timestamp status).2) timestamp (fun _ => .normal) r none
              have hP := hmoved r _ hr hupdate ht
              dsimp only
              rcases hc : (c.modifyObj r fun x => (x.updateHeartbeat ip timestamp status).2).handleStateTransition
                timestamp (fun _ => .normal) r none with ⟨_ | _, c''⟩ <;>
              · rw [hc] at hP
                exact hP

theorem handleTimeout_rule {P : Controller → Prop} {insId : Int} (hidle : P c)
    (hmoved : ∀ r c', c.instances.get? insId = some r → (c.obj r).isAllEndpointsAlive timestamp = false →
      Transition c timestamp r .instanceHeartbeatTimeout c' → P c') :
    P (c.handleTimeout timestamp queryStatus insId) := by
  unfold handleTimeout
  cases hr : c.instances.get? insId with
  | none => exact hidle
  | some r =>
      dsimp only
      split
      · exact hidle
      · split
        · exact hidle
        · rename_i halive
          exact hmoved r _ hr (Bool.not_eq_true _ ▸ halive)
            (transition_handleStateTransition c timestamp queryStatus r (some .instanceHeartbeatTimeout))

theorem separateInstance_rule {P : Controller → Prop} {insId : Int} (hnone : c.instances.get? insId = none → P c)
    (hactive : ∀ r, c.instances.get? insId = some r → (c.obj r).status = .active →
      P (({ c with forcedSeparatedInstances := c.forcedSeparatedInstances.insert (c.obj r).id }.modifyObj r
        (·.updateInstanceStatus .inactive)).notify r .instanceSeperated))
    (hother : ∀ r, c.instances.get? insId = some r → (c.obj r).status ≠ .active →
      P { c with forcedSeparatedInstances := c.forcedSeparatedInstances.insert (c.obj r).id }) :
    P (c.separateInstance insId) := by
  unfold separateInstance
  cases hr : c.instances.get? insId with
  | none => exact hnone hr
  | some r =>
      dsimp only
      split
      · rename_i hs
        exact hactive r hr hs
      · rename_i hs
        exact hother r hr hs

end Controller

/-!
## What the manager leaves alone

The steps of the manager change statuses and heartbeats of managed objects only. `SameForm` is what they keep of an
object, `ManagerStep` what they keep of the controller.
-/

namespace ManagedInstance

variable {x y z : ManagedInstance}

/-- The objects differ at most in the status and in what heartbeats write. -/
structure SameForm (x y : ManagedInstance) : Prop where
  id : x.id = y.id
  jobName : x.jobName = y.jobName
  role : x.role = y.role
  parallelConfig : x.parallelConfig = y.parallelConfig
  enableMultiEndpoints : x.enableMultiEndpoints = y.enableMultiEndpoints
  nodeManagers : x.nodeManagers = y.nodeManagers
  shape : x.shape = y.shape

theorem SameForm.rfl : SameForm x x := ⟨Eq.refl _, Eq.refl _, Eq.refl _, Eq.refl _, Eq.refl _, Eq.refl _, Eq.refl _⟩

theorem SameForm.trans (h : SameForm x y) (h' : SameForm y z) : SameForm x z :=
  ⟨h.id.trans h'.id, h.jobName.trans h'.jobName, h.role.trans h'.role, h.parallelConfig.trans h'.parallelConfig,
    h.enableMultiEndpoints.trans h'.enableMultiEndpoints, h.nodeManagers.trans h'.nodeManagers,
    h.shape.trans h'.shape⟩

theorem sameForm_updateInstanceStatus (x : ManagedInstance) (status : InsStatus) :
    SameForm (x.updateInstanceStatus status) x :=
  ⟨Eq.refl _, Eq.refl _, Eq.refl _, Eq.refl _, Eq.refl _, Eq.refl _, Eq.refl _⟩

theorem sameForm_endpoints {endpoints : Dict String (Dict Int Endpoint)}
    (h : (endpoints.mapValues fun eps => eps.mapValues Endpoint.still) = x.shape) :
    SameForm { x with endpoints := endpoints } x :=
  ⟨Eq.refl _, Eq.refl _, Eq.refl _, Eq.refl _, Eq.refl _, Eq.refl _, h⟩

theorem sameForm_refreshHeartbeats (x : ManagedInstance) (timestamp : ℚ) :
    SameForm (x.refreshHeartbeats timestamp) x := by
  apply sameForm_endpoints
  apply Dict.ext
  simp only [shape, Dict.mapValues, List.map_map]
  apply List.map_congr_left
  intro e _
  simp [Function.comp_def, Endpoint.still]

theorem still_updateStatuses (timestamp : ℚ) (status : Dict Int EndpointStatus) (l : List (Int × Endpoint))
    (eps : Dict Int Endpoint) :
    (updateStatuses timestamp status l eps).2.mapValues Endpoint.still = eps.mapValues Endpoint.still := by
  induction l generalizing eps with
  | nil => exact Eq.refl _
  | cons e l ih =>
      obtain ⟨key, ep⟩ := e
      have hadjust : ∀ (eps : Dict Int Endpoint) (f : Endpoint → Endpoint), (∀ ep, (f ep).still = ep.still) →
          (eps.adjust key f).mapValues Endpoint.still = eps.mapValues Endpoint.still := by
        intro eps f hf
        exact Dict.mapValues_adjust hf eps key
      unfold updateStatuses
      dsimp only
      split
      · exact hadjust _ _ fun _ => Eq.refl _
      · refine (ih _).trans ((hadjust _ _ ?_).trans (hadjust _ _ ?_))
        · exact fun _ => Eq.refl _
        · exact fun _ => Eq.refl _

theorem sameForm_updateHeartbeat (x : ManagedInstance) (ip : String) (timestamp : ℚ)
    (status : Dict Int EndpointStatus) : SameForm (x.updateHeartbeat ip timestamp status).2 x := by
  unfold updateHeartbeat
  cases heps : x.endpoints.get? ip with
  | none => exact SameForm.rfl
  | some eps =>
      have hstill := still_updateStatuses timestamp status eps.entries eps
      dsimp only
      split
      · exact SameForm.rfl
      · split
        · rename_i e eps' hu
          rw [hu] at hstill
          exact sameForm_endpoints (Dict.mapValues_set_present heps hstill)
        · rename_i u eps' hu
          rw [hu] at hstill
          exact sameForm_endpoints (Dict.mapValues_set_present heps hstill)

theorem sameForm_initialHeartbeats (x : ManagedInstance) (timestamp : ℚ) :
    SameForm (x.initialHeartbeats timestamp) x := by
  unfold initialHeartbeats
  generalize x.endpoints.keys = pods
  induction pods generalizing x with
  | nil => exact SameForm.rfl
  | cons pod pods ih =>
      rw [List.foldl_cons]
      exact (ih _).trans (x.sameForm_updateHeartbeat pod timestamp _)

end ManagedInstance

namespace Controller

open ManagedInstance

variable {c c' c'' : Controller} {r : Ref}

/-- The manager's own steps: managed objects keep their form, other objects are untouched, and none is entered. -/
structure ManagerStep (c c' : Controller) : Prop where
  length : c'.heap.length = c.heap.length
  form : ∀ r, SameForm (c'.obj r) (c.obj r)
  managed : ∀ {id r}, c'.instances.get? id = some r → c.instances.get? id = some r
  other : ∀ r, (∀ id, c.instances.get? id ≠ some r) → c'.obj r = c.obj r

theorem ManagerStep.rfl : ManagerStep c c := ⟨Eq.refl _, fun _ => SameForm.rfl, fun h => h, fun _ _ => Eq.refl _⟩

theorem ManagerStep.trans (h : ManagerStep c c') (h' : ManagerStep c' c'') : ManagerStep c c'' where
  length := h'.length.trans h.length
  form r := (h'.form r).trans (h.form r)
  managed hr := h.managed (h'.managed hr)
  other r hr := (h'.other r fun id hid => hr id (h.managed hid)).trans (h.other r hr)

theorem ManagerStep.of_heap (hheap : c'.heap = c.heap)
    (hsub : ∀ {id r}, c'.instances.get? id = some r → c.instances.get? id = some r) : ManagerStep c c' := by
  have hobj : ∀ r, c'.obj r = c.obj r := by
    intro r
    unfold obj
    rw [hheap]
  refine ⟨congrArg List.length hheap, fun r => ?_, hsub, fun r _ => hobj r⟩
  rw [hobj]
  exact SameForm.rfl

theorem form_modifyObj {f : ManagedInstance → ManagedInstance} (hf : ∀ x, SameForm (f x) x) (r r' : Ref) :
    SameForm ((c.modifyObj r f).obj r') (c.obj r') := by
  by_cases he : r' = r
  · by_cases hr : r < c.heap.length
    · rw [he, obj_modifyObj_self hr]
      exact hf _
    · have hsame : (c.modifyObj r f).obj r' = c.obj r' := by simp [obj, modifyObj, Heap.read, he, hr]
      rw [hsame]
      exact SameForm.rfl
  · rw [obj_modifyObj_ne he]
    exact SameForm.rfl

theorem ManagerStep.modifyObj {id : Int} (hr : c.instances.get? id = some r) {f : ManagedInstance → ManagedInstance}
    (hf : ∀ x, SameForm (f x) x) : ManagerStep c (c.modifyObj r f) := by
  refine ⟨length_modifyObj f, form_modifyObj hf r, fun h => h, fun r' hr' => ?_⟩
  apply obj_modifyObj_ne
  rintro rfl
  exact hr' id hr

theorem managerStep_notify (event : ObserverEvent) : ManagerStep c (c.notify r event) :=
  .of_heap (Eq.refl _) fun h => h

theorem managerStep_delInstance (insId : Int) : ManagerStep c (c.delInstance insId) := by
  unfold delInstance
  split
  · refine .of_heap (Eq.refl _) fun {id r} h => ?_
    dsimp only at h
    rw [Dict.get?_erase] at h
    split at h
    · cases h
    · exact h
  · exact .rfl

theorem Transition.managerStep {timestamp : ℚ} {event : InsConditionEvent} {id : Int}
    (hr : c.instances.get? id = some r) (ht : Transition c timestamp r event c') : ManagerStep c c' := by
  have hstatus : ∀ status, ManagerStep c (c.modifyObj r (·.updateInstanceStatus status)) :=
    fun status => .modifyObj hr fun x => x.sameForm_updateInstanceStatus status
  cases ht with
  | idle _ => exact .rfl
  | ready _ _ _ => exact (hstatus _).trans (managerStep_notify _)
  | seperated _ _ => exact (hstatus _).trans (managerStep_notify _)
  | refreshed _ _ => exact .modifyObj hr fun x => x.sameForm_refreshHeartbeats timestamp
  | initial _ _ => exact hstatus _
  | deleted _ _ => exact ((hstatus _).trans (managerStep_notify _)).trans (managerStep_delInstance _)

theorem managerStep_handleHeartbeat (timestamp : ℚ) (insId : Int) (ip : String) (status : Dict Int EndpointStatus) :
    ManagerStep c (c.handleHeartbeat timestamp insId ip status).2 := by
  have htouch : ∀ {r}, c.instances.get? insId = some r →
      ManagerStep c (c.modifyObj r fun x => (x.updateHeartbeat ip timestamp status).2) :=
    fun hr => .modifyObj hr fun x => x.sameForm_updateHeartbeat ip timestamp status
  apply handleHeartbeat_rule
  · exact fun _ => .rfl
  · exact fun r hr _ => htouch hr
  · exact fun r c' hr _ ht => (htouch hr).trans (ht.managerStep hr)

theorem managerStep_handleTimeout (timestamp : ℚ) (queryStatus : NodeManagerInfo → QueryStatus) (insId : Int) :
    ManagerStep c (c.handleTimeout timestamp queryStatus insId) :=
  handleTimeout_rule .rfl fun _ _ hr _ ht => ht.managerStep hr

theorem managerStep_separateInstance (insId : Int) : ManagerStep c (c.separateInstance insId) := by
  apply separateInstance_rule
  · exact fun _ => .rfl
  · intro r hr _
    have hforced : ManagerStep c
        { c with forcedSeparatedInstances := c.forcedSeparatedInstances.insert (c.obj r).id } :=
      .of_heap (Eq.refl _) fun h => h
    have hstatus := ManagerStep.modifyObj
      (c := { c with forcedSeparatedInstances := c.forcedSeparatedInstances.insert (c.obj r).id }) hr
      fun x => x.sameForm_updateInstanceStatus .inactive
    exact (hforced.trans hstatus).trans (managerStep_notify _)
  · exact fun r _ _ => .of_heap (Eq.refl _) fun h => h

theorem managerStep_recoverInstance (insId : Int) : ManagerStep c (c.recoverInstance insId) := by
  unfold recoverInstance
  split
  · exact .rfl
  · exact .of_heap (Eq.refl _) fun h => h

theorem sameForm_maybeRefreshHeartbeat (timestamp : ℚ) (x : ManagedInstance) :
    SameForm (maybeRefreshHeartbeat timestamp x) x := by
  unfold maybeRefreshHeartbeat
  split
  · exact x.sameForm_refreshHeartbeats timestamp
  · exact SameForm.rfl

/-! ## Entering an instance -/

@[simp] theorem length_addInstance (timestamp : ℚ) (r : Ref) :
    (c.addInstance timestamp r).heap.length = c.heap.length := by
  unfold addInstance
  split
  · exact Eq.refl _
  · exact length_modifyObj _

theorem form_addInstance (timestamp : ℚ) (r r' : Ref) : SameForm ((c.addInstance timestamp r).obj r') (c.obj r') := by
  unfold addInstance
  split
  · exact SameForm.rfl
  · exact form_modifyObj (c := { c with instances := c.instances.set (c.obj r).id r })
      (fun x => x.sameForm_initialHeartbeats timestamp) r r'

@[simp] theorem status_addInstance (timestamp : ℚ) (r r' : Ref) :
    ((c.addInstance timestamp r).obj r').status = (c.obj r').status := by
  unfold addInstance
  split
  · exact Eq.refl _
  · exact Heap.read_modify_congr (g := fun x : ManagedInstance => x.status)
      (fun x => x.status_initialHeartbeats timestamp) r r'

@[simp] theorem forced_addInstance (timestamp : ℚ) (r : Ref) :
    (c.addInstance timestamp r).forcedSeparatedInstances = c.forcedSeparatedInstances := by
  unfold addInstance
  split <;> exact Eq.refl _

theorem get?_addInstance {timestamp : ℚ} {id : Int} {r r' : Ref}
    (h : (c.addInstance timestamp r).instances.get? id = some r') :
    c.instances.get? id = some r' ∨ id = (c.obj r).id ∧ r' = r := by
  unfold addInstance at h
  split at h
  · exact Or.inl h
  · replace h : (c.instances.set (c.obj r).id r).get? id = some r' := h
    rw [Dict.get?_set] at h
    split at h
    · rename_i hid
      exact Or.inr ⟨hid, (Option.some.inj h).symm⟩
    · exact Or.inl h

theorem get?_addInstance_old {timestamp : ℚ} {id : Int} {r r' : Ref} (h : c.instances.get? id = some r') :
    (c.addInstance timestamp r).instances.get? id = some r' := by
  unfold addInstance
  split
  · exact h
  · rename_i hc
    show (c.instances.set (c.obj r).id r).get? id = some r'
    rw [Dict.get?_set_ne, h]
    intro hid
    exact hc (Dict.contains_iff.mpr ⟨r', hid ▸ h⟩)

end Controller

end PyMotor
