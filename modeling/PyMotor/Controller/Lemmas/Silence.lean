import PyMotor.Controller.Lemmas.Readiness

/-!
# Silent pods

Only a heartbeat makes an instance active, and only one after which all its endpoints are stored as NORMAL. The
endpoints of the other pods are as they were.
-/

namespace PyMotor

open Lib ManagedInstance ControllerProcess

namespace Controller

variable {c c' : Controller} {r : Ref} {timestamp : ℚ}

theorem Transition.active {event : InsConditionEvent} (hlt : r < c.heap.length)
    (ht : Transition c timestamp r event c') (hne : (c.obj r).status ≠ .active) (hs : (c'.obj r).status = .active) :
    event = .instanceNormal ∧ (c'.obj r).endpoints = (c.obj r).endpoints := by
  have hself : ∀ status, (c.modifyObj r (·.updateInstanceStatus status)).obj r = (c.obj r).updateInstanceStatus status :=
    fun status => obj_modifyObj_self hlt (·.updateInstanceStatus status)
  cases ht with
  | idle _ => exact absurd hs hne
  | ready _ hto _ =>
      rw [obj_notify, hself]
      exact ⟨transitions_active hto, rfl⟩
  | seperated _ _ =>
      rw [obj_notify, hself] at hs
      cases hs
  | refreshed hs' _ => exact absurd hs' hne
  | initial _ _ =>
      rw [hself] at hs
      cases hs
  | deleted _ _ =>
      rw [obj_delInstance, obj_notify, hself] at hs
      cases hs

theorem Transition.other {event : InsConditionEvent} {r' : Ref} (hne : r' ≠ r)
    (ht : Transition c timestamp r event c') : c'.obj r' = c.obj r' := by
  cases ht with
  | idle _ => rfl
  | ready _ _ _ => exact obj_modifyObj_ne hne _
  | seperated _ _ => exact obj_modifyObj_ne hne _
  | refreshed _ _ => exact obj_modifyObj_ne hne _
  | initial _ _ => exact obj_modifyObj_ne hne _
  | deleted _ _ =>
      rw [obj_delInstance]
      exact obj_modifyObj_ne hne _

theorem handleHeartbeat_active {insId : Int} {ip : String} {status : Dict Int EndpointStatus}
    (hm : ∀ id r, c.instances.get? id = some r → r < c.heap.length) (hne : (c.obj r).status ≠ .active)
    (hs : ((c.handleHeartbeat timestamp insId ip status).2.obj r).status = .active) :
    c.instances.get? insId = some r ∧ ((c.obj r).updateHeartbeat ip timestamp status).1 = .ok true ∧
    ((c.obj r).updateHeartbeat ip timestamp status).2.isAllEndpointsReady = true ∧
    ((c.handleHeartbeat timestamp insId ip status).2.obj r).endpoints =
      ((c.obj r).updateHeartbeat ip timestamp status).2.endpoints := by
  have hstatus : ∀ r', ((c.modifyObj r' fun x => (x.updateHeartbeat ip timestamp status).2).obj r).status =
      (c.obj r).status := by
    intro r'
    exact Heap.read_modify_congr (g := fun x : ManagedInstance => x.status)
      (fun x => x.status_updateHeartbeat ip timestamp status) r' r
  revert hs
  apply handleHeartbeat_rule (P := fun c' => (c'.obj r).status = .active → c.instances.get? insId = some r ∧
    ((c.obj r).updateHeartbeat ip timestamp status).1 = .ok true ∧
    ((c.obj r).updateHeartbeat ip timestamp status).2.isAllEndpointsReady = true ∧
    (c'.obj r).endpoints = ((c.obj r).updateHeartbeat ip timestamp status).2.endpoints)
  · exact fun _ hs => absurd hs hne
  · intro r' _ _ hs
    rw [hstatus] at hs
    exact absurd hs hne
  · intro r' c' hr' hok ht hs
    by_cases he : r = r'
    · subst he
      have hlt := hm insId r hr'
      have hself := obj_modifyObj_self hlt fun x => (x.updateHeartbeat ip timestamp status).2
      obtain ⟨hevent, heps⟩ := ht.active (by rw [length_modifyObj]; exact hlt) (by rw [hstatus]; exact hne) hs
      rw [hself] at hevent heps
      exact ⟨hr', hok, conditionEvent_normal hevent, heps⟩
    · rw [ht.other he, hstatus] at hs
      exact absurd hs hne

end Controller

namespace ControllerProcess

variable {p : ControllerProcess} {r : Ref}

theorem status_assembler (hp : ProcessInv p) (hlt : r < p.controller.heap.length) {event : Event}
    (he : event.OfAssembler) : ((p.step event).controller.obj r).status = (p.controller.obj r).status := by
  have hI : r < (p.step event).controller.heap.length ∧
      ((p.step event).controller.obj r).status = (p.controller.obj r).status := by
    apply assembler_closure
      (I := fun c => r < c.heap.length ∧ (c.obj r).status = (p.controller.obj r).status) _ _ _ hp ⟨hlt, rfl⟩ he
    · rintro c x ⟨hlt', hs⟩
      rw [Controller.length_create, Controller.obj_create_old hlt']
      exact ⟨Nat.lt_succ_of_lt hlt', hs⟩
    · rintro c r' f hf - ⟨hlt', hs⟩
      rw [Controller.length_modifyObj, (rebuilds_obj hf c r' r).2.1]
      exact ⟨hlt', hs⟩
    · rintro c timestamp r' - - - ⟨hlt', hs⟩
      rw [Controller.length_addInstance, Controller.status_addInstance]
      exact ⟨hlt', hs⟩
  exact hI.2

theorem heartbeat_of_active (hp : ProcessInv p) {id : Int} (hr : p.controller.instances.get? id = some r) {event : Event}
    (hne : (p.controller.obj r).status ≠ .active) (hs : ((p.step event).controller.obj r).status = .active) :
    ∃ ip status, event = .heartbeat id ip status ∧
      ((p.controller.obj r).updateHeartbeat ip p.clock status).1 = .ok true ∧
      ((p.controller.obj r).updateHeartbeat ip p.clock status).2.isAllEndpointsReady = true ∧
      ((p.step event).controller.obj r).endpoints =
        ((p.controller.obj r).updateHeartbeat ip p.clock status).2.endpoints := by
  obtain ⟨hlt, hid⟩ := hp.managed hr
  have hm : ∀ id r, p.controller.instances.get? id = some r → r < p.controller.heap.length :=
    fun _ _ hr => (hp.managed hr).1
  -- Every other step leaves the status as it is or changes it to another one.
  have hother : ((p.step event).controller.obj r).status ≠ .active ∨
      ∃ insId ip status, event = .heartbeat insId ip status := by
    cases event with
    | heartbeat insId ip status => exact Or.inr ⟨insId, ip, status, rfl⟩
    | timeout queryStatus insId =>
        left
        apply Controller.handleTimeout_rule (P := fun c => (c.obj r).status ≠ .active) hne
        intro r' c' hr' _ ht hs'
        by_cases he : r = r'
        · subst he
          cases (ht.active hlt hne hs').1
        · rw [ht.other he] at hs'
          exact hne hs'
    | separate instanceId =>
        left
        apply Controller.separateInstance_rule (P := fun c => (c.obj r).status ≠ .active)
        · exact fun _ => hne
        · intro r' hr' hactive
          by_cases he : r = r'
          · subst he
            exact absurd hactive hne
          · rw [Controller.obj_notify, Controller.obj_modifyObj_ne he]
            exact hne
        · exact fun _ _ _ => hne
    | recover instanceId =>
        left
        simp only [step, Controller.recoverInstance]
        split <;> exact hne
    | delete insId =>
        left
        simp only [step]
        rw [Controller.obj_delInstance]
        exact hne
    | persistManager => exact Or.inl hne
    | restoreManager =>
        left
        simp only [step, restoreManager]
        split
        · exact hne
        · rename_i state _
          have hold := Controller.obj_foldl_restoreInstance_old (r := r)
            (c := { p.controller with
              dataVersion := max p.controller.dataVersion state.version, instances := Dict.empty }) hlt p.clock
            state.data.values
          intro hs'
          exact hne ((congrArg ManagedInstance.status hold).symm.trans hs')
    | restart => exact Or.inl InsStatus.noConfusion
    | _ =>
        left
        intro hs'
        refine hne (Eq.trans (Eq.symm (status_assembler hp hlt ?_)) hs')
        trivial
  rcases hother with h | ⟨insId, ip, status, rfl⟩
  · exact absurd hs h
  · obtain ⟨hr', hok, hready, heps⟩ := Controller.handleHeartbeat_active hm hne hs
    obtain rfl : insId = id := (hp.managed hr').2.symm.trans hid
    exact ⟨ip, status, rfl, hok, hready, heps⟩

end ControllerProcess

namespace HeardProcess

variable {s : HeardProcess} {r : Ref} {ip : String}

theorem get?_record_heartbeat {insId : Int} {status : Dict Int EndpointStatus}
    (hr : s.process.controller.instances.get? insId = some r)
    (hok : ((s.process.controller.obj r).updateHeartbeat ip s.process.clock status).1 = .ok true) :
    s.record (.heartbeat insId ip status) = s.heard.set (r, ip) s.process.clock := by
  simp only [record, hr, hok, ↓reduceIte]

theorem allHeard_of_normalsHeard (hp : ProcessInv s.process) {event : Event} (h : s.NormalsHeard event) :
    s.AllHeard event := by
  rintro r ⟨⟨id, hr⟩, hne, hs⟩ ⟨ip', eps⟩ hpod heps
  obtain ⟨ip, status, rfl, hok, hready, hsame⟩ := heartbeat_of_active hp hr hne hs
  have hrecord := get?_record_heartbeat hr hok
  have hget : ((s.process.controller.obj r).updateHeartbeat ip s.process.clock status).2.endpoints.get? ip' =
      some eps := by
    rw [← hsame]
    exact Dict.get?_eq_some_iff.mpr hpod
  by_cases hip : ip' = ip
  · refine ⟨s.process.clock, ?_, ?_⟩
    · dsimp only [step]
      rw [hrecord, hip]
      exact Dict.get?_set_self _ _ _
    · show s.process.clock - s.process.clock ≤ activeInstanceHeartbeatTimeout
      rw [sub_self]
      decide
  · obtain ⟨ep, hep⟩ := List.exists_mem_of_ne_nil _ heps
    rw [get?_updateHeartbeat_ne hip] at hget
    have hnormal : ep.status = .normal := by
      refine isAllEndpointsReady_iff.mp hready ep ?_
      refine List.mem_flatMap.mpr ⟨eps, Dict.mem_values_iff.mpr ⟨ip', ?_⟩, hep⟩
      rw [get?_updateHeartbeat_ne hip]
      exact hget
    obtain ⟨t, ht, hle⟩ := h r hr hne (ip', eps) (Dict.get?_eq_some_iff.mp hget) hip ⟨ep, hep, hnormal⟩
    refine ⟨t, ?_, hle⟩
    dsimp only [step]
    rw [hrecord]
    refine (Dict.get?_set_ne ?_).trans ht
    intro he
    exact hip (congrArg Prod.snd he)

/-! ## The other pods alone -/

theorem managerStep_of_others {id : Int} {event : Event} (h : OfOthers id ip event) :
    Controller.ManagerStep s.process.controller (s.step event).process.controller := by
  cases event with
  | heartbeat insId ip' status => exact Controller.managerStep_handleHeartbeat _ insId ip' status
  | timeout queryStatus insId => exact Controller.managerStep_handleTimeout _ queryStatus insId
  | separate instanceId => exact Controller.managerStep_separateInstance instanceId
  | recover instanceId => exact Controller.managerStep_recoverInstance instanceId
  | tick timestamp => exact .rfl
  | _ => cases h

theorem clock_le_of_others {id : Int} {event : Event} (h : OfOthers id ip event) :
    s.process.clock ≤ (s.step event).process.clock := by
  cases event with
  | tick timestamp => exact le_max_left _ _
  | heartbeat _ _ _ => exact le_rfl
  | timeout _ _ => exact le_rfl
  | separate _ => exact le_rfl
  | recover _ => exact le_rfl
  | _ => cases h

theorem get?_record_of_others (hp : ProcessInv s.process) {event : Event}
    (h : OfOthers (s.process.controller.obj r).id ip event) : (s.record event).get? (r, ip) = s.heard.get? (r, ip) := by
  cases event with
  | heartbeat insId ip' status =>
      unfold record
      dsimp only
      split
      · rfl
      · rename_i r' hr'
        split
        · refine Dict.get?_set_ne fun he => h ?_
          obtain ⟨rfl, rfl⟩ := Prod.mk.inj he
          exact ⟨(hp.managed hr').2.symm, rfl⟩
        · rfl
  | timeout _ _ => rfl
  | separate _ => rfl
  | recover _ => rfl
  | tick _ => rfl
  | _ => cases h

/-- The instance is not active, and its pod is silent. -/
structure KeptOut (id : Int) (r : Ref) (ip : String) (s : HeardProcess) : Prop where
  inv : ProcessInv s.process
  objId : (s.process.controller.obj r).id = id
  status : (s.process.controller.obj r).status ≠ .active
  pod : ∃ eps, (s.process.controller.obj r).endpoints.get? ip = some eps ∧ eps.values ≠ []
  silent : ¬ s.Heard r ip

theorem pod_of_sameForm {x y : ManagedInstance} (h : SameForm x y)
    (hy : ∃ eps, y.endpoints.get? ip = some eps ∧ eps.values ≠ []) :
    ∃ eps, x.endpoints.get? ip = some eps ∧ eps.values ≠ [] := by
  obtain ⟨eps, heps, hne⟩ := hy
  have hget := congrArg (fun d => d.get? ip) h.shape
  simp only [shape, Dict.get?_mapValues, heps, Option.map_some] at hget
  obtain ⟨eps', heps', hids⟩ := Option.map_eq_some_iff.mp hget
  refine ⟨eps', heps', fun hnil => hne ?_⟩
  have hvalues := congrArg Dict.values hids
  rw [Dict.values_mapValues, Dict.values_mapValues, hnil] at hvalues
  exact List.map_eq_nil_iff.mp hvalues.symm

theorem KeptOut.step {id : Int} (h : KeptOut id r ip s) {event : Event} (ho : OfOthers id ip event)
    (hall : s.AllHeard event) : KeptOut id r ip (s.step event) := by
  have hmove := managerStep_of_others (s := s) ho
  have hform := hmove.form r
  have hsilent : ¬ (s.step event).Heard r ip := by
    rintro ⟨t, ht, hle⟩
    refine h.silent ⟨t, ?_, (sub_le_sub_right (clock_le_of_others ho) t).trans hle⟩
    rw [← get?_record_of_others h.inv (h.objId.symm ▸ ho)]
    exact ht
  have hpod := pod_of_sameForm hform h.pod
  refine ⟨h.inv.step event, hform.id.trans h.objId, fun hs => ?_, hpod, hsilent⟩
  by_cases hm : ∃ id', s.process.controller.instances.get? id' = some r
  · obtain ⟨eps, heps, hne⟩ := hpod
    exact hsilent (hall r ⟨hm, h.status, hs⟩ (ip, eps) (Dict.get?_eq_some_iff.mp heps) hne)
  · have hobj := hmove.other r fun id' hid => hm ⟨id', hid⟩
    exact h.status (hobj ▸ hs)

theorem staysOut_of_allHeard {events : List Event} (h : Along step AllHeard {} events) : StaysOut events := by
  rintro before after id r ip eps rfl hr hs heps hne hsilent hothers
  have hinv : ProcessInv (run step {} before).process :=
    run_invariant' (I := fun s : HeardProcess => ProcessInv s.process) (fun s event hi => hi.step event)
      processInv_init before
  rw [run_append]
  have hkept : KeptOut id r ip (run step (run step {} before) after) := by
    have hafter := (along_append.mp h).2.and_forall hothers
    refine run_invariant (fun s event hi (hs : OfOthers id ip event ∧ AllHeard s event) => hi.step hs.1 hs.2) ?_ hafter
    exact ⟨hinv, (hinv.managed hr).2, hs, ⟨eps, heps, hne⟩, hsilent⟩
  exact hkept.status

end HeardProcess

end PyMotor
