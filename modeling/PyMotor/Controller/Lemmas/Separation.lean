import PyMotor.Controller.Lemmas.Process
import PyMotor.Controller.ProcessSpec

/-!
# Separated instances

`Forced` says that every separated id is managed and not active. Every step of the manager keeps it, the guard of
`_handle_state_transition` and `del_instance` included; restoring is the exception.
-/

namespace PyMotor

open Lib ManagedInstance

namespace Controller

variable {c c' : Controller} {r : Ref} {id : Int} {timestamp : ℚ}

/-- The entries of the manager lead to objects of their id. -/
def Managed (c : Controller) : Prop := ∀ {id r}, c.instances.get? id = some r → r < c.heap.length ∧ (c.obj r).id = id

def Forced (c : Controller) : Prop :=
  ∀ id ∈ c.forcedSeparatedInstances, ∃ r, c.instances.get? id = some r ∧ (c.obj r).status ≠ .active

theorem Forced.frame (h : Forced c) (hsub : ∀ id ∈ c'.forcedSeparatedInstances, id ∈ c.forcedSeparatedInstances)
    (hkeep : ∀ {id r}, id ∈ c'.forcedSeparatedInstances → c.instances.get? id = some r → (c.obj r).status ≠ .active →
      c'.instances.get? id = some r ∧ (c'.obj r).status ≠ .active) : Forced c' := by
  intro id hid
  obtain ⟨r, hr, hs⟩ := h id (hsub id hid)
  exact ⟨r, hkeep hid hr hs⟩

theorem Forced.modifyObj (h : Forced c) {f : ManagedInstance → ManagedInstance}
    (hf : ∀ x, (f x).status = x.status) (r : Ref) : Forced (c.modifyObj r f) := by
  refine h.frame (fun _ hid => hid) fun {id r'} _ hr hs => ⟨hr, ?_⟩
  have hstatus : ((c.modifyObj r f).obj r').status = (c.obj r').status :=
    Heap.read_modify_congr (g := fun x : ManagedInstance => x.status) hf r r'
  rw [hstatus]
  exact hs

theorem Forced.create (h : Forced c) (hm : Managed c) (x : ManagedInstance) : Forced (c.create x) := by
  refine h.frame (fun _ hid => hid) fun _ hr hs => ⟨hr, ?_⟩
  rw [obj_create_old (hm hr).1]
  exact hs

theorem Forced.addInstance (h : Forced c) (timestamp : ℚ) (r : Ref) : Forced (c.addInstance timestamp r) := by
  refine h.frame (fun id hid => ?_) fun _ hr hs => ⟨get?_addInstance_old hr, ?_⟩
  · rwa [forced_addInstance] at hid
  · rw [status_addInstance]
    exact hs

theorem Forced.setStatus (h : Forced c) (hm : Managed c) (hr : c.instances.get? id = some r) {status : InsStatus}
    (hs : status ≠ .active) : Forced (c.modifyObj r (·.updateInstanceStatus status)) := by
  refine h.frame (fun _ hid => hid) fun {id' r'} _ hr' hs' => ⟨hr', ?_⟩
  by_cases he : r' = r
  · rw [he, obj_modifyObj_self (hm hr).1]
    exact hs
  · rw [obj_modifyObj_ne he]
    exact hs'

theorem Forced.notify (h : Forced c) (r : Ref) (event : ObserverEvent) : Forced (c.notify r event) :=
  h.frame (fun _ hid => hid) fun _ hr hs => ⟨hr, hs⟩

theorem Forced.delInstance (h : Forced c) (insId : Int) : Forced (c.delInstance insId) := by
  unfold Controller.delInstance
  split
  · refine h.frame (fun id hid => (List.mem_filter.mp hid).1) fun {id r} hid hr hs => ⟨?_, hs⟩
    have hne : id ≠ insId := by simpa using (List.mem_filter.mp hid).2
    exact (Dict.get?_erase_ne hne).trans hr
  · exact h

theorem Forced.transition (h : Forced c) (hm : Managed c) {event : InsConditionEvent}
    (hr : c.instances.get? id = some r) (ht : Transition c timestamp r event c') : Forced c' := by
  obtain ⟨hlt, hid⟩ := hm hr
  cases ht with
  | idle _ => exact h
  | ready _ _ hforced =>
      -- The guard: a separated instance is another one.
      have hactive : Forced (c.modifyObj r (·.updateInstanceStatus .active)) := by
        refine h.frame (fun _ hid' => hid') fun {id' r'} hid' hr' hs' => ⟨hr', ?_⟩
        rw [obj_modifyObj_ne]
        · exact hs'
        · rintro rfl
          rw [← (hm hr').2] at hid'
          exact hforced hid'
      exact hactive.notify r _
  | seperated _ _ => exact (h.setStatus hm hr InsStatus.noConfusion).notify r _
  | refreshed _ _ => exact h.modifyObj (f := (·.refreshHeartbeats timestamp)) (fun _ => rfl) r
  | initial _ _ => exact h.setStatus hm hr InsStatus.noConfusion
  | deleted _ _ => exact ((h.setStatus hm hr InsStatus.noConfusion).notify r _).delInstance _

theorem Forced.handleHeartbeat (h : Forced c) (hm : Managed c) (timestamp : ℚ) (insId : Int) (ip : String)
    (status : Dict Int EndpointStatus) : Forced (c.handleHeartbeat timestamp insId ip status).2 := by
  have htouch : ∀ r, Forced (c.modifyObj r fun x => (x.updateHeartbeat ip timestamp status).2) :=
    fun r => h.modifyObj (fun x => x.status_updateHeartbeat ip timestamp status) r
  apply handleHeartbeat_rule
  · exact fun _ => h
  · exact fun r _ _ => htouch r
  · intro r c' hr _ ht
    refine (htouch r).transition (fun {id' r'} hr' => ?_) hr ht
    rw [length_modifyObj, (keeps_updateHeartbeat ip timestamp status).id_obj]
    exact hm hr'

theorem Forced.handleTimeout (h : Forced c) (hm : Managed c) (timestamp : ℚ)
    (queryStatus : NodeManagerInfo → QueryStatus) (insId : Int) :
    Forced (c.handleTimeout timestamp queryStatus insId) :=
  handleTimeout_rule h fun _ _ hr _ ht => h.transition hm hr ht

theorem Forced.separateInstance (h : Forced c) (hm : Managed c) (insId : Int) : Forced (c.separateInstance insId) := by
  apply separateInstance_rule
  · exact fun _ => h
  · intro r hr _ id hid
    have hself := congrArg ManagedInstance.status
      (obj_modifyObj_self (hm hr).1 (·.updateInstanceStatus .inactive))
    rcases List.mem_insert_iff.mp hid with rfl | hid
    · refine ⟨r, (hm hr).2 ▸ hr, fun hs => ?_⟩
      exact (nomatch hself.symm.trans hs)
    · exact h.setStatus hm hr (InsStatus.noConfusion : InsStatus.inactive ≠ .active) id hid
  · intro r hr hs id hid
    rcases List.mem_insert_iff.mp hid with rfl | hid
    · exact ⟨r, (hm hr).2 ▸ hr, hs⟩
    · exact h id hid

theorem Forced.recoverInstance (h : Forced c) (insId : Int) : Forced (c.recoverInstance insId) := by
  unfold Controller.recoverInstance
  split
  · exact h
  · exact h.frame (fun id hid => (List.mem_filter.mp hid).1) fun _ hr hs => ⟨hr, hs⟩

theorem forced_restoreInstances {xs : List ManagedInstance} (hids : (xs.map (·.id)).Nodup)
    (h : ∀ id ∈ c.forcedSeparatedInstances, ∃ x ∈ xs, x.id = id ∧ x.status ≠ .active) :
    Forced (c.restoreInstances timestamp xs) := by
  intro id hid
  replace hid : id ∈ c.forcedSeparatedInstances := by
    simpa [restoreInstances] using hid
  obtain ⟨x, hx, rfl, hs⟩ := h id hid
  have hmem : ∃ r, (c.restoreInstances timestamp xs).instances.get? x.id = some r ∧
      (c.restoreInstances timestamp xs).obj r = maybeRefreshHeartbeat timestamp x :=
    get?_foldl_restoreInstance_mem hids hx
  obtain ⟨r, hr, hobj⟩ := hmem
  refine ⟨r, hr, fun hactive => hs ?_⟩
  rw [← status_maybeRefreshHeartbeat timestamp x]
  exact (congrArg ManagedInstance.status hobj).symm.trans hactive

end Controller

namespace ControllerProcess

variable {p : ControllerProcess}

theorem forced_assembler (hp : ProcessInv p) (h : Controller.Forced p.controller) {event : Event}
    (he : event.OfAssembler) : Controller.Forced (p.step event).controller := by
  have hI : Controller.Managed (p.step event).controller ∧ Controller.Forced (p.step event).controller := by
    apply assembler_closure (I := fun c => Controller.Managed c ∧ Controller.Forced c) _ _ _ hp ⟨fun hr => hp.managed hr, h⟩ he
    · rintro c x ⟨hm, hc⟩
      refine ⟨fun hr => ?_, hc.create hm x⟩
      rw [Controller.length_create, Controller.obj_create_old (hm hr).1]
      exact ⟨Nat.lt_succ_of_lt (hm hr).1, (hm hr).2⟩
    · rintro c r f hf - ⟨hm, hc⟩
      refine ⟨fun {id r'} hr => ?_, hc.modifyObj (fun x => ?_) r⟩
      · rw [Controller.length_modifyObj, (rebuilds_obj hf c r r').2.2]
        exact hm hr
      · obtain ⟨endpoints, nodeManagers, hx⟩ := hf x
        rw [hx]
    · rintro c timestamp r hlt - - ⟨hm, hc⟩
      refine ⟨fun {id r'} hr => ?_, hc.addInstance timestamp r⟩
      rw [Controller.length_addInstance, (Controller.form_addInstance timestamp r r').id]
      rcases Controller.get?_addInstance hr with hr | ⟨rfl, rfl⟩
      · exact hm hr
      · exact ⟨hlt, rfl⟩
  exact hI.2

theorem forced_step (hp : ProcessInv p) (h : Controller.Forced p.controller) {event : Event}
    (hs : p.RestoresSeparated event) : Controller.Forced (p.step event).controller := by
  have hm : Controller.Managed p.controller := fun hr => hp.managed hr
  cases event with
  | heartbeat insId ip status => exact h.handleHeartbeat hm p.clock insId ip status
  | timeout queryStatus insId => exact h.handleTimeout hm p.clock queryStatus insId
  | separate instanceId => exact h.separateInstance hm instanceId
  | recover instanceId => exact h.recoverInstance instanceId
  | delete insId => exact h.delInstance insId
  | persistManager => exact h.frame (fun _ hid => hid) fun _ hr hs => ⟨hr, hs⟩
  | restoreManager =>
      simp only [step, restoreManager]
      split
      · exact h
      · rename_i state hstate
        have hids := Controller.nodup_ids fun e he => hp.managerData hstate (Dict.get?_eq_some_iff.mpr he)
        refine Controller.forced_restoreInstances hids fun id hid => ?_
        obtain ⟨x, hx, hactive⟩ := hs state hstate id hid
        exact ⟨x, Dict.mem_values_iff.mpr ⟨id, hx⟩, hp.managerData hstate hx, hactive⟩
  | restart =>
      intro id hid
      cases hid
  | _ => exact forced_assembler hp h trivial

theorem separationRespected_of_forced {c : Controller} (h : Controller.Forced c) : SeparationRespected c where
  inactive hid hr := by
    obtain ⟨r', hr', hs⟩ := h _ hid
    rw [hr] at hr'
    obtain rfl := Option.some.inj hr'
    exact hs
  managed hid := by
    obtain ⟨r, hr, -⟩ := h _ hid
    exact ⟨r, hr⟩
  fresh timestamp r hnone hid := by
    rw [Controller.forced_addInstance] at hid
    obtain ⟨r', hr', -⟩ := h _ hid
    rw [hnone] at hr'
    cases hr'

end ControllerProcess

end PyMotor
