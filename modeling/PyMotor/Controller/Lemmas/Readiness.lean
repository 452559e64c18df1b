import PyMotor.Controller.Lemmas.Process
import PyMotor.Controller.ProcessSpec

/-!
# Active instances are ready

The endpoints of an active instance are NORMAL as long as a heartbeat of it leaves either all of them NORMAL or one
ABNORMAL; the table has no entry for the rest.
-/

namespace PyMotor

open Lib ManagedInstance ControllerProcess

namespace ManagedInstance

variable {x : ManagedInstance} {ip : String} {timestamp : ℚ} {status : Dict Int EndpointStatus}

theorem isAllEndpointsReady_iff : x.isAllEndpointsReady = true ↔ ∀ ep ∈ x.endpointList, ep.status = .normal := by
  simp [isAllEndpointsReady]

theorem updateStatuses_ok {l : List (Int × Endpoint)} (h : ∀ e ∈ l, status.contains e.2.id)
    (eps : Dict Int Endpoint) : (updateStatuses timestamp status l eps).1 = .ok () := by
  induction l generalizing eps with
  | nil => rfl
  | cons e l ih =>
      obtain ⟨st, hst⟩ := Dict.contains_iff.mp (h e (List.mem_cons_self ..))
      simp only [updateStatuses, hst]
      exact ih (fun e' he' => h e' (List.mem_cons_of_mem _ he')) _

theorem updateStatuses_missing {l : List (Int × Endpoint)} (h : ∃ e ∈ l, status.get? e.2.id = none)
    (eps : Dict Int Endpoint) : (updateStatuses timestamp status l eps).1 = .error .keyError := by
  induction l generalizing eps with
  | nil =>
      obtain ⟨e, he, -⟩ := h
      cases he
  | cons e l ih =>
      cases hst : status.get? e.2.id with
      | none => simp [updateStatuses, hst]
      | some st =>
          obtain ⟨e', he', hmissing⟩ := h
          rcases List.mem_cons.mp he' with rfl | he'
          · rw [hst] at hmissing
            cases hmissing
          · simpa [updateStatuses, hst] using ih ⟨e', he', hmissing⟩ _

theorem get?_updateStatuses_not_mem {l : List (Int × Endpoint)} {key : Int} (h : key ∉ l.map Prod.fst)
    (eps : Dict Int Endpoint) : (updateStatuses timestamp status l eps).2.get? key = eps.get? key := by
  induction l generalizing eps with
  | nil => rfl
  | cons e l ih =>
      simp only [List.map_cons, List.mem_cons, not_or] at h
      cases hst : status.get? e.2.id with
      | none => simp [updateStatuses, hst, Dict.get?_adjust, h.1]
      | some st => simp [updateStatuses, hst, ih h.2, Dict.get?_adjust, h.1]

theorem keys_updateStatuses (l : List (Int × Endpoint)) (eps : Dict Int Endpoint) :
    (updateStatuses timestamp status l eps).2.keys = eps.keys := by
  simpa using congrArg Dict.keys (still_updateStatuses timestamp status l eps)

theorem get?_updateStatuses_mem {l : List (Int × Endpoint)} {key : Int} {ep : Endpoint} {st : EndpointStatus}
    {eps : Dict Int Endpoint} (hn : (l.map Prod.fst).Nodup) (hm : (key, ep) ∈ l) (hst : status.get? ep.id = some st)
    (hok : (updateStatuses timestamp status l eps).1 = .ok ()) :
    (updateStatuses timestamp status l eps).2.get? key =
      (eps.get? key).map fun ep => { ep with hbTimestamp := timestamp, status := st } := by
  induction l generalizing eps with
  | nil => cases hm
  | cons e l ih =>
      rw [List.map_cons, List.nodup_cons] at hn
      rcases List.mem_cons.mp hm with rfl | hm
      · simp only [updateStatuses, hst, get?_updateStatuses_not_mem hn.1, Dict.get?_adjust, if_true, Option.map_map]
        rfl
      · have hne : key ≠ e.1 := fun he => hn.1 (he ▸ List.mem_map_of_mem hm)
        cases hse : status.get? e.2.id with
        | none =>
            simp only [updateStatuses, hse] at hok
            cases hok
        | some st' =>
            simp only [updateStatuses, hse] at hok ⊢
            rw [ih hn.2 hm hok]
            simp [Dict.get?_adjust, hne]

/-- Every endpoint of the pod has the timestamp and the reported status, and nothing else of it has changed. -/
def Reported (x x' : ManagedInstance) (ip : String) (timestamp : ℚ) (status : Dict Int EndpointStatus) : Prop :=
  ∃ eps eps', x.endpoints.get? ip = some eps ∧ x'.endpoints.get? ip = some eps' ∧ eps'.keys = eps.keys ∧
    ∀ key ep, eps.get? key = some ep → ∃ st, status.get? ep.id = some st ∧
      eps'.get? key = some { ep with hbTimestamp := timestamp, status := st }

theorem updateHeartbeat_unknown (h : x.endpoints.get? ip = none) :
    x.updateHeartbeat ip timestamp status = (.ok false, x) := by
  simp [updateHeartbeat, h]

theorem updateHeartbeat_size {eps : Dict Int Endpoint} (h : x.endpoints.get? ip = some eps)
    (hlen : eps.entries.length ≠ status.entries.length) :
    x.updateHeartbeat ip timestamp status = (.ok false, x) := by
  simp [updateHeartbeat, h, hlen]

theorem updateHeartbeat_missing {eps : Dict Int Endpoint} (h : x.endpoints.get? ip = some eps)
    (hlen : eps.entries.length = status.entries.length) (hmissing : ¬ Covers x ip status) :
    (x.updateHeartbeat ip timestamp status).1 = .error .keyError := by
  have hm : ∃ e ∈ eps.entries, status.get? e.2.id = none := by
    simp only [Covers, h, Option.mem_def, Option.some.injEq, forall_eq', not_forall] at hmissing
    obtain ⟨ep, hep, hnot⟩ := hmissing
    obtain ⟨e, he, rfl⟩ := List.mem_map.mp hep
    exact ⟨e, he, Dict.contains_eq_false_iff.mp (Bool.eq_false_iff.mpr hnot)⟩
  have herr : (updateStatuses timestamp status eps.entries eps).1 = .error .keyError := updateStatuses_missing hm eps
  cases hu : updateStatuses timestamp status eps.entries eps with
  | mk res eps' =>
      rw [hu] at herr
      cases herr
      simp [updateHeartbeat, h, hlen, hu]

theorem updateHeartbeat_reported {eps : Dict Int Endpoint} (h : x.endpoints.get? ip = some eps)
    (hlen : eps.entries.length = status.entries.length) (hcovers : Covers x ip status) :
    (x.updateHeartbeat ip timestamp status).1 = .ok true ∧
      Reported x (x.updateHeartbeat ip timestamp status).2 ip timestamp status := by
  have hok : (updateStatuses timestamp status eps.entries eps).1 = .ok () :=
    updateStatuses_ok (fun e he => hcovers eps h e.2 (List.mem_map_of_mem he)) eps
  have hvalue : ∀ key ep, eps.get? key = some ep → ∃ st, status.get? ep.id = some st ∧
      (updateStatuses timestamp status eps.entries eps).2.get? key =
        some { ep with hbTimestamp := timestamp, status := st } := by
    intro key ep hep
    have hmem := Dict.get?_eq_some_iff.mp hep
    obtain ⟨st, hst⟩ := Dict.contains_iff.mp (hcovers eps h ep (List.mem_map_of_mem hmem))
    refine ⟨st, hst, ?_⟩
    rw [get?_updateStatuses_mem eps.nodup hmem hst hok, hep]
    rfl
  have hkeys : (updateStatuses timestamp status eps.entries eps).2.keys = eps.keys := keys_updateStatuses _ eps
  cases hu : updateStatuses timestamp status eps.entries eps with
  | mk res eps' =>
      rw [hu] at hok hvalue hkeys
      cases hok
      simp only [updateHeartbeat, h, hlen, hu, ne_eq, not_true_eq_false, if_false]
      exact ⟨trivial, eps, eps', h, Dict.get?_set_self .., hkeys, hvalue⟩

theorem get?_updateHeartbeat_ne {x : ManagedInstance} {ip ip' : String} (hne : ip' ≠ ip) (timestamp : ℚ)
    (status : Dict Int EndpointStatus) :
    (x.updateHeartbeat ip timestamp status).2.endpoints.get? ip' = x.endpoints.get? ip' := by
  unfold updateHeartbeat
  split
  · rfl
  · split
    · rfl
    · split <;> exact Dict.get?_set_ne hne

theorem updateHeartbeat_taken (timestamp : ℚ) (h : ∀ eps ∈ x.endpoints.get? ip,
      eps.entries.length = status.entries.length → ∀ ep ∈ eps.values, status.contains ep.id) :
    (∃ eps, x.endpoints.get? ip = some eps ∧ eps.entries.length = status.entries.length ∧
      (x.updateHeartbeat ip timestamp status).1 = .ok true ∧
      Reported x (x.updateHeartbeat ip timestamp status).2 ip timestamp status) ∨
    (¬ ∃ eps ∈ x.endpoints.get? ip, eps.entries.length = status.entries.length) ∧
      x.updateHeartbeat ip timestamp status = (.ok false, x) := by
  cases heps : x.endpoints.get? ip with
  | none => exact Or.inr ⟨fun ⟨_, he, _⟩ => (nomatch he), updateHeartbeat_unknown heps⟩
  | some eps =>
      by_cases hlen : eps.entries.length = status.entries.length
      · refine Or.inl ⟨eps, rfl, hlen, updateHeartbeat_reported heps hlen ?_⟩
        intro eps' heps'
        exact h eps' heps' (by cases heps.symm.trans heps'; exact hlen)
      · refine Or.inr ⟨?_, updateHeartbeat_size heps hlen⟩
        rintro ⟨eps', he, hlen'⟩
        cases he
        exact hlen hlen'

theorem Reported.stored {x' : ManagedInstance} (h : Reported x x' ip timestamp status) {eps : Dict Int Endpoint}
    (heps : x'.endpoints.get? ip = some eps) {ep : Endpoint} (hep : ep ∈ eps.values) :
    status.get? ep.id = some ep.status := by
  obtain ⟨old, new, hold, hnew, hkeys, hvalue⟩ := h
  obtain rfl : new = eps := Option.some.inj (hnew.symm.trans heps)
  obtain ⟨key, hkey⟩ := Dict.mem_values_iff.mp hep
  obtain ⟨ep₀, hep₀⟩ := Dict.mem_keys_iff.mp (hkeys ▸ Dict.mem_keys_iff.mpr ⟨ep, hkey⟩)
  obtain ⟨st, hst, hget⟩ := hvalue key ep₀ hep₀
  obtain rfl := Option.some.inj (hkey.symm.trans hget)
  exact hst

theorem Reported.abnormal {x' : ManagedInstance} (h : Reported x x' ip timestamp status) {eps : Dict Int Endpoint}
    (heps : x.endpoints.get? ip = some eps) {ep : Endpoint} (hep : ep ∈ eps.values)
    (hst : status.get? ep.id = some .abnormal) : x'.isHaveOneEndpointAbnormal = true := by
  obtain ⟨old, new, hold, hnew, -, hvalue⟩ := h
  obtain rfl : old = eps := Option.some.inj (hold.symm.trans heps)
  obtain ⟨key, hkey⟩ := Dict.mem_values_iff.mp hep
  obtain ⟨st, hst', hget⟩ := hvalue key ep hkey
  obtain rfl := Option.some.inj (hst'.symm.trans hst)
  refine List.any_eq_true.mpr ⟨_, List.mem_flatMap.mpr ⟨new, Dict.mem_values_iff.mpr ⟨ip, hnew⟩,
    Dict.mem_values_iff.mpr ⟨key, hget⟩⟩, ?_⟩
  simp

theorem Reported.ready {x' : ManagedInstance} (h : Reported x x' ip timestamp status) (hx : x.isAllEndpointsReady = true)
    (hother : ∀ pod ≠ ip, x'.endpoints.get? pod = x.endpoints.get? pod) {eps : Dict Int Endpoint}
    (heps : x.endpoints.get? ip = some eps) (hst : ∀ ep ∈ eps.values, status.get? ep.id = some .normal) :
    x'.isAllEndpointsReady = true := by
  rw [isAllEndpointsReady_iff] at hx ⊢
  intro ep hep
  obtain ⟨eps', heps', hep⟩ := List.mem_flatMap.mp hep
  obtain ⟨pod, hpod⟩ := Dict.mem_values_iff.mp heps'
  by_cases hip : pod = ip
  · subst hip
    obtain ⟨old, new, hold, hnew, hkeys, hvalue⟩ := h
    obtain rfl : old = eps := Option.some.inj (hold.symm.trans heps)
    obtain rfl : new = eps' := Option.some.inj (hnew.symm.trans hpod)
    obtain ⟨key, hkey⟩ := Dict.mem_values_iff.mp hep
    obtain ⟨ep₀, hep₀⟩ := Dict.mem_keys_iff.mp (hkeys ▸ Dict.mem_keys_iff.mpr ⟨ep, hkey⟩)
    obtain ⟨st, hst', hget⟩ := hvalue key ep₀ hep₀
    obtain rfl := Option.some.inj (hkey.symm.trans hget)
    exact Option.some.inj (hst'.symm.trans (hst ep₀ (Dict.mem_values_iff.mpr ⟨key, hep₀⟩)))
  · rw [hother pod hip] at hpod
    exact hx ep (List.mem_flatMap.mpr ⟨eps', Dict.mem_values_iff.mpr ⟨pod, hpod⟩, hep⟩)

theorem updateHeartbeat_wellFormed (h : WellFormed x ip status) :
    (x.updateHeartbeat ip timestamp status).1 = .ok true := by
  obtain ⟨⟨eps, heps, hlen⟩, hcovers⟩ := h
  have hok : (updateStatuses timestamp status eps.entries eps).1 = .ok () :=
    updateStatuses_ok (fun e he => hcovers eps heps e.2 (List.mem_map_of_mem he)) eps
  unfold updateHeartbeat
  replace heps : x.endpoints.get? ip = some eps := heps
  rw [heps]
  dsimp only
  rw [if_neg (not_not.mpr hlen)]
  split
  · rename_i hu
    rw [hu] at hok
    cases hok
  · rfl

theorem ready_refreshHeartbeats (h : x.isAllEndpointsReady) :
    (x.refreshHeartbeats timestamp).isAllEndpointsReady = true := by
  rw [isAllEndpointsReady_iff] at h ⊢
  intro ep hep
  simp only [Instance.endpointList, refreshHeartbeats, Dict.values_mapValues, List.flatMap_map, List.mem_flatMap,
    List.mem_map] at hep
  obtain ⟨eps, heps, ep', hep', rfl⟩ := hep
  exact h ep' (List.mem_flatMap.mpr ⟨eps, heps, hep'⟩)

end ManagedInstance

namespace Controller

variable {c c' : Controller} {r : Ref} {id : Int} {timestamp : ℚ}

theorem conditionEvent_normal {x : ManagedInstance} (h : conditionEvent x = .instanceNormal) :
    x.isAllEndpointsReady = true := by
  unfold conditionEvent at h
  split at h
  · assumption
  · split at h <;> cases h

theorem conditionEvent_decided {x : ManagedInstance} {ip : String} {status : Dict Int EndpointStatus}
    (hx : x.isAllEndpointsReady = true)
    (h : ∀ eps ∈ x.endpoints.get? ip, eps.entries.length = status.entries.length →
      (∀ ep ∈ eps.values, status.contains ep.id) ∧ Decides eps status) :
    conditionEvent (x.updateHeartbeat ip timestamp status).2 ≠ .instanceInit := by
  have hready : ∀ y : ManagedInstance, y.isAllEndpointsReady = true → conditionEvent y ≠ .instanceInit := by
    intro y hy
    rw [conditionEvent, if_pos hy]
    exact InsConditionEvent.noConfusion
  rcases updateHeartbeat_taken timestamp (fun eps he hlen => (h eps he hlen).1) with
    ⟨eps, heps, hlen, -, hrep⟩ | ⟨-, hrefused⟩
  · rcases (h eps heps hlen).2 with hnormal | ⟨ep, hep, hst⟩
    · exact hready _ (hrep.ready hx (fun pod hne => get?_updateHeartbeat_ne hne timestamp status) heps hnormal)
    · unfold conditionEvent
      split
      · exact InsConditionEvent.noConfusion
      · rw [if_pos (hrep.abnormal heps hep hst)]
        exact InsConditionEvent.noConfusion
  · rw [hrefused]
    exact hready x hx

/-- Active instances are ready. -/
def Ready (c : Controller) : Prop :=
  ∀ id r, c.instances.get? id = some r → (c.obj r).status = .active → (c.obj r).isAllEndpointsReady = true

/-- Active instances other than `r` are ready. -/
def ReadyExcept (r : Ref) (c : Controller) : Prop :=
  ∀ id r', r' ≠ r → c.instances.get? id = some r' → (c.obj r').status = .active →
    (c.obj r').isAllEndpointsReady = true

theorem Ready.except (h : Ready c) (r : Ref) : ReadyExcept r c := fun id r' _ hr' hs => h id r' hr' hs

theorem ReadyExcept.ready (h : ReadyExcept r c)
    (hself : (c.obj r).status = .active → (c.obj r).isAllEndpointsReady = true) : Ready c := by
  intro id r' hr' hs
  by_cases he : r' = r
  · rw [he] at hs ⊢
    exact hself hs
  · exact h id r' he hr' hs

theorem ReadyExcept.modifyObj (h : ReadyExcept r c) (f : ManagedInstance → ManagedInstance) :
    ReadyExcept r (c.modifyObj r f) := by
  intro id r' hne hr' hs
  rw [obj_modifyObj_ne hne] at hs ⊢
  exact h id r' hne hr' hs

theorem ReadyExcept.setStatus (h : ReadyExcept r c) (hlt : r < c.heap.length) {status : InsStatus}
    (hs : status ≠ .active) : Ready (c.modifyObj r (·.updateInstanceStatus status)) := by
  refine (h.modifyObj _).ready fun hactive => ?_
  rw [obj_modifyObj_self hlt] at hactive
  exact absurd hactive hs

theorem Ready.delInstance (h : Ready c) (insId : Int) : Ready (c.delInstance insId) := by
  intro id r hr hs
  rw [obj_delInstance] at hs ⊢
  exact h id r ((managerStep_delInstance insId).managed hr) hs

/-- A state transition leaves an instance ACTIVE only if it is ready: to ACTIVE leads only the event that all endpoints
are normal, and from ACTIVE every other event with an entry leads away. -/
theorem ReadyExcept.transition (h : ReadyExcept r c) {event : InsConditionEvent} (hlt : r < c.heap.length)
    (hnormal : event = .instanceNormal → (c.obj r).isAllEndpointsReady = true)
    (hinit : (c.obj r).status = .active → event ≠ .instanceInit)
    (htimeout : event = .instanceHeartbeatTimeout → (c.obj r).status = .active →
      (c.obj r).isAllEndpointsReady = true)
    (ht : Transition c timestamp r event c') : Ready c' := by
  cases ht with
  | idle hidle =>
      refine h.ready fun hs => ?_
      rw [hs] at hidle
      cases event with
      | instanceNormal => exact hnormal rfl
      | instanceInit => exact absurd rfl (hinit hs)
      | instanceHeartbeatTimeout => exact htimeout rfl hs
      | instanceAbnormal =>
          rcases hidle .inactive rfl with he | he
          · cases he
          · cases he.1
  | ready _ hto _ =>
      refine (h.modifyObj (·.updateInstanceStatus .active)).ready fun _ => ?_
      rw [obj_modifyObj_self hlt]
      exact hnormal (transitions_active hto)
  | seperated _ _ => exact h.setStatus hlt (InsStatus.noConfusion : InsStatus.inactive ≠ .active)
  | refreshed hs he =>
      refine (h.modifyObj (·.refreshHeartbeats timestamp)).ready fun _ => ?_
      rw [obj_modifyObj_self hlt]
      exact ready_refreshHeartbeats (htimeout he hs)
  | initial _ _ => exact h.setStatus hlt InsStatus.noConfusion
  | deleted _ _ =>
      have hdeleted := h.setStatus hlt (InsStatus.noConfusion : InsStatus.deleted ≠ .active)
      exact Ready.delInstance (c := (c.modifyObj r (·.updateInstanceStatus .deleted)).notify r .instanceRemoved)
        hdeleted _

theorem Ready.handleHeartbeat (h : Ready c) (hm : ∀ id r, c.instances.get? id = some r → r < c.heap.length)
    {insId : Int} {ip : String} {status : Dict Int EndpointStatus}
    (hdecided : ∀ r ∈ c.instances.get? insId, ∀ eps ∈ (c.obj r).endpoints.get? ip,
      eps.entries.length = status.entries.length →
        (∀ ep ∈ eps.values, status.contains ep.id) ∧ ((c.obj r).status = .active → Decides eps status)) :
    Ready (c.handleHeartbeat timestamp insId ip status).2 := by
  apply handleHeartbeat_rule
  · exact fun _ => h
  · intro r hr hfailed
    refine ((h.except r).modifyObj _).ready fun hs => ?_
    rw [obj_modifyObj_self (hm insId r hr)] at hs ⊢
    rw [status_updateHeartbeat] at hs
    rcases updateHeartbeat_taken timestamp (fun eps he hlen => (hdecided r hr eps he hlen).1) with
      ⟨_, -, -, hok, -⟩ | ⟨-, hrefused⟩
    · exact absurd hok hfailed
    · rw [hrefused]
      exact h insId r hr hs
  · intro r c' hr _ ht
    have hself := obj_modifyObj_self (hm insId r hr) fun x => (x.updateHeartbeat ip timestamp status).2
    refine ((h.except r).modifyObj _).transition ?_ ?_ ?_ ?_ ht
    · rw [length_modifyObj]
      exact hm insId r hr
    · exact conditionEvent_normal
    · intro hs
      rw [hself] at hs ⊢
      rw [status_updateHeartbeat] at hs
      refine conditionEvent_decided (h insId r hr hs) fun eps he hlen => ?_
      exact ⟨(hdecided r hr eps he hlen).1, (hdecided r hr eps he hlen).2 hs⟩
    · intro he
      unfold conditionEvent at he
      split at he
      · cases he
      · split at he <;> cases he

theorem Ready.handleTimeout (h : Ready c) (hm : ∀ id r, c.instances.get? id = some r → r < c.heap.length)
    (queryStatus : NodeManagerInfo → QueryStatus) (insId : Int) :
    Ready (c.handleTimeout timestamp queryStatus insId) := by
  refine handleTimeout_rule h fun r c' hr _ ht => ?_
  exact (h.except r).transition (hm insId r hr) InsConditionEvent.noConfusion (fun _ => InsConditionEvent.noConfusion)
    (fun _ hs => h insId r hr hs) ht

theorem Ready.separateInstance (h : Ready c) (hm : ∀ id r, c.instances.get? id = some r → r < c.heap.length)
    (insId : Int) : Ready (c.separateInstance insId) := by
  apply separateInstance_rule
  · exact fun _ => h
  · intro r hr _
    have hforced : ReadyExcept r
        { c with forcedSeparatedInstances := c.forcedSeparatedInstances.insert (c.obj r).id } := h.except r
    exact hforced.setStatus (hm insId r hr) (InsStatus.noConfusion : InsStatus.inactive ≠ .active)
  · exact fun r _ _ => h

theorem Ready.recoverInstance (h : Ready c) (insId : Int) : Ready (c.recoverInstance insId) := by
  unfold Controller.recoverInstance
  split <;> exact h

theorem ready_restoreInstances {xs : List ManagedInstance}
    (h : ∀ x ∈ xs, x.status = .active → x.isAllEndpointsReady = true) : Ready (c.restoreInstances timestamp xs) := by
  intro id r hr hs
  rcases get?_foldl_restoreInstance hr with hr | ⟨x, hx, -, -, -, hobj⟩
  · cases hr
  · replace hobj : (c.restoreInstances timestamp xs).obj r = maybeRefreshHeartbeat timestamp x := hobj
    rw [hobj, status_maybeRefreshHeartbeat] at hs
    rw [hobj]
    unfold maybeRefreshHeartbeat
    rw [if_pos hs]
    exact ready_refreshHeartbeats (h x hx hs)

/-! ## Handling a heartbeat -/

/-- The table has an entry for what the endpoints of an instance stand for, unless it is ACTIVE and they are neither
all normal nor one abnormal, or it is DELETED. -/
theorem transitions_conditionEvent {x : ManagedInstance} (hdeleted : x.status ≠ .deleted)
    (hactive : x.status = .active → conditionEvent x ≠ .instanceInit) :
    (transitions x.status (conditionEvent x)).isSome = true := by
  have hevent : conditionEvent x ≠ .instanceHeartbeatTimeout := by
    unfold conditionEvent
    split
    · exact InsConditionEvent.noConfusion
    · split <;> exact InsConditionEvent.noConfusion
  cases hs : x.status <;> cases he : conditionEvent x <;> simp_all [transitions]

theorem handleHeartbeat_wellFormed {insId : Int} {ip : String} {status : Dict Int EndpointStatus}
    (hr : c.instances.get? insId = some r) (hlt : r < c.heap.length) (hdeleted : (c.obj r).status ≠ .deleted)
    (hwell : WellFormed (c.obj r) ip status)
    (hactive : (c.obj r).status = .active →
      conditionEvent ((c.obj r).updateHeartbeat ip timestamp status).2 ≠ .instanceInit) :
    (c.handleHeartbeat timestamp insId ip status).1 = .ok (true, 200) := by
  have hself := obj_modifyObj_self hlt fun x => (x.updateHeartbeat ip timestamp status).2
  have hstate := handleStateTransition_fst (c.modifyObj r fun x => (x.updateHeartbeat ip timestamp status).2)
    timestamp (fun _ => .normal) r none
  rw [Option.getD_none, hself, transitions_conditionEvent] at hstate
  · unfold handleHeartbeat
    rw [hr]
    dsimp only
    rw [updateHeartbeat_wellFormed hwell]
    dsimp only
    split
    · rename_i hfalse
      rw [hfalse] at hstate
      cases hstate
    · rfl
  · rw [status_updateHeartbeat]
    exact hdeleted
  · rw [status_updateHeartbeat]
    exact hactive

end Controller

namespace ControllerProcess

variable {p : ControllerProcess}

/-- The managed and the persisted instances are ready when they are active. -/
structure ReadyInv (p : ControllerProcess) : Prop where
  inv : ProcessInv p
  ready : Controller.Ready p.controller
  data : ∀ state ∈ p.managerData, ∀ x ∈ state.data.values, x.status = .active → x.isAllEndpointsReady = true

theorem readyInv_init : ReadyInv {} := ⟨processInv_init, fun _ _ h => (nomatch h), fun _ h => (nomatch h)⟩

theorem ReadyInv.assembler (h : ReadyInv p) {event : Event} (he : event.OfAssembler) :
    Controller.Ready (p.step event).controller := by
  have hI : (∀ id r, (p.step event).controller.instances.get? id = some r →
      r < (p.step event).controller.heap.length) ∧ Controller.Ready (p.step event).controller := by
    apply assembler_closure
      (I := fun c => (∀ id r, c.instances.get? id = some r → r < c.heap.length) ∧ Controller.Ready c) _ _ _ h.inv
      ⟨fun _ _ hr => (h.inv.managed hr).1, h.ready⟩ he
    · rintro c x ⟨hm, hc⟩
      refine ⟨fun id r hr => ?_, fun id r hr hs => ?_⟩
      · rw [Controller.length_create]
        exact Nat.lt_succ_of_lt (hm id r hr)
      · rw [Controller.obj_create_old (hm id r hr)] at hs ⊢
        exact hc id r hr hs
    · rintro c r f hf hne ⟨hm, hc⟩
      refine ⟨fun id r' hr' => ?_, fun id r' hr' hs => ?_⟩
      · rw [Controller.length_modifyObj]
        exact hm id r' hr'
      · rw [(rebuilds_obj hf c r r').2.1] at hs
        have hne' : r' ≠ r := by
          rintro rfl
          exact hne id hr' hs
        rw [Controller.obj_modifyObj_ne hne']
        exact hc id r' hr' hs
    · rintro c timestamp r hlt hs - ⟨hm, hc⟩
      refine ⟨fun id r' hr' => ?_, fun id r' hr' hs' => ?_⟩
      · rw [Controller.length_addInstance]
        rcases Controller.get?_addInstance hr' with hr' | ⟨-, rfl⟩
        · exact hm id r' hr'
        · exact hlt
      · rw [Controller.status_addInstance] at hs'
        have hne : r' ≠ r := by
          rintro rfl
          rw [hs] at hs'
          cases hs'
        rcases Controller.get?_addInstance hr' with hr' | ⟨-, rfl⟩
        · have hobj : (c.addInstance timestamp r).obj r' = c.obj r' := by
            unfold Controller.addInstance
            split
            · rfl
            · exact Controller.obj_modifyObj_ne (c := { c with instances := c.instances.set (c.obj r).id r }) hne _
          rw [hobj]
          exact hc id r' hr' hs'
        · exact absurd rfl hne
  exact hI.2

theorem ReadyInv.step (h : ReadyInv p) {event : Event} (hdecided : p.ActiveDecided event) : ReadyInv (p.step event) := by
  have hm : ∀ id r, p.controller.instances.get? id = some r → r < p.controller.heap.length :=
    fun _ _ hr => (h.inv.managed hr).1
  have hready : Controller.Ready (p.step event).controller := by
    cases event with
    | heartbeat insId ip status => exact h.ready.handleHeartbeat hm hdecided
    | timeout queryStatus insId => exact h.ready.handleTimeout hm queryStatus insId
    | separate instanceId => exact h.ready.separateInstance hm instanceId
    | recover instanceId => exact h.ready.recoverInstance instanceId
    | delete insId => exact h.ready.delInstance insId
    | persistManager => exact h.ready
    | restoreManager =>
        simp only [ControllerProcess.step, ControllerProcess.restoreManager]
        split
        · exact h.ready
        · rename_i state hstate
          exact Controller.ready_restoreInstances (h.data state hstate)
    | restart =>
        intro _ _ hr
        cases hr
    | _ => exact h.assembler trivial
  refine ⟨h.inv.step event, hready, ?_⟩
  by_cases he : event = .persistManager
  · subst he
    intro state hstate x hx hs
    cases hstate
    obtain ⟨id, hid⟩ := Dict.mem_values_iff.mp hx
    rw [Dict.get?_mapValues] at hid
    obtain ⟨r, hr, rfl⟩ := Option.map_eq_some_iff.mp hid
    exact h.ready id r hr hs
  · rw [managerData_step p he]
    exact h.data

theorem ReadyInv.handled (h : ReadyInv p) {event : Event} (hdecided : p.ActiveDecided event) :
    p.HeartbeatHandled event := by
  cases event with
  | heartbeat insId ip status =>
      intro r hr hdeleted hwell
      refine Controller.handleHeartbeat_wellFormed hr (h.inv.managed hr).1 hdeleted hwell fun hs => ?_
      refine Controller.conditionEvent_decided (h.ready insId r hr hs) fun eps he hlen => ?_
      exact ⟨(hdecided r hr eps he hlen).1, (hdecided r hr eps he hlen).2 hs⟩
  | _ => trivial

end ControllerProcess

end PyMotor
