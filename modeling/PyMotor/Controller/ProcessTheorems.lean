import PyMotor.Controller.Lemmas.Process
import PyMotor.Controller.Lemmas.Reports
import PyMotor.Controller.Lemmas.Separation
import PyMotor.Controller.Lemmas.Silence
import PyMotor.Controller.ProcessSpec

/-!
# The controller process along its runs

The event pusher, forced separation and readiness, over every order of messages, heartbeats, timeouts and restarts. The
pusher follows the manager through every step of the process, and what the manager persists has distinct job names among
its active instances.

Of a heartbeat, the size of the reported map is checked before the loop of `update_heartbeat`, its keys only inside it: a
map of the right size without the id of an endpoint is taken up to that endpoint and then raises.
-/

namespace PyMotor

open Lib ManagedInstance ControllerProcess

/-! ## One heartbeat -/

namespace ManagedInstance

variable {x : ManagedInstance} {ip : String} {timestamp : ℚ} {status : Dict Int EndpointStatus}

/-- The heartbeat is taken and every endpoint of the pod has what it reports, or it is refused and nothing has changed;
the other pods are not touched. -/
def Atomic (x : ManagedInstance) (ip : String) (timestamp : ℚ) (status : Dict Int EndpointStatus) : Prop :=
  let res := x.updateHeartbeat ip timestamp status
  (res.1 = .ok true ∧ Reported x res.2 ip timestamp status ∨ res.1 = .ok false ∧ res.2 = x) ∧
    ∀ pod, pod ≠ ip → res.2.endpoints.get? pod = x.endpoints.get? pod

/-- A heartbeat is atomic exactly when it does not come with as many statuses as the pod has endpoints and without the
status of one of them. -/
theorem updateHeartbeat_atomic_iff (x : ManagedInstance) (ip : String) (timestamp : ℚ)
    (status : Dict Int EndpointStatus) : x.Atomic ip timestamp status ↔
      ∀ eps ∈ x.endpoints.get? ip, eps.entries.length = status.entries.length →
        ∀ ep ∈ eps.values, status.contains ep.id := by
  constructor
  · rintro ⟨hatomic, -⟩ eps heps hlen
    by_contra hnot
    have hmissing : ¬ Covers x ip status := fun hcovers => hnot (hcovers eps heps)
    rw [updateHeartbeat_missing heps hlen hmissing] at hatomic
    rcases hatomic with ⟨he, -⟩ | ⟨he, -⟩ <;> cases he
  · intro h
    refine ⟨?_, fun pod hne => get?_updateHeartbeat_ne hne timestamp status⟩
    rcases updateHeartbeat_taken timestamp h with ⟨_, -, -, hok, hrep⟩ | ⟨-, hrefused⟩
    · exact Or.inl ⟨hok, hrep⟩
    · exact Or.inr ⟨by rw [hrefused], by rw [hrefused]⟩

def twoEndpoints : ManagedInstance where
  id := 1
  role := "prefill"
  endpoints := Dict.empty.set "10.0.0.1" ((Dict.empty.set 0 { id := 0 }).set 1 { id := 1 })

/-- A heartbeat with the ids 0 and 7 sets endpoint 0 and the timestamp of endpoint 1, and raises. -/
theorem twoEndpoints_not_atomic : ¬ twoEndpoints.Atomic "10.0.0.1" 10 ((Dict.empty.set 0 .normal).set 7 .normal) ∧
    ((twoEndpoints.updateHeartbeat "10.0.0.1" 10 ((Dict.empty.set 0 .normal).set 7 .normal)).2.endpointList.map
      fun ep => (ep.hbTimestamp, ep.status)) = [(10, .normal), (10, .initial)] := by
  refine ⟨?_, by decide⟩
  rintro ⟨⟨h, -⟩ | ⟨h, -⟩, -⟩
  · exact absurd h (by decide)
  · exact absurd h (by decide)

end ManagedInstance

/-! ## The event pusher and the manager -/

namespace Controller

variable {c c' : Controller} {r : Ref} {id : Int} {timestamp : ℚ}

theorem Tracked.rebuild (h : Tracked 0 c) {f : ManagedInstance → ManagedInstance} (hf : Rebuilds f) (r : Ref) :
    Tracked 0 (c.modifyObj r f) := by
  have hkeeps : Keeps f := by
    constructor
    · intro x
      obtain ⟨endpoints, nodeManagers, hx⟩ := hf x
      rw [hx]
    · intro x
      obtain ⟨endpoints, nodeManagers, hx⟩ := hf x
      rw [hx]
    · intro x
      obtain ⟨endpoints, nodeManagers, hx⟩ := hf x
      rw [hx]
  refine h.modifyObj hkeeps ?_
  obtain ⟨endpoints, nodeManagers, hx⟩ := hf (c.obj r)
  rw [hx]

theorem Tracked.ownName_of_active (h : Tracked 0 c) (hr : c.instances.get? id = some r)
    (hs : (c.obj r).status = .active) : ControllerSystem.OwnName c r := by
  intro r' hr'
  exact Option.some.inj (hr'.symm.trans (h.ready hr hs))

theorem Tracked.ownName (h : Tracked 0 c) (hsole : ControllerProcess.SoleActive c r) :
    ControllerSystem.OwnName c r := by
  intro r' hr'
  obtain ⟨id', hid, hs, hname⟩ := h.named hr' (Nat.zero_le _)
  exact hsole r' (Dict.mem_values_iff.mpr ⟨id', hid⟩) hs hname

theorem Transition.status {event : InsConditionEvent} (hlt : r < c.heap.length)
    (ht : Transition c timestamp r event c') :
    (c'.obj r).status = (c.obj r).status ∨ transitions (c.obj r).status event = some (c'.obj r).status := by
  have hself : ∀ status, ((c.modifyObj r (·.updateInstanceStatus status)).obj r).status = status :=
    fun status => congrArg ManagedInstance.status (obj_modifyObj_self hlt (·.updateInstanceStatus status))
  cases ht with
  | idle _ => exact Or.inl rfl
  | ready _ hto _ => exact Or.inr (hto.trans (congrArg some (hself .active).symm))
  | seperated _ hto => exact Or.inr (hto.trans (congrArg some (hself .inactive).symm))
  | refreshed _ _ =>
      left
      rw [obj_modifyObj_self hlt]
      rfl
  | initial _ hto => exact Or.inr (hto.trans (congrArg some (hself .initial).symm))
  | deleted _ hto =>
      right
      rw [obj_delInstance]
      exact hto.trans (congrArg some (hself .deleted).symm)

theorem Tracked.heartbeat_apart (h : Tracked 0 c) {insId : Int} {ip : String} {status : Dict Int EndpointStatus}
    (hapart : ∀ r ∈ c.instances.get? insId, ControllerProcess.Moves (c.obj r)
      (conditionEvent ((c.obj r).updateHeartbeat ip timestamp status).2) → ControllerProcess.SoleActive c r) :
    Tracked 0 (c.handleHeartbeat timestamp insId ip status).2 := by
  refine h.handleHeartbeat timestamp insId ip status ?_
  apply handleHeartbeat_rule (P := fun c' => ∀ r, c.instances.get? insId = some r → Announced c c' r)
  · intro hnone r hr
    rw [hnone] at hr
    cases hr
  · intro r hr _ r' hr' hs hne
    obtain rfl : r = r' := Option.some.inj (hr.symm.trans hr')
    rw [obj_modifyObj_self (h.managed hr).2.1, status_updateHeartbeat] at hne
    exact absurd rfl hne
  · intro r c' hr _ ht r' hr' hs hne
    obtain rfl : r = r' := Option.some.inj (hr.symm.trans hr')
    have hlt := (h.managed hr).2.1
    have hself := obj_modifyObj_self hlt fun x => (x.updateHeartbeat ip timestamp status).2
    have hstatus := ht.status (by rw [length_modifyObj]; exact hlt)
    rw [hself, status_updateHeartbeat] at hstatus
    refine h.ownName (hapart r hr ?_)
    rcases hstatus with he | hto
    · exact absurd he hne
    · refine ⟨?_, ?_⟩
      · rw [hto]
        simpa using hs
      · rw [hto]
        exact fun he => hne (Option.some.inj he)

theorem Tracked.timeout (h : Tracked 0 c) (timestamp : ℚ) (queryStatus : NodeManagerInfo → QueryStatus) (insId : Int) :
    Tracked 0 (c.handleTimeout timestamp queryStatus insId) := by
  refine h.handleTimeout timestamp queryStatus insId ?_
  apply handleTimeout_rule (P := fun c' => ∀ r, c.instances.get? insId = some r → Announced c c' r)
  · exact fun r _ _ hne => absurd rfl hne
  · intro r c' hr _ ht r' hr' hs hne
    obtain rfl : r = r' := Option.some.inj (hr.symm.trans hr')
    -- A timeout leads to INACTIVE from ACTIVE only.
    rcases ht.status (h.managed hr).2.1 with he | hto
    · exact absurd he hne
    · refine h.ownName_of_active hr ?_
      rw [List.mem_cons, List.mem_singleton] at hs
      rcases hs with hs | hs
      · rw [hs] at hto
        cases transitions_active hto
      · rw [hs] at hto
        exact (transitions_inactive hto InsConditionEvent.noConfusion).1

theorem Tracked.separate (h : Tracked 0 c) (insId : Int) : Tracked 0 (c.separateInstance insId) := by
  refine h.separateInstance insId ?_
  apply separateInstance_rule (P := fun c' => ∀ r, c.instances.get? insId = some r → Announced c c' r)
  · exact fun _ r _ _ hne => absurd rfl hne
  · intro r hr hs r' hr' _ _
    obtain rfl : r = r' := Option.some.inj (hr.symm.trans hr')
    exact h.ownName_of_active hr hs
  · exact fun r _ _ r' _ _ hne => absurd rfl hne

theorem Tracked.nodup_names (h : Tracked 0 c) :
    ((((c.instances.mapValues c.obj).values).filter fun x => x.status = .active).map (·.jobName)).Nodup := by
  rw [Dict.values_mapValues, Dict.values, List.map_map, List.filter_map, List.map_map]
  refine List.Nodup.map_on ?_ (c.instances.nodup_entries.filter _)
  rintro ⟨id, r⟩ he ⟨id', r'⟩ he' hname
  obtain ⟨hmem, hs⟩ := List.mem_filter.mp he
  obtain ⟨hmem', hs'⟩ := List.mem_filter.mp he'
  have hr := Dict.get?_eq_some_iff.mpr hmem
  have hr' := Dict.get?_eq_some_iff.mpr hmem'
  replace hname : (c.obj r).jobName = (c.obj r').jobName := hname
  have hready := h.ready hr (by simpa using hs)
  rw [hname, h.ready hr' (by simpa using hs')] at hready
  obtain rfl := Option.some.inj hready
  rw [← (h.managed hr).2.2, (h.managed hr').2.2]

end Controller

namespace ControllerProcess

variable {p : ControllerProcess}

structure MirrorInv (p : ControllerProcess) : Prop where
  inv : ProcessInv p
  tracked : Controller.Tracked 0 p.controller
  names : ∀ state ∈ p.managerData, ((state.data.values.filter fun x => x.status = .active).map (·.jobName)).Nodup

theorem mirrorInv_init : MirrorInv {} := ⟨processInv_init, Controller.tracked_init, fun _ h => (nomatch h)⟩

theorem MirrorInv.assembler (h : MirrorInv p) {event : Event} (he : event.OfAssembler) :
    Controller.Tracked 0 (p.step event).controller := by
  apply assembler_closure (I := Controller.Tracked 0) _ _ _ h.inv h.tracked he
  · exact fun c x hc => hc.create x
  · exact fun c r f hf _ hc => hc.rebuild hf r
  · intro c timestamp r hlt hs _ hc
    refine hc.addInstance timestamp hlt ?_
    rw [hs]
    exact InsStatus.noConfusion

theorem MirrorInv.restoreManager (h : MirrorInv p) (hapart : p.JobNamesApart .restoreManager) :
    Controller.Tracked 0 p.restoreManager.controller := by
  unfold ControllerProcess.restoreManager
  split
  · exact h.tracked
  · rename_i state hstate
    have hversion : Controller.Tracked 0
        { p.controller with dataVersion := max p.controller.dataVersion state.version } :=
      ⟨h.tracked.base_le, h.tracked.managed, h.tracked.ready, h.tracked.named⟩
    have hids := Controller.nodup_ids fun e he => h.inv.managerData hstate (Dict.get?_eq_some_iff.mpr he)
    exact hversion.restoreInstances p.clock hids (h.names state hstate) (hapart state hstate)

theorem MirrorInv.step (h : MirrorInv p) {event : Event} (hapart : p.JobNamesApart event) :
    MirrorInv (p.step event) := by
  have ht := h.tracked
  have htracked : Controller.Tracked 0 (p.step event).controller := by
    cases event with
    | heartbeat insId ip status => exact ht.heartbeat_apart hapart
    | timeout queryStatus insId => exact ht.timeout p.clock queryStatus insId
    | separate instanceId => exact ht.separate instanceId
    | recover instanceId => exact ht.recoverInstance instanceId
    | delete insId =>
        cases hr : p.controller.instances.get? insId with
        | none =>
            have hc : p.controller.delInstance insId = p.controller := by
              unfold Controller.delInstance
              rw [if_neg]
              rw [Dict.contains_eq_false_iff.mpr hr]
              exact Bool.false_ne_true
            dsimp only [ControllerProcess.step]
            rw [hc]
            exact ht
        | some r => exact ht.delInstance hr (hapart r hr)
    | persistManager => exact ⟨ht.base_le, ht.managed, ht.ready, ht.named⟩
    | restoreManager => exact h.restoreManager hapart
    | restart => exact Controller.tracked_init
    | _ => exact h.assembler trivial
  refine ⟨h.inv.step event, htracked, ?_⟩
  by_cases he : event = .persistManager
  · subst he
    intro state hstate
    cases hstate
    exact ht.nodup_names
  · rw [managerData_step p he]
    exact h.names

theorem MirrorInv.pusherMirrors (h : MirrorInv p) : PusherMirrors p.controller := by
  have ht := h.tracked
  intro id
  simp only [List.mem_map, Dict.mem_values_iff, Controller.getActiveInstances, List.mem_filter, decide_eq_true_eq]
  constructor
  · rintro ⟨r, ⟨name, hn⟩, rfl⟩
    obtain ⟨id, hr, hs, -⟩ := ht.named hn (Nat.zero_le _)
    exact ⟨_, ⟨⟨r, ⟨id, hr⟩, rfl⟩, hs⟩, rfl⟩
  · rintro ⟨_, ⟨⟨r, ⟨id, hr⟩, rfl⟩, hs⟩, rfl⟩
    exact ⟨r, ⟨_, ht.ready hr hs⟩, rfl⟩

/-! ## Messages -/

def registers (dpSize : Int) (jobName podIp : String) : Event :=
  .register
    { jobName := jobName, podIp := podIp, businessPort := ["8000"], mgmtPort := ["8001"], nmPort := "9000",
      parallelConfig := .ofSizes dpSize 1, deviceNum := 1 }

def assembles (jobName : String) : Event := .assemble (fun _ => .normal) 600 jobName

def starts (jobName : String) : Event := .startCommand (fun _ => true) 3 jobName

def reports (insId : Int) (podIp : String) (endpointId : Int) (status : EndpointStatus) : Event :=
  .heartbeat insId podIp ⟨[(endpointId, status)], by simp⟩

def unreachable (insId : Int) : Event := .timeout (fun _ => .raises) insId

def oneActive (jobName podIp : String) (insId : Int) : List Event :=
  [registers 1 jobName podIp, assembles jobName, starts jobName, reports insId podIp 0 .normal]

/-! ## The event pusher -/

/-- In every run in which job names are kept apart, the pusher has exactly the ids of the active instances. -/
theorem pusher_mirrors (events : List Event) (h : Along step JobNamesApart {} events) :
    PusherMirrors (run step {} events).controller := by
  have hinv : MirrorInv (run step {} events) :=
    run_invariant (I := MirrorInv) (fun _ _ hi hs => hi.step hs) mirrorInv_init h
  exact hinv.pusherMirrors

/-- Two jobs become active, one is separated and comes back after a restore. -/
def keptApart : List Event :=
  oneActive "p" "a" 1 ++ oneActive "d" "b" 2 ++
    [.separate 1, .persistManager, .restoreManager, .recover 1, reports 1 "a" 0 .normal]

theorem pusher_mirrors_keptApart :
    Along step JobNamesApart {} keptApart ∧ PusherMirrors (run step {} keptApart).controller :=
  ⟨by decide, pusher_mirrors keptApart (by decide)⟩

/-- A job whose instance is inactive registers again. The new instance becomes active, then the old one does. -/
def sharedJobName : List Event :=
  oneActive "p" "a" 1 ++ [.tick 10, unreachable 1] ++ oneActive "p" "b" 2 ++ [reports 1 "a" 0 .normal]

/-- The pusher no longer has the new instance, which is active. -/
theorem not_pusher_mirrors : ¬ PusherMirrors (run step {} sharedJobName).controller := by
  intro h
  have hid := (h 2).mpr (by decide +kernel)
  revert hid
  decide +kernel

/-! ## Forced separation -/

/-- In every run in which the manager is restored from data that have the separated instances, none of them active,
separation is respected. -/
theorem separation_respected (events : List Event) (h : Along step RestoresSeparated {} events) :
    SeparationRespected (run step {} events).controller := by
  have hinv : ProcessInv (run step {} events) ∧ Controller.Forced (run step {} events).controller :=
    run_invariant (I := fun p => ProcessInv p ∧ Controller.Forced p.controller)
      (fun p event hi hs => ⟨hi.1.step event, forced_step hi.1 hi.2 hs⟩)
      ⟨processInv_init, fun id hid => (nomatch hid)⟩ h
  exact separationRespected_of_forced hinv.2

/-- An instance is separated before it is active, and restored as it was persisted. -/
def separatedFirst : List Event :=
  [registers 1 "p" "a", assembles "p", .separate 1, .persistManager, .restoreManager, reports 1 "a" 0 .normal]

theorem separation_respected_separatedFirst :
    Along step RestoresSeparated {} separatedFirst ∧ SeparationRespected (run step {} separatedFirst).controller :=
  ⟨by decide, separation_respected separatedFirst (by decide)⟩

/-- A new instance is separated while it is INITIAL, which is not persisted, and the manager is restored. -/
def separatedUnpersisted : List Event :=
  oneActive "p" "a" 1 ++ [.persistManager] ++ [registers 1 "d" "b", assembles "d", .separate 2, .restoreManager]

/-- The separated id belongs to no managed instance. -/
theorem not_separation_respected : ¬ SeparationRespected (run step {} separatedUnpersisted).controller := by
  intro h
  have hid : (2 : Int) ∈ (run step {} separatedUnpersisted).controller.forcedSeparatedInstances := by decide
  obtain ⟨r, hr⟩ := h.managed hid
  have hnone : (run step {} separatedUnpersisted).controller.instances.get? 2 = none := by decide
  rw [hnone] at hr
  cases hr

/-! ## Readiness -/

/-- In every run in which a heartbeat with as many statuses as its pod has endpoints has a status for each, and one of an
active instance reports them all NORMAL or one ABNORMAL, the endpoints of active instances were last reported NORMAL, and
every well-formed heartbeat is handled. -/
theorem active_normal (events : List Event)
    (h : Along ReportedProcess.step (fun s event => ActiveDecided s.process event) {} events) :
    (run ReportedProcess.step {} events).ActiveNormal ∧
      Along ReportedProcess.step (fun s event => HeartbeatHandled s.process event) {} events := by
  have hstep : ∀ (s : ReportedProcess) event, s.ReportInv → ActiveDecided s.process event → (s.step event).ReportInv :=
    fun _ _ hi hs => hi.step hs
  have hinv : (run ReportedProcess.step {} events).ReportInv := run_invariant hstep ReportedProcess.reportInv_init h
  refine ⟨hinv.activeNormal, ?_⟩
  exact along_of_invariant hstep (fun _ _ hi hs => hi.ready.handled hs) ReportedProcess.reportInv_init h

def abnormalOnce : List Event :=
  oneActive "p" "a" 1 ++ [reports 1 "a" 0 .abnormal, reports 1 "a" 0 .initial, reports 1 "a" 0 .normal, .persistManager,
    .restart, .restoreManager]

theorem active_normal_abnormalOnce :
    Along ReportedProcess.step (fun s event => ActiveDecided s.process event) {} abnormalOnce ∧
    (∃ x ∈ (run ReportedProcess.step {} abnormalOnce).process.controller.getActiveInstances, x.endpointList.length = 1) ∧
    (run ReportedProcess.step {} abnormalOnce).ActiveNormal ∧
    Along ReportedProcess.step (fun s event => HeartbeatHandled s.process event) {} abnormalOnce :=
  ⟨by decide, by decide +kernel, active_normal abnormalOnce (by decide)⟩

def initialAgain : List Event := oneActive "p" "a" 1 ++ [reports 1 "a" 0 .initial]

/-- The heartbeat fails, and the instance stays active. -/
theorem not_active_normal :
    ¬ (run ReportedProcess.step {} initialAgain).ActiveNormal ∧
    ¬ HeartbeatHandled (run step {} (oneActive "p" "a" 1)) (reports 1 "a" 0 .initial) := by
  constructor
  · intro h
    have hr : (run ReportedProcess.step {} initialAgain).process.controller.instances.get? 1 = some 0 := by decide
    have hnormal := h 1 0 hr (by decide)
    revert hnormal
    decide
  · intro h
    have hok := h 0 (by decide) (by decide) (by decide)
    revert hok
    decide

/-! ## Silent pods -/

/-- In every run in which a heartbeat of an instance that is not active finds no silent pod with an endpoint stored as
NORMAL, an instance becomes active only when all its endpoints were heard of, and a silent pod keeps it out. -/
theorem silent_kept_out (events : List Event) (h : Along HeardProcess.step HeardProcess.NormalsHeard {} events) :
    Along HeardProcess.step HeardProcess.AllHeard {} events ∧ HeardProcess.StaysOut events := by
  have hall : Along HeardProcess.step HeardProcess.AllHeard {} events :=
    along_of_invariant (I := fun s : HeardProcess => ProcessInv s.process) (fun _ event hi _ => hi.step event)
      (fun _ _ hi hs => HeardProcess.allHeard_of_normalsHeard hi hs) processInv_init h
  exact ⟨hall, HeardProcess.staysOut_of_allHeard hall⟩

def silentPod : List Event :=
  [registers 2 "p" "a", registers 2 "p" "b", assembles "p", starts "p", reports 1 "a" 0 .normal,
    reports 1 "b" 1 .normal, .tick 10, reports 1 "a" 0 .normal, unreachable 1]

/-- The silent pod reports that it is initialising before the other one is heard of again. -/
theorem silent_kept_out_initialising :
    Along HeardProcess.step HeardProcess.AllHeard {}
      (silentPod ++ [reports 1 "b" 1 .initial, reports 1 "a" 0 .normal]) ∧
    HeardProcess.StaysOut (silentPod ++ [reports 1 "b" 1 .initial, reports 1 "a" 0 .normal]) :=
  silent_kept_out _ (by decide +kernel)

/-- The heartbeat of the other pod makes the instance active, although `b` has been silent for ten seconds. -/
theorem not_silent_kept_out :
    ¬ HeardProcess.AllHeard (run HeardProcess.step {} silentPod) (reports 1 "a" 0 .normal) ∧
    ¬ HeardProcess.StaysOut (silentPod ++ [reports 1 "a" 0 .normal]) := by
  have hr : (run HeardProcess.step {} silentPod).process.controller.instances.get? 1 = some 0 := by decide +kernel
  have hsilent : ¬ (run HeardProcess.step {} silentPod).Heard 0 "b" := by decide +kernel
  constructor
  · intro h
    have hpods := h 0 ⟨⟨1, hr⟩, by decide +kernel, by decide +kernel⟩
    revert hpods
    decide +kernel
  · intro h
    refine h silentPod [reports 1 "a" 0 .normal] 1 0 "b"
      ((((run HeardProcess.step {} silentPod).process.controller.obj 0).endpoints.get? "b").getD Dict.empty) rfl hr
      (by decide +kernel) (by decide +kernel) (by decide +kernel) hsilent ?_ (by decide +kernel)
    intro event hevent
    rw [List.mem_singleton.mp hevent]
    show ¬ ((1 : Int) = 1 ∧ "a" = "b")
    decide

end ControllerProcess

end PyMotor
