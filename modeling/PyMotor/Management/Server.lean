import PyMotor.Lib.Objects
import PyMotor.Lib.Run
import PyMotor.Pool.Lemmas.Basic
import PyMotor.Scheduler.Requests

/-!
# The management process

`_handle_refresh_instances` of `motor/coordinator/api_server/management_server.py` with `refresh_instances` of
`motor/coordinator/scheduler/runtime/scheduler_client.py`. The management process has an `InstanceManager` of its own
and passes every refresh on to the scheduler process, which handles the workload requests of the workers in between.
-/

namespace PyMotor

open Lib

def EventType.value : EventType → String
  | .add => "add"
  | .del => "del"
  | .set => "set"

/-- What becomes of a REFRESH_INSTANCES request. -/
inductive RpcOutcome
  /-- There is no connection to the scheduler. -/
  | notConnected
  /-- The answer of the handler comes back, be it SUCCESS or ERROR. -/
  | answered
  /-- An ERROR comes back, and the handler has not run. -/
  | rejected
  | timeout (applied : Bool)
deriving DecidableEq, Repr

def RpcOutcome.applied : RpcOutcome → Bool
  | .notConnected | .rejected => false
  | .answered => true
  | .timeout applied => applied

structure CoordinatorProcesses where
  management : InstanceManager := {}
  scheduler : SchedulerServer := {}

namespace CoordinatorProcesses

/-- The processes as they start, with no instance in any pool. -/
def start (policy : SchedulerType) (maxEntries : Nat) : CoordinatorProcesses :=
  { scheduler := SchedulerServer.start policy maxEntries }

/-- The call of the scheduler client: what comes back is only logged. -/
def clientRefreshInstances (s : CoordinatorProcesses) (event : EventType) (instances : List Instance)
    (outcome : RpcOutcome) : CoordinatorProcesses :=
  if outcome.applied then
    { s with scheduler := (s.scheduler.handleRefreshInstances
        { eventType := event.value, instances := instances }).2 }
  else s

/-- The handler once the message is read; an exception of the local refresh is the only failure that the controller
sees. -/
def handleRefreshInstances (s : CoordinatorProcesses) (event : EventType) (instances : List Instance)
    (outcome : RpcOutcome) : Except PyErr Unit × CoordinatorProcesses :=
  let s := s.clientRefreshInstances event instances outcome
  match s.management.refresh event instances with
  | (.error e, m) => (.error e, { s with management := m })
  | (.ok _, m) => (.ok (), { s with management := m })

inductive Event
  | refresh (event : EventType) (instances : List Instance) (outcome : RpcOutcome)
  | updateWorkload (request : UpdateWorkloadRequest)
  | allocateOnly (request : AllocateOnlyRequest)

def step (s : CoordinatorProcesses) : Event → CoordinatorProcesses
  | .refresh event instances outcome => (s.handleRefreshInstances event instances outcome).2
  | .updateWorkload request => { s with scheduler := (s.scheduler.handleUpdateWorkload request).2 }
  | .allocateOnly request => { s with scheduler := (s.scheduler.handleAllocateOnly request).2 }

/-! ## Agreement -/

/-- The two processes have the same ids in their pools. -/
structure SameIds (s : CoordinatorProcesses) : Prop where
  available : ∀ id, id ∈ s.management.availablePool.keys ↔ id ∈ s.scheduler.instanceManager.availablePool.keys
  unavailable : ∀ id, id ∈ s.management.unavailablePool.keys ↔ id ∈ s.scheduler.instanceManager.unavailablePool.keys

/-- After a refresh the ids are the same, or the controller is told that it failed. -/
def Agrees (s : CoordinatorProcesses) : Event → Prop
  | .refresh event instances outcome =>
    SameIds (s.handleRefreshInstances event instances outcome).2 ∨
      ∃ e, (s.handleRefreshInstances event instances outcome).1 = .error e
  | _ => True

/-- The scheduler handles the refresh, whatever the client learns of it. -/
def Delivered : Event → Prop
  | .refresh _ _ outcome => outcome.applied = true
  | _ => True

instance (event : Event) : Decidable (Delivered event) :=
  match event with
  | .refresh _ _ outcome => inferInstanceAs (Decidable (outcome.applied = true))
  | .updateWorkload _ | .allocateOnly _ => inferInstanceAs (Decidable True)

end CoordinatorProcesses

/-!
## The two copies of the pools

The management process answers the controller from its own refresh alone, so the pools agree as long as every
refresh gets to the scheduler.
-/

/-! Two managers with the same pools do the same in a refresh. -/

namespace InstanceManager

variable {m s : InstanceManager}

/-- The managers differ at most in workloads and in the endpoint index. -/
structure Similar (m s : InstanceManager) : Prop where
  length : s.heap.length = m.heap.length
  id : ∀ r, (s.obj r).id = (m.obj r).id
  role : ∀ r, (s.obj r).role = (m.obj r).role
  available : s.availablePool = m.availablePool
  unavailable : s.unavailablePool = m.unavailablePool
  rolePool : ∀ role, s.rolePool role = m.rolePool role

theorem Similar.rfl : Similar m m := ⟨Eq.refl _, fun _ => Eq.refl _, fun _ => Eq.refl _, Eq.refl _, Eq.refl _, fun _ => Eq.refl _⟩

theorem Similar.trans {t : InstanceManager} (h : Similar m s) (h' : Similar s t) : Similar m t :=
  ⟨h'.length.trans h.length, fun r => (h'.id r).trans (h.id r), fun r => (h'.role r).trans (h.role r),
    h'.available.trans h.available, h'.unavailable.trans h.unavailable, fun role => (h'.rolePool role).trans (h.rolePool role)⟩

/-! ## Workloads -/

theorem similar_modifyObj {f : Instance → Instance} (hid : ∀ x, (f x).id = x.id) (hrole : ∀ x, (f x).role = x.role)
    (m : InstanceManager) (r : Ref) : Similar m (m.modifyObj r f) := by
  refine ⟨by simp, fun r' => ?_, fun r' => ?_, Eq.refl _, Eq.refl _, fun role => by simp⟩
  · exact Heap.read_modify_congr (g := Instance.id) hid r r'
  · exact Heap.read_modify_congr (g := Instance.role) hrole r r'

theorem similar_fillEndpointCache (m : InstanceManager) (id : Int) (r : Ref) : Similar m (m.fillEndpointCache id r) := by
  unfold fillEndpointCache
  split
  · exact Similar.rfl
  · refine ⟨Eq.refl _, fun _ => Eq.refl _, fun _ => Eq.refl _, Eq.refl _, Eq.refl _, fun role => ?_⟩
    cases role <;> exact Eq.refl _

theorem similar_updateInstanceWorkload (m : InstanceManager) (iid eid : Int) (change : Workload) :
    Similar m (m.updateInstanceWorkload iid eid change) := by
  unfold updateInstanceWorkload
  split
  · exact Similar.rfl
  · split
    · exact similar_fillEndpointCache m _ _
    · refine (similar_fillEndpointCache m _ _).trans ((similar_modifyObj ?_ ?_ _ _).trans (similar_modifyObj ?_ ?_ _ _))
      all_goals exact fun _ => Eq.refl _

theorem similar_getEndpointWorkload (m : InstanceManager) (iid eid : Int) :
    Similar m (m.getEndpointWorkload iid eid).2 := by
  unfold getEndpointWorkload
  split
  · exact Similar.rfl
  · dsimp only
    split
    · exact similar_fillEndpointCache m _ _
    · split
      · exact similar_fillEndpointCache m _ _
      · split <;> exact similar_fillEndpointCache m _ _

/-! ## Refreshes -/

theorem Similar.putAvailable (h : Similar m s) (role : PDRole) (r : Ref) :
    Similar (m.putAvailable role r) (s.putAvailable role r) := by
  refine ⟨?_, fun r' => ?_, fun r' => ?_, ?_, ?_, fun role' => ?_⟩
  · simpa using h.length
  · simpa using h.id r'
  · simpa using h.role r'
  · simp [h.available, h.id r]
  · simpa using h.unavailable
  · rw [rolePool_putAvailable, rolePool_putAvailable, h.id r, h.rolePool, h.rolePool]

theorem Similar.dropAvailable (h : Similar m s) (role : PDRole) (id : Int) :
    Similar (m.dropAvailable role id) (s.dropAvailable role id) := by
  refine ⟨?_, fun r' => ?_, fun r' => ?_, ?_, ?_, fun role' => ?_⟩
  · simpa using h.length
  · simpa using h.id r'
  · simpa using h.role r'
  · simp [h.available]
  · simpa using h.unavailable
  · rw [rolePool_dropAvailable, rolePool_dropAvailable, h.rolePool, h.rolePool]

theorem Similar.initWorkload (h : Similar m s) (r : Ref) :
    Similar (m.modifyObj r Instance.initWorkload) (s.modifyObj r Instance.initWorkload) := by
  have hm : Similar m (m.modifyObj r Instance.initWorkload) :=
    similar_modifyObj (f := Instance.initWorkload) (fun _ => Eq.refl _) (fun _ => Eq.refl _) m r
  have hs : Similar s (s.modifyObj r Instance.initWorkload) :=
    similar_modifyObj (f := Instance.initWorkload) (fun _ => Eq.refl _) (fun _ => Eq.refl _) s r
  have hboth := h.trans hs
  refine ⟨hboth.length.trans hm.length.symm, fun r' => (hboth.id r').trans (hm.id r').symm,
    fun r' => (hboth.role r').trans (hm.role r').symm, hboth.available, hboth.unavailable, hboth.rolePool⟩

/-- The two calls answer the same and leave similar managers. -/
def Alike (x y : Except PyErr Bool × InstanceManager) : Prop := y.1 = x.1 ∧ Similar x.2 y.2

theorem Similar.addInstanceToAvailablePool (h : Similar m s) (r : Ref) :
    Alike (m.addInstanceToAvailablePool r) (s.addInstanceToAvailablePool r) := by
  unfold InstanceManager.addInstanceToAvailablePool
  rw [h.role r, h.id r]
  cases PDRole.ofString? (m.obj r).role with
  | none => exact ⟨Eq.refl _, h⟩
  | some role =>
      dsimp only
      rw [h.rolePool role]
      split
      · exact ⟨Eq.refl _, h⟩
      · exact ⟨Eq.refl _, h.putAvailable role r⟩

theorem Similar.deleteInstanceFromAvailablePool (h : Similar m s) (id : Int) :
    Alike (m.deleteInstanceFromAvailablePool id) (s.deleteInstanceFromAvailablePool id) := by
  unfold InstanceManager.deleteInstanceFromAvailablePool
  rw [h.available]
  cases m.availablePool.get? id with
  | none => exact ⟨Eq.refl _, h⟩
  | some r =>
      dsimp only
      rw [h.role r]
      cases PDRole.ofString? (m.obj r).role with
      | none => exact ⟨Eq.refl _, h⟩
      | some role =>
          dsimp only
          rw [h.rolePool role]
          split
          · exact ⟨Eq.refl _, h.dropAvailable role id⟩
          · exact ⟨Eq.refl _, h⟩

theorem Similar.addInstances (h : Similar m s) (modified : Bool) (rs : List Ref) :
    Alike (addInstances modified rs m) (addInstances modified rs s) := by
  induction rs generalizing modified m s with
  | nil => exact ⟨Eq.refl _, h⟩
  | cons r rs ih =>
      simp only [InstanceManager.addInstances]
      rw [h.unavailable, h.id r]
      split
      · exact ih h modified
      · obtain ⟨hres, hsim⟩ := h.addInstanceToAvailablePool r
        revert hres hsim
        rcases m.addInstanceToAvailablePool r with ⟨res, m'⟩
        rcases s.addInstanceToAvailablePool r with ⟨res', s'⟩
        rintro hres hsim
        dsimp only at hres hsim
        subst hres
        cases res' with
        | error e => exact ⟨Eq.refl _, hsim⟩
        | ok added =>
            cases added with
            | false => exact ih hsim modified
            | true => exact ih (hsim.initWorkload r) true

theorem Similar.eraseUnavailable (h : Similar m s) (id : Int) :
    Similar { m with unavailablePool := m.unavailablePool.erase id }
      { s with unavailablePool := s.unavailablePool.erase id } := by
  refine ⟨h.length, h.id, h.role, h.available, congrArg (Dict.erase · id) h.unavailable, fun role => ?_⟩
  have hrole := h.rolePool role
  cases role <;> exact hrole

theorem Similar.deleteInstances (h : Similar m s) (modified : Bool) (rs : List Ref) :
    Alike (deleteInstances modified rs m) (deleteInstances modified rs s) := by
  induction rs generalizing modified m s with
  | nil => exact ⟨Eq.refl _, h⟩
  | cons r rs ih =>
      simp only [InstanceManager.deleteInstances]
      rw [h.id r, h.unavailable]
      split
      · have herased := h.eraseUnavailable (m.obj r).id
        rw [h.unavailable] at herased
        exact ih herased true
      · obtain ⟨hres, hsim⟩ := h.deleteInstanceFromAvailablePool (m.obj r).id
        revert hres hsim
        rcases m.deleteInstanceFromAvailablePool (m.obj r).id with ⟨res, m'⟩
        rcases s.deleteInstanceFromAvailablePool (m.obj r).id with ⟨res', s'⟩
        rintro hres hsim
        dsimp only at hres hsim
        subst hres
        cases res' with
        | error e => exact ⟨Eq.refl _, hsim⟩
        | ok deleted =>
            cases deleted with
            | false => exact ih hsim modified
            | true => exact ih hsim true

theorem Similar.computeSetDiff (h : Similar m s) (rs : List Ref) : s.computeSetDiff rs = m.computeSetDiff rs := by
  have hids : (fun r => (s.obj r).id) = fun r => (m.obj r).id := funext h.id
  have hcurrent : s.currentIds = m.currentIds := by rw [currentIds, h.available, h.unavailable, ← currentIds]
  simp only [InstanceManager.computeSetDiff, h.available, h.unavailable, hids, hcurrent]
  congr 1
  refine List.filter_congr fun r _ => ?_
  rw [h.id]

theorem Similar.applySetDiff (h : Similar m s) (rs : List Ref) : Alike (m.applySetDiff rs) (s.applySetDiff rs) := by
  unfold InstanceManager.applySetDiff
  rw [h.computeSetDiff]
  dsimp only
  split
  · exact ⟨Eq.refl _, h⟩
  · obtain ⟨hres, hsim⟩ := h.deleteInstances false (m.computeSetDiff rs).2
    revert hres hsim
    rcases InstanceManager.deleteInstances false (m.computeSetDiff rs).2 m with ⟨res, m'⟩
    rcases InstanceManager.deleteInstances false (m.computeSetDiff rs).2 s with ⟨res', s'⟩
    rintro hres hsim
    dsimp only at hres hsim
    subst hres
    cases res' with
    | error e => exact ⟨Eq.refl _, hsim⟩
    | ok deleted =>
        dsimp only
        obtain ⟨hres', hsim'⟩ := hsim.addInstances false (m.computeSetDiff rs).1
        revert hres' hsim'
        rcases InstanceManager.addInstances false (m.computeSetDiff rs).1 m' with ⟨res₁, m''⟩
        rcases InstanceManager.addInstances false (m.computeSetDiff rs).1 s' with ⟨res₂, s''⟩
        rintro hres' hsim'
        dsimp only at hres' hsim'
        subst hres'
        cases res₂ with
        | error e => exact ⟨Eq.refl _, hsim'⟩
        | ok added => exact ⟨Eq.refl _, hsim'⟩

theorem Similar.alloc (h : Similar m s) (instances : List Instance) :
    (s.alloc instances).1 = (m.alloc instances).1 ∧ Similar (m.alloc instances).2 (s.alloc instances).2 := by
  refine ⟨by simp [InstanceManager.alloc, h.length], ?_⟩
  have hobj : ∀ {α : Type} (g : Instance → α), (∀ r, g (s.obj r) = g (m.obj r)) → ∀ r,
      g ((s.alloc instances).2.obj r) = g ((m.alloc instances).2.obj r) := by
    intro α g hg r
    by_cases hr : r < m.heap.length
    · rw [obj_alloc_old (h.length ▸ hr), obj_alloc_old hr, hg]
    · simp [InstanceManager.alloc, InstanceManager.obj, h.length,
        List.getElem?_append_right (Nat.not_lt.mp hr), List.getElem?_append_right (h.length ▸ Nat.not_lt.mp hr)]
  refine ⟨by simp [InstanceManager.alloc, h.length], hobj Instance.id h.id, hobj Instance.role h.role, h.available,
    h.unavailable, fun role => ?_⟩
  have hrole := h.rolePool role
  cases role <;> exact hrole

theorem Similar.refresh (h : Similar m s) (event : EventType) (instances : List Instance) :
    Alike (m.refresh event instances) (s.refresh event instances) := by
  obtain ⟨hrefs, halloc⟩ := h.alloc instances
  unfold InstanceManager.refresh
  rw [hrefs]
  cases event with
  | add => exact halloc.addInstances false _
  | del => exact halloc.deleteInstances false _
  | set => exact halloc.applySetDiff _

end InstanceManager

open InstanceManager

namespace SchedulerServer

/-! ## The scheduler process -/

theorem similar_updateWorkload (s : SchedulerServer) (iid eid : Int) (change : Workload) :
    Similar s.instanceManager (s.updateWorkload iid eid change).instanceManager := by
  unfold updateWorkload
  split
  · exact similar_updateInstanceWorkload s.instanceManager iid eid change
  · exact Similar.rfl

theorem similar_writeSingleEntry (s : SchedulerServer) (iid eid : Int) :
    Similar s.instanceManager (s.writeSingleEntry iid eid).2.instanceManager := by
  have hread := similar_getEndpointWorkload s.instanceManager iid eid
  simp only [writeSingleEntry, WorkloadSharedMemoryWriter.writeSingleEntry]
  cases s.workloadWriter.slotMap.get? (iid, eid) with
  | none => exact Similar.rfl
  | some slot =>
      revert hread
      rcases s.instanceManager.getEndpointWorkload iid eid with ⟨_ | _ | ⟨role, workload⟩, m⟩
      · exact id
      · exact id
      · intro hread
        dsimp only
        split <;> exact hread

theorem similar_change (s : SchedulerServer) (iid eid : Int) (change : Workload) :
    Similar s.instanceManager ((s.updateWorkload iid eid change).writeSingleEntry iid eid).2.instanceManager :=
  (s.similar_updateWorkload iid eid change).trans (similar_writeSingleEntry _ iid eid)

theorem similar_handleUpdateWorkload (s : SchedulerServer) (request : UpdateWorkloadRequest) :
    Similar s.instanceManager (s.handleUpdateWorkload request).2.instanceManager := by
  unfold handleUpdateWorkload
  split
  · next iid eid _ _ =>
      split
      · exact Similar.rfl
      · next change _ =>
          have hchange := s.similar_change iid eid change
          split
          · exact Similar.rfl
          · split
            · exact Similar.rfl
            · split <;> next heq => rw [heq] at hchange; exact hchange
  · exact Similar.rfl

theorem similar_handleAllocateOnly (s : SchedulerServer) (request : AllocateOnlyRequest) :
    Similar s.instanceManager (s.handleAllocateOnly request).2.instanceManager := by
  unfold handleAllocateOnly
  split
  · next iid eid _ _ =>
      split
      · exact Similar.rfl
      · next workload _ =>
          have hchange := s.similar_change iid eid workload
          split
          · split <;> next heq => rw [heq] at hchange; exact hchange
          · exact Similar.rfl
  · exact Similar.rfl

theorem instanceManager_handleRefreshInstances (s : SchedulerServer) (event : EventType) (instances : List Instance) :
    (s.handleRefreshInstances { eventType := event.value, instances := instances }).2.instanceManager =
      (s.instanceManager.refresh event instances).2 := by
  have hne : event.value ≠ "" := by cases event <;> decide
  have hof : EventType.ofString? event.value = some event := by cases event <;> rfl
  simp only [handleRefreshInstances, if_neg hne, hof]
  rcases s.instanceManager.refresh event instances with ⟨_ | changed, m⟩
  · rfl
  · cases changed with
    | false => rfl
    | true =>
        dsimp only
        split <;> rfl

end SchedulerServer

namespace CoordinatorProcesses

/-! ## Both processes -/

variable {s : CoordinatorProcesses}

/-- The pools of the management process are those of the scheduler. -/
def InStep (s : CoordinatorProcesses) : Prop := Similar s.management s.scheduler.instanceManager

theorem InStep.sameIds (h : s.InStep) : s.SameIds := by
  refine ⟨fun id => ?_, fun id => ?_⟩
  · rw [h.available]
  · rw [h.unavailable]

theorem management_handleRefreshInstances (s : CoordinatorProcesses) (event : EventType) (instances : List Instance)
    (outcome : RpcOutcome) :
    (s.handleRefreshInstances event instances outcome).2.management = (s.management.refresh event instances).2 := by
  have hkept : (s.clientRefreshInstances event instances outcome).management = s.management := by
    unfold clientRefreshInstances
    split <;> rfl
  simp only [handleRefreshInstances, hkept]
  rcases s.management.refresh event instances with ⟨_ | _, m⟩ <;> rfl

theorem scheduler_handleRefreshInstances (s : CoordinatorProcesses) (event : EventType) (instances : List Instance)
    (outcome : RpcOutcome) :
    (s.handleRefreshInstances event instances outcome).2.scheduler =
      (s.clientRefreshInstances event instances outcome).scheduler := by
  simp only [handleRefreshInstances]
  rcases (s.clientRefreshInstances event instances outcome).management.refresh event instances with ⟨_ | _, m⟩ <;> rfl

theorem InStep.handleRefreshInstances (h : s.InStep) (event : EventType) (instances : List Instance)
    {outcome : RpcOutcome} (happlied : outcome.applied = true) :
    (s.handleRefreshInstances event instances outcome).2.InStep := by
  have hrefresh := (Similar.refresh h event instances).2
  rw [InStep, management_handleRefreshInstances, scheduler_handleRefreshInstances, clientRefreshInstances,
    if_pos happlied]
  rw [← s.scheduler.instanceManager_handleRefreshInstances event instances] at hrefresh
  exact hrefresh

theorem InStep.step (h : s.InStep) (event : Event) (hd : Delivered event) : (s.step event).InStep := by
  cases event with
  | refresh event instances outcome => exact h.handleRefreshInstances event instances hd
  | updateWorkload request => exact InstanceManager.Similar.trans h (s.scheduler.similar_handleUpdateWorkload request)
  | allocateOnly request => exact InstanceManager.Similar.trans h (s.scheduler.similar_handleAllocateOnly request)

theorem InStep.agrees (h : s.InStep) (event : Event) (hd : Delivered event) : s.Agrees event := by
  cases event with
  | refresh event instances outcome => exact Or.inl (h.handleRefreshInstances event instances hd).sameIds
  | updateWorkload request => trivial
  | allocateOnly request => trivial

end CoordinatorProcesses

end PyMotor

namespace PyMotor.CoordinatorProcesses

open Lib

/-- In every run in which the scheduler handles the refreshes, with any workload requests in between, the ids agree
after each refresh. -/
theorem processes_agree (policy : SchedulerType) (maxEntries : Nat) (events : List Event)
    (h : ∀ event ∈ events, Delivered event) : Along step Agrees (start policy maxEntries) events := by
  refine along_of_invariant (I := InStep) ?_ ?_ InstanceManager.Similar.rfl (along_of_forall h)
  · intro s event hi hd
    exact hi.step event hd
  · intro s event hi hd
    exact hi.agrees event hd

/-- A prefill instance with one endpoint. -/
def prefillOne : Instance :=
  { id := 1
    role := "prefill"
    endpoints := .single "pod" (.single 0 { id := 7 }) }

/-- An answer, an allocation, a timeout after the scheduler has refreshed, and an ADD whose second role is unknown. -/
theorem processes_agree_interleaved :
    Along step Agrees (start .loadBalance 8)
      [.refresh .add [prefillOne] .answered,
        .allocateOnly { instanceId := some 1, endpointId := some 7, workload := some ⟨2, 3⟩ },
        .refresh .set [{ id := 2, role := "decode" }] (.timeout true),
        .refresh .del [prefillOne] .answered,
        .refresh .add [prefillOne, { id := 3, role := "router" }] .answered] :=
  processes_agree .loadBalance 8 _ (by decide)

/-- An ADD that is lost on the way to the scheduler: the controller reads success, and only the management process has
the instance. -/
theorem not_processes_agree_lost : ¬ ∀ policy maxEntries events, Along step Agrees (start policy maxEntries) events := by
  intro h
  rcases (h .loadBalance 8 [.refresh .add [prefillOne] (.timeout false)]).1 with hsame | ⟨e, he⟩
  · exact absurd ((hsame.available 1).mp (by decide)) (by decide)
  · have hok : (handleRefreshInstances (start .loadBalance 8) .add [prefillOne] (.timeout false)).1 = .ok () := rfl
    rw [hok] at he
    cases he

end PyMotor.CoordinatorProcesses
