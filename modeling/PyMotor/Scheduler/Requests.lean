import PyMotor.Scheduler.Lemmas.Ledger

/-!
# The requests of the scheduler

`dispatch` hands a request to its handler. `ServerMove` lists what a request can do to the pools and to the
shared memory, whatever it answers.
-/

namespace PyMotor

open Lib

inductive SchedulerRequest
  | refreshInstances (data : RefreshInstancesRequest)
  | allocateOnly (data : AllocateOnlyRequest)
  | updateWorkload (data : UpdateWorkloadRequest)

namespace SchedulerServer

def dispatch (s : SchedulerServer) : SchedulerRequest → Except PyErr SchedulerResponse × SchedulerServer
  | .refreshInstances data => s.handleRefreshInstances data
  | .allocateOnly data => s.handleAllocateOnly data
  | .updateWorkload data => s.handleUpdateWorkload data

/-- The state after a request. -/
def handle (s : SchedulerServer) (request : SchedulerRequest) : SchedulerServer := (s.dispatch request).2

/-- `start`: the first snapshot is written before any request is read. -/
def start (policy : SchedulerType) (maxEntries : Nat) : SchedulerServer :=
  { policy := policy, workloadWriter := (({ maxEntries := maxEntries } : WorkloadSharedMemoryWriter).writeSnapshot {}).2 }

/-- What a request can do. -/
inductive ServerMove (s : SchedulerServer) : SchedulerRequest → SchedulerServer → Prop
  | idle {request : SchedulerRequest} : ServerMove s request s
  /-- A refresh that raises or reports no change. -/
  | quiet (eventType : String) (instances : List Instance) (event : EventType)
      (hevent : EventType.ofString? eventType = some event) (h : (s.instanceManager.refresh event instances).1 ≠ .ok true) :
      ServerMove s (.refreshInstances ⟨eventType, instances⟩)
        { s with instanceManager := (s.instanceManager.refresh event instances).2 }
  | refreshed (eventType : String) (instances : List Instance) (event : EventType) (published : List Nat)
      (hevent : EventType.ofString? eventType = some event)
      (h : (s.instanceManager.refresh event instances).1 = .ok true)
      (hp : ∀ v ∈ published, v ∈ s.published ∨
        v = (s.workloadWriter.writeSnapshot (s.instanceManager.refresh event instances).2).2.instanceVersion) :
      ServerMove s (.refreshInstances ⟨eventType, instances⟩)
        { s with
          instanceManager := (s.instanceManager.refresh event instances).2
          workloadWriter := (s.workloadWriter.writeSnapshot (s.instanceManager.refresh event instances).2).2
          published := published }
  | workload {request : SchedulerRequest} (iid eid : Int) (m : InstanceManager)
      (hm : m = s.instanceManager ∨ ∃ change, m = s.instanceManager.updateInstanceWorkload iid eid change) :
      ServerMove s request
        { s with
          instanceManager := m
          workloadWriter := (s.workloadWriter.writeSingleEntry m iid eid).2.1 }

variable {s : SchedulerServer}

/-! ## A refresh -/

section

variable {request : RefreshInstancesRequest}

theorem handleRefreshInstances_none (h : EventType.ofString? request.eventType = none) :
    (s.handleRefreshInstances request).2 = s := by
  unfold handleRefreshInstances
  split
  · rfl
  · simp only [h]

theorem eventType_ne_empty {event : EventType} (h : EventType.ofString? request.eventType = some event) :
    request.eventType ≠ "" := by
  intro he
  rw [he] at h
  cases h

theorem handleRefreshInstances_quiet {event : EventType}
    (hevent : EventType.ofString? request.eventType = some event)
    (h : (s.instanceManager.refresh event request.instances).1 ≠ .ok true) :
    (∀ n, (s.handleRefreshInstances request).1 ≠ .ok (.refreshed n true)) ∧
    (s.handleRefreshInstances request).2 =
      { s with instanceManager := (s.instanceManager.refresh event request.instances).2 } := by
  unfold handleRefreshInstances
  rcases hr : s.instanceManager.refresh event request.instances with ⟨res, m'⟩
  rw [hr] at h
  simp only [if_neg (eventType_ne_empty hevent), hevent, hr]
  cases res with
  | error e => exact ⟨fun n hn => (nomatch hn), rfl⟩
  | ok b =>
      cases b with
      | true => exact absurd rfl h
      | false => exact ⟨fun n hn => (nomatch hn), rfl⟩

end

/-! ## The moves -/

theorem updateWorkload_eq (iid eid : Int) (change : Workload) : ∃ m,
    s.updateWorkload iid eid change = { s with instanceManager := m } ∧
      (m = s.instanceManager ∨ ∃ change, m = s.instanceManager.updateInstanceWorkload iid eid change) := by
  unfold SchedulerServer.updateWorkload
  split
  · exact ⟨_, rfl, Or.inr ⟨change, rfl⟩⟩
  · exact ⟨_, rfl, Or.inl rfl⟩

theorem move_writeSingleEntry (hi : s.instanceManager.Inv) (request : SchedulerRequest) (iid eid : Int)
    (change : Workload) :
    ServerMove s request ((s.updateWorkload iid eid change).writeSingleEntry iid eid).2 := by
  obtain ⟨m, hu, hm⟩ := updateWorkload_eq (s := s) iid eid change
  have him : m.Inv := by
    rcases hm with rfl | ⟨change', rfl⟩
    · exact hi
    · exact hi.updateInstanceWorkload iid eid change'
  have hkeep := (instanceManager_writeSingleEntry (s := { s with instanceManager := m }) him iid eid).1
  have hstate : (({ s with instanceManager := m } : SchedulerServer).writeSingleEntry iid eid).2 =
      { s with
        instanceManager := m
        workloadWriter := (s.workloadWriter.writeSingleEntry m iid eid).2.1 } := by
    unfold SchedulerServer.writeSingleEntry at hkeep ⊢
    dsimp only at hkeep ⊢
    rw [hkeep]
  rw [hu, hstate]
  exact ServerMove.workload iid eid m hm

theorem move_handleUpdateWorkload (hi : s.instanceManager.Inv) (data : UpdateWorkloadRequest) :
    ServerMove s (.updateWorkload data) (s.handleUpdateWorkload data).2 := by
  unfold handleUpdateWorkload
  split
  · rename_i iid eid _ _
    split
    · exact .idle
    · rename_i change _
      split
      · exact .idle
      · split
        · exact .idle
        · have hmove := move_writeSingleEntry hi (.updateWorkload data) iid eid change
          rcases hw : (s.updateWorkload iid eid change).writeSingleEntry iid eid with ⟨res, s'⟩
          rw [hw] at hmove
          cases res <;> exact hmove
  · exact .idle

theorem move_handleAllocateOnly (hi : s.instanceManager.Inv) (data : AllocateOnlyRequest) :
    ServerMove s (.allocateOnly data) (s.handleAllocateOnly data).2 := by
  unfold handleAllocateOnly
  split
  · rename_i iid eid _ _
    split
    · exact .idle
    · rename_i workload _
      split
      · have hmove := move_writeSingleEntry hi (.allocateOnly data) iid eid workload
        rcases hw : (s.updateWorkload iid eid workload).writeSingleEntry iid eid with ⟨res, s'⟩
        rw [hw] at hmove
        cases res <;> exact hmove
      · exact .idle
  · exact .idle

theorem move_handleRefreshInstances (data : RefreshInstancesRequest) :
    ServerMove s (.refreshInstances data) (s.handleRefreshInstances data).2 := by
  obtain ⟨eventType, instances⟩ := data
  unfold handleRefreshInstances
  split
  · exact .idle
  · cases hevent : EventType.ofString? eventType with
    | none => exact .idle
    | some event =>
        have hquiet := ServerMove.quiet (s := s) eventType instances event hevent
        have hchanged := fun published => ServerMove.refreshed (s := s) eventType instances event published hevent
        dsimp only
        rcases hr : s.instanceManager.refresh event instances with ⟨⟨e⟩ | ⟨_ | _⟩, m⟩
        · rw [hr] at hquiet
          exact hquiet (by simp)
        · rw [hr] at hquiet
          exact hquiet (by simp)
        · rw [hr] at hchanged
          dsimp only at hchanged ⊢
          rcases hw : s.workloadWriter.writeSnapshot m with ⟨⟨e⟩ | ⟨_⟩, w⟩
          · rw [hw] at hchanged
            exact hchanged s.published rfl fun v hv => Or.inl hv
          · rw [hw] at hchanged
            refine hchanged (s.published ++ [w.instanceVersion]) rfl fun v hv => ?_
            rcases List.mem_append.mp hv with hv | hv
            · exact Or.inl hv
            · exact Or.inr (List.mem_singleton.mp hv)

theorem move_handle (hi : s.instanceManager.Inv) (request : SchedulerRequest) :
    ServerMove s request (s.handle request) := by
  cases request with
  | refreshInstances data => exact move_handleRefreshInstances data
  | allocateOnly data => exact move_handleAllocateOnly hi data
  | updateWorkload data => exact move_handleUpdateWorkload hi data

theorem inv_handle (hi : s.instanceManager.Inv) (request : SchedulerRequest) :
    (s.handle request).instanceManager.Inv := by
  have hmove := move_handle hi request
  generalize s.handle request = s' at hmove ⊢
  cases hmove with
  | idle => exact hi
  | quiet _ instances event _ _ => exact hi.step (.refresh event instances)
  | refreshed _ instances event _ _ _ _ => exact hi.step (.refresh event instances)
  | workload iid eid m hm =>
      rcases hm with rfl | ⟨change, rfl⟩
      · exact hi
      · exact hi.updateInstanceWorkload iid eid change

end SchedulerServer

end PyMotor
