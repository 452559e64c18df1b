import PyMotor.Scheduler.Lemmas.Snapshot
import PyMotor.Scheduler.Lemmas.Versions
import PyMotor.Scheduler.Requests

/-!
# The scheduler process

A refresh is all or nothing exactly when it meets no invalid role after a change. The workload of an
available endpoint is what has been allocated on it and not released, as long as no release reaches an
instance that was replaced after the allocation.
-/

namespace PyMotor.SchedulerServer

open Lib InstanceManager

variable {s : SchedulerServer} {request : RefreshInstancesRequest}

/-! ## Refresh -/

theorem SamePools.refl (m : InstanceManager) : SamePools m m :=
  ⟨rfl, rfl, fun _ => rfl, rfl, fun _ _ => rfl⟩

theorem workloadEntries_refresh {m : InstanceManager} (hi : Inv m) {event : EventType} {instances : List Instance}
    (hv : ¬ m.Invalid event instances) :
    (m.refresh event instances).2.workloadEntries.map WorkloadShmEntry.key = intendedKeys m event instances := by
  have hlayout : ∀ x : Instance,
      (x.endpointList.map fun ep => (x.id, ep.id)) = x.layout.map fun e => (x.id, e.2.2) := by
    intro x
    rw [Instance.layout, ← Instance.map_endpointEntries, List.map_map, List.map_map]
    rfl
  have hpool := fun role => map_rolePool_refresh (f := fun x : Instance => x.endpointList.map fun ep => (x.id, ep.id))
    (fun x y h => by rw [hlayout, hlayout, h.2.1, h.2.2.2]) hi hv role
  simp only [workloadEntries, intendedKeys, List.map_flatMap, List.map_map]
  congr 1
  funext role
  rw [List.flatMap_def, List.flatMap_def, ← hpool role]
  rfl

theorem writeSnapshot_refresh_iff {event : EventType} {instances : List Instance} (hi : Inv s.instanceManager)
    (hv : ¬ s.instanceManager.Invalid event instances) :
    (s.workloadWriter.writeSnapshot (s.instanceManager.refresh event instances).2).1 = .ok () ↔
      s.SnapshotFits event instances := by
  have hkeys := workloadEntries_refresh hi hv
  rw [WorkloadSharedMemoryWriter.writeSnapshot_ok_iff]
  have hentries : (∀ entry ∈ (s.instanceManager.refresh event instances).2.workloadEntries.take
        s.workloadWriter.maxEntries, WorkloadSharedMemoryWriter.EntryFits entry) ↔
      ∀ key ∈ (intendedKeys s.instanceManager event instances).take s.workloadWriter.maxEntries,
        FitsInt32 key.1 ∧ FitsInt32 key.2 := by
    rw [← hkeys, ← List.map_take, List.forall_mem_map]
    rfl
  rw [hentries]
  exact ⟨fun h => ⟨h.1, h.2.1, h.2.2⟩, fun h => ⟨h.sequence, h.maxEntries, h.entries⟩⟩

theorem handleRefreshInstances_true {event : EventType}
    (hevent : EventType.ofString? request.eventType = some event)
    (h : (s.instanceManager.refresh event request.instances).1 = .ok true)
    (hsnap : (s.workloadWriter.writeSnapshot (s.instanceManager.refresh event request.instances).2).1 = .ok ()) :
    (s.handleRefreshInstances request).1 = .ok (.refreshed request.instances.length true) ∧
    s.Announced (s.handleRefreshInstances request).2 := by
  obtain ⟨hseq, hmax, hfits⟩ := WorkloadSharedMemoryWriter.writeSnapshot_ok_iff.mp hsnap
  obtain ⟨w', hw, hsnap⟩ := WorkloadSharedMemoryWriter.writeSnapshot_spec hfits hseq hmax
  have hcount := hsnap.headerCount
  have hslots := hsnap.entries
  rcases hr : s.instanceManager.refresh event request.instances with ⟨res, m'⟩
  rw [hr] at h hw hcount hslots
  cases h
  unfold handleRefreshInstances
  simp only [if_neg (eventType_ne_empty hevent), hevent, hr, hw, true_and]
  refine ⟨hsnap.version, ⟨hsnap.headerVersion, ?_⟩, ?_, rfl⟩
  · simpa only [publishInstanceChanged, hsnap.maxEntries] using hcount
  · simpa only [publishInstanceChanged, hsnap.maxEntries] using hslots

theorem handleRefreshInstances_changed {event : EventType}
    (hevent : EventType.ofString? request.eventType = some event)
    (h : (s.instanceManager.refresh event request.instances).1 = .ok true) :
    (s.handleRefreshInstances request).2.instanceManager =
      (s.instanceManager.refresh event request.instances).2 ∧
    ((∃ n, (s.handleRefreshInstances request).1 = .ok (.refreshed n true)) →
      (s.workloadWriter.writeSnapshot (s.instanceManager.refresh event request.instances).2).1 = .ok ()) := by
  rcases hr : s.instanceManager.refresh event request.instances with ⟨res, m'⟩
  rw [hr] at h
  cases h
  rcases hw : s.workloadWriter.writeSnapshot m' with ⟨res, w'⟩
  unfold handleRefreshInstances
  simp only [if_neg (eventType_ne_empty hevent), hevent, hr, hw]
  cases res with
  | error e =>
      refine ⟨rfl, ?_⟩
      rintro ⟨n, hn⟩
      cases hn
  | ok u => exact ⟨rfl, fun _ => rfl⟩

theorem refreshAllOrNothing_iff_changed {event : EventType}
    (hevent : EventType.ofString? request.eventType = some event)
    (h : (s.instanceManager.refresh event request.instances).1 = .ok true) :
    s.RefreshAllOrNothing request ↔
      ¬ s.instanceManager.SamePools (s.instanceManager.refresh event request.instances).2 ∧
      (s.workloadWriter.writeSnapshot (s.instanceManager.refresh event request.instances).2).1 = .ok () := by
  obtain ⟨hm, hfails⟩ := handleRefreshInstances_changed hevent h
  unfold RefreshAllOrNothing
  rw [hm]
  constructor
  · rintro ⟨⟨hs, -⟩ | ⟨hne, hres, -⟩, hiff⟩
    · exact absurd hs ((hiff event hevent).mp h)
    · exact ⟨hne, hfails hres⟩
  · rintro ⟨hne, hsnap⟩
    obtain ⟨hres, hann⟩ := handleRefreshInstances_true hevent h hsnap
    refine ⟨Or.inr ⟨hne, ⟨_, hres⟩, hann⟩, fun event' he => ?_⟩
    rw [hevent] at he
    cases he
    exact ⟨fun _ => hne, fun _ => h⟩

theorem refreshAllOrNothing_iff_same {event : EventType}
    (hevent : EventType.ofString? request.eventType = some event)
    (h : (s.instanceManager.refresh event request.instances).1 ≠ .ok true) :
    s.RefreshAllOrNothing request ↔
      s.instanceManager.SamePools (s.instanceManager.refresh event request.instances).2 := by
  obtain ⟨hres, hstate⟩ := handleRefreshInstances_quiet hevent h
  unfold RefreshAllOrNothing
  rw [hstate]
  constructor
  · rintro ⟨⟨hs, -⟩ | ⟨-, ⟨n, hn⟩, -⟩, -⟩
    · exact hs
    · exact absurd hn (hres n)
  · intro hs
    refine ⟨Or.inl ⟨hs, rfl, rfl⟩, fun event' he => ?_⟩
    rw [hevent] at he
    cases he
    exact ⟨fun ht => absurd ht h, fun hne => absurd hs hne⟩

/-- For every reachable state and every request, a refresh is all or nothing and announced exactly when no invalid
role is met after a change, SET with a new id enters one, and what is then in the pools can be packed. -/
theorem refreshAllOrNothing_iff (ops : List Op) (policy : SchedulerType) (writer : WorkloadSharedMemoryWriter)
    (published : List Nat) (request : RefreshInstancesRequest) :
    RefreshAllOrNothing ⟨policy, run InstanceManager.step {} ops, writer, published⟩ request ↔
      RefreshSound ⟨policy, run InstanceManager.step {} ops, writer, published⟩ request := by
  have hi : Inv (run InstanceManager.step {} ops) := inv_run ops
  generalize run InstanceManager.step {} ops = m at *
  generalize hs : (⟨policy, m, writer, published⟩ : SchedulerServer) = s at *
  have hsm : s.instanceManager = m := by rw [← hs]
  rw [← hsm] at hi
  clear hs hsm
  cases hevent : EventType.ofString? request.eventType with
  | none =>
      refine ⟨fun _ event he => ?_, fun _ => ⟨Or.inl ?_, fun event he => ?_⟩⟩
      · rw [hevent] at he; cases he
      · rw [handleRefreshInstances_none hevent]
        exact ⟨SamePools.refl _, rfl, rfl⟩
      · rw [hevent] at he; cases he
  | some event =>
      have hout := refreshOutcome hi event request.instances
      have hsound : RefreshSound s request ↔
          (s.instanceManager.Invalid event request.instances → ¬ s.instanceManager.Changes event request.instances) ∧
          (¬ s.instanceManager.Invalid event request.instances →
            s.instanceManager.Announces event request.instances →
            s.instanceManager.Changes event request.instances ∧ s.SnapshotFits event request.instances) :=
        ⟨fun h => h event hevent, fun h event' he => by rw [hevent] at he; cases he; exact h⟩
      rw [hsound]
      by_cases hv : s.instanceManager.Invalid event request.instances
      · have herr : (s.instanceManager.refresh event request.instances).1 ≠ .ok true := by
          rw [hout.raises hv]
          exact fun h => (nomatch h)
        rw [refreshAllOrNothing_iff_same hevent herr, hout.samePools]
        exact ⟨fun h => ⟨fun _ => h, fun hn => absurd hv hn⟩, fun h => h.1 hv⟩
      · obtain ⟨b, hb, hann⟩ := hout.returns hv
        cases b with
        | true =>
            rw [refreshAllOrNothing_iff_changed hevent hb, hout.samePools, not_not, writeSnapshot_refresh_iff hi hv]
            exact ⟨fun h => ⟨fun hi => absurd hi hv, fun _ _ => h⟩, fun h => h.2 hv (hann.mp rfl)⟩
        | false =>
            have hquiet : ¬ s.instanceManager.Announces event request.instances := fun h => by
              have := hann.mpr h
              cases this
            have hf : (s.instanceManager.refresh event request.instances).1 ≠ .ok true := by
              rw [hb]
              exact fun h => (nomatch h)
            rw [refreshAllOrNothing_iff_same hevent hf, hout.samePools]
            exact ⟨fun _ => ⟨fun hi => absurd hi hv, fun _ h => absurd h hquiet⟩,
              fun _ h => hquiet (changes_announces h)⟩

/-- An ADD that meets an invalid role after it has entered an instance. -/
theorem not_refreshAllOrNothing_invalid_second :
    ¬ RefreshAllOrNothing ⟨.loadBalance, run InstanceManager.step {} [], {}, []⟩
      ⟨"add", [{ id := 1, role := "prefill" }, { id := 2, role := "router" }]⟩ := by
  rintro ⟨⟨hs, -⟩ | ⟨-, ⟨n, hn⟩, -⟩, -⟩
  · have h := congrArg (fun d => d.contains 1) hs.availablePool
    exact absurd h (by decide)
  · have herr : (handleRefreshInstances ⟨.loadBalance, run InstanceManager.step {} [], {}, []⟩
        ⟨"add", [{ id := 1, role := "prefill" }, { id := 2, role := "router" }]⟩).1 = .error .valueError := rfl
    rw [herr] at hn
    cases hn

end PyMotor.SchedulerServer

namespace PyMotor.AccountedServer

open Lib

/-! ## Conservation -/

/-- In every run in which no release reaches a later object than the one that was allocated on, the
workloads of the available endpoints are what has been allocated and not released. -/
theorem conserved_of_notReplaced (calls : List Call)
    (h : Along AccountedServer.step (fun s call => s.Disciplined call ∧ s.NotReplaced call) {} calls) :
    Conserved (run AccountedServer.step {} calls) := by
  have hinv := run_invariant (I := LedgerInv) (fun _ _ hi hcall => hi.step hcall.1 hcall.2) ledgerInv_init h
  exact hinv.conserved

def onePrefill : Instance :=
  { id := 1
    role := "prefill"
    endpoints := .single "pod" (.single 0 { id := 7 }) }

theorem conserved_allocate_release :
    Conserved (run AccountedServer.step {}
      [.refreshInstances ⟨"add", [onePrefill]⟩,
        .allocateOnly { instanceId := some 1, endpointId := some 7, workload := some ⟨2, 3⟩ },
        .updateWorkload 0 ⟨2, 0⟩ .roleP "r" .releaseKv]) :=
  conserved_of_notReplaced _ (by decide)

/-- A release that comes after its instance was deleted and added again makes the new workload negative. -/
theorem not_conserved_release_after_readd :
    ¬ ∀ calls, Along AccountedServer.step Disciplined {} calls →
      Conserved (run AccountedServer.step {} calls) := by
  intro h
  have hc := h
    [.refreshInstances ⟨"add", [onePrefill]⟩,
      .allocateOnly { instanceId := some 1, endpointId := some 7, workload := some ⟨0, 3⟩ },
      .refreshInstances ⟨"del", [onePrefill]⟩,
      .refreshInstances ⟨"add", [onePrefill]⟩,
      .updateWorkload 0 ⟨0, 3⟩ .roleP "r" .releaseTokens] (by decide)
  have hneg := (hc 1 2 (by decide) "pod" 0 { id := 7, workload := ⟨0, -3⟩ } (by decide +kernel)).2
  exact absurd hneg.2 (by norm_num)

end PyMotor.AccountedServer

/-!
## The instance version
-/

namespace PyMotor.SchedulerServer

open Lib InstanceManager

/-- In every run of refreshes that move instances with endpoints and of workload requests for pairs with a slot, each
request raises the instance version exactly when it changes the set of available pairs. -/
theorem version_counts_pairs (policy : SchedulerType) (maxEntries : Nat) (requests : List SchedulerRequest)
    (h : Along handle VersionSound (start policy maxEntries) requests) :
    Along handle CountsPairs (start policy maxEntries) requests :=
  along_of_invariant (I := fun s => PairsInv s.instanceManager) (fun _ _ hs hok => hs.handle hok)
    (fun _ _ hs hok => countsPairs_of_sound hs hok) pairsInv_init h

def soleInstance : Instance :=
  { id := 1
    role := "prefill"
    endpoints := .single "pod" (.single 0 { id := 7 }) }

def addSole : SchedulerRequest := .refreshInstances ⟨"add", [soleInstance]⟩

def releaseSole : SchedulerRequest :=
  .updateWorkload
    { instanceId := some 1
      endpointId := some 7
      workloadAction := "Release_Tokens"
      workloadChange := some ⟨0, -1⟩ }

theorem version_counts_pairs_sole :
    Along handle CountsPairs (start .loadBalance 4) [addSole, releaseSole] := by
  refine version_counts_pairs .loadBalance 4 _ ⟨?_, ?_, trivial⟩
  · intro event hevent
    obtain rfl : EventType.add = event := by simpa [EventType.ofString?] using hevent
    refine ⟨?_, by decide, by decide, fun _ => ⟨soleInstance, by decide, rfl, by decide⟩⟩
    rintro ⟨x, hx, hn⟩
    obtain rfl : x = soleInstance := by simpa using (List.mem_filter.1 hx).1
    cases hn
  · intro p hp
    obtain rfl : (1, 7) = p := Option.some.inj hp
    rfl

/-- A release after the instance is gone writes a snapshot, and with it a new version. -/
theorem not_version_counts_pairs_lateRelease :
    ¬ ∀ (policy : SchedulerType) (maxEntries : Nat) (requests : List SchedulerRequest),
      Along handle CountsPairs (start policy maxEntries) requests := by
  intro h
  have hrun := h .loadBalance 4 [addSole, .refreshInstances ⟨"del", [soleInstance]⟩, releaseSole]
  have hlast := hrun.2.2.1
  have hinv : Inv (((start .loadBalance 4).handle addSole).handle
      (.refreshInstances ⟨"del", [soleInstance]⟩)).instanceManager := inv_handle (inv_handle inv_init _) _
  exact hlast.1 (by decide) (availablePairs_workload hinv fun _ he => by cases he)

end PyMotor.SchedulerServer
