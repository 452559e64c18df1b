import PyMotor.Scheduler.Lemmas.Ledger
import PyMotor.Scheduler.Lemmas.Snapshot

/-!
# One allocation of the scheduler

ALLOCATE_ONLY on a known endpoint adds the workload to the total and answers with the endpoint, provided
the shared memory can be written; on an unknown one it does nothing and says so.
-/

namespace PyMotor

open Lib

variable {m : InstanceManager} {s : SchedulerServer}

theorem InstanceManager.hasInstanceEndpoint_iff {iid eid : Int} : m.hasInstanceEndpoint iid eid = true ↔
    ∃ r, m.availablePool.get? iid = some r ∧ (m.endpointCache iid r).contains eid = true := by
  unfold hasInstanceEndpoint
  cases m.availablePool.get? iid with
  | none => simp
  | some r => simp

theorem InstanceManager.Inv.totalWorkload_updateInstanceWorkload (hi : m.Inv) {iid eid : Int}
    (h : m.hasInstanceEndpoint iid eid = true) (change : Workload) :
    (m.updateInstanceWorkload iid eid change).totalWorkload = m.totalWorkload + change := by
  rcases hi.updateInstanceWorkload_cases iid eid change with ⟨hno, _⟩ | ⟨r, a, ep, _, ha, _, _, hat, _, he⟩
  · rw [h] at hno; cases hno
  · have hr := (hi.available ha).1
    rw [he]
    unfold totalWorkload
    -- Only the object under `iid` changes, and it is under no other id.
    rw [Dict.sum_values_congr_except (g := fun x => ((m.obj x).endpointList.map Endpoint.workload).sum)
      (show ((m.modifyObj r _).modifyObj r _).availablePool.get? iid = some r from ha)]
    · rw [obj_modifyObj_self (by simpa using hr), obj_modifyObj_self hr,
        Instance.sum_workload_addEndpointWorkload ((m.obj r).addGathered change) hat]
      have hg : ((m.obj r).addGathered change).endpointList = (m.obj r).endpointList := rfl
      rw [hg, add_sub_cancel_left]
      rfl
    · intro k x hk hx
      have hne : x ≠ r := by
        rintro rfl
        have hx' : m.availablePool.get? k = some x := hx
        exact hk ((hi.available hx').2.1.symm.trans (hi.available ha).2.1)
      rw [obj_modifyObj_ne hne, obj_modifyObj_ne hne]

/-! ## The answer -/

theorem InstanceManager.Inv.getEndpointWorkload_some (hi : m.Inv) {iid eid : Int}
    (h : m.hasInstanceEndpoint iid eid = true) :
    ∃ role workload, m.getEndpointWorkload iid eid = (.ok (some (role, workload)), m) := by
  obtain ⟨r, ha, hc⟩ := hasInstanceEndpoint_iff.mp h
  obtain ⟨_, _, role, hrole, _⟩ := hi.available ha
  obtain ⟨a, ha'⟩ := Dict.contains_iff.mp hc
  have hne : (m.obj r).role ≠ "" := by
    intro he
    rw [he] at hrole
    cases hrole
  unfold getEndpointWorkload
  simp only [ha, ha', hi.fillEndpointCache ha, hne, ↓reduceIte, hrole]
  exact ⟨role, _, rfl⟩

theorem InstanceManager.Inv.fits_of_hasInstanceEndpoint (hi : m.Inv)
    (hf : ∀ role, ∀ r ∈ (m.rolePool role).values, (m.obj r).FitsShm) {iid eid : Int}
    (h : m.hasInstanceEndpoint iid eid = true) : FitsInt32 iid ∧ FitsInt32 eid := by
  obtain ⟨r, ha, hc⟩ := hasInstanceEndpoint_iff.mp h
  obtain ⟨_, hid, role, _, hp⟩ := hi.available ha
  obtain ⟨hfid, hfeps⟩ := hf role r (Dict.mem_values_iff.mpr ⟨iid, hp⟩)
  rw [hi.endpointCache ha] at hc
  obtain ⟨a, ha'⟩ := Dict.contains_iff.mp hc
  obtain ⟨_, ep, hat, heid⟩ := buildEndpointCache_get? ha'
  exact ⟨hid ▸ hfid, heid ▸ hfeps ep (Instance.mem_endpointList_iff.mpr ⟨_, _, hat⟩)⟩

theorem SchedulerServer.writeSingleEntry_ok (hi : s.instanceManager.Inv) (hf : s.WriteFits) {iid eid : Int}
    (h : s.instanceManager.hasInstanceEndpoint iid eid = true) : (s.writeSingleEntry iid eid).1 = .ok () := by
  unfold SchedulerServer.writeSingleEntry WorkloadSharedMemoryWriter.writeSingleEntry
  cases s.workloadWriter.slotMap.get? (iid, eid) with
  | none =>
      obtain ⟨w', hw, -⟩ := WorkloadSharedMemoryWriter.writeSnapshot_spec
        (fun entry he => InstanceManager.workloadEntries_fit hf.rolePool entry (List.mem_of_mem_take he)) hf.sequence
        hf.maxEntries
      simp only [hw]
  | some slot =>
      obtain ⟨role, workload, hget⟩ := hi.getEndpointWorkload_some h
      have hpack : packEntry ⟨iid, eid, pdroleToShmRole role, workload.activeTokens, workload.activeKvCache⟩ =
          .ok _ :=
        WorkloadSharedMemoryWriter.packEntry_fits (hi.fits_of_hasInstanceEndpoint hf.rolePool h)
      obtain ⟨heartbeat, hh⟩ := WorkloadSharedMemoryWriter.writeHeader_spec
        (w := { s.workloadWriter with
          bufEntries := s.workloadWriter.bufEntries.set slot
            ⟨iid, eid, pdroleToShmRole role, workload.activeTokens, workload.activeKvCache⟩
          sequence := s.workloadWriter.sequence + 1 })
        hf.sequence hf.entryCount hf.maxEntries
      simp only [hget, WorkloadSharedMemoryWriter.writeEntryAtSlot, hpack, hh]

theorem SchedulerServer.findEndpoint_some {inst : Instance} {eid : Int}
    (h : ∃ ep ∈ inst.endpointList, ep.id = eid) : ∃ ep, findEndpoint inst eid = some ep := by
  -- Once found, an endpoint is kept or replaced by another one.
  have keep : ∀ (pods : List (Dict Int Endpoint)) (found : Option Endpoint), found.isSome →
      (pods.foldl (fun found eps => (eps.values.find? fun ep => ep.id = eid).or found) found).isSome := by
    intro pods
    induction pods with
    | nil => exact fun found hf => hf
    | cons eps pods ih =>
        intro found hf
        refine ih _ ?_
        rw [Option.isSome_or, hf, Bool.or_true]
  have find : ∀ (pods : List (Dict Int Endpoint)) (found : Option Endpoint),
      (∃ eps ∈ pods, ∃ ep ∈ eps.values, ep.id = eid) →
      (pods.foldl (fun found eps => (eps.values.find? fun ep => ep.id = eid).or found) found).isSome := by
    intro pods
    induction pods with
    | nil => rintro found ⟨eps, hm, _⟩; cases hm
    | cons eps pods ih =>
        rintro found ⟨eps', hm, ep, hep, hid⟩
        rcases List.mem_cons.mp hm with rfl | hm
        · refine keep pods _ ?_
          rw [Option.isSome_or, List.find?_isSome.mpr ⟨ep, hep, by simpa using hid⟩, Bool.true_or]
        · exact ih _ ⟨eps', hm, ep, hep, hid⟩
  obtain ⟨ep, hep, hid⟩ := h
  obtain ⟨eps, heps, hep'⟩ := List.mem_flatMap.mp hep
  exact Option.isSome_iff_exists.mp (find _ none ⟨eps, heps, ep, hep', hid⟩)

theorem SchedulerServer.foldl_placeIn {iid eid : Int} {role : PDRole} {r : Ref} {ep : Endpoint}
    (hp : (m.rolePool role).get? iid = some r) (hep : findEndpoint (m.obj r) eid = some ep)
    {roles : List PDRole} {found : Option (Instance × Option Endpoint)}
    (h : role ∈ roles ∨ ∃ inst ep, found = some (inst, some ep)) :
    ∃ inst ep, roles.foldl (placeIn m iid eid) found = some (inst, some ep) := by
  induction roles generalizing found with
  | nil =>
      rcases h with h | h
      · cases h
      · exact h
  | cons role' roles ih =>
      refine ih ?_
      rcases h with h | ⟨inst, ep', rfl⟩
      · rcases List.mem_cons.mp h with rfl | h
        · -- The pool that holds the available object.
          right
          unfold placeIn
          split
          · exact ⟨_, _, rfl⟩
          · simp only [hp, hep]
            exact ⟨_, _, rfl⟩
        · exact Or.inl h
      · exact Or.inr ⟨inst, ep', rfl⟩

theorem SchedulerServer.findPlaced_some (hi : m.Inv) {iid eid : Int} (h : m.hasInstanceEndpoint iid eid = true) :
    ∃ inst ep, findPlaced m iid eid = some (inst, some ep) := by
  obtain ⟨r, ha, hc⟩ := InstanceManager.hasInstanceEndpoint_iff.mp h
  obtain ⟨_, _, role, _, hp⟩ := hi.available ha
  rw [hi.endpointCache ha] at hc
  obtain ⟨a, ha'⟩ := Dict.contains_iff.mp hc
  obtain ⟨_, ep', hat, heid⟩ := InstanceManager.buildEndpointCache_get? ha'
  obtain ⟨ep, hep⟩ := findEndpoint_some ⟨ep', Instance.mem_endpointList_iff.mpr ⟨_, _, hat⟩, heid⟩
  refine foldl_placeIn hp hep (Or.inl ?_)
  cases role <;> decide

/-! ## The handler -/

theorem SchedulerServer.updateWorkload_total (hi : s.instanceManager.Inv) {iid eid : Int}
    (h : s.instanceManager.hasInstanceEndpoint iid eid = true) {workload : Workload}
    (hw : s.policy.hasUpdateWorkload = false → workload = 0) :
    (s.updateWorkload iid eid workload).instanceManager.totalWorkload =
      s.instanceManager.totalWorkload + workload := by
  unfold updateWorkload
  split
  · exact hi.totalWorkload_updateInstanceWorkload h workload
  · rename_i hp
    rw [hw (by simpa using hp), add_zero]

theorem InstanceManager.Inv.hasInstanceEndpoint_updateInstanceWorkload (hi : m.Inv) (iid eid : Int)
    (change : Workload) :
    (m.updateInstanceWorkload iid eid change).hasInstanceEndpoint iid eid = m.hasInstanceEndpoint iid eid := by
  obtain ⟨hav, _, hobj⟩ := hi.updateInstanceWorkload_objects iid eid change
  have hi' := hi.updateInstanceWorkload iid eid change
  unfold hasInstanceEndpoint
  cases ha : m.availablePool.get? iid with
  | none => simp only [hav, ha]
  | some r =>
      have ha' : (m.updateInstanceWorkload iid eid change).availablePool.get? iid = some r := by rw [hav, ha]
      simp only [ha', hi'.endpointCache ha', hi.endpointCache ha, (hobj r).2]

theorem InstanceManager.Inv.fitsShm_updateInstanceWorkload (hi : m.Inv)
    (hf : ∀ role, ∀ r ∈ (m.rolePool role).values, (m.obj r).FitsShm) (iid eid : Int) (change : Workload) :
    ∀ role, ∀ r ∈ ((m.updateInstanceWorkload iid eid change).rolePool role).values,
      ((m.updateInstanceWorkload iid eid change).obj r).FitsShm := by
  rcases hi.updateInstanceWorkload_cases iid eid change with ⟨_, he⟩ | ⟨x, a, _, _, ha, _, _, _, _, he⟩
  · rw [he]; exact hf
  · have hx := (hi.available ha).1
    rw [he]
    intro role r hr
    rw [rolePool_modifyObj, rolePool_modifyObj] at hr
    have hr' := hf role r hr
    by_cases hrx : r = x
    · subst hrx
      rw [obj_modifyObj_self (by simpa using hx), obj_modifyObj_self hx]
      exact Instance.ignoresWorkload_fitsShm.addEndpointWorkload _ _ _ _
        (Instance.ignoresWorkload_fitsShm.addGathered _ _ hr')
    · rw [obj_modifyObj_ne hrx, obj_modifyObj_ne hrx]
      exact hr'

theorem SchedulerServer.WriteFits.updateWorkload (hf : s.WriteFits) (hi : s.instanceManager.Inv) (iid eid : Int)
    (workload : Workload) : (s.updateWorkload iid eid workload).WriteFits := by
  unfold SchedulerServer.updateWorkload
  split
  · exact ⟨hf.sequence, hf.maxEntries, hf.entryCount,
      hi.fitsShm_updateInstanceWorkload hf.rolePool iid eid workload⟩
  · exact hf

theorem SchedulerServer.hasInstanceEndpoint_updateWorkload (hi : s.instanceManager.Inv) (iid eid : Int)
    (workload : Workload) :
    (s.updateWorkload iid eid workload).instanceManager.hasInstanceEndpoint iid eid =
      s.instanceManager.hasInstanceEndpoint iid eid := by
  unfold updateWorkload
  split
  · exact hi.hasInstanceEndpoint_updateInstanceWorkload iid eid workload
  · rfl

theorem SchedulerServer.handleAllocateOnly_unknown {iid eid : Int} {role reqId : String} {workload : Workload}
    (h : s.instanceManager.hasInstanceEndpoint iid eid = false) :
    s.handleAllocateOnly ⟨some iid, some eid, role, reqId, some workload⟩ = (.ok (.allocated none), s) := by
  simp [handleAllocateOnly, h]

theorem SchedulerServer.inv_updateWorkload (hi : s.instanceManager.Inv) (iid eid : Int) (workload : Workload) :
    (s.updateWorkload iid eid workload).instanceManager.Inv := by
  unfold updateWorkload
  split
  · exact hi.updateInstanceWorkload iid eid workload
  · exact hi

theorem SchedulerServer.writeSingleEntry_updateWorkload_ok (hi : s.instanceManager.Inv) (hf : s.WriteFits)
    {iid eid : Int} (h : s.instanceManager.hasInstanceEndpoint iid eid = true) (workload : Workload) :
    ((s.updateWorkload iid eid workload).writeSingleEntry iid eid).1 = .ok () :=
  writeSingleEntry_ok (inv_updateWorkload hi iid eid workload) (hf.updateWorkload hi iid eid workload)
    ((hasInstanceEndpoint_updateWorkload hi iid eid workload).trans h)

theorem SchedulerServer.handleAllocateOnly_placed (hi : s.instanceManager.Inv) (hf : s.WriteFits) {iid eid : Int}
    (role reqId : String) (workload : Workload) (h : s.instanceManager.hasInstanceEndpoint iid eid = true) :
    ∃ inst ep s', s.handleAllocateOnly ⟨some iid, some eid, role, reqId, some workload⟩ =
        (.ok (.allocated (some (inst, some ep))), s') ∧
      s'.policy = s.policy ∧ s'.instanceManager = (s.updateWorkload iid eid workload).instanceManager := by
  have hi' := inv_updateWorkload hi iid eid workload
  have hhas := (hasInstanceEndpoint_updateWorkload hi iid eid workload).trans h
  have hok := writeSingleEntry_updateWorkload_ok hi hf h workload
  obtain ⟨hm, hp⟩ := instanceManager_writeSingleEntry hi' iid eid
  have hpol : (s.updateWorkload iid eid workload).policy = s.policy := by
    unfold updateWorkload
    split <;> rfl
  rcases he : (s.updateWorkload iid eid workload).writeSingleEntry iid eid with ⟨res, s'⟩
  rw [he] at hok hm hp
  cases hok
  dsimp only at hm hp
  obtain ⟨inst, ep, hplaced⟩ := findPlaced_some hi' hhas
  rw [← hm] at hplaced
  refine ⟨inst, ep, s', ?_, hp.trans hpol, hm⟩
  simp [handleAllocateOnly, h, he, hplaced]

theorem SchedulerServer.handleAllocateOnly_known (hi : s.instanceManager.Inv) (hf : s.WriteFits) {iid eid : Int}
    (role reqId : String) {workload : Workload} (h : s.instanceManager.hasInstanceEndpoint iid eid = true)
    (hw : s.policy.hasUpdateWorkload = false → workload = 0) :
    ∃ inst ep s', s.handleAllocateOnly ⟨some iid, some eid, role, reqId, some workload⟩ =
        (.ok (.allocated (some (inst, some ep))), s') ∧
      s'.policy = s.policy ∧ s'.instanceManager.Inv ∧
      s'.instanceManager.totalWorkload = s.instanceManager.totalWorkload + workload := by
  obtain ⟨inst, ep, s', he, hp, hm⟩ := handleAllocateOnly_placed hi hf role reqId workload h
  refine ⟨inst, ep, s', he, hp, ?_, ?_⟩
  · rw [hm]
    exact inv_updateWorkload hi iid eid workload
  · rw [hm]
    exact updateWorkload_total hi h hw

end PyMotor
