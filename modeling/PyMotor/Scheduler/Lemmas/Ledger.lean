import PyMotor.Pool.Lemmas.Outcome
import PyMotor.Scheduler.Server

/-!
# Conservation of the workload

`LedgerInv` ties the workloads of the available endpoints to the ledger. A workload change that reaches
the endpoint object of an allocation keeps it; a refresh keeps it because new objects are idle.
-/

namespace PyMotor

open Lib

variable {m : InstanceManager} {s : AccountedServer}

/-! ## The handlers on the pools -/

theorem InstanceManager.Inv.updateInstanceWorkload_endpoint (hi : m.Inv) {iid eid : Int} {r : Ref}
    {target : EndpointRef} (ha : m.availablePool.get? iid = some r)
    (hc : (buildEndpointCache r (m.obj r)).get? eid = some target) (change : Workload) {x : Ref} {pod : String}
    {key : Int} {ep' : Endpoint}
    (hat : ((m.updateInstanceWorkload iid eid change).obj x).endpointAt pod key = some ep') :
    ∃ ep, (m.obj x).endpointAt pod key = some ep ∧
      ep'.workload = ep.workload + if target = ⟨x, pod, key⟩ then change else 0 := by
  have hr := (hi.available ha).1
  obtain ⟨hinst, -⟩ := buildEndpointCache_get? hc
  obtain ⟨tinst, tpod, tkey⟩ := target
  dsimp only at hinst
  subst hinst
  rcases hi.updateInstanceWorkload_cases iid eid change with ⟨hno, _⟩ | ⟨r', a, _, _, ha', hc', _, _, _, he⟩
  · -- The index knows the endpoint, so the change is made.
    simp only [hasInstanceEndpoint, ha, hi.endpointCache ha, Dict.contains_eq_false_iff] at hno
    rw [hc] at hno; cases hno
  · rw [ha] at ha'; cases ha'
    rw [hc] at hc'; cases hc'
    rw [he] at hat
    by_cases hx : x = tinst
    · subst hx
      rw [obj_modifyObj_self (by simpa using hr), obj_modifyObj_self hr,
        Instance.endpointAt_addEndpointWorkload] at hat
      split at hat
      · rename_i hk
        obtain ⟨ep, hep, rfl⟩ := Option.map_eq_some_iff.mp hat
        exact ⟨ep, hep, by simp [hk]⟩
      · rename_i hk
        refine ⟨ep', hat, ?_⟩
        rw [if_neg, add_zero]
        intro h
        cases h
        exact hk ⟨rfl, rfl⟩
    · rw [obj_modifyObj_ne hx, obj_modifyObj_ne hx] at hat
      refine ⟨ep', hat, ?_⟩
      rw [if_neg, add_zero]
      intro h
      cases h
      exact hx rfl

theorem InstanceManager.Inv.updateInstanceWorkload_objects (hi : m.Inv) (iid eid : Int) (change : Workload) :
    (m.updateInstanceWorkload iid eid change).availablePool = m.availablePool ∧
    (m.updateInstanceWorkload iid eid change).heap.length = m.heap.length ∧
    ∀ x, ((m.updateInstanceWorkload iid eid change).obj x).id = (m.obj x).id ∧
      ∀ r, buildEndpointCache r ((m.updateInstanceWorkload iid eid change).obj x) =
        buildEndpointCache r (m.obj x) := by
  rcases hi.updateInstanceWorkload_cases iid eid change with ⟨_, he⟩ | ⟨r', a, _, _, ha', _, _, _, _, he⟩
  · rw [he]; exact ⟨rfl, rfl, fun x => ⟨rfl, fun r => rfl⟩⟩
  · have hr := (hi.available ha').1
    rw [he]
    refine ⟨rfl, by simp, fun x => ⟨?_, fun r => ?_⟩⟩
    · have h₁ := obj_modifyObj_congr (f := (·.addGathered change)) (g := Instance.id) (fun _ => rfl) hr x
      exact (obj_modifyObj_congr (f := (·.addEndpointWorkload a.pod a.key change)) (g := Instance.id)
        (fun _ => rfl) (by simpa using hr) x).trans h₁
    · have h₁ := obj_modifyObj_congr (f := (·.addGathered change)) (g := buildEndpointCache r) (fun _ => rfl) hr x
      exact (obj_modifyObj_congr (g := buildEndpointCache r)
        (fun _ => buildEndpointCache_addEndpointWorkload _ _ _ _ _) (by simpa using hr) x).trans h₁

theorem SchedulerServer.instanceManager_writeSingleEntry {s : SchedulerServer} (hi : s.instanceManager.Inv)
    (iid eid : Int) : (s.writeSingleEntry iid eid).2.instanceManager = s.instanceManager ∧
      (s.writeSingleEntry iid eid).2.policy = s.policy := by
  refine ⟨?_, rfl⟩
  have hget : (s.instanceManager.getEndpointWorkload iid eid).2 = s.instanceManager := by
    unfold InstanceManager.getEndpointWorkload
    cases ha : s.instanceManager.availablePool.get? iid with
    | none => rfl
    | some r =>
        simp only [hi.fillEndpointCache ha]
        split
        · rfl
        · split
          · rfl
          · split <;> rfl
  unfold SchedulerServer.writeSingleEntry WorkloadSharedMemoryWriter.writeSingleEntry
  cases s.workloadWriter.slotMap.get? (iid, eid) with
  | none => rfl
  | some slot =>
      rcases hg : s.instanceManager.getEndpointWorkload iid eid with ⟨res, m'⟩
      rw [hg] at hget
      subst hget
      cases res with
      | error e => rfl
      | ok o =>
          cases o with
          | none => rfl
          | some p =>
              obtain ⟨role, workload⟩ := p
              dsimp only
              split <;> rfl

namespace AccountedServer

/-- The pools, the ledger, and the workloads of the available endpoints. -/
structure LedgerInv (s : AccountedServer) : Prop where
  pools : s.server.instanceManager.Inv
  policy : s.server.policy = .loadBalance
  target : ∀ a ∈ s.allocations, a.target.inst < s.server.instanceManager.heap.length ∧
    (s.server.instanceManager.obj a.target.inst).id = a.instanceId ∧
    (buildEndpointCache a.target.inst (s.server.instanceManager.obj a.target.inst)).get? a.endpointId =
      some a.target
  nonneg : ∀ a ∈ s.allocations, 0 ≤ a.outstanding
  balanced : ∀ {id r}, s.server.instanceManager.availablePool.get? id = some r →
    ∀ {pod key ep}, (s.server.instanceManager.obj r).endpointAt pod key = some ep →
      ep.workload = s.outstandingOn ⟨r, pod, key⟩

theorem ledgerInv_init : LedgerInv {} where
  pools := InstanceManager.inv_init
  policy := rfl
  target a ha := by cases ha
  nonneg a ha := by cases ha
  balanced h := by cases h

theorem LedgerInv.of_server (h : LedgerInv s) {server : SchedulerServer}
    (hm : server.instanceManager = s.server.instanceManager) (hp : server.policy = s.server.policy) :
    LedgerInv { s with server := server } where
  pools := by rw [hm]; exact h.pools
  policy := hp.trans h.policy
  target a ha := by rw [hm]; exact h.target a ha
  nonneg := h.nonneg
  balanced ha _ _ _ hat := by
    rw [hm] at ha hat
    exact h.balanced ha hat

theorem LedgerInv.change (h : LedgerInv s) {server : SchedulerServer} {allocations : List Allocation}
    {iid eid : Int} {change : Workload} {r : Ref} {target : EndpointRef}
    (ha : s.server.instanceManager.availablePool.get? iid = some r)
    (hc : (buildEndpointCache r (s.server.instanceManager.obj r)).get? eid = some target)
    (hm : server.instanceManager = s.server.instanceManager.updateInstanceWorkload iid eid change)
    (hp : server.policy = s.server.policy)
    (hallocs : ∀ a ∈ allocations, 0 ≤ a.outstanding ∧
      ((∃ a' ∈ s.allocations, a'.target = a.target ∧ a'.instanceId = a.instanceId ∧ a'.endpointId = a.endpointId) ∨
        (a.target = target ∧ a.instanceId = iid ∧ a.endpointId = eid)))
    (hsum : ∀ e, outstandingOn ⟨server, allocations⟩ e = s.outstandingOn e + if target = e then change else 0) :
    LedgerInv ⟨server, allocations⟩ := by
  obtain ⟨hav, hlen, hobj⟩ := h.pools.updateInstanceWorkload_objects iid eid change
  refine ⟨?_, hp.trans h.policy, ?_, fun a ha => (hallocs a ha).1, ?_⟩
  · rw [hm]; exact h.pools.updateInstanceWorkload iid eid change
  · intro a haa
    rw [hm, hlen, (hobj _).1, (hobj _).2]
    rcases (hallocs a haa).2 with ⟨a', ha', ht, hid, heid⟩ | ⟨ht, hid, heid⟩
    · rw [← ht, ← hid, ← heid]
      exact h.target a' ha'
    · obtain ⟨hinst, -⟩ := InstanceManager.buildEndpointCache_get? hc
      obtain ⟨hr, hrid, -⟩ := h.pools.available ha
      rw [ht, hinst, hid, heid]
      exact ⟨hr, hrid, hc⟩
  · intro id x hx pod key ep' hat
    rw [hm] at hx hat
    rw [hav] at hx
    obtain ⟨ep, hep, hw⟩ := h.pools.updateInstanceWorkload_endpoint ha hc change hat
    rw [hw, hsum, h.balanced hx hep]

/-! ## The calls -/

theorem updateWorkload_writeSingleEntry {server : SchedulerServer} (hi : server.instanceManager.Inv)
    (hp : server.policy = .loadBalance) (iid eid : Int) (change : Workload) :
    ((server.updateWorkload iid eid change).writeSingleEntry iid eid).2.instanceManager =
      server.instanceManager.updateInstanceWorkload iid eid change ∧
    ((server.updateWorkload iid eid change).writeSingleEntry iid eid).2.policy = server.policy := by
  have hu : server.updateWorkload iid eid change =
      { server with instanceManager := server.instanceManager.updateInstanceWorkload iid eid change } := by
    simp [SchedulerServer.updateWorkload, hp, SchedulerType.hasUpdateWorkload]
  rw [hu]
  exact SchedulerServer.instanceManager_writeSingleEntry
    (s := { server with instanceManager := server.instanceManager.updateInstanceWorkload iid eid change })
    (hi.updateInstanceWorkload iid eid change) iid eid

theorem handleUpdateWorkload_release (hi : s.server.instanceManager.Inv) (hp : s.server.policy = .loadBalance)
    (a : Allocation) (part : Workload) (role : PDRole) (reqId : String) (action : WorkloadAction) :
    (s.server.handleUpdateWorkload (releaseRequest a part role reqId action)).2.instanceManager =
      s.server.instanceManager.updateInstanceWorkload a.instanceId a.endpointId (-part) ∧
    (s.server.handleUpdateWorkload (releaseRequest a part role reqId action)).2.policy = s.server.policy := by
  obtain ⟨hm, hpol⟩ := updateWorkload_writeSingleEntry hi hp a.instanceId a.endpointId (-part)
  unfold SchedulerServer.handleUpdateWorkload releaseRequest
  simp only [WorkloadAction.ofString?_value, PDRole.ofString?_value, reduceCtorEq, and_false, ↓reduceIte]
  rcases hw : (s.server.updateWorkload a.instanceId a.endpointId (-part)).writeSingleEntry a.instanceId
    a.endpointId with ⟨res, s'⟩
  rw [hw] at hm hpol
  cases res <;> exact ⟨hm, hpol⟩

theorem handleAllocateOnly_cases (hi : s.server.instanceManager.Inv) (hp : s.server.policy = .loadBalance)
    (request : AllocateOnlyRequest) :
    (s.server.handleAllocateOnly request).2.policy = s.server.policy ∧
    ((allocationOf s.server.instanceManager request = none ∧
        (s.server.handleAllocateOnly request).2.instanceManager = s.server.instanceManager) ∨
      ∃ a r, allocationOf s.server.instanceManager request = some a ∧ request.workload = some a.outstanding ∧
        s.server.instanceManager.availablePool.get? a.instanceId = some r ∧
        (buildEndpointCache r (s.server.instanceManager.obj r)).get? a.endpointId = some a.target ∧
        (s.server.handleAllocateOnly request).2.instanceManager =
          s.server.instanceManager.updateInstanceWorkload a.instanceId a.endpointId a.outstanding) := by
  obtain ⟨oiid, oeid, role, reqId, oworkload⟩ := request
  unfold SchedulerServer.handleAllocateOnly allocationOf
  cases oiid with
  | none => exact ⟨rfl, Or.inl ⟨rfl, rfl⟩⟩
  | some iid =>
  cases oeid with
  | none => exact ⟨rfl, Or.inl ⟨rfl, rfl⟩⟩
  | some eid =>
  cases oworkload with
  | none => exact ⟨rfl, Or.inl ⟨rfl, rfl⟩⟩
  | some workload =>
      simp only [Option.bind_some]
      cases ha : s.server.instanceManager.availablePool.get? iid with
      | none =>
          have hno : s.server.instanceManager.hasInstanceEndpoint iid eid = false := by
            simp only [InstanceManager.hasInstanceEndpoint, ha]
          rw [hno]
          exact ⟨rfl, Or.inl ⟨rfl, rfl⟩⟩
      | some r =>
          have hlast : ((s.server.instanceManager.obj r).lastEndpoint eid).map
                (fun e => (⟨iid, eid, ⟨r, e.1, e.2.1⟩, workload⟩ : Allocation)) =
              ((buildEndpointCache r (s.server.instanceManager.obj r)).get? eid).map fun target =>
                ⟨iid, eid, target, workload⟩ := by
            rw [InstanceManager.get?_buildEndpointCache, Option.map_map]
            rfl
          simp only [Option.bind_some, hlast]
          cases hc : (buildEndpointCache r (s.server.instanceManager.obj r)).get? eid with
          | none =>
              have hno : s.server.instanceManager.hasInstanceEndpoint iid eid = false := by
                simp only [InstanceManager.hasInstanceEndpoint, ha, hi.endpointCache ha,
                  Dict.contains_eq_false_iff, hc]
              rw [hno]
              exact ⟨rfl, Or.inl ⟨rfl, rfl⟩⟩
          | some target =>
              have hyes : s.server.instanceManager.hasInstanceEndpoint iid eid = true := by
                simp only [InstanceManager.hasInstanceEndpoint, ha, hi.endpointCache ha, Dict.contains_iff, hc]
                exact ⟨target, rfl⟩
              obtain ⟨hm, hpol⟩ := updateWorkload_writeSingleEntry hi hp iid eid workload
              rw [if_pos hyes]
              rcases hw : (s.server.updateWorkload iid eid workload).writeSingleEntry iid eid with ⟨res, s'⟩
              rw [hw] at hm hpol
              refine ⟨?_, Or.inr ⟨⟨iid, eid, target, workload⟩, r, rfl, rfl, ha, hc, ?_⟩⟩
              · cases res <;> exact hpol
              · cases res <;> exact hm

theorem handleRefreshInstances_instanceManager (server : SchedulerServer) (request : RefreshInstancesRequest) :
    (server.handleRefreshInstances request).2.policy = server.policy ∧
    ((server.handleRefreshInstances request).2.instanceManager = server.instanceManager ∨
      ∃ event, (server.handleRefreshInstances request).2.instanceManager =
        (server.instanceManager.refresh event request.instances).2) := by
  unfold SchedulerServer.handleRefreshInstances
  split
  · exact ⟨rfl, Or.inl rfl⟩
  · cases EventType.ofString? request.eventType with
    | none => exact ⟨rfl, Or.inl rfl⟩
    | some event =>
        refine ⟨?_, Or.inr ⟨event, ?_⟩⟩ <;>
          rcases hr : server.instanceManager.refresh event request.instances with ⟨⟨e⟩ | ⟨_ | _⟩, m'⟩ <;>
          simp only [hr] <;>
          rcases hw : server.workloadWriter.writeSnapshot m' with ⟨⟨e'⟩ | ⟨_⟩, w⟩ <;> rfl

theorem LedgerInv.refresh (h : LedgerInv s) {server : SchedulerServer} {event : EventType}
    {instances : List Instance} (hm : server.instanceManager = (s.server.instanceManager.refresh event instances).2)
    (hp : server.policy = s.server.policy) : LedgerInv { s with server := server } := by
  obtain ⟨hlen, hobj, hav⟩ := InstanceManager.refresh_objects h.pools event instances
  have hi : ((s.server.instanceManager.refresh event instances).2).Inv := h.pools.step (.refresh event instances)
  refine ⟨by rw [hm]; exact hi, hp.trans h.policy, ?_, h.nonneg, ?_⟩
  · intro a ha
    obtain ⟨hlt, hid, hc⟩ := h.target a ha
    rw [hm, hobj _ hlt]
    exact ⟨hlt.trans_le hlen, hid, hc⟩
  · intro id r hr pod key ep hat
    rw [hm] at hr hat
    rcases hav id r hr with hold | ⟨hge, hidle⟩
    · rw [hobj r (h.pools.available hold).1] at hat
      exact h.balanced hold hat
    · -- No allocation has gone to a new object.
      rw [hidle ep (Instance.mem_endpointList_iff.mpr ⟨pod, key, hat⟩)]
      refine (balance_eq_zero fun e he => ?_).symm
      obtain ⟨a, ha, rfl⟩ := List.mem_map.mp he
      intro heq
      have hlt := (h.target a ha).1
      rw [show a.target = _ from heq] at hlt
      exact absurd hlt (Nat.not_lt.mpr hge)

theorem LedgerInv.allocateOnly (h : LedgerInv s) {request : AllocateOnlyRequest}
    (hd : s.Disciplined (.allocateOnly request)) : LedgerInv (s.step (.allocateOnly request)) := by
  obtain ⟨hpol, ⟨hnone, hm⟩ | ⟨a, r, hsome, hw, ha, hc, hm⟩⟩ := handleAllocateOnly_cases h.pools h.policy request
  · have := h.of_server hm hpol
    simpa [step, hnone] using this
  · have hstep : s.step (.allocateOnly request) =
        ⟨(s.server.handleAllocateOnly request).2, s.allocations ++ [a]⟩ := by simp [step, hsome]
    rw [hstep]
    refine h.change ha hc hm hpol ?_ ?_
    · intro a' ha'
      rcases List.mem_append.mp ha' with ha' | ha'
      · exact ⟨h.nonneg a' ha', Or.inl ⟨a', ha', rfl, rfl, rfl⟩⟩
      · rw [List.mem_singleton.mp ha']
        exact ⟨hd _ hw, Or.inr ⟨rfl, rfl, rfl⟩⟩
    · intro e
      simp only [outstandingOn, List.map_append, List.map_cons, List.map_nil, balance_append, balance_singleton]

theorem outstandingOn_set {index : Nat} {a : Allocation} (hidx : s.allocations[index]? = some a) (part : Workload)
    (server : SchedulerServer) (e : EndpointRef) :
    outstandingOn ⟨server, s.allocations.set index { a with outstanding := a.outstanding - part }⟩ e =
      s.outstandingOn e + if a.target = e then -part else 0 := by
  have hmap : (s.allocations.map fun a => (a.target, a.outstanding))[index]? = some (a.target, a.outstanding) := by
    rw [List.getElem?_map, hidx]
    rfl
  unfold outstandingOn
  rw [List.map_set, balance_set hmap]
  congr 1
  split
  · exact sub_sub_cancel_left _ _
  · rfl

theorem LedgerInv.updateWorkload (h : LedgerInv s) {index : Nat} {part : Workload} {role : PDRole} {reqId : String}
    {action : WorkloadAction} (hd : s.Disciplined (.updateWorkload index part role reqId action))
    (hn : s.NotReplaced (.updateWorkload index part role reqId action)) :
    LedgerInv (s.step (.updateWorkload index part role reqId action)) := by
  obtain ⟨a, hidx, hpart, hle⟩ := hd
  obtain ⟨hm, hpol⟩ := handleUpdateWorkload_release h.pools h.policy a part role reqId action
  have hidx' : s.allocations[index]? = some a := hidx
  have hstep : s.step (.updateWorkload index part role reqId action) =
      ⟨(s.server.handleUpdateWorkload (releaseRequest a part role reqId action)).2,
        s.allocations.set index { a with outstanding := a.outstanding - part }⟩ := by simp [step, hidx']
  have hsum := outstandingOn_set hidx' part (s.server.handleUpdateWorkload (releaseRequest a part role reqId action)).2
  have hmem := List.mem_of_getElem? hidx'
  obtain ⟨hlt, hid, hc⟩ := h.target a hmem
  have hnonneg : ∀ a' ∈ s.allocations.set index { a with outstanding := a.outstanding - part },
      0 ≤ a'.outstanding ∧ ∃ a'' ∈ s.allocations,
        a''.target = a'.target ∧ a''.instanceId = a'.instanceId ∧ a''.endpointId = a'.endpointId := by
    intro a' ha'
    rcases List.mem_or_eq_of_mem_set ha' with ha' | rfl
    · exact ⟨h.nonneg a' ha', a', ha', rfl, rfl, rfl⟩
    · exact ⟨⟨sub_nonneg.mpr hle.1, sub_nonneg.mpr hle.2⟩, a, hmem, rfl, rfl, rfl⟩
  rw [hstep]
  cases ha : s.server.instanceManager.availablePool.get? a.instanceId with
  | some r =>
      have hr : r = a.target.inst := hn a hidx r ha
      subst hr
      exact h.change ha hc hm hpol (fun a' ha' => ⟨(hnonneg a' ha').1, Or.inl (hnonneg a' ha').2⟩) hsum
  | none =>
      -- The instance is gone: nothing is changed, and its object is not available under another id.
      have hsame : s.server.instanceManager.updateInstanceWorkload a.instanceId a.endpointId (-part) =
          s.server.instanceManager := by
        simp only [InstanceManager.updateInstanceWorkload, ha]
      rw [hsame] at hm
      have hs := h.of_server hm hpol
      refine ⟨hs.pools, hs.policy, ?_, fun a' ha' => (hnonneg a' ha').1, ?_⟩
      · intro a' ha'
        obtain ⟨-, a'', ha'', ht, hid', heid⟩ := hnonneg a' ha'
        rw [← ht, ← hid', ← heid]
        exact hs.target a'' ha''
      · intro id r hr pod key ep hat
        have hne : a.target ≠ ⟨r, pod, key⟩ := by
          intro he
          rw [hm] at hr
          have hrid := (h.pools.available hr).2.1
          rw [he] at hid
          rw [hid] at hrid
          rw [← hrid, ha] at hr
          cases hr
        rw [hsum, if_neg hne, add_zero]
        exact hs.balanced hr hat

theorem LedgerInv.step (h : LedgerInv s) {call : Call} (hd : s.Disciplined call) (hn : s.NotReplaced call) :
    LedgerInv (s.step call) := by
  cases call with
  | allocateOnly request => exact h.allocateOnly hd
  | updateWorkload index part role reqId action => exact h.updateWorkload hd hn
  | refreshInstances request =>
      obtain ⟨hpol, hm | ⟨event, hm⟩⟩ := handleRefreshInstances_instanceManager s.server request
      · exact h.of_server hm hpol
      · exact h.refresh hm hpol

theorem LedgerInv.conserved (h : LedgerInv s) : s.Conserved := by
  intro id r hr pod key ep hat
  have hw := h.balanced hr hat
  refine ⟨hw, ?_⟩
  rw [hw]
  refine balance_induction (P := fun w : Workload => 0 ≤ w) ⟨le_refl _, le_refl _⟩
    (fun a b ha hb => ⟨add_nonneg ha.1 hb.1, add_nonneg ha.2 hb.2⟩) (fun e he => ?_) _
  obtain ⟨a, ha, rfl⟩ := List.mem_map.mp he
  exact h.nonneg a ha

end AccountedServer

end PyMotor
