import PyMotor.Rpc.System
import PyMotor.Scheduler.Lemmas.Allocate
import PyMotor.Scheduler.Requests

/-!
# Which calls are accounted
-/

/-!
## What the client and the scheduler account

`select_and_allocate` and `update_workload` of `motor/coordinator/scheduler/runtime/scheduler_client.py`, against a
scheduler process that is built with the same scheduler type. The client takes the demand for its accounting under
every type but round robin; the scheduler accounts only when its policy has `update_workload`.
-/

namespace PyMotor

open Lib

/-- The calls of a client on the endpoint it has chosen, and the refreshes between them. -/
inductive AccountingCall
  | refreshInstances (data : RefreshInstancesRequest)
  | selectAndAllocate (instanceId endpointId : Int) (role : PDRole) (reqId : String) (reqLen : Nat)
  | updateWorkload (instanceId endpointId : Int) (role : PDRole) (reqId : String) (action : WorkloadAction)
      (change : Workload)

namespace AccountingCall

def request (policy : SchedulerType) : AccountingCall → SchedulerRequest
  | .refreshInstances data => .refreshInstances data
  | .selectAndAllocate iid eid role reqId reqLen =>
      .allocateOnly
        { instanceId := some iid
          endpointId := some eid
          role := role.value
          reqId := reqId
          workload := some (RpcSystem.allocationWorkload policy role reqLen) }
  | .updateWorkload iid eid role reqId action change =>
      .updateWorkload
        { instanceId := some iid
          endpointId := some eid
          role := role.value
          reqId := reqId
          workloadAction := action.value
          workloadChange := some change }

def target : AccountingCall → Option (Int × Int)
  | .refreshInstances _ => none
  | .selectAndAllocate iid eid _ _ _ => some (iid, eid)
  | .updateWorkload iid eid _ _ _ _ => some (iid, eid)

def amount (policy : SchedulerType) : AccountingCall → Workload
  | .refreshInstances _ => 0
  | .selectAndAllocate _ _ role _ reqLen => RpcSystem.allocationWorkload policy role reqLen
  | .updateWorkload _ _ _ _ _ change => change

def succeeds : AccountingCall → Except PyErr SchedulerResponse → Bool
  | .selectAndAllocate .., answer => (RpcSystem.placedIn answer).isSome
  | .updateWorkload .., .ok (.success success) => success
  | .updateWorkload .., _ => false
  | .refreshInstances _, .ok (.refreshed ..) => true
  | .refreshInstances _, _ => false

end AccountingCall

def InstanceManager.endpointWorkload (m : InstanceManager) (iid eid : Int) : Option Workload :=
  (m.availablePool.get? iid).bind fun r =>
    ((m.endpointCache iid r).get? eid).bind fun target =>
      ((m.obj target.inst).endpointAt target.pod target.key).map Endpoint.workload

namespace SchedulerServer

/-- The scheduler after a call of a client with the same scheduler type. -/
def account (s : SchedulerServer) (call : AccountingCall) : SchedulerServer := s.handle (call.request s.policy)

/-- The call is for an available endpoint. -/
def Existing (s : SchedulerServer) (call : AccountingCall) : Prop :=
  ∀ p ∈ call.target, s.instanceManager.hasInstanceEndpoint p.1 p.2 = true

/-- The workload of the endpoint changes by the amount of the call. -/
def Changed (s : SchedulerServer) (call : AccountingCall) (p : Int × Int) : Prop :=
  (s.account call).instanceManager.endpointWorkload p.1 p.2 =
    (s.instanceManager.endpointWorkload p.1 p.2).map (· + call.amount s.policy)

/-- The call is applied, and it succeeds exactly when it is. -/
def Applies (s : SchedulerServer) (call : AccountingCall) : Prop :=
  ∀ p ∈ call.target, s.Changed call p ∧
    (call.succeeds (s.dispatch (call.request s.policy)).1 = true ↔ s.Changed call p)

/-- The shared memory can be written for the call. -/
def Writable (s : SchedulerServer) (call : AccountingCall) : Prop := call.target ≠ none → s.WriteFits

end SchedulerServer

variable {m : InstanceManager} {s : SchedulerServer} {iid eid : Int}

/-! ## The workload of an endpoint -/

namespace InstanceManager

theorem Inv.endpointWorkload_some (hi : m.Inv) (h : m.hasInstanceEndpoint iid eid = true) :
    ∃ w, m.endpointWorkload iid eid = some w := by
  obtain ⟨r, ha, hc⟩ := hasInstanceEndpoint_iff.mp h
  obtain ⟨target, ht⟩ := Dict.contains_iff.mp hc
  have hb := ht
  rw [hi.endpointCache ha] at hb
  obtain ⟨hinst, ep, hat, -⟩ := buildEndpointCache_get? hb
  refine ⟨ep.workload, ?_⟩
  simp [endpointWorkload, ha, ht, hinst, hat]

theorem Inv.endpointWorkload_updateInstanceWorkload (hi : m.Inv) (h : m.hasInstanceEndpoint iid eid = true)
    (change : Workload) :
    (m.updateInstanceWorkload iid eid change).endpointWorkload iid eid =
      (m.endpointWorkload iid eid).map (· + change) := by
  rcases hi.updateInstanceWorkload_cases iid eid change with ⟨hno, -⟩ | ⟨r, target, ep, -, ha, hc, hinst, hat, -, he⟩
  · rw [h] at hno; cases hno
  · obtain ⟨hav, -, hobj⟩ := hi.updateInstanceWorkload_objects iid eid change
    have hr := (hi.available ha).1
    have ha' : (m.updateInstanceWorkload iid eid change).availablePool.get? iid = some r := by rw [hav, ha]
    have hc' := (hi.updateInstanceWorkload iid eid change).endpointCache ha'
    rw [(hobj r).2] at hc'
    have hat' : ((m.updateInstanceWorkload iid eid change).obj r).endpointAt target.pod target.key =
        some { ep with workload := ep.workload + change } := by
      rw [he, obj_modifyObj_self (by simpa using hr), obj_modifyObj_self hr, Instance.endpointAt_addEndpointWorkload,
        if_pos ⟨rfl, rfl⟩]
      exact congrArg (Option.map _) hat
    simp only [endpointWorkload, ha, ha', hc', hi.endpointCache ha, Option.bind_some, hc, hinst, hat, hat',
      Option.map_some]

end InstanceManager

namespace SchedulerServer

/-! ## The answers -/

theorem endpointWorkload_updateWorkload (hi : s.instanceManager.Inv)
    (h : s.instanceManager.hasInstanceEndpoint iid eid = true) (change : Workload) :
    ((s.updateWorkload iid eid change).writeSingleEntry iid eid).2.instanceManager.endpointWorkload iid eid =
      (s.instanceManager.endpointWorkload iid eid).map
        (· + if s.policy.hasUpdateWorkload then change else 0) := by
  unfold SchedulerServer.updateWorkload
  split
  · rw [(instanceManager_writeSingleEntry (hi.updateInstanceWorkload iid eid change) iid eid).1]
    exact hi.endpointWorkload_updateInstanceWorkload h change
  · rw [(instanceManager_writeSingleEntry hi iid eid).1]
    simp

theorem handle_selectAndAllocate (h : s.instanceManager.hasInstanceEndpoint iid eid = true) (role : PDRole)
    (reqId : String) (reqLen : Nat) :
    s.account (.selectAndAllocate iid eid role reqId reqLen) =
      ((s.updateWorkload iid eid (RpcSystem.allocationWorkload s.policy role reqLen)).writeSingleEntry iid eid).2 := by
  simp only [account, AccountingCall.request, handle, dispatch, handleAllocateOnly, h, ↓reduceIte]
  rcases (s.updateWorkload iid eid (RpcSystem.allocationWorkload s.policy role reqLen)).writeSingleEntry iid eid with
    ⟨_ | _, s'⟩ <;> rfl

theorem handle_updateWorkload (role : PDRole) (reqId : String) (action : WorkloadAction) (change : Workload) :
    s.account (.updateWorkload iid eid role reqId action change) =
      ((s.updateWorkload iid eid change).writeSingleEntry iid eid).2 := by
  simp only [account, AccountingCall.request, handle, dispatch, handleUpdateWorkload, WorkloadAction.ofString?_value,
    PDRole.ofString?_value, reduceCtorEq, and_false, ↓reduceIte]
  rcases (s.updateWorkload iid eid change).writeSingleEntry iid eid with ⟨_ | _, s'⟩ <;> rfl

theorem account_eq {call : AccountingCall} {p : Int × Int} (hp : call.target = some p)
    (h : s.instanceManager.hasInstanceEndpoint p.1 p.2 = true) :
    s.account call = ((s.updateWorkload p.1 p.2 (call.amount s.policy)).writeSingleEntry p.1 p.2).2 := by
  cases call with
  | refreshInstances data => cases hp
  | selectAndAllocate iid eid role reqId reqLen =>
      cases hp
      exact handle_selectAndAllocate h role reqId reqLen
  | updateWorkload iid eid role reqId action change =>
      cases hp
      exact handle_updateWorkload role reqId action change

theorem succeeds_of_writable (hi : s.instanceManager.Inv) (hf : s.WriteFits) {call : AccountingCall} {p : Int × Int}
    (hp : call.target = some p) (h : s.instanceManager.hasInstanceEndpoint p.1 p.2 = true) :
    call.succeeds (s.dispatch (call.request s.policy)).1 = true := by
  cases call with
  | refreshInstances data => cases hp
  | selectAndAllocate iid eid role reqId reqLen =>
      cases hp
      obtain ⟨inst, ep, s', he, -⟩ :=
        handleAllocateOnly_placed hi hf role.value reqId (RpcSystem.allocationWorkload s.policy role reqLen) h
      simp [AccountingCall.request, dispatch, he, AccountingCall.succeeds, RpcSystem.placedIn]
  | updateWorkload iid eid role reqId action change =>
      cases hp
      have hok := writeSingleEntry_updateWorkload_ok hi hf h change
      simp only [AccountingCall.request, dispatch, handleUpdateWorkload, WorkloadAction.ofString?_value,
        PDRole.ofString?_value, reduceCtorEq, and_false, ↓reduceIte]
      rcases hw : (s.updateWorkload iid eid change).writeSingleEntry iid eid with ⟨res, s'⟩
      rw [hw] at hok
      cases hok
      rfl

theorem changed_iff (hi : s.instanceManager.Inv) {call : AccountingCall} {p : Int × Int}
    (hp : call.target = some p) (h : s.instanceManager.hasInstanceEndpoint p.1 p.2 = true) :
    s.Changed call p ↔ s.policy = .loadBalance ∨ call.amount s.policy = 0 := by
  obtain ⟨w, hw⟩ := hi.endpointWorkload_some h
  unfold Changed
  rw [account_eq hp h, endpointWorkload_updateWorkload hi h, hw]
  cases hpol : s.policy with
  | loadBalance => simp [SchedulerType.hasUpdateWorkload]
  | roundRobin => simp [SchedulerType.hasUpdateWorkload, eq_comm]
  | kvCacheAffinity => simp [SchedulerType.hasUpdateWorkload, eq_comm]

theorem policy_handle (hi : s.instanceManager.Inv) (request : SchedulerRequest) :
    (s.handle request).policy = s.policy := by
  have hmove := move_handle hi request
  generalize s.handle request = s' at hmove ⊢
  cases hmove <;> rfl

/-! ## Runs -/

variable {policy : SchedulerType} {calls : List AccountingCall}

theorem applies_of_tracked (hi : s.instanceManager.Inv) (hpol : s.policy = policy)
    (hex : Along account Existing s calls) (hw : Along account Writable s calls)
    (h : policy = .loadBalance ∨ ∀ call ∈ calls, call.amount policy = 0) : Along account Applies s calls := by
  induction calls generalizing s with
  | nil => trivial
  | cons call calls ih =>
      refine ⟨fun p hp => ?_, ih (inv_handle hi _) ((policy_handle hi _).trans hpol) hex.2 hw.2 ?_⟩
      · have htracked : s.policy = .loadBalance ∨ call.amount s.policy = 0 := by
          rw [hpol]
          exact h.imp_right fun hall => hall call (List.mem_cons_self ..)
        have hchanged := (changed_iff hi hp (hex.1 p hp)).2 htracked
        have hwrite := hw.1 fun hnone => by rw [hnone] at hp; cases hp
        exact ⟨hchanged, iff_of_true (succeeds_of_writable hi hwrite hp (hex.1 p hp)) hchanged⟩
      · exact h.imp_right fun hall c hc => hall c (List.mem_cons_of_mem _ hc)

theorem tracked_of_applies (hi : s.instanceManager.Inv) (hpol : s.policy = policy)
    (hex : Along account Existing s calls) (h : Along account Applies s calls) :
    policy = .loadBalance ∨ ∀ call ∈ calls, call.amount policy = 0 := by
  induction calls generalizing s with
  | nil => exact .inr fun call hc => by cases hc
  | cons call calls ih =>
      rcases ih (inv_handle hi _) ((policy_handle hi _).trans hpol) hex.2 h.2 with hlb | hrest
      · exact .inl hlb
      cases htarget : call.target with
      | none =>
          have hzero : call.amount policy = 0 := by
            cases call with
            | refreshInstances data => rfl
            | selectAndAllocate iid eid role reqId reqLen => cases htarget
            | updateWorkload iid eid role reqId action change => cases htarget
          exact .inr (List.forall_mem_cons.2 ⟨hzero, hrest⟩)
      | some p =>
          have hchanged := (changed_iff hi htarget (hex.1 p htarget)).1 (h.1 p htarget).1
          rw [hpol] at hchanged
          exact hchanged.imp_right fun hzero => List.forall_mem_cons.2 ⟨hzero, hrest⟩

/-- In every run of calls on available endpoints, a scheduler that can write the shared memory applies every call and
says so when it balances the load or every amount is zero, and only then. -/
theorem calls_applied (policy : SchedulerType) (maxEntries : Nat) (calls : List AccountingCall)
    (h : Along account Existing (start policy maxEntries) calls) :
    (Along account Writable (start policy maxEntries) calls →
      (policy = .loadBalance ∨ ∀ call ∈ calls, call.amount policy = 0) →
        Along account Applies (start policy maxEntries) calls) ∧
    (Along account Applies (start policy maxEntries) calls →
      policy = .loadBalance ∨ ∀ call ∈ calls, call.amount policy = 0) := by
  have hi : (start policy maxEntries).instanceManager.Inv := InstanceManager.inv_init
  exact ⟨applies_of_tracked hi rfl h, tracked_of_applies hi rfl h⟩

def onePrefill : Instance :=
  { id := 1
    role := "prefill"
    endpoints := .single "pod" (.single 0 { id := 7 }) }

def placeOne : List AccountingCall :=
  [.refreshInstances ⟨"add", [onePrefill]⟩, .selectAndAllocate 1 7 .roleP "r" 0]

theorem calls_applied_loadBalance : Along account Applies (start .loadBalance 4) placeOne := by
  refine (calls_applied .loadBalance 4 placeOne ⟨?_, ?_, trivial⟩).1 ⟨?_, ?_, trivial⟩ (.inl rfl)
  · intro p hp
    cases hp
  · intro p hp
    obtain rfl : (1, 7) = p := Option.some.inj hp
    rfl
  · exact fun hne => absurd rfl hne
  · refine fun _ => ⟨by decide, by decide, by decide, fun role => ?_⟩
    cases role <;> decide

/-- Under KV cache affinity the allocation is reported, and the endpoint looks idle. -/
theorem not_calls_applied_kvCacheAffinity :
    ¬ ∀ (policy : SchedulerType) (maxEntries : Nat) (calls : List AccountingCall), policy ≠ .roundRobin →
      Along account Existing (start policy maxEntries) calls →
        Along account Applies (start policy maxEntries) calls := by
  intro h
  have hrun := h .kvCacheAffinity 4 placeOne (by decide) ⟨fun p hp => (nomatch hp), ?_, trivial⟩
  · have hchanged := (hrun.2.1 (1, 7) rfl).1
    revert hchanged
    unfold Changed
    decide +kernel
  · intro p hp
    obtain rfl : (1, 7) = p := Option.some.inj hp
    rfl

end SchedulerServer

end PyMotor
