import PyMotor.Request.Lemmas.Handler
import PyMotor.Rpc.System
import PyMotor.Scheduler.Lemmas.Allocate

/-!
# No orphaned allocation
-/

/-!
## The invariant of the allocation RPC

A live message has a call that waits for it, and the scheduler's total is the recorded total plus the
allocations that are on their way back.
-/

namespace PyMotor.RpcSystem

open Lib

variable {s : RpcSystem} {base : Workload}

/-! ## Updates of one call and of one message -/

@[simp] theorem server_setPhase (i : Nat) (phase : CallPhase) : (s.setPhase i phase).server = s.server := rfl
@[simp] theorem workers_setPhase (i : Nat) (phase : CallPhase) : (s.setPhase i phase).workers = s.workers := rfl
@[simp] theorem messages_setPhase (i : Nat) (phase : CallPhase) : (s.setPhase i phase).messages = s.messages := rfl
@[simp] theorem server_setStatus (rid : Nat) (st : MessageStatus) : (s.setStatus rid st).server = s.server := rfl
@[simp] theorem workers_setStatus (rid : Nat) (st : MessageStatus) : (s.setStatus rid st).workers = s.workers := rfl
@[simp] theorem calls_setStatus (rid : Nat) (st : MessageStatus) : (s.setStatus rid st).calls = s.calls := rfl
@[simp] theorem maxRetry_setStatus (rid : Nat) (st : MessageStatus) :
    (s.setStatus rid st).maxRetry = s.maxRetry := rfl

/-- The workload of an allocation that is made and not yet taken up by its call. -/
def AllocateMessage.onTheWay (msg : AllocateMessage) : Workload :=
  match msg.status with
  | .answered _ true => msg.workload
  | .answerLost true => msg.workload
  | _ => 0

structure Inv (base : Workload) (s : RpcSystem) : Prop where
  pools : s.server.instanceManager.Inv
  policy : s.server.policy ≠ .kvCacheAffinity
  messages : ∀ {rid : Nat} {msg : AllocateMessage}, s.messages[rid]? = some msg →
    (∃ iid eid role reqId, msg.request = ⟨some iid, some eid, role, reqId, some msg.workload⟩) ∧
    (s.server.policy.hasUpdateWorkload = false → msg.workload = 0) ∧
    (∀ placed applied, msg.status = .answered placed applied → applied = placed.isSome) ∧
    ∃ c, s.calls[msg.call]? = some c ∧ (msg.status.Live → c.phase = .waiting rid)
  calls : ∀ {i : Nat} {c : PrepareCall}, s.calls[i]? = some c → c.worker < s.workers.length
  balance : s.server.instanceManager.totalWorkload =
    base + s.recordedWorkload + (s.messages.map AllocateMessage.onTheWay).sum

/-- No live message belongs to the call. -/
def NoLive (s : RpcSystem) (i : Nat) : Prop :=
  ∀ (rid : Nat) (msg : AllocateMessage), s.messages[rid]? = some msg → msg.call = i → ¬ msg.status.Live

theorem Inv.noLive (h : Inv base s) {i : Nat} {c : PrepareCall} (hc : s.calls[i]? = some c)
    (hp : ∀ rid, c.phase = .waiting rid → ∀ msg, s.messages[rid]? = some msg → ¬ msg.status.Live) :
    s.NoLive i := by
  rintro rid msg hm rfl hlive
  obtain ⟨-, -, -, c', hc', hw⟩ := h.messages hm
  rw [hc] at hc'; cases hc'
  exact hp rid (hw hlive) msg hm hlive

theorem getElem?_modify {i j : Nat} {f : PrepareCall → PrepareCall} {c : PrepareCall} (h : s.calls[j]? = some c) :
    (s.calls.modify i f)[j]? = some (if i = j then f c else c) := by
  rw [List.getElem?_modify, h]
  rfl

theorem Inv.calls_modify (h : Inv base s) {i : Nat} {f : PrepareCall → PrepareCall}
    (hf : ∀ c, (f c).worker = c.worker) {j : Nat} {c : PrepareCall} (hc : (s.calls.modify i f)[j]? = some c) :
    c.worker < s.workers.length := by
  rw [List.getElem?_modify] at hc
  obtain ⟨c', hc', rfl⟩ := Option.map_eq_some_iff.mp hc
  have := h.calls hc'
  split
  · rw [hf]; exact this
  · exact this

theorem Inv.modifyCall (h : Inv base s) {i : Nat} (hn : s.NoLive i) {f : PrepareCall → PrepareCall}
    (hf : ∀ c, (f c).worker = c.worker) : Inv base { s with calls := s.calls.modify i f } where
  pools := h.pools
  policy := h.policy
  messages {rid msg} hm := by
    obtain ⟨hreq, hzero, hans, c, hc, hlive⟩ := h.messages hm
    refine ⟨hreq, hzero, hans, _, getElem?_modify hc, fun hl => ?_⟩
    rw [if_neg fun he => hn rid msg hm he.symm hl]
    exact hlive hl
  calls := h.calls_modify hf
  balance := h.balance

theorem Inv.setPhase (h : Inv base s) {i : Nat} (hn : s.NoLive i) (phase : CallPhase) :
    Inv base (s.setPhase i phase) := h.modifyCall hn fun _ => rfl

theorem Inv.attemptFailed (h : Inv base s) {i : Nat} (hn : s.NoLive i) (c : PrepareCall) :
    Inv base (s.attemptFailed i c) := h.setPhase hn _

theorem getElem?_setStatus {rid rid' : Nat} {st : MessageStatus} {msg : AllocateMessage}
    (h : (s.setStatus rid st).messages[rid']? = some msg) :
    ∃ old, s.messages[rid']? = some old ∧ msg = if rid = rid' then { old with status := st } else old := by
  simp only [RpcSystem.setStatus, List.getElem?_modify] at h
  obtain ⟨old, hold, rfl⟩ := Option.map_eq_some_iff.mp h
  exact ⟨old, hold, by split <;> rfl⟩

theorem Inv.setStatus (h : Inv base s) {rid : Nat} {msg : AllocateMessage} {st : MessageStatus}
    {server : SchedulerServer} (workers : List RequestManager) (hm : s.messages[rid]? = some msg)
    (hlive : st.Live → msg.status.Live) (hans : ∀ placed applied, st = .answered placed applied → applied = placed.isSome)
    (hpools : server.instanceManager.Inv) (hpol : server.policy = s.server.policy)
    (hlen : workers.length = s.workers.length)
    (hbal : server.instanceManager.totalWorkload + s.recordedWorkload + AllocateMessage.onTheWay msg =
      s.server.instanceManager.totalWorkload + recordedWorkload { s with workers := workers } +
        AllocateMessage.onTheWay { msg with status := st }) :
    Inv base (RpcSystem.setStatus { s with server := server, workers := workers } rid st) where
  pools := hpools
  policy := by rw [server_setStatus, hpol]; exact h.policy
  messages {rid' msg'} hm' := by
    obtain ⟨old, hold, rfl⟩ := getElem?_setStatus hm'
    obtain ⟨hreq, hzero, hans', c, hc, hl⟩ := h.messages hold
    dsimp only at hold
    by_cases he : rid = rid'
    · subst he
      rw [hm] at hold; cases hold
      simp only [↓reduceIte]
      refine ⟨hreq, ?_, hans, c, hc, fun hst => hl (hlive hst)⟩
      rw [server_setStatus, hpol]; exact hzero
    · simp only [he, ↓reduceIte]
      refine ⟨hreq, ?_, hans', c, hc, hl⟩
      rw [server_setStatus, hpol]; exact hzero
  calls hc := by rw [workers_setStatus, hlen]; exact h.calls hc
  balance := by
    have hsum := sum_map_modify hm (fun msg => { msg with status := st }) AllocateMessage.onTheWay
    have hb := h.balance
    show server.instanceManager.totalWorkload = base + recordedWorkload { s with workers := workers } +
      ((s.messages.modify rid fun msg => { msg with status := st }).map AllocateMessage.onTheWay).sum
    rw [hsum]
    apply add_right_cancel (b := s.recordedWorkload + AllocateMessage.onTheWay msg)
    rw [← add_assoc, hbal, hb]
    abel

/-! ## The steps -/

theorem allocationWorkload_eq_zero {policy : SchedulerType} (hp : policy ≠ .kvCacheAffinity)
    (hu : policy.hasUpdateWorkload = false) {role : PDRole} {reqLen : Nat} :
    allocationWorkload policy role reqLen = 0 := by
  cases policy with
  | roundRobin => rfl
  | loadBalance => cases hu
  | kvCacheAffinity => exact absurd rfl hp

theorem recordedWorkload_addReqWorkload {worker : Nat} {key : WorkloadKey} (hw : worker < s.workers.length)
    (h : (s.workers.getD worker {}).getReqWorkload key = none) (w : Workload) :
    recordedWorkload
        { s with workers := s.workers.set worker ((s.workers.getD worker {}).addReqWorkload key w).2 } =
      s.recordedWorkload + w := by
  have hget : s.workers[worker]? = some (s.workers.getD worker {}) := by
    rw [List.getD_eq_getElem?_getD, List.getElem?_eq_getElem hw]; rfl
  have hvalues : ((s.workers.getD worker {}).addReqWorkload key w).2.reqWorkloadDict.values.sum =
      (s.workers.getD worker {}).reqWorkloadDict.values.sum + w := by
    have hc := Dict.contains_eq_false_iff.mpr h
    simp only [RequestManager.addReqWorkload, hc, Bool.false_eq_true, if_false]
    rw [Dict.values_set_absent h, List.sum_append, List.sum_singleton]
  show ((s.workers.set worker _).map fun rm => rm.reqWorkloadDict.values.sum).sum = _
  rw [sum_map_set hget, hvalues, add_sub_cancel_left]
  rfl

theorem Inv.sendAllocateOnly (h : Inv base s) {i : Nat} {c : PrepareCall} (hc : s.calls[i]? = some c)
    (hp : c.phase = .selecting) (iid eid : Int) : Inv base (s.sendAllocateOnly i c iid eid) where
  pools := h.pools
  policy := h.policy
  messages {rid msg} hm := by
    have hn : s.NoLive i := h.noLive hc fun _ he => by rw [hp] at he; cases he
    simp only [RpcSystem.sendAllocateOnly, messages_setPhase] at hm
    rcases getElem?_concat hm with hm | ⟨rfl, rfl⟩
    · obtain ⟨hreq, hzero, hans, c', hc', hlive⟩ := h.messages hm
      refine ⟨hreq, hzero, hans, _, getElem?_modify hc', fun hl => ?_⟩
      rw [if_neg fun he => hn rid msg hm he.symm hl]
      exact hlive hl
    · refine ⟨⟨iid, eid, c.role.value, c.reqId, rfl⟩, ?_, ?_, _, getElem?_modify hc, ?_⟩
      · exact fun hu => allocationWorkload_eq_zero h.policy hu
      · intro _ _ he
        cases he
      · intro _
        rw [if_pos rfl]
  calls hc := h.calls_modify (f := fun c => { c with phase := .waiting s.messages.length }) (fun _ => rfl) hc
  balance := by
    simp only [RpcSystem.sendAllocateOnly, messages_setPhase, List.map_append, List.sum_append, List.map_singleton,
      List.sum_singleton, AllocateMessage.onTheWay, add_zero]
    exact h.balance

theorem Inv.prepareResource (h : Inv base s) {c : PrepareCall} (hw : c.worker < s.workers.length) :
    Inv base { s with calls := s.calls ++ [c] } where
  pools := h.pools
  policy := h.policy
  messages hm := by
    obtain ⟨hreq, hzero, hans, c', hc', hlive⟩ := h.messages hm
    exact ⟨hreq, hzero, hans, c', by rw [List.getElem?_append_left (List.getElem?_eq_some_iff.mp hc').1, hc'], hlive⟩
  calls hc := by
    rcases getElem?_concat hc with hc | ⟨-, rfl⟩
    · exact h.calls hc
    · exact hw
  balance := h.balance

theorem Inv.serve (h : Inv base s) {rid : Nat} {msg : AllocateMessage} (hm : s.messages[rid]? = some msg)
    (hst : msg.status = .sent) (hf : s.server.WriteFits) : Inv base (s.serve rid msg) := by
  obtain ⟨⟨iid, eid, role, reqId, hreq⟩, hzero, -⟩ := h.messages hm
  have hway : AllocateMessage.onTheWay msg = 0 := by rw [AllocateMessage.onTheWay, hst]
  have hlive : msg.status.Live := by rw [hst]; trivial
  unfold RpcSystem.serve
  cases hk : s.server.instanceManager.hasInstanceEndpoint iid eid with
  | false =>
      simp only [hreq, SchedulerServer.handleAllocateOnly_unknown hk, hk]
      refine h.setStatus s.workers hm (fun _ => hlive) ?_ h.pools rfl rfl ?_
      · intro _ _ he
        cases he
        rfl
      · rw [hway]
        rfl
  | true =>
      obtain ⟨inst, ep, server, hallocate, hpol, hpools, htotal⟩ :=
        SchedulerServer.handleAllocateOnly_known h.pools hf role reqId hk hzero
      simp only [hreq, hallocate, hk]
      refine h.setStatus s.workers hm (fun _ => hlive) ?_ hpools hpol rfl ?_
      · intro _ _ he
        cases he
        rfl
      · rw [hway, htotal]
        show _ = _ + s.recordedWorkload + msg.workload
        abel

theorem Inv.noLive_received (h : Inv base s) {rid : Nat} {msg : AllocateMessage} {c : PrepareCall}
    (hm : s.messages[rid]? = some msg) (hst : ¬ msg.status.Live) (hc : s.calls[msg.call]? = some c)
    (hp : c.phase = .waiting rid) : s.NoLive msg.call := by
  refine h.noLive hc fun rid' he msg' hm' => ?_
  rw [hp] at he
  cases he
  rw [hm] at hm'
  cases hm'
  exact hst

theorem getElem?_setStatus_self {rid : Nat} {msg : AllocateMessage} (hm : s.messages[rid]? = some msg)
    (st : MessageStatus) : (s.setStatus rid st).messages[rid]? = some { msg with status := st } := by
  simp only [RpcSystem.setStatus, List.getElem?_modify, hm, if_pos]
  rfl

theorem Inv.receive_none (h : Inv base s) {rid : Nat} {msg : AllocateMessage} (hm : s.messages[rid]? = some msg)
    {placed : Option (Instance × Endpoint)} (hst : msg.status = .answered placed false) :
    Inv base (s.setStatus rid .received) := by
  refine h.setStatus s.workers hm (fun hl => hl.elim) (fun _ _ he => (nomatch he)) h.pools rfl rfl ?_
  simp only [AllocateMessage.onTheWay, hst]

theorem Inv.recordAllocation (h : Inv base s) {rid : Nat} {msg : AllocateMessage} {c : PrepareCall}
    (hm : s.messages[rid]? = some msg) {placed : Option (Instance × Endpoint)}
    (hst : msg.status = .answered placed true) (hc : s.calls[msg.call]? = some c) (hp : c.phase = .waiting rid)
    (hr : (s.workers.getD c.worker {}).getReqWorkload (c.reqId, c.role) = none) :
    Inv base ((s.setStatus rid .received).recordAllocation msg.call c msg.workload) := by
  have hrec := recordedWorkload_addReqWorkload (h.calls hc) hr msg.workload
  have hadd : ((s.workers.getD c.worker {}).addReqWorkload (c.reqId, c.role) msg.workload).1 = true := by
    rw [RequestManager.addReqWorkload_fst, hr]; rfl
  unfold RpcSystem.recordAllocation
  rw [workers_setStatus]
  rcases he : (s.workers.getD c.worker {}).addReqWorkload (c.reqId, c.role) msg.workload with ⟨b, rm⟩
  rw [he] at hrec hadd
  cases hadd
  have hinv : Inv base (RpcSystem.setStatus { s with workers := s.workers.set c.worker rm } rid .received) := by
    refine h.setStatus _ hm (fun hl => hl.elim) (fun _ _ he => (nomatch he)) h.pools rfl List.length_set ?_
    rw [hrec]
    simp only [AllocateMessage.onTheWay, hst]
    abel
  have hm' := getElem?_setStatus_self (s := { s with workers := s.workers.set c.worker rm }) hm .received
  have hn := hinv.noLive_received hm' id hc hp
  exact hinv.setPhase hn .prepared

theorem Inv.receive (h : Inv base s) {rid : Nat} (hok : s.NoOrphan (.receive rid)) :
    Inv base (s.step (.receive rid)) := by
  unfold RpcSystem.step
  dsimp only
  cases hm : s.messages[rid]? with
  | none => exact h
  | some msg =>
      obtain ⟨-, -, hans, c, hc, hlive⟩ := h.messages hm
      dsimp only
      cases hst : msg.status with
      | answered placed applied =>
          have hplaced := hans placed applied hst
          rw [hc]
          dsimp only
          split
          · rename_i hp
            cases placed with
            | none =>
                cases hplaced
                have hinv := h.receive_none hm hst
                have hm' := getElem?_setStatus_self hm .received
                have hn := hinv.noLive_received hm' id hc hp
                exact hinv.attemptFailed hn c
            | some placed =>
                cases hplaced
                exact h.recordAllocation hm hst hc hp (hok msg hm placed true hst c hc hp)
          · rename_i hp
            cases applied with
            | false => exact h.receive_none hm hst
            | true =>
                rw [hst] at hlive
                exact absurd (hlive rfl) hp
      | _ => exact h

/-- Every step that makes no orphan keeps the invariant. -/
theorem Inv.step (h : Inv base s) {event : Event} (hok : s.NoOrphan event) : Inv base (s.step event) := by
  cases event with
  | prepareResource worker reqId role reqLen =>
      unfold RpcSystem.step
      dsimp only
      split
      · rename_i hw
        exact h.prepareResource hw
      · exact h
  | select i chosen =>
      unfold RpcSystem.step
      dsimp only
      cases hc : s.calls[i]? with
      | none => exact h
      | some c =>
          dsimp only
          split
          · rename_i hp
            have hn : s.NoLive i := h.noLive hc fun _ he => by rw [hp] at he; cases he
            cases chosen with
            | none => exact h.attemptFailed hn c
            | some chosen => exact h.sendAllocateOnly hc hp _ _
          · exact h
  | deliver rid =>
      unfold RpcSystem.step
      dsimp only
      cases hm : s.messages[rid]? with
      | none => exact h
      | some msg =>
          dsimp only
          cases hst : msg.status with
          | sent => exact h.serve hm hst hok
          | _ => exact h
  | loseRequest rid =>
      unfold RpcSystem.step
      dsimp only
      cases hm : s.messages[rid]? with
      | none => exact h
      | some msg =>
          dsimp only
          cases hst : msg.status with
          | sent =>
              refine h.setStatus s.workers hm (fun hl => hl.elim) (fun _ _ he => (nomatch he)) h.pools rfl rfl ?_
              simp only [AllocateMessage.onTheWay, hst]
          | _ => exact h
  | loseAnswer rid =>
      unfold RpcSystem.step
      dsimp only
      cases hm : s.messages[rid]? with
      | none => exact h
      | some msg =>
          dsimp only
          cases hst : msg.status with
          | answered placed applied =>
              refine h.setStatus s.workers hm (fun hl => ?_) (fun _ _ he => (nomatch he)) h.pools rfl rfl ?_
              · rw [hst]; exact hl
              · cases applied <;> simp only [AllocateMessage.onTheWay, hst]
          | _ => exact h
  | receive rid => exact h.receive hok
  | timeout i =>
      unfold RpcSystem.step
      dsimp only
      cases hc : s.calls[i]? with
      | none => exact h
      | some c =>
          dsimp only
          cases hp : c.phase with
          | waiting rid => exact h.attemptFailed (h.noLive hc (hok c hc)) c
          | _ => exact h
  | cancel i =>
      unfold RpcSystem.step
      dsimp only
      cases hc : s.calls[i]? with
      | none => exact h
      | some c =>
          have hn := h.noLive hc (hok c hc)
          dsimp only
          cases hp : c.phase with
          | waiting rid => exact h.attemptFailed hn c
          | selecting => exact h.setPhase hn _
          | sleeping => exact h.setPhase hn _
          | _ => exact h
  | wake i =>
      unfold RpcSystem.step
      dsimp only
      cases hc : s.calls[i]? with
      | none => exact h
      | some c =>
          dsimp only
          cases hp : c.phase with
          | sleeping => exact h.modifyCall (h.noLive hc fun _ he => by rw [hp] at he; cases he) fun _ => rfl
          | _ => exact h

/-- When nothing is in flight, the scheduler's total is the recorded total. -/
theorem Inv.quiescent (h : Inv base s) (hq : s.Quiescent) :
    s.server.instanceManager.totalWorkload = base + s.recordedWorkload := by
  have hzero : (s.messages.map AllocateMessage.onTheWay).sum = 0 := by
    apply List.sum_eq_zero
    intro w hw
    obtain ⟨msg, hmem, rfl⟩ := List.mem_map.mp hw
    obtain ⟨rid, hm⟩ := List.getElem?_of_mem hmem
    obtain ⟨-, -, -, c, hc, hlive⟩ := h.messages hm
    have hwait := hq.1 c (List.mem_of_getElem? hc) rid
    obtain ⟨-, hans⟩ := hq.2 msg hmem
    unfold AllocateMessage.onTheWay
    cases hst : msg.status with
    | answered placed applied => exact absurd hst (hans placed applied)
    | answerLost applied =>
        cases applied with
        | false => rfl
        | true => exact absurd (hlive (by rw [hst]; rfl)) hwait
    | _ => rfl
  rw [h.balance, hzero, add_zero]

/-- The system before any call: workers without records in front of a scheduler with any reachable pools. -/
def start (maxRetry workers : Nat) (policy : SchedulerType) (ops : List InstanceManager.Op)
    (writer : WorkloadSharedMemoryWriter) : RpcSystem :=
  { maxRetry := maxRetry
    server := { policy := policy, instanceManager := run InstanceManager.step {} ops, workloadWriter := writer }
    workers := List.replicate workers {} }

/-- What the scheduler has allocated since `s₀` is what the workers have recorded. -/
def NoOrphanedAllocation (s₀ s : RpcSystem) : Prop :=
  s.server.instanceManager.totalWorkload = s₀.server.instanceManager.totalWorkload + s.recordedWorkload

theorem recordedWorkload_start (maxRetry workers : Nat) (policy : SchedulerType) (ops : List InstanceManager.Op)
    (writer : WorkloadSharedMemoryWriter) : (start maxRetry workers policy ops writer).recordedWorkload = 0 := by
  apply List.sum_eq_zero
  intro w hw
  obtain ⟨rm, hrm, rfl⟩ := List.mem_map.mp hw
  rw [List.eq_of_mem_replicate hrm]
  rfl

theorem inv_start (maxRetry workers : Nat) {policy : SchedulerType} (hp : policy ≠ .kvCacheAffinity)
    (ops : List InstanceManager.Op) (writer : WorkloadSharedMemoryWriter) :
    Inv (start maxRetry workers policy ops writer).server.instanceManager.totalWorkload
      (start maxRetry workers policy ops writer) where
  pools := InstanceManager.inv_run ops
  policy := hp
  messages hm := by cases hm
  calls hc := by cases hc
  balance := by
    rw [recordedWorkload_start, add_zero]
    exact (add_zero _).symm

/-- In every run in which no step orphans an allocation, whenever nothing is in flight the scheduler has
allocated exactly what the workers have recorded. -/
theorem noOrphanedAllocation_of_noOrphan (maxRetry workers : Nat) (policy : SchedulerType)
    (hp : policy ≠ .kvCacheAffinity) (ops : List InstanceManager.Op) (writer : WorkloadSharedMemoryWriter)
    (events : List Event) (h : Along step NoOrphan (start maxRetry workers policy ops writer) events)
    (hq : (run step (start maxRetry workers policy ops writer) events).Quiescent) :
    NoOrphanedAllocation (start maxRetry workers policy ops writer)
      (run step (start maxRetry workers policy ops writer) events) := by
  have hinv := run_invariant (I := Inv _) (fun _ _ hi hok => hi.step hok) (inv_start maxRetry workers hp ops writer) h
  exact hinv.quiescent hq

def oneDecode : Instance :=
  { id := 1
    role := "decode"
    endpoints := .single "pod" (.single 0 { id := 7 }) }

def oneEndpoint : RpcSystem := start 1 1 .loadBalance [.refresh .add [oneDecode]] {}

theorem writeFits_oneEndpoint : oneEndpoint.server.WriteFits := by
  refine ⟨by decide, by decide, by decide, fun role => ?_⟩
  cases role <;> decide

theorem noOrphanedAllocation_answered :
    NoOrphanedAllocation oneEndpoint
      (run step oneEndpoint [.prepareResource 0 "r" .roleD 12, .select 0 (some (1, 7)), .deliver 0, .receive 0]) := by
  refine noOrphanedAllocation_of_noOrphan _ _ _ (by decide) _ _ _
    ⟨trivial, trivial, writeFits_oneEndpoint, fun msg _ _ _ _ c _ _ => ?_, trivial⟩ ⟨fun c hc rid => ?_, fun msg hm => ?_⟩
  · show (List.getD [({} : RequestManager)] c.worker {}).getReqWorkload _ = none
    cases c.worker <;> rfl
  · have hphase : c.phase ∈ [CallPhase.prepared] := List.mem_map_of_mem (f := PrepareCall.phase) hc
    rw [List.mem_singleton.mp hphase]
    exact fun h => (nomatch h)
  · have hstatus : msg.status ∈ [MessageStatus.received] := List.mem_map_of_mem (f := AllocateMessage.status) hm
    rw [List.mem_singleton.mp hstatus]
    exact ⟨fun h => (nomatch h), fun _ _ h => (nomatch h)⟩

/-- The client times out after the scheduler has allocated. -/
theorem not_noOrphanedAllocation_timeout :
    ¬ ∀ events, (run step oneEndpoint events).Quiescent →
      NoOrphanedAllocation oneEndpoint (run step oneEndpoint events) := by
  intro h
  have horphan := h
    [.prepareResource 0 "r" .roleD 12, .select 0 (some (1, 7)), .deliver 0, .timeout 0, .receive 0] ?_
  · have hne : ¬ NoOrphanedAllocation oneEndpoint (run step oneEndpoint
        [.prepareResource 0 "r" .roleD 12, .select 0 (some (1, 7)), .deliver 0, .timeout 0, .receive 0]) := by
      unfold NoOrphanedAllocation
      decide +kernel
    exact hne horphan
  · refine ⟨fun c hc rid => ?_, fun msg hm => ?_⟩
    · have hphase : c.phase ∈ [CallPhase.failed] := List.mem_map_of_mem (f := PrepareCall.phase) hc
      rw [List.mem_singleton.mp hphase]
      exact fun h => (nomatch h)
    · have hstatus : msg.status ∈ [MessageStatus.received] := List.mem_map_of_mem (f := AllocateMessage.status) hm
      rw [List.mem_singleton.mp hstatus]
      exact ⟨fun h => (nomatch h), fun _ _ h => (nomatch h)⟩

end PyMotor.RpcSystem
