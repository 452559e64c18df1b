import PyMotor.Cdp.Lemmas.Accounts

/-!
# CDP mode releases what it allocates
-/

/-!
## CDP mode under round robin

Every workload is zero, whatever the order of the events.
-/

namespace PyMotor

open Lib Recompute Router RequestManager

/-- All changes and all records of the request are zero. -/
structure Router.Zeroed (s : Router) : Prop where
  sent : ∀ x ∈ s.sent, x.2 = 0
  records : ∀ id, s.Owns id → ∀ role w, s.requestManager.getReqWorkload (id, role) = some w → w = 0

namespace Router

variable {s : Router}

theorem Zeroed.congr {s' : Router} (h : s.Zeroed) (hid : s'.reqInfo.reqId = s.reqInfo.reqId)
    (hrm : s'.requestManager = s.requestManager) (hsent : s'.sent = s.sent) : s'.Zeroed where
  sent := by rw [hsent]; exact h.sent
  records := by
    unfold Owns
    rw [hid, hrm]
    exact h.records

theorem Zeroed.bumpReqId (h : s.Zeroed) : s.bumpReqId.Zeroed where
  sent := h.sent
  records := by
    rintro id ⟨n, rfl⟩
    exact h.records _ ⟨n + 1, rfl⟩

theorem Zeroed.send (h : s.Zeroed) (p : Int × Int) : Zeroed { s with sent := s.sent ++ [(p, 0)] } where
  sent x hx := by
    rcases List.mem_append.mp hx with hx | hx
    · exact h.sent x hx
    · rw [List.mem_singleton.mp hx]
  records := h.records

theorem Zeroed.forget (h : s.Zeroed) {rm : RequestManager}
    (hrm : ∀ key w, rm.getReqWorkload key = some w → s.requestManager.getReqWorkload key = some w) :
    Zeroed { s with requestManager := rm } where
  sent := h.sent
  records id hown role w hw := h.records id hown role w (hrm _ _ hw)

theorem Zeroed.addReqWorkload (h : s.Zeroed) (key : WorkloadKey) :
    Zeroed { s with requestManager := (s.requestManager.addReqWorkload key 0).2 } where
  sent := h.sent
  records id hown role w hw := by
    dsimp only at hw
    rw [getReqWorkload_addReqWorkload] at hw
    split at hw
    · rename_i he
      cases hrec : s.requestManager.getReqWorkload key with
      | none =>
          rw [hrec] at hw
          exact (Option.some.inj hw).symm
      | some v =>
          rw [hrec] at hw
          obtain rfl : v = w := Option.some.inj hw
          exact h.records id hown role _ (he ▸ hrec)
    · exact h.records id hown role w hw

theorem releaseChange_zero (action : WorkloadAction) : releaseChange action 0 = 0 := by
  cases action <;> rfl

theorem releaseRest_zero (action : WorkloadAction) : releaseRest action 0 = 0 := by
  cases action <;> rfl

theorem Zeroed.updateWorkload (h : s.Zeroed) (resource : ScheduledResource) (action : WorkloadAction)
    (hact : action ≠ .allocation) : (s.updateWorkload resource action).2.Zeroed := by
  rcases s.requestManager.computeAndUpdate_cases ⟨some resource, s.reqInfo.reqId, action, s.reqInfo.reqLen⟩ with
    hn | ⟨role, hal, -⟩ | ⟨role, w, -, -, hw, hchange, hrm⟩
  · dsimp only at hn
    unfold Router.updateWorkload
    rw [hn]
    exact h.congr rfl rfl rfl
  · exact absurd hal hact
  · dsimp only at hw hchange hrm
    obtain rfl := h.records _ s.owns_self role w hw
    rcases he : s.requestManager.computeAndUpdate (some resource) s.reqInfo.reqId action s.reqInfo.reqLen with
      ⟨result, rm⟩
    rw [he] at hchange hrm
    dsimp only at hchange
    subst hchange
    have hupd : (s.updateWorkload resource action).2 =
        { s with requestManager := rm, sent := s.sent ++ [(place resource, 0)] } := by
      simp only [Router.updateWorkload, he, releaseChange_zero]
    rw [hupd]
    refine ⟨(h.send (place resource)).sent, fun id hown role' w' hw' => ?_⟩
    dsimp only at hw'
    rw [hrm] at hw'
    split at hw'
    · split at hw'
      · cases hw'
      · rw [← Option.some.inj hw', releaseRest_zero]
    · exact h.records id hown role' w' hw'

end Router

def DecodePhase.Zeroed : DecodePhase → Prop
  | .waiting _ w => w = 0
  | _ => True

def MetaPhase.Zeroed : MetaPhase → Prop
  | .waiting _ w => w = 0
  | _ => True

namespace CdpSystem

structure Zeroed (s : CdpSystem) : Prop where
  router : s.router.Zeroed
  decode : s.decode.Zeroed
  metas : ∀ phase ∈ s.metas, phase.Zeroed

variable {s : CdpSystem} (env : RouterEnv)

theorem Zeroed.withRouter (h : Zeroed s) {router : Router} (hr : router.Zeroed) :
    Zeroed { s with router := router } := ⟨hr, h.decode, h.metas⟩

theorem Zeroed.setMeta (h : Zeroed s) (i : Nat) {phase : MetaPhase} (hp : phase.Zeroed) :
    Zeroed (s.setMeta i phase) := by
  refine ⟨h.router, h.decode, fun p hm => ?_⟩
  rcases List.mem_or_eq_of_mem_set hm with hm | rfl
  · exact h.metas p hm
  · exact hp

theorem zeroed_addReqInfo (h : s.router.Zeroed) : s.addReqInfo.router.Zeroed := by
  refine h.forget fun key w hw => ?_
  unfold RequestManager.addReqInfo at hw
  split at hw <;> exact hw

theorem zeroed_delReqInfo (h : s.router.Zeroed) : s.delReqInfo.router.Zeroed := by
  refine h.forget fun key w hw => ?_
  unfold RequestManager.delReqInfo at hw
  split at hw
  · have hf : (Dict.filterKeys _ _).get? key = some w := hw
    rw [Dict.get?_filterKeys] at hf
    split at hf
    · exact hf
    · cases hf
  · exact hw

theorem Zeroed.decodeAbort (h : Zeroed s) : Zeroed s.decodeAbort :=
  ⟨zeroed_delReqInfo h.router, trivial, h.metas⟩

theorem Zeroed.decodeAttemptFailed (h : Zeroed s) (n : Nat) : Zeroed (s.decodeAttemptFailed env n) := by
  unfold CdpSystem.decodeAttemptFailed
  split
  · exact ⟨h.router, trivial, h.metas⟩
  · exact h.decodeAbort

theorem Zeroed.decodeAllocated (h : Zeroed s) (n : Nat) (iid eid : Int) : Zeroed (s.decodeAllocated env n 0 iid eid) := by
  have hsend := h.router.send (iid, eid)
  have hadd := hsend.addReqWorkload (s.router.reqInfo.reqId, .roleD)
  unfold CdpSystem.decodeAllocated
  dsimp only
  split
  · exact (h.withRouter hsend).decodeAttemptFailed env n
  · rename_i rm he
    dsimp only at hadd
    rw [he] at hadd
    exact ⟨hadd, trivial, h.metas⟩

theorem Zeroed.metaAttemptFailed (h : Zeroed s) (i n : Nat) : Zeroed (s.metaAttemptFailed env i n) := by
  refine h.setMeta i ?_
  split <;> trivial

theorem Zeroed.metaAllocated (h : Zeroed s) (i n : Nat) (iid eid : Int) : Zeroed (s.metaAllocated env i n 0 iid eid) := by
  have hsend := h.router.send (iid, eid)
  have hadd := hsend.addReqWorkload (s.router.reqInfo.reqId, .roleP)
  unfold CdpSystem.metaAllocated
  dsimp only
  split
  · exact (h.withRouter hsend).metaAttemptFailed env i n
  · rename_i rm he
    dsimp only at hadd
    rw [he] at hadd
    exact (h.withRouter hadd).setMeta i trivial

theorem Zeroed.nextAttempt (h : Zeroed s) : Zeroed (s.nextAttempt env) := by
  refine ⟨h.router, ?_, h.metas⟩
  unfold CdpSystem.nextAttempt
  dsimp only
  split <;> trivial

theorem Zeroed.afterLeg (h : Zeroed s) (outcome : LegOutcome) : Zeroed (s.afterLeg env outcome) := by
  unfold CdpSystem.afterLeg
  split
  · exact ⟨h.router, trivial, h.metas⟩
  · split
    · exact ⟨h.router.bumpReqId, trivial, h.metas⟩
    · exact h.nextAttempt env
  · exact ⟨h.router, trivial, h.metas⟩
  · split <;> exact ⟨h.router, trivial, h.metas⟩
  · exact ⟨h.router, trivial, h.metas⟩

theorem Zeroed.noteRecompute (h : Zeroed s) (signal : LegSignal) : Zeroed (s.noteRecompute env signal) := by
  unfold CdpSystem.noteRecompute
  split
  · exact ⟨h.router.congr rfl rfl rfl, h.decode, h.metas⟩
  · exact h

theorem Zeroed.abandonedBy (h : Zeroed s) (event : Event) : ∀ x ∈ s.abandonedBy event, x.2 = 0 := by
  intro x hx
  unfold CdpSystem.abandonedBy at hx
  split at hx
  · split at hx
    · rename_i w hp
      have hw := h.decode
      rw [hp] at hw
      exact (PdHandler.givenUp_workload hx).trans hw
    · cases hx
  · split at hx
    · rename_i w hi
      exact (PdHandler.givenUp_workload hx).trans (h.metas _ (List.mem_of_getElem? hi))
    · cases hx
  · cases hx

theorem allocateWorkload_zero {env : RouterEnv} (hrr : env.schedulerType = .roundRobin) (s : Router) (role : PDRole) :
    allocateWorkload env s role = 0 := by
  unfold allocateWorkload
  rw [if_pos hrr]
  rfl

theorem Zeroed.advance (hrr : env.schedulerType = .roundRobin) (h : Zeroed s) (event : Event) :
    Zeroed (s.advance env event) := by
  have hdecode := h.decode
  cases event with
  | decodeFail chunkSent =>
      unfold CdpSystem.advance
      cases s.decode with
      | entering => exact h.afterLeg env _
      | _ => exact h
  | decodeRefuse =>
      unfold CdpSystem.advance
      cases s.decode with
      | entering => exact h.afterLeg env _
      | _ => exact h
  | decodeEnter =>
      unfold CdpSystem.advance
      cases s.decode with
      | entering =>
          have hadd : Zeroed s.addReqInfo := ⟨zeroed_addReqInfo h.router, h.decode, h.metas⟩
          dsimp only
          split
          · exact ⟨hadd.router, trivial, h.metas⟩
          · exact hadd.decodeAbort
      | _ => exact h
  | decodeSelect =>
      unfold CdpSystem.advance
      cases s.decode with
      | preparing n => exact ⟨h.router, allocateWorkload_zero hrr s.router .roleD, h.metas⟩
      | _ => exact h
  | decodeAnswer outcome =>
      unfold CdpSystem.advance
      cases hp : s.decode with
      | waiting n w =>
          rw [hp] at hdecode
          obtain rfl : w = 0 := hdecode
          cases outcome with
          | nothing applied => exact h.decodeAttemptFailed env n
          | cancelled applied => exact h.decodeAbort
          | allocated iid eid => exact h.decodeAllocated env n iid eid
      | _ => exact h
  | decodeCancel =>
      unfold CdpSystem.advance
      cases s.decode with
      | preparing n => exact h.decodeAbort
      | sleeping => exact ⟨h.router, trivial, h.metas⟩
      | _ => exact h
  | decodeLeave signal =>
      unfold CdpSystem.advance
      cases s.decode with
      | holding resource =>
          have hnote := h.noteRecompute env signal
          exact ⟨hnote.router.updateWorkload _ .releaseTokens (by decide), trivial, hnote.metas⟩
      | _ => exact h
  | decodeExit =>
      unfold CdpSystem.advance
      cases s.decode with
      | leaving outcome => exact Zeroed.afterLeg env ⟨zeroed_delReqInfo h.router, h.decode, h.metas⟩ outcome
      | _ => exact h
  | decodeWake =>
      unfold CdpSystem.advance
      cases s.decode with
      | sleeping => exact h.nextAttempt env
      | _ => exact h
  | metaStart requestId =>
      unfold CdpSystem.advance
      dsimp only
      split
      · refine ⟨h.router, h.decode, fun phase hm => ?_⟩
        rcases List.mem_append.mp hm with hm | hm
        · exact h.metas phase hm
        · rw [List.mem_singleton.mp hm]
          split <;> trivial
      · exact h
  | metaSelect i =>
      unfold CdpSystem.advance
      dsimp only
      split
      · exact h.setMeta i (allocateWorkload_zero hrr s.router .roleP)
      · exact h
  | metaAnswer i outcome =>
      unfold CdpSystem.advance
      dsimp only
      split
      · rename_i n w hi
        obtain rfl : w = 0 := h.metas _ (List.mem_of_getElem? hi)
        cases outcome with
        | nothing applied => exact h.metaAttemptFailed env i n
        | cancelled applied => exact h.setMeta i trivial
        | allocated iid eid => exact h.metaAllocated env i n iid eid
      · exact h
  | metaCancel i =>
      unfold CdpSystem.advance
      dsimp only
      split
      · exact h.setMeta i trivial
      · exact h
  | metaLeave i =>
      unfold CdpSystem.advance
      dsimp only
      split
      · rename_i resource hi
        have hr := h.router.updateWorkload resource .releaseTokens (by decide)
        exact (h.withRouter hr).setMeta i trivial
      · exact h
  | metaRelease i =>
      unfold CdpSystem.advance
      dsimp only
      split
      · rename_i resource hi
        have hr := h.router.updateWorkload resource .releaseKv (by decide)
        exact (h.withRouter hr).setMeta i trivial
      · exact h

end CdpSystem

end PyMotor

namespace PyMotor.CdpSystem

open Lib Recompute Router

variable (env : RouterEnv)

theorem start_inv {info : RequestInfo} {rm : RequestManager} (stream : Bool)
    (hrm : Unrecorded { reqInfo := info, requestManager := rm }) :
    Inv (fun _ => none) (start env info rm stream) where
  accounts := PdHandler.accounts_start hrm
  both := rfl
  decode := by
    unfold start
    dsimp only
    split <;> rfl
  metas h := nomatch h
  unique h := nomatch h
  held h := absurd rfl h

theorem start_zeroed {info : RequestInfo} {rm : RequestManager} (stream : Bool)
    (hrm : Unrecorded { reqInfo := info, requestManager := rm }) : Zeroed (start env info rm stream) where
  router := by
    refine ⟨fun _ hx => (nomatch hx), fun id hown role w hw => ?_⟩
    have hnone := hrm id hown role
    exact nomatch hnone.symm.trans hw
  decode := by
    unfold start
    dsimp only
    split <;> trivial
  metas _ h := nomatch h

theorem settled_step (hrr : env.schedulerType ≠ .roundRobin) (s : CdpSystem) (event : Event)
    (h : (∃ a, Inv a s) ∧ ∀ x ∈ s.abandoned, x.2 = 0) (hok : s.PrefillApart env event) :
    (∃ a, Inv a (s.step env event)) ∧ ∀ x ∈ (s.step env event).abandoned, x.2 = 0 := by
  obtain ⟨⟨a, ha⟩, hzero⟩ := h
  obtain ⟨a', ha'⟩ := ha.advance env hrr hok
  refine ⟨⟨a', ha'.accounts, ha'.both, ha'.decode, ha'.metas, ha'.unique, ha'.held⟩, fun x hx => ?_⟩
  rcases List.mem_append.mp hx with hx | hx
  · exact hzero x hx
  · exact hok.2.1 x hx

theorem zeroed_step (hrr : env.schedulerType = .roundRobin) (s : CdpSystem) (event : Event)
    (h : Zeroed s ∧ ∀ x ∈ s.abandoned, x.2 = 0) :
    Zeroed (s.step env event) ∧ ∀ x ∈ (s.step env event).abandoned, x.2 = 0 := by
  obtain ⟨hz, hzero⟩ := h
  have hadv := hz.advance env hrr event
  refine ⟨⟨hadv.router, hadv.decode, hadv.metas⟩, fun x hx => ?_⟩
  rcases List.mem_append.mp hx with hx | hx
  · exact hzero x hx
  · exact hz.abandonedBy event x hx

theorem Inv.released {s : CdpSystem} {a : PDRole → Account} (h : Inv a s) (hzero : ∀ x ∈ s.abandoned, x.2 = 0)
    (hended : s.AllEnded) : s.Released := by
  have hD : a .roleD = none := by
    have hdecode := h.decode
    rw [hended.1] at hdecode
    exact hdecode
  have hP : a .roleP = none := by
    by_contra hne
    obtain ⟨i, phase, hi, hp⟩ := h.held hne
    rw [hended.2 phase (List.mem_of_getElem? hi)] at hp
    exact hp
  have ha : a = fun _ => none := by
    funext role
    cases role with
    | roleP => exact hP
    | roleD => exact hD
    | roleU => exact h.both
  intro p
  have hacc := h.accounts
  rw [ha] at hacc
  rw [hacc.balance_none, balance_of_zero hzero, add_zero]

/-- For every request whose ids have no record yet and every order of the events of its decode handler and its
metaserver handlers: when workloads are not counted, or the request context is left and prefills are recorded
only while no prefill is recorded under the id of the request and no client gives up on an allocation that the
scheduler makes, then what the scheduler has got sums to zero once all handlers have ended. -/
theorem released_of_prefillApart (info : RequestInfo) (rm : RequestManager) (stream : Bool)
    (hrm : Unrecorded { reqInfo := info, requestManager := rm }) (events : List Event)
    (hrun : env.schedulerType = .roundRobin ∨ Along (step env) (PrefillApart env) (start env info rm stream) events)
    (hended : (run (step env) (start env info rm stream) events).AllEnded) :
    (run (step env) (start env info rm stream) events).Released := by
  by_cases hrr : env.schedulerType = .roundRobin
  · have hz := run_invariant' (zeroed_step env hrr) ⟨start_zeroed env stream hrm, fun _ hx => (nomatch hx)⟩ events
    intro p
    rw [balance_of_zero hz.1.router.sent, balance_of_zero hz.2, add_zero]
  · obtain ⟨⟨a, ha⟩, hzero⟩ := run_invariant (settled_step env hrr)
      ⟨⟨_, start_inv env stream hrm⟩, fun _ hx => (nomatch hx)⟩ (hrun.resolve_left hrr)
    exact ha.released hzero hended

theorem allEnded_of_one {s : CdpSystem} (hd : s.decode = .ended) (hm : s.metas = [.ended]) : s.AllEnded := by
  refine ⟨hd, fun phase hp => ?_⟩
  rw [hm] at hp
  exact List.mem_singleton.mp hp

/-- A request under load balancing, with a JSON library that reads nothing. -/
def oneEnv : RouterEnv := { codec := { loads := fun _ => .ok none, compact := fun _ => [], dumps := fun _ => [] } }

def oneInfo : RequestInfo := { reqId := "r", reqData := [("stream", .bool true)], reqLen := 40, api := "v1/completions" }

def prefillFirst : List Event :=
  [.decodeEnter, .decodeSelect, .decodeAnswer (.allocated 2 20), .metaStart "r", .metaSelect 0,
    .metaAnswer 0 (.allocated 1 10), .metaLeave 0, .metaRelease 0, .decodeLeave .finished, .decodeExit]

theorem released_prefillFirst : (run (step oneEnv) (start oneEnv oneInfo {} true) prefillFirst).Released :=
  released_of_prefillApart oneEnv oneInfo {} true (fun _ _ _ => rfl) prefillFirst (.inr (by decide +kernel))
    (allEnded_of_one rfl rfl)

def disconnected : List Event :=
  [.decodeEnter, .decodeSelect, .decodeAnswer (.allocated 2 20), .metaStart "r", .metaSelect 0,
    .metaAnswer 0 (.allocated 1 10), .decodeLeave .cancelled, .decodeExit, .metaLeave 0, .metaRelease 0]

theorem not_released_disconnected :
    ¬ ∀ events, (run (step oneEnv) (start oneEnv oneInfo {} true) events).AllEnded →
      (run (step oneEnv) (start oneEnv oneInfo {} true) events).Released := by
  intro h
  have hr := h disconnected (allEnded_of_one rfl rfl) (1, 10)
  exact absurd hr (by decide +kernel)

end PyMotor.CdpSystem
