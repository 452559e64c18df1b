import PyMotor.Router.Lemmas.PdLeg

/-!
# The accounts of a handler

Between two legs nothing is held, until a leg leaves the KV cache of its prefill. From then on the record of
that prefill stands in the way of every later one, and the workload stays on its endpoint.
-/

/-!
## The accounts of a leg without streaming

Only a cancellation of the decode part leaves the KV cache of the prefill.
-/

namespace PyMotor.Router

open Lib Recompute RequestManager

variable {s : Router} {a : PDRole → Account} {iid eid : Int} (env : RouterEnv)

/-- The KV cache is still held and the error handler will give it back, or it is given back. -/
def KvPending (a : PDRole → Account) (r : Except PyException (Option JsonObj) × Router) : Prop :=
  (∃ e, r.1 = .error e) ∧ Accounts r.2 a ∧ r.2.firstChunkSent = false ∨ Accounts r.2 (Function.update a .roleP none)

theorem Accounts.nonstreamRecompute (h : Accounts s a) (hkv : KvOnly (iid, eid) (a .roleP))
    (hfirst : s.firstChunkSent = false) (reqData body : JsonObj) :
    KvPending a (nonstreamRecompute env reqData body (scheduledResource .roleP iid eid) s) := by
  have hs : Accounts (updateState { s with wantsRetry := true } .recompute) a := h.congr rfl rfl rfl
  have hkv' := hs.releaseKv hkv
  unfold Router.nonstreamRecompute
  split
  · exact .inl ⟨⟨_, rfl⟩, h, hfirst⟩
  · split
    · exact .inl ⟨⟨_, rfl⟩, h, hfirst⟩
    · dsimp only
      split
      · exact .inl ⟨⟨_, rfl⟩, hs, hfirst⟩
      · split
        · exact .inl ⟨⟨_, rfl⟩, hs, hfirst⟩
        · split
          · exact .inr hkv'
          · rename_i he
            exact .inr (hkv'.prepareRecomputeRetry he)

theorem Accounts.nonstreamBody (h : Accounts s a) (hkv : KvOnly (iid, eid) (a .roleP))
    (hfirst : s.firstChunkSent = false) (reqData : JsonObj) (answer : Json) :
    KvPending a (nonstreamBody env reqData answer (scheduledResource .roleP iid eid) s) := by
  unfold Router.nonstreamBody
  split
  · exact .inl ⟨⟨_, rfl⟩, h, hfirst⟩
  · split
    · exact .inl ⟨⟨_, rfl⟩, h, hfirst⟩
    · exact h.nonstreamRecompute env hkv hfirst reqData _
    · exact .inr ((h.releaseKv hkv).congr rfl rfl rfl)

theorem Accounts.nonstreamDecodeFailed (h : Accounts s a) (hkv : KvOnly (iid, eid) (a .roleP)) (attempt : Nat)
    (e : PyException) :
    Accounts (nonstreamDecodeFailed env attempt (scheduledResource .roleP iid eid) e s).2
      (if s.firstChunkSent then a else Function.update a .roleP none) := by
  have herr := h.handleStreamError hkv
  unfold Router.nonstreamDecodeFailed
  split
  · exact herr.congr rfl rfl rfl
  · dsimp only
    split
    · exact herr.congr rfl rfl rfl
    · exact herr

theorem Accounts.nonstreamDecodeFailed_closed (h : Accounts s a) (hkv : KvOnly (iid, eid) (a .roleP))
    (hclosed : s.firstChunkSent = false ∨ a .roleP = none) (attempt : Nat) (e : PyException) :
    PrefillAfter a false (Router.nonstreamDecodeFailed env attempt (scheduledResource .roleP iid eid) e s).2 := by
  have hd := h.nonstreamDecodeFailed env hkv attempt e
  rcases hclosed with hf | hn
  · rw [hf] at hd
    exact hd
  · have hupd : Function.update a .roleP none = a := by rw [← hn, Function.update_eq_self]
    rw [hupd, ite_self] at hd
    show Accounts _ (Function.update a .roleP none)
    rw [hupd]
    exact hd

theorem Accounts.releaseDecode_none {w : Workload} (h : Accounts s (Function.update a .roleD (some ((iid, eid), w))))
    (hD : a .roleD = none) (hw : 0 ≤ w) (hwkv : w.activeKvCache ≤ 0) :
    Accounts (s.releaseTokens (scheduledResource .roleD iid eid)) a := by
  have hd := h.releaseDecode (Function.update_self ..) hw hwkv
  rw [Function.update_idem, ← hD, Function.update_eq_self] at hd
  exact hd

theorem KvPending.afterNonstreamBody {r : Except PyException (Option JsonObj) × Router} {w : Workload}
    {iid' eid' : Int} (h : KvPending (Function.update a .roleD (some ((iid', eid'), w))) r)
    (hkv : KvOnly (iid, eid) (a .roleP)) (hD : a .roleD = none) (hw : 0 ≤ w) (hwkv : w.activeKvCache ≤ 0)
    (attempt : Nat) :
    PrefillAfter a false (afterNonstreamBody env attempt (scheduledResource .roleP iid eid)
      (scheduledResource .roleD iid' eid') r).2 := by
  obtain ⟨result, s⟩ := r
  have hframe := frame_updateWorkload (s := s) (scheduledResource .roleD iid' eid') .releaseTokens
  rcases h with ⟨⟨e, rfl⟩, hs, hfirst⟩ | hs
  · have hd := hs.releaseDecode_none hD hw hwkv
    exact hd.nonstreamDecodeFailed_closed env hkv (.inl (hframe.firstChunkSent.trans hfirst)) attempt e
  · dsimp only at hs
    rw [Function.update_comm (by decide)] at hs
    have hd := hs.releaseDecode_none (by rw [Function.update_of_ne (by decide)]; exact hD) hw hwkv
    have hnone : Function.update a .roleP none .roleP = none := Function.update_self ..
    cases result with
    | error e =>
        have hkv' : KvOnly (iid, eid) (Function.update a .roleP none .roleP) := by rw [hnone]; exact kvOnly_none _
        have hc := hd.nonstreamDecodeFailed_closed env hkv' (.inr hnone) attempt e
        unfold PrefillAfter at hc ⊢
        rw [Function.update_idem] at hc
        exact hc
    | ok body =>
        cases body with
        | none => exact hd
        | some body => exact hd.congr rfl rfl rfl

theorem Accounts.nonstreamDecodePhase {env : RouterEnv} (hroles : env.AnswersAsRequested) (h : Accounts s a)
    (hkv : KvOnly (iid, eid) (a .roleP)) (hD : a .roleD = none) (hfirst : s.firstChunkSent = false) (hretry : s.wantsRetry = false)
    (leg : PdLeg (Except Raised Json)) (attempt : Nat) (respJson : Json) :
    PrefillAfter a (leg.nonstreamDecodeLeavesKv env s respJson)
      (nonstreamDecodePhase env leg attempt (scheduledResource .roleP iid eid) respJson s).2 := by
  have hframe := frame_prepareResource env s .roleD leg.decodeSelect
  unfold Router.nonstreamDecodePhase PdLeg.nonstreamDecodeLeavesKv
  rcases h.prepareResource hroles hD leg.decodeSelect with ⟨e, he, hcase, hs⟩ | ⟨iid', eid', he, hsel, hs⟩
  · rcases hp : Router.prepareResource env .roleD leg.decodeSelect s with ⟨result, s'⟩
    rw [hp] at he hs hframe
    dsimp only at he hs
    subst he
    rcases hcase with ⟨hsel, hne⟩ | ⟨⟨applied, hsel⟩, rfl⟩
    · rw [hsel]
      cases e with
      | cancelled => exact absurd rfl hne
      | exception e =>
          exact hs.nonstreamDecodeFailed_closed env hkv (.inl (hframe.firstChunkSent.trans hfirst)) attempt e
    · rw [hsel]
      exact ⟨hs, hframe.wantsRetry.trans hretry⟩
  · rcases hp : Router.prepareResource env .roleD leg.decodeSelect s with ⟨result, s'⟩
    rw [hp] at he hs hframe
    dsimp only at he hs
    subst he
    have hw := allocateWorkload_nonneg env s .roleD
    have hwkv := allocateWorkload_decode_kv env s
    have hreleased := hs.releaseDecode_none hD hw hwkv
    have hframe' := hframe.trans (frame_updateWorkload (scheduledResource .roleD iid' eid') .releaseTokens)
    have hfirst' := hframe'.firstChunkSent.trans hfirst
    rw [hsel]
    dsimp only
    rw [genDRequest_frame hframe]
    cases genDRequest env s respJson with
    | error e => exact hreleased.nonstreamDecodeFailed_closed env hkv (.inl hfirst') attempt e
    | ok reqData =>
        simp only [Except.isOk, Except.toBool, Bool.true_and]
        cases leg.decode with
        | error e =>
            cases e with
            | cancelled =>
                exact ⟨hreleased, hframe'.wantsRetry.trans hretry⟩
            | exception e => exact hreleased.nonstreamDecodeFailed_closed env hkv (.inl hfirst') attempt e
        | ok answer =>
            have hkv' : KvOnly (iid, eid)
                (Function.update a .roleD (some ((iid', eid'), allocateWorkload env s .roleD)) .roleP) := by
              rw [Function.update_of_ne (by decide)]
              exact hkv
            exact (hs.nonstreamBody env hkv' (hframe.firstChunkSent.trans hfirst) reqData answer).afterNonstreamBody
              env hkv hD hw hwkv attempt

theorem Accounts.nonstreamPrefillFailed (h : Accounts s a) (attempt : Nat) (e : Raised) :
    Accounts (nonstreamPrefillFailed env attempt e s).2 a := by
  unfold Router.nonstreamPrefillFailed
  split
  · exact h
  · split <;> exact h.congr rfl rfl rfl

theorem reqInfo_nonstreamPrefillFailed (attempt : Nat) (e : Raised) :
    (nonstreamPrefillFailed env attempt e s).2.reqInfo = s.reqInfo := by
  unfold Router.nonstreamPrefillFailed
  split
  · rfl
  · split <;> rfl

theorem Accounts.nonstreamSingleAttempt {env : RouterEnv} (hroles : env.AnswersAsRequested)
    (h : Accounts s fun _ => none) (hfirst : s.firstChunkSent = false) (hretry : s.wantsRetry = false)
    (leg : PdLeg (Except Raised Json)) (attempt : Nat) :
    LegAfter env s (leg.leavesKv (fun respJson => leg.nonstreamDecodeLeavesKv env s respJson) env)
      (nonstreamSingleAttempt env leg attempt s).2 := by
  refine h.singleAttempt hroles hfirst hretry leg (fun s respJson => leg.nonstreamDecodeLeavesKv env s respJson)
    (fun e hs => hs.nonstreamPrefillFailed env attempt e) (fun e _ => reqInfo_nonstreamPrefillFailed env attempt e)
    (fun respJson hframe => ?_) (fun respJson hs hfirst hretry => ?_)
  · unfold PdLeg.nonstreamDecodeLeavesKv
    rw [genDRequest_frame hframe]
  · exact hs.nonstreamDecodePhase hroles (kvOnly_prefillAccount env s) rfl hfirst hretry leg attempt respJson

variable {s : Router} (env : RouterEnv)

theorem Accounts.bumpReqId (h : Accounts s fun _ => none) : Accounts s.bumpReqId fun _ => none where
  records := by
    rintro id ⟨n, rfl⟩ role
    have hn := h.records _ ⟨n + 1, rfl⟩ role
    rw [Option.map_none, ite_self] at hn ⊢
    exact hn
  balance := h.balance

/-- The scheduler holds KV cache that the router does not release: its record blocks the next prefill. -/
structure Leaked (s : Router) : Prop where
  record : (s.requestManager.getReqWorkload (s.reqInfo.reqId, .roleP)).isSome = true
  workload : ∃ p, 0 < (balance s.sent p).activeKvCache

theorem Accounts.balance_none (h : Accounts s fun _ => none) (p : Int × Int) : Lib.balance s.sent p = 0 := by
  rw [h.balance]
  simp [holding, Account.on]

theorem Accounts.leaked {iid eid : Int} {s₀ : Router} (hrr : env.schedulerType ≠ .roundRobin)
    (h : Accounts s (prefillAccount env s₀ iid eid)) : Leaked s := by
  have hpos : 0 < (allocateWorkload env s₀ .roleP).activeKvCache := by
    unfold allocateWorkload
    rw [if_neg hrr]
    exact calculatePrefillScores_pos _
  have hacc : prefillAccount env s₀ iid eid .roleP =
      some ((iid, eid), ⟨(allocateWorkload env s₀ .roleP).activeKvCache, 0⟩) := by
    simp [prefillAccount, releasedAccount, nothingLeft, releaseRest, hpos.not_ge]
  refine ⟨by rw [h.record, hacc]; rfl, (iid, eid), ?_⟩
  rw [h.balance, holding, hacc]
  simpa [prefillAccount, Account.on] using hpos

/-! ## A later leg -/

theorem Leaked.prepareAttempts (h : Leaked s) (n : Nat) (outcomes : List SelectOutcome) (lastError : Option String) :
    (∃ e, (prepareAttempts env .roleP n outcomes lastError s).1 = .error e) ∧
      Leaked (prepareAttempts env .roleP n outcomes lastError s).2 := by
  induction n generalizing s outcomes lastError with
  | zero => exact ⟨⟨_, rfl⟩, h.record, h.workload⟩
  | succ n ih =>
      unfold Router.prepareAttempts
      cases outcomes.head?.getD .nothing with
      | nothing applied => exact ih h _ _
      | cancelled applied => exact ⟨⟨_, rfl⟩, h⟩
      | allocated iid eid =>
          have hfst := s.requestManager.addReqWorkload_fst (s.reqInfo.reqId, .roleP) (allocateWorkload env s .roleP)
          obtain ⟨w, hw⟩ := Option.isSome_iff_exists.mp h.record
          rw [hw] at hfst
          dsimp only
          rcases he : s.requestManager.addReqWorkload (s.reqInfo.reqId, .roleP) (allocateWorkload env s .roleP) with
            ⟨b, rm⟩
          rw [he] at hfst
          cases hfst
          have hmore : Leaked { s with sent := s.sent ++ [((iid, eid), allocateWorkload env s .roleP)] } := by
            obtain ⟨p, hp⟩ := h.workload
            refine ⟨h.record, p, ?_⟩
            have hnn := (allocateWorkload_nonneg env s .roleP).1
            rw [balance_append, balance_singleton, Workload.add_kv]
            split
            · exact add_pos_of_pos_of_nonneg hp hnn
            · simpa using hp
          exact ih hmore _ _

theorem Leaked.congr {s' : Router} (h : Leaked s) (hid : s'.reqInfo.reqId = s.reqInfo.reqId)
    (hrm : s'.requestManager = s.requestManager) (hsent : s'.sent = s.sent) : Leaked s' where
  record := by rw [hid, hrm]; exact h.record
  workload := by rw [hsent]; exact h.workload

theorem Leaked.prepareResource (h : Leaked s) (outcomes : List SelectOutcome) :
    ∃ e s', prepareResource env .roleP outcomes s = (.error e, s') ∧ Leaked s' ∧ Frame s s' := by
  have hs : Leaked (s.updateState .pScheduling) := h.congr rfl rfl rfl
  obtain ⟨⟨e, he⟩, hl⟩ := hs.prepareAttempts env env.maxRetry outcomes none
  exact ⟨e, _, Prod.ext he rfl, hl, frame_prepareResource env s .roleP outcomes⟩

theorem Leaked.processSingleAttempt (h : Leaked s) (hretry : s.wantsRetry = false) (leg : PdLeg DecodeStream)
    (attempt : Nat) :
    Leaked (processSingleAttempt env leg attempt s).2 ∧
      (processSingleAttempt env leg attempt s).2.wantsRetry = false := by
  obtain ⟨e, s', hp, hl, hframe⟩ := h.prepareResource env leg.prefillSelect
  unfold Router.processSingleAttempt
  rw [hp]
  refine ⟨?_, (wantsRetry_prefillFailed env attempt e).trans (hframe.wantsRetry.trans hretry)⟩
  show Leaked (prefillFailed env attempt e s').2
  unfold prefillFailed
  split
  · exact hl
  · split
    · exact hl.congr rfl rfl rfl
    · unfold finishWithErrorChunk yieldOut
      split <;> (rename_i he; cases congrArg Prod.snd he; exact hl.congr rfl rfl rfl)

theorem Leaked.nonstreamSingleAttempt (h : Leaked s) (hretry : s.wantsRetry = false)
    (leg : PdLeg (Except Raised Json)) (attempt : Nat) :
    Leaked (nonstreamSingleAttempt env leg attempt s).2 ∧
      (nonstreamSingleAttempt env leg attempt s).2.wantsRetry = false := by
  obtain ⟨e, s', hp, hl, hframe⟩ := h.prepareResource env leg.prefillSelect
  have hw := hframe.wantsRetry.trans hretry
  unfold Router.nonstreamSingleAttempt
  rw [hp]
  show Leaked (nonstreamPrefillFailed env attempt e s').2 ∧ _
  unfold nonstreamPrefillFailed
  split
  · exact ⟨hl, hw⟩
  · split <;> exact ⟨hl.congr rfl rfl rfl, hw⟩

end PyMotor.Router

namespace PyMotor.PdHandler

open Lib Recompute Router

variable {h : PdHandler} (env : RouterEnv)

theorem router_afterStreamLeg (r : AttemptEnd × Router) :
    (afterStreamLeg env h r).router = r.2 ∨ (afterStreamLeg env h r).router = r.2.bumpIfRetry := by
  unfold afterStreamLeg
  split
  · exact .inl rfl
  · dsimp only
    split
    · exact .inr rfl
    · split <;> exact .inr rfl

theorem router_afterNonstreamLeg (r : Except Raised (Option JsonResponse) × Router) :
    (afterNonstreamLeg env h r).router = r.2 ∨ (afterNonstreamLeg env h r).router = r.2.bumpIfRetry := by
  unfold afterNonstreamLeg
  split
  · exact .inl rfl
  · exact .inl rfl
  · dsimp only
    split
    · exact .inr rfl
    · split <;> exact .inr rfl

theorem leaked_of_noRetry {s t : Router} (hl : Leaked s) (hw : s.wantsRetry = false)
    (ht : t = s ∨ t = s.bumpIfRetry) : Leaked t := by
  have hb : s.bumpIfRetry = s := by
    unfold bumpIfRetry
    rw [hw]
    rfl
  rw [hb, or_self] at ht
  rw [ht]
  exact hl

/-- The state between two legs: nothing is held while no leg has left KV cache. -/
def Between (leaves : Bool) (s : Router) : Prop :=
  if leaves = true ∧ env.schedulerType ≠ .roundRobin then Leaked s else Accounts s fun _ => none

theorem between_of_legAfter {s s' t : Router} {leaves : Bool} (hleg : LegAfter env s leaves s')
    (ht : t = s' ∨ t = s'.bumpIfRetry) : Between env leaves t := by
  have hsettled : (Accounts s' fun _ => none) → Accounts t fun _ => none := by
    intro ha
    rcases ht with rfl | rfl
    · exact ha
    · unfold bumpIfRetry
      split
      · exact ha.bumpReqId
      · exact ha
  unfold Between
  cases leaves with
  | false =>
      rw [if_neg (by simp)]
      exact hsettled hleg
  | true =>
      obtain ⟨iid, eid, ha, hw⟩ := hleg
      by_cases hrr : env.schedulerType = .roundRobin
      · rw [if_neg (by simp [hrr])]
        have hnone : prefillAccount env s iid eid = fun _ => none := by
          have hzero : allocateWorkload env s .roleP = {} := by unfold allocateWorkload; rw [if_pos hrr]
          unfold prefillAccount
          rw [hzero]
          exact Function.update_eq_self ..
        rw [hnone] at ha
        exact hsettled ha
      · rw [if_pos ⟨rfl, hrr⟩]
        exact leaked_of_noRetry (ha.leaked env hrr) hw ht

/-! ## Allocations that the client has given up on -/

theorem givenUp_workload {w : Workload} {outcome : SelectOutcome} {x : (Int × Int) × Workload}
    (hx : x ∈ givenUp w outcome) : x.2 = w := by
  unfold givenUp at hx
  split at hx
  · rw [List.mem_singleton.mp hx]
  · rw [List.mem_singleton.mp hx]
  · cases hx

theorem abandonedAttempts_workload {env : RouterEnv} {role : PDRole} {s : Router} {n : Nat}
    {outcomes : List SelectOutcome} {x : (Int × Int) × Workload} (hx : x ∈ abandonedAttempts env role s n outcomes) :
    x.2 = allocateWorkload env s role := by
  induction n generalizing outcomes with
  | zero => cases hx
  | succ n ih =>
      unfold abandonedAttempts at hx
      rcases List.mem_append.mp hx with hx | hx
      · exact givenUp_workload hx
      · split at hx
        · exact ih hx
        · cases hx
        · split at hx
          · cases hx
          · exact ih hx

theorem abandoned_workload {env : RouterEnv} {δ : Type} {s : Router} {leg : PdLeg δ} {x : (Int × Int) × Workload}
    (hx : x ∈ leg.abandoned env s) : ∃ s' role, x.2 = allocateWorkload env s' role := by
  unfold PdLeg.abandoned at hx
  rcases List.mem_append.mp hx with hx | hx
  · exact ⟨_, _, abandonedAttempts_workload hx⟩
  · split at hx
    · cases hx
    · split at hx
      · cases hx
      · exact ⟨_, _, abandonedAttempts_workload hx⟩

/-- Either nothing is held or KV cache is left, and no abandoned allocation is negative. -/
structure Kept (h : PdHandler) : Prop where
  router : Leaked h.router ∨ Accounts h.router fun _ => none
  nonneg : ∀ x ∈ h.abandoned, 0 ≤ x.2

/-- The scheduler holds something for the handler. -/
def Owing (h : PdHandler) : Prop := Leaked h.router ∨ ∃ x ∈ h.abandoned, x.2 ≠ 0

theorem not_released_of_leaked (hl : Leaked h.router) (hnonneg : ∀ x ∈ h.abandoned, 0 ≤ x.2) : ¬ h.Released := by
  intro hr
  obtain ⟨p, hp⟩ := hl.workload
  have hsum := add_pos_of_pos_of_nonneg hp (balance_nonneg hnonneg p).1
  rw [← Workload.add_kv, hr p] at hsum
  exact lt_irrefl _ hsum

theorem Kept.released_iff (hk : Kept h) : h.Released ↔ ¬ Owing h := by
  constructor
  · intro hr ho
    rcases hk.router with hl | ha
    · exact not_released_of_leaked hl hk.nonneg hr
    · rcases ho with hl | ⟨x, hx, hne⟩
      · exact not_released_of_leaked hl hk.nonneg hr
      · have hzero := hr x.1
        rw [ha.balance_none, zero_add] at hzero
        exact hne (eq_zero_of_balance hk.nonneg hzero x hx rfl)
  · intro ho p
    rcases hk.router with hl | ha
    · exact absurd (.inl hl) ho
    · rw [ha.balance_none, zero_add]
      refine balance_of_zero (fun x hx => ?_) p
      by_contra hne
      exact ho (.inr ⟨x, hx, hne⟩)

theorem streamLeg_leaked (hl : Leaked h.router) (leg : PdLeg DecodeStream) : Leaked (streamLeg env h leg).router := by
  unfold streamLeg
  split
  · exact hl
  · have hs : Leaked { h.router with
        firstChunkSent := false
        streamChunkSentToClient := false
        wantsRetry := false } := hl.congr rfl rfl rfl
    obtain ⟨hl', hw⟩ := hs.processSingleAttempt env rfl leg h.attempt
    exact leaked_of_noRetry hl' hw (router_afterStreamLeg env _)

theorem nonstreamLeg_leaked (hl : Leaked h.router) (leg : PdLeg (Except Raised Json)) :
    Leaked (nonstreamLeg env h leg).router := by
  unfold nonstreamLeg
  split
  · exact hl
  · have hs : Leaked { h.router with firstChunkSent := false, wantsRetry := false } := hl.congr rfl rfl rfl
    obtain ⟨hl', hw⟩ := hs.nonstreamSingleAttempt env rfl leg h.attempt
    exact leaked_of_noRetry hl' hw (router_afterNonstreamLeg env _)

theorem streamLeg_between {env : RouterEnv} (hroles : env.AnswersAsRequested) (ha : Accounts h.router fun _ => none)
    (leg : PdLeg DecodeStream) : Between env (streamLeaves env h leg) (streamLeg env h leg).router := by
  unfold streamLeg streamLeaves
  cases h.ended with
  | some e => simpa [Between] using ha
  | none =>
      have hs : Accounts { h.router with
          firstChunkSent := false
          streamChunkSentToClient := false
          wantsRetry := false } fun _ => none := ha.congr rfl rfl rfl
      exact between_of_legAfter env (hs.processSingleAttempt hroles rfl rfl leg h.attempt) (router_afterStreamLeg env _)

theorem nonstreamLeg_between {env : RouterEnv} (hroles : env.AnswersAsRequested) (ha : Accounts h.router fun _ => none)
    (leg : PdLeg (Except Raised Json)) : Between env (nonstreamLeaves env h leg) (nonstreamLeg env h leg).router := by
  unfold nonstreamLeg nonstreamLeaves
  cases h.ended with
  | some e => simpa [Between] using ha
  | none =>
      have hs : Accounts { h.router with firstChunkSent := false, wantsRetry := false } fun _ => none :=
        ha.congr rfl rfl rfl
      exact between_of_legAfter env (hs.nonstreamSingleAttempt hroles rfl rfl leg h.attempt)
        (router_afterNonstreamLeg env _)

/-- What a leg does to the accounts of a handler. -/
structure LegStep {δ : Type} (step : PdHandler → PdLeg δ → PdHandler) (leaves : PdHandler → PdLeg δ → Bool) : Prop where
  between : ∀ h leg, (Accounts h.router fun _ => none) → Between env (leaves h leg) (step h leg).router
  leaked : ∀ h leg, Leaked h.router → Leaked (step h leg).router
  abandoned : ∀ h leg,
    (step h leg).abandoned = h.abandoned ++ if h.ended.isNone then leg.abandoned env h.router else []

section Run

variable {δ : Type} {step : PdHandler → PdLeg δ → PdHandler} {leaves : PdHandler → PdLeg δ → Bool} {env}

theorem LegStep.kept (hstep : LegStep env step leaves) (h : PdHandler) (leg : PdLeg δ) (hk : Kept h) :
    Kept (step h leg) where
  router := by
    rcases hk.router with hl | ha
    · exact .inl (hstep.leaked h leg hl)
    · have hb := hstep.between h leg ha
      unfold Between at hb
      split at hb
      · exact .inl hb
      · exact .inr hb
  nonneg x hx := by
    rw [hstep.abandoned] at hx
    rcases List.mem_append.mp hx with hx | hx
    · exact hk.nonneg x hx
    · split at hx
      · obtain ⟨s, role, hw⟩ := abandoned_workload hx
        rw [hw]
        exact allocateWorkload_nonneg env s role
      · cases hx

theorem LegStep.owing (hstep : LegStep env step leaves) (h : PdHandler) (leg : PdLeg δ) (ho : Owing h) :
    Owing (step h leg) := by
  rcases ho with hl | ⟨x, hx, hne⟩
  · exact .inl (hstep.leaked h leg hl)
  · refine .inr ⟨x, ?_, hne⟩
    rw [hstep.abandoned]
    exact List.mem_append_left _ hx

/-- A leg after which the scheduler holds something leaves KV cache or has an abandoned allocation. -/
theorem LegStep.owing_iff (hstep : LegStep env step leaves) (hk : Kept h) (ho : ¬ Owing h) (leg : PdLeg δ) :
    Owing (step h leg) ↔ env.schedulerType ≠ .roundRobin ∧ ¬ (leaves h leg = false ∧ abandons env h leg = false) := by
  have ha : Accounts h.router fun _ => none := hk.router.resolve_left fun hl => ho (.inl hl)
  have hb := hstep.between h leg ha
  unfold Between at hb
  constructor
  · rintro (hl | ⟨x, hx, hne⟩)
    · split at hb
      · rename_i hcond
        exact ⟨hcond.2, fun hno => by rw [hcond.1] at hno; exact nomatch hno.1⟩
      · obtain ⟨p, hp⟩ := hl.workload
        rw [hb.balance_none] at hp
        exact absurd hp (lt_irrefl _)
    · rw [hstep.abandoned] at hx
      rcases List.mem_append.mp hx with hx | hx
      · exact absurd (.inr ⟨x, hx, hne⟩) ho
      · split at hx
        · rename_i hnone
          refine ⟨fun hrr => hne ?_, fun hno => ?_⟩
          · obtain ⟨s, role, hw⟩ := abandoned_workload hx
            rw [hw]
            unfold allocateWorkload
            rw [if_pos hrr]
            rfl
          · have hany : (leg.abandoned env h.router).any (fun x => x.2 ≠ 0) = true :=
              List.any_eq_true.mpr ⟨x, hx, by simpa using hne⟩
            rw [abandons, hnone, hany] at hno
            exact nomatch hno.2
        · cases hx
  · rintro ⟨hrr, hno⟩
    cases hl : leaves h leg with
    | true =>
        rw [if_pos ⟨hl, hrr⟩] at hb
        exact .inl hb
    | false =>
        have hab : abandons env h leg = true := by
          cases hab : abandons env h leg with
          | true => rfl
          | false => exact absurd ⟨hl, hab⟩ hno
        obtain ⟨hnone, hany⟩ := Bool.and_eq_true_iff.mp hab
        obtain ⟨x, hx, hne⟩ := List.any_eq_true.mp hany
        refine .inr ⟨x, ?_, by simpa using hne⟩
        rw [hstep.abandoned, if_pos hnone]
        exact List.mem_append_right _ hx

/-- A run releases everything exactly when none of its legs leaves KV cache or has an allocation that the client
has given up on. -/
theorem LegStep.released_run_iff (hstep : LegStep env step leaves) (hk : Kept h) (ho : ¬ Owing h)
    (legs : List (PdLeg δ)) :
    (run step h legs).Released ↔ env.schedulerType = .roundRobin ∨
      Along step (fun h leg => leaves h leg = false ∧ abandons env h leg = false) h legs := by
  induction legs generalizing h with
  | nil => exact ⟨fun _ => .inr trivial, fun _ => hk.released_iff.mpr ho⟩
  | cons leg legs ih =>
      have hone := hstep.owing_iff hk ho leg
      rw [run_cons]
      by_cases hs : Owing (step h leg)
      · have hrun := run_invariant' hstep.owing hs legs
        have hkrun := run_invariant' hstep.kept (hstep.kept h leg hk) legs
        obtain ⟨hrr, hno⟩ := hone.mp hs
        refine ⟨fun hr => absurd hrun (hkrun.released_iff.mp hr), ?_⟩
        rintro (h' | h')
        · exact absurd h' hrr
        · exact absurd h'.1 hno
      · rw [ih (hstep.kept h leg hk) hs]
        have hor := mt hone.mpr hs
        constructor
        · rintro (h' | h')
          · exact .inl h'
          · by_cases hrr : env.schedulerType = .roundRobin
            · exact .inl hrr
            · exact .inr ⟨by_contra fun hno => hor ⟨hrr, hno⟩, h'⟩
        · rintro (h' | h')
          · exact .inl h'
          · exact .inr h'.2

end Run

theorem streamLeg_legStep {env : RouterEnv} (hroles : env.AnswersAsRequested) :
    LegStep env (streamLeg env) (streamLeaves env) where
  between _ leg ha := streamLeg_between hroles ha leg
  leaked _ leg hl := streamLeg_leaked env hl leg
  abandoned h leg := by
    unfold streamLeg
    cases h.ended with
    | some e => simp
    | none => rfl

theorem nonstreamLeg_legStep {env : RouterEnv} (hroles : env.AnswersAsRequested) :
    LegStep env (nonstreamLeg env) (nonstreamLeaves env) where
  between _ leg ha := nonstreamLeg_between hroles ha leg
  leaked _ leg hl := nonstreamLeg_leaked env hl leg
  abandoned h leg := by
    unfold nonstreamLeg
    cases h.ended with
    | some e => simp
    | none => rfl

section Start

variable {info : RequestInfo} {rm : RequestManager} {exhausted : HandlerEnd}

theorem accounts_start (hrm : Unrecorded { reqInfo := info, requestManager := rm }) :
    Accounts { reqInfo := info, requestManager := rm } fun _ => none where
  records id hown role := by
    rw [Option.map_none, ite_self]
    exact hrm id hown role
  balance p := by simp [holding, Account.on]

theorem kept_start (hrm : Unrecorded { reqInfo := info, requestManager := rm }) :
    Kept (start env exhausted { reqInfo := info, requestManager := rm }) where
  router := .inr (accounts_start hrm)
  nonneg _ hx := nomatch hx

theorem not_owing_start : ¬ Owing (start env exhausted { reqInfo := info, requestManager := rm }) := by
  rintro (hl | ⟨x, hx, -⟩)
  · obtain ⟨p, hp⟩ := hl.workload
    exact absurd hp (lt_irrefl _)
  · cases hx

end Start

end PyMotor.PdHandler
