import PyMotor.Recompute.Lemmas.Nonstream
import PyMotor.Router.Lemmas.PdHandler
import PyMotor.Router.Lemmas.Runs

/-!
# Legs that are served
-/

namespace PyMotor.Router

open Lib Recompute RequestManager

variable {s : Router} (env : RouterEnv) {body : JsonObj}

theorem genDRequest_edit {env : RouterEnv} {respJson : Json} {reqData : JsonObj}
    (h : genDRequest env s respJson = .ok reqData) : DecodeEdit s.reqInfo.reqData reqData := by
  obtain ⟨resp, -, h⟩ := bind_eq_ok.mp h
  cases h
  intro k hkv hreturn
  rw [JsonObj.get?_set_ne hreturn]
  split
  · exact JsonObj.get?_set_ne hkv _ _
  · rfl

theorem attach_edit (reqData : JsonObj) : DecodeEdit reqData (attachCdpDecodeKvParams env reqData) := by
  intro k hkv hreturn
  unfold attachCdpDecodeKvParams
  rw [JsonObj.get?_set_ne hreturn, JsonObj.get?_set_ne hkv]

theorem clientBody_normal (h : NormalBody body) (s : Router) :
    ∃ content, s.clientBody body = .ok content ∧ bodyText content = bodyText body := by
  unfold clientBody
  exact h.clientText _ _ _ fun hadapts => (Bool.and_eq_true_iff.mp hadapts).2

theorem nonstreamSingleAttempt_served {env : RouterEnv} (hroles : env.AnswersAsRequested) {leg : PdLeg (Except Raised Json)} (h : Accounts s fun _ => none)
    (hleg : leg.Served env body) (attempt : Nat) :
    ∃ prefill decode s' reqData, Frame s s' ∧ DecodeEdit s.reqInfo.reqData reqData ∧
      nonstreamSingleAttempt env leg attempt s =
        afterNonstreamBody env attempt prefill decode (nonstreamBody env reqData (.obj body) prefill s') := by
  obtain ⟨iidP, eidP, hselP⟩ := hleg.prefillSelect
  obtain ⟨resp, hresp⟩ := hleg.prefill
  obtain ⟨iidD, eidD, hselD⟩ := hleg.decodeSelect
  unfold nonstreamSingleAttempt
  rcases prefill_cases hroles h leg.prefillSelect leg.prefill with
    ⟨e, s', -, -, -, hsel⟩ | ⟨iid, eid, s₁, hp, -, hrest⟩
  · exact absurd hselP (hsel iidP eidP)
  · rw [hp]
    rcases hrest with ⟨e, hanswer, -⟩ | ⟨respJson, s₂, hanswer, hforward, hrelease, hframe, hs⟩
    · rw [hresp] at hanswer
      cases hanswer
    · rw [hresp] at hanswer
      cases hanswer
      dsimp only
      rw [hforward]
      dsimp only
      rw [hrelease]
      unfold nonstreamDecodePhase
      have hframeD := frame_prepareResource env s₂ .roleD leg.decodeSelect
      have hnone : prefillAccount env s iid eid .roleD = none := rfl
      rcases hs.prepareResource hroles hnone leg.decodeSelect with ⟨e, -, hcase, -⟩ | ⟨iid', eid', he, -, -⟩
      · rcases hcase with ⟨hn, -⟩ | ⟨⟨applied, hn⟩, -⟩ <;> (rw [hselD] at hn; cases hn)
      · rcases hpD : prepareResource env .roleD leg.decodeSelect s₂ with ⟨result, s₃⟩
        rw [hpD] at he hframeD
        dsimp only at he
        subst he
        have hframe' := hframe.trans hframeD
        have hreq : ∃ reqData, genDRequest env s₃ (.obj resp) = .ok reqData := ⟨_, rfl⟩
        obtain ⟨reqData, hreq⟩ := hreq
        have hedit := genDRequest_edit hreq
        rw [show s₃.reqInfo.reqData = s.reqInfo.reqData from hframe'.reqData] at hedit
        dsimp only
        rw [hreq, hleg.decode]
        exact ⟨_, _, s₃, reqData, hframe', hedit, rfl⟩

theorem checkRecomputeLimit_lt {env : RouterEnv} (h : s.retryCount < env.recomputeRetryLimit) :
    s.checkRecomputeLimit env = .ok () := by
  simp [checkRecomputeLimit, recomputeLimitReached, Nat.not_le.mpr h]

/-- The router after `_prepare_recompute_retry`. -/
def retried (retry : RetryRequest) (s : Router) : Router :=
  { s with
    retryCount := s.retryCount + 1
    reqInfo := { s.reqInfo with
      reqData := retry.reqData
      reqLen := retry.reqLen
      api := retry.api.getD s.reqInfo.api
      recomputeEngineMode := retry.recomputeEngineMode } }

theorem recompute_accepted {env : RouterEnv} (hb : RecomputedBody body) {reqData : JsonObj}
    (heligible : Eligible reqData) (henabled : env.recomputeEnabled = true) :
    ∃ track retry, buildRequestInfoForNonstreamRecompute reqData body = .ok track ∧ Eligible retry.reqData ∧
      ∀ s : Router, s.prepareRecomputeRetry env reqData track = .ok (s.retried retry) := by
  obtain ⟨track, allIds, promptIds, hbuild, hkv, hchat, horigin⟩ := hb.build heligible
  obtain ⟨retry, hretry, heligible'⟩ := heligible.prepareRetryRequest env.codec hkv hchat horigin
  refine ⟨track, retry, hbuild, heligible', fun s => ?_⟩
  simp [prepareRecomputeRetry, retried, henabled, hretry, bind, Except.bind, pure, Except.pure]

theorem nonstreamBody_recomputed {env : RouterEnv} (hb : RecomputedBody body) {reqData : JsonObj}
    (heligible : Eligible reqData) (henabled : env.recomputeEnabled = true)
    (hlimit : s.retryCount < env.recomputeRetryLimit) (prefill : ScheduledResource) :
    ∃ s', nonstreamBody env reqData (.obj body) prefill s = (.ok none, s') ∧ Eligible s'.reqInfo.reqData ∧
      s'.retryCount = s.retryCount + 1 ∧ s'.wantsRetry = true ∧ s'.isFinished = s.isFinished := by
  obtain ⟨track, retry, hbuild, heligible', hprepare⟩ := recompute_accepted hb heligible henabled
  have hframe := frame_updateWorkload (s := updateState { s with wantsRetry := true } .recompute) prefill .releaseKv
  simp only [nonstreamBody, Json.asObj, hb.recomputed, nonstreamRecompute, henabled, Bool.not_true, Bool.false_eq_true,
    if_false, checkRecomputeLimit_lt hlimit, hb.valid, hbuild, hprepare]
  exact ⟨_, rfl, heligible', congrArg (· + 1) hframe.retryCount, hframe.wantsRetry, hframe.isFinished⟩

theorem cdpNonstreamBody_recomputed {env : RouterEnv} (hb : RecomputedBody body) {reqData : JsonObj}
    (heligible : Eligible reqData) (henabled : env.recomputeEnabled = true)
    (hlimit : s.retryCount < env.recomputeRetryLimit) :
    ∃ retry, cdpNonstreamBody env reqData (.obj body) s =
        (.ok none, retry.reqData, (s.updateState .recompute).retried retry) ∧ Eligible retry.reqData := by
  obtain ⟨track, retry, hbuild, heligible', hprepare⟩ := recompute_accepted hb heligible henabled
  refine ⟨retry, ?_, heligible'⟩
  simp only [cdpNonstreamBody, Json.asObj, hb.recomputed, cdpNonstreamRecompute, henabled, Bool.not_true,
    Bool.false_eq_true, if_false, checkRecomputeLimit_lt hlimit, hb.valid, hbuild, hprepare]
  rfl

end PyMotor.Router

namespace PyMotor.PdHandler

open Lib Recompute Router

variable {env : RouterEnv} {h : PdHandler} {leg : PdLeg (Except Raised Json)} {body : JsonObj}

/-- A handler that can serve a leg. -/
structure Ready (h : PdHandler) : Prop where
  running : h.ended = none
  unfinished : h.router.isFinished = false
  accounts : Accounts h.router fun _ => none
  eligible : Eligible h.router.reqInfo.reqData

theorem served_leavesKv (hleg : leg.Served env body) : nonstreamLeaves env h leg = false := by
  obtain ⟨iidP, eidP, hselP⟩ := hleg.prefillSelect
  obtain ⟨resp, hresp⟩ := hleg.prefill
  obtain ⟨iidD, eidD, hselD⟩ := hleg.decodeSelect
  simp [nonstreamLeaves, PdLeg.leavesKv, PdLeg.nonstreamDecodeLeavesKv, hselP, hresp, hselD, hleg.decode]

theorem Ready.recomputed (hroles : env.AnswersAsRequested) (hr : Ready h) (hleg : leg.Served env body) (hb : RecomputedBody body)
    (henabled : env.recomputeEnabled = true) (hlimit : h.router.retryCount < env.recomputeRetryLimit) :
    Ready (nonstreamLeg env h leg) ∧ (nonstreamLeg env h leg).router.retryCount = h.router.retryCount + 1 := by
  have hbetween := nonstreamLeg_between hroles hr.accounts leg
  rw [served_leavesKv hleg] at hbetween
  have haccounts : Accounts (nonstreamLeg env h leg).router fun _ => none := by simpa [Between] using hbetween
  have hs : Accounts { h.router with firstChunkSent := false, wantsRetry := false } fun _ => none :=
    hr.accounts.congr rfl rfl rfl
  obtain ⟨prefill, decode, s, reqData, hframe, hedit, hattempt⟩ := nonstreamSingleAttempt_served hroles hs hleg h.attempt
  obtain ⟨s', hbody, heligible, hcount, hretry, hfin⟩ := nonstreamBody_recomputed (s := s) hb (hr.eligible.edit hedit)
    henabled (by rw [hframe.retryCount]; exact hlimit) prefill
  have hreleased := frame_updateWorkload (s := s') decode .releaseTokens
  obtain ⟨hcount', -, hfinished, hretry'⟩ := bumpIfRetry_same (s'.releaseTokens decode)
  have hfin' : (s'.releaseTokens decode).isFinished = false :=
    hreleased.isFinished.trans (hfin.trans (hframe.isFinished.trans hr.unfinished))
  have hstep : nonstreamLeg env h leg = { h with
      router := (s'.releaseTokens decode).bumpIfRetry
      abandoned := h.abandoned ++ leg.abandoned env h.router } := by
    unfold nonstreamLeg
    rw [hr.running]
    dsimp only
    rw [hattempt, hbody]
    simp only [afterNonstreamBody, afterNonstreamLeg]
    rw [if_neg (by rw [hfinished, hfin']; decide), if_pos (by rw [hretry']; exact hreleased.wantsRetry.trans hretry),
      hr.running]
  refine ⟨⟨?_, ?_, haccounts, ?_⟩, ?_⟩
  · rw [hstep]
    exact hr.running
  · rw [hstep]
    exact hfinished.trans hfin'
  · rw [hstep]
    have hdata : (s'.releaseTokens decode).bumpIfRetry.reqInfo.reqData = s'.reqInfo.reqData := by
      unfold bumpIfRetry
      split <;> exact hreleased.reqData
    exact hdata ▸ heligible
  · rw [hstep]
    exact hcount'.trans (hreleased.retryCount.trans (hcount.trans (congrArg (· + 1) hframe.retryCount)))

theorem Ready.normal (hroles : env.AnswersAsRequested) (hr : Ready h) (hleg : leg.Served env body) (hb : NormalBody body) :
    respondedText (nonstreamLeg env h leg).ended = some (bodyText body) := by
  have hs : Accounts { h.router with firstChunkSent := false, wantsRetry := false } fun _ => none :=
    hr.accounts.congr rfl rfl rfl
  obtain ⟨prefill, decode, s, reqData, -, -, hattempt⟩ := nonstreamSingleAttempt_served hroles hs hleg h.attempt
  obtain ⟨content, hclient, htext⟩ := clientBody_normal hb { s.releaseKv prefill with firstChunkSent := true }
  unfold nonstreamLeg
  rw [hr.running]
  dsimp only
  rw [hattempt]
  simp only [nonstreamBody, Json.asObj, hb.normal, hclient, Except.map, afterNonstreamBody, afterNonstreamLeg]
  exact congrArg some htext

theorem Ready.run (hroles : env.AnswersAsRequested) {bodies : List JsonObj} {legs : List (PdLeg (Except Raised Json))} (hr : Ready h)
    (hlegs : List.Forall₂ (fun leg body => leg.Served env body) legs bodies)
    (hbodies : ∀ body ∈ bodies, RecomputedBody body) (henabled : env.recomputeEnabled = true)
    (hlimit : h.router.retryCount + bodies.length ≤ env.recomputeRetryLimit) : Ready (Lib.run (nonstreamLeg env) h legs) := by
  induction hlegs generalizing h with
  | nil => exact hr
  | cons hleg _ ih =>
      rw [List.length_cons] at hlimit
      obtain ⟨hr', hcount⟩ := hr.recomputed hroles hleg (hbodies _ (List.mem_cons_self ..)) henabled (by omega)
      exact ih hr' (fun body hb => hbodies body (List.mem_cons_of_mem _ hb)) (by omega)

end PyMotor.PdHandler

namespace PyMotor.CdpHandler

open Lib Recompute Router

variable {env : RouterEnv} {h : CdpHandler} {leg : CdpLeg (Except Raised Json)} {body : JsonObj}

/-- A handler that can serve a leg. -/
structure Ready (h : CdpHandler) : Prop where
  running : h.ended = none
  accounts : Accounts h.router fun _ => none
  eligible : Eligible h.reqData

theorem responseLeg_served (hroles : env.AnswersAsRequested) (hr : Ready h) (hleg : leg.Served env body) :
    ∃ iid eid s, SameRouter h.router s ∧
      Accounts s (Function.update (fun _ => none) .roleD (some ((iid, eid), allocateWorkload env h.router .roleD))) ∧
      responseLeg env h leg = afterBody env leg.sleepCancelled (scheduledResource .roleD iid eid)
        { h with reqData := attachCdpDecodeKvParams env h.reqData }
        (cdpNonstreamBody env (attachCdpDecodeKvParams env h.reqData) (.obj body) s) := by
  obtain ⟨iid, eid, hsel⟩ := hleg.decodeSelect
  have haccounts : Accounts h.enterContext fun _ => none := hr.accounts.addReqInfo _ _
  have hsame := sameRouter_prepared env h leg.decodeSelect
  rcases haccounts.prepareResource hroles (a := fun _ => none) rfl leg.decodeSelect with
    ⟨e, -, hcase, -⟩ | ⟨iid', eid', he, -, hs⟩
  · rcases hcase with ⟨hn, -⟩ | ⟨⟨applied, hn⟩, -⟩ <;> (rw [hsel] at hn; cases hn)
  · rcases hp : prepareResource env .roleD leg.decodeSelect h.enterContext with ⟨result, s⟩
    rw [hp] at he hs hsame
    dsimp only at he
    subst he
    refine ⟨iid', eid', s, hsame, hs, ?_⟩
    have hp' : prepareResource env .roleD leg.decodeSelect
        (enterContext { h with reqData := attachCdpDecodeKvParams env h.reqData, ended := none }) =
          (.ok (scheduledResource .roleD iid' eid'), s) := hp
    unfold responseLeg
    rw [hr.running]
    dsimp only
    rw [hp', hleg.decode]

theorem accounts_left {iid eid : Int} {s : Router} {w : Workload}
    (hs : Accounts s (Function.update (fun _ => none) .roleD (some ((iid, eid), w)))) (hw : 0 ≤ w)
    (hkv : w.activeKvCache ≤ 0) (h : CdpHandler) :
    Accounts (h.leaveContext (s.releaseTokens (scheduledResource .roleD iid eid))).router fun _ => none :=
  (hs.releaseDecode_none rfl hw hkv).delReqInfo (fun _ => rfl) _

theorem Ready.recomputed (hroles : env.AnswersAsRequested) (hr : Ready h) (hleg : leg.Served env body) (hb : RecomputedBody body)
    (henabled : env.recomputeEnabled = true) (hlimit : h.router.retryCount < env.recomputeRetryLimit) :
    if h.attempt + 1 < env.transportRetryLimit then
      Ready (responseLeg env h leg) ∧ (responseLeg env h leg).attempt = h.attempt + 1 ∧
        (responseLeg env h leg).router.retryCount = h.router.retryCount + 1
    else (responseLeg env h leg).ended = some .returned := by
  obtain ⟨iid, eid, s, hsame, hs, hstep⟩ := responseLeg_served hroles hr hleg
  obtain ⟨retry, hbody, heligible⟩ := cdpNonstreamBody_recomputed (s := s) hb
    (hr.eligible.edit (attach_edit env h.reqData)) henabled (by rw [hsame.count]; exact hlimit)
  have hs' : Accounts ((s.updateState .recompute).retried retry) _ := hs.congr rfl rfl rfl
  have hleft := accounts_left hs' (allocateWorkload_nonneg env h.router .roleD) (allocateWorkload_decode_kv env h.router)
    { h with reqData := retry.reqData }
  have hframe := frame_updateWorkload (s := (s.updateState .recompute).retried retry)
    (scheduledResource .roleD iid eid) .releaseTokens
  rw [hstep, hbody]
  simp only [afterBody]
  by_cases hlt : h.attempt + 1 < env.transportRetryLimit
  · have hnext : ∀ h' : CdpHandler, h'.attempt = h.attempt → h'.nextAttempt env =
        { h' with router := { h'.router with streamChunkSentToClient := false }, attempt := h.attempt + 1 } := by
      intro h' he
      rw [nextAttempt, he, if_pos hlt]
    rw [if_pos hlt, hnext]
    · refine ⟨⟨?_, ?_, heligible⟩, rfl, ?_⟩
      · exact hr.running
      · exact hleft.congr rfl rfl rfl
      · exact hframe.retryCount.trans (congrArg (· + 1) hsame.count)
    · rfl
  · have hnext : ∀ h' : CdpHandler, h'.attempt = h.attempt → (h'.nextAttempt env).ended = some .returned := by
      intro h' he
      rw [nextAttempt, he, if_neg hlt]
    rw [if_neg hlt]
    exact hnext _ rfl

theorem Ready.normal (hroles : env.AnswersAsRequested) (hr : Ready h) (hleg : leg.Served env body) (hb : NormalBody body) :
    respondedText (responseLeg env h leg).ended = some (bodyText body) := by
  obtain ⟨iid, eid, s, -, -, hstep⟩ := responseLeg_served hroles hr hleg
  obtain ⟨content, hclient, htext⟩ := clientBody_normal hb (s.updateState .decodeEnd)
  rw [hstep]
  simp only [cdpNonstreamBody, Json.asObj, hb.normal, hclient, Except.map, afterBody]
  exact congrArg some htext

/-- The attempts bound the recomputes: the handler is ready for another leg, or it has returned nothing. -/
theorem Ready.run (hroles : env.AnswersAsRequested) {bodies : List JsonObj} {legs : List (CdpLeg (Except Raised Json))} (hr : Ready h)
    (hattempt : h.attempt < env.transportRetryLimit)
    (hlegs : List.Forall₂ (fun leg body => leg.Served env body) legs bodies)
    (hbodies : ∀ body ∈ bodies, RecomputedBody body) (henabled : env.recomputeEnabled = true)
    (hlimit : h.router.retryCount + bodies.length ≤ env.recomputeRetryLimit) :
    if h.attempt + bodies.length < env.transportRetryLimit then Ready (Lib.run (responseLeg env) h legs)
    else (Lib.run (responseLeg env) h legs).ended = some .returned := by
  induction hlegs generalizing h with
  | nil =>
      rw [if_pos (by simpa using hattempt)]
      exact hr
  | @cons leg body legs bodies hleg _ ih =>
      rw [List.length_cons] at hlimit ⊢
      have hstep := hr.recomputed hroles hleg (hbodies _ (List.mem_cons_self ..)) henabled (by omega)
      by_cases hlt : h.attempt + 1 < env.transportRetryLimit
      · rw [if_pos hlt] at hstep
        obtain ⟨hr', hattempt', hcount⟩ := hstep
        have hrest := ih hr' (by omega) (fun body hb => hbodies body (List.mem_cons_of_mem _ hb)) (by omega)
        rw [hattempt', Nat.add_assoc, Nat.add_comm 1] at hrest
        exact hrest
      · rw [if_neg hlt] at hstep
        rw [if_neg (by omega), run_cons, run_of_fixed (responseLeg_ended (by rw [hstep]; rfl)), hstep]

end PyMotor.CdpHandler
