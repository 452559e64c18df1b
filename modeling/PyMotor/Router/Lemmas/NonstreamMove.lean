import PyMotor.Router.Lemmas.CdpMove

/-!
# The moves of a leg without streaming
-/

namespace PyMotor.Router

open Lib Recompute

variable {s : Router} {env : RouterEnv}

/-- What the answer of the engine comes to: a body, a counted recompute, or an exception. An exception after which
another leg is wanted has lost the count. -/
inductive BodyMove (env : RouterEnv) (s : Router) (lost : Prop) (s' : Router) : Except PyException (Option JsonObj) → Prop
  | body (content : JsonObj) : BodyMove env s lost s' (.ok (some content))
  | recompute (count : s'.retryCount = s.retryCount + 1) (limit : s.retryCount < env.recomputeRetryLimit)
      (retry : s'.wantsRetry = true) (finished : s'.isFinished = s.isFinished) : BodyMove env s lost s' (.ok none)
  | error {e : PyException} (count : s'.retryCount = s.retryCount) (finished : s'.isFinished = s.isFinished)
      (h : s'.wantsRetry = false ∨ e.isHttp = true ∨ s'.firstChunkSent = true ∨ lost) : BodyMove env s lost s' (.error e)

theorem BodyMove.mono {lost lost' : Prop} {s' : Router} {result : Except PyException (Option JsonObj)}
    (h : BodyMove env s lost s' result) (himp : lost → lost') : BodyMove env s lost' s' result := by
  cases h with
  | body content => exact .body content
  | recompute count limit retry finished => exact .recompute count limit retry finished
  | error count finished h => exact .error count finished (h.imp_right (Or.imp_right (Or.imp_right himp)))

theorem nonstreamRecompute_move (hretry : s.wantsRetry = false) (reqData body : JsonObj) (prefill : ScheduledResource) :
    BodyMove env s (losesCount env s reqData body = true) (nonstreamRecompute env reqData body prefill s).2
      (nonstreamRecompute env reqData body prefill s).1 := by
  unfold nonstreamRecompute
  cases henabled : env.recomputeEnabled with
  | false => exact .error rfl rfl (.inl hretry)
  | true =>
      cases hlimit : s.checkRecomputeLimit env with
      | error e => exact .error rfl rfl (.inl hretry)
      | ok u =>
          have hlt := checkRecomputeLimit_ok hlimit
          have hreached : recomputeLimitReached s.retryCount env.recomputeRetryLimit = false := by
            simp [recomputeLimitReached, Nat.not_le.mpr hlt]
          have hlost : ∀ (e : PyException) (s' : Router), losesCount env s reqData body = !e.isHttp →
              s'.wantsRetry = false ∨ e.isHttp = true ∨ s'.firstChunkSent = true ∨
                losesCount env s reqData body = true := by
            intro e s' he
            cases hh : e.isHttp with
            | true => exact .inr (.inl rfl)
            | false => exact .inr (.inr (.inr (by rw [he, hh]; rfl)))
          dsimp only
          cases hv : validateNonstreamRecomputeBody body with
          | error e => exact .error rfl rfl (hlost e _ (by simp [losesCount, henabled, hreached, hv]))
          | ok u =>
              cases hb : buildRequestInfoForNonstreamRecompute reqData body with
              | error e => exact .error rfl rfl (hlost e _ (by simp [losesCount, henabled, hreached, hv, hb]))
              | ok track =>
                  have hframe := frame_updateWorkload (s := updateState { s with wantsRetry := true } .recompute)
                    prefill .releaseKv
                  dsimp only
                  cases hp : prepareRecomputeRetry env reqData track
                    (releaseKv prefill (updateState { s with wantsRetry := true } .recompute)) with
                  | error e =>
                      have hretry : prepareRetryRequest env.codec reqData track = .error e :=
                        prepareRecomputeRetry_error henabled hp
                      exact .error hframe.retryCount hframe.isFinished (hlost e _ (by simp [losesCount, henabled, hreached, hv, hb, hretry]))
                  | ok s' =>
                      obtain ⟨retry, -, rfl⟩ := prepareRecomputeRetry_ok hp
                      exact .recompute (congrArg (· + 1) hframe.retryCount) hlt hframe.wantsRetry hframe.isFinished

/-- The answer is a recomputed body whose recompute is not counted. -/
def LosesAnswer (env : RouterEnv) (s : Router) (reqData : JsonObj) (answer : Json) : Prop :=
  ∃ body, answer = .obj body ∧ isRecomputedNonstreamResponse body = .ok true ∧ losesCount env s reqData body = true

theorem nonstreamBody_move (env : RouterEnv) (hretry : s.wantsRetry = false) (reqData : JsonObj) (answer : Json)
    (prefill : ScheduledResource) :
    BodyMove env s (LosesAnswer env s reqData answer) (nonstreamBody env reqData answer prefill s).2
      (nonstreamBody env reqData answer prefill s).1 := by
  unfold nonstreamBody
  cases hobj : answer.asObj with
  | error e => exact .error rfl rfl (.inl hretry)
  | ok body =>
      have hanswer := Json.asObj_ok hobj
      dsimp only
      cases hrec : isRecomputedNonstreamResponse body with
      | error e => exact .error rfl rfl (.inl hretry)
      | ok recomputed =>
          cases recomputed with
          | true =>
              exact (nonstreamRecompute_move hretry reqData body prefill).mono fun hl => ⟨body, hanswer, hrec, hl⟩
          | false =>
              have hframe := frame_updateWorkload (s := s) prefill .releaseKv
              dsimp only
              cases clientBody { s.releaseKv prefill with firstChunkSent := true } body with
              | error e => exact .error hframe.retryCount hframe.isFinished (.inr (.inr (.inl rfl)))
              | ok content => exact .body content

/-- What an attempt without streaming comes to. -/
inductive NonstreamAttempt (env : RouterEnv) (s : Router) (attempt : Nat) (lost : Prop) :
    Except Raised (Option JsonResponse) × Router → Prop
  | raised (e : Raised) (s' : Router) : NonstreamAttempt env s attempt lost (.error e, s')
  | responded (response : JsonResponse) (s' : Router) : NonstreamAttempt env s attempt lost (.ok (some response), s')
  | recompute (s' : Router) (count : s'.retryCount = s.retryCount + 1) (limit : s.retryCount < env.recomputeRetryLimit)
      (retry : s'.wantsRetry = true) (finished : s'.isFinished = false) : NonstreamAttempt env s attempt lost (.ok none, s')
  | retry (s' : Router) (count : s'.retryCount = s.retryCount) (limit : attempt + 1 ≠ env.transportRetryLimit)
      (h : s'.wantsRetry = false ∨ lost) (finished : s'.isFinished = false) :
      NonstreamAttempt env s attempt lost (.ok none, s')

variable {s' : Router} {attempt : Nat} {lost : Prop}

theorem nonstreamDecodeFailed_move (hcount : s'.retryCount = s.retryCount) (hfin : s'.isFinished = false)
    {e : PyException} (h : s'.wantsRetry = false ∨ e.isHttp = true ∨ s'.firstChunkSent = true ∨ lost)
    (prefill : ScheduledResource) :
    NonstreamAttempt env s attempt lost (nonstreamDecodeFailed env attempt prefill e s') := by
  have hframe : Frame s' (s'.handleStreamError prefill) := frame_handleStreamError prefill
  unfold nonstreamDecodeFailed
  split
  · exact .responded _ _
  · rename_i hnot
    dsimp only
    split
    · exact .responded _ _
    · rename_i hcond
      rw [Bool.or_eq_true, not_or, hframe.firstChunkSent] at hcond
      refine .retry _ (hframe.retryCount.trans hcount) (by simpa using hcond.2) ?_ (hframe.isFinished.trans hfin)
      rcases h with hw | hhttp | hfirst | hlost
      · exact .inl (hframe.wantsRetry.trans hw)
      · cases e with
        | httpException status detail => exact absurd rfl (hnot status detail)
        | _ => cases hhttp
      · exact absurd hfirst hcond.1
      · exact .inr hlost

theorem BodyMove.afterNonstreamBody {r : Except PyException (Option JsonObj) × Router} (h : BodyMove env s lost r.2 r.1)
    (hfin : s.isFinished = false) (prefill decode : ScheduledResource) :
    NonstreamAttempt env s attempt lost (afterNonstreamBody env attempt prefill decode r) := by
  obtain ⟨result, s'⟩ := r
  have hframe := frame_updateWorkload (s := s') decode .releaseTokens
  unfold Router.afterNonstreamBody
  cases h with
  | body content => exact .responded _ _
  | recompute count limit retry finished =>
      exact .recompute _ (hframe.retryCount.trans count) limit (hframe.wantsRetry.trans retry)
        (hframe.isFinished.trans (finished.trans hfin))
  | error count finished h =>
      refine nonstreamDecodeFailed_move (hframe.retryCount.trans count) (hframe.isFinished.trans (finished.trans hfin))
        ?_ prefill
      rw [hframe.wantsRetry, hframe.firstChunkSent]
      exact h

theorem nonstreamPrefillFailed_move (hcount : s'.retryCount = s.retryCount) (hretry : s'.wantsRetry = false)
    (e : Raised) : NonstreamAttempt env s attempt lost (nonstreamPrefillFailed env attempt e s') := by
  unfold nonstreamPrefillFailed
  split
  · exact .raised _ _
  · split
    · rename_i hlimit
      exact .retry _ hcount hlimit (.inl hretry) rfl
    · exact .responded _ _

theorem NonstreamAttempt.frame {r : Except Raised (Option JsonResponse) × Router} (h : NonstreamAttempt env s attempt lost r)
    (hframe : Frame r.2 s') : NonstreamAttempt env s attempt lost (r.1, s') := by
  cases h with
  | raised e s₁ => exact .raised _ _
  | responded response s₁ => exact .responded _ _
  | recompute s₁ count limit retry finished =>
      exact .recompute _ (hframe.retryCount.trans count) limit (hframe.wantsRetry.trans retry)
        (hframe.isFinished.trans finished)
  | retry s₁ count limit h finished =>
      exact .retry _ (hframe.retryCount.trans count) limit (h.imp_left hframe.wantsRetry.trans)
        (hframe.isFinished.trans finished)

/-- The count is lost in a leg that has got its decode resource. -/
def LosesLeg (env : RouterEnv) (s : Router) (leg : PdLeg (Except Raised Json)) (respJson : Json) : Prop :=
  ∃ reqData answer, genDRequest env s respJson = .ok reqData ∧ leg.decode = .ok answer ∧
    LosesAnswer env s reqData answer

theorem NonstreamAttempt.congr {s₁ : Router} {lost' : Prop} {r : Except Raised (Option JsonResponse) × Router}
    (h : NonstreamAttempt env s₁ attempt lost r) (hcount : s₁.retryCount = s.retryCount) (himp : lost → lost') :
    NonstreamAttempt env s attempt lost' r := by
  cases h with
  | raised e s₁ => exact .raised _ _
  | responded response s₁ => exact .responded _ _
  | recompute s₁ count limit retry finished =>
      rw [hcount] at count limit
      exact .recompute _ count limit retry finished
  | retry s₁ count limit h finished => exact .retry _ (count.trans hcount) limit (h.imp_right himp) finished

theorem LosesAnswer.congr {s₁ : Router} {reqData : JsonObj} {answer : Json} (h : LosesAnswer env s₁ reqData answer)
    (hcount : s₁.retryCount = s.retryCount) : LosesAnswer env s reqData answer := by
  obtain ⟨body, hanswer, hrec, hl⟩ := h
  refine ⟨body, hanswer, hrec, ?_⟩
  unfold losesCount at hl ⊢
  rw [← hcount]
  exact hl

theorem nonstreamDecodePhase_move (env : RouterEnv) (attempt : Nat) (hretry : s.wantsRetry = false) (hfin : s.isFinished = false)
    (leg : PdLeg (Except Raised Json)) (prefill : ScheduledResource) (respJson : Json) :
    NonstreamAttempt env s attempt
      ((∃ decode, (prepareResource env .roleD leg.decodeSelect s).1 = .ok decode) ∧ LosesLeg env s leg respJson)
      (nonstreamDecodePhase env leg attempt prefill respJson s) := by
  have hframe := frame_prepareResource env s .roleD leg.decodeSelect
  unfold nonstreamDecodePhase
  rcases hp : prepareResource env .roleD leg.decodeSelect s with ⟨result, s₁⟩
  rw [hp] at hframe
  have hretry₁ := hframe.wantsRetry.trans hretry
  have hfin₁ := hframe.isFinished.trans hfin
  cases result with
  | error e =>
      cases e with
      | cancelled => exact .raised _ _
      | exception e => exact nonstreamDecodeFailed_move hframe.retryCount hfin₁ (.inl hretry₁) prefill
  | ok decode =>
      have hreleased := hframe.trans (frame_updateWorkload decode .releaseTokens)
      have hfailed : ∀ (lost : Prop) (e : PyException), NonstreamAttempt env s attempt lost
          (nonstreamDecodeFailed env attempt prefill e (s₁.releaseTokens decode)) := fun lost e =>
        nonstreamDecodeFailed_move hreleased.retryCount (hreleased.isFinished.trans hfin)
          (.inl (hreleased.wantsRetry.trans hretry)) prefill
      dsimp only
      rw [genDRequest_frame hframe]
      cases hreq : genDRequest env s respJson with
      | error e => exact hfailed _ e
      | ok reqData =>
          cases hdecode : leg.decode with
          | error e =>
              cases e with
              | cancelled => exact .raised _ _
              | exception e => exact hfailed _ e
          | ok answer =>
              have hbody := nonstreamBody_move env hretry₁ reqData answer prefill
              refine (hbody.afterNonstreamBody hfin₁ prefill decode).congr hframe.retryCount fun hl => ?_
              exact ⟨⟨decode, rfl⟩, reqData, answer, hreq, hdecode, hl.congr hframe.retryCount⟩

/-- The leg gets as far as its decode engine, and the recompute that the engine asks for is not counted. -/
def Loses (env : RouterEnv) (s : Router) (leg : PdLeg (Except Raised Json)) : Prop :=
  ∃ respJson, leg.decodeAsked env s = some respJson ∧ LosesLeg env s leg respJson

theorem nonstreamSingleAttempt_move (env : RouterEnv) (attempt : Nat) (hretry : s.wantsRetry = false) (hfin : s.isFinished = false)
    (leg : PdLeg (Except Raised Json)) :
    NonstreamAttempt env s attempt (Loses env s leg) (nonstreamSingleAttempt env leg attempt s) := by
  have hframe := frame_prepareResource env s .roleP leg.prefillSelect
  unfold nonstreamSingleAttempt Loses PdLeg.decodeAsked
  rcases hp : prepareResource env .roleP leg.prefillSelect s with ⟨result, s₁⟩
  rw [hp] at hframe
  have hretry₁ := hframe.wantsRetry.trans hretry
  cases result with
  | error e => exact nonstreamPrefillFailed_move hframe.retryCount hretry₁ e
  | ok prefill =>
      cases hanswer : leg.prefill with
      | error e =>
          exact (nonstreamPrefillFailed_move hframe.retryCount hretry₁ e).frame (frame_releasePrefill prefill _)
      | ok respJson =>
          have hframe₂ := hframe.trans (frame_prefilled prefill s₁)
          have hdecode := nonstreamDecodePhase_move env attempt (hframe₂.wantsRetry.trans hretry)
            (hframe₂.isFinished.trans hfin) leg prefill respJson
          refine hdecode.congr hframe₂.retryCount ?_
          rintro ⟨⟨decode, hd⟩, reqData, answer, hreq, hans, hl⟩
          rw [genDRequest_frame hframe₂] at hreq
          refine ⟨respJson, ?_, reqData, answer, hreq, hans, hl.congr hframe₂.retryCount⟩
          simp only [forwardPRequest]
          split
          · rename_i he
            rw [he] at hd
            cases hd
          · rfl

end PyMotor.Router

namespace PyMotor

open Lib Recompute Router

/-- What a leg without streaming does: it ends the handler, it is recomputed, or the next attempt starts. -/
inductive NonstreamMove (env : RouterEnv) (h h' : PdHandler) : Prop
  | ended (ended : h'.ended.isSome = true)
  | recompute (ended : h'.ended = none) (attempt : h'.attempt = h.attempt)
      (limit : h.router.retryCount < env.recomputeRetryLimit) (count : h'.router.retryCount = h.router.retryCount + 1)
      (finished : h'.router.isFinished = false)
  | retry (ended : h'.ended = none) (attempt : h'.attempt = h.attempt + 1)
      (limit : h.attempt + 1 < env.transportRetryLimit) (count : h'.router.retryCount = h.router.retryCount)
      (finished : h'.router.isFinished = false)

namespace PdHandler

variable {env : RouterEnv} {h : PdHandler}

theorem losesRecompute_of_loses {leg : PdLeg (Except Raised Json)}
    (hl : Loses env { h.router with firstChunkSent := false, wantsRetry := false } leg)
    (hne : h.attempt + 1 ≠ env.transportRetryLimit) : h.losesRecompute env leg = true := by
  obtain ⟨respJson, hasked, reqData, answer, hreq, hdecode, body, rfl, hrec, hcount⟩ := hl
  have hreq' : genDRequest env h.router respJson = .ok reqData := hreq
  have hcount' : losesCount env h.router reqData body = true := hcount
  simp [losesRecompute, hne, hasked, hdecode, hreq', hrec, hcount']

theorem nonstreamLeg_move (hend : h.ended = none) (hfin : h.router.isFinished = false)
    (hlt : h.attempt < env.transportRetryLimit) {leg : PdLeg (Except Raised Json)}
    (hloses : h.losesRecompute env leg = false) : NonstreamMove env h (nonstreamLeg env h leg) := by
  unfold nonstreamLeg
  rw [hend]
  dsimp only
  generalize hs₀ : { h.router with firstChunkSent := false, wantsRetry := false } = s₀
  have hmove := nonstreamSingleAttempt_move (s := s₀) env h.attempt (by rw [← hs₀])
    (by rw [← hs₀]; exact hfin) leg
  have hcount₀ : s₀.retryCount = h.router.retryCount := by rw [← hs₀]
  generalize nonstreamSingleAttempt env leg h.attempt s₀ = r at hmove
  cases hmove with
  | raised e s => exact .ended rfl
  | responded response s => exact .ended rfl
  | recompute s count limit retry finished =>
      obtain ⟨hcount, -, hfinished, hretry⟩ := bumpIfRetry_same s
      simp only [afterNonstreamLeg, hfinished, finished, hretry, retry, Bool.false_eq_true, if_false, if_true]
      rw [hcount₀] at count limit
      exact .recompute hend rfl limit (hcount.trans count) (hfinished.trans finished)
  | retry s count limit hs finished =>
      obtain ⟨hcount, -, hfinished, hretry⟩ := bumpIfRetry_same s
      have hlt' : h.attempt + 1 < env.transportRetryLimit := by omega
      have hs' : s.wantsRetry = false := by
        rcases hs with hs | hl
        · exact hs
        · rw [← hs₀] at hl
          rw [losesRecompute_of_loses hl limit] at hloses
          cases hloses
      simp only [afterNonstreamLeg, hfinished, finished, hretry, hs', Bool.false_eq_true, if_false, nextAttempt, hlt',
        if_true]
      exact .retry rfl rfl hlt' (hcount.trans (count.trans hcount₀)) (hfinished.trans finished)

end PdHandler

end PyMotor
