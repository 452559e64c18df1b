import PyMotor.Router.Lemmas.CdpMove
import PyMotor.Router.Lemmas.NonstreamMove

/-!
# Runs of legs
-/

namespace PyMotor

open Lib Recompute Router

section Stream

variable {σ ε : Type} {env : RouterEnv} {step : σ → ε → σ} {view : σ → StreamView} {extra : σ → Prop}
  {normal : ε → Prop} {raises : σ → ε → Raised → Prop} {ok : σ → ε → Prop}

/-- The handler has not ended and has attempts left. -/
structure Live (env : RouterEnv) (v : StreamView) : Prop where
  running : v.ended = none
  attempt : v.attempt < env.transportRetryLimit

theorem Live.budget_pos {v : StreamView} (h : Live env v) : 0 < v.budget env := by
  have hlt := h.attempt
  unfold StreamView.budget
  omega

/-- Every leg that a live handler takes is a move, and keeps `extra`. -/
def MovesAlong (env : RouterEnv) (step : σ → ε → σ) (view : σ → StreamView) (extra : σ → Prop) (normal : ε → Prop)
    (raises : σ → ε → Raised → Prop) (ok : σ → ε → Prop) : Prop :=
  ∀ s e, Live env (view s) → extra s → ok s e →
    StreamMove env (normal e) (raises s e) (view s) (view (step s e)) ∧
      ((view (step s e)).ended = none → extra (step s e))

theorem MovesAlong.live (hmoves : MovesAlong env step view extra normal raises ok) {s : σ} {e : ε}
    (hlive : Live env (view s)) (hextra : extra s) (hok : ok s e) (hend : (view (step s e)).ended = none) :
    Live env (view (step s e)) ∧ extra (step s e) := by
  obtain ⟨hmove, hkeep⟩ := hmoves s e hlive hextra hok
  exact ⟨⟨hend, hmove.attempt_lt hlive.attempt hend⟩, hkeep hend⟩

theorem MovesAlong.ends (hmoves : MovesAlong env step view extra normal raises ok)
    (hstop : ∀ s e, (view s).ended.isSome = true → step s e = s) {s : σ} {es : List ε} (hlive : Live env (view s))
    (hextra : extra s) (hes : Along step ok s es) (hlen : (view s).budget env ≤ es.length) :
    (view (run step s es)).ended.isSome = true := by
  refine run_ends (I := fun s => Live env (view s) ∧ extra s) (fun s => (view s).ended.isSome = true)
    (fun s => (view s).budget env) ?_ ?_ ?_ ⟨hlive, hextra⟩ hes hlen
  · intro s e hend
    rw [hstop s e hend]
    exact hend
  · rintro s ⟨hs, -⟩ hzero
    exact absurd hzero (Nat.ne_of_gt hs.budget_pos)
  · rintro s e ⟨hs, hx⟩ hok
    cases hend : (view (step s e)).ended with
    | some r => exact .inl rfl
    | none => exact .inr ⟨hmoves.live hs hx hok hend, (hmoves s e hs hx hok).1.budget_lt hs.attempt hend⟩

theorem Seen.cons {s : σ} {e : ε} {es : List ε} (h : Seen step view normal (step s e) es) : Seen step view normal s (e :: es) := by
  cases h with
  | running ended chunks => exact .running ended chunks
  | normal pre post e' split running ended h last chunks =>
      refine .normal (e :: pre) post e' (by rw [split]; rfl) ?_ ended h last chunks
      exact running
  | error sent r last chunks out => exact .error sent r last chunks out

theorem MovesAlong.seen (hmoves : MovesAlong env step view extra normal (fun _ _ _ => False) ok)
    (hstop : ∀ s e, (view s).ended.isSome = true → step s e = s) {s : σ} {es : List ε} (hlive : Live env (view s))
    (hextra : extra s) (hes : Along step ok s es) (hout : AllChunks (view s).out) : Seen step view normal s es := by
  induction es generalizing s with
  | nil => exact .running hlive.running hout
  | cons e es ih =>
      obtain ⟨hok, hes⟩ := hes
      have hnext : (view (step s e)).ended.isSome = true → run step (step s e) es = step s e := fun hend =>
        run_of_fixed (fun e' => hstop _ e' hend) es
      cases (hmoves s e hlive hextra hok).1 with
      | raised h _ => exact h.elim
      | normal h ended chunks out =>
          have hrun := hnext (by rw [ended]; rfl)
          refine .normal [] es e rfl hlive.running ended h ?_ ?_
          · rw [run_cons, hrun, ended]
          · rw [run_cons, hrun, out]
            exact hout.append chunks
      | @error sent r ended chunks out =>
          have hrun := hnext (by rw [ended]; rfl)
          refine .error _ r ?_ (hout.append chunks) ?_
          · rw [run_cons, hrun, ended]
          · rw [run_cons, hrun, out]
      | recompute ended attempt limit count chunks out =>
          obtain ⟨hlive', hextra'⟩ := hmoves.live hlive hextra hok ended
          exact (ih hlive' hextra' hes (by rw [out]; exact hout.append chunks)).cons
      | retry ended attempt limit count out =>
          obtain ⟨hlive', hextra'⟩ := hmoves.live hlive hextra hok ended
          exact (ih hlive' hextra' hes (by rw [out]; exact hout)).cons

theorem MovesAlong.notRestarted (hmoves : MovesAlong env step view extra normal raises ok)
    (hstop : ∀ s e, (view s).ended.isSome = true → step s e = s) {s : σ} {es : List ε} (hlive : Live env (view s))
    (hextra : extra s) (hes : Along step ok s es) : Along step (NotRestarted step view) s es := by
  induction es generalizing s with
  | nil => trivial
  | cons e es ih =>
      obtain ⟨hok, hes⟩ := hes
      cases hend : (view (step s e)).ended with
      | some r =>
          refine ⟨fun hnone => (by rw [hend] at hnone; cases hnone), ?_⟩
          have hfixed : ∀ e', step (step s e) e' = step s e := fun e' => hstop _ e' (by rw [hend]; rfl)
          clear ih hes
          induction es with
          | nil => trivial
          | cons e' es ih =>
              refine ⟨fun hnone => ?_, by rw [hfixed e']; exact ih⟩
              rw [hfixed e', hend] at hnone
              cases hnone
      | none =>
          obtain ⟨hlive', hextra'⟩ := hmoves.live hlive hextra hok hend
          refine ⟨fun _ hne => ?_, ih hlive' hextra' hes⟩
          cases (hmoves s e hlive hextra hok).1 with
          | raised _ ended => rw [ended] at hend; cases hend
          | normal _ ended => rw [ended] at hend; cases hend
          | error ended => rw [ended] at hend; cases hend
          | recompute _ attempt => exact absurd attempt hne
          | retry _ _ _ _ out => exact out

theorem MovesAlong.noRaise (hmoves : MovesAlong env step view extra normal raises ok) (ok' : σ → ε → Prop)
    (himp : ∀ s e, ok' s e → ok s e) (hno : ∀ s e r, Live env (view s) → ok' s e → ¬ raises s e r) :
    MovesAlong env step view extra normal (fun _ _ _ => False) ok' := by
  intro s e hlive hextra hok
  obtain ⟨hmove, hkeep⟩ := hmoves s e hlive hextra (himp s e hok)
  refine ⟨?_, hkeep⟩
  cases hmove with
  | raised h _ => exact absurd h (hno s e _ hlive hok)
  | normal h ended chunks out => exact .normal h ended chunks out
  | error ended chunks out => exact .error ended chunks out
  | recompute ended attempt limit count chunks out => exact .recompute ended attempt limit count chunks out
  | retry ended attempt limit count out => exact .retry ended attempt limit count out

theorem MovesAlong.endsVisibly (hmoves : MovesAlong env step view extra normal (fun _ _ _ => False) ok)
    (hstop : ∀ s e, (view s).ended.isSome = true → step s e = s) {s : σ} {es : List ε} (hlive : Live env (view s))
    (hextra : extra s) (hes : Along step ok s es) (hout : AllChunks (view s).out)
    (hbudget : (view s).budget env ≤ env.transportRetryLimit + env.recomputeRetryLimit) :
    EndsVisibly step view env normal s es :=
  { seen := hmoves.seen hstop hlive hextra hes hout
    ends := fun hlen => hmoves.ends hstop hlive hextra hes (Nat.le_trans hbudget hlen)
    notRestarted := hmoves.notRestarted hstop hlive hextra hes }

end Stream

namespace PdHandler

variable {env : RouterEnv}

theorem streamLeg_ended {h : PdHandler} (hend : h.ended.isSome = true) (leg : PdLeg DecodeStream) :
    streamLeg env h leg = h := by
  unfold streamLeg
  cases he : h.ended with
  | none => rw [he] at hend; cases hend
  | some r => rfl

theorem streamLeg_moves (env : RouterEnv) :
    MovesAlong env (streamLeg env) view (fun h => h.router.isFinished = false)
      (fun leg => leg.decode.EndsNormally env.codec) (fun _ leg e => e = .cancelled ∧ ¬ Calm env leg) fun _ _ => True :=
  fun _ leg hlive hfin _ => streamLeg_move hlive.running hfin hlive.attempt leg

theorem live_start {info : RequestInfo} {rm : RequestManager} (exhausted : HandlerEnd)
    (hT : 0 < env.transportRetryLimit) : Live env (start env exhausted { reqInfo := info, requestManager := rm }).view :=
  ⟨by simp [start, view, hT], hT⟩

/-! ## Without streaming -/

theorem nonstreamLeg_ended {h : PdHandler} (hend : h.ended.isSome = true) (leg : PdLeg (Except Raised Json)) :
    nonstreamLeg env h leg = h := by
  unfold nonstreamLeg
  cases he : h.ended with
  | none => rw [he] at hend; cases hend
  | some r => rfl

theorem nonstreamLeg_ends {h : PdHandler} (hlive : Live env h.view) (hfin : h.router.isFinished = false)
    {legs : List (PdLeg (Except Raised Json))}
    (hlegs : Along (nonstreamLeg env) (fun h leg => h.ended = none → h.losesRecompute env leg = false) h legs)
    (hlen : h.view.budget env ≤ legs.length) : (run (nonstreamLeg env) h legs).ended.isSome = true := by
  refine run_ends (I := fun h => Live env h.view ∧ h.router.isFinished = false) (fun h => h.ended.isSome = true)
    (fun h => h.view.budget env) ?_ ?_ ?_ ⟨hlive, hfin⟩ hlegs hlen
  · intro h leg hend
    rw [nonstreamLeg_ended hend]
    exact hend
  · rintro h ⟨hs, -⟩ hzero
    exact absurd hzero (Nat.ne_of_gt hs.budget_pos)
  · rintro h leg ⟨hs, hf⟩ hloses
    have hlt : h.attempt < env.transportRetryLimit := hs.attempt
    cases nonstreamLeg_move hs.running hf hs.attempt (hloses hs.running) with
    | ended ended => exact .inl ended
    | recompute ended attempt limit count finished =>
        refine .inr ⟨⟨⟨ended, ?_⟩, finished⟩, ?_⟩
        · simpa only [view, attempt] using hlt
        · simp only [StreamView.budget, view, attempt, count]
          omega
    | retry ended attempt limit count finished =>
        refine .inr ⟨⟨⟨ended, ?_⟩, finished⟩, ?_⟩
        · simpa only [view, attempt] using limit
        · simp only [StreamView.budget, view, attempt, count]
          omega

end PdHandler

namespace CdpHandler

variable {env : RouterEnv}

theorem streamLeg_ended {h : CdpHandler} (hend : h.ended.isSome = true) (leg : CdpLeg DecodeStream) :
    streamLeg env h leg = h := by
  unfold streamLeg
  cases he : h.ended with
  | none => rw [he] at hend; cases hend
  | some r => rfl

theorem streamLeg_moves (env : RouterEnv) :
    MovesAlong env (streamLeg env) view (fun _ => True) (fun leg => leg.decode.EndsNormally env.codec)
      (StreamRaises env) fun _ _ => True :=
  fun _ leg hlive _ _ => ⟨streamLeg_move hlive.running hlive.attempt leg, fun _ => trivial⟩

theorem live_start {info : RequestInfo} {rm : RequestManager} (hT : 0 < env.transportRetryLimit) :
    Live env (start env { reqInfo := info, requestManager := rm }).view :=
  ⟨by simp [start, view, hT], hT⟩

/-! ## Without streaming -/

theorem responseLeg_ended {h : CdpHandler} (hend : h.ended.isSome = true) (leg : CdpLeg (Except Raised Json)) :
    responseLeg env h leg = h := by
  unfold responseLeg
  cases he : h.ended with
  | none => rw [he] at hend; cases hend
  | some r => rfl

/-- Every leg takes an attempt, so that the recomputes do not add to the legs. -/
theorem responseLeg_ends {h : CdpHandler} (hlive : Live env h.view) {legs : List (CdpLeg (Except Raised Json))}
    (hlen : env.transportRetryLimit - h.attempt ≤ legs.length) : (run (responseLeg env) h legs).ended.isSome = true := by
  have hlegs : Along (responseLeg env) (fun _ _ => True) h legs := along_of_forall fun _ _ => trivial
  refine run_ends (I := fun h => Live env h.view) (fun h => h.ended.isSome = true)
    (fun h => env.transportRetryLimit - h.attempt) ?_ ?_ ?_ hlive hlegs hlen
  · intro h leg hend
    rw [responseLeg_ended hend]
    exact hend
  · intro h hs hzero
    have hlt : h.attempt < env.transportRetryLimit := hs.attempt
    omega
  · intro h leg hs _
    have hlt : h.attempt < env.transportRetryLimit := hs.attempt
    cases responseLeg_move env hs.running leg with
    | responded _ ended => exact .inl (by rw [ended]; rfl)
    | raised _ ended => exact .inl (by rw [ended]; rfl)
    | retry _ ended attempt limit =>
        refine .inr ⟨⟨ended, ?_⟩, ?_⟩
        · simpa only [view, attempt] using limit
        · rw [attempt]
          omega
    | recompute _ attempt _ _ _ ended =>
        by_cases hlimit : h.attempt + 1 < env.transportRetryLimit
        · rw [if_pos hlimit] at ended
          refine .inr ⟨⟨ended, ?_⟩, ?_⟩
          · simpa only [view, attempt] using hlimit
          · rw [attempt]
            omega
        · rw [if_neg hlimit] at ended
          exact .inl (by rw [ended]; rfl)

theorem retryCount_le {h : CdpHandler} (hle : h.router.retryCount ≤ env.recomputeRetryLimit)
    (legs : List (CdpLeg (Except Raised Json))) :
    (run (responseLeg env) h legs).router.retryCount ≤ env.recomputeRetryLimit := by
  refine run_invariant' (I := fun h : CdpHandler => h.router.retryCount ≤ env.recomputeRetryLimit) (fun h leg hs => ?_)
    hle legs
  cases hend : h.ended with
  | some r =>
      rw [responseLeg_ended (by rw [hend]; rfl)]
      exact hs
  | none =>
      cases responseLeg_move env hend leg with
      | responded _ _ count => rw [count]; exact hs
      | raised _ _ count => rw [count]; exact hs
      | retry _ _ _ _ count => rw [count]; exact hs
      | recompute _ _ limit count => rw [count]; exact limit

theorem ended_ne_returned {h : CdpHandler} (hne : h.ended ≠ some .returned) {legs : List (CdpLeg (Except Raised Json))}
    (hlegs : Along (responseLeg env) (fun h leg => h.ended = none → h.acceptsRecompute env leg = false) h legs) :
    (run (responseLeg env) h legs).ended ≠ some .returned := by
  refine run_invariant (I := fun h : CdpHandler => h.ended ≠ some .returned) (fun h leg hs haccepts => ?_) hne hlegs
  cases hend : h.ended with
  | some r =>
      rw [responseLeg_ended (by rw [hend]; rfl)]
      exact hs
  | none =>
      cases responseLeg_move env hend leg with
      | responded _ ended => rw [ended]; exact fun he => (nomatch he)
      | raised _ ended => rw [ended]; exact fun he => (nomatch he)
      | retry _ ended => rw [ended]; exact fun he => (nomatch he)
      | recompute h' => rw [haccepts hend] at h'; cases h'

/-- An accepted recompute is never followed as in a stream: it takes an attempt. -/
theorem not_followsRecompute {h : CdpHandler} {leg : CdpLeg (Except Raised Json)} (hend : h.ended = none)
    (haccepts : h.acceptsRecompute env leg = true) : ¬ h.FollowsRecompute env leg := by
  intro hfollows
  obtain ⟨-, hattempt, -⟩ := hfollows hend haccepts
  cases responseLeg_move env hend leg with
  | responded h' => rw [haccepts] at h'; cases h'
  | raised h' => rw [haccepts] at h'; cases h'
  | retry h' => rw [haccepts] at h'; cases h'
  | recompute _ attempt => omega

end CdpHandler

end PyMotor
