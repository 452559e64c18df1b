import PyMotor.Lib.Run
import PyMotor.Middleware.RateLimiter
import PyMotor.Middleware.RateTheorems

/-!
# Forwarded requests and the settings they are decided under

The handler of the limiter's errors also covers the call of the application, and the updates reach an instance that
serves no requests.
-/

namespace PyMotor

open Lib

namespace SimpleRateLimitMiddleware

variable {ρ : Type} {m : SimpleRateLimitMiddleware} {request : MiddlewareRequest ρ} {requests : List (MiddlewareRequest ρ)}

/-! ## Requests are forwarded once -/

def skips (m : SimpleRateLimitMiddleware) (path : String) : Bool := !m.enabled || m.shouldSkipPath path

def Limits (m : SimpleRateLimitMiddleware) (request : MiddlewareRequest ρ) : Prop :=
  m.skips request.path = false ∧ ∃ limitInfo, request.check = .ok (false, limitInfo)

/-- The limiter allows the request, and the application raises. -/
def FailsDownstream (m : SimpleRateLimitMiddleware) (request : MiddlewareRequest ρ) : Prop :=
  m.skips request.path = false ∧ (∃ limitInfo, request.check = .ok (true, limitInfo)) ∧
    ∃ e, request.callNext 0 = .error (.exception e)

/-- One call for a request that is not limited, none for one that is, and the exception of that call is the result. -/
structure ForwardsOnce (m : SimpleRateLimitMiddleware) (request : MiddlewareRequest ρ) : Prop where
  limited : m.Limits request → (m.dispatch request).calls = 0
  forwarded : ¬ m.Limits request → (m.dispatch request).calls = 1
  propagated : ¬ m.Limits request → ∀ e, request.callNext 0 = .error e → (m.dispatch request).result = .error e

/-- The counters after the requests, of which some are skipped. -/
def Balanced (stats : MiddlewareStats) (skipped : Nat) : Prop :=
  stats.totalRequests = stats.allowedRequests + stats.blockedRequests + skipped

structure ForwardsEach (m : SimpleRateLimitMiddleware) (requests : List (MiddlewareRequest ρ)) : Prop where
  once : Along step (fun m request => m.ForwardsOnce request) m requests
  balanced : Balanced (run step m requests).stats (requests.filter fun request => m.skips request.path).length

/-! ## What a dispatch can do -/

inductive Dispatches (m : SimpleRateLimitMiddleware) (request : MiddlewareRequest ρ) : Dispatched ρ → Prop
  | skipped (hskips : m.skips request.path = true) : Dispatches m request (m.countRequest.forward request 0)
  | failed {e : PyException} (hskips : m.skips request.path = false) (hcheck : request.check = .error e) :
    Dispatches m request (m.countRequest.letThrough request 0)
  | limited {limitInfo : LimitInfo} (hskips : m.skips request.path = false)
    (hcheck : request.check = .ok (false, limitInfo)) :
    Dispatches m request
      { result := .ok (.limited (m.limitedResponse limitInfo)), calls := 0, middleware := m.countRequest.countBlocked }
  | answered {limitInfo : LimitInfo} {response : ρ} (hskips : m.skips request.path = false)
    (hcheck : request.check = .ok (true, limitInfo)) (hcall : request.callNext 0 = .ok response) :
    Dispatches m request
      { result := .ok (.forwarded response (createRateLimitHeaders limitInfo)), calls := 1,
        middleware := m.countRequest.countAllowed }
  | cancelled {limitInfo : LimitInfo} (hskips : m.skips request.path = false)
    (hcheck : request.check = .ok (true, limitInfo)) (hcall : request.callNext 0 = .error .cancelled) :
    Dispatches m request { result := .error .cancelled, calls := 1, middleware := m.countRequest.countAllowed }
  -- the handler takes the exception of the application for one of the limiter
  | raised {limitInfo : LimitInfo} {e : PyException} (hskips : m.skips request.path = false)
    (hcheck : request.check = .ok (true, limitInfo)) (hcall : request.callNext 0 = .error (.exception e)) :
    Dispatches m request (m.countRequest.countAllowed.letThrough request 1)

theorem dispatches (m : SimpleRateLimitMiddleware) (request : MiddlewareRequest ρ) :
    ∃ d, m.dispatch request = d ∧ Dispatches m request d := by
  cases hskips : m.skips request.path with
  | true =>
      refine ⟨_, ?_, .skipped hskips⟩
      rw [skips, Bool.or_eq_true] at hskips
      rw [dispatch]
      rcases hskips with henabled | hpath
      · rw [if_pos (show (!m.countRequest.enabled) = true from henabled)]
      · rw [if_pos (show m.countRequest.shouldSkipPath request.path = true from hpath), ite_self]
  | false =>
      have hput : (!m.countRequest.enabled) = false ∧ m.countRequest.shouldSkipPath request.path = false :=
        Bool.or_eq_false_iff.mp hskips
      cases hcheck : request.check with
      | error e =>
          refine ⟨_, ?_, .failed hskips hcheck⟩
          rw [dispatch, hput.1, hput.2, hcheck]
          rfl
      | ok answer =>
          obtain ⟨allowed, limitInfo⟩ := answer
          cases allowed with
          | false =>
              refine ⟨_, ?_, .limited hskips hcheck⟩
              rw [dispatch, hput.1, hput.2, hcheck]
              rfl
          | true =>
              cases hcall : request.callNext 0 with
              | ok response =>
                  refine ⟨_, ?_, .answered hskips hcheck hcall⟩
                  rw [dispatch, hput.1, hput.2, hcheck]
                  simp only [Bool.false_eq_true, if_false, hcall]
              | error raised =>
                  cases raised with
                  | exception e =>
                      refine ⟨_, ?_, .raised hskips hcheck hcall⟩
                      rw [dispatch, hput.1, hput.2, hcheck]
                      simp only [Bool.false_eq_true, if_false, hcall]
                  | cancelled =>
                      refine ⟨_, ?_, .cancelled hskips hcheck hcall⟩
                      rw [dispatch, hput.1, hput.2, hcheck]
                      simp only [Bool.false_eq_true, if_false, hcall]

/-! ## One request -/

theorem not_limits_of_skips (h : m.skips request.path = true) : ¬ m.Limits request := by
  rintro ⟨hskips, -⟩
  rw [h] at hskips
  cases hskips

theorem not_limits_of_check (h : ∀ limitInfo, request.check ≠ .ok (false, limitInfo)) : ¬ m.Limits request := by
  rintro ⟨-, limitInfo, hinfo⟩
  exact h limitInfo hinfo

theorem forward_result {n : Nat} {e : Raised} (h : request.callNext n = .error e) :
    (m.forward request n).result = .error e := by
  rw [forward, h]
  rfl

theorem forwardsOnce_of_first {m' : SimpleRateLimitMiddleware} (hlimits : ¬ m.Limits request)
    (h : m.dispatch request = m'.forward request 0) : m.ForwardsOnce request where
  limited hyes := absurd hyes hlimits
  forwarded _ := by rw [h, forward]
  propagated _ e he := by rw [h, forward_result he]

theorem forwardsOnce_of_not_failsDownstream (h : ¬ m.FailsDownstream request) : m.ForwardsOnce request := by
  obtain ⟨d, hd, hcase⟩ := dispatches m request
  cases hcase with
  | skipped hskips => exact forwardsOnce_of_first (not_limits_of_skips hskips) hd
  | failed hskips hcheck =>
      refine forwardsOnce_of_first (not_limits_of_check fun limitInfo hinfo => ?_) hd
      rw [hcheck] at hinfo
      cases hinfo
  | limited hskips hcheck =>
      have hlimits : m.Limits request := ⟨hskips, _, hcheck⟩
      refine ⟨fun _ => ?_, fun hno => absurd hlimits hno, fun hno => absurd hlimits hno⟩
      rw [hd]
  | answered hskips hcheck hcall =>
      have hlimits : ¬ m.Limits request := by
        refine not_limits_of_check fun limitInfo hinfo => ?_
        rw [hcheck] at hinfo
        cases hinfo
      refine ⟨fun hyes => absurd hyes hlimits, fun _ => ?_, fun _ e he => ?_⟩
      · rw [hd]
      · rw [hcall] at he
        cases he
  | cancelled hskips hcheck hcall =>
      have hlimits : ¬ m.Limits request := by
        refine not_limits_of_check fun limitInfo hinfo => ?_
        rw [hcheck] at hinfo
        cases hinfo
      refine ⟨fun hyes => absurd hyes hlimits, fun _ => ?_, fun _ e he => ?_⟩
      · rw [hd]
      · rw [hcall] at he
        cases he
        rw [hd]
  | raised hskips hcheck hcall => exact absurd ⟨hskips, ⟨_, hcheck⟩, _, hcall⟩ h

/-- An exception of the application after an allow decision makes the request run again. -/
theorem calls_of_failsDownstream (h : m.FailsDownstream request) : (m.dispatch request).calls = 2 := by
  obtain ⟨hskips', ⟨limitInfo, hcheck'⟩, e, hcall'⟩ := h
  obtain ⟨d, hd, hcase⟩ := dispatches m request
  cases hcase with
  | skipped hskips =>
      rw [hskips] at hskips'
      cases hskips'
  | failed hskips hcheck =>
      rw [hcheck] at hcheck'
      cases hcheck'
  | limited hskips hcheck =>
      rw [hcheck] at hcheck'
      cases hcheck'
  | answered hskips hcheck hcall =>
      rw [hcall] at hcall'
      cases hcall'
  | cancelled hskips hcheck hcall =>
      rw [hcall] at hcall'
      cases hcall'
  | raised hskips hcheck hcall => rw [hd, letThrough, forward]

theorem forwardsOnce_iff : m.ForwardsOnce request ↔ ¬ m.FailsDownstream request := by
  refine ⟨fun honce hfails => ?_, forwardsOnce_of_not_failsDownstream⟩
  have hlimits : ¬ m.Limits request := by
    obtain ⟨-, ⟨limitInfo, hcheck⟩, -⟩ := hfails
    refine not_limits_of_check fun limitInfo' hinfo => ?_
    rw [hcheck] at hinfo
    cases hinfo
  have hcalls := honce.forwarded hlimits
  rw [calls_of_failsDownstream hfails] at hcalls
  cases hcalls

/-! ## Runs -/

theorem step_eq (m : SimpleRateLimitMiddleware) (request : MiddlewareRequest ρ) :
    m.step request = { m with stats := (m.step request).stats } := by
  obtain ⟨d, hd, hcase⟩ := dispatches m request
  rw [step, hd]
  cases hcase with
  | skipped => rfl
  | failed => rfl
  | limited => rfl
  | answered => rfl
  | cancelled => rfl
  | raised => rfl

theorem skips_step (m : SimpleRateLimitMiddleware) (request : MiddlewareRequest ρ) (path : String) :
    (m.step request).skips path = m.skips path := by
  rw [step_eq]
  rfl

theorem failsDownstream_step (m : SimpleRateLimitMiddleware) (request later : MiddlewareRequest ρ) :
    (m.step request).FailsDownstream later ↔ m.FailsDownstream later := by
  rw [FailsDownstream, skips_step]
  exact Iff.rfl

theorem balanced_step {n : Nat} (h : Balanced m.stats n) (hok : ¬ m.FailsDownstream request) :
    Balanced (m.step request).stats (n + if m.skips request.path then 1 else 0) := by
  rw [Balanced] at h
  obtain ⟨d, hd, hcase⟩ := dispatches m request
  rw [step, hd]
  cases hcase with
  | skipped hskips =>
      simp only [Balanced, forward, countRequest, hskips, if_true]
      omega
  | failed hskips hcheck =>
      simp only [Balanced, letThrough, forward, countAllowed, countRequest, hskips, Bool.false_eq_true, if_false]
      omega
  | limited hskips hcheck =>
      simp only [Balanced, countBlocked, countRequest, hskips, Bool.false_eq_true, if_false]
      omega
  | answered hskips hcheck hcall =>
      simp only [Balanced, countAllowed, countRequest, hskips, Bool.false_eq_true, if_false]
      omega
  | cancelled hskips hcheck hcall =>
      simp only [Balanced, countAllowed, countRequest, hskips, Bool.false_eq_true, if_false]
      omega
  | raised hskips hcheck hcall => exact absurd ⟨hskips, ⟨_, hcheck⟩, _, hcall⟩ hok

theorem balanced_run {n : Nat} (h : Balanced m.stats n) (hok : ∀ request ∈ requests, ¬ m.FailsDownstream request) :
    Balanced (run step m requests).stats (n + (requests.filter fun request => m.skips request.path).length) := by
  induction requests generalizing m n with
  | nil => exact h
  | cons request requests ih =>
      rw [List.forall_mem_cons] at hok
      have hlater : ∀ later ∈ requests, ¬ (m.step request).FailsDownstream later := by
        intro later hmem
        rw [failsDownstream_step]
        exact hok.2 later hmem
      have hrun := ih (balanced_step h hok.1) hlater
      simp only [skips_step] at hrun
      rw [run_cons, List.filter_cons]
      cases hskips : m.skips request.path with
      | true =>
          rw [hskips, if_pos rfl, Nat.add_assoc, Nat.add_comm 1] at hrun
          exact hrun
      | false =>
          rw [hskips] at hrun
          exact hrun

theorem once_run_iff : Along step (fun m request => m.ForwardsOnce request) m requests ↔
    ∀ request ∈ requests, ¬ m.FailsDownstream request := by
  induction requests generalizing m with
  | nil => exact iff_of_true trivial fun request hmem => absurd hmem List.not_mem_nil
  | cons request requests ih =>
      rw [List.forall_mem_cons, ← forwardsOnce_iff]
      refine and_congr_right fun _ => ?_
      rw [ih]
      simp only [failsDownstream_step]

/-- Each request is forwarded once, or answered, and the counters add up, if and only if the application raises at no
request that the limiter has allowed. -/
theorem forwardsEach_iff (hstats : m.stats = {}) :
    m.ForwardsEach requests ↔ ∀ request ∈ requests, ¬ m.FailsDownstream request := by
  constructor
  · exact fun h => once_run_iff.mp h.once
  · intro hok
    have hstart : Balanced m.stats 0 := by
      rw [hstats]
      rfl
    have hrun := balanced_run hstart hok
    rw [Nat.zero_add] at hrun
    exact ⟨once_run_iff.mpr hok, hrun⟩

def plainMiddleware : SimpleRateLimitMiddleware := .new ["/metrics"] "slow down" 429

def failingRequest : MiddlewareRequest String where
  path := "/v1/completions"
  check := .ok (true, .checked true 99 100 60 0)
  callNext n := if n = 0 then .error (.exception (.other "RuntimeError" "connection lost")) else .ok "done"

def plainRequests : List (MiddlewareRequest String) :=
  [{ failingRequest with path := "/metrics" }, { failingRequest with check := .ok (false, .checked false 0 100 60 0) },
    { failingRequest with callNext := fun _ => .ok "done" }]

theorem plainRequests_forwarded : plainMiddleware.ForwardsEach plainRequests := by
  refine (forwardsEach_iff rfl).mpr fun request hmem => ?_
  rintro ⟨hskips, ⟨limitInfo, hcheck⟩, e, hcall⟩
  simp only [plainRequests, List.mem_cons, List.not_mem_nil, or_false] at hmem
  rcases hmem with rfl | rfl | rfl
  · cases hskips
  · cases hcheck
  · cases hcall

/-- The request runs twice, its exception is lost, and it is counted as two allowed ones. -/
theorem failingRequest_runsTwice : (plainMiddleware.dispatch failingRequest).calls = 2 ∧
    (plainMiddleware.dispatch failingRequest).result = .ok (.forwarded "done" []) ∧
    (plainMiddleware.step failingRequest).stats = { totalRequests := 1, allowedRequests := 2 } ∧
    ¬ plainMiddleware.ForwardsEach [failingRequest] := by
  have hcalls : (plainMiddleware.dispatch failingRequest).calls = 2 := rfl
  have hlimits : ¬ plainMiddleware.Limits failingRequest := by
    rintro ⟨-, limitInfo, hcheck⟩
    cases hcheck
  refine ⟨hcalls, rfl, rfl, fun h => ?_⟩
  have honce := h.once.1.forwarded hlimits
  rw [hcalls] at honce
  cases honce

theorem dispatch_result (m : SimpleRateLimitMiddleware) (request : MiddlewareRequest ρ) :
    (m.dispatch request).result =
      if m.skips request.path then (request.callNext 0).map fun response => .forwarded response []
      else
        match request.check, request.callNext 0 with
        | .ok (false, limitInfo), _ => .ok (.limited (m.limitedResponse limitInfo))
        | .ok (true, limitInfo), .ok response => .ok (.forwarded response (createRateLimitHeaders limitInfo))
        | .ok (true, _), .error (.exception _) => (request.callNext 1).map fun response => .forwarded response []
        | .ok (true, _), .error .cancelled => .error .cancelled
        | .error _, called => called.map fun response => .forwarded response [] := by
  obtain ⟨d, hd, hcase⟩ := dispatches m request
  rw [hd]
  cases hcase with
  | skipped hskips => simp only [hskips, if_true, forward]
  | failed hskips hcheck => simp only [hskips, hcheck, Bool.false_eq_true, if_false, letThrough, forward]
  | limited hskips hcheck => simp only [hskips, hcheck, Bool.false_eq_true, if_false]
  | answered hskips hcheck hcall => simp only [hskips, hcheck, hcall, Bool.false_eq_true, if_false]
  | cancelled hskips hcheck hcall => simp only [hskips, hcheck, hcall, Bool.false_eq_true, if_false]
  | raised hskips hcheck hcall => simp only [hskips, hcheck, hcall, Bool.false_eq_true, if_false, letThrough, forward]

end SimpleRateLimitMiddleware

/-! ## Settings -/

/-- What the requests for a path are decided under, when they are limited. -/
@[ext] structure PathLimit where
  maxRequests : Int
  windowSize : Int
  errorMessage : String
  errorStatusCode : Int
deriving DecidableEq

namespace PathLimit

variable {ρ : Type} (limit : PathLimit)

def middleware : SimpleRateLimitMiddleware :=
  { skipPaths := [], errorMessage := limit.errorMessage, errorStatusCode := limit.errorStatusCode }

/-- A limiter with the tokens and the alarm of another one; without one, its bucket is full. -/
def limiter (l : Option SimpleRateLimiter) (now : ℚ) : SimpleRateLimiter :=
  let l := l.getD (.new limit.maxRequests limit.windowSize now)
  { l with
    maxRequests := limit.maxRequests
    windowSize := limit.windowSize
    bucket := { l.bucket with capacity := limit.maxRequests, refillRate := limit.maxRequests / limit.windowSize } }

end PathLimit

/-- The answer to a request whose path is limited so: by a middleware and a limiter with this limit and the tokens that
are left. -/
def answerUnder {ρ : Type} (limit : Option PathLimit) (l : Option SimpleRateLimiter) (request : ServedRequest ρ) :
    Except Raised (MiddlewareResponse ρ) :=
  match limit with
  | none => (request.callNext 0).map fun response => .forwarded response []
  | some limit =>
    let check := ((limit.limiter l request.call.consumedAt).isAllowed request.call).1
    (limit.middleware.dispatch ⟨request.path, .ok (check.allowed, check.limitInfo), request.callNext⟩).result

namespace RateLimitConfig

variable (c : RateLimitConfig)

/-- How a configuration limits the requests for a path. -/
def limitOf (path : String) : Option PathLimit :=
  if c.enableRateLimit && !c.skipPaths.any fun skipPath => Text.startsWith skipPath.toList path.toList then
    some ⟨c.maxRequests, c.windowSize, c.errorMessage, c.errorStatusCode⟩
  else none

/-- What a server starts with. -/
def started : RateLimitConfig := { c with skipPaths := SimpleRateLimitMiddleware.orDefault c.skipPaths }

end RateLimitConfig

namespace LimitedServer

variable {ρ : Type} {s : LimitedServer} {first : RateLimitConfig} {moves : List (LimitedServerMove ρ)}

/-- Any request that comes is answered under the latest configuration. -/
def Follows (s : LimitedServer) : LimitedServerMove ρ → Prop
  | .updateConfig _ => True
  | .request _ => ∀ request : ServedRequest ρ,
      (s.serve request).1 = answerUnder (s.rateLimitConfig.limitOf request.path) s.rateLimiter request

/-- The latest configuration after a move. -/
def newest (c : RateLimitConfig) : LimitedServerMove ρ → RateLimitConfig
  | .updateConfig config => config
  | .request _ => c

/-- At a request, the latest configuration limits every path as the server was started to. -/
def AsStarted (first c : RateLimitConfig) : LimitedServerMove ρ → Prop
  | .updateConfig _ => True
  | .request _ => ∀ path, first.started.limitOf path = c.limitOf path

/-! ### What a server keeps -/

/-- How the instance that serves the requests, with its limiter, limits those for a path. -/
def limitOf (s : LimitedServer) (path : String) : Option PathLimit :=
  match s.serving, s.rateLimiter with
  | some m, some l =>
    if m.skips path then none else some ⟨l.maxRequests, l.windowSize, m.errorMessage, m.errorStatusCode⟩
  | _, _ => none

/-- The limiter's bucket is of the size, and is filled at the rate, that the limiter was made with. -/
def Filled (l : SimpleRateLimiter) : Prop :=
  l.bucket.capacity = l.maxRequests ∧ l.bucket.refillRate = l.maxRequests / l.windowSize

structure Kept (first : RateLimitConfig) (s : LimitedServer) : Prop where
  limits : ∀ path, s.limitOf path = first.started.limitOf path
  filled : ∀ l, s.rateLimiter = some l → Filled l

theorem kept_setup (config : RateLimitConfig) (now : ℚ) : Kept config (setupRateLimiting config now) := by
  rw [setupRateLimiting]
  split
  · rename_i henabled
    refine ⟨fun path => ?_, fun l hl => ?_⟩
    · simp only [limitOf, RateLimitConfig.limitOf, RateLimitConfig.started, SimpleRateLimitMiddleware.skips,
        SimpleRateLimitMiddleware.shouldSkipPath, SimpleRateLimitMiddleware.new, SimpleRateLimiter.new, henabled,
        Bool.not_true, Bool.false_or, Bool.true_and]
      cases (SimpleRateLimitMiddleware.orDefault config.skipPaths).any fun skipPath =>
        Text.startsWith skipPath.toList path.toList <;> rfl
    · cases hl
      exact ⟨rfl, rfl⟩
  · rename_i hdisabled
    refine ⟨fun path => ?_, fun l hl => by cases hl⟩
    have hoff : config.started.enableRateLimit = false := Bool.eq_false_iff.mpr hdisabled
    rw [RateLimitConfig.limitOf, hoff]
    rfl

theorem rateLimitConfig_setup (config : RateLimitConfig) (now : ℚ) :
    (setupRateLimiting config now).rateLimitConfig = config := by
  rw [setupRateLimiting]
  split
  · rfl
  · rfl

theorem step_windowSize (l : SimpleRateLimiter) (call : LimiterCall) : (l.step call).windowSize = l.windowSize := by
  unfold SimpleRateLimiter.step SimpleRateLimiter.isAllowed
  dsimp only
  split
  · rfl
  · rfl

theorem Filled.step {l : SimpleRateLimiter} (h : Filled l) (call : LimiterCall) : Filled (l.step call) := by
  obtain ⟨hcapacity, hrate⟩ := l.capacity_step call
  rw [Filled, hcapacity, hrate, l.step_maxRequests, step_windowSize]
  exact h

theorem Kept.serve (h : Kept first s) (request : ServedRequest ρ) : Kept first (s.serve request).2 := by
  rw [LimitedServer.serve]
  split
  · rename_i m l hserving hlimiter
    refine ⟨fun path => ?_, fun l' hl' => ?_⟩
    · rw [← h.limits path, limitOf, limitOf, hserving, hlimiter]
      have hskips := m.skips_step ⟨request.path, .ok ((l.isAllowed request.call).1.allowed,
        (l.isAllowed request.call).1.limitInfo), request.callNext⟩ path
      have hstep := m.step_eq ⟨request.path, .ok ((l.isAllowed request.call).1.allowed,
        (l.isAllowed request.call).1.limitInfo), request.callNext⟩
      have hmax := l.step_maxRequests request.call
      have hwindow := step_windowSize l request.call
      rw [SimpleRateLimiter.step] at hmax hwindow
      rw [SimpleRateLimitMiddleware.step] at hskips hstep
      cases hput : m.enabled && !m.shouldSkipPath request.path with
      | true => simp only [if_true, hskips, hmax, hwindow, congrArg SimpleRateLimitMiddleware.errorMessage hstep,
          congrArg SimpleRateLimitMiddleware.errorStatusCode hstep]
      | false => simp only [Bool.false_eq_true, if_false, hskips, congrArg SimpleRateLimitMiddleware.errorMessage hstep,
          congrArg SimpleRateLimitMiddleware.errorStatusCode hstep]
    · split at hl'
      · cases hl'
        exact (h.filled l hlimiter).step request.call
      · cases hl'
        exact h.filled l hlimiter
  · exact h

theorem Kept.step (h : Kept first s) (move : LimitedServerMove ρ) : Kept first (s.step move) := by
  cases move with
  | updateConfig config => exact ⟨h.limits, h.filled⟩
  | request request => exact h.serve request

theorem rateLimitConfig_step (s : LimitedServer) (move : LimitedServerMove ρ) :
    (s.step move).rateLimitConfig = newest s.rateLimitConfig move := by
  cases move with
  | updateConfig config => rfl
  | request request =>
      show (s.serve request).2.rateLimitConfig = _
      rw [LimitedServer.serve]
      split
      · rfl
      · rfl

/-! ### How a server answers -/

theorem limiter_self {l : SimpleRateLimiter} (h : Filled l) (errorMessage : String) (errorStatusCode : Int) (now : ℚ) :
    PathLimit.limiter ⟨l.maxRequests, l.windowSize, errorMessage, errorStatusCode⟩ (some l) now = l := by
  obtain ⟨hcapacity, hrate⟩ := h
  rw [PathLimit.limiter, Option.getD_some, ← hrate, ← hcapacity]

theorem Kept.serve_eq (h : Kept first s) (request : ServedRequest ρ) :
    (s.serve request).1 = answerUnder (first.started.limitOf request.path) s.rateLimiter request := by
  rw [← h.limits, LimitedServer.serve, limitOf]
  cases hserving : s.serving with
  | none => rfl
  | some m =>
      cases hlimiter : s.rateLimiter with
      | none => rfl
      | some l =>
          dsimp only
          rw [SimpleRateLimitMiddleware.dispatch_result]
          cases hskips : m.skips request.path with
          | true => rfl
          | false =>
              simp only [Bool.false_eq_true, if_false, answerUnder, limiter_self (h.filled l hlimiter)]
              rw [SimpleRateLimitMiddleware.dispatch_result]
              rfl

def failing (path : String) (call : LimiterCall) : ServedRequest ρ where
  path := path
  call := call
  callNext n := .error (if n = 0 then .exception (.other "RuntimeError" "") else .cancelled)

theorem answerUnder_failing (limit : PathLimit) (l : Option SimpleRateLimiter) (path : String) (call : LimiterCall) :
    answerUnder (some limit) l (failing path call : ServedRequest ρ) =
      if ((limit.limiter l call.consumedAt).isAllowed call).1.allowed then .error .cancelled
      else .ok (.limited (limit.middleware.limitedResponse ((limit.limiter l call.consumedAt).isAllowed call).1.limitInfo))
      := by
  rw [answerUnder, SimpleRateLimitMiddleware.dispatch_result]
  have hskips : limit.middleware.skips path = false := rfl
  simp only [failing, hskips, Bool.false_eq_true, if_false]
  cases ((limit.limiter l call.consumedAt).isAllowed call).1.allowed with
  | true => rfl
  | false => rfl

theorem answerUnder_failing_ne (limit : PathLimit) (l : Option SimpleRateLimiter) (path : String) (call : LimiterCall) :
    answerUnder (some limit) l (failing path call : ServedRequest ρ) ≠ answerUnder none l (failing path call) := by
  rw [answerUnder_failing]
  split
  · intro h
    cases h
  · intro h
    cases h

theorem isAllowed_reported {l : SimpleRateLimiter} {call : LimiterCall} (h : call.reportError = none) :
    (l.isAllowed call).1.allowed = (l.bucket.tryConsume call.consumedAt 1).1 ∧
      (SimpleRateLimitMiddleware.details (l.isAllowed call).1.limitInfo).2 = (l.maxRequests, l.windowSize) := by
  rw [SimpleRateLimiter.isAllowed]
  dsimp only
  split
  · rename_i _ herror
    rw [h] at herror
    cases herror
  · exact ⟨rfl, rfl⟩

theorem exists_refused {limit : PathLimit} (hmax : 0 < limit.maxRequests) (hwindow : 0 < limit.windowSize)
    (l : SimpleRateLimiter) :
    ∃ call : LimiterCall, call.reportError = none ∧
      ((limit.limiter (some l) call.consumedAt).isAllowed call).1.allowed = false := by
  have hrate : (limit.maxRequests / limit.windowSize : ℚ) ≠ 0 :=
    div_ne_zero (Int.cast_ne_zero.mpr hmax.ne') (Int.cast_ne_zero.mpr hwindow.ne')
  set time := l.bucket.lastRefill - l.bucket.tokens / (limit.maxRequests / limit.windowSize)
  refine ⟨⟨time, time, time, none⟩, rfl, ?_⟩
  rw [(isAllowed_reported rfl).1]
  have htokens : l.bucket.tokens + (time - l.bucket.lastRefill) * (limit.maxRequests / limit.windowSize) = 0 := by
    have htime : time - l.bucket.lastRefill = -(l.bucket.tokens / (limit.maxRequests / limit.windowSize)) := by
      simp only [time]
      ring
    rw [htime, neg_mul, div_mul_cancel₀ _ hrate, add_neg_cancel]
  have hlow : min (limit.maxRequests : ℚ) 0 < 1 := (min_le_right _ _).trans_lt zero_lt_one
  simp only [TokenBucket.tryConsume, PathLimit.limiter, Option.getD_some, htokens, ge_iff_le, if_neg (not_le.mpr hlow)]

theorem limit_eq_of_answers {a b : Option PathLimit} {l : Option SimpleRateLimiter} {path : String}
    (ha : ∀ limit, a = some limit → 0 < limit.maxRequests ∧ 0 < limit.windowSize ∧ l.isSome = true)
    (h : ∀ call, answerUnder a l (failing path call : ServedRequest ρ) = answerUnder b l (failing path call)) : a = b := by
  cases a with
  | none =>
      cases b with
      | none => rfl
      | some limit => exact absurd (h ⟨0, 0, 0, none⟩).symm (answerUnder_failing_ne limit l path _)
  | some limit =>
      cases b with
      | none => exact absurd (h ⟨0, 0, 0, none⟩) (answerUnder_failing_ne limit l path _)
      | some limit' =>
          obtain ⟨hmax, hwindow, hl⟩ := ha limit rfl
          obtain ⟨l, rfl⟩ := Option.isSome_iff_exists.mp hl
          obtain ⟨call, hreport, hrefused⟩ := exists_refused hmax hwindow l
          -- a refusal shows the whole limit
          have hanswer := h call
          rw [answerUnder_failing, answerUnder_failing, hrefused] at hanswer
          cases hallowed : ((limit'.limiter (some l) call.consumedAt).isAllowed call).1.allowed with
          | true =>
            rw [hallowed] at hanswer
            cases hanswer
          | false =>
            simp only [hallowed, Bool.false_eq_true, if_false, Except.ok.injEq, MiddlewareResponse.limited.injEq,
              SimpleRateLimitMiddleware.limitedResponse, RateLimitResponse.mk.injEq, PathLimit.middleware] at hanswer
            obtain ⟨hcode, hmessage, -, hlimit, hsize, -⟩ := hanswer
            rw [(isAllowed_reported hreport).2, (isAllowed_reported hreport).2] at hlimit hsize
            exact congrArg some (PathLimit.ext hlimit hsize hmessage hcode)

theorem Kept.followsAt_iff (h : Kept first s) (hmax : 0 < first.maxRequests) (hwindow : 0 < first.windowSize)
    (move : LimitedServerMove ρ) : Follows s move ↔ AsStarted first s.rateLimitConfig move := by
  cases move with
  | updateConfig config => exact Iff.rfl
  | request request =>
      simp only [Follows, AsStarted, h.serve_eq]
      refine ⟨fun hall path => ?_, fun hall request => by rw [hall]⟩
      refine limit_eq_of_answers (fun limit hlimit => ?_) fun call => hall (failing path call : ServedRequest ρ)
      have hserved := h.limits path
      rw [hlimit, limitOf] at hserved
      rw [RateLimitConfig.limitOf] at hlimit
      split at hserved
      · rename_i m l hserving hlimiter
        split at hlimit
        · cases hlimit
          exact ⟨hmax, hwindow, by rw [hlimiter]; rfl⟩
        · cases hlimit
      · cases hserved

theorem Kept.follows_along_iff (h : Kept first s) (hmax : 0 < first.maxRequests) (hwindow : 0 < first.windowSize)
    (moves : List (LimitedServerMove ρ)) :
    Along LimitedServer.step Follows s moves ↔ Along newest (AsStarted first) s.rateLimitConfig moves := by
  induction moves generalizing s with
  | nil => exact Iff.rfl
  | cons move moves ih =>
      have htail := ih (h.step move)
      rw [rateLimitConfig_step] at htail
      exact and_congr (h.followsAt_iff hmax hwindow move) htail

/-- Requests are answered under the latest configuration as long as it limits every path as the server was started to. -/
theorem follows_iff (first : RateLimitConfig) (hmax : 0 < first.maxRequests) (hwindow : 0 < first.windowSize) (now : ℚ)
    (moves : List (LimitedServerMove ρ)) :
    Along step Follows (setupRateLimiting first now) moves ↔ Along newest (AsStarted first) first moves := by
  have h := (kept_setup first now).follows_along_iff hmax hwindow moves
  rw [rateLimitConfig_setup] at h
  exact h

def fiveRequests : RateLimitConfig where
  enableRateLimit := true
  maxRequests := 5
  skipPaths := ["/metrics"]

def noLimit : RateLimitConfig := { fiveRequests with enableRateLimit := false }

def servedRequest : ServedRequest String where
  path := "/v1/completions"
  call := { consumedAt := 0, readAt := 0, timestamp := 0 }
  callNext _ := .ok "done"

theorem follows_turnedBack :
    Along step Follows (setupRateLimiting fiveRequests 0)
      [.request servedRequest, .updateConfig noLimit, .updateConfig fiveRequests, .request servedRequest] :=
  (follows_iff fiveRequests (by decide) (by decide) 0 _).mpr ⟨fun _ => rfl, trivial, trivial, fun _ => rfl, trivial⟩

/-- A limit that is turned on is not applied, and one that is turned off stays. -/
theorem updates_ignored :
    ¬ Along step Follows (setupRateLimiting noLimit 0) [.updateConfig fiveRequests, .request servedRequest] ∧
    ¬ Along step Follows (setupRateLimiting fiveRequests 0) [.updateConfig noLimit, .request servedRequest] := by
  constructor
  · rintro ⟨-, hon, -⟩
    exact absurd (hon servedRequest) (by decide +kernel)
  · rintro ⟨-, hoff, -⟩
    exact absurd (hoff servedRequest) (by decide +kernel)

end LimitedServer

end PyMotor
