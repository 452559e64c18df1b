import Mathlib.Data.Rat.Floor
import PyMotor.Middleware.RateTheorems

/-!
# The congestion alarm

The alarm is to stand from the call at which the used tokens reach the upper threshold to the one at which they fall
below the lower one. The limiter compares the tokens that are left.
-/

namespace PyMotor

open Lib

theorem truncated_eq_floor {x : ℚ} (h : 0 ≤ x) : truncated x = ⌊x⌋ := by
  rw [truncated, Int.tdiv_eq_ediv_of_nonneg (Rat.num_nonneg.mpr h), Rat.floor_def']

namespace SimpleRateLimiter

variable {l : SimpleRateLimiter} {call : LimiterCall} {calls : List LimiterCall} {now : ℚ} {maxRequests windowSize : Int}

def available (l : SimpleRateLimiter) (call : LimiterCall) : Int :=
  (l.bucket.tryConsume call.consumedAt 1).2.getAvailableTokens call.readAt

def used (l : SimpleRateLimiter) (call : LimiterCall) : Int := l.maxRequests - l.available call

/-- What is to be reported for the used tokens, and whether the alarm stands after it. -/
def hysteresis (maxRequests : Int) (active : Bool) (used : Int) : Option AlarmBranch × Bool :=
  if !active && 85 * maxRequests ≤ 100 * used then (some .trigger, true)
  else if active && 100 * used < 75 * maxRequests then (some .clear, false)
  else (none, active)

def reported (l : SimpleRateLimiter) (call : LimiterCall) : Option AlarmBranch :=
  (l.isAllowed call).1.event.map ReqCongestionEvent.branch

/-- The reports of a run are those for its used tokens, and a full bucket is no congestion. -/
structure Hysteretic (l : SimpleRateLimiter) (calls : List LimiterCall) : Prop where
  reports : answers (fun l call => (reported l call, l.step call)) l calls =
    answers (hysteresis l.maxRequests) false ((visits step l calls).map fun v => v.1.used v.2)
  idle : ∀ v ∈ visits step l calls, v.1.used v.2 = 0 → v.1.reported v.2 ≠ some .trigger

theorem reported_eq (l : SimpleRateLimiter) (call : LimiterCall) :
    l.reported call = (l.congestionAlarm (l.available call)).1.map ReqCongestionEvent.branch := by
  unfold reported isAllowed available
  dsimp only
  split <;> rfl

theorem congestionAlarmSent_step (l : SimpleRateLimiter) (call : LimiterCall) :
    (l.step call).congestionAlarmSent = (l.congestionAlarm (l.available call)).2 := by
  unfold step isAllowed available
  dsimp only
  split <;> rfl

/-! ## The available tokens -/

theorem Sound.levelAt_nonneg (h : l.Sound now) (hnow : now ≤ call.consumedAt) (hread : call.consumedAt ≤ call.readAt) :
    0 ≤ (l.bucket.tryConsume call.consumedAt 1).2.toBucket.levelAt call.readAt := by
  have hvalid := h.valid.take zero_le_one (h.stamp.trans hnow)
  rw [TokenBucket.toBucket_tryConsume]
  exact hvalid.level.trans (hvalid.level_le_levelAt (by rw [Bucket.take_stamp]; exact hread))

theorem Sound.available_eq (h : l.Sound now) (hnow : now ≤ call.consumedAt) (hread : call.consumedAt ≤ call.readAt) :
    l.available call = ⌊(l.bucket.tryConsume call.consumedAt 1).2.toBucket.levelAt call.readAt⌋ :=
  truncated_eq_floor (h.levelAt_nonneg hnow hread)

theorem Sound.available_nonneg (h : l.Sound now) (hnow : now ≤ call.consumedAt) (hread : call.consumedAt ≤ call.readAt) :
    0 ≤ l.available call := by
  rw [h.available_eq hnow hread]
  exact Int.floor_nonneg.mpr (h.levelAt_nonneg hnow hread)

theorem Sound.available_le (h : l.Sound now) (hnow : now ≤ call.consumedAt) (hread : call.consumedAt ≤ call.readAt)
    (hcapacity : l.bucket.capacity = l.maxRequests) : l.available call ≤ l.maxRequests := by
  have hle := (l.bucket.tryConsume call.consumedAt 1).2.toBucket.levelAt_le_capacity call.readAt
  rw [TokenBucket.toBucket_tryConsume, Bucket.take_capacity] at hle
  have hmax : l.bucket.toBucket.capacity = l.maxRequests := hcapacity
  rw [hmax] at hle
  rw [h.available_eq hnow hread, TokenBucket.toBucket_tryConsume]
  exact_mod_cast (Int.floor_le _).trans hle

theorem le_available_new (hmax : 0 < maxRequests) (hwindow : 0 < windowSize) (hnow : now ≤ call.consumedAt)
    (hread : call.consumedAt ≤ call.readAt) : maxRequests - 1 ≤ (new maxRequests windowSize now).available call := by
  have hsound := sound_new hmax.le hwindow now
  have hvalid := hsound.valid.take zero_le_one (hsound.stamp.trans hnow)
  have hstamp : ((new maxRequests windowSize now).bucket.toBucket.take call.consumedAt 1).2.stamp ≤ call.readAt := by
    rw [Bucket.take_stamp]
    exact hread
  have hlevel := hvalid.level_le_levelAt hstamp
  have hfull := hsound.valid.level_le_levelAt (hsound.stamp.trans hnow)
  have htokens : (new maxRequests windowSize now).bucket.toBucket.level = maxRequests := rfl
  rw [htokens] at hfull
  rw [hsound.available_eq hnow hread, TokenBucket.toBucket_tryConsume, Int.le_floor]
  rw [Bucket.take_level] at hlevel
  push_cast
  split at hlevel <;> linarith

/-! ## Thresholds -/

theorem truncated_ratio (hmax : 0 ≤ maxRequests) {ratio : ℚ} (hratio : 0 ≤ ratio) (n : Int) :
    truncated (maxRequests * ratio) ≤ n ↔ maxRequests * ratio < n + 1 := by
  have hcast : (0 : ℚ) ≤ maxRequests := by exact_mod_cast hmax
  rw [truncated_eq_floor (mul_nonneg hcast hratio), ← Int.lt_add_one_iff, Int.floor_lt]
  push_cast
  rfl

theorem triggers_of_le (hmax : 0 < l.maxRequests) (hsent : l.congestionAlarmSent = false) {n : Int}
    (hn : l.maxRequests - 1 ≤ n) : l.congestionAlarm n = (some (l.triggerEvent n), true) := by
  have hthreshold : truncated (l.maxRequests * defaultReqCongestionTriggerRatio) ≤ n := by
    have hcast : (0 : ℚ) < l.maxRequests := by exact_mod_cast hmax
    have hle : (l.maxRequests : ℚ) - 1 ≤ n := by exact_mod_cast hn
    rw [truncated_ratio hmax.le (by norm_num [defaultReqCongestionTriggerRatio]), defaultReqCongestionTriggerRatio]
    linarith
  unfold congestionAlarm
  rw [hsent]
  simp [hthreshold]

theorem stays_of_one (hmax : l.maxRequests = 1) (hsent : l.congestionAlarmSent = true) {n : Int} (hn : 0 ≤ n) :
    l.congestionAlarm n = (none, true) := by
  have hthreshold : truncated (l.maxRequests * defaultReqCongestionClearRatio) ≤ n := by
    rw [hmax, truncated_ratio zero_le_one (by norm_num [defaultReqCongestionClearRatio]), defaultReqCongestionClearRatio]
    have hcast : (0 : ℚ) ≤ n := by exact_mod_cast hn
    push_cast
    linarith
  unfold congestionAlarm
  rw [hsent]
  simp [not_lt.mpr hthreshold]

/-! ## Runs -/

def Drained (l : SimpleRateLimiter) (call : LimiterCall) : Prop := l.available call = 0

/-- While the alarm stands, a limiter of one request reports nothing, which is right as long as its token is used. -/
theorem reports_of_one (h : l.Sound now) (hcapacity : l.bucket.capacity = l.maxRequests) (hmax : l.maxRequests = 1)
    (hsent : l.congestionAlarmSent = true) (hclock : Clocked now calls) :
    answers (fun l call => (reported l call, l.step call)) l calls =
        answers (hysteresis 1) true ((visits step l calls).map fun v => v.1.used v.2) ↔
      Along step Drained l calls := by
  induction calls generalizing l now with
  | nil => simp [answers, visits, Along]
  | cons call calls ih =>
      obtain ⟨hnow, hread, htime, hrest⟩ := hclock
      have hnonneg := h.available_nonneg hnow hread
      have hle := h.available_le hnow hread hcapacity
      have hquiet := stays_of_one hmax hsent hnonneg
      have hreported : l.reported call = none := by rw [reported_eq, hquiet]; rfl
      have hsent' : (l.step call).congestionAlarmSent = true := by rw [congestionAlarmSent_step, hquiet]
      have hmax' : (l.step call).maxRequests = 1 := (step_maxRequests l call).trans hmax
      have hcapacity' : (l.step call).bucket.capacity = (l.step call).maxRequests := by
        rw [(capacity_step l call).1, step_maxRequests, hcapacity]
      have hih := ih (h.step hnow (hread.trans htime)) hcapacity' hmax' hsent' hrest
      simp only [answers, visits, Along, List.map_cons, hreported, List.cons.injEq]
      by_cases hdrained : l.available call = 0
      · have hstep : hysteresis 1 true (l.used call) = (none, true) := by simp [hysteresis, used, hmax, hdrained]
        simp only [hstep, true_and, Drained, hdrained]
        exact hih
      · have hone : l.available call = 1 := by omega
        have hstep : hysteresis 1 true (l.used call) = (some .clear, false) := by simp [hysteresis, used, hmax, hone]
        simp [hstep, Drained, hone]

theorem maxRequests_visits {v : SimpleRateLimiter × LimiterCall} (hv : v ∈ visits step l calls) :
    v.1.maxRequests = l.maxRequests := by
  have hkept : Along step (fun l' _ => l'.maxRequests = l.maxRequests) l calls :=
    along_of_invariant (fun l' call h _ => (step_maxRequests l' call).trans h) (fun _ _ h _ => h) rfl
      (along_of_forall fun _ _ => trivial)
  exact along_iff_visits.mp hkept v hv

theorem reported_new (hmax : 0 < maxRequests) (hwindow : 0 < windowSize) (hnow : now ≤ call.consumedAt)
    (hread : call.consumedAt ≤ call.readAt) :
    (new maxRequests windowSize now).congestionAlarm ((new maxRequests windowSize now).available call) =
      (some ((new maxRequests windowSize now).triggerEvent ((new maxRequests windowSize now).available call)), true) ∧
    (new maxRequests windowSize now).reported call = some .trigger := by
  have hge : (new maxRequests windowSize now).maxRequests - 1 ≤ (new maxRequests windowSize now).available call :=
    le_available_new hmax hwindow hnow hread
  have htriggers := triggers_of_le hmax rfl hge
  exact ⟨htriggers, by rw [reported_eq, htriggers]; rfl⟩

theorem Hysteretic.used_first (h : Hysteretic (new maxRequests windowSize now) (call :: calls))
    (hreported : (new maxRequests windowSize now).reported call = some .trigger) :
    85 * maxRequests ≤ 100 * (new maxRequests windowSize now).used call := by
  have hreports := h.reports
  have hlimit : (new maxRequests windowSize now).maxRequests = maxRequests := rfl
  simp only [answers, visits, List.map_cons, hreported, List.cons.injEq, hlimit] at hreports
  by_contra hlt
  have hstep : hysteresis maxRequests false ((new maxRequests windowSize now).used call) = (none, false) := by
    simp [hysteresis, hlt]
  rw [hstep] at hreports
  cases hreports.1

theorem hysteretic_one_iff (hwindow : 0 < windowSize) (hclock : Clocked now (call :: calls))
    (hdrained : (new 1 windowSize now).available call = 0) :
    Hysteretic (new 1 windowSize now) (call :: calls) ↔ Along step Drained ((new 1 windowSize now).step call) calls := by
  obtain ⟨hnow, hread, htime, hrest⟩ := hclock
  obtain ⟨htriggers, hreported⟩ := reported_new zero_lt_one hwindow hnow hread
  have hsent : ((new 1 windowSize now).step call).congestionAlarmSent = true := by
    rw [congestionAlarmSent_step, htriggers]
  have hcapacity : ((new 1 windowSize now).step call).bucket.capacity = ((new 1 windowSize now).step call).maxRequests := by
    rw [(capacity_step _ call).1, step_maxRequests]
    rfl
  have hrun := reports_of_one ((sound_new zero_le_one hwindow now).step hnow (hread.trans htime)) hcapacity
    (step_maxRequests _ call) hsent hrest
  have hused : (new 1 windowSize now).used call = 1 := by
    rw [used, hdrained]
    rfl
  have hstep : hysteresis 1 false ((new 1 windowSize now).used call) = (some .trigger, true) := by
    simp [hysteresis, hused]
  have hlimit : (new 1 windowSize now).maxRequests = 1 := rfl
  have hreports : answers (fun l call => (reported l call, l.step call)) (new 1 windowSize now) (call :: calls) =
      answers (hysteresis (new 1 windowSize now).maxRequests) false
        ((visits step (new 1 windowSize now) (call :: calls)).map fun v => v.1.used v.2) ↔
      Along step Drained ((new 1 windowSize now).step call) calls := by
    simp only [answers, visits, List.map_cons, hreported, List.cons.injEq, hlimit, hstep, true_and]
    exact hrun
  refine ⟨fun h => hreports.mp h.reports, fun h => ⟨hreports.mpr h, fun v hv hzero => ?_⟩⟩
  have hall : Along step Drained (new 1 windowSize now) (call :: calls) := ⟨hdrained, h⟩
  have hleft : v.1.available v.2 = 0 := along_iff_visits.mp hall v hv
  rw [used, maxRequests_visits hv, hleft] at hzero
  cases hzero

/-- The alarm is as it should be only when nothing is called, or when the limit is one request and no call leaves a
token. -/
theorem hysteretic_iff (hmax : 0 < maxRequests) (hwindow : 0 < windowSize) (hclock : Clocked now calls) :
    Hysteretic (new maxRequests windowSize now) calls ↔
      calls = [] ∨ maxRequests = 1 ∧ Along step Drained (new maxRequests windowSize now) calls := by
  cases calls with
  | nil => exact ⟨fun _ => .inl rfl, fun _ => ⟨rfl, fun v hv => by cases hv⟩⟩
  | cons call calls =>
      obtain ⟨hnow, hread, -, -⟩ := id hclock
      obtain ⟨-, hreported⟩ := reported_new hmax hwindow hnow hread
      have hge := le_available_new hmax hwindow hnow hread
      have hused : (new maxRequests windowSize now).used call =
          maxRequests - (new maxRequests windowSize now).available call := rfl
      constructor
      · intro h
        have hfirst := h.used_first hreported
        obtain rfl : maxRequests = 1 := by omega
        have hdrained : (new 1 windowSize now).available call = 0 := by omega
        exact .inr ⟨rfl, hdrained, (hysteretic_one_iff hwindow hclock hdrained).mp h⟩
      · rintro (hnil | ⟨rfl, hdrained, hrest⟩)
        · cases hnil
        · exact (hysteretic_one_iff hwindow hclock hdrained).mpr hrest

def oneRequest : List LimiterCall := [⟨0, 0, 0, none⟩, ⟨30, 30, 30, none⟩]

theorem hysteretic_oneRequest : Hysteretic (new 1 60 0) oneRequest :=
  (hysteretic_iff (by decide) (by decide) (by decide)).mpr
    (.inr ⟨rfl, by unfold Drained; decide +kernel⟩)

def singleCall : List LimiterCall := [⟨0, 0, 0, none⟩]

theorem singleCall_not_hysteretic : ¬ Hysteretic (new 100 60 0) singleCall := fun h =>
  absurd h.reports (by decide +kernel)

end SimpleRateLimiter

end PyMotor
