import PyMotor.Middleware.RateLimiter

/-!
# The bound of the rate limiter

The bucket bounds the calls that it grants. Beside them, only a call that the bucket refuses and whose report raises is
let through.
-/

namespace PyMotor

open Lib

namespace TokenBucket

variable (b : TokenBucket) (now n : ℚ)

def toBucket : Bucket ℚ := ⟨b.capacity, b.refillRate, b.tokens, b.lastRefill⟩

theorem tryConsume_eq : ((b.tryConsume now n).1, (b.tryConsume now n).2.toBucket) = b.toBucket.take now n := by
  unfold tryConsume Bucket.take
  by_cases h : n ≤ b.toBucket.levelAt now
  · have h' : min b.capacity (b.tokens + (now - b.lastRefill) * b.refillRate) ≥ n := h
    simp only [if_pos h, if_pos h']
    rfl
  · have h' : ¬ min b.capacity (b.tokens + (now - b.lastRefill) * b.refillRate) ≥ n := h
    simp only [if_neg h, if_neg h']
    rfl

theorem tryConsume_fst : (b.tryConsume now n).1 = (b.toBucket.take now n).1 := congrArg Prod.fst (b.tryConsume_eq now n)

theorem toBucket_tryConsume : (b.tryConsume now n).2.toBucket = (b.toBucket.take now n).2 :=
  congrArg Prod.snd (b.tryConsume_eq now n)

end TokenBucket

namespace SimpleRateLimiter

variable {l : SimpleRateLimiter} {call : LimiterCall} {calls : List LimiterCall} {now a z : ℚ}

def grants (l : SimpleRateLimiter) (call : LimiterCall) : Bool := (l.bucket.tryConsume call.consumedAt 1).1

/-- The bucket has no token for the call, and the report of an alarm raises. -/
def failsOpen (l : SimpleRateLimiter) (call : LimiterCall) : Bool :=
  !l.grants call && (l.isAllowed call).1.event.isSome && call.reportError.isSome

def allows (l : SimpleRateLimiter) (call : LimiterCall) : Bool := (l.isAllowed call).1.allowed

theorem allows_eq (l : SimpleRateLimiter) (call : LimiterCall) : l.allows call = (l.grants call || l.failsOpen call) := by
  unfold allows failsOpen grants isAllowed
  dsimp only
  cases (l.bucket.tryConsume call.consumedAt 1).1 with
  | true => split <;> rfl
  | false =>
      split
      · simp_all
      · rename_i hcase
        generalize hevent : (l.congestionAlarm
          ((l.bucket.tryConsume call.consumedAt 1).2.getAvailableTokens call.readAt)).1 = event at hcase ⊢
        cases event with
        | none => rfl
        | some event =>
            cases herror : call.reportError with
            | none => rfl
            | some error => exact absurd herror (hcase event error rfl)

theorem bucket_step (l : SimpleRateLimiter) (call : LimiterCall) :
    (l.step call).bucket = (l.bucket.tryConsume call.consumedAt 1).2 := by
  unfold step isAllowed
  dsimp only
  split <;> rfl

/-- The call takes its token in the window. -/
def LimiterCall.within (a z : ℚ) (call : LimiterCall) : Bool := decide (a ≤ call.consumedAt ∧ call.consumedAt ≤ z)

/-- How many calls of a run take their token in the window and are such. -/
def countWithin (a z : ℚ) (p : SimpleRateLimiter → LimiterCall → Bool) (l : SimpleRateLimiter)
    (calls : List LimiterCall) : Nat :=
  (visits step l calls).countP fun v => LimiterCall.within a z v.2 && p v.1 v.2

theorem countWithin_cons (p : SimpleRateLimiter → LimiterCall → Bool) :
    countWithin a z p l (call :: calls) =
      countWithin a z p (l.step call) calls + if LimiterCall.within a z call && p l call then 1 else 0 :=
  List.countP_cons

theorem countWithin_allows (a z : ℚ) (l : SimpleRateLimiter) (calls : List LimiterCall) :
    countWithin a z allows l calls = countWithin a z grants l calls + countWithin a z failsOpen l calls := by
  induction calls generalizing l with
  | nil => rfl
  | cons call calls ih =>
      simp only [countWithin_cons, ih, allows_eq]
      cases LimiterCall.within a z call <;> cases hg : l.grants call <;> cases hf : l.failsOpen call <;>
        simp_all [failsOpen] <;> omega

/-- What the bucket holds to, at the clock. -/
structure Sound (now : ℚ) (l : SimpleRateLimiter) : Prop where
  valid : l.bucket.toBucket.Valid
  stamp : l.bucket.lastRefill ≤ now

theorem Sound.step (h : l.Sound now) (hnow : now ≤ call.consumedAt) (hread : call.consumedAt ≤ call.timestamp) :
    (l.step call).Sound call.timestamp where
  valid := by
    rw [bucket_step, TokenBucket.toBucket_tryConsume]
    exact h.valid.take zero_le_one (h.stamp.trans hnow)
  stamp := by
    have hstamp := l.bucket.toBucket.take_stamp call.consumedAt 1
    rw [← TokenBucket.toBucket_tryConsume, ← bucket_step] at hstamp
    exact hstamp.trans_le hread

theorem sound_new {maxRequests windowSize : Int} (hmax : 0 ≤ maxRequests) (hwindow : 0 < windowSize) (now : ℚ) :
    (new maxRequests windowSize now).Sound now where
  valid := by
    have hcapacity : (0 : ℚ) ≤ maxRequests := by exact_mod_cast hmax
    have hlength : (0 : ℚ) ≤ windowSize := by exact_mod_cast hwindow.le
    exact ⟨div_nonneg hcapacity hlength, hcapacity, le_refl _⟩
  stamp := le_refl _

theorem step_maxRequests (l : SimpleRateLimiter) (call : LimiterCall) : (l.step call).maxRequests = l.maxRequests := by
  unfold SimpleRateLimiter.step isAllowed
  dsimp only
  split <;> rfl

theorem capacity_step (l : SimpleRateLimiter) (call : LimiterCall) :
    (l.step call).bucket.capacity = l.bucket.capacity ∧ (l.step call).bucket.refillRate = l.bucket.refillRate := by
  have hcapacity := l.bucket.toBucket.take_capacity call.consumedAt 1
  have hrate := l.bucket.toBucket.take_rate call.consumedAt 1
  rw [← TokenBucket.toBucket_tryConsume, ← bucket_step] at hcapacity hrate
  exact ⟨hcapacity, hrate⟩

theorem sound_run (h : l.Sound now) (hclock : Clocked now calls) (n : Nat) :
    ∃ now', (run step l (calls.take n)).Sound now' ∧
      (run step l (calls.take n)).bucket.capacity = l.bucket.capacity := by
  induction calls generalizing l now n with
  | nil => exact ⟨now, by simpa using h, by simp⟩
  | cons call calls ih =>
      obtain ⟨hnow, hread, htime, hrest⟩ := hclock
      cases n with
      | zero => exact ⟨now, h, rfl⟩
      | succ n =>
          obtain ⟨now', hsound, hcapacity⟩ := ih (h.step hnow (hread.trans htime)) hrest n
          exact ⟨now', hsound, hcapacity.trans (capacity_step l call).1⟩

theorem granted_le {spent : ℚ} (h : l.Sound now) (hspent : l.bucket.toBucket.Spent a z spent) (hclock : Clocked now calls) :
    spent + countWithin a z grants l calls ≤ l.bucket.capacity + l.bucket.refillRate * (z - a) := by
  induction calls generalizing l now spent with
  | nil =>
      have htotal : spent ≤ l.bucket.capacity + l.bucket.refillRate * (z - a) := hspent.total
      simpa [countWithin, visits] using htotal
  | cons call calls ih =>
      obtain ⟨hnow, hread, htime, hrest⟩ := hclock
      have hstamp : l.bucket.toBucket.stamp ≤ call.consumedAt := h.stamp.trans hnow
      have hsound := h.step hnow (hread.trans htime)
      obtain ⟨hcapacity, hrate⟩ := capacity_step l call
      rw [countWithin_cons, ← hcapacity, ← hrate]
      by_cases hwithin : a ≤ call.consumedAt ∧ call.consumedAt ≤ z
      · have htake := hspent.take h.valid zero_le_one hstamp hwithin.1 hwithin.2
        rw [← TokenBucket.toBucket_tryConsume, ← TokenBucket.tryConsume_fst, ← bucket_step] at htake
        have hle := ih hsound htake hrest
        have hcall : LimiterCall.within a z call = true := decide_eq_true hwithin
        simp only [hcall, Bool.true_and, grants] at hle ⊢
        push_cast
        linarith
      · have hout : call.consumedAt < a ∨ z < call.consumedAt :=
          (not_and_or.mp hwithin).imp not_le.mp not_le.mp
        have htake : (l.bucket.toBucket.take call.consumedAt 1).2.Spent a z spent := hspent.take_outside hstamp hout
        rw [← TokenBucket.toBucket_tryConsume, ← bucket_step] at htake
        have hle := ih hsound htake hrest
        have hcall : LimiterCall.within a z call = false := decide_eq_false hwithin
        simpa [hcall] using hle

/-- The tokens stay between zero and the capacity. -/
def TokensKept (l : SimpleRateLimiter) (calls : List LimiterCall) : Prop :=
  ∀ n, 0 ≤ (run step l (calls.take n)).bucket.tokens ∧ (run step l (calls.take n)).bucket.tokens ≤ l.bucket.capacity

/-- In every window no more calls are allowed than the limit and what comes in during the window, but for those that are
let through because the report of an alarm raises. -/
theorem rate_bounded {maxRequests windowSize : Int} (hmax : 0 ≤ maxRequests) (hwindow : 0 < windowSize)
    (hclock : Clocked now calls) :
    TokensKept (new maxRequests windowSize now) calls ∧
    ∀ a T : ℚ, 0 ≤ T →
      (countWithin a (a + T) allows (new maxRequests windowSize now) calls : ℚ) ≤
        maxRequests + maxRequests / windowSize * T + countWithin a (a + T) failsOpen (new maxRequests windowSize now) calls := by
  have hsound := sound_new hmax hwindow now
  constructor
  · intro n
    obtain ⟨now', hn, hcapacity⟩ := sound_run hsound hclock n
    exact ⟨hn.valid.level, hn.valid.level_le.trans_eq hcapacity⟩
  · intro a T hT
    have hle := granted_le (z := a + T) hsound (hsound.valid.spent_zero (by linarith)) hclock
    have hgain : a + T - a = T := by ring
    have hcapacity : (new maxRequests windowSize now).bucket.capacity = maxRequests := rfl
    have hrate : (new maxRequests windowSize now).bucket.refillRate = maxRequests / windowSize := rfl
    rw [hgain, hcapacity, hrate] at hle
    rw [countWithin_allows]
    push_cast
    linarith

/-- The third call finds no token, and the next token has come when the available ones are counted. -/
def refusedWithError : List LimiterCall :=
  [⟨0, 0, 0, none⟩, ⟨0, 0, 0, none⟩, ⟨29, 30, 30, some "no report"⟩]

theorem rate_bounded_refusedWithError :
    TokensKept (new 2 60 0) refusedWithError ∧
    ∀ a T : ℚ, 0 ≤ T →
      (countWithin a (a + T) allows (new 2 60 0) refusedWithError : ℚ) ≤
        (2 : Int) + (2 : Int) / (60 : Int) * T + countWithin a (a + T) failsOpen (new 2 60 0) refusedWithError :=
  rate_bounded (by decide) (by decide) (by decide)

/-- Three calls are allowed within 29 seconds, where the limit and the gain come to less. -/
theorem refusedWithError_exceeds :
    ¬ (TokensKept (new 2 60 0) refusedWithError ∧
      ∀ a T : ℚ, 0 ≤ T →
        (countWithin a (a + T) allows (new 2 60 0) refusedWithError : ℚ) ≤ (2 : Int) + (2 : Int) / (60 : Int) * T) := by
  rintro ⟨-, h⟩
  exact absurd (h 0 29 (by decide)) (by decide +kernel)

end SimpleRateLimiter

end PyMotor
