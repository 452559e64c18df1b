import Mathlib.Algebra.Order.Ring.Rat
import PyMotor.Lib.Run
import PyMotor.Lib.Window
import PyMotor.Recompute.Common

/-!
# The rate limiter

`motor/coordinator/middleware/rate_limiter.py`, with exact numbers. What the clock shows and how a report of an alarm
ends are inputs of a call.
-/

namespace PyMotor

open Lib

/-- `int(x)`. -/
def truncated (x : ℚ) : Int := x.num.tdiv x.den

def defaultReqCongestionTriggerRatio : ℚ := 85 / 100

def defaultReqCongestionClearRatio : ℚ := 75 / 100

structure TokenBucket where
  capacity : ℚ
  refillRate : ℚ
  tokens : ℚ
  lastRefill : ℚ

namespace TokenBucket

variable (b : TokenBucket)

/-- A new bucket is full. -/
def new (capacity refillRate now : ℚ) : TokenBucket :=
  { capacity := capacity, refillRate := refillRate, tokens := capacity, lastRefill := now }

def tryConsume (now tokens : ℚ) : Bool × TokenBucket :=
  let elapsed := now - b.lastRefill
  let tokensToAdd := elapsed * b.refillRate
  let b := { b with tokens := min b.capacity (b.tokens + tokensToAdd), lastRefill := now }
  if b.tokens ≥ tokens then (true, { b with tokens := b.tokens - tokens }) else (false, b)

def getAvailableTokens (now : ℚ) : Int :=
  let elapsed := now - b.lastRefill
  let tokensToAdd := elapsed * b.refillRate
  truncated (min b.capacity (b.tokens + tokensToAdd))

end TokenBucket

/-- One call of `is_allowed`: what the clock shows each time it is read, and the error with which a report ends. -/
structure LimiterCall where
  consumedAt : ℚ
  readAt : ℚ
  timestamp : ℚ
  reportError : Option String := none
deriving DecidableEq

/-- Which of the two alarm branches is taken. -/
inductive AlarmBranch
  | trigger
  | clear
deriving DecidableEq, Repr

/-- The `ReqCongestionEvent` that is reported. -/
structure ReqCongestionEvent where
  branch : AlarmBranch
  additionalInformation : String
deriving DecidableEq

/-- `limit_info`; in the scope `global` unless the check has failed. -/
inductive LimitInfo
  | checked (allowed : Bool) (available limit windowSize : Int) (timestamp : ℚ)
  | failed (error : String) (timestamp : ℚ)
deriving DecidableEq

structure LimiterAnswer where
  allowed : Bool
  limitInfo : LimitInfo
  event : Option ReqCongestionEvent
deriving DecidableEq

structure SimpleRateLimiter where
  maxRequests : Int
  windowSize : Int
  congestionAlarmSent : Bool := false
  bucket : TokenBucket

namespace SimpleRateLimiter

variable (l : SimpleRateLimiter)

def new (maxRequests windowSize : Int) (now : ℚ) : SimpleRateLimiter :=
  { maxRequests := maxRequests, windowSize := windowSize,
    bucket := .new maxRequests (maxRequests / windowSize) now }

def triggerEvent (available : Int) : ReqCongestionEvent :=
  { branch := .trigger
    additionalInformation := s!"The current number of inference requests in the system is{available}," ++
      s!"which is greater than the configured maximum number of requests {l.maxRequests}*85%." }

def clearEvent (available : Int) : ReqCongestionEvent :=
  { branch := .clear
    additionalInformation := s!"The current number of inference requests in the system is {available}," ++
      s!"which is less than the configured maximum number of requests {l.maxRequests}*75%." }

/-- The event to report, and whether the alarm stands after it. -/
def congestionAlarm (available : Int) : Option ReqCongestionEvent × Bool :=
  let reqCongestionTriggerThreshold := truncated (l.maxRequests * defaultReqCongestionTriggerRatio)
  let reqCongestionClearThreshold := truncated (l.maxRequests * defaultReqCongestionClearRatio)
  if !l.congestionAlarmSent && available ≥ reqCongestionTriggerThreshold then (some (l.triggerEvent available), true)
  else if l.congestionAlarmSent && available < reqCongestionClearThreshold then (some (l.clearEvent available), false)
  else (none, l.congestionAlarmSent)

/-- A report that raises lets the request through. -/
def isAllowed (call : LimiterCall) : LimiterAnswer × SimpleRateLimiter :=
  let (allowed, bucket) := l.bucket.tryConsume call.consumedAt 1
  let available := bucket.getAvailableTokens call.readAt
  let (event, sent) := l.congestionAlarm available
  let l := { l with bucket := bucket, congestionAlarmSent := sent }
  match event, call.reportError with
  | some _, some error => ({ allowed := true, limitInfo := .failed error call.timestamp, event := event }, l)
  | _, _ =>
    ({ allowed := allowed, limitInfo := .checked allowed available l.maxRequests l.windowSize call.timestamp,
       event := event }, l)

def step (call : LimiterCall) : SimpleRateLimiter := (l.isAllowed call).2

end SimpleRateLimiter

/-- The clock does not go back. -/
def Clocked : ℚ → List LimiterCall → Prop
  | _, [] => True
  | now, call :: calls =>
    now ≤ call.consumedAt ∧ call.consumedAt ≤ call.readAt ∧ call.readAt ≤ call.timestamp ∧ Clocked call.timestamp calls

def decidableClocked : ∀ (now : ℚ) (calls : List LimiterCall), Decidable (Clocked now calls)
  | _, [] => inferInstanceAs (Decidable True)
  | now, call :: calls =>
    have := decidableClocked call.timestamp calls
    inferInstanceAs (Decidable (now ≤ call.consumedAt ∧ call.consumedAt ≤ call.readAt ∧ call.readAt ≤ call.timestamp ∧
      Clocked call.timestamp calls))

instance (now : ℚ) (calls : List LimiterCall) : Decidable (Clocked now calls) := decidableClocked now calls

/-!
## The middleware of the rate limiter

`SimpleRateLimitMiddleware` of `motor/coordinator/middleware/fastapi_middleware.py`, and its set-up and updates in
`motor/coordinator/api_server/inference_server.py`. What the limiter and the downstream application do at a request are
inputs of it.
-/

structure MiddlewareStats where
  totalRequests : Nat := 0
  allowedRequests : Nat := 0
  blockedRequests : Nat := 0
deriving DecidableEq

structure SimpleRateLimitMiddleware where
  skipPaths : List String
  errorMessage : String := "Request too frequent, please try again later"
  errorStatusCode : Int := 429
  enabled : Bool := true
  stats : MiddlewareStats := {}
deriving DecidableEq

/-- The answer to a limited request; its `error` is `rate_limit_exceeded`. -/
structure RateLimitResponse where
  statusCode : Int
  message : String
  available : Int
  limit : Int
  windowSize : Int
  headers : List (String × String)
deriving DecidableEq

/-- The response of the application with the headers that are added to it, or the answer to a limited request. -/
inductive MiddlewareResponse (ρ : Type)
  | forwarded (response : ρ) (headers : List (String × String))
  | limited (response : RateLimitResponse)
deriving DecidableEq

/-- A request. `check` is what the limiter returns or raises, and `callNext n` how the call of the application ends that
comes after `n` others. -/
structure MiddlewareRequest (ρ : Type) where
  path : String
  check : Except PyException (Bool × LimitInfo)
  callNext : Nat → Except Raised ρ

/-- What `dispatch` leaves, with the number of calls of the application. -/
structure Dispatched (ρ : Type) where
  result : Except Raised (MiddlewareResponse ρ)
  calls : Nat
  middleware : SimpleRateLimitMiddleware

namespace SimpleRateLimitMiddleware

def defaultSkipPaths : List String := ["/liveness", "/ready", "/metrics", "/docs", "/redoc", "/openapi.json"]

/-- `skip_paths or [...]`. -/
def orDefault (skipPaths : List String) : List String := if skipPaths.isEmpty then defaultSkipPaths else skipPaths

def new (skipPaths : List String) (errorMessage : String) (errorStatusCode : Int) : SimpleRateLimitMiddleware :=
  { skipPaths := orDefault skipPaths, errorMessage := errorMessage, errorStatusCode := errorStatusCode }

variable {ρ : Type} (m : SimpleRateLimitMiddleware)

def shouldSkipPath (path : String) : Bool :=
  m.skipPaths.any fun skipPath => Text.startsWith skipPath.toList path.toList

def createRateLimitHeaders : LimitInfo → List (String × String)
  | .checked _ available limit windowSize _ =>
    [("X-RateLimit-Remaining", toString available), ("X-RateLimit-Limit", toString limit),
      ("X-RateLimit-Window", toString windowSize)]
  | .failed _ _ => []

/-- `limit_info.get(key, 0)` for the keys `available`, `limit` and `window_size`. -/
def details : LimitInfo → Int × Int × Int
  | .checked _ available limit windowSize _ => (available, limit, windowSize)
  | .failed _ _ => (0, 0, 0)

def limitedResponse (limitInfo : LimitInfo) : RateLimitResponse :=
  { statusCode := m.errorStatusCode
    message := m.errorMessage
    available := (details limitInfo).1
    limit := (details limitInfo).2.1
    windowSize := (details limitInfo).2.2
    headers := createRateLimitHeaders limitInfo }

def countRequest : SimpleRateLimitMiddleware :=
  { m with stats := { m.stats with totalRequests := m.stats.totalRequests + 1 } }

def countAllowed : SimpleRateLimitMiddleware :=
  { m with stats := { m.stats with allowedRequests := m.stats.allowedRequests + 1 } }

def countBlocked : SimpleRateLimitMiddleware :=
  { m with stats := { m.stats with blockedRequests := m.stats.blockedRequests + 1 } }

/-- The call after `n` others, without headers. -/
def forward (request : MiddlewareRequest ρ) (n : Nat) : Dispatched ρ :=
  { result := (request.callNext n).map fun response => .forwarded response [], calls := n + 1, middleware := m }

/-- The `except` clause of `dispatch`, which is met after `n` calls of the application. -/
def letThrough (request : MiddlewareRequest ρ) (n : Nat) : Dispatched ρ := m.countAllowed.forward request n

def dispatch (request : MiddlewareRequest ρ) : Dispatched ρ :=
  let m := m.countRequest
  if !m.enabled then m.forward request 0
  else if m.shouldSkipPath request.path then m.forward request 0
  else
    match request.check with
    | .error _ => m.letThrough request 0
    | .ok (true, limitInfo) =>
      let m := m.countAllowed
      match request.callNext 0 with
      | .ok response =>
        { result := .ok (.forwarded response (createRateLimitHeaders limitInfo)), calls := 1, middleware := m }
      | .error (.exception _) => m.letThrough request 1
      | .error .cancelled => { result := .error .cancelled, calls := 1, middleware := m }
    | .ok (false, limitInfo) =>
      { result := .ok (.limited (m.limitedResponse limitInfo)), calls := 0, middleware := m.countBlocked }

def updateConfig (skipPaths : Option (List String)) (errorMessage : Option String) (errorStatusCode : Option Int)
    (enabled : Option Bool) : SimpleRateLimitMiddleware :=
  { m with
    skipPaths := skipPaths.getD m.skipPaths
    errorMessage := errorMessage.getD m.errorMessage
    errorStatusCode := errorStatusCode.getD m.errorStatusCode
    enabled := enabled.getD m.enabled }

/-- The middleware after a request. -/
def step (request : MiddlewareRequest ρ) : SimpleRateLimitMiddleware := (m.dispatch request).middleware

end SimpleRateLimitMiddleware

/-! ## The inference server -/

structure RateLimitConfig where
  enableRateLimit : Bool := false
  maxRequests : Int := 1000
  windowSize : Int := 60
  skipPaths : List String
  errorMessage : String := "too many requests, please try again later"
  errorStatusCode : Int := 429
deriving DecidableEq

/-- The parts of an inference server that limit its requests. `rateLimiter` is shared by `rateLimitMiddleware`, which
`setup_rate_limiting` keeps, and `serving`, which the application builds from the arguments of `add_middleware`. -/
structure LimitedServer where
  rateLimitConfig : RateLimitConfig
  rateLimiter : Option SimpleRateLimiter := none
  rateLimitMiddleware : Option SimpleRateLimitMiddleware := none
  serving : Option SimpleRateLimitMiddleware := none

/-- A request of a run: its path, the call of the limiter and the calls of the application. -/
structure ServedRequest (ρ : Type) where
  path : String
  call : LimiterCall
  callNext : Nat → Except Raised ρ

inductive LimitedServerMove (ρ : Type)
  | updateConfig (config : RateLimitConfig)
  | request (request : ServedRequest ρ)

namespace LimitedServer

variable {ρ : Type}

/-- `setup_rate_limiting` at the time `now`, and the start of the application. -/
def setupRateLimiting (config : RateLimitConfig) (now : ℚ) : LimitedServer :=
  if config.enableRateLimit then
    { rateLimitConfig := config
      rateLimiter := some (.new config.maxRequests config.windowSize now)
      rateLimitMiddleware := some { skipPaths := SimpleRateLimitMiddleware.defaultSkipPaths }
      serving := some (.new config.skipPaths config.errorMessage config.errorStatusCode) }
  else { rateLimitConfig := config }

def updateConfig (s : LimitedServer) (config : RateLimitConfig) : LimitedServer :=
  { s with
    rateLimitConfig := config
    rateLimitMiddleware := s.rateLimitMiddleware.map fun m =>
      m.updateConfig (some config.skipPaths) (some config.errorMessage) (some config.errorStatusCode)
        (some config.enableRateLimit) }

/-- A request reaches the limiter only when it is not skipped. -/
def serve (s : LimitedServer) (request : ServedRequest ρ) :
    Except Raised (MiddlewareResponse ρ) × LimitedServer :=
  match s.serving, s.rateLimiter with
  | some m, some l =>
    let answer := l.isAllowed request.call
    let dispatched := m.dispatch ⟨request.path, .ok (answer.1.allowed, answer.1.limitInfo), request.callNext⟩
    (dispatched.result,
      { s with
        serving := some dispatched.middleware
        rateLimiter := if m.enabled && !m.shouldSkipPath request.path then some answer.2 else some l })
  | _, _ => ((request.callNext 0).map fun response => .forwarded response [], s)

def step (s : LimitedServer) : LimitedServerMove ρ → LimitedServer
  | .updateConfig config => s.updateConfig config
  | .request request => (s.serve request).2

end LimitedServer

end PyMotor
