import PyMotor.Lib.Run
import PyMotor.NodeManager.HeartbeatManager

/-!
# The health of an engine server

`motor/engine_server/core/sim_inference.py`, `motor/engine_server/core/health_collector.py` and the status route of
`motor/engine_server/core/mgmt_endpoint.py`. The loop of virtual requests runs in a thread of its own; what a request
comes to and the usage that the AICore thread has measured are arguments of its rounds.
-/

namespace PyMotor

open Lib

structure HealthCheckConfig where
  npuUsageThreshold : Int := 3
  enableVirtualInference : Bool := false
  maxFailureCount : Int := 6

/-- A round of `health_check_loop`: it raises, or it has the largest usage and whether the request was successful. -/
inductive Round
  | raised
  | checked (maxUsage : Int) (simInferenceSuccess : Bool)

structure EngineServer where
  config : HealthCheckConfig := {}
  /-- `_has_connected` of the collector. -/
  hasConnected : Bool := false
  virtualInferenceStarted : Bool := false
  /-- The loop has been started. -/
  healthCheckTask : Bool := false
  isAbnormal : Bool := false
  failureCount : Nat := 0
  countFailureFlag : Bool := false
  simSleep : Nat := 5

namespace EngineServer

/-- `.lower() == 'true'`. -/
def saysTrue (text : String) : Bool := text.toList.map Char.toLower = "true".toList

/-- `is_healthy` on the text of the answer, or on no answer; `none` is an exception. -/
def isHealthy (e : EngineServer) : Option String → Option Bool × EngineServer
  | some text => (some (saysTrue text), { e with hasConnected := true })
  | none => (if e.hasConnected then some false else none, e)

def startHealthCheck (e : EngineServer) : EngineServer :=
  if e.config.enableVirtualInference then
    if e.config.npuUsageThreshold ≤ 0 ∨ e.config.npuUsageThreshold > 100 then e else { e with healthCheckTask := true }
  else e

/-- `get_status` of the status route. -/
def getStatus (e : EngineServer) (answer : Option String) : EndpointStatus × EngineServer :=
  match e.isHealthy answer with
  | (none, e) => (.initial, e)
  | (some false, e) => (.abnormal, e)
  | (some true, e) =>
    let e := if e.virtualInferenceStarted then e else { e.startHealthCheck with virtualInferenceStarted := true }
    (if e.isAbnormal then .abnormal else .normal, e)

/-- The usage is below the threshold and the request has failed. -/
def failed (config : HealthCheckConfig) (maxUsage : Int) (simInferenceSuccess : Bool) : Bool :=
  maxUsage < config.npuUsageThreshold && !simInferenceSuccess

/-- A round of the loop once it has been started. -/
def healthCheckLoop (e : EngineServer) : Round → EngineServer
  | .raised => { e with isAbnormal := true }
  | .checked maxUsage simInferenceSuccess =>
    let e := if 80 ≤ maxUsage then { e with simSleep := 20 } else e
    if failed e.config maxUsage simInferenceSuccess then
      -- Failures count from the first round that did not fail.
      if e.countFailureFlag then
        let e := { e with failureCount := e.failureCount + 1 }
        if e.config.maxFailureCount ≤ e.failureCount then { e with isAbnormal := true } else e
      else e
    else { e with countFailureFlag := true, failureCount := 0, isAbnormal := false }

end EngineServer

/-! ## What has been seen of a server -/

/-- A server with the answers of its engine and the rounds that have run. -/
structure WatchedServer where
  server : EngineServer := {}
  answers : List (Option String) := []
  rounds : List Round := []

namespace WatchedServer

inductive Event
  | status (answer : Option String)
  | round (r : Round)

def getStatus (w : WatchedServer) (answer : Option String) : EndpointStatus × WatchedServer :=
  ((w.server.getStatus answer).1, { w with server := (w.server.getStatus answer).2, answers := w.answers ++ [answer] })

def healthCheckLoop (w : WatchedServer) (r : Round) : WatchedServer :=
  if w.server.healthCheckTask then { w with server := w.server.healthCheckLoop r, rounds := w.rounds ++ [r] } else w

def step (w : WatchedServer) : Event → WatchedServer
  | .status answer => (w.getStatus answer).2
  | .round r => w.healthCheckLoop r

end WatchedServer

/-! ## What is said of it -/

namespace EngineServer

/-- Whether a round that has not raised failed. -/
def outcome (config : HealthCheckConfig) : Round → Option Bool
  | .raised => none
  | .checked maxUsage simInferenceSuccess => some (failed config maxUsage simInferenceSuccess)

def outcomes (config : HealthCheckConfig) (rounds : List Round) : List Bool := rounds.filterMap (outcome config)

/-- A round has raised and none since went well, or as many rounds as allowed have failed since the last one that went
well. -/
def Alarm (config : HealthCheckConfig) (rounds : List Round) : Prop :=
  (∃ before after, rounds = before ++ .raised :: after ∧ false ∉ outcomes config after) ∨
  (false ∈ outcomes config rounds ∧ 0 < streak (outcomes config rounds) ∧
    config.maxFailureCount ≤ streak (outcomes config rounds))

/-- The engine says that it is healthy. -/
def SaysHealthy (answer : Option String) : Prop := ∃ text, answer = some text ∧ saysTrue text = true

end EngineServer

end PyMotor
