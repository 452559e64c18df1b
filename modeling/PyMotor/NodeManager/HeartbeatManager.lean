import PyMotor.Lib.Objects
import PyMotor.Lib.Run
import PyMotor.Controller.Assembler

/-!
# The heartbeat manager

`motor/node_manager/core/heartbeat_manager.py`. The refresh thread holds the lock for its snapshot and for its
write-back, the report thread for the statuses; between them, and in any order, come start commands. Endpoints are
shared objects: a new status is seen before the write-back.
-/

namespace PyMotor

open Lib

instance : Inhabited Endpoint := ⟨{ id := 0 }⟩

structure HeartbeatMsg where
  jobName : String
  insId : Int
  ip : String
  status : Dict Int EndpointStatus

/-- Where the refresh thread is: between two refreshes, or between a snapshot and its write-back, with the endpoints
left to query and those queried. -/
inductive RefreshThread
  | idle
  | querying (rest updated : List Nat)

/-- Where the report thread is: between two heartbeats, before it builds the message, or before it has sent it. -/
inductive ReportThread
  | idle
  | collected (status : Dict Int EndpointStatus) (hasAbnormal : Bool)
  | reporting (hasAbnormal : Bool)

structure HeartbeatManager where
  heap : Heap Endpoint := []
  jobName : String := ""
  instanceId : Int := -1
  endpoints : List Nat := []
  isWithinGracePeriod : Bool := true
  consecutiveAbnormalCount : Nat := 0
  shouldSuicide : Bool := false
  refresh : RefreshThread := .idle
  report : ReportThread := .idle

def EndpointStatus.ofValue? : String → Option EndpointStatus
  | "initial" => some .initial
  | "normal" => some .normal
  | "abnormal" => some .abnormal
  | "paused" => some .paused
  | "wait2start" => some .wait2start
  | _ => none

namespace HeartbeatManager

variable (m : HeartbeatManager)

def updateEndpoint (msg : StartCmdMsg) : HeartbeatManager :=
  let (rs, heap) := m.heap.alloc msg.endpoints
  { m with
    heap := heap
    jobName := msg.jobName
    instanceId := msg.instanceId
    endpoints := rs
    consecutiveAbnormalCount := 0
    shouldSuicide := false }

/-! ## The refresh thread -/

/-- The start of `_get_engine_server_status`; `elapsed` is the time since the thread was started, if that is set. -/
def takeSnapshot (elapsed : Option ℚ) : HeartbeatManager :=
  match m.refresh with
  | .idle =>
    { m with
      refresh := .querying m.endpoints []
      isWithinGracePeriod := match elapsed with
        | some elapsed => m.isWithinGracePeriod && elapsed < 60
        | none => m.isWithinGracePeriod }
  | .querying _ _ => m

/-- What an answer tells: no answer, one without a status, and an unknown status are all abnormal. -/
def detectedStatus (response : Option (Option String)) : EndpointStatus :=
  match response with
  | some (some value) => (EndpointStatus.ofValue? value).getD .abnormal
  | some none => .abnormal
  | none => .abnormal

/-- The next endpoint of the snapshot. In the grace period an abnormal one keeps its status. -/
def queryStatus (response : Option (Option String)) : HeartbeatManager :=
  match m.refresh with
  | .querying (r :: rest) updated =>
    let detected := detectedStatus response
    { m with
      heap := m.heap.modify r fun item =>
        if m.isWithinGracePeriod && detected = .abnormal then item else { item with status := detected }
      refresh := .querying rest (updated ++ [r]) }
  | .querying [] _ => m
  | .idle => m

def writeBack : HeartbeatManager :=
  match m.refresh with
  | .querying [] updated => { m with endpoints := updated, refresh := .idle }
  | .querying (_ :: _) _ => m
  | .idle => m

/-! ## The report thread -/

def items : List Endpoint := m.endpoints.map m.heap.read

def collectStatus : HeartbeatManager :=
  match m.report with
  | .idle =>
    let hasAbnormal := m.items.any fun item => item.status = .abnormal
    let status := Dict.empty.update (m.items.map fun item => (item.id, item.status))
    { m with report := .collected status hasAbnormal }
  | .collected _ _ => m
  | .reporting _ => m

/-- The message that the report thread builds outside of the lock. -/
def heartbeatMsg (podIp : String) : Option HeartbeatMsg :=
  match m.report with
  | .collected status _ => some { jobName := m.jobName, insId := m.instanceId, ip := podIp, status := status }
  | .idle => none
  | .reporting _ => none

def buildMsg : HeartbeatManager :=
  match m.report with
  | .collected _ hasAbnormal => { m with report := .reporting hasAbnormal }
  | .idle => m
  | .reporting _ => m

/-- The end of a report; one that fails counts nothing. -/
def reportHeartbeat (succeeds : Bool) : HeartbeatManager :=
  match m.report with
  | .reporting hasAbnormal =>
    if succeeds then
      if hasAbnormal then
        { m with
          report := .idle
          consecutiveAbnormalCount := m.consecutiveAbnormalCount + 1
          shouldSuicide := m.shouldSuicide || 5 ≤ m.consecutiveAbnormalCount + 1 }
      else { m with report := .idle, consecutiveAbnormalCount := 0 }
    else { m with report := .idle }
  | .idle => m
  | .collected _ _ => m

end HeartbeatManager

/-! ## Runs -/

/-- The manager and the last start command that it was given. -/
structure StartedNode where
  manager : HeartbeatManager := {}
  latest : StartCmdMsg :=
    { jobName := "", role := "", instanceId := -1, endpoints := [], masterDpIp := "", ranktable := none }

namespace StartedNode

inductive Event
  | updateEndpoint (msg : StartCmdMsg)
  | takeSnapshot (elapsed : Option ℚ)
  | queryStatus (response : Option (Option String))
  | writeBack
  | collectStatus
  | buildMsg (podIp : String)
  | reportHeartbeat (succeeds : Bool)

def step (n : StartedNode) : Event → StartedNode
  | .updateEndpoint msg => { manager := n.manager.updateEndpoint msg, latest := msg }
  | .takeSnapshot elapsed => { n with manager := n.manager.takeSnapshot elapsed }
  | .queryStatus response => { n with manager := n.manager.queryStatus response }
  | .writeBack => { n with manager := n.manager.writeBack }
  | .collectStatus => { n with manager := n.manager.collectStatus }
  | .buildMsg _ => { n with manager := n.manager.buildMsg }
  | .reportHeartbeat succeeds => { n with manager := n.manager.reportHeartbeat succeeds }

/-! ## What the node manager reports -/

def SameIds (ids ids' : List Int) : Prop := ∀ id, id ∈ ids ↔ id ∈ ids'

def idsOf (n : StartedNode) (rs : List Nat) : List Int := rs.map fun r => (n.manager.heap.read r).id

def toldIds (n : StartedNode) : List Int := n.latest.endpoints.map Endpoint.id

/-- Between two refreshes the endpoints are those of the last start command, and a heartbeat is about its instance and
its endpoints. -/
structure ReportsTold (n : StartedNode) (event : Event) : Prop where
  settled : (n.step event).manager.refresh = .idle →
    SameIds ((n.step event).idsOf (n.step event).manager.endpoints) (n.step event).toldIds
  paired : ∀ podIp, event = .buildMsg podIp → ∀ msg, n.manager.heartbeatMsg podIp = some msg →
    msg.insId = n.latest.instanceId ∧ SameIds msg.status.keys n.toldIds

/-- A write-back finds the endpoints that its snapshot was taken of, and a heartbeat those that its statuses are of. -/
def Undisturbed (n : StartedNode) : Event → Prop
  | .writeBack => ∀ updated, n.manager.refresh = .querying [] updated →
      SameIds (n.idsOf updated) (n.idsOf n.manager.endpoints)
  | .buildMsg _ => ∀ status hasAbnormal, n.manager.report = .collected status hasAbnormal →
      SameIds status.keys (n.idsOf n.manager.endpoints)
  | _ => True

end StartedNode

end PyMotor
