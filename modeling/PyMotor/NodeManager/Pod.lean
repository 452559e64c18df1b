import PyMotor.EngineServer.HealthTheorems

/-!
# A pod

The status thread of the node manager asks the engine servers of the pod, each of which asks its engine and looks at its
virtual requests. The threads of the node manager and the loops of the servers run in any order.
-/

namespace PyMotor

open Lib EngineServer

namespace EndpointStatus

def value : EndpointStatus → String
  | .initial => "initial"
  | .normal => "normal"
  | .abnormal => "abnormal"
  | .paused => "paused"
  | .wait2start => "wait2start"

@[simp] theorem ofValue?_value (status : EndpointStatus) : ofValue? status.value = some status := by
  cases status <;> rfl

end EndpointStatus

def Endpoint.engineServerBaseUrl (ep : Endpoint) : String := ep.ip ++ ":" ++ ep.mgmtPort

structure Pod where
  node : StartedNode := {}
  /-- By base url. -/
  servers : String → WatchedServer := fun _ => {}

namespace Pod

inductive Event
  /-- `pull_engine` for an endpoint. -/
  | pullEngine (url : String) (config : HealthCheckConfig)
  | healthCheckLoop (url : String) (r : Round)
  | updateEndpoint (msg : StartCmdMsg)
  | takeSnapshot (elapsed : Option ℚ)
  /-- The query reaches the engine server or not; the server asks its engine. -/
  | queryStatus (reached : Bool) (answer : Option String)
  | writeBack
  | collectStatus
  | buildMsg (podIp : String)
  | reportHeartbeat (succeeds : Bool)

/-- The server that the status thread asks next. -/
def asked (p : Pod) : Option String :=
  match p.node.manager.refresh with
  | .querying (r :: _) _ => some (p.node.manager.heap.read r).engineServerBaseUrl
  | .querying [] _ => none
  | .idle => none

def queryStatus (p : Pod) (reached : Bool) (answer : Option String) : Pod :=
  match p.asked with
  | none => p
  | some url =>
    if reached then
      let (status, server) := (p.servers url).getStatus answer
      { node := p.node.step (.queryStatus (some (some status.value)))
        servers := Function.update p.servers url server }
    else { p with node := p.node.step (.queryStatus none) }

def step (p : Pod) : Event → Pod
  | .pullEngine url config => { p with servers := Function.update p.servers url { server := { config := config } } }
  | .healthCheckLoop url r => { p with servers := Function.update p.servers url ((p.servers url).healthCheckLoop r) }
  | .updateEndpoint msg => { p with node := p.node.step (.updateEndpoint msg) }
  | .takeSnapshot elapsed => { p with node := p.node.step (.takeSnapshot elapsed) }
  | .queryStatus reached answer => p.queryStatus reached answer
  | .writeBack => { p with node := p.node.step .writeBack }
  | .collectStatus => { p with node := p.node.step .collectStatus }
  | .buildMsg podIp => { p with node := p.node.step (.buildMsg podIp) }
  | .reportHeartbeat succeeds => { p with node := p.node.step (.reportHeartbeat succeeds) }

/-- The server finds its engine healthy and no alarm, or has not had an answer of it yet. -/
def AnswersWell (w : WatchedServer) (answer : Option String) : Prop :=
  SaysHealthy answer ∧ ¬ Alarm w.server.config w.rounds ∨ answer = none ∧ ∀ earlier ∈ w.answers, earlier = none

/-- No start command brings an abnormal endpoint, and a query outside of the grace period reaches a server that answers
well. -/
def Sound (p : Pod) : Event → Prop
  | .updateEndpoint msg => ∀ ep ∈ msg.endpoints, ep.status ≠ .abnormal
  | .queryStatus reached answer => p.node.manager.isWithinGracePeriod = true ∨
      ∀ url ∈ p.asked, reached = true ∧ AnswersWell (p.servers url) answer
  | _ => True

/-! ## The invariant -/

/-- Nothing is abnormal, and no heartbeat says so. -/
structure Quiet (m : HeartbeatManager) : Prop where
  heap : ∀ item ∈ m.heap, item.status ≠ .abnormal
  report : match m.report with
    | .idle => True
    | .collected _ hasAbnormal => hasAbnormal = false
    | .reporting hasAbnormal => hasAbnormal = false
  suicide : m.shouldSuicide = false

variable {m : HeartbeatManager}

theorem Quiet.read (h : Quiet m) (r : Nat) : (m.heap.read r).status ≠ .abnormal := by
  by_cases hr : r < m.heap.length
  · apply h.heap
    simp [Heap.read, hr]
  · simp [Heap.read, hr, default]

theorem Quiet.updateEndpoint (h : Quiet m) {msg : StartCmdMsg} (hmsg : ∀ ep ∈ msg.endpoints, ep.status ≠ .abnormal) :
    Quiet (m.updateEndpoint msg) := by
  refine ⟨fun item hitem => ?_, h.report, rfl⟩
  rcases List.mem_append.mp hitem with hitem | hitem
  · exact h.heap item hitem
  · exact hmsg item hitem

theorem Quiet.takeSnapshot (h : Quiet m) (elapsed : Option ℚ) : Quiet (m.takeSnapshot elapsed) := by
  unfold HeartbeatManager.takeSnapshot
  split
  · exact ⟨h.heap, h.report, h.suicide⟩
  · exact h

theorem Quiet.queryStatus (h : Quiet m) {response : Option (Option String)}
    (hr : m.isWithinGracePeriod = true ∨ HeartbeatManager.detectedStatus response ≠ .abnormal) :
    Quiet (m.queryStatus response) := by
  unfold HeartbeatManager.queryStatus
  split
  · rename_i r rest updated hrefresh
    refine ⟨fun item hitem => ?_, h.report, h.suicide⟩
    obtain ⟨i, hi, rfl⟩ := List.getElem_of_mem hitem
    have hi' : i < m.heap.length := by simpa using hi
    have hold := h.heap _ (List.getElem_mem hi')
    dsimp only
    rw [List.getElem_modify]
    split
    · split
      · exact hold
      · rename_i hkeep
        rcases hr with hr | hr
        · simpa [hr] using hkeep
        · exact hr
    · exact hold
  · exact h
  · exact h

theorem Quiet.writeBack (h : Quiet m) : Quiet m.writeBack := by
  unfold HeartbeatManager.writeBack
  split
  · exact ⟨h.heap, h.report, h.suicide⟩
  · exact h
  · exact h

theorem Quiet.collectStatus (h : Quiet m) : Quiet m.collectStatus := by
  unfold HeartbeatManager.collectStatus
  split
  · refine ⟨h.heap, ?_, h.suicide⟩
    simp only [List.any_eq_false, decide_eq_true_eq, HeartbeatManager.items, List.mem_map]
    rintro item ⟨r, -, rfl⟩
    exact h.read r
  · exact h
  · exact h

theorem Quiet.buildMsg (h : Quiet m) : Quiet m.buildMsg := by
  have hreport := h.report
  unfold HeartbeatManager.buildMsg
  split
  · rename_i hr
    rw [hr] at hreport
    exact ⟨h.heap, hreport, h.suicide⟩
  · exact h
  · exact h

theorem Quiet.reportHeartbeat (h : Quiet m) (succeeds : Bool) : Quiet (m.reportHeartbeat succeeds) := by
  have hreport := h.report
  unfold HeartbeatManager.reportHeartbeat
  split
  · rename_i hr
    rw [hr] at hreport
    simp only [hreport, Bool.false_eq_true, if_false]
    split <;> exact ⟨h.heap, trivial, h.suicide⟩
  · exact h
  · exact h

/-- Besides, what is said of a server is what it has seen. -/
structure PodInv (p : Pod) : Prop where
  quiet : Quiet p.node.manager
  recorded : ∀ url, ∃ config, (p.servers url).Recorded config

variable {p : Pod}

theorem podInv_init : PodInv {} where
  quiet := ⟨by simp, trivial, rfl⟩
  recorded _ := ⟨{}, WatchedServer.recorded_init⟩

theorem PodInv.of_node (h : PodInv p) {n : StartedNode} (hq : Quiet n.manager) : PodInv { p with node := n } :=
  ⟨hq, h.recorded⟩

theorem PodInv.update (h : PodInv p) {n : StartedNode} (hq : Quiet n.manager) (url : String) {config : HealthCheckConfig}
    {server : WatchedServer} (hs : server.Recorded config) :
    PodInv { node := n, servers := Function.update p.servers url server } := by
  refine ⟨hq, fun url' => ?_⟩
  by_cases he : url' = url
  · exact ⟨config, by simpa [he] using hs⟩
  · simpa [he] using h.recorded url'

theorem PodInv.answersWell (h : PodInv p) {url : String} {answer : Option String}
    (ha : AnswersWell (p.servers url) answer) : ((p.servers url).getStatus answer).1 ≠ .abnormal := by
  obtain ⟨config, hrecorded⟩ := h.recorded url
  rcases ha with ⟨hhealthy, halarm⟩ | ⟨hnone, hnever⟩
  · rw [hrecorded.sameConfig] at halarm
    rw [(hrecorded.normal_iff answer).mpr ⟨hhealthy, halarm⟩]
    decide
  · rw [(hrecorded.initial_iff answer).mpr ⟨hnone, hnever⟩]
    decide

theorem PodInv.queryStatus (h : PodInv p) {reached : Bool} {answer : Option String}
    (hs : p.Sound (.queryStatus reached answer)) : PodInv (p.queryStatus reached answer) := by
  simp only [Sound] at hs
  unfold Pod.queryStatus
  cases hurl : p.asked with
  | none => exact h
  | some url =>
      obtain ⟨config, hrecorded⟩ := h.recorded url
      cases reached with
      | false =>
          rcases hs with hgrace | hreached
          · exact h.of_node (h.quiet.queryStatus (Or.inl hgrace))
          · cases (hreached url (by simp [hurl])).1
      | true =>
          refine h.update (h.quiet.queryStatus ?_) url (hrecorded.getStatus answer)
          rcases hs with hgrace | hwell
          · exact Or.inl hgrace
          · have habnormal := h.answersWell (hwell url (by simp [hurl])).2
            right
            simp only [HeartbeatManager.detectedStatus, EndpointStatus.ofValue?_value, Option.getD_some]
            exact habnormal

theorem PodInv.step (h : PodInv p) {event : Event} (hs : p.Sound event) : PodInv (p.step event) := by
  cases event with
  | pullEngine url config =>
      have hfresh : WatchedServer.Recorded config { server := { config := config } } := WatchedServer.recorded_init
      exact h.update h.quiet url hfresh
  | healthCheckLoop url r =>
      obtain ⟨config, hrecorded⟩ := h.recorded url
      exact h.update h.quiet url (hrecorded.healthCheckLoop r)
  | updateEndpoint msg => exact h.of_node (h.quiet.updateEndpoint hs)
  | takeSnapshot elapsed => exact h.of_node (h.quiet.takeSnapshot elapsed)
  | queryStatus reached answer => exact h.queryStatus hs
  | writeBack => exact h.of_node h.quiet.writeBack
  | collectStatus => exact h.of_node h.quiet.collectStatus
  | buildMsg podIp => exact h.of_node h.quiet.buildMsg
  | reportHeartbeat succeeds => exact h.of_node (h.quiet.reportHeartbeat succeeds)

/-- The node manager does not give up, and tells of no abnormal endpoint, as long as every query after the first minute
reaches its engine server, and the server finds its engine healthy and has no alarm or still waits for its engine. -/
theorem no_false_alarm (events : List Event) (h : Along Pod.step Sound {} events) :
    (run Pod.step {} events).node.manager.shouldSuicide = false ∧
    ∀ item ∈ (run Pod.step {} events).node.manager.items, item.status ≠ .abnormal := by
  have hinv : PodInv (run Pod.step {} events) :=
    run_invariant (I := PodInv) (fun _ _ hi hs => hi.step hs) podInv_init h
  refine ⟨hinv.quiet.suicide, fun item hitem => ?_⟩
  obtain ⟨r, -, rfl⟩ := List.mem_map.mp hitem
  exact hinv.quiet.read r

/-- One engine that is loaded for two minutes, is not reached within the first one, and then has a virtual request
fail. -/
def loading : List Event :=
  [.pullEngine "10.0.0.1:9000" { enableVirtualInference := true, maxFailureCount := 2 },
    .updateEndpoint
      { jobName := "p", role := "prefill", instanceId := 1,
        endpoints := [{ id := 0, ip := "10.0.0.1", mgmtPort := "9000" }], masterDpIp := "10.0.0.1", ranktable := none },
    .takeSnapshot (some 1), .queryStatus false none, .writeBack,
    .takeSnapshot (some 61), .queryStatus true none, .writeBack,
    .takeSnapshot (some 120), .queryStatus true (some "True"), .writeBack,
    .healthCheckLoop "10.0.0.1:9000" (.checked 0 true), .healthCheckLoop "10.0.0.1:9000" (.checked 0 false),
    .takeSnapshot (some 121), .queryStatus true (some "True"), .writeBack,
    .collectStatus, .buildMsg "10.0.0.1", .reportHeartbeat true]

theorem sound_queryStatus (url : String) {answer : Option String} (hurl : p.asked = some url)
    (h : AnswersWell (p.servers url) answer) : p.Sound (.queryStatus true answer) := by
  refine Or.inr fun url' hurl' => ⟨rfl, ?_⟩
  rw [hurl, Option.mem_some_iff] at hurl'
  rwa [← hurl']

theorem no_false_alarm_loading : (run Pod.step {} loading).node.manager.shouldSuicide = false ∧
    ∀ item ∈ (run Pod.step {} loading).node.manager.items, item.status ≠ .abnormal := by
  apply no_false_alarm loading
  have htrue : SaysHealthy (some "True") := ⟨"True", rfl, by decide⟩
  have halarm : ¬ Alarm { enableVirtualInference := true, maxFailureCount := 2 }
      ([.checked 0 true] ++ [.checked 0 false]) := by
    rw [alarm_failed rfl]
    simp [Alarm, outcomes, outcome, failed, streak, countHits, List.cons_eq_append_iff]
  refine ⟨trivial, by simp [Sound], trivial, Or.inl rfl, trivial, trivial, ?_, trivial, trivial, ?_, trivial, trivial, trivial,
    trivial, ?_, trivial, trivial, trivial, trivial, trivial⟩
  · exact sound_queryStatus "10.0.0.1:9000" rfl (Or.inr ⟨rfl, by decide⟩)
  · exact sound_queryStatus "10.0.0.1:9000" rfl (Or.inl ⟨htrue, not_alarm_nil⟩)
  · exact sound_queryStatus "10.0.0.1:9000" rfl (Or.inl ⟨htrue, halarm⟩)

end Pod

end PyMotor
