import PyMotor.NodeManager.HeartbeatManager

/-!
# The endpoints that the node manager reports

The write-back puts the endpoints of the snapshot in place of whatever has come since, and a heartbeat takes the
instance id after the statuses. So a start command in between is lost, or is reported with the endpoints before it.
-/

namespace PyMotor

open Lib

def RefreshThread.refs : RefreshThread → List Nat
  | .idle => []
  | .querying rest updated => rest ++ updated

namespace StartedNode

variable {n : StartedNode}

/-! ## What the threads keep -/

/-- The endpoints are those of the last start command, and its instance is the current one. -/
structure Told (n : StartedNode) : Prop where
  endpoints : SameIds (n.idsOf n.manager.endpoints) n.toldIds
  instanceId : n.manager.instanceId = n.latest.instanceId
  refs : ∀ r ∈ n.manager.endpoints ++ n.manager.refresh.refs, r < n.manager.heap.length

theorem SameIds.trans {a b c : List Int} (h : SameIds a b) (h' : SameIds b c) : SameIds a c :=
  fun id => (h id).trans (h' id)

theorem SameIds.symm {a b : List Int} (h : SameIds a b) : SameIds b a := fun id => (h id).symm

theorem Told.sameIds_iff (h : n.Told) {ids : List Int} :
    SameIds ids (n.idsOf n.manager.endpoints) ↔ SameIds ids n.toldIds :=
  ⟨fun hids => hids.trans h.endpoints, fun hids => hids.trans h.endpoints.symm⟩

theorem idsOf_queryStatus (n : StartedNode) (response : Option (Option String)) (rs : List Nat) :
    (n.step (.queryStatus response)).idsOf rs = n.idsOf rs := by
  have hid : ∀ (r : Nat) (f : Endpoint → Endpoint), (∀ x, (f x).id = x.id) →
      ∀ r', (Heap.read (n.manager.heap.modify r f) r').id = (n.manager.heap.read r').id :=
    fun r f hf r' => Heap.read_modify_congr hf r r'
  unfold idsOf
  refine List.map_congr_left fun r' _ => ?_
  show ((n.manager.queryStatus response).heap.read r').id = _
  unfold HeartbeatManager.queryStatus
  cases n.manager.refresh with
  | idle => rfl
  | querying rest updated =>
      cases rest with
      | nil => rfl
      | cons r rest =>
          refine hid r _ (fun x => ?_) r'
          split
          · rfl
          · rfl

theorem Told.of_same (h : n.Told) {n' : StartedNode} (hheap : n'.manager.heap = n.manager.heap)
    (hid : n'.manager.instanceId = n.manager.instanceId) (hlatest : n'.latest = n.latest)
    (hendpoints : n'.manager.endpoints = n.manager.endpoints) (hrefresh : n'.manager.refresh = n.manager.refresh) :
    n'.Told where
  endpoints := by
    unfold idsOf toldIds
    rw [hheap, hlatest, hendpoints]
    exact h.endpoints
  instanceId := by
    rw [hid, hlatest]
    exact h.instanceId
  refs := by
    rw [hheap, hendpoints, hrefresh]
    exact h.refs

theorem Told.updateEndpoint (h : n.Told) (msg : StartCmdMsg) : (n.step (.updateEndpoint msg)).Told where
  endpoints := by
    have hread := congrArg (List.map Endpoint.id) (Heap.map_read_alloc (h := n.manager.heap) msg.endpoints)
    rw [List.map_map] at hread
    have hids : (n.step (.updateEndpoint msg)).idsOf (n.step (.updateEndpoint msg)).manager.endpoints =
        msg.endpoints.map Endpoint.id := hread
    rw [hids]
    exact fun _ => .rfl
  instanceId := rfl
  refs r hr := by
    show r < (n.manager.heap.alloc msg.endpoints).2.length
    rw [Heap.length_alloc]
    rcases List.mem_append.1 hr with hr | hr
    · exact (Heap.mem_alloc.1 hr).2
    · exact Nat.lt_of_lt_of_le (h.refs r (List.mem_append_right _ hr)) (Nat.le_add_right _ _)

theorem Told.queryStatus (h : n.Told) (response : Option (Option String)) : (n.step (.queryStatus response)).Told := by
  have hids := idsOf_queryStatus n response
  have hrefs := h.refs
  refine ⟨?_, ?_, ?_⟩
  · rw [hids]
    show SameIds (n.idsOf (n.manager.queryStatus response).endpoints) n.toldIds
    unfold HeartbeatManager.queryStatus
    split
    · exact h.endpoints
    · exact h.endpoints
    · exact h.endpoints
  · show (n.manager.queryStatus response).instanceId = n.latest.instanceId
    unfold HeartbeatManager.queryStatus
    split
    · exact h.instanceId
    · exact h.instanceId
    · exact h.instanceId
  · show ∀ r ∈ (n.manager.queryStatus response).endpoints ++ (n.manager.queryStatus response).refresh.refs,
      r < (n.manager.queryStatus response).heap.length
    unfold HeartbeatManager.queryStatus
    split
    · rename_i r rest updated hrefresh
      rw [hrefresh] at hrefs
      intro r' hr'
      show r' < (n.manager.heap.modify r _).length
      rw [List.length_modify]
      refine hrefs r' ?_
      simp only [RefreshThread.refs, List.mem_append, List.mem_cons, List.not_mem_nil, or_false] at hr' ⊢
      rcases hr' with hr' | hr' | hr' | hr'
      · exact .inl hr'
      · exact .inr (.inl (.inr hr'))
      · exact .inr (.inr hr')
      · exact .inr (.inl (.inl hr'))
    · exact hrefs
    · exact hrefs

theorem Told.takeSnapshot (h : n.Told) (elapsed : Option ℚ) : (n.step (.takeSnapshot elapsed)).Told := by
  show StartedNode.Told { n with manager := n.manager.takeSnapshot elapsed }
  unfold HeartbeatManager.takeSnapshot
  split
  · refine ⟨h.endpoints, h.instanceId, fun r hr => h.refs r (List.mem_append_left _ ?_)⟩
    simpa [RefreshThread.refs] using hr
  · exact h

theorem Told.writeBack (h : n.Told) (hok : n.Undisturbed .writeBack) : (n.step .writeBack).Told := by
  show StartedNode.Told { n with manager := n.manager.writeBack }
  unfold HeartbeatManager.writeBack
  split
  · rename_i updated hrefresh
    refine ⟨h.sameIds_iff.1 (hok updated hrefresh), h.instanceId, fun r hr => h.refs r ?_⟩
    rw [hrefresh]
    simpa [RefreshThread.refs] using Or.inr hr
  · exact h
  · exact h

theorem Told.step (h : n.Told) (event : Event) (hok : n.Undisturbed event) : (n.step event).Told := by
  cases event with
  | updateEndpoint msg => exact h.updateEndpoint msg
  | takeSnapshot elapsed => exact h.takeSnapshot elapsed
  | queryStatus response => exact h.queryStatus response
  | writeBack => exact h.writeBack hok
  | collectStatus =>
      show StartedNode.Told { n with manager := n.manager.collectStatus }
      unfold HeartbeatManager.collectStatus
      split
      · exact h.of_same rfl rfl rfl rfl rfl
      · exact h
      · exact h
  | buildMsg podIp =>
      show StartedNode.Told { n with manager := n.manager.buildMsg }
      unfold HeartbeatManager.buildMsg
      split
      · exact h.of_same rfl rfl rfl rfl rfl
      · exact h
      · exact h
  | reportHeartbeat succeeds =>
      show StartedNode.Told { n with manager := n.manager.reportHeartbeat succeeds }
      unfold HeartbeatManager.reportHeartbeat
      split
      · split
        · split
          · exact h.of_same rfl rfl rfl rfl rfl
          · exact h.of_same rfl rfl rfl rfl rfl
        · exact h.of_same rfl rfl rfl rfl rfl
      · exact h
      · exact h

theorem Told.reportsTold (h : n.Told) {event : Event} (hok : n.Undisturbed event)
    (hbuild : ∀ podIp, event ≠ .buildMsg podIp) : n.ReportsTold event :=
  ⟨fun _ => (h.step event hok).endpoints, fun podIp he => absurd he (hbuild podIp)⟩

theorem Told.reportsTold_iff (h : n.Told) (event : Event) : n.ReportsTold event ↔ n.Undisturbed event := by
  cases event with
  | updateEndpoint msg => exact iff_of_true (h.reportsTold trivial nofun) trivial
  | takeSnapshot elapsed => exact iff_of_true (h.reportsTold trivial nofun) trivial
  | queryStatus response => exact iff_of_true (h.reportsTold trivial nofun) trivial
  | collectStatus => exact iff_of_true (h.reportsTold trivial nofun) trivial
  | reportHeartbeat succeeds => exact iff_of_true (h.reportsTold trivial nofun) trivial
  | writeBack =>
      refine ⟨fun hreports updated hrefresh => ?_, fun hok => h.reportsTold hok nofun⟩
      have heq : n.step .writeBack = { n with manager := { n.manager with endpoints := updated, refresh := .idle } } := by
        simp only [StartedNode.step, HeartbeatManager.writeBack, hrefresh]
      have hsettled := hreports.settled (by rw [heq])
      rw [heq] at hsettled
      exact h.sameIds_iff.2 hsettled
  | buildMsg podIp =>
      constructor
      · intro hreports status hasAbnormal hreport
        have hmsg : n.manager.heartbeatMsg podIp = some
            { jobName := n.manager.jobName, insId := n.manager.instanceId, ip := podIp, status := status } := by
          simp only [HeartbeatManager.heartbeatMsg, hreport]
        exact h.sameIds_iff.2 (hreports.paired podIp rfl _ hmsg).2
      · intro hok
        refine ⟨fun _ => (h.step (.buildMsg podIp) hok).endpoints, fun podIp' he msg hmsg => ?_⟩
        cases he
        unfold HeartbeatManager.heartbeatMsg at hmsg
        split at hmsg
        · rename_i status hasAbnormal hreport
          cases hmsg
          exact ⟨h.instanceId, h.sameIds_iff.1 (hok status hasAbnormal hreport)⟩
        · cases hmsg
        · cases hmsg

/-! ## Runs -/

theorem told_start : Told {} := ⟨fun _ => .rfl, rfl, fun _ hr => (nomatch hr)⟩

/-- In a run, the node manager reports what it was last told exactly when no start command with other endpoints comes
between a snapshot and its write-back, or between the statuses of a heartbeat and its message. -/
theorem reportsTold_along_iff (events : List Event) :
    Along step ReportsTold {} events ↔ Along step Undisturbed {} events := by
  constructor
  · exact along_of_invariant (I := Told) (fun _ event h hr => h.step event ((h.reportsTold_iff event).1 hr))
      (fun _ event h hr => (h.reportsTold_iff event).1 hr) told_start
  · exact along_of_invariant (I := Told) (fun _ event h hok => h.step event hok)
      (fun _ event h hok => (h.reportsTold_iff event).2 hok) told_start

def startCmd (instanceId endpointId : Int) : StartCmdMsg :=
  { jobName := "job", role := "prefill", instanceId := instanceId, endpoints := [{ id := endpointId }],
    masterDpIp := "10.0.0.1", ranktable := none }

/-- A start command that comes while the status of the old endpoint is queried. -/
theorem not_reportsTold_lostUpdate : ¬ Along step ReportsTold {}
    [.updateEndpoint (startCmd 1 10), .takeSnapshot none, .queryStatus none, .updateEndpoint (startCmd 2 20),
      .writeBack] := by
  intro h
  have hsettled := h.2.2.2.2.1.settled rfl 20
  exact absurd (hsettled.2 (by decide)) (by decide)

end StartedNode

end PyMotor
