import PyMotor.Lib.Run
import PyMotor.NodeManager.Theorems

/-!
# The suicide of a node manager

Five acknowledged heartbeats in a row with an abnormal endpoint set the flag that `main` stops everything for. An
endpoint that is found abnormal and stays so gets there, whatever the two threads do meanwhile.
-/

namespace PyMotor

open Lib

/-- A node, the heartbeat that it has sent, and the heartbeats that the controller has acknowledged since the last start
command. -/
structure ReportedNode where
  node : StartedNode := {}
  sent : Option HeartbeatMsg := none
  acknowledged : List HeartbeatMsg := []

namespace ReportedNode

open StartedNode

def sentAfter (w : ReportedNode) : Event → Option HeartbeatMsg
  | .buildMsg podIp => (w.node.manager.heartbeatMsg podIp).or w.sent
  | .reportHeartbeat _ => none
  | _ => w.sent

def acknowledgedAfter (w : ReportedNode) : Event → List HeartbeatMsg
  | .updateEndpoint _ => []
  | .reportHeartbeat succeeds => if succeeds then w.acknowledged ++ w.sent.toList else w.acknowledged
  | _ => w.acknowledged

def step (w : ReportedNode) (event : Event) : ReportedNode :=
  { node := w.node.step event, sent := w.sentAfter event, acknowledged := w.acknowledgedAfter event }

def showsAbnormal (status : Dict Int EndpointStatus) : Bool := status.values.any fun status => status = .abnormal

/-! ## Endpoints of different ids -/

theorem reportHeartbeat_frame (m : HeartbeatManager) (succeeds : Bool) :
    (m.reportHeartbeat succeeds).heap = m.heap ∧ (m.reportHeartbeat succeeds).endpoints = m.endpoints ∧
    (m.reportHeartbeat succeeds).refresh = m.refresh := by
  unfold HeartbeatManager.reportHeartbeat
  cases m.report with
  | idle => simp
  | collected status hasAbnormal => simp
  | reporting hasAbnormal => cases succeeds <;> cases hasAbnormal <;> simp

/-- The endpoints have different ids, and so have those of the snapshot. -/
structure Distinct (n : StartedNode) : Prop where
  endpoints : (n.idsOf n.manager.endpoints).Nodup
  snapshot : (n.idsOf n.manager.refresh.refs).Nodup
  refs : ∀ r ∈ n.manager.refresh.refs, r < n.manager.heap.length
  listed : ∀ r ∈ n.manager.endpoints, r < n.manager.heap.length

namespace Distinct

variable {n : StartedNode}

theorem of_same (h : Distinct n) {n' : StartedNode} (hheap : n'.manager.heap = n.manager.heap)
    (hendpoints : n'.manager.endpoints = n.manager.endpoints) (hrefresh : n'.manager.refresh = n.manager.refresh) :
    Distinct n' := by
  have hids : ∀ rs, n'.idsOf rs = n.idsOf rs := fun rs => by rw [idsOf, hheap, idsOf]
  constructor
  · rw [hids, hendpoints]
    exact h.endpoints
  · rw [hids, hrefresh]
    exact h.snapshot
  · rw [hheap, hrefresh]
    exact h.refs
  · rw [hheap, hendpoints]
    exact h.listed

theorem updateEndpoint (h : Distinct n) {msg : StartCmdMsg} (hmsg : (msg.endpoints.map Endpoint.id).Nodup) :
    Distinct (n.step (.updateEndpoint msg)) where
  endpoints := by
    have hread := congrArg (List.map Endpoint.id) (Heap.map_read_alloc (h := n.manager.heap) msg.endpoints)
    rw [List.map_map] at hread
    rw [← hread] at hmsg
    exact hmsg
  snapshot := by
    have hids : (n.step (.updateEndpoint msg)).idsOf n.manager.refresh.refs = n.idsOf n.manager.refresh.refs :=
      List.map_congr_left fun r hr => congrArg Endpoint.id (Heap.read_alloc_old (h.refs r hr) _)
    exact hids.symm ▸ h.snapshot
  refs r hr := by
    show r < (n.manager.heap.alloc msg.endpoints).2.length
    rw [Heap.length_alloc]
    exact Nat.lt_of_lt_of_le (h.refs r hr) (Nat.le_add_right _ _)
  listed r hr := by
    show r < (n.manager.heap.alloc msg.endpoints).2.length
    rw [Heap.length_alloc]
    exact (Heap.mem_alloc.1 hr).2

theorem takeSnapshot (h : Distinct n) (elapsed : Option ℚ) : Distinct (n.step (.takeSnapshot elapsed)) := by
  show Distinct { n with manager := n.manager.takeSnapshot elapsed }
  unfold HeartbeatManager.takeSnapshot
  split
  · refine ⟨h.endpoints, ?_, fun r hr => h.listed r ?_, h.listed⟩
    · show (n.idsOf (n.manager.endpoints ++ [])).Nodup
      rw [List.append_nil]
      exact h.endpoints
    · simpa [RefreshThread.refs] using hr
  · exact h

theorem queryStatus (h : Distinct n) (response : Option (Option String)) : Distinct (n.step (.queryStatus response)) := by
  have hids := idsOf_queryStatus n response
  have hperm : (n.manager.queryStatus response).refresh.refs.Perm n.manager.refresh.refs := by
    unfold HeartbeatManager.queryStatus
    split
    · rename_i r rest updated hrefresh
      rw [hrefresh]
      simp only [RefreshThread.refs]
      rw [← List.append_assoc]
      exact List.perm_append_singleton r (rest ++ updated)
    · exact .refl _
    · exact .refl _
  have hframe : (n.manager.queryStatus response).endpoints = n.manager.endpoints ∧
      (n.manager.queryStatus response).heap.length = n.manager.heap.length := by
    unfold HeartbeatManager.queryStatus
    split
    · exact ⟨rfl, List.length_modify ..⟩
    · exact ⟨rfl, rfl⟩
    · exact ⟨rfl, rfl⟩
  refine ⟨?_, ?_, fun r hr => ?_, fun r hr => ?_⟩
  · rw [hids]
    exact hframe.1.symm ▸ h.endpoints
  · rw [hids]
    exact (hperm.map _).nodup_iff.mpr h.snapshot
  · exact hframe.2.symm ▸ h.refs r (hperm.mem_iff.mp hr)
  · exact hframe.2.symm ▸ h.listed r (hframe.1 ▸ hr)

theorem writeBack (h : Distinct n) : Distinct (n.step .writeBack) := by
  have hsnapshot := h.snapshot
  have hrefs := h.refs
  show Distinct { n with manager := n.manager.writeBack }
  unfold HeartbeatManager.writeBack
  split
  · rename_i updated hrefresh
    rw [hrefresh] at hsnapshot hrefs
    exact ⟨hsnapshot, List.nodup_nil, fun r hr => (nomatch hr), hrefs⟩
  · exact h
  · exact h

theorem step (h : Distinct n) {event : Event}
    (hevent : ∀ msg, event = .updateEndpoint msg → (msg.endpoints.map Endpoint.id).Nodup) : Distinct (n.step event) := by
  cases event with
  | updateEndpoint msg => exact h.updateEndpoint (hevent msg rfl)
  | takeSnapshot elapsed => exact h.takeSnapshot elapsed
  | queryStatus response => exact h.queryStatus response
  | writeBack => exact h.writeBack
  | collectStatus =>
      refine h.of_same ?_ ?_ ?_ <;> simp only [StartedNode.step, HeartbeatManager.collectStatus] <;> split <;> rfl
  | buildMsg podIp =>
      refine h.of_same ?_ ?_ ?_ <;> simp only [StartedNode.step, HeartbeatManager.buildMsg] <;> split <;> rfl
  | reportHeartbeat succeeds =>
      obtain ⟨hheap, hendpoints, hrefresh⟩ := reportHeartbeat_frame n.manager succeeds
      exact h.of_same hheap hendpoints hrefresh

theorem showsAbnormal_items (h : Distinct n) :
    showsAbnormal (Dict.empty.update (n.manager.items.map fun item => (item.id, item.status))) =
      n.manager.items.any fun item => item.status = .abnormal := by
  have hnodup : ((n.manager.items.map fun item => (item.id, item.status)).map Prod.fst).Nodup := by
    rw [HeartbeatManager.items, List.map_map, List.map_map]
    exact h.endpoints
  rw [showsAbnormal, Dict.values, Dict.entries_update_absent hnodup fun e _ => Dict.get?_empty e.1, Dict.entries_empty,
    List.nil_append, List.map_map, List.any_map]
  rfl

end Distinct

/-! ## The count and the flag -/

/-- What the report thread holds back is what its heartbeat shows. -/
def Shown (w : ReportedNode) : Prop :=
  match w.node.manager.report with
  | .idle => w.sent = none
  | .collected status hasAbnormal => w.sent = none ∧ showsAbnormal status = hasAbnormal
  | .reporting hasAbnormal => ∃ msg, w.sent = some msg ∧ showsAbnormal msg.status = hasAbnormal

/-- The count is the streak at the end, the flag tells whether there was one of five. -/
structure Counted (w : ReportedNode) : Prop where
  distinct : Distinct w.node
  shown : w.Shown
  count : w.node.manager.consecutiveAbnormalCount = streak (w.acknowledged.map fun msg => showsAbnormal msg.status)
  suicide : w.node.manager.shouldSuicide = true ↔ Streaked 5 (w.acknowledged.map fun msg => showsAbnormal msg.status)

variable {w : ReportedNode}

theorem counted_init : Counted {} where
  distinct := ⟨List.nodup_nil, List.nodup_nil, fun r hr => (nomatch hr), fun r hr => (nomatch hr)⟩
  shown := rfl
  count := rfl
  suicide := by simp [not_streaked_nil]

theorem Counted.of_same (h : w.Counted) {n : StartedNode} (hdistinct : Distinct n)
    (hreport : n.manager.report = w.node.manager.report)
    (hcount : n.manager.consecutiveAbnormalCount = w.node.manager.consecutiveAbnormalCount)
    (hsuicide : n.manager.shouldSuicide = w.node.manager.shouldSuicide) :
    Counted ⟨n, w.sent, w.acknowledged⟩ where
  distinct := hdistinct
  shown := by
    have hshown := h.shown
    unfold Shown at hshown ⊢
    dsimp only
    rw [hreport]
    exact hshown
  count := hcount.trans h.count
  suicide := hsuicide ▸ h.suicide

theorem Counted.collectStatus (h : w.Counted) : (w.step .collectStatus).Counted := by
  have hdistinct : Distinct (w.node.step .collectStatus) := h.distinct.step (by simp)
  have hshown := h.shown
  unfold Shown at hshown
  show Counted ⟨{ w.node with manager := w.node.manager.collectStatus }, w.sent, w.acknowledged⟩
  rw [StartedNode.step] at hdistinct
  unfold HeartbeatManager.collectStatus at hdistinct ⊢
  split
  · rename_i hr
    rw [hr] at hshown hdistinct
    exact ⟨hdistinct, ⟨hshown, h.distinct.showsAbnormal_items⟩, h.count, h.suicide⟩
  · exact h
  · exact h

theorem Counted.buildMsg (h : w.Counted) (podIp : String) : (w.step (.buildMsg podIp)).Counted := by
  have hdistinct : Distinct (w.node.step (.buildMsg podIp)) := h.distinct.step (by simp)
  have hshown := h.shown
  unfold Shown at hshown
  show Counted ⟨{ w.node with manager := w.node.manager.buildMsg },
    (w.node.manager.heartbeatMsg podIp).or w.sent, w.acknowledged⟩
  rw [StartedNode.step] at hdistinct
  unfold HeartbeatManager.buildMsg HeartbeatManager.heartbeatMsg at *
  cases hr : w.node.manager.report with
  | collected status hasAbnormal =>
      rw [hr] at hshown hdistinct
      exact ⟨hdistinct, ⟨_, rfl, hshown.2⟩, h.count, h.suicide⟩
  | idle => exact h
  | reporting hasAbnormal => exact h

theorem step_reportHeartbeat_idle (hreport : ∀ hasAbnormal, w.node.manager.report ≠ .reporting hasAbnormal)
    (hsent : w.sent = none) (succeeds : Bool) : w.step (.reportHeartbeat succeeds) = w := by
  obtain ⟨node, sent, acknowledged⟩ := w
  cases hsent
  have hsame : node.manager.reportHeartbeat succeeds = node.manager := by
    unfold HeartbeatManager.reportHeartbeat
    split
    · rename_i hasAbnormal hr
      exact absurd hr (hreport hasAbnormal)
    · rfl
    · rfl
  simp [ReportedNode.step, sentAfter, acknowledgedAfter, StartedNode.step, hsame]

theorem Counted.reportHeartbeat (h : w.Counted) (succeeds : Bool) : (w.step (.reportHeartbeat succeeds)).Counted := by
  have hdistinct : Distinct (w.node.step (.reportHeartbeat succeeds)) := h.distinct.step (by simp)
  have hshown := h.shown
  unfold Shown at hshown
  cases hr : w.node.manager.report with
  | idle =>
      rw [hr] at hshown
      rw [step_reportHeartbeat_idle (by simp [hr]) hshown]
      exact h
  | collected status hasAbnormal =>
      rw [hr] at hshown
      rw [step_reportHeartbeat_idle (by simp [hr]) hshown.1]
      exact h
  | reporting hasAbnormal =>
      rw [hr] at hshown
      obtain ⟨msg, hsent, hmsg⟩ := hshown
      refine ⟨hdistinct, ?_, ?_, ?_⟩
      · cases succeeds <;> cases hasAbnormal <;>
          simp [Shown, ReportedNode.step, sentAfter, acknowledgedAfter, StartedNode.step,
            HeartbeatManager.reportHeartbeat, hr]
      · cases succeeds with
        | false => simpa [ReportedNode.step, sentAfter, acknowledgedAfter, StartedNode.step,
            HeartbeatManager.reportHeartbeat, hr] using h.count
        | true =>
            simp only [ReportedNode.step, acknowledgedAfter, if_true, hsent, Option.toList_some, List.map_append,
              List.map_cons, List.map_nil, streak_concat, hmsg, ← h.count]
            cases hasAbnormal <;> simp [StartedNode.step, HeartbeatManager.reportHeartbeat, hr, countHits]
      · cases succeeds with
        | false => simpa [ReportedNode.step, sentAfter, acknowledgedAfter, StartedNode.step,
            HeartbeatManager.reportHeartbeat, hr] using h.suicide
        | true =>
            simp only [ReportedNode.step, acknowledgedAfter, if_true, hsent, Option.toList_some, List.map_append,
              List.map_cons, List.map_nil, streaked_concat, hmsg, ← h.count, ← h.suicide]
            cases hasAbnormal <;> simp [StartedNode.step, HeartbeatManager.reportHeartbeat, hr, countHits]

theorem Counted.step (h : w.Counted) {event : Event}
    (hevent : ∀ msg, event = .updateEndpoint msg → (msg.endpoints.map Endpoint.id).Nodup) : (w.step event).Counted := by
  have hdistinct : Distinct (w.node.step event) := h.distinct.step hevent
  cases event with
  | collectStatus => exact h.collectStatus
  | buildMsg podIp => exact h.buildMsg podIp
  | reportHeartbeat succeeds => exact h.reportHeartbeat succeeds
  | updateEndpoint msg =>
      have hshown := h.shown
      unfold Shown at hshown
      refine ⟨hdistinct, hshown, rfl, ?_⟩
      simp [ReportedNode.step, acknowledgedAfter, StartedNode.step, HeartbeatManager.updateEndpoint, not_streaked_nil]
  | takeSnapshot elapsed =>
      refine h.of_same hdistinct ?_ ?_ ?_ <;> simp only [StartedNode.step, HeartbeatManager.takeSnapshot] <;> split <;> rfl
  | queryStatus response =>
      refine h.of_same hdistinct ?_ ?_ ?_ <;> simp only [StartedNode.step, HeartbeatManager.queryStatus] <;> split <;> rfl
  | writeBack =>
      refine h.of_same hdistinct ?_ ?_ ?_ <;> simp only [StartedNode.step, HeartbeatManager.writeBack] <;> split <;> rfl

/-- In every run of start commands without an id twice, the node gives up exactly when five heartbeats in a row, of those
that the controller has acknowledged since the last start command, showed an abnormal endpoint. -/
theorem suicide_iff (events : List Event)
    (hdistinct : ∀ msg, Event.updateEndpoint msg ∈ events → (msg.endpoints.map Endpoint.id).Nodup) :
    (run ReportedNode.step {} events).node.manager.shouldSuicide = true ↔
      Streaked 5 ((run ReportedNode.step {} events).acknowledged.map fun msg => showsAbnormal msg.status) :=
  have halong : Along ReportedNode.step
      (fun _ event => ∀ msg, event = .updateEndpoint msg → (msg.endpoints.map Endpoint.id).Nodup) {} events :=
    along_of_forall fun _ hevent msg heq => hdistinct msg (heq ▸ hevent)
  (run_invariant (I := Counted) (fun _ _ h hs => h.step hs) counted_init halong).suicide

def unreachable : List Event :=
  [.updateEndpoint
      { jobName := "p", role := "prefill", instanceId := 1, endpoints := [{ id := 0 }], masterDpIp := "", ranktable := none },
    .takeSnapshot (some 61), .queryStatus none, .writeBack]

def heartbeats (k : Nat) : List Event :=
  (List.replicate k [Event.collectStatus, .buildMsg "pod", .reportHeartbeat true]).flatten

theorem suicide_unreachable :
    (run ReportedNode.step {} (unreachable ++ heartbeats 4)).node.manager.shouldSuicide = false ∧
      (run ReportedNode.step {} (unreachable ++ heartbeats 5)).node.manager.shouldSuicide = true := by
  have hdistinct : ∀ k msg, Event.updateEndpoint msg ∈ unreachable ++ heartbeats k → (msg.endpoints.map Endpoint.id).Nodup := by
    intro k msg hmsg
    simp only [unreachable, heartbeats, List.mem_append, List.mem_cons, Event.updateEndpoint.injEq, reduceCtorEq,
      List.not_mem_nil, or_false, List.mem_flatten, List.mem_replicate] at hmsg
    rcases hmsg with rfl | ⟨_, ⟨-, rfl⟩, hmsg⟩
    · simp
    · simp at hmsg
  refine ⟨?_, (suicide_iff _ (hdistinct 5)).mpr ?_⟩
  · rw [Bool.eq_false_iff, Ne, suicide_iff _ (hdistinct 4)]
    exact fun h => absurd h.length_le (by decide)
  · exact List.infix_rfl

/-! ## An endpoint that stays abnormal -/

/-- There is no new start command, and every query of the endpoint finds it abnormal. -/
def StaysBroken (r : Nat) (w : ReportedNode) : Event → Prop
  | .updateEndpoint _ => False
  | .queryStatus response => ∀ rest updated, w.node.manager.refresh = .querying (r :: rest) updated →
      HeartbeatManager.detectedStatus response = .abnormal
  | _ => True

/-- The endpoint is abnormal, and no write-back will leave it out. -/
structure Found (r : Nat) (m : HeartbeatManager) : Prop where
  listed : r ∈ m.endpoints
  status : (m.heap.read r).status = .abnormal
  refresh : m.refresh ≠ .idle → r ∈ m.refresh.refs

theorem Found.lt {r : Nat} {m : HeartbeatManager} (h : Found r m) : r < m.heap.length := by
  by_contra hr
  have hstatus := h.status
  simp [Heap.read, hr, default] at hstatus

theorem Found.of_same {r : Nat} {m m' : HeartbeatManager} (h : Found r m) (hheap : m'.heap = m.heap)
    (hendpoints : m'.endpoints = m.endpoints) (hrefresh : m'.refresh = m.refresh) : Found r m' :=
  ⟨hendpoints ▸ h.listed, hheap ▸ h.status, hrefresh ▸ h.refresh⟩

theorem Found.takeSnapshot {r : Nat} {m : HeartbeatManager} (h : Found r m) (elapsed : Option ℚ) :
    Found r (m.takeSnapshot elapsed) := by
  unfold HeartbeatManager.takeSnapshot
  split
  · exact ⟨h.listed, h.status, fun _ => by simpa [RefreshThread.refs] using h.listed⟩
  · exact h

theorem Found.queryStatus {r : Nat} {m : HeartbeatManager} (h : Found r m) {response : Option (Option String)}
    (hbroken : ∀ rest updated, m.refresh = .querying (r :: rest) updated →
      HeartbeatManager.detectedStatus response = .abnormal) : Found r (m.queryStatus response) := by
  have hrefs := h.refresh
  unfold HeartbeatManager.queryStatus
  split
  · rename_i r' rest updated hrefresh
    rw [hrefresh] at hrefs
    refine ⟨h.listed, ?_, fun _ => ?_⟩
    · by_cases he : r = r'
      · subst he
        dsimp only
        rw [Heap.read_modify_self h.lt, hbroken rest updated hrefresh]
        split
        · exact h.status
        · rfl
      · dsimp only
        rw [Heap.read_modify_ne he]
        exact h.status
    · have hmem := hrefs (by simp)
      simp only [RefreshThread.refs, List.mem_append, List.mem_cons, List.not_mem_nil, or_false] at hmem ⊢
      rcases hmem with (hmem | hmem) | hmem
      · exact Or.inr (Or.inr hmem)
      · exact Or.inl hmem
      · exact Or.inr (Or.inl hmem)
  · exact h
  · exact h

theorem Found.writeBack {r : Nat} {m : HeartbeatManager} (h : Found r m) : Found r m.writeBack := by
  have hrefs := h.refresh
  unfold HeartbeatManager.writeBack
  split
  · rename_i updated hrefresh
    rw [hrefresh] at hrefs
    exact ⟨by simpa [RefreshThread.refs] using hrefs (by simp), h.status, fun hne => absurd rfl hne⟩
  · exact h
  · exact h

theorem Found.step {r : Nat} (h : Found r w.node.manager) {event : Event} (hb : StaysBroken r w event) :
    Found r (w.step event).node.manager := by
  cases event with
  | updateEndpoint msg => cases hb
  | takeSnapshot elapsed => exact h.takeSnapshot elapsed
  | queryStatus response => exact h.queryStatus hb
  | writeBack => exact h.writeBack
  | collectStatus =>
      refine h.of_same ?_ ?_ ?_ <;>
        simp only [ReportedNode.step, StartedNode.step, HeartbeatManager.collectStatus] <;> split <;> rfl
  | buildMsg podIp =>
      refine h.of_same ?_ ?_ ?_ <;>
        simp only [ReportedNode.step, StartedNode.step, HeartbeatManager.buildMsg] <;> split <;> rfl
  | reportHeartbeat succeeds =>
      obtain ⟨hheap, hendpoints, hrefresh⟩ := reportHeartbeat_frame w.node.manager succeeds
      exact h.of_same hheap hendpoints hrefresh

/-- The heartbeat under way, if there is one, tells of an abnormal endpoint. -/
def Marked : ReportThread → Prop
  | .idle => True
  | .collected _ hasAbnormal => hasAbnormal = true
  | .reporting hasAbnormal => hasAbnormal = true

/-- A heartbeat is under way when one has been sent, and the flag is set when the count is five. -/
structure Booked (w : ReportedNode) : Prop where
  sent : w.sent ≠ none → ∃ hasAbnormal, w.node.manager.report = .reporting hasAbnormal
  suicide : 5 ≤ w.node.manager.consecutiveAbnormalCount → w.node.manager.shouldSuicide = true

theorem booked_init : Booked {} := ⟨fun hne => absurd rfl hne, fun hfive => (nomatch hfive)⟩

theorem Booked.of_same (h : w.Booked) {n : StartedNode} (hreport : n.manager.report = w.node.manager.report)
    (hcount : n.manager.consecutiveAbnormalCount = w.node.manager.consecutiveAbnormalCount)
    (hsuicide : n.manager.shouldSuicide = w.node.manager.shouldSuicide) : Booked ⟨n, w.sent, w.acknowledged⟩ :=
  ⟨fun hne => hreport ▸ h.sent hne, fun hfive => hsuicide.trans (h.suicide (hcount ▸ hfive))⟩

theorem Booked.step (h : w.Booked) (event : Event) : (w.step event).Booked := by
  cases event with
  | updateEndpoint msg => exact ⟨h.sent, fun hfive => by cases hfive⟩
  | takeSnapshot elapsed =>
      refine h.of_same ?_ ?_ ?_ <;> simp only [StartedNode.step, HeartbeatManager.takeSnapshot] <;> split <;> rfl
  | queryStatus response =>
      refine h.of_same ?_ ?_ ?_ <;> simp only [StartedNode.step, HeartbeatManager.queryStatus] <;> split <;> rfl
  | writeBack =>
      refine h.of_same ?_ ?_ ?_ <;> simp only [StartedNode.step, HeartbeatManager.writeBack] <;> split <;> rfl
  | collectStatus =>
      show Booked ⟨{ w.node with manager := w.node.manager.collectStatus }, w.sent, w.acknowledged⟩
      have hsent := h.sent
      unfold HeartbeatManager.collectStatus
      split
      · rename_i hr
        rw [hr] at hsent
        exact ⟨fun hne => (hsent hne).elim fun _ hreporting => (by cases hreporting), h.suicide⟩
      · exact h
      · exact h
  | buildMsg podIp =>
      show Booked ⟨{ w.node with manager := w.node.manager.buildMsg },
        (w.node.manager.heartbeatMsg podIp).or w.sent, w.acknowledged⟩
      unfold HeartbeatManager.buildMsg HeartbeatManager.heartbeatMsg
      cases hr : w.node.manager.report with
      | collected status hasAbnormal => exact ⟨fun _ => ⟨hasAbnormal, rfl⟩, h.suicide⟩
      | idle => exact h
      | reporting hasAbnormal => exact h
  | reportHeartbeat succeeds =>
      refine ⟨fun hne => absurd rfl hne, ?_⟩
      have hsuicide := h.suicide
      simp only [ReportedNode.step, StartedNode.step, HeartbeatManager.reportHeartbeat]
      split
      · split
        · split
          · intro hfive
            simp [show 5 ≤ w.node.manager.consecutiveAbnormalCount + 1 from hfive]
          · exact fun hfive => by cases hfive
        · exact hsuicide
      · exact hsuicide
      · exact hsuicide

/-- The endpoint has been found since there were `k` acknowledgements. Every heartbeat after the first of them counts. -/
structure Telling (r k : Nat) (w : ReportedNode) : Prop where
  found : Found r w.node.manager
  counted : w.acknowledged.length ≤ k + 1 + w.node.manager.consecutiveAbnormalCount
  marked : k < w.acknowledged.length → Marked w.node.manager.report

theorem Telling.of_same {r k : Nat} (h : Telling r k w) {event : Event} (hb : StaysBroken r w event)
    (hack : (w.step event).acknowledged = w.acknowledged)
    (hcount : (w.step event).node.manager.consecutiveAbnormalCount = w.node.manager.consecutiveAbnormalCount)
    (hreport : Marked w.node.manager.report → Marked (w.step event).node.manager.report) :
    Telling r k (w.step event) where
  found := h.found.step hb
  counted := by
    rw [hack, hcount]
    exact h.counted
  marked hlater := hreport (h.marked (hack ▸ hlater))

theorem Telling.collectStatus {r k : Nat} (h : Telling r k w) : Telling r k (w.step .collectStatus) := by
  have habnormal : (w.node.manager.items.any fun item => item.status = .abnormal) = true := by
    simp only [List.any_eq_true, decide_eq_true_eq]
    exact ⟨_, List.mem_map_of_mem h.found.listed, h.found.status⟩
  refine h.of_same trivial rfl ?_ fun hmarked => ?_
  · simp only [ReportedNode.step, StartedNode.step, HeartbeatManager.collectStatus]
    split <;> rfl
  · simp only [ReportedNode.step, StartedNode.step, HeartbeatManager.collectStatus]
    split
    · exact habnormal
    · exact hmarked
    · exact hmarked

theorem Telling.reportHeartbeat {r k : Nat} (h : Telling r k w) (hw : w.Booked) (succeeds : Bool) :
    Telling r k (w.step (.reportHeartbeat succeeds)) := by
  have hfound : Found r (w.step (.reportHeartbeat succeeds)).node.manager := h.found.step trivial
  by_cases hreporting : ∀ hasAbnormal, w.node.manager.report ≠ .reporting hasAbnormal
  · have hnone : w.sent = none := by
      by_contra hne
      obtain ⟨hasAbnormal, hr⟩ := hw.sent hne
      exact hreporting hasAbnormal hr
    rw [step_reportHeartbeat_idle hreporting hnone]
    exact h
  obtain ⟨hasAbnormal, hr⟩ := not_forall_not.mp hreporting
  have hone : w.sent.toList.length ≤ 1 := Option.length_toList_le
  have hcounted := h.counted
  have hmarked := h.marked
  rw [hr] at hmarked
  refine ⟨hfound, ?_, fun _ => ?_⟩
  · cases succeeds with
    | false => simpa [ReportedNode.step, acknowledgedAfter, StartedNode.step, HeartbeatManager.reportHeartbeat, hr]
    | true =>
        simp only [ReportedNode.step, acknowledgedAfter, StartedNode.step, HeartbeatManager.reportHeartbeat, hr, if_true,
          List.length_append]
        cases hasAbnormal with
        | true =>
            simp only [if_true]
            omega
        | false =>
            -- only the first heartbeat can be an old one
            have hfirst : w.acknowledged.length ≤ k := by
              by_contra hlater
              cases hmarked (by omega)
            simp only [Bool.false_eq_true, if_false]
            omega
  · cases succeeds <;> cases hasAbnormal <;>
      simp [ReportedNode.step, StartedNode.step, HeartbeatManager.reportHeartbeat, hr, Marked]

theorem Telling.step {r k : Nat} (h : Telling r k w) (hw : w.Booked) {event : Event} (hb : StaysBroken r w event) :
    Telling r k (w.step event) := by
  cases event with
  | updateEndpoint msg => cases hb
  | collectStatus => exact h.collectStatus
  | reportHeartbeat succeeds => exact h.reportHeartbeat hw succeeds
  | takeSnapshot elapsed =>
      refine h.of_same hb rfl ?_ fun hmarked => ?_ <;>
        simp only [ReportedNode.step, StartedNode.step, HeartbeatManager.takeSnapshot] <;> split
      · rfl
      · rfl
      · exact hmarked
      · exact hmarked
  | queryStatus response =>
      refine h.of_same hb rfl ?_ fun hmarked => ?_ <;>
        simp only [ReportedNode.step, StartedNode.step, HeartbeatManager.queryStatus] <;> split
      · rfl
      · rfl
      · rfl
      · exact hmarked
      · exact hmarked
      · exact hmarked
  | writeBack =>
      refine h.of_same hb rfl ?_ fun hmarked => ?_ <;>
        simp only [ReportedNode.step, StartedNode.step, HeartbeatManager.writeBack] <;> split
      · rfl
      · rfl
      · rfl
      · exact hmarked
      · exact hmarked
      · exact hmarked
  | buildMsg podIp =>
      refine h.of_same hb rfl ?_ fun hmarked => ?_ <;>
        simp only [ReportedNode.step, StartedNode.step, HeartbeatManager.buildMsg] <;> split
      · rfl
      · rfl
      · rfl
      · rename_i hr
        rw [hr] at hmarked
        exact hmarked
      · exact hmarked
      · exact hmarked

/-- Let an endpoint be abnormal between two refreshes, and let no query find it otherwise from then on. Whatever the
threads do, after six more acknowledged heartbeats the node has given up; the first of them may be older. -/
theorem broken_is_given_up (r : Nat) (before after : List Event)
    (hidle : (run ReportedNode.step {} before).node.manager.refresh = .idle)
    (hlisted : r ∈ (run ReportedNode.step {} before).node.manager.endpoints)
    (hstatus : ((run ReportedNode.step {} before).node.manager.heap.read r).status = .abnormal)
    (hbroken : Along ReportedNode.step (StaysBroken r) (run ReportedNode.step {} before) after)
    (hack : (run ReportedNode.step {} before).acknowledged.length + 6 ≤
      (run ReportedNode.step {} (before ++ after)).acknowledged.length) :
    (run ReportedNode.step {} (before ++ after)).node.manager.shouldSuicide = true := by
  have hbooked : Booked (run ReportedNode.step {} before) :=
    run_invariant' (I := Booked) (fun _ event h => h.step event) booked_init before
  rw [run_append] at hack ⊢
  generalize run ReportedNode.step {} before = w at *
  have hstart : Telling r w.acknowledged.length w :=
    ⟨⟨hlisted, hstatus, fun hne => absurd hidle hne⟩, by omega, fun hlater => absurd hlater (Nat.lt_irrefl _)⟩
  have hend : Telling r w.acknowledged.length (run ReportedNode.step w after) ∧ Booked (run ReportedNode.step w after) :=
    run_invariant (I := fun w' => Telling r w.acknowledged.length w' ∧ w'.Booked)
      (fun _ event h hb => ⟨h.1.step h.2 hb, h.2.step event⟩) ⟨hstart, hbooked⟩ hbroken
  have hcounted := hend.1.counted
  exact hend.2.suicide (by omega)

theorem broken_is_given_up_unreachable :
    (run ReportedNode.step {} (unreachable ++ heartbeats 6)).node.manager.shouldSuicide = true :=
  broken_is_given_up 0 unreachable (heartbeats 6) (by rfl) (by decide) (by decide)
    (by simp [heartbeats, List.replicate, Along, StaysBroken]) (by decide)

end ReportedNode

end PyMotor
