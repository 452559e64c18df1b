import PyMotor.Controller.Lemmas.Assembly
import PyMotor.Controller.Lemmas.Readiness

/-!
# What is stored was reported

An endpoint is stored as NORMAL only when that was the last report for it: heartbeats and re-registrations store what they
report, and every other step of the process leaves statuses as they are or resets them.
-/

namespace PyMotor

open Lib ManagedInstance ControllerProcess

namespace ManagedInstance

variable {x y z : ManagedInstance} {reports : Reports}

/-- The pod has an endpoint with the id that is stored as NORMAL. -/
def NormalAt (x : ManagedInstance) (ip : String) (endpointId : Int) : Prop :=
  ∃ eps, x.endpoints.get? ip = some eps ∧ ∃ ep ∈ eps.values, ep.status = .normal ∧ ep.id = endpointId

/-- What is stored as NORMAL was last reported so. -/
def Told (reports : Reports) (x : ManagedInstance) : Prop :=
  ∀ ip endpointId, x.NormalAt ip endpointId → reports ip endpointId = some .normal

/-- No endpoint has become NORMAL. -/
def Quiet (x y : ManagedInstance) : Prop := ∀ ip endpointId, y.NormalAt ip endpointId → x.NormalAt ip endpointId

theorem Quiet.rfl : Quiet x x := fun _ _ h => h

theorem Quiet.trans (h : Quiet x y) (h' : Quiet y z) : Quiet x z := fun ip endpointId hz => h _ _ (h' ip endpointId hz)

theorem Told.quiet (h : Told reports x) (hq : Quiet x y) : Told reports y := fun _ _ hy => h _ _ (hq _ _ hy)

theorem quiet_of_endpoints (h : y.endpoints = x.endpoints) : Quiet x y := by
  intro ip endpointId hy
  unfold NormalAt at hy ⊢
  rwa [h] at hy

theorem not_normalAt_of_empty (h : x.endpoints = Dict.empty) (ip : String) (endpointId : Int) :
    ¬ x.NormalAt ip endpointId := by
  rintro ⟨eps, heps, -⟩
  rw [h] at heps
  cases heps

theorem told_of_empty (h : x.endpoints = Dict.empty) (reports : Reports) : Told reports x :=
  fun ip endpointId hx => absurd hx (not_normalAt_of_empty h ip endpointId)

theorem quiet_set {ip : String} {eps : Dict Int Endpoint} (h : ∀ ep ∈ eps.values, ep.status = .normal →
      x.NormalAt ip ep.id) : Quiet x { x with endpoints := x.endpoints.set ip eps } := by
  rintro ip' endpointId ⟨eps', heps', ep, hep, hs, rfl⟩
  replace heps' : (x.endpoints.set ip eps).get? ip' = some eps' := heps'
  rw [Dict.get?_set] at heps'
  split at heps'
  · rename_i he
    obtain rfl := Option.some.inj heps'
    rw [he]
    exact h ep hep hs
  · exact ⟨eps', heps', ep, hep, hs, rfl⟩

theorem quiet_erase (ip : String) : Quiet x { x with endpoints := x.endpoints.erase ip } := by
  rintro ip' endpointId ⟨eps', heps', hep⟩
  replace heps' : (x.endpoints.erase ip).get? ip' = some eps' := heps'
  rw [Dict.get?_erase] at heps'
  split at heps'
  · cases heps'
  · exact ⟨eps', heps', hep⟩

/-! ## Heartbeats of the manager itself -/

theorem quiet_refreshHeartbeats (timestamp : ℚ) : Quiet x (x.refreshHeartbeats timestamp) := by
  rintro ip endpointId ⟨eps', heps', ep', hep', hs, rfl⟩
  replace heps' : (x.endpoints.mapValues fun eps => eps.mapValues fun ep =>
      { ep with hbTimestamp := timestamp }).get? ip = some eps' := heps'
  rw [Dict.get?_mapValues] at heps'
  obtain ⟨eps, heps, rfl⟩ := Option.map_eq_some_iff.mp heps'
  rw [Dict.values_mapValues] at hep'
  obtain ⟨ep, hep, rfl⟩ := List.mem_map.mp hep'
  exact ⟨eps, heps, ep, hep, hs, rfl⟩

theorem quiet_maybeRefreshHeartbeat (timestamp : ℚ) : Quiet x (Controller.maybeRefreshHeartbeat timestamp x) := by
  unfold Controller.maybeRefreshHeartbeat
  split
  · exact quiet_refreshHeartbeats timestamp
  · exact Quiet.rfl

theorem mem_values_adjust {eps : Dict Int Endpoint} {key : Int} {f : Endpoint → Endpoint} {ep : Endpoint}
    (h : ep ∈ (eps.adjust key f).values) : ∃ ep₀ ∈ eps.values, ep = ep₀ ∨ ep = f ep₀ := by
  obtain ⟨key', hkey⟩ := Dict.mem_values_iff.mp h
  rw [Dict.get?_adjust] at hkey
  split at hkey
  · obtain ⟨ep₀, hep₀, rfl⟩ := Option.map_eq_some_iff.mp hkey
    exact ⟨ep₀, Dict.mem_values_iff.mpr ⟨_, hep₀⟩, Or.inr rfl⟩
  · exact ⟨ep, Dict.mem_values_iff.mpr ⟨_, hkey⟩, Or.inl rfl⟩

theorem updateStatuses_quiet {timestamp : ℚ} {status : Dict Int EndpointStatus}
    (hstatus : ∀ endpointId, status.get? endpointId ≠ some .normal) {l : List (Int × Endpoint)} {eps : Dict Int Endpoint}
    {ep : Endpoint} (hep : ep ∈ (updateStatuses timestamp status l eps).2.values) (hs : ep.status = .normal) :
    ∃ ep₀ ∈ eps.values, ep₀.status = .normal ∧ ep₀.id = ep.id := by
  have htime : ∀ {eps : Dict Int Endpoint} {key : Int} {ep : Endpoint}, ep.status = .normal →
      ep ∈ (eps.adjust key fun ep => { ep with hbTimestamp := timestamp }).values →
      ∃ ep₀ ∈ eps.values, ep₀.status = .normal ∧ ep₀.id = ep.id := by
    intro eps key ep hs hep
    obtain ⟨ep₀, hep₀, he⟩ := mem_values_adjust hep
    refine ⟨ep₀, hep₀, ?_⟩
    rcases he with rfl | rfl
    · exact ⟨hs, rfl⟩
    · exact ⟨hs, rfl⟩
  induction l generalizing eps with
  | nil => exact ⟨ep, hep, hs, rfl⟩
  | cons e l ih =>
      cases hst : status.get? e.2.id with
      | none =>
          simp only [updateStatuses, hst] at hep
          exact htime hs hep
      | some st =>
          simp only [updateStatuses, hst] at hep
          obtain ⟨ep₁, hep₁, hs₁, hid₁⟩ := ih hep
          obtain ⟨ep₂, hep₂, he⟩ := mem_values_adjust hep₁
          rcases he with rfl | rfl
          · obtain ⟨ep₀, hep₀, hs₀, hid₀⟩ := htime hs₁ hep₂
            exact ⟨ep₀, hep₀, hs₀, hid₀.trans hid₁⟩
          · exact absurd (hst.trans (congrArg some hs₁)) (hstatus e.2.id)

theorem quiet_updateHeartbeat {ip : String} {timestamp : ℚ} {status : Dict Int EndpointStatus}
    (hstatus : ∀ endpointId, status.get? endpointId ≠ some .normal) :
    Quiet x (x.updateHeartbeat ip timestamp status).2 := by
  unfold updateHeartbeat
  cases heps : x.endpoints.get? ip with
  | none => exact Quiet.rfl
  | some eps =>
      have hset : Quiet x
          { x with endpoints := x.endpoints.set ip (updateStatuses timestamp status eps.entries eps).2 } := by
        refine quiet_set fun ep hep hs => ?_
        obtain ⟨ep₀, hep₀, hs₀, hid₀⟩ := updateStatuses_quiet hstatus hep hs
        exact ⟨eps, heps, ep₀, hep₀, hs₀, hid₀⟩
      dsimp only
      split
      · exact Quiet.rfl
      · split
        · rename_i hu
          rwa [hu] at hset
        · rename_i hu
          rwa [hu] at hset

theorem quiet_initialHeartbeats (timestamp : ℚ) : Quiet x (x.initialHeartbeats timestamp) := by
  have hinitial : ∀ (y : ManagedInstance) pod endpointId, (y.initialStatus pod).get? endpointId ≠ some .normal := by
    intro y pod endpointId h
    rcases Dict.get?_update_or h with h | h
    · obtain ⟨ep, -, he⟩ := List.mem_map.mp h
      cases he
    · cases h
  unfold initialHeartbeats
  generalize x.endpoints.keys = pods
  induction pods generalizing x with
  | nil => exact Quiet.rfl
  | cons pod pods ih => exact (quiet_updateHeartbeat (hinitial x pod)).trans ih

/-! ## Pods -/

theorem endpoints_addNodeMgr (x : ManagedInstance) (podIp port : String) (deviceNum : Int) :
    (x.addNodeMgr podIp port deviceNum).endpoints = x.endpoints := by
  obtain ⟨nodeManagers, h⟩ := x.addNodeMgr_eq podIp port deviceNum
  rw [h]

theorem quiet_filterAbnormalEndpoints (queryStatus : NodeManagerInfo → QueryStatus) :
    Quiet x (x.filterAbnormalEndpoints queryStatus) := by
  unfold filterAbnormalEndpoints
  generalize x.nodeManagers = nms
  induction nms generalizing x with
  | nil => exact Quiet.rfl
  | cons nm nms ih =>
      refine Quiet.trans ?_ (ih (x := filterNodeManager queryStatus x nm))
      unfold filterNodeManager
      split
      · exact (quiet_erase nm.podIp).trans (quiet_of_endpoints rfl)
      · exact Quiet.rfl

end ManagedInstance

namespace RegisterMsg

variable {msg : RegisterMsg} {timestamp : ℚ} {idOffset : Int} {eps : Dict Int Endpoint}

theorem initial_buildLoop {i : Nat} {ports : List String} {acc : Dict Int Endpoint}
    (hacc : ∀ ep ∈ acc.values, ep.status = .initial) (hok : msg.buildLoop timestamp idOffset i ports acc = .ok eps) :
    ∀ ep ∈ eps.values, ep.status = .initial := by
  induction ports generalizing i acc with
  | nil =>
      cases hok
      exact hacc
  | cons port ports ih =>
      simp only [buildLoop] at hok
      split at hok
      · cases hok
        exact hacc
      · split at hok
        · cases hok
        · split at hok
          · cases hok
          · refine ih (fun ep hep => ?_) hok
            obtain ⟨key, hkey⟩ := Dict.mem_values_iff.mp hep
            rw [Dict.get?_set] at hkey
            split at hkey
            · cases hkey
              rfl
            · exact hacc ep (Dict.mem_values_iff.mpr ⟨key, hkey⟩)

theorem initial_buildEndpoints (hok : msg.buildEndpoints timestamp idOffset = .ok eps) :
    ∀ ep ∈ eps.values, ep.status = .initial := by
  unfold buildEndpoints at hok
  split at hok
  · unfold buildMultiEndpoints at hok
    split at hok
    · cases hok
    · exact initial_buildLoop (by simp) hok
  · unfold buildSingleEndpoint at hok
    split at hok
    · cases hok
    · split at hok
      · cases hok
        intro ep hep
        rw [Dict.values_set_absent (Dict.get?_empty 0)] at hep
        obtain rfl := List.mem_singleton.mp hep
        rfl
      · cases hok

theorem quiet_addPod (msg : RegisterMsg) (timestamp : ℚ) (x : ManagedInstance) : Quiet x (msg.addPod timestamp x).2 := by
  have hnode := quiet_of_endpoints (x.endpoints_addNodeMgr msg.podIp msg.nmPort msg.deviceNum)
  unfold addPod
  split
  · exact Quiet.rfl
  · dsimp only
    split
    · exact hnode
    · rename_i eps hbuild
      refine hnode.trans (quiet_set fun ep hep hs => ?_)
      rw [initial_buildEndpoints hbuild ep hep] at hs
      cases hs

end RegisterMsg

theorem ReregisterMsg.told_addPod {msg : ReregisterMsg} {x : ManagedInstance} {reports : Reports} (h : Told reports x) :
    Told (reports.hear msg.podIp (Dict.empty.update (msg.endpoints.map fun ep => (ep.id, ep.status))).get?)
      (msg.addPod x) := by
  rintro ip endpointId ⟨eps, heps, ep, hep, hs, rfl⟩
  unfold ReregisterMsg.addPod addEndpoints at heps
  replace heps : ((x.addNodeMgr msg.podIp msg.nmPort msg.deviceNum).endpoints.set msg.podIp
      (Dict.empty.update (msg.endpoints.map fun ep => (ep.id, ep)))).get? ip = some eps := heps
  rw [endpoints_addNodeMgr, Dict.get?_set] at heps
  unfold Reports.hear
  split at heps
  · rename_i hip
    obtain rfl := Option.some.inj heps
    obtain ⟨key, hkey⟩ := Dict.mem_values_iff.mp hep
    have hid : ep.id = key := by
      rcases Dict.get?_update_or hkey with hm | hm
      · obtain ⟨ep', -, he⟩ := List.mem_map.mp hm
        cases he
        rfl
      · cases hm
    have hstatus : (Dict.empty.update (msg.endpoints.map fun ep => (ep.id, ep.status))).get? ep.id =
        some ep.status := by
      rw [hid, ← Option.map_some, ← hkey, ← Dict.get?_mapValues, Dict.mapValues_update, List.map_map]
      rfl
    rw [if_pos hip, hstatus, hs]
    rfl
  · rename_i hip
    rw [if_neg hip]
    exact h ip ep.id ⟨eps, heps, ep, hep, hs, rfl⟩

/-! ## Steps that report nothing -/

namespace Controller

variable {c c' c'' : Controller} {r : Ref} {timestamp : ℚ}

def Quietly (c c' : Controller) : Prop := ∀ r, Quiet (c.obj r) (c'.obj r)

theorem Quietly.trans (h : Quietly c c') (h' : Quietly c' c'') : Quietly c c'' := fun r => (h r).trans (h' r)

theorem quietly_of_heap (h : c'.heap = c.heap) : Quietly c c' := by
  intro r
  unfold obj
  rw [h]
  exact Quiet.rfl

theorem quietly_modifyObj {f : ManagedInstance → ManagedInstance} (hf : Quiet (c.obj r) (f (c.obj r))) :
    Quietly c (c.modifyObj r f) := by
  intro r'
  by_cases he : r' = r
  · by_cases hlt : r < c.heap.length
    · rw [he, obj_modifyObj_self hlt]
      exact hf
    · have hsame : (c.modifyObj r f).obj r' = c.obj r' := by
        simp [obj, modifyObj, Heap.read, he, hlt]
      rw [hsame]
      exact Quiet.rfl
  · rw [obj_modifyObj_ne he]
    exact Quiet.rfl

theorem quietly_status (status : InsStatus) : Quietly c (c.modifyObj r (·.updateInstanceStatus status)) :=
  quietly_modifyObj (quiet_of_endpoints rfl)

theorem obj_of_length_le (h : c.heap.length ≤ r) : c.obj r = default := by
  simp [obj, Heap.read, h]

theorem quietly_addInstance (c : Controller) (timestamp : ℚ) (r : Ref) : Quietly c (c.addInstance timestamp r) := by
  unfold addInstance
  split
  · exact quietly_of_heap rfl
  · have hset : Quietly c { c with instances := c.instances.set (c.obj r).id r } := quietly_of_heap rfl
    exact hset.trans (quietly_modifyObj (quiet_initialHeartbeats timestamp))

theorem quietly_transition {event : InsConditionEvent} (ht : Transition c timestamp r event c') : Quietly c c' := by
  cases ht with
  | idle _ => exact quietly_of_heap rfl
  | ready _ _ _ => exact quietly_status .active
  | seperated _ _ => exact quietly_status .inactive
  | refreshed _ _ => exact quietly_modifyObj (quiet_refreshHeartbeats timestamp)
  | initial _ _ => exact quietly_status .initial
  | deleted _ _ =>
      intro r'
      rw [obj_delInstance]
      exact quietly_status (c := c) .deleted r'

theorem quietly_handleTimeout (c : Controller) (timestamp : ℚ) (queryStatus : NodeManagerInfo → QueryStatus)
    (insId : Int) : Quietly c (c.handleTimeout timestamp queryStatus insId) :=
  handleTimeout_rule (quietly_of_heap rfl) fun _ _ _ _ ht => quietly_transition ht

theorem quietly_separateInstance (c : Controller) (insId : Int) : Quietly c (c.separateInstance insId) := by
  apply separateInstance_rule
  · exact fun _ => quietly_of_heap rfl
  · intro r _ _
    have hforced : Quietly c { c with forcedSeparatedInstances := c.forcedSeparatedInstances.insert (c.obj r).id } :=
      quietly_of_heap rfl
    exact hforced.trans (quietly_status .inactive)
  · exact fun _ _ _ => quietly_of_heap rfl

theorem quietly_recoverInstance (c : Controller) (insId : Int) : Quietly c (c.recoverInstance insId) := by
  unfold recoverInstance
  split <;> exact quietly_of_heap rfl

theorem quietly_delInstance (c : Controller) (insId : Int) : Quietly c (c.delInstance insId) := by
  intro r
  rw [obj_delInstance]
  exact Quiet.rfl

/-- What is stored as NORMAL in an instance object was last reported so to it. -/
def Stored (reported : Ref → Reports) (c : Controller) : Prop := ∀ r, Told (reported r) (c.obj r)

section Stored

variable {reported reported' : Ref → Reports}

theorem Stored.quietly (h : Stored reported c) (hq : Quietly c c') : Stored reported c' := fun r => (h r).quiet (hq r)

theorem Stored.create (h : Stored reported c) {x : ManagedInstance} (hx : Told (reported' c.heap.length) x)
    (hsame : ∀ r ≠ c.heap.length, reported' r = reported r) : Stored reported' (c.create x) := by
  intro r
  rcases Nat.lt_trichotomy r c.heap.length with hlt | rfl | hlt
  · rw [obj_create_old hlt, hsame r hlt.ne]
    exact h r
  · rwa [obj_create_new]
  · rw [obj_of_length_le (c := c.create x) (by rw [length_create]; exact hlt)]
    exact told_of_empty rfl _

theorem Stored.modifyObj (h : Stored reported c) (hlt : r < c.heap.length) {f : ManagedInstance → ManagedInstance}
    (hx : Told (reported' r) (f (c.obj r))) (hsame : ∀ r' ≠ r, reported' r' = reported r') :
    Stored reported' (c.modifyObj r f) := by
  intro r'
  by_cases he : r' = r
  · rw [he, obj_modifyObj_self hlt]
    exact hx
  · rw [obj_modifyObj_ne he, hsame r' he]
    exact h r'

theorem Stored.handleHeartbeat (h : Stored reported c) (hm : ∀ id r, c.instances.get? id = some r → r < c.heap.length)
    {insId : Int} {ip : String} {status : Dict Int EndpointStatus}
    (hcovers : ∀ r ∈ c.instances.get? insId, ∀ eps ∈ (c.obj r).endpoints.get? ip,
      eps.entries.length = status.entries.length → ∀ ep ∈ eps.values, status.contains ep.id)
    (htaken : ∀ r, (c.instances.get? insId = some r ∧
        ∃ eps ∈ (c.obj r).endpoints.get? ip, eps.entries.length = status.entries.length) →
      reported' r = (reported r).hear ip status.get?)
    (hrefused : ∀ r, ¬ (c.instances.get? insId = some r ∧
        ∃ eps ∈ (c.obj r).endpoints.get? ip, eps.entries.length = status.entries.length) →
      reported' r = reported r) : Stored reported' (c.handleHeartbeat timestamp insId ip status).2 := by
  have hupdated : ∀ r, c.instances.get? insId = some r →
      Stored reported' (c.modifyObj r fun x => (x.updateHeartbeat ip timestamp status).2) := by
    intro r hr
    refine h.modifyObj (hm insId r hr) ?_ fun r' hne => hrefused r' fun hboth => ?_
    · rcases updateHeartbeat_taken timestamp (hcovers r hr) with
        ⟨eps, heps, hlen, -, hrep⟩ | ⟨hnone, hx⟩
      · rw [htaken r ⟨hr, eps, heps, hlen⟩]
        rintro ip' endpointId ⟨eps', heps', ep, hep, hs, rfl⟩
        unfold Reports.hear
        by_cases hip : ip' = ip
        · subst hip
          rw [if_pos rfl, hrep.stored heps' hep, hs]
          rfl
        · rw [if_neg hip]
          rw [get?_updateHeartbeat_ne hip] at heps'
          exact h r ip' ep.id ⟨eps', heps', ep, hep, hs, rfl⟩
      · rw [hrefused r fun hboth => hnone hboth.2, hx]
        exact h r
    · exact hne (Option.some.inj (hboth.1.symm.trans hr))
  apply handleHeartbeat_rule
  · intro hnone r
    rw [hrefused r fun hboth => Option.some_ne_none r (hboth.1.symm.trans hnone)]
    exact h r
  · exact fun r hr _ => hupdated r hr
  · exact fun r c' hr _ ht => (hupdated r hr).quietly (quietly_transition ht)

end Stored

end Controller

namespace ReportedProcess

variable {s : ReportedProcess}

/-- What is stored as NORMAL, in an instance object or in the data, was last reported so. -/
structure ReportInv (s : ReportedProcess) : Prop where
  ready : ReadyInv s.process
  stored : Controller.Stored s.reported s.process.controller
  managerData : ∀ state, s.process.managerData = some state → ∀ id x, state.data.get? id = some x →
    Told (s.managerReported id) x
  assemblerData : ∀ data, s.process.assemblerData = some data → ∀ jobName m, data.instances.get? jobName = some m →
    Told (s.assemblerReported jobName) m.ins

theorem reportInv_init : ReportInv {} where
  ready := readyInv_init
  stored r := told_of_empty rfl _
  managerData _ h := by cases h
  assemblerData _ h := by cases h

theorem ReportInv.register (h : ReportInv s) (msg : RegisterMsg) :
    Controller.Stored s.reported (s.process.register msg).2.controller := by
  rcases s.process.register_cases msg with ⟨-, heq⟩ | ⟨-, m, -, -, -, heq⟩ | ⟨-, m, m', -, -, heq⟩
  · rw [heq]
    exact h.stored
  · rw [heq]
    exact h.stored.create ((told_of_empty rfl _).quiet (msg.quiet_addPod s.process.clock _)) fun _ _ => rfl
  · rw [heq]
    exact h.stored.quietly (Controller.quietly_modifyObj (msg.quiet_addPod s.process.clock _))

theorem ReportInv.reregister (h : ReportInv s) (msg : ReregisterMsg) :
    Controller.Stored (s.record (.reregister msg)) (s.process.reregister msg).2.controller := by
  have hsame : ∀ r, reregistered s.process msg ≠ some r → s.record (.reregister msg) r = s.reported r :=
    fun r hr => if_neg hr
  have hheard : ∀ r, reregistered s.process msg = some r → s.record (.reregister msg) r = (s.reported r).hear msg.podIp
      (Dict.empty.update (msg.endpoints.map fun ep => (ep.id, ep.status))).get? := fun r hr => if_pos hr
  rcases s.process.reregister_cases msg with ⟨hs, heq⟩ | ⟨hs, heq⟩ | ⟨hs, m, hm, heq⟩
  · rw [heq]
    intro r
    rw [hsame r (by simp [reregistered, hs])]
    exact h.stored r
  · have htarget : reregistered s.process msg = some s.process.controller.heap.length := by simp [reregistered, hs]
    rw [heq]
    refine h.stored.create ?_ fun r hne => hsame r fun hr => hne (Option.some.inj (hr.symm.trans htarget))
    rw [hheard _ htarget]
    exact ReregisterMsg.told_addPod (told_of_empty rfl _)
  · have htarget : reregistered s.process msg = some m.ins := by simp [reregistered, hs, hm]
    rw [heq]
    refine h.stored.modifyObj (h.ready.inv.metadata hm).1 ?_ fun r hne =>
      hsame r fun hr => hne (Option.some.inj (hr.symm.trans htarget))
    rw [hheard _ htarget]
    exact ReregisterMsg.told_addPod (h.stored m.ins)

theorem quietly_assembleInstance (p : ControllerProcess) (queryStatus : NodeManagerInfo → QueryStatus)
    (assembleTimeout : ℚ) (jobName : String) :
    Controller.Quietly p.controller (p.assembleInstance queryStatus assembleTimeout jobName).controller := by
  rcases p.assembleInstance_cases queryStatus assembleTimeout jobName with heq | ⟨m, -, -, q, rfl, hcases⟩
  · rw [heq]
    exact Controller.quietly_of_heap rfl
  · have hfiltered : Controller.Quietly p.controller (p.modifyObj m.ins (·.filterAbnormalEndpoints queryStatus)).controller :=
      Controller.quietly_modifyObj (quiet_filterAbnormalEndpoints queryStatus)
    rcases hcases with heq | heq | ⟨-, ⟨-, heq⟩ | ⟨-, heq⟩⟩
    · rwa [heq]
    · rwa [heq]
    · rw [heq]
      exact hfiltered.trans (Controller.quietly_addInstance _ _ _)
    · rw [heq]
      exact hfiltered.trans (Controller.quietly_addInstance _ _ _)

theorem ReportInv.restored (h : ReportInv s) (event : Event) (persisted : ManagedInstance → Reports)
    (hold : ∀ r < s.process.controller.heap.length, (s.process.step event).controller.obj r = s.process.controller.obj r)
    (hnew : ∀ r, s.process.controller.heap.length ≤ r → r < (s.process.step event).controller.heap.length →
      Told (persisted ((s.process.step event).controller.obj r)) ((s.process.step event).controller.obj r)) :
    Controller.Stored (s.restored event persisted) (s.process.step event).controller := by
  intro r
  unfold ReportedProcess.restored
  split
  · rename_i hlt
    rw [hold r hlt]
    exact h.stored r
  · rename_i hlt
    split
    · rename_i hlt'
      exact hnew r (not_lt.mp hlt) hlt'
    · rename_i hlt'
      rw [Controller.obj_of_length_le (not_lt.mp hlt')]
      exact told_of_empty rfl _

theorem ReportInv.restoreManager (h : ReportInv s) :
    Controller.Stored (s.record .restoreManager) (s.process.step .restoreManager).controller := by
  cases hstate : s.process.managerData with
  | none =>
      have hsame : s.process.step .restoreManager = s.process := restoreManager_none hstate
      refine h.restored .restoreManager (fun x => s.managerReported x.id) (fun r _ => ?_) fun r hle hlt => ?_
      · rw [hsame]
      · rw [hsame] at hlt
        exact absurd hlt (Nat.not_lt.mpr hle)
  | some state =>
      have hc := restored_restoreManager hstate
      have hheap : s.process.restoreManager.controller.heap =
          s.process.controller.heap ++ state.data.values.map (Controller.maybeRefreshHeartbeat s.process.clock) := by
        simp [ControllerProcess.restoreManager, hstate, Controller.restoreInstances]
      refine h.restored .restoreManager (fun x => s.managerReported x.id) (fun r hlt => hc.old hlt) fun r hle hlt => ?_
      have hmem : s.process.restoreManager.controller.obj r ∈
          state.data.values.map (Controller.maybeRefreshHeartbeat s.process.clock) := by
        unfold Controller.obj
        rw [hheap]
        exact Heap.read_append_new hle (hheap ▸ hlt)
      obtain ⟨x, hx, hobj⟩ := List.mem_map.mp hmem
      obtain ⟨id, hid⟩ := Dict.mem_values_iff.mp hx
      show Told (s.managerReported (s.process.restoreManager.controller.obj r).id)
        (s.process.restoreManager.controller.obj r)
      rw [← hobj, (Controller.keeps_maybeRefreshHeartbeat s.process.clock).id, h.ready.inv.managerData hstate hid]
      exact (h.managerData state hstate id x hid).quiet (quiet_maybeRefreshHeartbeat s.process.clock)

theorem restoreAssembler_objects {p : ControllerProcess} {data : InstanceAssembler ManagedInstance}
    (hdata : p.assemblerData = some data) :
    (∀ r < p.controller.heap.length, p.restoreAssembler.controller.obj r = p.controller.obj r) ∧
    ∀ r, p.controller.heap.length ≤ r → r < p.restoreAssembler.controller.heap.length →
      ∃ e ∈ data.instances.entries, p.restoreAssembler.controller.obj r = e.2.ins := by
  have hrule : p.controller.heap.length ≤ p.restoreAssembler.controller.heap.length ∧
      (∀ r < p.controller.heap.length, p.restoreAssembler.controller.obj r = p.controller.obj r) ∧
      ∀ r, p.controller.heap.length ≤ r → r < p.restoreAssembler.controller.heap.length →
        ∃ e ∈ data.instances.entries, p.restoreAssembler.controller.obj r = e.2.ins := by
    apply restoreAssembler_rule (P := fun q => p.controller.heap.length ≤ q.controller.heap.length ∧
      (∀ r < p.controller.heap.length, q.controller.obj r = p.controller.obj r) ∧
      ∀ r, p.controller.heap.length ≤ r → r < q.controller.heap.length →
        ∃ e ∈ data.instances.entries, q.controller.obj r = e.2.ins)
    · exact ⟨le_refl _, fun _ _ => rfl, fun r hle hlt => absurd hlt (Nat.not_lt.mpr hle)⟩
    · exact fun _ _ => ⟨le_refl _, fun _ _ => rfl, fun r hle hlt => absurd hlt (Nat.not_lt.mpr hle)⟩
    · rintro q data' e hdata' he ⟨hle, hold, hnew⟩
      obtain rfl := Option.some.inj (hdata.symm.trans hdata')
      have hlength : (q.restoreMetadata e).controller.heap.length = q.controller.heap.length + 1 :=
        Controller.length_create e.2.ins
      refine ⟨by omega, fun r hr => ?_, fun r hr hlt => ?_⟩
      · exact (Controller.obj_create_old (hr.trans_le hle) e.2.ins).trans (hold r hr)
      · rcases Nat.lt_succ_iff_lt_or_eq.mp (hlength ▸ hlt) with hlt | rfl
        · obtain ⟨e', he', hobj⟩ := hnew r hr hlt
          exact ⟨e', he', (Controller.obj_create_old hlt e.2.ins).trans hobj⟩
        · exact ⟨e, he, Controller.obj_create_new q.controller e.2.ins⟩
  exact hrule.2

theorem ReportInv.restoreAssembler (h : ReportInv s) :
    Controller.Stored (s.record .restoreAssembler) (s.process.step .restoreAssembler).controller := by
  cases hdata : s.process.assemblerData with
  | none =>
      have hsame : s.process.step .restoreAssembler = s.process := by
        simp only [ControllerProcess.step, ControllerProcess.restoreAssembler, hdata]
      refine h.restored .restoreAssembler (fun x => s.assemblerReported x.jobName) (fun r _ => ?_) fun r hle hlt => ?_
      · rw [hsame]
      · rw [hsame] at hlt
        exact absurd hlt (Nat.not_lt.mpr hle)
  | some data =>
      obtain ⟨hold, hnew⟩ := restoreAssembler_objects hdata
      refine h.restored .restoreAssembler (fun x => s.assemblerReported x.jobName) hold fun r hle hlt => ?_
      obtain ⟨e, he, hobj⟩ := hnew r hle hlt
      have hget := Dict.get?_eq_some_iff.mpr he
      show Told (s.assemblerReported (s.process.restoreAssembler.controller.obj r).jobName)
        (s.process.restoreAssembler.controller.obj r)
      rw [hobj, (h.ready.inv.assemblerData hdata hget).1]
      exact h.assemblerData data hdata _ _ hget

theorem ReportInv.stored_step (h : ReportInv s) {event : Event} (hdecided : s.process.ActiveDecided event) :
    Controller.Stored (s.record event) (s.process.step event).controller := by
  cases event with
  | register msg => exact h.register msg
  | reregister msg => exact h.reregister msg
  | assemble queryStatus assembleTimeout jobName => exact h.stored.quietly (quietly_assembleInstance _ _ _ _)
  | startCommand reply maxRetryTimes jobName =>
      apply sendStartCommand_rule (P := fun q => Controller.Stored s.reported q.controller)
      · exact h.stored
      · exact fun _ _ _ _ => h.stored
      · exact h.stored
  | heartbeat insId ip status =>
      exact h.stored.handleHeartbeat (fun _ _ hr => (h.ready.inv.managed hr).1)
        (fun r hr eps heps hlen => (hdecided r hr eps heps hlen).1) (fun r hr => if_pos hr) (fun r hr => if_neg hr)
  | timeout queryStatus insId => exact h.stored.quietly (Controller.quietly_handleTimeout _ _ queryStatus insId)
  | separate instanceId => exact h.stored.quietly (Controller.quietly_separateInstance _ instanceId)
  | recover instanceId => exact h.stored.quietly (Controller.quietly_recoverInstance _ instanceId)
  | delete insId => exact h.stored.quietly (Controller.quietly_delInstance _ insId)
  | persistManager => exact h.stored
  | restoreManager => exact h.restoreManager
  | persistAssembler => exact h.stored
  | restoreAssembler => exact h.restoreAssembler
  | restart => exact fun r => told_of_empty rfl _
  | tick timestamp => exact h.stored

theorem ReportInv.step (h : ReportInv s) {event : Event} (hdecided : s.process.ActiveDecided event) :
    ReportInv (s.step event) := by
  refine ⟨h.ready.step hdecided, h.stored_step hdecided, ?_, ?_⟩
  · by_cases he : event = .persistManager
    · subst he
      intro state hstate id x hx
      obtain rfl := Option.some.inj hstate
      rw [Dict.get?_mapValues] at hx
      obtain ⟨r, hr, rfl⟩ := Option.map_eq_some_iff.mp hx
      show Told (((s.process.controller.instances.get? id).map s.reported).getD fun _ _ => none) _
      rw [hr]
      exact h.stored r
    · intro state hstate id x hx
      have hreported : (s.step event).managerReported = s.managerReported := by
        cases event with
        | persistManager => exact absurd rfl he
        | _ => rfl
      rw [hreported]
      exact h.managerData state ((managerData_step s.process he).symm.trans hstate) id x hx
  · by_cases he : event = .persistAssembler
    · subst he
      intro data hdata jobName m hm
      obtain rfl := Option.some.inj hdata
      rw [Dict.get?_mapValues] at hm
      obtain ⟨m₀, hm₀, rfl⟩ := Option.map_eq_some_iff.mp hm
      show Told (((s.process.assembler.instances.get? jobName).map fun m => s.reported m.ins).getD fun _ _ => none) _
      rw [hm₀]
      exact h.stored m₀.ins
    · intro data hdata jobName m hm
      have hreported : (s.step event).assemblerReported = s.assemblerReported := by
        cases event with
        | persistAssembler => exact absurd rfl he
        | _ => rfl
      rw [hreported]
      exact h.assemblerData data ((assemblerData_step s.process he).symm.trans hdata) jobName m hm

theorem ReportInv.activeNormal (h : ReportInv s) : s.ActiveNormal := by
  intro id r hr hs pod hpod ep hep
  have hready := ManagedInstance.isAllEndpointsReady_iff.mp (h.ready.ready id r hr hs)
  have hget := Dict.get?_eq_some_iff.mpr hpod
  have hnormal := hready ep (List.mem_flatMap.mpr ⟨pod.2, Dict.mem_values_iff.mpr ⟨pod.1, hget⟩, hep⟩)
  exact h.stored r pod.1 ep.id ⟨pod.2, hget, ep, hep, hnormal, rfl⟩

end ReportedProcess

end PyMotor
