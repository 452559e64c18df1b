import PyMotor.Controller.Theorems
import PyMotor.Lib.Replica

/-!
# The coordinator as a replica

The ids of the active instances are the set that the controller leads with; ADD and DEL events are its changes, a SET
event asks for a snapshot. The ids in the two pools of the coordinator follow.
-/

namespace PyMotor

open Lib

namespace InstanceManager

variable {m : InstanceManager} {x : Instance} {id : Int}

/-! ## The ids of the coordinator -/

theorem mem_currentIds_refresh_add (hs : NoStale m) (hrole : (PDRole.ofString? x.role).isSome) :
    id ∈ (m.refresh .add [x]).2.currentIds ↔ id = x.id ∨ id ∈ m.currentIds := by
  have hobj : (m.alloc [x]).2.obj m.heap.length = x := obj_alloc_new (i := 0) (by simp)
  obtain ⟨role, hr⟩ := Option.isSome_iff_exists.mp hrole
  have hids : ∀ id, id ∈ (m.alloc [x]).2.currentIds ↔ id ∈ m.currentIds := fun _ => Iff.rfl
  have hknown : x.id ∈ m.currentIds → (id ∈ m.currentIds ↔ id = x.id ∨ id ∈ m.currentIds) := by
    intro h
    constructor
    · exact Or.inr
    · rintro (rfl | h')
      · exact h
      · exact h'
  have hrefs : (m.alloc [x]).1 = [m.heap.length] := rfl
  unfold refresh refreshInstances
  rw [hrefs]
  dsimp only [addInstances]
  rw [hobj]
  split
  · rename_i hu
    rw [hids]
    exact hknown (mem_currentIds.mpr (Or.inr (Dict.contains_iff.mp hu)))
  · simp only [addInstanceToAvailablePool, hobj, hr]
    by_cases hp : ((m.alloc [x]).2.rolePool role).contains x.id = true
    · rw [if_pos hp]
      obtain ⟨r, hp⟩ := Dict.contains_iff.mp hp
      exact hknown (mem_currentIds.mpr (Or.inl ⟨r, hs role x.id r (by cases role <;> exact hp)⟩))
    · rw [if_neg hp]
      dsimp only
      rw [mem_currentIds, mem_currentIds]
      have hav : (m.alloc [x]).2.availablePool = m.availablePool := rfl
      have hun : (m.alloc [x]).2.unavailablePool = m.unavailablePool := rfl
      simp only [availablePool_modifyObj, unavailablePool_modifyObj, availablePool_putAvailable,
        unavailablePool_putAvailable, hobj, Dict.get?_set, hav, hun]
      by_cases he : id = x.id <;> simp [he]

theorem mem_currentIds_refresh_del (hi : Inv m) :
    id ∈ (m.refresh .del [x]).2.currentIds ↔ id ∈ m.currentIds ∧ id ≠ x.id := by
  obtain ⟨hav, hun⟩ := (deleteInstances_spec (hi.alloc [x]) (m.alloc [x]).1 false).2 id
  rw [alloc_ids] at hav hun
  rw [mem_currentIds, mem_currentIds]
  unfold refresh refreshInstances
  dsimp only
  rw [hav, hun]
  have hava : (m.alloc [x]).2.availablePool = m.availablePool := rfl
  have huna : (m.alloc [x]).2.unavailablePool = m.unavailablePool := rfl
  by_cases he : id = x.id <;> simp [he, hava, huna]

theorem mem_currentIds_updateInstanceWorkload (hi : Inv m) (iid eid : Int) (change : Workload) :
    id ∈ (m.updateInstanceWorkload iid eid change).currentIds ↔ id ∈ m.currentIds := by
  rcases hi.updateInstanceWorkload_cases iid eid change with ⟨_, he⟩ | ⟨r, a, ep, _, _, _, _, _, _, he⟩
  · rw [he]
  · rw [he]
    rfl

theorem mem_currentIds_updateInstanceState (hi : Inv m) (hs : NoStale m)
    (hrole : ∀ id r, m.unavailablePool.get? id = some r → (PDRole.ofString? (m.obj r).role).isSome) (iid : Int)
    (mode : UpdateInstanceMode) : id ∈ (m.updateInstanceState iid mode).currentIds ↔ id ∈ m.currentIds := by
  cases mode with
  | available =>
      simp only [updateInstanceState]
      cases hu : m.unavailablePool.get? iid with
      | none => rfl
      | some r =>
          obtain ⟨role, hr⟩ := Option.isSome_iff_exists.mp (hrole iid r hu)
          obtain ⟨-, hid, hav⟩ := hi.unavailable hu
          have hobj : obj { m with unavailablePool := m.unavailablePool.erase iid } r = m.obj r := rfl
          have hnew : (m.rolePool role).contains iid = false := by
            rw [Dict.contains_eq_false_iff, Option.eq_none_iff_forall_ne_some]
            intro r' hp
            rw [hs role iid r' hp] at hav
            cases hav
          have hnew' : (rolePool { m with unavailablePool := m.unavailablePool.erase iid } role).contains iid = false := by
            cases role <;> exact hnew
          simp only [addInstanceToAvailablePool, hobj, hr, hid, hnew', Bool.false_eq_true, ↓reduceIte]
          rw [mem_currentIds, mem_currentIds]
          simp only [availablePool_putAvailable, unavailablePool_putAvailable, hobj, hid, Dict.get?_set, Dict.get?_erase]
          by_cases he : id = iid <;> simp [he, hu]
  | unavailable =>
      simp only [updateInstanceState]
      rcases deleteInstanceFromAvailablePool_spec hi iid with ⟨ha, he⟩ | ⟨r, role, ha, he⟩
      · rw [ha]
      · rw [ha, he]
        dsimp only
        rw [mem_currentIds, mem_currentIds]
        simp only [availablePool_dropAvailable, unavailablePool_dropAvailable, Dict.get?_set, Dict.get?_erase]
        by_cases he : id = iid <;> simp [he, ha]

end InstanceManager

/-! ## The controller as the leader -/

/-- The change that an event of the queue announces; a SET event asks for a snapshot. -/
def PusherEvent.delta : PusherEvent → Option (Delta Int)
  | .add x => some (.insert x.id)
  | .del x => some (.remove x.id)
  | .set => none

theorem PusherEvent.eq_set_of_delta {event : PusherEvent} (h : event.delta = none) : event = .set := by
  cases event with
  | set => rfl
  | add x => cases h
  | del x => cases h

namespace Controller

variable {c c' : Controller} {r : Ref} {id : Int} {ids : Set Int}

def activeIds (c : Controller) : Set Int := {id | ∃ r, c.instances.get? id = some r ∧ (c.obj r).status = .active}

/-- The controller with the ids that the coordinator has. -/
def replica (c : Controller) (ids : Set Int) : Replica Int :=
  ⟨c.activeIds, c.eventPusher.eventQueue.map PusherEvent.delta, ids⟩

theorem mem_activeIds (hr : c.instances.get? id = some r) : id ∈ c.activeIds ↔ (c.obj r).status = .active := by
  constructor
  · rintro ⟨r', hr', hs⟩
    rw [hr] at hr'
    cases hr'
    exact hs
  · exact fun hs => ⟨r, hr, hs⟩

theorem mem_activeIds_modifyObj (ht : Tracked 0 c) (hr : c.instances.get? id = some r)
    (f : ManagedInstance → ManagedInstance) (id' : Int) :
    id' ∈ (c.modifyObj r f).activeIds ↔ if id' = id then (f (c.obj r)).status = .active else id' ∈ c.activeIds := by
  obtain ⟨-, hlt, hid⟩ := ht.managed hr
  split
  · rename_i he
    rw [he, mem_activeIds (c := c.modifyObj r f) hr, obj_modifyObj_self hlt]
  · rename_i he
    apply exists_congr
    intro r'
    apply and_congr_right
    intro hr'
    rw [obj_modifyObj_ne]
    rintro rfl
    exact he ((ht.managed hr').2.2.symm.trans hid)

theorem activeIds_modifyObj (ht : Tracked 0 c) (hr : c.instances.get? id = some r) {f : ManagedInstance → ManagedInstance}
    (hf : (f (c.obj r)).status = .active ↔ (c.obj r).status = .active) : (c.modifyObj r f).activeIds = c.activeIds := by
  ext id'
  rw [mem_activeIds_modifyObj ht hr]
  split
  · rename_i he
    rw [he, mem_activeIds hr]
    exact hf
  · rfl

theorem replica_modifyObj (ht : Tracked 0 c) (hr : c.instances.get? id = some r) {f : ManagedInstance → ManagedInstance}
    (hf : (f (c.obj r)).status = .active ↔ (c.obj r).status = .active) : (c.modifyObj r f).replica ids = c.replica ids := by
  unfold replica
  rw [activeIds_modifyObj ht hr hf]
  rfl

theorem replica_ready (ht : Tracked 0 c) (hr : c.instances.get? id = some r) (hs : (c.obj r).status ≠ .active) :
    Replica.Writes (c.replica ids)
      (((c.modifyObj r (·.updateInstanceStatus .active)).notify r .instanceReady).replica ids) := by
  have hnew : ∀ id' ∈ c.activeIds, Delta.insert id ≠ .insert id' := by
    rintro id' hid' he
    cases he
    exact hs ((mem_activeIds hr).mp hid')
  convert Relation.ReflGen.single (Replica.Write.announce (c.replica ids) hnew) using 1
  have hids : (c.modifyObj r (·.updateInstanceStatus .active)).activeIds = Delta.apply c.activeIds (.insert id) := by
    ext id'
    rw [mem_activeIds_modifyObj ht hr]
    by_cases he : id' = id <;> simp [Delta.apply, he, ManagedInstance.updateInstanceStatus]
  have hid : ((c.modifyObj r (·.updateInstanceStatus .active)).obj r).id = id := by
    rw [(keeps_updateInstanceStatus .active).id_obj]
    exact (ht.managed hr).2.2
  simp only [replica, notify, EventPusher.update, List.map_append, List.map_cons, List.map_nil, PusherEvent.delta, hid]
  exact congrArg (fun s => Replica.mk s _ ids) hids

theorem replica_seperated (ht : Tracked 0 c) (hr : c.instances.get? id = some r) :
    Replica.Writes (c.replica ids)
      (((c.modifyObj r (·.updateInstanceStatus .inactive)).notify r .instanceSeperated).replica ids) := by
  have hids : (c.modifyObj r (·.updateInstanceStatus .inactive)).activeIds = Delta.apply c.activeIds (.remove id) := by
    ext id'
    rw [mem_activeIds_modifyObj ht hr]
    by_cases he : id' = id <;> simp [Delta.apply, he, ManagedInstance.updateInstanceStatus]
  have hf := keeps_updateInstanceStatus .inactive
  have hid : ((c.modifyObj r (·.updateInstanceStatus .inactive)).obj r).id = id :=
    (hf.id_obj r r).trans (ht.managed hr).2.2
  simp only [notify, EventPusher.update]
  split
  · have hnew : ∀ id' ∈ (c.replica ids).leader, Delta.remove id ≠ .insert id' := by
      rintro id' - ⟨⟩
    convert Relation.ReflGen.single (Replica.Write.announce (c.replica ids) hnew) using 1
    simp only [replica, List.map_append, List.map_cons, List.map_nil, PusherEvent.delta, hid]
    exact congrArg (fun s => Replica.mk s _ ids) hids
  · rename_i hn
    have hinactive : id ∉ c.activeIds := by
      intro hactive
      have hget := ht.ready hr ((mem_activeIds hr).mp hactive)
      refine hn (Dict.contains_iff.mpr ⟨r, ?_⟩)
      rw [hf.jobName_obj]
      exact hget
    have hsame : (c.modifyObj r (·.updateInstanceStatus .inactive)).activeIds = c.activeIds := by
      rw [hids]
      exact Set.sdiff_singleton_eq_self hinactive
    convert Relation.ReflGen.refl using 1
    exact congrArg (fun s => Replica.mk s _ ids) hsame

theorem replica_delInstance (hactive : id ∉ c.activeIds) : (c.delInstance id).replica ids = c.replica ids := by
  unfold delInstance
  split
  · have hids : activeIds { c with
        instances := c.instances.erase id
        forcedSeparatedInstances := c.forcedSeparatedInstances.filter (· ≠ id) } = c.activeIds := by
      ext id'
      by_cases he : id' = id
      · rw [he]
        simp only [hactive, iff_false]
        rintro ⟨r, hr, -⟩
        simp at hr
      · apply exists_congr
        intro r
        dsimp only
        rw [Dict.get?_erase_ne he]
        rfl
    exact congrArg (fun s => Replica.mk s _ ids) hids
  · rfl

theorem writes_transition (ht : Tracked 0 c) (hr : c.instances.get? id = some r) {timestamp : ℚ}
    {event : InsConditionEvent} (h : Transition c timestamp r event c') :
    Replica.Writes (c.replica ids) (c'.replica ids) := by
  cases h with
  | idle _ => exact .refl
  | ready hs _ _ => exact replica_ready ht hr hs
  | seperated _ _ => exact replica_seperated ht hr
  | refreshed _ _ =>
      rw [replica_modifyObj ht hr Iff.rfl]
  | initial hs _ =>
      rw [replica_modifyObj ht hr]
      simp [ManagedInstance.updateInstanceStatus, hs]
  | deleted hne _ =>
      have hmod : (c.modifyObj r (·.updateInstanceStatus .deleted)).replica ids = c.replica ids :=
        replica_modifyObj ht hr (by simp [ManagedInstance.updateInstanceStatus, hne])
      have hinactive : id ∉ (c.modifyObj r (·.updateInstanceStatus .deleted)).activeIds := by
        rw [mem_activeIds_modifyObj ht hr]
        simp [ManagedInstance.updateInstanceStatus]
      rw [(ht.managed hr).2.2, replica_delInstance (c := (c.modifyObj r _).notify r _) hinactive]
      exact hmod ▸ .refl

/-! ## The calls of the manager -/

theorem writes_handleHeartbeat (ht : Tracked 0 c) (timestamp : ℚ) (insId : Int) (ip : String)
    (status : Dict Int EndpointStatus) :
    Replica.Writes (c.replica ids) ((c.handleHeartbeat timestamp insId ip status).2.replica ids) := by
  have htouch : ∀ {r}, c.instances.get? insId = some r →
      (c.modifyObj r fun x => (x.updateHeartbeat ip timestamp status).2).replica ids = c.replica ids :=
    fun hr => replica_modifyObj ht hr (by rw [ManagedInstance.status_updateHeartbeat])
  apply handleHeartbeat_rule (P := fun c' => Replica.Writes (c.replica ids) (c'.replica ids))
  · exact fun _ => .refl
  · intro r hr _
    rw [htouch hr]
  · intro r c' hr _ hmove
    have ht' : Tracked 0 (c.modifyObj r fun x => (x.updateHeartbeat ip timestamp status).2) :=
      ht.modifyObj (keeps_updateHeartbeat ip timestamp status) (by rw [ManagedInstance.status_updateHeartbeat])
    rw [← htouch hr]
    exact writes_transition ht' hr hmove

theorem writes_handleTimeout (ht : Tracked 0 c) (timestamp : ℚ) (queryStatus : NodeManagerInfo → QueryStatus)
    (insId : Int) : Replica.Writes (c.replica ids) ((c.handleTimeout timestamp queryStatus insId).replica ids) :=
  handleTimeout_rule .refl fun _ _ hr _ hmove => writes_transition ht hr hmove

theorem writes_separateInstance (ht : Tracked 0 c) (insId : Int) :
    Replica.Writes (c.replica ids) ((c.separateInstance insId).replica ids) := by
  apply separateInstance_rule (P := fun c' => Replica.Writes (c.replica ids) (c'.replica ids))
  · exact fun _ => .refl
  · exact fun r hr _ => replica_seperated (ht.forced _) hr
  · exact fun r _ _ => .refl

theorem replica_recoverInstance (insId : Int) : (c.recoverInstance insId).replica ids = c.replica ids := by
  unfold recoverInstance
  split <;> rfl

theorem replica_addInstance (ht : Tracked 0 c) (timestamp : ℚ) (ins : ManagedInstance) :
    ((c.create (ins.updateInstanceStatus .initial)).addInstance timestamp c.heap.length).replica ids = c.replica ids := by
  have hids : ((c.create (ins.updateInstanceStatus .initial)).addInstance timestamp c.heap.length).activeIds =
      c.activeIds := by
    ext id
    constructor
    · rintro ⟨r, hr, hs⟩
      rw [status_addInstance] at hs
      rcases get?_addInstance hr with hr | ⟨-, rfl⟩
      · rw [obj_create_old (ht.managed hr).2.1] at hs
        exact ⟨r, hr, hs⟩
      · rw [obj_create_new] at hs
        cases hs
    · rintro ⟨r, hr, hs⟩
      refine ⟨r, get?_addInstance_old hr, ?_⟩
      rw [status_addInstance, obj_create_old (ht.managed hr).2.1]
      exact hs
  have hqueue : ((c.create (ins.updateInstanceStatus .initial)).addInstance timestamp c.heap.length).eventPusher.eventQueue =
      c.eventPusher.eventQueue := by
    unfold addInstance
    split <;> rfl
  simp only [replica, hids, hqueue]

/-! ## Restoring -/

/-- Every active instance is in the state, and is active there. -/
def Remembers (c : Controller) (xs : List ManagedInstance) : Prop :=
  ∀ y ∈ c.getActiveInstances, ∃ x ∈ xs, x.id = y.id ∧ x.status = .active

instance (c : Controller) (xs : List ManagedInstance) : Decidable (c.Remembers xs) :=
  inferInstanceAs (Decidable (∀ y ∈ c.getActiveInstances, ∃ x ∈ xs, _))

theorem mem_activeIds_iff (ht : Tracked 0 c) : id ∈ c.activeIds ↔ id ∈ c.getActiveInstances.map (·.id) := by
  rw [List.mem_map]
  simp only [ControllerSystem.mem_getActiveInstances]
  constructor
  · rintro ⟨r, hr, hs⟩
    exact ⟨c.obj r, ⟨id, r, hr, rfl, hs⟩, (ht.managed hr).2.2⟩
  · rintro ⟨x, ⟨id', r, hr, rfl, hs⟩, rfl⟩
    rw [(ht.managed hr).2.2]
    exact ⟨r, hr, hs⟩

theorem queue_foldl_restoreInstance (timestamp : ℚ) (xs : List ManagedInstance) (c : Controller) :
    (xs.foldl (restoreInstance timestamp) c).eventPusher.eventQueue.map PusherEvent.delta =
      c.eventPusher.eventQueue.map PusherEvent.delta ++
        (((xs.filter fun x => x.status = .active).map (·.id)).map Delta.insert).map some := by
  induction xs generalizing c with
  | nil => simp
  | cons x xs ih =>
      rw [List.foldl_cons, ih]
      by_cases hx : x.status = .active
      · rw [eventPusher_restoreInstance_active c hx]
        simp [hx, PusherEvent.delta, (keeps_maybeRefreshHeartbeat timestamp).id]
      · rw [eventPusher_restoreInstance_other c hx]
        simp [hx]

theorem activeIds_restoreInstances (timestamp : ℚ) {xs : List ManagedInstance} (hids : (xs.map (·.id)).Nodup) :
    (c.restoreInstances timestamp xs).activeIds = {id | id ∈ (xs.filter fun x => x.status = .active).map (·.id)} := by
  ext id
  simp only [Set.mem_ofPred_eq, List.mem_map, List.mem_filter, decide_eq_true_eq]
  constructor
  · rintro ⟨r, hr, hs⟩
    rcases get?_foldl_restoreInstance hr with hr | ⟨x, hx, hid, -, -, hobj⟩
    · cases hr
    · replace hs : ((xs.foldl (restoreInstance timestamp) { c with instances := Dict.empty }).obj r).status = .active := hs
      rw [hobj, status_maybeRefreshHeartbeat] at hs
      exact ⟨x, ⟨hx, hs⟩, hid⟩
  · rintro ⟨x, ⟨hx, hs⟩, rfl⟩
    have hrestored : ∃ r, (xs.foldl (restoreInstance timestamp) { c with instances := Dict.empty }).instances.get? x.id =
        some r ∧ (xs.foldl (restoreInstance timestamp) { c with instances := Dict.empty }).obj r =
          maybeRefreshHeartbeat timestamp x := get?_foldl_restoreInstance_mem hids hx
    obtain ⟨r, hr, hobj⟩ := hrestored
    refine ⟨r, hr, ?_⟩
    have hstatus := congrArg ManagedInstance.status hobj
    rw [status_maybeRefreshHeartbeat, hs] at hstatus
    exact hstatus

theorem steps_restoreInstances (ht : Tracked 0 c) (timestamp : ℚ) {xs : List ManagedInstance}
    (hids : (xs.map (·.id)).Nodup) (hr : c.Remembers xs) :
    Replica.Steps (c.replica ids) ((c.restoreInstances timestamp xs).replica ids) := by
  have hannounce := Replica.steps_announce (c.replica ids)
    (((xs.filter fun x => x.status = .active).map (·.id)).map Delta.insert)
  have hsub : c.activeIds ⊆ {id | id ∈ (xs.filter fun x => x.status = .active).map (·.id)} := by
    intro id hid
    obtain ⟨y, hy, rfl⟩ := List.mem_map.mp ((mem_activeIds_iff ht).mp hid)
    obtain ⟨x, hx, hxy, hs⟩ := hr y hy
    exact List.mem_map.mpr ⟨x, List.mem_filter.mpr ⟨hx, by simpa using hs⟩, hxy⟩
  refine hannounce.tail ?_
  convert Replica.Step.request _ using 1
  simp only [replica, activeIds_restoreInstances timestamp hids, Delta.applyAll_map_insert,
    Set.union_eq_self_of_subset_left hsub]
  simp [restoreInstances, EventPusher.pushSet, queue_foldl_restoreInstance, PusherEvent.delta]

end Controller

namespace ControllerSystem

open InstanceManager

variable {s : ControllerSystem} {roleOf : Int → PDRole} {event : Event}

/-! ## The system as a replica -/

def replica (s : ControllerSystem) : Replica Int := s.controller.replica {id | id ∈ s.coordinator.currentIds}

/-- A restored state has every instance that is active. -/
def Remembers (s : ControllerSystem) : Event → Prop
  | .restore _ state => s.controller.Remembers state.data.values
  | _ => True

instance (s : ControllerSystem) (event : Event) : Decidable (s.Remembers event) :=
  match event with
  | .restore _ state => inferInstanceAs (Decidable (s.controller.Remembers state.data.values))
  | .addInstance _ _ | .heartbeat _ _ _ _ | .timeout _ _ _ | .separate _ | .recover _ | .detect _ | .consume _
  | .coordinate _ => inferInstanceAs (Decidable True)

/-- No message is lost, and nobody else tells the coordinator of instances. It may still move them from pool to pool
and count their workload. -/
def Undisturbed : Event → Prop
  | .consume delivered => delivered = true
  | .coordinate (.updateState _ _) => True
  | .coordinate (.updateWorkload _ _ _) => True
  | .coordinate _ => False
  | _ => True

theorem writes_detect (c : Controller) (ids : Set Int) (response : Option (Option Bool)) :
    Replica.Writes (c.replica ids)
      (Controller.replica { c with eventPusher := c.eventPusher.coordinatorHeartbeatDetector response } ids) := by
  have hcases : (c.eventPusher.coordinatorHeartbeatDetector response).eventQueue = c.eventPusher.eventQueue ∨
      (c.eventPusher.coordinatorHeartbeatDetector response).eventQueue = c.eventPusher.eventQueue ++ [.set] := by
    unfold EventPusher.coordinatorHeartbeatDetector EventPusher.pushSet
    cases response with
    | none =>
        dsimp only
        split
        · split <;> exact Or.inl rfl
        · exact Or.inl rfl
    | some ready =>
        dsimp only
        split <;> split <;> first | exact Or.inr rfl | exact Or.inl rfl
  rcases hcases with hq | hq
  · convert Relation.ReflGen.refl using 1
    exact congrArg (fun q => Replica.mk c.activeIds (q.map PusherEvent.delta) ids) hq
  · convert Relation.ReflGen.single (Replica.Write.request (c.replica ids)) using 1
    have hmap : (c.eventPusher.coordinatorHeartbeatDetector response).eventQueue.map PusherEvent.delta =
        c.eventPusher.eventQueue.map PusherEvent.delta ++ [none] := by
      rw [hq, List.map_append]
      rfl
    exact congrArg (fun q => Replica.mk c.activeIds q ids) hmap

theorem replica_consume {event : PusherEvent} {rest : List PusherEvent} (delivered : Bool)
    (hq : s.controller.eventPusher.eventQueue = event :: rest) :
    s.replica.queue = event.delta :: rest.map PusherEvent.delta ∧
    (s.step (.consume delivered)).replica =
      { s.replica with
        queue := rest.map PusherEvent.delta
        follower := {id | id ∈ (s.step (.consume delivered)).coordinator.currentIds} } := by
  constructor
  · simp [replica, Controller.replica, hq]
  · simp only [ControllerSystem.step, EventPusher.eventConsumer, hq]
    rfl

theorem step_consume_nil (delivered : Bool) (hq : s.controller.eventPusher.eventQueue = []) :
    s.step (.consume delivered) = s := by
  cases delivered <;> simp [ControllerSystem.step, nextMsg, EventPusher.eventConsumer, hq, deliver]

theorem SystemInv.replica_snapshot (h : SystemInv roleOf s) {rest : List PusherEvent}
    (hq : s.controller.eventPusher.eventQueue = .set :: rest) (hp : HasPrefill s.controller) :
    (s.step (.consume true)).replica =
      { s.replica with queue := rest.map PusherEvent.delta, follower := s.replica.leader } := by
  rw [(replica_consume true hq).2]
  have hids : {id | id ∈ (s.step (.consume true)).coordinator.currentIds} = s.replica.leader := by
    ext id
    exact (((h.resynchronises (by simp [SetNext, hq])).1 hp).2 id).trans (Controller.mem_activeIds_iff h.tracked).symm
  rw [hids]

theorem SystemInv.follower_consume (h : SystemInv roleOf s) {event : PusherEvent} {rest : List PusherEvent} {d : Delta Int}
    (hq : s.controller.eventPusher.eventQueue = event :: rest) (hd : event.delta = some d) :
    {id | id ∈ (s.step (.consume true)).coordinator.currentIds} = Delta.apply s.replica.follower d := by
  have hmsg : s.nextMsg = s.controller.eventPusher.eventMsg (fun r => (s.controller.obj r).toInstance) event := by
    simp [nextMsg, EventPusher.eventConsumer, hq]
  have hcoordinator : (s.step (.consume true)).coordinator = deliver s.coordinator s.nextMsg := rfl
  rw [hcoordinator, hmsg]
  cases event with
  | add x =>
      cases hd
      have hrole : (PDRole.ofString? x.role).isSome := by
        have howns : OwnsRole roleOf x := h.owned.queue x (by simp [hq])
        rw [howns]
        rfl
      ext id
      exact mem_currentIds_refresh_add h.noStale hrole
  | del x =>
      cases hd
      ext id
      exact mem_currentIds_refresh_del h.inv
  | set => cases hd

theorem SystemInv.follower_skip (h : SystemInv roleOf s) {rest : List PusherEvent}
    (hq : s.controller.eventPusher.eventQueue = .set :: rest) (hp : ¬ HasPrefill s.controller) :
    {id | id ∈ (s.step (.consume true)).coordinator.currentIds} = s.replica.follower := by
  have hcoordinator : (s.step (.consume true)).coordinator = deliver s.coordinator s.nextMsg := rfl
  rw [hcoordinator, (h.resynchronises (by simp [SetNext, hq])).2 hp]
  rfl

theorem SystemInv.steps_consume (h : SystemInv roleOf s) :
    Replica.Steps s.replica (s.step (.consume true)).replica := by
  cases hq : s.controller.eventPusher.eventQueue with
  | nil => rw [step_consume_nil true hq]
  | cons event rest =>
      obtain ⟨hqueue, hnext⟩ := replica_consume true hq
      cases hd : event.delta with
      | some d =>
          rw [hd] at hqueue
          rw [hnext, h.follower_consume hq hd]
          exact .single (.deliver hqueue)
      | none =>
          obtain rfl := PusherEvent.eq_set_of_delta hd
          by_cases hp : HasPrefill s.controller
          · rw [h.replica_snapshot hq hp]
            exact .single (.snapshot hqueue)
          · rw [hnext, h.follower_skip hq hp]
            exact .single (.skip hqueue)

theorem SystemInv.replica_coordinate (h : SystemInv roleOf s) {op : Op} (hu : Undisturbed (.coordinate op)) :
    (s.step (.coordinate op)).replica = s.replica := by
  have hids : ∀ id, id ∈ (s.coordinator.step op).currentIds ↔ id ∈ s.coordinator.currentIds := by
    intro id
    cases op with
    | refresh event instances => cases hu
    | updateState iid mode =>
        refine mem_currentIds_updateInstanceState h.inv h.noStale (fun iid r hr => ?_) iid mode
        have howns : OwnsRole roleOf (s.coordinator.obj r) := h.pooled.unavailable iid r hr
        rw [howns]
        rfl
    | deleteUnavailable iid => cases hu
    | updateWorkload iid eid change => exact mem_currentIds_updateInstanceWorkload h.inv iid eid change
    | stop => cases hu
  exact congrArg s.controller.replica (Set.ext hids)

/-- A call of the instance manager, the fault manager or the detector. -/
def Writing : Event → Prop
  | .restore _ _ => False
  | .consume _ => False
  | .coordinate _ => False
  | _ => True

theorem SystemInv.writes (h : SystemInv roleOf s) (hw : Writing event) :
    Replica.Writes s.replica (s.step event).replica := by
  have ht := h.tracked
  cases event with
  | addInstance timestamp ins =>
      have hsame : (s.step (.addInstance timestamp ins)).replica = s.replica :=
        Controller.replica_addInstance ht timestamp ins
      rw [hsame]
  | heartbeat timestamp insId ip status => exact Controller.writes_handleHeartbeat ht timestamp insId ip status
  | timeout timestamp queryStatus insId => exact Controller.writes_handleTimeout ht timestamp queryStatus insId
  | separate instanceId => exact Controller.writes_separateInstance ht instanceId
  | recover instanceId =>
      have hsame : (s.step (.recover instanceId)).replica = s.replica := Controller.replica_recoverInstance instanceId
      rw [hsame]
  | detect response => exact writes_detect s.controller _ response
  | restore => cases hw
  | consume => cases hw
  | coordinate => cases hw

/-- Every step of the system is some steps of the replica, as long as nothing is lost or disturbed. -/
theorem SystemInv.steps (h : SystemInv roleOf s) (hr : s.Remembers event) (hu : Undisturbed event) :
    Replica.Steps s.replica (s.step event).replica := by
  cases event with
  | restore timestamp state =>
      exact Controller.steps_restoreInstances h.tracked timestamp (Controller.nodup_ids state.ids) hr
  | consume delivered =>
      obtain rfl : delivered = true := hu
      exact h.steps_consume
  | coordinate op =>
      rw [h.replica_coordinate hu]
  | addInstance | heartbeat | timeout | separate | recover | detect => exact (h.writes (by trivial)).steps

/-- A lost message and a call of somebody else are the faults of the replica. -/
theorem SystemInv.reaches (h : SystemInv roleOf s) (hr : s.Remembers event) :
    Replica.Reaches s.replica (s.step event).replica := by
  have hsteps : Undisturbed event → Replica.Reaches s.replica (s.step event).replica :=
    fun hu => (h.steps hr hu).reaches
  cases event with
  | consume delivered =>
      cases delivered with
      | true => exact hsteps rfl
      | false =>
          cases hq : s.controller.eventPusher.eventQueue with
          | nil => rw [step_consume_nil false hq]
          | cons event rest =>
              obtain ⟨hqueue, hnext⟩ := replica_consume false hq
              rw [hnext]
              exact .single (Or.inr (.lose hqueue))
  | coordinate op => exact .single (Or.inr (.disturb s.replica _))
  | addInstance | heartbeat | timeout | separate | recover | restore | detect => exact hsteps trivial

/-! ## Draining the queue -/

/-- The system once everything that is queued has been delivered. -/
def drained (s : ControllerSystem) : ControllerSystem :=
  run ControllerSystem.step s (List.replicate s.controller.eventPusher.eventQueue.length (.consume true))

/-- What is queued leads the coordinator to the active instances. -/
def Led (s : ControllerSystem) : Prop :=
  ∀ id, id ∈ s.drained.coordinator.currentIds ↔ id ∈ s.controller.getActiveInstances.map (·.id)

theorem length_queue_consume (delivered : Bool) : (s.step (.consume delivered)).controller.eventPusher.eventQueue =
    s.controller.eventPusher.eventQueue.tail := by
  simp only [ControllerSystem.step, EventPusher.eventConsumer]
  cases hq : s.controller.eventPusher.eventQueue with
  | nil => exact hq
  | cons event rest => rfl

theorem SystemInv.led (h : SystemInv roleOf s) (hf : s.replica.Following) : s.Led := by
  unfold Led drained
  generalize hn : s.controller.eventPusher.eventQueue.length = n
  induction n generalizing s with
  | zero =>
      intro id
      have hquiet := hf.quiet (by simp [replica, Controller.replica, List.eq_nil_of_length_eq_zero hn])
      have hmem : id ∈ s.coordinator.currentIds ↔ id ∈ s.controller.activeIds := Set.ext_iff.mp hquiet id
      exact hmem.trans (Controller.mem_activeIds_iff h.tracked)
  | succ n ih =>
      have hlen : (s.step (.consume true)).controller.eventPusher.eventQueue.length = n := by
        rw [length_queue_consume, List.length_tail, hn]
        rfl
      exact ih (h.consume true) (hf.steps h.steps_consume) hlen

/-- A coordinator that follows is led by what is queued, as long as no message is lost and nobody else tells it. -/
theorem SystemInv.led_run (h : SystemInv roleOf s) (hf : s.replica.Following) {events : List Event}
    (hev : Along ControllerSystem.step (fun s event => Undisturbed event ∧ s.Sound roleOf event ∧ s.Remembers event) s
      events) : (run ControllerSystem.step s events).Led := by
  obtain ⟨hinv, hfollowing⟩ := run_invariant (I := fun s => SystemInv roleOf s ∧ s.replica.Following)
    (fun s event hi hs => ⟨hi.1.step hs.2.1, hi.2.steps (hi.1.steps hs.2.2 hs.1)⟩) ⟨h, hf⟩ hev
  exact hinv.led hfollowing

/-- The invariant of a run from the start, whatever is lost. -/
theorem invariant_run {events : List Event}
    (h : Along ControllerSystem.step (fun s event => s.Sound roleOf event ∧ s.Remembers event) {} events) :
    SystemInv roleOf (run ControllerSystem.step {} events) ∧ (run ControllerSystem.step {} events).replica.Aligned := by
  have hstart : SystemInv roleOf {} ∧ (replica {}).Aligned := by
    refine ⟨systemInv_init, ?_⟩
    rfl
  exact run_invariant (I := fun s => SystemInv roleOf s ∧ s.replica.Aligned)
    (fun s event hi hs => ⟨hi.1.step hs.1, hi.2.reaches (hi.1.reaches hs.2)⟩) hstart h

/-- In a run that keeps roles and job names and forgets no active instance, let a SET event be delivered while there is
an active prefill instance. From then on, as long as no message is lost and nobody else tells the coordinator of
instances, the queued messages lead the coordinator to exactly the active instances. -/
theorem led_after_set (roleOf : Int → PDRole) (before after : List Event)
    (h : Along ControllerSystem.step (fun s event => s.Sound roleOf event ∧ s.Remembers event) {}
      (before ++ .consume true :: after))
    (hset : (run ControllerSystem.step {} before).SetNext) (hp : HasPrefill (run ControllerSystem.step {} before).controller)
    (hu : ∀ event ∈ after, Undisturbed event) :
    (run ControllerSystem.step {} (before ++ .consume true :: after)).Led := by
  obtain ⟨hbefore, hconsume, hafter⟩ := along_append.mp h
  rw [run_append, run_cons]
  obtain ⟨hinv, haligned⟩ := invariant_run hbefore
  generalize run ControllerSystem.step {} before = s at *
  -- The snapshot sets the coordinator right, whatever has been lost so far.
  have hfollowing : (s.step (.consume true)).replica.Following := by
    obtain ⟨rest, hq⟩ := List.head?_eq_some_iff.mp hset
    rw [hinv.replica_snapshot hq hp]
    exact haligned.snapshot (replica_consume true hq).1
  exact (hinv.consume true).led_run hfollowing (hafter.and_forall hu)

/-- The DEL message of the decode instance is lost, then it is let back and becomes active again after the SET. -/
theorem led_after_set_lost_del :
    (run ControllerSystem.step {} ((bothActive ++ [.separate 2, .consume false, notReady]) ++
      .consume true :: [.recover 2, normal 10 2, .coordinate (.updateState 1 .unavailable)])).Led :=
  led_after_set (fun id => if id = 1 then .roleP else .roleD) (bothActive ++ [.separate 2, .consume false, notReady])
    [.recover 2, normal 10 2, .coordinate (.updateState 1 .unavailable)] (by decide +kernel) (by decide)
    ⟨_, mem_getActiveInstances.mpr ⟨1, 0, by decide, rfl, by decide⟩, by decide⟩ (by simp [Undisturbed, normal])

end ControllerSystem

end PyMotor
