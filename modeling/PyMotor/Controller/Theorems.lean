import PyMotor.Controller.Lemmas.Tracked
import PyMotor.Pool.Lemmas.PooledAll
import PyMotor.Pool.Lemmas.Consistent

/-!
# SET events

A SET event brings the coordinator in step with the controller as long as there is an active prefill instance; without
one it is dropped.
-/

/-!
## The controller and the coordinator along a run

The pusher follows the manager through every step and every id keeps its role, so a SET message lists the active
instances, and the coordinator takes the list over.
-/

namespace PyMotor

open Lib InstanceManager ControllerSystem

namespace Controller

variable {c c' : Controller} {roleOf : Int → PDRole} {r : Ref}

/-! ## Roles -/

/-- Every object and every queued ADD has the role of its id. -/
structure Owned (roleOf : Int → PDRole) (c : Controller) : Prop where
  heap : ∀ x ∈ c.heap, OwnsRole roleOf x.toInstance
  queue : ∀ x, .add x ∈ c.eventPusher.eventQueue → OwnsRole roleOf x

theorem owned_init : Owned roleOf {} := ⟨fun _ hx => (nomatch hx), fun _ hx => (nomatch hx)⟩

theorem Owned.obj (h : Owned roleOf c) (hr : r < c.heap.length) : OwnsRole roleOf (c.obj r).toInstance := by
  apply h.heap
  simp [Controller.obj, Heap.read, hr]

theorem Owned.of_same (h : Owned roleOf c) (hheap : c'.heap = c.heap)
    (hqueue : ∀ x, .add x ∈ c'.eventPusher.eventQueue → .add x ∈ c.eventPusher.eventQueue) : Owned roleOf c' := by
  refine ⟨?_, fun x hx => h.queue x (hqueue x hx)⟩
  rw [hheap]
  exact h.heap

theorem Owned.modifyObj (h : Owned roleOf c) {f : ManagedInstance → ManagedInstance} (hf : Keeps f) (r : Ref) :
    Owned roleOf (c.modifyObj r f) := by
  refine ⟨fun x hx => ?_, h.queue⟩
  obtain ⟨i, hi, rfl⟩ := List.getElem_of_mem hx
  have hi' : i < c.heap.length := (length_modifyObj (c := c) (r := r) f) ▸ hi
  have hx' := h.heap _ (List.getElem_mem hi')
  simp only [Controller.modifyObj, List.getElem_modify]
  split
  · unfold OwnsRole at hx' ⊢
    rw [hf.role, hf.id]
    exact hx'
  · exact hx'

theorem Owned.create (h : Owned roleOf c) {x : ManagedInstance} (hx : OwnsRole roleOf x.toInstance) :
    Owned roleOf (c.create x) := by
  refine ⟨fun y hy => ?_, h.queue⟩
  rcases List.mem_append.mp hy with hy | hy
  · exact h.heap y hy
  · rw [List.mem_singleton.mp hy]
    exact hx

theorem Owned.notify (h : Owned roleOf c) (hr : r < c.heap.length) (event : ObserverEvent) :
    Owned roleOf (c.notify r event) := by
  refine ⟨h.heap, fun x hx => ?_⟩
  cases event with
  | instanceReady =>
      rcases List.mem_append.mp hx with hx | hx
      · exact h.queue x hx
      · cases List.mem_singleton.mp hx
        exact h.obj hr
  | instanceSeperated =>
      simp only [Controller.notify, EventPusher.update] at hx
      split at hx
      · rcases List.mem_append.mp hx with hx | hx
        · exact h.queue x hx
        · cases List.mem_singleton.mp hx
      · exact h.queue x hx
  | instanceInitial => exact h.queue x hx
  | instanceRemoved => exact h.queue x hx

theorem Owned.delInstance (h : Owned roleOf c) (insId : Int) : Owned roleOf (c.delInstance insId) := by
  unfold Controller.delInstance
  split
  · exact h.of_same rfl fun _ hx => hx
  · exact h

theorem Owned.addInstance (h : Owned roleOf c) (timestamp : ℚ) (hr : r < c.heap.length) :
    Owned roleOf (c.addInstance timestamp r) := by
  unfold Controller.addInstance
  split
  · exact h
  · dsimp only
    have hentered : Owned roleOf { c with instances := c.instances.set (c.obj r).id r } :=
      h.of_same rfl fun _ hx => hx
    refine (hentered.modifyObj (keeps_initialHeartbeats timestamp) r).notify ?_ _
    rw [length_modifyObj]
    exact hr

theorem Owned.transition (h : Owned roleOf c) {timestamp : ℚ} {event : InsConditionEvent} (hr : r < c.heap.length)
    (ht : Transition c timestamp r event c') : Owned roleOf c' := by
  have hstatus : ∀ status event,
      Owned roleOf ((c.modifyObj r (·.updateInstanceStatus status)).notify r event) := by
    intro status event
    refine (h.modifyObj (keeps_updateInstanceStatus status) r).notify ?_ event
    rw [length_modifyObj]
    exact hr
  cases ht with
  | idle _ => exact h
  | ready _ _ _ => exact hstatus _ _
  | seperated _ _ => exact hstatus _ _
  | refreshed _ _ => exact h.modifyObj (keeps_refreshHeartbeats timestamp) r
  | initial _ _ => exact h.modifyObj (keeps_updateInstanceStatus .initial) r
  | deleted _ _ => exact (hstatus _ _).delInstance _

theorem Owned.handleHeartbeat (h : Owned roleOf c) (ht : Tracked 0 c) (timestamp : ℚ) (insId : Int) (ip : String)
    (status : Dict Int EndpointStatus) : Owned roleOf (c.handleHeartbeat timestamp insId ip status).2 := by
  have htouch : ∀ r, Owned roleOf (c.modifyObj r fun x => (x.updateHeartbeat ip timestamp status).2) :=
    fun r => h.modifyObj (keeps_updateHeartbeat ip timestamp status) r
  apply handleHeartbeat_rule
  · exact fun _ => h
  · exact fun r _ _ => htouch r
  · intro r c' hr _ hmove
    refine (htouch r).transition ?_ hmove
    rw [length_modifyObj]
    exact (ht.managed hr).2.1

theorem Owned.handleTimeout (h : Owned roleOf c) (ht : Tracked 0 c) (timestamp : ℚ)
    (queryStatus : NodeManagerInfo → QueryStatus) (insId : Int) :
    Owned roleOf (c.handleTimeout timestamp queryStatus insId) :=
  handleTimeout_rule h fun _ _ hr _ hmove => h.transition (ht.managed hr).2.1 hmove

theorem Owned.separateInstance (h : Owned roleOf c) (ht : Tracked 0 c) (insId : Int) :
    Owned roleOf (c.separateInstance insId) := by
  have hforced : ∀ ids, Owned roleOf { c with forcedSeparatedInstances := ids } :=
    fun ids => h.of_same rfl fun _ hx => hx
  apply separateInstance_rule
  · exact fun _ => h
  · intro r hr _
    refine ((hforced _).modifyObj (keeps_updateInstanceStatus .inactive) r).notify ?_ _
    rw [length_modifyObj]
    exact (ht.managed hr).2.1
  · exact fun r _ _ => hforced _

theorem Owned.recoverInstance (h : Owned roleOf c) (insId : Int) : Owned roleOf (c.recoverInstance insId) := by
  unfold Controller.recoverInstance
  split
  · exact h
  · exact h.of_same rfl fun _ hx => hx

theorem Owned.restoreInstance (h : Owned roleOf c) (timestamp : ℚ) {x : ManagedInstance}
    (hx : OwnsRole roleOf x.toInstance) : Owned roleOf (c.restoreInstance timestamp x) := by
  have hkeeps := keeps_maybeRefreshHeartbeat timestamp
  have hcreated : Owned roleOf (c.create (maybeRefreshHeartbeat timestamp x)) := by
    apply h.create
    unfold OwnsRole at hx ⊢
    rw [hkeeps.role, hkeeps.id]
    exact hx
  unfold Controller.restoreInstance
  dsimp only
  split
  · exact (hcreated.notify (by simp) .instanceReady).of_same rfl fun _ hx => hx
  · exact hcreated.of_same rfl fun _ hx => hx

theorem Owned.restoreInstances (h : Owned roleOf c) (timestamp : ℚ) {xs : List ManagedInstance}
    (hxs : ∀ x ∈ xs, OwnsRole roleOf x.toInstance) : Owned roleOf (c.restoreInstances timestamp xs) := by
  have hloop : ∀ c : Controller, Owned roleOf c → Owned roleOf (xs.foldl (Controller.restoreInstance timestamp) c) := by
    induction xs with
    | nil => exact fun c hc => hc
    | cons x xs ih =>
        intro c hc
        rw [List.foldl_cons]
        exact ih (fun y hy => hxs y (List.mem_cons_of_mem _ hy)) _
          (hc.restoreInstance timestamp (hxs x (List.mem_cons_self ..)))
  have hcleared : Owned roleOf { c with instances := Dict.empty } := h.of_same rfl fun _ hx => hx
  refine (hloop _ hcleared).of_same rfl ?_
  intro x hx
  rcases List.mem_append.mp hx with hx | hx
  · exact hx
  · cases List.mem_singleton.mp hx

/-! ## The detector -/

theorem instances_coordinatorHeartbeatDetector (p : EventPusher) (response : Option (Option Bool)) :
    (p.coordinatorHeartbeatDetector response).instances = p.instances := by
  unfold EventPusher.coordinatorHeartbeatDetector EventPusher.pushSet
  split
  · dsimp only
    split <;> split <;> rfl
  · split
    · split <;> rfl
    · rfl

theorem add_mem_coordinatorHeartbeatDetector {p : EventPusher} {response : Option (Option Bool)} {x : Instance}
    (hx : .add x ∈ (p.coordinatorHeartbeatDetector response).eventQueue) : .add x ∈ p.eventQueue := by
  unfold EventPusher.coordinatorHeartbeatDetector EventPusher.pushSet at hx
  split at hx
  · dsimp only at hx
    split at hx <;> split at hx <;> simpa using hx
  · split at hx
    · split at hx <;> exact hx
    · exact hx

end Controller

namespace ControllerSystem

variable {s : ControllerSystem} {roleOf : Int → PDRole}

/-! ## The invariant of the system -/

structure SystemInv (roleOf : Int → PDRole) (s : ControllerSystem) : Prop where
  tracked : Controller.Tracked 0 s.controller
  owned : Controller.Owned roleOf s.controller
  inv : s.coordinator.Inv
  noStale : s.coordinator.NoStale
  pooled : PooledAll (OwnsRole roleOf) s.coordinator

theorem systemInv_init : SystemInv roleOf {} :=
  ⟨Controller.tracked_init, Controller.owned_init, inv_init, noStale_init, pooledAll_init⟩

theorem SystemInv.coordinate (h : SystemInv roleOf s) {c : Controller} (hc : Controller.Tracked 0 c)
    (ho : Controller.Owned roleOf c) {op : Op} (hl : Lists (OwnsRole roleOf) op) :
    SystemInv roleOf ⟨c, s.coordinator.step op⟩ where
  tracked := hc
  owned := ho
  inv := h.inv.step op
  noStale := h.noStale.step h.inv (roleKept_of_ownsRole h.inv h.pooled hl)
  pooled := h.pooled.step ignoresWorkload_ownsRole h.inv hl

theorem SystemInv.lists_eventMsg (h : SystemInv roleOf s) {event : PusherEvent}
    (hevent : event ∈ s.controller.eventPusher.eventQueue) {msg : InsEventMsg}
    (hmsg : s.controller.eventPusher.eventMsg (fun r => (s.controller.obj r).toInstance) event = some msg) :
    Lists (OwnsRole roleOf) (.refresh msg.event msg.instances) := by
  cases event with
  | add x =>
      cases hmsg
      intro _ y hy
      rw [List.mem_singleton.mp hy]
      exact h.owned.queue x hevent
  | del x =>
      cases hmsg
      exact fun hne => absurd rfl hne
  | set =>
      simp only [EventPusher.eventMsg] at hmsg
      split at hmsg
      · cases hmsg
        intro _ y hy
        obtain ⟨r, hr, rfl⟩ := List.mem_map.mp hy
        obtain ⟨name, hn⟩ := Dict.mem_values_iff.mp hr
        obtain ⟨id, hm, -, -⟩ := h.tracked.named hn (Nat.zero_le _)
        exact h.owned.obj (h.tracked.managed hm).2.1
      · cases hmsg

theorem SystemInv.consume (h : SystemInv roleOf s) (delivered : Bool) : SystemInv roleOf (s.step (.consume delivered)) := by
  have htail : Controller.Tracked 0 { s.controller with
      eventPusher := (s.controller.eventPusher.eventConsumer fun r => (s.controller.obj r).toInstance).2 } ∧
      Controller.Owned roleOf { s.controller with
      eventPusher := (s.controller.eventPusher.eventConsumer fun r => (s.controller.obj r).toInstance).2 } := by
    unfold EventPusher.eventConsumer
    cases hq : s.controller.eventPusher.eventQueue with
    | nil => exact ⟨h.tracked, h.owned⟩
    | cons event rest =>
        refine ⟨h.tracked.of_pusher rfl, h.owned.of_same rfl fun x hx => ?_⟩
        rw [hq]
        exact List.mem_cons_of_mem _ hx
  cases delivered with
  | false => exact ⟨htail.1, htail.2, h.inv, h.noStale, h.pooled⟩
  | true =>
      simp only [ControllerSystem.step, ↓reduceIte]
      cases hmsg : s.nextMsg with
      | none => exact ⟨htail.1, htail.2, h.inv, h.noStale, h.pooled⟩
      | some msg =>
          have hlists : Lists (OwnsRole roleOf) (.refresh msg.event msg.instances) := by
            unfold nextMsg EventPusher.eventConsumer at hmsg
            split at hmsg
            · cases hmsg
            · rename_i event rest hq
              exact h.lists_eventMsg (hq ▸ List.mem_cons_self ..) hmsg
          exact h.coordinate htail.1 htail.2 hlists

theorem SystemInv.controller (h : SystemInv roleOf s) {c : Controller} (hc : Controller.Tracked 0 c)
    (ho : Controller.Owned roleOf c) : SystemInv roleOf { s with controller := c } :=
  ⟨hc, ho, h.inv, h.noStale, h.pooled⟩

theorem announced_of_namesKept {event : Event} (h : s.NamesKept event) {id : Int} {r : Ref}
    (hr : s.controller.instances.get? id = some r) : s.controller.Announced (s.step event).controller r :=
  h r (Dict.mem_values_iff.mpr ⟨id, hr⟩)

theorem SystemInv.step (h : SystemInv roleOf s) {event : Event} (hs : s.Sound roleOf event) :
    SystemInv roleOf (s.step event) := by
  obtain ⟨hnames, hevent⟩ := hs
  have hown : ∀ {id r}, s.controller.instances.get? id = some r → s.controller.Announced (s.step event).controller r :=
    fun hr => announced_of_namesKept hnames hr
  have ht := h.tracked
  have ho := h.owned
  cases event with
  | addInstance timestamp ins =>
      have hnew := Controller.obj_create_new s.controller (ins.updateInstanceStatus .initial)
      refine h.controller ((ht.create _).addInstance timestamp (by simp) ?_)
        ((ho.create (x := ins.updateInstanceStatus .initial) hevent).addInstance timestamp (by simp))
      rw [hnew]
      exact InsStatus.noConfusion
  | heartbeat timestamp insId ip status =>
      exact h.controller (ht.handleHeartbeat timestamp insId ip status fun r hr => hown hr)
        (ho.handleHeartbeat ht timestamp insId ip status)
  | timeout timestamp queryStatus insId =>
      exact h.controller (ht.handleTimeout timestamp queryStatus insId fun r hr => hown hr)
        (ho.handleTimeout ht timestamp queryStatus insId)
  | separate instanceId =>
      exact h.controller (ht.separateInstance instanceId fun r hr => hown hr) (ho.separateInstance ht instanceId)
  | recover instanceId => exact h.controller (ht.recoverInstance instanceId) (ho.recoverInstance instanceId)
  | restore timestamp state =>
      obtain ⟨howns, hnames, hknown⟩ := hevent
      exact h.controller (ht.restoreInstances timestamp (Controller.nodup_ids state.ids) hnames hknown)
        (ho.restoreInstances timestamp howns)
  | detect response =>
      exact h.controller (ht.of_pusher (Controller.instances_coordinatorHeartbeatDetector _ response))
        (ho.of_same rfl fun x hx => Controller.add_mem_coordinatorHeartbeatDetector hx)
  | consume delivered => exact h.consume delivered
  | coordinate op => exact h.coordinate ht ho hevent

/-! ## The SET message -/

theorem mem_getActiveInstances {c : Controller} {x : ManagedInstance} :
    x ∈ c.getActiveInstances ↔ ∃ id r, c.instances.get? id = some r ∧ c.obj r = x ∧ x.status = .active := by
  unfold Controller.getActiveInstances
  simp only [List.mem_filter, List.mem_map, Dict.mem_values_iff, decide_eq_true_eq]
  constructor
  · rintro ⟨⟨r, ⟨id, hr⟩, rfl⟩, hs⟩
    exact ⟨id, r, hr, rfl, hs⟩
  · rintro ⟨id, r, hr, rfl, hs⟩
    exact ⟨⟨r, ⟨id, hr⟩, rfl⟩, hs⟩

theorem mem_pusher {c : Controller} (h : Controller.Tracked 0 c) {x : ManagedInstance} :
    x ∈ c.eventPusher.instances.values.map c.obj ↔ x ∈ c.getActiveInstances := by
  rw [mem_getActiveInstances, List.mem_map]
  simp only [Dict.mem_values_iff]
  constructor
  · rintro ⟨r, ⟨name, hn⟩, rfl⟩
    obtain ⟨id, hr, hs, -⟩ := h.named hn (Nat.zero_le _)
    exact ⟨id, r, hr, rfl, hs⟩
  · rintro ⟨id, r, hr, rfl, hs⟩
    exact ⟨r, ⟨_, h.ready hr hs⟩, rfl⟩

theorem nodup_pusher {c : Controller} (h : Controller.Tracked 0 c) :
    ((c.eventPusher.instances.values.map c.obj).map (·.id)).Nodup := by
  rw [Dict.values, List.map_map, List.map_map]
  refine List.Nodup.map_on ?_ c.eventPusher.instances.nodup_entries
  rintro ⟨name, r⟩ he ⟨name', r'⟩ he' hid
  obtain ⟨id, hr, -, hname⟩ := h.named (Dict.get?_eq_some_iff.mpr he) (Nat.zero_le _)
  obtain ⟨id', hr', -, hname'⟩ := h.named (Dict.get?_eq_some_iff.mpr he') (Nat.zero_le _)
  have hid' : (c.obj r).id = (c.obj r').id := hid
  rw [(h.managed hr).2.2, (h.managed hr').2.2] at hid'
  subst hid'
  rw [hr] at hr'
  obtain rfl := Option.some.inj hr'
  rw [← hname, ← hname']

theorem nextMsg_set (hset : s.SetNext) :
    s.nextMsg = s.controller.eventPusher.eventMsg (fun r => (s.controller.obj r).toInstance) .set := by
  unfold SetNext at hset
  unfold nextMsg EventPusher.eventConsumer
  cases hq : s.controller.eventPusher.eventQueue with
  | nil =>
      rw [hq] at hset
      cases hset
  | cons event rest =>
      rw [hq] at hset
      obtain rfl : event = .set := Option.some.inj hset
      rfl

theorem SystemInv.resynchronises (h : SystemInv roleOf s) : s.ResynchronisesPrefill := by
  intro hset
  have hmsg := nextMsg_set hset
  have hinstances : (s.controller.eventPusher.instances.values.map fun r => (s.controller.obj r).toInstance) =
      (s.controller.eventPusher.instances.values.map s.controller.obj).map (·.toInstance) := by
    rw [List.map_map]
    rfl
  have hprefill : ((s.controller.eventPusher.instances.values.map fun r => (s.controller.obj r).toInstance).any
      fun x => x.role = "prefill") = true ↔ HasPrefill s.controller := by
    rw [hinstances]
    simp only [List.any_eq_true, List.mem_map (f := fun x : ManagedInstance => x.toInstance), decide_eq_true_eq]
    constructor
    · rintro ⟨_, ⟨x, hx, rfl⟩, hrole⟩
      exact ⟨x, (mem_pusher h.tracked).mp hx, hrole⟩
    · rintro ⟨x, hx, hrole⟩
      exact ⟨_, ⟨x, (mem_pusher h.tracked).mpr hx, rfl⟩, hrole⟩
  simp only [EventPusher.eventMsg] at hmsg
  constructor
  · intro hp
    rw [if_pos (hprefill.mpr hp)] at hmsg
    refine ⟨by rw [hmsg]; simp, fun id => ?_⟩
    have hlists : Lists (OwnsRole roleOf) (.refresh .set _) :=
      h.lists_eventMsg (List.mem_of_mem_head? hset) (by
        simp only [EventPusher.eventMsg]
        rw [if_pos (hprefill.mpr hp)])
    have hassigned := refresh_set_assigned h.inv h.noStale (fun x hx => by
      rw [hlists (by decide) x hx]
      rfl) (by
      rw [hinstances, List.map_map]
      exact nodup_pusher h.tracked)
    simp only [ControllerSystem.step, ↓reduceIte, hmsg, deliver]
    refine (hassigned.ids id).trans ?_
    rw [hinstances, List.map_map]
    simp only [List.mem_map]
    constructor
    · rintro ⟨x, hx, rfl⟩
      exact ⟨x, (mem_pusher h.tracked).mp (List.mem_map.mpr hx), rfl⟩
    · rintro ⟨x, hx, rfl⟩
      exact ⟨x, List.mem_map.mp ((mem_pusher h.tracked).mpr hx), rfl⟩
  · intro hp
    rw [hmsg, if_neg fun h' => hp (hprefill.mp h')]

end ControllerSystem

end PyMotor

namespace PyMotor.ControllerSystem

open Lib

/-- In every run that keeps roles and job names, a SET event becomes a message that leaves the coordinator with
exactly the active ids, unless no active instance is a prefill instance: then there is no message. -/
theorem set_resynchronises (roleOf : Int → PDRole) (events : List Event)
    (h : Along ControllerSystem.step (Sound roleOf) {} events) :
    (run ControllerSystem.step {} events).ResynchronisesPrefill := by
  have hinv : SystemInv roleOf (run ControllerSystem.step {} events) :=
    run_invariant (I := SystemInv roleOf) (fun _ _ hi hs => hi.step hs) systemInv_init h
  exact hinv.resynchronises

def oneEndpoint (name : String) (id : Int) (role : String) : ManagedInstance :=
  { jobName := name
    id := id
    role := role
    endpoints := .single "pod" (.single 0 { id := 0 }) }

def normal (timestamp : ℚ) (id : Int) : Event := .heartbeat timestamp id "pod" (.single 0 .normal)

def silent (timestamp : ℚ) (id : Int) : Event := .timeout timestamp (fun _ => .raises) id

/-- The coordinator answers that it is not ready, so it is sent a SET event. -/
def notReady : Event := .detect (some none)

def bothActive : List Event :=
  [.addInstance 0 (oneEndpoint "p" 1 "prefill"), normal 0 1, .consume true,
    .addInstance 0 (oneEndpoint "d" 2 "decode"), normal 0 2, .consume true]

/-- The decode instance is separated, its DEL message is lost, and a SET event follows. -/
theorem set_resynchronises_lost_del :
    (run ControllerSystem.step {} (bothActive ++ [.separate 2, .consume false, notReady])).SetNext ∧
    (run ControllerSystem.step {} (bothActive ++ [.separate 2, .consume false, notReady])).ResynchronisesPrefill :=
  ⟨by decide,
    set_resynchronises (fun id => if id = 1 then .roleP else .roleD) _ (by decide)⟩

def withoutPrefill : List Event := bothActive ++ [.separate 1, .consume false, notReady]

def sharedName : List Event :=
  [.addInstance 0 (oneEndpoint "p" 1 "prefill"), normal 0 1, .consume true, silent 10 1, .consume true,
    .addInstance 10 (oneEndpoint "p" 2 "prefill"), normal 10 2, .consume true, normal 10 1, .consume true, notReady]

def staleName : List Event :=
  bothActive ++ [.restore 0 ⟨⟨[(1, { oneEndpoint "p" 1 "prefill" with status := .active })], by decide⟩, by decide⟩,
    .consume true]

/-- An id is given to a decode instance after the DEL of a prefill instance was lost, and comes back. -/
def otherRole : List Event :=
  [.addInstance 0 (oneEndpoint "p" 1 "prefill"), normal 0 1, .consume true, .separate 1, .consume false, silent 400 1,
    .addInstance 400 (oneEndpoint "d" 1 "decode"), normal 400 1, .consume true, .separate 1, .consume true,
    silent 800 1, .addInstance 800 (oneEndpoint "p" 1 "prefill"), normal 800 1, .consume false, notReady]

/-- Without an active prefill instance the SET event is dropped; with a shared job name, a leftover job name or
an id under two roles its message does not bring the coordinator in step. -/
theorem not_resynchronises :
    ¬ (run ControllerSystem.step {} withoutPrefill).Resynchronises ∧
    ¬ (run ControllerSystem.step {} sharedName).Resynchronises ∧
    ¬ (run ControllerSystem.step {} staleName).Resynchronises ∧
    ¬ (run ControllerSystem.step {} otherRole).Resynchronises := by
  refine ⟨fun h => ?_, fun h => ?_, fun h => ?_, fun h => ?_⟩
  · exact (h (by decide)).1 (by decide)
  · have hids := (h (by decide +kernel)).2 2
    revert hids
    decide +kernel
  · have hids := (h (by decide)).2 2
    revert hids
    decide
  · have hids := (h (by decide +kernel)).2 1
    revert hids
    decide +kernel

end PyMotor.ControllerSystem
