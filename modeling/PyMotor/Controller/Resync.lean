import PyMotor.Controller.Replica
import PyMotor.Management.Probe

/-!
# When a coordinator is told again

The detector asks the coordinator for its readiness. With an active prefill instance, one answer that it is not ready
is enough to set the coordinator right; without one, it is never told of an instance that it does not have.
-/

namespace PyMotor.ControllerSystem

open Lib InstanceManager

variable {s : ControllerSystem} {roleOf : Int → PDRole} {event : Event} {id : Int}

/-- The detector asks the coordinator. -/
def asks (s : ControllerSystem) (probe : ReadinessProbe) (liveness : RoleHeartbeatResult) : Event :=
  .detect (queryStatus (probe.readinessCheck s.coordinator liveness))

/-! ## A queue with a SET event -/

def Consumes : Event → Bool
  | .consume _ => true
  | _ => false

theorem queue_restore (timestamp : ℚ) (state : PersistentState) :
    ∃ l, (s.step (.restore timestamp state)).replica.queue = s.replica.queue ++ l := by
  simp [replica, Controller.replica, ControllerSystem.step, Controller.restoreData, Controller.restoreInstances,
    EventPusher.pushSet, Controller.queue_foldl_restoreInstance]

theorem SystemInv.queue (h : SystemInv roleOf s) (hc : Consumes event = false) :
    ∃ l, (s.step event).replica.queue = s.replica.queue ++ l := by
  cases event with
  | restore timestamp state => exact queue_restore timestamp state
  | consume delivered => cases hc
  | coordinate op => exact ⟨[], (List.append_nil _).symm⟩
  | addInstance | heartbeat | timeout | separate | recover | detect => exact (h.writes (by trivial)).queue

/-- Once the SET event at some place of the queue has been delivered, the coordinator follows. -/
theorem SystemInv.led_of_set (h : SystemInv roleOf s) (ha : s.replica.Aligned) {events : List Event}
    (hev : Along ControllerSystem.step (fun s event => Undisturbed event ∧ s.Sound roleOf event ∧ s.Remembers event) s
      events)
    (hp : Along ControllerSystem.step (fun s _ => HasPrefill s.controller) s events) {n : Nat}
    (hset : s.replica.queue[n]? = some none) (hn : n < events.countP Consumes) :
    (run ControllerSystem.step s events).Led := by
  induction events generalizing s n with
  | nil => simp at hn
  | cons event rest ih =>
      obtain ⟨⟨hu, hs, hr⟩, hrest⟩ := hev
      obtain ⟨hprefill, hprest⟩ := hp
      have hinv := h.step hs
      have haligned := ha.reaches (h.reaches hr)
      rw [run_cons]
      cases hc : Consumes event with
      | false =>
          obtain ⟨l, hl⟩ := h.queue hc
          obtain ⟨hlt, -⟩ := List.getElem?_eq_some_iff.mp hset
          refine ih hinv haligned hrest hprest ?_ (by simpa [hc] using hn)
          rw [hl, List.getElem?_append_left hlt]
          exact hset
      | true =>
          cases event with
          | addInstance | heartbeat | timeout | separate | recover | restore | detect | coordinate => cases hc
          | consume delivered =>
              obtain rfl : delivered = true := hu
              cases hq : s.controller.eventPusher.eventQueue with
              | nil => simp [replica, Controller.replica, hq] at hset
              | cons first queue =>
                  obtain ⟨hqueue, hnext⟩ := replica_consume true hq
                  cases n with
                  | zero =>
                      have hfirst : first.delta = none := by simpa [hqueue] using hset
                      obtain rfl := PusherEvent.eq_set_of_delta hfirst
                      refine hinv.led_run ?_ hrest
                      rw [h.replica_snapshot hq hprefill]
                      exact ha.snapshot hqueue
                  | succ n =>
                      refine ih hinv haligned hrest hprest (n := n) ?_ (by simpa [hc] using hn)
                      rw [hnext]
                      simpa [hqueue] using hset

/-- Let the coordinator answer that it is not ready, whatever has been lost so far. Once all that was queued by then and
the SET event have been delivered with an active prefill instance there, the coordinator is led to the active
instances, as long as no message is lost and nobody else tells it. -/
theorem resynchronised (roleOf : Int → PDRole) (probe : ReadinessProbe) (liveness : RoleHeartbeatResult)
    (before after : List Event)
    (h : Along ControllerSystem.step (fun s event => s.Sound roleOf event ∧ s.Remembers event) {}
      (before ++ (run ControllerSystem.step {} before).asks probe liveness :: after))
    (hserves : probe.Serves liveness) (hlacks : ¬ probe.Admits (run ControllerSystem.step {} before).coordinator)
    (hu : ∀ event ∈ after, Undisturbed event)
    (hp : Along ControllerSystem.step (fun s _ => HasPrefill s.controller)
      (run ControllerSystem.step {} (before ++ [(run ControllerSystem.step {} before).asks probe liveness])) after)
    (hconsumed : (run ControllerSystem.step {} before).controller.eventPusher.eventQueue.length < after.countP Consumes) :
    (run ControllerSystem.step {} (before ++ (run ControllerSystem.step {} before).asks probe liveness :: after)).Led := by
  obtain ⟨hbefore, ⟨hsound, hremembers⟩, hafter⟩ := along_append.mp h
  rw [run_append, run_cons, run_nil] at hp
  rw [run_append, run_cons]
  obtain ⟨hinv, haligned⟩ := invariant_run hbefore
  generalize run ControllerSystem.step {} before = s at *
  refine (hinv.step hsound).led_of_set (haligned.reaches (hinv.reaches hremembers)) (hafter.and_forall hu) hp ?_ hconsumed
  have hanswer : queryStatus (probe.readinessCheck s.coordinator liveness) = some (some false) := by
    rw [ReadinessProbe.queryStatus_readinessCheck, if_pos hserves, decide_eq_false hlacks]
  simp [asks, hanswer, replica, Controller.replica, ControllerSystem.step, EventPusher.coordinatorHeartbeatDetector,
    EventPusher.pushSet, PusherEvent.delta]

instance (c : Controller) : Decidable (HasPrefill c) := inferInstanceAs (Decidable (∃ x ∈ c.getActiveInstances, _))

/-- Both instances are active, and the coordinator is restarted. -/
def restarted : List Event := bothActive ++ [.coordinate .stop]

theorem resynchronised_restart :
    (run ControllerSystem.step {} (restarted ++
      (run ControllerSystem.step {} restarted).asks {} ⟨true, false, false⟩ ::
      [.separate 2, .consume true, .recover 2, normal 10 2])).Led :=
  resynchronised (fun id => if id = 1 then .roleP else .roleD) {} ⟨true, false, false⟩ restarted
    [.separate 2, .consume true, .recover 2, normal 10 2] (by decide +kernel) (by decide) (by decide +kernel)
    (by simp [Undisturbed, normal]) (by decide +kernel) (by decide +kernel)

/-! ## Without an active prefill instance -/

/-- The coordinator does not have the instance, and no ADD event of it is queued. -/
def Unaware (s : ControllerSystem) (id : Int) : Prop :=
  id ∉ s.coordinator.currentIds ∧ ∀ x, PusherEvent.add x ∈ s.controller.eventPusher.eventQueue → x.id ≠ id

/-- Nobody but the controller tells the coordinator of instances, and the controller restores nothing. Any message may
be lost, and the coordinator may be restarted. -/
def NotTold : Event → Prop
  | .restore _ _ => False
  | .coordinate (.refresh _ _) => False
  | _ => True

theorem unaware_iff : s.Unaware id ↔ s.replica.Unknown id := by
  apply and_congr Iff.rfl
  constructor
  · intro h hq
    obtain ⟨event, hevent, hd⟩ := List.mem_map.mp hq
    cases event with
    | add x =>
        cases hd
        exact h x hevent rfl
    | del x => cases hd
    | set => cases hd
  · rintro h x hx rfl
    exact h (List.mem_map.mpr ⟨.add x, hx, rfl⟩)

theorem mem_currentIds_deleteUnavailable {m : InstanceManager} {iid : Int}
    (h : id ∈ (m.deleteUnavailableInstance iid).currentIds) : id ∈ m.currentIds := by
  unfold deleteUnavailableInstance at h
  split at h
  · rw [mem_currentIds] at h ⊢
    rcases h with h | ⟨r, hr⟩
    · exact Or.inl h
    · dsimp only at hr
      rw [Dict.get?_erase] at hr
      split at hr
      · cases hr
      · exact Or.inr ⟨r, hr⟩
  · exact h

theorem SystemInv.unknown_step (h : SystemInv roleOf s) (hk : s.replica.Unknown id) (hid : id ∈ s.controller.activeIds)
    (hp : ¬ HasPrefill s.controller) (hn : NotTold event) : (s.step event).replica.Unknown id := by
  cases event with
  | restore timestamp state => cases hn
  | consume delivered =>
      cases hq : s.controller.eventPusher.eventQueue with
      | nil => rwa [step_consume_nil delivered hq]
      | cons event rest =>
          obtain ⟨hqueue, hnext⟩ := replica_consume delivered hq
          rw [hnext]
          apply hk.take hqueue
          cases delivered with
          | false => exact Or.inl rfl
          | true =>
              cases hd : event.delta with
              | some d => exact Or.inr ⟨d, rfl, h.follower_consume hq hd⟩
              | none =>
                  obtain rfl := PusherEvent.eq_set_of_delta hd
                  exact Or.inl (h.follower_skip hq hp)
  | coordinate op =>
      cases op with
      | refresh event instances => cases hn
      | updateState iid mode => rwa [h.replica_coordinate (by trivial)]
      | updateWorkload iid eid change => rwa [h.replica_coordinate (by trivial)]
      | deleteUnavailable iid => exact ⟨fun hmem => hk.1 (mem_currentIds_deleteUnavailable hmem), hk.2⟩
      | stop =>
          have hnone : id ∉ (s.step (.coordinate .stop)).coordinator.currentIds := List.not_mem_nil
          exact ⟨hnone, hk.2⟩
  | addInstance | heartbeat | timeout | separate | recover | detect => exact hk.writes hid (h.writes (by trivial))

/-- An active instance that the coordinator does not have, and that is not about to be announced, stays unknown to it
for as long as it is active and no prefill instance is, whatever the coordinator answers to the detector. -/
theorem stays_unknown (roleOf : Int → PDRole) (id : Int) (before after : List Event)
    (h : Along ControllerSystem.step (fun s event => s.Sound roleOf event) {} (before ++ after))
    (hunaware : (run ControllerSystem.step {} before).Unaware id) (hn : ∀ event ∈ after, NotTold event)
    (hactive : Along ControllerSystem.step
      (fun s _ => id ∈ s.controller.getActiveInstances.map (·.id) ∧ ¬ HasPrefill s.controller)
      (run ControllerSystem.step {} before) after) :
    (run ControllerSystem.step {} (before ++ after)).Unaware id := by
  obtain ⟨hbefore, hafter⟩ := along_append.mp h
  rw [run_append]
  have hinv : SystemInv roleOf (run ControllerSystem.step {} before) :=
    run_invariant (I := SystemInv roleOf) (fun _ _ hi hs => hi.step hs) systemInv_init hbefore
  have hend := run_invariant (I := fun s => SystemInv roleOf s ∧ s.replica.Unknown id)
    (fun s event hi ⟨hnot, hsound, hid, hp⟩ =>
      ⟨hi.1.step hsound, hi.1.unknown_step hi.2 ((Controller.mem_activeIds_iff hi.1.tracked).mpr hid) hp hnot⟩)
    ⟨hinv, unaware_iff.mp hunaware⟩ ((hafter.and hactive).and_forall hn)
  exact unaware_iff.mpr hend.2

theorem stays_unknown_hybrid :
    (run ControllerSystem.step {}
      ([.addInstance 0 (oneEndpoint "u" 1 "both"), normal 0 1, .consume true, .coordinate .stop] ++
        [notReady, .consume true, .detect none, .detect none, .detect (some (some true)), .consume true,
          normal 10 1])).Unaware 1 := by
  apply stays_unknown (fun _ => .roleU) 1
  · decide +kernel
  · refine ⟨by decide +kernel, fun x hx => ?_⟩
    have hq : (run ControllerSystem.step {} [.addInstance 0 (oneEndpoint "u" 1 "both"), normal 0 1, .consume true,
      .coordinate .stop]).controller.eventPusher.eventQueue = [] := List.eq_nil_of_length_eq_zero (by decide +kernel)
    rw [hq] at hx
    cases hx
  · simp [NotTold, notReady, normal]
  · decide +kernel

end PyMotor.ControllerSystem
