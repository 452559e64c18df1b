import PyMotor.Daemon.Lemmas.Daemon
import PyMotor.Daemon.Lemmas.Process

/-!
# A standby serves no inference

A shutdown stops the processes first and the thread of the standby manager after them, and the thread ends without
a callback. So a master that is shut down is no master any more with its role byte still there, and a pod that becomes
master in between starts inference workers that nothing stops.
-/

/-!
## No lost worker

A start that is not needed or that fails forgets the living workers, and there is nothing to restart in an empty list.
-/

namespace PyMotor.ProcessManager

open Lib

variable {m : ProcessManager}

structure Inference (m : ProcessManager) : Prop where
  tidy : m.Tidy
  cls : m.cls = .inference
  count : 0 < m.processCount

theorem Inference.start_iff (h : m.Inference) (spawns exits : Nat → Bool) :
    m.Supervised (.start spawns exits) ↔ m.SupervisionSound (.start spawns exits) := by
  cases hrun : m.isRunning with
  | true =>
      have heq : m.start spawns exits = (true, m) := start_running hrun
      refine iff_of_true ⟨?_, fun hno => (by cases hno), fun _ => ?_, fun _ _ hno => (by cases hno)⟩ (.inl hrun)
      · simp only [step, heq]
        exact h.tidy.kept
      · simp only [step, heq]
        exact h.tidy.complete_of_running h.cls hrun
  | false =>
      obtain ⟨done, rest, hs⟩ := started hrun spawns exits
      have hkept := hs.kept_iff h.tidy
      rw [hs.failed_iff (p := fun j => exits (m.nextPid + j) = true)] at hkept
      constructor
      · exact fun hsup => .inr (hkept.1 hsup.listed)
      · intro hsound
        have hlisted := hkept.2 (hsound.resolve_left (by simp [hrun]))
        refine ⟨hlisted, fun hno => (by cases hno), fun hret => ?_, fun _ _ hno => (by cases hno)⟩
        have hret : (m.start spawns exits).1 = true := Option.some.inj hret
        rw [hs.returned, Bool.and_eq_true] at hret
        exact (hs.tidy h.tidy hlisted).complete_of_running (hs.cls.trans h.cls) hret.2

theorem Inference.restart_iff (h : m.Inference) (spawns exits : Nat → Bool) :
    m.Supervised (.restartDeadWorkers spawns exits) ↔ m.SupervisionSound (.restartDeadWorkers spawns exits) := by
  constructor
  · intro hsup hnil
    have heq : m.restartDeadWorkers spawns exits = (true, m) := by
      simp [restartDeadWorkers, deadIndices, hnil]
    have hcomplete := hsup.complete (by simp [returned, heq])
    simp only [step, heq] at hcomplete
    exact not_complete_of_listed_nil h.tidy h.count hnil hcomplete
  · intro hne
    obtain ⟨htidy, hcls, -, hret, hback⟩ := h.tidy.restartDeadWorkers h.cls hne spawns exits
    refine ⟨htidy.kept, fun hno => (by cases hno), fun hreturned => ?_, fun spawns' exits' he hspawns hexits => ?_⟩
    · exact htidy.complete_of_running (hcls.trans h.cls) (hret (Option.some.inj hreturned))
    · cases he
      exact htidy.complete_of_running (hcls.trans h.cls) (hback hspawns hexits)

theorem Inference.supervised_iff (h : m.Inference) (event : Event) : m.Supervised event ↔ m.SupervisionSound event := by
  cases event with
  | start spawns exits => exact h.start_iff spawns exits
  | restartDeadWorkers spawns exits => exact h.restart_iff spawns exits
  | stop =>
      exact iff_of_true ⟨h.tidy.stop.1.kept, fun _ => h.tidy.stop.2, fun hno => (by cases hno),
        fun _ _ hno => (by cases hno)⟩ trivial
  | die pid =>
      exact iff_of_true ⟨(h.tidy.exit _).kept, fun hno => (by cases hno), fun hno => (by cases hno),
        fun _ _ hno => (by cases hno)⟩ trivial

theorem Inference.step (h : m.Inference) (event : Event) (hok : m.SupervisionSound event) : (m.step event).Inference := by
  cases event with
  | start spawns exits =>
      obtain ⟨htidy, hcls, hcount⟩ := h.tidy.start hok
      exact ⟨htidy, hcls.trans h.cls, hcount ▸ h.count⟩
  | restartDeadWorkers spawns exits =>
      obtain ⟨htidy, hcls, hcount, -⟩ := h.tidy.restartDeadWorkers h.cls hok spawns exits
      exact ⟨htidy, hcls.trans h.cls, hcount ▸ h.count⟩
  | stop =>
      obtain ⟨hcls, hcount⟩ := kind_stop m
      exact ⟨h.tidy.stop.1, hcls.trans h.cls, hcount ▸ h.count⟩
  | die pid => exact ⟨h.tidy.exit fun p => p = pid, h.cls, h.count⟩

theorem inference_start {numWorkers : Nat} (h : 0 < numWorkers) : (inference numWorkers).Inference :=
  ⟨tidy_new .inference numWorkers, rfl, h⟩

/-- In a run, no worker is lost exactly when every start finds nothing that it forgets and every restart finds
something to restart. -/
theorem supervised_along_iff (numWorkers : Nat) (hn : 0 < numWorkers) (events : List Event) :
    Along step Supervised (inference numWorkers) events ↔ Along step SupervisionSound (inference numWorkers) events := by
  constructor
  · exact along_of_invariant (I := Inference) (fun m event h hsup => h.step event ((h.supervised_iff event).1 hsup))
      (fun m event h hsup => (h.supervised_iff event).1 hsup) (inference_start hn)
  · exact along_of_invariant (I := Inference) (fun m event h hok => h.step event hok)
      (fun m event h hok => (h.supervised_iff event).2 hok) (inference_start hn)

def allSpawn : Nat → Bool := fun _ => true

def noneExits : Nat → Bool := fun _ => false

theorem supervised_along_restarted : Along step Supervised (inference 2)
    [.start allSpawn noneExits, .die 1, .restartDeadWorkers allSpawn noneExits, .stop] := by
  refine (supervised_along_iff 2 (by decide) _).2 ⟨.inr ⟨fun _ hw => (nomatch hw), ?_⟩, trivial, ?_, trivial, trivial⟩
  · intro i _ hno
    cases hno
  · show (run step (inference 2) [.start allSpawn noneExits, .die 1]).listed ≠ []
    decide

/-- The second worker does not start: the first one is alive in no list. -/
theorem not_supervised_failedStart : ¬ Along step Supervised (inference 2) [.start (fun i => i = 0) noneExits] := by
  intro h
  exact absurd (h.1.listed ⟨0, 0⟩ (by decide)) (by decide)

end PyMotor.ProcessManager

namespace PyMotor.CoordinatorDaemon

open Lib

/-- Whatever the order of the steps, while the thread does not end as master with a role byte, does not start the
inference workers after they have been stopped for good and leaves none behind in a start that fails. -/
theorem standby_safe (c : EtcdClient) (masterLockKey : String) (maxLockFailures : Nat) (numWorkers : Option Nat)
    (hasShm : Bool) (spawns exits : ProcessKey → Nat → Bool) (events : List Event)
    (h : Along step Sound (start c masterLockKey maxLockFailures numWorkers hasShm spawns exits) events) :
    (run step (start c masterLockKey maxLockFailures numWorkers hasShm spawns exits) events).StandbySafe :=
  (run_invariant (I := Guarded) (fun _ event hguarded hok => hguarded.step event hok)
    (guarded_start c masterLockKey maxLockFailures numWorkers hasShm spawns exits) h).standbySafe

/-! ## Fixed runs -/

def startTwo : CoordinatorDaemon :=
  start ⟨"ns", "job"⟩ "/coordinator/master_lock" 3 (some 2) true (fun _ _ => true) fun _ _ => false

def lockedStep (keepAlive : Option Int) : Event :=
  .standby { lock := { leaseGrant := some 7, txn := some true }, renew := { keepAlive := keepAlive } }
    (fun _ => true) fun _ => false

def supervise : Event := .supervise true (fun _ => true) fun _ => false

def lostEvents : List Event :=
  [lockedStep none, lockedStep none, lockedStep none, lockedStep none, .die .inference 0, supervise, supervise, supervise,
    supervise, lockedStep none, lockedStep none, lockedStep none, lockedStep none, supervise]

theorem sound_lockedStep {d : CoordinatorDaemon} (hstop : d.standbyStopEvent = false)
    (ht : d.thread ≠ .startingInference) (keepAlive : Option Int) : d.Sound (lockedStep keepAlive) :=
  ⟨fun _ hno _ => absurd (hstop.symm.trans hno) (by decide), fun hno => absurd hno ht⟩

theorem standby_safe_lost : (run step startTwo lostEvents).StandbySafe := by
  have hstarting : ∀ m, (run step startTwo (lostEvents.take 3)).processManagers.get? .inference = some m →
      m.SupervisionSound (.start (fun _ => true) fun _ => false) := by
    intro m hget
    have halive : ((run step startTwo (lostEvents.take 3)).processManagers.get? .inference).map
        ProcessManager.alive = some [] := by decide
    rw [hget, Option.map_some, Option.some.injEq] at halive
    refine .inr ⟨fun w hw => ?_, fun _ _ hno => (by cases hno)⟩
    rw [halive] at hw
    cases hw
  refine standby_safe ⟨"ns", "job"⟩ "/coordinator/master_lock" 3 (some 2) true (fun _ _ => true) (fun _ _ => false) _
    ⟨sound_lockedStep rfl ?_ _, sound_lockedStep rfl ?_ _, sound_lockedStep rfl ?_ _,
      ⟨fun hno => absurd hno ?_, fun _ => ⟨id, hstarting⟩⟩, trivial, trivial, trivial, trivial, trivial,
      sound_lockedStep ?_ ?_ _, sound_lockedStep ?_ ?_ _, sound_lockedStep ?_ ?_ _, sound_lockedStep ?_ ?_ _, trivial,
      trivial⟩
  all_goals decide

def shutdownEvents : List Event :=
  [lockedStep none, lockedStep none, lockedStep none, lockedStep none, .stopSignal, supervise, supervise, supervise,
    supervise, .shutdown, .shutdown, .shutdown, .shutdown, .shutdown, lockedStep none]

theorem not_standbySafe_shutdown : ¬ (run step startTwo shutdownEvents).StandbySafe := by
  intro h
  have hbyte : (run step startTwo shutdownEvents).roleByte = some roleShmMaster := by decide
  have hshows := (h.standby (by decide) (.inr (.inr (by decide)))).1 _ hbyte
  exact absurd hshows (by decide)

end PyMotor.CoordinatorDaemon
