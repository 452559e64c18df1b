import PyMotor.Daemon.CoordinatorDaemon
import PyMotor.Daemon.Lemmas.Process
import PyMotor.Standby.Theorems

/-!
# What the steps of the daemon keep
-/

namespace PyMotor

open Lib

namespace ProcessManager

def Emptied (m : ProcessManager) : Prop := m.listed = [] ∧ m.alive = []

variable {m : ProcessManager}

theorem Tidy.emptied_stop (h : m.Tidy) : m.stop.Emptied := ⟨listed_newList _, h.stop.2⟩

theorem Emptied.exit (h : m.Emptied) (exits : Nat → Bool) : (m.exit exits).Emptied := by
  refine ⟨h.1, ?_⟩
  simp [ProcessManager.exit, h.2]

theorem restartDeadWorkers_nil (hnil : m.listed = []) (spawns exits : Nat → Bool) :
    m.restartDeadWorkers spawns exits = (true, m) := by
  simp [restartDeadWorkers, deadIndices, hnil]

end ProcessManager

namespace CoordinatorDaemon

open ProcessManager

variable {d : CoordinatorDaemon} {key other : ProcessKey} {m : ProcessManager}

/-! ## Managers -/

/-- A manager under its key: tidy, and of one process but for the inference workers. -/
structure Proper (key : ProcessKey) (m : ProcessManager) : Prop where
  tidy : m.Tidy
  inference : key = .inference → m.cls = .inference
  base : key ≠ .inference → m.cls = .base ∧ m.processCount = 1

theorem Proper.of_method (h : Proper key m) {m' : ProcessManager} (htidy : m'.Tidy) (hcls : m'.cls = m.cls)
    (hcount : m'.processCount = m.processCount) : Proper key m' where
  tidy := htidy
  inference hkey := hcls.trans (h.inference hkey)
  base hkey := ⟨hcls.trans (h.base hkey).1, hcount.trans (h.base hkey).2⟩

theorem Proper.stop (h : Proper key m) : Proper key m.stop :=
  h.of_method h.tidy.stop.1 (kind_stop m).1 (kind_stop m).2

theorem Proper.exit (h : Proper key m) (exits : Nat → Bool) : Proper key (m.exit exits) :=
  h.of_method (h.tidy.exit exits) rfl rfl

theorem Proper.start (h : Proper key m) {spawns exits : Nat → Bool} (hok : m.SupervisionSound (.start spawns exits)) :
    Proper key (m.start spawns exits).2 := by
  obtain ⟨htidy, hcls, hcount⟩ := h.tidy.start hok
  exact h.of_method htidy hcls hcount

theorem Proper.restartDeadWorkers (h : Proper .inference m) (spawns exits : Nat → Bool) :
    Proper .inference (m.restartDeadWorkers spawns exits).2 ∧
      (m.Emptied → (m.restartDeadWorkers spawns exits).2.Emptied) := by
  by_cases hnil : m.listed = []
  · rw [restartDeadWorkers_nil hnil]
    exact ⟨h, id⟩
  · obtain ⟨htidy, hcls, hcount, -⟩ := h.tidy.restartDeadWorkers (h.inference rfl) hnil spawns exits
    exact ⟨h.of_method htidy hcls hcount, fun hempty => absurd hempty.1 hnil⟩

def Managed (d : CoordinatorDaemon) : Prop := ∀ key m, d.processManagers.get? key = some m → Proper key m

/-- The manager under the key has no worker. -/
def Without (d : CoordinatorDaemon) (key : ProcessKey) : Prop :=
  ∀ m, d.processManagers.get? key = some m → m.Emptied

theorem get?_withManager {method : ProcessManager → ProcessManager}
    (h : (d.withManager key method).processManagers.get? other = some m) :
    ∃ old, d.processManagers.get? other = some old ∧ m = if other = key then method old else old := by
  rw [withManager, Dict.get?_adjust] at h
  by_cases hkey : other = key
  · rw [if_pos hkey] at h
    obtain ⟨old, hold, rfl⟩ := Option.map_eq_some_iff.1 h
    exact ⟨old, hold, (if_pos hkey).symm⟩
  · rw [if_neg hkey] at h
    exact ⟨m, h, (if_neg hkey).symm⟩

theorem Managed.withManager (h : d.Managed) {method : ProcessManager → ProcessManager}
    (hmethod : ∀ m, d.processManagers.get? key = some m → Proper key (method m)) : (d.withManager key method).Managed := by
  intro other m hget
  obtain ⟨old, hold, rfl⟩ := get?_withManager hget
  by_cases hkey : other = key
  · rw [if_pos hkey]
    subst hkey
    exact hmethod old hold
  · rw [if_neg hkey]
    exact h other old hold

theorem Without.withManager (h : d.Without other) {method : ProcessManager → ProcessManager}
    (hmethod : other = key → ∀ m, d.processManagers.get? key = some m → m.Emptied → (method m).Emptied) :
    (d.withManager key method).Without other := by
  intro m hget
  obtain ⟨old, hold, rfl⟩ := get?_withManager hget
  by_cases hkey : other = key
  · rw [if_pos hkey]
    refine hmethod hkey old ?_ (h old hold)
    rw [← hkey]
    exact hold
  · rw [if_neg hkey]
    exact h old hold

theorem Managed.without_stopProcess (h : d.Managed) (key : ProcessKey) : (d.stopProcess key).Without key := by
  intro m hget
  obtain ⟨old, hold, rfl⟩ := get?_withManager hget
  rw [if_pos rfl]
  exact (h key old hold).tidy.emptied_stop

theorem Without.stopProcess (h : d.Without other) (hm : d.Managed) (key : ProcessKey) :
    (d.stopProcess key).Without other :=
  h.withManager fun _ m hget _ => (hm key m hget).tidy.emptied_stop

/-! ## The invariant -/

/-- What holds where the thread is. -/
def ThreadKeeps (d : CoordinatorDaemon) : Prop :=
  match d.thread with
  | .looping => d.standbyManager.currentRole = .standby → d.ShowsStandby ∧ d.Without .inference
  | .iterating => d.standbyManager.currentRole = .standby → d.ShowsStandby ∧ d.Without .inference
  | .writingMaster => d.standbyManager.currentRole = .master ∧ d.Without .inference
  | .startingInference => d.standbyManager.currentRole = .master ∧ d.Without .inference
  | .writingStandby => d.standbyManager.currentRole = .standby
  | .stoppingInference => d.standbyManager.currentRole = .standby ∧ d.ShowsStandby
  | .ended => d.standbyManager.currentRole = .standby ∧ d.ShowsStandby ∧ d.Without .inference

/-- What holds where `run` is: the supervisor has ended before the managers are stopped. -/
def MainKeeps (d : CoordinatorDaemon) : Prop :=
  match d.main with
  | .supervising => True
  | .stopping rest => d.supervisor = .ended ∧ ∀ key, key ∉ rest → d.Without key
  | .joining => d.supervisor = .ended ∧ ∀ key, d.Without key
  | .returned => d.supervisor = .ended ∧ ∀ key, d.Without key

structure Guarded (d : CoordinatorDaemon) : Prop where
  managed : d.Managed
  thread : d.ThreadKeeps
  main : d.MainKeeps
  stopped : d.standbyStopEvent = true → d.main = .joining ∨ d.main = .returned
  noCallbacks : d.hasCallbacks = false → d.main = .returned ∧ d.roleByte = none
  starting : ∀ supervised key rest, d.supervisor = .starting supervised key rest → key ≠ .inference

theorem Guarded.standbySafe (h : d.Guarded) : d.StandbySafe := by
  have hthread := h.thread
  unfold ThreadKeeps at hthread
  refine ⟨fun hrole hno => ?_, fun hbyte => ?_, fun hreturned key m hget => ?_⟩
  · rcases hno with hno | hno | hno
    · rw [hno] at hthread
      exact ⟨(hthread hrole).1, fun m hget => ((hthread hrole).2 m hget).2⟩
    · rw [hno] at hthread
      exact ⟨(hthread hrole).1, fun m hget => ((hthread hrole).2 m hget).2⟩
    · rw [hno] at hthread
      exact ⟨hthread.2.1, fun m hget => (hthread.2.2 m hget).2⟩
  · have hnot : ¬ d.ShowsStandby := fun hshows => absurd (hshows _ hbyte) (by decide)
    cases hrole : d.standbyManager.currentRole with
    | master => exact .inl rfl
    | standby =>
        cases ht : d.thread with
        | looping =>
            rw [ht] at hthread
            exact absurd (hthread hrole).1 hnot
        | iterating =>
            rw [ht] at hthread
            exact absurd (hthread hrole).1 hnot
        | writingMaster =>
            rw [ht] at hthread
            exact absurd (hrole.symm.trans hthread.1) (by decide)
        | startingInference =>
            rw [ht] at hthread
            exact absurd (hrole.symm.trans hthread.1) (by decide)
        | writingStandby => exact .inr (.inl rfl)
        | stoppingInference => exact .inr (.inr rfl)
        | ended =>
            rw [ht] at hthread
            exact absurd hthread.2.1 hnot
  · have hmain := h.main
    unfold MainKeeps at hmain
    rw [hreturned] at hmain
    exact (hmain.2 key m hget).2

/-! ## The thread -/

theorem Guarded.without (h : d.Guarded) (hstopped : d.Stopped key) : d.Without key := by
  have hmain := h.main
  unfold MainKeeps at hmain
  unfold Stopped at hstopped
  cases hm : d.main with
  | supervising =>
      rw [hm] at hstopped
      exact hstopped.elim
  | stopping rest =>
      rw [hm] at hstopped hmain
      exact hmain.2 _ hstopped
  | joining =>
      rw [hm] at hmain
      exact hmain.2 _
  | returned =>
      rw [hm] at hmain
      exact hmain.2 _

theorem Guarded.stopped_of_event (h : d.Guarded) (hstop : d.standbyStopEvent = true) (key : ProcessKey) :
    d.Stopped key := by
  unfold Stopped
  rcases h.stopped hstop with hm | hm
  · rw [hm]
    trivial
  · rw [hm]
    trivial

theorem Guarded.endLoop (h : d.Guarded) (ht : d.thread = .looping) (hstop : d.standbyStopEvent = true)
    (hok : d.standbyManager.currentRole = .master → d.roleByte = none) (revoked : Bool) :
    (d.endLoop revoked).Guarded := by
  have hthread := h.thread
  unfold ThreadKeeps at hthread
  rw [ht] at hthread
  have hempty := h.without (h.stopped_of_event hstop .inference)
  refine ⟨h.managed, ?_, h.main, h.stopped, h.noCallbacks, h.starting⟩
  show (if d.standbyManager.isMaster then _ else d.standbyManager : StandbyManager).currentRole = .standby ∧
    d.ShowsStandby ∧ d.Without .inference
  cases hrole : d.standbyManager.currentRole with
  | master =>
      rw [if_pos (by simp [StandbyManager.isMaster, hrole])]
      refine ⟨rfl, fun byte hbyte => ?_, hempty⟩
      rw [hok hrole] at hbyte
      cases hbyte
  | standby =>
      rw [if_neg (by simp [StandbyManager.isMaster, hrole])]
      exact ⟨hrole, (hthread hrole).1, hempty⟩

theorem renewMasterLock_role (m : StandbyManager) (answers : RenewAnswers) :
    (m.renewMasterLock answers).2.currentRole = m.currentRole := by
  unfold StandbyManager.renewMasterLock
  split
  · rfl
  · rfl

theorem Guarded.iterate (h : d.Guarded) (ht : d.thread = .iterating) (it : Iteration) : (d.iterate it).Guarded := by
  have hthread := h.thread
  unfold ThreadKeeps at hthread
  rw [ht] at hthread
  -- Without callbacks the daemon has returned, and shows no role.
  have hreturned : d.hasCallbacks = false → d.ShowsStandby ∧ d.Without .inference := by
    intro hno
    obtain ⟨hm, hbyte⟩ := h.noCallbacks hno
    refine ⟨fun byte hb => ?_, h.without (by simp [Stopped, hm])⟩
    rw [hbyte] at hb
    cases hb
  unfold CoordinatorDaemon.iterate
  cases hrole : d.standbyManager.currentRole with
  | master =>
      rw [if_pos (by simp [StandbyManager.isMaster, hrole])]
      have hsame := renewMasterLock_role d.standbyManager it.renew
      rcases hrenew : d.standbyManager.renewMasterLock it.renew with ⟨renewed, m⟩
      rw [hrenew, hrole] at hsame
      cases renewed with
      | true =>
          refine ⟨h.managed, fun hstandby => ?_, h.main, h.stopped, h.noCallbacks, h.starting⟩
          replace hstandby : m.currentRole = .standby := hstandby
          replace hsame : m.currentRole = .master := hsame
          rw [hsame] at hstandby
          cases hstandby
      | false =>
          refine ⟨h.managed, ?_, h.main, h.stopped, h.noCallbacks, h.starting⟩
          unfold ThreadKeeps
          cases hcall : d.hasCallbacks with
          | true => exact rfl
          | false => exact fun _ => hreturned hcall
  | standby =>
      rw [if_neg (by simp [StandbyManager.isMaster, hrole])]
      obtain ⟨hshows, hempty⟩ := hthread hrole
      rcases StandbyManager.tryBecomeMaster_cases hrole (d.standbyStopEvent && it.stopped) it.lock with
        heq | ⟨c, heq, -⟩
      · rw [heq]
        exact ⟨h.managed, fun _ => ⟨hshows, hempty⟩, h.main, h.stopped, h.noCallbacks, h.starting⟩
      · rw [heq]
        refine ⟨h.managed, ?_, h.main, h.stopped, h.noCallbacks, h.starting⟩
        unfold ThreadKeeps
        cases hcall : d.hasCallbacks with
        | true => exact ⟨rfl, hempty⟩
        | false => exact fun _ => ⟨hshows, hempty⟩

theorem showsStandby_write (d : CoordinatorDaemon) : (d.writeRoleShmByte roleShmStandby).ShowsStandby := by
  intro byte hbyte
  obtain ⟨_, -, heq⟩ := Option.map_eq_some_iff.1 hbyte
  exact heq.symm

theorem noCallbacks_write (h : d.Guarded) (byte : UInt8) (hno : d.hasCallbacks = false) :
    d.main = .returned ∧ (d.writeRoleShmByte byte).roleByte = none := by
  obtain ⟨hm, hbyte⟩ := h.noCallbacks hno
  exact ⟨hm, by simp [writeRoleShmByte, hbyte]⟩

theorem MainKeeps.withManager (h : d.MainKeeps) {method : ProcessManager → ProcessManager}
    (hmethod : d.Stopped key → ∀ m, d.processManagers.get? key = some m → m.Emptied → (method m).Emptied) :
    (d.withManager key method).MainKeeps := by
  unfold Stopped at hmethod
  unfold MainKeeps at h ⊢
  show match d.main with
    | .supervising => True
    | .stopping rest => d.supervisor = .ended ∧ ∀ other, other ∉ rest → (d.withManager key method).Without other
    | .joining => d.supervisor = .ended ∧ ∀ other, (d.withManager key method).Without other
    | .returned => d.supervisor = .ended ∧ ∀ other, (d.withManager key method).Without other
  cases hm : d.main with
  | supervising => trivial
  | stopping rest =>
      rw [hm] at h hmethod
      exact ⟨h.1, fun other hno => (h.2 other hno).withManager fun he => hmethod (he ▸ hno)⟩
  | joining =>
      rw [hm] at h hmethod
      exact ⟨h.1, fun other => (h.2 other).withManager fun _ => hmethod trivial⟩
  | returned =>
      rw [hm] at h hmethod
      exact ⟨h.1, fun other => (h.2 other).withManager fun _ => hmethod trivial⟩

theorem Guarded.standbyStep (h : d.Guarded) {it : Iteration} {spawns exits : Nat → Bool}
    (hok : d.Sound (.standby it spawns exits)) : (d.standbyStep it spawns exits).Guarded := by
  have hthread := h.thread
  unfold ThreadKeeps at hthread
  unfold CoordinatorDaemon.standbyStep
  cases ht : d.thread with
  | looping =>
      rw [ht] at hthread
      dsimp only
      split
      · rename_i hstop
        exact h.endLoop ht hstop (hok.1 ht hstop) _
      · exact ⟨h.managed, hthread, h.main, h.stopped, h.noCallbacks, h.starting⟩
  | iterating => exact h.iterate ht it
  | writingMaster =>
      rw [ht] at hthread
      exact ⟨h.managed, hthread, h.main, h.stopped, noCallbacks_write h _, h.starting⟩
  | startingInference =>
      rw [ht] at hthread
      obtain ⟨hnot, hsound⟩ := hok.2 ht
      refine ⟨h.managed.withManager fun m hget => (h.managed _ m hget).start (hsound m hget), fun hstandby => ?_,
        h.main.withManager fun hstopped => absurd hstopped hnot, h.stopped, h.noCallbacks, h.starting⟩
      exact absurd (hthread.1.symm.trans hstandby) (by decide)
  | writingStandby =>
      rw [ht] at hthread
      exact ⟨h.managed, ⟨hthread, showsStandby_write d⟩, h.main, h.stopped, noCallbacks_write h _, h.starting⟩
  | stoppingInference =>
      rw [ht] at hthread
      exact ⟨h.managed.withManager fun m hget => (h.managed _ m hget).stop,
        fun _ => ⟨hthread.2, h.managed.without_stopProcess .inference⟩,
        h.main.withManager fun _ m hget _ => (h.managed _ m hget).tidy.emptied_stop, h.stopped, h.noCallbacks, h.starting⟩
  | ended => exact h

/-! ## The supervisor -/

theorem Guarded.supervising (h : d.Guarded) (hs : d.supervisor ≠ .ended) : d.main = .supervising := by
  have hmain := h.main
  unfold MainKeeps at hmain
  cases hm : d.main with
  | supervising => rfl
  | stopping rest =>
      rw [hm] at hmain
      exact absurd hmain.1 hs
  | joining =>
      rw [hm] at hmain
      exact absurd hmain.1 hs
  | returned =>
      rw [hm] at hmain
      exact absurd hmain.1 hs

theorem Guarded.withSupervisor (h : d.Guarded) (hm : d.main = .supervising) (supervisor : Supervisor)
    (hkey : ∀ supervised key rest, supervisor = .starting supervised key rest → key ≠ .inference) :
    { d with supervisor := supervisor }.Guarded := by
  refine ⟨h.managed, h.thread, ?_, h.stopped, h.noCallbacks, hkey⟩
  unfold MainKeeps
  show match d.main with
    | .supervising => True
    | .stopping rest => supervisor = .ended ∧ ∀ key, key ∉ rest → d.Without key
    | .joining => supervisor = .ended ∧ ∀ key, d.Without key
    | .returned => supervisor = .ended ∧ ∀ key, d.Without key
  rw [hm]
  trivial

theorem Guarded.nextCheck (h : d.Guarded) (hm : d.main = .supervising) (supervised rest : List ProcessKey) :
    (d.nextCheck supervised rest).Guarded := by
  cases rest with
  | nil =>
      refine h.withSupervisor hm _ fun _ _ _ he => ?_
      split at he
      · cases he
      · cases he
  | cons key rest => exact h.withSupervisor hm _ fun _ _ _ he => (nomatch he)

theorem Guarded.withManager (h : d.Guarded) {method : ProcessManager → ProcessManager}
    (hmethod : ∀ m, d.processManagers.get? key = some m → Proper key (method m))
    (hempty : key = .inference ∨ d.Stopped key →
      ∀ m, d.processManagers.get? key = some m → m.Emptied → (method m).Emptied) :
    (d.withManager key method).Guarded := by
  have hkeep : d.Without .inference → (d.withManager key method).Without .inference :=
    fun hw => hw.withManager fun he => hempty (.inl he.symm)
  have hthread := h.thread
  refine ⟨h.managed.withManager hmethod, ?_, h.main.withManager fun hs => hempty (.inr hs), h.stopped, h.noCallbacks, h.starting⟩
  unfold ThreadKeeps at hthread ⊢
  show match d.thread with
    | .looping => d.standbyManager.currentRole = .standby → d.ShowsStandby ∧ (d.withManager key method).Without .inference
    | .iterating =>
      d.standbyManager.currentRole = .standby → d.ShowsStandby ∧ (d.withManager key method).Without .inference
    | .writingMaster => d.standbyManager.currentRole = .master ∧ (d.withManager key method).Without .inference
    | .startingInference => d.standbyManager.currentRole = .master ∧ (d.withManager key method).Without .inference
    | .writingStandby => d.standbyManager.currentRole = .standby
    | .stoppingInference => d.standbyManager.currentRole = .standby ∧ d.ShowsStandby
    | .ended =>
      d.standbyManager.currentRole = .standby ∧ d.ShowsStandby ∧ (d.withManager key method).Without .inference
  cases ht : d.thread with
  | looping =>
      rw [ht] at hthread
      exact fun hrole => ⟨(hthread hrole).1, hkeep (hthread hrole).2⟩
  | iterating =>
      rw [ht] at hthread
      exact fun hrole => ⟨(hthread hrole).1, hkeep (hthread hrole).2⟩
  | writingMaster =>
      rw [ht] at hthread
      exact ⟨hthread.1, hkeep hthread.2⟩
  | startingInference =>
      rw [ht] at hthread
      exact ⟨hthread.1, hkeep hthread.2⟩
  | writingStandby =>
      rw [ht] at hthread
      exact hthread
  | stoppingInference =>
      rw [ht] at hthread
      exact hthread
  | ended =>
      rw [ht] at hthread
      exact ⟨hthread.1, hthread.2.1, hkeep hthread.2.2⟩

theorem Guarded.stopProcess (h : d.Guarded) (key : ProcessKey) : (d.stopProcess key).Guarded :=
  h.withManager (fun m hget => (h.managed _ m hget).stop) fun _ m hget _ => (h.managed _ m hget).tidy.emptied_stop

theorem Guarded.startProcess (h : d.Guarded) (hkey : key ≠ .inference) (hm : d.main = .supervising)
    (spawns exits : Nat → Bool) : (d.startProcess key spawns exits).Guarded := by
  refine h.withManager (fun m hget => ?_) fun hno => ?_
  · have hproper := h.managed _ m hget
    obtain ⟨hcls, hcount⟩ := hproper.base hkey
    exact hproper.start (hproper.tidy.supervisionSound_base hcls hcount spawns exits)
  · rcases hno with hno | hno
    · exact absurd hno hkey
    · simp [Stopped, hm] at hno

theorem Guarded.supervisorStep (h : d.Guarded) (canRestart : Bool) (spawns exits : Nat → Bool) :
    (d.supervisorStep canRestart spawns exits).Guarded := by
  unfold CoordinatorDaemon.supervisorStep
  cases hs : d.supervisor with
  | sleeping => exact h.nextCheck (h.supervising (by simp [hs])) _ _
  | checking supervised key rest =>
      have hm := h.supervising (by simp [hs])
      dsimp only
      split
      · exact h.withSupervisor hm _ fun _ _ _ he => (nomatch he)
      · exact h.nextCheck hm _ _
  | restarting supervised key rest =>
      have hm := h.supervising (by simp [hs])
      dsimp only
      split
      · rename_i hkey
        subst hkey
        refine Guarded.nextCheck (h.withManager (fun m hget => ?_) fun _ m hget => ?_) hm _ _
        · exact ((h.managed _ m hget).restartDeadWorkers spawns exits).1
        · exact ((h.managed _ m hget).restartDeadWorkers spawns exits).2
      · rename_i hkey
        refine (h.stopProcess key).withSupervisor hm _ fun _ _ _ he => ?_
        cases he
        exact hkey
  | starting supervised key rest =>
      have hm := h.supervising (by simp [hs])
      exact (h.startProcess (h.starting supervised key rest hs) hm spawns exits).nextCheck hm _ _
  | ended => exact h

/-! ## The end of `run` -/

theorem Guarded.mainStep (h : d.Guarded) : d.mainStep.Guarded := by
  have hmain := h.main
  unfold MainKeeps at hmain
  unfold CoordinatorDaemon.mainStep
  cases hm : d.main with
  | supervising =>
      dsimp only
      split
      · rename_i hended
        refine ⟨h.managed, h.thread, ⟨hended, fun key hno => ?_⟩, fun hstop => ?_, fun hno => ?_, h.starting⟩
        · exact absurd (show key ∈ stopOrder by cases key <;> decide) hno
        · rcases h.stopped hstop with hno | hno
          · rw [hm] at hno
            cases hno
          · rw [hm] at hno
            cases hno
        · have hno := (h.noCallbacks hno).1
          rw [hm] at hno
          cases hno
      · exact h
  | stopping rest =>
      rw [hm] at hmain
      have hno : d.standbyStopEvent = true → False := fun hstop => by
        rcases h.stopped hstop with he | he
        · rw [hm] at he
          cases he
        · rw [hm] at he
          cases he
      have hcall : d.hasCallbacks = false → False := fun hcall => by
        have he := (h.noCallbacks hcall).1
        rw [hm] at he
        cases he
      cases rest with
      | nil =>
          exact ⟨h.managed, h.thread, ⟨hmain.1, fun key => hmain.2 key List.not_mem_nil⟩, fun _ => .inl rfl,
            fun hc => (hcall hc).elim, h.starting⟩
      | cons key rest =>
          have hstop := h.stopProcess key
          refine ⟨hstop.managed, hstop.thread, ⟨hmain.1, fun other hnot => ?_⟩, fun hs => (hno hs).elim,
            fun hc => (hcall hc).elim, h.starting⟩
          by_cases he : other = key
          · rw [he]
            exact h.managed.without_stopProcess key
          · exact (hmain.2 other fun hmem => (List.mem_cons.1 hmem).elim he hnot).stopProcess h.managed key
  | joining =>
      rw [hm] at hmain
      have hthread := h.thread
      unfold ThreadKeeps at hthread
      refine ⟨h.managed, ?_, hmain, fun _ => .inr rfl, fun _ => ⟨rfl, rfl⟩, h.starting⟩
      -- Without the shared memory no role is shown.
      have hshows : ShowsStandby { d with hasCallbacks := false, roleByte := none, main := .returned } :=
        fun _ hbyte => nomatch hbyte
      unfold ThreadKeeps
      dsimp only
      cases ht : d.thread with
      | looping =>
          rw [ht] at hthread
          exact fun hrole => ⟨hshows, (hthread hrole).2⟩
      | iterating =>
          rw [ht] at hthread
          exact fun hrole => ⟨hshows, (hthread hrole).2⟩
      | writingMaster =>
          rw [ht] at hthread
          exact hthread
      | startingInference =>
          rw [ht] at hthread
          exact hthread
      | writingStandby =>
          rw [ht] at hthread
          exact hthread
      | stoppingInference =>
          rw [ht] at hthread
          exact ⟨hthread.1, hshows⟩
      | ended =>
          rw [ht] at hthread
          exact ⟨hthread.1, hshows, hthread.2.2⟩
  | returned => exact h

/-! ## Runs -/

theorem Guarded.step (h : d.Guarded) (event : Event) (hok : d.Sound event) : (d.step event).Guarded := by
  cases event with
  | standby it spawns exits => exact h.standbyStep hok
  | supervise canRestart spawns exits => exact h.supervisorStep canRestart spawns exits
  | stopSignal => exact ⟨h.managed, h.thread, h.main, h.stopped, h.noCallbacks, h.starting⟩
  | cancel =>
      show (if d.supervisor = .sleeping then _ else d : CoordinatorDaemon).Guarded
      split
      · rename_i hs
        exact h.withSupervisor (h.supervising (by simp [hs])) _ fun _ _ _ he => (nomatch he)
      · exact h
  | shutdown => exact h.mainStep
  | die key pid =>
      exact h.withManager (fun m hget => (h.managed _ m hget).exit _) fun _ m _ hempty => hempty.exit _

theorem get?_initializeProcessManagers (numWorkers : Option Nat) (key : ProcessKey) (m : ProcessManager)
    (hget : (initializeProcessManagers numWorkers).get? key = some m) : Proper key m ∧ m.Emptied := by
  have hbase : ∀ key, key ≠ .inference → Proper key { cls := .base, processCount := 1 } :=
    fun _ hkey => ⟨tidy_new .base 1, fun he => absurd he hkey, fun _ => ⟨rfl, rfl⟩⟩
  have htwo : ∀ {m}, ((Dict.empty.set .scheduler ({ cls := .base, processCount := 1 } : ProcessManager)).set .mgmt
      { cls := .base, processCount := 1 }).get? key = some m → Proper key m ∧ m.Emptied := by
    intro m hget
    rw [Dict.get?_set] at hget
    split at hget
    · rename_i hkey
      cases hget
      exact ⟨hbase key (by simp [hkey]), rfl, rfl⟩
    · rw [Dict.get?_set] at hget
      split at hget
      · rename_i hkey
        cases hget
        exact ⟨hbase key (by simp [hkey]), rfl, rfl⟩
      · cases hget
  unfold initializeProcessManagers at hget
  cases numWorkers with
  | none => exact htwo hget
  | some numWorkers =>
      dsimp only at hget
      rw [Dict.get?_set] at hget
      split at hget
      · rename_i hkey
        cases hget
        exact ⟨⟨tidy_new .inference numWorkers, fun _ => rfl, fun hno => absurd hkey hno⟩, rfl, rfl⟩
      · exact htwo hget

theorem guarded_start (c : EtcdClient) (masterLockKey : String) (maxLockFailures : Nat) (numWorkers : Option Nat)
    (hasShm : Bool) (spawns exits : ProcessKey → Nat → Bool) :
    (start c masterLockKey maxLockFailures numWorkers hasShm spawns exits).Guarded := by
  have hempty := get?_initializeProcessManagers numWorkers
  have hstart : Guarded
      { processManagers := initializeProcessManagers numWorkers
        standbyManager := .start c masterLockKey maxLockFailures
        roleByte := if hasShm then some roleShmStandby else none } := by
    refine ⟨fun key m hget => (hempty key m hget).1, fun _ => ⟨fun byte hbyte => ?_, fun m hget => (hempty _ m hget).2⟩,
      trivial, fun hno => (nomatch hno), fun hno => (nomatch hno), fun _ _ _ hno => (nomatch hno)⟩
    dsimp only at hbyte
    split at hbyte
    · exact (Option.some.inj hbyte).symm
    · cases hbyte
  exact (hstart.startProcess (by decide) rfl _ _).startProcess (by decide) rfl _ _

end CoordinatorDaemon

end PyMotor
