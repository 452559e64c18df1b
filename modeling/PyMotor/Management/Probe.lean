import PyMotor.Daemon.CoordinatorDaemon
import PyMotor.Lib.Run
import PyMotor.Lib.Struct
import PyMotor.Router.Dispatch

/-!
# The probes of the coordinator

`motor/coordinator/domain/probe.py`, the routes `/liveness` and `/readiness` of
`motor/coordinator/api_server/management_server.py`, and what `motor/coordinator/daemon/role_shm_holder.py` writes.
-/

namespace PyMotor

open Lib

/-! ## The shared memory of the role -/

def roleShmSize : Nat := 9

structure RoleHeartbeatResult where
  isMaster : Bool
  heartbeatStale : Bool
  orphaned : Bool
deriving DecidableEq, Repr

/-- `staleSec` is `ROLE_HEARTBEAT_STALE_SEC`. -/
structure RoleShmDaemonLivenessProvider where
  daemonPid : Option Nat
  staleSec : ℚ := 5

namespace RoleShmDaemonLivenessProvider

variable (p : RoleShmDaemonLivenessProvider)

/-- `nowNs` is `time.monotonic_ns()`. -/
def isHeartbeatStale (shmBuf : Bytes) (nowNs : Nat) : Bool :=
  if shmBuf.length < roleShmSize then false
  else
    let heartbeatNs := Struct.ofLeBytes (Struct.slice shmBuf 1 8)
    if heartbeatNs = 0 then false
    else
      let ageNs : Int := nowNs - heartbeatNs
      let staleThresholdNs := (p.staleSec * 10 ^ 9).floor
      if ageNs < 0 then false
      else if ageNs ≤ staleThresholdNs then false
      else true

/-- `ppid` is `os.getppid()`; there may be no shared memory. -/
def readRoleAndHeartbeat (ppid : Nat) (shm : Option Bytes) (nowNs : Nat) : RoleHeartbeatResult :=
  if p.daemonPid.any fun pid => pid ≠ 0 ∧ ppid ≠ pid then
    { isMaster := false, heartbeatStale := false, orphaned := true }
  else
    match shm with
    | none => { isMaster := false, heartbeatStale := false, orphaned := false }
    | some buf =>
      { isMaster := buf[0]? = some roleShmMaster
        heartbeatStale := p.isHeartbeatStale buf nowNs
        orphaned := false }

end RoleShmDaemonLivenessProvider

/-! ## Decisions -/

inductive LivenessResult
  | ok
  | daemonExited
  | heartbeatStale
deriving DecidableEq, Repr

inductive ReadinessResult
  | okMaster
  | okStandby
  | notMaster
  | heartbeatStale
  | daemonExited
deriving DecidableEq, Repr

structure ReadinessProbeOutput where
  result : ReadinessResult
  isReady : Bool
  instanceReadiness : InstanceReadiness
deriving DecidableEq, Repr

def LivenessResult.check (r : RoleHeartbeatResult) : LivenessResult :=
  if r.orphaned then .daemonExited
  else if r.heartbeatStale then .heartbeatStale
  else .ok

structure ReadinessProbe where
  deployMode : DeployMode := .pdSeparate
  enableMasterStandby : Bool := true

def ReadinessProbe.check (p : ReadinessProbe) (m : InstanceManager) (r : RoleHeartbeatResult) : ReadinessProbeOutput :=
  let readiness := m.getRequiredInstancesStatus (some p.deployMode)
  let isReady := readiness.isReady || readiness = .onlyPrefill
  let result :=
    if r.orphaned then ReadinessResult.daemonExited
    else if r.heartbeatStale then .heartbeatStale
    else if p.enableMasterStandby then
      if r.isMaster then .okMaster else .notMaster
    else .okStandby
  let outReady := (result = .okMaster ∨ result = .okStandby) && isReady
  { result := result, isReady := outReady, instanceReadiness := readiness }

/-! ## Routes -/

def readiness503 : ReadinessResult → Option String
  | .daemonExited => some "Coordinator daemon has exited; not ready"
  | .heartbeatStale => some "Coordinator daemon heartbeat stale; not ready"
  | .notMaster => some "Coordinator is not master"
  | .okMaster => none
  | .okStandby => none

/-- The route `/liveness`; an error is the detail of a 503. -/
def livenessCheck (r : RoleHeartbeatResult) : Except String String :=
  match LivenessResult.check r with
  | .ok => .ok "Coordinator is alive"
  | .daemonExited => .error "Coordinator daemon has exited; liveness failed for pod restart"
  | .heartbeatStale => .error "Coordinator daemon heartbeat stale; liveness failed for pod restart"

/-- The route `/readiness`: the message and `ready`, or the detail of a 503. -/
def ReadinessProbe.readinessCheck (p : ReadinessProbe) (m : InstanceManager) (r : RoleHeartbeatResult) :
    Except String (String × Bool) :=
  let out := p.check m r
  match readiness503 out.result with
  | some detail => .error detail
  | none => .ok (if out.result = .okMaster then "Coordinator is master" else "Coordinator is ok", out.isReady)

/-- What the heartbeat detector of the controller gets: `query_status` raises on a 503. -/
def queryStatus : Except String (String × Bool) → Option (Option Bool)
  | .ok (_, ready) => some (some ready)
  | .error _ => none

/-! ## What the answers mean -/

variable {p : ReadinessProbe} {m : InstanceManager} {r : RoleHeartbeatResult}

/-- The coordinator has the instances that its deploy mode admits requests with. -/
def ReadinessProbe.Admits (p : ReadinessProbe) (m : InstanceManager) : Prop :=
  m.getRequiredInstancesStatus (some p.deployMode) ∈ [InstanceReadiness.requiredMet, .onlyPrefill]

/-- The process is that of a live daemon, which is master if there is a standby. -/
def ReadinessProbe.Serves (p : ReadinessProbe) (r : RoleHeartbeatResult) : Prop :=
  r.orphaned = false ∧ r.heartbeatStale = false ∧ (p.enableMasterStandby = true → r.isMaster = true)

theorem livenessCheck_ok :
    (∃ message, livenessCheck r = .ok message) ↔ r.orphaned = false ∧ r.heartbeatStale = false := by
  obtain ⟨isMaster, heartbeatStale, orphaned⟩ := r
  cases orphaned <;> cases heartbeatStale <;> simp [livenessCheck, LivenessResult.check]

namespace ReadinessProbe

instance (p : ReadinessProbe) (m : InstanceManager) : Decidable (p.Admits m) := inferInstanceAs (Decidable (_ ∈ _))

instance (p : ReadinessProbe) (r : RoleHeartbeatResult) : Decidable (p.Serves r) :=
  inferInstanceAs (Decidable (_ = _ ∧ _ = _ ∧ (_ → _)))

theorem queryStatus_readinessCheck :
    queryStatus (p.readinessCheck m r) = if p.Serves r then some (some (decide (p.Admits m))) else none := by
  obtain ⟨isMaster, heartbeatStale, orphaned⟩ := r
  obtain ⟨deployMode, enableMasterStandby⟩ := p
  cases orphaned <;> cases heartbeatStale <;> cases enableMasterStandby <;> cases isMaster <;>
    simp [queryStatus, readinessCheck, check, readiness503, Serves, Admits, InstanceReadiness.isReady]

theorem readinessCheck_ok : (∃ answer, p.readinessCheck m r = .ok answer) ↔ p.Serves r := by
  have hstatus := queryStatus_readinessCheck (p := p) (m := m) (r := r)
  cases hanswer : p.readinessCheck m r with
  | ok answer =>
      rw [hanswer] at hstatus
      by_cases hs : p.Serves r
      · simp [hs]
      · rw [if_neg hs] at hstatus
        cases hstatus
  | error detail =>
      rw [hanswer] at hstatus
      by_cases hs : p.Serves r
      · rw [if_pos hs] at hstatus
        cases hstatus
      · simp [hs]

end ReadinessProbe

/-! ## The holder of the shared memory -/

namespace RoleShmHolder

/-- `struct.pack` raises on a time that does not fit, and the heartbeat stays. -/
def writeHeartbeat (buf : Bytes) (nowNs : Nat) : Bytes :=
  if nowNs < 256 ^ 8 then Struct.overwrite buf 1 (Struct.leBytes 8 nowNs) else buf

def writeInitial (initialRoleMaster : Bool) (buf : Bytes) (nowNs : Nat) : Bytes :=
  writeHeartbeat (if initialRoleMaster then buf.set 0 roleShmMaster else buf) nowNs

/-- `start`: a shared memory that is there is taken over if it is large enough. -/
def start (initialRoleMaster : Bool) (shm : Option Bytes) (nowNs : Nat) : Bytes :=
  match shm with
  | none => writeInitial initialRoleMaster (List.replicate roleShmSize 0) nowNs
  | some existing =>
    if roleShmSize ≤ existing.length then writeInitial initialRoleMaster existing nowNs
    else writeInitial initialRoleMaster (List.replicate roleShmSize 0) nowNs

end RoleShmHolder

/-! ## A daemon and its management processes -/

/-- `ready` is whether `run` is past the shared memory, `role` what the last callback said, and `beat` when the
heartbeat was written last. -/
structure RoleDaemon where
  pid : Nat
  ready : Bool := false
  role : StandbyRole
  beat : Nat

structure MgmtProcess where
  daemonPid : Nat
  ppid : Nat
deriving DecidableEq

/-- The processes of one pod on their host. The shared memory outlives the processes. -/
structure CoordinatorPod where
  enableMasterStandby : Bool := true
  nowNs : Nat
  shm : Option Bytes := none
  daemon : Option RoleDaemon := none
  mgmts : List MgmtProcess := []

namespace CoordinatorPod

inductive Event
  | tick (ns : Nat)
  | start (pid : Nat)
  /-- `run` writes the first role, and goes on. -/
  | showRole
  | spawn
  | heartbeat
  /-- `_on_become_master` or `_on_become_standby`. -/
  | become (role : StandbyRole)
  | exit (mgmt : MgmtProcess)
  /-- The daemon dies, or it returns and unlinks the shared memory. What it leaves behind gets another parent. -/
  | leave (reaper : Nat) (unlinks : Bool)
  /-- The container is started again, with the shared memory of before. -/
  | reset

/-- The role of a daemon before its first callback. -/
def firstRole (enableMasterStandby : Bool) : StandbyRole := if enableMasterStandby then .standby else .master

def roleByte : StandbyRole → UInt8
  | .master => roleShmMaster
  | .standby => roleShmStandby

def step (s : CoordinatorPod) : Event → CoordinatorPod
  | .tick ns => { s with nowNs := s.nowNs + ns }
  | .start pid =>
    match s.daemon with
    | some _ => s
    | none =>
      { s with
        shm := some (RoleShmHolder.start (!s.enableMasterStandby) s.shm s.nowNs)
        daemon := some
          { pid := pid, role := firstRole s.enableMasterStandby, beat := s.nowNs } }
  | .showRole =>
    match s.daemon with
    | none => s
    | some d =>
      if d.ready then s
      else
        { s with
          shm := if s.enableMasterStandby then s.shm.map (·.set 0 roleShmStandby) else s.shm
          daemon := some { d with ready := true } }
  | .spawn =>
    match s.daemon with
    | none => s
    | some d => if d.ready then { s with mgmts := s.mgmts ++ [⟨d.pid, d.pid⟩] } else s
  | .heartbeat =>
    match s.daemon with
    | none => s
    | some d =>
      { s with
        shm := s.shm.map fun buf => RoleShmHolder.writeHeartbeat buf s.nowNs
        daemon := some { d with beat := s.nowNs } }
  | .become role =>
    match s.daemon with
    | none => s
    | some d =>
      if s.enableMasterStandby && d.ready then
        { s with
          shm := s.shm.map (·.set 0 (roleByte role))
          daemon := some { d with role := role } }
      else s
  | .exit mgmt => { s with mgmts := s.mgmts.erase mgmt }
  | .leave reaper unlinks =>
    match s.daemon with
    | none => s
    | some d =>
      { s with
        shm := if unlinks then none else s.shm
        daemon := none
        mgmts := s.mgmts.map fun q => if q.ppid = d.pid then { q with ppid := reaper } else q }
  | .reset => { s with daemon := none, mgmts := [] }

/-- The time fits into eight bytes, no daemon has the pid 0, and what is left behind gets a parent that is not the daemon. -/
def Sound (s : CoordinatorPod) : Event → Prop
  | .tick ns => s.nowNs + ns < 256 ^ 8
  | .start pid => pid ≠ 0
  | .leave reaper _ => ∀ q ∈ s.mgmts, q.daemonPid ≠ reaper
  | _ => True

instance (s : CoordinatorPod) (event : Event) : Decidable (s.Sound event) :=
  match event with
  | .tick ns => inferInstanceAs (Decidable (s.nowNs + ns < 256 ^ 8))
  | .start pid => inferInstanceAs (Decidable (pid ≠ 0))
  | .leave reaper _ => inferInstanceAs (Decidable (∀ q ∈ s.mgmts, q.daemonPid ≠ reaper))
  | .showRole | .spawn | .heartbeat | .become _ | .exit _ | .reset => inferInstanceAs (Decidable True)

/-- A pod without processes, and with the shared memory that is left from before. -/
def found (enableMasterStandby : Bool) (nowNs : Nat) (shm : Option Bytes) : CoordinatorPod :=
  { enableMasterStandby := enableMasterStandby, nowNs := nowNs, shm := shm }

/-- What the process reads before it answers. -/
def reads (s : CoordinatorPod) (q : MgmtProcess) : RoleHeartbeatResult :=
  RoleShmDaemonLivenessProvider.readRoleAndHeartbeat { daemonPid := some q.daemonPid } q.ppid s.shm s.nowNs

/-- The process is a child of a daemon that has written its heartbeat in the last five seconds. -/
def Watched (s : CoordinatorPod) (q : MgmtProcess) : Prop :=
  ∃ d, s.daemon = some d ∧ q.ppid = d.pid ∧ q.daemonPid = d.pid ∧ s.nowNs ≤ d.beat + 5 * 10 ^ 9

/-! ## The buffer -/

theorem length_writeHeartbeat {buf : Bytes} (h : roleShmSize ≤ buf.length) (nowNs : Nat) :
    (RoleShmHolder.writeHeartbeat buf nowNs).length = buf.length := by
  unfold RoleShmHolder.writeHeartbeat
  split
  · exact Struct.length_overwrite (by rw [Struct.length_leBytes]; exact h)
  · rfl

theorem role_writeHeartbeat {buf : Bytes} (h : roleShmSize ≤ buf.length) (nowNs : Nat) :
    (RoleShmHolder.writeHeartbeat buf nowNs)[0]? = buf[0]? := by
  have hlength : 1 ≤ buf.length := le_trans (by decide) h
  unfold RoleShmHolder.writeHeartbeat
  split
  · exact Struct.getElem?_overwrite_of_lt hlength (by decide)
  · rfl

theorem slice_writeHeartbeat {buf : Bytes} (h : roleShmSize ≤ buf.length) {nowNs : Nat} (hnow : nowNs < 256 ^ 8) :
    Struct.slice (RoleShmHolder.writeHeartbeat buf nowNs) 1 8 = Struct.leBytes 8 nowNs := by
  have hself : Struct.slice (Struct.overwrite buf 1 (Struct.leBytes 8 nowNs)) 1 (Struct.leBytes 8 nowNs).length =
      Struct.leBytes 8 nowNs := Struct.slice_overwrite_self (by rw [Struct.length_leBytes]; exact h)
  rw [Struct.length_leBytes] at hself
  rw [RoleShmHolder.writeHeartbeat, if_pos hnow]
  exact hself

theorem slice_set_zero (buf : Bytes) (b : UInt8) : Struct.slice (buf.set 0 b) 1 8 = Struct.slice buf 1 8 := by
  cases buf <;> rfl

/-- A buffer with the heartbeat of a time. -/
structure Beats (buf : Bytes) (beat : Nat) : Prop where
  size : roleShmSize ≤ buf.length
  slice : Struct.slice buf 1 8 = Struct.leBytes 8 beat

theorem Beats.set {buf : Bytes} {beat : Nat} (h : Beats buf beat) (b : UInt8) : Beats (buf.set 0 b) beat where
  size := by
    rw [List.length_set]
    exact h.size
  slice := (slice_set_zero buf b).trans h.slice

theorem beats_writeHeartbeat {buf : Bytes} (h : roleShmSize ≤ buf.length) {nowNs : Nat} (hnow : nowNs < 256 ^ 8) :
    Beats (RoleShmHolder.writeHeartbeat buf nowNs) nowNs where
  size := by
    rw [length_writeHeartbeat h]
    exact h
  slice := slice_writeHeartbeat h hnow

theorem start_spec (initialRoleMaster : Bool) (shm : Option Bytes) {nowNs : Nat} (hnow : nowNs < 256 ^ 8) :
    Beats (RoleShmHolder.start initialRoleMaster shm nowNs) nowNs ∧
    (initialRoleMaster = true → (RoleShmHolder.start initialRoleMaster shm nowNs)[0]? = some roleShmMaster) := by
  have hinitial : ∀ buf : Bytes, roleShmSize ≤ buf.length →
      Beats (RoleShmHolder.writeInitial initialRoleMaster buf nowNs) nowNs ∧
      (initialRoleMaster = true → (RoleShmHolder.writeInitial initialRoleMaster buf nowNs)[0]? = some roleShmMaster) := by
    intro buf hbuf
    unfold RoleShmHolder.writeInitial
    cases initialRoleMaster with
    | false => exact ⟨beats_writeHeartbeat hbuf hnow, fun h => nomatch h⟩
    | true =>
        have hset : roleShmSize ≤ (buf.set 0 roleShmMaster).length := by
          rw [List.length_set]
          exact hbuf
        refine ⟨beats_writeHeartbeat hset hnow, fun _ => ?_⟩
        rw [if_pos rfl, role_writeHeartbeat hset, List.getElem?_set_self (lt_of_lt_of_le (by decide) hbuf)]
  unfold RoleShmHolder.start
  cases shm with
  | none => exact hinitial _ (by decide)
  | some existing =>
      dsimp only
      split
      · rename_i hsize
        exact hinitial existing hsize
      · exact hinitial _ (by decide)

theorem isHeartbeatStale_of_beats (pid : Nat) {buf : Bytes} {beat nowNs : Nat} (h : Beats buf beat) (hpos : 0 < beat)
    (hle : beat ≤ nowNs) (hnow : nowNs < 256 ^ 8) :
    RoleShmDaemonLivenessProvider.isHeartbeatStale { daemonPid := some pid } buf nowNs =
      decide (beat + 5 * 10 ^ 9 < nowNs) := by
  have hbeat : Struct.ofLeBytes (Struct.slice buf 1 8) = beat := by
    rw [h.slice, Struct.ofLeBytes_leBytes (lt_of_le_of_lt hle hnow)]
  have hthreshold : ((5 : ℚ) * 10 ^ 9).floor = 5 * 10 ^ 9 := by decide +kernel
  unfold RoleShmDaemonLivenessProvider.isHeartbeatStale
  rw [if_neg (not_lt.mpr h.size), hbeat, if_neg hpos.ne']
  dsimp only
  rw [hthreshold]
  split
  · omega
  · split
    · symm
      rw [decide_eq_false_iff_not]
      omega
    · symm
      rw [decide_eq_true_eq]
      omega

/-! ## Runs -/

/-- The shared memory has the heartbeat of the daemon, and its role once it has been shown. -/
structure Shows (enableMasterStandby : Bool) (nowNs : Nat) (d : RoleDaemon) (buf : Bytes) : Prop where
  beats : Beats buf d.beat
  positive : 0 < d.beat
  past : d.beat ≤ nowNs
  role : d.ready = true ∨ enableMasterStandby = false → buf[0]? = some (roleByte d.role)
  first : d.ready = false ∨ enableMasterStandby = false → d.role = firstRole enableMasterStandby

section

variable {enableMasterStandby : Bool} {nowNs : Nat} {d : RoleDaemon} {buf : Bytes}

theorem Shows.tick (h : Shows enableMasterStandby nowNs d buf) (ns : Nat) :
    Shows enableMasterStandby (nowNs + ns) d buf :=
  ⟨h.beats, h.positive, Nat.le_add_right_of_le h.past, h.role, h.first⟩

theorem shows_start (shm : Option Bytes) (hpos : 0 < nowNs) (hlt : nowNs < 256 ^ 8) (pid : Nat) :
    Shows enableMasterStandby nowNs { pid := pid, role := firstRole enableMasterStandby, beat := nowNs }
      (RoleShmHolder.start (!enableMasterStandby) shm nowNs) := by
  obtain ⟨hbeats, hrole⟩ := start_spec (!enableMasterStandby) shm hlt
  refine ⟨hbeats, hpos, le_rfl, ?_, fun _ => rfl⟩
  rintro (hr | rfl)
  · cases hr
  · exact hrole rfl

theorem Shows.showRole (h : Shows enableMasterStandby nowNs d buf) (hready : d.ready = false) :
    Shows enableMasterStandby nowNs { d with ready := true }
      (if enableMasterStandby then buf.set 0 roleShmStandby else buf) := by
  have hfirst := h.first (Or.inl hready)
  cases enableMasterStandby with
  | false => exact ⟨h.beats, h.positive, h.past, fun _ => h.role (Or.inr rfl), fun _ => hfirst⟩
  | true =>
      refine ⟨h.beats.set _, h.positive, h.past, fun _ => ?_, fun _ => hfirst⟩
      rw [hfirst]
      exact List.getElem?_set_self (lt_of_lt_of_le (by decide) h.beats.size)

theorem Shows.heartbeat (h : Shows enableMasterStandby nowNs d buf) (hpos : 0 < nowNs) (hlt : nowNs < 256 ^ 8) :
    Shows enableMasterStandby nowNs { d with beat := nowNs } (RoleShmHolder.writeHeartbeat buf nowNs) := by
  refine ⟨beats_writeHeartbeat h.beats.size hlt, hpos, le_rfl, fun hr => ?_, h.first⟩
  rw [role_writeHeartbeat h.beats.size]
  exact h.role hr

theorem Shows.become (h : Shows true nowNs d buf) (hready : d.ready = true) (role : StandbyRole) :
    Shows true nowNs { d with role := role } (buf.set 0 (roleByte role)) := by
  refine ⟨h.beats.set _, h.positive, h.past, fun _ => ?_, ?_⟩
  · exact List.getElem?_set_self (lt_of_lt_of_le (by decide) h.beats.size)
  · rintro (hr | hr)
    · exact absurd (hready.symm.trans hr) (by decide)
    · cases hr

end

/-- The daemon that runs shows itself. -/
structure DaemonShown (s : CoordinatorPod) : Prop where
  positive : 0 < s.nowNs
  fits : s.nowNs < 256 ^ 8
  shows : ∀ d, s.daemon = some d → ∃ buf, s.shm = some buf ∧ Shows s.enableMasterStandby s.nowNs d buf

/-- A process whose parent is its daemon belongs to the daemon that runs. -/
structure Parented (s : CoordinatorPod) : Prop where
  daemon : ∀ d, s.daemon = some d → d.pid ≠ 0
  mgmts : ∀ q ∈ s.mgmts, q.daemonPid ≠ 0 ∧
    (q.ppid = q.daemonPid → ∃ d, s.daemon = some d ∧ d.pid = q.daemonPid ∧ d.ready = true)

variable {s : CoordinatorPod} {event : Event}

theorem DaemonShown.step (h : DaemonShown s) (hs : s.Sound event) : DaemonShown (s.step event) := by
  obtain ⟨hpos, hlt, hshows⟩ := id h
  cases event with
  | tick ns =>
      refine ⟨Nat.add_pos_left hpos ns, hs, fun d hd => ?_⟩
      obtain ⟨buf, hbuf, hb⟩ := hshows d hd
      exact ⟨buf, hbuf, hb.tick ns⟩
  | start pid =>
      simp only [CoordinatorPod.step]
      cases hdaemon : s.daemon with
      | some d => exact h
      | none =>
          refine ⟨hpos, hlt, ?_⟩
          rintro d ⟨⟩
          exact ⟨_, rfl, shows_start s.shm hpos hlt pid⟩
  | showRole =>
      simp only [CoordinatorPod.step]
      cases hdaemon : s.daemon with
      | none => exact h
      | some d =>
          obtain ⟨buf, hbuf, hb⟩ := hshows d hdaemon
          dsimp only
          split
          · exact h
          · rename_i hready
            refine ⟨hpos, hlt, ?_⟩
            rintro d' ⟨⟩
            refine ⟨_, ?_, hb.showRole (by simpa using hready)⟩
            rw [hbuf]
            cases s.enableMasterStandby <;> rfl
  | spawn =>
      simp only [CoordinatorPod.step]
      cases hdaemon : s.daemon with
      | none => exact h
      | some d =>
          dsimp only
          split
          · exact ⟨hpos, hlt, hdaemon ▸ hshows⟩
          · exact h
  | heartbeat =>
      simp only [CoordinatorPod.step]
      cases hdaemon : s.daemon with
      | none => exact h
      | some d =>
          obtain ⟨buf, hbuf, hb⟩ := hshows d hdaemon
          refine ⟨hpos, hlt, ?_⟩
          rintro d' ⟨⟩
          exact ⟨_, by rw [hbuf]; rfl, hb.heartbeat hpos hlt⟩
  | become role =>
      simp only [CoordinatorPod.step]
      cases hdaemon : s.daemon with
      | none => exact h
      | some d =>
          obtain ⟨buf, hbuf, hb⟩ := hshows d hdaemon
          dsimp only
          split
          · rename_i hc
            obtain ⟨hen, hready⟩ := Bool.and_eq_true_iff.mp hc
            rw [hen] at hb
            refine ⟨hpos, hlt, ?_⟩
            rintro d' ⟨⟩
            exact ⟨_, by rw [hbuf]; rfl, hen ▸ hb.become hready role⟩
          · exact h
  | exit mgmt => exact ⟨hpos, hlt, hshows⟩
  | leave reaper unlinks =>
      simp only [CoordinatorPod.step]
      cases hdaemon : s.daemon with
      | none => exact h
      | some d => exact ⟨hpos, hlt, fun d' hd' => nomatch hd'⟩
  | reset => exact ⟨hpos, hlt, fun d' hd' => nomatch hd'⟩

theorem Parented.changed (h : Parented s) {d : RoleDaemon} (hd : s.daemon = some d) (d' : RoleDaemon)
    (hpid : d'.pid = d.pid) (hready : d.ready = true → d'.ready = true) (shm : Option Bytes) :
    Parented { s with shm := shm, daemon := some d' } where
  daemon := by
    rintro _ ⟨⟩
    rw [hpid]
    exact h.daemon d hd
  mgmts q hq := by
    obtain ⟨hne, hparent⟩ := h.mgmts q hq
    refine ⟨hne, fun hp => ?_⟩
    obtain ⟨d₀, hd₀, hpid₀, hready₀⟩ := hparent hp
    cases hd.symm.trans hd₀
    exact ⟨d', rfl, hpid.trans hpid₀, hready hready₀⟩

theorem Parented.step (h : Parented s) (hs : s.Sound event) : Parented (s.step event) := by
  cases event with
  | tick ns => exact ⟨h.daemon, h.mgmts⟩
  | start pid =>
      simp only [CoordinatorPod.step]
      cases hdaemon : s.daemon with
      | some d => exact h
      | none =>
          refine ⟨?_, fun q hq => ⟨(h.mgmts q hq).1, fun hp => ?_⟩⟩
          · rintro d ⟨⟩
            exact hs
          · obtain ⟨d, hd, -⟩ := (h.mgmts q hq).2 hp
            cases hdaemon.symm.trans hd
  | showRole =>
      simp only [CoordinatorPod.step]
      cases hdaemon : s.daemon with
      | none => exact h
      | some d =>
          dsimp only
          split
          · exact h
          · exact h.changed hdaemon { d with ready := true } rfl (fun _ => rfl) _
  | spawn =>
      simp only [CoordinatorPod.step]
      cases hdaemon : s.daemon with
      | none => exact h
      | some d =>
          dsimp only
          split
          · rename_i hready
            refine ⟨hdaemon ▸ h.daemon, fun q hq => ?_⟩
            rcases List.mem_append.mp hq with hq | hq
            · exact hdaemon ▸ h.mgmts q hq
            · rw [List.mem_singleton] at hq
              rw [hq]
              exact ⟨h.daemon d hdaemon, fun _ => ⟨d, rfl, rfl, hready⟩⟩
          · exact h
  | heartbeat =>
      simp only [CoordinatorPod.step]
      cases hdaemon : s.daemon with
      | none => exact h
      | some d => exact h.changed hdaemon { d with beat := s.nowNs } rfl id _
  | become role =>
      simp only [CoordinatorPod.step]
      cases hdaemon : s.daemon with
      | none => exact h
      | some d =>
          dsimp only
          split
          · exact h.changed hdaemon { d with role := role } rfl id _
          · exact h
  | exit mgmt => exact ⟨h.daemon, fun q hq => h.mgmts q (List.mem_of_mem_erase hq)⟩
  | leave reaper unlinks =>
      simp only [CoordinatorPod.step]
      cases hdaemon : s.daemon with
      | none => exact h
      | some d =>
          refine ⟨fun d' hd' => (nomatch hd'), fun q hq => ?_⟩
          obtain ⟨q₀, hq₀, rfl⟩ := List.mem_map.mp hq
          obtain ⟨hne, hparent⟩ := h.mgmts q₀ hq₀
          split
          · exact ⟨hne, fun hp => absurd hp.symm (hs q₀ hq₀)⟩
          · rename_i hother
            refine ⟨hne, fun hp => ?_⟩
            obtain ⟨d₀, hd₀, hpid, -⟩ := hparent hp
            cases hdaemon.symm.trans hd₀
            exact absurd (hp.trans hpid.symm) hother
  | reset => exact ⟨fun d' hd' => (nomatch hd'), fun q hq => (nomatch hq)⟩

theorem reads_spec (hd : DaemonShown s) (hp : Parented s) {q : MgmtProcess} (hq : q ∈ s.mgmts) :
    ((s.reads q).orphaned = false ∧ (s.reads q).heartbeatStale = false ↔ s.Watched q) ∧
    (s.Watched q → ((s.reads q).isMaster = true ↔ ∀ d, s.daemon = some d → d.role = .master)) := by
  obtain ⟨hne, hparent⟩ := hp.mgmts q hq
  by_cases hchild : q.ppid = q.daemonPid
  · obtain ⟨d, hdaemon, hpid, hready⟩ := hparent hchild
    obtain ⟨buf, hbuf, hb⟩ := hd.shows d hdaemon
    have hreads : s.reads q =
        { isMaster := buf[0]? = some roleShmMaster
          heartbeatStale := decide (d.beat + 5 * 10 ^ 9 < s.nowNs)
          orphaned := false } := by
      have hstale := isHeartbeatStale_of_beats q.daemonPid hb.beats hb.positive hb.past hd.fits
      simp [reads, RoleShmDaemonLivenessProvider.readRoleAndHeartbeat, hchild, hbuf, hstale]
    have hrole : buf[0]? = some (roleByte d.role) := hb.role (Or.inl hready)
    constructor
    · rw [hreads]
      simp [Watched, hdaemon, hchild, hpid]
    · intro _
      rw [hreads, hrole]
      simp only [hdaemon, Option.some.injEq, forall_eq']
      cases d.role <;> decide
  · have hreads : (s.reads q).orphaned = true := by
      simp [reads, RoleShmDaemonLivenessProvider.readRoleAndHeartbeat, hne, hchild]
    have hnot : ¬ s.Watched q := by
      rintro ⟨d, -, hppid, hpid, -⟩
      exact hchild (hppid.trans hpid.symm)
    exact ⟨by simp [hreads, hnot], fun hw => absurd hw hnot⟩

theorem enableMasterStandby_step (s : CoordinatorPod) (event : Event) :
    (s.step event).enableMasterStandby = s.enableMasterStandby := by
  cases event <;> simp only [CoordinatorPod.step] <;> repeat' split
  all_goals rfl

/-- Whatever shared memory is left from before, in every run a management process answers the liveness probe exactly
while it is a child of a daemon whose heartbeat is at most five seconds old, and the readiness probe exactly while that
daemon is master as well. -/
theorem probes_run (enableMasterStandby : Bool) (nowNs : Nat) (hpos : 0 < nowNs) (hfits : nowNs < 256 ^ 8)
    (shm : Option Bytes) (events : List Event)
    (h : Along CoordinatorPod.step Sound (found enableMasterStandby nowNs shm) events) (s : CoordinatorPod)
    (hs : s = run CoordinatorPod.step (found enableMasterStandby nowNs shm) events) (q : MgmtProcess) (hq : q ∈ s.mgmts)
    (deployMode : DeployMode) (m : InstanceManager) :
    ((∃ message, livenessCheck (s.reads q) = .ok message) ↔ s.Watched q) ∧
    ((∃ answer, ReadinessProbe.readinessCheck ⟨deployMode, enableMasterStandby⟩ m (s.reads q) = .ok answer) ↔
      s.Watched q ∧ ∀ d, s.daemon = some d → d.role = .master) := by
  have hstart : (DaemonShown (found enableMasterStandby nowNs shm) ∧ Parented (found enableMasterStandby nowNs shm)) ∧
      (found enableMasterStandby nowNs shm).enableMasterStandby = enableMasterStandby :=
    ⟨⟨⟨hpos, hfits, fun d hd => (nomatch hd)⟩, ⟨fun d hd => (nomatch hd), fun q hq => (nomatch hq)⟩⟩, rfl⟩
  have hinv := run_invariant (I := fun s => (DaemonShown s ∧ Parented s) ∧ s.enableMasterStandby = enableMasterStandby)
    (fun s event hi hs => ⟨⟨hi.1.1.step hs, hi.1.2.step hs⟩, (enableMasterStandby_step s event).trans hi.2⟩) hstart h
  rw [← hs] at hinv
  obtain ⟨⟨hshown, hparented⟩, rfl⟩ := hinv
  obtain ⟨hwatched, hmaster⟩ := reads_spec hshown hparented hq
  -- Without a standby every daemon is master.
  have halone : s.enableMasterStandby = false → ∀ d, s.daemon = some d → d.role = .master := by
    intro hen d hd
    obtain ⟨buf, -, hb⟩ := hshown.shows d hd
    rw [hb.first (Or.inr hen), hen]
    rfl
  constructor
  · rw [← hwatched, livenessCheck_ok]
  · rw [ReadinessProbe.readinessCheck_ok, ReadinessProbe.Serves, ← and_assoc, hwatched]
    apply and_congr_right
    intro hw
    rw [hmaster hw]
    cases hen : s.enableMasterStandby with
    | false => simpa using halone hen
    | true => simp

/-- A daemon that was master is killed, and the next one takes over its shared memory. -/
def takenOver : List Event :=
  [.start 7, .showRole, .spawn, .become .master, .leave 1 false, .tick (3 * 10 ^ 9), .start 8, .showRole, .spawn]

theorem probes_run_takenOver :
    let s := run CoordinatorPod.step (found true 1 none) takenOver
    (s.mgmts = [⟨7, 1⟩, ⟨8, 8⟩] ∧ s.Watched ⟨8, 8⟩) ∧
    ((∃ message, livenessCheck (s.reads ⟨8, 8⟩) = .ok message) ↔ s.Watched ⟨8, 8⟩) ∧
    ((∃ answer, ReadinessProbe.readinessCheck ⟨.pdSeparate, true⟩ {} (s.reads ⟨8, 8⟩) = .ok answer) ↔
      s.Watched ⟨8, 8⟩ ∧ ∀ d, s.daemon = some d → d.role = .master) :=
  ⟨⟨by decide, _, rfl, by decide, by decide, by decide⟩,
    probes_run true 1 (by decide) (by decide) none takenOver (by decide) _ rfl ⟨8, 8⟩ (by decide) .pdSeparate {}⟩

end CoordinatorPod

end PyMotor
