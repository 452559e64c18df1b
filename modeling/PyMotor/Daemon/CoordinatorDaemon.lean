import PyMotor.Daemon.ProcessManager
import PyMotor.Standby.StandbyManager

/-!
# The coordinator daemon

`motor/coordinator/daemon/coordinator_daemon.py` and `subprocess_supervisor.py`, with master and standby enabled. The
thread of the standby manager, the supervisor and the end of `run` take turns in any order; every step is one of theirs.
-/

namespace PyMotor

open Lib

inductive ProcessKey
  | scheduler
  | mgmt
  | inference
deriving DecidableEq, Repr

def stopOrder : List ProcessKey := [.inference, .mgmt, .scheduler]

def roleShmStandby : UInt8 := 0

def roleShmMaster : UInt8 := 1

/-- Where the thread of the standby manager is: at the head of its loop, in an iteration, before the next step of a
callback, or past the loop. -/
inductive StandbyThread
  | looping
  | iterating
  | writingMaster
  | startingInference
  | writingStandby
  | stoppingInference
  | ended
deriving DecidableEq, Repr

/-- Where the supervisor is: asleep, before a check of the next manager, or before a restart of one, with the keys that
are supervised in this round. -/
inductive Supervisor
  | sleeping
  | checking (supervised : List ProcessKey) (key : ProcessKey) (rest : List ProcessKey)
  | restarting (supervised : List ProcessKey) (key : ProcessKey) (rest : List ProcessKey)
  | starting (supervised : List ProcessKey) (key : ProcessKey) (rest : List ProcessKey)
  | ended
deriving DecidableEq, Repr

/-- How far `run` is: it waits for the supervisor, stops the managers, or waits for the thread. -/
inductive DaemonRun
  | supervising
  | stopping (rest : List ProcessKey)
  | joining
  | returned
deriving DecidableEq, Repr

/-- `roleByte` is the byte in the shared memory, if there is one; `hasCallbacks` is whether the standby manager has its
callbacks. -/
structure CoordinatorDaemon where
  processManagers : Dict ProcessKey ProcessManager
  standbyManager : StandbyManager
  roleByte : Option UInt8
  thread : StandbyThread := .looping
  hasCallbacks : Bool := true
  standbyStopEvent : Bool := false
  supervisor : Supervisor := .sleeping
  stopEvent : Bool := false
  main : DaemonRun := .supervising

namespace CoordinatorDaemon

/-! ## Processes -/

variable (d : CoordinatorDaemon)

/-- Call a method of a manager, if there is one under the key. -/
def withManager (key : ProcessKey) (method : ProcessManager → ProcessManager) : CoordinatorDaemon :=
  { d with processManagers := d.processManagers.adjust key method }

def startProcess (key : ProcessKey) (spawns exits : Nat → Bool) : CoordinatorDaemon :=
  d.withManager key fun m => (m.start spawns exits).2

def stopProcess (key : ProcessKey) : CoordinatorDaemon := d.withManager key ProcessManager.stop

def writeRoleShmByte (byte : UInt8) : CoordinatorDaemon := { d with roleByte := d.roleByte.map fun _ => byte }

/-! ## The thread of the standby manager -/

def setRole (role : StandbyRole) : CoordinatorDaemon := { d with standbyManager := d.standbyManager.setRole role }

/-- The end of the thread; a master releases its lock. -/
def endLoop (revoked : Bool) : CoordinatorDaemon :=
  let m := d.standbyManager
  let m := if m.isMaster then
    { m with etcdClient := (m.etcdClient.releaseLock m.masterLockKey revoked).2 }.setRole .standby
  else m
  { d with standbyManager := m, thread := .ended }

/-- One iteration up to its callback. The stop event may be set while it waits for etcd. -/
def iterate (it : Iteration) : CoordinatorDaemon :=
  if d.standbyManager.isMaster then
    match d.standbyManager.renewMasterLock it.renew with
    | (true, m) => { d with standbyManager := m, thread := .looping }
    | (false, m) =>
      { d with
        standbyManager := m.setRole .standby
        thread := if d.hasCallbacks then .writingStandby else .looping }
  else
    match d.standbyManager.tryBecomeMaster (d.standbyStopEvent && it.stopped) it.lock with
    | (true, m) =>
      { d with standbyManager := m, thread := if d.hasCallbacks then .writingMaster else .looping }
    | (false, m) => { d with standbyManager := m, thread := .looping }

/-- The next step of the thread. -/
def standbyStep (it : Iteration) (spawns exits : Nat → Bool) : CoordinatorDaemon :=
  match d.thread with
  | .looping => if d.standbyStopEvent then d.endLoop it.renew.revoked else { d with thread := .iterating }
  | .iterating => d.iterate it
  | .writingMaster => { d.writeRoleShmByte roleShmMaster with thread := .startingInference }
  | .startingInference => { d.startProcess .inference spawns exits with thread := .looping }
  | .writingStandby => { d.writeRoleShmByte roleShmStandby with thread := .stoppingInference }
  | .stoppingInference => { d.stopProcess .inference with thread := .looping }
  | .ended => d

/-! ## The supervisor -/

def getSupervisedKeys : List ProcessKey :=
  if d.standbyManager.isMaster then d.processManagers.keys else [.scheduler, .mgmt]

/-- Go on with the rest of the round, and after it with the next one. -/
def nextCheck (supervised : List ProcessKey) : List ProcessKey → CoordinatorDaemon
  | key :: rest => { d with supervisor := .checking supervised key rest }
  | [] => { d with supervisor := if d.stopEvent then .ended else .sleeping }

/-- Whether the supervisor finds the manager down and restarts it. -/
def finds (supervised : List ProcessKey) (key : ProcessKey) (canRestart : Bool) : Bool :=
  key ∈ supervised && (d.processManagers.get? key).any (fun m => !m.isRunning) && !d.stopEvent && canRestart

/-- The next step of the supervisor: `restart_dead_workers` of the inference workers, else `stop` and `start`. -/
def supervisorStep (canRestart : Bool) (spawns exits : Nat → Bool) : CoordinatorDaemon :=
  match d.supervisor with
  | .sleeping => d.nextCheck d.getSupervisedKeys d.processManagers.keys
  | .checking supervised key rest =>
    if d.finds supervised key canRestart then { d with supervisor := .restarting supervised key rest }
    else d.nextCheck supervised rest
  | .restarting supervised key rest =>
    if key = .inference then
      (d.withManager key fun m => (m.restartDeadWorkers spawns exits).2).nextCheck supervised rest
    else { d.stopProcess key with supervisor := .starting supervised key rest }
  | .starting supervised key rest => (d.startProcess key spawns exits).nextCheck supervised rest
  | .ended => d

/-! ## The end of `run` -/

/-- The next step of `finally`. The thread may still be there when the time to join it is over. -/
def mainStep : CoordinatorDaemon :=
  match d.main with
  | .supervising => if d.supervisor = .ended then { d with main := .stopping stopOrder } else d
  | .stopping (key :: rest) => { d.stopProcess key with main := .stopping rest }
  | .stopping [] => { d with standbyStopEvent := true, main := .joining }
  | .joining => { d with hasCallbacks := false, roleByte := none, main := .returned }
  | .returned => d

/-! ## Runs -/

inductive Event
  | standby (it : Iteration) (spawns exits : Nat → Bool)
  | supervise (canRestart : Bool) (spawns exits : Nat → Bool)
  | stopSignal
  | cancel
  | shutdown
  | die (key : ProcessKey) (pid : Nat)

def step : Event → CoordinatorDaemon
  | .standby it spawns exits => d.standbyStep it spawns exits
  | .supervise canRestart spawns exits => d.supervisorStep canRestart spawns exits
  | .stopSignal => { d with stopEvent := true }
  | .cancel => if d.supervisor = .sleeping then { d with supervisor := .ended } else d
  | .shutdown => d.mainStep
  | .die key pid => d.withManager key fun m => m.exit fun p => p = pid

/-- The managers of the daemon; without a shared socket there are no inference workers. -/
def initializeProcessManagers (numWorkers : Option Nat) : Dict ProcessKey ProcessManager :=
  let managers := (Dict.empty.set .scheduler ({ cls := .base, processCount := 1 } : ProcessManager)).set .mgmt
    { cls := .base, processCount := 1 }
  match numWorkers with
  | some numWorkers => managers.set .inference (.inference numWorkers)
  | none => managers

/-- `run` up to the supervisor. The shared memory may be missing. -/
def start (c : EtcdClient) (masterLockKey : String) (maxLockFailures : Nat) (numWorkers : Option Nat) (hasShm : Bool)
    (spawns exits : ProcessKey → Nat → Bool) : CoordinatorDaemon :=
  let d : CoordinatorDaemon :=
    { processManagers := initializeProcessManagers numWorkers
      standbyManager := .start c masterLockKey maxLockFailures
      roleByte := if hasShm then some roleShmStandby else none }
  (d.startProcess .scheduler (spawns .scheduler) (exits .scheduler)).startProcess .mgmt (spawns .mgmt) (exits .mgmt)

/-! ## What the daemon is for -/

/-- The thread is not about to run a callback or in one. -/
def NoCallback : Prop := d.thread = .looping ∨ d.thread = .iterating ∨ d.thread = .ended

/-- The role byte is that of a standby, if there is one. -/
def ShowsStandby : Prop := ∀ byte, d.roleByte = some byte → byte = roleShmStandby

/-- A standby shows it and serves no inference, only a master is shown as one until its loss has been handled, and
nothing runs in the end. -/
structure StandbySafe : Prop where
  standby : d.standbyManager.currentRole = .standby → d.NoCallback → d.ShowsStandby ∧
    ∀ m, d.processManagers.get? .inference = some m → m.alive = []
  roleByte : d.roleByte = some roleShmMaster → d.standbyManager.currentRole = .master ∨
    d.thread = .writingStandby ∨ d.thread = .stoppingInference
  returned : d.main = .returned → ∀ key m, d.processManagers.get? key = some m → m.alive = []

/-- The shutdown has stopped the manager, or is past it. -/
def Stopped (key : ProcessKey) : Prop :=
  match d.main with
  | .supervising => False
  | .stopping rest => key ∉ rest
  | .joining => True
  | .returned => True

/-- The thread does not end as master while there is a role byte. It does not start the inference workers after the
shutdown has stopped them, and such a start leaves no worker behind. -/
def Sound : Event → Prop
  | .standby _ spawns exits =>
    (d.thread = .looping → d.standbyStopEvent = true → d.standbyManager.currentRole = .master → d.roleByte = none) ∧
    (d.thread = .startingInference → ¬ d.Stopped .inference ∧
      ∀ m, d.processManagers.get? .inference = some m → m.SupervisionSound (.start spawns exits))
  | _ => True

end CoordinatorDaemon

end PyMotor
