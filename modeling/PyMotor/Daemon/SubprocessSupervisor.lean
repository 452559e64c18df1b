import Mathlib.Algebra.Order.Ring.Rat
import PyMotor.Daemon.ProcessManager
import PyMotor.Lib.Dict
import PyMotor.Lib.Window

/-!
# The supervisor and its restart limits

`motor/coordinator/daemon/subprocess_supervisor.py`, with exact numbers. What the others do with a manager between two
checks of it, what the clock shows and whether a method of a manager raises are inputs of a check.
-/

namespace PyMotor

open Lib

def maxRestartPerMinute : Nat := 5

def restartWindowSeconds : ℚ := 60

structure RestartLimiter where
  maxPerMinute : Nat := maxRestartPerMinute
  timestamps : List ℚ := []

namespace RestartLimiter

variable (l : RestartLimiter)

def record (now : ℚ) : RestartLimiter := { l with timestamps := l.timestamps ++ [now] }

def pruneOld (now : ℚ) : RestartLimiter :=
  let cutoff := now - restartWindowSeconds
  { l with timestamps := l.timestamps.dropWhile (· < cutoff) }

def canRestart (now : ℚ) : Bool × RestartLimiter :=
  let l := l.pruneOld now
  (l.timestamps.length < l.maxPerMinute, l)

end RestartLimiter

/-- The method of a manager that raises in a check. -/
inductive RaisingMethod
  | isRunning
  | restart
deriving DecidableEq, Repr

/-- One pass of the loop over the managers: what the others did with the manager meanwhile, whether the stop event is
set, what the clock shows before a restart and after it, and how the workers fare in it. -/
structure Check where
  meanwhile : ProcessManager → ProcessManager
  stopEvent : Bool
  checkedAt : ℚ
  endedAt : ℚ
  spawns : Nat → Bool
  exits : Nat → Bool
  raises : Option RaisingMethod := none

/-- A restart that was attempted, for the statements. -/
structure Attempt (K : Type) where
  name : K
  time : Span ℚ
  started : Bool
deriving DecidableEq

/-- Only the manager of the inference workers has `restart_dead_workers`. -/
def ProcessManager.restart (m : ProcessManager) (spawns exits : Nat → Bool) : Bool × ProcessManager :=
  match m.cls with
  | .inference => m.restartDeadWorkers spawns exits
  | .base => m.stop.start spawns exits

/-- `supervised` and `rest` are of the round that is going on: the keys to supervise and the managers to check. -/
structure SubprocessSupervisor (K : Type) where
  managers : Dict K ProcessManager
  restartLimits : Dict K RestartLimiter := .empty
  supervised : List K := []
  rest : List K := []
  attempts : List (Attempt K) := []

namespace SubprocessSupervisor

variable {K : Type} [DecidableEq K] (s : SubprocessSupervisor K)

/-- The limiter of a process; a missing one is made. -/
def limiterOf (name : K) : RestartLimiter := (s.restartLimits.get? name).getD {}

def canRestart (name : K) (now : ℚ) : Bool × SubprocessSupervisor K :=
  let (allowed, limiter) := (s.limiterOf name).canRestart now
  (allowed, { s with restartLimits := s.restartLimits.set name limiter })

def recordRestart (name : K) (now : ℚ) : SubprocessSupervisor K :=
  { s with restartLimits := s.restartLimits.set name ((s.limiterOf name).record now) }

/-- A restart is recorded when it has started the process. An exception ends the round. -/
def restart (name : K) (m : ProcessManager) (c : Check) : SubprocessSupervisor K :=
  let attempt (started : Bool) : List (Attempt K) := s.attempts ++ [⟨name, ⟨c.checkedAt, c.endedAt⟩, started⟩]
  if c.raises = some .restart then { s with rest := [], attempts := attempt false }
  else
    let (started, m) := m.restart c.spawns c.exits
    let s := { s with managers := s.managers.set name m, attempts := attempt started }
    if started then s.recordRestart name c.endedAt else s

/-- What becomes of a manager that is down. -/
def tryRestart (name : K) (m : ProcessManager) (c : Check) : SubprocessSupervisor K :=
  match s.canRestart name c.checkedAt with
  | (true, s) => s.restart name m c
  | (false, s) => s

/-- The next manager, while there is one. -/
def check (c : Check) : SubprocessSupervisor K :=
  match s.rest with
  | [] => s
  | name :: rest =>
    let s := { s with managers := s.managers.adjust name c.meanwhile, rest := rest }
    if name ∉ s.supervised then s
    else if c.raises = some .isRunning then { s with rest := [] }
    else
      match s.managers.get? name with
      | none => s
      | some m =>
        if !m.isRunning && !c.stopEvent then s.tryRestart name m c else s

inductive Event (K : Type)
  | sleep (supervised : Option (List K))
  | check (c : Check)

/-- After the sleep a round begins; without a function for them, all managers are supervised. -/
def step : Event K → SubprocessSupervisor K
  | .sleep supervised =>
    if s.rest.isEmpty then { s with supervised := supervised.getD s.managers.keys, rest := s.managers.keys } else s
  | .check c => s.check c

def new (managers : Dict K ProcessManager) : SubprocessSupervisor K := { managers := managers }

/-- The clock does not go back. -/
def Clocked : ℚ → List (Event K) → Prop
  | _, [] => True
  | now, .sleep _ :: events => Clocked now events
  | now, .check c :: events => now ≤ c.checkedAt ∧ c.checkedAt ≤ c.endedAt ∧ Clocked c.endedAt events

def decidableClocked : ∀ (now : ℚ) (events : List (Event K)), Decidable (Clocked now events)
  | _, [] => inferInstanceAs (Decidable True)
  | now, .sleep _ :: events => decidableClocked now events
  | now, .check c :: events =>
    have := decidableClocked c.endedAt events
    inferInstanceAs (Decidable (now ≤ c.checkedAt ∧ c.checkedAt ≤ c.endedAt ∧ Clocked c.endedAt events))

instance (now : ℚ) (events : List (Event K)) : Decidable (Clocked now events) := decidableClocked now events

/-! ## What the limits are for -/

def attemptsOf (name : K) : List (Span ℚ) := (s.attempts.filter (·.name = name)).map Attempt.time

def startedOf (name : K) : List (Span ℚ) :=
  (s.attempts.filter fun a => a.name = name ∧ a.started).map Attempt.time

/-- The process that the next check finds down. -/
def finds (c : Check) : Option K :=
  match s.rest with
  | [] => none
  | name :: _ =>
    if name ∈ s.supervised ∧ c.raises ≠ some .isRunning ∧ c.stopEvent = false ∧
      (s.managers.get? name).any (fun m => !(c.meanwhile m).isRunning) then some name
    else none

/-- The part of the spans that meets the window up to the check. -/
def inWindow (c : Check) (spans : List (Span ℚ)) : Nat :=
  Span.count restartWindowSeconds (c.checkedAt - restartWindowSeconds) spans

/-- At most so many restarts of one process are attempted in any window. -/
def Limited : Prop := ∀ name t, Span.count restartWindowSeconds t (s.attemptsOf name) ≤ maxRestartPerMinute

/-- The attempts stay limited, and a process that is found down with fewer in the window before is attempted. -/
structure RestartLimited (event : Event K) : Prop where
  limited : (s.step event).Limited
  attempted : ∀ c name, event = .check c → s.finds c = some name →
    inWindow c (s.attemptsOf name) < maxRestartPerMinute →
    ∃ a, (s.step event).attempts = s.attempts ++ [a] ∧ a.name = name ∧ a.time.start = c.checkedAt

/-- Where a process is found down after as many attempts as are allowed, as many have started it. -/
def Sound : Event K → Prop
  | .sleep _ => True
  | .check c => ∀ name ∈ s.finds c, maxRestartPerMinute ≤ inWindow c (s.attemptsOf name) →
      maxRestartPerMinute ≤ inWindow c (s.startedOf name)

def decidableSound : ∀ (s : SubprocessSupervisor K) (event : Event K), Decidable (s.Sound event)
  | _, .sleep _ => inferInstanceAs (Decidable True)
  | s, .check c => inferInstanceAs (Decidable (∀ name ∈ s.finds c, maxRestartPerMinute ≤ inWindow c (s.attemptsOf name) →
      maxRestartPerMinute ≤ inWindow c (s.startedOf name)))

instance (event : Event K) : Decidable (s.Sound event) := decidableSound s event

end SubprocessSupervisor

end PyMotor
