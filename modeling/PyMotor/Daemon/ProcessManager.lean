import PyMotor.Lib.Objects
import PyMotor.Lib.Run

/-!
# The process managers

`motor/coordinator/process/base.py` and `inference_manager.py`. The list of the workers is an object that the finalizer
shares. Creating a worker, or starting it, fails where `spawns` says so, and the workers of the pids in `exits` die
while a method runs, before it looks at them for the last time.
-/

namespace PyMotor

open Lib

structure Worker where
  pid : Nat
  index : Nat
deriving DecidableEq, Repr

/-- Which class the manager is of: they differ in `is_running`. -/
inductive ManagerClass
  | base
  | inference
deriving DecidableEq, Repr

/-- `alive` are the workers that were started and have not ended. -/
structure ProcessManager where
  cls : ManagerClass
  processCount : Nat
  lists : Heap (List Worker) := [[]]
  processes : Nat := 0
  finalizer : Option Nat := none
  alive : List Worker := []
  nextPid : Nat := 0

namespace ProcessManager

variable (m : ProcessManager)

/-- The workers in `_processes`. -/
def listed : List Worker := m.lists.read m.processes

def isRunning : Bool :=
  match m.cls with
  | .base => m.listed.any fun w => w ∈ m.alive
  | .inference => if m.listed.isEmpty then false else m.listed.all fun w => w ∈ m.alive

def newList : ProcessManager := { m with lists := m.lists ++ [[]], processes := m.lists.length }

def exit (exits : Nat → Bool) : ProcessManager := { m with alive := m.alive.filter fun w => !exits w.pid }

def terminate (workers : List Worker) : ProcessManager := { m with alive := m.alive.filter fun w => w ∉ workers }

/-- `_create_process` and `start`; `put` is where the list takes the worker. -/
def spawn (index : Nat) (put : Worker → List Worker → List Worker) : ProcessManager :=
  let w : Worker := { pid := m.nextPid, index := index }
  { m with lists := m.lists.modify m.processes (put w), alive := m.alive ++ [w], nextPid := m.nextPid + 1 }

/-- The loop of `start`, which the first failure leaves. -/
def spawnAll (spawns : Nat → Bool) : ProcessManager → List Nat → Bool × ProcessManager
  | m, [] => (true, m)
  | m, i :: is => if spawns i then spawnAll spawns (m.spawn i fun w ws => ws ++ [w]) is else (false, m)

def start (spawns exits : Nat → Bool) : Bool × ProcessManager :=
  if m.isRunning then (true, m)
  else
    match spawnAll spawns m.newList (List.range m.processCount) with
    | (false, m) => (false, (m.exit exits).newList)
    | (true, m) =>
      let m := m.exit exits
      if m.isRunning then (true, { m with finalizer := some m.processes }) else (false, m)

/-- The finalizer shuts down the list that it was made for. -/
def runFinalizer : ProcessManager :=
  match m.finalizer with
  | some r => { m.terminate (m.lists.read r) with finalizer := none }
  | none => m

def stop : ProcessManager :=
  let m := m.runFinalizer
  (m.terminate m.listed).newList

def deadIndices : List Nat :=
  (List.range m.listed.length).filter fun i => (m.listed[i]?).any fun w => w ∉ m.alive

def replaceWorker (spawns : Nat → Bool) (m : ProcessManager) (i : Nat) : ProcessManager :=
  if spawns i then m.spawn i fun w ws => ws.set i w else m

/-- Of the inference workers only. -/
def restartDeadWorkers (spawns exits : Nat → Bool) : Bool × ProcessManager :=
  if m.deadIndices.isEmpty then (true, m)
  else
    let m := (m.deadIndices.foldl (replaceWorker spawns) m).exit exits
    (m.isRunning, m)

/-! ## Runs of the inference workers -/

inductive Event
  | start (spawns exits : Nat → Bool)
  | stop
  | restartDeadWorkers (spawns exits : Nat → Bool)
  | die (pid : Nat)

def step : Event → ProcessManager
  | .start spawns exits => (m.start spawns exits).2
  | .stop => m.stop
  | .restartDeadWorkers spawns exits => (m.restartDeadWorkers spawns exits).2
  | .die pid => m.exit fun p => p = pid

/-- What the call returns. -/
def returned : Event → Option Bool
  | .start spawns exits => some (m.start spawns exits).1
  | .stop => none
  | .restartDeadWorkers spawns exits => some (m.restartDeadWorkers spawns exits).1
  | .die _ => none

def inference (numWorkers : Nat) : ProcessManager := { cls := .inference, processCount := numWorkers }

/-! ## What a process manager is for -/

/-- One worker is alive for each index, and no other. -/
def Complete : Prop := (m.alive.map Worker.index).Perm (List.range m.processCount)

/-- Every living worker is in the list, none is left by `stop`, `True` means that all are there, and a restart brings
them back when no creation fails and none dies. -/
structure Supervised (event : Event) : Prop where
  listed : ∀ w ∈ (m.step event).alive, w ∈ (m.step event).listed
  stopped : event = .stop → (m.step event).alive = []
  complete : m.returned event = some true → (m.step event).Complete
  broughtBack : ∀ spawns exits, event = .restartDeadWorkers spawns exits → (∀ i, spawns i = true) →
    (∀ pid, exits pid = false) → (m.step event).Complete

/-- A start finds all workers running, or finds no worker that stays alive and leaves none when a creation fails; there
are workers to restart. -/
def SupervisionSound : Event → Prop
  | .start spawns exits => m.isRunning = true ∨ (∀ w ∈ m.alive, exits w.pid = true) ∧
      ∀ i < m.processCount, spawns i = false → (∀ j < i, spawns j = true) → ∀ j < i, exits (m.nextPid + j) = true
  | .restartDeadWorkers _ _ => m.listed ≠ []
  | .stop => True
  | .die _ => True

end ProcessManager

end PyMotor
