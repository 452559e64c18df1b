import PyMotor.FaultTolerance.Lemmas.Release
import PyMotor.FaultTolerance.Lemmas.Strategies

/-!
# Separation, release and strategies

The levels of the instances are computed at updates of their nodes only, and the strategy center resets them on its
own. So there are runs in which an instance stays separated without a fault, runs in which one is not separated with a
fault, and runs in which a running strategy gives way to that of a lower level.

A node keeps one fault for each code, and the code of an instance is written with a new level only. So the level is
exact as long as no ConfigMap has a fault with a code twice and the lower level last, and the code as long as the
instance does not stay at a level whose faults change.
-/

namespace PyMotor

open Lib

namespace FaultSystem

/-! ## Fixed runs -/

def decodeOn (id : Int) : ManagedInstance :=
  { id := id, role := "decode", nodeManagers := [{ podIp := "n", port := "1026" }] }

def faultOf (code : Int) (level : FaultLevel) : FaultInfo :=
  { faultType := .cardUnhealthy, npuName := "npu0", faultCode := code, faultLevel := level }

def announced (id : Int) : Event := .addInstance 0 (decodeOn id) fun _ => true

def faults (infos : List FaultInfo) : Event := .configmapChange "n" (.present infos)

def runNamed (config : FaultToleranceConfig) (events : List Event) : FaultSystem :=
  run (step fun podIp => podIp) (start config) events

/-! ## Release -/

/-- Nothing but a fault above L2 that Kubernetes shows keeps an instance separated, while no node of a separated instance
is taken over, no strategy of a separated instance completes, and no such fault has the code of the reboot. -/
theorem healthy_released (nodeOf : String → String) (config : FaultToleranceConfig) (events : List Event)
    (h : Along (Watched.follow nodeOf) (fun w event => ReleaseSound nodeOf w.system event) { system := start config }
      events) :
    (run (Watched.follow nodeOf) { system := start config } events).HealthyReleased nodeOf := by
  have hinv := run_invariant (I := fun w : Watched => Placed nodeOf w.system.controller w.system.faultManager ∧
      Tracks NodeShown w.cluster w.system.faultManager)
    (fun _ _ hi hok => ⟨hi.1.step hok, hi.2.follow hok⟩) ⟨placed_start nodeOf config, tracks_start config⟩ h
  exact healthyReleased_of_placed hinv.1 hinv.2

def clearedEvents : List Event :=
  [announced 1, faults [faultOf 7 .l4], faults [], .nodeChange "n" (.present .notReady)]

theorem healthy_released_cleared :
    (run (Watched.follow fun podIp => podIp) { system := start {} } clearedEvents).HealthyReleased (fun podIp => podIp) :=
  healthy_released _ _ _ ⟨fun _ _ _ _ hget => (nomatch hget),
    (by decide : ∀ info ∈ [faultOf 7 .l4], .l2 < info.faultLevel → info.faultCode ≠ nodeReboot),
    fun _ hinfo => (nomatch hinfo), trivial, trivial⟩

def completedEvents : List Event :=
  [announced 1, faults [faultOf 7 .l4], .processInstanceStrategy 1 false, .finishStrategy 1,
    .processInstanceStrategy 1 false, faults []]

/-- The center resets the level of the instance when its strategy has finished. The faults are cleared then, and it is
not recovered. -/
theorem not_healthyReleased_completed :
    ¬ (run (Watched.follow fun podIp => podIp) { system := start { enableScaleP2d := true } }
      completedEvents).HealthyReleased (fun podIp => podIp) := by
  intro h
  have hnone : ∀ nodeName, (run (Watched.follow fun podIp => podIp) { system := start { enableScaleP2d := true } }
      completedEvents).cluster.faults nodeName = [] := by
    intro nodeName
    simp [run, completedEvents, announced, faults, Watched.follow, Event.shown, Cluster.observe, Cluster.faults,
      WatchEvent.shown]
  obtain ⟨nodeName, -, info, hinfo, -⟩ := h 1 (by decide)
  rw [hnone nodeName] at hinfo
  cases hinfo

/-! ## Separation -/

/-- A fault above L2 separates every instance on its node, while every announced instance is alone on its nodes and
finds no such fault there. -/
theorem faulty_separated (nodeOf : String → String) (config : FaultToleranceConfig) (events : List Event)
    (h : Along (step nodeOf) (SeparationSound nodeOf) (start config) events) :
    FaultySeparated nodeOf (run (step nodeOf) (start config) events) := by
  have hisolated := run_invariant (I := fun s => Isolated nodeOf none s.controller s.faultManager)
    (fun _ _ hisolated hok => hisolated.step hok) (isolated_start nodeOf _) h
  rintro id ⟨nodeName, node, hon, hget, hfaulty⟩
  exact hisolated.separated hon hget hfaulty nofun

theorem faulty_separated_alone :
    FaultySeparated (fun podIp => podIp) (runNamed {} [announced 1, faults [faultOf 7 .l4]]) :=
  faulty_separated _ _ _
    ⟨fun _ _ _ => ⟨fun _ hon => hon.elim fun _ hr => (nomatch hr.1), fun _ hget => (nomatch hget)⟩, trivial, trivial⟩

def sharedEvents : List Event := [announced 1, faults [faultOf 7 .l4], announced 2]

/-- An instance that comes to a node with a fault is not separated. -/
theorem not_faultySeparated_shared :
    ¬ FaultySeparated (fun podIp => podIp) (runNamed {} sharedEvents) := by
  intro h
  refine absurd (h 2 ⟨"n", { podIp := "n", instanceId := 2, faultInfos := Dict.empty.set 7 (faultOf 7 .l4) },
    ⟨1, by decide, { podIp := "n", port := "1026" }, by decide, rfl⟩, rfl, faultOf 7 .l4, ?_, ?_⟩) ?_
  · decide
  · decide
  · decide

/-! ## Strategies -/

/-- In a run, no running strategy is replaced at a lower level exactly when the center never meets a scale-in whose
instance has come down to a level with a network recovery. -/
theorem notDowngraded_along_iff (nodeOf : String → String) (config : FaultToleranceConfig) (events : List Event) :
    Along (step nodeOf) NotDowngraded (start config) events ↔
      Along (step nodeOf) StrategySound (start config) events := by
  have hstart : WellStarted (start config).faultManager := fun _ _ _ hget => nomatch hget
  constructor
  · exact along_of_invariant (I := fun s => WellStarted s.faultManager) (fun _ event h _ => h.step nodeOf event)
      (fun _ event h hnot => (notDowngraded_iff h event).1 hnot) hstart
  · exact along_of_invariant (I := fun s => WellStarted s.faultManager) (fun _ event h _ => h.step nodeOf event)
      (fun _ event h hsound => (notDowngraded_iff h event).2 hsound) hstart

def downgradedEvents : List Event :=
  [announced 1, faults [faultOf 7 .l4], .processInstanceStrategy 1 false,
    faults [faultOf 0x00f1fef5 .l2, faultOf 3 .l1], .processInstanceStrategy 1 false]

/-- A scale-in gives way to a network recovery when the fault at L4 has gone. -/
theorem not_notDowngraded_recovered :
    ¬ Along (step fun podIp => podIp) NotDowngraded
      (start { enableLingquNetworkRecover := true, enableScaleP2d := true }) downgradedEvents := by
  intro h
  have hlt := h.2.2.2.2.1
    { faultLevel := .l2, faultCode := 0x00f1fef5, strategy := some { cls := .scaleP2d, startLevel := .l4 } }
    { cls := .scaleP2d, startLevel := .l4 } .lingquNetworkRecover (by decide) rfl rfl (by decide)
  exact absurd hlt (by decide)

end FaultSystem

/-! ## The level of an instance -/

namespace Watched

/-- After every event, every instance has the highest level of the faults that are shown of its nodes, and the code of
one of them. -/
theorem level_exact (controller : Controller) (config : FaultToleranceConfig)
    (instances : List (Int × Dict String String)) (events : List NodeEvent)
    (h : Along step Sound (start controller config instances) events) :
    Along step (fun w event => (w.step event).Exact) (start controller config instances) events :=
  along_of_invariant (I := fun w => Tracks NodeTracks w.cluster w.system.faultManager ∧ w.Exact)
    (fun _ _ hexact hok => step_exact hexact hok) (fun _ _ hexact hok => (step_exact hexact hok).2)
    (start_exact controller config instances) h

def npuFault (npuName : String) (code : Int) (level : FaultLevel) : FaultInfo :=
  { faultType := .cardUnhealthy, npuName := npuName, faultCode := code, faultLevel := level }

def startOn : Watched := start {} {} [(1, Dict.empty.set "10.0.0.1" "n")]

def shownOn (infos : List FaultInfo) : NodeEvent := .configmap "n" (.present infos)

theorem level_exact_two : Along step (fun w event => (w.step event).Exact) startOn
    [shownOn [npuFault "npu0" 7 .l4, npuFault "npu1" 8 .l2]] := by
  refine level_exact {} {} [(1, Dict.empty.set "10.0.0.1" "n")] _ ⟨⟨?_, ?_⟩, trivial⟩
  · intro nodeName infos he
    cases he
    decide
  · -- A new instance is HEALTHY.
    intro node ins _ hins hne
    replace hins : (Dict.empty.set 1 {} : Dict Int InstanceMetadata).get? node.instanceId = some ins := hins
    rw [Dict.get?_set] at hins
    split at hins
    · cases hins
      exact absurd rfl hne
    · cases hins

/-- The same code on two NPUs, at L4 and at L1: the node keeps the second. -/
theorem not_exact_sameCode : ¬ Along step (fun w event => (w.step event).Exact) startOn
    [shownOn [npuFault "npu0" 7 .l4, npuFault "npu1" 7 .l1]] := by
  intro h
  have hexact := h.1 1 { faultLevel := .l1, faultCode := 7 } (by decide)
  exact absurd (by decide) (hexact.highest (npuFault "npu0" 7 .l4) (by decide))

end Watched

end PyMotor
