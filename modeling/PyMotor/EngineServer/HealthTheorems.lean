import PyMotor.EngineServer.Health
import PyMotor.Lib.Run

/-!
# The status that an engine server tells
-/

namespace PyMotor

open Lib EngineServer

namespace EngineServer

variable {config : HealthCheckConfig} {rounds : List Round} {maxUsage : Int} {simInferenceSuccess : Bool}

/-! ## The alarm after one more round -/

theorem outcomes_concat_raised : outcomes config (rounds ++ [.raised]) = outcomes config rounds := by
  simp [outcomes, outcome]

theorem outcomes_concat_checked : outcomes config (rounds ++ [.checked maxUsage simInferenceSuccess]) =
    outcomes config rounds ++ [failed config maxUsage simInferenceSuccess] := by
  simp [outcomes, outcome]

theorem not_alarm_nil : ¬ Alarm config [] := by
  simp [Alarm, outcomes]

theorem alarm_raised : Alarm config (rounds ++ [.raised]) :=
  Or.inl ⟨rounds, [], by simp, by simp [outcomes]⟩

theorem raised_concat_checked :
    (∃ before after, rounds ++ [.checked maxUsage simInferenceSuccess] = before ++ .raised :: after ∧
      false ∉ outcomes config after) ↔
    failed config maxUsage simInferenceSuccess = true ∧
      ∃ before after, rounds = before ++ .raised :: after ∧ false ∉ outcomes config after := by
  constructor
  · rintro ⟨before, after, heq, hafter⟩
    rcases List.eq_nil_or_concat' after with rfl | ⟨after', r, rfl⟩
    · have hlast := congrArg List.getLast? heq
      simp at hlast
    · rw [← List.cons_append, ← List.append_assoc] at heq
      obtain ⟨hrounds, hr⟩ := List.append_inj' heq rfl
      obtain rfl : Round.checked maxUsage simInferenceSuccess = r := by simpa using hr
      rw [outcomes_concat_checked, List.mem_append, not_or] at hafter
      refine ⟨?_, before, after', hrounds, hafter.1⟩
      simpa using hafter.2
  · rintro ⟨hfailed, before, after, rfl, hafter⟩
    refine ⟨before, after ++ [.checked maxUsage simInferenceSuccess], by simp, ?_⟩
    rw [outcomes_concat_checked, hfailed]
    simpa using hafter

theorem alarm_failed (h : failed config maxUsage simInferenceSuccess = true) :
    Alarm config (rounds ++ [.checked maxUsage simInferenceSuccess]) ↔ Alarm config rounds ∨
      (false ∈ outcomes config rounds ∧ config.maxFailureCount ≤ streak (outcomes config rounds) + 1) := by
  unfold Alarm
  rw [raised_concat_checked, outcomes_concat_checked, h, streak_concat]
  simp only [countHits, if_true, true_and, List.mem_append, List.mem_singleton, Bool.false_eq_true, or_false]
  constructor
  · rintro (hr | ⟨hf, -, hle⟩)
    · exact Or.inl (Or.inl hr)
    · exact Or.inr ⟨hf, by push_cast at hle; exact hle⟩
  · rintro ((hr | ⟨hf, -, hle⟩) | ⟨hf, hle⟩)
    · exact Or.inl hr
    · exact Or.inr ⟨hf, Nat.succ_pos _, by push_cast; omega⟩
    · exact Or.inr ⟨hf, Nat.succ_pos _, by push_cast; exact hle⟩

theorem not_alarm_well (h : failed config maxUsage simInferenceSuccess = false) :
    ¬ Alarm config (rounds ++ [.checked maxUsage simInferenceSuccess]) := by
  unfold Alarm
  rw [raised_concat_checked, outcomes_concat_checked, h, streak_concat]
  simp [countHits]

end EngineServer

namespace WatchedServer

variable {w : WatchedServer} {config : HealthCheckConfig}

/-! ## The invariant -/

/-- Virtual requests are sent: they are enabled with a threshold that makes sense, and the engine has been healthy. -/
def Tried (config : HealthCheckConfig) (answers : List (Option String)) : Prop :=
  config.enableVirtualInference = true ∧ 0 < config.npuUsageThreshold ∧ config.npuUsageThreshold ≤ 100 ∧
    ∃ answer ∈ answers, SaysHealthy answer

/-- What the fields are, in terms of the answers and the rounds. -/
structure Recorded (config : HealthCheckConfig) (w : WatchedServer) : Prop where
  sameConfig : w.server.config = config
  hasConnected : w.server.hasConnected = true ↔ ∃ answer ∈ w.answers, answer ≠ none
  countFailureFlag : w.server.countFailureFlag = true ↔ false ∈ outcomes config w.rounds
  failureCount : w.server.countFailureFlag = true → w.server.failureCount = streak (outcomes config w.rounds)
  isAbnormal : w.server.isAbnormal = true ↔ Alarm config w.rounds
  task : w.server.healthCheckTask = true → Tried config w.answers
  rounds : w.rounds ≠ [] → w.server.healthCheckTask = true

theorem recorded_init : Recorded config { server := { config := config } } where
  sameConfig := rfl
  hasConnected := by simp
  countFailureFlag := by simp [outcomes]
  failureCount h := by cases h
  isAbnormal := by simp [not_alarm_nil]
  task h := by cases h
  rounds h := absurd rfl h

@[simp] theorem startHealthCheck_fields (e : EngineServer) :
    e.startHealthCheck.config = e.config ∧ e.startHealthCheck.hasConnected = e.hasConnected ∧
    e.startHealthCheck.countFailureFlag = e.countFailureFlag ∧ e.startHealthCheck.failureCount = e.failureCount ∧
    e.startHealthCheck.isAbnormal = e.isAbnormal := by
  unfold startHealthCheck
  split
  · split <;> simp
  · simp

theorem getStatus_fields (e : EngineServer) (answer : Option String) :
    (e.getStatus answer).2.config = e.config ∧
    (e.getStatus answer).2.hasConnected = (e.hasConnected || answer.isSome) ∧
    (e.getStatus answer).2.countFailureFlag = e.countFailureFlag ∧
    (e.getStatus answer).2.failureCount = e.failureCount ∧ (e.getStatus answer).2.isAbnormal = e.isAbnormal := by
  cases answer with
  | none =>
      cases h : e.hasConnected <;> simp [EngineServer.getStatus, isHealthy, h]
  | some text =>
      by_cases ht : saysTrue text = true
      · cases hs : e.virtualInferenceStarted <;> simp [EngineServer.getStatus, isHealthy, ht, hs]
      · simp [EngineServer.getStatus, isHealthy, ht]

theorem healthCheckTask_startHealthCheck (e : EngineServer) : e.startHealthCheck.healthCheckTask = true ↔
    e.healthCheckTask = true ∨ e.config.enableVirtualInference = true ∧ 0 < e.config.npuUsageThreshold ∧
      e.config.npuUsageThreshold ≤ 100 := by
  unfold startHealthCheck
  split
  · rename_i henable
    split
    · rename_i hbad
      simp only [henable, true_and, iff_self_or]
      omega
    · rename_i hgood
      simp only [henable, true_and, true_iff]
      omega
  · rename_i henable
    simp [henable]

theorem healthCheckTask_getStatus (e : EngineServer) (answer : Option String) :
    (e.getStatus answer).2.healthCheckTask = true ↔ e.healthCheckTask = true ∨
      (SaysHealthy answer ∧ e.virtualInferenceStarted = false) ∧ e.config.enableVirtualInference = true ∧
        0 < e.config.npuUsageThreshold ∧ e.config.npuUsageThreshold ≤ 100 := by
  cases answer with
  | none => cases h : e.hasConnected <;> simp [EngineServer.getStatus, isHealthy, h, SaysHealthy]
  | some text =>
      by_cases ht : saysTrue text = true
      · cases hs : e.virtualInferenceStarted
        · have heq : (e.getStatus (some text)).2.healthCheckTask =
              (startHealthCheck { e with hasConnected := true }).healthCheckTask := by
            simp [EngineServer.getStatus, isHealthy, ht, hs]
          rw [heq, healthCheckTask_startHealthCheck]
          simp [SaysHealthy, ht]
        · simp [EngineServer.getStatus, isHealthy, ht, hs]
      · simp [EngineServer.getStatus, isHealthy, ht, SaysHealthy]

theorem Recorded.getStatus (h : w.Recorded config) (answer : Option String) : (w.getStatus answer).2.Recorded config := by
  obtain ⟨hconfig, hconnected, hflag, hcount, habnormal⟩ := getStatus_fields w.server answer
  constructor
  · exact hconfig.trans h.sameConfig
  · simp only [WatchedServer.getStatus, hconnected, Bool.or_eq_true, h.hasConnected, List.mem_append,
      List.mem_singleton, or_and_right, exists_or, exists_eq_left, Option.isSome_iff_ne_none]
  · simpa only [WatchedServer.getStatus, hflag] using h.countFailureFlag
  · simpa only [WatchedServer.getStatus, hflag, hcount] using h.failureCount
  · simpa only [WatchedServer.getStatus, habnormal] using h.isAbnormal
  · intro ht
    rcases (healthCheckTask_getStatus w.server answer).mp ht with ht | ⟨⟨hhealthy, -⟩, hon⟩
    · obtain ⟨henable, hpos, hle, earlier, hmem, hearlier⟩ := h.task ht
      exact ⟨henable, hpos, hle, earlier, List.mem_append_left _ hmem, hearlier⟩
    · rw [h.sameConfig] at hon
      exact ⟨hon.1, hon.2.1, hon.2.2, answer, by simp [WatchedServer.getStatus], hhealthy⟩
  · intro hrounds
    exact (healthCheckTask_getStatus w.server answer).mpr (Or.inl (h.rounds hrounds))

theorem healthCheckLoop_checked (e : EngineServer) (maxUsage : Int) (simInferenceSuccess : Bool) :
    ∃ simSleep, e.healthCheckLoop (.checked maxUsage simInferenceSuccess) =
      if failed e.config maxUsage simInferenceSuccess then
        if e.countFailureFlag then
          { e with
            simSleep := simSleep
            failureCount := e.failureCount + 1
            isAbnormal := e.isAbnormal || decide (e.config.maxFailureCount ≤ (e.failureCount + 1 : Nat)) }
        else { e with simSleep := simSleep }
      else { e with simSleep := simSleep, countFailureFlag := true, failureCount := 0, isAbnormal := false } := by
  have hsleep : ∃ simSleep, (if 80 ≤ maxUsage then { e with simSleep := 20 } else e) = { e with simSleep := simSleep } := by
    by_cases hmax : 80 ≤ maxUsage
    · exact ⟨20, if_pos hmax⟩
    · exact ⟨e.simSleep, if_neg hmax⟩
  obtain ⟨simSleep, hsleep⟩ := hsleep
  refine ⟨simSleep, ?_⟩
  simp only [EngineServer.healthCheckLoop, hsleep]
  by_cases hlimit : e.config.maxFailureCount ≤ (e.failureCount : Int) + 1 <;> simp [hlimit]

theorem Recorded.checked (h : w.Recorded config) (ht : w.server.healthCheckTask = true) (maxUsage : Int)
    (simInferenceSuccess : Bool) :
    Recorded config
      { w with
        server := w.server.healthCheckLoop (.checked maxUsage simInferenceSuccess)
        rounds := w.rounds ++ [.checked maxUsage simInferenceSuccess] } := by
  obtain ⟨simSleep, hnext⟩ := healthCheckLoop_checked w.server maxUsage simInferenceSuccess
  rw [hnext, h.sameConfig]
  by_cases hf : failed config maxUsage simInferenceSuccess = true
  · rw [if_pos hf]
    by_cases hc : w.server.countFailureFlag = true
    · rw [if_pos hc]
      have hmem := h.countFailureFlag.mp hc
      refine ⟨rfl, h.hasConnected, ?_, fun _ => ?_, ?_, h.task, fun _ => ht⟩
      · simp [outcomes_concat_checked, hmem, hc]
      · simp [outcomes_concat_checked, hf, countHits, h.failureCount hc]
      · rw [alarm_failed hf, Bool.or_eq_true, h.isAbnormal, decide_eq_true_eq, h.failureCount hc]
        simp [hmem]
    · rw [if_neg hc]
      have hmem := mt h.countFailureFlag.mpr hc
      refine ⟨rfl, h.hasConnected, ?_, fun hc' => absurd hc' hc, ?_, h.task, fun _ => ht⟩
      · simp [outcomes_concat_checked, hmem, hc, hf]
      · rw [alarm_failed hf, h.isAbnormal]
        simp [hmem]
  · rw [if_neg hf]
    rw [Bool.not_eq_true] at hf
    refine ⟨rfl, h.hasConnected, ?_, fun _ => ?_, ?_, h.task, fun _ => ht⟩
    · simp [outcomes_concat_checked, hf]
    · simp [outcomes_concat_checked, hf, countHits]
    · simp [not_alarm_well hf]

theorem Recorded.healthCheckLoop (h : w.Recorded config) (r : Round) : (w.healthCheckLoop r).Recorded config := by
  unfold WatchedServer.healthCheckLoop
  split
  · rename_i ht
    cases r with
    | raised =>
        refine ⟨h.sameConfig, h.hasConnected, ?_, ?_, by simp [EngineServer.healthCheckLoop, alarm_raised], h.task,
          fun _ => ht⟩
        · rw [outcomes_concat_raised]
          exact h.countFailureFlag
        · rw [outcomes_concat_raised]
          exact h.failureCount
    | checked maxUsage simInferenceSuccess => exact h.checked ht maxUsage simInferenceSuccess
  · exact h

theorem Recorded.step (h : w.Recorded config) (event : Event) : (w.step event).Recorded config := by
  cases event with
  | status answer => exact h.getStatus answer
  | round r => exact h.healthCheckLoop r

/-! ## The status -/

theorem Recorded.normal_iff (h : w.Recorded config) (answer : Option String) :
    (w.getStatus answer).1 = .normal ↔ SaysHealthy answer ∧ ¬ Alarm config w.rounds := by
  rw [← h.isAbnormal]
  cases answer with
  | none => cases hc : w.server.hasConnected <;> simp [WatchedServer.getStatus, EngineServer.getStatus, isHealthy, hc, SaysHealthy]
  | some text =>
      have hhealthy : SaysHealthy (some text) ↔ saysTrue text = true := by simp [SaysHealthy]
      rw [hhealthy]
      by_cases ht : saysTrue text = true
      · cases hs : w.server.virtualInferenceStarted <;> cases ha : w.server.isAbnormal <;>
          simp [WatchedServer.getStatus, EngineServer.getStatus, isHealthy, ht, hs, ha]
      · simp [WatchedServer.getStatus, EngineServer.getStatus, isHealthy, ht]

theorem Recorded.initial_iff (h : w.Recorded config) (answer : Option String) :
    (w.getStatus answer).1 = .initial ↔ answer = none ∧ ∀ earlier ∈ w.answers, earlier = none := by
  have hconnected : ¬ w.server.hasConnected = true ↔ ∀ earlier ∈ w.answers, earlier = none := by
    simp [h.hasConnected]
  rw [← hconnected]
  cases answer with
  | none => cases hc : w.server.hasConnected <;> simp [WatchedServer.getStatus, EngineServer.getStatus, isHealthy, hc]
  | some text =>
      by_cases ht : saysTrue text = true
      · cases hs : w.server.virtualInferenceStarted <;> cases ha : w.server.isAbnormal <;>
          simp [WatchedServer.getStatus, EngineServer.getStatus, isHealthy, ht, hs, ha]
      · simp [WatchedServer.getStatus, EngineServer.getStatus, isHealthy, ht]

theorem getStatus_mem (w : WatchedServer) (answer : Option String) :
    (w.getStatus answer).1 ∈ [EndpointStatus.normal, .initial, .abnormal] := by
  simp only [WatchedServer.getStatus, EngineServer.getStatus]
  split
  · simp
  · simp
  · dsimp only
    split <;> split <;> simp

/-- What a server tells after any run of queries and rounds. NORMAL: its engine says that it is healthy, and there is no
alarm. INITIAL: its engine does not answer, and never has. Otherwise ABNORMAL. No round runs before the engine has been
healthy, or with the loop switched off. -/
theorem status_after_run (config : HealthCheckConfig) (events : List Event) (answer : Option String) :
    let w := run WatchedServer.step { server := { config := config } } events
    ((w.getStatus answer).1 = .normal ↔ SaysHealthy answer ∧ ¬ Alarm config w.rounds) ∧
    ((w.getStatus answer).1 = .initial ↔ answer = none ∧ ∀ earlier ∈ w.answers, earlier = none) ∧
    (w.getStatus answer).1 ∈ [.normal, .initial, .abnormal] ∧ (w.rounds ≠ [] → Tried config w.answers) := by
  have hrecorded : Recorded config (run WatchedServer.step { server := { config := config } } events) :=
    run_invariant' (I := Recorded config) (fun _ event h => h.step event) recorded_init events
  exact ⟨hrecorded.normal_iff answer, hrecorded.initial_iff answer, getStatus_mem _ answer,
    fun hrounds => hrecorded.task (hrecorded.rounds hrounds)⟩

end WatchedServer

end PyMotor
