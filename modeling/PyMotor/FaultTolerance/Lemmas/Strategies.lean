import PyMotor.FaultTolerance.Lemmas.Isolation

/-!
# The level that a strategy was started for

A network recovery is started at L2 only, a scale-in above L3 only. So the class of a running strategy and the level of
its instance tell whether the level has gone up since the start.
-/

namespace PyMotor

open Lib

namespace FaultSystem

open FaultManager

variable {s : FaultSystem} {fm : FaultManager} {id : Int}

def StartedAt (strategy : Strategy) : Prop :=
  match strategy.cls with
  | .lingquNetworkRecover => strategy.startLevel = .l2
  | .scaleP2d => .l3 < strategy.startLevel

/-- Every strategy was started at a level for its class. -/
def WellStarted (fm : FaultManager) : Prop :=
  ∀ id ins strategy, fm.instances.get? id = some ins → ins.strategy = some strategy → StartedAt strategy

theorem level2Strategy_eq {config : FaultToleranceConfig} {code : Int} {cls : StrategyClass}
    (h : level2Strategy config code = some cls) : cls = .lingquNetworkRecover := by
  unfold level2Strategy at h
  split at h
  · split at h
    · exact (Option.some.inj h).symm
    · cases h
  · cases h

theorem level4Strategy_eq {config : FaultToleranceConfig} {c : Controller} {cls : StrategyClass}
    (h : level4Strategy config c id = some cls) : cls = .scaleP2d := by
  unfold level4Strategy at h
  split at h
  · split at h
    · cases h
    · split at h
      · exact (Option.some.inj h).symm
      · cases h
  · cases h

theorem strategies_cases {level : FaultLevel} {code : Int} {cls : StrategyClass}
    (h : s.strategies level code id = some cls) :
    level = .l2 ∧ level2Strategy s.faultManager.config code = some cls ∧ cls = .lingquNetworkRecover ∨
      .l3 < level ∧ cls = .scaleP2d := by
  cases level with
  | healthy => cases h
  | l1 => cases h
  | l2 => exact .inl ⟨rfl, h, level2Strategy_eq h⟩
  | l3 => cases h
  | l4 => exact .inr ⟨by decide, level4Strategy_eq h⟩
  | l5 => exact .inr ⟨by decide, level4Strategy_eq h⟩
  | l6 => exact .inr ⟨by decide, level4Strategy_eq h⟩

theorem startedClass_cases {ins : InstanceMetadata} {cls : StrategyClass} (h : s.startedClass id ins = some cls) :
    s.strategies ins.faultLevel ins.faultCode id = some cls ∧ ∀ current, ins.strategy = some current → cls ≠ current.cls := by
  unfold startedClass at h
  split at h
  · cases h
  · rename_i cls' hstrategies hnone
    cases h
    refine ⟨hstrategies, fun current hcur => ?_⟩
    rw [hnone] at hcur
    cases hcur
  · rename_i cls' current hstrategies hcur
    split at h
    · rename_i hne
      cases h
      refine ⟨hstrategies, fun current' hcur' => ?_⟩
      rw [hcur] at hcur'
      cases hcur'
      exact hne
    · cases h

/-! ## Runs -/

theorem WellStarted.setInstance (h : WellStarted fm) {ins : InstanceMetadata}
    (hins : ∀ strategy, ins.strategy = some strategy → StartedAt strategy) : WellStarted (fm.setInstance id ins) := by
  intro other ins' strategy hget hs
  rw [FaultManager.setInstance, Dict.get?_set] at hget
  split at hget
  · cases hget
    exact hins strategy hs
  · exact h _ _ _ hget hs

theorem WellStarted.syncInstanceNodes (h : WellStarted fm) (hostname : String → Option String) (id : Int)
    (nms : List NodeManagerInfo) : WellStarted (fm.syncInstanceNodes hostname id nms) := by
  intro other ins strategy hget hs
  rcases instances_syncInstanceNodes fm hostname id nms with he | he
  · rw [he] at hget
    exact h _ _ _ hget hs
  · rw [he, Dict.get?_set] at hget
    split at hget
    · cases hget
      cases hs
    · exact h _ _ _ hget hs

theorem WellStarted.updateInitial (h : WellStarted fm) (hostname : String → Option String) (id : Int)
    (nms : List NodeManagerInfo) : WellStarted (fm.updateInitial hostname id nms) := by
  unfold FaultManager.updateInitial
  split
  · exact h
  · exact h.syncInstanceNodes hostname id nms

theorem WellStarted.updateRemoved (h : WellStarted fm) (id : Int) : WellStarted (fm.updateRemoved id) := by
  intro other ins strategy hget hs
  by_cases he : other = id
  · subst he
    unfold FaultManager.updateRemoved at hget
    split at hget
    · replace hget : (((fm.nodesOf other).foldl removeNode fm).instances.erase other).get? other = some ins := hget
      rw [Dict.get?_erase_self] at hget
      cases hget
    · exact h _ _ _ hget hs
  · rw [instances_updateRemoved he] at hget
    exact h _ _ _ hget hs

theorem WellStarted.watchMove {s' : FaultSystem} (h : WellStarted s.faultManager) (hmove : WatchMove s s') :
    WellStarted s'.faultManager := by
  cases hmove with
  | quiet monitors => exact h
  | update monitors nodeName node node' hget hid =>
      unfold updateNode
      rcases refresh_cases ⟨(s.withMonitors monitors).controller,
        (s.withMonitors monitors).faultManager.setNode nodeName node'⟩ node'.instanceId with
        ⟨-, heq⟩ | ⟨ins, ins', c', hins, heq, hsame, -⟩
      · rw [heq]
        exact h
      · rw [heq]
        have hset : WellStarted ((s.withMonitors monitors).faultManager.setNode nodeName node') := h
        refine hset.setInstance fun strategy hs => ?_
        rw [hsame] at hs
        exact h _ _ _ hins hs

theorem WellStarted.processInstanceStrategy (h : WellStarted s.faultManager) (id : Int) (finishes : Bool) :
    WellStarted (s.processInstanceStrategy id finishes).faultManager := by
  rcases process_cases s id finishes with ⟨-, heq⟩ | ⟨ins, ins', hget, heq, hcase⟩
  · rw [heq]
    exact h
  · rw [heq]
    refine h.setInstance fun strategy hs => ?_
    rcases hcase with ⟨-, hnone⟩ | ⟨-, hcenter⟩
    · rw [hnone] at hs
      cases hs
    · rw [hcenter] at hs
      unfold centerStrategy at hs
      split at hs
      · rename_i cls hstarted
        cases hs
        -- A new strategy, at the level of the instance.
        unfold StartedAt
        rcases strategies_cases (startedClass_cases hstarted).1 with ⟨hlevel, -, rfl⟩ | ⟨hlevel, rfl⟩
        · exact hlevel
        · exact hlevel
      · exact h _ _ _ hget hs

theorem WellStarted.step (h : WellStarted s.faultManager) (nodeOf : String → String) (event : Event) :
    WellStarted (step nodeOf s event).faultManager := by
  cases event with
  | addInstance timestamp ins answers =>
      simp only [FaultSystem.step, addInstance]
      split
      · exact h
      · exact h.updateInitial _ _ _
  | removeInstance id =>
      simp only [FaultSystem.step, removeInstance]
      split
      · exact h
      · exact h.updateRemoved id
  | updateInstances answers =>
      have hfold : ∀ (xs : List ManagedInstance) (fm : FaultManager), WellStarted fm → WellStarted (xs.foldl
          (fun fm x => fm.syncInstanceNodes (hostname nodeOf answers) x.id x.nodeManagers) fm) := by
        intro xs
        induction xs with
        | nil => exact fun fm hfm => hfm
        | cons x xs ih => exact fun fm hfm => ih _ (hfm.syncInstanceNodes _ _ _)
      exact hfold _ _ h
  | restart nodes instances =>
      intro id ins strategy hget hs
      replace hget : (instances.mapValues fun ins => { ins with strategy := none }).get? id = some ins := hget
      rw [Dict.get?_mapValues] at hget
      obtain ⟨ins', -, rfl⟩ := Option.map_eq_some_iff.1 hget
      cases hs
  | updateConfig config => exact h
  | configmapChange nodeName event => exact h.watchMove (watchMove_configmapChange s nodeName event)
  | nodeChange nodeName event => exact h.watchMove (watchMove_nodeChange s nodeName event)
  | finishStrategy id =>
      intro other ins strategy hget hs
      simp only [FaultSystem.step, finishStrategy, Dict.get?_adjust] at hget
      split at hget
      · obtain ⟨ins', hins', rfl⟩ := Option.map_eq_some_iff.1 hget
        obtain ⟨old, hold, rfl⟩ := Option.map_eq_some_iff.1 hs
        have hstart := h _ _ _ hins' hold
        unfold StartedAt at hstart ⊢
        exact hstart
      · exact h _ _ _ hget hs
  | processInstanceStrategy id finishes => exact h.processInstanceStrategy id finishes

theorem notDowngraded_iff (h : WellStarted s.faultManager) (event : Event) :
    s.NotDowngraded event ↔ s.StrategySound event := by
  cases event with
  | processInstanceStrategy id finishes =>
      constructor
      · intro hnot ins current hget hcur hfin hcls hlevel
        cases hstrategy : level2Strategy s.faultManager.config ins.faultCode with
        | none => rfl
        | some cls =>
            have hlingqu := level2Strategy_eq hstrategy
            have hstarted : s.startedClass id ins = some cls := by
              simp [startedClass, strategies, hlevel, hstrategy, hcur, hcls, hlingqu]
            have hlt := hnot ins current cls hget hcur hfin hstarted
            have hstart := h _ _ _ hget hcur
            unfold StartedAt at hstart
            rw [hcls] at hstart
            rw [hlevel] at hlt
            exact absurd (Nat.lt_trans hstart hlt) (by decide)
      · intro hsound ins current cls hget hcur hfin hstarted
        obtain ⟨hstrategies, hne⟩ := startedClass_cases hstarted
        have hstart := h _ _ _ hget hcur
        unfold StartedAt at hstart
        have hne := hne current hcur
        rcases strategies_cases hstrategies with ⟨hlevel, hl2, rfl⟩ | ⟨hlevel, rfl⟩
        · cases hcls : current.cls with
          | lingquNetworkRecover => exact absurd hcls.symm hne
          | scaleP2d => exact absurd (hl2.symm.trans (hsound ins current hget hcur hfin hcls hlevel)) nofun
        · cases hcls : current.cls with
          | lingquNetworkRecover =>
              rw [hcls] at hstart
              rw [hstart]
              exact Nat.lt_trans (by decide) hlevel
          | scaleP2d => exact absurd hcls.symm hne
  | addInstance timestamp ins answers => exact Iff.rfl
  | removeInstance id => exact Iff.rfl
  | updateInstances answers => exact Iff.rfl
  | restart nodes instances => exact Iff.rfl
  | updateConfig config => exact Iff.rfl
  | configmapChange nodeName event => exact Iff.rfl
  | nodeChange nodeName event => exact Iff.rfl
  | finishStrategy id => exact Iff.rfl

end FaultSystem

end PyMotor
