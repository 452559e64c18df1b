import PyMotor.FaultTolerance.FaultManager
import PyMotor.Lib.Lists
import PyMotor.Lib.Run
import PyMotor.Recompute.Common

/-!
# The updates a monitor passes on

A monitor leaves an update out that it has cached. The cache is written before the handler is called, and its comparison
takes reordered faults for new ones where two of them agree in all but their origin.
-/

namespace PyMotor

open Lib

/-- A monitor with the arguments of the latest calls of its handlers that returned, as far as there are any after the
latest deletion. -/
structure MonitorRun where
  monitor : ResourceMonitor := {}
  returnedFaultInfos : Option (List FaultInfo) := none
  returnedStatus : Option NodeStatus := none

/-- An event and how a call of the handler ends at it. -/
inductive MonitorEvent
  | configmap (event : WatchEvent (List FaultInfo)) (handler : Except PyException Unit)
  | node (event : WatchEvent NodeStatus) (handler : Except PyException Unit)

namespace MonitorRun

/-- What the latest call that returned got, after an event at which the handler got `called`. -/
def returnedAfter {α : Type} (returned : Option α) (event : WatchEvent α) (called : Option α)
    (handler : Except PyException Unit) : Option α :=
  match event, called, handler with
  | .deleted, _, _ => none
  | .present _, some data, .ok () => some data
  | .present _, _, _ => returned

def step (r : MonitorRun) : MonitorEvent → MonitorRun
  | .configmap event handler =>
    let (monitor, called) := r.monitor.handleConfigmapChange event
    { r with monitor := monitor, returnedFaultInfos := returnedAfter r.returnedFaultInfos event called handler }
  | .node event handler =>
    let (monitor, called) := r.monitor.handleNodeChange event
    { r with monitor := monitor, returnedStatus := returnedAfter r.returnedStatus event called handler }

/-- The handler gets the data of the event unless they have been handled. -/
def Offers {α : Type} (handled : Prop) (data : α) (called : Option α) : Prop :=
  (handled → called = none) ∧ (¬ handled → called = some data)

/-- At ADDED and MODIFIED the handler is called exactly when there is something new since its latest call that returned. -/
def LosesNothing (r : MonitorRun) : MonitorEvent → Prop
  | .configmap (.present infos) _ =>
    Offers (∃ last, r.returnedFaultInfos = some last ∧ infos.Perm last) infos
      (r.monitor.handleConfigmapChange (.present infos)).2
  | .node (.present status) _ =>
    Offers (r.returnedStatus = some status) status (r.monitor.handleNodeChange (.present status)).2
  | .configmap .deleted _ => True
  | .node .deleted _ => True

/-- The faults agree in all that the comparison sorts by. -/
def Agree (x y : FaultInfo) : Prop :=
  x.faultType = y.faultType ∧ x.npuName = y.npuName ∧ x.faultCode = y.faultCode ∧ x.faultLevel = y.faultLevel

instance (x : FaultInfo) : DecidablePred (Agree x) := fun y =>
  inferInstanceAs (Decidable (x.faultType = y.faultType ∧ x.npuName = y.npuName ∧ x.faultCode = y.faultCode ∧
    x.faultLevel = y.faultLevel))

/-- The lists have the same faults, and those that agree in the same order. -/
def SameOrder (infos last : List FaultInfo) : Prop := ∀ x, infos.filter (Agree x) = last.filter (Agree x)

/-- The latest call returned, and a ConfigMap that only reorders its faults does not reorder those that agree. Or it
failed, and the event shows neither what the call got nor what the latest one got that returned. -/
def Undisturbed (r : MonitorRun) : MonitorEvent → Prop
  | .configmap (.present infos) _ =>
    (r.monitor.lastFaultInfos = r.returnedFaultInfos →
      ∀ last, r.returnedFaultInfos = some last → infos.Perm last → SameOrder infos last) ∧
    (r.monitor.lastFaultInfos ≠ r.returnedFaultInfos →
      (∀ failed, r.monitor.lastFaultInfos = some failed → ¬ SameOrder infos failed) ∧
      ∀ last, r.returnedFaultInfos = some last → ¬ infos.Perm last)
  | .node (.present status) _ =>
    r.monitor.lastNodeStatus ≠ r.returnedStatus →
      r.monitor.lastNodeStatus ≠ some status ∧ r.returnedStatus ≠ some status
  | .configmap .deleted _ => True
  | .node .deleted _ => True

end MonitorRun

/-! ## The comparison -/

namespace ResourceMonitor

open MonitorRun

def sortCmp : FaultInfo → FaultInfo → Ordering :=
  compareLex (compareLex (compareLex (compareOn fun info => info.faultType.value) (compareOn FaultInfo.npuName))
    (compareOn FaultInfo.faultCode)) (compareOn fun info => info.faultLevel.value)

instance : Std.TransCmp sortCmp := inferInstanceAs (Std.TransCmp (compareLex _ _))

theorem sortLe_trans (x y z : FaultInfo) (hxy : sortLe x y = true) (hyz : sortLe y z = true) : sortLe x z = true :=
  @Std.TransCmp.isLE_trans FaultInfo sortCmp _ x y z hxy hyz

theorem sortLe_total (x y : FaultInfo) : (sortLe x y || sortLe y x) = true := by
  have hxy : sortLe x y = (sortCmp x y).isLE := rfl
  have hyx : sortLe y x = (sortCmp x y).swap.isLE := by
    rw [← Std.OrientedCmp.eq_swap]
    rfl
  rw [hxy, hyx]
  cases sortCmp x y <;> rfl

theorem sortCmp_eq_iff {x y : FaultInfo} : sortCmp x y = .eq ↔ Agree x y := by
  have htype : x.faultType.value = y.faultType.value ↔ x.faultType = y.faultType := by
    cases x.faultType <;> cases y.faultType <;> decide
  have hlevel : x.faultLevel.value = y.faultLevel.value ↔ x.faultLevel = y.faultLevel := by
    cases x.faultLevel <;> cases y.faultLevel <;> decide
  simp only [sortCmp, compareLex_eq_eq, compareOn, Std.LawfulEqOrd.compare_eq_iff_eq, htype, hlevel, Agree, and_assoc]

theorem alike_sortLe (x y : FaultInfo) : alike sortLe x y = decide (Agree x y) := by
  rw [Bool.eq_iff_iff, decide_eq_true_iff, ← sortCmp_eq_iff, alike, Bool.and_eq_true]
  constructor
  · intro h
    exact Std.OrientedCmp.isLE_antisymm h.1 h.2
  · intro h
    have hxy : sortLe x y = (sortCmp x y).isLE := rfl
    have hyx : sortLe y x = (sortCmp x y).swap.isLE := by
      rw [← Std.OrientedCmp.eq_swap]
      rfl
    rw [hxy, hyx, h]
    exact ⟨rfl, rfl⟩

variable {monitor : ResourceMonitor} {infos last : List FaultInfo}

theorem mergeSort_sortLe_iff : infos.mergeSort sortLe = last.mergeSort sortLe ↔ SameOrder infos last := by
  rw [mergeSort_eq_iff sortLe_trans sortLe_total]
  refine forall_congr' fun x => ?_
  have h : alike sortLe x = fun y => decide (Agree x y) := funext (alike_sortLe x)
  rw [h]

theorem perm_of_sameOrder (h : SameOrder infos last) : infos.Perm last := by
  have hsorted := mergeSort_sortLe_iff.mpr h
  exact (List.mergeSort_perm infos sortLe).symm.trans (hsorted ▸ List.mergeSort_perm last sortLe)

/-- A ConfigMap is left out exactly when it has the cached faults, in the same order where they agree. -/
theorem hasFaultInfoChanged_eq_false_iff : monitor.hasFaultInfoChanged infos = false ↔
    ∃ last, monitor.lastFaultInfos = some last ∧ SameOrder infos last := by
  rw [hasFaultInfoChanged]
  cases monitor.lastFaultInfos with
  | none => simp
  | some last =>
      simp only [Option.some.injEq, exists_eq_left']
      split
      · rename_i hlength
        exact ⟨(fun h => by cases h), fun h => absurd (perm_of_sameOrder h).length_eq hlength⟩
      · rw [decide_eq_false_iff_not, not_not, mergeSort_sortLe_iff]

theorem handleConfigmapChange_present : monitor.handleConfigmapChange (.present infos) =
    if monitor.hasFaultInfoChanged infos = true then ({ monitor with lastFaultInfos := some infos }, some infos)
    else (monitor, none) := rfl

end ResourceMonitor

namespace MonitorRun

open ResourceMonitor

variable {r : MonitorRun} {event : MonitorEvent} {events : List MonitorEvent} {infos : List FaultInfo}
  {status : NodeStatus}

/-! ## One event -/

theorem offers_faultInfos {handled : Prop} :
    Offers handled infos (r.monitor.handleConfigmapChange (.present infos)).2 ↔
      (handled ↔ ∃ cached, r.monitor.lastFaultInfos = some cached ∧ SameOrder infos cached) := by
  rw [← hasFaultInfoChanged_eq_false_iff, handleConfigmapChange_present, Offers]
  cases r.monitor.hasFaultInfoChanged infos <;> simp

theorem offers_status {handled : Prop} : Offers handled status (r.monitor.handleNodeChange (.present status)).2 ↔
    (handled ↔ r.monitor.lastNodeStatus = some status) := by
  rw [ResourceMonitor.handleNodeChange, Offers]
  split
  · rename_i hchanged
    simp [hchanged.symm]
  · rename_i hsame
    simp [(not_not.mp hsame).symm]

/-- A failed call got other faults than the latest one that returned. -/
structure FailedDiffer (r : MonitorRun) : Prop where
  cached : r.monitor.lastFaultInfos = none → r.returnedFaultInfos = none
  differ : ∀ failed last, r.monitor.lastFaultInfos = some failed → r.returnedFaultInfos = some last →
    failed.Perm last → failed = last

theorem step_configmap_cases (r : MonitorRun) (infos : List FaultInfo) (handler : Except PyException Unit) :
    (r.step (.configmap (.present infos) handler) = r ∧
      (r.monitor.handleConfigmapChange (.present infos)).2 = none) ∨
    ((r.step (.configmap (.present infos) handler)).monitor.lastFaultInfos = some infos ∧
      (r.monitor.handleConfigmapChange (.present infos)).2 = some infos ∧
      ((r.step (.configmap (.present infos) handler)).returnedFaultInfos = some infos ∨
        (r.step (.configmap (.present infos) handler)).returnedFaultInfos = r.returnedFaultInfos)) := by
  simp only [step, handleConfigmapChange_present]
  cases r.monitor.hasFaultInfoChanged infos with
  | false => exact .inl ⟨rfl, rfl⟩
  | true =>
      cases handler with
      | ok _ => exact .inr ⟨rfl, rfl, .inl rfl⟩
      | error e => exact .inr ⟨rfl, rfl, .inr rfl⟩

theorem FailedDiffer.step (h : r.FailedDiffer) (hoffers : r.LosesNothing event) : (r.step event).FailedDiffer := by
  cases event with
  | configmap event handler =>
      cases event with
      | deleted => exact ⟨fun _ => rfl, fun failed last hfailed => by cases hfailed⟩
      | present infos =>
          rcases step_configmap_cases r infos handler with ⟨hsame, -⟩ | ⟨hcached, hcalled, hreturned⟩
          · rwa [hsame]
          · refine ⟨fun hnone => ?_, fun failed last hfailed hlast hperm => ?_⟩
            · rw [hcached] at hnone
              cases hnone
            · rw [hcached, Option.some.injEq] at hfailed
              subst hfailed
              rcases hreturned with hreturned | hreturned
              · rw [hreturned, Option.some.injEq] at hlast
                exact hlast
              · rw [hreturned] at hlast
                have hnone := hoffers.1 ⟨last, hlast, hperm⟩
                rw [hcalled] at hnone
                cases hnone
  | node event handler =>
      have hfaults : (r.step (.node event handler)).monitor.lastFaultInfos = r.monitor.lastFaultInfos := by
        cases event with
        | deleted => rfl
        | present status =>
            simp only [MonitorRun.step, ResourceMonitor.handleNodeChange]
            split <;> rfl
      exact ⟨fun hnone => h.cached (hfaults ▸ hnone), fun failed last hfailed => h.differ failed last (hfaults ▸ hfailed)⟩

/-- At one event, when no failed call got the faults that the latest one got that returned. -/
theorem losesNothing_iff_undisturbed (h : r.FailedDiffer) : r.LosesNothing event ↔ r.Undisturbed event := by
  cases event with
  | configmap event handler =>
      cases event with
      | deleted => exact Iff.rfl
      | present infos =>
          rw [LosesNothing, offers_faultInfos, Undisturbed]
          by_cases hsame : r.monitor.lastFaultInfos = r.returnedFaultInfos
          · rw [hsame]
            constructor
            · intro hiff
              refine ⟨fun _ last hlast hperm => ?_, fun hne => absurd rfl hne⟩
              obtain ⟨cached, hcached, horder⟩ := hiff.mp ⟨last, hlast, hperm⟩
              rw [hlast, Option.some.injEq] at hcached
              rwa [hcached]
            · rintro ⟨hreorder, -⟩
              constructor
              · rintro ⟨last, hlast, hperm⟩
                exact ⟨last, hlast, hreorder rfl last hlast hperm⟩
              · rintro ⟨last, hlast, horder⟩
                exact ⟨last, hlast, perm_of_sameOrder horder⟩
          · constructor
            · intro hiff
              refine ⟨fun heq => absurd heq hsame, fun _ => ?_⟩
              have hnone : ∀ failed last, r.monitor.lastFaultInfos = some failed → r.returnedFaultInfos = some last →
                  infos.Perm last → ¬ SameOrder infos failed := by
                intro failed last hfailed hlast hperm horder
                have heq := h.differ failed last hfailed hlast ((perm_of_sameOrder horder).symm.trans hperm)
                exact hsame (by rw [hfailed, hlast, heq])
              constructor
              · intro failed hfailed horder
                obtain ⟨last, hlast, hperm⟩ := hiff.mpr ⟨failed, hfailed, horder⟩
                exact hnone failed last hfailed hlast hperm horder
              · intro last hlast hperm
                obtain ⟨failed, hfailed, horder⟩ := hiff.mp ⟨last, hlast, hperm⟩
                exact hnone failed last hfailed hlast hperm horder
            · rintro ⟨-, hother⟩
              obtain ⟨hfailed, hreturned⟩ := hother hsame
              constructor
              · rintro ⟨last, hlast, hperm⟩
                exact absurd hperm (hreturned last hlast)
              · rintro ⟨failed, hcached, horder⟩
                exact absurd horder (hfailed failed hcached)
  | node event handler =>
      cases event with
      | deleted => exact Iff.rfl
      | present status =>
          rw [LosesNothing, offers_status, Undisturbed]
          constructor
          · intro hiff hne
            constructor
            · intro hcached
              exact hne (hcached.trans (hiff.mpr hcached).symm)
            · intro hreturned
              exact hne ((hiff.mp hreturned).trans hreturned.symm)
          · intro hother
            by_cases hsame : r.monitor.lastNodeStatus = r.returnedStatus
            · rw [hsame]
            · have hneither := hother hsame
              exact ⟨fun hreturned => absurd hreturned hneither.2, fun hcached => absurd hcached hneither.1⟩

/-! ## Runs -/

/-- Every update is passed on, and once, along exactly the runs in which no event repeats a failed call or returns to what
was handled before it, and no reordering tells apart what the comparison does not. -/
theorem losesNothing_iff (events : List MonitorEvent) :
    Along step LosesNothing ({} : MonitorRun) events ↔ Along step Undisturbed ({} : MonitorRun) events := by
  have hstart : FailedDiffer {} := ⟨fun _ => rfl, fun failed last hfailed => by cases hfailed⟩
  constructor
  · exact along_of_invariant (fun r event h hoffers => h.step hoffers)
      (fun r event h => (losesNothing_iff_undisturbed h).mp) hstart
  · exact along_of_invariant (fun r event h hok => h.step ((losesNothing_iff_undisturbed h).mpr hok))
      (fun r event h => (losesNothing_iff_undisturbed h).mpr) hstart

def testFault : FaultInfo := { faultType := .cardUnhealthy, npuName := "Ascend910-0", faultCode := 0x80cb8002 }

theorem failedUpdate_lost : ¬ Along step LosesNothing ({} : MonitorRun)
    [.configmap (.present [testFault]) (.error (.builtin "KeyError")), .configmap (.present [testFault]) (.ok ())] := by
  rintro ⟨-, ⟨-, hoffered⟩, -⟩
  have hcalled := hoffered (by
    rintro ⟨last, hlast, -⟩
    cases hlast)
  rw [handleConfigmapChange_present, hasFaultInfoChanged_eq_false_iff.mpr ⟨[testFault], rfl, fun x => rfl⟩] at hcalled
  cases hcalled

end MonitorRun

end PyMotor
