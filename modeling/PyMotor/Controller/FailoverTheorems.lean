import Mathlib
import PyMotor.Controller.Lemmas.Process
import PyMotor.Controller.Persistence
import PyMotor.Controller.ProcessTheorems
import PyMotor.Lib.Text

/-!
# Failover
-/

/-! What a fresh manager has after it restores the data of another one. -/

namespace PyMotor

open Lib

/-! ## Refreshed instances -/

namespace ManagedInstance

variable {x : ManagedInstance} {timestamp : ℚ}

theorem timeless_refreshHeartbeats (x : ManagedInstance) (timestamp : ℚ) :
    ((x.refreshHeartbeats timestamp).endpoints.mapValues fun eps => eps.mapValues Endpoint.timeless) =
      x.endpoints.mapValues fun eps => eps.mapValues Endpoint.timeless := by
  apply Dict.ext
  simp only [refreshHeartbeats, Dict.mapValues, List.map_map]
  apply List.map_congr_left
  intro e _
  simp [Function.comp_def, Endpoint.timeless]

theorem hbTimestamp_refreshHeartbeats {ep : Endpoint} (h : ep ∈ (x.refreshHeartbeats timestamp).endpointList) :
    ep.hbTimestamp = timestamp := by
  rw [Instance.endpointList, refreshHeartbeats, Dict.values_mapValues, List.flatMap_map] at h
  obtain ⟨eps, -, hep⟩ := List.mem_flatMap.mp h
  rw [Dict.values_mapValues] at hep
  obtain ⟨ep', -, rfl⟩ := List.mem_map.mp hep
  rfl

theorem restoredAs_maybeRefreshHeartbeat (timestamp : ℚ) (x : ManagedInstance) :
    x.RestoredAs timestamp (Controller.maybeRefreshHeartbeat timestamp x) := by
  unfold Controller.maybeRefreshHeartbeat
  split
  · rename_i hactive
    exact ⟨rfl, x.timeless_refreshHeartbeats timestamp, fun hs => absurd hactive hs,
      fun _ ep hep => hbTimestamp_refreshHeartbeats hep⟩
  · rename_i hs
    exact ⟨rfl, rfl, fun _ => rfl, fun hactive => absurd hactive hs⟩

end ManagedInstance

namespace Controller

open Etcd

variable {J T : Type} {codec : Codec J T} {c : Controller} {persisted restored : ℚ}

theorem keys_foldl_restoreInstance {timestamp : ℚ} {xs : List ManagedInstance} (hids : (xs.map (·.id)).Nodup)
    (hnew : ∀ x ∈ xs, c.instances.get? x.id = none) :
    (xs.foldl (restoreInstance timestamp) c).instances.keys = c.instances.keys ++ xs.map (·.id) := by
  induction xs generalizing c with
  | nil => simp
  | cons x xs ih =>
      rw [List.map_cons, List.nodup_cons] at hids
      rw [List.foldl_cons, ih hids.2, instances_restoreInstance, Dict.keys_set_absent (hnew x (List.mem_cons_self ..)),
        List.append_assoc]
      · rfl
      · intro y hy
        rw [instances_restoreInstance, Dict.get?_set_ne]
        · exact hnew y (List.mem_cons_of_mem _ hy)
        · rintro he
          exact hids.1 (he ▸ List.mem_map_of_mem hy)

/-! ## The data -/

theorem restored_data (hcodec : codec.Lawful) (c : Controller) :
    ((Dict.empty : Dict String J).update
      (c.instances.entries.map fun e => (toString e.1, codec.modelDump (c.obj e.2)))).values.filterMap codec.modelInit =
      c.instances.values.map c.obj := by
  have hkeys : ((c.instances.entries.map fun e => (toString e.1, codec.modelDump (c.obj e.2))).map Prod.fst).Nodup := by
    rw [List.map_map]
    have hmap := c.instances.nodup.map Text.toString_injective
    rwa [List.map_map] at hmap
  rw [Dict.values, Dict.entries_update_absent hkeys (fun _ _ => Dict.get?_empty _)]
  simp [Dict.values, List.filterMap_map, Function.comp_def, hcodec.modelInit_modelDump]

theorem failover_eq (hcodec : codec.Lawful) (c : Controller) (persisted restored : ℚ) :
    c.failover codec persisted restored =
      (true, ({ dataVersion := c.dataVersion + 1 } : Controller).restoreInstances restored
        (c.instances.values.map c.obj)) := by
  simp only [failover, restorePersisted, persistData, Option.bind_some, hcodec.jsonLoads_jsonDumps,
    restored_data hcodec, Nat.zero_max]
  exact if_pos (decide_eq_true rfl)

/-- Each managed object has the id it is managed under. -/
def Keyed (c : Controller) : Prop := ∀ {id r}, c.instances.get? id = some r → (c.obj r).id = id

theorem Keyed.ids (h : Keyed c) : (c.instances.values.map c.obj).map (·.id) = c.instances.keys := by
  rw [Dict.values, Dict.keys, List.map_map, List.map_map]
  apply List.map_congr_left
  intro e he
  exact h (Dict.get?_eq_some_iff.mpr he)

theorem Keyed.keys_failover (h : Keyed c) (hcodec : codec.Lawful) :
    (c.failover codec persisted restored).2.instances.keys = c.instances.keys := by
  rw [failover_eq hcodec]
  refine (keys_foldl_restoreInstance ?_ fun _ _ => Dict.get?_empty _).trans ?_
  · rw [h.ids]
    exact c.instances.nodup
  · rw [h.ids]
    rfl

theorem Keyed.instances_failover (h : Keyed c) (hcodec : codec.Lawful) {id : Int} {r : Ref}
    (hr : c.instances.get? id = some r) :
    ∃ r', (c.failover codec persisted restored).2.instances.get? id = some r' ∧
      (c.obj r).RestoredAs restored ((c.failover codec persisted restored).2.obj r') := by
  have hids : ((c.instances.values.map c.obj).map (·.id)).Nodup := by
    rw [h.ids]
    exact c.instances.nodup
  have hmem : c.obj r ∈ c.instances.values.map c.obj := List.mem_map_of_mem (Dict.mem_values_iff.mpr ⟨id, hr⟩)
  have hentry : ∃ r', (({ dataVersion := c.dataVersion + 1 } : Controller).restoreInstances restored
      (c.instances.values.map c.obj)).instances.get? (c.obj r).id = some r' ∧
      (({ dataVersion := c.dataVersion + 1 } : Controller).restoreInstances restored
        (c.instances.values.map c.obj)).obj r' = maybeRefreshHeartbeat restored (c.obj r) :=
    get?_foldl_restoreInstance_mem hids hmem
  obtain ⟨r', hr', hobj⟩ := hentry
  rw [failover_eq hcodec]
  refine ⟨r', h hr ▸ hr', ?_⟩
  rw [hobj]
  exact ManagedInstance.restoredAs_maybeRefreshHeartbeat restored _

theorem separated_failover (hcodec : codec.Lawful) :
    (c.failover codec persisted restored).2.forcedSeparatedInstances = [] := by
  rw [failover_eq hcodec]
  simp [restoreInstances]

theorem version_failover (hcodec : codec.Lawful) :
    (c.failover codec persisted restored).2.dataVersion = c.dataVersion + 1 := by
  have hloop : ∀ (xs : List ManagedInstance) (c : Controller),
      (xs.foldl (restoreInstance restored) c).dataVersion = c.dataVersion := by
    intro xs
    induction xs with
    | nil => exact fun _ => rfl
    | cons x xs ih =>
        intro c
        rw [List.foldl_cons, ih]
        unfold restoreInstance
        dsimp only
        split <;> rfl
  rw [failover_eq hcodec]
  exact hloop _ _

theorem Keyed.failoverPreserves_iff (h : Keyed c) (hcodec : codec.Lawful) :
    FailoverPreserves codec c persisted restored ↔ c.forcedSeparatedInstances = [] := by
  constructor
  · intro hpreserves
    apply List.eq_nil_iff_forall_not_mem.mpr
    intro id hid
    have hlost := (hpreserves.separated id).mpr hid
    rw [separated_failover hcodec] at hlost
    cases hlost
  · intro hnone
    refine ⟨?_, h.keys_failover hcodec, fun id r hr => h.instances_failover hcodec hr, ?_, fun id => ?_, fun id hid => ?_⟩
    · rw [failover_eq hcodec]
    · rw [version_failover hcodec]
      exact le_rfl
    · rw [separated_failover hcodec, hnone]
    · rw [hnone] at hid
      cases hid

end Controller

namespace ControllerProcess

theorem failover_eq_restoreManager {J T : Type} {codec : Etcd.Codec J T} (hcodec : codec.Lawful)
    (p : ControllerProcess) (persisted restored : ℚ) :
    (p.controller.failover codec persisted restored).2 =
      ({ clock := restored, managerData := p.persistManager.managerData } : ControllerProcess).restoreManager.controller := by
  rw [Controller.failover_eq hcodec]
  simp [restoreManager, persistManager]

end ControllerProcess

end PyMotor

namespace PyMotor.ControllerProcess

open Lib

/-- After every run, a fresh manager that restores the persisted data has the same instances, a version that is not
smaller and the same separated ids, if and only if no instance is separated. -/
theorem failover_preserves_iff {J T : Type} (codec : Etcd.Codec J T) (hcodec : codec.Lawful) (events : List Event)
    (persisted restored : ℚ) :
    Controller.FailoverPreserves codec (run step {} events).controller persisted restored ↔
      (run step {} events).controller.forcedSeparatedInstances = [] := by
  have hinv : ProcessInv (run step {} events) := run_invariant' (fun _ event hi => hi.step event) processInv_init events
  have hkeyed : Controller.Keyed (run step {} events).controller := fun hr => (hinv.managed hr).2
  exact hkeyed.failoverPreserves_iff hcodec

def plainCodec : Etcd.Codec ManagedInstance (Etcd.PersistentState ManagedInstance) where
  modelDump x := x
  modelInit := some
  strItems items := ",".intercalate (items.map fun e => e.1 ++ toString e.2.id)
  strFloat timestamp := toString timestamp
  sha256 text := text
  jsonDumps state := state
  jsonLoads := some

theorem lawful_plainCodec : plainCodec.Lawful := ⟨fun _ => rfl, fun _ => rfl⟩

theorem failover_preserves_recovered :
    (run step {} (oneActive "p" "a" 1 ++ oneActive "d" "b" 2 ++ [.separate 1, .recover 1])).controller.instances.keys =
      [1, 2] ∧
    Controller.FailoverPreserves plainCodec
      (run step {} (oneActive "p" "a" 1 ++ oneActive "d" "b" 2 ++ [.separate 1, .recover 1])).controller 5 6 :=
  ⟨by decide, (failover_preserves_iff plainCodec lawful_plainCodec _ 5 6).mpr (by decide)⟩

/-- A separated instance is active again after failover and one heartbeat. -/
theorem not_failover_preserves :
    ¬ Controller.FailoverPreserves plainCodec (run step {} (oneActive "p" "a" 1 ++ [.separate 1])).controller 5 6 := by
  intro h
  refine h.guarded 1 (by decide) [(7, 1, "a", ⟨[(0, .normal)], by simp⟩)] 0 (by decide) ?_
  decide

end PyMotor.ControllerProcess
