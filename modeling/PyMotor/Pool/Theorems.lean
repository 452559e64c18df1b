import PyMotor.Pool.Conductor
import PyMotor.Pool.Lemmas.Invariant
import PyMotor.Pool.Lemmas.Consistent

/-!
# The pools over whole runs

The six maps stay consistent as long as no id enters a second role pool, the gathered workload is always
the sum over the endpoints, and SET assigns the declared ids.
-/

namespace PyMotor.InstanceManager

open Lib

variable {m : InstanceManager}

/-! ## Consistency -/

/-- In every run whose refreshes keep the role of every available id, the six maps are consistent. -/
theorem consistent_of_roleKept (ops : List Op) (h : Along InstanceManager.step RoleKept {} ops) :
    Consistent (run InstanceManager.step {} ops) :=
  (inv_run ops).consistent (noStale_run h)

theorem consistent_add_del_readd :
    Consistent (run InstanceManager.step {}
      [.refresh .add [{ id := 1, role := "prefill" }], .refresh .del [{ id := 1, role := "prefill" }],
        .refresh .set [{ id := 1, role := "decode" }]]) :=
  consistent_of_roleKept _ (by decide)

/-- An id that comes back with another role sits in two role pools. -/
theorem not_consistent_other_role :
    ¬ Consistent (run InstanceManager.step {}
      [.refresh .add [{ id := 1, role := "prefill" }], .refresh .add [{ id := 1, role := "decode" }]]) := by
  intro h
  have hp : ((run InstanceManager.step {} [.refresh .add [{ id := 1, role := "prefill" }],
      .refresh .add [{ id := 1, role := "decode" }]]).rolePool .roleP).contains 1 = true := by decide
  have hd : ((run InstanceManager.step {} [.refresh .add [{ id := 1, role := "prefill" }],
      .refresh .add [{ id := 1, role := "decode" }]]).rolePool .roleD).contains 1 = true := by decide
  cases h.disjoint hp hd

/-! ## The gathered workload -/

/-- In every reachable state the gathered workload of an available instance is the sum of the workloads of
its endpoints over all pods. -/
theorem gathered_of_available (ops : List Op) (id : Int) (r : Ref)
    (h : (run InstanceManager.step {} ops).availablePool.get? id = some r) :
    ((run InstanceManager.step {} ops).obj r).Gathered :=
  allGathered_run ops r ⟨id, Or.inl h⟩

theorem gathered_after_update :
    ((run InstanceManager.step {}
      [.refresh .add [{ id := 1, role := "prefill", endpoints := .single "pod" (.single 0 { id := 7 }) }],
        .updateWorkload 1 7 ⟨2, 3⟩]).obj 0).Gathered :=
  gathered_of_available _ 1 0 (by decide)

/-! ## SET is an assignment -/

/-- SET leaves exactly the listed ids: a known id keeps its pool, its object and its workload, a new id is
available and idle. SET with the same ids does nothing, and the ids do not depend on the history. -/
theorem set_is_assignment (ops : List Op) (h : Along InstanceManager.step RoleKept {} ops)
    (instances : List Instance) (hrole : ∀ x ∈ instances, (PDRole.ofString? x.role).isSome)
    (hn : (instances.map Instance.id).Nodup) :
    let m := run InstanceManager.step {} ops
    let m' := (m.refresh .set instances).2
    (∀ id, id ∈ m'.currentIds ↔ id ∈ instances.map Instance.id) ∧
    (∀ id ∈ m.currentIds, id ∈ instances.map Instance.id →
      m'.availablePool.get? id = m.availablePool.get? id ∧
      m'.unavailablePool.get? id = m.unavailablePool.get? id ∧
      ∀ r, m.availablePool.get? id = some r ∨ m.unavailablePool.get? id = some r → m'.obj r = m.obj r) ∧
    (∀ x ∈ instances, x.id ∉ m.currentIds →
      ∃ r, m'.availablePool.get? x.id = some r ∧ m'.obj r = x.initWorkload ∧
        (m'.obj r).gatheredWorkload = 0 ∧ ∀ ep ∈ (m'.obj r).endpointList, ep.workload = 0) ∧
    (∀ instances', (∀ id, id ∈ instances'.map Instance.id ↔ id ∈ instances.map Instance.id) →
      (m'.refresh .set instances').1 = .ok false ∧ SamePools m' (m'.refresh .set instances').2) ∧
    ∀ ops', Along InstanceManager.step RoleKept {} ops' →
      ∀ id, id ∈ ((run InstanceManager.step {} ops').refresh .set instances).2.currentIds ↔ id ∈ m'.currentIds := by
  intro m m'
  have hi : Inv m := inv_run ops
  have hassigned : Assigned m instances m' := refresh_set_assigned hi (noStale_run h) hrole hn
  refine ⟨hassigned.ids, ?_, ?_, ?_, ?_⟩
  · intro id hid hl
    obtain ⟨ha, hu⟩ := hassigned.keptPool id hid hl
    refine ⟨ha, hu, fun r hr => hassigned.keptObj r (hi.pooled_lt ⟨id, hr⟩)⟩
  · intro x hx hid
    obtain ⟨r, ha, hobj⟩ := hassigned.new x hx hid
    refine ⟨r, ha, hobj, by rw [hobj]; rfl, ?_⟩
    rw [hobj]
    exact fun ep => Instance.workload_initWorkload
  · intro instances' hids
    rw [refresh_set_same fun id => (hassigned.ids id).trans (hids id).symm]
    exact ⟨rfl, SamePools.alloc m' instances'⟩
  · intro ops' h' id
    have hassigned' := refresh_set_assigned (inv_run ops') (noStale_run h') hrole hn
    exact (hassigned'.ids id).trans (hassigned.ids id).symm

def prefillAndDecode : InstanceManager :=
  run InstanceManager.step {} [.refresh .add [{ id := 1, role := "prefill" }, { id := 2, role := "decode" }]]

theorem set_replaces_instance :
    (1 ∈ (prefillAndDecode.refresh .set [{ id := 2, role := "decode" }, { id := 3, role := "both" }]).2.currentIds ↔
      (1 : Int) ∈ [2, 3]) ∧
    (3 ∈ (prefillAndDecode.refresh .set [{ id := 2, role := "decode" }, { id := 3, role := "both" }]).2.currentIds ↔
      (3 : Int) ∈ [2, 3]) :=
  have hassigned := (set_is_assignment [.refresh .add [{ id := 1, role := "prefill" }, { id := 2, role := "decode" }]]
    (by decide) [{ id := 2, role := "decode" }, { id := 3, role := "both" }] (by decide) (by decide)).1
  ⟨hassigned 1, hassigned 3⟩

end PyMotor.InstanceManager

/-!
## Registration at the conductor

Entering registers and a DEL takes back. The other ways out of the pools leave the registrations behind.
-/

namespace PyMotor.KvManager

open Lib ConductorApiClient InstanceManager

variable {config : PrefillKvEventConfig} {s : KvManager} {b : Registration} {op : Op} {refs : List Ref}

/-! ### The posts of a call -/

theorem registered_addInstances (h : s.Announcing) (hok : ∃ b, (InstanceManager.addInstances false refs s.manager).1 = .ok b) :
    (s.addInstances refs).2.registered = s.registered ∪ {b | b ∈ unregisterKvInstance s.config
      ((instancesTmp refs s.manager).map (InstanceManager.addInstances false refs s.manager).2.obj)} := by
  obtain ⟨modified, hok⟩ := hok
  rcases hadd : InstanceManager.addInstances false refs s.manager with ⟨result, m⟩
  rw [hadd] at hok
  cases hok
  have hann : Announcing { s with manager := m } := ⟨h.typename, h.ready⟩
  simp only [addInstances, hadd]
  exact (registered_register hann _).2

theorem registered_applySetDiff (h : s.Announcing) (hi : Inv s.manager)
    (hok : ∃ b, (InstanceManager.addInstances false (s.manager.additions .set refs).1
      (s.manager.additions .set refs).2).1 = .ok b) :
    (s.applySetDiff refs).2.registered = s.registered ∪ {b | b ∈ unregisterKvInstance s.config
      ((instancesTmp (s.manager.additions .set refs).1 (s.manager.additions .set refs).2).map
        (InstanceManager.addInstances false (s.manager.additions .set refs).1 (s.manager.additions .set refs).2).2.obj)} := by
  simp only [applySetDiff, additions] at hok ⊢
  split
  · rename_i hempty
    rw [Bool.and_eq_true, List.isEmpty_iff, List.isEmpty_iff] at hempty
    have hnone : {b | b ∈ unregisterKvInstance s.config []} = (∅ : Set Registration) := by
      simp [unregisterKvInstance, prefillEndpoints]
    rw [hempty.2, instancesTmp, List.map_nil, hnone, Set.union_empty]
  · have hdeleted := (deleteInstances_spec hi (s.manager.computeSetDiff refs).2 false).1
    rcases hdel : deleteInstances false (s.manager.computeSetDiff refs).2 s.manager with ⟨result, m⟩
    rw [hdel] at hdeleted hok
    cases hdeleted
    have hann : Announcing { s with manager := m } := ⟨h.typename, h.ready⟩
    exact registered_addInstances hann hok

theorem registered_step (h : s.Announcing) (hi : Inv s.manager) (hc : s.manager.Completes op) :
    (s.step op).registered = (s.registered ∪ s.manager.added s.config op) \ {b | b ∈ withdrawn s.config op} := by
  have hkeep : ∀ op, withdrawn s.config op = [] → ∀ t : Set Registration, t \ {b | b ∈ withdrawn s.config op} = t := by
    intro op hop t
    simp [hop]
  have hnone : ∀ op, s.manager.entered op = [] → s.manager.added s.config op = ∅ := by
    intro op hop
    simp [added, hop, unregisterKvInstance, prefillEndpoints]
  cases op with
  | refresh event instances =>
      have hann : Announcing { s with manager := (s.manager.alloc instances).2 } := ⟨h.typename, h.ready⟩
      cases event with
      | add =>
          rw [hkeep _ rfl]
          exact registered_addInstances hann (additions_ok hc)
      | set =>
          rw [hkeep _ rfl]
          exact registered_applySetDiff hann (hi.alloc instances) (additions_ok hc)
      | del =>
          have hdeleted := (deleteInstances_spec (hi.alloc instances) (s.manager.alloc instances).1 false).1
          have hobj : (deleteInstances false (s.manager.alloc instances).1 (s.manager.alloc instances).2).2.obj =
              (s.manager.alloc instances).2.obj := obj_additions .del _
          rcases hdel : deleteInstances false (s.manager.alloc instances).1 (s.manager.alloc instances).2 with ⟨result, m⟩
          rw [hdel] at hdeleted hobj
          cases hdeleted
          have hann' : Announcing { s with manager := m } := ⟨h.typename, h.ready⟩
          rw [hnone (.refresh .del instances) rfl, Set.union_empty]
          simp only [step, refreshInstances, hdel, hobj, alloc_refs_map]
          exact registered_unregister hann' instances
  | updateState | deleteUnavailable | updateWorkload | stop =>
      rw [hkeep _ rfl, hnone _ rfl, Set.union_empty]
      rfl

/-! ### Due and registered -/

theorem not_withdrawn (hb : b ∈ s.manager.kept s.config op ∪ s.manager.added s.config op) :
    b ∉ withdrawn s.config op := by
  intro hw
  cases op with
  | refresh event instances =>
      cases event with
      | add | set => cases hw
      | del =>
          rcases hb with ⟨r, _, hout, hb⟩ | hb
          · obtain ⟨x, hx, hbx⟩ := mem_unregisterKvInstance.mp hw
            apply hout
            rw [id_eq_of_mem hb hbx]
            exact List.mem_map_of_mem hx
          · cases hb
  | updateState | deleteUnavailable | updateWorkload | stop => cases hw

theorem not_due_of_takesOut {x : Instance} (hout : s.manager.TakesOut op x.id)
    (hb : b ∈ unregisterKvInstance s.config [x]) : b ∉ s.manager.kept s.config op ∪ s.manager.added s.config op := by
  rintro (⟨r, _, hkept, hbr⟩ | hadded)
  · rw [id_eq_of_mem hbr hb] at hkept
    exact hkept hout
  · obtain ⟨y, hy, hby⟩ := mem_unregisterKvInstance.mp hadded
    cases op with
    | refresh event instances =>
        have hlisted := id_of_entered hy
        rw [← id_eq_of_mem hb hby] at hlisted
        cases event with
        | add => exact hout
        | del => cases hy
        | set => exact hout hlisted
    | updateState | deleteUnavailable | updateWorkload | stop => cases hy

structure Sound (s : KvManager) : Prop where
  announcing : s.Announcing
  inv : Inv s.manager

theorem Sound.step (h : s.Sound) (op : Op) : (s.step op).Sound :=
  ⟨h.announcing.leads (step_leads s op), (step_leads s op).manager ▸ h.inv.step op⟩

theorem covered_step (h : s.Sound) (hc : s.manager.Completes op) (hcov : s.manager.due s.config ⊆ s.registered) :
    (s.step op).manager.due (s.step op).config ⊆ (s.step op).registered := by
  have hl := step_leads s op
  rw [hl.manager, hl.config, registered_step h.announcing h.inv hc]
  intro b hb
  have hb := due_step_subset h.inv op hb
  refine ⟨?_, not_withdrawn hb⟩
  exact hb.imp (fun hkept => hcov (mem_due_of_kept hkept)) fun hadded => hadded

/-- A call keeps the registrations exact exactly when it takes back what it takes out. -/
theorem exact_step (h : s.Sound) (hs : NoStale s.manager) (hr : PooledAll HasRole s.manager)
    (hc : s.manager.Completes op) (hk : RoleKept s.manager op) (hexact : s.Exact) : (s.step op).Exact ↔ s.Told op := by
  have hl := step_leads s op
  rw [Exact, hl.manager, hl.config, registered_step h.announcing h.inv hc, due_step h.inv hs hr hk, hexact]
  constructor
  · intro he x hx hout b hb
    by_contra hw
    have hdue : b ∈ s.manager.due s.config := mem_unregisterKvInstance.mpr ⟨x, hx, hb⟩
    have hstays : b ∈ s.manager.kept s.config op ∪ s.manager.added s.config op := he ▸ ⟨Or.inl hdue, hw⟩
    exact not_due_of_takesOut hout hb hstays
  · intro ht
    ext b
    constructor
    · rintro ⟨hdue | hadded, hw⟩
      · obtain ⟨r, hp, hb⟩ := mem_due.mp hdue
        refine Or.inl ⟨r, hp, fun hout => ?_, hb⟩
        exact hw (ht _ (mem_pooledInstances.mpr ⟨r, hp, rfl⟩) hout b hb)
      · exact Or.inr hadded
    · intro hb
      exact ⟨hb.imp mem_due_of_kept fun hadded => hadded, not_withdrawn hb⟩

/-! ### Runs -/

theorem sound_start (h : Ready config) : (start config).Sound := ⟨⟨rfl, h⟩, inv_init⟩

theorem exact_start : (start config).Exact := by
  have hdue : (start config).manager.due config = ∅ := by
    ext b
    simp [mem_due, Pooled, start]
  unfold Exact
  exact hdue.symm

def prefillInstance : Instance :=
  { id := 1, role := "prefill", modelName := "m", endpoints := .single "pod" (.single 0 { id := 7, ip := "10.0.0.1" }) }

def kvEventConfig : PrefillKvEventConfig := { endpoint := "tcp://*:5557" }

theorem ready_kvEventConfig : Ready kvEventConfig where
  endpoint := ⟨"tcp://".toList, "5557".toList, by decide, by decide⟩
  replayEndpoint scheme port h := by
    have hone : splitWildcard kvEventConfig.replayEndpoint.toList = [[]] := by decide
    rw [hone] at h
    cases h

end PyMotor.KvManager
