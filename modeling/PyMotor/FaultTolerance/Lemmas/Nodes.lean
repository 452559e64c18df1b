import PyMotor.Controller.Lemmas.Separation
import PyMotor.FaultTolerance.System

/-!
# What the fault manager does to the nodes
-/

/-!
## What a refresh does

A refresh separates an instance with a faulty node and recovers one without, as far as its fault level says that there
is something to recover.
-/

namespace PyMotor

open Lib

/-! ## The highest fault -/

theorem FaultLevel.lt_higherFault {l : FaultLevel} {acc : FaultLevel × Option FaultInfo} {info : FaultInfo} :
    l < (higherFault acc info).1 ↔ l < acc.1 ∨ l < info.faultLevel := by
  unfold higherFault
  split
  · rename_i hlt
    exact ⟨.inr, fun h => h.elim (fun hl => Nat.lt_trans hl hlt) id⟩
  · rename_i hle
    exact ⟨.inl, fun h => h.elim id fun hl => Nat.lt_of_lt_of_le hl (Nat.not_lt.1 hle)⟩

theorem lt_highestFault {l : FaultLevel} {infos : List FaultInfo} :
    l < (highestFault infos).1 ↔ ∃ info ∈ infos, l < info.faultLevel := by
  have hfold : ∀ acc, l < (infos.foldl higherFault acc).1 ↔ l < acc.1 ∨ ∃ info ∈ infos, l < info.faultLevel := by
    induction infos with
    | nil => simp
    | cons info infos ih =>
        intro acc
        rw [List.foldl_cons, ih, FaultLevel.lt_higherFault]
        simp only [List.mem_cons, exists_eq_or_imp, or_assoc]
  exact (hfold _).trans (or_iff_right (Nat.not_lt_zero _))

theorem highestFault_cases (infos : List FaultInfo) : highestFault infos = (.healthy, none) ∨
    ∃ info ∈ infos, .healthy < info.faultLevel ∧ highestFault infos = (info.faultLevel, some info) := by
  have hfold : ∀ acc : FaultLevel × Option FaultInfo, infos.foldl higherFault acc = acc ∨
      ∃ info ∈ infos, acc.1 < info.faultLevel ∧ infos.foldl higherFault acc = (info.faultLevel, some info) := by
    induction infos with
    | nil => exact fun acc => .inl rfl
    | cons info infos ih =>
        intro acc
        rw [List.foldl_cons]
        rcases ih (higherFault acc info) with heq | ⟨top, hmem, hlt, heq⟩
        · rw [heq]
          unfold higherFault
          split
          · rename_i hlt
            exact .inr ⟨info, List.mem_cons_self .., hlt, rfl⟩
          · exact .inl rfl
        · refine .inr ⟨top, List.mem_cons_of_mem _ hmem, ?_, heq⟩
          unfold higherFault at hlt
          split at hlt
          · rename_i hup
            exact Nat.lt_trans hup hlt
          · exact hlt
  exact hfold (.healthy, none)

namespace FaultManager

variable {fm : FaultManager} {id : Int} {nodeName : String}

theorem mem_nodesOf : nodeName ∈ fm.nodesOf id ↔ ∃ node, fm.nodes.get? nodeName = some node ∧ node.instanceId = id := by
  unfold nodesOf
  rw [List.mem_filter, Dict.mem_keys_iff]
  cases fm.nodes.get? nodeName with
  | none => simp
  | some node => simp

theorem mem_faultyNodesOf : nodeName ∈ fm.faultyNodesOf id ↔
    ∃ node, fm.nodes.get? nodeName = some node ∧ node.instanceId = id ∧ node.faultInfos.entries ≠ [] := by
  unfold faultyNodesOf
  rw [List.mem_filter, mem_nodesOf]
  cases fm.nodes.get? nodeName with
  | none => simp
  | some node => simp

theorem evalNodeStatus_lt {l : FaultLevel} : (∃ info, fm.evalNodeStatus nodeName = some info ∧ l < info.faultLevel) ↔
    ∃ node, fm.nodes.get? nodeName = some node ∧ ∃ info ∈ node.faultInfos.values, l < info.faultLevel := by
  unfold evalNodeStatus
  cases fm.nodes.get? nodeName with
  | none => simp
  | some node =>
      simp only [Option.some.injEq, exists_eq_left']
      rw [← lt_highestFault]
      rcases highestFault_cases node.faultInfos.values with heq | ⟨info, -, -, heq⟩
      · rw [heq]
        exact iff_of_false (fun ⟨_, h, _⟩ => (nomatch h)) (Nat.not_lt_zero _)
      · rw [heq]
        simp

theorem faultLevel_updateHighestFaultLevel (names : List String) (ins : InstanceMetadata) :
    (fm.updateHighestFaultLevel names ins).faultLevel = (highestFault (names.filterMap fm.evalNodeStatus)).1 := by
  unfold updateHighestFaultLevel
  dsimp only
  split
  · rfl
  · rename_i h
    exact not_not.1 h

theorem lt_updateHighestFaultLevel (fm : FaultManager) (id : Int) (ins : InstanceMetadata) {l : FaultLevel} :
    l < (fm.updateHighestFaultLevel (fm.faultyNodesOf id) ins).faultLevel ↔
      ∃ nodeName node, fm.nodes.get? nodeName = some node ∧ node.instanceId = id ∧
        ∃ info ∈ node.faultInfos.values, l < info.faultLevel := by
  rw [faultLevel_updateHighestFaultLevel, lt_highestFault]
  constructor
  · rintro ⟨info, hinfo, hlt⟩
    obtain ⟨nodeName, hname, heval⟩ := List.mem_filterMap.1 hinfo
    obtain ⟨node, hnode, hfault⟩ := evalNodeStatus_lt.1 ⟨info, heval, hlt⟩
    obtain ⟨node', hnode', hid, -⟩ := mem_faultyNodesOf.1 hname
    rw [hnode] at hnode'
    cases hnode'
    exact ⟨nodeName, node, hnode, hid, hfault⟩
  · rintro ⟨nodeName, node, hnode, hid, hfault⟩
    obtain ⟨info, heval, hlt⟩ := evalNodeStatus_lt.2 ⟨node, hnode, hfault⟩
    have hne : node.faultInfos.entries ≠ [] := by
      obtain ⟨x, hx, -⟩ := hfault
      intro he
      simp [Dict.values, he] at hx
    exact ⟨info, List.mem_filterMap.2 ⟨nodeName, mem_faultyNodesOf.2 ⟨node, hnode, hid, hne⟩, heval⟩, hlt⟩

theorem strategy_updateHighestFaultLevel (names : List String) (ins : InstanceMetadata) :
    (fm.updateHighestFaultLevel names ins).strategy = ins.strategy := by
  unfold updateHighestFaultLevel
  dsimp only
  split <;> rfl

end FaultManager

namespace FaultSystem

open FaultManager

variable {s : FaultSystem} {id : Int}

/-- A node that is recorded for the instance has a fault above L2. -/
def HasFaulty (fm : FaultManager) (id : Int) : Prop :=
  ∃ nodeName node, fm.nodes.get? nodeName = some node ∧ node.instanceId = id ∧ Faulty node

theorem l2_lt_updateHighestFaultLevel (fm : FaultManager) (id : Int) (ins : InstanceMetadata) :
    .l2 < (fm.updateHighestFaultLevel (fm.faultyNodesOf id) ins).faultLevel ↔ HasFaulty fm id :=
  lt_updateHighestFaultLevel ..

theorem refresh_cases (s : FaultSystem) (id : Int) :
    s.faultManager.instances.get? id = none ∧ s.refreshInstanceFaultLevel id = s ∨
    ∃ ins ins' c, s.faultManager.instances.get? id = some ins ∧
      s.refreshInstanceFaultLevel id = ⟨c, s.faultManager.setInstance id ins'⟩ ∧ ins'.strategy = ins.strategy ∧
      (HasFaulty s.faultManager id ∧ ins'.faultLevel ≠ .healthy ∧ c = s.controller.separateInstance id ∨
        ¬ HasFaulty s.faultManager id ∧ (c = s.controller.recoverInstance id ∨
          c = s.controller ∧ (isInstanceSeparated s.controller id = false ∨ ins.faultLevel = .healthy))) := by
  unfold refreshInstanceFaultLevel
  cases hget : s.faultManager.instances.get? id with
  | none => exact .inl ⟨rfl, rfl⟩
  | some ins =>
      refine .inr ?_
      dsimp only
      by_cases hempty : (s.faultManager.faultyNodesOf id).isEmpty = true
      · have hnone : ¬ HasFaulty s.faultManager id := by
          rw [← l2_lt_updateHighestFaultLevel _ _ ins, faultLevel_updateHighestFaultLevel, List.isEmpty_iff.1 hempty]
          exact Nat.not_lt_zero _
        rw [if_pos hempty]
        by_cases hlevel : ins.faultLevel = .healthy
        · rw [if_neg (not_not.2 hlevel)]
          refine ⟨ins, ins, s.controller, rfl, ?_, rfl, .inr ⟨hnone, .inr ⟨rfl, .inr hlevel⟩⟩⟩
          simp [setInstance, Dict.set_self hget]
        · rw [if_pos hlevel]
          exact ⟨ins, _, _, rfl, rfl, rfl, .inr ⟨hnone, .inl rfl⟩⟩
      · rw [if_neg hempty]
        have hiff := l2_lt_updateHighestFaultLevel s.faultManager id ins
        refine ⟨ins, _, _, rfl, rfl, strategy_updateHighestFaultLevel _ ins, ?_⟩
        by_cases hfaulty : HasFaulty s.faultManager id
        · rw [if_pos (hiff.2 hfaulty)]
          refine .inl ⟨hfaulty, fun he => ?_, rfl⟩
          have hlt := hiff.2 hfaulty
          rw [he] at hlt
          exact Nat.not_lt_zero _ hlt
        · rw [if_neg fun h => hfaulty (hiff.1 h)]
          refine .inr ⟨hfaulty, ?_⟩
          cases hsep : isInstanceSeparated s.controller id with
          | true => exact .inl rfl
          | false => exact .inr ⟨rfl, .inl rfl⟩

/-! ## The strategy center -/

/-- What the center does: nothing for an unknown instance; else it completes a strategy and resets the fault level, or
keeps the level and the strategy that it found or started. -/
theorem process_cases (s : FaultSystem) (id : Int) (finishes : Bool) :
    s.faultManager.instances.get? id = none ∧ s.processInstanceStrategy id finishes = s ∨
    ∃ ins ins', s.faultManager.instances.get? id = some ins ∧
      s.processInstanceStrategy id finishes = ⟨s.controller, s.faultManager.setInstance id ins'⟩ ∧
      ((∃ current, s.centerStrategy id ins = some current ∧ (current.isFinished || finishes) = true) ∧
          ins'.strategy = none ∨
        ins'.faultLevel = ins.faultLevel ∧ ins'.strategy = s.centerStrategy id ins) := by
  unfold processInstanceStrategy
  cases hget : s.faultManager.instances.get? id with
  | none => exact .inl ⟨rfl, rfl⟩
  | some ins =>
      refine .inr ⟨ins, _, rfl, rfl, ?_⟩
      cases hcenter : s.centerStrategy id ins with
      | none =>
          have hnone : ins.strategy = none := by
            unfold centerStrategy at hcenter
            split at hcenter
            · cases hcenter
            · exact hcenter
          exact .inr ⟨rfl, hnone⟩
      | some current =>
          dsimp only
          cases hfin : (current.isFinished || finishes) with
          | true => exact .inl ⟨⟨current, rfl, hfin⟩, rfl⟩
          | false => exact .inr ⟨rfl, rfl⟩

end FaultSystem

namespace FaultManager

variable {fm : FaultManager} {id : Int} {nodeName : String} {node : NodeMetadata}

/-! ## Monitors -/

@[simp] theorem nodes_createResourceMonitorForNode (fm : FaultManager) (nodeName : String) :
    (fm.createResourceMonitorForNode nodeName).nodes = fm.nodes := by
  unfold createResourceMonitorForNode
  split <;> rfl

@[simp] theorem instances_createResourceMonitorForNode (fm : FaultManager) (nodeName : String) :
    (fm.createResourceMonitorForNode nodeName).instances = fm.instances := by
  unfold createResourceMonitorForNode
  split <;> rfl

theorem nodes_createMonitors (names : List String) (fm : FaultManager) :
    (names.foldl createResourceMonitorForNode fm).nodes = fm.nodes ∧
      (names.foldl createResourceMonitorForNode fm).instances = fm.instances := by
  induction names generalizing fm with
  | nil => exact ⟨rfl, rfl⟩
  | cons name names ih =>
      obtain ⟨hnodes, hinstances⟩ := ih (fm.createResourceMonitorForNode name)
      exact ⟨hnodes.trans (by simp), hinstances.trans (by simp)⟩

/-! ## Node names -/

theorem mem_buildNodeNameMapping {hostname : String → Option String} {nms : List NodeManagerInfo}
    (h : nodeName ∈ (buildNodeNameMapping hostname nms).values) :
    ∃ nm ∈ nms, hostname nm.podIp = some nodeName := by
  obtain ⟨podIp, hget⟩ := Dict.mem_values_iff.1 h
  rcases Dict.get?_update_or hget with hmem | hnone
  · obtain ⟨nm, hnm, hentry⟩ := List.mem_filterMap.1 hmem
    obtain ⟨name, hname, hif⟩ := Option.bind_eq_some_iff.1 hentry
    split at hif
    · cases hif
    · cases hif
      exact ⟨nm, hnm, hname⟩
  · cases hnone

theorem buildNodeNameMapping_mem {hostname : String → Option String} {nms : List NodeManagerInfo}
    {nm : NodeManagerInfo} (hnm : nm ∈ nms) (h : hostname nm.podIp = some nodeName) (hne : nodeName ≠ "") :
    nodeName ∈ (buildNodeNameMapping hostname nms).values := by
  have hentry : (nm.podIp, nodeName) ∈ nms.filterMap fun nm =>
      (hostname nm.podIp).bind fun nodeName => if nodeName = "" then none else some (nm.podIp, nodeName) :=
    List.mem_filterMap.2 ⟨nm, hnm, by simp [h, hne]⟩
  obtain ⟨name, hget⟩ := Dict.exists_get?_update (d := Dict.empty) (List.mem_map_of_mem (f := Prod.fst) hentry)
  refine Dict.mem_values_iff.2 ⟨nm.podIp, ?_⟩
  rcases Dict.get?_update_or hget with hmem | hnone
  · -- The name depends on the address alone.
    obtain ⟨nm', -, hentry'⟩ := List.mem_filterMap.1 hmem
    obtain ⟨name', hname', hif⟩ := Option.bind_eq_some_iff.1 hentry'
    split at hif
    · cases hif
    · simp only [Option.some.injEq, Prod.mk.injEq] at hif
      obtain ⟨hip, rfl⟩ := hif
      rw [hip, h] at hname'
      cases hname'
      exact hget
  · cases hnone

/-! ## Removing nodes -/

theorem removeNodes_spec (names : List String) (fm : FaultManager) :
    (∀ name, (names.foldl removeNode fm).nodes.get? name = if name ∈ names then none else fm.nodes.get? name) ∧
      (names.foldl removeNode fm).instances = fm.instances := by
  induction names generalizing fm with
  | nil => simp
  | cons first names ih =>
      obtain ⟨hnodes, hinstances⟩ := ih (fm.removeNode first)
      refine ⟨fun name => ?_, hinstances⟩
      rw [List.foldl_cons, hnodes]
      simp only [removeNode, stopResourceMonitorForNode, Dict.get?_erase, List.mem_cons]
      by_cases hmem : name ∈ names
      · simp [hmem]
      · simp [hmem]

theorem get?_updateRemoved (h : (fm.updateRemoved id).nodes.get? nodeName = some node) :
    fm.nodes.get? nodeName = some node ∧ (fm.instances.contains id = true → node.instanceId ≠ id) := by
  unfold updateRemoved at h
  split at h
  · replace h : ((fm.nodesOf id).foldl removeNode fm).nodes.get? nodeName = some node := h
    rw [(removeNodes_spec _ _).1] at h
    split at h
    · cases h
    · rename_i hmem
      exact ⟨h, fun _ hid => hmem (mem_nodesOf.2 ⟨node, h, hid⟩)⟩
  · rename_i hno
    exact ⟨h, fun hyes => absurd hyes hno⟩

theorem get?_updateRemoved_of_ne (h : fm.nodes.get? nodeName = some node) (hne : node.instanceId ≠ id) :
    (fm.updateRemoved id).nodes.get? nodeName = some node := by
  unfold updateRemoved
  split
  · show ((fm.nodesOf id).foldl removeNode fm).nodes.get? nodeName = some node
    rw [(removeNodes_spec _ _).1, if_neg, h]
    rintro hmem
    obtain ⟨node', hnode', hid⟩ := mem_nodesOf.1 hmem
    rw [h] at hnode'
    cases hnode'
    exact hne hid
  · exact h

theorem instances_updateRemoved {other : Int} (hne : other ≠ id) :
    (fm.updateRemoved id).instances.get? other = fm.instances.get? other := by
  unfold updateRemoved
  split
  · show (((fm.nodesOf id).foldl removeNode fm).instances.erase id).get? other = _
    rw [(removeNodes_spec _ _).2, Dict.get?_erase_ne hne]
  · rfl

/-! ## Recording nodes -/

/-- A node that is there keeps its faults, and its instance or becomes that of `id`; a new node has no faults. -/
def Recorded (fm : FaultManager) (id : Int) (names : List String) (nodeName : String) (node : NodeMetadata) : Prop :=
  (∃ old, fm.nodes.get? nodeName = some old ∧ node.faultInfos = old.faultInfos ∧
      (node.instanceId = old.instanceId ∨ node.instanceId = id ∧ nodeName ∈ names)) ∨
    node.faultInfos = Dict.empty ∧ node.instanceId = id ∧ nodeName ∈ names

theorem recorded_of_get? {names : List String} (h : fm.nodes.get? nodeName = some node) :
    Recorded fm id names nodeName node := .inl ⟨node, h, rfl, .inl rfl⟩

theorem ensureNodeMetadata_spec (fm : FaultManager) (nodeName podIp : String) (id : Int) (update : Bool) :
    (∃ old, fm.nodes.get? nodeName = some old ∧
        (fm.ensureNodeMetadata nodeName podIp id update).1.faultInfos = old.faultInfos ∧
        (fm.ensureNodeMetadata nodeName podIp id update).1.instanceId = if update then id else old.instanceId) ∨
      fm.nodes.get? nodeName = none ∧ (fm.ensureNodeMetadata nodeName podIp id update).1.faultInfos = Dict.empty ∧
        (fm.ensureNodeMetadata nodeName podIp id update).1.instanceId = id := by
  unfold ensureNodeMetadata
  cases fm.nodes.get? nodeName with
  | none => exact .inr ⟨rfl, rfl, rfl⟩
  | some old => exact .inl ⟨old, rfl, rfl, rfl⟩

theorem nodes_syncNode (id : Int) (fm : FaultManager) (entry : String × String) :
    (syncNode id fm entry).nodes = fm.nodes.set entry.2 (fm.ensureNodeMetadata entry.2 entry.1 id false).1 ∧
      (syncNode id fm entry).instances = fm.instances := by
  unfold syncNode
  dsimp only
  split
  · simp
  · simp

theorem syncNodes_spec (id : Int) {entries : List (String × String)} {names : List String}
    (hsub : ∀ e ∈ entries, e.2 ∈ names) (fm : FaultManager) :
    (∀ nodeName node, (entries.foldl (syncNode id) fm).nodes.get? nodeName = some node →
      Recorded fm id names nodeName node) ∧ (entries.foldl (syncNode id) fm).instances = fm.instances := by
  induction entries generalizing fm with
  | nil => exact ⟨fun _ _ h => recorded_of_get? h, rfl⟩
  | cons e entries ih =>
      obtain ⟨hnodes, hinstances⟩ := nodes_syncNode id fm e
      obtain ⟨ihnodes, ihinstances⟩ := ih (fun x hx => hsub x (List.mem_cons_of_mem _ hx)) (syncNode id fm e)
      refine ⟨fun nodeName node h => ?_, ihinstances.trans hinstances⟩
      -- One round records what `Recorded` allows, and so do the rest.
      have hfirst : ∀ node', (syncNode id fm e).nodes.get? nodeName = some node' →
          Recorded fm id names nodeName node' := by
        intro node' hnode'
        rw [hnodes, Dict.get?_set] at hnode'
        split at hnode'
        · rename_i hname
          subst hname
          cases hnode'
          rcases ensureNodeMetadata_spec fm e.2 e.1 id false with ⟨old, hold, hfaults, hid⟩ | ⟨-, hfaults, hid⟩
          · exact .inl ⟨old, hold, hfaults, .inl hid⟩
          · exact .inr ⟨hfaults, hid, hsub e (List.mem_cons_self ..)⟩
        · exact recorded_of_get? hnode'
      rcases ihnodes nodeName node h with ⟨old, hold, hfaults, hid⟩ | hnew
      · rcases hfirst old hold with ⟨old', hold', hfaults', hid'⟩ | ⟨hempty, hid', hmem⟩
        · refine .inl ⟨old', hold', hfaults.trans hfaults', ?_⟩
          rcases hid with hid | hid
          · rw [hid]
            exact hid'
          · exact .inr hid
        · refine .inr ⟨hfaults.trans hempty, ?_, hmem⟩
          rcases hid with hid | hid
          · exact hid.trans hid'
          · exact hid.1
      · exact .inr hnew

theorem addNewInstanceWithNodes_spec (fm : FaultManager) (id : Int) (mapping : Dict String String) :
    (∀ nodeName ∈ mapping.values, ∃ node, (fm.addNewInstanceWithNodes id mapping).nodes.get? nodeName = some node ∧
      node.instanceId = id ∧ (∀ old, fm.nodes.get? nodeName = some old → node.faultInfos = old.faultInfos) ∧
      (fm.nodes.get? nodeName = none → node.faultInfos = Dict.empty)) ∧
    (∀ nodeName ∉ mapping.values,
      (fm.addNewInstanceWithNodes id mapping).nodes.get? nodeName = fm.nodes.get? nodeName) ∧
    (fm.addNewInstanceWithNodes id mapping).instances = fm.instances.set id {} := by
  unfold addNewInstanceWithNodes
  dsimp only
  generalize hmetas : (Dict.empty.update (mapping.entries.map fun e =>
    (e.2, (fm.ensureNodeMetadata e.2 e.1 id true).1)) : Dict String NodeMetadata) = metas
  obtain ⟨hnodes, hinstances⟩ := nodes_createMonitors metas.keys
    { fm with instances := fm.instances.set id {}, nodes := fm.nodes.update metas.entries }
  have hkeys : ∀ nodeName, nodeName ∈ mapping.values ↔ nodeName ∈ metas.keys := by
    intro nodeName
    rw [Dict.mem_keys_iff]
    constructor
    · intro hname
      obtain ⟨e, he, rfl⟩ := List.mem_map.1 hname
      rw [← hmetas]
      refine Dict.exists_get?_update ?_
      exact List.mem_map.2 ⟨_, List.mem_map_of_mem he, rfl⟩
    · rintro ⟨node, hnode⟩
      rw [← hmetas] at hnode
      rcases Dict.get?_update_or hnode with hmem | hnone
      · obtain ⟨e, he, hpair⟩ := List.mem_map.1 hmem
        cases hpair
        exact List.mem_map_of_mem he
      · cases hnone
  rw [hnodes, hinstances]
  refine ⟨fun nodeName hname => ?_, fun nodeName hname => ?_, rfl⟩
  · obtain ⟨node, hnode⟩ := Dict.mem_keys_iff.1 ((hkeys nodeName).1 hname)
    refine ⟨node, Dict.get?_update_of_mem metas.nodup (Dict.get?_eq_some_iff.1 hnode), ?_⟩
    rw [← hmetas] at hnode
    rcases Dict.get?_update_or hnode with hmem | hnone
    · obtain ⟨e, he, hpair⟩ := List.mem_map.1 hmem
      cases hpair
      rcases ensureNodeMetadata_spec fm e.2 e.1 id true with ⟨old, hold, hfaults, hid⟩ | ⟨hnone, hfaults, hid⟩
      · rw [hold]
        refine ⟨hid, fun old' ho => ?_, fun hn => (nomatch hn)⟩
        cases ho
        exact hfaults
      · rw [hnone]
        exact ⟨hid, fun old' ho => (nomatch ho), fun _ => hfaults⟩
    · cases hnone
  · exact Dict.get?_update_of_not_mem fun hmem => hname ((hkeys nodeName).2 hmem)

theorem syncInstanceNodes_recorded {hostname : String → Option String} {nms : List NodeManagerInfo}
    (h : (fm.syncInstanceNodes hostname id nms).nodes.get? nodeName = some node) :
    Recorded fm id (buildNodeNameMapping hostname nms).values nodeName node := by
  unfold syncInstanceNodes at h
  dsimp only at h
  generalize buildNodeNameMapping hostname nms = mapping at h ⊢
  split at h
  · unfold syncExistingInstanceNodes at h
    dsimp only at h
    have hspec := (syncNodes_spec id (fun e he => List.mem_map_of_mem he)
      (((fm.nodesOf id).filter fun nodeName => nodeName ∉ mapping.values).foldl removeNode fm)).1 nodeName node h
    rcases hspec with ⟨old, hold, hrest⟩ | hnew
    · rw [(removeNodes_spec _ _).1] at hold
      split at hold
      · cases hold
      · exact .inl ⟨old, hold, hrest⟩
    · exact .inr hnew
  · obtain ⟨htaken, hkept, -⟩ := addNewInstanceWithNodes_spec fm id mapping
    by_cases hname : nodeName ∈ mapping.values
    · obtain ⟨node', hnode', hid, hold, hnone⟩ := htaken nodeName hname
      rw [h] at hnode'
      cases hnode'
      cases hget : fm.nodes.get? nodeName with
      | none => exact .inr ⟨hnone hget, hid, hname⟩
      | some old => exact .inl ⟨old, hget, hold old hget, .inr ⟨hid, hname⟩⟩
    · rw [hkept nodeName hname] at h
      exact recorded_of_get? h

theorem contains_syncInstanceNodes {hostname : String → Option String} {nms : List NodeManagerInfo} {other : Int} :
    (fm.syncInstanceNodes hostname id nms).instances.contains other = true ↔
      fm.instances.contains other = true ∨ other = id := by
  unfold syncInstanceNodes
  dsimp only
  split
  · rename_i hid
    unfold syncExistingInstanceNodes
    dsimp only
    rw [(syncNodes_spec id (fun e he => List.mem_map_of_mem he) _).2, (removeNodes_spec _ _).2]
    exact ⟨.inl, fun h => h.elim (fun h => h) fun h => h ▸ hid⟩
  · rw [(addNewInstanceWithNodes_spec fm id _).2.2]
    simp only [Dict.contains, Dict.get?_set]
    by_cases he : other = id
    · simp [he]
    · simp [he]

theorem instances_syncInstanceNodes (fm : FaultManager) (hostname : String → Option String) (id : Int)
    (nms : List NodeManagerInfo) : (fm.syncInstanceNodes hostname id nms).instances = fm.instances ∨
      (fm.syncInstanceNodes hostname id nms).instances = fm.instances.set id {} := by
  unfold syncInstanceNodes
  dsimp only
  split
  · left
    unfold syncExistingInstanceNodes
    dsimp only
    rw [(syncNodes_spec id (fun e he => List.mem_map_of_mem he) _).2, (removeNodes_spec _ _).2]
  · exact .inr (addNewInstanceWithNodes_spec fm id _).2.2

theorem updateInitial_known {hostname : String → Option String} {nms : List NodeManagerInfo}
    (h : fm.instances.contains id = true) : fm.updateInitial hostname id nms = fm := if_pos h

theorem updateInitial_new {hostname : String → Option String} {nms : List NodeManagerInfo}
    (h : fm.instances.contains id = false) : fm.updateInitial hostname id nms =
      fm.addNewInstanceWithNodes id (buildNodeNameMapping hostname nms) := by
  simp [updateInitial, syncInstanceNodes, h]

end FaultManager

/-!
## What the instance manager does to the separated instances
-/

open ManagedInstance

namespace Controller

variable {c c' : Controller} {id other : Int} {r : Ref}

theorem Managed.step (hm : Managed c) (h : ManagerStep c c') : Managed c' := by
  intro id r hr
  obtain ⟨hlt, hid⟩ := hm (h.managed hr)
  exact ⟨by rw [h.length]; exact hlt, (h.form r).id.trans hid⟩

@[simp] theorem instances_separateInstance (c : Controller) (id : Int) :
    (c.separateInstance id).instances = c.instances := by
  unfold separateInstance
  split
  · rfl
  · dsimp only
    split <;> rfl

@[simp] theorem instances_recoverInstance (c : Controller) (id : Int) :
    (c.recoverInstance id).instances = c.instances := by
  unfold recoverInstance
  split <;> rfl

theorem mem_forced_separateInstance (hm : Managed c) (hr : c.instances.get? id = some r) :
    other ∈ (c.separateInstance id).forcedSeparatedInstances ↔
      other = id ∨ other ∈ c.forcedSeparatedInstances := by
  have hforced : (c.separateInstance id).forcedSeparatedInstances =
      c.forcedSeparatedInstances.insert (c.obj r).id := by
    simp only [separateInstance, hr]
    split <;> rfl
  rw [hforced, (hm hr).2, List.mem_insert_iff]

theorem mem_forced_recoverInstance (hm : Managed c) (hr : c.instances.get? id = some r) :
    other ∈ (c.recoverInstance id).forcedSeparatedInstances ↔
      other ∈ c.forcedSeparatedInstances ∧ other ≠ id := by
  simp [recoverInstance, hr, (hm hr).2]

theorem separateInstance_unmanaged (hr : c.instances.get? id = none) : c.separateInstance id = c := by
  simp only [separateInstance, hr]

theorem recoverInstance_unmanaged (hr : c.instances.get? id = none) : c.recoverInstance id = c := by
  simp only [recoverInstance, hr]

end Controller

namespace FaultSystem

open Controller

variable {nodeOf : String → String} {c c' : Controller} {id other : Int} {nodeName : String}

theorem isInstanceSeparated_iff (hm : Managed c) {r : Ref} (hr : c.instances.get? id = some r) :
    isInstanceSeparated c id = true ↔ id ∈ c.forcedSeparatedInstances := by
  simp [isInstanceSeparated, hr, (hm hr).2]

theorem onNode_congr (h : ManagerStep c c') (hi : c'.instances = c.instances) :
    OnNode nodeOf c' id nodeName ↔ OnNode nodeOf c id nodeName := by
  unfold OnNode
  simp only [hi, (h.form _).nodeManagers]

/-! ## A new instance -/

variable {ins : ManagedInstance} {timestamp : ℚ}

def added (c : Controller) (timestamp : ℚ) (ins : ManagedInstance) : Controller :=
  (c.create (ins.updateInstanceStatus .initial)).addInstance timestamp c.heap.length

theorem form_added_old (hm : Managed c) {r : Ref} (hr : c.instances.get? id = some r) :
    SameForm ((added c timestamp ins).obj r) (c.obj r) := by
  have hform := form_addInstance (c := c.create (ins.updateInstanceStatus .initial)) timestamp c.heap.length r
  rw [obj_create_old (hm hr).1] at hform
  exact hform

theorem form_added_new : SameForm ((added c timestamp ins).obj c.heap.length) ins := by
  have hform := form_addInstance (c := c.create (ins.updateInstanceStatus .initial)) timestamp c.heap.length
    c.heap.length
  rw [obj_create_new] at hform
  exact hform.trans (ins.sameForm_updateInstanceStatus .initial)

theorem managed_added (hm : Managed c) : Managed (added c timestamp ins) := by
  intro id r hr
  have hlen : (added c timestamp ins).heap.length = c.heap.length + 1 := by simp [added, create]
  rcases get?_addInstance hr with hold | ⟨hid, rfl⟩
  · obtain ⟨hlt, hid⟩ := hm hold
    exact ⟨hlen ▸ Nat.lt_succ_of_lt hlt, (form_added_old hm hold).id.trans hid⟩
  · rw [obj_create_new] at hid
    exact ⟨hlen ▸ Nat.lt_succ_self _, form_added_new.id.trans hid.symm⟩

@[simp] theorem forced_added : (added c timestamp ins).forcedSeparatedInstances = c.forcedSeparatedInstances := by
  simp [added, create]

theorem onNode_added_old (hm : Managed c) (h : OnNode nodeOf c id nodeName) :
    OnNode nodeOf (added c timestamp ins) id nodeName := by
  obtain ⟨r, hr, nm, hnm, hnode⟩ := h
  refine ⟨r, get?_addInstance_old hr, nm, ?_, hnode⟩
  rw [(form_added_old hm hr).nodeManagers]
  exact hnm

theorem onNode_added_new (h : c.instances.contains ins.id = false) {nm : NodeManagerInfo}
    (hnm : nm ∈ ins.nodeManagers) : OnNode nodeOf (added c timestamp ins) ins.id (nodeOf nm.podIp) := by
  refine ⟨c.heap.length, ?_, nm, ?_, rfl⟩
  · have hid : ((c.create (ins.updateInstanceStatus .initial)).obj c.heap.length).id = ins.id := by
      rw [obj_create_new]
      rfl
    have hno : ¬ (c.create (ins.updateInstanceStatus .initial)).instances.contains ins.id = true :=
      Bool.eq_false_iff.1 h
    unfold added Controller.addInstance
    rw [hid, if_neg hno]
    exact Dict.get?_set_self ..
  · rw [form_added_new.nodeManagers]
    exact hnm

theorem onNode_added (hm : Managed c) (h : OnNode nodeOf (added c timestamp ins) id nodeName) :
    OnNode nodeOf c id nodeName ∨ id = ins.id ∧ c.instances.contains ins.id = false ∧
      ∃ nm ∈ ins.nodeManagers, nodeOf nm.podIp = nodeName := by
  obtain ⟨r, hr, nm, hnm, hnode⟩ := h
  rcases get?_addInstance hr with hold | ⟨hid, rfl⟩
  · rw [(form_added_old hm hold).nodeManagers] at hnm
    exact .inl ⟨r, hold, nm, hnm, hnode⟩
  · rw [obj_create_new] at hid
    replace hid : id = ins.id := hid
    rw [form_added_new.nodeManagers] at hnm
    refine .inr ⟨hid, ?_, nm, hnm, hnode⟩
    -- An id that is known keeps its object, which is not the new one.
    rw [Dict.contains_eq_false_iff]
    cases hget : c.instances.get? ins.id with
    | none => rfl
    | some r' =>
        have hsame : (added c timestamp ins).instances.get? ins.id = some r' := get?_addInstance_old hget
        rw [hid] at hr
        rw [hr] at hsame
        cases hsame
        exact absurd (hm hget).1 (Nat.lt_irrefl _)

/-! ## An instance that goes -/

def removed (c : Controller) (r : Ref) (id : Int) : Controller :=
  ((c.modifyObj r (·.updateInstanceStatus .deleted)).notify r .instanceRemoved).delInstance id

theorem managerStep_removed {r : Ref} (hr : c.instances.get? id = some r) : ManagerStep c (removed c r id) :=
  ((ManagerStep.modifyObj hr fun x => x.sameForm_updateInstanceStatus .deleted).trans
    (managerStep_notify .instanceRemoved)).trans (managerStep_delInstance id)

theorem removed_spec {r : Ref} (hr : c.instances.get? id = some r) :
    (removed c r id).instances = c.instances.erase id ∧
      (removed c r id).forcedSeparatedInstances = c.forcedSeparatedInstances.filter (· ≠ id) := by
  have hcontains : ((c.modifyObj r (·.updateInstanceStatus .deleted)).notify r .instanceRemoved).instances.contains id =
      true := Dict.contains_iff.2 ⟨r, hr⟩
  unfold removed delInstance
  rw [if_pos hcontains]
  exact ⟨rfl, rfl⟩

theorem onNode_removed {r : Ref} (hr : c.instances.get? id = some r) :
    OnNode nodeOf (removed c r id) other nodeName ↔ other ≠ id ∧ OnNode nodeOf c other nodeName := by
  have hstep := managerStep_removed hr
  unfold OnNode
  rw [(removed_spec hr).1]
  simp only [(hstep.form _).nodeManagers, Dict.get?_erase]
  by_cases he : other = id
  · simp [he]
  · simp [he]

end FaultSystem

end PyMotor
