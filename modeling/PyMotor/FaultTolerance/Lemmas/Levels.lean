import PyMotor.FaultTolerance.System
import PyMotor.FaultTolerance.Lemmas.Isolation

/-!
# What the nodes and the monitors hold of the faults

`NodeTracks` says that a node holds the faults that are shown of it, one for each code, `Tracks` that all nodes do so, or
satisfy another property of what is shown, and that their monitors hold what they have passed on last.
-/

namespace PyMotor

open Lib

/-! ## One node -/

variable {c : Cluster} {nodeName : String} {node : NodeMetadata} {infos : List FaultInfo} {info : FaultInfo}

structure NodeTracks (c : Cluster) (nodeName : String) (node : NodeMetadata) : Prop where
  status : node.nodeStatus = c.status nodeName
  shown : ∀ info ∈ c.faultInfos nodeName, info.faultCode ≠ nodeReboot ∧
    ∃ kept, node.faultInfos.get? info.faultCode = some kept ∧ ¬ kept.faultLevel < info.faultLevel
  recorded : ∀ code info, node.faultInfos.get? code = some info → code ≠ nodeReboot ∧ info ∈ c.faultInfos nodeName ∨
    code = nodeReboot ∧ info = nodeRebootFault ∧ c.status nodeName = .notReady
  reboot : c.status nodeName = .notReady → node.faultInfos.get? nodeReboot = some nodeRebootFault

theorem Cluster.mem_faults : info ∈ c.faults nodeName ↔
    info ∈ c.faultInfos nodeName ∨ c.status nodeName = .notReady ∧ info = nodeRebootFault := by
  unfold Cluster.faults
  cases c.status nodeName with
  | ready => simp
  | notReady => simp

theorem NodeTracks.mem_faults (h : NodeTracks c nodeName node) (hinfo : info ∈ node.faultInfos.values) :
    info ∈ c.faults nodeName := by
  obtain ⟨code, hget⟩ := Dict.mem_values_iff.1 hinfo
  rw [Cluster.mem_faults]
  rcases h.recorded code info hget with ⟨-, hmem⟩ | ⟨-, heq, hstatus⟩
  · exact .inl hmem
  · exact .inr ⟨hstatus, heq⟩

theorem NodeTracks.lt_iff (h : NodeTracks c nodeName node) {l : FaultLevel} :
    (∃ info ∈ node.faultInfos.values, l < info.faultLevel) ↔ ∃ info ∈ c.faults nodeName, l < info.faultLevel := by
  constructor
  · rintro ⟨info, hinfo, hlt⟩
    exact ⟨info, h.mem_faults hinfo, hlt⟩
  · rintro ⟨info, hinfo, hlt⟩
    rcases Cluster.mem_faults.1 hinfo with hmem | ⟨hstatus, rfl⟩
    · obtain ⟨-, kept, hget, hnot⟩ := h.shown info hmem
      exact ⟨kept, Dict.mem_values_iff.2 ⟨_, hget⟩, Nat.lt_of_lt_of_le hlt (Nat.not_lt.1 hnot)⟩
    · exact ⟨_, Dict.mem_values_iff.2 ⟨_, h.reboot hstatus⟩, hlt⟩

theorem get?_withFaultInfos (hhidden : Watched.NoneHidden infos) (code : Int) :
    (node.withFaultInfos infos).faultInfos.get? code = if code = nodeReboot then node.faultInfos.get? nodeReboot
      else (infos.filter fun info => info.faultCode = code).getLast? := by
  have hnone : (infos.filter fun info => info.faultCode = nodeReboot) = [] := by
    rw [List.filter_eq_nil_iff]
    exact fun info hinfo => by simpa using (hhidden info hinfo).1
  unfold NodeMetadata.withFaultInfos
  dsimp only
  cases hget : node.faultInfos.get? nodeReboot with
  | none =>
      dsimp only
      rw [Dict.get?_update_map]
      split
      · rename_i hcode
        subst hcode
        rw [hnone]
        rfl
      · simp
  | some reboot =>
      dsimp only
      rw [Dict.get?_set, Dict.get?_update_map]
      simp

theorem NodeTracks.withFaultInfos {event : WatchEvent (List FaultInfo)} (h : NodeTracks c nodeName node)
    (hhidden : Watched.NoneHidden (event.shown [])) :
    NodeTracks (c.observe (.configmap nodeName event)) nodeName (node.withFaultInfos (event.shown [])) := by
  have hinfos : (c.observe (.configmap nodeName event)).faultInfos nodeName = event.shown [] := Function.update_self ..
  have hstatus : (c.observe (.configmap nodeName event)).status = c.status := rfl
  generalize event.shown [] = infos at hhidden hinfos
  refine ⟨h.status, fun info hinfo => ?_, fun code info hget => ?_, fun hnot => ?_⟩
  · rw [hinfos] at hinfo
    obtain ⟨hcode, hlast⟩ := hhidden info hinfo
    refine ⟨hcode, ?_⟩
    rw [get?_withFaultInfos hhidden, if_neg hcode]
    cases hget : (infos.filter fun other => other.faultCode = info.faultCode).getLast? with
    | none =>
        rw [List.getLast?_eq_none_iff] at hget
        exact absurd (List.mem_filter.2 ⟨hinfo, by simp⟩) (List.eq_nil_iff_forall_not_mem.1 hget info)
    | some last => exact ⟨last, rfl, hlast last hget⟩
  · rw [get?_withFaultInfos hhidden] at hget
    rw [hinfos, hstatus]
    split at hget
    · rename_i hcode
      rcases h.recorded _ _ hget with ⟨hne, -⟩ | ⟨-, hrest⟩
      · exact absurd rfl hne
      · exact .inr ⟨hcode, hrest⟩
    · rename_i hcode
      exact .inl ⟨hcode, (List.mem_filter.1 (List.mem_of_getLast? hget)).1⟩
  · rw [get?_withFaultInfos hhidden, if_pos rfl]
    exact h.reboot hnot

theorem NodeTracks.get?_withStatus (h : NodeTracks c nodeName node) (status : NodeStatus) (code : Int) :
    (node.withStatus status).faultInfos.get? code = if code = nodeReboot then
      (if status = .notReady then some nodeRebootFault else none) else node.faultInfos.get? code := by
  unfold NodeMetadata.withStatus
  dsimp only
  by_cases hsame : node.nodeStatus = status
  · rw [if_neg (not_not.2 hsame)]
    split
    · rename_i hcode
      subst hcode
      rw [h.status] at hsame
      split
      · rename_i hnot
        exact h.reboot (hsame.trans hnot)
      · rename_i hready
        cases hget : node.faultInfos.get? nodeReboot with
        | none => rfl
        | some reboot =>
            rcases h.recorded _ _ hget with ⟨hne, -⟩ | ⟨-, -, hnot⟩
            · exact absurd rfl hne
            · exact absurd (hsame.symm.trans hnot) hready
    · rfl
  · rw [if_pos hsame]
    cases status with
    | ready => simp [Dict.get?_erase]
    | notReady => simp [Dict.get?_set]

theorem NodeTracks.withStatus {event : WatchEvent NodeStatus} (h : NodeTracks c nodeName node) :
    NodeTracks (c.observe (.status nodeName event)) nodeName (node.withStatus (event.shown .notReady)) := by
  have hstatus : (c.observe (.status nodeName event)).status nodeName = event.shown .notReady :=
    Function.update_self ..
  have hinfos : (c.observe (.status nodeName event)).faultInfos = c.faultInfos := rfl
  generalize event.shown .notReady = status at hstatus
  refine ⟨?_, fun info hinfo => ?_, fun code info hget => ?_, fun hnot => ?_⟩
  · rw [hstatus]
    unfold NodeMetadata.withStatus
    dsimp only
    split
    · cases status <;> rfl
    · rfl
  · rw [hinfos] at hinfo
    obtain ⟨hcode, hkept⟩ := h.shown info hinfo
    refine ⟨hcode, ?_⟩
    rw [h.get?_withStatus, if_neg hcode]
    exact hkept
  · rw [h.get?_withStatus] at hget
    rw [hinfos, hstatus]
    split at hget
    · rename_i hcode
      split at hget
      · rename_i hnot
        cases hget
        exact .inr ⟨hcode, rfl, hnot⟩
      · cases hget
    · rename_i hcode
      rcases h.recorded _ _ hget with hinl | ⟨hreboot, -⟩
      · exact .inl hinl
      · exact absurd hreboot hcode
  · rw [hstatus] at hnot
    rw [h.get?_withStatus, if_pos rfl, if_pos hnot]

/-! ## The fault manager -/

/-- What the monitor has passed on last, the ConfigMap up to the order. -/
structure MonitorTracks (c : Cluster) (nodeName : String) (monitor : ResourceMonitor) : Prop where
  faultInfos : ∀ last, monitor.lastFaultInfos = some last → last.Perm (c.faultInfos nodeName)
  status : ∀ last, monitor.lastNodeStatus = some last → last = c.status nodeName

/-- Every node satisfies `P`, and has a monitor that holds what is shown. -/
structure Tracks (P : Cluster → String → NodeMetadata → Prop) (c : Cluster) (fm : FaultManager) : Prop where
  node : ∀ nodeName node, fm.nodes.get? nodeName = some node → P c nodeName node
  monitored : ∀ nodeName node, fm.nodes.get? nodeName = some node → fm.resourceMonitors.contains nodeName = true
  monitor : ∀ nodeName monitor, fm.resourceMonitors.get? nodeName = some monitor → MonitorTracks c nodeName monitor

variable {P : Cluster → String → NodeMetadata → Prop} {fm fm' : FaultManager} {id : Int} {ins : InstanceMetadata}
  {monitor : ResourceMonitor}

theorem Cluster.mem_faultsOf : info ∈ c.faultsOf fm id ↔
    ∃ nodeName node, fm.nodes.get? nodeName = some node ∧ node.instanceId = id ∧ info ∈ c.faults nodeName := by
  unfold Cluster.faultsOf
  simp only [List.mem_flatMap, FaultManager.mem_nodesOf]
  constructor
  · rintro ⟨nodeName, ⟨node, hget, hid⟩, hinfo⟩
    exact ⟨nodeName, node, hget, hid, hinfo⟩
  · rintro ⟨nodeName, node, hget, hid, hinfo⟩
    exact ⟨nodeName, ⟨node, hget, hid⟩, hinfo⟩

theorem LevelExact.congr {infos' : List FaultInfo} (h : LevelExact infos ins)
    (hmem : ∀ info, info ∈ infos ↔ info ∈ infos') : LevelExact infos' ins where
  highest info hinfo := h.highest info ((hmem info).2 hinfo)
  attained hne := by
    obtain ⟨info, hinfo, hsame⟩ := h.attained hne
    exact ⟨info, (hmem info).1 hinfo, hsame⟩
  healthy := h.healthy

theorem Tracks.lt_iff (h : Tracks NodeTracks c fm) {l : FaultLevel} :
    l < (fm.updateHighestFaultLevel (fm.faultyNodesOf id) ins).faultLevel ↔
      ∃ info ∈ c.faultsOf fm id, l < info.faultLevel := by
  rw [FaultManager.lt_updateHighestFaultLevel]
  constructor
  · rintro ⟨nodeName, node, hget, hid, hfault⟩
    obtain ⟨info, hinfo, hlt⟩ := (h.node nodeName node hget).lt_iff.1 hfault
    exact ⟨info, Cluster.mem_faultsOf.2 ⟨nodeName, node, hget, hid, hinfo⟩, hlt⟩
  · rintro ⟨info, hinfo, hlt⟩
    obtain ⟨nodeName, node, hget, hid, hfault⟩ := Cluster.mem_faultsOf.1 hinfo
    exact ⟨nodeName, node, hget, hid, (h.node nodeName node hget).lt_iff.2 ⟨info, hfault, hlt⟩⟩

theorem Tracks.mem_faultsOf (h : Tracks NodeTracks c fm) (hinfo : info ∈ (fm.faultyNodesOf id).filterMap fm.evalNodeStatus) :
    info ∈ c.faultsOf fm id := by
  obtain ⟨nodeName, hname, heval⟩ := List.mem_filterMap.1 hinfo
  obtain ⟨node, hget, hid, -⟩ := FaultManager.mem_faultyNodesOf.1 hname
  refine Cluster.mem_faultsOf.2 ⟨nodeName, node, hget, hid, (h.node nodeName node hget).mem_faults ?_⟩
  simp only [FaultManager.evalNodeStatus, hget] at heval
  rcases highestFault_cases node.faultInfos.values with heq | ⟨top, hmem, -, heq⟩
  · rw [heq] at heval
    cases heval
  · rw [heq] at heval
    cases heval
    exact hmem

theorem Tracks.levelExact_update (h : Tracks NodeTracks c fm) (hzero : ins.faultLevel = .healthy → ins.faultCode = 0)
    (hkept : Watched.CodeKept (c.faultsOf fm id) ins) :
    LevelExact (c.faultsOf fm id) (fm.updateHighestFaultLevel (fm.faultyNodesOf id) ins) := by
  have hhighest : ∀ info ∈ c.faultsOf fm id,
      ¬ (fm.updateHighestFaultLevel (fm.faultyNodesOf id) ins).faultLevel < info.faultLevel :=
    fun info hinfo hlt => Nat.lt_irrefl _ (h.lt_iff.2 ⟨info, hinfo, hlt⟩)
  generalize htop : highestFault ((fm.faultyNodesOf id).filterMap fm.evalNodeStatus) = top
  have hcase : top = (.healthy, none) ∨
      ∃ info ∈ c.faultsOf fm id, .healthy < info.faultLevel ∧ top = (info.faultLevel, some info) := by
    rw [← htop]
    rcases highestFault_cases ((fm.faultyNodesOf id).filterMap fm.evalNodeStatus) with heq | ⟨info, hmem, hlt, heq⟩
    · exact .inl heq
    · exact .inr ⟨info, h.mem_faultsOf hmem, hlt, heq⟩
  by_cases hsame : ins.faultLevel = top.1
  · -- The level stays, and the code is not written.
    have hupdate : fm.updateHighestFaultLevel (fm.faultyNodesOf id) ins = ins := by
      unfold FaultManager.updateHighestFaultLevel
      dsimp only
      rw [htop, if_neg (not_not.2 hsame)]
    rw [hupdate] at hhighest ⊢
    refine ⟨hhighest, fun hne => hkept hne hhighest ?_, hzero⟩
    rcases hcase with heq | ⟨info, hmem, -, heq⟩
    · rw [heq] at hsame
      exact absurd hsame hne
    · rw [heq] at hsame
      exact ⟨info, hmem, hsame.symm⟩
  · have hupdate : fm.updateHighestFaultLevel (fm.faultyNodesOf id) ins =
        { ins with faultLevel := top.1, faultCode := top.2.elim 0 (·.faultCode) } := by
      unfold FaultManager.updateHighestFaultLevel
      dsimp only
      rcases top with ⟨level, _ | info⟩
      · simp only [htop, if_pos hsame, Option.elim_none]
      · simp only [htop, if_pos hsame, Option.elim_some]
    rw [hupdate] at hhighest ⊢
    rcases hcase with rfl | ⟨info, hmem, hlt, rfl⟩
    · exact ⟨hhighest, fun hne => absurd rfl hne, fun _ => rfl⟩
    · refine ⟨hhighest, fun _ => ⟨info, hmem, rfl, rfl⟩, fun heq => ?_⟩
      replace heq : info.faultLevel = .healthy := heq
      rw [heq] at hlt
      exact absurd hlt (Nat.lt_irrefl _)

/-! ## A refresh -/

/-- The instances other than the refreshed one. -/
def ExactBut (c : Cluster) (fm : FaultManager) (skip : Int) : Prop :=
  ∀ id ins, id ≠ skip → fm.instances.get? id = some ins → LevelExact (c.faultsOf fm id) ins

theorem Tracks.exact_refresh {s : FaultSystem} (h : Tracks NodeTracks c s.faultManager)
    (hothers : ExactBut c s.faultManager id)
    (hzero : ∀ ins, s.faultManager.instances.get? id = some ins → ins.faultLevel = .healthy → ins.faultCode = 0)
    (hkept : ∀ ins, s.faultManager.instances.get? id = some ins →
      Watched.CodeKept (c.faultsOf s.faultManager id) ins) : Watched.Exact ⟨c, s.refreshInstanceFaultLevel id⟩ := by
  have hset : ∀ c' ins, LevelExact (c.faultsOf s.faultManager id) ins →
      Watched.Exact ⟨c, ⟨c', s.faultManager.setInstance id ins⟩⟩ := by
    intro c' ins hexact other ins' hget
    replace hget : (s.faultManager.instances.set id ins).get? other = some ins' := hget
    rw [Dict.get?_set] at hget
    split at hget
    · rename_i heq
      subst heq
      cases hget
      exact hexact
    · rename_i hne
      exact hothers other ins' hne hget
  unfold FaultSystem.refreshInstanceFaultLevel
  cases hget : s.faultManager.instances.get? id with
  | none =>
      intro other ins' hget'
      refine hothers other ins' ?_ hget'
      rintro rfl
      exact absurd (hget.symm.trans hget') nofun
  | some ins =>
      dsimp only
      have hexact := h.levelExact_update (hzero ins hget) (hkept ins hget)
      split
      · rename_i hempty
        -- No node has a fault, and the highest level is HEALTHY.
        have hnone : LevelExact (c.faultsOf s.faultManager id) { ins with faultLevel := .healthy, faultCode := 0 } := by
          refine ⟨fun info hinfo hlt => ?_, fun hne => absurd rfl hne, fun _ => rfl⟩
          have hup : .healthy < (s.faultManager.updateHighestFaultLevel (s.faultManager.faultyNodesOf id) ins).faultLevel :=
            h.lt_iff.2 ⟨info, hinfo, hlt⟩
          rw [FaultManager.faultLevel_updateHighestFaultLevel, List.isEmpty_iff.1 hempty] at hup
          exact Nat.not_lt_zero _ hup
        split
        · exact hset _ _ hnone
        · rename_i hlevel
          have hself := hset s.controller ins ⟨fun info hinfo => ?_, fun hne => absurd (not_not.1 hlevel) hne,
            hzero ins hget⟩
          · rw [show s.faultManager.setInstance id ins = s.faultManager by
              simp [FaultManager.setInstance, Dict.set_self hget]] at hself
            exact hself
          · rw [not_not.1 hlevel]
            exact hnone.highest info hinfo
      · exact hset _ _ hexact

theorem nodes_refreshInstanceFaultLevel (s : FaultSystem) (id : Int) :
    (s.refreshInstanceFaultLevel id).faultManager.nodes = s.faultManager.nodes ∧
      (s.refreshInstanceFaultLevel id).faultManager.resourceMonitors = s.faultManager.resourceMonitors := by
  rcases FaultSystem.refresh_cases s id with ⟨-, heq⟩ | ⟨_, _, _, -, heq, -⟩
  · rw [heq]
    exact ⟨rfl, rfl⟩
  · rw [heq]
    exact ⟨rfl, rfl⟩

/-! ## Events -/

/-- Two clusters with the same faults on a node, up to the order of the ConfigMap. -/
def Cluster.Alike (c c' : Cluster) (nodeName : String) : Prop :=
  (c'.faultInfos nodeName).Perm (c.faultInfos nodeName) ∧ c'.status nodeName = c.status nodeName

variable {c' : Cluster} {event : NodeEvent}

theorem Cluster.alike_observe {nodeName : String} (hne : nodeName ≠ event.nodeName) :
    c.Alike (c.observe event) nodeName := by
  cases event with
  | configmap name event => exact ⟨.of_eq (Function.update_of_ne hne ..), rfl⟩
  | status name event => exact ⟨.refl _, Function.update_of_ne hne ..⟩

theorem Cluster.Alike.mem_faults (h : c.Alike c' nodeName) : info ∈ c'.faults nodeName ↔ info ∈ c.faults nodeName := by
  rw [Cluster.mem_faults, Cluster.mem_faults, h.1.mem_iff, h.2]

theorem NodeTracks.alike (h : NodeTracks c nodeName node) (ha : c.Alike c' nodeName) :
    NodeTracks c' nodeName node where
  status := h.status.trans ha.2.symm
  shown info hinfo := h.shown info (ha.1.mem_iff.1 hinfo)
  recorded code info hget := by
    rw [ha.1.mem_iff, ha.2]
    exact h.recorded code info hget
  reboot hnot := h.reboot (ha.2.symm.trans hnot)

theorem MonitorTracks.alike (h : MonitorTracks c nodeName monitor)
    (ha : c.Alike c' nodeName) : MonitorTracks c' nodeName monitor where
  faultInfos last hlast := (h.faultInfos last hlast).trans ha.1.symm
  status last hlast := (h.status last hlast).trans ha.2.symm

theorem Watched.Exact.frame {w w' : Watched} (h : w.Exact)
    (hnodes : w'.system.faultManager.nodes = w.system.faultManager.nodes)
    (hinstances : w'.system.faultManager.instances = w.system.faultManager.instances)
    (ha : ∀ nodeName node, w.system.faultManager.nodes.get? nodeName = some node →
      w.cluster.Alike w'.cluster nodeName) : w'.Exact := by
  intro id ins hget
  rw [hinstances] at hget
  refine (h id ins hget).congr fun info => ?_
  simp only [Cluster.mem_faultsOf, hnodes]
  constructor
  · rintro ⟨nodeName, node, hnode, hid, hinfo⟩
    exact ⟨nodeName, node, hnode, hid, (ha nodeName node hnode).mem_faults.2 hinfo⟩
  · rintro ⟨nodeName, node, hnode, hid, hinfo⟩
    exact ⟨nodeName, node, hnode, hid, (ha nodeName node hnode).mem_faults.1 hinfo⟩

/-! ## The watches -/

namespace ResourceMonitor

variable {monitor : ResourceMonitor}

theorem perm_of_unchanged (h : monitor.hasFaultInfoChanged infos = false) :
    ∃ last, monitor.lastFaultInfos = some last ∧ infos.Perm last := by
  unfold hasFaultInfoChanged at h
  cases hlast : monitor.lastFaultInfos with
  | none =>
      rw [hlast] at h
      cases h
  | some last =>
      rw [hlast] at h
      dsimp only at h
      split at h
      · cases h
      · have hsorted : infos.mergeSort sortLe = last.mergeSort sortLe := by simpa using h
        exact ⟨last, rfl, (List.mergeSort_perm infos sortLe).symm.trans
          (hsorted ▸ List.mergeSort_perm last sortLe)⟩

/-- A ConfigMap is dropped when it is the last one in another order. -/
theorem handleConfigmapChange_cases (monitor : ResourceMonitor) (event : WatchEvent (List FaultInfo)) :
    (∃ last, monitor.handleConfigmapChange event = (monitor, none) ∧ monitor.lastFaultInfos = some last ∧
        (event.shown []).Perm last) ∨
      ∃ monitor', monitor.handleConfigmapChange event = (monitor', some (event.shown [])) ∧
        monitor'.lastNodeStatus = monitor.lastNodeStatus ∧
        ∀ last, monitor'.lastFaultInfos = some last → last = event.shown [] := by
  cases event with
  | present infos =>
      simp only [handleConfigmapChange]
      cases hchanged : monitor.hasFaultInfoChanged infos with
      | false =>
          obtain ⟨last, hlast, hperm⟩ := perm_of_unchanged hchanged
          exact .inl ⟨last, rfl, hlast, hperm⟩
      | true => exact .inr ⟨_, rfl, rfl, fun last hlast => (Option.some.inj hlast).symm⟩
  | deleted => exact .inr ⟨_, rfl, rfl, fun last hlast => nomatch hlast⟩

theorem handleNodeChange_cases (monitor : ResourceMonitor) (event : WatchEvent NodeStatus) :
    (monitor.handleNodeChange event = (monitor, none) ∧ monitor.lastNodeStatus = some (event.shown .notReady)) ∨
      ∃ monitor', monitor.handleNodeChange event = (monitor', some (event.shown .notReady)) ∧
        monitor'.lastFaultInfos = monitor.lastFaultInfos ∧
        ∀ last, monitor'.lastNodeStatus = some last → last = event.shown .notReady := by
  cases event with
  | present status =>
      simp only [handleNodeChange]
      split
      · exact .inr ⟨_, rfl, rfl, fun last hlast => (Option.some.inj hlast).symm⟩
      · rename_i hsame
        exact .inl ⟨rfl, (not_not.1 hsame).symm⟩
  | deleted => exact .inr ⟨_, rfl, rfl, fun last hlast => nomatch hlast⟩

end ResourceMonitor

/-! ## What an event does -/

def NodeEvent.written : NodeEvent → NodeMetadata → NodeMetadata
  | .configmap _ event, node => node.withFaultInfos (event.shown [])
  | .status _ event, node => node.withStatus (event.shown .notReady)

def FaultSystem.watch (s : FaultSystem) : NodeEvent → FaultSystem
  | .configmap nodeName event => s.configmapChange nodeName event
  | .status nodeName event => s.nodeChange nodeName event

/-- There is no monitor, or it writes no node, and then nothing new is shown of a node; or it passes the event on. -/
inductive Watches (c : Cluster) (s : FaultSystem) (event : NodeEvent) : FaultSystem → Prop
  | unwatched (hnone : s.faultManager.resourceMonitors.get? event.nodeName = none) : Watches c s event s
  | dropped (monitor : ResourceMonitor) (hmonitor : MonitorTracks (c.observe event) event.nodeName monitor)
      (ha : ∀ node, s.faultManager.nodes.get? event.nodeName = some node → c.Alike (c.observe event) event.nodeName) :
      Watches c s event (s.setMonitor event.nodeName monitor)
  | passed (monitor : ResourceMonitor) (node : NodeMetadata)
      (hmonitor : MonitorTracks (c.observe event) event.nodeName monitor)
      (hget : s.faultManager.nodes.get? event.nodeName = some node) :
      Watches c s event ((s.setMonitor event.nodeName monitor).updateNode event.nodeName (event.written node))

variable {s s' : FaultSystem}

theorem Tracks.watches (h : Tracks P c s.faultManager) (event : NodeEvent) : Watches c s event (s.watch event) := by
  cases event with
  | configmap nodeName event =>
      have hinfos : (c.observe (.configmap nodeName event)).faultInfos nodeName = event.shown [] :=
        Function.update_self ..
      show Watches c s (.configmap nodeName event) (s.configmapChange nodeName event)
      unfold FaultSystem.configmapChange
      cases hmonitor : s.faultManager.resourceMonitors.get? nodeName with
      | none => exact .unwatched hmonitor
      | some monitor =>
          have htracks := h.monitor nodeName monitor hmonitor
          dsimp only
          rcases monitor.handleConfigmapChange_cases event with ⟨last, heq, hlast, hperm⟩ | ⟨monitor', heq, hstatus, hlast⟩
          · have ha : c.Alike (c.observe (.configmap nodeName event)) nodeName :=
              ⟨hinfos ▸ hperm.trans (htracks.faultInfos last hlast), rfl⟩
            rw [heq]
            exact .dropped monitor (htracks.alike ha) fun _ _ => ha
          · have htracks' : MonitorTracks (c.observe (.configmap nodeName event)) nodeName monitor' :=
              ⟨fun last hl => .of_eq ((hlast last hl).trans hinfos.symm), fun last hl => htracks.status last (hstatus ▸ hl)⟩
            rw [heq]
            dsimp only
            unfold FaultSystem.handleFaultInfoUpdate
            cases hnode : (s.setMonitor nodeName monitor').faultManager.nodes.get? nodeName with
            | none => exact .dropped monitor' htracks' fun node hget => absurd (hnode.symm.trans hget) nofun
            | some node => exact .passed monitor' node htracks' hnode
  | status nodeName event =>
      have hstatus : (c.observe (.status nodeName event)).status nodeName = event.shown .notReady :=
        Function.update_self ..
      show Watches c s (.status nodeName event) (s.nodeChange nodeName event)
      unfold FaultSystem.nodeChange
      cases hmonitor : s.faultManager.resourceMonitors.get? nodeName with
      | none => exact .unwatched hmonitor
      | some monitor =>
          have htracks := h.monitor nodeName monitor hmonitor
          dsimp only
          rcases monitor.handleNodeChange_cases event with ⟨heq, hlast⟩ | ⟨monitor', heq, hinfos, hlast⟩
          · have ha : c.Alike (c.observe (.status nodeName event)) nodeName :=
              ⟨.refl _, hstatus.trans (htracks.status _ hlast)⟩
            rw [heq]
            exact .dropped monitor (htracks.alike ha) fun _ _ => ha
          · have htracks' : MonitorTracks (c.observe (.status nodeName event)) nodeName monitor' :=
              ⟨fun last hl => htracks.faultInfos last (hinfos ▸ hl), fun last hl => (hlast last hl).trans hstatus.symm⟩
            rw [heq]
            dsimp only
            unfold FaultSystem.handleNodeStatusUpdate
            cases hnode : (s.setMonitor nodeName monitor').faultManager.nodes.get? nodeName with
            | none => exact .dropped monitor' htracks' fun node hget => absurd (hnode.symm.trans hget) nofun
            | some node => exact .passed monitor' node htracks' hnode

/-! ## What is recorded -/

theorem Tracks.of_eq (h : Tracks P c fm) (hnodes : fm'.nodes = fm.nodes)
    (hmonitors : fm'.resourceMonitors = fm.resourceMonitors) : Tracks P c fm' where
  node nodeName node hget := h.node nodeName node (hnodes ▸ hget)
  monitored nodeName node hget := by
    rw [hmonitors]
    exact h.monitored nodeName node (hnodes ▸ hget)
  monitor nodeName monitor hget := h.monitor nodeName monitor (hmonitors ▸ hget)

theorem tracks_start (config : FaultToleranceConfig) : Tracks P c { config := config } where
  node _ _ hget := by cases hget
  monitored _ _ hget := by cases hget
  monitor _ _ hget := by cases hget

/-- Without a monitor there is no node. -/
theorem Tracks.ne_of_unwatched (h : Tracks P c fm) (hnone : fm.resourceMonitors.get? event.nodeName = none) :
    ∀ nodeName node, fm.nodes.get? nodeName = some node → nodeName ≠ event.nodeName := by
  rintro nodeName node hget rfl
  have hcontains := h.monitored _ node hget
  rw [Dict.contains_eq_false_iff.2 hnone] at hcontains
  cases hcontains

/-- The order of a ConfigMap does not matter. -/
def Unordered (P : Cluster → String → NodeMetadata → Prop) : Prop :=
  ∀ ⦃c c' nodeName node⦄, P c nodeName node → c.Alike c' nodeName → P c' nodeName node

/-- A monitor is written, which holds what is shown, and at most its node. -/
theorem Tracks.write (hP : Unordered P) (h : Tracks P c fm)
    (hnodes : ∀ name node, name ≠ event.nodeName → fm'.nodes.get? name = some node → fm.nodes.get? name = some node)
    (hnode : ∀ node, fm'.nodes.get? event.nodeName = some node → P (c.observe event) event.nodeName node)
    (hmonitors : fm'.resourceMonitors = fm.resourceMonitors.set event.nodeName monitor)
    (hmonitor : MonitorTracks (c.observe event) event.nodeName monitor) : Tracks P (c.observe event) fm' := by
  refine ⟨fun name node hget => ?_, fun name node hget => ?_, fun name monitor' hget => ?_⟩
  · by_cases hname : name = event.nodeName
    · subst hname
      exact hnode node hget
    · exact hP (h.node name node (hnodes name node hname hget)) (Cluster.alike_observe hname)
  · rw [hmonitors, Dict.contains_iff, Dict.get?_set]
    split
    · exact ⟨monitor, rfl⟩
    · rename_i hname
      exact Dict.contains_iff.1 (h.monitored name node (hnodes name node hname hget))
  · rw [hmonitors, Dict.get?_set] at hget
    split at hget
    · rename_i hname
      subst hname
      cases hget
      exact hmonitor
    · rename_i hname
      exact (h.monitor name monitor' hget).alike (Cluster.alike_observe hname)

theorem Tracks.setNode (hP : Unordered P) (h : Tracks P c s.faultManager)
    (hmonitor : MonitorTracks (c.observe event) event.nodeName monitor)
    (hnode : P (c.observe event) event.nodeName node) :
    Tracks P (c.observe event) ((s.setMonitor event.nodeName monitor).faultManager.setNode event.nodeName node) := by
  refine h.write hP (fun name nd hname hget => ?_) (fun nd hget => ?_) rfl hmonitor
  · exact (Dict.get?_set_ne hname).symm.trans hget
  · cases (Dict.get?_set_self ..).symm.trans hget
    exact hnode

theorem Tracks.watch (hP : Unordered P) (h : Tracks P c s.faultManager) (hs : Watches c s event s')
    (hwritten : ∀ node, P c event.nodeName node → P (c.observe event) event.nodeName (event.written node)) :
    Tracks P (c.observe event) s'.faultManager := by
  cases hs with
  | unwatched hnone =>
      refine ⟨fun name node hget => hP (h.node name node hget)
        (Cluster.alike_observe (h.ne_of_unwatched hnone name node hget)), h.monitored, fun name monitor hget => ?_⟩
      refine (h.monitor name monitor hget).alike (Cluster.alike_observe ?_)
      rintro rfl
      rw [hnone] at hget
      cases hget
  | dropped monitor hmonitor ha =>
      exact h.write hP (fun _ _ _ hget => hget)
        (fun node hget => hP (h.node _ node hget) (ha node hget)) rfl hmonitor
  | passed monitor node hmonitor hget =>
      obtain ⟨hnodes, hmonitors⟩ := nodes_refreshInstanceFaultLevel
        { s.setMonitor event.nodeName monitor with faultManager :=
            (s.setMonitor event.nodeName monitor).faultManager.setNode event.nodeName (event.written node) }
        (event.written node).instanceId
      exact (h.setNode hP hmonitor (hwritten node (h.node _ node hget))).of_eq hnodes hmonitors

/-! ## The levels -/

theorem nodeTracks_unordered : Unordered NodeTracks := fun _ _ _ _ => NodeTracks.alike

theorem NodeTracks.written (h : NodeTracks c event.nodeName node)
    (hhidden : ∀ nodeName infos, event = .configmap nodeName (.present infos) → Watched.NoneHidden infos) :
    NodeTracks (c.observe event) event.nodeName (event.written node) := by
  cases event with
  | configmap nodeName event =>
      refine h.withFaultInfos ?_
      cases event with
      | present infos => exact hhidden nodeName infos rfl
      | deleted => exact fun info hinfo => absurd hinfo List.not_mem_nil
  | status nodeName event => exact h.withStatus

theorem NodeEvent.instanceId_written (event : NodeEvent) (node : NodeMetadata) :
    (event.written node).instanceId = node.instanceId := by
  cases event with
  | configmap nodeName event => exact FaultSystem.instanceId_withFaultInfos node _
  | status nodeName event => exact FaultSystem.instanceId_withStatus node _

theorem Tracks.exact_updateNode (h : Tracks NodeTracks c s.faultManager) (hexact : Watched.Exact ⟨c, s⟩)
    (hget : s.faultManager.nodes.get? event.nodeName = some node)
    (hnode : NodeTracks (c.observe event) event.nodeName (event.written node))
    (hmonitor : MonitorTracks (c.observe event) event.nodeName monitor)
    (hkept : ∀ ins, s.faultManager.instances.get? node.instanceId = some ins →
      Watched.CodeKept ((c.observe event).faultsOf s.faultManager node.instanceId) ins) :
    Watched.Exact ⟨c.observe event,
      (s.setMonitor event.nodeName monitor).updateNode event.nodeName (event.written node)⟩ := by
  have hset := h.setNode nodeTracks_unordered hmonitor hnode
  have hid := event.instanceId_written node
  unfold FaultSystem.updateNode
  generalize hs : ({ s.setMonitor event.nodeName monitor with faultManager :=
    (s.setMonitor event.nodeName monitor).faultManager.setNode event.nodeName (event.written node) } : FaultSystem) = s'
  replace hset : Tracks NodeTracks (c.observe event) s'.faultManager := hs ▸ hset
  have hnodes : s'.faultManager.nodes = s.faultManager.nodes.set event.nodeName (event.written node) := by rw [← hs]; rfl
  have hinstances : s'.faultManager.instances = s.faultManager.instances := by rw [← hs]; rfl
  -- The nodes of an instance keep their names.
  have hmem : ∀ id info, info ∈ (c.observe event).faultsOf s'.faultManager id ↔
      info ∈ (c.observe event).faultsOf s.faultManager id := by
    intro id info
    simp only [Cluster.mem_faultsOf, hnodes, Dict.get?_set]
    constructor
    · rintro ⟨name, nd, hnd, hnid, hinfo⟩
      split at hnd
      · rename_i hname
        subst hname
        cases hnd
        exact ⟨_, node, hget, hid.symm.trans hnid, hinfo⟩
      · exact ⟨name, nd, hnd, hnid, hinfo⟩
    · rintro ⟨name, nd, hnd, hnid, hinfo⟩
      by_cases hname : name = event.nodeName
      · subst hname
        rw [hget] at hnd
        cases hnd
        exact ⟨_, event.written node, if_pos rfl, hid.trans hnid, hinfo⟩
      · exact ⟨name, nd, by rw [if_neg hname]; exact hnd, hnid, hinfo⟩
  refine hset.exact_refresh (fun id ins hne hins => ?_) (fun ins hins => ?_) (fun ins hins hne hhighest hreached => ?_)
  · -- The faults of another instance are on other nodes.
    rw [hinstances] at hins
    refine (hexact id ins hins).congr fun info => ?_
    rw [hmem, Cluster.mem_faultsOf, Cluster.mem_faultsOf]
    have hother : ∀ {name nd}, s.faultManager.nodes.get? name = some nd → nd.instanceId = id →
        name ≠ event.nodeName := by
      rintro name nd hnd hnid rfl
      rw [hget] at hnd
      cases hnd
      exact hne (hnid.symm.trans hid.symm)
    constructor
    · rintro ⟨name, nd, hnd, hnid, hinfo⟩
      exact ⟨name, nd, hnd, hnid, (Cluster.alike_observe (hother hnd hnid)).mem_faults.2 hinfo⟩
    · rintro ⟨name, nd, hnd, hnid, hinfo⟩
      exact ⟨name, nd, hnd, hnid, (Cluster.alike_observe (hother hnd hnid)).mem_faults.1 hinfo⟩
  · rw [hinstances] at hins
    exact (hexact _ ins hins).healthy
  · rw [hinstances, hid] at hins
    simp only [hmem, hid] at hhighest hreached ⊢
    exact hkept ins hins hne hhighest hreached

theorem Watched.step_exact {w : Watched} (h : Tracks NodeTracks w.cluster w.system.faultManager ∧ w.Exact)
    (hok : w.Sound event) :
    Tracks NodeTracks (w.step event).cluster (w.step event).system.faultManager ∧ (w.step event).Exact := by
  obtain ⟨h, hexact⟩ := h
  have hwatches := h.watches event
  rw [show w.step event = ⟨w.cluster.observe event, w.system.watch event⟩ by cases event <;> rfl]
  refine ⟨h.watch nodeTracks_unordered hwatches fun node hnode => hnode.written hok.noneHidden, ?_⟩
  generalize w.system.watch event = s' at hwatches
  cases hwatches with
  | unwatched hnone =>
      exact hexact.frame rfl rfl fun nodeName node hget =>
        Cluster.alike_observe (h.ne_of_unwatched hnone nodeName node hget)
  | dropped monitor hmonitor ha =>
      refine hexact.frame rfl rfl fun nodeName node hget => ?_
      by_cases hname : nodeName = event.nodeName
      · subst hname
        exact ha node hget
      · exact Cluster.alike_observe hname
  | passed monitor node hmonitor hget =>
      exact h.exact_updateNode hexact hget ((h.node _ node hget).written hok.noneHidden) hmonitor
        fun ins => hok.codeKept node ins hget

/-! ## New instances -/

theorem contains_createMonitors (names : List String) (fm : FaultManager) (nodeName : String) :
    (names.foldl FaultManager.createResourceMonitorForNode fm).resourceMonitors.contains nodeName = true ↔
      nodeName ∈ names ∨ fm.resourceMonitors.contains nodeName = true := by
  induction names generalizing fm with
  | nil => simp
  | cons name names ih =>
      rw [List.foldl_cons, ih]
      unfold FaultManager.createResourceMonitorForNode
      split
      · rename_i hold
        constructor
        · rintro (hmem | hmem)
          · exact .inl (List.mem_cons_of_mem _ hmem)
          · exact .inr hmem
        · rintro (hmem | hmem)
          · rcases List.mem_cons.1 hmem with rfl | hmem
            · exact .inr hold
            · exact .inl hmem
          · exact .inr hmem
      · simp only [Dict.contains_iff_mem_keys, Dict.mem_keys_iff, Dict.get?_set, List.mem_cons]
        by_cases hname : nodeName = name
        · simp [hname]
        · simp [hname]

theorem get?_createMonitors {names : List String} {fm : FaultManager}
    (hget : (names.foldl FaultManager.createResourceMonitorForNode fm).resourceMonitors.get? nodeName = some monitor) :
    fm.resourceMonitors.get? nodeName = some monitor ∨ monitor = {} := by
  induction names generalizing fm with
  | nil => exact .inl hget
  | cons name names ih =>
      rcases ih hget with hold | hnew
      · unfold FaultManager.createResourceMonitorForNode at hold
        split at hold
        · exact .inl hold
        · rw [Dict.get?_set] at hold
          split at hold
          · exact .inr (Option.some.inj hold).symm
          · exact .inl hold
      · exact .inr hnew

theorem Tracks.addNewInstanceWithNodes (h : Tracks P c fm)
    (hnew : ∀ {nodeName} {node : NodeMetadata}, node.nodeStatus = .ready → node.faultInfos = Dict.empty → P c nodeName node)
    (hsame : ∀ {nodeName} {node node' : NodeMetadata}, P c nodeName node → node'.nodeStatus = node.nodeStatus →
      node'.faultInfos = node.faultInfos → P c nodeName node') (id : Int) (podToNodeName : Dict String String) :
    Tracks P c (fm.addNewInstanceWithNodes id podToNodeName) := by
  have hensured : ∀ nodeName podIp, P c nodeName (fm.ensureNodeMetadata nodeName podIp id true).1 := by
    intro nodeName podIp
    unfold FaultManager.ensureNodeMetadata
    cases hget : fm.nodes.get? nodeName with
    | none => exact hnew rfl rfl
    | some node => exact hsame (h.node nodeName node hget) rfl rfl
  unfold FaultManager.addNewInstanceWithNodes
  dsimp only
  generalize hmetas : (Dict.empty.update (podToNodeName.entries.map fun e =>
    (e.2, (fm.ensureNodeMetadata e.2 e.1 id true).1)) : Dict String NodeMetadata) = metas
  obtain ⟨hnodes, -⟩ := FaultManager.nodes_createMonitors metas.keys
    { fm with instances := fm.instances.set id {}, nodes := fm.nodes.update metas.entries }
  refine ⟨fun nodeName node hget => ?_, fun nodeName node hget => ?_, fun nodeName monitor hget => ?_⟩
  · rw [hnodes] at hget
    rcases Dict.get?_update_or hget with hmem | hold
    · replace hmem := Dict.get?_eq_some_iff.2 hmem
      rw [← hmetas] at hmem
      rcases Dict.get?_update_or hmem with hmem | hnone
      · obtain ⟨e, -, hpair⟩ := List.mem_map.1 hmem
        cases hpair
        exact hensured e.2 e.1
      · cases hnone
    · exact h.node nodeName node hold
  · rw [hnodes] at hget
    rw [contains_createMonitors]
    rcases Dict.get?_update_or hget with hmem | hold
    · exact .inl (Dict.mem_keys_iff.2 ⟨node, Dict.get?_eq_some_iff.2 hmem⟩)
    · exact .inr (h.monitored nodeName node hold)
  · rcases get?_createMonitors hget with hold | rfl
    · exact h.monitor nodeName monitor hold
    · exact ⟨fun _ hlast => (nomatch hlast), fun _ hlast => (nomatch hlast)⟩

theorem nodeTracks_new (hstatus : node.nodeStatus = .ready) (hempty : node.faultInfos = Dict.empty) :
    NodeTracks {} nodeName node := by
  refine ⟨hstatus, fun info hinfo => absurd hinfo List.not_mem_nil, fun code info hcode => ?_, fun hnot => nomatch hnot⟩
  rw [hempty] at hcode
  cases hcode

theorem NodeTracks.same {node' : NodeMetadata} (h : NodeTracks c nodeName node)
    (hstatus : node'.nodeStatus = node.nodeStatus) (hinfos : node'.faultInfos = node.faultInfos) :
    NodeTracks c nodeName node' := by
  refine ⟨hstatus.trans h.status, ?_, ?_, ?_⟩
  · rw [hinfos]
    exact h.shown
  · rw [hinfos]
    exact h.recorded
  · rw [hinfos]
    exact h.reboot

theorem Watched.start_exact (controller : Controller) (config : FaultToleranceConfig)
    (instances : List (Int × Dict String String)) :
    Tracks NodeTracks (start controller config instances).cluster
      (start controller config instances).system.faultManager ∧ (start controller config instances).Exact := by
  have hfold : ∀ fm, Tracks NodeTracks {} fm → (∀ id ins, fm.instances.get? id = some ins → ins = {}) →
      Tracks NodeTracks {} (instances.foldl (fun fm e => fm.addNewInstanceWithNodes e.1 e.2) fm) ∧
        ∀ id ins, (instances.foldl (fun fm e => fm.addNewInstanceWithNodes e.1 e.2) fm).instances.get? id = some ins →
          ins = {} := by
    induction instances with
    | nil => exact fun fm h hnew => ⟨h, hnew⟩
    | cons e instances ih =>
        refine fun fm h hnew => ih _ (h.addNewInstanceWithNodes nodeTracks_new NodeTracks.same e.1 e.2) fun id ins hget => ?_
        rw [(FaultManager.addNewInstanceWithNodes_spec fm e.1 e.2).2.2, Dict.get?_set] at hget
        split at hget
        · exact (Option.some.inj hget).symm
        · exact hnew id ins hget
  obtain ⟨htracks, hnew⟩ := hfold { config := config } (tracks_start config) fun _ _ hget => (nomatch hget)
  refine ⟨htracks, fun id ins hget => ?_⟩
  rw [hnew id ins hget]
  refine ⟨fun info hinfo => ?_, fun hne => absurd rfl hne, fun _ => rfl⟩
  obtain ⟨nodeName, node, -, -, hmem⟩ := Cluster.mem_faultsOf.1 hinfo
  rcases Cluster.mem_faults.1 hmem with hmem | ⟨hnot, -⟩
  · exact absurd hmem List.not_mem_nil
  · cases hnot

end PyMotor
