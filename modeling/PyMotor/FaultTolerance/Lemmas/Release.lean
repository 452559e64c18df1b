import PyMotor.FaultTolerance.Lemmas.Levels

/-!
# Separated instances have a fault

`Placed` says that every node is recorded for an instance that is on it, and that a separated instance has a faulty
node and a fault level to recover from. `NodeShown` says that a fault above L2 that is recorded is one that is shown.
-/

namespace PyMotor

open Lib

namespace FaultSystem

open FaultManager Controller

variable {nodeOf : String → String} {s : FaultSystem} {c : Controller} {fm fm' : FaultManager} {id : Int}
  {nodeName : String} {node node' : NodeMetadata}

/-- There is a level that a refresh will find changed when the faults are gone. -/
def Leveled (fm : FaultManager) (id : Int) : Prop :=
  ∃ ins, fm.instances.get? id = some ins ∧ ins.faultLevel ≠ .healthy

structure Placed (nodeOf : String → String) (c : Controller) (fm : FaultManager) : Prop where
  managed : c.Managed
  owner : ∀ {nodeName node}, fm.nodes.get? nodeName = some node →
    OnNode nodeOf c node.instanceId nodeName ∧ fm.instances.contains node.instanceId = true
  forced : ∀ id ∈ c.forcedSeparatedInstances, HasFaulty fm id ∧ Leveled fm id

theorem Leveled.setInstance {other : Int} {ins : InstanceMetadata} (h : Leveled fm other) (hne : other ≠ id) :
    Leveled (fm.setInstance id ins) other := by
  obtain ⟨ins', hget, hlevel⟩ := h
  exact ⟨ins', (Dict.get?_set_ne hne).trans hget, hlevel⟩

theorem leveled_setInstance {ins : InstanceMetadata} (h : ins.faultLevel ≠ .healthy) :
    Leveled (fm.setInstance id ins) id := ⟨ins, Dict.get?_set_self .., h⟩

theorem Placed.onFaulty (h : Placed nodeOf s.controller s.faultManager) :
    ∀ id ∈ s.controller.forcedSeparatedInstances, OnFaulty nodeOf s id := by
  intro id hid
  obtain ⟨name, nd, hnd, rfl, hfaulty⟩ := (h.forced id hid).1
  exact ⟨name, nd, (h.owner hnd).1, hnd, hfaulty⟩

theorem Placed.of_nodes (h : Placed nodeOf c fm) (hnodes : fm'.nodes = fm.nodes)
    (hcontains : ∀ id, fm.instances.contains id = true → fm'.instances.contains id = true)
    (hlevel : ∀ id ∈ c.forcedSeparatedInstances, Leveled fm id → Leveled fm' id) : Placed nodeOf c fm' where
  managed := h.managed
  owner hnd := by
    obtain ⟨hon, hc⟩ := h.owner (hnodes ▸ hnd)
    exact ⟨hon, hcontains _ hc⟩
  forced id hid := by
    obtain ⟨⟨name, nd, hnd, hrest⟩, hl⟩ := h.forced id hid
    exact ⟨⟨name, nd, hnodes ▸ hnd, hrest⟩, hlevel id hid hl⟩

/-! ## Updates -/

/-- A node is written: of its own instance the faults are not known any more. -/
theorem Placed.setNode (h : Placed nodeOf c fm) (hget : fm.nodes.get? nodeName = some node)
    (hid : node'.instanceId = node.instanceId) :
    (∀ {name nd}, (fm.setNode nodeName node').nodes.get? name = some nd →
      OnNode nodeOf c nd.instanceId name ∧ fm.instances.contains nd.instanceId = true) ∧
    ∀ other ∈ c.forcedSeparatedInstances, other ≠ node'.instanceId → HasFaulty (fm.setNode nodeName node') other := by
  constructor
  · intro name nd hnd
    rw [FaultManager.setNode, Dict.get?_set] at hnd
    split at hnd
    · rename_i hname
      subst hname
      cases hnd
      rw [hid]
      exact h.owner hget
    · exact h.owner hnd
  · intro other hother hne
    obtain ⟨name, nd, hnd, hown, hfaulty⟩ := (h.forced other hother).1
    refine ⟨name, nd, ?_, hown, hfaulty⟩
    rw [FaultManager.setNode, Dict.get?_set_ne, hnd]
    rintro rfl
    rw [hget] at hnd
    cases hnd
    exact hne (hown.symm.trans hid.symm)

theorem Placed.updateNode (h : Placed nodeOf s.controller s.faultManager)
    (hget : s.faultManager.nodes.get? nodeName = some node) (hid : node'.instanceId = node.instanceId) :
    Placed nodeOf (s.updateNode nodeName node').controller (s.updateNode nodeName node').faultManager := by
  obtain ⟨howner, hothers⟩ := h.setNode hget hid
  obtain ⟨⟨r, hr, -⟩, hknown⟩ := h.owner hget
  rw [← hid] at hr hknown
  unfold FaultSystem.updateNode
  rcases refresh_cases { s with faultManager := s.faultManager.setNode nodeName node' } node'.instanceId with
    ⟨hnone, -⟩ | ⟨ins, ins', c', hins, heq, -, hcase⟩
  · obtain ⟨ins, hins⟩ := Dict.contains_iff.1 hknown
    exact absurd (hnone.symm.trans hins) nofun
  · rw [heq]
    have hkeep : ∀ other ∈ s.controller.forcedSeparatedInstances, other ≠ node'.instanceId →
        HasFaulty ((s.faultManager.setNode nodeName node').setInstance node'.instanceId ins') other ∧
          Leveled ((s.faultManager.setNode nodeName node').setInstance node'.instanceId ins') other := by
      intro other hother hne
      have hlevel : Leveled (s.faultManager.setNode nodeName node') other := (h.forced other hother).2
      exact ⟨hothers other hother hne, hlevel.setInstance hne⟩
    have hplaced : ∀ {c''}, ManagerStep s.controller c'' → c''.instances = s.controller.instances →
        (∀ other ∈ c''.forcedSeparatedInstances,
          HasFaulty ((s.faultManager.setNode nodeName node').setInstance node'.instanceId ins') other ∧
            Leveled ((s.faultManager.setNode nodeName node').setInstance node'.instanceId ins') other) →
        Placed nodeOf c'' ((s.faultManager.setNode nodeName node').setInstance node'.instanceId ins') := by
      intro c'' hstep hi hforced
      refine ⟨Managed.step h.managed hstep, fun hnd => ?_, hforced⟩
      obtain ⟨hon, hc⟩ := howner hnd
      exact ⟨(onNode_congr hstep hi).2 hon, contains_setInstance hc⟩
    rcases hcase with ⟨hfaulty, hlevel, rfl⟩ | ⟨-, rfl | ⟨rfl, hnot⟩⟩
    · refine hplaced (managerStep_separateInstance _) (instances_separateInstance _ _) fun other hother => ?_
      by_cases he : other = node'.instanceId
      · subst he
        exact ⟨hfaulty, leveled_setInstance hlevel⟩
      · exact hkeep other (((mem_forced_separateInstance h.managed hr).1 hother).resolve_left he) he
    · refine hplaced (managerStep_recoverInstance _) (instances_recoverInstance _ _) fun other hother => ?_
      obtain ⟨hother, hne⟩ := (mem_forced_recoverInstance h.managed hr).1 hother
      exact hkeep other hother hne
    · refine hplaced .rfl rfl fun other hother => hkeep other hother ?_
      rintro rfl
      -- The instance is not separated, or its level says that there is nothing to recover.
      rcases hnot with hsep | hhealthy
      · exact absurd ((isInstanceSeparated_iff h.managed hr).2 hother) (by rw [hsep]; exact Bool.false_ne_true)
      · obtain ⟨-, ins₀, hins₀, hlevel⟩ := h.forced _ hother
        rw [show (s.faultManager.setNode nodeName node').instances.get? _ = _ from hins₀] at hins
        cases hins
        exact hlevel hhealthy

theorem Placed.watchMove {s' : FaultSystem} (h : Placed nodeOf s.controller s.faultManager) (hmove : WatchMove s s') :
    Placed nodeOf s'.controller s'.faultManager := by
  cases hmove with
  | quiet monitors => exact h.of_nodes rfl (fun _ hc => hc) fun _ _ hl => hl
  | update monitors nodeName node node' hget hid =>
      have hquiet : Placed nodeOf (s.withMonitors monitors).controller (s.withMonitors monitors).faultManager :=
        h.of_nodes rfl (fun _ hc => hc) fun _ _ hl => hl
      exact hquiet.updateNode hget hid

/-! ## Instances -/

theorem Placed.removeInstance (h : Placed nodeOf s.controller s.faultManager) (id : Int) :
    Placed nodeOf (s.removeInstance id).controller (s.removeInstance id).faultManager := by
  unfold FaultSystem.removeInstance
  cases hr : s.controller.instances.get? id with
  | none => exact h
  | some r =>
      show Placed nodeOf (removed s.controller r id) (s.faultManager.updateRemoved id)
      refine ⟨Managed.step h.managed (managerStep_removed hr), fun hnd => ?_, fun other hother => ?_⟩
      · obtain ⟨hold, hne⟩ := get?_updateRemoved hnd
        obtain ⟨hon, hc⟩ := h.owner hold
        have hne' : _ ≠ id := fun he => hne (he ▸ hc) he
        refine ⟨(onNode_removed hr).2 ⟨hne', hon⟩, ?_⟩
        unfold Dict.contains at hc ⊢
        rw [instances_updateRemoved hne']
        exact hc
      · rw [(removed_spec hr).2, List.mem_filter] at hother
        have hne : other ≠ id := by simpa using hother.2
        obtain ⟨⟨name, nd, hnd, hown, hfaulty⟩, ins, hins, hlevel⟩ := h.forced other hother.1
        refine ⟨⟨name, nd, get?_updateRemoved_of_ne hnd (hown ▸ hne), hown, hfaulty⟩, ins, ?_, hlevel⟩
        rw [instances_updateRemoved hne]
        exact hins

theorem Placed.addInstance (h : Placed nodeOf s.controller s.faultManager) {timestamp : ℚ} {ins : ManagedInstance}
    {answers : String → Bool} (hok : ReleaseSound nodeOf s (.addInstance timestamp ins answers)) :
    Placed nodeOf (addInstance nodeOf s timestamp ins answers).controller
      (addInstance nodeOf s timestamp ins answers).faultManager := by
  have hmanaged : Managed (added s.controller timestamp ins) := managed_added h.managed
  have hsame : Placed nodeOf (added s.controller timestamp ins) s.faultManager := by
    refine ⟨hmanaged, fun hnd => ?_, fun other hother => h.forced other (forced_added ▸ hother)⟩
    obtain ⟨hon, hc⟩ := h.owner hnd
    exact ⟨onNode_added_old h.managed hon, hc⟩
  unfold FaultSystem.addInstance
  show Placed nodeOf (added s.controller timestamp ins) _
  cases hc : s.controller.instances.contains ins.id with
  | true => exact hsame
  | false =>
      show Placed nodeOf _ (s.faultManager.updateInitial (hostname nodeOf answers) ins.id ins.nodeManagers)
      cases hknown : s.faultManager.instances.contains ins.id with
      | true =>
          rw [updateInitial_known hknown]
          exact hsame
      | false =>
          rw [updateInitial_new hknown]
          obtain ⟨htaken, hkept, hinstances⟩ := addNewInstanceWithNodes_spec s.faultManager ins.id
            (buildNodeNameMapping (hostname nodeOf answers) ins.nodeManagers)
          refine ⟨hmanaged, fun {name nd} hnd => ?_, fun other hother => ?_⟩
          · by_cases hname : name ∈ (buildNodeNameMapping (hostname nodeOf answers) ins.nodeManagers).values
            · obtain ⟨nd', hnd', hown, -⟩ := htaken name hname
              rw [hnd] at hnd'
              cases hnd'
              obtain ⟨nm, hnm, hhost⟩ := mem_buildNodeNameMapping hname
              rw [hown, ← hostname_eq hhost, hinstances]
              exact ⟨onNode_added_new hc hnm, Dict.contains_iff.2 ⟨_, Dict.get?_set_self ..⟩⟩
            · rw [hkept name hname] at hnd
              obtain ⟨hon, hcon⟩ := hsame.owner hnd
              refine ⟨hon, ?_⟩
              rw [hinstances]
              exact contains_setInstance hcon
          · rw [forced_added] at hother
            obtain ⟨⟨name, nd, hnd, hown, hfaulty⟩, ins', hins', hlevel⟩ := h.forced other hother
            have hname : name ∉ (buildNodeNameMapping (hostname nodeOf answers) ins.nodeManagers).values := by
              intro hname
              obtain ⟨nm, hnm, hhost⟩ := mem_buildNodeNameMapping hname
              exact hok hc nm hnm nd (hostname_eq hhost ▸ hnd) (hown ▸ hother)
            have hne : other ≠ ins.id := by
              rintro rfl
              rw [Dict.contains_eq_false_iff, hins'] at hknown
              cases hknown
            refine ⟨⟨name, nd, (hkept name hname).trans hnd, hown, hfaulty⟩, ins', ?_, hlevel⟩
            rw [hinstances, Dict.get?_set_ne hne]
            exact hins'

theorem placed_start (nodeOf : String → String) (config : FaultToleranceConfig) :
    Placed nodeOf {} { config := config } where
  managed hr := by cases hr
  owner hnd := by cases hnd
  forced _ hid := by cases hid

theorem Placed.step (h : Placed nodeOf s.controller s.faultManager) {event : Event}
    (hok : ReleaseSound nodeOf s event) :
    Placed nodeOf (step nodeOf s event).controller (step nodeOf s event).faultManager := by
  cases event with
  | addInstance timestamp ins answers => exact h.addInstance hok
  | removeInstance id => exact h.removeInstance id
  | updateInstances answers => exact hok.elim
  | restart nodes instances => exact hok.elim
  | updateConfig config => exact h.of_nodes rfl (fun _ hc => hc) fun _ _ hl => hl
  | configmapChange nodeName event => exact h.watchMove (watchMove_configmapChange s nodeName event)
  | nodeChange nodeName event => exact h.watchMove (watchMove_nodeChange s nodeName event)
  | finishStrategy id =>
      refine h.of_nodes rfl (fun other hc => ?_) fun other _ hl => ?_
      · show (s.faultManager.instances.adjust id _).contains other = true
        rw [Dict.contains_iff_mem_keys, Dict.keys_adjust]
        exact Dict.contains_iff_mem_keys.1 hc
      · obtain ⟨ins, hget, hlevel⟩ := hl
        unfold Leveled
        simp only [FaultSystem.step, finishStrategy, Dict.get?_adjust, hget]
        split
        · exact ⟨_, rfl, hlevel⟩
        · exact ⟨_, rfl, hlevel⟩
  | processInstanceStrategy id finishes =>
      show Placed nodeOf (s.processInstanceStrategy id finishes).controller
        (s.processInstanceStrategy id finishes).faultManager
      rcases process_cases s id finishes with ⟨-, heq⟩ | ⟨ins, ins', hget, heq, hcase⟩
      · rw [heq]
        exact h
      · rw [heq]
        refine h.of_nodes rfl (fun _ hc => contains_setInstance hc) fun other hother hl => ?_
        by_cases he : other = id
        · subst he
          rcases hcase with ⟨⟨current, hcenter, hfin⟩, -⟩ | ⟨hsame, -⟩
          · exact absurd hother (hok ins current hget hcenter hfin)
          · obtain ⟨ins₀, hins₀, hlevel⟩ := hl
            rw [hget] at hins₀
            cases hins₀
            exact leveled_setInstance (hsame ▸ hlevel)
        · exact hl.setInstance he

end FaultSystem

/-! ## Recorded faults are shown -/

variable {k : Cluster} {fm fm' : FaultManager} {id : Int} {nodeName : String} {node : NodeMetadata}
  {infos : List FaultInfo} {monitor : ResourceMonitor}

/-- The faults above L2 that are recorded of a node are those of its ConfigMap, and the reboot while it is not ready. -/
structure NodeShown (k : Cluster) (nodeName : String) (node : NodeMetadata) : Prop where
  configmap : ∀ code info, node.faultInfos.get? code = some info → .l2 < info.faultLevel → code ≠ nodeReboot →
    info ∈ k.faultInfos nodeName
  reboot : ∀ info, node.faultInfos.get? nodeReboot = some info → .l2 < info.faultLevel →
    node.nodeStatus = .notReady ∧ k.status nodeName = .notReady

theorem NodeShown.faulty (h : NodeShown k nodeName node) (hfaulty : FaultSystem.Faulty node) :
    ∃ info ∈ k.faults nodeName, .l2 < info.faultLevel := by
  obtain ⟨info, hinfo, hlt⟩ := hfaulty
  obtain ⟨code, hget⟩ := Dict.mem_values_iff.1 hinfo
  by_cases hcode : code = nodeReboot
  · subst hcode
    exact ⟨nodeRebootFault, Cluster.mem_faults.2 (.inr ⟨(h.reboot info hget hlt).2, rfl⟩), by decide⟩
  · exact ⟨info, Cluster.mem_faults.2 (.inl (h.configmap code info hget hlt hcode)), hlt⟩

theorem nodeShown_empty (hempty : node.faultInfos = Dict.empty) : NodeShown k nodeName node where
  configmap code info hget := by
    rw [hempty] at hget
    cases hget
  reboot info hget := by
    rw [hempty] at hget
    cases hget

theorem NodeShown.alike {k' : Cluster} (h : NodeShown k nodeName node) (ha : k.Alike k' nodeName) :
    NodeShown k' nodeName node where
  configmap code info hget hlt hcode := ha.1.mem_iff.2 (h.configmap code info hget hlt hcode)
  reboot info hget hlt := ⟨(h.reboot info hget hlt).1, ha.2.trans (h.reboot info hget hlt).2⟩

theorem NodeShown.withFaultInfos {event : WatchEvent (List FaultInfo)} (h : NodeShown k nodeName node)
    (hcodes : ∀ info ∈ event.shown [], .l2 < info.faultLevel → info.faultCode ≠ nodeReboot) :
    NodeShown (k.observe (.configmap nodeName event)) nodeName (node.withFaultInfos (event.shown [])) := by
  have hinfos : (k.observe (.configmap nodeName event)).faultInfos nodeName = event.shown [] := Function.update_self ..
  generalize event.shown [] = infos at hcodes hinfos
  -- A fault that is not kept from before is one of the ConfigMap, under its code.
  have hnew : ∀ code info, (node.withFaultInfos infos).faultInfos.get? code = some info →
      code = nodeReboot ∧ node.faultInfos.get? nodeReboot = some info ∨ code = info.faultCode ∧ info ∈ infos := by
    intro code info hget
    have hupdate : ∀ {info}, (Dict.empty.update (infos.map fun info => (info.faultCode, info))).get? code = some info →
        code = info.faultCode ∧ info ∈ infos := by
      intro info hget
      rcases Dict.get?_update_or hget with hmem | hnone
      · obtain ⟨info', hinfo', heq⟩ := List.mem_map.1 hmem
        cases heq
        exact ⟨rfl, hinfo'⟩
      · cases hnone
    unfold NodeMetadata.withFaultInfos at hget
    dsimp only at hget
    cases hreboot : node.faultInfos.get? nodeReboot with
    | none =>
        rw [hreboot] at hget
        exact .inr (hupdate hget)
    | some reboot =>
        rw [hreboot] at hget
        dsimp only at hget
        rw [Dict.get?_set] at hget
        split at hget
        · rename_i hcode
          exact .inl ⟨hcode, hget⟩
        · exact .inr (hupdate hget)
  refine ⟨fun code info hget hlt hcode => ?_, fun info hget hlt => ?_⟩
  · rw [hinfos]
    rcases hnew code info hget with ⟨he, -⟩ | ⟨-, hmem⟩
    · exact absurd he hcode
    · exact hmem
  · rcases hnew nodeReboot info hget with ⟨-, hold⟩ | ⟨hcode, hmem⟩
    · exact h.reboot info hold hlt
    · exact absurd hcode.symm (hcodes info hmem hlt)

theorem NodeShown.withStatus {event : WatchEvent NodeStatus} (h : NodeShown k nodeName node) :
    NodeShown (k.observe (.status nodeName event)) nodeName (node.withStatus (event.shown .notReady)) := by
  have hstatus : (k.observe (.status nodeName event)).status nodeName = event.shown .notReady := Function.update_self ..
  have hinfos : (k.observe (.status nodeName event)).faultInfos = k.faultInfos := rfl
  generalize event.shown .notReady = status at hstatus
  unfold NodeMetadata.withStatus
  dsimp only
  split
  · cases status with
    | ready =>
        refine ⟨fun code info hget hlt hcode => ?_, fun info hget => ?_⟩
        · rw [hinfos]
          exact h.configmap code info ((Dict.get?_erase_ne hcode).symm.trans hget) hlt hcode
        · replace hget : (node.faultInfos.erase nodeReboot).get? nodeReboot = some info := hget
          rw [Dict.get?_erase_self] at hget
          cases hget
    | notReady =>
        refine ⟨fun code info hget hlt hcode => ?_, fun _ _ _ => ⟨rfl, hstatus⟩⟩
        rw [hinfos]
        exact h.configmap code info ((Dict.get?_set_ne hcode).symm.trans hget) hlt hcode
  · rename_i hsame
    refine ⟨fun code info hget hlt hcode => ?_, fun info hget hlt => ?_⟩
    · rw [hinfos]
      exact h.configmap code info hget hlt hcode
    · have hnot := (h.reboot info hget hlt).1
      rw [not_not.1 hsame] at hnot
      exact ⟨hnot, hstatus.trans hnot⟩

theorem nodeShown_unordered : Unordered NodeShown := fun _ _ _ _ => NodeShown.alike

theorem NodeShown.same {node' : NodeMetadata} (h : NodeShown k nodeName node)
    (hstatus : node'.nodeStatus = node.nodeStatus) (hinfos : node'.faultInfos = node.faultInfos) :
    NodeShown k nodeName node' where
  configmap := by
    rw [hinfos]
    exact h.configmap
  reboot := by
    rw [hinfos, hstatus]
    exact h.reboot

theorem NodeShown.written {event : NodeEvent} (h : NodeShown k event.nodeName node)
    (hcodes : ∀ nodeName e, event = .configmap nodeName e → ∀ info ∈ e.shown [], .l2 < info.faultLevel →
      info.faultCode ≠ nodeReboot) : NodeShown (k.observe event) event.nodeName (event.written node) := by
  cases event with
  | configmap nodeName event => exact h.withFaultInfos (hcodes nodeName event rfl)
  | status nodeName event => exact h.withStatus

/-! ## Instances that come and go -/

variable {P : Cluster → String → NodeMetadata → Prop}

theorem Tracks.updateInitial (h : Tracks NodeShown k fm) (hostname : String → Option String) (id : Int)
    (nms : List NodeManagerInfo) : Tracks NodeShown k (fm.updateInitial hostname id nms) := by
  cases hknown : fm.instances.contains id with
  | true =>
      rw [FaultManager.updateInitial_known hknown]
      exact h
  | false =>
      rw [FaultManager.updateInitial_new hknown]
      exact h.addNewInstanceWithNodes (fun _ => nodeShown_empty) NodeShown.same id _

theorem Tracks.removeNode (h : Tracks P k fm) (nodeName : String) : Tracks P k (fm.removeNode nodeName) := by
  have hkept : ∀ {name node}, (fm.removeNode nodeName).nodes.get? name = some node →
      name ≠ nodeName ∧ fm.nodes.get? name = some node := by
    intro name node hget
    replace hget : (fm.nodes.erase nodeName).get? name = some node := hget
    rw [Dict.get?_erase] at hget
    split at hget
    · cases hget
    · rename_i hname
      exact ⟨hname, hget⟩
  refine ⟨fun name node hget => h.node name node (hkept hget).2, fun name node hget => ?_,
    fun name monitor hget => ?_⟩
  · obtain ⟨monitor, hmonitor⟩ := Dict.contains_iff.1 (h.monitored name node (hkept hget).2)
    exact Dict.contains_iff.2 ⟨monitor, (Dict.get?_erase_ne (hkept hget).1).trans hmonitor⟩
  · replace hget : (fm.resourceMonitors.erase nodeName).get? name = some monitor := hget
    rw [Dict.get?_erase] at hget
    split at hget
    · cases hget
    · exact h.monitor name monitor hget

theorem Tracks.updateRemoved (h : Tracks P k fm) (id : Int) : Tracks P k (fm.updateRemoved id) := by
  have hfold : ∀ (names : List String) (fm : FaultManager), Tracks P k fm →
      Tracks P k (names.foldl FaultManager.removeNode fm) := by
    intro names
    induction names with
    | nil => exact fun fm hfm => hfm
    | cons name names ih => exact fun fm hfm => ih _ (hfm.removeNode name)
  unfold FaultManager.updateRemoved
  split
  · exact (hfold (fm.nodesOf id) fm h).of_eq rfl rfl
  · exact h

/-! ## Every step -/

theorem Tracks.follow {w : Watched} {nodeOf : String → String}
    (h : Tracks NodeShown w.cluster w.system.faultManager) {event : FaultSystem.Event}
    (hok : FaultSystem.ReleaseSound nodeOf w.system event) :
    Tracks NodeShown (w.follow nodeOf event).cluster (w.follow nodeOf event).system.faultManager := by
  cases event with
  | addInstance timestamp ins answers =>
      simp only [Watched.follow, FaultSystem.step, FaultSystem.addInstance, FaultSystem.Event.shown, Option.elim_none]
      split
      · exact h
      · exact h.updateInitial _ _ _
  | removeInstance id =>
      simp only [Watched.follow, FaultSystem.step, FaultSystem.removeInstance, FaultSystem.Event.shown, Option.elim_none]
      split
      · exact h
      · exact h.updateRemoved id
  | updateInstances answers => exact hok.elim
  | restart nodes instances => exact hok.elim
  | updateConfig config => exact h.of_eq rfl rfl
  | configmapChange nodeName event =>
      refine h.watch nodeShown_unordered (h.watches (.configmap nodeName event)) fun node hnode => hnode.written ?_
      rintro _ _ ⟨⟩
      exact hok
  | nodeChange nodeName event =>
      refine h.watch nodeShown_unordered (h.watches (.status nodeName event)) fun node hnode => hnode.written ?_
      rintro _ _ ⟨⟩
  | finishStrategy id => exact h.of_eq rfl rfl
  | processInstanceStrategy id finishes =>
      rcases FaultSystem.process_cases w.system id finishes with ⟨-, heq⟩ | ⟨ins, ins', -, heq, -⟩
      · simp only [Watched.follow, FaultSystem.step, heq]
        exact h
      · simp only [Watched.follow, FaultSystem.step, heq]
        exact h.of_eq rfl rfl

theorem healthyReleased_of_placed {w : Watched} {nodeOf : String → String}
    (h : FaultSystem.Placed nodeOf w.system.controller w.system.faultManager)
    (hshown : Tracks NodeShown w.cluster w.system.faultManager) : w.HealthyReleased nodeOf := by
  intro id hid
  obtain ⟨nodeName, node, hon, hget, hfaulty⟩ := h.onFaulty id hid
  exact ⟨nodeName, hon, (hshown.node nodeName node hget).faulty hfaulty⟩

end PyMotor
