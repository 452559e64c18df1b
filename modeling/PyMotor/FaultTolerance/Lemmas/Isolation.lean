import PyMotor.FaultTolerance.Lemmas.Nodes

/-!
# Instances on faulty nodes

`Isolated` says that every managed instance is alone on its nodes, that the recorded ones are its own, and that it is
separated when one of them is faulty.
-/

namespace PyMotor

open Lib

namespace FaultSystem

open FaultManager Controller

variable {nodeOf : String → String} {s : FaultSystem} {c : Controller} {fm fm' : FaultManager} {id : Int}
  {nodeName : String} {node node' : NodeMetadata}

/-! ## Watches -/

def withMonitors (s : FaultSystem) (monitors : Dict String ResourceMonitor) : FaultSystem :=
  { s with faultManager := { s.faultManager with resourceMonitors := monitors } }

/-- A watch changes a monitor, and may write a node and refresh its instance. -/
inductive WatchMove (s : FaultSystem) : FaultSystem → Prop
  | quiet (monitors : Dict String ResourceMonitor) : WatchMove s (s.withMonitors monitors)
  | update (monitors : Dict String ResourceMonitor) (nodeName : String) (node node' : NodeMetadata)
      (hget : s.faultManager.nodes.get? nodeName = some node) (hid : node'.instanceId = node.instanceId) :
      WatchMove s ((s.withMonitors monitors).updateNode nodeName node')

theorem instanceId_withFaultInfos (node : NodeMetadata) (infos : List FaultInfo) :
    (node.withFaultInfos infos).instanceId = node.instanceId := rfl

theorem instanceId_withStatus (node : NodeMetadata) (status : NodeStatus) :
    (node.withStatus status).instanceId = node.instanceId := by
  unfold NodeMetadata.withStatus
  dsimp only
  split
  · cases status <;> rfl
  · rfl

theorem watchMove_handled (s : FaultSystem) (nodeName : String) (monitor : ResourceMonitor)
    {write : NodeMetadata → NodeMetadata} (hid : ∀ node, (write node).instanceId = node.instanceId) :
    WatchMove s (match (s.setMonitor nodeName monitor).faultManager.nodes.get? nodeName with
      | none => s.setMonitor nodeName monitor
      | some node => (s.setMonitor nodeName monitor).updateNode nodeName (write node)) := by
  cases hget : (s.setMonitor nodeName monitor).faultManager.nodes.get? nodeName with
  | none => exact .quiet (s.faultManager.resourceMonitors.set nodeName monitor)
  | some node => exact .update (s.faultManager.resourceMonitors.set nodeName monitor) nodeName node _ hget (hid node)

theorem watchMove_configmapChange (s : FaultSystem) (nodeName : String) (event : WatchEvent (List FaultInfo)) :
    WatchMove s (s.configmapChange nodeName event) := by
  unfold configmapChange
  cases s.faultManager.resourceMonitors.get? nodeName with
  | none => exact .quiet s.faultManager.resourceMonitors
  | some monitor =>
      dsimp only
      rcases monitor.handleConfigmapChange event with ⟨monitor', _ | infos⟩
      · exact .quiet (s.faultManager.resourceMonitors.set nodeName monitor')
      · exact watchMove_handled s nodeName monitor' (instanceId_withFaultInfos · infos)

theorem watchMove_nodeChange (s : FaultSystem) (nodeName : String) (event : WatchEvent NodeStatus) :
    WatchMove s (s.nodeChange nodeName event) := by
  unfold nodeChange
  cases s.faultManager.resourceMonitors.get? nodeName with
  | none => exact .quiet s.faultManager.resourceMonitors
  | some monitor =>
      dsimp only
      rcases monitor.handleNodeChange event with ⟨monitor', _ | status⟩
      · exact .quiet (s.faultManager.resourceMonitors.set nodeName monitor')
      · exact watchMove_handled s nodeName monitor' (instanceId_withStatus · status)

theorem hostname_eq {answers : String → Bool} {podIp : String}
    (h : hostname nodeOf answers podIp = some nodeName) : nodeOf podIp = nodeName := by
  unfold hostname at h
  split at h
  · exact Option.some.inj h
  · cases h

theorem contains_setInstance {other : Int} {ins : InstanceMetadata} (h : fm.instances.contains other = true) :
    (fm.setInstance id ins).instances.contains other = true := by
  simp only [setInstance, Dict.contains, Dict.get?_set] at h ⊢
  split
  · rfl
  · exact h

/-! ## Every instance on a faulty node is separated -/

/-- Of the instance to skip, nothing is said about its separation. -/
structure Isolated (nodeOf : String → String) (skip : Option Int) (c : Controller) (fm : FaultManager) : Prop where
  managed : c.Managed
  alone : ∀ {id id' nodeName}, OnNode nodeOf c id nodeName → OnNode nodeOf c id' nodeName → id = id'
  owned : ∀ {id nodeName node}, OnNode nodeOf c id nodeName → fm.nodes.get? nodeName = some node →
    node.instanceId = id ∧ fm.instances.contains id = true
  separated : ∀ {id nodeName node}, OnNode nodeOf c id nodeName → fm.nodes.get? nodeName = some node → Faulty node →
    some id ≠ skip → id ∈ c.forcedSeparatedInstances

variable {skip : Option Int}

theorem Isolated.of_nodes (h : Isolated nodeOf skip c fm) (hnodes : fm'.nodes = fm.nodes)
    (hcontains : ∀ id, fm.instances.contains id = true → fm'.instances.contains id = true) :
    Isolated nodeOf skip c fm' where
  managed := h.managed
  alone := h.alone
  owned hon hget := by
    obtain ⟨hid, hc⟩ := h.owned hon (hnodes ▸ hget)
    exact ⟨hid, hcontains _ hc⟩
  separated hon hget := h.separated hon (hnodes ▸ hget)

theorem Isolated.setNode (h : Isolated nodeOf none c fm) (hget : fm.nodes.get? nodeName = some node)
    (hid : node'.instanceId = node.instanceId) :
    Isolated nodeOf (some node'.instanceId) c (fm.setNode nodeName node') := by
  have howned : ∀ {id name nd}, OnNode nodeOf c id name → (fm.setNode nodeName node').nodes.get? name = some nd →
      nd.instanceId = id ∧ fm.instances.contains id = true := by
    intro id name nd hon hnd
    rw [FaultManager.setNode, Dict.get?_set] at hnd
    split at hnd
    · rename_i hname
      subst hname
      cases hnd
      rw [hid]
      exact h.owned hon hget
    · exact h.owned hon hnd
  refine ⟨h.managed, h.alone, howned, fun {id name nd} hon hnd hfaulty hne => ?_⟩
  have hown := (howned hon hnd).1
  rw [FaultManager.setNode, Dict.get?_set] at hnd
  split at hnd
  · cases hnd
    exact absurd (congrArg some hown.symm) hne
  · exact h.separated hon hnd hfaulty fun he => by cases he

theorem Isolated.of_controller (h : Isolated nodeOf skip c fm) {c' : Controller} (hstep : ManagerStep c c')
    (hi : c'.instances = c.instances)
    (hsep : ∀ {id nodeName node}, OnNode nodeOf c id nodeName → fm.nodes.get? nodeName = some node → Faulty node →
      id ∈ c'.forcedSeparatedInstances) : Isolated nodeOf none c' fm where
  managed := Managed.step h.managed hstep
  alone ha hb := h.alone ((onNode_congr hstep hi).1 ha) ((onNode_congr hstep hi).1 hb)
  owned ha hnd := h.owned ((onNode_congr hstep hi).1 ha) hnd
  separated ha hnd hf _ := hsep ((onNode_congr hstep hi).1 ha) hnd hf

theorem Isolated.refresh (h : Isolated nodeOf (some id) s.controller s.faultManager) :
    Isolated nodeOf none (s.refreshInstanceFaultLevel id).controller (s.refreshInstanceFaultLevel id).faultManager := by
  have hself : ∀ {name nd}, OnNode nodeOf s.controller id name → s.faultManager.nodes.get? name = some nd →
      Faulty nd → HasFaulty s.faultManager id :=
    fun {name nd} hon hnd hfaulty => ⟨name, nd, hnd, (h.owned hon hnd).1, hfaulty⟩
  rcases refresh_cases s id with ⟨hnone, heq⟩ | ⟨ins, ins', c', hins, heq, -, hcase⟩
  · rw [heq]
    refine h.of_controller .rfl rfl fun {other name nd} hon hnd hfaulty => h.separated hon hnd hfaulty fun he => ?_
    -- The instance of a recorded node is known.
    obtain ⟨ins, hins⟩ := Dict.contains_iff.1 (h.owned hon hnd).2
    rw [Option.some.inj he, hnone] at hins
    cases hins
  · rw [heq]
    suffices hc' : Isolated nodeOf none c' s.faultManager from hc'.of_nodes rfl fun _ hc => contains_setInstance hc
    rcases hcase with ⟨-, -, rfl⟩ | ⟨hno, rfl | ⟨rfl, -⟩⟩
    · refine h.of_controller (managerStep_separateInstance id) (instances_separateInstance _ _)
        fun {other name nd} hon hnd hfaulty => ?_
      by_cases he : other = id
      · subst he
        obtain ⟨r, hr, -⟩ := hon
        exact (mem_forced_separateInstance h.managed hr).2 (.inl rfl)
      · have hforced := h.separated hon hnd hfaulty fun hs => he (Option.some.inj hs)
        cases hr : s.controller.instances.get? id with
        | none => rw [separateInstance_unmanaged hr]; exact hforced
        | some r => exact (mem_forced_separateInstance h.managed hr).2 (.inr hforced)
    · refine h.of_controller (managerStep_recoverInstance id) (instances_recoverInstance _ _)
        fun {other name nd} hon hnd hfaulty => ?_
      by_cases he : other = id
      · subst he
        exact absurd (hself hon hnd hfaulty) hno
      · have hforced := h.separated hon hnd hfaulty fun hs => he (Option.some.inj hs)
        cases hr : s.controller.instances.get? id with
        | none => rw [recoverInstance_unmanaged hr]; exact hforced
        | some r => exact (mem_forced_recoverInstance h.managed hr).2 ⟨hforced, he⟩
    · refine h.of_controller .rfl rfl fun {other name nd} hon hnd hfaulty => ?_
      refine h.separated hon hnd hfaulty fun hs => ?_
      rw [Option.some.inj hs] at hon
      exact hno (hself hon hnd hfaulty)

theorem Isolated.watchMove {s' : FaultSystem} (h : Isolated nodeOf none s.controller s.faultManager)
    (hmove : WatchMove s s') : Isolated nodeOf none s'.controller s'.faultManager := by
  cases hmove with
  | quiet monitors => exact h.of_nodes rfl fun _ hc => hc
  | update monitors nodeName node node' hget hid =>
      have hquiet : Isolated nodeOf none s.controller (s.withMonitors monitors).faultManager :=
        h.of_nodes rfl fun _ hc => hc
      exact Isolated.refresh (s := ⟨s.controller, (s.withMonitors monitors).faultManager.setNode nodeName node'⟩)
        (hquiet.setNode hget hid)

theorem Isolated.syncInstanceNodes (h : Isolated nodeOf none c fm) {r : Ref} (hr : c.instances.get? id = some r)
    (answers : String → Bool) :
    Isolated nodeOf none c (fm.syncInstanceNodes (hostname nodeOf answers) id (c.obj r).nodeManagers) := by
  have hnames : ∀ {name}, name ∈ (buildNodeNameMapping (hostname nodeOf answers) (c.obj r).nodeManagers).values →
      OnNode nodeOf c id name := by
    intro name hname
    obtain ⟨nm, hnm, hhost⟩ := mem_buildNodeNameMapping hname
    exact ⟨r, hr, nm, hnm, hostname_eq hhost⟩
  refine ⟨h.managed, h.alone, fun {other name nd} hon hnd => ?_, fun {other name nd} hon hnd hfaulty hne => ?_⟩
  · rcases syncInstanceNodes_recorded hnd with ⟨old, hold, -, hid | ⟨hid, hname⟩⟩ | ⟨-, hid, hname⟩
    · obtain ⟨hown, hc⟩ := h.owned hon hold
      exact ⟨hid.trans hown, contains_syncInstanceNodes.2 (.inl hc)⟩
    · have he := h.alone (hnames hname) hon
      exact ⟨hid.trans he, contains_syncInstanceNodes.2 (.inr he.symm)⟩
    · have he := h.alone (hnames hname) hon
      exact ⟨hid.trans he, contains_syncInstanceNodes.2 (.inr he.symm)⟩
  · rcases syncInstanceNodes_recorded hnd with ⟨old, hold, hfaults, -⟩ | ⟨hfaults, -⟩
    · refine h.separated hon hold ?_ hne
      unfold Faulty at hfaulty ⊢
      rw [← hfaults]
      exact hfaulty
    · obtain ⟨info, hinfo, -⟩ := hfaulty
      rw [hfaults] at hinfo
      cases hinfo

theorem Isolated.updateInstances (h : Isolated nodeOf none s.controller s.faultManager) (answers : String → Bool) :
    Isolated nodeOf none s.controller (updateInstances nodeOf s answers).faultManager := by
  have hknown : ∀ x ∈ knownInstances s.controller, ∃ id r, s.controller.instances.get? id = some r ∧
      s.controller.obj r = x := by
    intro x hx
    have hmem : x ∈ s.controller.instances.values.map s.controller.obj := by
      rcases List.mem_append.1 hx with hx | hx
      · exact (List.mem_filter.1 hx).1
      · exact (List.mem_filter.1 hx).1
    obtain ⟨r, hr, rfl⟩ := List.mem_map.1 hmem
    obtain ⟨id, hid⟩ := Dict.mem_values_iff.1 hr
    exact ⟨id, r, hid, rfl⟩
  have hfold : ∀ (xs : List ManagedInstance) (fm : FaultManager), (∀ x ∈ xs, x ∈ knownInstances s.controller) →
      Isolated nodeOf none s.controller fm → Isolated nodeOf none s.controller (xs.foldl (fun fm x =>
        fm.syncInstanceNodes (hostname nodeOf answers) x.id x.nodeManagers) fm) := by
    intro xs
    induction xs with
    | nil => exact fun fm _ hfm => hfm
    | cons x xs ih =>
        intro fm hxs hfm
        refine ih _ (fun y hy => hxs y (List.mem_cons_of_mem _ hy)) ?_
        obtain ⟨id, r, hr, rfl⟩ := hknown x (hxs x (List.mem_cons_self ..))
        dsimp only
        rw [(h.managed hr).2]
        exact hfm.syncInstanceNodes hr answers
  exact hfold _ _ (fun _ hx => hx) h

theorem Isolated.removeInstance (h : Isolated nodeOf none s.controller s.faultManager) (id : Int) :
    Isolated nodeOf none (s.removeInstance id).controller (s.removeInstance id).faultManager := by
  unfold FaultSystem.removeInstance
  cases hr : s.controller.instances.get? id with
  | none => exact h
  | some r =>
      show Isolated nodeOf none (removed s.controller r id) (s.faultManager.updateRemoved id)
      have hon : ∀ {other name}, OnNode nodeOf (removed s.controller r id) other name ↔
          other ≠ id ∧ OnNode nodeOf s.controller other name := onNode_removed hr
      refine ⟨Managed.step h.managed (managerStep_removed hr), fun ha hb => h.alone (hon.1 ha).2 (hon.1 hb).2,
        fun ha hnd => ?_, fun ha hnd hfaulty _ => ?_⟩
      · obtain ⟨hne, ha⟩ := hon.1 ha
        obtain ⟨hown, hc⟩ := h.owned ha (get?_updateRemoved hnd).1
        refine ⟨hown, ?_⟩
        unfold Dict.contains at hc ⊢
        rw [instances_updateRemoved hne]
        exact hc
      · obtain ⟨hne, ha⟩ := hon.1 ha
        rw [(removed_spec hr).2, List.mem_filter]
        exact ⟨h.separated ha (get?_updateRemoved hnd).1 hfaulty nofun, by simpa using hne⟩

theorem addInstance_recorded {ins : ManagedInstance} {answers : String → Bool} {nm : NodeManagerInfo}
    (hnm : nm ∈ ins.nodeManagers) (hnode : ∀ old, fm.nodes.get? (nodeOf nm.podIp) = some old → ¬ Faulty old ∧
      (fm.instances.contains ins.id = true → old.instanceId = ins.id) ∧
      (fm.instances.contains ins.id = false → old.instanceId = ins.id ∨
        answers nm.podIp = true ∧ nodeOf nm.podIp ≠ ""))
    (hget : (fm.updateInitial (hostname nodeOf answers) ins.id ins.nodeManagers).nodes.get? (nodeOf nm.podIp) =
      some node) : node.instanceId = ins.id ∧ ¬ Faulty node := by
  cases hc : fm.instances.contains ins.id with
  | true =>
      rw [updateInitial_known hc] at hget
      obtain ⟨hnot, hown, -⟩ := hnode node hget
      exact ⟨hown hc, hnot⟩
  | false =>
      rw [updateInitial_new hc] at hget
      obtain ⟨htaken, hkept, -⟩ := addNewInstanceWithNodes_spec fm ins.id
        (buildNodeNameMapping (hostname nodeOf answers) ins.nodeManagers)
      by_cases hname : nodeOf nm.podIp ∈ (buildNodeNameMapping (hostname nodeOf answers) ins.nodeManagers).values
      · obtain ⟨node', hnode', hid, hold, hnone⟩ := htaken _ hname
        rw [hget] at hnode'
        cases hnode'
        refine ⟨hid, fun hfaulty => ?_⟩
        cases hcase : fm.nodes.get? (nodeOf nm.podIp) with
        | none =>
            obtain ⟨info, hinfo, -⟩ := hfaulty
            rw [hnone hcase] at hinfo
            cases hinfo
        | some old =>
            unfold Faulty at hfaulty
            rw [hold old hcase] at hfaulty
            exact (hnode old hcase).1 hfaulty
      · rw [hkept _ hname] at hget
        obtain ⟨hnot, -, hown⟩ := hnode node hget
        refine ⟨(hown hc).resolve_right fun ⟨hanswer, hne⟩ => hname ?_, hnot⟩
        exact buildNodeNameMapping_mem hnm (by simp [hostname, hanswer]) hne

theorem Isolated.addInstance (h : Isolated nodeOf none s.controller s.faultManager) {timestamp : ℚ}
    {ins : ManagedInstance} {answers : String → Bool} (hok : SeparationSound nodeOf s (.addInstance timestamp ins answers)) :
    Isolated nodeOf none (addInstance nodeOf s timestamp ins answers).controller
      (addInstance nodeOf s timestamp ins answers).faultManager := by
  have hold : ∀ {id name}, OnNode nodeOf (added s.controller timestamp ins) id name →
      OnNode nodeOf s.controller id name ∨ id = ins.id ∧ s.controller.instances.contains ins.id = false ∧
        ∃ nm ∈ ins.nodeManagers, nodeOf nm.podIp = name := onNode_added h.managed
  have hmanaged : Managed (added s.controller timestamp ins) := managed_added h.managed
  unfold FaultSystem.addInstance
  show Isolated nodeOf none (added s.controller timestamp ins) _
  cases hc : s.controller.instances.contains ins.id with
  | true =>
      -- The id is known, and nothing is announced.
      have hon : ∀ {id name}, OnNode nodeOf (added s.controller timestamp ins) id name →
          OnNode nodeOf s.controller id name := by
        intro id name ha
        rcases hold ha with ha | ⟨-, hno, -⟩
        · exact ha
        · rw [hc] at hno; cases hno
      refine ⟨hmanaged, fun ha hb => h.alone (hon ha) (hon hb), fun ha => h.owned (hon ha), fun ha hnd hf hne => ?_⟩
      rw [forced_added]
      exact h.separated (hon ha) hnd hf hne
  | false =>
      have hsound := hok hc
      -- No managed instance is on a node of the new one.
      have hfree : ∀ {id name nm}, nm ∈ ins.nodeManagers → nodeOf nm.podIp = name →
          ¬ OnNode nodeOf s.controller id name := by
        rintro id name nm hnm rfl
        exact (hsound nm hnm).1 id
      have hkept : ∀ {id name}, OnNode nodeOf s.controller id name →
          (s.faultManager.updateInitial (hostname nodeOf answers) ins.id ins.nodeManagers).nodes.get? name =
            s.faultManager.nodes.get? name := by
        intro id name ha
        cases hknown : s.faultManager.instances.contains ins.id with
        | true => rw [updateInitial_known hknown]
        | false =>
            rw [updateInitial_new hknown, (addNewInstanceWithNodes_spec _ _ _).2.1]
            intro hname
            obtain ⟨nm, hnm, hhost⟩ := mem_buildNodeNameMapping hname
            exact hfree hnm (hostname_eq hhost) ha
      have hcontains : ∀ id, s.faultManager.instances.contains id = true ∨ id = ins.id →
          (s.faultManager.updateInitial (hostname nodeOf answers) ins.id ins.nodeManagers).instances.contains id =
            true := by
        intro id hid
        unfold updateInitial
        split
        · rename_i hyes
          exact hid.elim (fun hid => hid) fun hid => hid ▸ hyes
        · exact contains_syncInstanceNodes.2 hid
      refine ⟨hmanaged, fun ha hb => ?_, fun ha hnd => ?_, fun ha hnd hf _ => ?_⟩
      · rcases hold ha with ha | ⟨rfl, -, nm, hnm, hname⟩
        · rcases hold hb with hb | ⟨rfl, -, nm, hnm, hname⟩
          · exact h.alone ha hb
          · exact absurd ha (hfree hnm hname)
        · rcases hold hb with hb | ⟨rfl, -, -⟩
          · exact absurd hb (hfree hnm hname)
          · rfl
      · rcases hold ha with ha | ⟨rfl, -, nm, hnm, rfl⟩
        · replace hnd : (s.faultManager.updateInitial _ ins.id ins.nodeManagers).nodes.get? _ = _ := hnd
          rw [hkept ha] at hnd
          obtain ⟨hown, hcon⟩ := h.owned ha hnd
          exact ⟨hown, hcontains _ (.inl hcon)⟩
        · exact ⟨(addInstance_recorded hnm (hsound nm hnm).2 hnd).1, hcontains _ (.inr rfl)⟩
      · rcases hold ha with ha | ⟨rfl, -, nm, hnm, rfl⟩
        · replace hnd : (s.faultManager.updateInitial _ ins.id ins.nodeManagers).nodes.get? _ = _ := hnd
          rw [hkept ha] at hnd
          rw [forced_added]
          exact h.separated ha hnd hf fun he => by cases he
        · exact absurd hf (addInstance_recorded hnm (hsound nm hnm).2 hnd).2

theorem isolated_start (nodeOf : String → String) (fm : FaultManager) : Isolated nodeOf none {} fm where
  managed hr := by cases hr
  alone := fun ⟨_, hr, _⟩ => by cases hr
  owned := fun ⟨_, hr, _⟩ => by cases hr
  separated := fun ⟨_, hr, _⟩ => by cases hr

theorem Isolated.step (h : Isolated nodeOf none s.controller s.faultManager) {event : Event}
    (hok : SeparationSound nodeOf s event) :
    Isolated nodeOf none (step nodeOf s event).controller (step nodeOf s event).faultManager := by
  cases event with
  | addInstance timestamp ins answers => exact h.addInstance hok
  | removeInstance id => exact h.removeInstance id
  | updateInstances answers => exact h.updateInstances answers
  | restart nodes instances => exact isolated_start nodeOf _
  | updateConfig config => exact h.of_nodes rfl fun _ hc => hc
  | configmapChange nodeName event => exact h.watchMove (watchMove_configmapChange s nodeName event)
  | nodeChange nodeName event => exact h.watchMove (watchMove_nodeChange s nodeName event)
  | finishStrategy id =>
      refine h.of_nodes rfl fun other hc => ?_
      show (s.faultManager.instances.adjust id _).contains other = true
      rw [Dict.contains_iff_mem_keys, Dict.keys_adjust]
      exact Dict.contains_iff_mem_keys.1 hc
  | processInstanceStrategy id finishes =>
      show Isolated nodeOf none (s.processInstanceStrategy id finishes).controller
        (s.processInstanceStrategy id finishes).faultManager
      rcases process_cases s id finishes with ⟨-, heq⟩ | ⟨ins, ins', -, heq, -⟩
      · rw [heq]
        exact h
      · rw [heq]
        exact h.of_nodes rfl fun _ hc => contains_setInstance hc

end FaultSystem

end PyMotor
