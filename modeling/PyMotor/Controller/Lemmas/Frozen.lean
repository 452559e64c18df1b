import PyMotor.Controller.AssemblySpec
import PyMotor.Controller.Lemmas.Assembly
import PyMotor.Controller.PodTheorems

/-! Instances that are handed over keep their pods while no late message changes them. -/

namespace PyMotor

open Lib ManagedInstance

namespace ManagedInstance

variable {x y : ManagedInstance}

theorem SameForm.keys (h : SameForm x y) : x.endpoints.keys = y.endpoints.keys := by
  simpa [ManagedInstance.shape] using congrArg Dict.keys h.shape

theorem SameForm.getEndpointsNum (h : SameForm x y) : x.getEndpointsNum = y.getEndpointsNum := by
  have hnum : ∀ z : ManagedInstance, z.getEndpointsNum = (z.shape.values.map fun eps => eps.entries.length).sum := by
    intro z
    rw [ManagedInstance.shape, Dict.values_mapValues, List.map_map]
    simp [ManagedInstance.getEndpointsNum, Dict.mapValues, Function.comp_def]
  rw [hnum, hnum, h.shape]

theorem Full.of_sameForm (hy : Full y) (h : SameForm x y) : Full x := by
  intro hmulti
  rw [h.enableMultiEndpoints] at hmulti
  rw [h.parallelConfig, h.getEndpointsNum]
  exact hy hmulti

theorem full_of_enough (h : x.isEndpointsEnough = true) : Full x := by
  intro hmulti
  unfold isEndpointsEnough at h
  cases hconfig : x.parallelConfig with
  | none =>
      rw [hconfig] at h
      cases h
  | some config =>
      rw [hconfig] at h
      exact ⟨config, rfl, by simpa [hmulti] using h⟩

/-- Every pod has one node manager. -/
structure Startable (x : ManagedInstance) : Prop where
  nodup : (x.nodeManagers.map (·.podIp)).Nodup
  accounted : x.Accounted

theorem Startable.of_sameForm (hy : Startable y) (h : SameForm x y) : Startable x := by
  refine ⟨h.nodeManagers ▸ hy.nodup, fun ip hip => ?_⟩
  rw [h.keys] at hip
  rw [h.nodeManagers]
  exact hy.accounted ip hip

theorem Startable.addPod (h : Startable x) (msg : RegisterMsg) (timestamp : ℚ) :
    Startable (msg.addPod timestamp x).2 := by
  refine ⟨?_, h.accounted.addPod msg timestamp⟩
  rcases addPod_cases msg timestamp x with ⟨_, heq⟩ | ⟨hunknown, hnms, _⟩
  · rw [heq]
    exact h.nodup
  · rw [hnms, List.map_append, List.nodup_append_comm]
    refine List.nodup_cons.mpr ⟨fun hmem => ?_, h.nodup⟩
    exact Bool.eq_false_iff.mp hunknown (hasNodeMgr_iff.mpr hmem)

theorem Startable.filterAbnormalEndpoints (h : Startable x) (queryStatus : NodeManagerInfo → QueryStatus) :
    Startable (x.filterAbnormalEndpoints queryStatus) := by
  refine ⟨?_, h.accounted.filterAbnormalEndpoints queryStatus⟩
  exact ((nodeManagers_filterAbnormalEndpoints_sublist x queryStatus).map _).nodup h.nodup

theorem sameForm_addPod {msg : ReregisterMsg} (hnm : ⟨msg.podIp, msg.nmPort, msg.deviceNum⟩ ∈ x.nodeManagers)
    (hpod : x.shape.get? msg.podIp = some (msg.endpointDict.mapValues Endpoint.still)) :
    SameForm (msg.addPod x) x := by
  unfold shape at hpod
  rw [Dict.get?_mapValues] at hpod
  obtain ⟨eps, heps, hstill⟩ := Option.map_eq_some_iff.mp hpod
  have hadd : x.addNodeMgr msg.podIp msg.nmPort msg.deviceNum = x := if_pos hnm
  unfold ReregisterMsg.addPod
  rw [hadd]
  exact sameForm_endpoints (Dict.mapValues_set_present heps hstill.symm)

theorem endpointList_eq (x : ManagedInstance) :
    x.endpointList = x.endpoints.keys.flatMap fun ip => (x.getEndpoints ip).values := by
  rw [Instance.endpointList, Dict.values, Dict.keys, List.flatMap_map, List.flatMap_map]
  apply List.flatMap_congr
  intro e he
  have hget : x.endpoints.get? e.1 = some e.2 := Dict.get?_eq_some_iff.mpr he
  simp [getEndpoints, hget]

theorem endpoints_startCommands (hmaster : x.masterDpIp.isSome = true) (ranktable : Option Ranktable) :
    ((x.startCommands ranktable).flatMap fun cmd => cmd.2.endpoints) =
      (x.nodeManagers.map (·.podIp)).flatMap fun ip => (x.getEndpoints ip).values := by
  obtain ⟨masterDpIp, hmaster⟩ := Option.isSome_iff_exists.mp hmaster
  simp only [startCommands, hmaster]
  induction x.nodeManagers with
  | nil => rfl
  | cons nm nms ih =>
      rw [List.map_cons, List.flatMap_cons, ← ih, List.filterMap_cons]
      by_cases hempty : (x.getEndpoints nm.podIp).entries = []
      · simp [hempty, Dict.values]
      · simp [hempty]

theorem startCommands_perm (h : Startable x) (hmaster : x.masterDpIp.isSome = true) (ranktable : Option Ranktable) :
    ((x.startCommands ranktable).flatMap fun cmd => cmd.2.endpoints).Perm x.endpointList := by
  rw [endpoints_startCommands hmaster, endpointList_eq]
  generalize hpods : x.nodeManagers.map (·.podIp) = pods
  have hnodup : pods.Nodup := hpods ▸ h.nodup
  -- Pods without endpoints add nothing.
  have hfilter : (pods.flatMap fun ip => (x.getEndpoints ip).values) =
      (pods.filter fun ip => decide (ip ∈ x.endpoints.keys)).flatMap fun ip => (x.getEndpoints ip).values := by
    clear hpods hnodup
    induction pods with
    | nil => rfl
    | cons ip pods ih =>
        rw [List.flatMap_cons, ih, List.filter_cons]
        by_cases hip : ip ∈ x.endpoints.keys
        · simp [hip]
        · have hnone : x.endpoints.get? ip = none := Dict.get?_eq_none_iff.mpr hip
          simp [hip, getEndpoints, hnone]
  rw [hfilter]
  apply List.Perm.flatMap_right
  apply (List.perm_ext_iff_of_nodup (hnodup.filter _) x.endpoints.nodup).mpr
  intro ip
  rw [List.mem_filter, decide_eq_true_eq]
  exact ⟨fun hip => hip.2, fun hip => ⟨hpods ▸ h.accounted ip hip, hip⟩⟩

end ManagedInstance

namespace ControllerProcess

variable {p : ControllerProcess} {r : Ref}

/-! ## Full and startable instances -/

/-- Managed instances are full, and those that get a start command are startable. -/
def FullProcess (p : ControllerProcess) : Prop :=
  Carries Full (fun registerStatus isReregister x => registerStatus = .assembled ∨ isReregister = false → Startable x) p

theorem NotLate.addPod {msg : RegisterMsg} (h : p.NotLate (.register msg))
    (hs : p.evalRegisterStatus msg.jobName = .assembling) {m : AssembleInstanceMetadata Ref}
    (hm : p.assembler.instances.get? msg.jobName = some m) (hassembled : m.registerStatus = .assembled) :
    (msg.addPod p.clock (p.controller.obj m.ins)).2 = p.controller.obj m.ins := by
  have hknown := h (evalRegisterStatus_assembling hs).1 m hm hassembled
  rcases addPod_cases msg p.clock (p.controller.obj m.ins) with ⟨-, heq⟩ | ⟨hunknown, -⟩
  · exact heq
  · cases hknown.symm.trans hunknown

theorem NotLate.readdPod {msg : ReregisterMsg} (h : p.NotLate (.reregister msg))
    (hs : p.evalRegisterStatus msg.jobName = .assembling) {m : AssembleInstanceMetadata Ref}
    (hm : p.assembler.instances.get? msg.jobName = some m) (hassembled : m.registerStatus = .assembled) :
    SameForm (msg.addPod (p.controller.obj m.ins)) (p.controller.obj m.ins) := by
  obtain ⟨hnm, hpod⟩ := h (evalRegisterStatus_assembling hs).1 m hm hassembled
  exact sameForm_addPod hnm hpod

theorem FullProcess.step (h : FullProcess p) (hp : ProcessInv p) {event : Event} (hs : p.NotLate event) :
    FullProcess (p.step event) := by
  have hfull : FormOnly Full := fun x y hxy hy => hy.of_sameForm hxy
  have hstartable : ∀ (s : RegisterStatus) (b : Bool), FormOnly fun x => s = .assembled ∨ b = false → Startable x :=
    fun s b x y hxy hy hsb => (hy hsb).of_sameForm hxy
  cases event with
  | register msg =>
      apply h.register hp
      · intro _ _
        have hnew : Startable (p.newInstance msg) := by
          refine ⟨List.nodup_nil, fun ip hip => ?_⟩
          cases hip
        exact hnew.addPod msg p.clock
      · intro m hstatus hm
        refine ⟨fun hx hsb => (hx hsb).addPod msg p.clock, fun hassembled hx => ?_⟩
        rw [hs.addPod hstatus hm hassembled]
        exact hx
  | reregister msg =>
      apply h.reregister hp
      · rintro _ (hsb | hsb)
        · cases hsb
        · cases hsb
      · intro m hstatus hm
        constructor
        · rintro hx (hassembled | hsb)
          · exact (hx (Or.inl hassembled)).of_sameForm (hs.readdPod hstatus hm hassembled)
          · cases hsb
        · exact fun hassembled hx => hx.of_sameForm (hs.readdPod hstatus hm hassembled)
  | assemble queryStatus assembleTimeout jobName =>
      apply h.assemble hfull hstartable hp
      · exact fun s b x hx hsb => (hx hsb).filterAbnormalEndpoints queryStatus
      · exact fun s b x hx henough => ⟨full_of_enough henough, fun hb _ => hx (Or.inr hb)⟩
  | _ => exact h.step_other hfull hstartable hp id

theorem FullProcess.startsAll (h : FullProcess p) : StartsAll p :=
  fun _ m hm hassembled hmaster => startCommands_perm (h.metadata hm (Or.inl hassembled)) hmaster m.ranktable

/-! ## Pods that stay -/

/-- The object is not open to the assembler. -/
structure Closed (p : ControllerProcess) (r : Ref) : Prop where
  lt : r < p.controller.heap.length
  metadata : ∀ {jobName m}, p.assembler.instances.get? jobName = some m → m.ins = r → m.registerStatus = .assembled

theorem HandedOver.closed (h : HandedOver p r) (hp : ProcessInv p) : Closed p r := by
  rcases h with ⟨id, hid⟩ | ⟨jobName, m, hm, hassembled, rfl⟩
  · refine ⟨(hp.managed hid).1, fun hm hins => ?_⟩
    by_contra hs
    exact (hp.unassembled hm hs).2 id (hins ▸ hid)
  · obtain ⟨hlt, hname⟩ := hp.metadata hm
    refine ⟨hlt, fun {jobName' m'} hm' hins => ?_⟩
    -- The object has one job name.
    have hname' := (hp.metadata hm').2
    rw [hins, hname] at hname'
    rw [← hname', hm] at hm'
    cases hm'
    exact hassembled

/-- What a step leaves of an object that is closed. -/
def Stays (p q : ControllerProcess) (r : Ref) : Prop :=
  Closed q r ∧ SameForm (q.controller.obj r) (p.controller.obj r)

theorem Closed.stays_managerStep (h : Closed p r) {q : ControllerProcess} (hassembler : q.assembler = p.assembler)
    (hc : Controller.ManagerStep p.controller q.controller) : Stays p q r :=
  ⟨⟨hc.length ▸ h.lt, hassembler ▸ h.metadata⟩, hc.form r⟩

theorem Closed.create (h : Closed p r) {x : ManagedInstance} {jobName : String} {m : AssembleInstanceMetadata Ref}
    (hins : m.ins = p.controller.heap.length) :
    Stays p ({ p with controller := p.controller.create x }.setMetadata jobName m) r := by
  refine ⟨⟨?_, fun hm' he => ?_⟩, ?_⟩
  · exact Nat.lt_of_lt_of_le h.lt (by simp [setMetadata])
  · rcases get?_setMetadata hm' with ⟨-, rfl⟩ | ⟨-, hm'⟩
    · exact absurd (he ▸ hins) (Nat.ne_of_lt h.lt)
    · exact h.metadata hm' he
  · have hold : (p.controller.create x).obj r = p.controller.obj r := Controller.obj_create_old h.lt x
    exact hold ▸ SameForm.rfl

theorem Closed.setMetadata (h : Closed p r) {jobName : String} {m : AssembleInstanceMetadata Ref}
    (hm : m.ins = r → m.registerStatus = .assembled) : Closed (p.setMetadata jobName m) r := by
  refine ⟨h.lt, fun hm' he => ?_⟩
  rcases get?_setMetadata hm' with ⟨-, rfl⟩ | ⟨-, hm'⟩
  · exact hm he
  · exact h.metadata hm' he

theorem Closed.popMetadata (h : Closed p r) (jobName : String) : Closed (p.popMetadata jobName) r :=
  ⟨h.lt, fun hm => h.metadata (get?_popMetadata hm).2⟩

theorem Stays.rfl (h : Closed p r) : Stays p p r := ⟨h, SameForm.rfl⟩

theorem Stays.setInsIdCnt {q : ControllerProcess} (h : Stays p q r) (insIdCnt : Int) :
    Stays p (q.setInsIdCnt insIdCnt) r := ⟨⟨h.1.lt, h.1.metadata⟩, h.2⟩

theorem Closed.rebuild (h : Closed p r) {jobName : String} {m m' : AssembleInstanceMetadata Ref}
    (hm : p.assembler.instances.get? jobName = some m) (hins : m'.ins = m.ins)
    (hstatus : m'.registerStatus = m.registerStatus) {f : ManagedInstance → ManagedInstance}
    (hf : m.registerStatus = .assembled → SameForm (f (p.controller.obj m.ins)) (p.controller.obj m.ins)) :
    Stays p ((p.modifyObj m.ins f).setMetadata jobName m') r := by
  have hclosed : Closed (p.modifyObj m.ins f) r := by
    refine ⟨?_, h.metadata⟩
    rw [modifyObj, Controller.length_modifyObj]
    exact h.lt
  refine ⟨hclosed.setMetadata fun he => ?_, ?_⟩
  · rw [hstatus]
    exact h.metadata hm (hins ▸ he)
  · show SameForm ((p.controller.modifyObj m.ins f).obj r) (p.controller.obj r)
    by_cases he : m.ins = r
    · have hself := Controller.obj_modifyObj_self (he ▸ h.lt) f
      rw [← he, hself]
      exact hf (h.metadata hm he)
    · rw [Controller.obj_modifyObj_ne fun heq => he heq.symm]
      exact SameForm.rfl

theorem Closed.assemble (h : Closed p r) (queryStatus : NodeManagerInfo → QueryStatus) (assembleTimeout : ℚ)
    (jobName : String) : Stays p (p.assembleInstance queryStatus assembleTimeout jobName) r := by
  rcases p.assembleInstance_cases queryStatus assembleTimeout jobName with heq | ⟨m, hm, hs, q, hq, hcases⟩
  · rw [heq]
    exact Stays.rfl h
  · have hfiltered : Stays p q r := by
      have hrebuilt := h.rebuild hm rfl rfl (f := (·.filterAbnormalEndpoints queryStatus)) fun hassembled =>
        absurd hassembled hs
      rwa [setMetadata_self (p := p.modifyObj m.ins _) hm, ← hq] at hrebuilt
    have hadded : Stays p { q with controller := q.controller.addInstance q.clock m.ins } r := by
      refine ⟨⟨?_, hfiltered.1.metadata⟩, (q.controller.form_addInstance q.clock m.ins r).trans hfiltered.2⟩
      rw [Controller.length_addInstance]
      exact hfiltered.1.lt
    rcases hcases with heq | heq | ⟨-, ⟨-, heq⟩ | ⟨-, heq⟩⟩
    · rwa [heq]
    · rw [heq]
      exact ⟨hfiltered.1.popMetadata jobName, hfiltered.2⟩
    · rw [heq]
      exact ⟨hadded.1.popMetadata jobName, hadded.2⟩
    · rw [heq]
      exact ⟨hadded.1.setMetadata fun _ => rfl, hadded.2⟩

theorem Closed.step (h : Closed p r) {event : Event} (hs : p.NotLate event) (hrestart : event ≠ .restart) :
    Stays p (p.step event) r := by
  cases event with
  | register msg =>
      rcases p.register_cases msg with ⟨-, heq⟩ | ⟨-, m, hins, -, -, heq⟩ | ⟨hstatus, m, m', hm, hfollows, heq⟩
      · simpa only [ControllerProcess.step, heq] using Stays.rfl h
      · simp only [ControllerProcess.step, heq]
        exact (h.create hins).setInsIdCnt _
      · simp only [ControllerProcess.step, heq]
        apply h.rebuild hm hfollows.1 hfollows.2.1
        intro hassembled
        rw [hs.addPod hstatus hm hassembled]
        exact SameForm.rfl
  | reregister msg =>
      rcases p.reregister_cases msg with ⟨-, heq⟩ | ⟨-, heq⟩ | ⟨hstatus, m, hm, heq⟩
      · simpa only [ControllerProcess.step, heq] using Stays.rfl h
      · simp only [ControllerProcess.step, heq]
        apply Stays.setInsIdCnt
        apply h.create
        rfl
      · simp only [ControllerProcess.step, heq]
        apply Stays.setInsIdCnt
        apply h.rebuild hm
        · rfl
        · rfl
        · exact fun hassembled => hs.readdPod hstatus hm hassembled
  | assemble queryStatus assembleTimeout jobName => exact h.assemble queryStatus assembleTimeout jobName
  | startCommand reply maxRetryTimes jobName =>
      rcases p.sendStartCommand_cases reply maxRetryTimes jobName with heq | heq | ⟨m, m', hm, hfollows, heq⟩
      · simpa only [ControllerProcess.step, heq] using Stays.rfl h
      · simp only [ControllerProcess.step, heq]
        exact ⟨h.popMetadata jobName, SameForm.rfl⟩
      · simp only [ControllerProcess.step, heq]
        refine ⟨h.setMetadata fun he => ?_, SameForm.rfl⟩
        rw [hfollows.2.1]
        exact h.metadata hm (hfollows.1 ▸ he)
  | heartbeat insId ip status =>
      exact h.stays_managerStep rfl (Controller.managerStep_handleHeartbeat _ insId ip status)
  | timeout queryStatus insId =>
      exact h.stays_managerStep rfl (Controller.managerStep_handleTimeout _ queryStatus insId)
  | separate instanceId => exact h.stays_managerStep rfl (Controller.managerStep_separateInstance instanceId)
  | recover instanceId => exact h.stays_managerStep rfl (Controller.managerStep_recoverInstance instanceId)
  | delete insId => exact h.stays_managerStep rfl (Controller.managerStep_delInstance insId)
  | persistManager => exact ⟨⟨h.lt, h.metadata⟩, SameForm.rfl⟩
  | restoreManager =>
      cases hstate : p.managerData with
      | none =>
          simp only [ControllerProcess.step, restoreManager_none hstate]
          exact Stays.rfl h
      | some state =>
          have hc := restored_restoreManager hstate
          obtain ⟨hassembler, -, -⟩ := p.assembler_restoreManager
          refine ⟨⟨h.lt.trans_le hc.length, hassembler ▸ h.metadata⟩, ?_⟩
          simp only [ControllerProcess.step, hc.old h.lt]
          exact SameForm.rfl
  | persistAssembler => exact ⟨⟨h.lt, h.metadata⟩, SameForm.rfl⟩
  | restoreAssembler =>
      apply restoreAssembler_rule (P := fun q => Stays p q r) (Stays.rfl h)
      · refine fun data _ => ⟨⟨h.lt, fun hm => ?_⟩, SameForm.rfl⟩
        cases hm
      · intro q data e _ _ hq
        have hcreated : Stays q (q.restoreMetadata e) r := by
          apply hq.1.create
          rfl
        exact ⟨hcreated.1, hcreated.2.trans hq.2⟩
  | restart => exact absurd rfl hrestart
  | tick timestamp => exact ⟨⟨h.lt, h.metadata⟩, SameForm.rfl⟩

theorem Closed.run {events : List Event} (h : Closed p r) (hs : Along ControllerProcess.step NotLate p events)
    (hrestart : .restart ∉ events) : Stays p (run ControllerProcess.step p events) r := by
  induction events generalizing p with
  | nil => exact Stays.rfl h
  | cons event events ih =>
      have hstep := h.step hs.1 fun he => hrestart (he ▸ List.mem_cons_self ..)
      have hend := ih hstep.1 hs.2 fun hmem => hrestart (List.mem_cons_of_mem _ hmem)
      exact ⟨hend.1, hend.2.trans hstep.2⟩

end ControllerProcess

end PyMotor
