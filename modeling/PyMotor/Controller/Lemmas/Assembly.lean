import PyMotor.Controller.Lemmas.Process

/-!
# The steps of the assembler
-/

namespace PyMotor

open Lib ManagedInstance

theorem Controller.modifyObj_create (c : Controller) (x : ManagedInstance) (f : ManagedInstance → ManagedInstance) :
    (c.create x).modifyObj c.heap.length f = c.create (f x) := by
  simp [Controller.create, Controller.modifyObj, Heap.modify_append_length]

namespace ControllerProcess

variable {p : ControllerProcess}

/-! ## Inversion -/

/-- New metadata for the same object, in the same state of assembly and for the same kind of message. -/
def Follows (m m' : AssembleInstanceMetadata Ref) : Prop :=
  m'.ins = m.ins ∧ m'.registerStatus = m.registerStatus ∧ m'.isReregister = m.isReregister

theorem setMetadata_setMetadata (jobName : String) (m m' : AssembleInstanceMetadata Ref) :
    (p.setMetadata jobName m).setMetadata jobName m' = p.setMetadata jobName m' := by
  simp [setMetadata, Dict.set_set]

theorem setMetadata_self {jobName : String} {m : AssembleInstanceMetadata Ref}
    (hm : p.assembler.instances.get? jobName = some m) : p.setMetadata jobName m = p := by
  unfold setMetadata
  rw [Dict.set_self hm]

theorem registerPod_cases {msg : RegisterMsg} {m : AssembleInstanceMetadata Ref}
    (hm : p.assembler.instances.get? msg.jobName = some m) :
    ∃ m', Follows m m' ∧
      (p.registerPod msg).2 = (p.modifyObj m.ins fun x => (msg.addPod p.clock x).2).setMetadata msg.jobName m' := by
  simp only [registerPod, hm]
  split
  · exact ⟨m, ⟨rfl, rfl, rfl⟩, (setMetadata_self (p := p.modifyObj m.ins _) hm).symm⟩
  · split
    · exact ⟨m, ⟨rfl, rfl, rfl⟩, (setMetadata_self (p := p.modifyObj m.ins _) hm).symm⟩
    · exact ⟨{ m with ranktable := msg.mergeRanktable m.ranktable }, ⟨rfl, rfl, rfl⟩, rfl⟩

theorem register_cases (p : ControllerProcess) (msg : RegisterMsg) :
    (p.evalRegisterStatus msg.jobName = .assembled ∧ (p.register msg).2 = p) ∨
    (p.evalRegisterStatus msg.jobName = .notRegistered ∧
      ∃ m, m.ins = p.controller.heap.length ∧ m.registerStatus = .notRegistered ∧ m.isReregister = false ∧
        (p.register msg).2 = ({ p with
          controller := p.controller.create (msg.addPod p.clock (p.newInstance msg)).2 }.setMetadata msg.jobName
            m).setInsIdCnt (p.assembler.insIdCnt + 1)) ∨
    (p.evalRegisterStatus msg.jobName = .assembling ∧
      ∃ m m', p.assembler.instances.get? msg.jobName = some m ∧ Follows m m' ∧
        (p.register msg).2 =
          (p.modifyObj m.ins fun x => (msg.addPod p.clock x).2).setMetadata msg.jobName m') := by
  cases hs : p.evalRegisterStatus msg.jobName with
  | assembled => exact Or.inl ⟨rfl, by simp only [register, hs]⟩
  | notRegistered =>
      refine Or.inr (Or.inl ⟨rfl, ?_⟩)
      have hm : ((p.createMetadata (p.newInstance msg) false).setInsIdCnt
          (p.assembler.insIdCnt + 1)).assembler.instances.get? msg.jobName =
            some { ins := p.controller.heap.length, registerTimestamp := p.clock } := Dict.get?_set_self _ _ _
      obtain ⟨m', hm', heq⟩ := registerPod_cases hm
      refine ⟨m', hm'.1, hm'.2.1, hm'.2.2, ?_⟩
      have hreg : (p.register msg).2 = (((p.createMetadata (p.newInstance msg) false).setInsIdCnt
          (p.assembler.insIdCnt + 1)).registerPod msg).2 := by
        simp only [register, hs]
        rfl
      rw [hreg, heq]
      simp only [createMetadata, setInsIdCnt, setMetadata, modifyObj, Controller.modifyObj_create, newInstance,
        Dict.set_set]
  | assembling =>
      refine Or.inr (Or.inr ⟨rfl, ?_⟩)
      obtain ⟨-, m, hm⟩ := evalRegisterStatus_assembling hs
      have hmt : (p.setMetadata msg.jobName { m with registerTimestamp := p.clock }).assembler.instances.get?
          msg.jobName = some { m with registerTimestamp := p.clock } := Dict.get?_set_self _ _ _
      obtain ⟨m', hm', heq⟩ := registerPod_cases hmt
      refine ⟨m, m', hm, hm', ?_⟩
      simp only [register, hs, hm, heq]
      exact setMetadata_setMetadata (p := p.modifyObj m.ins _) _ _ _

theorem reregister_cases (p : ControllerProcess) (msg : ReregisterMsg) :
    (p.evalRegisterStatus msg.jobName = .assembled ∧ p.reregister msg = (.ok (-1), p)) ∨
    (p.evalRegisterStatus msg.jobName = .notRegistered ∧
      p.reregister msg = (.ok 0, ({ p with
        controller := p.controller.create (msg.addPod (recoveredInstance msg)) }.setMetadata msg.jobName
          { ins := p.controller.heap.length, registerTimestamp := p.clock, isReregister := true }).setInsIdCnt
            (max p.assembler.insIdCnt (msg.instanceId + 1)))) ∨
    (p.evalRegisterStatus msg.jobName = .assembling ∧
      ∃ m, p.assembler.instances.get? msg.jobName = some m ∧
        p.reregister msg = (.ok 0, ((p.modifyObj m.ins msg.addPod).setMetadata msg.jobName
          { m with registerTimestamp := p.clock, isReregister := true }).setInsIdCnt
            (max p.assembler.insIdCnt (msg.instanceId + 1)))) := by
  cases hs : p.evalRegisterStatus msg.jobName with
  | assembled => exact Or.inl ⟨rfl, by simp only [reregister, hs]⟩
  | notRegistered =>
      refine Or.inr (Or.inl ⟨rfl, ?_⟩)
      simp only [reregister, hs, reregisterPod, createMetadata, setMetadata, Dict.get?_set_self, modifyObj]
      rw [Controller.modifyObj_create]
      rfl
  | assembling =>
      refine Or.inr (Or.inr ⟨rfl, ?_⟩)
      obtain ⟨-, m, hm⟩ := evalRegisterStatus_assembling hs
      refine ⟨m, hm, ?_⟩
      simp only [reregister, hs, hm, reregisterPod, setMetadata, Dict.get?_set_self]
      rfl

theorem assembleInstance_cases (p : ControllerProcess) (queryStatus : NodeManagerInfo → QueryStatus)
    (assembleTimeout : ℚ) (jobName : String) :
    p.assembleInstance queryStatus assembleTimeout jobName = p ∨
    ∃ m, p.assembler.instances.get? jobName = some m ∧ m.registerStatus ≠ .assembled ∧
      ∃ q, q = p.modifyObj m.ins (·.filterAbnormalEndpoints queryStatus) ∧
        (p.assembleInstance queryStatus assembleTimeout jobName = q ∨
          p.assembleInstance queryStatus assembleTimeout jobName = q.popMetadata jobName ∨
          (q.controller.obj m.ins).isEndpointsEnough = true ∧
            ((m.isReregister = true ∧ p.assembleInstance queryStatus assembleTimeout jobName =
                { q with controller := q.controller.addInstance q.clock m.ins }.popMetadata jobName) ∨
              m.isReregister = false ∧ p.assembleInstance queryStatus assembleTimeout jobName =
                { q with controller := q.controller.addInstance q.clock m.ins }.setMetadata jobName
                  { m with registerStatus := .assembled })) := by
  unfold assembleInstance
  split
  · exact Or.inl rfl
  · rename_i m hm
    split
    · exact Or.inl rfl
    · rename_i hs
      refine Or.inr ⟨m, hm, hs, _, rfl, ?_⟩
      dsimp only
      split
      · rename_i henough
        refine Or.inr (Or.inr ⟨henough, ?_⟩)
        split
        · rename_i hre
          exact Or.inl ⟨hre, rfl⟩
        · rename_i hre
          exact Or.inr ⟨Bool.not_eq_true _ ▸ hre, rfl⟩
      · split
        · exact Or.inr (Or.inl rfl)
        · exact Or.inl rfl

theorem sendStartCommand_cases (p : ControllerProcess) (reply : NodeManagerInfo → Bool) (maxRetryTimes : Nat)
    (jobName : String) :
    p.sendStartCommand reply maxRetryTimes jobName = p ∨
    p.sendStartCommand reply maxRetryTimes jobName = p.popMetadata jobName ∨
    ∃ m m', p.assembler.instances.get? jobName = some m ∧ Follows m m' ∧
      p.sendStartCommand reply maxRetryTimes jobName = p.setMetadata jobName m' := by
  unfold sendStartCommand
  split
  · exact Or.inl rfl
  · rename_i m hm
    split
    · exact Or.inl rfl
    · dsimp only
      split
      · exact Or.inr (Or.inl rfl)
      · split
        · exact Or.inr (Or.inr ⟨m, { m with startCommandSendTimes := m.startCommandSendTimes + 1 }, hm,
            ⟨rfl, rfl, rfl⟩, rfl⟩)
        · exact Or.inr (Or.inl rfl)

/-! ## Properties of the instances -/

/-- The steps that add or remove pods. -/
def Event.MovesPods : Event → Prop
  | .register _ | .reregister _ | .assemble _ _ _ => True
  | _ => False

/-- `M` holds of the managed instances, `D` of those of the assembler, and of their copies in the data. -/
structure Carries (M : ManagedInstance → Prop) (D : RegisterStatus → Bool → ManagedInstance → Prop)
    (p : ControllerProcess) : Prop where
  managed : ∀ {id r}, p.controller.instances.get? id = some r → M (p.controller.obj r)
  metadata : ∀ {jobName m}, p.assembler.instances.get? jobName = some m →
    D m.registerStatus m.isReregister (p.controller.obj m.ins)
  managerData : ∀ {state}, p.managerData = some state → ∀ {id x}, state.data.get? id = some x → M x
  assemblerData : ∀ {data}, p.assemblerData = some data → ∀ {jobName m}, data.instances.get? jobName = some m →
    D m.registerStatus m.isReregister m.ins

section Carries

variable {M M' : ManagedInstance → Prop} {D D' : RegisterStatus → Bool → ManagedInstance → Prop}

theorem carries_init : Carries M D {} where
  managed h := by cases h
  metadata h := by cases h
  managerData h := by cases h
  assemblerData h := by cases h

theorem Carries.mono (h : Carries M D p) (hM : ∀ x, M x → M' x) (hD : ∀ s b x, D s b x → D' s b x) :
    Carries M' D' p :=
  ⟨fun hr => hM _ (h.managed hr), fun hm => hD _ _ _ (h.metadata hm), fun hs _ _ hx => hM _ (h.managerData hs hx),
    fun hd _ _ hm => hD _ _ _ (h.assemblerData hd hm)⟩

theorem Carries.setInsIdCnt (h : Carries M D p) (insIdCnt : Int) : Carries M D (p.setInsIdCnt insIdCnt) :=
  ⟨h.managed, h.metadata, h.managerData, h.assemblerData⟩

theorem Carries.popMetadata (h : Carries M D p) (jobName : String) : Carries M D (p.popMetadata jobName) :=
  ⟨h.managed, fun hm => h.metadata (get?_popMetadata hm).2, h.managerData, h.assemblerData⟩

theorem Carries.setMetadata (h : Carries M D p) {jobName : String} {m : AssembleInstanceMetadata Ref}
    (hm : D m.registerStatus m.isReregister (p.controller.obj m.ins)) : Carries M D (p.setMetadata jobName m) := by
  refine ⟨h.managed, fun hm' => ?_, h.managerData, h.assemblerData⟩
  rcases get?_setMetadata hm' with ⟨-, rfl⟩ | ⟨-, hm'⟩
  · exact hm
  · exact h.metadata hm'

theorem Carries.create (h : Carries M D p) (hp : ProcessInv p) {x : ManagedInstance} {jobName : String}
    {m : AssembleInstanceMetadata Ref} (hins : m.ins = p.controller.heap.length)
    (hx : D m.registerStatus m.isReregister x) :
    Carries M D ({ p with controller := p.controller.create x }.setMetadata jobName m) := by
  have hcreated : Carries M D { p with controller := p.controller.create x } := by
    refine ⟨fun hr => ?_, fun hm => ?_, h.managerData, h.assemblerData⟩
    · dsimp only
      rw [Controller.obj_create_old (hp.managed hr).1]
      exact h.managed hr
    · dsimp only
      rw [Controller.obj_create_old (hp.metadata hm).1]
      exact h.metadata hm
  apply hcreated.setMetadata
  rw [hins]
  dsimp only
  rw [Controller.obj_create_new]
  exact hx

theorem Carries.rebuild (h : Carries M D p) (hp : ProcessInv p) {jobName : String}
    {m m' : AssembleInstanceMetadata Ref} (hm : p.assembler.instances.get? jobName = some m) (hins : m'.ins = m.ins)
    {f : ManagedInstance → ManagedInstance}
    (hM : ∀ id, p.controller.instances.get? id = some m.ins → M (f (p.controller.obj m.ins)))
    (hD : D m'.registerStatus m'.isReregister (f (p.controller.obj m.ins))) :
    Carries M D ((p.modifyObj m.ins f).setMetadata jobName m') := by
  obtain ⟨hlt, hname⟩ := hp.metadata hm
  have hself : (p.controller.modifyObj m.ins f).obj m.ins = f (p.controller.obj m.ins) :=
    Controller.obj_modifyObj_self hlt f
  refine ⟨fun {id r} hr => ?_, fun {name m''} hm'' => ?_, h.managerData, h.assemblerData⟩
  · show M ((p.controller.modifyObj m.ins f).obj r)
    by_cases he : r = m.ins
    · rw [he, hself]
      exact hM id (he ▸ hr)
    · rw [Controller.obj_modifyObj_ne he]
      exact h.managed hr
  · show D _ _ ((p.controller.modifyObj m.ins f).obj m''.ins)
    rcases get?_setMetadata hm'' with ⟨-, rfl⟩ | ⟨hne, hm''⟩
    · rw [hins, hself]
      exact hD
    · rw [Controller.obj_modifyObj_ne]
      · exact h.metadata hm''
      · -- The two jobs have their own objects.
        intro he
        have hname' := (hp.metadata hm'').2
        rw [he, hname] at hname'
        exact hne hname'.symm

theorem Carries.register (h : Carries M D p) (hp : ProcessInv p) {msg : RegisterMsg}
    (hnew : p.evalRegisterStatus msg.jobName = .notRegistered →
      D .notRegistered false (msg.addPod p.clock (p.newInstance msg)).2)
    (hpod : ∀ m, p.evalRegisterStatus msg.jobName = .assembling → p.assembler.instances.get? msg.jobName = some m →
      (D m.registerStatus m.isReregister (p.controller.obj m.ins) →
        D m.registerStatus m.isReregister (msg.addPod p.clock (p.controller.obj m.ins)).2) ∧
      (m.registerStatus = .assembled → M (p.controller.obj m.ins) →
        M (msg.addPod p.clock (p.controller.obj m.ins)).2)) :
    Carries M D (p.register msg).2 := by
  rcases p.register_cases msg with ⟨-, heq⟩ | ⟨hs, m, hins, hstatus, hre, heq⟩ | ⟨hs, m, m', hm, hfollows, heq⟩
  · rwa [heq]
  · rw [heq]
    refine (h.create hp hins ?_).setInsIdCnt _
    rw [hstatus, hre]
    exact hnew hs
  · rw [heq]
    refine h.rebuild hp hm hfollows.1 (fun id hid => (hpod m hs hm).2 ?_ (h.managed hid)) ?_
    · by_contra hstatus
      exact (hp.unassembled hm hstatus).2 id hid
    · rw [hfollows.2.1, hfollows.2.2]
      exact (hpod m hs hm).1 (h.metadata hm)

theorem Carries.reregister (h : Carries M D p) (hp : ProcessInv p) {msg : ReregisterMsg}
    (hnew : p.evalRegisterStatus msg.jobName = .notRegistered →
      D .notRegistered true (msg.addPod (recoveredInstance msg)))
    (hpod : ∀ m, p.evalRegisterStatus msg.jobName = .assembling → p.assembler.instances.get? msg.jobName = some m →
      (D m.registerStatus m.isReregister (p.controller.obj m.ins) →
        D m.registerStatus true (msg.addPod (p.controller.obj m.ins))) ∧
      (m.registerStatus = .assembled → M (p.controller.obj m.ins) → M (msg.addPod (p.controller.obj m.ins)))) :
    Carries M D (p.reregister msg).2 := by
  rcases p.reregister_cases msg with ⟨-, heq⟩ | ⟨hs, heq⟩ | ⟨hs, m, hm, heq⟩
  · rwa [heq]
  · rw [heq]
    exact (h.create hp rfl (hnew hs)).setInsIdCnt _
  · rw [heq]
    apply Carries.setInsIdCnt
    apply h.rebuild hp hm
    · rfl
    · intro id hid
      refine (hpod m hs hm).2 ?_ (h.managed hid)
      by_contra hstatus
      exact (hp.unassembled hm hstatus).2 id hid
    · exact (hpod m hs hm).1 (h.metadata hm)

/-- The property does not look at statuses and heartbeats. -/
def FormOnly (M : ManagedInstance → Prop) : Prop := ∀ x y, SameForm x y → M y → M x

variable (hM : FormOnly M) (hD : ∀ s b, FormOnly (D s b))
include hM hD

theorem Carries.managerStep (h : Carries M D p) {c : Controller} (hc : Controller.ManagerStep p.controller c) :
    Carries M D { p with controller := c } :=
  ⟨fun hr => hM _ _ (hc.form _) (h.managed (hc.managed hr)), fun hm => hD _ _ _ _ (hc.form _) (h.metadata hm),
    h.managerData, h.assemblerData⟩

theorem Carries.addInstance (h : Carries M D p) {r : Ref} (hr : M (p.controller.obj r)) :
    Carries M D { p with controller := p.controller.addInstance p.clock r } := by
  have hform := fun r' => p.controller.form_addInstance p.clock r r'
  refine ⟨fun hr' => hM _ _ (hform _) ?_, fun hm => hD _ _ _ _ (hform _) (h.metadata hm), h.managerData, h.assemblerData⟩
  rcases Controller.get?_addInstance hr' with hr' | ⟨-, rfl⟩
  · exact h.managed hr'
  · exact hr

omit hD in
theorem Carries.restoreManager (h : Carries M D p) (hp : ProcessInv p) : Carries M D p.restoreManager := by
  cases hstate : p.managerData with
  | none =>
      rw [restoreManager_none hstate]
      exact h
  | some state =>
      have hc := restored_restoreManager hstate
      obtain ⟨hassembler, hmanagerData, hassemblerData⟩ := p.assembler_restoreManager
      refine ⟨fun hr => ?_, fun hm => ?_, hmanagerData ▸ h.managerData, hassemblerData ▸ h.assemblerData⟩
      · obtain ⟨-, -, x, hx, -, hobj⟩ := hc.entry hr
        obtain ⟨id, hid⟩ := Dict.mem_values_iff.mp hx
        rw [hobj]
        exact hM _ _ (Controller.sameForm_maybeRefreshHeartbeat p.clock x) (h.managerData hstate hid)
      · rw [hassembler] at hm
        rw [hc.old (hp.metadata hm).1]
        exact h.metadata hm

theorem Carries.assemble (h : Carries M D p) (hp : ProcessInv p) {queryStatus : NodeManagerInfo → QueryStatus}
    (hfilter : ∀ s b x, D s b x → D s b (x.filterAbnormalEndpoints queryStatus))
    (henough : ∀ s b x, D s b x → x.isEndpointsEnough = true → M x ∧ (b = false → D .assembled false x))
    (assembleTimeout : ℚ) (jobName : String) :
    Carries M D (p.assembleInstance queryStatus assembleTimeout jobName) := by
  rcases p.assembleInstance_cases queryStatus assembleTimeout jobName with heq | ⟨m, hm, hs, q, hq, hcases⟩
  · rwa [heq]
  · have hfiltered : Carries M D q := by
      have hrebuilt := h.rebuild hp hm rfl (f := (·.filterAbnormalEndpoints queryStatus))
        (fun id hid => absurd hid ((hp.unassembled hm hs).2 id)) (hfilter _ _ _ (h.metadata hm))
      rwa [setMetadata_self (p := p.modifyObj m.ins _) hm, ← hq] at hrebuilt
    have hmq : q.assembler.instances.get? jobName = some m := by rwa [hq]
    have hx := hfiltered.metadata hmq
    rcases hcases with heq | heq | ⟨hfull, ⟨-, heq⟩ | ⟨hre, heq⟩⟩
    · rwa [heq]
    · rw [heq]
      exact hfiltered.popMetadata jobName
    · rw [heq]
      exact (hfiltered.addInstance hM hD (henough _ _ _ hx hfull).1).popMetadata jobName
    · rw [heq]
      obtain ⟨hmanaged, hassembled⟩ := henough _ _ _ hx hfull
      apply (hfiltered.addInstance hM hD hmanaged).setMetadata
      dsimp only
      rw [hre]
      exact hD _ _ _ _ (q.controller.form_addInstance q.clock m.ins m.ins) (hassembled hre)

theorem Carries.step_other (h : Carries M D p) (hp : ProcessInv p) {event : Event} (hevent : ¬ event.MovesPods) :
    Carries M D (p.step event) := by
  cases event with
  | register msg => exact absurd trivial hevent
  | reregister msg => exact absurd trivial hevent
  | assemble queryStatus assembleTimeout jobName => exact absurd trivial hevent
  | startCommand reply maxRetryTimes jobName =>
      rcases p.sendStartCommand_cases reply maxRetryTimes jobName with heq | heq | ⟨m, m', hm, hfollows, heq⟩
      · simpa only [step, heq] using h
      · simpa only [step, heq] using h.popMetadata jobName
      · simp only [step, heq]
        apply h.setMetadata
        rw [hfollows.1, hfollows.2.1, hfollows.2.2]
        exact h.metadata hm
  | heartbeat insId ip status => exact h.managerStep hM hD (Controller.managerStep_handleHeartbeat _ insId ip status)
  | timeout queryStatus insId => exact h.managerStep hM hD (Controller.managerStep_handleTimeout _ queryStatus insId)
  | separate instanceId => exact h.managerStep hM hD (Controller.managerStep_separateInstance instanceId)
  | recover instanceId => exact h.managerStep hM hD (Controller.managerStep_recoverInstance instanceId)
  | delete insId => exact h.managerStep hM hD (Controller.managerStep_delInstance insId)
  | persistManager =>
      refine ⟨h.managed, h.metadata, fun hstate id x hx => ?_, h.assemblerData⟩
      obtain rfl := Option.some.inj hstate
      rw [Dict.get?_mapValues] at hx
      obtain ⟨r, hr, rfl⟩ := Option.map_eq_some_iff.mp hx
      exact h.managed hr
  | restoreManager => exact h.restoreManager hM hp
  | persistAssembler =>
      refine ⟨h.managed, h.metadata, h.managerData, fun hdata jobName m hm => ?_⟩
      obtain rfl := Option.some.inj hdata
      rw [Dict.get?_mapValues] at hm
      obtain ⟨m₀, hm₀, rfl⟩ := Option.map_eq_some_iff.mp hm
      exact h.metadata hm₀
  | restoreAssembler =>
      have hrule : ProcessInv p.restoreAssembler ∧ Carries M D p.restoreAssembler := by
        apply restoreAssembler_rule (P := fun q => ProcessInv q ∧ Carries M D q) ⟨hp, h⟩
        · refine fun data _ => ⟨hp.clearAssembler _, h.managed, fun hm => ?_, h.managerData, h.assemblerData⟩
          cases hm
        · rintro q data e hdata he ⟨hq, hcarries⟩
          have hget := Dict.get?_eq_some_iff.mpr he
          refine ⟨hq.restoreMetadata (hp.assemblerData hdata hget), hcarries.create hq rfl ?_⟩
          exact h.assemblerData hdata hget
      exact hrule.2
  | restart =>
      refine ⟨fun hr => ?_, fun hm => ?_, h.managerData, h.assemblerData⟩
      · cases hr
      · cases hm
  | tick timestamp => exact ⟨h.managed, h.metadata, h.managerData, h.assemblerData⟩

end Carries

end ControllerProcess

end PyMotor
