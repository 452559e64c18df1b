import PyMotor.Controller.Assembler
import PyMotor.Controller.Lemmas.Transitions
import PyMotor.Controller.Lemmas.Tracked

/-!
# The assembler and the manager share objects

What each step of the assembler is made of, and the invariant of the process: metadata and manager entries lead to
objects of their job name and id, and an instance that is not assembled yet is not managed and still INITIAL.
-/

namespace PyMotor

open Lib

/-! ## Changes that only rebuild pods -/

namespace ManagedInstance

/-- The change rewrites the pods and the node managers of an instance, and nothing else. -/
def Rebuilds (f : ManagedInstance → ManagedInstance) : Prop :=
  ∀ x, ∃ endpoints nodeManagers, f x = { x with endpoints := endpoints, nodeManagers := nodeManagers }

theorem addNodeMgr_eq (x : ManagedInstance) (podIp port : String) (deviceNum : Int) :
    ∃ nodeManagers, x.addNodeMgr podIp port deviceNum = { x with nodeManagers := nodeManagers } := by
  unfold addNodeMgr
  split
  · exact ⟨x.nodeManagers, rfl⟩
  · exact ⟨_, rfl⟩

theorem rebuilds_filterAbnormalEndpoints (queryStatus : NodeManagerInfo → QueryStatus) :
    Rebuilds (·.filterAbnormalEndpoints queryStatus) := by
  intro x
  dsimp only [filterAbnormalEndpoints]
  generalize x.nodeManagers = nms
  induction nms generalizing x with
  | nil => exact ⟨x.endpoints, x.nodeManagers, rfl⟩
  | cons nm nms ih =>
      obtain ⟨endpoints, nodeManagers, h⟩ := ih (filterNodeManager queryStatus x nm)
      refine ⟨endpoints, nodeManagers, ?_⟩
      rw [List.foldl_cons, h]
      unfold filterNodeManager
      split <;> rfl

end ManagedInstance

open ManagedInstance

theorem RegisterMsg.rebuilds_addPod (msg : RegisterMsg) (timestamp : ℚ) :
    Rebuilds fun x => (msg.addPod timestamp x).2 := by
  intro x
  obtain ⟨nodeManagers, h⟩ := x.addNodeMgr_eq msg.podIp msg.nmPort msg.deviceNum
  unfold RegisterMsg.addPod
  dsimp only
  split
  · exact ⟨x.endpoints, x.nodeManagers, rfl⟩
  · rw [h]
    split
    · exact ⟨x.endpoints, nodeManagers, rfl⟩
    · exact ⟨_, nodeManagers, rfl⟩

theorem ReregisterMsg.rebuilds_addPod (msg : ReregisterMsg) : Rebuilds msg.addPod := by
  intro x
  obtain ⟨nodeManagers, h⟩ := x.addNodeMgr_eq msg.podIp msg.nmPort msg.deviceNum
  unfold ReregisterMsg.addPod
  rw [h]
  exact ⟨_, nodeManagers, rfl⟩

namespace ControllerProcess

variable {p : ControllerProcess} {P : ControllerProcess → Prop}

/-! ## What the steps of the assembler are made of -/

/-- New metadata for the same object and in the same state of assembly. -/
def Touches (m m' : AssembleInstanceMetadata Ref) : Prop := m'.ins = m.ins ∧ m'.registerStatus = m.registerStatus

theorem evalRegisterStatus_assembling {jobName : String} (h : p.evalRegisterStatus jobName = .assembling) :
    p.controller.hasActiveInstanceByJobName jobName = false ∧ ∃ m, p.assembler.instances.get? jobName = some m := by
  unfold evalRegisterStatus at h
  split at h
  · cases h
  · rename_i hactive
    split at h
    · rename_i hc
      exact ⟨Bool.not_eq_true _ ▸ hactive, Dict.contains_iff.mp hc⟩
    · cases h

theorem evalRegisterStatus_notRegistered {jobName : String} (h : p.evalRegisterStatus jobName = .notRegistered) :
    p.controller.hasActiveInstanceByJobName jobName = false ∧ p.assembler.instances.get? jobName = none := by
  unfold evalRegisterStatus at h
  split at h
  · cases h
  · rename_i hactive
    split at h
    · cases h
    · rename_i hc
      exact ⟨Bool.not_eq_true _ ▸ hactive, Dict.contains_eq_false_iff.mp (Bool.not_eq_true _ ▸ hc)⟩

def newInstance (p : ControllerProcess) (msg : RegisterMsg) : ManagedInstance :=
  { jobName := msg.jobName, modelName := msg.modelName, id := p.assembler.insIdCnt, role := msg.role,
    parallelConfig := some msg.parallelConfig, enableMultiEndpoints := msg.enableMultiEndpoints }

def recoveredInstance (msg : ReregisterMsg) : ManagedInstance :=
  { jobName := msg.jobName, modelName := msg.modelName, id := msg.instanceId, role := msg.role,
    parallelConfig := some msg.parallelConfig, enableMultiEndpoints := msg.enableMultiEndpoints }

def setInsIdCnt (p : ControllerProcess) (insIdCnt : Int) : ControllerProcess :=
  { p with assembler := { p.assembler with insIdCnt := insIdCnt } }

theorem registerPod_rule {msg : RegisterMsg} (hp : P p)
    (htouch : ∀ q m m', P q → q.assembler.instances.get? msg.jobName = some m → Touches m m' →
      P (q.setMetadata msg.jobName m'))
    (hpod : ∀ m, p.assembler.instances.get? msg.jobName = some m →
      P (p.modifyObj m.ins fun x => (msg.addPod p.clock x).2)) : P (p.registerPod msg).2 := by
  unfold registerPod
  split
  · exact hp
  · rename_i m hm
    dsimp only
    split
    · exact hpod m hm
    · split
      · exact hpod m hm
      · exact htouch _ m _ (hpod m hm) hm ⟨rfl, rfl⟩

theorem register_rule {msg : RegisterMsg} (hidle : P p)
    (hnew : p.evalRegisterStatus msg.jobName = .notRegistered →
      P ((p.createMetadata (p.newInstance msg) false).setInsIdCnt (p.assembler.insIdCnt + 1)))
    (htouch : ∀ q m m', P q → q.assembler.instances.get? msg.jobName = some m → Touches m m' →
      P (q.setMetadata msg.jobName m'))
    (hpod : ∀ q m, p.evalRegisterStatus msg.jobName ≠ .assembled → P q → q.clock = p.clock →
      q.assembler.instances.get? msg.jobName = some m →
      P (q.modifyObj m.ins fun x => (msg.addPod p.clock x).2)) : P (p.register msg).2 := by
  unfold register
  split
  · exact hidle
  · rename_i hs
    have hne : p.evalRegisterStatus msg.jobName ≠ .assembled := by
      rw [hs]
      exact RegisterStatus.noConfusion
    exact registerPod_rule (hnew hs) htouch fun m hm => hpod _ m hne (hnew hs) rfl hm
  · rename_i hs
    have hne : p.evalRegisterStatus msg.jobName ≠ .assembled := by
      rw [hs]
      exact RegisterStatus.noConfusion
    split
    · exact hidle
    · rename_i m hm
      have hq := htouch p m { m with registerTimestamp := p.clock } hidle hm ⟨rfl, rfl⟩
      exact registerPod_rule hq htouch fun m' hm' => hpod _ m' hne hq rfl hm'

theorem reregister_rule {msg : ReregisterMsg} (hidle : P p)
    (hnew : p.evalRegisterStatus msg.jobName = .notRegistered →
      P (p.createMetadata (recoveredInstance msg) true))
    (htouch : ∀ q m m', P q → q.assembler.instances.get? msg.jobName = some m → Touches m m' →
      P (q.setMetadata msg.jobName m'))
    (hcnt : ∀ q, P q → P (q.setInsIdCnt (max q.assembler.insIdCnt (msg.instanceId + 1))))
    (hpod : ∀ q m, p.evalRegisterStatus msg.jobName ≠ .assembled → P q →
      q.assembler.instances.get? msg.jobName = some m → P (q.modifyObj m.ins msg.addPod)) :
    P (p.reregister msg).2 := by
  have hrest : ∀ q, p.evalRegisterStatus msg.jobName ≠ .assembled → P q → P (q.reregisterPod msg).2 := by
    intro q hne hq
    unfold reregisterPod
    split
    · exact hq
    · rename_i m hm
      exact hpod _ m hne (hcnt q hq) hm
  unfold reregister
  split
  · exact hidle
  · rename_i hs
    exact hrest _ (by rw [hs]; exact RegisterStatus.noConfusion) (hnew hs)
  · rename_i hs
    split
    · exact hidle
    · rename_i m hm
      refine hrest _ (by rw [hs]; exact RegisterStatus.noConfusion) ?_
      exact htouch p m _ hidle hm ⟨rfl, rfl⟩

theorem assembleInstance_rule {queryStatus : NodeManagerInfo → QueryStatus} {assembleTimeout : ℚ} {jobName : String}
    (hidle : P p)
    (hfilter : ∀ m, p.assembler.instances.get? jobName = some m → m.registerStatus ≠ .assembled →
      P (p.modifyObj m.ins (·.filterAbnormalEndpoints queryStatus)))
    (hpop : ∀ q, P q → P (q.popMetadata jobName))
    (hadd : ∀ q m m', P q → q = p.modifyObj m.ins (·.filterAbnormalEndpoints queryStatus) →
      q.assembler.instances.get? jobName = some m → m.registerStatus ≠ .assembled →
      (q.controller.obj m.ins).isEndpointsEnough → m'.ins = m.ins → m'.registerStatus = .assembled →
      P (({ q with controller := q.controller.addInstance q.clock m.ins }.setMetadata jobName m')))
    (hlast : ∀ q m, P q → q = p.modifyObj m.ins (·.filterAbnormalEndpoints queryStatus) →
      q.assembler.instances.get? jobName = some m → m.registerStatus ≠ .assembled →
      (q.controller.obj m.ins).isEndpointsEnough →
      P ({ q with controller := q.controller.addInstance q.clock m.ins }.popMetadata jobName)) :
    P (p.assembleInstance queryStatus assembleTimeout jobName) := by
  unfold assembleInstance
  split
  · exact hidle
  · rename_i m hm
    split
    · exact hidle
    · rename_i hs
      have hq := hfilter m hm hs
      dsimp only
      split
      · rename_i henough
        split
        · exact hlast _ m hq rfl hm hs henough
        · exact hadd _ m _ hq rfl hm hs henough rfl rfl
      · split
        · exact hpop _ hq
        · exact hq

theorem sendStartCommand_rule {reply : NodeManagerInfo → Bool} {maxRetryTimes : Nat} {jobName : String} (hidle : P p)
    (htouch : ∀ m m', p.assembler.instances.get? jobName = some m → Touches m m' → P (p.setMetadata jobName m'))
    (hpop : P (p.popMetadata jobName)) : P (p.sendStartCommand reply maxRetryTimes jobName) := by
  unfold sendStartCommand
  split
  · exact hidle
  · rename_i m hm
    split
    · exact hidle
    · dsimp only
      split
      · exact hpop
      · split
        · exact htouch m _ hm ⟨rfl, rfl⟩
        · exact hpop

/-! ## The metadata and the objects -/

theorem rebuilds_obj {f : ManagedInstance → ManagedInstance} (hf : Rebuilds f) (c : Controller) (r r' : Ref) :
    ((c.modifyObj r f).obj r').jobName = (c.obj r').jobName ∧
    ((c.modifyObj r f).obj r').status = (c.obj r').status ∧ ((c.modifyObj r f).obj r').id = (c.obj r').id := by
  refine ⟨?_, ?_, ?_⟩
  · refine Heap.read_modify_congr (g := fun x : ManagedInstance => x.jobName) (fun x => ?_) r r'
    obtain ⟨endpoints, nodeManagers, hx⟩ := hf x
    rw [hx]
  · refine Heap.read_modify_congr (g := fun x : ManagedInstance => x.status) (fun x => ?_) r r'
    obtain ⟨endpoints, nodeManagers, hx⟩ := hf x
    rw [hx]
  · refine Heap.read_modify_congr (g := fun x : ManagedInstance => x.id) (fun x => ?_) r r'
    obtain ⟨endpoints, nodeManagers, hx⟩ := hf x
    rw [hx]


theorem get?_popMetadata {jobName name : String} {m : AssembleInstanceMetadata Ref}
    (h : (p.popMetadata jobName).assembler.instances.get? name = some m) :
    name ≠ jobName ∧ p.assembler.instances.get? name = some m := by
  replace h : (p.assembler.instances.erase jobName).get? name = some m := h
  rw [Dict.get?_erase] at h
  split at h
  · cases h
  · rename_i hne
    exact ⟨hne, h⟩

theorem get?_setMetadata {jobName name : String} {m m' : AssembleInstanceMetadata Ref}
    (h : (p.setMetadata jobName m').assembler.instances.get? name = some m) :
    name = jobName ∧ m = m' ∨ name ≠ jobName ∧ p.assembler.instances.get? name = some m := by
  replace h : (p.assembler.instances.set jobName m').get? name = some m := h
  rw [Dict.get?_set] at h
  split at h
  · rename_i hn
    exact Or.inl ⟨hn, (Option.some.inj h).symm⟩
  · rename_i hn
    exact Or.inr ⟨hn, h⟩

/-! ## The invariant -/

structure ProcessInv (p : ControllerProcess) : Prop where
  managed : ∀ {id r}, p.controller.instances.get? id = some r →
    r < p.controller.heap.length ∧ (p.controller.obj r).id = id
  metadata : ∀ {jobName m}, p.assembler.instances.get? jobName = some m →
    m.ins < p.controller.heap.length ∧ (p.controller.obj m.ins).jobName = jobName
  /-- An instance that is not assembled is the assembler's alone. -/
  unassembled : ∀ {jobName m}, p.assembler.instances.get? jobName = some m → m.registerStatus ≠ .assembled →
    (p.controller.obj m.ins).status = .initial ∧ ∀ id, p.controller.instances.get? id ≠ some m.ins
  managerData : ∀ {state}, p.managerData = some state → ∀ {id x}, state.data.get? id = some x → x.id = id
  assemblerData : ∀ {data}, p.assemblerData = some data → ∀ {jobName m}, data.instances.get? jobName = some m →
    m.ins.jobName = jobName ∧ (m.registerStatus ≠ .assembled → m.ins.status = .initial)

theorem processInv_init : ProcessInv {} where
  managed h := by cases h
  metadata h := by cases h
  unassembled h := by cases h
  managerData h := by cases h
  assemblerData h := by cases h

theorem ProcessInv.managerStep (h : ProcessInv p) {c : Controller} (hc : Controller.ManagerStep p.controller c) :
    ProcessInv { p with controller := c } where
  managed hr := by
    obtain ⟨hlt, hid⟩ := h.managed (hc.managed hr)
    dsimp only
    rw [hc.length, (hc.form _).id]
    exact ⟨hlt, hid⟩
  metadata hm := by
    obtain ⟨hlt, hname⟩ := h.metadata hm
    dsimp only
    rw [hc.length, (hc.form _).jobName]
    exact ⟨hlt, hname⟩
  unassembled hm hs := by
    obtain ⟨hstatus, hnone⟩ := h.unassembled hm hs
    dsimp only
    rw [hc.other _ hnone]
    exact ⟨hstatus, fun id hid => hnone id (hc.managed hid)⟩
  managerData := h.managerData
  assemblerData := h.assemblerData

theorem ProcessInv.modifyObj (h : ProcessInv p) {f : ManagedInstance → ManagedInstance} (hf : Rebuilds f) (r : Ref) :
    ProcessInv (p.modifyObj r f) := by
  have hobj := rebuilds_obj hf p.controller r
  have hlen : (p.controller.modifyObj r f).heap.length = p.controller.heap.length := Controller.length_modifyObj f
  refine ⟨fun hr => ?_, fun hm => ?_, fun hm hs => ?_, h.managerData, h.assemblerData⟩
  · dsimp only [ControllerProcess.modifyObj]
    rw [hlen, (hobj _).2.2]
    exact h.managed hr
  · dsimp only [ControllerProcess.modifyObj]
    rw [hlen, (hobj _).1]
    exact h.metadata hm
  · dsimp only [ControllerProcess.modifyObj]
    rw [(hobj _).2.1]
    exact h.unassembled hm hs

theorem ProcessInv.setMetadata (h : ProcessInv p) {jobName : String} {m m' : AssembleInstanceMetadata Ref}
    (hm : p.assembler.instances.get? jobName = some m) (ht : Touches m m') : ProcessInv (p.setMetadata jobName m') := by
  -- The metadata of every job have the object and the state of assembly that they had.
  have hcases : ∀ {name m''}, (p.setMetadata jobName m').assembler.instances.get? name = some m'' →
      ∃ m₀, p.assembler.instances.get? name = some m₀ ∧ Touches m₀ m'' := by
    intro name m'' hm''
    rcases get?_setMetadata hm'' with ⟨rfl, rfl⟩ | ⟨-, hm''⟩
    · exact ⟨m, hm, ht⟩
    · exact ⟨m'', hm'', rfl, rfl⟩
  refine ⟨h.managed, fun hm => ?_, fun hm hs => ?_, h.managerData, h.assemblerData⟩
  · obtain ⟨m₀, hm₀, hins, -⟩ := hcases hm
    rw [hins]
    exact h.metadata hm₀
  · obtain ⟨m₀, hm₀, hins, hstatus⟩ := hcases hm
    rw [hins]
    exact h.unassembled hm₀ (hstatus ▸ hs)

theorem ProcessInv.popMetadata (h : ProcessInv p) (jobName : String) : ProcessInv (p.popMetadata jobName) :=
  ⟨h.managed, fun hm => h.metadata (get?_popMetadata hm).2, fun hm hs => h.unassembled (get?_popMetadata hm).2 hs,
    h.managerData, h.assemblerData⟩

theorem ProcessInv.create (h : ProcessInv p) {x : ManagedInstance} {m : AssembleInstanceMetadata Ref}
    (hins : m.ins = p.controller.heap.length) (hx : m.registerStatus ≠ .assembled → x.status = .initial) :
    ProcessInv ({ p with controller := p.controller.create x }.setMetadata x.jobName m) := by
  have hold : ∀ {r}, r < p.controller.heap.length → (p.controller.create x).obj r = p.controller.obj r :=
    fun hr => Controller.obj_create_old hr x
  have hnew : (p.controller.create x).obj m.ins = x := hins ▸ Controller.obj_create_new p.controller x
  refine ⟨fun hr => ?_, fun hm => ?_, fun hm hs => ?_, h.managerData, h.assemblerData⟩
  · obtain ⟨hlt, hid⟩ := h.managed hr
    dsimp only [ControllerProcess.setMetadata]
    rw [Controller.length_create, hold hlt]
    exact ⟨Nat.lt_succ_of_lt hlt, hid⟩
  · dsimp only [ControllerProcess.setMetadata]
    rw [Controller.length_create]
    rcases get?_setMetadata hm with ⟨rfl, rfl⟩ | ⟨-, hm⟩
    · rw [hnew, hins]
      exact ⟨Nat.lt_succ_self _, rfl⟩
    · obtain ⟨hlt, hname⟩ := h.metadata hm
      rw [hold hlt]
      exact ⟨Nat.lt_succ_of_lt hlt, hname⟩
  · dsimp only [ControllerProcess.setMetadata]
    rcases get?_setMetadata hm with ⟨rfl, rfl⟩ | ⟨-, hm⟩
    · rw [hnew]
      refine ⟨hx hs, fun id hid => ?_⟩
      have hlt := (h.managed hid).1
      rw [hins] at hlt
      exact absurd hlt (Nat.lt_irrefl _)
    · rw [hold (h.metadata hm).1]
      exact h.unassembled hm hs

theorem ProcessInv.setInsIdCnt (h : ProcessInv p) (insIdCnt : Int) : ProcessInv (p.setInsIdCnt insIdCnt) :=
  ⟨h.managed, h.metadata, h.unassembled, h.managerData, h.assemblerData⟩

theorem ProcessInv.handOver (h : ProcessInv p) {q : ControllerProcess} {jobName : String}
    {m : AssembleInstanceMetadata Ref} (hm : p.assembler.instances.get? jobName = some m)
    (hc : q.controller = p.controller.addInstance p.clock m.ins) (hdata : q.managerData = p.managerData)
    (hdata' : q.assemblerData = p.assemblerData)
    (hq : ∀ {name m'}, q.assembler.instances.get? name = some m' →
      name = jobName ∧ m'.ins = m.ins ∧ m'.registerStatus = .assembled ∨
      name ≠ jobName ∧ p.assembler.instances.get? name = some m') : ProcessInv q := by
  obtain ⟨hlt, hname⟩ := h.metadata hm
  have hform := fun r => p.controller.form_addInstance p.clock m.ins r
  refine ⟨fun hr => ?_, fun hm' => ?_, fun hm' hs => ?_, hdata ▸ h.managerData, hdata' ▸ h.assemblerData⟩
  · rw [hc] at hr ⊢
    rw [Controller.length_addInstance, (hform _).id]
    rcases Controller.get?_addInstance hr with hr | ⟨rfl, rfl⟩
    · exact h.managed hr
    · exact ⟨hlt, rfl⟩
  · rw [hc, Controller.length_addInstance, (hform _).jobName]
    rcases hq hm' with ⟨rfl, hins, -⟩ | ⟨-, hm'⟩
    · rw [hins]
      exact ⟨hlt, hname⟩
    · exact h.metadata hm'
  · rcases hq hm' with ⟨-, -, hs'⟩ | ⟨hne, hm'⟩
    · exact absurd hs' hs
    · obtain ⟨hstatus, hnone⟩ := h.unassembled hm' hs
      rw [hc, Controller.status_addInstance]
      refine ⟨hstatus, fun id hid => ?_⟩
      rcases Controller.get?_addInstance hid with hid | ⟨-, hins⟩
      · exact hnone id hid
      · -- The two jobs have their own objects.
        have hname' := (h.metadata hm').2
        rw [hins, hname] at hname'
        exact hne hname'.symm

/-! ## Persistence -/

theorem ProcessInv.persistManager (h : ProcessInv p) : ProcessInv p.persistManager := by
  refine ⟨h.managed, h.metadata, h.unassembled, ?_, h.assemblerData⟩
  intro state hstate id x hx
  obtain rfl := Option.some.inj hstate
  rw [Dict.get?_mapValues] at hx
  obtain ⟨r, hr, rfl⟩ := Option.map_eq_some_iff.mp hx
  exact (h.managed hr).2

/-- What `restore_data` of the manager leaves: new objects for the instances of the data, next to the old objects. -/
structure Restored (p : ControllerProcess) (state : ManagerData) (c : Controller) : Prop where
  entry : ∀ {id r}, c.instances.get? id = some r → p.controller.heap.length ≤ r ∧ r < c.heap.length ∧
    ∃ x ∈ state.data.values, x.id = id ∧ c.obj r = Controller.maybeRefreshHeartbeat p.clock x
  old : ∀ {r}, r < p.controller.heap.length → c.obj r = p.controller.obj r
  length : p.controller.heap.length ≤ c.heap.length

theorem restored_restoreManager {state : ManagerData} (hstate : p.managerData = some state) :
    Restored p state p.restoreManager.controller := by
  have hc : p.restoreManager.controller = { p.controller with
      dataVersion := max p.controller.dataVersion state.version }.restoreInstances p.clock state.data.values := by
    unfold restoreManager
    rw [hstate]
  rw [hc]
  refine ⟨fun {id r} hr => ?_, fun {r} hr => ?_, by simp [Controller.restoreInstances]⟩
  · rcases Controller.get?_foldl_restoreInstance hr with hr | ⟨x, hx, hid, hle, hlt, hobj⟩
    · cases hr
    · exact ⟨hle, hlt, x, hx, hid, hobj⟩
  · have hold : ∀ c : Controller, r < c.heap.length →
        (state.data.values.foldl (Controller.restoreInstance p.clock) c).obj r = c.obj r :=
      fun c hlt => Controller.obj_foldl_restoreInstance_old hlt _ _
    exact hold { p.controller with
      dataVersion := max p.controller.dataVersion state.version, instances := Dict.empty } hr

theorem restoreManager_none (h : p.managerData = none) : p.restoreManager = p := by
  unfold restoreManager
  rw [h]

theorem assembler_restoreManager (p : ControllerProcess) : p.restoreManager.assembler = p.assembler ∧
    p.restoreManager.managerData = p.managerData ∧ p.restoreManager.assemblerData = p.assemblerData := by
  unfold restoreManager
  split <;> exact ⟨rfl, rfl, rfl⟩

theorem ProcessInv.restoreManager (h : ProcessInv p) : ProcessInv p.restoreManager := by
  cases hstate : p.managerData with
  | none =>
      rw [restoreManager_none hstate]
      exact h
  | some state =>
      have hc := restored_restoreManager hstate
      obtain ⟨hassembler, hmanagerData, hassemblerData⟩ := p.assembler_restoreManager
      refine ⟨fun hr => ?_, fun hm => ?_, fun hm hs => ?_, hmanagerData ▸ h.managerData,
        hassemblerData ▸ h.assemblerData⟩
      · obtain ⟨-, hlt, x, -, hid, hobj⟩ := hc.entry hr
        rw [hobj, (Controller.keeps_maybeRefreshHeartbeat p.clock).id x]
        exact ⟨hlt, hid⟩
      · rw [hassembler] at hm
        obtain ⟨hlt, hname⟩ := h.metadata hm
        rw [hc.old hlt]
        exact ⟨hlt.trans_le hc.length, hname⟩
      · rw [hassembler] at hm
        obtain ⟨hlt, -⟩ := h.metadata hm
        rw [hc.old hlt]
        exact ⟨(h.unassembled hm hs).1, fun id hid => Nat.not_lt.mpr (hc.entry hid).1 hlt⟩

theorem ProcessInv.persistAssembler (h : ProcessInv p) : ProcessInv p.persistAssembler := by
  refine ⟨h.managed, h.metadata, h.unassembled, h.managerData, ?_⟩
  intro data hdata jobName m hm
  obtain rfl := Option.some.inj hdata
  rw [Dict.get?_mapValues] at hm
  obtain ⟨m₀, hm₀, rfl⟩ := Option.map_eq_some_iff.mp hm
  exact ⟨(h.metadata hm₀).2, fun hs => (h.unassembled hm₀ hs).1⟩

theorem restoreAssembler_rule (hidle : P p)
    (hclear : ∀ data, p.assemblerData = some data → P { p with assembler := { insIdCnt := data.insIdCnt } })
    (hstep : ∀ q data e, p.assemblerData = some data → e ∈ data.instances.entries → P q → P (q.restoreMetadata e)) :
    P p.restoreAssembler := by
  unfold restoreAssembler
  split
  · exact hidle
  · rename_i data hdata
    have hloop : ∀ (l : List (String × AssembleInstanceMetadata ManagedInstance)) (q : ControllerProcess),
        (∀ e ∈ l, e ∈ data.instances.entries) → P q → P (l.foldl restoreMetadata q) := by
      intro l
      induction l with
      | nil => exact fun q _ hq => hq
      | cons e l ih =>
          intro q hl hq
          refine ih _ (fun e' he' => hl e' (List.mem_cons_of_mem _ he')) ?_
          exact hstep q data e hdata (hl e (List.mem_cons_self ..)) hq
    exact hloop _ _ (fun e he => he) (hclear data hdata)

theorem ProcessInv.clearAssembler (h : ProcessInv p) (insIdCnt : Int) :
    ProcessInv { p with assembler := { insIdCnt := insIdCnt } } := by
  refine ⟨h.managed, fun hm => ?_, fun hm => ?_, h.managerData, h.assemblerData⟩
  · cases hm
  · cases hm

theorem ProcessInv.restoreMetadata (h : ProcessInv p) {e : String × AssembleInstanceMetadata ManagedInstance}
    (he : e.2.ins.jobName = e.1 ∧ (e.2.registerStatus ≠ .assembled → e.2.ins.status = .initial)) :
    ProcessInv (p.restoreMetadata e) := by
  have hcreated : ProcessInv ({ p with controller := p.controller.create e.2.ins }.setMetadata e.2.ins.jobName
      (AssembleInstanceMetadata.map (fun _ => p.controller.heap.length) e.2)) := h.create rfl he.2
  rw [he.1] at hcreated
  exact hcreated

theorem ProcessInv.restoreAssembler (h : ProcessInv p) : ProcessInv p.restoreAssembler := by
  apply restoreAssembler_rule h
  · exact fun data _ => h.clearAssembler _
  · exact fun q data e hdata he hq => hq.restoreMetadata (h.assemblerData hdata (Dict.get?_eq_some_iff.mpr he))

/-! ## Every step -/

theorem ProcessInv.step (h : ProcessInv p) (event : Event) : ProcessInv (p.step event) := by
  cases event with
  | register msg =>
      apply register_rule h
      · intro _
        exact (h.create (x := p.newInstance msg) rfl fun _ => rfl).setInsIdCnt _
      · exact fun q m m' hq hm ht => hq.setMetadata hm ht
      · exact fun q m _ hq _ _ => hq.modifyObj (msg.rebuilds_addPod p.clock) m.ins
  | reregister msg =>
      apply reregister_rule h
      · exact fun _ => h.create (x := recoveredInstance msg) rfl fun _ => rfl
      · exact fun q m m' hq hm ht => hq.setMetadata hm ht
      · exact fun q hq => hq.setInsIdCnt _
      · exact fun q m _ hq _ => hq.modifyObj msg.rebuilds_addPod m.ins
  | assemble queryStatus assembleTimeout jobName =>
      apply assembleInstance_rule h
      · exact fun m _ _ => h.modifyObj (rebuilds_filterAbnormalEndpoints queryStatus) m.ins
      · exact fun q hq => hq.popMetadata jobName
      · intro q m m' hq _ hm _ _ hins hs
        refine hq.handOver hm rfl rfl rfl fun hm' => ?_
        rcases get?_setMetadata hm' with ⟨rfl, rfl⟩ | hm'
        · exact Or.inl ⟨rfl, hins, hs⟩
        · exact Or.inr hm'
      · exact fun q m hq _ hm _ _ => hq.handOver hm rfl rfl rfl fun hm' => Or.inr (get?_popMetadata hm')
  | startCommand reply maxRetryTimes jobName =>
      apply sendStartCommand_rule h
      · exact fun m m' hm ht => h.setMetadata hm ht
      · exact h.popMetadata jobName
  | heartbeat insId ip status => exact h.managerStep (Controller.managerStep_handleHeartbeat _ insId ip status)
  | timeout queryStatus insId => exact h.managerStep (Controller.managerStep_handleTimeout _ queryStatus insId)
  | separate instanceId => exact h.managerStep (Controller.managerStep_separateInstance instanceId)
  | recover instanceId => exact h.managerStep (Controller.managerStep_recoverInstance instanceId)
  | delete insId => exact h.managerStep (Controller.managerStep_delInstance insId)
  | persistManager => exact h.persistManager
  | restoreManager => exact h.restoreManager
  | persistAssembler => exact h.persistAssembler
  | restoreAssembler => exact h.restoreAssembler
  | restart =>
      refine ⟨fun hr => ?_, fun hm => ?_, fun hm => ?_, h.managerData, h.assemblerData⟩
      · cases hr
      · cases hm
      · cases hm
  | tick timestamp => exact ⟨h.managed, h.metadata, h.unassembled, h.managerData, h.assemblerData⟩

/-! ## What the assembler does to the manager -/

/-- The steps that are not the manager's own. -/
def Event.OfAssembler : Event → Prop
  | .register _ | .reregister _ | .assemble _ _ _ | .startCommand _ _ _ => True
  | .persistAssembler | .restoreAssembler | .tick _ => True
  | _ => False

theorem not_active_of_metadata (h : ProcessInv p) {jobName : String} {m : AssembleInstanceMetadata Ref}
    (hactive : p.controller.hasActiveInstanceByJobName jobName = false)
    (hm : p.assembler.instances.get? jobName = some m) {id : Int}
    (hid : p.controller.instances.get? id = some m.ins) : (p.controller.obj m.ins).status ≠ .active := by
  intro hs
  have hname := (h.metadata hm).2
  unfold Controller.hasActiveInstanceByJobName at hactive
  have hx := List.any_eq_false.mp hactive (p.controller.obj m.ins)
    (List.mem_map_of_mem (Dict.mem_values_iff.mpr ⟨id, hid⟩))
  exact hx (decide_eq_true ⟨hname, hs⟩)

theorem evalRegisterStatus_ne_assembled {jobName : String} (h : p.evalRegisterStatus jobName ≠ .assembled) :
    p.controller.hasActiveInstanceByJobName jobName = false := by
  unfold evalRegisterStatus at h
  split at h
  · exact absurd rfl h
  · rename_i hactive
    exact Bool.not_eq_true _ ▸ hactive

theorem hasActive_congr {c c' : Controller} (hinstances : c'.instances = c.instances)
    (h : ∀ {id r}, c.instances.get? id = some r →
      (c'.obj r).jobName = (c.obj r).jobName ∧ (c'.obj r).status = (c.obj r).status) (jobName : String) :
    c'.hasActiveInstanceByJobName jobName = c.hasActiveInstanceByJobName jobName := by
  unfold Controller.hasActiveInstanceByJobName
  rw [hinstances, Bool.eq_iff_iff]
  simp only [List.any_eq_true, List.mem_map, exists_exists_and_eq_and, decide_eq_true_eq, Dict.mem_values_iff]
  constructor
  · rintro ⟨r, ⟨id, hid⟩, hx⟩
    rw [(h hid).1, (h hid).2] at hx
    exact ⟨r, ⟨id, hid⟩, hx⟩
  · rintro ⟨r, ⟨id, hid⟩, hx⟩
    rw [← (h hid).1, ← (h hid).2] at hx
    exact ⟨r, ⟨id, hid⟩, hx⟩

/-- An invariant of the controller that survives new objects, rebuilt pods of an instance that is not active, and a
new INITIAL instance, survives the assembler. -/
theorem assembler_closure {I : Controller → Prop} (hcreate : ∀ c x, I c → I (c.create x))
    (hrebuild : ∀ c r f, Rebuilds f → (∀ id, c.instances.get? id = some r → (c.obj r).status ≠ .active) → I c →
      I (c.modifyObj r f))
    (hadd : ∀ c timestamp r, r < c.heap.length → (c.obj r).status = .initial →
      (∀ id, c.instances.get? id ≠ some r) → I c → I (c.addInstance timestamp r))
    (hp : ProcessInv p) (h : I p.controller) {event : Event} (hevent : event.OfAssembler) :
    I (p.step event).controller := by
  -- What a message needs while it is handled: no active instance has its job name.
  let P := fun (jobName : String) (q : ControllerProcess) => ProcessInv q ∧ I q.controller ∧
    (p.evalRegisterStatus jobName ≠ .assembled → q.controller.hasActiveInstanceByJobName jobName = false)
  have hstart : ∀ jobName, P jobName p := fun jobName => ⟨hp, h, evalRegisterStatus_ne_assembled⟩
  have hnew : ∀ x m, m.ins = p.controller.heap.length → x.status = .initial →
      P x.jobName ({ p with controller := p.controller.create x }.setMetadata x.jobName m) := by
    intro x m hins hx
    refine ⟨hp.create hins fun _ => hx, hcreate _ x h, fun hne => ?_⟩
    have hsame : (p.controller.create x).hasActiveInstanceByJobName x.jobName =
        p.controller.hasActiveInstanceByJobName x.jobName := by
      apply hasActive_congr
      · rfl
      · intro id r hr
        rw [Controller.obj_create_old (hp.managed hr).1]
        exact ⟨rfl, rfl⟩
    exact hsame.trans (evalRegisterStatus_ne_assembled hne)
  have hpod : ∀ jobName f q m, Rebuilds f → p.evalRegisterStatus jobName ≠ .assembled → P jobName q →
      q.assembler.instances.get? jobName = some m → P jobName (q.modifyObj m.ins f) := by
    rintro jobName f q m hf hne ⟨hq, hI, hactive⟩ hm
    refine ⟨hq.modifyObj hf m.ins, hrebuild _ _ f hf (fun id hid => ?_) hI, fun _ => ?_⟩
    · exact not_active_of_metadata hq (hactive hne) hm hid
    · have hsame : (q.controller.modifyObj m.ins f).hasActiveInstanceByJobName jobName =
          q.controller.hasActiveInstanceByJobName jobName := by
        apply hasActive_congr
        · rfl
        · intro id r _
          have hobj := rebuilds_obj hf q.controller m.ins r
          exact ⟨hobj.1, hobj.2.1⟩
      exact hsame.trans (hactive hne)
  cases event with
  | register msg =>
      have hrule : P msg.jobName (p.register msg).2 := by
        apply register_rule (hstart _)
        · intro _
          obtain ⟨hq, hI, hactive⟩ := hnew (p.newInstance msg) { ins := p.controller.heap.length, registerTimestamp := p.clock }
            rfl rfl
          exact ⟨hq.setInsIdCnt _, hI, hactive⟩
        · exact fun q m m' hq hm ht => ⟨hq.1.setMetadata hm ht, hq.2⟩
        · exact fun q m hne hq _ hm => hpod _ _ q m (msg.rebuilds_addPod p.clock) hne hq hm
      exact hrule.2.1
  | reregister msg =>
      have hrule : P msg.jobName (p.reregister msg).2 := by
        apply reregister_rule (hstart _)
        · exact fun _ => hnew (recoveredInstance msg)
            { ins := p.controller.heap.length, registerTimestamp := p.clock, isReregister := true } rfl rfl
        · exact fun q m m' hq hm ht => ⟨hq.1.setMetadata hm ht, hq.2⟩
        · exact fun q hq => ⟨hq.1.setInsIdCnt _, hq.2⟩
        · exact fun q m hne hq hm => hpod _ _ q m msg.rebuilds_addPod hne hq hm
      exact hrule.2.1
  | assemble queryStatus assembleTimeout jobName =>
      have hrule : ProcessInv p ∧ I (p.assembleInstance queryStatus assembleTimeout jobName).controller := by
        have hf := rebuilds_filterAbnormalEndpoints queryStatus
        have hentered : ∀ q m, ProcessInv q → I q.controller → q.assembler.instances.get? jobName = some m →
            m.registerStatus ≠ .assembled → I (q.controller.addInstance q.clock m.ins) := by
          intro q m hq hI hm hs
          obtain ⟨hstatus, hnone⟩ := hq.unassembled hm hs
          exact hadd _ _ _ (hq.metadata hm).1 hstatus hnone hI
        apply assembleInstance_rule (P := fun q => ProcessInv p ∧ I q.controller) ⟨hp, h⟩
        · intro m hm hs
          refine ⟨hp, hrebuild _ _ _ hf (fun id hid => ?_) h⟩
          exact absurd hid ((hp.unassembled hm hs).2 id)
        · exact fun q hq => hq
        · rintro q m m' ⟨-, hI⟩ rfl hm hs _ _ _
          exact ⟨hp, hentered _ m (hp.modifyObj hf m.ins) hI hm hs⟩
        · rintro q m ⟨-, hI⟩ rfl hm hs _
          exact ⟨hp, hentered _ m (hp.modifyObj hf m.ins) hI hm hs⟩
      exact hrule.2
  | startCommand reply maxRetryTimes jobName =>
      apply sendStartCommand_rule (P := fun q => I q.controller) h
      · exact fun _ _ _ _ => h
      · exact h
  | persistAssembler => exact h
  | restoreAssembler =>
      apply restoreAssembler_rule (P := fun q => I q.controller) h
      · exact fun _ _ => h
      · exact fun q _ e _ _ hq => hcreate _ _ hq
  | tick timestamp => exact h
  | _ => cases hevent

theorem data_step (p : ControllerProcess) {event : Event} (hmanager : event ≠ .persistManager)
    (hassembler : event ≠ .persistAssembler) :
    (p.step event).managerData = p.managerData ∧ (p.step event).assemblerData = p.assemblerData := by
  let P := fun q : ControllerProcess => q.managerData = p.managerData ∧ q.assemblerData = p.assemblerData
  have hidle : P p := ⟨rfl, rfl⟩
  cases event with
  | register msg =>
      apply register_rule (P := P) hidle
      · exact fun _ => ⟨rfl, rfl⟩
      · exact fun _ _ _ hq _ _ => hq
      · exact fun _ _ _ hq _ _ => hq
  | reregister msg =>
      apply reregister_rule (P := P) hidle
      · exact fun _ => ⟨rfl, rfl⟩
      · exact fun _ _ _ hq _ _ => hq
      · exact fun _ hq => hq
      · exact fun _ _ _ hq _ => hq
  | assemble queryStatus assembleTimeout jobName =>
      apply assembleInstance_rule (P := P) hidle
      · exact fun _ _ _ => ⟨rfl, rfl⟩
      · exact fun _ hq => hq
      · exact fun _ _ _ hq _ _ _ _ _ _ => hq
      · exact fun _ _ hq _ _ _ _ => hq
  | startCommand reply maxRetryTimes jobName =>
      apply sendStartCommand_rule (P := P) hidle
      · exact fun _ _ _ _ => ⟨rfl, rfl⟩
      · exact ⟨rfl, rfl⟩
  | persistManager => exact absurd rfl hmanager
  | persistAssembler => exact absurd rfl hassembler
  | restoreManager =>
      simp only [step, restoreManager]
      split <;> exact ⟨rfl, rfl⟩
  | restoreAssembler =>
      apply restoreAssembler_rule (P := P) hidle
      · exact fun _ _ => ⟨rfl, rfl⟩
      · exact fun _ _ _ _ _ hq => hq
  | _ => exact ⟨rfl, rfl⟩

theorem managerData_step (p : ControllerProcess) {event : Event} (hevent : event ≠ .persistManager) :
    (p.step event).managerData = p.managerData := by
  by_cases he : event = .persistAssembler
  · rw [he]
    rfl
  · exact (p.data_step hevent he).1

theorem assemblerData_step (p : ControllerProcess) {event : Event} (hevent : event ≠ .persistAssembler) :
    (p.step event).assemblerData = p.assemblerData := by
  by_cases he : event = .persistManager
  · rw [he]
    rfl
  · exact (p.data_step he hevent).2

end ControllerProcess

end PyMotor
