import PyMotor.Controller.AssemblySpec
import PyMotor.Controller.Lemmas.Assembly
import PyMotor.Controller.Lemmas.Frozen
import PyMotor.Controller.ProcessTheorems

/-!
# Assembly along the runs of the controller process
-/

/-! Ids that are handed out or recovered belong to one job. -/

namespace PyMotor

open Lib ManagedInstance

theorem ManagedInstance.Rebuilds.names {f : ManagedInstance → ManagedInstance} (hf : Rebuilds f)
    (x : ManagedInstance) : (f x).id = x.id ∧ (f x).jobName = x.jobName := by
  obtain ⟨endpoints, nodeManagers, hx⟩ := hf x
  rw [hx]
  exact ⟨rfl, rfl⟩

namespace ControllerProcess

variable {p : ControllerProcess}

def Event.IsMessage : Event → Prop
  | .register _ | .reregister _ => True
  | _ => False

theorem insIdCnt_step {event : Event} (hreset : IdProcess.Resets event = false) (hmessage : ¬ event.IsMessage) :
    (p.step event).assembler.insIdCnt = p.assembler.insIdCnt := by
  cases event with
  | register msg => exact absurd trivial hmessage
  | reregister msg => exact absurd trivial hmessage
  | assemble queryStatus assembleTimeout jobName =>
      rcases p.assembleInstance_cases queryStatus assembleTimeout jobName with heq | ⟨m, -, -, q, rfl, hcases⟩
      · simp only [step, heq]
      · rcases hcases with heq | heq | ⟨-, ⟨-, heq⟩ | ⟨-, heq⟩⟩
        all_goals
          simp only [step, heq]
          rfl
  | startCommand reply maxRetryTimes jobName =>
      rcases p.sendStartCommand_cases reply maxRetryTimes jobName with heq | heq | ⟨m, m', -, -, heq⟩
      · simp only [step, heq]
      · simp only [step, heq]
        rfl
      · simp only [step, heq]
        rfl
  | restoreManager => exact congrArg InstanceAssembler.insIdCnt p.assembler_restoreManager.1
  | restoreAssembler => cases hreset
  | restart => cases hreset
  | _ => rfl

end ControllerProcess

namespace IdProcess

open ControllerProcess

variable {s : IdProcess}

/-- The id of the instance was handed out to its job or recovered for it. -/
def UsedBy (used : List (Int × String)) (x : ManagedInstance) : Prop := (x.id, x.jobName) ∈ used

theorem UsedBy.rebuild {used : List (Int × String)} {x : ManagedInstance} (h : UsedBy used x)
    {f : ManagedInstance → ManagedInstance} (hf : Rebuilds f) : UsedBy used (f x) := by
  unfold UsedBy
  rw [(hf.names x).1, (hf.names x).2]
  exact h

structure IdInv (s : IdProcess) : Prop where
  inv : ProcessInv s.process
  carries : Carries (UsedBy s.used) (fun _ _ => UsedBy s.used) s.process
  oneJob : ∀ e ∈ s.used, ∀ e' ∈ s.used, e.1 = e'.1 → e.2 = e'.2
  counter : ∀ e ∈ s.current, e.1 < s.process.assembler.insIdCnt

theorem idInv_init : IdInv {} := by
  refine ⟨processInv_init, carries_init, fun e he => ?_, fun e he => ?_⟩
  · cases he
  · cases he

theorem IdInv.idsUnique (h : IdInv s) : IdsUnique s.process := by
  have hused : ∀ {id jobName}, s.process.Holds id jobName → (id, jobName) ∈ s.used := by
    rintro id jobName (⟨r, hr, rfl⟩ | ⟨m, hm, rfl⟩)
    · have hid := h.carries.managed hr
      unfold UsedBy at hid
      rwa [(h.inv.managed hr).2] at hid
    · have hid := h.carries.metadata hm
      unfold UsedBy at hid
      rwa [(h.inv.metadata hm).2] at hid
  exact fun id jobName jobName' hj hj' => h.oneJob _ (hused hj) _ (hused hj') rfl

theorem IdInv.fresh (h : IdInv s) {msg : RegisterMsg} (hs : s.IdsKept (.register msg))
    (hnew : s.process.evalRegisterStatus msg.jobName = .notRegistered) :
    ∀ e ∈ s.used, e.1 < s.process.assembler.insIdCnt := by
  intro e he
  rcases List.mem_append.mp he with he | he
  · exact h.counter e he
  · exact hs hnew e he

theorem IdInv.idsStable (h : IdInv s) {event : Event} (hs : s.IdsKept event) : s.IdsStable event := by
  cases event with
  | register msg =>
      intro hnew
      rcases s.process.register_cases msg with ⟨he, -⟩ | ⟨-, m, hins, -, -, heq⟩ | ⟨he, -⟩
      · cases he.symm.trans hnew
      · refine ⟨m, ?_, fun e he => ?_⟩
        · rw [heq]
          exact Dict.get?_set_self _ _ _
        · have hid : ((s.process.register msg).2.controller.obj m.ins).id = s.process.assembler.insIdCnt := by
            rw [heq, hins]
            show ((s.process.controller.create _).obj s.process.controller.heap.length).id = _
            rw [Controller.obj_create_new]
            exact ((msg.rebuilds_addPod s.process.clock).names _).1
          rw [hid]
          exact ne_of_lt (h.fresh hs hnew e he)
      · cases he.symm.trans hnew
  | reregister msg =>
      intro hok
      rcases s.process.reregister_cases msg with ⟨-, heq⟩ | ⟨-, heq⟩ | ⟨he, m, hm, heq⟩
      · rw [heq] at hok
        cases hok
      · rw [heq]
        refine ⟨_, Dict.get?_set_self _ _ _, ?_⟩
        show ((s.process.controller.create _).obj s.process.controller.heap.length).id = _
        rw [Controller.obj_create_new]
        exact (msg.rebuilds_addPod.names _).1
      · rw [heq]
        refine ⟨_, Dict.get?_set_self _ _ _, ?_⟩
        show ((s.process.controller.modifyObj m.ins msg.addPod).obj m.ins).id = _
        rw [(rebuilds_obj msg.rebuilds_addPod _ _ _).2.2]
        exact (hs (by rw [he]; exact RegisterStatus.noConfusion)).2 m hm
  | _ => trivial

theorem IdInv.assigned (h : IdInv s) {event : Event} (hs : s.IdsKept event) :
    s.assigned event = [] ∨ ∃ id jobName, s.assigned event = [(id, jobName)] ∧
      ∀ e ∈ s.used, e.1 = id → e.2 = jobName := by
  cases event with
  | register msg =>
      by_cases hnew : s.process.evalRegisterStatus msg.jobName = .notRegistered
      · refine Or.inr ⟨_, _, if_pos hnew, fun e he hid => ?_⟩
        exact absurd hid (ne_of_lt (h.fresh hs hnew e he))
      · exact Or.inl (if_neg hnew)
  | reregister msg =>
      by_cases he : s.process.evalRegisterStatus msg.jobName = .assembled
      · exact Or.inl (if_pos he)
      · exact Or.inr ⟨_, _, if_neg he, (hs he).1⟩
  | _ => exact Or.inl rfl

theorem IdInv.oneJob_assigned (h : IdInv s) {event : Event} (hs : s.IdsKept event) :
    ∀ e ∈ s.assigned event ++ s.used, ∀ e' ∈ s.assigned event ++ s.used, e.1 = e'.1 → e.2 = e'.2 := by
  rcases h.assigned hs with heq | ⟨id, jobName, heq, hid⟩
  · rw [heq]
    exact h.oneJob
  · rw [heq]
    intro e he e' he' hsame
    rcases List.mem_cons.mp he with rfl | he
    · rcases List.mem_cons.mp he' with rfl | he'
      · rfl
      · exact (hid e' he' hsame.symm).symm
    · rcases List.mem_cons.mp he' with rfl | he'
      · exact hid e he hsame
      · exact h.oneJob e he e' he' hsame

theorem formOnly_usedBy (used : List (Int × String)) : FormOnly (UsedBy used) := by
  intro x y hxy hy
  unfold UsedBy
  rw [hxy.id, hxy.jobName]
  exact hy

theorem IdInv.carries_step (h : IdInv s) (event : Event) :
    Carries (UsedBy (s.assigned event ++ s.used)) (fun _ _ => UsedBy (s.assigned event ++ s.used))
      (s.process.step event) := by
  have hmono : ∀ x, UsedBy s.used x → UsedBy (s.assigned event ++ s.used) x :=
    fun x hx => List.mem_append_right _ hx
  have hcarries := h.carries.mono hmono fun _ _ => hmono
  cases event with
  | register msg =>
      apply hcarries.register h.inv
      · intro hnew
        refine UsedBy.rebuild ?_ (msg.rebuilds_addPod s.process.clock)
        refine List.mem_append_left _ ?_
        simp [IdProcess.assigned, hnew, newInstance]
      · intro m _ _
        exact ⟨fun hx => hx.rebuild (msg.rebuilds_addPod s.process.clock),
          fun _ hx => hx.rebuild (msg.rebuilds_addPod s.process.clock)⟩
  | reregister msg =>
      apply hcarries.reregister h.inv
      · intro hnew
        refine UsedBy.rebuild ?_ msg.rebuilds_addPod
        refine List.mem_append_left _ ?_
        simp [IdProcess.assigned, hnew, recoveredInstance]
      · exact fun m _ _ => ⟨fun hx => hx.rebuild msg.rebuilds_addPod, fun _ hx => hx.rebuild msg.rebuilds_addPod⟩
  | assemble queryStatus assembleTimeout jobName =>
      apply hcarries.assemble (formOnly_usedBy _) (fun _ _ => formOnly_usedBy _) h.inv
      · exact fun _ _ x hx => hx.rebuild (rebuilds_filterAbnormalEndpoints queryStatus)
      · exact fun _ _ x hx _ => ⟨hx, fun _ => hx⟩
  | _ => exact hcarries.step_other (formOnly_usedBy _) (fun _ _ => formOnly_usedBy _) h.inv id

theorem IdInv.counter_step (h : IdInv s) {event : Event} (hreset : Resets event = false) :
    ∀ e ∈ s.assigned event ++ s.current, e.1 < (s.process.step event).assembler.insIdCnt := by
  cases event with
  | register msg =>
      intro e he
      rcases s.process.register_cases msg with ⟨hstatus, heq⟩ | ⟨hstatus, m, -, -, -, heq⟩ | ⟨hstatus, m, m', -, -, heq⟩
      · simp only [ControllerProcess.step, heq]
        rw [IdProcess.assigned, hstatus] at he
        exact h.counter e he
      · simp only [ControllerProcess.step, heq, setInsIdCnt]
        rw [IdProcess.assigned, if_pos hstatus] at he
        rcases List.mem_cons.mp he with rfl | he
        · exact lt_add_one _
        · exact (h.counter e he).trans (lt_add_one _)
      · simp only [ControllerProcess.step, heq]
        rw [IdProcess.assigned, hstatus] at he
        exact h.counter e he
  | reregister msg =>
      intro e he
      have hold : e ∈ s.current → e.1 < max s.process.assembler.insIdCnt (msg.instanceId + 1) :=
        fun he => lt_max_of_lt_left (h.counter e he)
      have hnew : (msg.instanceId, msg.jobName).1 < max s.process.assembler.insIdCnt (msg.instanceId + 1) :=
        lt_max_of_lt_right (lt_add_one _)
      rcases s.process.reregister_cases msg with ⟨hstatus, heq⟩ | ⟨hstatus, heq⟩ | ⟨hstatus, m, -, heq⟩
      · simp only [ControllerProcess.step, heq]
        rw [IdProcess.assigned, if_pos hstatus] at he
        exact h.counter e he
      · simp only [ControllerProcess.step, heq, setInsIdCnt]
        rw [IdProcess.assigned, hstatus] at he
        rcases List.mem_cons.mp he with rfl | he
        · exact hnew
        · exact hold he
      · simp only [ControllerProcess.step, heq, setInsIdCnt]
        rw [IdProcess.assigned, hstatus] at he
        rcases List.mem_cons.mp he with rfl | he
        · exact hnew
        · exact hold he
  | _ =>
      rw [insIdCnt_step hreset id]
      exact h.counter

theorem assigned_of_resets {event : Event} (hreset : Resets event = true) : s.assigned event = [] := by
  cases event with
  | register msg => cases hreset
  | reregister msg => cases hreset
  | _ => rfl

theorem IdInv.step (h : IdInv s) {event : Event} (hs : s.IdsKept event) : IdInv (s.step event) := by
  have hcarries := h.carries_step event
  unfold IdProcess.step
  split
  · rename_i hreset
    refine ⟨h.inv.step event, ?_, h.oneJob, fun e he => ?_⟩
    · rw [assigned_of_resets hreset] at hcarries
      exact hcarries
    · cases he
  · rename_i hreset
    refine ⟨h.inv.step event, ?_, ?_, h.counter_step (Bool.not_eq_true _ ▸ hreset)⟩
    · simpa only [used, List.append_assoc] using hcarries
    · simpa only [used, List.append_assoc] using h.oneJob_assigned hs

end IdProcess

end PyMotor

namespace PyMotor.ControllerProcess

open Lib ManagedInstance

/-! ## Assembled instances -/

/-- In every run without late messages from new pods, an instance that is handed over keeps its pods, managed
multi-endpoint instances have `dp_size` endpoints, and start commands go to exactly the endpoints of the instance. -/
theorem assembled_frozen (events : List Event) (h : Along step NotLate {} events) : StaysAssembled events := by
  have hinv : ∀ es, Along step NotLate {} es → ProcessInv (run step {} es) ∧ FullProcess (run step {} es) :=
    fun es hes => run_invariant (I := fun p => ProcessInv p ∧ FullProcess p)
      (fun p event hi hs => ⟨hi.1.step event, hi.2.step hi.1 hs⟩) ⟨processInv_init, carries_init⟩ hes
  refine ⟨?_, fun id r hr => (hinv events h).2.managed hr, (hinv events h).2.startsAll⟩
  rintro before after r rfl hrestart hr
  obtain ⟨hbefore, hafter⟩ := along_append.mp h
  have hclosed := hr.closed (hinv before hbefore).1
  rw [run_append]
  obtain ⟨-, hform⟩ := hclosed.run hafter hrestart
  exact ⟨hform.nodeManagers, hform.shape⟩

def messagesInTime : List Event :=
  [registers 1 "p" "a", assembles "p", registers 1 "p" "a", starts "p", reports 1 "a" 0 .normal, registers 1 "p" "b"]

theorem assembled_frozen_messagesInTime :
    Along step NotLate {} messagesInTime ∧ StaysAssembled messagesInTime :=
  ⟨by decide, assembled_frozen messagesInTime (by decide)⟩

/-- Another pod registers after the instance is handed over and before it is active: the managed instance gets a
second endpoint. -/
theorem not_assembled_frozen : ¬ StaysAssembled [registers 1 "p" "a", assembles "p", registers 1 "p" "b"] := by
  intro h
  have hfull := h.full 1 0 (by decide)
  revert hfull
  decide

end PyMotor.ControllerProcess

namespace PyMotor.IdProcess

open Lib ControllerProcess

/-! ## Instance ids -/

/-- In every run in which the counter is above the earlier ids whenever an instance is created, no id of another job is
recovered, and a job is recovered under the id that it is assembled with, ids are unique and stable. -/
theorem instance_ids_unique (events : List Event) (h : Along step IdsKept {} events) :
    IdsUnique (run step {} events).process ∧ Along step IdsStable {} events := by
  have hend : IdInv (run step {} events) := run_invariant (I := IdInv) (fun _ _ hi hs => hi.step hs) idInv_init h
  constructor
  · exact hend.idsUnique
  · exact along_of_invariant (I := IdInv) (fun _ _ hi hs => hi.step hs) (fun _ _ hi hs => hi.idsStable hs) idInv_init h

def recovers (instanceId : Int) (jobName podIp : String) : Event :=
  .reregister
    { jobName := jobName, instanceId := instanceId, podIp := podIp, nmPort := "9000", parallelConfig := .ofSizes 1 1,
      deviceNum := 1, endpoints := [{ id := 0, ip := podIp, businessPort := "8000", mgmtPort := "8001" }] }

/-- The controller restarts without its state, the job comes back, and then another one registers. -/
def recoveredFirst : List Event :=
  [registers 1 "a" "pod-a", assembles "a", starts "a", .restart, recovers 1 "a" "pod-a", registers 1 "b" "pod-b"]

theorem instance_ids_unique_recoveredFirst :
    Along step IdsKept {} recoveredFirst ∧
      IdsUnique (run step {} recoveredFirst).process ∧ Along step IdsStable {} recoveredFirst :=
  ⟨by decide, instance_ids_unique recoveredFirst (by decide)⟩

/-- The other job registers first: it gets the id of the job that comes back. -/
theorem not_instance_ids_unique :
    ¬ IdsUnique (run step {} [registers 1 "a" "pod-a", assembles "a", starts "a", .restart, registers 1 "b" "pod-b",
      recovers 1 "a" "pod-a"]).process := by
  intro h
  have hjob := h 1 "a" "b" (Or.inr ⟨_, rfl, by decide⟩) (Or.inr ⟨_, rfl, by decide⟩)
  exact absurd hjob (by decide)

end PyMotor.IdProcess
