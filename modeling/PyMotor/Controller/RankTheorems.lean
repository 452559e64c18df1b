import PyMotor.Controller.Lemmas.Assembly
import PyMotor.Controller.Lemmas.Ranks
import PyMotor.Controller.ProcessSpec

/-!
# The ranks of an instance

The ranks of an endpoint are counted in steps of `tp_size * pp_size`, from the number of endpoints before it; what a pod
has beyond its devices is cut off.
-/

namespace PyMotor

open Lib ManagedInstance

namespace ControllerProcess

/-- The messages of the distinct pods of a job, which together have as many devices as its world. -/
structure PodsOf (jobName : String) (config : ParallelConfig) (multi : Bool) (d : Nat) (msgs : List RegisterMsg) :
    Prop where
  messages : ∀ msg ∈ msgs, msg.jobName = jobName ∧ msg.parallelConfig = config ∧ msg.enableMultiEndpoints = multi ∧
    msg.ranktable = none ∧ msg.deviceNum = d
  distinct : (msgs.map (·.podIp)).Nodup
  positive : 0 < config.dpSize ∧ 0 < config.cpSize ∧ 0 < config.tpSize ∧ 0 < config.ppSize
  world : config.worldSize = (msgs.length * d : Nat)

/-- The job has this instance in the assembler, and no active one. -/
structure Assembling (p : ControllerProcess) (jobName : String) (x : ManagedInstance) : Prop where
  inv : ProcessInv p
  inactive : p.controller.hasActiveInstanceByJobName jobName = false
  metadata : ∃ m, p.assembler.instances.get? jobName = some m ∧ p.controller.obj m.ins = x

variable {p : ControllerProcess} {x : ManagedInstance} {jobName : String}

theorem assembling_first (hp : ProcessInv p) (msg : RegisterMsg)
    (hnew : p.evalRegisterStatus msg.jobName = .notRegistered) :
    (p.step (.register msg)).Assembling msg.jobName (msg.addPod p.clock (p.newInstance msg)).2 ∧
      (p.step (.register msg)).clock = p.clock := by
  have hinv := hp.step (.register msg)
  rcases register_cases p msg with ⟨hs, -⟩ | ⟨-, m, hins, -, -, heq⟩ | ⟨hs, -⟩
  · rw [hnew] at hs
    cases hs
  · simp only [step] at hinv ⊢
    rw [heq] at hinv ⊢
    have hsame : (p.controller.create (msg.addPod p.clock (p.newInstance msg)).2).hasActiveInstanceByJobName
        msg.jobName = p.controller.hasActiveInstanceByJobName msg.jobName := by
      apply hasActive_congr
      · rfl
      · intro id r hr
        rw [Controller.obj_create_old (hp.managed hr).1]
        exact ⟨rfl, rfl⟩
    refine ⟨⟨hinv, hsame.trans (evalRegisterStatus_notRegistered hnew).1, m, Dict.get?_set_self .., ?_⟩, rfl⟩
    rw [hins]
    exact Controller.obj_create_new p.controller _
  · rw [hnew] at hs
    cases hs

theorem Assembling.register (h : p.Assembling jobName x) {msg : RegisterMsg} (hmsg : msg.jobName = jobName) :
    (p.step (.register msg)).Assembling jobName (msg.addPod p.clock x).2 ∧
      (p.step (.register msg)).clock = p.clock := by
  subst hmsg
  obtain ⟨m, hm, hx⟩ := h.metadata
  have hinv := h.inv.step (.register msg)
  have hs : p.evalRegisterStatus msg.jobName = .assembling := by
    unfold evalRegisterStatus
    rw [if_neg (by simp [h.inactive]), if_pos (Dict.contains_iff.mpr ⟨m, hm⟩)]
  rcases register_cases p msg with ⟨hs', -⟩ | ⟨hs', -⟩ | ⟨-, m₁, m', hm₁, hfollows, heq⟩
  · rw [hs] at hs'
    cases hs'
  · rw [hs] at hs'
    cases hs'
  · rw [hm] at hm₁
    cases hm₁
    simp only [step] at hinv ⊢
    rw [heq] at hinv ⊢
    have hsame : (p.controller.modifyObj m.ins fun x => (msg.addPod p.clock x).2).hasActiveInstanceByJobName
        msg.jobName = p.controller.hasActiveInstanceByJobName msg.jobName := by
      apply hasActive_congr
      · rfl
      · intro id r _
        have hobj := rebuilds_obj (msg.rebuilds_addPod p.clock) p.controller m.ins r
        exact ⟨hobj.1, hobj.2.1⟩
    refine ⟨⟨hinv, hsame.trans h.inactive, m', Dict.get?_set_self .., ?_⟩, rfl⟩
    rw [hfollows.1, ← hx]
    exact Controller.obj_modifyObj_self (h.inv.metadata hm).1 _

theorem Assembling.run {msgs : List RegisterMsg} (h : p.Assembling jobName x)
    (hmsgs : ∀ msg ∈ msgs, msg.jobName = jobName) :
    (run step p (msgs.map .register)).Assembling jobName (x.addPods p.clock msgs) := by
  induction msgs generalizing p x with
  | nil => exact h
  | cons msg msgs ih =>
      obtain ⟨hstep, hclock⟩ := h.register (hmsgs msg (List.mem_cons_self ..))
      have hrest := ih hstep fun msg' hmsg' => hmsgs msg' (List.mem_cons_of_mem _ hmsg')
      rw [hclock] at hrest
      exact hrest

theorem sum_map_eq_iff {α : Type} {f : α → Nat} {d : Nat} {l : List α} (h : ∀ a ∈ l, f a ≤ d) :
    (l.map f).sum = l.length * d ↔ ∀ a ∈ l, f a = d := by
  induction l with
  | nil => simp
  | cons a l ih =>
      have ha := h a (List.mem_cons_self ..)
      have hl := fun b hb => h b (List.mem_cons_of_mem _ hb)
      have hle : (l.map f).sum ≤ l.length * d := by
        simpa using List.sum_le_card_nsmul (l.map f) d fun b hb => by
          obtain ⟨c, hc, rfl⟩ := List.mem_map.mp hb
          exact hl c hc
      rw [List.map_cons, List.sum_cons, List.length_cons, Nat.add_one_mul, List.forall_mem_cons, ← ih hl]
      omega

/-- A pod in multi-endpoint mode uses all its devices when they are a multiple of `w` and there are enough ports. -/
theorem podEndpoints_multi_iff {msg : RegisterMsg} {w d : Nat} (hmulti : msg.enableMultiEndpoints = true) (hd : 0 < d)
    (hpos : 0 < w) : msg.podEndpoints d w * w = d ↔
      w ∣ d ∧ d / w ≤ msg.businessPort.length ∧ d / w ≤ msg.mgmtPort.length := by
  have hcount : msg.endpointCount d w = min msg.businessPort.length (d / w) := rfl
  by_cases hport : msg.endpointCount d w ≤ msg.mgmtPort.length
  · rw [RegisterMsg.podEndpoints, if_pos hmulti, if_pos hport]
    constructor
    · intro h
      have hdiv : d / w = msg.endpointCount d w := Nat.div_eq_of_eq_mul_left hpos h.symm
      have hle : d / w ≤ msg.businessPort.length := min_eq_right_iff.mp (hcount.symm.trans hdiv.symm)
      exact ⟨⟨msg.endpointCount d w, by rw [Nat.mul_comm]; exact h.symm⟩, hle, hdiv ▸ hport⟩
    · rintro ⟨hdvd, hbusiness, -⟩
      rw [hcount, min_eq_right hbusiness]
      exact Nat.div_mul_cancel hdvd
  · rw [RegisterMsg.podEndpoints, if_pos hmulti, if_neg hport, Nat.zero_mul]
    constructor
    · omega
    · rintro ⟨-, hbusiness, hmgmt⟩
      rw [hcount, min_eq_right hbusiness] at hport
      exact absurd hmgmt hport

theorem podEndpoints_single_iff {msg : RegisterMsg} {w d : Nat} (hmulti : msg.enableMultiEndpoints = false) :
    msg.podEndpoints d w = 1 ↔ msg.businessPort ≠ [] ∧ msg.mgmtPort ≠ [] := by
  simp only [RegisterMsg.podEndpoints, hmulti, Bool.false_eq_true, if_false]
  by_cases hbusiness : msg.businessPort = []
  · simp [hbusiness]
  · by_cases hmgmt : msg.mgmtPort = [] <;> simp [hbusiness, hmgmt]

/-- The ranks are assigned exactly when every pod uses all its devices: in multi-endpoint mode these are a multiple of
`tp_size * pp_size` and there is a port for each endpoint; in single-endpoint mode there is a port, and the devices of a
pod are `tp_size * pp_size`, or at most as many in the only pod. -/
theorem ranks_assigned_iff (hp : ProcessInv p) {config : ParallelConfig} {multi : Bool} {d : Nat}
    {msgs : List RegisterMsg} (hnew : p.evalRegisterStatus jobName = .notRegistered)
    (h : PodsOf jobName config multi d msgs) :
    (∃ m, (run step p (msgs.map .register)).assembler.instances.get? jobName = some m ∧
      ((run step p (msgs.map .register)).controller.obj m.ins).RanksAssigned config.worldSize d) ↔
    if multi then ∀ msg ∈ msgs, config.tpSize * config.ppSize ∣ d ∧
        (d : Int) / (config.tpSize * config.ppSize) ≤ msg.businessPort.length ∧
        (d : Int) / (config.tpSize * config.ppSize) ≤ msg.mgmtPort.length
    else (∀ msg ∈ msgs, msg.businessPort ≠ [] ∧ msg.mgmtPort ≠ []) ∧
      (config.tpSize * config.ppSize = d ∨ msgs.length = 1 ∧ (d : Int) ≤ config.tpSize * config.ppSize) := by
  obtain ⟨hdp, hcp, htp, hpp⟩ := h.positive
  obtain ⟨w, hw⟩ := Int.eq_ofNat_of_zero_le (mul_nonneg htp.le hpp.le)
  have hpos : 0 < w := by
    have hwidth := mul_pos htp hpp
    omega
  -- A world size of 0 would be replaced by the product of the sizes.
  have hworld : 0 < msgs.length * d := by
    refine Nat.pos_of_ne_zero fun hzero => ?_
    have hproduct := config.world (by rw [h.world, hzero]; rfl)
    exact absurd hproduct (mul_pos (mul_pos (mul_pos hdp hcp) htp) hpp).ne'
  have hd : 0 < d := Nat.pos_of_mul_pos_left hworld
  have hlen : 0 < msgs.length := Nat.pos_of_mul_pos_right hworld
  have hranked : ∃ x, (run step p (msgs.map .register)).Assembling jobName x ∧
      x.Ranked multi w d (msgs.map fun msg => msg.podEndpoints d w).sum := by
    have hconform : ∀ msg ∈ msgs, msg.enableMultiEndpoints = multi ∧ msg.ranktable = none ∧
        msg.devicesPerEndpoint = w ∧ msg.deviceNum = d := by
      intro msg hmsg
      obtain ⟨-, hconfig, hmulti, hnone, hdevices⟩ := h.messages msg hmsg
      exact ⟨hmulti, hnone, by rw [RegisterMsg.devicesPerEndpoint, hconfig, hw], hdevices⟩
    have hdistinct := h.distinct
    have hnames := fun msg hmsg => (h.messages msg hmsg).1
    match msgs, hlen with
    | msg :: rest, _ =>
        obtain rfl := hnames msg (List.mem_cons_self ..)
        obtain ⟨hfirst, hclock⟩ := assembling_first hp msg hnew
        have hrest := hfirst.run fun msg' hmsg' => hnames msg' (List.mem_cons_of_mem _ hmsg')
        rw [hclock] at hrest
        refine ⟨_, hrest, ?_⟩
        have hx : (p.newInstance msg).Ranked multi w d 0 := ranked_new ⟨rfl, rfl⟩ multi w d
        have hall := hx.addPods hpos hconform (fun _ _ => rfl) hdistinct p.clock
        rw [Nat.zero_add] at hall
        exact hall
  obtain ⟨x, hassembling, hx⟩ := hranked
  obtain ⟨m, hm, hobj⟩ := hassembling.metadata
  have hassigned : (∃ m, (run step p (msgs.map .register)).assembler.instances.get? jobName = some m ∧
      ((run step p (msgs.map .register)).controller.obj m.ins).RanksAssigned config.worldSize d) ↔
        ∀ k, k ∈ rankNumbers multi w d (msgs.map fun msg => msg.podEndpoints d w).sum ↔
          0 ≤ k ∧ k < ((msgs.length * d : Nat) : Int) := by
    rw [← h.world, ← hx.assigned_iff]
    constructor
    · rintro ⟨m', hm', hx'⟩
      rw [hm] at hm'
      cases hm'
      rwa [hobj] at hx'
    · exact fun hx' => ⟨m, hm, hobj.symm ▸ hx'⟩
  rw [hassigned, hw]
  have hmode := fun msg hmsg => (h.messages msg hmsg).2.2.1
  cases multi with
  | true =>
      have hle : ∀ msg ∈ msgs, msg.podEndpoints d w * w ≤ d := by
        intro msg hmsg
        have hpod := msg.podDeviceNum_le d w
        rwa [RegisterMsg.podDeviceNum, if_pos (hmode msg hmsg), Nat.mul_comm] at hpod
      rw [assigned_multi_iff, ← List.sum_map_mul_right, sum_map_eq_iff hle, if_pos rfl]
      refine forall₂_congr fun msg hmsg => ?_
      rw [podEndpoints_multi_iff (hmode msg hmsg) hd hpos]
      norm_cast
  | false =>
      have hle : ∀ msg ∈ msgs, msg.podEndpoints d w ≤ 1 := by
        intro msg hmsg
        rw [RegisterMsg.podEndpoints, if_neg (by simp [hmode msg hmsg])]
        split <;> omega
      have hnum : (msgs.map fun msg => msg.podEndpoints d w).sum ≤ msgs.length := by
        simpa using List.sum_le_card_nsmul (msgs.map fun msg => msg.podEndpoints d w) 1 fun e he => by
          obtain ⟨msg, hmsg, rfl⟩ := List.mem_map.mp he
          exact hle msg hmsg
      have hall := sum_map_eq_iff hle
      rw [Nat.mul_one] at hall
      rw [assigned_single_iff hd hlen hnum, hall, if_neg Bool.false_ne_true]
      refine and_congr (forall₂_congr fun msg hmsg => podEndpoints_single_iff (hmode msg hmsg)) ?_
      norm_cast

def eightDevicePod (podIp : String) (config : ParallelConfig) (multi : Bool) : RegisterMsg :=
  { jobName := "job", podIp := podIp, businessPort := ["8000", "8002"], mgmtPort := ["8001", "8003"], nmPort := "9000",
    parallelConfig := config, enableMultiEndpoints := multi, deviceNum := 8 }

def fourByFour : ParallelConfig := .ofSizes 4 4

def twoPodsOfFour : List RegisterMsg :=
  [eightDevicePod "10.0.0.1" fourByFour true, eightDevicePod "10.0.0.2" fourByFour true]

theorem ranks_assigned_twoPodsOfFour :
    ∃ m, (run step {} (twoPodsOfFour.map .register)).assembler.instances.get? "job" = some m ∧
      ((run step {} (twoPodsOfFour.map .register)).controller.obj m.ins).RanksAssigned fourByFour.worldSize 8 := by
  have hpods : PodsOf "job" fourByFour true 8 twoPodsOfFour := ⟨by decide, by decide, by decide, rfl⟩
  exact (ranks_assigned_iff processInv_init rfl hpods).mpr (by decide)

def oneBySixteen : ParallelConfig := .ofSizes 1 16

def twoPodsOfOne : List RegisterMsg :=
  [eightDevicePod "10.0.0.1" oneBySixteen false, eightDevicePod "10.0.0.2" oneBySixteen false]

/-- Two pods of eight devices in single-endpoint mode: the second one gets the ranks from 16 to 23. -/
theorem twoPodsOfOne_not_assigned : PodsOf "job" oneBySixteen false 8 twoPodsOfOne ∧
    ¬ ∃ m, (run step {} (twoPodsOfOne.map .register)).assembler.instances.get? "job" = some m ∧
      ((run step {} (twoPodsOfOne.map .register)).controller.obj m.ins).RanksAssigned oneBySixteen.worldSize 8 := by
  refine ⟨⟨by decide, by decide, by decide, rfl⟩, ?_⟩
  rintro ⟨m, hm, h⟩
  have hlast : ∀ m ∈ (run step {} (twoPodsOfOne.map .register)).assembler.instances.get? "job",
      "16" ∈ ((run step {} (twoPodsOfOne.map .register)).controller.obj m.ins).rankIds := by decide
  obtain ⟨k, -, hlt, he⟩ := (h.ranks "16").mp (hlast m hm)
  have hk : (16 : Int) = k := Text.toString_injective he
  have hworld : oneBySixteen.worldSize = 16 := rfl
  omega

end ControllerProcess

end PyMotor
