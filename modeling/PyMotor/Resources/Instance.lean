import Mathlib.Algebra.Order.Ring.Rat
import Mathlib.Data.Fintype.Defs
import Mathlib.Tactic.Positivity
import PyMotor.Lib.Dict

/-!
# Instances and endpoints

`motor/common/resources/endpoint.py` and `motor/common/resources/instance.py`, as far as the coordinator
reads them. `Instance.role` is a plain string, as in the source; `PDRole.ofString?` reads it. Times are exact rationals.
-/

/-!
## Workloads and roles

`motor/common/resources/endpoint.py` and `motor/coordinator/domain/workload_calculator.py`. The floats
of the source are exact rationals here.
-/

namespace PyMotor

/-- `PDRole`: prefill, decode, or both. -/
inductive PDRole
  | roleP
  | roleD
  | roleU
deriving DecidableEq, Repr

instance : Fintype PDRole := ⟨{.roleP, .roleD, .roleU}, fun role => by cases role <;> decide⟩

/-- `PDRole(role)` on a role string; `none` is the `ValueError`. -/
def PDRole.ofString? : String → Option PDRole
  | "prefill" => some .roleP
  | "decode" => some .roleD
  | "both" => some .roleU
  | _ => none

def PDRole.value : PDRole → String
  | .roleP => "prefill"
  | .roleD => "decode"
  | .roleU => "both"

/-- `str(role)`. -/
def PDRole.text : PDRole → String
  | .roleP => "PDRole.ROLE_P"
  | .roleD => "PDRole.ROLE_D"
  | .roleU => "PDRole.ROLE_U"

@[simp] theorem PDRole.ofString?_value (r : PDRole) : PDRole.ofString? r.value = some r := by
  cases r <;> rfl

@[ext] structure Workload where
  activeKvCache : ℚ := 0
  activeTokens : ℚ := 0
deriving DecidableEq, Repr

inductive WorkloadAction
  | allocation
  | releaseKv
  | releaseTokens
deriving DecidableEq, Repr

/-- `WorkloadAction(value)`. -/
def WorkloadAction.ofString? : String → Option WorkloadAction
  | "Allocation" => some .allocation
  | "Release_KV" => some .releaseKv
  | "Release_Tokens" => some .releaseTokens
  | _ => none

/-! ## Workloads as a group -/

namespace Workload

instance : Zero Workload := ⟨{}⟩
/-- `Workload.__iadd__`. -/
instance : Add Workload := ⟨fun a b => ⟨a.activeKvCache + b.activeKvCache, a.activeTokens + b.activeTokens⟩⟩
instance : Neg Workload := ⟨fun a => ⟨-a.activeKvCache, -a.activeTokens⟩⟩
instance : Sub Workload := ⟨fun a b => ⟨a.activeKvCache - b.activeKvCache, a.activeTokens - b.activeTokens⟩⟩
instance : LE Workload := ⟨fun a b => a.activeKvCache ≤ b.activeKvCache ∧ a.activeTokens ≤ b.activeTokens⟩
instance (a b : Workload) : Decidable (a ≤ b) := inferInstanceAs (Decidable (_ ∧ _))

@[simp] theorem zero_kv : (0 : Workload).activeKvCache = 0 := rfl
@[simp] theorem zero_tokens : (0 : Workload).activeTokens = 0 := rfl
@[simp] theorem add_kv (a b : Workload) : (a + b).activeKvCache = a.activeKvCache + b.activeKvCache := rfl
@[simp] theorem add_tokens (a b : Workload) : (a + b).activeTokens = a.activeTokens + b.activeTokens := rfl
@[simp] theorem neg_kv (a : Workload) : (-a).activeKvCache = -a.activeKvCache := rfl
@[simp] theorem neg_tokens (a : Workload) : (-a).activeTokens = -a.activeTokens := rfl
@[simp] theorem sub_kv (a b : Workload) : (a - b).activeKvCache = a.activeKvCache - b.activeKvCache := rfl
@[simp] theorem sub_tokens (a b : Workload) : (a - b).activeTokens = a.activeTokens - b.activeTokens := rfl

instance : AddCommGroup Workload where
  add_assoc _ _ _ := Workload.ext (add_assoc ..) (add_assoc ..)
  zero_add _ := Workload.ext (zero_add _) (zero_add _)
  add_zero _ := Workload.ext (add_zero _) (add_zero _)
  neg_add_cancel _ := Workload.ext (neg_add_cancel _) (neg_add_cancel _)
  add_comm _ _ := Workload.ext (add_comm ..) (add_comm ..)
  sub_eq_add_neg _ _ := Workload.ext (sub_eq_add_neg ..) (sub_eq_add_neg ..)
  nsmul := nsmulRec
  zsmul := zsmulRec

end Workload

/-! ## Demand of a request -/

def calculatePrefillScores (requestLength : Nat) : ℚ :=
  (requestLength : ℚ) / 4 * (345 / 10000) + 1200745 / 10000

def calculateDecodeScores (requestLength : Nat) : ℚ := requestLength

def calculateBothScores (requestLength : Nat) : ℚ :=
  (calculatePrefillScores requestLength + calculateDecodeScores requestLength) * (1 / 2)

def calculateDemandWorkload (role : PDRole) (requestLength : Nat) : Workload :=
  match role with
  | .roleP => ⟨calculatePrefillScores requestLength, calculatePrefillScores requestLength⟩
  | .roleD => ⟨0, calculateDecodeScores requestLength⟩
  | .roleU => ⟨calculateBothScores requestLength, calculateBothScores requestLength⟩

theorem calculatePrefillScores_pos (n : Nat) : 0 < calculatePrefillScores n := by
  unfold calculatePrefillScores
  positivity

theorem calculateDecodeScores_nonneg (n : Nat) : 0 ≤ calculateDecodeScores n := by
  unfold calculateDecodeScores
  positivity

theorem calculateBothScores_pos (n : Nat) : 0 < calculateBothScores n := by
  have hp := calculatePrefillScores_pos n
  have hd := calculateDecodeScores_nonneg n
  unfold calculateBothScores
  positivity

theorem calculateDemandWorkload_nonneg (role : PDRole) (n : Nat) : 0 ≤ calculateDemandWorkload role n := by
  cases role with
  | roleP => exact ⟨(calculatePrefillScores_pos n).le, (calculatePrefillScores_pos n).le⟩
  | roleD => exact ⟨le_refl _, calculateDecodeScores_nonneg n⟩
  | roleU => exact ⟨(calculateBothScores_pos n).le, (calculateBothScores_pos n).le⟩

open Lib

inductive EndpointStatus
  | initial
  | normal
  | abnormal
  | paused
  | wait2start
deriving DecidableEq, Repr

structure DeviceInfo where
  deviceIp : Option String := none
  deviceId : String
  rankId : String
  superDeviceId : Option String := none
deriving DecidableEq

structure Endpoint where
  id : Int
  ip : String := ""
  businessPort : String := ""
  mgmtPort : String := ""
  status : EndpointStatus := .initial
  workload : Workload := {}
  deviceInfos : List DeviceInfo := []
  hbTimestamp : ℚ := 0
deriving DecidableEq

/-- A group of endpoints by pod ip and by key within the pod. -/
structure Instance where
  jobName : String := ""
  modelName : String := ""
  id : Int
  role : String
  endpoints : Dict String (Dict Int Endpoint) := Dict.empty
  gatheredWorkload : Workload := {}
deriving DecidableEq

instance : Inhabited Instance := ⟨{ id := 0, role := "" }⟩

namespace Instance

/-- The endpoints of all pods with their pod and key, in the order of the source's two nested loops. -/
def endpointEntries (inst : Instance) : List (String × Int × Endpoint) :=
  inst.endpoints.entries.flatMap fun pod => pod.2.entries.map fun ep => (pod.1, ep.1, ep.2)

/-- The endpoints of all pods. -/
def endpointList (inst : Instance) : List Endpoint := inst.endpoints.values.flatMap Dict.values

def endpointAt (inst : Instance) (pod : String) (key : Int) : Option Endpoint :=
  (inst.endpoints.get? pod).bind fun eps => eps.get? key

/-- The last endpoint with the id, with its pod and key. -/
def lastEndpoint (inst : Instance) (eid : Int) : Option (String × Int × Endpoint) :=
  (inst.endpointEntries.filter fun e => e.2.2.id = eid).getLast?

/-- The workload reset of `_add_instances`. -/
def initWorkload (inst : Instance) : Instance :=
  { inst with
    gatheredWorkload := {}
    endpoints := inst.endpoints.mapValues fun eps => eps.mapValues fun ep => { ep with workload := {} } }

/-- `instance.gathered_workload += change`. -/
def addGathered (inst : Instance) (change : Workload) : Instance :=
  { inst with gatheredWorkload := inst.gatheredWorkload + change }

/-- `endpoint.workload += change` for the endpoint object at `pod`, `key`. -/
def addEndpointWorkload (inst : Instance) (pod : String) (key : Int) (change : Workload) : Instance :=
  { inst with
    endpoints := inst.endpoints.adjust pod fun eps =>
      eps.adjust key fun ep => { ep with workload := ep.workload + change } }

/-- `endpoint.workload = workload` for the endpoint object at `pod`, `key`. -/
def setEndpointWorkload (inst : Instance) (pod : String) (key : Int) (workload : Workload) : Instance :=
  { inst with
    endpoints := inst.endpoints.adjust pod fun eps => eps.adjust key fun ep => { ep with workload := workload } }

/-- `instance.gathered_workload = workload`. -/
def setGathered (inst : Instance) (workload : Workload) : Instance := { inst with gatheredWorkload := workload }

/-- Where the endpoints are and what their ids are. -/
def layout (inst : Instance) : List (String × Int × Int) :=
  inst.endpointEntries.map fun e => (e.1, e.2.1, e.2.2.id)

/-- No two endpoints of the instance have one id. -/
def UniqueEndpoints (inst : Instance) : Prop := (inst.endpointList.map Endpoint.id).Nodup

instance (inst : Instance) : Decidable inst.UniqueEndpoints := inferInstanceAs (Decidable (List.Nodup _))

/-- The gathered workload is the sum over the endpoints of all pods. -/
def Gathered (inst : Instance) : Prop :=
  inst.gatheredWorkload = (inst.endpointList.map Endpoint.workload).sum

/-! ## Endpoints by address -/

theorem endpointAt_iff {inst : Instance} {pod : String} {key : Int} {ep : Endpoint} :
    inst.endpointAt pod key = some ep ↔ (pod, key, ep) ∈ inst.endpointEntries := by
  simp only [endpointAt, Option.bind_eq_some_iff, Dict.get?_eq_some_iff, endpointEntries, List.mem_flatMap,
    List.mem_map, Prod.mk.injEq, Prod.exists]
  constructor
  · rintro ⟨eps, hp, he⟩
    exact ⟨pod, eps, hp, key, ep, he, rfl, rfl, rfl⟩
  · rintro ⟨p, eps, hp, k, e, he, rfl, rfl, rfl⟩
    exact ⟨eps, hp, he⟩

theorem mem_endpointList_iff {inst : Instance} {ep : Endpoint} :
    ep ∈ inst.endpointList ↔ ∃ pod key, inst.endpointAt pod key = some ep := by
  simp only [endpointList, List.mem_flatMap, Dict.mem_values_iff, endpointAt, Option.bind_eq_some_iff]
  constructor
  · rintro ⟨eps, ⟨pod, hp⟩, key, he⟩; exact ⟨pod, key, eps, hp, he⟩
  · rintro ⟨pod, key, eps, hp, he⟩; exact ⟨eps, ⟨pod, hp⟩, key, he⟩

theorem map_endpointEntries (inst : Instance) : inst.endpointEntries.map (·.2.2) = inst.endpointList := by
  simp [endpointEntries, endpointList, Dict.values, List.map_flatMap, List.flatMap_map, Function.comp_def]

theorem uniqueEndpoints_iff {inst : Instance} : inst.UniqueEndpoints ↔ (inst.layout.map (·.2.2)).Nodup := by
  unfold UniqueEndpoints layout
  rw [← map_endpointEntries, List.map_map, List.map_map]
  rfl

theorem endpointAt_initWorkload (inst : Instance) (pod : String) (key : Int) :
    inst.initWorkload.endpointAt pod key =
      (inst.endpointAt pod key).map fun ep => { ep with workload := {} } := by
  simp only [endpointAt, initWorkload, Dict.get?_mapValues]
  cases inst.endpoints.get? pod with
  | none => rfl
  | some eps => simp [Dict.get?_mapValues]

theorem endpointAt_adjust (inst : Instance) (pod pod' : String) (key key' : Int) (f : Endpoint → Endpoint) :
    { inst with endpoints := inst.endpoints.adjust pod fun eps => eps.adjust key f }.endpointAt pod' key' =
      if pod' = pod ∧ key' = key then (inst.endpointAt pod' key').map f else inst.endpointAt pod' key' := by
  simp only [endpointAt, Dict.get?_adjust]
  by_cases hp : pod' = pod
  · cases inst.endpoints.get? pod' with
    | none => simp
    | some eps => by_cases hk : key' = key <;> simp [hp, hk, Dict.get?_adjust]
  · simp [hp]

theorem endpointAt_addEndpointWorkload (inst : Instance) (pod pod' : String) (key key' : Int)
    (change : Workload) :
    (inst.addEndpointWorkload pod key change).endpointAt pod' key' =
      if pod' = pod ∧ key' = key then
        (inst.endpointAt pod' key').map fun ep => { ep with workload := ep.workload + change }
      else inst.endpointAt pod' key' :=
  endpointAt_adjust inst pod pod' key key' _

theorem endpointAt_setEndpointWorkload (inst : Instance) (pod pod' : String) (key key' : Int)
    (workload : Workload) :
    (inst.setEndpointWorkload pod key workload).endpointAt pod' key' =
      if pod' = pod ∧ key' = key then
        (inst.endpointAt pod' key').map fun ep => { ep with workload := workload }
      else inst.endpointAt pod' key' :=
  endpointAt_adjust inst pod pod' key key' _

theorem endpointEntries_adjust (inst : Instance) (pod : String) (key : Int) (f : Endpoint → Endpoint) :
    { inst with endpoints := inst.endpoints.adjust pod fun eps => eps.adjust key f }.endpointEntries =
      inst.endpointEntries.map fun e => if e.1 = pod ∧ e.2.1 = key then (e.1, e.2.1, f e.2.2) else e := by
  simp only [endpointEntries, Dict.adjust, List.map_flatMap, List.flatMap_map, List.map_map]
  congr 1
  funext p
  by_cases hp : p.1 = pod
  · simp only [hp, ↓reduceIte, List.map_map]
    apply List.map_congr_left
    intro e _
    by_cases hk : e.1 = key <;> simp [hk]
  · simp [hp]

theorem layout_adjust (inst : Instance) (pod : String) (key : Int) {f : Endpoint → Endpoint} (hid : ∀ ep, (f ep).id = ep.id) :
    { inst with endpoints := inst.endpoints.adjust pod fun eps => eps.adjust key f }.layout = inst.layout := by
  rw [layout, layout, endpointEntries_adjust, List.map_map]
  apply List.map_congr_left
  intro e _
  rw [Function.comp_apply]
  split
  · rw [hid]
  · rfl

/-! ## The gathered workload -/

theorem workload_initWorkload {inst : Instance} {ep : Endpoint} (h : ep ∈ inst.initWorkload.endpointList) :
    ep.workload = 0 := by
  obtain ⟨pod, key, hat⟩ := mem_endpointList_iff.mp h
  rw [endpointAt_initWorkload] at hat
  obtain ⟨ep', _, rfl⟩ := Option.map_eq_some_iff.mp hat
  rfl

theorem gathered_initWorkload (inst : Instance) : inst.initWorkload.Gathered := by
  have h : ∀ w ∈ inst.initWorkload.endpointList.map Endpoint.workload, w = 0 := by
    intro w hw
    obtain ⟨ep, hep, rfl⟩ := List.mem_map.mp hw
    exact workload_initWorkload hep
  exact (List.sum_eq_zero h).symm

theorem sum_workload_eq (inst : Instance) :
    (inst.endpointList.map Endpoint.workload).sum =
      (inst.endpoints.values.map fun eps => (eps.values.map Endpoint.workload).sum).sum := by
  unfold endpointList
  induction inst.endpoints.values with
  | nil => rfl
  | cons eps l ih => simp [List.sum_append, ih]

theorem sum_workload_addEndpointWorkload (inst : Instance) {pod : String} {key : Int} {ep : Endpoint}
    (hat : inst.endpointAt pod key = some ep) (change : Workload) :
    ((inst.addEndpointWorkload pod key change).endpointList.map Endpoint.workload).sum =
      (inst.endpointList.map Endpoint.workload).sum + change := by
  obtain ⟨eps, hp, he⟩ := Option.bind_eq_some_iff.mp hat
  rw [sum_workload_eq, sum_workload_eq]
  simp only [addEndpointWorkload]
  rw [Dict.sum_values_adjust _ _ hp, Dict.sum_values_adjust _ _ he]
  dsimp only
  abel

theorem gathered_add {inst : Instance} {pod : String} {key : Int} {ep : Endpoint} (h : inst.Gathered)
    (hat : inst.endpointAt pod key = some ep) (change : Workload) :
    ((inst.addGathered change).addEndpointWorkload pod key change).Gathered := by
  have hsum := sum_workload_addEndpointWorkload (inst.addGathered change) hat change
  unfold Gathered at h ⊢
  rw [hsum]
  exact congrArg (· + change) h

end Instance

end PyMotor
