import PyMotor.Router.ContextRouter
import PyMotor.Worker.Client

/-!
# Readiness and the choice of a router

`get_required_instances_status` of the coordinator's instance manager, `has_required_instances` of a worker's client,
and `handle_request` in `motor/coordinator/router/dispatch.py`.
-/

namespace PyMotor

open Lib

inductive DeployMode
  | singleNode
  | pdSeparate
  | cdpSeparate
  | cpcdSeparate
  | pdDualDispatch
  | pdDisaggregationSingleContainer
deriving DecidableEq, Repr

inductive InstanceReadiness
  | requiredMet
  | onlyPrefill
  | onlyDecode
  | none
  | unknown
deriving DecidableEq, Repr

def InstanceReadiness.isReady (readiness : InstanceReadiness) : Bool := readiness = .requiredMet

namespace InstanceManager

/-- `get_required_instances_status`; `None` is no deploy mode. -/
def getRequiredInstancesStatus (m : InstanceManager) (deployMode : Option DeployMode) : InstanceReadiness :=
  match deployMode with
  | none => .unknown
  | some deployMode =>
    let hasP := 0 < m.prefillPool.entries.length
    let hasD := 0 < m.decodePool.entries.length
    let hasU := 0 < m.hybridPool.entries.length
    if deployMode ∈ [DeployMode.cdpSeparate, .cpcdSeparate, .pdSeparate, .pdDisaggregationSingleContainer,
        .pdDualDispatch] then
      if hasP ∧ hasD then .requiredMet
      else if hasP then .onlyPrefill
      else if hasD then .onlyDecode
      else .none
    else if deployMode = .singleNode then
      if hasU then .requiredMet else .none
    else .unknown

/-- `get_available_instances(role)` is not empty. -/
def Available (m : InstanceManager) (role : PDRole) : Prop := (m.getAvailableInstances (some role)).entries ≠ []

end InstanceManager

namespace SchedulerInstanceCache

/-- `_status` in `has_required_instances`, on the lists of the cache. -/
def status (c : SchedulerInstanceCache) (mode : DeployMode) : InstanceReadiness :=
  let pList := c.getInstances .roleP
  let dList := c.getInstances .roleD
  let uList := c.getInstances .roleU
  if mode ∈ [DeployMode.cdpSeparate, .cpcdSeparate, .pdSeparate, .pdDisaggregationSingleContainer,
      .pdDualDispatch] then
    if 0 < pList.length ∧ 0 < dList.length then .requiredMet
    else if 0 < pList.length then .onlyPrefill
    else if 0 < dList.length then .onlyDecode
    else .none
  else if mode = .singleNode then
    if 0 < uList.length then .requiredMet else .none
  else .unknown

def Available (c : SchedulerInstanceCache) (role : PDRole) : Prop := c.getInstances role ≠ []

end SchedulerInstanceCache

/-- `has_required_instances`; without a deploy mode that of separate prefill and decode counts. The fetch has the
outcome of `get_available_instances`. -/
def AsyncSchedulerClient.hasRequiredInstances (client : AsyncSchedulerClient) (deployMode : Option DeployMode)
    (attaches : Bool) (response : Option (Except String AvailableInstances)) :
    InstanceReadiness × AsyncSchedulerClient :=
  let mode := deployMode.getD .pdSeparate
  if (client.cache.status mode).isReady then (client.cache.status mode, client)
  else
    let client := client.getAvailableInstances none attaches response
    (client.cache.status mode, client)

/-! ## Routers -/

inductive RouterClass
  | separateCdp
  | separatePd
  | pdHybrid
  | separatePdDualDispatch
deriving DecidableEq, Repr

def routerMap : DeployMode → RouterClass
  | .cdpSeparate => .separateCdp
  | .pdSeparate => .separateCdp
  | .cpcdSeparate => .separatePd
  | .singleNode => .pdHybrid
  | .pdDisaggregationSingleContainer => .separateCdp
  | .pdDualDispatch => .separatePdDualDispatch

/-- The roles that a router passes to `prepare_resource`; a CDP router asks for its prefill in the metaserver request. -/
def RouterClass.roles : RouterClass → List PDRole
  | .separateCdp => [.roleP, .roleD]
  | .separatePd => [.roleP, .roleD]
  | .pdHybrid => [.roleP]
  | .separatePdDualDispatch => [.roleP, .roleD]

def ContextRouter.routerClass : ContextRouter → RouterClass
  | .pdHybridRouter => .pdHybrid
  | .separatePdDualDispatchRouter => .separatePdDualDispatch

theorem ContextRouter.roles_routerClass (kind : ContextRouter) :
    kind.routerClass.roles = kind.contexts.filterMap fun context =>
      match context with
      | .resource role _ => some role
      | .request => none
      | .client => none := by
  cases kind with
  | pdHybridRouter => rfl
  | separatePdDualDispatchRouter => rfl

/-- `handle_request` falls back to a single node when there is prefill only. -/
def fallsBack (configMode : DeployMode) (readiness : InstanceReadiness) : Bool :=
  configMode ∈ [DeployMode.pdSeparate, .cdpSeparate, .cpcdSeparate, .pdDisaggregationSingleContainer] ∧
    readiness = .onlyPrefill

/-- The router of `handle_request`. -/
def chosenRouter (configMode : DeployMode) (readiness : InstanceReadiness) : RouterClass :=
  routerMap (if fallsBack configMode readiness then .singleNode else configMode)

/-! ## What readiness is for -/

/-- A router that is chosen with a status that admits requests finds an instance for every role that it asks for. -/
def ReadinessAgrees (configMode : DeployMode) (readiness : InstanceReadiness) (available : PDRole → Prop) : Prop :=
  readiness = .requiredMet ∨ fallsBack configMode readiness = true →
    ∀ role ∈ (chosenRouter configMode readiness).roles, available role

/-!
## Readiness agrees with routing but for hybrid instances
-/

/-- The status by what is available. -/
def requiredStatus (available : PDRole → Prop) [DecidablePred available] : DeployMode → InstanceReadiness
  | .singleNode => if available .roleU then .requiredMet else .none
  | _ =>
    if available .roleP ∧ available .roleD then .requiredMet
    else if available .roleP then .onlyPrefill
    else if available .roleD then .onlyDecode
    else .none

instance (m : InstanceManager) : DecidablePred m.Available := fun role =>
  inferInstanceAs (Decidable ((m.getAvailableInstances (some role)).entries ≠ []))

instance (c : SchedulerInstanceCache) : DecidablePred c.Available := fun role =>
  inferInstanceAs (Decidable (c.getInstances role ≠ []))

theorem InstanceManager.status_eq (m : InstanceManager) (mode : DeployMode) :
    m.getRequiredInstancesStatus (some mode) = requiredStatus m.Available mode := by
  have hp : 0 < m.prefillPool.entries.length ↔ m.Available .roleP := List.length_pos_iff
  have hd : 0 < m.decodePool.entries.length ↔ m.Available .roleD := List.length_pos_iff
  have hu : 0 < m.hybridPool.entries.length ↔ m.Available .roleU := List.length_pos_iff
  cases mode <;> simp [getRequiredInstancesStatus, requiredStatus, hp, hd, hu]

theorem SchedulerInstanceCache.status_eq (c : SchedulerInstanceCache) (mode : DeployMode) :
    c.status mode = requiredStatus c.Available mode := by
  have hlen : ∀ role, 0 < (c.getInstances role).length ↔ c.Available role := fun role => List.length_pos_iff
  cases mode <;> simp [status, requiredStatus, hlen]

theorem AsyncSchedulerClient.hasRequiredInstances_status (client : AsyncSchedulerClient) (mode : DeployMode)
    (attaches : Bool) (response : Option (Except String AvailableInstances)) :
    (client.hasRequiredInstances (some mode) attaches response).1 =
      (client.hasRequiredInstances (some mode) attaches response).2.cache.status mode := by
  unfold hasRequiredInstances
  dsimp only [Option.getD_some]
  split <;> rfl

variable {available : PDRole → Prop} [DecidablePred available]

theorem chosenRouter_eq {mode : DeployMode} {readiness : InstanceReadiness} (hmode : mode ≠ .singleNode)
    (h : readiness = .requiredMet) : (chosenRouter mode readiness).roles = [.roleP, .roleD] := by
  subst h
  cases mode with
  | singleNode => exact absurd rfl hmode
  | _ => rfl

/-- The status and the router disagree exactly when a single node has hybrid instances and no prefill instance. -/
theorem readinessAgrees_requiredStatus (mode : DeployMode) :
    ReadinessAgrees mode (requiredStatus available mode) available ↔
      ¬ (mode = .singleNode ∧ available .roleU ∧ ¬ available .roleP) := by
  unfold ReadinessAgrees
  by_cases hmode : mode = .singleNode
  · subst hmode
    by_cases hu : available .roleU
    · simp [requiredStatus, hu, chosenRouter, fallsBack, routerMap, RouterClass.roles]
    · simp [requiredStatus, hu, fallsBack]
  · have hstatus : requiredStatus available mode =
        if available .roleP ∧ available .roleD then .requiredMet
        else if available .roleP then .onlyPrefill
        else if available .roleD then .onlyDecode
        else .none := by
      cases mode with
      | singleNode => exact absurd rfl hmode
      | _ => rfl
    simp only [hmode, false_and, not_false_eq_true, iff_true]
    intro hready
    by_cases hp : available .roleP
    · by_cases hd : available .roleD
      · rw [hstatus, if_pos ⟨hp, hd⟩, chosenRouter_eq hmode rfl]
        simp [hp, hd]
      · have honly : requiredStatus available mode = .onlyPrefill := by simp [hstatus, hp, hd]
        rw [honly] at hready ⊢
        have hfalls := hready.resolve_left (by simp)
        simp [chosenRouter, hfalls, routerMap, RouterClass.roles, hp]
    · have hother : requiredStatus available mode = .onlyDecode ∨ requiredStatus available mode = .none := by
        by_cases hd : available .roleD <;> simp [hstatus, hp, hd]
      rcases hother with he | he <;> simp [he, fallsBack] at hready

/-- Both functions give the same status on the same instances. A router that they admit finds an instance for every
role that it asks for, unless a single node has hybrid instances and no prefill instance. -/
theorem readiness_agrees_iff (mode : DeployMode) (m : InstanceManager) (client : AsyncSchedulerClient) (attaches : Bool)
    (response : Option (Except String AvailableInstances)) :
    (ReadinessAgrees mode (m.getRequiredInstancesStatus (some mode)) m.Available ↔
      ¬ (mode = .singleNode ∧ m.Available .roleU ∧ ¬ m.Available .roleP)) ∧
    (ReadinessAgrees mode (client.hasRequiredInstances (some mode) attaches response).1
        (client.hasRequiredInstances (some mode) attaches response).2.cache.Available ↔
      ¬ (mode = .singleNode ∧ (client.hasRequiredInstances (some mode) attaches response).2.cache.Available .roleU ∧
        ¬ (client.hasRequiredInstances (some mode) attaches response).2.cache.Available .roleP)) ∧
    ((∀ role, client.cache.Available role ↔ m.Available role) →
      client.cache.status mode = m.getRequiredInstancesStatus (some mode)) ∧
    ((∀ role, (client.hasRequiredInstances (some mode) attaches response).2.cache.Available role ↔ m.Available role) →
      (client.hasRequiredInstances (some mode) attaches response).1 = m.getRequiredInstancesStatus (some mode)) := by
  have hstatus : ∀ c : SchedulerInstanceCache, (∀ role, c.Available role ↔ m.Available role) →
      c.status mode = m.getRequiredInstancesStatus (some mode) := by
    intro c hsame
    rw [m.status_eq, SchedulerInstanceCache.status_eq]
    cases mode <;> simp [requiredStatus, hsame]
  refine ⟨?_, ?_, hstatus client.cache, fun hsame => ?_⟩
  · rw [m.status_eq]
    exact readinessAgrees_requiredStatus mode
  · rw [AsyncSchedulerClient.hasRequiredInstances_status, SchedulerInstanceCache.status_eq]
    exact readinessAgrees_requiredStatus mode
  · rw [AsyncSchedulerClient.hasRequiredInstances_status]
    exact hstatus _ hsame

/-- A hybrid instance on a single node: the status admits requests, and the router asks for prefill. -/
theorem not_readinessAgrees_hybrid :
    ¬ ReadinessAgrees .singleNode
      (InstanceManager.getRequiredInstancesStatus { hybridPool := Dict.empty.set 1 0 } (some .singleNode))
      (InstanceManager.Available { hybridPool := Dict.empty.set 1 0 }) := by
  intro h
  exact h (.inl rfl) .roleP (List.mem_singleton.mpr rfl) rfl

end PyMotor
