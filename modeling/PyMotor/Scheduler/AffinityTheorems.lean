import PyMotor.Scheduler.BalanceTheorems

/-!
# What the client selects stays among what can be selected

The policy for the key-value cache reads the longest match of the instances and then the values of the endpoints of one
of them, and takes the last of the largest both times. It goes through the endpoints of all pods, where the other
policies go through those that can be selected.
-/

namespace PyMotor

open Lib

namespace KvCacheAffinityPolicy

/-! ## What a reply says -/

def conductorData (tenant : Json) (inst : ManagedInstance) : Except ReplyError (Option (ℚ × Json)) := do
  match ← getField tenant ("vllm-prefill-" ++ toString inst.id) .null with
  | .null => return none
  | data =>
    let matched ← readNumber (← getField data "longest_matched" (.int 0))
    let dp ← getField data "DP" (.obj [])
    return some (matched, dp)

def readMatched (tenant : Json) (inst : ManagedInstance) : Except ReplyError (Option ℚ) :=
  (conductorData tenant inst).map fun data => data.map Prod.fst

def hasData (tenant : Json) (inst : ManagedInstance) : Bool := known (readMatched tenant) inst

def longestMatched (tenant : Json) (inst : ManagedInstance) : ℚ := scoreOr (readMatched tenant) 0 inst

def dpOf (tenant : Json) (inst : ManagedInstance) : Json :=
  match conductorData tenant inst with
  | .ok (some (_, dp)) => dp
  | _ => .null

def readDp (dp : Json) (ep : Endpoint) : Except ReplyError (Option ℚ) := do
  return some (← readNumber (← getField dp (toString ep.id) (.int 0)))

def dpValue (dp : Json) (ep : Endpoint) : ℚ := scoreOr (readDp dp) 0 ep

def tenantOf (reply : Json) : Json :=
  match getField reply "default" .null with
  | .ok tenant => tenant
  | .error _ => .null

/-- The reply can be read for the instances and for the endpoints of the instance; the instance is the last one of the
longest match, and the endpoint the last one of the largest value in all pods. -/
structure Decides (tenant : Json) (instances : List ManagedInstance) (inst : ManagedInstance) (ep : Endpoint) :
    Prop where
  readable : ∀ x ∈ instances, ∃ matched, readMatched tenant x = .ok matched
  longest : IsLastMax (longestMatched tenant) 0 (instances.filter (hasData tenant)) inst
  truthy : (dpOf tenant inst).truthy = true
  values : ∀ x ∈ inst.endpointList, ∃ value, readDp (dpOf tenant inst) x = .ok value
  largest : IsLastMax (dpValue (dpOf tenant inst)) 0 inst.endpointList ep

/-! ## The loops -/

variable {tenant reply : Json} {instances : List ManagedInstance} {inst : ManagedInstance} {ep : Endpoint}

/-- The loop over the instances keeps the `DP` next to the instance. -/
def withDp (tenant : Json) (best : ℚ × Option ManagedInstance) : ℚ × Option (ManagedInstance × Json) :=
  (best.1, best.2.map fun inst => (inst, dpOf tenant inst))

theorem matchInstances_cons (tenant : Json) (inst : ManagedInstance) (rest : List ManagedInstance)
    (best : ℚ × Option (ManagedInstance × Json)) :
    matchInstances tenant (inst :: rest) best = (conductorData tenant inst).bind fun
      | none => matchInstances tenant rest best
      | some (matched, dp) =>
        matchInstances tenant rest (if matched < best.1 then best else (matched, some (inst, dp))) := by
  simp only [matchInstances, conductorData, bind, Except.bind, pure, Except.pure]
  cases hfield : getField tenant ("vllm-prefill-" ++ toString inst.id) .null with
  | error e => rfl
  | ok data =>
      cases data with
      | null => rfl
      | obj items =>
          simp only [getField]
          cases readNumber ((JsonObj.get? items "longest_matched").getD (.int 0)) with
          | error e => rfl
          | ok matched => by_cases hlt : matched < best.1 <;> simp [hlt]
      | _ => rfl

theorem matchInstances_eq (tenant : Json) (instances : List ManagedInstance) (best : ℚ × Option ManagedInstance) :
    matchInstances tenant instances (withDp tenant best) =
      (readMax (readMatched tenant) instances best).map (withDp tenant) := by
  induction instances generalizing best with
  | nil => rfl
  | cons inst rest ih =>
      rw [matchInstances_cons]
      cases hdata : conductorData tenant inst with
      | error e => simp [readMax, readMatched, hdata, Except.bind, Except.map]
      | ok data =>
          cases data with
          | none =>
              have hread : readMatched tenant inst = .ok none := by simp [readMatched, hdata, Except.map]
              simp only [readMax, hread]
              exact ih best
          | some entry =>
              obtain ⟨matched, dp⟩ := entry
              have hread : readMatched tenant inst = .ok (some matched) := by simp [readMatched, hdata, Except.map]
              have hkeep : (if matched < (withDp tenant best).1 then withDp tenant best else (matched, some (inst, dp))) =
                  withDp tenant (keepMax best matched inst) := by
                unfold keepMax
                by_cases hlt : matched < best.1 <;> simp [withDp, dpOf, hdata, hlt]
              simp only [Except.bind, hkeep, readMax, hread]
              exact ih _

theorem matchEndpoints_eq (dp : Json) (eps : List Endpoint) (best : ℚ × Option Endpoint) :
    matchEndpoints dp eps best = readMax (readDp dp) eps best := by
  induction eps generalizing best with
  | nil => rfl
  | cons ep rest ih =>
      simp only [matchEndpoints, readMax, readDp, bind, Except.bind, pure, Except.pure]
      cases getField dp (toString ep.id) (.int 0) with
      | error e => rfl
      | ok value =>
          cases hnumber : readNumber value with
          | error e => simp [hnumber]
          | ok q =>
              unfold keepMax
              by_cases hlt : q < best.1 <;> simp [hnumber, hlt, ih]

/-! ## What the policy decides -/

theorem selectEndpointFromList_ok_iff : selectEndpointFromList instances reply = .ok (some (inst, ep)) ↔
    tenantOf reply ≠ .null ∧ ∃ dp, dp.truthy = true ∧
      (∃ m, matchInstances (tenantOf reply) instances (0, none) = .ok (m, some (inst, dp))) ∧
      ∃ m, matchEndpoints dp inst.endpointList (0, none) = .ok (m, some ep) := by
  unfold selectEndpointFromList tenantOf
  cases getField reply "default" .null with
  | error e => simp [bind, Except.bind]
  | ok tenant =>
      simp only [bind, Except.bind, pure, Except.pure]
      split
      · simp
      · rename_i hnull
        have hne : tenant ≠ .null := fun h => hnull h
        cases hmatch : matchInstances tenant instances (0, none) with
        | error e => simp
        | ok out =>
            obtain ⟨m, best⟩ := out
            cases best with
            | none => simp
            | some entry =>
                obtain ⟨x, dp⟩ := entry
                cases htruthy : dp.truthy with
                | false =>
                    simp only [htruthy]
                    grind
                | true =>
                    cases hend : matchEndpoints dp x.endpointList (0, none) with
                    | error e => grind
                    | ok out =>
                        obtain ⟨m', best⟩ := out
                        cases best <;> simp <;> grind

theorem exists_matchInstances_iff {dp : Json} :
    (∃ m, matchInstances tenant instances (0, none) = .ok (m, some (inst, dp))) ↔
      (∀ x ∈ instances, ∃ matched, readMatched tenant x = .ok matched) ∧
        IsLastMax (longestMatched tenant) 0 (instances.filter (hasData tenant)) inst ∧ dp = dpOf tenant inst := by
  have hloop := matchInstances_eq tenant instances (0, none)
  rw [show withDp tenant (0, none) = (0, none) from rfl] at hloop
  rw [hloop, ← and_assoc]
  unfold longestMatched hasData
  rw [← readMax_some_iff]
  cases readMax (readMatched tenant) instances (0, none) with
  | error e => simp [Except.map]
  | ok out =>
      obtain ⟨m, best⟩ := out
      cases best with
      | none => simp [Except.map, withDp]
      | some x => simp [Except.map, withDp]; grind

theorem filter_known_readDp {dp : Json} {eps : List Endpoint} (h : ∀ x ∈ eps, ∃ value, readDp dp x = .ok value) :
    eps.filter (known (readDp dp)) = eps := by
  refine List.filter_eq_self.mpr fun x hx => ?_
  obtain ⟨value, hvalue⟩ := h x hx
  have hsome : ∃ q, value = some q := by
    simp only [readDp, bind, Except.bind, pure, Except.pure] at hvalue
    grind
  obtain ⟨q, rfl⟩ := hsome
  simp [known, hvalue]

theorem tenant_ne_null_of_hasData (h : hasData tenant inst = true) : tenant ≠ .null := by
  rintro rfl
  cases h

/-- The policy returns exactly what the reply decides. -/
theorem selectEndpointFromList_iff : selectEndpointFromList instances reply = .ok (some (inst, ep)) ↔
    Decides (tenantOf reply) instances inst ep := by
  rw [selectEndpointFromList_ok_iff]
  simp only [exists_matchInstances_iff, matchEndpoints_eq, readMax_some_iff]
  constructor
  · rintro ⟨-, dp, htruthy, ⟨hreadable, hlongest, rfl⟩, hvalues, hlargest⟩
    rw [filter_known_readDp hvalues] at hlargest
    exact ⟨hreadable, hlongest, htruthy, hvalues, hlargest⟩
  · intro h
    refine ⟨tenant_ne_null_of_hasData (List.of_mem_filter h.longest.mem), _, h.truthy, ⟨h.readable, h.longest, rfl⟩,
      h.values, ?_⟩
    rw [filter_known_readDp h.values]
    exact h.largest

end KvCacheAffinityPolicy

/-! ## The client -/

namespace LoadBalancePolicy

theorem mem_of_selectInstanceFromList {instances : List ManagedInstance} {role : Option PDRole} {startIndex : Nat}
    {inst : ManagedInstance} (h : selectInstanceFromList instances role startIndex = some inst) : inst ∈ instances := by
  rw [selectInstanceFromList_eq] at h
  exact List.mem_rotate.mp (mem_of_foldl_keepMin h)

theorem mem_of_selectEndpointFromInstance {inst : ManagedInstance} {ep : Endpoint}
    (h : selectEndpointFromInstance inst = some ep) : ep ∈ inst.getAllEndpoints := by
  unfold selectEndpointFromInstance at h
  split at h
  · cases h
  · exact mem_of_foldl_keepMin h

end LoadBalancePolicy

theorem RoundRobinPolicy.mem_of_selectInstanceFromList {instances : List ManagedInstance} {counter next : Int}
    {inst : ManagedInstance} (h : selectInstanceFromList instances counter = (some inst, next)) : inst ∈ instances := by
  unfold selectInstanceFromList at h
  split at h
  · cases h
  · exact List.mem_of_getElem? (Prod.mk.inj h).1

theorem ManagedInstance.mem_getAllEndpoints_iff {x : ManagedInstance} {ep : Endpoint} :
    ep ∈ x.getAllEndpoints ↔ ep ∈ x.endpointList ∧ (x.enableMultiEndpoints = true ∨ ep.id = 0) := by
  unfold getAllEndpoints
  cases x.enableMultiEndpoints <;> simp

namespace ClientSelector

variable {client : ClientSelector} {instances : List ManagedInstance} {role : PDRole} {reply : Json}
  {inst : ManagedInstance} {ep : Endpoint}

theorem mem_of_selectEndpointForInstance {x : ManagedInstance}
    (h : (client.selectEndpointForInstance x).1 = some (inst, ep)) : inst = x ∧ ep ∈ x.getAllEndpoints := by
  unfold selectEndpointForInstance at h
  cases hall : x.getAllEndpoints with
  | nil =>
      simp only [hall] at h
      cases h
  | cons first rest =>
      rw [← hall]
      simp only [hall] at h
      split at h
      · unfold RoundRobinPolicy.selectEndpointFromInstance at h
        simp only [hall, List.isEmpty_cons, Bool.false_eq_true, if_false, Option.map_eq_some_iff, Prod.mk.injEq] at h
        obtain ⟨ep', hep, rfl, rfl⟩ := h
        exact ⟨rfl, by rw [hall]; exact List.mem_of_getElem? hep⟩
      · cases hlb : LoadBalancePolicy.selectEndpointFromInstance x with
        | none =>
            rw [hlb] at h
            cases h
            exact ⟨rfl, by simp [hall]⟩
        | some ep' =>
            rw [hlb] at h
            cases h
            exact ⟨rfl, LoadBalancePolicy.mem_of_selectEndpointFromInstance hlb⟩

theorem mem_of_selectByRoundRobin (h : (client.selectByRoundRobin instances role).1 = some (inst, ep)) :
    inst ∈ instances ∧ ep ∈ inst.getAllEndpoints := by
  cases hselect : RoundRobinPolicy.selectInstanceFromList instances
      ((client.instanceRrCounters.get? role).getD 0 + client.startOffset instances.length) with
  | mk selected next =>
      cases selected with
      | none =>
          simp only [selectByRoundRobin, hselect] at h
          cases h
      | some x =>
          simp only [selectByRoundRobin, hselect] at h
          obtain ⟨rfl, hep⟩ := mem_of_selectEndpointForInstance h
          exact ⟨RoundRobinPolicy.mem_of_selectInstanceFromList hselect, hep⟩

theorem mem_of_selectByLoadBalance (h : (client.selectByLoadBalance instances role).1 = some (inst, ep)) :
    inst ∈ instances ∧ ep ∈ inst.getAllEndpoints := by
  unfold selectByLoadBalance at h
  cases hselect : client.selectInstanceByLoadBalance instances role with
  | none =>
      rw [hselect] at h
      exact mem_of_selectByRoundRobin h
  | some x =>
      rw [hselect] at h
      obtain ⟨rfl, hep⟩ := mem_of_selectEndpointForInstance h
      exact ⟨LoadBalancePolicy.mem_of_selectInstanceFromList hselect, hep⟩

theorem selectFromList_cases (h : (client.selectFromList instances role reply).1 = .ok (some (inst, ep))) :
    (client.schedulerType = .kvCacheAffinity ∧ role = .roleP ∧
      KvCacheAffinityPolicy.selectEndpointFromList instances reply = .ok (some (inst, ep))) ∨
    inst ∈ instances ∧ ep ∈ inst.getAllEndpoints := by
  have hbalance : ∀ {result}, result = (client.selectByLoadBalance instances role).1 →
      (.ok result : Except ReplyError _) = .ok (some (inst, ep)) → inst ∈ instances ∧ ep ∈ inst.getAllEndpoints := by
    rintro _ rfl hresult
    exact mem_of_selectByLoadBalance (Except.ok.inj hresult)
  unfold selectFromList at h
  split at h
  · cases h
  · split at h
    · exact Or.inr (hbalance rfl h)
    · rename_i htype
      split at h
      · rename_i hrole
        split at h
        · cases h
        · rename_i hselect
          cases h
          exact Or.inl ⟨htype, hrole, hselect⟩
        · exact Or.inr (hbalance rfl h)
      · exact Or.inr (hbalance rfl h)
    · exact Or.inr (mem_of_selectByRoundRobin (Except.ok.inj h))

open KvCacheAffinityPolicy in
/-- What is returned is an instance of the list with one of its endpoints to select, and where the conductor decides, the
match of the instance is the longest and the value of the endpoint the largest of those. -/
structure StaysInside (client : ClientSelector) (instances : List ManagedInstance) (role : PDRole) (reply : Json) :
    Prop where
  inside : ∀ inst ep, (client.selectFromList instances role reply).1 = .ok (some (inst, ep)) →
    inst ∈ instances ∧ ep ∈ inst.getAllEndpoints
  decided : client.schedulerType = .kvCacheAffinity → role = .roleP → ∀ inst ep,
    selectEndpointFromList instances reply = .ok (some (inst, ep)) →
    (hasData (tenantOf reply) inst = true ∧ ∀ x ∈ instances, hasData (tenantOf reply) x = true →
      longestMatched (tenantOf reply) x ≤ longestMatched (tenantOf reply) inst) ∧
    ep ∈ inst.getAllEndpoints ∧ ∀ x ∈ inst.getAllEndpoints,
      dpValue (dpOf (tenantOf reply) inst) x ≤ dpValue (dpOf (tenantOf reply) inst) ep

open KvCacheAffinityPolicy in
/-- A selection stays inside exactly when the endpoint that a reply decides on can be selected. -/
theorem staysInside_iff (client : ClientSelector) (instances : List ManagedInstance) (role : PDRole) (reply : Json) :
    StaysInside client instances role reply ↔
      (client.schedulerType = .kvCacheAffinity → role = .roleP → ∀ inst ep,
        Decides (tenantOf reply) instances inst ep → inst.enableMultiEndpoints = true ∨ ep.id = 0) := by
  constructor
  · intro h htype hrole inst ep hdecides
    have hmem := (h.decided htype hrole inst ep (selectEndpointFromList_iff.mpr hdecides)).2.1
    exact (ManagedInstance.mem_getAllEndpoints_iff.mp hmem).2
  · intro h
    have hmem : client.schedulerType = .kvCacheAffinity → role = .roleP → ∀ inst ep,
        Decides (tenantOf reply) instances inst ep → ep ∈ inst.getAllEndpoints :=
      fun htype hrole inst ep hdecides => ManagedInstance.mem_getAllEndpoints_iff.mpr
        ⟨hdecides.largest.mem, h htype hrole inst ep hdecides⟩
    constructor
    · intro inst ep hselect
      rcases selectFromList_cases hselect with ⟨htype, hrole, hkv⟩ | hinside
      · have hdecides := selectEndpointFromList_iff.mp hkv
        exact ⟨List.mem_of_mem_filter hdecides.longest.mem, hmem htype hrole inst ep hdecides⟩
      · exact hinside
    · intro htype hrole inst ep hkv
      have hdecides := selectEndpointFromList_iff.mp hkv
      refine ⟨⟨List.of_mem_filter hdecides.longest.mem, fun x hx hdata => ?_⟩, hmem htype hrole inst ep hdecides,
        fun x hx => ?_⟩
      · exact hdecides.longest.le (List.mem_filter.mpr ⟨hx, hdata⟩)
      · exact hdecides.largest.le (ManagedInstance.mem_getAllEndpoints_iff.mp hx).1

def singleEndpoint : ManagedInstance where
  id := 1
  role := "prefill"
  endpoints := .single "10.0.0.1" ((Dict.single 0 { id := 0 }).set 1 { id := 1 })
  enableMultiEndpoints := false

def secondMatches : Json :=
  .obj [("default", .obj [("vllm-prefill-1",
    .obj [("longest_matched", .int 128), ("DP", .obj [("0", .int 0), ("1", .int 128)])])])]

/-- The client returns the endpoint with id 1, which cannot be selected. -/
theorem singleEndpoint_not_inside : ¬ StaysInside { schedulerType := .kvCacheAffinity } [singleEndpoint] .roleP
    secondMatches := by
  intro h
  have hreturn : (selectFromList { schedulerType := .kvCacheAffinity } [singleEndpoint] .roleP secondMatches).1 =
      .ok (some (singleEndpoint, { id := 1 })) := by rfl
  exact absurd (h.inside _ _ hreturn).2 (by decide)

end ClientSelector

end PyMotor
