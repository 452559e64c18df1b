import PyMotor.Lib.Numeral
import PyMotor.Lib.Replica
import PyMotor.Pool.Lemmas.Outcome
import PyMotor.Pool.Lemmas.PooledAll

/-!
# Registration at the kv conductor

`_register_kv_instance` of `motor/coordinator/domain/instance_manager.py` and
`motor/coordinator/api_client/conductor_api_client.py`. The manager of the management process announces the
endpoints of the prefill instances that a refresh enters, and takes back those of the instances that a DEL lists. A
SET takes nothing back. A post that fails is logged only, so the posts stand here for what the conductor is told.
-/

namespace PyMotor

open Lib

/-- The fields of `PrefillKvEventConfig` that the posts use. -/
structure PrefillKvEventConfig where
  blockSize : Int := 128
  endpoint : String := ""
  replayEndpoint : String := ""
  engineType : String := "vLLM"

namespace ConductorApiClient

/-- The body of `/unregister`. The tenant is the default one, which the bodies leave out. -/
structure Registration where
  type : String
  modelname : String
  blockSize : Int
  instanceId : String
  dpRank : Int
deriving DecidableEq

/-- The body of `/register`. -/
structure RegisterData extends Registration where
  endpoint : String
  replayEndpoint : Option String
deriving DecidableEq

/-- `s.split("*:")`. -/
def splitWildcard : List Char → List (List Char)
  | '*' :: ':' :: s => [] :: splitWildcard s
  | c :: s => (splitWildcard s).modifyHead (c :: ·)
  | [] => [[]]

/-- The address that a pattern gives an endpoint; `none` when the pattern does not have one `*:`. -/
def address (pattern : String) (endpoint : Endpoint) : Except PyErr (Option String) :=
  match splitWildcard pattern.toList with
  | [scheme, port] =>
    match Text.int 10 port with
    | none => .error .valueError
    | some port => .ok (some (String.ofList scheme ++ endpoint.ip ++ ":" ++ toString (port + endpoint.id)))
  | _ => .ok none

section

variable (config : PrefillKvEventConfig)

/-- What `unregister_post` sends. -/
def unregisterPost (inst : Instance) (endpoint : Endpoint) : Registration where
  type := config.engineType
  modelname := inst.modelName
  blockSize := config.blockSize
  instanceId := "vllm-prefill-" ++ toString inst.id
  dpRank := endpoint.id

/-- What `register_post` sends, if anything. -/
def registerPost (inst : Instance) (endpoint : Endpoint) : Except PyErr (Option RegisterData) := do
  match ← address config.endpoint endpoint with
  | none => return none
  | some kvEndpoint =>
    let replayEndpoint ← if config.replayEndpoint = "" then pure none else address config.replayEndpoint endpoint
    return some { unregisterPost config inst endpoint with endpoint := kvEndpoint, replayEndpoint }

/-- The endpoints that the two loops visit, each with its instance. -/
def prefillEndpoints (instances : List Instance) : List (Instance × Endpoint) :=
  instances.flatMap fun inst =>
    if inst.role = PDRole.roleP.value then inst.endpointList.map (inst, ·) else []

/-- The bodies of `register_kv_instance`. An exception ends the loop. -/
def registerKvInstance : List (Instance × Endpoint) → Except PyErr Unit × List RegisterData
  | [] => (.ok (), [])
  | p :: rest =>
    match registerPost config p.1 p.2 with
    | .error e => (.error e, [])
    | .ok data => ((registerKvInstance rest).1, data.toList ++ (registerKvInstance rest).2)

/-- The bodies of `unregister_kv_instance`. -/
def unregisterKvInstance (instances : List Instance) : List Registration :=
  (prefillEndpoints instances).map fun p => unregisterPost config p.1 p.2

end

variable {config : PrefillKvEventConfig} {x y : Instance} {xs : List Instance} {b : Registration}

/-! ### The bodies -/

theorem mem_unregisterKvInstance :
    b ∈ unregisterKvInstance config xs ↔ ∃ x ∈ xs, b ∈ unregisterKvInstance config [x] := by
  simp only [unregisterKvInstance, prefillEndpoints, List.map_flatMap, List.mem_flatMap, List.mem_singleton,
    exists_eq_left]

theorem id_eq_of_mem (hx : b ∈ unregisterKvInstance config [x]) (hy : b ∈ unregisterKvInstance config [y]) :
    x.id = y.id := by
  have hname : ∀ z, b ∈ unregisterKvInstance config [z] → b.instanceId = "vllm-prefill-" ++ toString z.id := by
    intro z hz
    simp only [unregisterKvInstance, prefillEndpoints, List.flatMap_singleton, List.mem_map] at hz
    obtain ⟨p, hp, rfl⟩ := hz
    split at hp
    · obtain ⟨ep, _, rfl⟩ := List.mem_map.mp hp
      rfl
    · cases hp
  have he := (hname x hx).symm.trans (hname y hy)
  exact Text.toString_injective (String.append_right_inj _ |>.mp he)

theorem unregisterKvInstance_congr (hrole : x.role = y.role) (hid : x.id = y.id) (hmodel : x.modelName = y.modelName)
    (hlayout : x.layout = y.layout) : unregisterKvInstance config [x] = unregisterKvInstance config [y] := by
  have hranks : x.endpointList.map Endpoint.id = y.endpointList.map Endpoint.id := by
    have hmap := congrArg (List.map (·.2.2)) hlayout
    simpa only [Instance.layout, ← Instance.map_endpointEntries, List.map_map, Function.comp_def] using hmap
  have hsingle : ∀ z : Instance, unregisterKvInstance config [z] =
      if z.role = PDRole.roleP.value then
        (z.endpointList.map Endpoint.id).map fun rank => ⟨config.engineType, z.modelName, config.blockSize,
          "vllm-prefill-" ++ toString z.id, rank⟩
      else [] := by
    intro z
    simp only [unregisterKvInstance, prefillEndpoints, List.flatMap_singleton]
    split
    · simp only [List.map_map, Function.comp_def, unregisterPost]
    · rfl
  rw [hsingle, hsingle, hranks, hrole, hid, hmodel]

/-- A configuration by which every endpoint has its addresses. -/
structure Ready (config : PrefillKvEventConfig) : Prop where
  endpoint : ∃ scheme port, splitWildcard config.endpoint.toList = [scheme, port] ∧ (Text.int 10 port).isSome
  replayEndpoint : ∀ scheme port, splitWildcard config.replayEndpoint.toList = [scheme, port] → (Text.int 10 port).isSome

theorem registerPost_of_ready (h : Ready config) (inst : Instance) (endpoint : Endpoint) :
    ∃ data, registerPost config inst endpoint = .ok (some data) ∧
      data.toRegistration = unregisterPost config inst endpoint := by
  obtain ⟨scheme, port, hsplit, hport⟩ := h.endpoint
  obtain ⟨port', hport⟩ := Option.isSome_iff_exists.mp hport
  have haddress : ∃ kvEndpoint, address config.endpoint endpoint = .ok (some kvEndpoint) := by
    simp [address, hsplit, hport]
  obtain ⟨kvEndpoint, haddress⟩ := haddress
  have hreplay : ∃ replay, address config.replayEndpoint endpoint = .ok replay := by
    unfold address
    split
    · rename_i scheme' text hsplit'
      obtain ⟨n, hn⟩ := Option.isSome_iff_exists.mp (h.replayEndpoint _ _ hsplit')
      rw [hn]
      exact ⟨_, rfl⟩
    · exact ⟨_, rfl⟩
  obtain ⟨replay, hreplay⟩ := hreplay
  unfold registerPost
  rw [haddress, hreplay]
  by_cases hempty : config.replayEndpoint = ""
  · simp only [hempty]
    exact ⟨_, rfl, rfl⟩
  · simp only [hempty]
    exact ⟨_, rfl, rfl⟩

theorem registerKvInstance_of_ready (h : Ready config) (ps : List (Instance × Endpoint)) :
    (registerKvInstance config ps).1 = .ok () ∧
      (registerKvInstance config ps).2.map RegisterData.toRegistration =
        ps.map fun p => unregisterPost config p.1 p.2 := by
  induction ps with
  | nil => exact ⟨rfl, rfl⟩
  | cons p ps ih =>
      obtain ⟨data, hpost, hdata⟩ := registerPost_of_ready h p.1 p.2
      simp [registerKvInstance, hpost, hdata, ih]

end ConductorApiClient

open ConductorApiClient

/-!
## What the conductor should have

The registrations of the pooled instances are due. The lemmas say what a call makes due and what it leaves due.
-/

namespace InstanceManager

def pooledInstances (m : InstanceManager) : List Instance :=
  (m.availablePool.values ++ m.unavailablePool.values).map m.obj

/-- The registrations of the pooled instances. -/
def due (config : PrefillKvEventConfig) (m : InstanceManager) : Set Registration :=
  {b | b ∈ unregisterKvInstance config m.pooledInstances}

/-- The call takes a pooled instance of the id out of the pools. -/
def TakesOut (m : InstanceManager) (op : Op) (id : Int) : Prop :=
  match op with
  | .refresh .add _ => False
  | .refresh .del instances => id ∈ instances.map Instance.id
  | .refresh .set instances => id ∉ instances.map Instance.id
  | .updateState _ _ => False
  | .deleteUnavailable unavailable => id = unavailable ∧ m.unavailablePool.contains unavailable = true
  | .updateWorkload _ _ _ => False
  | .stop => True

instance (m : InstanceManager) (op : Op) (id : Int) : Decidable (m.TakesOut op id) :=
  match op with
  | .refresh .add _ => inferInstanceAs (Decidable False)
  | .refresh .del instances => inferInstanceAs (Decidable (id ∈ instances.map Instance.id))
  | .refresh .set instances => inferInstanceAs (Decidable (id ∉ instances.map Instance.id))
  | .updateState _ _ => inferInstanceAs (Decidable False)
  | .deleteUnavailable unavailable =>
    inferInstanceAs (Decidable (id = unavailable ∧ m.unavailablePool.contains unavailable = true))
  | .updateWorkload _ _ _ => inferInstanceAs (Decidable False)
  | .stop => inferInstanceAs (Decidable True)

/-- The due registrations of the instances that stay. -/
def kept (config : PrefillKvEventConfig) (m : InstanceManager) (op : Op) : Set Registration :=
  {b | ∃ r, m.Pooled r ∧ ¬ m.TakesOut op (m.obj r).id ∧ b ∈ unregisterKvInstance config [m.obj r]}

/-- The instances that `_register_kv_instance` is given to register. -/
def entered (m : InstanceManager) (op : Op) : List Instance :=
  match op with
  | .refresh event instances =>
    let a := (m.alloc instances).2.additions event (m.alloc instances).1
    (instancesTmp a.1 a.2).map (addInstances false a.1 a.2).2.obj
  | _ => []

/-- The registrations of the entered instances. -/
abbrev added (config : PrefillKvEventConfig) (m : InstanceManager) (op : Op) : Set Registration :=
  {b | b ∈ unregisterKvInstance config (m.entered op)}

/-- No role ends the refresh before its posts. -/
def Completes (m : InstanceManager) (op : Op) : Prop :=
  match op with
  | .refresh event instances => ¬ m.Invalid event instances
  | _ => True

instance (m : InstanceManager) (op : Op) : Decidable (Completes m op) :=
  match op with
  | .refresh event instances =>
    inferInstanceAs (Decidable (¬ ∃ x ∈ m.handed event instances, PDRole.ofString? x.role = none))
  | .updateState _ _ => inferInstanceAs (Decidable True)
  | .deleteUnavailable _ => inferInstanceAs (Decidable True)
  | .updateWorkload _ _ _ => inferInstanceAs (Decidable True)
  | .stop => inferInstanceAs (Decidable True)

variable {G : InstanceManager → Ref → Prop} {config : PrefillKvEventConfig} {m m' : InstanceManager} {refs : List Ref}
  {b : Registration} {op : Op}

/-! ### What is due -/

theorem mem_pooledInstances {x : Instance} : x ∈ m.pooledInstances ↔ ∃ r, m.Pooled r ∧ m.obj r = x := by
  simp only [pooledInstances, Pooled, List.mem_map, List.mem_append, Dict.mem_values_iff, exists_or]

theorem mem_due : b ∈ m.due config ↔ ∃ r, m.Pooled r ∧ b ∈ unregisterKvInstance config [m.obj r] := by
  unfold due
  rw [Set.mem_ofPred_eq, mem_unregisterKvInstance]
  constructor
  · rintro ⟨x, hx, hb⟩
    obtain ⟨r, hr, rfl⟩ := mem_pooledInstances.mp hx
    exact ⟨r, hr, hb⟩
  · rintro ⟨r, hr, hb⟩
    exact ⟨m.obj r, mem_pooledInstances.mpr ⟨r, hr, rfl⟩, hb⟩

theorem SameShape.unregister {x y : Instance} (h : SameShape x y) :
    unregisterKvInstance config [x] = unregisterKvInstance config [y] :=
  unregisterKvInstance_congr h.1 h.2.1 h.2.2.1 h.2.2.2

theorem Enters.due_subset (h : Enters G m refs m') :
    m'.due config ⊆ m.due config ∪ {b | b ∈ unregisterKvInstance config (refs.map m'.obj)} := by
  intro b hb
  obtain ⟨r, hr, hb⟩ := mem_due.mp hb
  rcases h.pooled hr with hr | hr
  · left
    rw [(h.sameShape r).unregister] at hb
    exact mem_due.mpr ⟨r, hr, hb⟩
  · exact Or.inr (mem_unregisterKvInstance.mpr ⟨m'.obj r, List.mem_map_of_mem hr, hb⟩)

theorem Enters.due_eq (h : Enters NewId m refs m') :
    m'.due config = m.due config ∪ {b | b ∈ unregisterKvInstance config (refs.map m'.obj)} := by
  apply h.due_subset.antisymm
  rintro b (hb | hb)
  · obtain ⟨r, ⟨id, hr⟩, hb⟩ := mem_due.mp hb
    rw [← (h.sameShape r).unregister] at hb
    refine mem_due.mpr ⟨r, ⟨id, hr.imp h.available fun hu => ?_⟩, hb⟩
    rw [h.unavailablePool]
    exact hu
  · obtain ⟨x, hx, hb⟩ := mem_unregisterKvInstance.mp hb
    obtain ⟨r, hr, rfl⟩ := List.mem_map.mp hx
    exact mem_due.mpr ⟨r, ⟨_, Or.inl (h.entered hr)⟩, hb⟩

theorem mem_due_of_kept (h : b ∈ m.kept config op) : b ∈ m.due config := by
  obtain ⟨r, hr, _, hb⟩ := h
  exact mem_due.mpr ⟨r, hr, hb⟩

theorem kept_eq_due (h : ∀ r, m.Pooled r → ¬ m.TakesOut op (m.obj r).id) : m.kept config op = m.due config := by
  apply Set.Subset.antisymm fun b => mem_due_of_kept
  intro b hb
  obtain ⟨r, hr, hb⟩ := mem_due.mp hb
  exact ⟨r, hr, h r hr, hb⟩

theorem due_alloc (hi : Inv m) (instances : List Instance) : (m.alloc instances).2.due config = m.due config := by
  ext b
  rw [mem_due, mem_due]
  have hobj : ∀ r, m.Pooled r → (m.alloc instances).2.obj r = m.obj r :=
    fun r hr => obj_alloc_old (hi.pooled_lt hr) instances
  constructor
  · rintro ⟨r, hr, hb⟩
    rw [hobj r hr] at hb
    exact ⟨r, hr, hb⟩
  · rintro ⟨r, hr, hb⟩
    rw [← hobj r hr] at hb
    exact ⟨r, hr, hb⟩

theorem due_deleteInstances (hi : Inv m) (b : Bool) : (deleteInstances b refs m).2.due config =
    {k | ∃ r, m.Pooled r ∧ (m.obj r).id ∉ (refs.map fun r => (m.obj r).id) ∧
      k ∈ unregisterKvInstance config [m.obj r]} := by
  have hobj : (deleteInstances b refs m).2.obj = m.obj := by
    funext r
    simp only [obj, deleteInstances_heap]
  ext k
  rw [mem_due]
  simp only [pooled_deleteInstances hi, hobj, and_assoc]
  rfl

theorem id_of_entered {instances : List Instance} {event : EventType} {x : Instance}
    (h : x ∈ m.entered (.refresh event instances)) : x.id ∈ instances.map Instance.id := by
  obtain ⟨r, hr, rfl⟩ := List.mem_map.mp h
  have henters := additions_enters (fun r hr => (mem_alloc_refs hr).2)
    (refreshMeets_true (m.alloc instances).2 event (m.alloc instances).1)
  rw [(henters.sameShape r).2.1, obj_additions, ← alloc_ids (m := m)]
  exact List.mem_map_of_mem (f := fun r => ((m.alloc instances).2.obj r).id) (mem_additions (instancesTmp_subset hr))

/-- What is due after the removals of a refresh. -/
theorem due_additions (hi : Inv m) (event : EventType) (instances : List Instance) :
    ((m.alloc instances).2.additions event (m.alloc instances).1).2.due config =
      m.kept config (.refresh event instances) := by
  have hia := hi.alloc instances
  have hids := alloc_ids (m := m) instances
  have hobj : ∀ r, m.Pooled r → (m.alloc instances).2.obj r = m.obj r :=
    fun r hr => obj_alloc_old (hi.pooled_lt hr) instances
  -- The references that are deleted are those of the ids that are taken out.
  have key : ∀ out : List Ref,
      (∀ r, m.Pooled r → ((m.obj r).id ∉ (out.map fun r => ((m.alloc instances).2.obj r).id) ↔
        ¬ m.TakesOut (.refresh event instances) (m.obj r).id)) →
      (deleteInstances false out (m.alloc instances).2).2.due config = m.kept config (.refresh event instances) := by
    intro out hout
    rw [due_deleteInstances hia]
    ext b
    constructor
    · rintro ⟨r, hr, hid, hb⟩
      rw [hobj r hr] at hid hb
      exact ⟨r, hr, (hout r hr).mp hid, hb⟩
    · rintro ⟨r, hr, hid, hb⟩
      refine ⟨r, hr, ?_⟩
      rw [hobj r hr]
      exact ⟨(hout r hr).mpr hid, hb⟩
  cases event with
  | add =>
      have hkept : m.kept config (.refresh .add instances) = m.due config := kept_eq_due fun _ _ h => h
      rw [hkept]
      exact due_alloc hi instances
  | del =>
      apply key
      intro r _
      rw [hids]
      rfl
  | set =>
      apply key
      intro r hr
      have hmem : (m.obj r).id ∈ (m.alloc instances).2.currentIds := mem_currentIds_of_pooled hi hr
      rw [mem_toRemove hia, hids]
      simp [hmem, TakesOut]

theorem due_subset_of_pooled (hp : ∀ r, m'.Pooled r → m.Pooled r) (ho : ∀ r, SameShape (m'.obj r) (m.obj r)) :
    m'.due config ⊆ m.due config := by
  intro b hb
  obtain ⟨r, hr, hb⟩ := mem_due.mp hb
  rw [(ho r).unregister] at hb
  exact mem_due.mpr ⟨r, hp r hr, hb⟩

theorem due_updateInstanceWorkload (hi : Inv m) (iid eid : Int) (change : Workload) :
    (m.updateInstanceWorkload iid eid change).due config = m.due config := by
  rcases hi.updateInstanceWorkload_cases iid eid change with ⟨_, he⟩ | ⟨r, a, _, _, ha, _, _, _, _, he⟩
  · rw [he]
  · have hr := (hi.available ha).1
    have hlayout : ∀ x : Instance, (x.addEndpointWorkload a.pod a.key change).layout = x.layout :=
      fun x => x.layout_adjust a.pod a.key fun _ => rfl
    have hshape : ∀ x, SameShape ((m.updateInstanceWorkload iid eid change).obj x) (m.obj x) := by
      intro x
      have hlast := obj_modifyObj_congr (m := m.modifyObj r (·.addGathered change))
        (f := (·.addEndpointWorkload a.pod a.key change)) (g := fun y => (y.role, y.id, y.modelName, y.layout))
        (fun y => by rw [hlayout]; rfl) (by simpa using hr) x
      have hfirst := obj_modifyObj_congr (m := m) (f := (·.addGathered change))
        (g := fun y => (y.role, y.id, y.modelName, y.layout)) (fun _ => rfl) hr x
      rw [he]
      simpa only [SameShape, Prod.mk.injEq] using hlast.trans hfirst
    have hpooled : ∀ x, (m.updateInstanceWorkload iid eid change).Pooled x ↔ m.Pooled x := by
      intro x
      rw [he]
      rfl
    ext b
    simp only [mem_due, hpooled, (hshape _).unregister]

theorem PoolStep.due_subset (hi : Inv m) (h : PoolStep (fun _ _ => False) m m') : m'.due config ⊆ m.due config := by
  cases h with
  | alloc instances => exact (due_alloc hi instances).le
  | put _ _ _ _ hG => cases hG
  | @restore id r role hu _ _ =>
      apply due_subset_of_pooled
      · intro x hx
        rcases pooled_of_putAvailable hx with rfl | hx
        · exact ⟨id, Or.inr hu⟩
        · exact pooled_of_discard hx
      · intro x
        rw [obj_putAvailable]
        exact .refl _
  | discard id => exact due_subset_of_pooled (fun _ => pooled_of_discard) fun _ => .refl _
  | drop _ _ =>
      apply due_subset_of_pooled fun _ => pooled_of_dropAvailable
      intro x
      rw [obj_dropAvailable]
      exact .refl _
  | @park id r role ha _ =>
      apply due_subset_of_pooled
      · rintro x ⟨id', hx | hx⟩
        · have hdrop : (m.dropAvailable role id).Pooled x := ⟨id', Or.inl hx⟩
          exact pooled_of_dropAvailable hdrop
        · rw [Dict.get?_set] at hx
          split at hx
          · cases hx
            exact ⟨id, Or.inl ha⟩
          · exact ⟨id', Or.inr hx⟩
      · intro x
        have hobj : (m.dropAvailable role id).obj x = m.obj x := obj_dropAvailable role id x
        exact hobj ▸ .refl _
  | work iid eid change => exact (due_updateInstanceWorkload hi iid eid change).le
  | stop => exact due_subset_of_pooled (fun r hr => by simp [Pooled, InstanceManager.stop] at hr) fun _ => .refl _

theorem PoolSteps.due_subset (hi : Inv m) (h : PoolSteps (fun _ _ => False) m m') : m'.due config ⊆ m.due config := by
  have := PoolSteps.invariant (P := fun m' => Inv m' ∧ m'.due config ⊆ m.due config)
    (fun h hs => ⟨h.1.poolStep hs, (PoolStep.due_subset h.1 hs).trans h.2⟩) ⟨hi, Set.Subset.rfl⟩ h
  exact this.2

/-! ### One call -/

theorem refresh_enters (config : PrefillKvEventConfig) (hi : Inv m) {event : EventType} {instances : List Instance}
    (hG : RefreshMeets G (m.alloc instances).2 event (m.alloc instances).1) :
    ∃ refs m', Enters G m' refs (m.step (.refresh event instances)) ∧
      m.entered (.refresh event instances) = refs.map (m.step (.refresh event instances)).obj ∧
      m'.due config = m.kept config (.refresh event instances) := by
  have hsnd : m.step (.refresh event instances) = _ :=
    refreshInstances_snd (hi.alloc instances) event (m.alloc instances).1
  rw [hsnd]
  exact ⟨_, _, additions_enters (fun r hr => (mem_alloc_refs hr).2) hG, rfl, due_additions hi event instances⟩

theorem due_step_subset (hi : Inv m) (op : Op) : (m.step op).due config ⊆ m.kept config op ∪ m.added config op := by
  cases op with
  | refresh event instances =>
      obtain ⟨refs, m', henters, hentered, hdue⟩ := refresh_enters config hi
        (refreshMeets_true (m.alloc instances).2 event (m.alloc instances).1)
      rw [added, hentered, ← hdue]
      exact henters.due_subset
  | updateState id mode =>
      have hkept : m.kept config (.updateState id mode) = m.due config := kept_eq_due fun _ _ h => h
      rw [hkept]
      exact ((updateInstanceState_steps id mode).due_subset hi).trans Set.subset_union_left
  | updateWorkload iid eid change =>
      have hkept : m.kept config (.updateWorkload iid eid change) = m.due config := kept_eq_due fun _ _ h => h
      rw [hkept]
      exact (due_updateInstanceWorkload hi iid eid change).le.trans Set.subset_union_left
  | deleteUnavailable id =>
      apply Set.Subset.trans _ Set.subset_union_left
      intro b hb
      obtain ⟨r, hr, hb⟩ := mem_due.mp hb
      simp only [step, deleteUnavailableInstance] at hr hb
      split at hr <;> rename_i hc
      · have hr' := pooled_of_discard hr
        rw [if_pos hc] at hb
        refine ⟨r, hr', ?_, hb⟩
        rintro ⟨he, _⟩
        obtain ⟨id', h | h⟩ := hr
        · have ha : m.availablePool.get? id' = some r := h
          obtain ⟨x, hx⟩ := Dict.contains_iff.mp hc
          rw [← he, (hi.available ha).2.1] at hx
          rw [(hi.unavailable hx).2.2] at ha
          cases ha
        · rw [Dict.get?_erase] at h
          split at h
          · cases h
          · rename_i hne
            exact hne ((hi.unavailable h).2.1.symm.trans he)
      · rw [if_neg hc] at hb
        exact ⟨r, hr, fun h => hc h.2, hb⟩
  | stop =>
      intro b hb
      obtain ⟨r, ⟨id, hr⟩, _⟩ := mem_due.mp hb
      simp [step, InstanceManager.stop] at hr

theorem due_step (hi : Inv m) (hs : NoStale m) (hr : PooledAll HasRole m) (hk : RoleKept m op) :
    (m.step op).due config = m.kept config op ∪ m.added config op := by
  apply (due_step_subset hi op).antisymm
  cases op with
  | refresh event instances =>
      obtain ⟨refs, m', henters, hentered, hdue⟩ := refresh_enters config hi (refreshMeets_of_roleKept hi hk)
      rw [added, hentered, ← hdue]
      exact henters.due_eq.ge
  | updateState id mode =>
      rintro b (⟨r, hp, _, hb⟩ | hb)
      · obtain ⟨hp', hobj⟩ := pooled_updateInstanceState hi hs hr id mode hp
        rw [← hobj] at hb
        exact mem_due.mpr ⟨r, hp', hb⟩
      · cases hb
  | updateWorkload iid eid change =>
      rintro b (hb | hb)
      · have hdue : b ∈ m.due config := mem_due_of_kept hb
        rwa [← due_updateInstanceWorkload hi iid eid change] at hdue
      · cases hb
  | deleteUnavailable id =>
      rintro b (⟨r, ⟨id', hp⟩, hout, hb⟩ | hb)
      · simp only [step, deleteUnavailableInstance]
        split
        · rename_i hc
          refine mem_due.mpr ⟨r, ⟨id', hp.imp (fun h => h) fun h => ?_⟩, hb⟩
          have hne : id' ≠ id := fun he => hout ⟨(hi.unavailable h).2.1.trans he, hc⟩
          rwa [Dict.get?_erase, if_neg hne]
        · exact mem_due.mpr ⟨r, ⟨id', hp⟩, hb⟩
      · cases hb
  | stop =>
      rintro b (⟨r, _, hout, _⟩ | hb)
      · exact absurd trivial hout
      · cases hb

theorem additions_ok {event : EventType} {instances : List Instance} (h : ¬ m.Invalid event instances) :
    let a := (m.alloc instances).2.additions event (m.alloc instances).1
    ∃ b, (addInstances false a.1 a.2).1 = .ok b := by
  intro a
  apply (addInstances_error_iff _ false).2
  · intro r hr hrole
    have hobj : a.2.obj = (m.alloc instances).2.obj := obj_additions event _
    rw [hobj] at hrole
    cases event with
    | add => exact h (invalid_add_iff.mpr ⟨r, hr, hrole⟩)
    | del => cases hr
    | set => exact h (invalid_set_iff.mpr ⟨r, List.mem_of_mem_filter hr, hrole⟩)
  · intro r hr
    rw [heap_additions]
    exact (mem_alloc_refs (mem_additions hr)).2

end InstanceManager

/-! ## The manager with its posts -/

inductive Post
  | register (data : RegisterData)
  | unregister (data : Registration)

/-- A registration goes by the fields that both bodies have. -/
def Post.delta : Post → Delta Registration
  | .register data => .insert data.toRegistration
  | .unregister data => .remove data

def typeScheduler : String := "schedule"

def typeMgmt : String := "mgmt"

/-- An instance manager and what it has posted to the conductor. -/
structure KvManager where
  typename : String := typeScheduler
  config : PrefillKvEventConfig := {}
  manager : InstanceManager := {}
  posts : List Post := []

namespace KvManager

open InstanceManager

def registerKvInstance (s : KvManager) (instances : List Instance) (isRegister : Bool) : Except PyErr Unit × KvManager :=
  if s.typename ≠ typeMgmt then (.ok (), s)
  else if isRegister then
    let (result, data) := ConductorApiClient.registerKvInstance s.config (prefillEndpoints instances)
    (result, { s with posts := s.posts ++ data.map .register })
  else (.ok (), { s with posts := s.posts ++ (unregisterKvInstance s.config instances).map .unregister })

def addInstances (s : KvManager) (refs : List Ref) : Except PyErr Bool × KvManager :=
  match InstanceManager.addInstances false refs s.manager with
  | (.error e, m) => (.error e, { s with manager := m })
  | (.ok modified, m) =>
    let (result, s') :=
      registerKvInstance { s with manager := m } ((InstanceManager.instancesTmp refs s.manager).map m.obj) true
    (result.map fun _ => modified, s')

def applySetDiff (s : KvManager) (refs : List Ref) : Except PyErr Bool × KvManager :=
  let diff := s.manager.computeSetDiff refs
  if diff.2.isEmpty && diff.1.isEmpty then (.ok false, s)
  else
    match InstanceManager.deleteInstances false diff.2 s.manager with
    | (.error e, m) => (.error e, { s with manager := m })
    | (.ok _, m) =>
      let (result, s') := addInstances { s with manager := m } diff.1
      (result.map fun _ => true, s')

def refreshInstances (s : KvManager) (event : EventType) (refs : List Ref) : Except PyErr Bool × KvManager :=
  match event with
  | .add => s.addInstances refs
  | .del =>
    match InstanceManager.deleteInstances false refs s.manager with
    | (.error e, m) => (.error e, { s with manager := m })
    | (.ok modified, m) =>
      let (result, s') := registerKvInstance { s with manager := m } (refs.map m.obj) false
      (result.map fun _ => modified, s')
  | .set => s.applySetDiff refs

/-- The calls of the manager; only a refresh posts. -/
def step (s : KvManager) : InstanceManager.Op → KvManager
  | .refresh event instances =>
    (refreshInstances { s with manager := (s.manager.alloc instances).2 } event (s.manager.alloc instances).1).2
  | op => { s with manager := s.manager.step op }

/-- The registrations that the posts leave. -/
def registered (s : KvManager) : Set Registration := Delta.applyAll ∅ (s.posts.map Post.delta)

/-- What a call takes back. -/
def withdrawn (config : PrefillKvEventConfig) (op : Op) : List Registration :=
  match op with
  | .refresh .del instances => unregisterKvInstance config instances
  | _ => []

/-- The call takes back every registration of the instances that it takes out. -/
def Told (s : KvManager) (op : Op) : Prop :=
  ∀ x ∈ s.manager.pooledInstances, s.manager.TakesOut op x.id →
    ∀ b ∈ unregisterKvInstance s.config [x], b ∈ withdrawn s.config op

instance (s : KvManager) (op : Op) : Decidable (s.Told op) :=
  inferInstanceAs (Decidable (∀ x ∈ s.manager.pooledInstances, s.manager.TakesOut op x.id →
    ∀ b ∈ unregisterKvInstance s.config [x], b ∈ withdrawn s.config op))

/-- The conductor has what is due. -/
def Exact (s : KvManager) : Prop := s.registered = s.manager.due s.config

/-- The manager of a new management process. -/
def start (config : PrefillKvEventConfig) : KvManager := { typename := typeMgmt, config }

variable {s : KvManager} {m : InstanceManager}

/-! ### The posts and the pools -/

@[simp] theorem manager_registerKvInstance (s : KvManager) (instances : List Instance) (isRegister : Bool) :
    (s.registerKvInstance instances isRegister).2.manager = s.manager := by
  unfold registerKvInstance
  split
  · rfl
  · split <;> rfl

@[simp] theorem config_registerKvInstance (s : KvManager) (instances : List Instance) (isRegister : Bool) :
    (s.registerKvInstance instances isRegister).2.config = s.config := by
  unfold registerKvInstance
  split
  · rfl
  · split <;> rfl

@[simp] theorem typename_registerKvInstance (s : KvManager) (instances : List Instance) (isRegister : Bool) :
    (s.registerKvInstance instances isRegister).2.typename = s.typename := by
  unfold registerKvInstance
  split
  · rfl
  · split <;> rfl

/-- What a call leaves of the configuration and which pools it leads to. -/
structure Leads (s s' : KvManager) (m : InstanceManager) : Prop where
  typename : s'.typename = s.typename
  config : s'.config = s.config
  manager : s'.manager = m

theorem addInstances_leads (s : KvManager) (refs : List Ref) :
    Leads s (s.addInstances refs).2 (InstanceManager.addInstances false refs s.manager).2 := by
  unfold addInstances
  split
  · rename_i hadd
    exact ⟨rfl, rfl, by rw [hadd]⟩
  · rename_i hadd
    rw [hadd]
    exact ⟨by simp, by simp, by simp⟩

theorem refreshInstances_leads (s : KvManager) (event : EventType) (refs : List Ref) :
    Leads s (s.refreshInstances event refs).2 (s.manager.refreshInstances event refs).2 := by
  cases event with
  | add => exact addInstances_leads s refs
  | del =>
      simp only [refreshInstances, InstanceManager.refreshInstances]
      split
      · rename_i hdel
        exact ⟨rfl, rfl, by rw [hdel]⟩
      · rename_i hdel
        rw [hdel]
        exact ⟨by simp, by simp, by simp⟩
  | set =>
      simp only [refreshInstances, applySetDiff, InstanceManager.refreshInstances, InstanceManager.applySetDiff]
      split
      · exact ⟨rfl, rfl, rfl⟩
      · rcases hdel : deleteInstances false (s.manager.computeSetDiff refs).2 s.manager with ⟨result, m'⟩
        cases result with
        | error e => exact ⟨rfl, rfl, rfl⟩
        | ok removed =>
            have hleads := addInstances_leads { s with manager := m' } (s.manager.computeSetDiff refs).1
            refine ⟨hleads.typename, hleads.config, hleads.manager.trans ?_⟩
            rcases hadd : InstanceManager.addInstances false (s.manager.computeSetDiff refs).1 m' with ⟨result, m''⟩
            cases result <;> simp only [hadd]

theorem step_leads (s : KvManager) (op : Op) : Leads s (s.step op) (s.manager.step op) := by
  cases op with
  | refresh event instances =>
      have h := refreshInstances_leads { s with manager := (s.manager.alloc instances).2 } event
        (s.manager.alloc instances).1
      exact ⟨h.typename, h.config, h.manager⟩
  | updateState | deleteUnavailable | updateWorkload | stop => exact ⟨rfl, rfl, rfl⟩

/-! ### The posts and the registrations -/

/-- The manager of the management process, with usable patterns. -/
structure Announcing (s : KvManager) : Prop where
  typename : s.typename = typeMgmt
  ready : Ready s.config

theorem Announcing.leads {s' : KvManager} (h : s.Announcing) (hl : Leads s s' m) : s'.Announcing :=
  ⟨hl.typename.trans h.typename, hl.config ▸ h.ready⟩

theorem registered_register (h : s.Announcing) (instances : List Instance) :
    (s.registerKvInstance instances true).1 = .ok () ∧ (s.registerKvInstance instances true).2.registered =
      s.registered ∪ {b | b ∈ unregisterKvInstance s.config instances} := by
  obtain ⟨hok, hdata⟩ := registerKvInstance_of_ready h.ready (prefillEndpoints instances)
  have hdeltas : ((ConductorApiClient.registerKvInstance s.config (prefillEndpoints instances)).2.map
      Post.register).map Post.delta = (unregisterKvInstance s.config instances).map .insert := by
    rw [unregisterKvInstance, ← hdata, List.map_map, List.map_map]
    rfl
  simp [registerKvInstance, h.typename, hok, registered, Delta.applyAll_append, hdeltas, Delta.applyAll_map_insert]

theorem registered_unregister (h : s.Announcing) (instances : List Instance) :
    (s.registerKvInstance instances false).2.registered =
      s.registered \ {b | b ∈ unregisterKvInstance s.config instances} := by
  have hdeltas : ((unregisterKvInstance s.config instances).map Post.unregister).map Post.delta =
      (unregisterKvInstance s.config instances).map .remove := by
    rw [List.map_map]
    rfl
  simp [registerKvInstance, h.typename, registered, Delta.applyAll_append, hdeltas, Delta.applyAll_map_remove]

end KvManager

end PyMotor
