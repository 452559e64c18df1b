import PyMotor.Controller.Instance
import PyMotor.Lib.Objects

/-!
# Copies of read-only instances

`ReadOnlyInstance` of `motor/common/resources/instance.py`. An `Instance` is an object that refers to its parallel
configuration, its node managers, its endpoints and its gathered workload, all of them objects again; what cannot be
changed is in the labels. The lock and the cached tuple are not fields of the model.
-/

namespace PyMotor

open Lib

/-- The fields of an `Instance` that hold no object, with their defaults. -/
structure InstanceFields where
  jobName : String
  modelName : String
  id : Int
  role : String
  status : InsStatus := .initial
  enableMultiEndpoints : Bool := true
deriving DecidableEq

inductive ObjLabel
  | instanceObj (fields : InstanceFields)
  | noneObj
  | parallelConfig (config : ParallelConfig)
  | list
  | nodeManager (info : NodeManagerInfo)
  | podDict (keys : List String)
  | endpointDict (keys : List Int)
  | endpoint (id : Int) (ip businessPort mgmtPort : String) (status : EndpointStatus) (hbTimestamp : ℚ)
  | workload (w : Workload)
  | deviceInfo (info : DeviceInfo)

/-! ## What the objects stand for -/

def Workload.tree (w : Workload) : ObjectTree ObjLabel := .node (.workload w) []

def DeviceInfo.tree (info : DeviceInfo) : ObjectTree ObjLabel := .node (.deviceInfo info) []

def Endpoint.tree (ep : Endpoint) : ObjectTree ObjLabel :=
  .node (.endpoint ep.id ep.ip ep.businessPort ep.mgmtPort ep.status ep.hbTimestamp)
    [.node .list (ep.deviceInfos.map DeviceInfo.tree), ep.workload.tree]

def podTree (eps : Dict Int Endpoint) : ObjectTree ObjLabel :=
  .node (.endpointDict eps.keys) (eps.values.map Endpoint.tree)

def endpointsTree (endpoints : Dict String (Dict Int Endpoint)) : ObjectTree ObjLabel :=
  .node (.podDict endpoints.keys) (endpoints.values.map podTree)

def NodeManagerInfo.tree (info : NodeManagerInfo) : ObjectTree ObjLabel := .node (.nodeManager info) []

def parallelConfigTree : Option ParallelConfig → ObjectTree ObjLabel
  | none => .node .noneObj []
  | some config => .node (.parallelConfig config) []

namespace ManagedInstance

def fields (x : ManagedInstance) : InstanceFields where
  jobName := x.jobName
  modelName := x.modelName
  id := x.id
  role := x.role
  status := x.status
  enableMultiEndpoints := x.enableMultiEndpoints

/-- The objects that an instance refers to. -/
def parts (x : ManagedInstance) : List (ObjectTree ObjLabel) :=
  [parallelConfigTree x.parallelConfig, .node .list (x.nodeManagers.map NodeManagerInfo.tree),
    endpointsTree x.endpoints, x.gatheredWorkload.tree]

def tree (x : ManagedInstance) : ObjectTree ObjLabel := .node (.instanceObj x.fields) x.parts

end ManagedInstance

/-- The `Instance` object at an address has the value. Below it there are the endpoints, the pods, their endpoints, the
device lists and the devices. -/
def IsInstance (h : Objects ObjLabel) (r : Nat) (x : ManagedInstance) : Prop := ReadsIn h 6 r x.tree

/-! ## The copies -/

/-- The wrapper keeps the address of the instance. -/
structure ReadOnlyInstance where
  wrapped : Nat

namespace ReadOnlyInstance

/-- A new `Instance` with the four required fields, its status and copies of its parts. The other fields have their
defaults. A part is copied with the memo that `next` makes of the one left by the part before. -/
def copyInstance (next : Memo → Memo) (h : Objects ObjLabel) (memo : Memo) (self : ReadOnlyInstance) :
    Option (Nat × Objects ObjLabel) := do
  match ← h[self.wrapped]? with
  | (.instanceObj x, [parallelConfig, nodeManagers, endpoints, gatheredWorkload]) =>
    let copied : InstanceFields := { jobName := x.jobName, modelName := x.modelName, id := x.id, role := x.role }
    let copied := { copied with status := x.status }
    let (parallelConfig, h, memo) ← deepCopy 5 h memo parallelConfig
    let (nodeManagers, h, memo) ← deepCopy 5 h (next memo) nodeManagers
    let (endpoints, h, memo) ← deepCopy 5 h (next memo) endpoints
    let (gatheredWorkload, h, _) ← deepCopy 5 h (next memo) gatheredWorkload
    return (h.length, h ++ [(.instanceObj copied, [parallelConfig, nodeManagers, endpoints, gatheredWorkload])])
  | _ => none

/-- `to_instance`: every part has a memo of its own. -/
def toInstance (self : ReadOnlyInstance) (h : Objects ObjLabel) : Option (Nat × Objects ObjLabel) :=
  self.copyInstance (fun _ => []) h []

/-- `__deepcopy__`, with the address of the instance in the new wrapper: the parts share the memo. -/
def deepcopy (self : ReadOnlyInstance) (h : Objects ObjLabel) (memo : Memo) :
    Option (ReadOnlyInstance × Objects ObjLabel) :=
  (self.copyInstance id h memo).map fun (r, h) => (⟨r⟩, h)

end ReadOnlyInstance

/-!
## What a copy of an instance carries

Both copies are deep, so no change of a copy reaches the instance. They carry every field but one: whether the instance
is in multi-endpoint mode is not copied, and a new instance is.
-/

/-! ## A tree is the tree of one value -/

theorem Workload.tree_injective : Function.Injective Workload.tree := by
  intro w w' h
  cases h
  rfl

theorem DeviceInfo.tree_injective : Function.Injective DeviceInfo.tree := by
  intro info info' h
  cases h
  rfl

theorem NodeManagerInfo.tree_injective : Function.Injective NodeManagerInfo.tree := by
  intro info info' h
  cases h
  rfl

theorem Endpoint.tree_injective : Function.Injective Endpoint.tree := by
  intro ep ep' h
  simp only [Endpoint.tree, ObjectTree.node.injEq, ObjLabel.endpoint.injEq, List.cons.injEq, true_and, and_true] at h
  obtain ⟨⟨hid, hip, hbusiness, hmgmt, hstatus, hhb⟩, hdevices, hworkload⟩ := h
  have hd := DeviceInfo.tree_injective.list_map hdevices
  have hw := Workload.tree_injective hworkload
  cases ep
  cases ep'
  simp_all

theorem podTree_injective : Function.Injective podTree := by
  intro eps eps' h
  simp only [podTree, ObjectTree.node.injEq, ObjLabel.endpointDict.injEq] at h
  exact Dict.eq_of_keys_values h.1 (Endpoint.tree_injective.list_map h.2)

theorem endpointsTree_injective : Function.Injective endpointsTree := by
  intro endpoints endpoints' h
  simp only [endpointsTree, ObjectTree.node.injEq, ObjLabel.podDict.injEq] at h
  exact Dict.eq_of_keys_values h.1 (podTree_injective.list_map h.2)

theorem parallelConfigTree_injective : Function.Injective parallelConfigTree := by
  intro config config' h
  cases config <;> cases config' <;> simp_all [parallelConfigTree]

theorem ManagedInstance.tree_injective : Function.Injective ManagedInstance.tree := by
  intro x y h
  simp only [tree, parts, fields, ObjectTree.node.injEq, ObjLabel.instanceObj.injEq, InstanceFields.mk.injEq, List.cons.injEq,
    true_and, and_true] at h
  obtain ⟨⟨hjob, hmodel, hid, hrole, hstatus, hmulti⟩, hconfig, hmanagers, hendpoints, hworkload⟩ := h
  have h1 := parallelConfigTree_injective hconfig
  have h2 := NodeManagerInfo.tree_injective.list_map hmanagers
  have h3 := endpointsTree_injective hendpoints
  have h4 := Workload.tree_injective hworkload
  obtain ⟨⟨⟩⟩ := x
  obtain ⟨⟨⟩⟩ := y
  simp_all

theorem IsInstance.unique {h : Objects ObjLabel} {r : Nat} {x y : ManagedInstance} (hx : IsInstance h r x)
    (hy : IsInstance h r y) : x = y := ManagedInstance.tree_injective (ReadsIn.unique hx hy)

/-! ## The copies -/

namespace ReadOnlyInstance

variable {h : Objects ObjLabel} {r : Nat} {x : ManagedInstance}

theorem copyInstance_spec {next : Memo → Memo} (hnext : ∀ {h' memo}, Copying h h' memo → Copying h h' (next memo))
    (hx : IsInstance h r x) : ∃ c h', copyInstance next h [] ⟨r⟩ = some (c, h') ∧
      IsInstance h' c { x with enableMultiEndpoints := true } ∧ IsInstance h' r x ∧ Apart h' c r := by
  obtain ⟨refs, hr, hparts⟩ := id hx
  rcases hparts with _ | ⟨hconfig, hparts⟩
  rcases hparts with _ | ⟨hmanagers, hparts⟩
  rcases hparts with _ | ⟨hendpoints, hparts⟩
  rcases hparts with _ | ⟨hworkload, hparts⟩
  cases hparts
  obtain ⟨c₁, h₁, memo₁, hcopy₁, -, hstate₁, hcopied₁⟩ := deepCopy_spec (Copying.start h) hconfig
  obtain ⟨c₂, h₂, memo₂, hcopy₂, hpre₂, hstate₂, hcopied₂⟩ := deepCopy_spec (hnext hstate₁) hmanagers
  obtain ⟨c₃, h₃, memo₃, hcopy₃, hpre₃, hstate₃, hcopied₃⟩ := deepCopy_spec (hnext hstate₂) hendpoints
  obtain ⟨c₄, h₄, memo₄, hcopy₄, hpre₄, hstate₄, hcopied₄⟩ := deepCopy_spec (hnext hstate₃) hworkload
  have hcopied : List.Forall₂ (Copied h h₄) _ [c₁, c₂, c₃, c₄] :=
    .cons (hcopied₁.extend (hpre₂.trans (hpre₃.trans hpre₄))) (.cons (hcopied₂.extend (hpre₃.trans hpre₄))
      (.cons (hcopied₃.extend hpre₄) (.cons hcopied₄ .nil)))
  have hstate := hstate₄.add (ObjLabel.instanceObj { x.fields with enableMultiEndpoints := true }) (copied_new hcopied)
  refine ⟨h₄.length, _, ?_, ⟨[c₁, c₂, c₃, c₄], List.getElem?_concat_length .., ?_⟩, ReadsIn.extend hstate.old hx,
    hstate.apart hstate₄.old.length_le hx⟩
  · simp [copyInstance, hr, hcopy₁, hcopy₂, hcopy₃, hcopy₄, ManagedInstance.fields]
  · have hold : List.Forall₂ (ReadsIn h 5) _ x.parts :=
      .cons hconfig (.cons hmanagers (.cons hendpoints (.cons hworkload .nil)))
    exact copied_reads (hcopied.imp fun _ _ hcopied => hcopied.extend (List.prefix_append ..)) hold

theorem toInstance_spec (hx : IsInstance h r x) : ∃ c h', toInstance ⟨r⟩ h = some (c, h') ∧
    IsInstance h' c { x with enableMultiEndpoints := true } ∧ IsInstance h' r x ∧ Apart h' c r :=
  copyInstance_spec (fun hstate => hstate.forget) hx

theorem deepcopy_spec (hx : IsInstance h r x) : ∃ c h', deepcopy ⟨r⟩ h [] = some (⟨c⟩, h') ∧
    IsInstance h' c { x with enableMultiEndpoints := true } ∧ IsInstance h' r x ∧ Apart h' c r := by
  have hid : ∀ {h' memo}, Copying h h' memo → Copying h h' (id memo) := fun hstate => hstate
  obtain ⟨c, h', hcopy, hspec⟩ := copyInstance_spec hid hx
  exact ⟨c, h', by simp [deepcopy, hcopy], hspec⟩

/-- How an instance goes into the body of an ADD or SET message and is read from it again. -/
structure InstanceMessage (B : Type) where
  modelDump : ManagedInstance → B
  modelValidate : B → Option ManagedInstance
  modelValidate_modelDump : ∀ x, modelValidate (modelDump x) = some x

/-- A copy with every field of the instance, from whose message the same endpoints can be selected, and whose changes
leave the instance as it is. -/
structure CarriesOver {B : Type} (message : InstanceMessage B) (r : Nat) (x : ManagedInstance) (c : Nat)
    (h' : Objects ObjLabel) : Prop where
  same : IsInstance h' c x
  selectable : ∀ y, IsInstance h' c y →
    ∃ z, message.modelValidate (message.modelDump y) = some z ∧ z.getAllEndpoints = x.getAllEndpoints
  unchanged : ∀ changes, Along ObjectChange.apply (ObjectChange.Of c r) h' changes →
    IsInstance (run ObjectChange.apply h' changes) r x

theorem carriesOver_iff {B : Type} (message : InstanceMessage B) {c : Nat} {h' : Objects ObjLabel}
    (hcopy : IsInstance h' c { x with enableMultiEndpoints := true }) (hx : IsInstance h' r x) (hapart : Apart h' c r) :
    CarriesOver message r x c h' ↔ x.enableMultiEndpoints = true := by
  constructor
  · intro hcarries
    have heq := hcarries.same.unique hcopy
    rw [heq]
  · intro hmulti
    have heq : { x with enableMultiEndpoints := true } = x := by rw [← hmulti]
    rw [heq] at hcopy
    refine ⟨hcopy, fun y hy => ⟨y, message.modelValidate_modelDump y, ?_⟩, fun changes hchanges =>
      ObjectChange.reads_after hapart hx hchanges⟩
    rw [hy.unique hcopy]

/-- `to_instance` and `copy.deepcopy` carry an instance over exactly when it is in multi-endpoint mode. -/
theorem copies_carryOver_iff {B : Type} (message : InstanceMessage B) (hx : IsInstance h r x) :
    ((∃ c h', toInstance ⟨r⟩ h = some (c, h') ∧ CarriesOver message r x c h') ∧
      ∃ c h', deepcopy ⟨r⟩ h [] = some (⟨c⟩, h') ∧ CarriesOver message r x c h') ↔ x.enableMultiEndpoints = true := by
  obtain ⟨c, h', hcopy, hsame, hold, hapart⟩ := toInstance_spec hx
  obtain ⟨c₂, h₂, hcopy₂, hsame₂, hold₂, hapart₂⟩ := deepcopy_spec hx
  rw [hcopy, hcopy₂]
  constructor
  · rintro ⟨⟨c, h', heq, hcarries⟩, -⟩
    cases heq
    exact (carriesOver_iff message hsame hold hapart).mp hcarries
  · intro hmulti
    exact ⟨⟨c, h', rfl, (carriesOver_iff message hsame hold hapart).mpr hmulti⟩,
      ⟨c₂, h₂, rfl, (carriesOver_iff message hsame₂ hold₂ hapart₂).mpr hmulti⟩⟩

/-- An instance whose pod has the endpoints 0 and 1. -/
def twoEndpoints (multi : Bool) : ManagedInstance where
  id := 1
  role := "prefill"
  enableMultiEndpoints := multi
  endpoints := .single "10.0.0.1" ((Dict.single 0 { id := 0 }).set 1 { id := 1 })

def twoEndpointsObjects (multi : Bool) : Objects ObjLabel :=
  [(.instanceObj (twoEndpoints multi).fields, [1, 2, 3, 4]), (.noneObj, []), (.list, []),
    (.podDict ["10.0.0.1"], [5]), (.workload {}, []), (.endpointDict [0, 1], [6, 7]),
    (.endpoint 0 "" "" "" .initial 0, [8, 9]), (.endpoint 1 "" "" "" .initial 0, [10, 11]),
    (.list, []), (.workload {}, []), (.list, []), (.workload {}, [])]

theorem isInstance_twoEndpoints (multi : Bool) : IsInstance (twoEndpointsObjects multi) 0 (twoEndpoints multi) := by
  refine ⟨_, rfl, .cons ⟨_, rfl, .nil⟩ (.cons ⟨_, rfl, .nil⟩ (.cons ⟨_, rfl, ?_⟩ (.cons ⟨_, rfl, .nil⟩ .nil)))⟩
  refine .cons ⟨_, rfl, .cons ⟨_, rfl, ?_⟩ (.cons ⟨_, rfl, ?_⟩ .nil)⟩ .nil
  · exact .cons ⟨_, rfl, .nil⟩ (.cons ⟨_, rfl, .nil⟩ .nil)
  · exact .cons ⟨_, rfl, .nil⟩ (.cons ⟨_, rfl, .nil⟩ .nil)

/-- A body that has all the fields. -/
def allFields : InstanceMessage ManagedInstance := ⟨id, some, fun _ => rfl⟩

theorem twoEndpoints_carried : ((∃ c h', toInstance ⟨0⟩ (twoEndpointsObjects true) = some (c, h') ∧
      CarriesOver allFields 0 (twoEndpoints true) c h') ∧
    ∃ c h', deepcopy ⟨0⟩ (twoEndpointsObjects true) [] = some (⟨c⟩, h') ∧
      CarriesOver allFields 0 (twoEndpoints true) c h') ↔ (twoEndpoints true).enableMultiEndpoints = true :=
  copies_carryOver_iff allFields (isInstance_twoEndpoints true)

/-- In single-endpoint mode the endpoint 1 cannot be selected, but it can be from the message of the copy. -/
theorem singleEndpoint_not_carried : ∃ c h', toInstance ⟨0⟩ (twoEndpointsObjects false) = some (c, h') ∧
    ¬ CarriesOver allFields 0 (twoEndpoints false) c h' := by
  obtain ⟨c, h', hcopy, hsame, -, -⟩ := toInstance_spec (isInstance_twoEndpoints false)
  refine ⟨c, h', hcopy, fun hcarries => ?_⟩
  obtain ⟨z, hz, hendpoints⟩ := hcarries.selectable _ hsame
  rw [allFields.modelValidate_modelDump, Option.some.injEq] at hz
  subst hz
  exact absurd hendpoints (by decide)

end ReadOnlyInstance

end PyMotor
