import PyMotor.Controller.Instance
import PyMotor.Lib.Run

/-!
# The cached endpoint tuple of an instance

`Instance.get_all_endpoints` of `motor/common/resources/instance.py` with its cache. The dictionaries of the pods and the
cached tuple hold references to the endpoint objects, so that a change of their contents shows in both.
-/

namespace PyMotor

open Lib

/-- What `get_all_endpoints` reads of an instance, and the endpoint objects by reference. -/
structure CachedInstance where
  objects : Nat → Endpoint
  endpoints : Dict String (Dict Int Nat) := Dict.empty
  enableMultiEndpoints : Bool := true
  endpointsVersion : Nat := 0
  cachedEndpointsTuple : Option (List Nat) := none
  cachedEndpointsVersion : Option Nat := none

namespace CachedInstance

/-- `add_endpoints`; what is no dictionary is ignored. -/
def addEndpoints (s : CachedInstance) (podIp : String) : Option (Dict Int Nat) → CachedInstance
  | none => s
  | some endpoints =>
    { s with endpoints := s.endpoints.set podIp endpoints, endpointsVersion := s.endpointsVersion + 1 }

def delEndpoints (s : CachedInstance) (podIp : String) : CachedInstance :=
  if s.endpoints.contains podIp then
    { s with endpoints := s.endpoints.erase podIp, endpointsVersion := s.endpointsVersion + 1 }
  else s

/-- The two nested loops of `get_all_endpoints`. -/
def traverse (s : CachedInstance) : List Nat :=
  (s.endpoints.values.flatMap Dict.values).filter fun r => s.enableMultiEndpoints || decide ((s.objects r).id = 0)

def rebuild (s : CachedInstance) : CachedInstance :=
  { s with cachedEndpointsTuple := some s.traverse, cachedEndpointsVersion := some s.endpointsVersion }

def getAllEndpoints (s : CachedInstance) : List Nat × CachedInstance :=
  match s.cachedEndpointsTuple with
  | some tuple =>
    if s.cachedEndpointsVersion = some s.endpointsVersion then (tuple, s) else (s.traverse, s.rebuild)
  | none => (s.traverse, s.rebuild)

/-- The calls on an instance, and a change of an endpoint object; nobody changes an id. -/
inductive Call
  | addEndpoints (podIp : String) (endpoints : Option (Dict Int Nat))
  | delEndpoints (podIp : String)
  | getAllEndpoints
  | change (r : Nat) (ep : Endpoint)

def step (s : CachedInstance) : Call → CachedInstance
  | .addEndpoints podIp endpoints => s.addEndpoints podIp endpoints
  | .delEndpoints podIp => s.delEndpoints podIp
  | .getAllEndpoints => s.getAllEndpoints.2
  | .change r ep => { s with objects := Function.update s.objects r { ep with id := (s.objects r).id } }

/-! ## The instance without the cache -/

/-- The instance with the objects in place of the references. -/
def toManaged (s : CachedInstance) (x : ManagedInstance) : ManagedInstance :=
  { x with
    enableMultiEndpoints := s.enableMultiEndpoints
    endpoints := s.endpoints.mapValues fun eps => eps.mapValues s.objects }

variable {s : CachedInstance}

theorem map_traverse (s : CachedInstance) (x : ManagedInstance) :
    s.traverse.map s.objects = (s.toManaged x).getAllEndpoints := by
  cases hm : s.enableMultiEndpoints with
  | true => simp [traverse, toManaged, ManagedInstance.getAllEndpoints, Instance.endpointList, hm, List.map_flatMap,
      List.flatMap_map]
  | false => simp [traverse, toManaged, ManagedInstance.getAllEndpoints, Instance.endpointList, hm, List.map_flatMap,
      List.flatMap_map, List.filter_flatMap, List.filter_map, Function.comp_def]

/-! ## Coherence -/

/-- A tuple of the current version is what the loops would build; no tuple is of a later version. -/
structure Coherent (s : CachedInstance) : Prop where
  version : ∀ v ∈ s.cachedEndpointsVersion, v ≤ s.endpointsVersion
  tuple : s.cachedEndpointsVersion = some s.endpointsVersion → ∀ t ∈ s.cachedEndpointsTuple, t = s.traverse

theorem coherent_init (objects : Nat → Endpoint) (endpoints : Dict String (Dict Int Nat)) (multi : Bool) :
    Coherent { objects := objects, endpoints := endpoints, enableMultiEndpoints := multi } where
  version _ hv := nomatch hv
  tuple hv := nomatch hv

theorem Coherent.bump (h : Coherent s) (endpoints : Dict String (Dict Int Nat)) :
    Coherent { s with endpoints := endpoints, endpointsVersion := s.endpointsVersion + 1 } where
  version v hv := Nat.le_succ_of_le (h.version v hv)
  tuple hv := absurd (h.version _ hv) (Nat.not_succ_le_self _)

theorem Coherent.addEndpoints (h : Coherent s) (podIp : String) (endpoints : Option (Dict Int Nat)) :
    Coherent (s.addEndpoints podIp endpoints) := by
  cases endpoints with
  | none => exact h
  | some eps => exact h.bump _

theorem Coherent.delEndpoints (h : Coherent s) (podIp : String) : Coherent (s.delEndpoints podIp) := by
  unfold CachedInstance.delEndpoints
  split
  · exact h.bump _
  · exact h

theorem coherent_rebuild (s : CachedInstance) : Coherent s.rebuild where
  version v hv := by
    cases hv
    exact Nat.le_refl _
  tuple _ t ht := by
    cases ht
    rfl

theorem Coherent.getAllEndpoints (h : Coherent s) :
    s.getAllEndpoints.1 = s.traverse ∧ Coherent s.getAllEndpoints.2 := by
  unfold CachedInstance.getAllEndpoints
  cases ht : s.cachedEndpointsTuple with
  | none => exact ⟨rfl, coherent_rebuild s⟩
  | some tuple =>
      by_cases hv : s.cachedEndpointsVersion = some s.endpointsVersion
      · simpa [hv] using ⟨h.tuple hv tuple ht, h⟩
      · simpa [hv] using coherent_rebuild s

theorem traverse_change (r : Nat) (ep : Endpoint) : (s.step (.change r ep)).traverse = s.traverse := by
  simp only [step, traverse]
  congr 1
  funext r'
  by_cases hr : r' = r <;> simp [hr]

theorem Coherent.step (h : Coherent s) (call : Call) : Coherent (s.step call) := by
  cases call with
  | addEndpoints podIp endpoints => exact h.addEndpoints podIp endpoints
  | delEndpoints podIp => exact h.delEndpoints podIp
  | getAllEndpoints => exact h.getAllEndpoints.2
  | change r ep =>
      refine ⟨h.version, fun hv t ht => ?_⟩
      rw [traverse_change]
      exact h.tuple hv t ht

/-- After any calls on a new instance `get_all_endpoints` gives what the loops would build, and so the endpoints of the
instance without a cache. -/
theorem getAllEndpoints_fresh (objects : Nat → Endpoint) (endpoints : Dict String (Dict Int Nat)) (multi : Bool)
    (calls : List Call) (x : ManagedInstance) :
    let s := run step { objects := objects, endpoints := endpoints, enableMultiEndpoints := multi } calls
    s.getAllEndpoints.1 = s.traverse ∧
      s.getAllEndpoints.1.map s.objects = (s.toManaged x).getAllEndpoints := by
  intro s
  have hcoherent : Coherent s :=
    run_invariant' (fun _ call hs => hs.step call) (coherent_init objects endpoints multi) calls
  have hfresh := hcoherent.getAllEndpoints.1
  exact ⟨hfresh, by rw [hfresh, map_traverse]⟩

end CachedInstance

end PyMotor
