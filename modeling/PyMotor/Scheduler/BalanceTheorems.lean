import PyMotor.Scheduler.Policies

/-!
# What load balance selects
-/

namespace PyMotor

open Lib

theorem Workload.calculateWorkloadScore_ok {role : String} (h : (PDRole.ofString? role).isSome) (w : Workload) :
    ∃ s, w.calculateWorkloadScore (some role) = .ok s := by
  unfold PDRole.ofString? at h
  split at h
  · exact ⟨_, rfl⟩
  · exact ⟨_, rfl⟩
  · exact ⟨_, rfl⟩
  · cases h

namespace LoadBalancePolicy

variable {instances : List ManagedInstance}

theorem instanceScore_some {inst : ManagedInstance} (h : (PDRole.ofString? inst.role).isSome) :
    ∃ s, instanceScore inst = some s := by
  obtain ⟨s, hs⟩ := inst.gatheredWorkload.calculateWorkloadScore_ok h
  exact ⟨s, by simp [instanceScore, hs, Except.toOption]⟩

theorem endpointScore_some {inst : ManagedInstance} (h : (PDRole.ofString? inst.role).isSome) (ep : Endpoint) :
    ∃ s, endpointScore inst ep = some s := by
  obtain ⟨s, hs⟩ := ep.workload.calculateWorkloadScore_ok h
  exact ⟨s, by simp [endpointScore, hs, Except.toOption]⟩

/-- The loop by position goes through the rotated list. -/
theorem rotatedLoop_eq (instances : List ManagedInstance) (startIndex : Nat) :
    rotatedLoop instances startIndex = plainLoop (instances.rotate startIndex) := by
  have hpass : ∀ (l : List ManagedInstance) (best : Option (ℚ × ManagedInstance)),
      (List.range l.length).foldl (fun best i => (l[i]?).elim best (keepMin instanceScore best)) best =
        l.foldl (keepMin instanceScore) best := by
    intro l
    induction l with
    | nil => simp
    | cons inst l ih =>
        intro best
        simp [List.range_succ_eq_map, List.foldl_map, ih]
  unfold rotatedLoop plainLoop
  rw [← hpass (instances.rotate startIndex) none, List.length_rotate]
  refine List.foldl_ext _ _ _ fun best i hi => ?_
  rw [List.getElem?_rotate (List.mem_range.mp hi), Nat.add_comm]
  cases instances[(i + startIndex) % instances.length]? <;> rfl

theorem selectInstanceFromList_eq (instances : List ManagedInstance) (role : Option PDRole) (startIndex : Nat) :
    selectInstanceFromList instances role startIndex =
      (plainLoop (instances.rotate (startIndex % instances.length))).map Prod.snd := by
  rw [List.rotate_mod]
  cases startIndex with
  | zero => simp [selectInstanceFromList]
  | succ i =>
      cases instances with
      | nil => simp [selectInstanceFromList, plainLoop]
      | cons inst rest => simp [selectInstanceFromList, rotatedLoop_eq]

theorem selectInstanceFromList_first (hne : instances ≠ [])
    (hroles : ∀ inst ∈ instances, (PDRole.ofString? inst.role).isSome) (role : Option PDRole) (startIndex : Nat) :
    ∃ s, ∃ inst ∈ selectInstanceFromList instances role startIndex,
      IsFirstMin instanceScore (instances.rotate (startIndex % instances.length)) s inst := by
  obtain ⟨inst, hinst⟩ := List.exists_mem_of_ne_nil instances hne
  obtain ⟨t, ht⟩ := instanceScore_some (hroles inst hinst)
  obtain ⟨s, best, hpass, hfirst⟩ := exists_isFirstMin instanceScore
    (instances.rotate (startIndex % instances.length)) ⟨inst, List.mem_rotate.mpr hinst, by simp [ht]⟩
  refine ⟨s, best, ?_, hfirst⟩
  rw [selectInstanceFromList_eq, plainLoop, hpass]
  rfl

theorem selectEndpointFromInstance_first {inst : ManagedInstance} (hrole : (PDRole.ofString? inst.role).isSome)
    (hne : inst.getAllEndpoints ≠ []) :
    ∃ s, ∃ ep ∈ selectEndpointFromInstance inst, IsFirstMin (endpointScore inst) inst.getAllEndpoints s ep := by
  obtain ⟨ep, hep⟩ := List.exists_mem_of_ne_nil _ hne
  obtain ⟨t, ht⟩ := endpointScore_some hrole ep
  obtain ⟨s, best, hpass, hfirst⟩ := exists_isFirstMin (endpointScore inst) inst.getAllEndpoints ⟨ep, hep, by simp [ht]⟩
  refine ⟨s, best, ?_, hfirst⟩
  simp [selectEndpointFromInstance, hne, hpass]

theorem score_selectInstanceFromList {instances' : List ManagedInstance} (hne : instances ≠ [])
    (hroles : ∀ inst ∈ instances, (PDRole.ofString? inst.role).isSome) (hperm : instances'.Perm instances)
    (role role' : Option PDRole) (startIndex startIndex' : Nat) :
    (selectInstanceFromList instances role startIndex).bind instanceScore =
      (selectInstanceFromList instances' role' startIndex').bind instanceScore := by
  have hne' : instances' ≠ [] := by
    rintro rfl
    exact hne hperm.nil_eq.symm
  obtain ⟨s, inst, hselect, hfirst⟩ := selectInstanceFromList_first hne hroles role startIndex
  obtain ⟨s', inst', hselect', hfirst'⟩ := selectInstanceFromList_first hne'
    (fun x hx => hroles x (hperm.mem_iff.mp hx)) role' startIndex'
  have hscore : s = s' := hfirst.score_unique hfirst' fun y => by
    rw [List.mem_rotate, List.mem_rotate, hperm.mem_iff]
  rw [hselect, hselect', Option.bind_some, Option.bind_some, hfirst.score_eq, hfirst'.score_eq, hscore]

/-- Load balance selects the first of the lowest scores in the rotated order, its two loops agree, and the score
depends neither on the start nor on whether a client or the policy of the server selects. -/
theorem selects_lowest (hne : instances ≠ [])
    (hroles : ∀ inst ∈ instances, (PDRole.ofString? inst.role).isSome) :
    (∀ role startIndex, ∃ s, ∃ inst ∈ selectInstanceFromList instances role startIndex,
      IsFirstMin instanceScore (instances.rotate (startIndex % instances.length)) s inst ∧
        ∀ other ∈ instances, ∃ t ∈ instanceScore other, s ≤ t) ∧
    rotatedLoop instances 0 = plainLoop instances ∧
    (∀ role role' startIndex startIndex', (selectInstanceFromList instances role startIndex).bind instanceScore =
      (selectInstanceFromList instances role' startIndex').bind instanceScore) ∧
    (∀ inst : ManagedInstance, (PDRole.ofString? inst.role).isSome → inst.getAllEndpoints ≠ [] →
      ∃ s, ∃ ep ∈ selectEndpointFromInstance inst, IsFirstMin (endpointScore inst) inst.getAllEndpoints s ep) ∧
    ∀ (client : ClientSelector) (active : Dict Int ManagedInstance) (role : PDRole) (role' : Option PDRole),
      active.values.Perm instances → (client.selectInstanceByLoadBalance instances role).bind instanceScore =
        (selectInstance active role').bind instanceScore := by
  refine ⟨?_, ?_, ?_, ?_, ?_⟩
  · intro role startIndex
    obtain ⟨s, inst, hselect, hfirst⟩ := selectInstanceFromList_first hne hroles role startIndex
    refine ⟨s, inst, hselect, hfirst, fun other hother => ?_⟩
    obtain ⟨t, ht⟩ := instanceScore_some (hroles other hother)
    exact ⟨t, ht, hfirst.le (List.mem_rotate.mpr hother) ht⟩
  · rw [rotatedLoop_eq, List.rotate_zero]
  · intro role role' startIndex startIndex'
    exact score_selectInstanceFromList hne hroles (List.Perm.refl _) role role' startIndex startIndex'
  · intro inst hrole hinst
    exact selectEndpointFromInstance_first hrole hinst
  · intro client active role role' hperm
    have hactive : active.values ≠ [] := by
      intro h
      rw [h] at hperm
      exact hne hperm.nil_eq.symm
    simp only [ClientSelector.selectInstanceByLoadBalance, selectInstance, List.isEmpty_iff, if_neg hactive]
    exact score_selectInstanceFromList hne hroles hperm _ _ _ _

def threeLoads : List ManagedInstance :=
  [{ id := 1, role := "prefill", gatheredWorkload := ⟨10, 2⟩ }, { id := 2, role := "prefill", gatheredWorkload := ⟨0, 2⟩ },
    { id := 3, role := "prefill", gatheredWorkload := ⟨0, 2⟩ }]

theorem threeLoads_lowest : ∃ s, ∃ inst ∈ selectInstanceFromList threeLoads none 2,
    IsFirstMin instanceScore (threeLoads.rotate (2 % threeLoads.length)) s inst ∧
      ∀ other ∈ threeLoads, ∃ t ∈ instanceScore other, s ≤ t :=
  (selects_lowest (by decide) (by decide)).1 none 2

end LoadBalancePolicy

end PyMotor
