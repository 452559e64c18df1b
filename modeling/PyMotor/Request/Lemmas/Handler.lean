import PyMotor.Request.RequestManager

/-!
# One action of the handler
-/

namespace PyMotor

open Lib

namespace RequestManager

variable {rm : RequestManager}

theorem getReqWorkload_addReqWorkload (rm : RequestManager) (key key' : WorkloadKey) (w : Workload) :
    (rm.addReqWorkload key w).2.getReqWorkload key' =
      if key' = key then some ((rm.getReqWorkload key).getD w) else rm.getReqWorkload key' := by
  unfold addReqWorkload getReqWorkload
  cases h : rm.reqWorkloadDict.get? key with
  | some v =>
      rw [if_pos (Dict.contains_iff.mpr ⟨v, h⟩)]
      split
      · rename_i he; rw [he, h]; rfl
      · rfl
  | none =>
      rw [if_neg (by rw [Dict.contains_eq_false_iff.mpr h]; exact Bool.false_ne_true)]
      exact Dict.get?_set _ _ _ _

theorem addReqWorkload_fst (key : WorkloadKey) (w : Workload) :
    (rm.addReqWorkload key w).1 = (rm.getReqWorkload key).isNone := by
  unfold addReqWorkload getReqWorkload
  cases h : rm.reqWorkloadDict.get? key with
  | some v => rw [if_pos (Dict.contains_iff.mpr ⟨v, h⟩)]; rfl
  | none => rw [if_neg (by rw [Dict.contains_eq_false_iff.mpr h]; exact Bool.false_ne_true)]; rfl

theorem getReqWorkload_updateReqWorkload {key : WorkloadKey} {w : Workload} (h : rm.getReqWorkload key = some w)
    (key' : WorkloadKey) (w' : Workload) :
    (rm.updateReqWorkload key w').2.getReqWorkload key' =
      if key' = key then some w' else rm.getReqWorkload key' := by
  unfold updateReqWorkload getReqWorkload
  rw [if_pos (Dict.contains_iff.mpr ⟨w, h⟩)]
  exact Dict.get?_set _ _ _ _

theorem getReqWorkload_delReqWorkload (key key' : WorkloadKey) :
    (rm.delReqWorkload key).2.getReqWorkload key' = if key' = key then none else rm.getReqWorkload key' := by
  unfold delReqWorkload getReqWorkload
  cases h : rm.reqWorkloadDict.get? key with
  | some v =>
      rw [if_pos (Dict.contains_iff.mpr ⟨v, h⟩)]
      exact Dict.get?_erase _ _ _
  | none =>
      rw [if_neg (by rw [Dict.contains_eq_false_iff.mpr h]; exact Bool.false_ne_true)]
      split
      · rename_i he; rw [he]; exact h
      · rfl

theorem release_some {action : WorkloadAction} {key : WorkloadKey} {w : Workload}
    (h : rm.getReqWorkload key = some w) :
    (rm.release action key).1 = some (releaseChange action w, key.2) ∧
    ∀ key', (rm.release action key).2.getReqWorkload key' =
      if key' = key then (if nothingLeft action (releaseRest action w) then none else some (releaseRest action w))
      else rm.getReqWorkload key' := by
  simp only [release, h, true_and]
  intro key'
  split
  · rw [getReqWorkload_delReqWorkload, getReqWorkload_updateReqWorkload h]
    split <;> rfl
  · rw [getReqWorkload_updateReqWorkload h]

theorem reqInfoDict_updateReqWorkload (key : WorkloadKey) (w : Workload) :
    (rm.updateReqWorkload key w).2.reqInfoDict = rm.reqInfoDict := by
  unfold updateReqWorkload
  split <;> rfl

theorem reqInfoDict_delReqWorkload (key : WorkloadKey) :
    (rm.delReqWorkload key).2.reqInfoDict = rm.reqInfoDict := by
  unfold delReqWorkload
  split <;> rfl

theorem reqInfoDict_addReqWorkload (key : WorkloadKey) (w : Workload) :
    (rm.addReqWorkload key w).2.reqInfoDict = rm.reqInfoDict := by
  unfold addReqWorkload
  split <;> rfl

theorem reqInfoDict_release (action : WorkloadAction) (key : WorkloadKey) :
    (rm.release action key).2.reqInfoDict = rm.reqInfoDict := by
  unfold release
  split
  · rfl
  · dsimp only
    split
    · rw [reqInfoDict_delReqWorkload, reqInfoDict_updateReqWorkload]
    · rw [reqInfoDict_updateReqWorkload]

theorem computeAndUpdate_cases (rm : RequestManager) (call : HandlerCall) :
    (rm.computeAndUpdate call.resource call.reqId call.action call.reqLen = (none, rm)) ∨
    (∃ role, call.action = .allocation ∧ normalizeRole call.resource = some role ∧
      rm.getReqWorkload (call.reqId, role) = none ∧
      (rm.computeAndUpdate call.resource call.reqId call.action call.reqLen).1 =
        some (calculateDemandWorkload role call.reqLen, role) ∧
      ∀ key, (rm.computeAndUpdate call.resource call.reqId call.action call.reqLen).2.getReqWorkload key =
        if key = (call.reqId, role) then some (calculateDemandWorkload role call.reqLen)
        else rm.getReqWorkload key) ∨
    (∃ role w, call.action ≠ .allocation ∧ normalizeRole call.resource = some role ∧
      rm.getReqWorkload (call.reqId, role) = some w ∧
      (rm.computeAndUpdate call.resource call.reqId call.action call.reqLen).1 =
        some (releaseChange call.action w, role) ∧
      ∀ key, (rm.computeAndUpdate call.resource call.reqId call.action call.reqLen).2.getReqWorkload key =
        if key = (call.reqId, role) then
          (if nothingLeft call.action (releaseRest call.action w) then none else some (releaseRest call.action w))
        else rm.getReqWorkload key) := by
  obtain ⟨resource, reqId, action, reqLen⟩ := call
  dsimp only
  unfold computeAndUpdate
  cases hrole : normalizeRole resource with
  | none => exact Or.inl rfl
  | some role =>
      have hrel : ∀ a, a ≠ .allocation → (rm.release a (reqId, role) = (none, rm)) ∨
          ∃ w, rm.getReqWorkload (reqId, role) = some w ∧
            (rm.release a (reqId, role)).1 = some (releaseChange a w, role) ∧
            ∀ key, (rm.release a (reqId, role)).2.getReqWorkload key =
              if key = (reqId, role) then
                (if nothingLeft a (releaseRest a w) then none else some (releaseRest a w))
              else rm.getReqWorkload key := by
        intro a _
        cases hw : rm.getReqWorkload (reqId, role) with
        | none => exact Or.inl (by simp only [release, hw])
        | some w => exact Or.inr ⟨w, rfl, release_some hw⟩
      cases action with
      | allocation =>
          cases hw : rm.getReqWorkload (reqId, role) with
          | some w =>
              left
              have hc : rm.reqWorkloadDict.contains (reqId, role) = true := Dict.contains_iff.mpr ⟨w, hw⟩
              simp [allocate, addReqWorkload, hc]
          | none =>
              right; left
              have hc : rm.reqWorkloadDict.contains (reqId, role) = false := Dict.contains_eq_false_iff.mpr hw
              refine ⟨role, rfl, rfl, hw, by simp [allocate, addReqWorkload, hc], fun key => ?_⟩
              have hadd := getReqWorkload_addReqWorkload rm (reqId, role) key
                (calculateDemandWorkload role reqLen)
              rw [hw] at hadd
              simpa [allocate, addReqWorkload, hc] using hadd
      | releaseKv =>
          rcases hrel .releaseKv (by decide) with h | ⟨w, hw, h₁, h₂⟩
          · exact Or.inl h
          · exact Or.inr (Or.inr ⟨role, w, by decide, rfl, hw, h₁, h₂⟩)
      | releaseTokens =>
          rcases hrel .releaseTokens (by decide) with h | ⟨w, hw, h₁, h₂⟩
          · exact Or.inl h
          · exact Or.inr (Or.inr ⟨role, w, by decide, rfl, hw, h₁, h₂⟩)

theorem computeAndUpdate_ne_none {resource : Option ScheduledResource} {reqId : String} {action : WorkloadAction}
    {reqLen : Nat} {role : PDRole} {w : Workload} (ha : action ≠ .allocation)
    (hrole : normalizeRole resource = some role) (hw : rm.getReqWorkload (reqId, role) = some w) :
    rm.computeAndUpdate resource reqId action reqLen ≠ (none, rm) := by
  intro h
  have h₁ := congrArg Prod.fst h
  have hrel : ∀ a, (rm.release a (reqId, role)).1 ≠ none := by
    intro a hn
    rw [(release_some hw).1] at hn
    cases hn
  cases action with
  | allocation => exact ha rfl
  | releaseKv => simp only [computeAndUpdate, hrole] at h₁; exact hrel _ h₁
  | releaseTokens => simp only [computeAndUpdate, hrole] at h₁; exact hrel _ h₁

end RequestManager

end PyMotor
