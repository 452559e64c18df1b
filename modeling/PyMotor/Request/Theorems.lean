import PyMotor.Lib.Run
import PyMotor.Request.Lemmas.Handler

/-!
# The ledger of the workload action handler
-/

namespace PyMotor

open Lib RequestManager

/-! ## The changes of a key -/

theorem sinceAllocation_append (key : WorkloadKey) (emitted : List EmittedChange) (e : EmittedChange) :
    sinceAllocation key (emitted ++ [e]) =
      if e.key = key then
        if e.action = .allocation then [e.change] else sinceAllocation key emitted ++ [e.change]
      else sinceAllocation key emitted := by
  simp [sinceAllocation]

/-- One component of a record with allocated value `a`: not released yet, or zero and released once. -/
def Component (f : Workload → ℚ) (a w : Workload) (releases : List Workload) : Prop :=
  (f w = f a ∧ releases.countP (fun c => f c ≠ 0) = 0) ∨
  (f w = 0 ∧ releases.countP (fun c => f c ≠ 0) ≤ 1)

/-- The record of a key and the changes since its latest allocation. -/
structure KeyInv (record : Option Workload) (window : List Workload) : Prop where
  sum : window.sum = record.getD 0
  releases : window.tail.countP (fun c => c.activeKvCache ≠ 0) ≤ 1 ∧
    window.tail.countP (fun c => c.activeTokens ≠ 0) ≤ 1
  recorded : ∀ w ∈ record, 0 ≤ w ∧ ∃ a rest, window = a :: rest ∧
    Component Workload.activeKvCache a w rest ∧ Component Workload.activeTokens a w rest

theorem keyInv_allocation {w : Workload} (h : 0 ≤ w) : KeyInv (some w) [w] where
  sum := by simp
  releases := by simp
  recorded w' hw' := by
    cases hw'
    exact ⟨h, w, [], rfl, Or.inl ⟨rfl, rfl⟩, Or.inl ⟨rfl, rfl⟩⟩

theorem Component.count {f : Workload → ℚ} {a w : Workload} {releases : List Workload}
    (h : Component f a w releases) : releases.countP (fun c => f c ≠ 0) ≤ 1 := by
  rcases h with ⟨_, h⟩ | ⟨_, h⟩
  · rw [h]; exact Nat.zero_le 1
  · exact h

theorem Component.clear {f : Workload → ℚ} {a w w' c : Workload} {releases : List Workload}
    (h : Component f a w releases) (hw : f w' = 0) (hc : f c = -f w) : Component f a w' (releases ++ [c]) := by
  refine Or.inr ⟨hw, ?_⟩
  rw [List.countP_append]
  rcases h with ⟨_, hn⟩ | ⟨hz, hn⟩
  · rw [hn, Nat.zero_add]
    exact List.countP_le_length
  · -- A component that is zero is given back as zero.
    have hzero : List.countP (fun c => decide (f c ≠ 0)) [c] = 0 := by simp [hc, hz]
    rw [hzero]
    exact hn

theorem Component.keep {f : Workload → ℚ} {a w w' c : Workload} {releases : List Workload}
    (h : Component f a w releases) (hw : f w' = f w) (hc : f c = 0) : Component f a w' (releases ++ [c]) := by
  have hn : (releases ++ [c]).countP (fun c => f c ≠ 0) = releases.countP fun c => f c ≠ 0 := by
    simp [List.countP_append, hc]
  unfold Component
  rw [hn, hw]
  exact h

theorem KeyInv.release {action : WorkloadAction} {w : Workload} {window : List Workload}
    (h : KeyInv (some w) window) (ha : action ≠ .allocation) :
    KeyInv (if nothingLeft action (releaseRest action w) then none else some (releaseRest action w))
      (window ++ [releaseChange action w]) := by
  obtain ⟨hw, a, rest, rfl, hkv, htok⟩ := h.recorded w rfl
  have hsum := h.sum
  -- The two components after the release.
  have hcomp : Component Workload.activeKvCache a (releaseRest action w) (rest ++ [releaseChange action w]) ∧
      Component Workload.activeTokens a (releaseRest action w) (rest ++ [releaseChange action w]) := by
    cases action with
    | allocation => exact absurd rfl ha
    | releaseKv => exact ⟨hkv.clear rfl rfl, htok.keep rfl rfl⟩
    | releaseTokens => exact ⟨hkv.keep rfl rfl, htok.clear rfl rfl⟩
  have hrest : 0 ≤ releaseRest action w := by
    cases action with
    | allocation => exact absurd rfl ha
    | releaseKv => exact ⟨le_refl _, hw.2⟩
    | releaseTokens => exact ⟨hw.1, le_refl _⟩
  have hwindow : ((a :: rest) ++ [releaseChange action w]).sum = releaseRest action w := by
    rw [List.sum_append, hsum, List.sum_singleton, Option.getD_some]
    cases action with
    | allocation => exact absurd rfl ha
    | releaseKv => exact Workload.ext (add_neg_cancel _) (add_zero _)
    | releaseTokens => exact Workload.ext (add_zero _) (add_neg_cancel _)
  refine ⟨?_, ⟨hcomp.1.count, hcomp.2.count⟩, ?_⟩
  · rw [hwindow]
    split
    · rename_i hn
      -- Not negative and not positive: the other component is zero as well.
      cases action with
      | allocation => exact absurd rfl ha
      | releaseKv => exact Workload.ext rfl (le_antisymm (of_decide_eq_true hn) hw.2)
      | releaseTokens => exact Workload.ext (le_antisymm (of_decide_eq_true hn) hw.1) rfl
    · rfl
  · intro w' hw'
    split at hw'
    · cases hw'
    · cases hw'
      exact ⟨hrest, a, rest ++ [releaseChange action w], rfl, hcomp⟩

/-! ## Runs -/

def HandlerRun.Inv (s : HandlerRun) : Prop :=
  ∀ key, KeyInv (s.manager.getReqWorkload key) (sinceAllocation key s.emitted)

theorem HandlerRun.inv_init : HandlerRun.Inv {} := by
  intro key
  exact ⟨rfl, by simp [sinceAllocation], fun w hw => by cases hw⟩

theorem HandlerRun.Inv.step {s : HandlerRun} (h : s.Inv) (call : HandlerCall) : (s.step call).Inv := by
  intro key
  rcases computeAndUpdate_cases s.manager call with hnone | ⟨role, ha, _, _, hres, hget⟩ | ⟨role, w, ha, _, hw, hres, hget⟩
  · have hs : s.step call = s := by simp [HandlerRun.step, hnone]
    rw [hs]
    exact h key
  · simp only [HandlerRun.step, hres, hget, Option.map_some, Option.toList_some, sinceAllocation_append]
    by_cases hk : key = (call.reqId, role)
    · rw [if_pos hk, if_pos hk.symm, if_pos ha]
      exact keyInv_allocation (calculateDemandWorkload_nonneg _ _)
    · rw [if_neg hk, if_neg (fun e => hk e.symm)]
      exact h key
  · simp only [HandlerRun.step, hres, hget, Option.map_some, Option.toList_some, sinceAllocation_append, if_neg ha]
    by_cases hk : key = (call.reqId, role)
    · have hkey := h key
      rw [hk, hw] at hkey
      rw [if_pos hk, if_pos hk.symm, hk]
      exact hkey.release ha
    · rw [if_neg hk, if_neg (fun e => hk e.symm)]
      exact h key

theorem HandlerRun.inv_run (calls : List HandlerCall) : (run HandlerRun.step {} calls).Inv :=
  run_invariant' (I := HandlerRun.Inv) (fun _ call h => h.step call) HandlerRun.inv_init calls

/-! ## The ledger -/

theorem nothingLeft_iff {action : WorkloadAction} {w : Workload} (ha : action ≠ .allocation) (hw : 0 ≤ w) :
    nothingLeft action (releaseRest action w) = true ↔ releaseRest action w = 0 := by
  cases action with
  | allocation => exact absurd rfl ha
  | releaseKv =>
      simp only [nothingLeft, releaseRest, Workload.ext_iff, Workload.zero_kv,
        Workload.zero_tokens, true_and]
      exact ⟨fun h => le_antisymm (of_decide_eq_true h) hw.2, fun h => decide_eq_true h.le⟩
  | releaseTokens =>
      simp only [nothingLeft, releaseRest, Workload.ext_iff, Workload.zero_kv,
        Workload.zero_tokens, and_true]
      exact ⟨fun h => le_antisymm (of_decide_eq_true h) hw.1, fun h => decide_eq_true h.le⟩

def HandlerCall.Targets (call : HandlerCall) (key : WorkloadKey) : Prop :=
  call.reqId = key.1 ∧ normalizeRole call.resource = some key.2

theorem HandlerRun.step_other {s : HandlerRun} {call : HandlerCall} {key : WorkloadKey} (h : ¬ call.Targets key) :
    (s.step call).manager.getReqWorkload key = s.manager.getReqWorkload key := by
  have hne : ∀ role, normalizeRole call.resource = some role → key ≠ (call.reqId, role) := by
    rintro role hrole rfl
    exact h ⟨rfl, hrole⟩
  rcases computeAndUpdate_cases s.manager call with hnone | ⟨role, _, hrole, _, _, hget⟩ | ⟨role, w, _, hrole, _, _, hget⟩
  · simp [HandlerRun.step, hnone]
  · exact (hget key).trans (if_neg (hne role hrole))
  · exact (hget key).trans (if_neg (hne role hrole))

/-- The record goes away exactly with the release after which both components are zero. -/
theorem HandlerRun.Inv.deleted_iff {s : HandlerRun} (h : s.Inv) (call : HandlerCall) (key : WorkloadKey) :
    ((∃ w, s.manager.getReqWorkload key = some w) ∧ (s.step call).manager.getReqWorkload key = none) ↔
      ∃ w, s.manager.getReqWorkload key = some w ∧ call.Targets key ∧ call.action ≠ .allocation ∧
        releaseRest call.action w = 0 := by
  by_cases ht : call.Targets key
  · obtain ⟨hid, hrole'⟩ := ht
    rcases computeAndUpdate_cases s.manager call with hnone | ⟨role, ha, hrole, hrec, _, hget⟩ |
      ⟨role, w, ha, hrole, hrec, _, hget⟩
    · -- Nothing is done: there is no record, or the action is an allocation on one.
      have hs : s.step call = s := by simp [HandlerRun.step, hnone]
      rw [hs]
      constructor
      · rintro ⟨⟨w, hw⟩, hn⟩; rw [hw] at hn; cases hn
      · rintro ⟨w, hw, _, ha, _⟩
        exact absurd hnone (computeAndUpdate_ne_none ha hrole' (by rw [hid]; exact hw))
    · rw [hrole'] at hrole; cases hrole
      rw [hid] at hrec
      constructor
      · rintro ⟨⟨w, hw⟩, _⟩; rw [show key = (key.1, key.2) from rfl, hrec] at hw; cases hw
      · rintro ⟨w, _, _, hna, _⟩; exact absurd ha hna
    · rw [hrole'] at hrole; cases hrole
      rw [hid] at hrec
      have hw := ((h key).recorded w hrec).1
      have hnext : (s.step call).manager.getReqWorkload key =
          if nothingLeft call.action (releaseRest call.action w) then none
          else some (releaseRest call.action w) := by
        refine (hget key).trans (if_pos ?_)
        rw [hid]
      rw [hnext]
      constructor
      · rintro ⟨_, hn⟩
        split at hn
        · rename_i hl
          exact ⟨w, hrec, ⟨hid, hrole'⟩, ha, (nothingLeft_iff ha hw).mp hl⟩
        · cases hn
      · rintro ⟨w', hw', _, _, hz⟩
        rw [show s.manager.getReqWorkload key = some w from hrec] at hw'
        cases hw'
        exact ⟨⟨w, hrec⟩, if_pos ((nothingLeft_iff ha hw).mpr hz)⟩
  · rw [HandlerRun.step_other ht]
    constructor
    · rintro ⟨⟨w, hw⟩, hn⟩; rw [hw] at hn; cases hn
    · rintro ⟨_, _, h, _⟩; exact absurd h ht

/-- For every sequence of actions and every key: the changes emitted since the latest allocation add up to
the record; a recorded component is the allocated value or zero and is not negative; each component is given
back at most once; the record goes away exactly with the release after which both components are zero; and
an action on another key leaves it alone. -/
theorem handler_ledger (calls : List HandlerCall) (key : WorkloadKey) :
    (sinceAllocation key (run HandlerRun.step {} calls).emitted).sum =
      ((run HandlerRun.step {} calls).manager.getReqWorkload key).getD 0 ∧
    (∀ w, (run HandlerRun.step {} calls).manager.getReqWorkload key = some w →
      0 ≤ w ∧ ∃ a rest, sinceAllocation key (run HandlerRun.step {} calls).emitted = a :: rest ∧
        (w.activeKvCache = a.activeKvCache ∨ w.activeKvCache = 0) ∧
        (w.activeTokens = a.activeTokens ∨ w.activeTokens = 0)) ∧
    ((sinceAllocation key (run HandlerRun.step {} calls).emitted).tail.countP (fun c => c.activeKvCache ≠ 0) ≤ 1 ∧
      (sinceAllocation key (run HandlerRun.step {} calls).emitted).tail.countP (fun c => c.activeTokens ≠ 0) ≤ 1) ∧
    (∀ call, ((∃ w, (run HandlerRun.step {} calls).manager.getReqWorkload key = some w) ∧
        ((run HandlerRun.step {} calls).step call).manager.getReqWorkload key = none) ↔
      ∃ w, (run HandlerRun.step {} calls).manager.getReqWorkload key = some w ∧ call.Targets key ∧
        call.action ≠ .allocation ∧ releaseRest call.action w = 0) ∧
    (∀ call, ¬ call.Targets key → ((run HandlerRun.step {} calls).step call).manager.getReqWorkload key =
      (run HandlerRun.step {} calls).manager.getReqWorkload key) := by
  have hinv := HandlerRun.inv_run calls
  have hkey := hinv key
  refine ⟨hkey.sum, fun w hw => ?_, hkey.releases, fun call => hinv.deleted_iff call key,
    fun call => HandlerRun.step_other⟩
  obtain ⟨hnonneg, a, rest, hwindow, hkv, htok⟩ := hkey.recorded w hw
  exact ⟨hnonneg, a, rest, hwindow, hkv.imp And.left And.left, htok.imp And.left And.left⟩

end PyMotor
