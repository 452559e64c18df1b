import PyMotor.Router.ContextRouter
import PyMotor.Router.Lemmas.PdLeg

/-!
# What leaving the context managers gives back

The context managers that an attempt holds are a stack. Each workload on it is the record of its role, and
the request context lies under all of them, so that leaving the stack from its top settles every workload.
-/

namespace PyMotor

open Lib Recompute Router RequestManager

/-! ## What a handler owes -/

/-- What a release of a recorded workload sends. -/
def Router.ReleaseFunc.givesBack : ReleaseFunc → Workload → List Workload
  | .releaseTokens, w => [⟨0, -w.activeTokens⟩]
  | .releaseAll, w => ⟨0, -w.activeTokens⟩ :: if w.activeKvCache ≤ 0 then [] else [⟨-w.activeKvCache, 0⟩]

namespace AllocatedWorkload

/-- The workload, and what one release of it sends. -/
def changes (x : AllocatedWorkload) : List Workload := x.workload :: x.release.givesBack x.workload

def entries (x : AllocatedWorkload) : List ((Int × Int) × Workload) := x.changes.map fun c => (x.place, c)

/-- One release gives back the whole workload. -/
def Settles (x : AllocatedWorkload) : Prop := x.changes.sum = 0

structure Releasable (x : AllocatedWorkload) : Prop where
  nonneg : 0 ≤ x.workload
  tokensOnly : x.release = .releaseTokens → x.workload.activeKvCache ≤ 0

theorem Releasable.settles {x : AllocatedWorkload} (h : x.Releasable) : x.Settles := by
  obtain ⟨release, place, w⟩ := x
  have hkv : (0 : ℚ) ≤ w.activeKvCache := h.nonneg.1
  unfold Settles changes
  cases release with
  | releaseTokens =>
      have hzero : w.activeKvCache = 0 := le_antisymm (h.tokensOnly rfl) hkv
      ext <;> simp [ReleaseFunc.givesBack, hzero]
  | releaseAll =>
      by_cases hle : w.activeKvCache ≤ 0
      · have hzero : w.activeKvCache = 0 := le_antisymm hle hkv
        ext <;> simp [ReleaseFunc.givesBack, hzero]
      · ext <;> simp [ReleaseFunc.givesBack, hle]

theorem balance_entries {x : AllocatedWorkload} (h : x.Settles) (p : Int × Int) : balance x.entries p = 0 := by
  have key : ∀ cs : List Workload, balance (cs.map fun c => (x.place, c)) p = if x.place = p then cs.sum else 0 := by
    intro cs
    induction cs with
    | nil => simp
    | cons c cs ih =>
        rw [List.map_cons, balance_cons, ih, List.sum_cons]
        split <;> simp
  rw [entries, key, show x.changes.sum = 0 from h, ite_self]

end AllocatedWorkload

/-! ## One release -/

namespace Router

variable {s : Router}

def Unlisted (s : Router) : Prop := s.requestManager.getReqInfo s.reqInfo.reqId = none

theorem release_run {x : AllocatedWorkload} (hx : x.Releasable) {role : PDRole}
    (hrec : s.requestManager.getReqWorkload (s.reqInfo.reqId, role) = some x.workload) :
    ∃ rm, x.release.run (scheduledResource role x.place.1 x.place.2) s =
        { s with
          requestManager := rm
          sent := s.sent ++ (x.release.givesBack x.workload).map fun c => (x.place, c) } ∧
      rm.reqInfoDict = s.requestManager.reqInfoDict ∧
      ∀ key, rm.getReqWorkload key =
        if key = (s.reqInfo.reqId, role) then none else s.requestManager.getReqWorkload key := by
  obtain ⟨release, place, w⟩ := x
  obtain ⟨rm, hupd, hdict, hrm⟩ := updateWorkload_recorded .releaseTokens (by decide) hrec place.1 place.2
  dsimp only at hupd hrm ⊢
  have hleft : ∀ key, w.activeKvCache ≤ 0 → rm.getReqWorkload key =
      if key = (s.reqInfo.reqId, role) then none else s.requestManager.getReqWorkload key := by
    intro key hle
    rw [hrm key]
    simp [nothingLeft, releaseRest, hle]
  cases release with
  | releaseTokens => exact ⟨rm, hupd, hdict, fun key => hleft key (hx.tokensOnly rfl)⟩
  | releaseAll =>
      simp only [ReleaseFunc.run, releaseAll, releaseTokens, releaseKv, hupd, ReleaseFunc.givesBack]
      by_cases hle : w.activeKvCache ≤ 0
      · rw [updateWorkload_unrecorded (by decide) (by rw [hleft _ hle, if_pos rfl]), if_pos hle]
        exact ⟨rm, rfl, hdict, fun key => hleft key hle⟩
      · have hrest : rm.getReqWorkload (s.reqInfo.reqId, role) = some { w with activeTokens := 0 } := by
          rw [hrm]
          simp [nothingLeft, releaseRest, hle]
        obtain ⟨rm', hupd', hdict', hrm'⟩ := updateWorkload_recorded
          (s := { s with requestManager := rm, sent := s.sent ++ [((place.1, place.2), releaseChange .releaseTokens w)] })
          .releaseKv (by decide) hrest place.1 place.2
        refine ⟨rm', ?_, hdict'.trans hdict, fun key => ?_⟩
        · rw [hupd', if_neg hle]
          simp [releaseChange]
        · rw [hrm' key]
          dsimp only
          split
          · simp [nothingLeft, releaseRest]
          · rename_i hkey
            rw [hrm key, if_neg hkey]

/-! ## The books -/

/-- The records of the request, and the changes that were sent: a workload for each allocation that is
outstanding, and workload and release for each that is closed. -/
structure Books (s : Router) (records : PDRole → Option Workload) (outstanding closed : List AllocatedWorkload) :
    Prop where
  records : ∀ role, s.requestManager.getReqWorkload (s.reqInfo.reqId, role) = records role
  sent : s.sent.Perm (outstanding.map (fun x => (x.place, x.workload)) ++ closed.flatMap AllocatedWorkload.entries)

variable {records : PDRole → Option Workload} {outstanding closed : List AllocatedWorkload}

theorem Books.congr {s' : Router} (h : Books s records outstanding closed)
    (hid : s'.reqInfo.reqId = s.reqInfo.reqId) (hrm : s'.requestManager = s.requestManager) (hsent : s'.sent = s.sent) :
    Books s' records outstanding closed where
  records := by rw [hid, hrm]; exact h.records
  sent := by rw [hsent]; exact h.sent

theorem Books.allocated {s' : Router} {role : PDRole} {x : AllocatedWorkload} (h : Books s records outstanding closed)
    (hrole : records role = none) (hid : s'.reqInfo.reqId = s.reqInfo.reqId)
    (hrm : s'.requestManager = (s.requestManager.addReqWorkload (s.reqInfo.reqId, role) x.workload).2)
    (hsent : s'.sent = s.sent ++ [(x.place, x.workload)]) :
    Books s' (Function.update records role (some x.workload)) (x :: outstanding) closed where
  records role' := by
    rw [hid, hrm, getReqWorkload_addReqWorkload, h.records, h.records, hrole]
    by_cases hr : role' = role
    · subst hr; simp
    · simp [hr]
  sent := by
    rw [hsent]
    exact (h.sent.append_right _).trans (List.perm_append_singleton _ _)

theorem Books.released {role : PDRole} {x : AllocatedWorkload}
    (h : Books s (Function.update records role (some x.workload)) (x :: outstanding) closed) (hrole : records role = none)
    (hx : x.Releasable) :
    Books (x.release.run (scheduledResource role x.place.1 x.place.2) s) records outstanding (x :: closed) ∧
      (x.release.run (scheduledResource role x.place.1 x.place.2) s).reqInfo = s.reqInfo ∧
      (x.release.run (scheduledResource role x.place.1 x.place.2) s).requestManager.reqInfoDict =
        s.requestManager.reqInfoDict := by
  obtain ⟨rm, hrun, hdict, hrm⟩ := release_run hx (by rw [h.records, Function.update_self])
  rw [hrun]
  refine ⟨⟨fun role' => ?_, ?_⟩, rfl, hdict⟩
  · rw [hrm]
    dsimp only
    rw [h.records]
    by_cases hr : role' = role
    · subst hr; simp [hrole]
    · simp [hr]
  · have hsent := h.sent
    simp only [List.map_cons, List.flatMap_cons, AllocatedWorkload.entries, AllocatedWorkload.changes,
      ← Multiset.coe_eq_coe, ← Multiset.coe_add, ← Multiset.cons_coe, Multiset.cons_add] at hsent ⊢
    rw [hsent]
    simp only [Multiset.add_cons, Multiset.cons_add]
    congr 1
    abel

theorem Books.delReqInfo (h : Books s (fun _ => none) outstanding closed) :
    Books (Entered.request.exit s) (fun _ => none) outstanding closed ∧ Unlisted (Entered.request.exit s) := by
  unfold Entered.exit Unlisted RequestManager.delReqInfo
  dsimp only
  split
  · refine ⟨⟨fun role => ?_, h.sent⟩, ?_⟩
    · show (Dict.filterKeys _ _).get? _ = none
      rw [Dict.get?_filterKeys]
      simp
    · exact Dict.get?_erase_self _ _
  · rename_i hno
    exact ⟨h, Dict.contains_eq_false_iff.mp (Bool.eq_false_iff.mpr hno)⟩

/-! ## The stack of context managers -/

/-- The stack holds the outstanding allocations, whose workloads are the records; nothing is recorded when the
request context is entered. -/
inductive Holds : List Entered → List AllocatedWorkload → (PDRole → Option Workload) → Prop
  | nil : Holds [] [] fun _ => none
  | request {held : List Entered} : Holds held [] (fun _ => none) → Holds (.request :: held) [] fun _ => none
  | client {held : List Entered} {outstanding : List AllocatedWorkload} {records : PDRole → Option Workload} :
      Holds held outstanding records → Holds (.client :: held) outstanding records
  | resource {held : List Entered} {outstanding : List AllocatedWorkload} {records : PDRole → Option Workload}
      {role : PDRole} {x : AllocatedWorkload} : Holds held outstanding records → records role = none → x.Releasable →
      Holds (.resource x.release (scheduledResource role x.place.1 x.place.2) :: held) (x :: outstanding)
        (Function.update records role (some x.workload))

theorem Holds.releasable {held : List Entered} (h : Holds held outstanding records) :
    ∀ x ∈ outstanding, x.Releasable := by
  induction h with
  | nil => intro x hx; cases hx
  | request _ _ => intro x hx; cases hx
  | client _ ih => exact ih
  | resource _ _ hx ih =>
      intro y hy
      rcases List.mem_cons.mp hy with rfl | hy
      · exact hx
      · exact ih y hy

theorem Holds.outstanding_nil {held : List Entered} (h : Holds held outstanding records)
    (hnone : records = fun _ => none) : outstanding = [] := by
  induction h with
  | nil => rfl
  | request _ _ => rfl
  | client _ ih => exact ih hnone
  | @resource _ _ _ role x _ _ _ _ =>
      have hrole := congrFun hnone role
      rw [Function.update_self] at hrole
      cases hrole

theorem Holds.exitAll {held : List Entered} (h : Holds held outstanding records) {s : Router}
    {closed : List AllocatedWorkload} (hs : Books s records outstanding closed) :
    Books (exitAll held s) (fun _ => none) [] (outstanding.reverse ++ closed) ∧
      (.request ∈ held ∨ Unlisted s → Unlisted (Router.exitAll held s)) := by
  induction h generalizing s closed with
  | nil => exact ⟨hs, fun hun => hun.resolve_left (fun hm => (nomatch hm))⟩
  | request _ ih =>
      obtain ⟨hs', hun⟩ := hs.delReqInfo
      exact ⟨(ih hs').1, fun _ => (ih hs').2 (.inr hun)⟩
  | client _ ih =>
      refine ⟨(ih hs).1, fun hun => (ih hs).2 (hun.imp_left fun hm => ?_)⟩
      exact (List.mem_cons.mp hm).resolve_left (fun he => (nomatch he))
  | @resource held outstanding records role x _ hrole hx ih =>
      obtain ⟨hs', hinfo, hdict⟩ := hs.released hrole hx
      rw [List.reverse_cons, List.append_assoc]
      refine ⟨(ih hs').1, fun hun => (ih hs').2 ?_⟩
      rcases hun with hm | hun
      · rcases List.mem_cons.mp hm with he | hm
        · cases he
        · exact .inl hm
      · refine .inr ?_
        unfold Unlisted RequestManager.getReqInfo at hun ⊢
        rw [hinfo, hdict]
        exact hun

end Router

end PyMotor
