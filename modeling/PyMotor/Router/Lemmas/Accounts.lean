import PyMotor.Request.Lemmas.Handler
import PyMotor.Router.Spec

/-!
# The accounts of a router

For each role a router holds at most one allocation. While the accounts are in order, the records of the
request are the accounts, and the changes sent to an endpoint sum to what is held there.
-/

namespace PyMotor.Router

open Lib Recompute RequestManager

variable {s : Router} {env : RouterEnv}

theorem balance_nonneg {es : List ((Int × Int) × Workload)} (h : ∀ e ∈ es, 0 ≤ e.2) (p : Int × Int) :
    0 ≤ balance es p :=
  balance_induction ⟨le_refl _, le_refl _⟩ (fun _ _ ha hb => ⟨add_nonneg ha.1 hb.1, add_nonneg ha.2 hb.2⟩) h p

/-- Amounts that are not negative are all zero when their balance is. -/
theorem eq_zero_of_balance {es : List ((Int × Int) × Workload)} (h : ∀ e ∈ es, 0 ≤ e.2) {p : Int × Int}
    (hp : balance es p = 0) : ∀ e ∈ es, e.1 = p → e.2 = 0 := by
  induction es with
  | nil => intro e he; cases he
  | cons x es ih =>
      have hrest : ∀ e ∈ es, 0 ≤ e.2 := fun e he => h e (List.mem_cons_of_mem _ he)
      have hx : 0 ≤ if x.1 = p then x.2 else 0 := by
        split
        · exact h x (List.mem_cons_self ..)
        · exact ⟨le_refl _, le_refl _⟩
      have hbal := balance_nonneg hrest p
      rw [balance_cons] at hp
      have hkv := (add_eq_zero_iff_of_nonneg hx.1 hbal.1).mp (congrArg Workload.activeKvCache hp)
      have htok := (add_eq_zero_iff_of_nonneg hx.2 hbal.2).mp (congrArg Workload.activeTokens hp)
      intro e he hep
      rcases List.mem_cons.mp he with rfl | he
      · rw [if_pos hep] at hkv htok
        exact Workload.ext hkv.1 htok.1
      · exact ih hrest (Workload.ext hkv.2 htok.2) e he hep

/-- An allocation that is not released: where it is and how much. -/
abbrev Account := Option ((Int × Int) × Workload)

def Account.on (a : Account) (p : Int × Int) : Workload :=
  match a with
  | some (q, w) => if q = p then w else 0
  | none => 0

def holding (a : PDRole → Account) (p : Int × Int) : Workload :=
  (a .roleP).on p + (a .roleD).on p + (a .roleU).on p

/-- The records of the request are the accounts, and so are the sums of the changes. -/
structure Accounts (s : Router) (a : PDRole → Account) : Prop where
  records : ∀ id, s.Owns id → ∀ role,
    s.requestManager.getReqWorkload (id, role) = if id = s.reqInfo.reqId then (a role).map Prod.snd else none
  balance : ∀ p, balance s.sent p = holding a p

variable {a : PDRole → Account}

theorem holding_update (a : PDRole → Account) (role : PDRole) (x : Account) (p : Int × Int) :
    holding (Function.update a role x) p = holding a p + (x.on p - (a role).on p) := by
  cases role <;> simp [holding, Function.update] <;> abel

theorem owns_self (s : Router) : s.Owns s.reqInfo.reqId := ⟨0, rfl⟩

theorem Accounts.record (h : Accounts s a) (role : PDRole) :
    s.requestManager.getReqWorkload (s.reqInfo.reqId, role) = (a role).map Prod.snd := by
  rw [h.records _ s.owns_self, if_pos rfl]

theorem Accounts.congr {s' : Router} (h : Accounts s a) (hid : s'.reqInfo.reqId = s.reqInfo.reqId)
    (hrm : s'.requestManager = s.requestManager) (hsent : s'.sent = s.sent) : Accounts s' a where
  records := by
    unfold Owns
    rw [hid, hrm]
    exact h.records
  balance := by
    rw [hsent]
    exact h.balance

theorem Accounts.change {s' : Router} {role : PDRole} {p : Int × Int} {x : Account} {change : Workload}
    (h : Accounts s a) (hid : s'.reqInfo.reqId = s.reqInfo.reqId)
    (hrm : ∀ key, s'.requestManager.getReqWorkload key =
      if key = (s.reqInfo.reqId, role) then x.map Prod.snd else s.requestManager.getReqWorkload key)
    (hsent : s'.sent = s.sent ++ [(p, change)]) (hx : ∀ q, x.on q - (a role).on q = if p = q then change else 0) :
    Accounts s' (Function.update a role x) where
  records := by
    unfold Owns
    rw [hid]
    intro id hown role'
    rw [hrm, h.records id hown]
    by_cases hi : id = s.reqInfo.reqId
    · subst hi
      by_cases hr : role' = role
      · subst hr; simp
      · simp [hr]
    · simp [hi]
  balance q := by
    rw [hsent, balance_append, balance_singleton, h.balance, holding_update, hx]

@[simp] theorem normalizeRole_scheduledResource (role : PDRole) (iid eid : Int) :
    normalizeRole (some (scheduledResource role iid eid)) = some role := by
  simp [normalizeRole, scheduledResource]

@[simp] theorem place_scheduledResource (role : PDRole) (iid eid : Int) :
    place (scheduledResource role iid eid) = (iid, eid) := rfl

def releasedAccount (action : WorkloadAction) (p : Int × Int) (w : Workload) : Account :=
  if nothingLeft action (releaseRest action w) then none else some (p, releaseRest action w)

theorem releasedAccount_on {action : WorkloadAction} (ha : action ≠ .allocation) {w : Workload} (hw : 0 ≤ w)
    (p q : Int × Int) :
    (releasedAccount action p w).on q - Account.on (some (p, w)) q = if p = q then releaseChange action w else 0 := by
  have hkv : (0 : ℚ) ≤ w.activeKvCache := hw.1
  have htok : (0 : ℚ) ≤ w.activeTokens := hw.2
  unfold releasedAccount
  cases action with
  | allocation => exact absurd rfl ha
  | releaseKv =>
      by_cases hz : w.activeTokens ≤ 0
      · by_cases hp : p = q <;> simp [nothingLeft, releaseRest, releaseChange, Account.on, hz, hp]
        ext <;> simp
        exact le_antisymm hz htok
      · by_cases hp : p = q <;> simp [nothingLeft, releaseRest, releaseChange, Account.on, hz, hp]
        ext <;> simp
  | releaseTokens =>
      by_cases hz : w.activeKvCache ≤ 0
      · by_cases hp : p = q <;> simp [nothingLeft, releaseRest, releaseChange, Account.on, hz, hp]
        ext <;> simp
        exact le_antisymm hz hkv
      · by_cases hp : p = q <;> simp [nothingLeft, releaseRest, releaseChange, Account.on, hz, hp]
        ext <;> simp

theorem updateWorkload_recorded (action : WorkloadAction) (hact : action ≠ .allocation) {role : PDRole} {w : Workload}
    (hw : s.requestManager.getReqWorkload (s.reqInfo.reqId, role) = some w) (iid eid : Int) :
    ∃ rm, (s.updateWorkload (scheduledResource role iid eid) action).2 =
        { s with requestManager := rm, sent := s.sent ++ [((iid, eid), releaseChange action w)] } ∧
      rm.reqInfoDict = s.requestManager.reqInfoDict ∧
      ∀ key, rm.getReqWorkload key =
        if key = (s.reqInfo.reqId, role) then
          (if nothingLeft action (releaseRest action w) then none else some (releaseRest action w))
        else s.requestManager.getReqWorkload key := by
  obtain ⟨hchange, hrm⟩ : (s.requestManager.release action (s.reqInfo.reqId, role)).1 = some (releaseChange action w, role) ∧ _ :=
    release_some hw
  have hcompute : s.requestManager.computeAndUpdate (some (scheduledResource role iid eid)) s.reqInfo.reqId action
      s.reqInfo.reqLen = s.requestManager.release action (s.reqInfo.reqId, role) := by
    cases action with
    | allocation => exact absurd rfl hact
    | releaseKv => simp only [computeAndUpdate, normalizeRole_scheduledResource]
    | releaseTokens => simp only [computeAndUpdate, normalizeRole_scheduledResource]
  refine ⟨(s.requestManager.release action (s.reqInfo.reqId, role)).2, ?_, reqInfoDict_release .., hrm⟩
  rcases he : s.requestManager.release action (s.reqInfo.reqId, role) with ⟨result, rm⟩
  rw [he] at hchange
  dsimp only at hchange
  subst hchange
  simp only [updateWorkload, hcompute, he, place_scheduledResource]

theorem updateWorkload_unrecorded {action : WorkloadAction} (hact : action ≠ .allocation) {role : PDRole}
    (hw : s.requestManager.getReqWorkload (s.reqInfo.reqId, role) = none) (iid eid : Int) :
    (s.updateWorkload (scheduledResource role iid eid) action).2 = s := by
  have hcompute : s.requestManager.computeAndUpdate (some (scheduledResource role iid eid)) s.reqInfo.reqId action
      s.reqInfo.reqLen = (none, s.requestManager) := by
    cases action with
    | allocation => exact absurd rfl hact
    | releaseKv => simp only [computeAndUpdate, normalizeRole_scheduledResource, RequestManager.release, hw]
    | releaseTokens => simp only [computeAndUpdate, normalizeRole_scheduledResource, RequestManager.release, hw]
  simp only [updateWorkload, hcompute]

theorem Accounts.release (h : Accounts s a) (action : WorkloadAction) (hact : action ≠ .allocation) {role : PDRole}
    {iid eid : Int} {w : Workload} (ha : a role = some ((iid, eid), w)) (hw : 0 ≤ w) :
    Accounts (s.updateWorkload (scheduledResource role iid eid) action).2
      (Function.update a role (releasedAccount action (iid, eid) w)) := by
  have hrec : s.requestManager.getReqWorkload (s.reqInfo.reqId, role) = some w := by rw [h.record, ha]; rfl
  obtain ⟨rm, hupd, -, hrm⟩ := updateWorkload_recorded action hact hrec iid eid
  rw [hupd]
  refine h.change rfl (fun key => ?_) rfl (fun q => ?_)
  · rw [hrm key]
    unfold releasedAccount
    by_cases hleft : nothingLeft action (releaseRest action w) = true <;> simp [hleft]
  · rw [ha]
    exact releasedAccount_on hact hw _ _

theorem Accounts.release_none (h : Accounts s a) {action : WorkloadAction} (hact : action ≠ .allocation)
    {role : PDRole} (ha : a role = none) (iid eid : Int) :
    Accounts (s.updateWorkload (scheduledResource role iid eid) action).2 a := by
  have hrec : s.requestManager.getReqWorkload (s.reqInfo.reqId, role) = none := by rw [h.record, ha]; rfl
  rw [updateWorkload_unrecorded hact hrec]
  exact h

/-! ## What the resource operations leave alone -/

/-- Only the state of the request, the records and the changes differ. -/
def Frame (s s' : Router) : Prop :=
  s' = { s with
    reqInfo := { s.reqInfo with state := s'.reqInfo.state }
    requestManager := s'.requestManager
    sent := s'.sent }

theorem Frame.refl (s : Router) : Frame s s := rfl

theorem Frame.trans {s₁ s₂ s₃ : Router} (h₁ : Frame s₁ s₂) (h₂ : Frame s₂ s₃) : Frame s₁ s₃ := by
  unfold Frame at *
  rw [h₁] at h₂
  exact h₂

theorem frame_updateWorkload (resource : ScheduledResource) (action : WorkloadAction) :
    Frame s (s.updateWorkload resource action).2 := by
  unfold updateWorkload
  split <;> rfl

theorem frame_releaseAll (resource : ScheduledResource) : Frame s (s.releaseAll resource) :=
  (frame_updateWorkload resource .releaseTokens).trans (frame_updateWorkload resource .releaseKv)

theorem state_updateWorkload (resource : ScheduledResource) (action : WorkloadAction) :
    (s.updateWorkload resource action).2.reqInfo.state = s.reqInfo.state := by
  unfold updateWorkload
  split <;> rfl

theorem frame_prepareAttempts (role : PDRole) (n : Nat) (outcomes : List SelectOutcome) (lastError : Option String) :
    Frame s (prepareAttempts env role n outcomes lastError s).2 := by
  induction n generalizing outcomes lastError s with
  | zero => rfl
  | succ n ih =>
      unfold Router.prepareAttempts
      cases outcomes.head?.getD .nothing with
      | nothing applied => exact ih _ _
      | cancelled applied => rfl
      | allocated iid eid =>
          dsimp only
          have hsent : Frame s { s with sent := s.sent ++ [((iid, eid), allocateWorkload env s role)] } := rfl
          split
          · exact hsent.trans (ih _ _)
          · rfl

theorem frame_prepareResource (env : RouterEnv) (s : Router) (role : PDRole) (outcomes : List SelectOutcome) :
    Frame s (prepareResource env role outcomes s).2 := by
  have hstate : Frame s (s.updateState (if role = .roleP then .pScheduling else .dScheduling)) := rfl
  exact hstate.trans (frame_prepareAttempts role _ _ _)

theorem state_prepareResource {role : PDRole} {outcomes : List SelectOutcome} {resource : ScheduledResource}
    (h : (prepareResource env role outcomes s).1 = .ok resource) :
    (prepareResource env role outcomes s).2.reqInfo.state = if role = .roleP then .pAllocated else .dAllocated := by
  have key : ∀ (n : Nat) (outcomes : List SelectOutcome) (lastError : Option String) (s : Router),
      (prepareAttempts env role n outcomes lastError s).1 = .ok resource →
        (prepareAttempts env role n outcomes lastError s).2.reqInfo.state =
          if role = .roleP then .pAllocated else .dAllocated := by
    intro n
    induction n with
    | zero => intro _ _ _ h; cases h
    | succ n ih =>
        intro outcomes lastError s h
        unfold Router.prepareAttempts at h ⊢
        cases houtcome : outcomes.head?.getD .nothing with
        | nothing applied => rw [houtcome] at h; exact ih _ _ _ h
        | cancelled applied => rw [houtcome] at h; cases h
        | allocated iid eid =>
            rw [houtcome] at h
            dsimp only at h ⊢
            split at h
            · exact ih _ _ _ h
            · rfl
  exact key _ _ _ _ h

/-! ## Allocation -/

theorem allocateWorkload_nonneg (env : RouterEnv) (s : Router) (role : PDRole) : 0 ≤ allocateWorkload env s role := by
  unfold allocateWorkload
  split
  · exact ⟨le_refl _, le_refl _⟩
  · exact calculateDemandWorkload_nonneg role _

theorem Accounts.allocated (h : Accounts s a) {role : PDRole} (ha : a role = none) (p : Int × Int) (w : Workload) :
    ∃ rm, s.requestManager.addReqWorkload (s.reqInfo.reqId, role) w = (true, rm) ∧
      Accounts { s with sent := s.sent ++ [(p, w)], requestManager := rm } (Function.update a role (some (p, w))) := by
  have hrec : s.requestManager.getReqWorkload (s.reqInfo.reqId, role) = none := by rw [h.record, ha]; rfl
  have hadd := getReqWorkload_addReqWorkload s.requestManager (s.reqInfo.reqId, role)
  have hfst := s.requestManager.addReqWorkload_fst (s.reqInfo.reqId, role) w
  rw [hrec] at hfst
  rcases he : s.requestManager.addReqWorkload (s.reqInfo.reqId, role) w with ⟨b, rm⟩
  rw [he] at hfst
  cases hfst
  refine ⟨rm, rfl, h.change rfl (fun key => ?_) rfl fun q => ?_⟩
  · have hkey := hadd key w
    rw [he, hrec] at hkey
    exact hkey
  · rw [ha]
    simp [Account.on]

theorem prepareAttempts_cases {role : PDRole}
    (hrec : s.requestManager.getReqWorkload (s.reqInfo.reqId, role) = none) (n : Nat)
    (outcomes : List SelectOutcome) (lastError : Option String) :
    (∃ e, (prepareAttempts env role n outcomes lastError s).1 = .error e ∧
      (selected n outcomes = .nothing ∧ e ≠ .cancelled ∨
        (∃ applied, selected n outcomes = .cancelled applied) ∧ e = .cancelled) ∧
      (prepareAttempts env role n outcomes lastError s).2.requestManager = s.requestManager ∧
      (prepareAttempts env role n outcomes lastError s).2.sent = s.sent) ∨
    ∃ iid eid, (prepareAttempts env role n outcomes lastError s).1 =
        .ok (scheduledResource (env.answeredRole s.sent.length role) iid eid) ∧
      selected n outcomes = .allocated iid eid ∧
      (prepareAttempts env role n outcomes lastError s).2.requestManager =
        (s.requestManager.addReqWorkload (s.reqInfo.reqId, role) (allocateWorkload env s role)).2 ∧
      (prepareAttempts env role n outcomes lastError s).2.sent =
        s.sent ++ [((iid, eid), allocateWorkload env s role)] := by
  induction n generalizing outcomes lastError with
  | zero => exact .inl ⟨_, rfl, .inl ⟨rfl, fun he => (nomatch he)⟩, rfl, rfl⟩
  | succ n ih =>
      unfold Router.prepareAttempts selected
      cases houtcome : outcomes.head?.getD .nothing with
      | nothing applied => exact ih _ _
      | cancelled applied => exact .inl ⟨_, rfl, .inr ⟨⟨_, rfl⟩, rfl⟩, rfl, rfl⟩
      | allocated iid eid =>
          have hadd := s.requestManager.addReqWorkload_fst (s.reqInfo.reqId, role) (allocateWorkload env s role)
          rw [hrec] at hadd
          rcases he : s.requestManager.addReqWorkload (s.reqInfo.reqId, role) (allocateWorkload env s role) with ⟨b, rm⟩
          rw [he] at hadd
          cases hadd
          dsimp only
          rw [he]
          exact .inr ⟨iid, eid, rfl, rfl, rfl, rfl⟩

theorem prepareResource_cases (env : RouterEnv) {role : PDRole}
    (hrec : s.requestManager.getReqWorkload (s.reqInfo.reqId, role) = none) (outcomes : List SelectOutcome) :
    (∃ e, (prepareResource env role outcomes s).1 = .error e ∧
      (selected env.maxRetry outcomes = .nothing ∧ e ≠ .cancelled ∨
        (∃ applied, selected env.maxRetry outcomes = .cancelled applied) ∧ e = .cancelled) ∧
      (prepareResource env role outcomes s).2.requestManager = s.requestManager ∧
      (prepareResource env role outcomes s).2.sent = s.sent) ∨
    ∃ iid eid, (prepareResource env role outcomes s).1 =
        .ok (scheduledResource (env.answeredRole s.sent.length role) iid eid) ∧
      selected env.maxRetry outcomes = .allocated iid eid ∧
      (prepareResource env role outcomes s).2.requestManager =
        (s.requestManager.addReqWorkload (s.reqInfo.reqId, role) (allocateWorkload env s role)).2 ∧
      (prepareResource env role outcomes s).2.sent = s.sent ++ [((iid, eid), allocateWorkload env s role)] :=
  prepareAttempts_cases (s := s.updateState (if role = .roleP then .pScheduling else .dScheduling)) hrec _ _ _

theorem reqId_prepareResource (env : RouterEnv) (s : Router) (role : PDRole) (outcomes : List SelectOutcome) :
    (prepareResource env role outcomes s).2.reqInfo.reqId = s.reqInfo.reqId := by
  have hframe := frame_prepareResource env s role outcomes
  rw [hframe]

theorem Accounts.prepareResource (hroles : env.AnswersAsRequested) (h : Accounts s a) {role : PDRole} (ha : a role = none)
    (outcomes : List SelectOutcome) :
    (∃ e, (prepareResource env role outcomes s).1 = .error e ∧
      (selected env.maxRetry outcomes = .nothing ∧ e ≠ .cancelled ∨
        (∃ applied, selected env.maxRetry outcomes = .cancelled applied) ∧ e = .cancelled) ∧
      Accounts (prepareResource env role outcomes s).2 a) ∨
    ∃ iid eid, (prepareResource env role outcomes s).1 = .ok (scheduledResource role iid eid) ∧
      selected env.maxRetry outcomes = .allocated iid eid ∧
      Accounts (prepareResource env role outcomes s).2
        (Function.update a role (some ((iid, eid), allocateWorkload env s role))) := by
  have hrec : s.requestManager.getReqWorkload (s.reqInfo.reqId, role) = none := by rw [h.record, ha]; rfl
  have hid := reqId_prepareResource env s role outcomes
  rcases prepareResource_cases env hrec outcomes with ⟨e, he, hsel, hrm, hsent⟩ | ⟨iid, eid, he, hsel, hrm, hsent⟩
  · exact .inl ⟨e, he, hsel, h.congr hid hrm hsent⟩
  · obtain ⟨rm, hadd, hs⟩ := h.allocated ha (iid, eid) (allocateWorkload env s role)
    rw [hadd] at hrm
    rw [hroles] at he
    exact .inr ⟨iid, eid, he, hsel, hs.congr hid hrm hsent⟩

/-! ## The request context -/

theorem Accounts.addReqInfo (h : Accounts s a) (id : String) (info : Nat) :
    Accounts { s with requestManager := (s.requestManager.addReqInfo id info).2 } a := by
  have hrm : ∀ key, (s.requestManager.addReqInfo id info).2.getReqWorkload key = s.requestManager.getReqWorkload key := by
    intro key
    unfold RequestManager.addReqInfo
    split <;> rfl
  refine ⟨fun id hown role => ?_, h.balance⟩
  rw [hrm]
  exact h.records id hown role

theorem Accounts.delReqInfo (h : Accounts s a) (ha : ∀ role, a role = none) (id : String) :
    Accounts { s with requestManager := (s.requestManager.delReqInfo id).2 } a := by
  refine ⟨fun id hown role => ?_, h.balance⟩
  have hnone := h.records id hown role
  rw [ha, Option.map_none, ite_self] at hnone ⊢
  unfold RequestManager.delReqInfo
  dsimp only
  split
  · show (Dict.filterKeys _ _).get? _ = none
    rw [Dict.get?_filterKeys]
    split
    · exact hnone
    · rfl
  · exact hnone

end PyMotor.Router
