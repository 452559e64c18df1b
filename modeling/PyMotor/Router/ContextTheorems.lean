import PyMotor.Lib.Run
import PyMotor.Router.Lemmas.Contexts
import PyMotor.Router.Theorems

/-!
# Handlers with context managers release what they allocate
-/

namespace PyMotor.ContextHandler

open Lib Recompute Router

variable {env : RouterEnv} {kind : ContextRouter} {h : ContextHandler} {records : PDRole → Option Workload}
  {outstanding closed : List AllocatedWorkload}

def hasEnded (h : ContextHandler) : Bool :=
  match h.phase with
  | .ended _ => true
  | _ => false

/-- The scheduler allocates in a `prepare_resource` that does not learn of it. -/
def abandons (env : RouterEnv) (h : ContextHandler) (e : AwaitEnd) : Bool :=
  match h.phase, e with
  | .entering (.resource role _ :: _), .selects outcomes =>
    (abandonedAttempts env role h.router env.maxRetry outcomes).any fun x => x.2 ≠ 0
  | _, _ => false

/-- Each allocated workload was released once and completely, nothing is left of it with the scheduler, and the
request manager holds neither a workload of the request nor, where the router enters it there, the request. -/
structure Released (kind : ContextRouter) (h : ContextHandler) : Prop where
  once : h.router.sent.Perm (h.allocated.flatMap AllocatedWorkload.entries)
  completely : ∀ x ∈ h.allocated, x.Settles
  balance : ∀ p, balance h.router.sent p + Lib.balance h.abandoned p = 0
  unrecorded : ∀ role, h.router.requestManager.getReqWorkload (h.router.reqInfo.reqId, role) = none
  unlisted : .request ∈ kind.contexts → h.router.Unlisted

/-! ## The invariant -/

/-- The stack and the books agree, and the closed allocations are settled. -/
structure Tracks (kind : ContextRouter) (h : ContextHandler) (records : PDRole → Option Workload)
    (outstanding closed : List AllocatedWorkload) : Prop where
  holds : Holds h.held outstanding records
  books : Books h.router records outstanding closed
  allocated : h.allocated.Perm (outstanding ++ closed)
  settled : ∀ x ∈ closed, x.Settles
  unlisted : .request ∉ h.held → .request ∈ kind.contexts → h.router.Unlisted
  abandoned : ∀ x ∈ h.abandoned, x.2 = 0

/-- The context managers that are left can be entered: each role once, and the request context on an empty
stack. -/
def Enterable : List ContextManager → (PDRole → Option Workload) → Prop
  | [], _ => True
  | .request :: todo, records => (records = fun _ => none) ∧ Enterable todo records
  | .client :: todo, records => Enterable todo records
  | .resource role release :: todo, records =>
    records role = none ∧ (release = .releaseTokens → role = .roleD) ∧
      ∀ w, Enterable todo (Function.update records role (some w))

theorem enterable_contexts (kind : ContextRouter) : Enterable kind.contexts fun _ => none := by
  cases kind <;> simp [ContextRouter.contexts, ContextRouter.dualEnvContext, Enterable]

/-- What the phase says of the stack: it is being built, it is whole, or it is empty. -/
def PhaseHolds (h : ContextHandler) (records : PDRole → Option Workload) : Prop :=
  match h.phase with
  | .entering todo => Enterable todo records
  | .forwarding _ => True
  | .yielding _ _ _ => True
  | _ => h.held = []

def Sound (kind : ContextRouter) (h : ContextHandler) : Prop :=
  ∃ records outstanding closed, Tracks kind h records outstanding closed ∧ PhaseHolds h records

theorem Tracks.congr {h' : ContextHandler} (ht : Tracks kind h records outstanding closed) (hheld : h'.held = h.held)
    (hid : h'.router.reqInfo.reqId = h.router.reqInfo.reqId)
    (hrm : h'.router.requestManager = h.router.requestManager) (hsent : h'.router.sent = h.router.sent)
    (hallocated : h'.allocated = h.allocated) (habandoned : h'.abandoned = h.abandoned) :
    Tracks kind h' records outstanding closed where
  holds := by rw [hheld]; exact ht.holds
  books := ht.books.congr hid hrm hsent
  allocated := by rw [hallocated]; exact ht.allocated
  settled := ht.settled
  unlisted := by
    rw [hheld]
    unfold Unlisted
    rw [hid, hrm]
    exact ht.unlisted
  abandoned := by rw [habandoned]; exact ht.abandoned

theorem Tracks.released (ht : Tracks kind h records outstanding closed) (hheld : h.held = []) : Released kind h := by
  obtain ⟨holds, books, allocated, settled, unlisted, abandoned⟩ := ht
  rw [hheld] at holds unlisted
  cases holds
  have hsent : h.router.sent.Perm (h.allocated.flatMap AllocatedWorkload.entries) :=
    books.sent.trans (allocated.flatMap_right _).symm
  have hsettled : ∀ x ∈ h.allocated, x.Settles := fun x hx => settled x (allocated.mem_iff.mp hx)
  refine ⟨hsent, hsettled, fun p => ?_, books.records, unlisted (fun hm => (nomatch hm))⟩
  have hzero : ∀ xs : List AllocatedWorkload, (∀ x ∈ xs, x.Settles) →
      balance (xs.flatMap AllocatedWorkload.entries) p = 0 := by
    intro xs hxs
    induction xs with
    | nil => rfl
    | cons x xs ih =>
        rw [List.flatMap_cons, balance_append, x.balance_entries (hxs x (List.mem_cons_self ..)), zero_add]
        exact ih fun y hy => hxs y (List.mem_cons_of_mem _ hy)
  have hperm : balance h.router.sent p = balance (h.allocated.flatMap AllocatedWorkload.entries) p :=
    (hsent.map _).sum_eq
  rw [hperm, hzero _ hsettled, balance_of_zero abandoned, add_zero]

/-! ## Leaving an attempt -/

theorem Tracks.unwind (ht : Tracks kind h records outstanding closed) :
    Tracks kind h.unwind (fun _ => none) [] (outstanding.reverse ++ closed) := by
  obtain ⟨hbooks, hunlisted⟩ := ht.holds.exitAll ht.books
  refine ⟨.nil, hbooks, ?_, fun x hx => ?_, fun _ hmem => ?_, ht.abandoned⟩
  · exact ht.allocated.trans (List.Perm.append_right _ (List.reverse_perm _).symm)
  · rcases List.mem_append.mp hx with hx | hx
    · exact (ht.holds.releasable x (List.mem_reverse.mp hx)).settles
    · exact ht.settled x hx
  · by_cases hheld : .request ∈ h.held
    · exact hunlisted (.inl hheld)
    · exact hunlisted (.inr (ht.unlisted hheld hmem))

theorem Tracks.rests {h' : ContextHandler} (ht : Tracks kind h records outstanding closed) (hempty : h.held = [])
    (hheld : h'.held = h.held) (hid : h'.router.reqInfo.reqId = h.router.reqInfo.reqId)
    (hrm : h'.router.requestManager = h.router.requestManager) (hsent : h'.router.sent = h.router.sent)
    (hallocated : h'.allocated = h.allocated) (habandoned : h'.abandoned = h.abandoned)
    (hphase : ∀ todo, h'.phase ≠ .entering todo) : Sound kind h' := by
  refine ⟨_, _, _, ht.congr hheld hid hrm hsent hallocated habandoned, ?_⟩
  unfold PhaseHolds
  cases hp : h'.phase with
  | entering todo => exact absurd hp (hphase todo)
  | forwarding pending => trivial
  | yielding frames pending last => trivial
  | sleeping => exact hheld.trans hempty
  | reporting => exact hheld.trans hempty
  | ended how => exact hheld.trans hempty

theorem Tracks.cancelScopes (ht : Tracks kind h records outstanding closed) :
    Tracks kind (if kind.dual then h.cancelScope else h) records outstanding closed := by
  split
  · exact ht.congr rfl rfl rfl rfl rfl rfl
  · exact ht

theorem Tracks.attemptFailed (ht : Tracks kind h records outstanding closed) (hheld : h.held = []) (e : Raised) :
    Sound kind (attemptFailed env kind e h) := by
  have hcancel := ht.cancelScopes
  have hempty : (if kind.dual then h.cancelScope else h).held = [] := by split <;> exact hheld
  unfold ContextHandler.attemptFailed
  generalize (if kind.dual then h.cancelScope else h) = h' at hcancel hempty ⊢
  cases e with
  | cancelled => exact hcancel.rests hempty rfl rfl rfl rfl rfl rfl (fun _ hp => by cases hp)
  | exception e =>
      dsimp only
      split
      · split <;> exact hcancel.rests hempty rfl rfl rfl rfl rfl rfl (fun _ hp => by cases hp)
      · split <;> exact hcancel.rests hempty rfl rfl rfl rfl rfl rfl (fun _ hp => by cases hp)

theorem Tracks.endBody (ht : Tracks kind h records outstanding closed) (r : BodyEnd) : Sound kind (endBody env kind r h) := by
  have hfinally : Tracks kind (h.finallyBlock kind r).2 records outstanding closed := by
    unfold finallyBlock
    split
    · exact ht.congr rfl rfl rfl rfl rfl rfl
    · exact ht
  unfold ContextHandler.endBody
  generalize h.finallyBlock kind r = result at hfinally ⊢
  obtain ⟨r, h'⟩ := result
  have hunwound := hfinally.unwind
  cases r with
  | returned how => exact hunwound.rests rfl rfl rfl rfl rfl rfl rfl (fun _ hp => by cases hp)
  | raised e => exact hunwound.attemptFailed rfl e
  | closed => exact hunwound.rests rfl rfl rfl rfl rfl rfl rfl (fun _ hp => by cases hp)

/-! ## The body of an attempt -/

theorem Tracks.updateState (ht : Tracks kind h records outstanding closed) (state : ReqState) :
    Tracks kind { h with router := h.router.updateState state } records outstanding closed :=
  ht.congr rfl rfl rfl rfl rfl rfl

theorem Tracks.yieldFrames (ht : Tracks kind h records outstanding closed) (frames : List Bytes) (pending : Bytes)
    (last : Bool) : Sound kind (yieldFrames env kind frames pending last h) := by
  unfold ContextHandler.yieldFrames
  cases frames with
  | nil =>
      dsimp only
      split
      · exact (ht.updateState .decodeEnd).endBody _
      · exact ⟨_, _, _, ht.congr rfl rfl rfl rfl rfl rfl, trivial⟩
  | cons frame frames =>
      dsimp only
      split
      · exact ht.endBody _
      · exact ⟨_, _, _, ht.congr rfl rfl rfl rfl rfl rfl, trivial⟩

theorem Tracks.answered (ht : Tracks kind h records outstanding closed) (body : Except PyException Json) :
    Sound kind (answered env kind body h) := by
  have hend := ht.updateState .decodeEnd
  unfold ContextHandler.answered
  cases body with
  | error e => exact hend.endBody _
  | ok body =>
      dsimp only
      split
      · exact hend.endBody _
      · exact hend.endBody _

theorem Tracks.noteChunk (ht : Tracks kind h records outstanding closed) (bytes : Bytes) :
    Tracks kind { h with router := h.router.noteChunk bytes } records outstanding closed := by
  unfold Router.noteChunk
  split <;> exact ht.congr rfl rfl rfl rfl rfl rfl

theorem Tracks.stepForwarding (ht : Tracks kind h records outstanding closed) {pending : Bytes}
    (hphase : h.phase = .forwarding pending) (e : AwaitEnd) : Sound kind (stepForwarding env kind pending h e) := by
  have hstay : Sound kind h := by
    refine ⟨_, _, _, ht, ?_⟩
    unfold PhaseHolds
    rw [hphase]
    trivial
  unfold ContextHandler.stepForwarding
  cases e with
  | chunk bytes =>
      dsimp only
      split
      · exact (ht.noteChunk bytes).yieldFrames _ _ _
      · exact hstay
  | streamEnds =>
      dsimp only
      split
      · exact ht.yieldFrames _ _ _
      · exact hstay
  | answers body =>
      dsimp only
      split
      · exact hstay
      · exact ht.answered body
  | raises e => exact ht.endBody _
  | scopeCancels =>
      dsimp only
      split
      · exact (ht.updateState .decodeEnd).endBody _
      · exact hstay
  | _ => exact hstay

/-! ## Entering the context managers -/

theorem Tracks.startBody (ht : Tracks kind h records outstanding closed) :
    Tracks kind (startBody kind h) records outstanding closed := by
  unfold ContextHandler.startBody
  dsimp only
  split <;> split <;> exact ht.congr rfl rfl rfl rfl rfl rfl

theorem Tracks.proceed {todo : List ContextManager} (ht : Tracks kind h records outstanding closed)
    (htodo : Enterable todo records) : Sound kind (proceed kind todo h) := by
  unfold ContextHandler.proceed
  cases todo with
  | nil => exact ⟨_, _, _, ht.startBody, trivial⟩
  | cons context todo => exact ⟨_, _, _, ht.congr rfl rfl rfl rfl rfl rfl, htodo⟩

theorem Tracks.enterResource (hroles : env.AnswersAsRequested) {role : PDRole} {release : ReleaseFunc} {todo : List ContextManager}
    {outcomes : List SelectOutcome} (ht : Tracks kind h records outstanding closed) (hrole : records role = none)
    (htokens : release = .releaseTokens → role = .roleD)
    (htodo : ∀ w, Enterable todo (Function.update records role (some w)))
    (habandoned : ∀ x ∈ abandonedAttempts env role h.router env.maxRetry outcomes, x.2 = 0) :
    Sound kind (enterResource env kind role release todo outcomes h) := by
  have hid := reqId_prepareResource env h.router role outcomes
  have hboth : ∀ x ∈ h.abandoned ++ abandonedAttempts env role h.router env.maxRetry outcomes, x.2 = 0 := by
    intro x hx
    rcases List.mem_append.mp hx with hx | hx
    · exact ht.abandoned x hx
    · exact habandoned x hx
  unfold ContextHandler.enterResource
  rcases prepareResource_cases env (by rw [ht.books.records, hrole]) outcomes with
    ⟨e, he, -, hrm, hsent⟩ | ⟨iid, eid, he, -, hrm, hsent⟩
  · rcases hp : prepareResource env role outcomes h.router with ⟨result, s⟩
    rw [hp] at he hid hrm hsent
    dsimp only at he
    subst he
    have hraised : Tracks kind { h with router := s } records outstanding closed :=
      ht.congr rfl hid hrm hsent rfl rfl
    have htracks : Tracks kind { h with
        router := s
        abandoned := h.abandoned ++ abandonedAttempts env role h.router env.maxRetry outcomes }
        records outstanding closed :=
      { hraised with abandoned := hboth }
    exact htracks.unwind.attemptFailed rfl e
  · rcases hp : prepareResource env role outcomes h.router with ⟨result, s⟩
    rw [hp] at he hid hrm hsent
    dsimp only at he
    rw [hroles] at he
    subst he
    have hreleasable : AllocatedWorkload.Releasable ⟨release, (iid, eid), allocateWorkload env h.router role⟩ := by
      refine ⟨allocateWorkload_nonneg env h.router role, fun hrelease => ?_⟩
      obtain rfl := htokens hrelease
      exact allocateWorkload_decode_kv env h.router
    have hbooks := ht.books.allocated (x := ⟨release, (iid, eid), allocateWorkload env h.router role⟩) hrole hid hrm hsent
    refine Tracks.proceed ⟨.resource ht.holds hrole hreleasable, hbooks, ?_, ht.settled, ?_, hboth⟩ (htodo _)
    · exact (ht.allocated.append_right _).trans (List.perm_append_singleton _ _)
    · intro hheld hmem
      have hunlisted := ht.unlisted (fun hm => hheld (List.mem_cons_of_mem _ hm)) hmem
      unfold Unlisted RequestManager.getReqInfo at hunlisted ⊢
      dsimp only
      rw [hid, hrm, RequestManager.reqInfoDict_addReqWorkload]
      exact hunlisted

theorem Tracks.stepEntering (hroles : env.AnswersAsRequested) {todo : List ContextManager} (ht : Tracks kind h records outstanding closed)
    (hphase : h.phase = .entering todo) (htodo : Enterable todo records) {e : AwaitEnd}
    (he : h.abandons env e = false) : Sound kind (stepEntering env kind todo h e) := by
  have hstay : Sound kind h := by
    refine ⟨_, _, _, ht, ?_⟩
    unfold PhaseHolds
    rw [hphase]
    exact htodo
  unfold ContextHandler.stepEntering
  cases e with
  | entered =>
      cases todo with
      | nil => exact hstay
      | cons context todo =>
          cases context with
          | request =>
              obtain ⟨rfl, htodo⟩ := htodo
              have hnil := ht.holds.outstanding_nil rfl
              subst hnil
              have hrm : ∀ key, (h.router.requestManager.addReqInfo h.router.reqInfo.reqId h.info).2.getReqWorkload key =
                  h.router.requestManager.getReqWorkload key := by
                intro key
                unfold RequestManager.addReqInfo
                split <;> rfl
              refine Tracks.proceed ⟨.request ht.holds, ⟨fun role => ?_, ht.books.sent⟩, ht.allocated, ht.settled,
                fun hheld => absurd (List.mem_cons_self ..) hheld, ht.abandoned⟩ htodo
              rw [hrm]
              exact ht.books.records role
          | client =>
              refine Tracks.proceed ⟨.client ht.holds, ht.books, ht.allocated, ht.settled, fun hheld => ?_,
                ht.abandoned⟩ htodo
              exact ht.unlisted fun hm => hheld (List.mem_cons_of_mem _ hm)
          | resource role release => exact hstay
  | selects outcomes =>
      cases todo with
      | nil => exact hstay
      | cons context todo =>
          cases context with
          | request => exact hstay
          | client => exact hstay
          | resource role release =>
              obtain ⟨hrole, htokens, htodo⟩ := htodo
              refine ht.enterResource hroles hrole htokens htodo fun x hx => ?_
              unfold abandons at he
              rw [hphase] at he
              simpa using List.any_eq_false.mp he x hx
  | raises e =>
      cases todo with
      | nil => exact hstay
      | cons context todo =>
          cases context with
          | request => exact ht.unwind.attemptFailed rfl e
          | client => exact ht.unwind.attemptFailed rfl e
          | resource role release => exact hstay
  | _ => exact hstay

/-! ## Steps and runs -/

theorem Tracks.nextAttempt (ht : Tracks kind h records outstanding closed) (hheld : h.held = []) :
    Sound kind (nextAttempt env kind h) := by
  have hrecords : records = fun _ => none := by
    have holds := ht.holds
    rw [hheld] at holds
    cases holds
    rfl
  subst hrecords
  have hnext : Tracks kind { h with attempt := h.attempt + 1 } (fun _ => none) outstanding closed :=
    ht.congr rfl rfl rfl rfl rfl rfl
  unfold ContextHandler.nextAttempt
  dsimp only
  split
  · exact hnext.proceed (enterable_contexts kind)
  · exact ht.rests hheld rfl rfl rfl rfl rfl rfl (fun _ hp => by cases hp)

theorem Sound.stepPhase (hroles : env.AnswersAsRequested) (hs : Sound kind h) {e : AwaitEnd} (he : h.abandons env e = false) :
    Sound kind (stepPhase env kind h e) := by
  obtain ⟨records, outstanding, closed, ht, hphase⟩ := hs
  have hstay : Sound kind h := ⟨_, _, _, ht, hphase⟩
  unfold ContextHandler.stepPhase
  unfold PhaseHolds at hphase
  cases hp : h.phase with
  | entering todo =>
      rw [hp] at hphase
      exact ht.stepEntering hroles hp hphase he
  | forwarding pending => exact ht.stepForwarding hp e
  | yielding frames pending last =>
      cases e with
      | resumes => exact ht.yieldFrames _ _ _
      | closes foreign => exact ht.endBody _
      | _ => exact hstay
  | sleeping =>
      rw [hp] at hphase
      cases e with
      | wakes => exact ht.nextAttempt hphase
      | raises e => exact ht.rests hphase rfl rfl rfl rfl rfl rfl (fun _ hp => by cases hp)
      | _ => exact hstay
  | reporting =>
      rw [hp] at hphase
      cases e with
      | resumes => exact ht.rests hphase rfl rfl rfl rfl rfl rfl (fun _ hp => by cases hp)
      | closes foreign => exact ht.rests hphase rfl rfl rfl rfl rfl rfl (fun _ hp => by cases hp)
      | _ => exact hstay
  | ended how => exact hstay

theorem Sound.prefillEnds (hs : Sound kind h) (i : Nat) (result : Except Raised Unit) :
    Sound kind (h.prefillEnds i result) := by
  obtain ⟨records, outstanding, closed, ht, hphase⟩ := hs
  refine ⟨records, outstanding, closed, ?_⟩
  unfold ContextHandler.prefillEnds
  dsimp only
  split <;> exact ⟨ht.congr rfl rfl rfl rfl rfl rfl, hphase⟩

theorem Sound.step (hroles : env.AnswersAsRequested) (hs : Sound kind h) {e : AwaitEnd} (he : h.abandons env e = false) :
    Sound kind (step env kind h e) := by
  cases e with
  | prefillEnds i result => exact hs.prefillEnds i result
  | _ => exact hs.stepPhase hroles he

theorem sound_start (env : RouterEnv) (kind : ContextRouter) (info : RequestInfo) (rm : RequestManager) (named : Nat)
    (stream : Bool) (hrecords : ∀ role, rm.getReqWorkload (info.reqId, role) = none)
    (hunlisted : .request ∈ kind.contexts → rm.getReqInfo info.reqId = none) :
    Sound kind (start env kind { reqInfo := info, requestManager := rm } named stream) := by
  have ht : Tracks kind
      { router := { reqInfo := info, requestManager := rm }, info := named, stream := stream, phase := .ended .returned }
      (fun _ => none) [] [] :=
    ⟨.nil, ⟨hrecords, .nil⟩, .nil, fun x hx => (nomatch hx), fun _ => hunlisted, fun x hx => (nomatch hx)⟩
  unfold start
  dsimp only
  split
  · exact ht.proceed (enterable_contexts kind)
  · exact ht.rests rfl rfl rfl rfl rfl rfl rfl (fun _ hp => by cases hp)

/-- For every request of the hybrid and of the dual dispatch router, with and without streaming, and however its
awaits end: once the handler has ended, each workload that it allocated has been released once and completely. -/
theorem released_when_ended (env : RouterEnv) (hroles : env.AnswersAsRequested) (kind : ContextRouter)
    (info : RequestInfo) (rm : RequestManager) (named : Nat) (stream : Bool) (hrecords : ∀ role, rm.getReqWorkload (info.reqId, role) = none)
    (hunlisted : .request ∈ kind.contexts → rm.getReqInfo info.reqId = none) (ends : List AwaitEnd)
    (hprepare : Along (step env kind) (fun h e => h.abandons env e = false)
      (start env kind { reqInfo := info, requestManager := rm } named stream) ends)
    (hended : (run (step env kind) (start env kind { reqInfo := info, requestManager := rm } named stream) ends).hasEnded
      = true) :
    Released kind (run (step env kind) (start env kind { reqInfo := info, requestManager := rm } named stream) ends) := by
  have hsound := run_invariant (I := Sound kind) (fun h e hs he => hs.step hroles he)
    (sound_start env kind info rm named stream hrecords hunlisted) hprepare
  obtain ⟨records, outstanding, closed, ht, hphase⟩ := hsound
  refine ht.released ?_
  unfold PhaseHolds at hphase
  unfold hasEnded at hended
  split at hended
  · rename_i how hp
    rw [hp] at hphase
    exact hphase
  · cases hended

/-- The prefill of the first attempt fails, which cancels the decode; the second attempt is answered before its
prefill ends. -/
def retriedDual : List AwaitEnd :=
  [.entered, .selects [.allocated 1 10], .selects [.allocated 2 20], .entered, .entered,
    .prefillEnds 0 (.error (.exception (.builtin "ConnectError"))), .scopeCancels, .wakes,
    .entered, .selects [.nothing, .allocated 1 11], .selects [.allocated 2 21], .entered, .entered,
    .answers (.ok (.obj [])), .prefillEnds 1 (.error .cancelled)]

theorem released_retriedDual :
    Released .separatePdDualDispatchRouter
      (run (step { codec := PdHandler.emptyCodec } .separatePdDualDispatchRouter)
        (start { codec := PdHandler.emptyCodec } .separatePdDualDispatchRouter
          { reqInfo := PdHandler.oneRequest, requestManager := {} } 0 false) retriedDual) :=
  released_when_ended { codec := PdHandler.emptyCodec } (fun _ _ => rfl) .separatePdDualDispatchRouter PdHandler.oneRequest {} 0 false
    (fun _ => rfl) (fun _ => rfl) retriedDual (by decide +kernel) (by decide +kernel)

end PyMotor.ContextHandler
