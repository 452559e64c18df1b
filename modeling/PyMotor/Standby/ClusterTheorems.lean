import PyMotor.Standby.Lemmas.Cluster

/-!
# One master for each lock
-/

namespace PyMotor

open Lib

namespace StandbyCluster

variable {P : Type} [DecidableEq P] {c : StandbyCluster P} {p q : P} {l : Int}

/-! ## Safety -/

theorem consistent_after (store : Dict String String) {configs : P → StandbyPod}
    (hslash : ∀ p, EtcdClient.startsWith (configs p).manager.masterLockKey "/" = true) (es : List (StandbyEvent P)) :
    (after store configs es).Consistent :=
  run_invariant' (fun _ e h => h.step e) (consistent_start store hslash) es

/-- Of the pods that have a lock in common, at most one is master with a lease that lives: in every order of the requests,
of their applications and answers, with requests that get lost or are applied late, leases that expire at any time, and
pods that crash and start again. -/
theorem one_live_master (store : Dict String String) {configs : P → StandbyPod}
    (hslash : ∀ p, EtcdClient.startsWith (configs p).manager.masterLockKey "/" = true) (es : List (StandbyEvent P)) (p q : P) :
    let c := after store configs es
    (c.pods p).lockKey = (c.pods q).lockKey → c.LiveMaster p → c.LiveMaster q → p = q := by
  have h := consistent_after store hslash es
  rintro c hkey ⟨-, l, hl, hlive⟩ ⟨-, l', hl', hlive'⟩
  have hp := h.held p l hl hlive
  have hq := h.held q l' hl' hlive'
  rw [StandbyPod.txnKey, hkey] at hp
  obtain rfl : l = l' := Option.some.inj (hp.symm.trans hq)
  exact h.unique p q l (.inl hl) (.inl hl')

def lockedPod (masterLockKey : String) : StandbyPod where
  manager := StandbyManager.start ⟨"ns", "job"⟩ masterLockKey 3

def twoControllers (_ : Bool) : StandbyPod := lockedPod "/controller/master_lock"

def answeredAtOnce (p : P) : List (StandbyEvent P) := [.send p, .serve p, .receive p]

def acquired : List (StandbyEvent Bool) := .begin false :: answeredAtOnce false ++ answeredAtOnce false

def takenOver : List (StandbyEvent Bool) :=
  acquired ++ [.send false, .crash false, .expire 1, .begin true] ++ answeredAtOnce true ++ answeredAtOnce true

theorem one_live_master_takenOver :
    let c := after Dict.empty twoControllers takenOver
    c.LiveMaster true ∧ ∀ q, (c.pods true).lockKey = (c.pods q).lockKey → c.LiveMaster q → true = q :=
  ⟨⟨by decide, 2, by decide, by decide⟩, fun q hkey hq =>
    one_live_master Dict.empty (by decide) takenOver true q hkey ⟨by decide, 2, by decide, by decide⟩ hq⟩

/-- The pod is master with the lease, as far as it knows. -/
def HasLease (c : StandbyCluster P) (p : P) (l : Int) : Prop :=
  (c.pods p).manager.currentRole = .master ∧ (c.pods p).leaseId? = some l

theorem hasLease_setPod {pod : StandbyPod} (h : c.HasLease p l)
    (hpod : q = p → pod.manager.currentRole = .master ∧ pod.leaseId? = some l) : (c.setPod q pod).HasLease p l := by
  unfold HasLease
  by_cases hq : q = p
  · subst hq
    rw [setPod_self]
    exact hpod rfl
  · rw [setPod_ne c (Ne.symm hq)]
    exact h

theorem Consistent.hasLease_step (h : c.Consistent) (hlease : c.HasLease p l) (hleaves : ¬ (c.pods p).Leaves)
    {e : StandbyEvent P} (hcrash : e ≠ .crash p) : (c.step e).HasLease p l := by
  have hresume : ∀ q answer, q = p →
      ((c.pods q).resume answer).manager.currentRole = .master ∧ ((c.pods q).resume answer).leaseId? = some l := by
    rintro q answer rfl
    exact ((h.sound q).keeps_resume hlease.2 hleaves answer).symm
  have hsame : ∀ {q}, q = p → (c.pods q).manager.currentRole = .master ∧ (c.pods q).leaseId? = some l := by
    rintro q rfl
    exact hlease
  cases e with
  | begin q =>
      refine hasLease_setPod hlease ?_
      rintro rfl
      rw [StandbyPod.leaseId?, StandbyPod.lockKey, (h.sound q).keeps_begin]
      exact hlease
  | send q =>
      simp only [StandbyCluster.step]
      split
      · exact hasLease_setPod hlease hsame
      · exact hlease
  | serve q =>
      simp only [StandbyCluster.step]
      split
      · exact hasLease_setPod hlease hsame
      · exact hlease
  | receive q =>
      simp only [StandbyCluster.step]
      split
      · exact hasLease_setPod hlease (hresume q _)
      · exact hlease
  | fail q =>
      simp only [StandbyCluster.step]
      split
      · exact hlease
      · exact hasLease_setPod hlease (hresume q _)
      · exact hasLease_setPod hlease (hresume q _)
  | raises q =>
      simp only [StandbyCluster.step]
      split
      · exact hasLease_setPod hlease hsame
      · exact hlease
  | stop q => exact hasLease_setPod hlease hsame
  | crash q =>
      refine hasLease_setPod hlease ?_
      rintro rfl
      exact absurd rfl hcrash
  | deliver i =>
      simp only [StandbyCluster.step]
      split <;> exact hlease
  | expire l' => exact hlease
  | tick => exact hlease

theorem locks_step (c : StandbyCluster P) (e : StandbyEvent P) :
    (c.step e).etcd.locks = c.etcd.locks ∨
    (∃ q r, e = .serve q ∧ (c.pods q).call = .sent (.lease r) ∧ (c.step e).etcd.locks = c.etcd.locks.step (.request r)) ∨
    (∃ i r, e = .deliver i ∧ .lease r ∈ c.late ∧ (c.step e).etcd.locks = c.etcd.locks.step (.request r)) ∨
    (∃ l, e = .expire l ∧ (c.step e).etcd.locks = c.etcd.locks.step (.expire l)) ∨
    (c.step e).etcd.locks = c.etcd.locks.step .tick := by
  cases e with
  | serve q =>
      simp only [StandbyCluster.step]
      split
      · rename_i request hcall
        cases request with
        | lease r => exact .inr (.inl ⟨q, r, rfl, hcall, rfl⟩)
        | range key => exact .inl rfl
        | put key value => exact .inl rfl
      · exact .inl rfl
  | deliver i =>
      simp only [StandbyCluster.step]
      split
      · rename_i request hlate
        cases request with
        | lease r => exact .inr (.inr (.inl ⟨i, r, rfl, List.mem_of_getElem? hlate, rfl⟩))
        | range key => exact .inl rfl
        | put key value => exact .inl rfl
      · exact .inl rfl
  | expire l => exact .inr (.inr (.inr (.inl ⟨l, rfl, rfl⟩)))
  | tick => exact .inr (.inr (.inr (.inr rfl)))
  | begin q => exact .inl rfl
  | send q => exact .inl (by simp only [step]; split <;> rfl)
  | receive q => exact .inl (by simp only [step]; split <;> rfl)
  | fail q => exact .inl (by simp only [step]; split <;> rfl)
  | raises q => exact .inl (by simp only [step]; split <;> rfl)
  | stop q => exact .inl rfl
  | crash q => exact .inl rfl

theorem Consistent.live_step (h : c.Consistent) (hlease : c.HasLease p l) (hlive : c.etcd.locks.Live l)
    (hleaves : ¬ (c.pods p).Leaves) {e : StandbyEvent P} (hexpire : e ≠ .expire l) : (c.step e).etcd.locks.Live l := by
  rcases locks_step c e with he | ⟨q, r, rfl, hcall, he⟩ | ⟨i, r, rfl, hmem, he⟩ | ⟨l', rfl, he⟩ | he <;> rw [he]
  · exact hlive
  · refine LeaseServer.live_step hlive ?_ (by simp)
    intro hr
    cases hr
    obtain rfl := h.unique q p l ((h.sound q).knows_of_revoke hcall) (.inl hlease.2)
    rcases (h.sound q).phase_of_revoke hcall with hphase | hphase | hphase
    · have hok := (h.sound q).phase
      rw [hphase] at hok
      cases hok.symm.trans hlease.2
    · exact hleaves ⟨l, .inl hphase⟩
    · exact hleaves ⟨l, .inr hphase⟩
  · refine LeaseServer.live_step hlive ?_ (by simp)
    intro hr
    cases hr
    exact (h.late l hmem).2 p (.inl hlease.2)
  · refine LeaseServer.live_step hlive (by simp) ?_
    intro hl
    cases hl
    exact hexpire rfl
  · exact LeaseServer.live_step hlive (by simp) (by simp)

omit [DecidableEq P] in
theorem Consistent.revokesOwn (h : c.Consistent) (l : Int) :
    (∀ q, (c.pods q).call = .sent (.lease (.revoke l)) → (c.pods q).Knows l ∧ ∀ q', (c.pods q').Knows l → q' = q) ∧
      (.lease (.revoke l) ∈ c.late → ∀ q, ¬ (c.pods q).Knows l) := by
  refine ⟨fun q hcall => ?_, fun hlate => (h.late l hlate).2⟩
  have hknows := (h.sound q).knows_of_revoke hcall
  exact ⟨hknows, fun q' hq' => h.unique q' q l hq' hknows⟩

/-- A master whose lease lives stays so, whatever the other pods and the network do, unless its lease expires, it crashes
or it gives the lease up. Every revocation that is under way is of a lease of its sender, and of no other pod. -/
theorem live_master_stays (store : Dict String String) {configs : P → StandbyPod}
    (hslash : ∀ p, EtcdClient.startsWith (configs p).manager.masterLockKey "/" = true) (es : List (StandbyEvent P)) :
    let c := after store configs es
    (∀ p e, c.LiveMaster p → ¬ (c.pods p).Leaves → e ≠ .crash p → (∀ l, (c.pods p).leaseId? = some l → e ≠ .expire l) →
      (c.step e).LiveMaster p) ∧
    ∀ l, (∀ q, (c.pods q).call = .sent (.lease (.revoke l)) →
        (c.pods q).Knows l ∧ ∀ q', (c.pods q').Knows l → q' = q) ∧
      (.lease (.revoke l) ∈ c.late → ∀ q, ¬ (c.pods q).Knows l) := by
  have h := consistent_after store hslash es
  refine ⟨?_, h.revokesOwn⟩
  rintro p e ⟨hrole, l, hl, hlive⟩ hleaves hcrash hexpire
  have hkept := h.hasLease_step ⟨hrole, hl⟩ hleaves hcrash
  exact ⟨hkept.1, l, hkept.2, h.live_step ⟨hrole, hl⟩ hlive hleaves (hexpire l hl)⟩

def givingBack : List (StandbyEvent Bool) :=
  acquired ++ answeredAtOnce false ++ answeredAtOnce false ++ [.stop false, .begin false, .send false]

/-- The second pod begins, and asks for a lease; the lease that the first revokes is known to the first alone. -/
theorem live_master_stays_acquired :
    ((after Dict.empty twoControllers acquired).step (.begin true)).LiveMaster false ∧
      ∀ q, ((after Dict.empty twoControllers givingBack).pods q).Knows 1 → q = false := by
  refine ⟨(live_master_stays Dict.empty (by decide) acquired).1 false (.begin true) ⟨by decide, 1, by decide, by decide⟩
    ?_ (by decide) (fun l _ => by simp), ?_⟩
  · have hphase : ((after Dict.empty twoControllers acquired).pods false).phase = .reporting := by decide
    rintro ⟨l, hleaves | hleaves⟩
    · cases hphase.symm.trans hleaves
    · cases hphase.symm.trans hleaves
  · exact (((live_master_stays Dict.empty (by decide) givingBack).2 1).1 false (by decide)).2

/-! ## Leases that nobody knows -/

/-- A lease that no pod knows is not learned any more. -/
theorem Consistent.orphan_step (h : c.Consistent) (horphan : c.Orphan l) (e : StandbyEvent P) : (c.step e).Orphan l := by
  obtain ⟨hgranted, hknows⟩ := horphan
  refine ⟨?_, fun q hq => ?_⟩
  · rcases locks_step c e with he | ⟨_, _, -, -, he⟩ | ⟨_, _, -, -, he⟩ | ⟨_, -, he⟩ | he <;> rw [he]
    · exact hgranted
    all_goals exact Int.le_trans hgranted (LeaseServer.granted_le_step ..)
  · rcases step_cases h.sound e with ⟨p, pod, hm, hpods, -⟩ | ⟨p, request, -, -, hpods, -⟩ | ⟨hpods, -⟩ <;>
      rw [hpods] at hq
    · exact hknows q ((moves_setPod h.sound hm q).knows l hq)
    · rcases knows_answer c request hq with hold | ⟨-, rfl, -⟩
      · exact hknows q hold
      · omega
    · exact hknows q hq

theorem Consistent.unrenewed_step (h : c.Consistent) (horphan : c.Orphan l) (hlate : c.Unrenewed l) (e : StandbyEvent P) :
    (c.step e).Unrenewed l := by
  intro hmem
  rcases step_cases h.sound e with ⟨p, pod, -, -, -, he | ⟨he, -⟩⟩ | ⟨p, request, -, -, -, he⟩ | ⟨-, he, -⟩
  · exact hlate (he ▸ hmem)
  · rw [he] at hmem
    rcases List.mem_append.1 hmem with hmem | hmem
    · exact hlate hmem
    · unfold outstanding at hmem
      split at hmem
      · cases hmem
      · rename_i hcall
        rw [← List.mem_singleton.1 hmem] at hcall
        refine horphan.2 p (.inr (.inl ?_))
        rw [(h.sound p).phase_of_keepAlive hcall]
        rfl
      · cases hmem
  · exact hlate (he ▸ hmem)
  · exact hlate (he hmem)

theorem Consistent.deadline_step (h : c.Consistent) (horphan : c.Orphan l) (hlate : c.Unrenewed l) {e : StandbyEvent P}
    (hlive : (c.step e).etcd.locks.Live l) : (c.step e).etcd.locks.leases.get? l = c.etcd.locks.leases.get? l := by
  rcases locks_step c e with he | ⟨q, r, -, hcall, he⟩ | ⟨i, r, -, hmem, he⟩ | ⟨l', -, he⟩ | he <;> rw [he] at hlive ⊢
  · refine LeaseServer.lease_step horphan.1 hlive ?_
    intro hr
    cases hr
    refine horphan.2 q (.inr (.inl ?_))
    rw [(h.sound q).phase_of_keepAlive hcall]
    rfl
  · refine LeaseServer.lease_step horphan.1 hlive ?_
    intro hr
    cases hr
    exact hlate hmem
  · exact LeaseServer.lease_step horphan.1 hlive (by simp)
  · exact LeaseServer.lease_step horphan.1 hlive (by simp)

theorem live_of_step (hgranted : l ≤ c.etcd.locks.granted) {e : StandbyEvent P} (hlive : (c.step e).etcd.locks.Live l) :
    c.etcd.locks.Live l := by
  rcases locks_step c e with he | ⟨_, _, -, -, he⟩ | ⟨_, _, -, -, he⟩ | ⟨_, -, he⟩ | he <;> rw [he] at hlive
  · exact hlive
  all_goals exact LeaseServer.live_of_step hgranted hlive

/-- The lease is left alone, and stands as it stood. -/
structure LeftAlone (c : StandbyCluster P) (l : Int) (lease : Option Lease) : Prop where
  consistent : c.Consistent
  orphan : c.Orphan l
  unrenewed : c.Unrenewed l
  deadline : c.etcd.locks.Live l → c.etcd.locks.leases.get? l = lease

theorem LeftAlone.step {lease : Option Lease} (h : c.LeftAlone l lease) (e : StandbyEvent P) :
    (c.step e).LeftAlone l lease where
  consistent := h.consistent.step e
  orphan := h.consistent.orphan_step h.orphan e
  unrenewed := h.consistent.unrenewed_step h.orphan h.unrenewed e
  deadline := fun hlive => by
    rw [h.consistent.deadline_step h.orphan h.unrenewed hlive]
    exact h.deadline (live_of_step h.orphan.1 hlive)

/-! ## Taking a free lock -/

theorem setPod_setPod (c : StandbyCluster P) (p : P) (pod pod' : StandbyPod) :
    (c.setPod p pod).setPod p pod' = c.setPod p pod' := by
  simp only [setPod, Function.update_idem]

theorem step_begin (hpod : (c.pods p).phase = .looping) (hstopped : (c.pods p).stopped = false)
    (hrole : (c.pods p).manager.currentRole = .standby) (hlease : (c.pods p).leaseId? = none)
    (hmax : 0 < (c.pods p).manager.maxLockFailures) : c.step (.begin p) = c.setPod p ((c.pods p).goTo .granting) := by
  have hmaster : (c.pods p).manager.isMaster = false := by simp [StandbyManager.isMaster, hrole]
  show c.setPod p (c.pods p).begin = _
  unfold StandbyPod.begin
  rw [hpod]
  simp only [hstopped, hmaster, hlease, hmax, if_true, Bool.false_eq_true, if_false]

theorem run_answeredAtOnce (hcall : (c.pods p).call = .idle) {r : LeaseRequest String}
    (hrequest : (c.pods p).request = some (.lease r)) :
    let c' := run step c (answeredAtOnce p)
    c'.pods p = StandbyPod.resume { c.pods p with call := .answered (.lease (c.etcd.locks.serve r).1) }
      (some (.lease (c.etcd.locks.serve r).1)) ∧ c'.etcd.locks = (c.etcd.locks.serve r).2 := by
  have hsend : c.step (.send p) = c.setPod p { c.pods p with call := .sent (.lease r) } := by
    simp only [StandbyCluster.step, hcall, hrequest]
  have hserve : (c.setPod p { c.pods p with call := .sent (.lease r) }).step (.serve p) =
      { c.setPod p { c.pods p with call := .answered (.lease (c.etcd.locks.serve r).1) } with
        etcd := (c.etcd.serve (.lease r)).2 } := by
    simp only [StandbyCluster.step, setPod_self, setPod_setPod]
    rfl
  simp only [answeredAtOnce, run_cons, run_nil, hsend, hserve]
  simp only [StandbyCluster.step, setPod_self, proceed, true_and]
  rfl

theorem Consistent.takes_lock (h : c.Consistent) (hphase : (c.pods p).phase = .looping)
    (hstopped : (c.pods p).stopped = false) (hlease : (c.pods p).leaseId? = none)
    (hmax : 0 < (c.pods p).manager.maxLockFailures) (hfree : c.etcd.locks.keys.get? (c.pods p).txnKey = none) :
    (run StandbyCluster.step c (.begin p :: answeredAtOnce p ++ answeredAtOnce p)).LiveMaster p := by
  have hrole := (h.sound p).standby hlease
  rw [List.cons_append, run_cons, run_append, step_begin hphase hstopped hrole hlease hmax]
  set c₁ := c.setPod p ((c.pods p).goTo .granting)
  have hpod₁ : c₁.pods p = (c.pods p).goTo .granting := setPod_self ..
  -- the lease is granted, and lives
  obtain ⟨hpod₂, hlocks₂⟩ := run_answeredAtOnce (c := c₁) (p := p) (r := .grant (c.pods p).lockTtl) (by rw [hpod₁]; rfl)
    (by rw [hpod₁]; rfl)
  set c₂ := run StandbyCluster.step c₁ (answeredAtOnce p)
  replace hpod₂ : c₂.pods p = (c.pods p).goTo (.claiming (c.etcd.locks.granted + 1)) := by
    rw [hpod₂, hpod₁]
    rfl
  replace hlocks₂ : c₂.etcd.locks = c.etcd.locks.grant (c.pods p).lockTtl := hlocks₂
  have hlive : c₂.etcd.locks.Live (c.etcd.locks.granted + 1) := by
    rw [hlocks₂]
    exact LeaseServer.live_grant.2 (.inl rfl)
  -- the claim succeeds
  have hserve := LeaseServer.serve_claim (s := c₂.etcd.locks) (k := (c.pods p).txnKey) (by rw [hlocks₂]; exact hfree) hlive
  obtain ⟨hpod₃, hlocks₃⟩ := run_answeredAtOnce (c := c₂) (p := p)
    (r := .claim (c.pods p).txnKey (c.etcd.locks.granted + 1)) (by rw [hpod₂]; rfl) (by rw [hpod₂]; rfl)
  set c₃ := run StandbyCluster.step c₂ (answeredAtOnce p)
  have hacquired := StandbyManager.tryBecomeMaster_acquired (m := (c.pods p).manager) hmax hlease
    (c.etcd.locks.granted + 1)
  rw [hserve, hpod₂] at hpod₃
  replace hpod₃ : (c₃.pods p).manager = ((c.pods p).manager.tryBecomeMaster false
      ⟨some (c.etcd.locks.granted + 1), some true⟩).2 := by
    rw [hpod₃]
    rfl
  refine ⟨by rw [hpod₃, hacquired], c.etcd.locks.granted + 1, ?_, ?_⟩
  · rw [StandbyPod.leaseId?, StandbyPod.lockKey, hpod₃, hacquired]
    exact Dict.get?_set_self ..
  · rw [hlocks₃, hserve]
    exact hlive

theorem Consistent.orphan_run (h : c.Consistent) (horphan : c.Orphan l) (es : List (StandbyEvent P)) :
    (run StandbyCluster.step c es).Orphan l :=
  (run_invariant' (I := fun c' : StandbyCluster P => c'.Consistent ∧ c'.Orphan l)
    (fun _ e h => ⟨h.1.step e, h.1.orphan_step h.2 e⟩) ⟨h, horphan⟩ es).2

/-- A lease that no pod knows, after a crash or an answer that was lost, is never learned again. Once no renewal of it is
under way its deadline does not move, and no key is attached to it any more at a later time at which no lease is overdue;
when it has expired any standby takes the lock. -/
theorem orphan_lock_is_freed (store : Dict String String) {configs : P → StandbyPod}
    (hslash : ∀ p, EtcdClient.startsWith (configs p).manager.masterLockKey "/" = true) (es : List (StandbyEvent P))
    {l : Int} (horphan : (after store configs es).Orphan l) :
    let c := after store configs es
    (∀ fs, (run step c fs).Orphan l) ∧
    (c.Unrenewed l → ∀ fs, let c' := run step c fs
      (c'.etcd.locks.Live l → c'.etcd.locks.leases.get? l = c.etcd.locks.leases.get? l) ∧
      ∀ lease, c.etcd.locks.leases.get? l = some lease → c'.etcd.locks.Punctual → lease.deadline < c'.etcd.locks.now →
        ∀ key, ¬ c'.etcd.locks.Attached key l) ∧
    ∀ p, (c.pods p).phase = .looping → (c.pods p).stopped = false → (c.pods p).leaseId? = none →
      0 < (c.pods p).manager.maxLockFailures → c.etcd.locks.Attached (c.pods p).txnKey l →
        (run step c (.expire l :: .begin p :: answeredAtOnce p ++ answeredAtOnce p)).LiveMaster p := by
  intro c
  have h : c.Consistent := consistent_after store hslash es
  refine ⟨h.orphan_run horphan, fun hlate fs => ?_, fun p hphase hstopped hlease hmax hattached => ?_⟩
  · have halone := run_invariant' (I := fun c' : StandbyCluster P => c'.LeftAlone l (c.etcd.locks.leases.get? l))
      (fun _ e h => h.step e) ⟨h, horphan, hlate, fun _ => rfl⟩ fs
    refine ⟨halone.deadline, fun lease hlease hpunctual hlater key hattached => ?_⟩
    have hlive : (run step c fs).etcd.locks.Live l := (run step c fs).etcd.locks.attached key l hattached
    have hdue := hpunctual l lease ((halone.deadline hlive).trans hlease)
    exact absurd hlater (Nat.not_lt.mpr hdue)
  · exact (h.step (.expire l)).takes_lock hphase hstopped hlease hmax (LeaseServer.free_drop hattached)

def crashed : List (StandbyEvent Bool) := acquired ++ [.crash false]

def overdue : List (StandbyEvent Bool) := .expire 1 :: List.replicate 11 .tick

theorem orphan_lock_is_freed_crashed :
    (∀ fs, (run step (after Dict.empty twoControllers crashed) fs).Orphan 1) ∧
      (∀ key, ¬ (run step (after Dict.empty twoControllers crashed) overdue).etcd.locks.Attached key 1) ∧
      (run step (after Dict.empty twoControllers crashed)
        (.expire 1 :: .begin true :: answeredAtOnce true ++ answeredAtOnce true)).LiveMaster true := by
  have horphan : (after Dict.empty twoControllers crashed).Orphan 1 := ⟨by decide, fun p => by cases p <;> decide⟩
  obtain ⟨hunlearned, halone, hfree⟩ := orphan_lock_is_freed Dict.empty (by decide) crashed horphan
  refine ⟨hunlearned, (halone (by decide) overdue).2 ⟨10, 10⟩ (by decide) ?_ (by decide),
    hfree true (by decide) (by decide) (by decide) (by decide) (by decide)⟩
  have hnone : (run step (after Dict.empty twoControllers crashed) overdue).etcd.locks.leases.entries = [] := by decide
  intro l lease hlease
  rw [Dict.get?_eq_some_iff, hnone] at hlease
  cases hlease

/-! ## The mark that a master leaves -/

/-- A pod with the mark of the key has become master. -/
def Told (keys : P → String) (masters : List (P × Bool)) (key : String) : Prop := ∃ m ∈ masters, keys m.1 = key

/-- The mark is only ever set, and not before a pod has become master. -/
structure Marked (c : StandbyCluster P) (keys : P → String) : Prop where
  flagKey : ∀ p, (c.pods p).flagKey = keys p
  flagging : ∀ p, (c.pods p).phase = .flagging → Told keys c.masters (keys p)
  late : ∀ key value, .put key value ∈ c.late → value = "true" ∧ Told keys c.masters key
  stored : ∀ p value, c.etcd.store.get? (keys p) = some value → value = "true" ∧ Told keys c.masters (keys p)
  answered : ∀ p value, (c.pods p).call = .answered (.value (some value)) → Told keys c.masters (keys p)
  first : ∀ before p after, c.masters = before ++ (p, true) :: after → Told keys before (keys p)

omit [DecidableEq P] in
theorem Told.append {keys : P → String} {masters : List (P × Bool)} {key : String} (h : Told keys masters key)
    (others : List (P × Bool)) : Told keys (masters ++ others) key := by
  obtain ⟨m, hm, hkey⟩ := h
  exact ⟨m, List.mem_append_left _ hm, hkey⟩

omit [DecidableEq P] in
theorem boolOfAnswer_some {answer : Option EtcdAnswer} (h : boolOfAnswer answer = true) :
    ∃ value, answer = some (.value (some value)) := by
  unfold boolOfAnswer at h
  split at h
  · rename_i value
    exact ⟨value, rfl⟩
  all_goals cases h

theorem resume_idle {pod : StandbyPod} (hrequest : pod.request.isSome = true) (answer : Option EtcdAnswer) :
    (pod.resume answer).call = .idle ∧ ((pod.resume answer).phase = .flagging → pod.phase = .reporting) := by
  unfold StandbyPod.request at hrequest
  unfold StandbyPod.resume
  cases hphase : pod.phase with
  | looping => simp [hphase] at hrequest
  | ended => simp [hphase] at hrequest
  | granting =>
      dsimp only
      split <;> exact ⟨rfl, fun he => (by cases he)⟩
  | claiming leaseId =>
      dsimp only
      split <;> exact ⟨rfl, fun he => (by cases he)⟩
  | abandoning leaseId => exact ⟨rfl, fun he => (by cases he)⟩
  | reporting => exact ⟨rfl, fun _ => rfl⟩
  | flagging => exact ⟨rfl, fun he => (by cases he)⟩
  | renewing leaseId =>
      dsimp only
      split
      · split <;> exact ⟨rfl, fun he => (by cases he)⟩
      · exact ⟨rfl, fun he => (by cases he)⟩
  | releasing leaseId => exact ⟨rfl, fun he => (by cases he)⟩
  | closing leaseId => exact ⟨rfl, fun he => (by cases he)⟩

theorem Marked.move {keys : P → String} (h : c.Marked keys) {pod : StandbyPod} (hkey : pod.flagKey = (c.pods p).flagKey)
    (hcall : ∀ value, pod.call = .answered (.value (some value)) → (c.pods p).call = .answered (.value (some value)))
    (others : List (P × Bool)) (htold : pod.phase = .flagging → Told keys (c.masters ++ others) (keys p))
    (hfirst : ∀ before q after, c.masters ++ others = before ++ (q, true) :: after → Told keys before (keys q)) :
    Marked { c.setPod p pod with masters := c.masters ++ others } keys := by
  refine ⟨fun q => ?_, fun q hq => ?_, fun key value hmem => ⟨(h.late key value hmem).1, (h.late key value hmem).2.append _⟩,
    fun q value hget => ⟨(h.stored q value hget).1, (h.stored q value hget).2.append _⟩, fun q value hq => ?_, hfirst⟩
  · show ((c.setPod p pod).pods q).flagKey = keys q
    by_cases hqp : q = p
    · subst hqp
      rw [setPod_self, hkey]
      exact h.flagKey q
    · rw [setPod_ne c hqp]
      exact h.flagKey q
  · replace hq : ((c.setPod p pod).pods q).phase = .flagging := hq
    by_cases hqp : q = p
    · subst hqp
      rw [setPod_self] at hq
      exact htold hq
    · rw [setPod_ne c hqp] at hq
      exact (h.flagging q hq).append _
  · replace hq : ((c.setPod p pod).pods q).call = .answered (.value (some value)) := hq
    refine Told.append ?_ _
    by_cases hqp : q = p
    · subst hqp
      rw [setPod_self] at hq
      exact h.answered q value (hcall value hq)
    · rw [setPod_ne c hqp] at hq
      exact h.answered q value hq

theorem Marked.moveOther {keys : P → String} (h : c.Marked keys) {pod : StandbyPod}
    (hkey : pod.flagKey = (c.pods p).flagKey)
    (hcall : ∀ value, pod.call = .answered (.value (some value)) → (c.pods p).call = .answered (.value (some value)))
    (hphase : pod.phase = .flagging → (c.pods p).phase = .flagging) : (c.setPod p pod).Marked keys := by
  have hmoved := h.move hkey hcall [] (fun he => (h.flagging p (hphase he)).append _)
    (by rw [List.append_nil]; exact h.first)
  rw [List.append_nil] at hmoved
  exact hmoved

omit [DecidableEq P] in
/-- The first master is told false, and a master is told true only after another of its job. -/
theorem Marked.first_append {keys : P → String} (h : c.Marked keys) {b : Bool}
    (htold : b = true → Told keys c.masters (keys p)) {before after : List (P × Bool)}
    (he : c.masters ++ [(p, b)] = before ++ (q, true) :: after) : Told keys before (keys q) := by
  rcases List.eq_nil_or_concat after with rfl | ⟨after, last, rfl⟩
  · obtain ⟨rfl, hlast⟩ := List.append_inj' he rfl
    obtain ⟨rfl, rfl⟩ : p = q ∧ b = true := by simpa using hlast
    exact htold rfl
  · have hmasters : c.masters = before ++ (q, true) :: after := by
      have hsplit : c.masters ++ [(p, b)] = (before ++ (q, true) :: after) ++ [last] := by simpa using he
      exact (List.append_inj' hsplit rfl).1
    exact h.first before q after hmasters

theorem Marked.proceed {keys : P → String} (h : c.Marked keys) (hsound : (c.pods p).Sound)
    (hrequest : (c.pods p).request.isSome = true) {answer : Option EtcdAnswer}
    (hanswer : ∀ a, answer = some a → (c.pods p).call = .answered a) : (c.proceed p answer).Marked keys := by
  have hkey := (hsound.moves_resume hrequest hanswer).keys.2
  obtain ⟨hidle, hflag⟩ := resume_idle hrequest answer
  have hcall : ∀ value, ((c.pods p).resume answer).call = .answered (.value (some value)) →
      (c.pods p).call = .answered (.value (some value)) := fun value he => by cases hidle.symm.trans he
  by_cases hphase : (c.pods p).phase = .reporting
  · have htold : boolOfAnswer answer = true → Told keys c.masters (keys p) := by
      intro hbool
      obtain ⟨value, rfl⟩ := boolOfAnswer_some hbool
      exact h.answered p value (hanswer _ rfl)
    have hmoved := h.move hkey hcall [(p, boolOfAnswer answer)]
      (fun _ => ⟨_, List.mem_append_right _ (List.mem_singleton_self _), rfl⟩) fun before q after he =>
        h.first_append htold he
    simp only [StandbyCluster.proceed, hphase]
    exact hmoved
  · have hmasters : (c.proceed p answer).masters = c.masters := by
      unfold StandbyCluster.proceed
      split
      · rename_i he
        exact absurd he hphase
      · rfl
    have hmoved := h.moveOther hkey hcall fun he => absurd (hflag he) hphase
    rw [show c.proceed p answer = { c.setPod p ((c.pods p).resume answer) with
      masters := (c.proceed p answer).masters } from rfl, hmasters]
    exact hmoved

omit [DecidableEq P] in
theorem Marked.put {keys : P → String} (h : c.Marked keys) (hsound : (c.pods p).Sound) {key value : String}
    (hcall : (c.pods p).call = .sent (.put key value)) : value = "true" ∧ Told keys c.masters key := by
  have hrequest := hsound.sent _ hcall
  unfold StandbyPod.request at hrequest
  cases hphase : (c.pods p).phase <;> simp only [hphase, reduceCtorEq, Option.some.injEq, EtcdRequest.put.injEq] at hrequest
  rw [← hrequest.1, h.flagKey p]
  exact ⟨hrequest.2.symm, h.flagging p hphase⟩

omit [DecidableEq P] in
theorem Marked.served {keys : P → String} (h : c.Marked keys) {request : EtcdRequest}
    (hput : ∀ key value, request = .put key value → value = "true" ∧ Told keys c.masters key) (q : P) (value : String)
    (hget : (c.etcd.serve request).2.store.get? (keys q) = some value) :
    value = "true" ∧ Told keys c.masters (keys q) := by
  cases request with
  | lease r => exact h.stored q value hget
  | range key => exact h.stored q value hget
  | put key value' =>
      by_cases hkey : keys q = key
      · subst hkey
        obtain rfl : value' = value := by simpa [EtcdServer.serve] using hget
        exact hput _ _ rfl
      · exact h.stored q value ((Dict.get?_set_ne hkey).symm.trans hget)

theorem Marked.serve {keys : P → String} (h : c.Marked keys) (hsound : (c.pods p).Sound) {request : EtcdRequest}
    (hcall : (c.pods p).call = .sent request) : Marked { c.setPod p { c.pods p with
      call := .answered (c.etcd.serve request).1 } with etcd := (c.etcd.serve request).2 } keys := by
  have hrequest := hsound.sent _ hcall
  have hpods : ∀ q, ((c.setPod p { c.pods p with call := .answered (c.etcd.serve request).1 }).pods q).flagKey =
      (c.pods q).flagKey ∧ ((c.setPod p { c.pods p with call := .answered (c.etcd.serve request).1 }).pods q).phase =
        (c.pods q).phase := by
    intro q
    by_cases hqp : q = p
    · subst hqp
      rw [setPod_self]
      exact ⟨rfl, rfl⟩
    · rw [setPod_ne c hqp]
      exact ⟨rfl, rfl⟩
  refine ⟨fun q => (hpods q).1.trans (h.flagKey q), fun q hq => h.flagging q ((hpods q).2.symm.trans hq), h.late,
    h.served fun key value he => h.put hsound (he ▸ hcall), fun q value hq => ?_, h.first⟩
  replace hq : ((c.setPod p { c.pods p with call := .answered (c.etcd.serve request).1 }).pods q).call =
    .answered (.value (some value)) := hq
  by_cases hqp : q = p
  · subst hqp
    rw [setPod_self, EtcdCall.answered.injEq] at hq
    cases request with
    | lease r => cases hq
    | range key =>
        have hkey : key = keys q := by
          unfold StandbyPod.request at hrequest
          rw [← h.flagKey q]
          cases hphase : (c.pods q).phase <;>
            simp only [hphase, reduceCtorEq, Option.some.injEq, EtcdRequest.range.injEq] at hrequest
          exact hrequest.symm
        subst hkey
        exact (h.stored q value (EtcdAnswer.value.inj hq)).2
    | put key value' => cases hq
  · rw [setPod_ne c hqp] at hq
    exact h.answered q value hq

omit [DecidableEq P] in
theorem Marked.withLate {keys : P → String} (h : c.Marked keys) {late : List EtcdRequest}
    (hlate : ∀ key value, .put key value ∈ late →
      .put key value ∈ c.late ∨ value = "true" ∧ Told keys c.masters key) : Marked { c with late := late } keys :=
  ⟨h.flagKey, h.flagging, fun key value hmem => (hlate key value hmem).elim (h.late key value) id, h.stored, h.answered,
    h.first⟩

omit [DecidableEq P] in
theorem Marked.lateOutstanding {keys : P → String} (h : c.Marked keys) (hsound : (c.pods p).Sound) (key value : String)
    (hmem : .put key value ∈ c.late ++ c.outstanding p) :
    .put key value ∈ c.late ∨ value = "true" ∧ Told keys c.masters key := by
  rcases List.mem_append.1 hmem with hmem | hmem
  · exact .inl hmem
  · unfold outstanding at hmem
    split at hmem
    · cases hmem
    · rename_i hcall
      rw [← List.mem_singleton.1 hmem] at hcall
      exact .inr (h.put hsound hcall)
    · cases hmem

theorem masters_proceed (c : StandbyCluster P) (p : P) (answer : Option EtcdAnswer) :
    ∃ others, (c.proceed p answer).masters = c.masters ++ others := by
  unfold StandbyCluster.proceed
  split
  · exact ⟨_, rfl⟩
  · exact ⟨[], (List.append_nil _).symm⟩

theorem Marked.step {keys : P → String} (h : c.Marked keys) (hc : c.Consistent) (e : StandbyEvent P) :
    (c.step e).Marked keys := by
  cases e with
  | begin p =>
      rcases (hc.sound p).begin_cases with he | ⟨phase, he, -, hphase, -⟩
      · exact h.moveOther (congrArg StandbyPod.flagKey he) (by rw [he]; exact fun _ hcall => hcall) (by rw [he]; exact id)
      · refine h.moveOther (by rw [he]; rfl) (fun _ hcall => ?_) (fun hflag => ?_)
        · rw [he] at hcall
          cases hcall
        · rw [he] at hflag
          exact absurd hflag hphase
  | send p =>
      simp only [StandbyCluster.step]
      split
      · exact h.moveOther rfl (fun _ hcall => by cases hcall) id
      · exact h
  | serve p =>
      simp only [StandbyCluster.step]
      split
      · rename_i request hcall
        exact h.serve (hc.sound p) hcall
      · exact h
  | receive p =>
      simp only [StandbyCluster.step]
      split
      · rename_i answer hcall
        refine h.proceed (hc.sound p) ((hc.sound p).answered _ hcall) fun a ha => ?_
        rw [← Option.some.inj ha]
        exact hcall
      · exact h
  | fail p =>
      simp only [StandbyCluster.step]
      split
      · exact h
      · rename_i request hcall
        have hrequest : (c.pods p).request.isSome = true := by rw [(hc.sound p).sent _ hcall]; rfl
        refine (h.proceed (hc.sound p) hrequest fun a ha => by cases ha).withLate fun key value hmem => ?_
        obtain ⟨others, hmasters⟩ := masters_proceed c p none
        rcases h.lateOutstanding (hc.sound p) key value hmem with hold | ⟨hvalue, htold⟩
        · exact .inl hold
        · exact .inr ⟨hvalue, hmasters ▸ htold.append others⟩
      · rename_i answer hcall
        exact h.proceed (hc.sound p) ((hc.sound p).answered _ hcall) fun a ha => by cases ha
  | raises p =>
      simp only [StandbyCluster.step]
      split
      · exact h.moveOther rfl (fun _ hcall => by cases hcall) (fun he => by cases he)
      · exact h
  | stop p => exact h.moveOther rfl (fun _ hcall => hcall) id
  | crash p =>
      have hmoved : (c.setPod p (c.pods p).restart).Marked keys :=
        h.moveOther rfl (fun _ hcall => by cases hcall) (fun he => by cases he)
      exact hmoved.withLate (h.lateOutstanding (hc.sound p))
  | deliver i =>
      simp only [StandbyCluster.step]
      split
      · rename_i request hlate
        have hmem := List.mem_of_getElem? hlate
        have hfewer : Marked { c with late := c.late.eraseIdx i } keys :=
          h.withLate fun key value hkey => .inl (List.mem_of_mem_eraseIdx hkey)
        exact ⟨h.flagKey, h.flagging, hfewer.late, h.served fun key value he => h.late key value (he ▸ hmem), h.answered,
          h.first⟩
      · exact h
  | expire l => exact ⟨h.flagKey, h.flagging, h.late, h.stored, h.answered, h.first⟩
  | tick => exact ⟨h.flagKey, h.flagging, h.late, h.stored, h.answered, h.first⟩

omit [DecidableEq P] in
theorem marked_start {store : Dict String String} {configs : P → StandbyPod}
    (hunmarked : ∀ p, store.get? (configs p).flagKey = none) :
    (start store configs).Marked fun p => (configs p).flagKey :=
  ⟨fun _ => rfl, fun _ he => (by cases he), fun _ _ hmem => (by cases hmem),
    fun p _ hget => (by cases (hunmarked p).symm.trans hget), fun _ _ he => (by cases he), fun before _ _ he => by
      have hlength := congrArg List.length he
      simp [start] at hlength⟩

theorem store_serve {s : EtcdServer} {key : String} (h : s.store.contains key = true) (request : EtcdRequest) :
    (s.serve request).2.store.contains key = true := by
  cases request with
  | lease r => exact h
  | range key => exact h
  | put key value => exact Dict.contains_set.2 (.inr h)

theorem store_step {key : String} (h : c.etcd.store.contains key = true) (e : StandbyEvent P) :
    (c.step e).etcd.store.contains key = true := by
  cases e with
  | serve p =>
      simp only [StandbyCluster.step]
      split
      · exact store_serve h _
      · exact h
  | deliver i =>
      simp only [StandbyCluster.step]
      split
      · exact store_serve h _
      · exact h
  | begin p => exact h
  | send p => simp only [StandbyCluster.step]; split <;> exact h
  | receive p => simp only [StandbyCluster.step]; split <;> exact h
  | fail p => simp only [StandbyCluster.step]; split <;> exact h
  | raises p => simp only [StandbyCluster.step]; split <;> exact h
  | stop p => exact h
  | crash p => exact h
  | expire l => exact h
  | tick => exact h

/-- Until a pod of a job has become master none is told to report. The mark that it leaves is for the whole job and for
ever: from then on a master of any lock of the job is told to report when its request is answered. -/
theorem first_master_is_not_told (store : Dict String String) {configs : P → StandbyPod}
    (hslash : ∀ p, EtcdClient.startsWith (configs p).manager.masterLockKey "/" = true)
    (hunmarked : ∀ p, store.get? (configs p).flagKey = none) (es : List (StandbyEvent P)) :
    let c := after store configs es
    (∀ before p after, c.masters = before ++ (p, true) :: after →
      ∃ m ∈ before, (configs m.1).flagKey = (configs p).flagKey) ∧
    ∀ p, c.etcd.store.contains (configs p).flagKey = true → ∀ fs, let c' := run step c fs
      boolOfAnswer (some (c'.etcd.serve (.range (c'.pods p).flagKey)).1) = true := by
  have hrun : ∀ es, let c := after store configs es
      c.Consistent ∧ c.Marked fun p => (configs p).flagKey :=
    run_invariant' (I := fun c : StandbyCluster P => c.Consistent ∧ c.Marked fun p => (configs p).flagKey)
      (fun _ e h => ⟨h.1.step e, h.2.step h.1 e⟩) ⟨consistent_start store hslash, marked_start hunmarked⟩
  intro c
  refine ⟨(hrun es).2.first, fun p hstored fs => ?_⟩
  intro c'
  have hmarked : c'.Marked fun p => (configs p).flagKey := by
    have hboth := (hrun (es ++ fs)).2
    rw [after, run_append] at hboth
    exact hboth
  obtain ⟨value, hget⟩ := Dict.contains_iff.1 (run_invariant' (I := fun c : StandbyCluster P =>
    c.etcd.store.contains (configs p).flagKey = true) (fun _ e h => store_step h e) hstored fs)
  have htrue := (hmarked.stored p value hget).1
  rw [hmarked.flagKey p]
  show boolOfAnswer (some (.value (c'.etcd.store.get? (configs p).flagKey))) = true
  rw [hget, htrue]
  decide

def controllerAndCoordinator (coordinator : Bool) : StandbyPod :=
  lockedPod (if coordinator then "/coordinator/master_lock" else "/controller/master_lock")

def marked (p : P) : List (StandbyEvent P) :=
  .begin p :: answeredAtOnce p ++ answeredAtOnce p ++ answeredAtOnce p ++ answeredAtOnce p

/-- The first master of a controller is told to report, for a coordinator has become master before. -/
theorem first_master_is_not_told_shared :
    let c := after Dict.empty controllerAndCoordinator (marked true ++ marked false)
    c.masters = [(true, false), (false, true)] ∧
      ∃ m ∈ [(true, false)], (controllerAndCoordinator m.1).flagKey = (controllerAndCoordinator false).flagKey :=
  ⟨by decide, (first_master_is_not_told Dict.empty (by decide) (by decide) (marked true ++ marked false)).1
    [(true, false)] false [] (by decide)⟩

end StandbyCluster

end PyMotor
