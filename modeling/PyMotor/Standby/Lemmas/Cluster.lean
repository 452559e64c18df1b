import PyMotor.Standby.Cluster
import PyMotor.Standby.Theorems

/-!
What a pod does by itself keeps its leases among those it knew, so a lease that lives has one pod; and a lease that lives
keeps its key.
-/

namespace PyMotor

open Lib

/-! ## Iterations that get no answer -/

namespace StandbyManager

variable {m : StandbyManager}

theorem iterate_refused (hrole : m.currentRole = .standby) {it : Iteration} (hlock : it.lock.acquire = none) :
    m.iterate it = m := by
  have hself : m.setRole .standby = m := by
    rw [← hrole]
    rfl
  have htry : m.tryBecomeMaster it.stopped it.lock = (false, m) := by
    unfold tryBecomeMaster
    split
    · have hacquire : m.etcdClient.acquireLock m.masterLockKey it.lock = (false, m.etcdClient) := by
        unfold LockClient.acquireLock
        split
        · rfl
        · rw [hlock]
      rw [hacquire]
      exact congrArg (Prod.mk false) hself
    · rfl
  unfold iterate
  rw [if_neg (by simp [isMaster, hrole]), htry]

theorem iterate_released (hslash : EtcdClient.startsWith m.masterLockKey "/" = true) (hrole : m.currentRole = .master)
    {leaseId : Int} (hlease : m.etcdClient.leases.get? (m.etcdClient.lockKeyOf m.masterLockKey) = some leaseId)
    (it : Iteration) (hrenew : it.renew.keepAlive = none) :
    m.iterate it = ({ m with etcdClient := { m.etcdClient with
      leases := m.etcdClient.leases.erase (m.etcdClient.lockKeyOf m.masterLockKey) } }.setRole .standby).invoke
        .onBecomeStandby := by
  have hmaster : m.isMaster = true := by simp [isMaster, hrole]
  have hreleased : (m.etcdClient.releaseLock (m.etcdClient.lockKeyOf m.masterLockKey) it.renew.revoked).2 =
      { m.etcdClient with leases := m.etcdClient.leases.erase (m.etcdClient.lockKeyOf m.masterLockKey) } := by
    simp only [LockClient.releaseLock, LockClient.lockKeyOf_lockKeyOf hslash, hlease]
  unfold iterate renewMasterLock
  simp only [hmaster, if_true, LockClient.renewLease, hlease, hrenew, hreleased]

theorem tryBecomeMaster_acquired (hmax : 0 < m.maxLockFailures)
    (hlease : m.etcdClient.leases.get? (m.etcdClient.lockKeyOf m.masterLockKey) = none) (leaseId : Int) :
    (m.tryBecomeMaster false ⟨some leaseId, some true⟩).2 = { m with
      etcdClient := { m.etcdClient with
        leases := m.etcdClient.leases.set (m.etcdClient.lockKeyOf m.masterLockKey) leaseId }
      currentRole := .master } := by
  have hfree := Dict.contains_eq_false_iff.2 hlease
  unfold tryBecomeMaster LockClient.acquireLock
  simp [hmax, hfree, LockAnswers.acquire, setRole]

end StandbyManager

/-! ## Pods -/

namespace StandbyPod

variable {pod pod' : StandbyPod} {l : Int}

/-- What a phase says of the lease of the pod. -/
def PhaseOk (pod : StandbyPod) : StandbyPhase → Prop
  | .looping => True
  | .granting => pod.leaseId? = none ∧ 0 < pod.manager.maxLockFailures
  | .claiming _ => pod.leaseId? = none ∧ 0 < pod.manager.maxLockFailures
  | .abandoning _ => pod.leaseId? = none
  | .reporting => True
  | .flagging => True
  | .renewing leaseId => pod.leaseId? = some leaseId
  | .releasing leaseId => pod.leaseId? = some leaseId
  | .closing leaseId => pod.leaseId? = some leaseId
  | .ended => True

structure Sound (pod : StandbyPod) : Prop where
  slash : EtcdClient.startsWith pod.manager.masterLockKey "/" = true
  role : pod.manager.currentRole = .master ↔ pod.leaseId?.isSome = true
  phase : pod.PhaseOk pod.phase
  sent : ∀ request, pod.call = .sent request → pod.request = some request
  answered : ∀ answer, pod.call = .answered answer → pod.request.isSome = true

/-- The pod has got its lock, but does not know it yet. -/
def Claimed (pod : StandbyPod) (l : Int) : Prop :=
  pod.phase = .claiming l ∧ pod.call = .answered (.lease (.claimed true))

/-- What a pod does without etcd: it knows no other lease than before, and has none but that which it has claimed. -/
structure Moves (pod pod' : StandbyPod) : Prop where
  keys : pod'.lockKey = pod.lockKey ∧ pod'.flagKey = pod.flagKey
  sound : pod'.Sound
  knows : ∀ l, pod'.Knows l → pod.Knows l
  lease : ∀ l, pod'.leaseId? = some l → pod.leaseId? = some l ∨ pod.Claimed l
  claimed : ∀ l, pod'.Claimed l → pod.Claimed l

theorem Sound.standby (h : pod.Sound) (hlease : pod.leaseId? = none) : pod.manager.currentRole = .standby := by
  cases hrole : pod.manager.currentRole with
  | standby => rfl
  | master =>
      have hsome := h.role.1 hrole
      rw [hlease] at hsome
      cases hsome

theorem Sound.master (h : pod.Sound) (hlease : pod.leaseId? = some l) : pod.manager.currentRole = .master :=
  h.role.2 (by rw [hlease]; rfl)

/-! ### Changes of the phase -/

theorem Sound.goTo (h : pod.Sound) {phase : StandbyPhase} (hphase : pod.PhaseOk phase) : (pod.goTo phase).Sound where
  slash := h.slash
  role := h.role
  phase := by cases phase <;> exact hphase
  sent := fun request he => by cases he
  answered := fun answer he => by cases he

theorem Sound.moves_goTo (h : pod.Sound) {phase : StandbyPhase} (hphase : pod.PhaseOk phase)
    (hknows : ∀ l, phase.leaseId? = some l → pod.Knows l) : pod.Moves (pod.goTo phase) where
  keys := ⟨rfl, rfl⟩
  sound := h.goTo hphase
  knows := by
    rintro l (hl | hl | hl)
    · exact .inl hl
    · exact hknows l hl
    · cases hl
  lease := fun l hl => .inl hl
  claimed := fun l hl => by cases hl.2

theorem moves_free (hkeys : pod'.lockKey = pod.lockKey ∧ pod'.flagKey = pod.flagKey)
    (hslash : EtcdClient.startsWith pod'.manager.masterLockKey "/" = true)
    (hrole : pod'.manager.currentRole = .standby) (hlease : pod'.leaseId? = none)
    (hphase : pod'.phase = .looping ∨ pod'.phase = .ended) (hcall : pod'.call = .idle) : pod.Moves pod' where
  keys := hkeys
  sound := {
    slash := hslash
    role := by simp [hrole, hlease]
    phase := by rcases hphase with h | h <;> rw [h] <;> trivial
    sent := fun request he => by rw [hcall] at he; cases he
    answered := fun answer he => by rw [hcall] at he; cases he }
  knows := by
    rintro l (hl | hl | hl)
    · rw [hlease] at hl
      cases hl
    · rcases hphase with h | h <;> rw [h] at hl <;> cases hl
    · rw [hcall] at hl
      cases hl
  lease := fun l hl => by rw [hlease] at hl; cases hl
  claimed := fun l hl => by cases hcall.symm.trans hl.2

theorem Sound.finish_refused (h : pod.Sound) (hlease : pod.leaseId? = none) {lock : LockAnswers}
    (hlock : lock.acquire = none) (renew : RenewAnswers) : pod.finish lock renew = pod.goTo .looping := by
  unfold finish
  rw [StandbyManager.iterate_refused (h.standby hlease) hlock]
  rfl

theorem Sound.moves_released (h : pod.Sound) (hlease : pod.leaseId? = some l) (lock : LockAnswers) {renew : RenewAnswers}
    (hrenew : renew.keepAlive = none) : pod.Moves (pod.finish lock renew) := by
  have hiterate := StandbyManager.iterate_released h.slash (h.master hlease) hlease { lock := lock, renew := renew } hrenew
  unfold finish
  rw [hiterate]
  exact moves_free ⟨rfl, rfl⟩ h.slash rfl (Dict.get?_erase_self ..) (.inl rfl) rfl

theorem Sound.begin_cases (h : pod.Sound) : pod.begin = pod ∨ ∃ phase, pod.begin = pod.goTo phase ∧ pod.PhaseOk phase ∧
    phase ≠ .flagging ∧ ∀ l, phase.leaseId? = some l → pod.leaseId? = some l := by
  unfold begin
  split
  · split
    · split
      · rename_i leaseId _ hlease
        exact .inr ⟨_, rfl, hlease, by simp, fun l hl => hlease.trans hl⟩
      · rename_i hmaster hlease
        have hrole := h.standby hlease
        simp [StandbyManager.isMaster, hrole] at hmaster
      · exact .inr ⟨_, rfl, trivial, by simp, fun l hl => by cases hl⟩
    · split
      · rename_i leaseId _ hlease
        exact .inr ⟨_, rfl, hlease, by simp, fun l hl => hlease.trans hl⟩
      · rename_i hlease
        split
        · rename_i hmax
          exact .inr ⟨_, rfl, ⟨hlease, hmax⟩, by simp, fun l hl => by cases hl⟩
        · exact .inl rfl
      · rename_i hmaster hlease
        have hrole := h.standby hlease
        simp [StandbyManager.isMaster, hrole] at hmaster
      · rename_i leaseId hmaster hlease
        have hrole := h.master hlease
        simp [StandbyManager.isMaster, hrole] at hmaster
  · exact .inl rfl

theorem Sound.moves_begin (h : pod.Sound) : pod.Moves pod.begin := by
  rcases h.begin_cases with he | ⟨phase, he, hok, -, hlease⟩ <;> rw [he]
  · exact ⟨⟨rfl, rfl⟩, h, fun _ hl => hl, fun _ hl => .inl hl, fun _ hl => hl⟩
  · exact h.moves_goTo hok fun l hl => .inl (hlease l hl)

theorem Sound.moves_acquired (h : pod.Sound) (hphase : pod.phase = .claiming l)
    (hcall : pod.call = .answered (.lease (.claimed true))) : pod.Moves { pod with
      manager := (pod.manager.tryBecomeMaster false ⟨some l, some true⟩).2, phase := .reporting, call := .idle } := by
  have hok := h.phase
  rw [hphase] at hok
  rw [StandbyManager.tryBecomeMaster_acquired hok.2 hok.1]
  have hlease : StandbyPod.leaseId? { pod with
      manager := { pod.manager with
        etcdClient := { pod.manager.etcdClient with leases := pod.manager.etcdClient.leases.set pod.lockKey l }
        currentRole := .master }
      phase := .reporting
      call := .idle } = some l := Dict.get?_set_self ..
  refine ⟨⟨rfl, rfl⟩, ⟨h.slash, ?_, trivial, fun _ he => (by cases he), fun _ he => (by cases he)⟩, ?_, ?_, ?_⟩
  · exact iff_of_true rfl (Option.isSome_iff_exists.2 ⟨l, hlease⟩)
  · rintro l' (hl | hl | hl)
    · refine .inr (.inl ?_)
      rw [hphase]
      exact hlease.symm.trans hl
    · cases hl
    · cases hl
  · intro l' hl
    obtain rfl : l = l' := by simpa using hlease.symm.trans hl
    exact .inr ⟨hphase, hcall⟩
  · intro l' hl
    cases hl.2

theorem Sound.moves_resume (h : pod.Sound) (hrequest : pod.request.isSome = true) {answer : Option EtcdAnswer}
    (hanswer : ∀ a, answer = some a → pod.call = .answered a) : pod.Moves (pod.resume answer) := by
  have hok := h.phase
  unfold request at hrequest
  unfold resume
  cases hphase : pod.phase with
  | looping => simp [hphase] at hrequest
  | ended => simp [hphase] at hrequest
  | granting =>
      rw [hphase] at hok
      dsimp only
      split
      · rename_i leaseId
        refine h.moves_goTo hok fun l hl => .inr (.inr ?_)
        rw [hanswer _ rfl]
        cases hl
        rfl
      · rw [h.finish_refused hok.1 rfl]
        exact h.moves_goTo trivial fun l hl => by cases hl
  | claiming leaseId =>
      rw [hphase] at hok
      dsimp only
      split
      · exact h.moves_acquired hphase (hanswer _ rfl)
      · exact h.moves_goTo hok.1 fun l hl => .inr (.inl (by rw [hphase]; exact hl))
  | abandoning leaseId =>
      rw [hphase] at hok
      dsimp only
      rw [h.finish_refused hok rfl]
      exact h.moves_goTo trivial fun l hl => by cases hl
  | reporting =>
      refine ⟨⟨rfl, rfl⟩, ⟨h.slash, h.role, trivial, fun _ he => (by cases he), fun _ he => (by cases he)⟩, ?_,
        fun l hl => .inl hl, fun l hl => by cases hl.2⟩
      rintro l (hl | hl | hl)
      · exact .inl hl
      · cases hl
      · cases hl
  | flagging => exact h.moves_goTo trivial fun l hl => by cases hl
  | renewing leaseId =>
      rw [hphase] at hok
      have hknows : ∀ l, (StandbyPhase.releasing leaseId).leaseId? = some l → pod.Knows l := fun l hl =>
        .inl (hok.trans hl)
      dsimp only
      split
      · split
        · exact h.moves_goTo hok hknows
        · exact h.moves_goTo trivial fun l hl => by cases hl
      · exact h.moves_goTo hok hknows
  | releasing leaseId =>
      rw [hphase] at hok
      exact h.moves_released hok _ rfl
  | closing leaseId =>
      rw [hphase] at hok
      have hlease : pod.manager.etcdClient.leases.get? (pod.manager.etcdClient.lockKeyOf pod.manager.masterLockKey) =
        some leaseId := hok
      simp only [LockClient.releaseLock, hlease]
      exact moves_free ⟨rfl, rfl⟩ h.slash rfl (Dict.get?_erase_self ..) (.inr rfl) rfl

theorem Sound.moves_send (h : pod.Sound) {request : EtcdRequest} (hrequest : pod.request = some request) :
    pod.Moves { pod with call := .sent request } where
  keys := ⟨rfl, rfl⟩
  sound := {
    slash := h.slash
    role := h.role
    phase := h.phase
    sent := fun request' he => by cases he; exact hrequest
    answered := fun answer he => by cases he }
  knows := by
    rintro l (hl | hl | hl)
    · exact .inl hl
    · exact .inr (.inl hl)
    · cases hl
  lease := fun l hl => .inl hl
  claimed := fun l hl => by cases hl.2

theorem Sound.moves_stop (h : pod.Sound) : pod.Moves { pod with stopped := true } :=
  ⟨⟨rfl, rfl⟩, ⟨h.slash, h.role, h.phase, h.sent, h.answered⟩, fun _ hl => hl, fun _ hl => .inl hl, fun _ hl => hl⟩

theorem Sound.moves_restart (h : pod.Sound) : pod.Moves pod.restart := moves_free ⟨rfl, rfl⟩ h.slash rfl rfl (.inl rfl) rfl

theorem not_knows (hlease : pod.leaseId? = none) (hphase : pod.phase = .looping ∨ pod.phase = .ended)
    (hcall : pod.call = .idle) : ¬ pod.Knows l := by
  rintro (hl | hl | hl)
  · rw [hlease] at hl
    cases hl
  · rcases hphase with h | h <;> rw [h] at hl <;> cases hl
  · cases hcall.symm.trans hl

theorem Sound.forgets (h : pod.Sound) (hcall : pod.call = .sent (.lease (.revoke l))) (l' : Int) :
    ¬ (pod.resume none).Knows l' := by
  have hrequest := h.sent _ hcall
  have hok := h.phase
  unfold request at hrequest
  unfold resume
  cases hphase : pod.phase with
  | abandoning leaseId =>
      rw [hphase] at hok
      dsimp only
      rw [h.finish_refused hok rfl]
      exact not_knows hok (.inl rfl) rfl
  | releasing leaseId =>
      rw [hphase] at hok
      have hiterate := StandbyManager.iterate_released h.slash (h.master hok) hok
        { lock := ⟨none, none⟩, renew := { keepAlive := none, revoked := false } } rfl
      simp only [finish, reduceCtorEq, decide_false]
      rw [hiterate]
      exact not_knows (Dict.get?_erase_self ..) (.inl rfl) rfl
  | closing leaseId =>
      rw [hphase] at hok
      have hlease : pod.manager.etcdClient.leases.get? (pod.manager.etcdClient.lockKeyOf pod.manager.masterLockKey) =
        some leaseId := hok
      simp only [LockClient.releaseLock, hlease]
      exact not_knows (Dict.get?_erase_self ..) (.inr rfl) rfl
  | looping => simp [hphase] at hrequest
  | granting => simp [hphase] at hrequest
  | claiming leaseId => simp [hphase] at hrequest
  | reporting => simp [hphase] at hrequest
  | flagging => simp [hphase] at hrequest
  | renewing leaseId => simp [hphase] at hrequest
  | ended => simp [hphase] at hrequest

theorem not_knows_restart (pod : StandbyPod) (l : Int) : ¬ pod.restart.Knows l := not_knows rfl (.inl rfl) rfl

theorem Sound.phase_of_revoke (h : pod.Sound) (hcall : pod.call = .sent (.lease (.revoke l))) :
    pod.phase = .abandoning l ∨ pod.phase = .releasing l ∨ pod.phase = .closing l := by
  have hrequest := h.sent _ hcall
  unfold request at hrequest
  cases hphase : pod.phase <;> simp_all

theorem Sound.phase_of_keepAlive (h : pod.Sound) (hcall : pod.call = .sent (.lease (.keepAlive l))) :
    pod.phase = .renewing l := by
  have hrequest := h.sent _ hcall
  unfold request at hrequest
  cases hphase : pod.phase <;> simp_all

theorem Sound.knows_of_revoke (h : pod.Sound) (hcall : pod.call = .sent (.lease (.revoke l))) : pod.Knows l := by
  refine .inr (.inl ?_)
  rcases h.phase_of_revoke hcall with hphase | hphase | hphase <;> rw [hphase] <;> rfl

/-! ### Leases that are kept -/

theorem Sound.keeps_begin (h : pod.Sound) : pod.begin.manager = pod.manager := by
  rcases h.begin_cases with he | ⟨phase, he, -⟩ <;> rw [he]
  rfl

theorem Sound.keeps_resume (h : pod.Sound) (hlease : pod.leaseId? = some l) (hleaves : ¬ pod.Leaves)
    (answer : Option EtcdAnswer) :
    (pod.resume answer).leaseId? = some l ∧ (pod.resume answer).manager.currentRole = .master := by
  have hrole := h.master hlease
  have hok := h.phase
  unfold resume
  cases hphase : pod.phase with
  | looping => exact ⟨hlease, hrole⟩
  | ended => exact ⟨hlease, hrole⟩
  | granting =>
      rw [hphase] at hok
      cases hok.1.symm.trans hlease
  | claiming leaseId =>
      rw [hphase] at hok
      cases hok.1.symm.trans hlease
  | abandoning leaseId =>
      rw [hphase] at hok
      cases hok.symm.trans hlease
  | reporting => exact ⟨hlease, hrole⟩
  | flagging => exact ⟨hlease, hrole⟩
  | renewing leaseId =>
      dsimp only
      split
      · split <;> exact ⟨hlease, hrole⟩
      · exact ⟨hlease, hrole⟩
  | releasing leaseId => exact absurd ⟨leaseId, .inl hphase⟩ hleaves
  | closing leaseId => exact absurd ⟨leaseId, .inr hphase⟩ hleaves

end StandbyPod

/-! ## The cluster -/

namespace StandbyCluster

variable {P : Type} {c : StandbyCluster P} {p q : P} {l : Int}

/-- What every event keeps. -/
structure Consistent (c : StandbyCluster P) : Prop where
  sound : ∀ p, (c.pods p).Sound
  granted : ∀ p l, (c.pods p).Knows l → l ≤ c.etcd.locks.granted
  unique : ∀ p q l, (c.pods p).Knows l → (c.pods q).Knows l → p = q
  held : ∀ p l, (c.pods p).leaseId? = some l → c.etcd.locks.Live l → c.etcd.locks.Attached (c.pods p).txnKey l
  claimed : ∀ p l, (c.pods p).Claimed l → c.etcd.locks.Live l → c.etcd.locks.Attached (c.pods p).txnKey l
  late : ∀ l, .lease (.revoke l) ∈ c.late → c.Orphan l

theorem Consistent.congr {c' : StandbyCluster P} (h : c.Consistent) (hpods : c'.pods = c.pods)
    (hlocks : c'.etcd.locks = c.etcd.locks) (hlate : c'.late = c.late) : c'.Consistent := by
  constructor
  · rw [hpods]
    exact h.sound
  · rw [hpods, hlocks]
    exact h.granted
  · rw [hpods]
    exact h.unique
  · rw [hpods, hlocks]
    exact h.held
  · rw [hpods, hlocks]
    exact h.claimed
  · unfold Orphan
    rw [hpods, hlocks, hlate]
    exact h.late

/-- Another state of the locks. -/
def withLocks (c : StandbyCluster P) (e : LeaseEvent String) : StandbyCluster P :=
  { c with etcd := { c.etcd with locks := c.etcd.locks.step e } }

theorem Consistent.locks (h : c.Consistent) (e : LeaseEvent String) : (c.withLocks e).Consistent where
  sound := h.sound
  granted := fun q l hl => Int.le_trans (h.granted q l hl) (c.etcd.locks.granted_le_step e)
  unique := h.unique
  held := fun q l hl hlive => by
    have hold := LeaseServer.live_of_step (h.granted q l (.inl hl)) hlive
    exact LeaseServer.attached_step (h.held q l hl hold) hlive
  claimed := fun q l hl hlive => by
    have hknows : (c.pods q).Knows l := .inr (.inl (congrArg StandbyPhase.leaseId? hl.1))
    have hold := LeaseServer.live_of_step (h.granted q l hknows) hlive
    exact LeaseServer.attached_step (h.claimed q l hl hold) hlive
  late := fun l hl => ⟨Int.le_trans (h.late l hl).1 (c.etcd.locks.granted_le_step e), (h.late l hl).2⟩

theorem Consistent.withLate (h : c.Consistent) {late : List EtcdRequest}
    (hlate : ∀ l, .lease (.revoke l) ∈ late → .lease (.revoke l) ∈ c.late ∨ c.Orphan l) :
    Consistent { c with late := late } :=
  ⟨h.sound, h.granted, h.unique, h.held, h.claimed, fun l hl => (hlate l hl).elim (h.late l) id⟩

/-! ### Events -/

variable [DecidableEq P]

@[simp] theorem setPod_self (c : StandbyCluster P) (p : P) (pod : StandbyPod) : (c.setPod p pod).pods p = pod :=
  Function.update_self ..

theorem setPod_ne (c : StandbyCluster P) (h : q ≠ p) (pod : StandbyPod) : (c.setPod p pod).pods q = c.pods q :=
  Function.update_of_ne h ..

theorem moves_setPod {pod : StandbyPod} (hsound : ∀ q, (c.pods q).Sound) (hm : (c.pods p).Moves pod) (q : P) :
    (c.pods q).Moves ((c.setPod p pod).pods q) := by
  by_cases hq : q = p
  · subst hq
    rw [setPod_self]
    exact hm
  · rw [setPod_ne c hq]
    exact ⟨⟨rfl, rfl⟩, hsound q, fun _ hl => hl, fun _ hl => .inl hl, fun _ hl => hl⟩

theorem Consistent.move (h : c.Consistent) {pod : StandbyPod} (hm : (c.pods p).Moves pod) :
    (c.setPod p pod).Consistent := by
  have hmoves := moves_setPod h.sound hm
  have htxn : ∀ q, ((c.setPod p pod).pods q).txnKey = (c.pods q).txnKey := fun q =>
    congrArg ("/locks/" ++ ·) (hmoves q).keys.1
  refine ⟨fun q => (hmoves q).sound, fun q l hl => h.granted q l ((hmoves q).knows l hl), ?_, ?_, ?_, ?_⟩
  · intro q r l hq hr
    exact h.unique q r l ((hmoves q).knows l hq) ((hmoves r).knows l hr)
  · intro q l hl hlive
    rw [htxn q]
    rcases (hmoves q).lease l hl with hl | hl
    · exact h.held q l hl hlive
    · exact h.claimed q l hl hlive
  · intro q l hl hlive
    rw [htxn q]
    exact h.claimed q l ((hmoves q).claimed l hl) hlive
  · intro l hl
    obtain ⟨hgranted, hknows⟩ := h.late l hl
    exact ⟨hgranted, fun q hq => hknows q ((hmoves q).knows l hq)⟩

theorem knows_answer (c : StandbyCluster P) (request : EtcdRequest)
    (hl : ((c.setPod p { c.pods p with call := .answered (c.etcd.serve request).1 }).pods q).Knows l) :
    (c.pods q).Knows l ∨
      q = p ∧ l = c.etcd.locks.granted + 1 ∧ (c.etcd.serve request).2.locks.granted = l := by
  by_cases hq : q = p
  · subst hq
    rw [setPod_self] at hl
    rcases hl with hl | hl | hl
    · exact .inl (.inl hl)
    · exact .inl (.inr (.inl hl))
    · rw [EtcdCall.answered.injEq] at hl
      cases request with
      | lease r =>
          obtain ⟨rfl, hgranted⟩ := LeaseServer.granted_of_serve (EtcdAnswer.lease.inj hl)
          exact .inr ⟨rfl, rfl, hgranted⟩
      | range key => cases hl
      | put key value => cases hl
  · rw [setPod_ne _ hq] at hl
    exact .inl hl

theorem Consistent.answer (h : c.Consistent) {r : LeaseRequest String} (hcall : (c.pods p).call = .sent (.lease r)) :
    ((c.withLocks (.request r)).setPod p { c.pods p with
      call := .answered (.lease (c.etcd.locks.serve r).1) }).Consistent := by
  have hlocks := h.locks (.request r)
  have hrequest := (h.sound p).sent _ hcall
  -- only the new lease is known where it was not known before
  have hknows : ∀ q l, (((c.withLocks (.request r)).setPod p { c.pods p with
      call := .answered (.lease (c.etcd.locks.serve r).1) }).pods q).Knows l → (c.pods q).Knows l ∨
        q = p ∧ l = c.etcd.locks.granted + 1 ∧ (c.etcd.locks.serve r).2.granted = l := fun q l =>
    knows_answer c (.lease r)
  refine ⟨fun q => ?_, fun q l hl => ?_, fun q q' l hq hq' => ?_, fun q l hl hlive => ?_, fun q l hl hlive => ?_,
    fun l hl => ?_⟩
  · by_cases hq : q = p
    · subst hq
      rw [setPod_self]
      exact ⟨(h.sound q).slash, (h.sound q).role, (h.sound q).phase, fun _ he => (by cases he), fun _ _ => (by
        show (c.pods q).request.isSome = true
        rw [hrequest]
        rfl)⟩
    · rw [setPod_ne _ hq]
      exact h.sound q
  · rcases hknows q l hl with hl | ⟨-, -, hgranted⟩
    · exact hlocks.granted q l hl
    · exact Int.le_of_eq hgranted.symm
  · rcases hknows q l hq with hold | ⟨rfl, rfl, -⟩
    · rcases hknows q' l hq' with hold' | ⟨rfl, rfl, -⟩
      · exact h.unique q q' l hold hold'
      · have hle := h.granted q _ hold
        omega
    · rcases hknows q' _ hq' with hold' | ⟨rfl, -, -⟩
      · have hle := h.granted q' _ hold'
        omega
      · rfl
  · by_cases hq : q = p
    · subst hq
      rw [setPod_self] at hl ⊢
      exact hlocks.held q l hl hlive
    · rw [setPod_ne _ hq] at hl ⊢
      exact hlocks.held q l hl hlive
  · by_cases hq : q = p
    · subst hq
      rw [setPod_self] at hl ⊢
      have hphase : (c.pods q).phase = .claiming l := hl.1
      have hclaimed : (c.etcd.locks.serve r).1 = .claimed true := by
        have hanswer := hl.2
        rw [EtcdCall.answered.injEq, EtcdAnswer.lease.injEq] at hanswer
        exact hanswer
      have hr : r = .claim (c.pods q).txnKey l := by
        simpa [StandbyPod.request, hphase, eq_comm] using hrequest
      subst hr
      exact LeaseServer.attached_of_claimed hclaimed
    · rw [setPod_ne _ hq] at hl ⊢
      exact hlocks.claimed q l hl hlive
  · obtain ⟨hgranted, hforgot⟩ := h.late l hl
    refine ⟨(hlocks.late l hl).1, fun q hq => ?_⟩
    rcases hknows q l hq with hold | ⟨-, rfl, -⟩
    · exact hforgot q hold
    · omega

theorem Consistent.answerOther (h : c.Consistent) {request : EtcdRequest} (hcall : (c.pods p).call = .sent request)
    {answer : EtcdAnswer} (hanswer : ∀ a, answer ≠ .lease a) :
    (c.setPod p { c.pods p with call := .answered answer }).Consistent := by
  have hrequest := (h.sound p).sent _ hcall
  refine h.move ⟨⟨rfl, rfl⟩, ⟨(h.sound p).slash, (h.sound p).role, (h.sound p).phase, fun _ he => (by cases he), fun _ _ => (by
    show (c.pods p).request.isSome = true
    rw [hrequest]
    rfl)⟩, ?_, fun l hl => .inl hl, fun l hl => ?_⟩
  · rintro l (hl | hl | hl)
    · exact .inl hl
    · exact .inr (.inl hl)
    · rw [EtcdCall.answered.injEq] at hl
      exact absurd hl (hanswer _)
  · have he := hl.2
    rw [EtcdCall.answered.injEq] at he
    exact absurd he (hanswer _)

theorem Consistent.giveUp (h : c.Consistent) {pod : StandbyPod} (hm : (c.pods p).Moves pod)
    (hforgets : ∀ l, (c.pods p).call = .sent (.lease (.revoke l)) → ∀ l', ¬ pod.Knows l') :
    Consistent { c.setPod p pod with late := c.late ++ c.outstanding p } := by
  refine (h.move hm).withLate fun l hl => ?_
  rcases List.mem_append.1 hl with hl | hl
  · exact .inl hl
  · have hcall : (c.pods p).call = .sent (.lease (.revoke l)) := by
      unfold outstanding at hl
      split at hl
      · cases hl
      · rename_i hcall
        rw [hcall, List.mem_singleton.1 hl]
      · cases hl
    have hknown := (h.sound p).knows_of_revoke hcall
    refine .inr ⟨h.granted p l hknown, fun q hq => ?_⟩
    by_cases hqp : q = p
    · subst hqp
      rw [setPod_self] at hq
      exact hforgets l hcall l hq
    · rw [setPod_ne c hqp] at hq
      exact hqp (h.unique q p l hq hknown)

theorem step_cases (hsound : ∀ p, (c.pods p).Sound) (e : StandbyEvent P) :
    (∃ q pod, (c.pods q).Moves pod ∧ (c.step e).pods = (c.setPod q pod).pods ∧ (c.step e).etcd = c.etcd ∧
      ((c.step e).late = c.late ∨ (c.step e).late = c.late ++ c.outstanding q ∧
        ∀ l, (c.pods q).call = .sent (.lease (.revoke l)) → ∀ l', ¬ pod.Knows l')) ∨
    (∃ q request, (c.pods q).call = .sent request ∧ (c.step e).etcd = (c.etcd.serve request).2 ∧
      (c.step e).pods = (c.setPod q { c.pods q with call := .answered (c.etcd.serve request).1 }).pods ∧
      (c.step e).late = c.late) ∨
    ((c.step e).pods = c.pods ∧ (c.step e).late ⊆ c.late ∧
      ((c.step e).etcd.locks = c.etcd.locks ∨ ∃ ev, (c.step e).etcd.locks = c.etcd.locks.step ev)) := by
  have hidle : c.pods = c.pods ∧ c.late ⊆ c.late ∧
      (c.etcd.locks = c.etcd.locks ∨ ∃ ev, c.etcd.locks = c.etcd.locks.step ev) :=
    ⟨rfl, List.Subset.refl _, .inl rfl⟩
  cases e with
  | begin p => exact .inl ⟨p, _, (hsound p).moves_begin, rfl, rfl, .inl rfl⟩
  | send p =>
      simp only [step]
      split
      · rename_i hrequest
        exact .inl ⟨p, _, (hsound p).moves_send hrequest, rfl, rfl, .inl rfl⟩
      · exact .inr (.inr hidle)
  | serve p =>
      simp only [step]
      split
      · rename_i request hcall
        exact .inr (.inl ⟨p, request, hcall, rfl, rfl, rfl⟩)
      · exact .inr (.inr hidle)
  | receive p =>
      simp only [step]
      split
      · rename_i answer hcall
        refine .inl ⟨p, _, (hsound p).moves_resume ((hsound p).answered _ hcall) ?_, rfl, rfl, .inl rfl⟩
        intro a ha
        rw [← Option.some.inj ha]
        exact hcall
      · exact .inr (.inr hidle)
  | fail p =>
      simp only [step]
      split
      · exact .inr (.inr hidle)
      · rename_i request hcall
        have hrequest : (c.pods p).request.isSome = true := by rw [(hsound p).sent _ hcall]; rfl
        exact .inl ⟨p, _, (hsound p).moves_resume hrequest (fun a ha => by cases ha), rfl, rfl,
          .inr ⟨rfl, fun l hl => (hsound p).forgets hl⟩⟩
      · rename_i answer hcall
        exact .inl ⟨p, _, (hsound p).moves_resume ((hsound p).answered _ hcall) (fun a ha => by cases ha), rfl, rfl,
          .inl rfl⟩
  | raises p =>
      simp only [step]
      have hmove : (c.pods p).Moves ((c.pods p).goTo .looping) := (hsound p).moves_goTo trivial fun l hl => by cases hl
      split
      · exact .inl ⟨p, _, hmove, rfl, rfl, .inl rfl⟩
      · exact .inr (.inr hidle)
  | stop p => exact .inl ⟨p, _, (hsound p).moves_stop, rfl, rfl, .inl rfl⟩
  | crash p =>
      exact .inl ⟨p, _, (hsound p).moves_restart, rfl, rfl, .inr ⟨rfl, fun l _ => (c.pods p).not_knows_restart⟩⟩
  | deliver i =>
      simp only [step]
      split
      · rename_i request hlate
        refine .inr (.inr ⟨rfl, List.eraseIdx_subset, ?_⟩)
        cases request with
        | lease r => exact .inr ⟨.request r, rfl⟩
        | range key => exact .inl rfl
        | put key value => exact .inl rfl
      · exact .inr (.inr hidle)
  | expire l => exact .inr (.inr ⟨rfl, List.Subset.refl _, .inr ⟨.expire l, rfl⟩⟩)
  | tick => exact .inr (.inr ⟨rfl, List.Subset.refl _, .inr ⟨.tick, rfl⟩⟩)

theorem Consistent.step (h : c.Consistent) (e : StandbyEvent P) : (c.step e).Consistent := by
  rcases step_cases h.sound e with ⟨q, pod, hm, hpods, hetcd, hlate | ⟨hlate, hforgets⟩⟩ |
    ⟨q, request, hcall, hetcd, hpods, hlate⟩ | ⟨hpods, hlate, hlocks⟩
  · exact (h.move hm).congr hpods (congrArg EtcdServer.locks hetcd) hlate
  · exact (h.giveUp hm hforgets).congr hpods (congrArg EtcdServer.locks hetcd) hlate
  · have hserved := congrArg EtcdServer.locks hetcd
    cases request with
    | lease r => exact (h.answer hcall).congr hpods hserved hlate
    | range key => exact (h.answerOther hcall (by simp [EtcdServer.serve])).congr hpods hserved hlate
    | put key value => exact (h.answerOther hcall (by simp [EtcdServer.serve])).congr hpods hserved hlate
  · have hfewer : Consistent { c with late := (c.step e).late } := h.withLate fun l hl => .inl (hlate hl)
    rcases hlocks with hlocks | ⟨ev, hlocks⟩
    · exact hfewer.congr hpods hlocks rfl
    · exact (hfewer.locks ev).congr hpods hlocks rfl

omit [DecidableEq P] in
theorem consistent_start (store : Dict String String) {configs : P → StandbyPod}
    (hslash : ∀ p, EtcdClient.startsWith (configs p).manager.masterLockKey "/" = true) :
    (start store configs).Consistent := by
  have hfree : ∀ p l, ¬ ((start store configs).pods p).Knows l := fun p l =>
    StandbyPod.not_knows rfl (.inl rfl) rfl
  refine ⟨fun p => ?_, fun p l hl => absurd hl (hfree p l), fun p q l hl => absurd hl (hfree p l),
    fun p l hl => absurd (.inl hl) (hfree p l), fun p l hl => (by cases hl.2), fun l hl => (by cases hl)⟩
  exact ⟨hslash p, by simp [start, StandbyPod.restart, StandbyManager.start, StandbyPod.leaseId?], trivial,
    fun _ he => (by cases he), fun _ he => (by cases he)⟩

end StandbyCluster

end PyMotor
