import PyMotor.Lib.Run
import PyMotor.Standby.StandbyManager

/-!
# Role and lease
-/

namespace PyMotor

open Lib

/-! ## Locks -/

namespace LockClient

variable {c : LockClient} {lockKey : String}

theorem lockKeyOf_lockKeyOf (hslash : EtcdClient.startsWith lockKey "/" = true) :
    c.lockKeyOf (c.lockKeyOf lockKey) = c.lockKeyOf lockKey := by
  obtain ⟨rest, hrest⟩ := List.isPrefixOf_iff_prefix.1 hslash
  unfold lockKeyOf EtcdClient.getKeyWithNamespaceAndJobName
  by_cases hstart : EtcdClient.startsWith lockKey (c.podNamespace ++ "/" ++ c.jobName ++ "/") = true
  · rw [if_pos hstart, if_pos hstart]
  · rw [if_neg hstart]
    refine if_pos (List.isPrefixOf_iff_prefix.2 ⟨rest, ?_⟩)
    simp only [String.toList_append, List.append_assoc, hrest]

theorem acquireLock_cases (c : LockClient) (lockKey : String) (answers : LockAnswers) :
    c.acquireLock lockKey answers = (false, c) ∨ ∃ leaseId,
      c.acquireLock lockKey answers = (true, { c with leases := c.leases.set (c.lockKeyOf lockKey) leaseId }) := by
  unfold acquireLock
  split
  · exact .inl rfl
  · cases answers.acquire with
    | none => exact .inl rfl
    | some leaseId => exact .inr ⟨leaseId, rfl⟩

theorem renewLease_cases (hslash : EtcdClient.startsWith lockKey "/" = true)
    (hheld : c.leases.contains (c.lockKeyOf lockKey) = true) (answers : RenewAnswers) :
    c.renewLease lockKey answers = (true, c) ∨
      c.renewLease lockKey answers = (false, { c with leases := c.leases.erase (c.lockKeyOf lockKey) }) := by
  obtain ⟨leaseId, hget⟩ := Dict.contains_iff.1 hheld
  have hreleased : (c.releaseLock (c.lockKeyOf lockKey) answers.revoked).2 =
      { c with leases := c.leases.erase (c.lockKeyOf lockKey) } := by
    simp only [releaseLock, lockKeyOf_lockKeyOf hslash, hget]
  simp only [renewLease, hget, hreleased]
  cases answers.keepAlive with
  | none => exact .inr rfl
  | some newTtl =>
      dsimp only
      split
      · exact .inr rfl
      · exact .inl rfl

end LockClient

/-! ## Iterations -/

namespace StandbyManager

variable {m : StandbyManager}

/-- What the loop keeps: the lease follows the role, and so does the callback that comes next. -/
structure InStep (m : StandbyManager) : Prop where
  slash : EtcdClient.startsWith m.masterLockKey "/" = true
  lease : m.currentRole = .master ↔ m.HoldsLock
  next : m.callbacks.foldlM turn .master = some (if m.currentRole = .master then .standby else .master)

theorem foldlM_turn_append {role next : StandbyRole} {callbacks : List RoleCallback} {callback : RoleCallback}
    (h : callbacks.foldlM turn role = some next) :
    (callbacks ++ [callback]).foldlM turn role = turn next callback := by
  rw [List.foldlM_append, h]
  show ([callback].foldlM turn next : Option StandbyRole) = _
  simp

theorem tryBecomeMaster_cases (hrole : m.currentRole = .standby) (stopped : Bool) (answers : LockAnswers) :
    m.tryBecomeMaster stopped answers = (false, m) ∨ ∃ c, m.tryBecomeMaster stopped answers =
      (true, { m with etcdClient := c, currentRole := .master }) ∧
        c.leases.contains (c.lockKeyOf m.masterLockKey) = true := by
  have hself : m.setRole .standby = m := by
    rw [← hrole]
    rfl
  unfold tryBecomeMaster
  split
  · rcases m.etcdClient.acquireLock_cases m.masterLockKey answers with heq | ⟨leaseId, heq⟩
    · rw [heq]
      exact .inl (by rw [← hself]; rfl)
    · rw [heq]
      refine .inr ⟨_, rfl, ?_⟩
      exact Dict.contains_iff.2 ⟨leaseId, Dict.get?_set_self ..⟩
  · exact .inl rfl

theorem renewMasterLock_cases (h : m.InStep) (hrole : m.currentRole = .master) (answers : RenewAnswers) :
    m.renewMasterLock answers = (true, m) ∨ ∃ c, m.renewMasterLock answers = (false, { m with etcdClient := c }) ∧
      c.leases.contains (c.lockKeyOf m.masterLockKey) = false := by
  have hmaster : m.isMaster = true := by simp [isMaster, hrole]
  unfold renewMasterLock
  rw [if_pos hmaster]
  rcases LockClient.renewLease_cases h.slash (h.lease.1 hrole) answers with heq | heq
  · rw [heq]
    exact .inl rfl
  · rw [heq]
    refine .inr ⟨_, rfl, ?_⟩
    rw [Dict.contains_eq_false_iff]
    exact Dict.get?_erase_self ..

theorem InStep.iterate (h : m.InStep) (it : Iteration) : (m.iterate it).InStep := by
  unfold StandbyManager.iterate
  cases hrole : m.currentRole with
  | master =>
      have hnext := h.next
      rw [if_pos hrole] at hnext
      rw [if_pos (by simp [isMaster, hrole])]
      rcases renewMasterLock_cases h hrole it.renew with heq | ⟨c, heq, hlease⟩
      · rw [heq]
        exact h
      · rw [heq]
        refine ⟨h.slash, iff_of_false (fun he => (nomatch he)) ?_, foldlM_turn_append hnext⟩
        show ¬ c.leases.contains (c.lockKeyOf m.masterLockKey) = true
        rw [hlease]
        simp
  | standby =>
      have hnext := h.next
      rw [if_neg (by simp [hrole])] at hnext
      rw [if_neg (by simp [isMaster, hrole])]
      rcases tryBecomeMaster_cases hrole it.stopped it.lock with heq | ⟨c, heq, hlease⟩
      · rw [heq]
        exact h
      · rw [heq]
        exact ⟨h.slash, iff_of_true rfl hlease, foldlM_turn_append hnext⟩

theorem inStep_start (c : EtcdClient) {masterLockKey : String} (maxLockFailures : Nat)
    (hslash : EtcdClient.startsWith masterLockKey "/" = true) : (start c masterLockKey maxLockFailures).InStep :=
  ⟨hslash, iff_of_false (fun he => (nomatch he)) (fun he => (nomatch he)), rfl⟩

theorem InStep.canCompete (h : m.InStep) : m.CanCompete := by
  intro hrole hmax it hstopped hlock
  have hfree : m.etcdClient.leases.contains (m.etcdClient.lockKeyOf m.masterLockKey) = false := by
    rw [Bool.eq_false_iff]
    intro hheld
    rw [h.lease.2 hheld] at hrole
    cases hrole
  obtain ⟨leaseId, hacquire⟩ := Option.isSome_iff_exists.1 hlock
  have hacquired : m.tryBecomeMaster it.stopped it.lock = (true, { m with
      etcdClient := { m.etcdClient with
        leases := m.etcdClient.leases.set (m.etcdClient.lockKeyOf m.masterLockKey) leaseId }
      currentRole := .master }) := by
    unfold tryBecomeMaster LockClient.acquireLock
    simp [hmax, hstopped, hfree, hacquire, setRole]
  unfold StandbyManager.iterate
  rw [if_neg (by simp [isMaster, hrole]), hacquired]
  rfl

/-! ## The loop -/

/-- After every iteration the pod is master exactly when it holds the lease, a standby can become master again, and the
callbacks take turns. The key of the lock starts with a slash. -/
theorem role_follows_lease (c : EtcdClient) (masterLockKey : String) (maxLockFailures : Nat)
    (hslash : EtcdClient.startsWith masterLockKey "/" = true) (its : List Iteration) :
    let m := run iterate (start c masterLockKey maxLockFailures) its
    (m.currentRole = .master ↔ m.HoldsLock) ∧ m.CanCompete ∧ TakeTurns m.callbacks := by
  have hstep := run_invariant' (I := InStep) (fun _ it h => h.iterate it) (inStep_start c maxLockFailures hslash) its
  exact ⟨hstep.lease, hstep.canCompete, by simp [TakeTurns, hstep.next]⟩

def lockedIteration (keepAlive : Option Int) (revoked : Bool) : Iteration :=
  { lock := { leaseGrant := some 7, txn := some true }, renew := { keepAlive := keepAlive, revoked := revoked } }

theorem role_follows_lease_expired :
    let m := run iterate (start ⟨"ns", "job"⟩ "/coordinator/master_lock" 3)
      [lockedIteration (some 10) true, lockedIteration (some 0) false, lockedIteration none true]
    (m.currentRole = .master ↔ m.HoldsLock) ∧ m.CanCompete ∧ TakeTurns m.callbacks :=
  role_follows_lease ⟨"ns", "job"⟩ "/coordinator/master_lock" 3 (by decide) _

end StandbyManager

end PyMotor
