import PyMotor.Lib.Dict
import PyMotor.Lib.Run

/-!
# Leases

A server grants leases and keeps keys, each attached to a lease. A lease ends when it is revoked or expires, at any
time; its keys are removed with it and it does not come back. A key is given only to a lease that lives, and only while
it is absent.
-/

namespace PyMotor.Lib

structure Lease where
  ttl : Nat
  deadline : Nat
deriving DecidableEq

/-- Leases are numbered from one on as they are granted. -/
structure LeaseServer (K : Type) [DecidableEq K] where
  granted : Int
  now : Nat
  leases : Dict Int Lease
  keys : Dict K Int
  numbered : ∀ l, leases.contains l = true → l ≤ granted
  attached : ∀ k l, keys.get? k = some l → leases.contains l = true

inductive LeaseRequest (K : Type)
  | grant (ttl : Nat)
  | claim (key : K) (lease : Int)
  | keepAlive (lease : Int)
  | revoke (lease : Int)
deriving DecidableEq

/-- What a request gives back; a lease that does not live is an error, but its renewal has a TTL of zero. -/
inductive LeaseAnswer
  | granted (lease : Int)
  | claimed (succeeded : Bool)
  | renewed (ttl : Nat)
  | revoked
  | leaseNotFound
deriving DecidableEq

inductive LeaseEvent (K : Type)
  | request (request : LeaseRequest K)
  | expire (lease : Int)
  | tick

namespace LeaseServer

variable {K : Type} [DecidableEq K]

def initial : LeaseServer K where
  granted := 0
  now := 0
  leases := Dict.empty
  keys := Dict.empty
  numbered := fun l h => absurd h (by simp [Dict.contains])
  attached := fun k l h => absurd h (by simp)

variable (s : LeaseServer K)

def Live (l : Int) : Prop := s.leases.contains l = true

instance (l : Int) : Decidable (s.Live l) := inferInstanceAs (Decidable (_ = true))

def Attached (k : K) (l : Int) : Prop := s.keys.get? k = some l

instance (k : K) (l : Int) : Decidable (s.Attached k l) := inferInstanceAs (Decidable (_ = some l))

/-- Leases end when they are due. -/
def Punctual : Prop := ∀ l lease, s.leases.get? l = some lease → s.now ≤ lease.deadline

/-! ## Requests -/

def grant (ttl : Nat) : LeaseServer K where
  granted := s.granted + 1
  now := s.now
  leases := s.leases.set (s.granted + 1) ⟨ttl, s.now + ttl⟩
  keys := s.keys
  numbered := fun l h => by
    rcases Dict.contains_set.1 h with rfl | hl
    · exact Int.le_refl _
    · have hle := s.numbered l hl
      omega
  attached := fun k l h => Dict.contains_set.2 (.inr (s.attached k l h))

/-- The lease lives. -/
def attach (k : K) (l : Int) (hl : s.Live l) : LeaseServer K where
  granted := s.granted
  now := s.now
  leases := s.leases
  keys := s.keys.set k l
  numbered := s.numbered
  attached := fun k' l' h => by
    by_cases hk : k' = k
    · subst hk
      rw [Dict.get?_set_self, Option.some.injEq] at h
      exact h ▸ hl
    · rw [Dict.get?_set_ne hk] at h
      exact s.attached k' l' h

def renew (l : Int) (lease : Lease) (hl : s.leases.get? l = some lease) : LeaseServer K where
  granted := s.granted
  now := s.now
  leases := s.leases.set l { lease with deadline := s.now + lease.ttl }
  keys := s.keys
  numbered := fun l' h => by
    rcases Dict.contains_set.1 h with rfl | hl'
    · exact s.numbered l' (Dict.contains_iff.2 ⟨lease, hl⟩)
    · exact s.numbered l' hl'
  attached := fun k l' h => Dict.contains_set.2 (.inr (s.attached k l' h))

/-- The lease ends, and its keys are removed. -/
def drop (l : Int) : LeaseServer K where
  granted := s.granted
  now := s.now
  leases := s.leases.erase l
  keys := s.keys.filterKeys fun k => decide (s.keys.get? k ≠ some l)
  numbered := fun l' h => by
    rw [Dict.contains, Dict.get?_erase] at h
    split at h
    · exact absurd h (by simp)
    · exact s.numbered l' h
  attached := fun k l' h => by
    rw [Dict.get?_filterKeys] at h
    split at h
    · rename_i hk
      have hne : l' ≠ l := by
        rintro rfl
        exact (of_decide_eq_true hk) h
      rw [Dict.contains, Dict.get?_erase_ne hne]
      exact s.attached k l' h
    · cases h

def serve : LeaseRequest K → LeaseAnswer × LeaseServer K
  | .grant ttl => (.granted (s.granted + 1), s.grant ttl)
  | .claim k l =>
    if s.keys.contains k then (.claimed false, s)
    else if hl : s.Live l then (.claimed true, s.attach k l hl)
    else (.leaseNotFound, s)
  | .keepAlive l =>
    match hl : s.leases.get? l with
    | some lease => (.renewed lease.ttl, s.renew l lease hl)
    | none => (.renewed 0, s)
  | .revoke l => if s.Live l then (.revoked, s.drop l) else (.leaseNotFound, s)

def step : LeaseEvent K → LeaseServer K
  | .request r => (s.serve r).2
  | .expire l => s.drop l
  | .tick => { s with now := s.now + 1 }

/-! ## What a step changes -/

section Steps

variable {s : LeaseServer K} {k : K} {l : Int} {e : LeaseEvent K}

theorem live_iff : s.Live l ↔ ∃ lease, s.leases.get? l = some lease := Dict.contains_iff

theorem live_grant {ttl : Nat} : (s.grant ttl).Live l ↔ l = s.granted + 1 ∨ s.Live l := Dict.contains_set

theorem live_renew {l' : Int} {lease : Lease} (hl : s.leases.get? l' = some lease) :
    (s.renew l' lease hl).Live l ↔ s.Live l := by
  refine Dict.contains_set.trans (or_iff_right_of_imp ?_)
  rintro rfl
  exact live_iff.2 ⟨lease, hl⟩

theorem live_drop {l' : Int} : (s.drop l').Live l ↔ l ≠ l' ∧ s.Live l := by
  show (s.leases.erase l').contains l = true ↔ _
  rw [Dict.contains, Dict.get?_erase]
  by_cases h : l = l'
  · simp [h]
  · simp [h, Live, Dict.contains]

theorem attached_drop {l' : Int} : (s.drop l').Attached k l ↔ l ≠ l' ∧ s.Attached k l := by
  show (s.keys.filterKeys _).get? k = some l ↔ _
  rw [Dict.get?_filterKeys]
  by_cases h : s.keys.get? k = some l'
  · simp only [h, ne_eq, not_true_eq_false, decide_false, Bool.false_eq_true, if_false, Attached, Option.some.injEq]
    constructor
    · intro he
      cases he
    · rintro ⟨hne, rfl⟩
      exact absurd rfl hne
  · rw [if_pos (decide_eq_true h)]
    refine (and_iff_right_of_imp ?_).symm
    rintro hl rfl
    exact h hl

theorem free_drop (h : s.Attached k l) : (s.drop l).keys.get? k = none := by
  show (s.keys.filterKeys _).get? k = none
  rw [Dict.get?_filterKeys, if_neg]
  simpa [Attached] using h

/-- What a request does: it grants a lease, attaches an absent key, renews or ends a live lease, or changes nothing. -/
theorem serve_cases (s : LeaseServer K) (r : LeaseRequest K) :
    (∃ ttl, r = .grant ttl ∧ s.serve r = (.granted (s.granted + 1), s.grant ttl)) ∨
    (∃ k l, ∃ hl : s.Live l, r = .claim k l ∧ s.keys.get? k = none ∧ s.serve r = (.claimed true, s.attach k l hl)) ∨
    (∃ l lease, ∃ hl : s.leases.get? l = some lease,
      r = .keepAlive l ∧ s.serve r = (.renewed lease.ttl, s.renew l lease hl)) ∨
    (∃ l, r = .revoke l ∧ s.serve r = (.revoked, s.drop l)) ∨
    ((∀ l, (s.serve r).1 ≠ .granted l) ∧ (s.serve r).1 ≠ .claimed true ∧ (s.serve r).2 = s) := by
  cases r with
  | grant ttl => exact .inl ⟨ttl, rfl, rfl⟩
  | claim k l =>
      refine .inr ?_
      simp only [serve]
      split
      · exact .inr (.inr (.inr ⟨fun l => by simp, by simp, rfl⟩))
      · rename_i hk
        split
        · rename_i hl
          exact .inl ⟨k, l, hl, rfl, Dict.contains_eq_false_iff.1 (Bool.eq_false_iff.2 hk), rfl⟩
        · exact .inr (.inr (.inr ⟨fun l => by simp, by simp, rfl⟩))
  | keepAlive l =>
      refine .inr (.inr ?_)
      simp only [serve]
      split
      · rename_i lease hl
        exact .inl ⟨l, lease, hl, rfl, rfl⟩
      · exact .inr (.inr ⟨fun l => by simp, by simp, rfl⟩)
  | revoke l =>
      refine .inr (.inr (.inr ?_))
      simp only [serve]
      split
      · exact .inl ⟨l, rfl, rfl⟩
      · exact .inr ⟨fun l => by simp, by simp, rfl⟩

theorem granted_le_step (s : LeaseServer K) (e : LeaseEvent K) : s.granted ≤ (s.step e).granted := by
  cases e with
  | request r =>
      show s.granted ≤ (s.serve r).2.granted
      rcases serve_cases s r with ⟨ttl, -, h⟩ | ⟨k, l, hl, -, -, h⟩ | ⟨l, lease, hl, -, h⟩ | ⟨l, -, h⟩ | ⟨-, -, h⟩ <;> rw [h]
      · show s.granted ≤ s.granted + 1
        omega
      all_goals exact Int.le_refl _
  | expire l => exact Int.le_refl _
  | tick => exact Int.le_refl _

/-- A lease that has been granted and does not live has ended for ever. -/
theorem live_of_step (hgranted : l ≤ s.granted) (h : (s.step e).Live l) : s.Live l := by
  cases e with
  | request r =>
      replace h : (s.serve r).2.Live l := h
      rcases serve_cases s r with ⟨ttl, -, he⟩ | ⟨k, l', hl, -, -, he⟩ | ⟨l', lease, hl, -, he⟩ | ⟨l', -, he⟩ |
        ⟨-, -, he⟩ <;> rw [he] at h
      · rcases live_grant.1 h with rfl | hl
        · omega
        · exact hl
      · exact h
      · exact (live_renew hl).1 h
      · exact (live_drop.1 h).2
      · exact h
  | expire l' => exact (live_drop.1 h).2
  | tick => exact h

theorem live_step (h : s.Live l) (hrevoke : e ≠ .request (.revoke l)) (hexpire : e ≠ .expire l) : (s.step e).Live l := by
  cases e with
  | request r =>
      show (s.serve r).2.Live l
      rcases serve_cases s r with ⟨ttl, -, he⟩ | ⟨k, l', hl, -, -, he⟩ | ⟨l', lease, hl, -, he⟩ | ⟨l', rfl, he⟩ |
        ⟨-, -, he⟩ <;> rw [he]
      · exact live_grant.2 (.inr h)
      · exact h
      · exact (live_renew hl).2 h
      · refine live_drop.2 ⟨?_, h⟩
        rintro rfl
        exact hrevoke rfl
      · exact h
  | expire l' =>
      refine live_drop.2 ⟨?_, h⟩
      rintro rfl
      exact hexpire rfl
  | tick => exact h

/-- A key stays attached to its lease as long as this lives. -/
theorem attached_step (h : s.Attached k l) (hlive : (s.step e).Live l) : (s.step e).Attached k l := by
  cases e with
  | request r =>
      replace hlive : (s.serve r).2.Live l := hlive
      show (s.serve r).2.Attached k l
      rcases serve_cases s r with ⟨ttl, -, he⟩ | ⟨k', l', hl, -, habsent, he⟩ | ⟨l', lease, hl, -, he⟩ | ⟨l', -, he⟩ |
        ⟨-, -, he⟩ <;> rw [he] at hlive ⊢
      · exact h
      · refine (Dict.get?_set_ne ?_).trans h
        rintro rfl
        rw [h] at habsent
        cases habsent
      · exact h
      · exact attached_drop.2 ⟨(live_drop.1 hlive).1, h⟩
      · exact h
  | expire l' => exact attached_drop.2 ⟨(live_drop.1 hlive).1, h⟩
  | tick => exact h

/-- Only a renewal moves the deadline of a lease. -/
theorem lease_step (hgranted : l ≤ s.granted) (hlive : (s.step e).Live l) (hrenew : e ≠ .request (.keepAlive l)) :
    (s.step e).leases.get? l = s.leases.get? l := by
  cases e with
  | request r =>
      replace hlive : (s.serve r).2.Live l := hlive
      show (s.serve r).2.leases.get? l = _
      rcases serve_cases s r with ⟨ttl, -, he⟩ | ⟨k', l', hl, -, -, he⟩ | ⟨l', lease, hl, rfl, he⟩ | ⟨l', -, he⟩ |
        ⟨-, -, he⟩ <;> rw [he] at hlive ⊢
      · exact Dict.get?_set_ne (by omega)
      · rfl
      · refine Dict.get?_set_ne ?_
        rintro rfl
        exact hrenew rfl
      · exact Dict.get?_erase_ne (live_drop.1 hlive).1
  | expire l' => exact Dict.get?_erase_ne (live_drop.1 hlive).1
  | tick => rfl

theorem serve_claim (habsent : s.keys.get? k = none) (hl : s.Live l) :
    s.serve (.claim k l) = (.claimed true, s.attach k l hl) := by
  have hk : ¬ s.keys.contains k = true := by
    rw [Dict.contains_eq_false_iff.2 habsent]
    exact Bool.false_ne_true
  simp only [serve, if_neg hk, dif_pos hl]

/-- The key of a claim that succeeds is attached. -/
theorem attached_of_claimed (h : (s.serve (.claim k l)).1 = .claimed true) : (s.serve (.claim k l)).2.Attached k l := by
  rcases serve_cases s (.claim k l) with ⟨ttl, he, -⟩ | ⟨k', l', hl, he, -, hs⟩ | ⟨l', lease, hl, he, -⟩ | ⟨l', he, -⟩ |
    ⟨-, hne, -⟩
  · cases he
  · cases he
    rw [hs]
    exact Dict.get?_set_self ..
  · cases he
  · cases he
  · exact absurd h hne

theorem free_of_claimed (h : (s.serve (.claim k l)).1 = .claimed true) : s.keys.get? k = none ∧ s.Live l := by
  rcases serve_cases s (.claim k l) with ⟨ttl, he, -⟩ | ⟨k', l', hl, he, hfree, -⟩ | ⟨l', lease, hl, he, -⟩ | ⟨l', he, -⟩ |
    ⟨-, hne, -⟩
  · cases he
  · cases he
    exact ⟨hfree, hl⟩
  · cases he
  · cases he
  · exact absurd h hne

/-- A lease is new when it is granted. -/
theorem granted_of_serve {r : LeaseRequest K} (h : (s.serve r).1 = .granted l) :
    l = s.granted + 1 ∧ (s.serve r).2.granted = s.granted + 1 := by
  rcases serve_cases s r with ⟨ttl, -, he⟩ | ⟨k, l', hl, -, -, he⟩ | ⟨l', lease, hl, -, he⟩ | ⟨l', -, he⟩ | ⟨hne, -, -⟩
  · rw [he] at h ⊢
    cases h
    exact ⟨rfl, rfl⟩
  · rw [he] at h
    cases h
  · rw [he] at h
    cases h
  · rw [he] at h
    cases h
  · exact absurd h (hne l)

end Steps

end LeaseServer

end PyMotor.Lib
