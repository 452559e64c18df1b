import Mathlib.Algebra.Order.Floor.Div
import Mathlib.Data.Int.CardIntervalMod
import PyMotor.Lib.Run

/-!
# Going round a cycle

A counter that grows by one visits the places of a cycle in turn. A rotor goes round a cycle whose places are cycles
themselves, each with its own counter. Counters are integers and count modulo the length of their cycle.
-/

namespace PyMotor.Lib

/-! ## One cycle -/

/-- The place of a counter in a cycle of `n`. -/
def place (n : Nat) (c : Int) : Nat := (c % n).toNat

/-- The places of `t` steps from `c`. -/
def walk (n : Nat) : Int → Nat → List Nat
  | _, 0 => []
  | c, t + 1 => place n c :: walk n (c + 1) t

variable {n : Nat} {c d : Int} {j : Nat}

theorem place_lt (hn : 0 < n) (c : Int) : place n c < n := by
  have hlt := Int.emod_lt_of_pos c (show (0 : Int) < n by omega)
  have hle := Int.emod_nonneg c (show (n : Int) ≠ 0 by omega)
  unfold place
  omega

theorem place_congr (h : c ≡ d [ZMOD n]) : place n c = place n d := congrArg Int.toNat h

theorem place_eq_iff (hj : j < n) : place n c = j ↔ c ≡ j [ZMOD n] := by
  have hle := Int.emod_nonneg c (show (n : Int) ≠ 0 by omega)
  have hself : (j : Int) % n = j := Int.emod_eq_of_lt (by omega) (by omega)
  rw [Int.ModEq, hself]
  unfold place
  omega

theorem count_walk_eq (n : Nat) (c : Int) (j t : Nat) :
    (walk n c t).count j = Nat.count (fun k => place n (c + k) = j) t := by
  induction t generalizing c with
  | zero => rfl
  | succ t ih =>
      have hshift : ∀ k : Nat, place n (c + 1 + k) = place n (c + (k + 1 : Nat)) := fun k => by
        congr 1
        push_cast
        ring
      rw [walk, List.count_cons, ih, Nat.count_succ']
      simp [hshift]

theorem count_walk (hj : j < n) (c : Int) (t : Nat) :
    (walk n c t).count j = t / n + if place n (j - c) < t % n then 1 else 0 := by
  have hn : 0 < n := by omega
  have hlt := place_lt hn (j - c)
  have hv : (place n (j - c) : Int) ≡ j - c [ZMOD n] := ((place_eq_iff hlt).mp rfl).symm
  have hplace : ∀ k : Nat, place n (c + k) = j ↔ k ≡ place n (j - c) [MOD n] := by
    intro k
    rw [place_eq_iff hj, ← Int.natCast_modEq_iff]
    constructor
    · intro h
      have hk := h.sub_right c
      rw [add_sub_cancel_left] at hk
      exact hk.trans hv.symm
    · intro h
      have hk := (h.trans hv).add_left c
      rwa [add_sub_cancel] at hk
  rw [count_walk_eq]
  simp only [hplace]
  rw [Nat.count_modEq_card t hn, Nat.mod_eq_of_lt hlt]

theorem count_walk_rounds (hj : j < n) (c : Int) (k : Nat) : (walk n c (k * n)).count j = k := by
  have hn : 0 < n := by omega
  simp [count_walk hj, Nat.mul_div_cancel k hn]

/-- The visits of two places differ by at most one. -/
theorem count_walk_even (hj : j < n) (c : Int) (t : Nat) :
    (walk n c t).count j = t / n ∨ (walk n c t).count j = t ⌈/⌉ n := by
  have hn : 0 < n := by omega
  rw [count_walk hj]
  split
  · rename_i hlt
    right
    have hsplit := Nat.div_add_mod t n
    have hmod := Nat.mod_lt t hn
    have hstart : t + n - 1 = (t % n - 1) + n * (t / n + 1) := by
      rw [Nat.mul_succ]
      omega
    have hdiv : (t + n - 1) / n = t / n + 1 := by
      rw [hstart, Nat.add_mul_div_left _ _ hn, Nat.div_eq_of_lt (by omega), Nat.zero_add]
    rw [Nat.ceilDiv_eq_add_pred_div, hdiv]
  · exact Or.inl (Nat.add_zero _)

/-! ## A cycle of cycles -/

/-- The counter of the cycle, and those of the cycles at its places. -/
structure Rotor where
  turn : Int
  inner : Nat → Int

namespace Rotor

def pick (n : Nat) (e : Nat → Nat) (s : Rotor) : Nat × Nat :=
  let j := place n s.turn
  (j, place (e j) (s.inner j))

def next (n : Nat) (s : Rotor) : Rotor where
  turn := s.turn + 1
  inner := Function.update s.inner (place n s.turn) (s.inner (place n s.turn) + 1)

def picks (n : Nat) (e : Nat → Nat) : Rotor → Nat → List (Nat × Nat)
  | _, 0 => []
  | s, t + 1 => s.pick n e :: picks n e (s.next n) t

variable {e : Nat → Nat}

theorem map_fst_picks (n : Nat) (e : Nat → Nat) (s : Rotor) (t : Nat) :
    (picks n e s t).map Prod.fst = walk n s.turn t := by
  induction t generalizing s with
  | zero => rfl
  | succ t ih => simp [picks, walk, ih, pick, next]

/-- The visits of one place go round its own cycle. -/
theorem inner_picks (n : Nat) (e : Nat → Nat) (s : Rotor) (t j : Nat) :
    ((picks n e s t).filter (·.1 = j)).map Prod.snd = walk (e j) (s.inner j) ((walk n s.turn t).count j) := by
  induction t generalizing s with
  | zero => rfl
  | succ t ih =>
      by_cases hj : place n s.turn = j
      · simp [picks, walk, pick, next, hj, ih]
      · have hne : j ≠ place n s.turn := fun h => hj h.symm
        simp [picks, walk, pick, next, hj, ih, hne]

theorem countP_picks (hj : j < n) (e : Nat → Nat) (s : Rotor) (k : Nat) :
    (picks n e s (k * n)).countP (·.1 = j) = k := by
  have hcount := count_walk_rounds hj s.turn k
  rw [← map_fst_picks n e, List.count, List.countP_map] at hcount
  simpa [Function.comp_def, beq_eq_decide] using hcount

theorem count_picks (hj : j < n) {i : Nat} (hi : i < e j) (s : Rotor) (k : Nat) :
    (picks n e s (k * n)).count (j, i) = k / e j ∨ (picks n e s (k * n)).count (j, i) = k ⌈/⌉ e j := by
  have hcount : (picks n e s (k * n)).count (j, i) = (walk (e j) (s.inner j) k).count i := by
    have hinner := inner_picks n e s (k * n) j
    rw [count_walk_rounds hj] at hinner
    rw [← hinner, List.count, List.count, List.countP_map, List.countP_filter]
    congr 1
    funext p
    obtain ⟨j', i'⟩ := p
    by_cases h : j' = j <;> simp [h]
  rw [hcount]
  exact count_walk_even hi _ k

/-- What follows a rotor at each step gives at each step what the rotor picks. -/
theorem answers_follow {σ ε ρ : Type} {step : σ → ε → ρ × σ} {R : σ → Rotor → Prop} {ok : ρ → Nat × Nat → Prop}
    (hstep : ∀ s event r, R s r → ok (step s event).1 (r.pick n e) ∧ R (step s event).2 (r.next n))
    {s : σ} {r : Rotor} (h : R s r) (events : List ε) :
    List.Forall₂ ok (answers step s events) (picks n e r events.length) := by
  induction events generalizing s r with
  | nil => exact .nil
  | cons event events ih =>
      obtain ⟨hok, hnext⟩ := hstep s event r h
      exact .cons hok (ih hnext)

end Rotor

end PyMotor.Lib
