import Mathlib.Data.List.Induction

/-!
# Runs of a step function

A run applies a list of events in order. `Along` says that every event of a run meets a condition in
the state it is applied to; an invariant kept by such events holds after the run.
-/

namespace PyMotor.Lib

variable {σ ε : Type}

/-- The state after the events, in order. -/
def run (step : σ → ε → σ) (s : σ) (es : List ε) : σ := es.foldl step s

/-- What the events of a run give back, in order. -/
def answers {ρ : Type} (step : σ → ε → ρ × σ) : σ → List ε → List ρ
  | _, [] => []
  | s, e :: es => (step s e).1 :: answers step (step s e).2 es

/-- The events of a run, each with the state it is applied to. -/
def visits (step : σ → ε → σ) : σ → List ε → List (σ × ε)
  | _, [] => []
  | s, e :: es => (s, e) :: visits step (step s e) es

/-- Every event meets `ok` in the state it is applied to. -/
def Along (step : σ → ε → σ) (ok : σ → ε → Prop) : σ → List ε → Prop
  | _, [] => True
  | s, e :: es => ok s e ∧ Along step ok (step s e) es

def decidableAlong (step : σ → ε → σ) (ok : σ → ε → Prop) [∀ s e, Decidable (ok s e)] :
    ∀ (s : σ) (es : List ε), Decidable (Along step ok s es)
  | _, [] => inferInstanceAs (Decidable True)
  | s, e :: es =>
    have := decidableAlong step ok (step s e) es
    inferInstanceAs (Decidable (ok s e ∧ Along step ok (step s e) es))

instance {step : σ → ε → σ} {ok : σ → ε → Prop} [∀ s e, Decidable (ok s e)] (s : σ) (es : List ε) :
    Decidable (Along step ok s es) := decidableAlong step ok s es

@[simp] theorem run_nil (step : σ → ε → σ) (s : σ) : run step s [] = s := rfl

@[simp] theorem run_cons (step : σ → ε → σ) (s : σ) (e : ε) (es : List ε) :
    run step s (e :: es) = run step (step s e) es := rfl

theorem run_append (step : σ → ε → σ) (s : σ) (es fs : List ε) :
    run step s (es ++ fs) = run step (run step s es) fs := List.foldl_append

/-- An invariant kept by every event that meets `ok` holds after a run of such events. -/
theorem run_invariant {step : σ → ε → σ} {ok : σ → ε → Prop} {I : σ → Prop}
    (hstep : ∀ s e, I s → ok s e → I (step s e)) {s : σ} {es : List ε}
    (h : I s) (hes : Along step ok s es) : I (run step s es) := by
  induction es generalizing s with
  | nil => exact h
  | cons e es ih => exact ih (hstep s e h hes.1) hes.2

/-- An invariant kept by every event holds after every run. -/
theorem run_invariant' {step : σ → ε → σ} {I : σ → Prop} (hstep : ∀ s e, I s → I (step s e))
    {s : σ} (h : I s) (es : List ε) : I (run step s es) := by
  induction es generalizing s with
  | nil => exact h
  | cons e es ih => exact ih (hstep s e h)

/-- An invariant that is kept while a counter is below a bound, which every event raises by at most one. -/
theorem run_invariant_counted {step : σ → ε → σ} {ok : σ → ε → Prop} {I : σ → Prop} {counter : σ → Nat} {bound : Nat}
    (hstep : ∀ s e, I s → counter s + 1 < bound → ok s e → I (step s e) ∧ counter (step s e) ≤ counter s + 1)
    {s : σ} {es : List ε} (h : I s) (hes : Along step ok s es) (hb : counter s + es.length < bound) :
    I (run step s es) := by
  induction es generalizing s with
  | nil => exact h
  | cons e es ih =>
      rw [List.length_cons] at hb
      obtain ⟨hI, hle⟩ := hstep s e h (by omega) hes.1
      exact ih hI hes.2 (by omega)

/-- A state that no event changes is the end of every run from it. -/
theorem run_of_fixed {step : σ → ε → σ} {s : σ} (h : ∀ e, step s e = s) (es : List ε) : run step s es = s := by
  induction es with
  | nil => rfl
  | cons e es ih => rw [run_cons, h e, ih]

/-- A run that cannot go on without using up a budget has ended when it is as long as the budget. -/
theorem run_ends {step : σ → ε → σ} {ok : σ → ε → Prop} {I : σ → Prop} (ended : σ → Prop) (budget : σ → Nat)
    (hkeep : ∀ s e, ended s → ended (step s e)) (hzero : ∀ s, I s → budget s = 0 → ended s)
    (hstep : ∀ s e, I s → ok s e → ended (step s e) ∨ I (step s e) ∧ budget (step s e) < budget s)
    {s : σ} {es : List ε} (h : I s) (hes : Along step ok s es) (hlen : budget s ≤ es.length) :
    ended (run step s es) := by
  induction es generalizing s with
  | nil => exact hzero s h (Nat.le_zero.mp hlen)
  | cons e es ih =>
      rcases hstep s e h hes.1 with hend | ⟨hI, hlt⟩
      · exact run_invariant' hkeep hend es
      · rw [List.length_cons] at hlen
        exact ih hI hes.2 (by omega)

theorem Along.mono {step : σ → ε → σ} {ok ok' : σ → ε → Prop} (hok : ∀ s e, ok s e → ok' s e)
    {s : σ} {es : List ε} (h : Along step ok s es) : Along step ok' s es := by
  induction es generalizing s with
  | nil => trivial
  | cons e es ih => exact ⟨hok s e h.1, ih h.2⟩

theorem along_append {step : σ → ε → σ} {ok : σ → ε → Prop} {s : σ} {es fs : List ε} :
    Along step ok s (es ++ fs) ↔ Along step ok s es ∧ Along step ok (run step s es) fs := by
  induction es generalizing s with
  | nil => simp [Along]
  | cons e es ih => simp only [List.cons_append, Along, ih, run_cons, and_assoc]

/-- What an invariant gives at every event that meets `ok` holds along a run of such events. -/
theorem along_of_invariant {step : σ → ε → σ} {ok ok' : σ → ε → Prop} {I : σ → Prop}
    (hstep : ∀ s e, I s → ok s e → I (step s e)) (hok : ∀ s e, I s → ok s e → ok' s e) {s : σ} {es : List ε}
    (h : I s) (hes : Along step ok s es) : Along step ok' s es := by
  induction es generalizing s with
  | nil => trivial
  | cons e es ih => exact ⟨hok s e h hes.1, ih (hstep s e h hes.1) hes.2⟩

theorem along_iff_visits {step : σ → ε → σ} {ok : σ → ε → Prop} {s : σ} {es : List ε} :
    Along step ok s es ↔ ∀ v ∈ visits step s es, ok v.1 v.2 := by
  induction es generalizing s with
  | nil => simp [Along, visits]
  | cons e es ih => simp [Along, visits, ih]

/-- A condition that does not look at the state holds along a run when it holds of every event. -/
theorem along_of_forall {step : σ → ε → σ} {ok : ε → Prop} {s : σ} {es : List ε}
    (h : ∀ e ∈ es, ok e) : Along step (fun _ => ok) s es := by
  induction es generalizing s with
  | nil => trivial
  | cons e es ih =>
      exact ⟨h e (List.mem_cons_self ..), ih fun x hx => h x (List.mem_cons_of_mem _ hx)⟩

theorem Along.and {step : σ → ε → σ} {ok ok' : σ → ε → Prop} {s : σ} {es : List ε} (h : Along step ok s es)
    (h' : Along step ok' s es) : Along step (fun s e => ok s e ∧ ok' s e) s es := by
  induction es generalizing s with
  | nil => trivial
  | cons e es ih => exact ⟨⟨h.1, h'.1⟩, ih h.2 h'.2⟩

theorem Along.and_forall {step : σ → ε → σ} {ok : σ → ε → Prop} {p : ε → Prop} {s : σ} {es : List ε}
    (h : Along step ok s es) (hp : ∀ e ∈ es, p e) : Along step (fun s e => p e ∧ ok s e) s es := by
  induction es generalizing s with
  | nil => trivial
  | cons e es ih =>
      exact ⟨⟨hp e (List.mem_cons_self ..), h.1⟩, ih h.2 fun x hx => hp x (List.mem_cons_of_mem _ hx)⟩

/-- A property that an event keeps exactly when it meets `told` holds after every part of a run exactly when every event
meets it. -/
theorem along_iff_take {step : σ → ε → σ} {ok told : σ → ε → Prop} {I P : σ → Prop}
    (hI : ∀ s e, I s → ok s e → I (step s e)) (hP : ∀ s e, I s → ok s e → P s → (P (step s e) ↔ told s e))
    {s : σ} {es : List ε} (hs : I s) (hp : P s) (hes : Along step ok s es) :
    (∀ n, P (run step s (es.take n))) ↔ Along step told s es := by
  induction es generalizing s with
  | nil => simp [Along, hp]
  | cons e es ih =>
      constructor
      · intro h
        have hnext : P (step s e) := h 1
        exact ⟨(hP s e hs hes.1 hp).mp hnext, (ih (hI s e hs hes.1) hnext hes.2).mp fun n => h (n + 1)⟩
      · rintro ⟨htold, h⟩ n
        cases n with
        | zero => exact hp
        | succ n =>
            exact (ih (hI s e hs hes.1) ((hP s e hs hes.1 hp).mpr htold) hes.2).mpr h n

/-!
## Streaks

A counter that is raised by every hit and reset by every miss holds the hits at the end of what it has seen; an alarm
that is latched when the counter reaches a bound has been raised exactly when there were that many hits in a row.
-/

section Streak

/-- The counter after one outcome. -/
def countHits (n : Nat) (hit : Bool) : Nat := if hit then n + 1 else 0

/-- The hits at the end. -/
def streak (outcomes : List Bool) : Nat := outcomes.foldl countHits 0

/-- Some `n` hits in a row. -/
def Streaked (n : Nat) (outcomes : List Bool) : Prop := List.replicate n true <:+: outcomes

variable {n : Nat} {outcomes : List Bool} {hit : Bool}

@[simp] theorem streak_nil : streak [] = 0 := rfl

@[simp] theorem streak_concat : streak (outcomes ++ [hit]) = countHits (streak outcomes) hit := by
  simp [streak]

theorem le_streak_iff : n ≤ streak outcomes ↔ List.replicate n true <:+ outcomes := by
  induction outcomes using List.reverseRecOn generalizing n with
  | nil => simp [List.suffix_nil, List.replicate_eq_nil_iff]
  | append_singleton outcomes hit ih =>
      cases n with
      | zero => simp
      | succ n =>
          rw [streak_concat, List.replicate_succ', List.suffix_concat_iff]
          cases hit <;> simp [countHits, ih]

/-- The alarm is raised by the outcome that completes a streak, and stays. -/
theorem streaked_concat :
    Streaked n (outcomes ++ [hit]) ↔ Streaked n outcomes ∨ n ≤ countHits (streak outcomes) hit := by
  rw [Streaked, List.infix_concat_iff, ← streak_concat, le_streak_iff, or_comm]
  rfl

theorem not_streaked_nil (hn : 0 < n) : ¬ Streaked n [] := by
  simp [Streaked, Nat.pos_iff_ne_zero.mp hn]

end Streak

end PyMotor.Lib
