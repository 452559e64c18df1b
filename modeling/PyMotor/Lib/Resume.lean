import Mathlib.Data.List.Basic
import PyMotor.Lib.Run

/-!
# Generations that are resumed

A generator goes on after a part of its output. A session runs its legs: a leg that fails is started again, and one that
is interrupted is resumed after what it has put out.
-/

namespace PyMotor.Lib

variable {α : Type}

/-- A deterministic generator. After a part of its output it goes on with the rest. -/
structure Generator (α : Type) where
  cont : List α → List α
  cont_append : ∀ p o, o <+: cont p → cont (p ++ o) = (cont p).drop o.length

namespace Generator

variable {g : Generator α} {p o part : List α}

/-- No gap and nothing twice where the output is resumed. -/
theorem append_take (h : o <+: g.cont p) (n : Nat) : o ++ (g.cont (p ++ o)).take n = (g.cont p).take (o.length + n) := by
  rw [g.cont_append p o h, ← List.take_append_drop o.length ((g.cont p).take (o.length + n)), List.take_take,
    List.drop_take, Nat.min_eq_left (Nat.le_add_right ..), Nat.add_sub_cancel_left, ← List.prefix_iff_eq_take.mp h]

theorem append_prefix (h : o <+: g.cont p) {n : Nat} (hpart : part <+: (g.cont (p ++ o)).take n) : o ++ part <+: g.cont p := by
  have hall : o ++ part <+: o ++ (g.cont (p ++ o)).take n := (List.prefix_append_right_inj o).mpr hpart
  rw [append_take h] at hall
  exact hall.trans (List.take_prefix ..)

end Generator

/-- What becomes of a leg: it fails before it has put anything out, it is interrupted after `part`, where something may
have been shown, or it runs to its end. -/
inductive LegFate (α : Type)
  | failed
  | interrupted (shown : Bool) (part : List α)
  | finished
deriving DecidableEq

namespace LegFate

def isFailed : LegFate α → Bool
  | failed => true
  | _ => false

def isInterrupted : LegFate α → Bool
  | interrupted _ _ => true
  | _ => false

/-- Something was shown before the leg was interrupted. -/
def shows : LegFate α → Bool
  | interrupted shown _ => shown
  | _ => false

end LegFate

/-- The legs that fail. -/
def failures (fates : List (LegFate α)) : Nat := fates.countP LegFate.isFailed

/-- The legs that are interrupted. -/
def interruptions (fates : List (LegFate α)) : Nat := fates.countP LegFate.isInterrupted

section

variable (fates : List (LegFate α)) (shown : Bool) (part : List α)

@[simp] theorem failures_failed : failures (.failed :: fates) = failures fates + 1 := List.countP_cons_of_pos rfl

@[simp] theorem failures_interrupted : failures (.interrupted shown part :: fates) = failures fates :=
  List.countP_cons_of_neg Bool.false_ne_true

@[simp] theorem interruptions_failed : interruptions (.failed :: fates) = interruptions fates :=
  List.countP_cons_of_neg Bool.false_ne_true

@[simp] theorem interruptions_interrupted : interruptions (.interrupted shown part :: fates) = interruptions fates + 1 :=
  List.countP_cons_of_pos rfl

end

/-- What a session knows of its legs so far. -/
structure Session (α : Type) where
  attempt : Nat := 0
  resumes : Nat := 0
  shown : Bool := false
  given : List α := []

namespace Session

section

variable (attempts : Nat) (resumable keeps : Bool)

/-- The session goes on after the leg: a leg that fails is started again unless the attempts are used up or the session
knows that something was shown. -/
def survives (x : Session α) : LegFate α → Bool
  | .failed => decide (x.attempt + 1 < attempts) && !x.shown
  | .interrupted _ _ => resumable
  | .finished => false

/-- The session after the leg; `keeps` says whether it remembers over its legs that something was shown. -/
def after (x : Session α) : LegFate α → Session α
  | .failed => { x with attempt := x.attempt + 1 }
  | .interrupted shown part =>
    { x with resumes := x.resumes + 1, shown := keeps && (x.shown || shown), given := x.given ++ part }
  | .finished => x

/-- The session goes on after all legs. -/
def Lasts (x : Session α) (fates : List (LegFate α)) : Prop :=
  Along (after keeps) (fun x fate => x.survives attempts resumable fate = true) x fates

end

variable {attempts : Nat} {resumable keeps : Bool} {x : Session α} {fates : List (LegFate α)}

theorem resumes_after (x : Session α) (fate : LegFate α) (fates : List (LegFate α)) :
    (x.after keeps fate).resumes + interruptions fates = x.resumes + interruptions (fate :: fates) := by
  cases fate with
  | failed => rw [interruptions_failed]; rfl
  | interrupted shown part => rw [interruptions_interrupted]; exact Nat.add_right_comm ..
  | finished => rfl

theorem resumes_run (x : Session α) (fates : List (LegFate α)) :
    (run (after keeps) x fates).resumes = x.resumes + interruptions fates := by
  induction fates generalizing x with
  | nil => rfl
  | cons fate fates ih => rw [run_cons, ih, resumes_after]

theorem resumes_lt {fate : LegFate α} (hi : fate.isInterrupted = true) {limit : Nat}
    (h : (x.after keeps fate).resumes ≤ limit) : x.resumes < limit := by
  cases fate with
  | failed => cases hi
  | interrupted shown part => exact h
  | finished => cases hi

/-- Nothing is started again after something was shown. -/
def Calm (fates : List (LegFate α)) : Prop := fates.Pairwise fun a b => a.shows = true → b.isFailed = false

theorem lasts_failed_iff : x.Lasts attempts resumable keeps (.failed :: fates) ↔
    (x.attempt + 1 < attempts ∧ x.shown = false) ∧
      { x with attempt := x.attempt + 1 }.Lasts attempts resumable keeps fates := by
  simp [Lasts, Along, survives, after]

theorem lasts_interrupted_iff {shown : Bool} {part : List α} :
    x.Lasts attempts resumable keeps (.interrupted shown part :: fates) ↔
      resumable = true ∧ (x.after keeps (.interrupted shown part)).Lasts attempts resumable keeps fates := Iff.rfl

theorem calm_cons {fate : LegFate α} :
    Calm (fate :: fates) ↔ (fate.shows = true → failures fates = 0) ∧ Calm fates := by
  rw [Calm, List.pairwise_cons, failures, List.countP_eq_zero]
  simp only [Bool.not_eq_true]
  exact and_congr_left fun _ => ⟨fun h hs b hb => h b hb hs, fun h b hb hs => h hs b hb⟩

/-- When a session goes on: there is an attempt for every leg that fails, interrupted legs can be resumed, and no leg fails
after the session knows that something was shown. -/
theorem lasts_iff (hx : x.attempt < attempts) (hshown : x.shown = true → keeps = true) (hfates : .finished ∉ fates) :
    x.Lasts attempts resumable keeps fates ↔
      x.attempt + failures fates < attempts ∧ (interruptions fates = 0 ∨ resumable = true) ∧
        (x.shown = true → failures fates = 0) ∧ (keeps = true → Calm fates) := by
  induction fates generalizing x with
  | nil => simpa [Lasts, Along, Calm, failures, interruptions] using hx
  | cons fate fates ih =>
      have hrest : .finished ∉ fates := fun hmem => hfates (List.mem_cons_of_mem _ hmem)
      rw [calm_cons]
      cases fate with
      | failed =>
          rw [lasts_failed_iff, failures_failed, interruptions_failed]
          by_cases hlt : x.attempt + 1 < attempts
          · rw [ih (x := { x with attempt := x.attempt + 1 }) hlt hshown hrest]
            cases hs : x.shown <;> simp [LegFate.shows, hlt, Nat.add_assoc, Nat.add_comm 1]
          · constructor
            · exact fun h => absurd h.1.1 hlt
            · intro h
              omega
      | interrupted shown part =>
          rw [lasts_interrupted_iff, ih (x := x.after keeps (.interrupted shown part)) hx ?_ hrest, failures_interrupted,
            interruptions_interrupted]
          · cases keeps with
            | true =>
                cases hs : x.shown <;> cases shown <;> simp [after, LegFate.shows, hs] <;> tauto
            | false =>
                have hs : x.shown = false := by simpa using fun hs => Bool.false_ne_true (hshown hs)
                simp [after, hs]
                tauto
          · intro h
            exact (Bool.and_eq_true_iff.mp h).1
      | finished => exact absurd (List.mem_cons_self ..) hfates

/-- A step that follows the session as long as it goes on, and loses it else. -/
theorem follows_run {σ ε : Type} {step : σ → ε → σ} {asks : σ → ε → Prop} {fate : ε → LegFate α} {limit : Nat}
    {Follows : Session α → σ → Prop} (Lost : σ → Prop) (hlost : ∀ s e, Lost s → Lost (step s e))
    (hstep : ∀ x s e, Follows x s → asks s e → fate e ≠ .finished →
      ((fate e).isInterrupted = true → x.resumes < limit) →
      if x.survives attempts resumable (fate e) then Follows (x.after keeps (fate e)) (step s e)
      else Lost (step s e))
    {s : σ} {es : List ε} (h : Follows x s) (hasks : Along step asks s es) (hes : .finished ∉ es.map fate)
    (hlimit : x.resumes + interruptions (es.map fate) ≤ limit) :
    (x.Lasts attempts resumable keeps (es.map fate) → Follows (run (after keeps) x (es.map fate)) (run step s es)) ∧
      (¬ x.Lasts attempts resumable keeps (es.map fate) → Lost (run step s es)) := by
  induction es generalizing x s with
  | nil => exact ⟨fun _ => h, fun hnot => absurd trivial hnot⟩
  | cons e es ih =>
      rw [List.map_cons, List.mem_cons, not_or] at hes
      rw [List.map_cons, show x.resumes + interruptions (fate e :: es.map fate) =
        (x.after keeps (fate e)).resumes + interruptions (es.map fate) from (resumes_after ..).symm] at hlimit
      have hnext := hstep x s e h hasks.1 (fun he => hes.1 he.symm)
        fun hi => resumes_lt hi (Nat.le_trans (Nat.le_add_right ..) hlimit)
      rw [List.map_cons, run_cons, run_cons]
      by_cases hlasts : x.survives attempts resumable (fate e) = true
      · rw [if_pos hlasts] at hnext
        obtain ⟨hgo, hend⟩ := ih hnext hasks.2 hes.2 hlimit
        exact ⟨fun hall => hgo hall.2, fun hnot => hend fun hall => hnot ⟨hlasts, hall⟩⟩
      · rw [if_neg hlasts] at hnext
        exact ⟨fun hall => absurd hall.1 hlasts, fun _ => run_invariant' hlost hnext es⟩

end Session

end PyMotor.Lib
