import Mathlib.Algebra.Order.Field.Basic
import Mathlib.Tactic.Linarith
import Mathlib.Tactic.Ring

/-!
# What happens within a window

The level of a token bucket rises at a fixed rate up to its capacity, and amounts are taken from it while it holds as
much. What is taken within a window is at most the capacity and what comes in during the window.

Of spans of time that follow each other, at most so many meet any window when each of them starts with fewer in the
window before it.
-/

namespace PyMotor.Lib

/-! ## Token buckets -/

structure Bucket (K : Type) where
  capacity : K
  rate : K
  level : K
  stamp : K

namespace Bucket

variable {K : Type} [Field K] [LinearOrder K] {b : Bucket K} {now amount a z spent : K}

def levelAt (b : Bucket K) (now : K) : K := min b.capacity (b.level + (now - b.stamp) * b.rate)

/-- Take the amount, if the bucket holds as much. -/
def take (b : Bucket K) (now amount : K) : Bool × Bucket K :=
  if amount ≤ b.levelAt now then (true, { b with level := b.levelAt now - amount, stamp := now })
  else (false, { b with level := b.levelAt now, stamp := now })

structure Valid (b : Bucket K) : Prop where
  rate : 0 ≤ b.rate
  level : 0 ≤ b.level
  level_le : b.level ≤ b.capacity

@[simp] theorem take_capacity (b : Bucket K) (now amount : K) : (b.take now amount).2.capacity = b.capacity := by
  unfold take
  split <;> rfl

@[simp] theorem take_rate (b : Bucket K) (now amount : K) : (b.take now amount).2.rate = b.rate := by
  unfold take
  split <;> rfl

@[simp] theorem take_stamp (b : Bucket K) (now amount : K) : (b.take now amount).2.stamp = now := by
  unfold take
  split <;> rfl

theorem take_level (b : Bucket K) (now amount : K) :
    (b.take now amount).2.level = b.levelAt now - if (b.take now amount).1 then amount else 0 := by
  unfold take
  split
  · rfl
  · simp

theorem levelAt_le_capacity (b : Bucket K) (now : K) : b.levelAt now ≤ b.capacity := min_le_left ..

theorem levelAt_le (b : Bucket K) (now : K) : b.levelAt now ≤ b.level + (now - b.stamp) * b.rate := min_le_right ..

variable [IsStrictOrderedRing K]

theorem Valid.level_le_levelAt (h : b.Valid) (hnow : b.stamp ≤ now) : b.level ≤ b.levelAt now := by
  have hgain : 0 ≤ (now - b.stamp) * b.rate := mul_nonneg (sub_nonneg.mpr hnow) h.rate
  exact le_min h.level_le (by linarith)

theorem Valid.take (h : b.Valid) (hamount : 0 ≤ amount) (hnow : b.stamp ≤ now) : (b.take now amount).2.Valid := by
  have hlevel := h.level.trans (h.level_le_levelAt hnow)
  have hcap := b.levelAt_le_capacity now
  unfold Bucket.take
  split
  · rename_i hle
    exact ⟨h.rate, sub_nonneg.mpr hle, by dsimp only; linarith⟩
  · exact ⟨h.rate, hlevel, hcap⟩

/-! ### Windows -/

/-- `spent` is what has been granted in the window from `a` to `z`. -/
structure Spent (b : Bucket K) (a z spent : K) : Prop where
  before : b.stamp < a → spent = 0
  within : a ≤ b.stamp → b.stamp ≤ z → spent + b.level ≤ b.capacity + b.rate * (b.stamp - a)
  total : spent ≤ b.capacity + b.rate * (z - a)

theorem Valid.spent_zero (h : b.Valid) (haz : a ≤ z) : b.Spent a z 0 where
  before _ := rfl
  within ha _ := by
    have hgain := mul_nonneg h.rate (sub_nonneg.mpr ha)
    linarith [h.level_le]
  total := by
    have hgain := mul_nonneg h.rate (sub_nonneg.mpr haz)
    linarith [h.level, h.level_le]

/-- Before a request in the window, the level and what has been granted come to no more than the capacity and the
gain. -/
theorem Spent.levelAt (h : b.Spent a z spent) (hb : b.Valid) (hnow : b.stamp ≤ now) (ha : a ≤ now) (hz : now ≤ z) :
    spent + b.levelAt now ≤ b.capacity + b.rate * (now - a) := by
  by_cases hstamp : b.stamp < a
  · have hgain := mul_nonneg hb.rate (sub_nonneg.mpr ha)
    linarith [h.before hstamp, b.levelAt_le_capacity now]
  · have hspent := h.within (not_lt.mp hstamp) (hnow.trans hz)
    have hsplit : b.rate * (now - a) = b.rate * (b.stamp - a) + (now - b.stamp) * b.rate := by ring
    linarith [b.levelAt_le now]

theorem Spent.take (h : b.Spent a z spent) (hb : b.Valid) (hamount : 0 ≤ amount) (hnow : b.stamp ≤ now) (ha : a ≤ now)
    (hz : now ≤ z) :
    (b.take now amount).2.Spent a z (spent + if (b.take now amount).1 then amount else 0) := by
  have hpaid := h.levelAt hb hnow ha hz
  have hlevel := (hb.take hamount hnow).level
  have heq := b.take_level now amount
  have hgain := mul_le_mul_of_nonneg_left (sub_le_sub_right hz a) hb.rate
  refine ⟨fun hlt => ?_, fun _ _ => ?_, ?_⟩
  · rw [take_stamp] at hlt
    exact absurd ha (not_le.mpr hlt)
  · rw [take_capacity, take_rate, take_stamp, heq]
    linarith
  · rw [take_capacity, take_rate]
    linarith

omit [IsStrictOrderedRing K] in
theorem Spent.take_outside (h : b.Spent a z spent) (hnow : b.stamp ≤ now) (hout : now < a ∨ z < now) :
    (b.take now amount).2.Spent a z spent where
  before hlt := by
    rw [take_stamp] at hlt
    exact h.before (lt_of_le_of_lt hnow hlt)
  within ha hz := by
    rw [take_stamp] at ha hz
    rcases hout with hlt | hlt
    · exact absurd ha (not_le.mpr hlt)
    · exact absurd hz (not_le.mpr hlt)
  total := by
    rw [take_capacity, take_rate]
    exact h.total

end Bucket

/-! ## Spans -/

structure Span (T : Type) where
  start : T
  stop : T
deriving DecidableEq

namespace Span

variable {T : Type} [AddCommGroup T] [LinearOrder T] {spans : List (Span T)} {s : Span T} {width t z cutoff : T} {n : Nat}

/-- Some of the span lies in the closed window of this width that begins at `t`. -/
def Meets (width t : T) (s : Span T) : Prop := s.start ≤ t + width ∧ t ≤ s.stop

instance : Decidable (s.Meets width t) := inferInstanceAs (Decidable (_ ∧ _))

/-- How many spans meet the window. -/
def count (width t : T) (spans : List (Span T)) : Nat := spans.countP fun s => s.Meets width t

theorem count_append (width t : T) (spans : List (Span T)) (s : Span T) :
    count width t (spans ++ [s]) = count width t spans + if s.Meets width t then 1 else 0 := by
  simp [count, List.countP_append, List.countP_singleton]

/-- Of spans that have started by `z`, those that end early enough do not meet the window up to `z`. -/
theorem count_eq_length (h : ∀ s ∈ spans, s.start ≤ z) :
    count width (z - width) spans = ((spans.map stop).filter (z - width ≤ ·)).length := by
  rw [count, List.countP_eq_length_filter, List.filter_map, List.length_map]
  congr 1
  refine List.filter_congr fun s hs => ?_
  simp [Meets, h s hs]

variable [IsOrderedAddMonoid T]

/-- Every window is kept to the bound exactly when it was before, and the last span starts with room in the window
up to its start. -/
theorem bounded_append_iff (h : ∀ s' ∈ spans, s'.start ≤ s'.stop ∧ s'.stop ≤ s.start) (hs : s.start ≤ s.stop)
    (hwidth : 0 ≤ width) :
    (∀ t, count width t (spans ++ [s]) ≤ n) ↔
      (∀ t, count width t spans ≤ n) ∧ count width (s.start - width) spans < n := by
  constructor
  · intro hall
    refine ⟨fun t => ?_, ?_⟩
    · have hle := hall t
      rw [count_append] at hle
      exact (Nat.le_add_right ..).trans hle
    · have hmeets : s.Meets width (s.start - width) :=
        ⟨(sub_add_cancel s.start width).ge, (sub_le_self s.start hwidth).trans hs⟩
      have hle := hall (s.start - width)
      rwa [count_append, if_pos hmeets] at hle
  · rintro ⟨hall, hroom⟩ t
    rw [count_append]
    by_cases hmeets : s.Meets width t
    · -- A span that meets the window meets the one up to the start of `s`, which begins earlier.
      have hmono : count width t spans ≤ count width (s.start - width) spans := by
        refine List.countP_mono_left fun s' hs' hmeets' => ?_
        have hbegin : s.start - width ≤ t := sub_le_iff_le_add.mpr hmeets.1
        simp only [decide_eq_true_eq] at hmeets' ⊢
        refine ⟨?_, hbegin.trans hmeets'.2⟩
        rw [sub_add_cancel]
        exact (h s' hs').1.trans (h s' hs').2
      rw [if_pos hmeets]
      exact (Nat.add_le_add_right hmono 1).trans hroom
    · rw [if_neg hmeets]
      exact hall t

end Span

/-! ## Times in order -/

section Times

variable {T : Type} [LinearOrder T] {times : List T} {cutoff later : T}

/-- Among times in order, to drop the early ones from the front is to keep the others. -/
theorem dropWhile_eq_filter (h : times.Pairwise (· ≤ ·)) (cutoff : T) :
    times.dropWhile (· < cutoff) = times.filter (cutoff ≤ ·) := by
  induction times with
  | nil => rfl
  | cons t times ih =>
      rw [List.pairwise_cons] at h
      by_cases ht : t < cutoff
      · rw [List.dropWhile_cons_of_pos (by simpa using ht), List.filter_cons_of_neg (by simpa using ht), ih h.2]
      · have hkept : ∀ t' ∈ t :: times, cutoff ≤ t' := by
          rw [List.forall_mem_cons]
          exact ⟨not_lt.mp ht, fun t' ht' => (not_lt.mp ht).trans (h.1 t' ht')⟩
        rw [List.dropWhile_cons_of_neg (by simpa using ht), List.filter_eq_self.mpr (by simpa using hkept)]

theorem dropWhile_filter_eq_filter (h : times.Pairwise (· ≤ ·)) (hcutoff : cutoff ≤ later) :
    (times.filter (cutoff ≤ ·)).dropWhile (· < later) = times.filter (later ≤ ·) := by
  rw [dropWhile_eq_filter (h.sublist List.filter_sublist), List.filter_filter]
  refine List.filter_congr fun t _ => ?_
  simpa using hcutoff.trans

end Times

end PyMotor.Lib
