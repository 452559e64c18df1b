import Mathlib.Algebra.BigOperators.Group.List.Basic
import Mathlib.Algebra.Order.BigOperators.Group.Multiset
import Mathlib.Data.Rat.Cast.Order
import Mathlib.Tactic.Linarith
import Mathlib.Algebra.BigOperators.Group.Multiset.Basic
import Mathlib.Tactic.Abel
import PyMotor.Lib.Dict

/-!
# Ledgers and tallies

A ledger is a list of amounts under keys. The balance of a key is the sum of its amounts. A tally adds up the amounts of a
ledger in a dictionary, with an addition that may round.
-/

namespace PyMotor.Lib

variable {κ M : Type} [DecidableEq κ]

/-- The sum of the amounts under `k`. -/
def balance [AddCommMonoid M] (es : List (κ × M)) (k : κ) : M :=
  (es.map fun e => if e.1 = k then e.2 else 0).sum

section Monoid

variable [AddCommMonoid M]

@[simp] theorem balance_nil (k : κ) : balance ([] : List (κ × M)) k = 0 := rfl

theorem balance_cons (e : κ × M) (es : List (κ × M)) (k : κ) :
    balance (e :: es) k = (if e.1 = k then e.2 else 0) + balance es k := by
  simp [balance]

theorem balance_append (es fs : List (κ × M)) (k : κ) : balance (es ++ fs) k = balance es k + balance fs k := by
  simp [balance]

theorem balance_singleton (e : κ × M) (k : κ) : balance [e] k = if e.1 = k then e.2 else 0 := by
  simp [balance]

theorem balance_eq_zero {es : List (κ × M)} {k : κ} (h : ∀ e ∈ es, e.1 ≠ k) : balance es k = 0 := by
  apply List.sum_eq_zero
  intro x hx
  obtain ⟨e, he, rfl⟩ := List.mem_map.mp hx
  exact if_neg (h e he)

/-- What holds of zero, of all amounts and of sums holds of every balance. -/
theorem balance_induction {P : M → Prop} (hzero : P 0) (hadd : ∀ a b, P a → P b → P (a + b))
    {es : List (κ × M)} (h : ∀ e ∈ es, P e.2) (k : κ) : P (balance es k) := by
  induction es with
  | nil => exact hzero
  | cons e es ih =>
      rw [balance_cons]
      refine hadd _ _ ?_ (ih fun x hx => h x (List.mem_cons_of_mem _ hx))
      split
      · exact h e (List.mem_cons_self ..)
      · exact hzero

theorem balance_of_zero {es : List (κ × M)} (h : ∀ e ∈ es, e.2 = 0) (k : κ) : balance es k = 0 := by
  refine balance_induction (P := fun a : M => a = 0) rfl ?_ h k
  rintro _ _ rfl rfl
  exact add_zero 0

end Monoid

theorem balance_set [AddCommGroup M] {es : List (κ × M)} {i : Nat} {k : κ} {v : M} (h : es[i]? = some (k, v))
    (v' : M) (k' : κ) :
    balance (es.set i (k, v')) k' = balance es k' + if k = k' then v' - v else 0 := by
  induction es generalizing i with
  | nil => simp at h
  | cons e es ih =>
      cases i with
      | zero =>
          simp only [List.getElem?_cons_zero, Option.some.injEq] at h
          subst h
          rw [List.set_cons_zero, balance_cons, balance_cons]
          dsimp only
          split
          · abel
          · abel
      | succ i =>
          rw [List.getElem?_cons_succ] at h
          rw [List.set_cons_succ, balance_cons, balance_cons, ih h]
          abel

section Lists

variable {α : Type}

theorem getElem?_concat {l : List α} {a b : α} {i : Nat} (h : (l ++ [a])[i]? = some b) :
    l[i]? = some b ∨ i = l.length ∧ b = a := by
  obtain ⟨hi, -⟩ := List.getElem?_eq_some_iff.mp h
  rw [List.length_append, List.length_singleton] at hi
  by_cases hlt : i < l.length
  · rw [List.getElem?_append_left hlt] at h
    exact .inl h
  · obtain rfl : i = l.length := by omega
    rw [List.getElem?_concat_length, Option.some.injEq] at h
    exact .inr ⟨rfl, h.symm⟩

variable [AddCommGroup M]

theorem sum_map_modify {l : List α} {i : Nat} {a : α} (h : l[i]? = some a) (f : α → α) (g : α → M) :
    ((l.modify i f).map g).sum = (l.map g).sum + (g (f a) - g a) := by
  induction l generalizing i with
  | nil => simp at h
  | cons x l ih =>
      cases i with
      | zero =>
          rw [List.getElem?_cons_zero, Option.some.injEq] at h
          subst h
          simp only [List.modify_zero_cons, List.map_cons, List.sum_cons]
          abel
      | succ i =>
          rw [List.getElem?_cons_succ] at h
          simp only [List.modify_succ_cons, List.map_cons, List.sum_cons, ih h]
          abel

theorem sum_map_set {l : List α} {i : Nat} {a : α} (h : l[i]? = some a) (b : α) (g : α → M) :
    ((l.set i b).map g).sum = (l.map g).sum + (g b - g a) := by
  induction l generalizing i with
  | nil => simp at h
  | cons x l ih =>
      cases i with
      | zero =>
          rw [List.getElem?_cons_zero, Option.some.injEq] at h
          subst h
          simp only [List.set_cons_zero, List.map_cons, List.sum_cons]
          abel
      | succ i =>
          rw [List.getElem?_cons_succ] at h
          simp only [List.set_cons_succ, List.map_cons, List.sum_cons, ih h]
          abel

end Lists

/-! ## Tallies -/

/-- The amounts under a key, in order. -/
def amounts (es : List (κ × M)) (k : κ) : List M := (es.filter fun e => e.1 = k).map Prod.snd

theorem amounts_append (es fs : List (κ × M)) (k : κ) : amounts (es ++ fs) k = amounts es k ++ amounts fs k := by
  simp [amounts]

theorem amounts_ne_nil_iff {es : List (κ × M)} {k : κ} : amounts es k ≠ [] ↔ k ∈ es.map Prod.fst := by
  simp [amounts, List.filter_eq_nil_iff]

theorem Dict.amounts_entries (d : Dict κ M) (k : κ) : amounts d.entries k = (d.get? k).toList := by
  obtain ⟨es, hn⟩ := d
  show amounts es k = (es.lookup k).toList
  induction es with
  | nil => rfl
  | cons e es ih =>
      obtain ⟨k', v⟩ := e
      rw [List.map_cons, List.nodup_cons] at hn
      rw [List.lookup_cons]
      by_cases hk : k = k'
      · subst hk
        have hrest : amounts es k = [] := by
          by_contra hne
          exact hn.1 (amounts_ne_nil_iff.mp hne)
        have hamounts : amounts ((k, v) :: es) k = v :: amounts es k := by simp [amounts]
        rw [hamounts, hrest]
        simp
      · have hb : (k == k') = false := by simpa using hk
        have hamounts : amounts ((k', v) :: es) k = amounts es k := by simp [amounts, Ne.symm hk]
        rw [hamounts, hb]
        exact ih hn.2

section Tally

variable [Zero M] [Add M]

/-- Adding up from zero. -/
def addUp (xs : List M) : M := xs.foldl (· + ·) 0

/-- Add every amount to the entry of its key, which begins with zero. -/
def tallyFrom (d : Dict κ M) (es : List (κ × M)) : Dict κ M :=
  es.foldl (fun d e => d.set e.1 ((d.get? e.1).getD 0 + e.2)) d

def tally (es : List (κ × M)) : Dict κ M := tallyFrom Dict.empty es

theorem get?_tallyFrom (d : Dict κ M) (es : List (κ × M)) (k : κ) :
    (tallyFrom d es).get? k =
      if k ∈ es.map Prod.fst then some ((amounts es k).foldl (· + ·) ((d.get? k).getD 0)) else d.get? k := by
  induction es generalizing d with
  | nil => rfl
  | cons e es ih =>
      rw [show tallyFrom d (e :: es) = tallyFrom (d.set e.1 ((d.get? e.1).getD 0 + e.2)) es from rfl, ih, Dict.get?_set]
      simp only [List.map_cons, List.mem_cons]
      by_cases hk : k = e.1
      · subst hk
        have hamounts : amounts (e :: es) e.1 = e.2 :: amounts es e.1 := by simp [amounts]
        rw [if_pos rfl, hamounts, List.foldl_cons, Option.getD_some, if_pos (Or.inl rfl)]
        split
        · rfl
        · rename_i hnot
          have hnil : amounts es e.1 = [] := by
            by_contra hne
            exact hnot (amounts_ne_nil_iff.mp hne)
          rw [hnil, List.foldl_nil]
      · have hamounts : amounts (e :: es) k = amounts es k := by simp [amounts, Ne.symm hk]
        rw [if_neg hk, hamounts]
        simp only [hk, false_or]

theorem get?_tally (es : List (κ × M)) (k : κ) :
    (tally es).get? k = if k ∈ es.map Prod.fst then some (addUp (amounts es k)) else none :=
  get?_tallyFrom Dict.empty es k

end Tally

/-! ## Sums that round -/

section Rounding

variable [Zero M] [Add M]

/-- What adding up the amounts can give, in any order and any grouping and with zeros between them. -/
inductive Sums : Multiset M → M → Prop
  | zero : Sums 0 0
  | single (x : M) : Sums {x} x
  | add {s t : Multiset M} {x y : M} : Sums s x → Sums t y → Sums (s + t) (x + y)

/-- Each amount is the sum of a part. -/
inductive Parts : List M → Multiset M → Prop
  | nil : Parts [] 0
  | cons {x : M} {xs : List M} {s t : Multiset M} : Sums s x → Parts xs t → Parts (x :: xs) (s + t)

variable {x : M} {xs ys : List M} {s t : Multiset M}

theorem parts_coe (xs : List M) : Parts xs (xs : Multiset M) := by
  induction xs with
  | nil => exact .nil
  | cons x xs ih => exact .cons (.single x) ih

theorem Sums.parts (h : Sums s x) : Parts [x] s := by
  simpa using Parts.cons h .nil

theorem Parts.append (h : Parts xs s) (h' : Parts ys t) : Parts (xs ++ ys) (s + t) := by
  induction h with
  | nil =>
      rw [List.nil_append, zero_add]
      exact h'
  | cons hx _ ih =>
      rw [List.cons_append, add_assoc]
      exact .cons hx ih

theorem Parts.foldl (h : Parts xs s) (hx : Sums t x) : Sums (t + s) (xs.foldl (· + ·) x) := by
  induction h generalizing t x with
  | nil =>
      rw [add_zero]
      exact hx
  | cons hy _ ih =>
      rw [← add_assoc]
      exact ih (hx.add hy)

theorem Parts.addUp (h : Parts xs s) : Sums s (addUp xs) := by
  have hsums := h.foldl .zero
  rwa [zero_add] at hsums

theorem Parts.eq_zero (h : Parts [] s) : s = 0 := by
  cases h
  rfl

/-- The amounts come to their exact sum in any order and any grouping. -/
def ExactlySummable (number : M → Option ℚ) (s : Multiset M) : Prop :=
  ∀ x, Sums s x → number x = some (s.map fun x => (number x).getD 0).sum

/-- Amounts on a scale of units are exact, up to where the addition does not round. -/
theorem exact_of_scale {number : M → Option ℚ} (scale : Nat → M) (bound : Nat) (hzero : scale 0 = 0)
    (hadd : ∀ i j, i + j ≤ bound → scale i + scale j = scale (i + j))
    (hnumber : ∀ i ≤ bound, number (scale i) = some (i : ℚ)) (hs : ∀ x ∈ s, ∃ i ≤ bound, x = scale i)
    (hsum : (s.map fun x => (number x).getD 0).sum ≤ bound) : ExactlySummable number s := by
  have hnonneg : ∀ x, (∃ i ≤ bound, x = scale i) → 0 ≤ (number x).getD 0 := by
    rintro x ⟨i, hi, rfl⟩
    rw [hnumber i hi, Option.getD_some]
    exact Nat.cast_nonneg i
  have hscale : ∀ x, Sums s x → ∃ i ≤ bound, x = scale i ∧ (i : ℚ) = (s.map fun x => (number x).getD 0).sum := by
    intro x hx
    induction hx with
    | zero => exact ⟨0, Nat.zero_le _, hzero.symm, by simp⟩
    | single x =>
        obtain ⟨i, hi, rfl⟩ := hs x (Multiset.mem_singleton_self x)
        exact ⟨i, hi, rfl, by simp [hnumber i hi]⟩
    | @add s t x y _ _ ihx ihy =>
        have hleft : ∀ x ∈ s, ∃ i ≤ bound, x = scale i := fun x hx => hs x (Multiset.mem_add.mpr (.inl hx))
        have hright : ∀ x ∈ t, ∃ i ≤ bound, x = scale i := fun x hx => hs x (Multiset.mem_add.mpr (.inr hx))
        have hpos : 0 ≤ (s.map fun x => (number x).getD 0).sum :=
          Multiset.sum_nonneg (by simpa using fun x hx => hnonneg x (hleft x hx))
        have hpos' : 0 ≤ (t.map fun x => (number x).getD 0).sum :=
          Multiset.sum_nonneg (by simpa using fun x hx => hnonneg x (hright x hx))
        rw [Multiset.map_add, Multiset.sum_add] at hsum ⊢
        obtain ⟨i, hi, rfl, hleftSum⟩ := ihx hleft (by linarith)
        obtain ⟨j, hj, rfl, hrightSum⟩ := ihy hright (by linarith)
        have hle : i + j ≤ bound := by
          rw [← hleftSum, ← hrightSum] at hsum
          exact_mod_cast hsum
        refine ⟨i + j, hle, hadd i j hle, ?_⟩
        rw [← hleftSum, ← hrightSum, Nat.cast_add]
  intro x hx
  obtain ⟨i, hi, rfl, hi'⟩ := hscale x hx
  rw [hnumber i hi, hi']

end Rounding

end PyMotor.Lib
