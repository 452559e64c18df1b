import Mathlib

/-!
# Lists

A partial map gives a list exactly when every item can be read. Parts that are left of other parts give the same whole
only where nothing is left out of any of them. A stable sort forgets the order of the items but for those that the order
does not tell apart.
-/

namespace PyMotor.Lib

/-! ## Reading a list item by item -/

section

variable {α β : Type} {f : α → Option β}

theorem mapM_of_forall {xs : List α} (h : ∀ x ∈ xs, (f x).isSome = true) : xs.mapM f = some (xs.filterMap f) := by
  induction xs with
  | nil => rfl
  | cons x xs ih =>
      obtain ⟨y, hy⟩ := Option.isSome_iff_exists.mp (h x (List.mem_cons_self ..))
      simp [List.mapM_cons, hy, ih fun x hx => h x (List.mem_cons_of_mem _ hx)]

theorem isSome_mapM_iff {xs : List α} : (xs.mapM f).isSome = true ↔ ∀ x ∈ xs, (f x).isSome = true := by
  constructor
  · intro h
    induction xs with
    | nil => exact fun x hx => (nomatch hx)
    | cons x xs ih =>
        obtain ⟨ys, hys⟩ := Option.isSome_iff_exists.mp h
        rw [List.mapM_cons] at hys
        simp only [bind, Option.bind_eq_some_iff] at hys
        obtain ⟨y, hy, ys', hys', -⟩ := hys
        rw [List.forall_mem_cons]
        exact ⟨by rw [hy]; rfl, ih (by rw [hys']; rfl)⟩
  · intro h
    rw [mapM_of_forall h]
    rfl

/-- What has been read is what the items give. -/
theorem mapM_eq_filterMap {xs : List α} {ys : List β} (h : xs.mapM f = some ys) : ys = xs.filterMap f := by
  rw [mapM_of_forall (isSome_mapM_iff.mp (by rw [h]; rfl)), Option.some.injEq] at h
  exact h.symm

end

/-! ## Stable sorts -/

section

variable {α : Type} {le : α → α → Bool} {a b : List α}

/-- The order does not tell the items apart. -/
def alike (le : α → α → Bool) (x y : α) : Bool := le x y && le y x

variable (htrans : ∀ x y z, le x y = true → le y z = true → le x z = true)
  (htotal : ∀ x y, (le x y || le y x) = true)
include htrans

theorem alike_trans {x y z : α} (hx : alike le x y = true) (hz : alike le x z = true) : le y z = true := by
  rw [alike, Bool.and_eq_true] at hx hz
  exact htrans y x z hx.2 hz.1

include htotal

theorem filter_mergeSort (l : List α) (x : α) : (l.mergeSort le).filter (alike le x) = l.filter (alike le x) := by
  have hpairwise : (l.filter (alike le x)).Pairwise (fun y z => le y z = true) := by
    rw [List.pairwise_iff_forall_sublist]
    intro y z h
    have hy : alike le x y = true := (List.mem_filter.mp (h.subset List.mem_cons_self)).2
    have hz : alike le x z = true := (List.mem_filter.mp (h.subset (List.mem_cons_of_mem _ List.mem_cons_self))).2
    exact alike_trans htrans hy hz
  have hsub := (List.sublist_mergeSort htrans htotal hpairwise List.filter_sublist).filter (alike le x)
  rw [List.filter_filter, List.filter_congr fun y _ => Bool.and_self (alike le x y)] at hsub
  refine (hsub.eq_of_length ?_).symm
  exact ((List.mergeSort_perm l le).filter (alike le x)).length_eq.symm

omit htrans in
/-- Sorted lists are the same when the items of each place are. -/
theorem eq_of_filter_alike (ha : a.Pairwise (fun y z => le y z = true)) (hb : b.Pairwise (fun y z => le y z = true))
    (h : ∀ x, a.filter (alike le x) = b.filter (alike le x)) : a = b := by
  have hrefl : ∀ x, alike le x x = true := fun x => by
    rw [alike, Bool.and_self, ← Bool.or_self (le x x)]
    exact htotal x x
  induction a generalizing b with
  | nil =>
      cases b with
      | nil => rfl
      | cons y b =>
          have hy := h y
          rw [List.filter_cons_of_pos (hrefl y)] at hy
          cases hy
  | cons x a ih =>
      cases b with
      | nil =>
          have hx := h x
          rw [List.filter_cons_of_pos (hrefl x)] at hx
          cases hx
      | cons y b =>
          rw [List.pairwise_cons] at ha hb
          have hle : ∀ {u v : α} {c : List α}, (∀ z ∈ c, le u z = true) → v ∈ u :: c → le u v = true := by
            intro u v c hc hv
            rcases List.mem_cons.mp hv with rfl | hv
            · exact (Bool.and_eq_true _ _ ▸ hrefl v).1
            · exact hc v hv
          have hyx : y ∈ x :: a := by
            have hmem : y ∈ (y :: b).filter (alike le y) := List.mem_filter.mpr ⟨List.mem_cons_self, hrefl y⟩
            rw [← h y] at hmem
            exact (List.mem_filter.mp hmem).1
          have hxy : x ∈ y :: b := by
            have hmem : x ∈ (x :: a).filter (alike le x) := List.mem_filter.mpr ⟨List.mem_cons_self, hrefl x⟩
            rw [h x] at hmem
            exact (List.mem_filter.mp hmem).1
          have halike : alike le x y = true := by
            rw [alike, hle ha.1 hyx, hle hb.1 hxy, Bool.and_self]
          have hhead : x = y := by
            have hx := h x
            rw [List.filter_cons_of_pos (hrefl x), List.filter_cons_of_pos halike] at hx
            exact (List.cons.inj hx).1
          subst hhead
          congr 1
          refine ih ha.2 hb.2 fun z => ?_
          have hz := h z
          cases hzx : alike le z x with
          | true =>
              rw [List.filter_cons_of_pos hzx, List.filter_cons_of_pos hzx] at hz
              exact (List.cons.inj hz).2
          | false =>
              have hneg : ¬ alike le z x = true := by
                rw [hzx]
                decide
              rwa [List.filter_cons_of_neg hneg, List.filter_cons_of_neg hneg] at hz

theorem mergeSort_eq_iff :
    a.mergeSort le = b.mergeSort le ↔ ∀ x, a.filter (alike le x) = b.filter (alike le x) := by
  constructor
  · intro h x
    rw [← filter_mergeSort htrans htotal a x, h, filter_mergeSort htrans htotal b x]
  · intro h
    refine eq_of_filter_alike htotal (List.pairwise_mergeSort htrans htotal a)
      (List.pairwise_mergeSort htrans htotal b) fun x => ?_
    rw [filter_mergeSort htrans htotal, filter_mergeSort htrans htotal, h x]

end

end PyMotor.Lib

/-! ## What is left out of a concatenation -/

namespace PyMotor.Lib.Sublist

variable {α β : Type}

theorem append_eq_iff {l₁ l₂ r₁ r₂ : List β} (hl : l₁.Sublist l₂) (hr : r₁.Sublist r₂) :
    l₁ ++ r₁ = l₂ ++ r₂ ↔ l₁ = l₂ ∧ r₁ = r₂ := by
  constructor
  · intro h
    have hlength := congrArg List.length h
    rw [List.length_append, List.length_append] at hlength
    have hleft := hl.length_le
    have hright := hr.length_le
    exact List.append_inj h (by omega)
  · rintro ⟨rfl, rfl⟩
    rfl

theorem flatMap {l : List α} {f g : α → List β} (h : ∀ a ∈ l, (f a).Sublist (g a)) :
    (l.flatMap f).Sublist (l.flatMap g) := by
  induction l with
  | nil => exact List.Sublist.refl _
  | cons a l ih =>
      rw [List.flatMap_cons, List.flatMap_cons]
      exact (h a List.mem_cons_self).append (ih fun b hb => h b (List.mem_cons_of_mem _ hb))

theorem flatMap_eq_iff {l : List α} {f g : α → List β} (h : ∀ a ∈ l, (f a).Sublist (g a)) :
    l.flatMap f = l.flatMap g ↔ ∀ a ∈ l, f a = g a := by
  induction l with
  | nil => simp
  | cons a l ih =>
      have htail : ∀ b ∈ l, (f b).Sublist (g b) := fun b hb => h b (List.mem_cons_of_mem _ hb)
      rw [List.flatMap_cons, List.flatMap_cons, append_eq_iff (h a List.mem_cons_self) (flatMap htail), ih htail,
        List.forall_mem_cons]

end PyMotor.Lib.Sublist

/-!
## Ranges and blocks of integers

The numbers of a range as a list, and the line of the integers cut into blocks of one width: the `i`-th block of width
`w` starts at `i * w`.
-/

namespace PyMotor.Lib

/-! ## Ranges -/

theorem range_add_nat (s : Int) (n : Nat) : Int.range s (s + n) = (List.range n).map fun j : Nat => s + j := by
  simp [Int.range]

theorem length_intRange (a b : Int) : (Int.range a b).length = (b - a).toNat := by simp [Int.range]

theorem nodup_intRange (a b : Int) : (Int.range a b).Nodup := by
  apply List.Nodup.map
  · intro j k h
    simpa using h
  · exact List.nodup_range

theorem intRange_append {a b c : Int} (hab : a ≤ b) (hbc : b ≤ c) :
    Int.range a b ++ Int.range b c = Int.range a c := by
  obtain ⟨m, rfl⟩ := Int.le.dest hab
  obtain ⟨n, rfl⟩ := Int.le.dest hbc
  rw [range_add_nat, range_add_nat, add_assoc, ← Nat.cast_add, range_add_nat, List.range_add, List.map_append,
    List.map_map]
  congr 1
  apply List.map_congr_left
  intro j _
  simp [add_assoc]

/-- The numbers from `s` on that are below `d`. -/
theorem filterMap_range_lt {β : Type} (f : Int → β) (s d : Int) (n : Nat) :
    ((List.range n).filterMap fun j => if s + (j : Nat) < d then some (f (s + j)) else none) =
      (Int.range s (min (s + n) d)).map f := by
  induction n with
  | zero => simp [Int.range]
  | succ n ih =>
      rw [List.range_succ, List.filterMap_append, ih]
      by_cases h : s + n < d
      · rw [min_eq_left (by omega : s + n ≤ d), min_eq_left (by push_cast; omega), range_add_nat, range_add_nat,
          List.range_succ]
        simp [h]
      · rw [min_eq_right (by omega : d ≤ s + n), min_eq_right (by push_cast; omega)]
        simp [h]

/-! ## Blocks -/

def block (w i : Int) : Set Int := Set.Ico (i * w) (i * w + w)

variable {w i j n x : Int}

/-- A block ends before a later one starts. -/
theorem block_end_le (h : i < j) (hw : 0 ≤ w) : i * w + w ≤ j * w := by
  have hle := mul_le_mul_of_nonneg_right (Int.add_one_le_iff.mpr h) hw
  rwa [add_mul, one_mul] at hle

theorem block_disjoint (hw : 0 ≤ w) (h : i ≠ j) : Disjoint (block w i) (block w j) := by
  rw [Set.disjoint_left]
  rintro x ⟨hle, hlt⟩ ⟨hle', hlt'⟩
  rcases lt_or_gt_of_ne h with h | h
  · have hend := block_end_le h hw
    omega
  · have hend := block_end_le h hw
    omega

theorem mem_block_iff (hw : 0 < w) : x ∈ block w i ↔ x / w = i := (Int.ediv_eq_iff_of_pos hw).symm

/-- The first `n` blocks are the first `n * w` numbers. -/
theorem exists_block_iff (hw : 0 < w) : (∃ i, 0 ≤ i ∧ i < n ∧ x ∈ block w i) ↔ 0 ≤ x ∧ x < n * w := by
  constructor
  · rintro ⟨i, hi, hlt, hle, hx⟩
    have hend := block_end_le hlt hw.le
    have hstart := mul_nonneg hi hw.le
    omega
  · rintro ⟨hx, hlt⟩
    refine ⟨x / w, Int.ediv_nonneg hx hw.le, Int.ediv_lt_of_lt_mul hw hlt, (mem_block_iff hw).mpr rfl⟩

end PyMotor.Lib
