import Mathlib.Data.List.Rotate
import Mathlib.Order.Lattice

/-!
# Passes for the smallest and the largest score

A pass over a list keeps the best item so far. With a strict comparison the first of the smallest scores stays, with a
weak one the last of the largest. A score may be missing; such an item is skipped.
-/

namespace PyMotor.Lib

variable {α β : Type} [LinearOrder β]

/-! ## The first of the smallest -/

/-- Keep the best item, unless the next one has a smaller score. -/
def keepMin (score : α → Option β) (best : Option (β × α)) (x : α) : Option (β × α) :=
  match score x with
  | none => best
  | some s =>
    match best with
    | none => some (s, x)
    | some b => if s < b.1 then some (s, x) else best

/-- The score of `x` is below those before it and not above those after it. -/
structure IsFirstMin (score : α → Option β) (l : List α) (s : β) (x : α) : Prop where
  score_eq : score x = some s
  split : ∃ before after, l = before ++ x :: after ∧ (∀ y ∈ before, ∀ t ∈ score y, s < t) ∧
    ∀ y ∈ after, ∀ t ∈ score y, s ≤ t

variable {score : α → Option β} {l l' : List α} {s : β} {x : α}

theorem IsFirstMin.mem (h : IsFirstMin score l s x) : x ∈ l := by
  obtain ⟨before, after, rfl, -, -⟩ := h.split
  simp

theorem IsFirstMin.le (h : IsFirstMin score l s x) {y : α} {t : β} (hy : y ∈ l) (ht : t ∈ score y) : s ≤ t := by
  obtain ⟨before, after, rfl, hbefore, hafter⟩ := h.split
  rcases List.mem_append.mp hy with hy | hy
  · exact (hbefore y hy t ht).le
  · rcases List.mem_cons.mp hy with rfl | hy
    · rw [h.score_eq] at ht
      cases ht
      exact le_rfl
    · exact hafter y hy t ht

theorem foldl_keepMin_snoc (y : α) :
    (l ++ [y]).foldl (keepMin score) none = keepMin score (l.foldl (keepMin score) none) y := by
  simp [List.foldl_append]

/-- A pass finds the first of the smallest scores, or there is no score. -/
theorem foldl_keepMin (score : α → Option β) (l : List α) :
    match l.foldl (keepMin score) none with
    | none => ∀ y ∈ l, score y = none
    | some b => IsFirstMin score l b.1 b.2 := by
  induction l using List.reverseRecOn with
  | nil => simp
  | append_singleton l y ih =>
      rw [foldl_keepMin_snoc]
      cases hbest : l.foldl (keepMin score) none with
      | none =>
          rw [hbest] at ih
          cases hy : score y with
          | none =>
              simp only [keepMin, hy]
              intro z hz
              rcases List.mem_append.mp hz with hz | hz
              · exact ih z hz
              · rwa [List.mem_singleton.mp hz]
          | some t =>
              simp only [keepMin, hy]
              refine ⟨hy, l, [], rfl, fun z hz u hu => ?_, fun z hz => by cases hz⟩
              rw [ih z hz] at hu
              cases hu
      | some b =>
          rw [hbest] at ih
          obtain ⟨before, after, hl, hbefore, hafter⟩ := ih.split
          have hkeep : (∀ t ∈ score y, b.1 ≤ t) → IsFirstMin score (l ++ [y]) b.1 b.2 := by
            intro hle
            refine ⟨ih.score_eq, before, after ++ [y], by simp [hl], hbefore, fun z hz t ht => ?_⟩
            rcases List.mem_append.mp hz with hz | hz
            · exact hafter z hz t ht
            · rw [List.mem_singleton.mp hz] at ht
              exact hle t ht
          cases hy : score y with
          | none =>
              simp only [keepMin, hy]
              exact hkeep fun t ht => by rw [hy] at ht; cases ht
          | some t =>
              by_cases hlt : t < b.1
              · simp only [keepMin, hy, if_pos hlt]
                exact ⟨hy, l, [], rfl, fun z hz u hu => hlt.trans_le (ih.le hz hu), fun z hz => by cases hz⟩
              · simp only [keepMin, hy, if_neg hlt]
                refine hkeep fun u hu => ?_
                rw [hy] at hu
                cases hu
                exact not_lt.mp hlt

theorem exists_isFirstMin (score : α → Option β) (l : List α) (h : ∃ y ∈ l, (score y).isSome) :
    ∃ s x, l.foldl (keepMin score) none = some (s, x) ∧ IsFirstMin score l s x := by
  have hpass := foldl_keepMin score l
  cases hbest : l.foldl (keepMin score) none with
  | none =>
      rw [hbest] at hpass
      obtain ⟨y, hy, hsome⟩ := h
      rw [hpass y hy] at hsome
      cases hsome
  | some b =>
      rw [hbest] at hpass
      exact ⟨b.1, b.2, rfl, hpass⟩

theorem mem_of_foldl_keepMin (h : (l.foldl (keepMin score) none).map Prod.snd = some x) : x ∈ l := by
  have hpass := foldl_keepMin score l
  cases hbest : l.foldl (keepMin score) none with
  | none =>
      rw [hbest] at h
      cases h
  | some b =>
      rw [hbest] at h hpass
      cases h
      exact hpass.mem

/-- The smallest score does not depend on the order. -/
theorem IsFirstMin.score_unique {s' : β} {x' : α} (h : IsFirstMin score l s x) (h' : IsFirstMin score l' s' x')
    (hperm : ∀ y, y ∈ l ↔ y ∈ l') : s = s' :=
  le_antisymm (h.le ((hperm x').mpr h'.mem) h'.score_eq) (h'.le ((hperm x).mp h.mem) h.score_eq)

/-! ## The last of the largest -/

/-- Keep the best item, unless the next one has a score that is not smaller. -/
def keepMax (best : β × Option α) (s : β) (x : α) : β × Option α := if s < best.1 then best else (s, some x)

/-- The score of `x` is not below the bound and those before it, and above those after it. -/
structure IsLastMax (value : α → β) (bound : β) (l : List α) (x : α) : Prop where
  bound_le : bound ≤ value x
  split : ∃ before after, l = before ++ x :: after ∧ (∀ y ∈ before, value y ≤ value x) ∧
    ∀ y ∈ after, value y < value x

variable {value : α → β} {bound : β}

theorem IsLastMax.mem (h : IsLastMax value bound l x) : x ∈ l := by
  obtain ⟨before, after, rfl, -, -⟩ := h.split
  simp

theorem IsLastMax.le (h : IsLastMax value bound l x) {y : α} (hy : y ∈ l) : value y ≤ value x := by
  obtain ⟨before, after, rfl, hbefore, hafter⟩ := h.split
  rcases List.mem_append.mp hy with hy | hy
  · exact hbefore y hy
  · rcases List.mem_cons.mp hy with rfl | hy
    · exact le_rfl
    · exact (hafter y hy).le

/-- There is one last place of the largest score. -/
theorem IsLastMax.unique {x' : α} (h : IsLastMax value bound l x) (h' : IsLastMax value bound l x') : x = x' := by
  obtain ⟨before, after, hl, hbefore, hafter⟩ := h.split
  obtain ⟨before', after', hl', hbefore', hafter'⟩ := h'.split
  rcases List.append_eq_append_iff.mp (hl.symm.trans hl') with ⟨between, rfl, htail⟩ | ⟨between, rfl, htail⟩
  · cases between with
    | nil =>
        cases htail
        rfl
    | cons y between =>
        cases htail
        exact absurd (hafter x' (by simp)) (not_lt.mpr (hbefore' x (by simp)))
  · cases between with
    | nil =>
        cases htail
        rfl
    | cons y between =>
        cases htail
        exact absurd (hafter' x (by simp)) (not_lt.mpr (hbefore x' (by simp)))

theorem foldl_keepMax (value : α → β) (bound : β) (l : List α) :
    match l.foldl (fun best y => keepMax best (value y) y) (bound, none) with
    | (m, none) => m = bound ∧ ∀ y ∈ l, value y < bound
    | (m, some x) => m = value x ∧ IsLastMax value bound l x := by
  induction l using List.reverseRecOn with
  | nil => simp
  | append_singleton l y ih =>
      rw [List.foldl_append, List.foldl_cons, List.foldl_nil]
      generalize l.foldl (fun best y => keepMax best (value y) y) (bound, none) = state at ih ⊢
      obtain ⟨m, best⟩ := state
      have hlast : bound ≤ value y → (∀ z ∈ l, value z ≤ value y) → IsLastMax value bound (l ++ [y]) y :=
        fun hle hall => ⟨hle, l, [], rfl, hall, fun z hz => by cases hz⟩
      cases best with
      | none =>
          obtain ⟨rfl, hbelow⟩ := ih
          by_cases hlt : value y < m
          · simp only [keepMax, if_pos hlt]
            refine ⟨trivial, fun z hz => ?_⟩
            rcases List.mem_append.mp hz with hz | hz
            · exact hbelow z hz
            · rwa [List.mem_singleton.mp hz]
          · simp only [keepMax, if_neg hlt]
            exact ⟨trivial, hlast (not_lt.mp hlt) fun z hz => ((hbelow z hz).trans_le (not_lt.mp hlt)).le⟩
      | some x =>
          obtain ⟨rfl, hx⟩ := ih
          by_cases hlt : value y < value x
          · simp only [keepMax, if_pos hlt]
            obtain ⟨before, after, hl, hbefore, hafter⟩ := hx.split
            refine ⟨trivial, hx.bound_le, before, after ++ [y], by simp [hl], hbefore, fun z hz => ?_⟩
            rcases List.mem_append.mp hz with hz | hz
            · exact hafter z hz
            · rwa [List.mem_singleton.mp hz]
          · simp only [keepMax, if_neg hlt]
            have hle := not_lt.mp hlt
            exact ⟨trivial, hlast (hx.bound_le.trans hle) fun z hz => (hx.le hz).trans hle⟩

/-! ## Scores that are read -/

variable {ε : Type}

/-- A pass that reads the scores one by one. Reading may raise, or find no score. -/
def readMax (read : α → Except ε (Option β)) : List α → β × Option α → Except ε (β × Option α)
  | [], best => .ok best
  | x :: rest, best =>
    match read x with
    | .error e => .error e
    | .ok none => readMax read rest best
    | .ok (some s) => readMax read rest (keepMax best s x)

def known (read : α → Except ε (Option β)) (x : α) : Bool :=
  match read x with
  | .ok (some _) => true
  | _ => false

def scoreOr (read : α → Except ε (Option β)) (bound : β) (x : α) : β :=
  match read x with
  | .ok (some s) => s
  | _ => bound

variable {read : α → Except ε (Option β)}

theorem readMax_ok_iff (bound : β) {best out : β × Option α} : readMax read l best = .ok out ↔
    (∀ y ∈ l, ∃ s, read y = .ok s) ∧
      (l.filter (known read)).foldl (fun best y => keepMax best (scoreOr read bound y) y) best = out := by
  induction l generalizing best with
  | nil => simp [readMax]
  | cons y l ih =>
      cases hread : read y with
      | error e => simp [readMax, hread]
      | ok score =>
          cases score with
          | none => simp [readMax, known, hread, ih]
          | some s => simp [readMax, known, scoreOr, hread, ih]

/-- The pass ends with an item exactly when all can be read and the item is the last of the largest. -/
theorem readMax_some_iff : (∃ m, readMax read l (bound, none) = .ok (m, some x)) ↔
    (∀ y ∈ l, ∃ s, read y = .ok s) ∧ IsLastMax (scoreOr read bound) bound (l.filter (known read)) x := by
  have hpass := foldl_keepMax (scoreOr read bound) bound (l.filter (known read))
  simp only [readMax_ok_iff bound, exists_and_left]
  refine and_congr_right fun _ => ⟨?_, fun hx => ?_⟩
  · rintro ⟨m, hfold⟩
    rw [hfold] at hpass
    exact hpass.2
  · generalize (l.filter (known read)).foldl _ (bound, none) = state at hpass ⊢
    obtain ⟨m, best⟩ := state
    cases best with
    | none => exact absurd hx.bound_le (not_le.mpr (hpass.2 x hx.mem))
    | some y => exact ⟨m, by rw [hpass.2.unique hx]⟩

end PyMotor.Lib
