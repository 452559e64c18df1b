import Mathlib.Algebra.BigOperators.Group.List.Basic
import Mathlib.Data.List.Nodup
import Mathlib.Tactic.Abel

/-!
# Insertion-ordered dictionaries

A dictionary keeps its entries in the order in which the keys were first set. Setting a present key
replaces the value in place, setting an absent key appends, erasing a key keeps the order of the rest.
The structure carries the proof that no key occurs twice.
-/

namespace PyMotor.Lib

/-- Entries in insertion order, one for each key. -/
@[ext] structure Dict (κ : Type) (α : Type) where
  entries : List (κ × α)
  nodup : (entries.map Prod.fst).Nodup
deriving DecidableEq

namespace Dict

variable {κ α β : Type}

/-! ## Operations -/

def empty : Dict κ α := ⟨[], List.nodup_nil⟩

/-- The dictionary of one item. -/
def single (k : κ) (v : α) : Dict κ α := ⟨[(k, v)], List.nodup_singleton k⟩

def keys (d : Dict κ α) : List κ := d.entries.map Prod.fst

def values (d : Dict κ α) : List α := d.entries.map Prod.snd

/-- Apply `f` to every value. -/
def mapValues (d : Dict κ α) (f : α → β) : Dict κ β :=
  ⟨d.entries.map (fun e => (e.1, f e.2)), by rw [List.map_map]; exact d.nodup⟩

@[simp] theorem entries_empty : (empty : Dict κ α).entries = [] := rfl

@[simp] theorem values_empty : (empty : Dict κ α).values = [] := rfl

@[simp] theorem keys_mapValues (d : Dict κ α) (f : α → β) : (d.mapValues f).keys = d.keys := by
  simp [keys, mapValues]

theorem nodup_entries (d : Dict κ α) : d.entries.Nodup := List.Nodup.of_map _ d.nodup

theorem eq_of_keys_values {d d' : Dict κ α} (hkeys : d.keys = d'.keys) (hvalues : d.values = d'.values) : d = d' := by
  apply Dict.ext
  exact (List.zip_of_prod hkeys hvalues).trans (List.zip_of_prod rfl rfl).symm

@[simp] theorem values_mapValues (d : Dict κ α) (f : α → β) : (d.mapValues f).values = d.values.map f := by
  simp [values, mapValues]

variable [DecidableEq κ]

/-- The value of a key, as `d.get(k)`. -/
def get? (d : Dict κ α) (k : κ) : Option α := d.entries.lookup k

/-- `k in d`. -/
def contains (d : Dict κ α) (k : κ) : Bool := (d.get? k).isSome

/-- Replace the value of `k` in place, or append the entry when `k` is absent. -/
def setEntries (k : κ) (v : α) : List (κ × α) → List (κ × α)
  | [] => [(k, v)]
  | (k', v') :: es => if k' = k then (k', v) :: es else (k', v') :: setEntries k v es

theorem setEntries_keys (k : κ) (v : α) (es : List (κ × α)) :
    (setEntries k v es).map Prod.fst =
      if k ∈ es.map Prod.fst then es.map Prod.fst else es.map Prod.fst ++ [k] := by
  induction es with
  | nil => simp [setEntries]
  | cons e es ih =>
      obtain ⟨k', v'⟩ := e
      by_cases h : k' = k
      · simp [setEntries, h]
      · have h' : k ≠ k' := fun e => h e.symm
        simp only [setEntries, h, ↓reduceIte, List.map_cons, ih, List.mem_cons, h', false_or]
        split <;> simp

theorem setEntries_nodup {k : κ} {v : α} {es : List (κ × α)} (h : (es.map Prod.fst).Nodup) :
    ((setEntries k v es).map Prod.fst).Nodup := by
  rw [setEntries_keys]
  split
  · exact h
  · rename_i hk
    exact List.nodup_append.mpr ⟨h, List.nodup_singleton k, by
      intro a ha b hb
      rw [List.mem_singleton.mp hb]
      rintro rfl
      exact hk ha⟩

/-- `d[k] = v`. -/
def set (d : Dict κ α) (k : κ) (v : α) : Dict κ α := ⟨setEntries k v d.entries, setEntries_nodup d.nodup⟩

/-- `d.pop(k, None)`. -/
def erase (d : Dict κ α) (k : κ) : Dict κ α :=
  ⟨d.entries.filter (fun e => e.1 ≠ k), d.nodup.sublist (List.filter_sublist.map Prod.fst)⟩

/-- Keep the entries whose key meets `p`. -/
def filterKeys (d : Dict κ α) (p : κ → Bool) : Dict κ α :=
  ⟨d.entries.filter (fun e => p e.1), d.nodup.sublist (List.filter_sublist.map Prod.fst)⟩

/-- Apply `f` to the value of `k`, when there is one. -/
def adjust (d : Dict κ α) (k : κ) (f : α → α) : Dict κ α :=
  ⟨d.entries.map (fun e => if e.1 = k then (e.1, f e.2) else e), by
    have h : (d.entries.map (fun e => if e.1 = k then (e.1, f e.2) else e)).map Prod.fst =
        d.entries.map Prod.fst := by
      rw [List.map_map]
      apply List.map_congr_left
      intro e _
      simp only [Function.comp]
      split <;> rfl
    rw [h]; exact d.nodup⟩

/-- Set the entries in order, as `d.update(es)`. -/
def update (d : Dict κ α) (es : List (κ × α)) : Dict κ α := es.foldl (fun d e => d.set e.1 e.2) d

/-! ## Lookup -/

theorem lookup_eq_none_iff {k : κ} {es : List (κ × α)} : es.lookup k = none ↔ k ∉ es.map Prod.fst := by
  induction es with
  | nil => simp
  | cons e es ih =>
      obtain ⟨k', v'⟩ := e
      by_cases h : k = k'
      · simp [h]
      · have hb : (k == k') = false := by simpa using h
        simp [List.lookup_cons, hb, h, ih]

theorem lookup_eq_some_iff {k : κ} {v : α} {es : List (κ × α)} (hn : (es.map Prod.fst).Nodup) :
    es.lookup k = some v ↔ (k, v) ∈ es := by
  induction es with
  | nil => simp
  | cons e es ih =>
      obtain ⟨k', v'⟩ := e
      rw [List.map_cons, List.nodup_cons] at hn
      by_cases h : k = k'
      · subst h
        have hk : (k, v) ∉ es := fun hm => hn.1 (List.mem_map.mpr ⟨_, hm, rfl⟩)
        simp only [List.lookup_cons, BEq.rfl, Option.some.injEq, List.mem_cons, Prod.mk.injEq, true_and,
          hk, or_false]
        exact eq_comm
      · have hb : (k == k') = false := by simpa using h
        simp [List.lookup_cons, hb, h, ih hn.2]

theorem get?_eq_some_iff {d : Dict κ α} {k : κ} {v : α} : d.get? k = some v ↔ (k, v) ∈ d.entries :=
  lookup_eq_some_iff d.nodup

theorem perm_entries {d d' : Dict κ α} (h : ∀ k, d.get? k = d'.get? k) : d.entries.Perm d'.entries := by
  rw [List.perm_ext_iff_of_nodup d.nodup_entries d'.nodup_entries]
  rintro ⟨k, v⟩
  rw [← get?_eq_some_iff, ← get?_eq_some_iff, h]

theorem get?_eq_none_iff {d : Dict κ α} {k : κ} : d.get? k = none ↔ k ∉ d.keys := lookup_eq_none_iff

theorem mem_keys_iff {d : Dict κ α} {k : κ} : k ∈ d.keys ↔ ∃ v, d.get? k = some v := by
  rw [← not_iff_not, ← get?_eq_none_iff, not_exists]
  exact Option.eq_none_iff_forall_ne_some

theorem contains_iff {d : Dict κ α} {k : κ} : d.contains k = true ↔ ∃ v, d.get? k = some v :=
  Option.isSome_iff_exists

theorem contains_eq_false_iff {d : Dict κ α} {k : κ} : d.contains k = false ↔ d.get? k = none := by
  simp [contains]

theorem contains_iff_mem_keys {d : Dict κ α} {k : κ} : d.contains k = true ↔ k ∈ d.keys := by
  rw [contains_iff, mem_keys_iff]

theorem mem_values_iff {d : Dict κ α} {v : α} : v ∈ d.values ↔ ∃ k, d.get? k = some v := by
  simp only [values, List.mem_map, get?_eq_some_iff]
  constructor
  · rintro ⟨⟨k, v'⟩, hm, rfl⟩; exact ⟨k, hm⟩
  · rintro ⟨k, hm⟩; exact ⟨(k, v), hm, rfl⟩

@[simp] theorem get?_empty (k : κ) : (empty : Dict κ α).get? k = none := rfl

/-! ## Lookup after an update -/

theorem setEntries_absent {k : κ} {es : List (κ × α)} (h : k ∉ es.map Prod.fst) (v : α) :
    setEntries k v es = es ++ [(k, v)] := by
  induction es with
  | nil => rfl
  | cons e es ih =>
      rw [List.map_cons, List.mem_cons, not_or] at h
      have hne : e.1 ≠ k := fun he => h.1 he.symm
      simp only [setEntries, hne, ↓reduceIte, ih h.2, List.cons_append]

theorem lookup_setEntries (k k' : κ) (v : α) (es : List (κ × α)) :
    (setEntries k v es).lookup k' = if k' = k then some v else es.lookup k' := by
  induction es with
  | nil =>
      by_cases h : k' = k
      · simp [setEntries, h]
      · have hb : (k' == k) = false := by simpa using h
        simp [setEntries, List.lookup_cons, hb, h]
  | cons e es ih =>
      obtain ⟨a, b⟩ := e
      by_cases ha : a = k
      · subst ha
        by_cases h : k' = a
        · simp [setEntries, h]
        · have hb : (k' == a) = false := by simpa using h
          simp [setEntries, List.lookup_cons, hb, h]
      · by_cases h : k' = a
        · subst h
          simp [setEntries, ha]
        · have hb : (k' == a) = false := by simpa using h
          simp [setEntries, ha, List.lookup_cons, hb, ih]

theorem get?_set (d : Dict κ α) (k k' : κ) (v : α) :
    (d.set k v).get? k' = if k' = k then some v else d.get? k' := lookup_setEntries k k' v d.entries

@[simp] theorem get?_set_self (d : Dict κ α) (k : κ) (v : α) : (d.set k v).get? k = some v := by
  rw [get?_set, if_pos rfl]

theorem contains_set {d : Dict κ α} {k k' : κ} {v : α} :
    (d.set k v).contains k' = true ↔ k' = k ∨ d.contains k' = true := by
  rw [contains, contains, get?_set]
  split
  · rename_i h
    simp [h]
  · rename_i h
    simp [h]

theorem get?_set_ne {d : Dict κ α} {k k' : κ} {v : α} (h : k' ≠ k) : (d.set k v).get? k' = d.get? k' := by
  rw [get?_set, if_neg h]

theorem get?_erase (d : Dict κ α) (k k' : κ) :
    (d.erase k).get? k' = if k' = k then none else d.get? k' := by
  by_cases h : k' = k
  · rw [if_pos h, get?_eq_none_iff]
    simp [keys, erase, h]
  · rw [if_neg h]
    apply Option.ext
    intro v
    rw [get?_eq_some_iff, get?_eq_some_iff]
    simp [erase, h]

@[simp] theorem get?_erase_self (d : Dict κ α) (k : κ) : (d.erase k).get? k = none := by
  rw [get?_erase, if_pos rfl]

theorem get?_erase_ne {d : Dict κ α} {k k' : κ} (h : k' ≠ k) : (d.erase k).get? k' = d.get? k' := by
  rw [get?_erase, if_neg h]

theorem get?_filterKeys (d : Dict κ α) (p : κ → Bool) (k : κ) :
    (d.filterKeys p).get? k = if p k then d.get? k else none := by
  apply Option.ext
  intro v
  rw [get?_eq_some_iff]
  split
  · rename_i h
    rw [get?_eq_some_iff]
    simp [filterKeys, h]
  · rename_i h
    simp [filterKeys, h]

@[simp] theorem update_nil (d : Dict κ α) : d.update [] = d := rfl

@[simp] theorem update_cons (d : Dict κ α) (e : κ × α) (es : List (κ × α)) :
    d.update (e :: es) = (d.set e.1 e.2).update es := rfl

theorem get?_update_of_not_mem {d : Dict κ α} {k : κ} {es : List (κ × α)} (h : k ∉ es.map Prod.fst) :
    (d.update es).get? k = d.get? k := by
  induction es generalizing d with
  | nil => rfl
  | cons e es ih =>
      rw [List.map_cons, List.mem_cons, not_or] at h
      rw [update_cons, ih h.2, get?_set_ne h.1]

theorem get?_update_of_mem {d : Dict κ α} {k : κ} {v : α} {es : List (κ × α)} (hn : (es.map Prod.fst).Nodup)
    (h : (k, v) ∈ es) : (d.update es).get? k = some v := by
  induction es generalizing d with
  | nil => cases h
  | cons e es ih =>
      rw [List.map_cons, List.nodup_cons] at hn
      rw [update_cons]
      rcases List.mem_cons.mp h with rfl | h
      · rw [get?_update_of_not_mem hn.1, get?_set_self]
      · exact ih hn.2 h

theorem get?_update_iff {d : Dict κ α} {k : κ} {v : α} {es : List (κ × α)} (hn : (es.map Prod.fst).Nodup) :
    (d.update es).get? k = some v ↔ (k, v) ∈ es ∨ k ∉ es.map Prod.fst ∧ d.get? k = some v := by
  by_cases hk : k ∈ es.map Prod.fst
  · obtain ⟨⟨k', v'⟩, hm, rfl⟩ := List.mem_map.mp hk
    rw [get?_update_of_mem hn hm]
    constructor
    · intro h
      cases h
      exact Or.inl hm
    · rintro (hv | ⟨hn', -⟩)
      · rw [← get?_update_of_mem (d := d) hn hm, get?_update_of_mem hn hv]
      · exact absurd hk hn'
  · rw [get?_update_of_not_mem hk]
    exact ⟨fun h => Or.inr ⟨hk, h⟩, fun h => h.elim (fun hm => absurd (List.mem_map_of_mem hm) hk) And.right⟩

/-- New keys are appended in order. -/
theorem entries_update_absent {d : Dict κ α} {es : List (κ × α)} (hn : (es.map Prod.fst).Nodup)
    (h : ∀ e ∈ es, d.get? e.1 = none) : (d.update es).entries = d.entries ++ es := by
  induction es generalizing d with
  | nil => simp
  | cons e es ih =>
      rw [List.map_cons, List.nodup_cons] at hn
      have hset : (d.set e.1 e.2).entries = d.entries ++ [e] :=
        setEntries_absent (get?_eq_none_iff.mp (h e (List.mem_cons_self ..))) e.2
      rw [update_cons, ih hn.2, hset, List.append_assoc, List.singleton_append]
      intro e' he'
      have hne : e'.1 ≠ e.1 := fun he => hn.1 (he ▸ List.mem_map_of_mem he')
      rw [get?_set_ne hne]
      exact h e' (List.mem_cons_of_mem _ he')

theorem exists_get?_update {d : Dict κ α} {k : κ} {es : List (κ × α)} (h : k ∈ es.map Prod.fst) :
    ∃ v, (d.update es).get? k = some v := by
  induction es generalizing d with
  | nil => cases h
  | cons e es ih =>
      by_cases hk : k ∈ es.map Prod.fst
      · exact ih hk
      · rw [List.map_cons, List.mem_cons, or_iff_left hk] at h
        rw [update_cons, get?_update_of_not_mem hk, h]
        exact ⟨e.2, get?_set_self ..⟩

theorem get?_update_or {d : Dict κ α} {k : κ} {v : α} {es : List (κ × α)} (h : (d.update es).get? k = some v) :
    (k, v) ∈ es ∨ d.get? k = some v := by
  induction es generalizing d with
  | nil => exact Or.inr h
  | cons e es ih =>
      rw [update_cons] at h
      rcases ih h with hm | hd
      · exact Or.inl (List.mem_cons_of_mem _ hm)
      · rw [get?_set] at hd
        split at hd
        · rename_i hk
          cases hd
          exact Or.inl (hk ▸ List.mem_cons_self ..)
        · exact Or.inr hd

theorem get?_update (d : Dict κ α) (es : List (κ × α)) (k : κ) :
    (d.update es).get? k = (((es.filter fun e => e.1 = k).getLast?).map Prod.snd).or (d.get? k) := by
  induction es generalizing d with
  | nil => rfl
  | cons e es ih =>
      rw [update_cons, ih, get?_set, List.filter_cons]
      by_cases hk : e.1 = k
      · rw [if_pos hk.symm, if_pos (by simpa using hk), List.getLast?_cons]
        cases (es.filter fun e => e.1 = k).getLast? with
        | none => rfl
        | some last => rfl
      · rw [if_neg fun he => hk he.symm, if_neg (by simpa using hk)]

theorem get?_update_map (d : Dict κ α) (key : α → κ) (vs : List α) (k : κ) :
    (d.update (vs.map fun v => (key v, v))).get? k = ((vs.filter fun v => key v = k).getLast?).or (d.get? k) := by
  rw [get?_update, List.filter_map, List.getLast?_map, Option.map_map]
  exact congrArg (Option.or · _) Option.map_id'

theorem get?_adjust (d : Dict κ α) (k k' : κ) (f : α → α) :
    (d.adjust k f).get? k' = if k' = k then (d.get? k').map f else d.get? k' := by
  show (d.entries.map _).lookup k' = if k' = k then (d.entries.lookup k').map f else d.entries.lookup k'
  induction d.entries with
  | nil => simp
  | cons e es ih =>
      obtain ⟨a, b⟩ := e
      simp only [List.map_cons, List.lookup_cons]
      by_cases ha : a = k
      · subst ha
        by_cases h : k' = a
        · simp [h]
        · have hb : (k' == a) = false := by simpa using h
          simpa [List.lookup_cons, hb, h] using ih
      · by_cases h : k' = a
        · subst h; simp [ha]
        · have hb : (k' == a) = false := by simpa using h
          simpa [List.lookup_cons, ha, hb] using ih

omit [DecidableEq κ] in
@[simp] theorem mapValues_id (d : Dict κ α) : (d.mapValues fun v => v) = d := by
  cases d
  simp [mapValues]

theorem get?_mapValues (d : Dict κ α) (f : α → β) (k : κ) : (d.mapValues f).get? k = (d.get? k).map f := by
  show (d.entries.map _).lookup k = (d.entries.lookup k).map f
  induction d.entries with
  | nil => simp
  | cons e es ih =>
      obtain ⟨a, b⟩ := e
      simp only [List.map_cons, List.lookup_cons]
      cases k == a
      · exact ih
      · rfl

theorem mapValues_adjust {f : α → α} {g : α → β} (hg : ∀ v, g (f v) = g v) (d : Dict κ α) (k : κ) :
    (d.adjust k f).mapValues g = d.mapValues g := by
  apply Dict.ext
  simp only [mapValues, adjust, List.map_map]
  apply List.map_congr_left
  intro e _
  simp only [Function.comp]
  split <;> simp [hg]

@[simp] theorem keys_adjust (d : Dict κ α) (k : κ) (f : α → α) : (d.adjust k f).keys = d.keys := by
  simp only [keys, adjust, List.map_map]
  apply List.map_congr_left
  intro e _
  simp only [Function.comp]
  split <;> rfl

theorem ext_of_get? {d d' : Dict κ α} (hkeys : d.keys = d'.keys) (hget : ∀ k, d.get? k = d'.get? k) : d = d' := by
  apply Dict.ext
  have hlen : d.entries.length = d'.entries.length := by simpa [keys] using congrArg List.length hkeys
  apply List.ext_getElem hlen
  intro i hi hi'
  have hkey : d.entries[i].1 = d'.entries[i].1 := by
    have := congrArg (·[i]?) hkeys
    simpa [keys, hi, hi'] using this
  have hval : d.get? d.entries[i].1 = some d.entries[i].2 := get?_eq_some_iff.mpr (List.getElem_mem hi)
  have hval' : d'.get? d'.entries[i].1 = some d'.entries[i].2 := get?_eq_some_iff.mpr (List.getElem_mem hi')
  rw [hget, hkey, hval'] at hval
  exact Prod.ext hkey (Option.some.inj hval).symm

theorem keys_set_present {d : Dict κ α} {k : κ} {v : α} (h : d.get? k = some v) (v' : α) :
    (d.set k v').keys = d.keys := by
  show (setEntries k v' d.entries).map Prod.fst = d.entries.map Prod.fst
  rw [setEntries_keys]
  exact if_pos (mem_keys_iff.mpr ⟨v, h⟩)

theorem adjust_id (d : Dict κ α) (k : κ) : d.adjust k id = d := by
  refine ext_of_get? (keys_adjust d k id) fun k' => ?_
  rw [get?_adjust, Option.map_id, id, ite_self]

theorem adjust_adjust (d : Dict κ α) (k : κ) (f g : α → α) : (d.adjust k f).adjust k g = d.adjust k (g ∘ f) := by
  refine ext_of_get? (by simp) fun k' => ?_
  rw [get?_adjust, get?_adjust, get?_adjust]
  split
  · exact Option.map_map g f _
  · rfl

theorem set_eq_adjust {d : Dict κ α} {k : κ} {v : α} (h : d.get? k = some v) (f : α → α) :
    d.set k (f v) = d.adjust k f := by
  refine ext_of_get? ((keys_set_present h _).trans (keys_adjust d k f).symm) fun k' => ?_
  rw [get?_set, get?_adjust]
  split
  · rename_i hk
    rw [hk, h, Option.map_some]
  · rfl

theorem keys_update_present {d : Dict κ α} {es : List (κ × α)} (h : ∀ e ∈ es, e.1 ∈ d.keys) :
    (d.update es).keys = d.keys := by
  induction es generalizing d with
  | nil => rfl
  | cons e es ih =>
      rw [List.forall_mem_cons] at h
      obtain ⟨v, hv⟩ := mem_keys_iff.mp h.1
      have hset : (d.set e.1 e.2).keys = d.keys := keys_set_present hv e.2
      rw [update_cons, ih fun e' he' => hset ▸ h.2 e' he', hset]

theorem update_of_keys {d d' : Dict κ α} (h : d.keys = d'.keys) : d.update d'.entries = d' := by
  have hpresent : ∀ e ∈ d'.entries, e.1 ∈ d.keys := fun e he => h ▸ List.mem_map_of_mem he
  refine ext_of_get? ((keys_update_present hpresent).trans h) fun k => ?_
  by_cases hk : k ∈ d'.keys
  · obtain ⟨v, hv⟩ := mem_keys_iff.mp hk
    rw [hv]
    exact get?_update_of_mem d'.nodup (get?_eq_some_iff.mp hv)
  · have hnone : d.get? k = none := get?_eq_none_iff.mpr (h ▸ hk)
    rw [get?_update_of_not_mem hk, hnone, get?_eq_none_iff.mpr hk]

theorem mapValues_set_present {d : Dict κ α} {k : κ} {v v' : α} {g : α → β} (h : d.get? k = some v)
    (hg : g v' = g v) : (d.set k v').mapValues g = d.mapValues g := by
  apply ext_of_get?
  · rw [keys_mapValues, keys_mapValues, keys_set_present h]
  · intro k'
    rw [get?_mapValues, get?_mapValues, get?_set]
    split
    · rename_i hk
      rw [hk, h, Option.map_some, Option.map_some, hg]
    · rfl

/-! ## Sums over the values -/

section Sum

variable {M : Type} [AddCommGroup M]

theorem sum_entries_adjust {k : κ} {v : α} (f : α → α) (g : α → M) {es : List (κ × α)}
    (hn : (es.map Prod.fst).Nodup) (hk : (k, v) ∈ es) :
    ((es.map (fun e => if e.1 = k then (e.1, f e.2) else e)).map (fun e => g e.2)).sum =
      (es.map (fun e => g e.2)).sum + (g (f v) - g v) := by
  induction es with
  | nil => simp at hk
  | cons e es ih =>
      obtain ⟨a, b⟩ := e
      rw [List.map_cons, List.nodup_cons] at hn
      rcases List.mem_cons.mp hk with hk | hk
      · obtain ⟨rfl, rfl⟩ := Prod.mk.inj hk
        -- The other entries have other keys, so only the head changes.
        have hes : es.map (fun e => if e.1 = k then (e.1, f e.2) else e) = es := by
          apply (List.map_congr_left _).trans (List.map_id es)
          rintro ⟨c, d⟩ hm
          have hc : c ≠ k := by rintro rfl; exact hn.1 (List.mem_map.mpr ⟨_, hm, rfl⟩)
          simp [hc]
        simp only [List.map_cons, ↓reduceIte, hes, List.sum_cons]
        abel
      · have ha : a ≠ k := by rintro rfl; exact hn.1 (List.mem_map.mpr ⟨_, hk, rfl⟩)
        simp only [List.map_cons, ha, ↓reduceIte, List.sum_cons, ih hn.2 hk]
        abel

theorem sum_values_adjust {d : Dict κ α} {k : κ} {v : α} (f : α → α) (g : α → M)
    (hk : d.get? k = some v) :
    ((d.adjust k f).values.map g).sum = (d.values.map g).sum + (g (f v) - g v) := by
  have h := sum_entries_adjust f g d.nodup (get?_eq_some_iff.mp hk)
  simpa only [values, adjust, List.map_map, Function.comp_def] using h

theorem sum_values_congr_except {d : Dict κ α} {k : κ} {v : α} {g g' : α → M} (hk : d.get? k = some v)
    (hg : ∀ k' v', k' ≠ k → d.get? k' = some v' → g' v' = g v') :
    (d.values.map g').sum = (d.values.map g).sum + (g' v - g v) := by
  have key : ∀ es : List (κ × α), (es.map Prod.fst).Nodup → (k, v) ∈ es →
      (∀ e ∈ es, e.1 ≠ k → g' e.2 = g e.2) →
      (es.map fun e => g' e.2).sum = (es.map fun e => g e.2).sum + (g' v - g v) := by
    intro es
    induction es with
    | nil => intro _ h; cases h
    | cons e es ih =>
        intro hn hm hes
        rw [List.map_cons, List.nodup_cons] at hn
        rw [List.map_cons, List.map_cons, List.sum_cons, List.sum_cons]
        rcases List.mem_cons.mp hm with rfl | hm
        · have hrest : (es.map fun e => g' e.2) = es.map fun e => g e.2 := by
            apply List.map_congr_left
            intro e he
            refine hes e (List.mem_cons_of_mem _ he) ?_
            rintro rfl
            exact hn.1 (List.mem_map.mpr ⟨e, he, rfl⟩)
          rw [hrest]
          abel
        · have he : e.1 ≠ k := by
            rintro rfl
            exact hn.1 (List.mem_map.mpr ⟨_, hm, rfl⟩)
          rw [hes e (List.mem_cons_self ..) he, ih hn.2 hm fun x hx => hes x (List.mem_cons_of_mem _ hx)]
          abel
  have h := key d.entries d.nodup (get?_eq_some_iff.mp hk)
    (fun e he hne => hg e.1 e.2 hne (get?_eq_some_iff.mpr he))
  simpa only [values, List.map_map, Function.comp_def] using h

theorem values_set_absent {d : Dict κ α} {k : κ} (h : d.get? k = none) (v : α) :
    (d.set k v).values = d.values ++ [v] := by
  show (setEntries k v d.entries).map Prod.snd = d.entries.map Prod.snd ++ [v]
  rw [setEntries_absent (get?_eq_none_iff.mp h), List.map_append]
  rfl

theorem sum_values_set (d : Dict κ α) (k : κ) (v : α) (g : α → M) :
    ((d.set k v).values.map g).sum = (d.values.map g).sum + (g v - ((d.get? k).map g).getD 0) := by
  cases hk : d.get? k with
  | none =>
      rw [values_set_absent hk]
      simp
  | some v' =>
      have hset : d.set k v = d.adjust k fun _ => v := by
        apply ext_of_get?
        · rw [keys_set_present hk, keys_adjust]
        · intro k'
          rw [get?_set, get?_adjust]
          split
          · rename_i he
            rw [he, hk]
            rfl
          · rfl
      rw [hset, sum_values_adjust _ g hk]
      rfl

end Sum

theorem entries_set_absent {d : Dict κ α} {k : κ} (h : d.get? k = none) (v : α) :
    (d.set k v).entries = d.entries ++ [(k, v)] := setEntries_absent (get?_eq_none_iff.mp h) v

theorem set_self {d : Dict κ α} {k : κ} {v : α} (h : d.get? k = some v) : d.set k v = d := by
  apply ext_of_get? (keys_set_present h v)
  intro k'
  rw [get?_set]
  split
  · rename_i hk
    rw [hk, h]
  · rfl

theorem set_set (d : Dict κ α) (k : κ) (v v' : α) : (d.set k v).set k v' = d.set k v' := by
  apply ext_of_get?
  · rw [keys_set_present (get?_set_self d k v)]
    exact (setEntries_keys k v d.entries).trans (setEntries_keys k v' d.entries).symm
  · intro k'
    rw [get?_set, get?_set, get?_set]
    split <;> rfl

theorem keys_set_absent {d : Dict κ α} {k : κ} (h : d.get? k = none) (v : α) :
    (d.set k v).keys = d.keys ++ [k] := by
  rw [keys, entries_set_absent h, List.map_append]
  rfl

/-! ## Values that are mapped -/

theorem setEntries_map (k : κ) (v : α) (f : α → β) (es : List (κ × α)) :
    (setEntries k v es).map (fun e => (e.1, f e.2)) = setEntries k (f v) (es.map fun e => (e.1, f e.2)) := by
  induction es with
  | nil => rfl
  | cons e es ih => by_cases h : e.1 = k <;> simp [setEntries, h, ih]

theorem mapValues_set (d : Dict κ α) (k : κ) (v : α) (f : α → β) :
    (d.set k v).mapValues f = (d.mapValues f).set k (f v) := Dict.ext (setEntries_map k v f d.entries)

theorem mapValues_update (d : Dict κ α) (es : List (κ × α)) (f : α → β) :
    (d.update es).mapValues f = (d.mapValues f).update (es.map fun e => (e.1, f e.2)) := by
  induction es generalizing d with
  | nil => rfl
  | cons e es ih => rw [update_cons, ih, mapValues_set, List.map_cons, update_cons]

end Dict

end PyMotor.Lib
