import PyMotor.Lib.Numeral

/-!
# JSON values as Python sees them

The values that `json.loads` returns, with the truth value, the dictionary operations and `int` of the
language. A dictionary is a list of its items in insertion order; the first item of a key counts. A float is an exact
rational: `Infinity` and `NaN`, which are not JSON but are read as well, are left out.
-/

namespace PyMotor.Lib

inductive Json
  | null
  | bool (b : Bool)
  | int (n : Int)
  | float (q : ℚ)
  | str (s : String)
  | arr (xs : List Json)
  | obj (items : List (String × Json))

/-- A Python dictionary with string keys. -/
abbrev JsonObj := List (String × Json)

namespace Json

/-- `bool(x)`. -/
def truthy : Json → Bool
  | .null => false
  | .bool b => b
  | .int n => n ≠ 0
  | .float q => q ≠ 0
  | .str s => s ≠ ""
  | .arr xs => !xs.isEmpty
  | .obj items => !items.isEmpty

/-- `x or y`, where a missing value counts as `None`. -/
def orElse (x : Option Json) (y : Json) : Json :=
  match x with
  | some v => if v.truthy then v else y
  | none => y

/-- `x is not None`. -/
def isNotNone : Option Json → Bool
  | none => false
  | some .null => false
  | some _ => true

/-- `x == s` for a string `s`. -/
def eqStr (x : Option Json) (s : String) : Bool :=
  match x with
  | some (.str t) => t = s
  | _ => false

/-- `int(x)`, with `none` for a `TypeError` or a `ValueError`. -/
def toInt? : Json → Option Int
  | .bool b => some (if b then 1 else 0)
  | .int n => some n
  | .float q => some (q.num.tdiv q.den)
  | .str s => Text.int 10 s.toList
  | _ => none

end Json

namespace JsonObj

/-- `d.get(k)`. -/
def get? (d : JsonObj) (k : String) : Option Json := d.lookup k

/-- `k in d`. -/
def contains (d : JsonObj) (k : String) : Bool := (d.lookup k).isSome

/-- `d[k] = v`. -/
def set (d : JsonObj) (k : String) (v : Json) : JsonObj :=
  match d with
  | [] => [(k, v)]
  | (k', v') :: rest => if k' = k then (k, v) :: rest else (k', v') :: set rest k v

/-- `d.pop(k, None)`, the dictionary. -/
def pop (d : JsonObj) (k : String) : JsonObj := d.filter fun item => item.1 ≠ k

@[simp] theorem get?_nil (k : String) : get? [] k = none := rfl

theorem get?_cons (k' : String) (v : Json) (d : JsonObj) (k : String) :
    get? ((k', v) :: d) k = if k = k' then some v else get? d k := by
  by_cases h : k = k'
  · simp [get?, h]
  · have hne : (k == k') = false := by simpa using h
    simp [get?, List.lookup_cons, h, hne]

theorem contains_eq (d : JsonObj) (k : String) : d.contains k = (d.get? k).isSome := rfl

theorem get?_set (d : JsonObj) (k : String) (v : Json) (k' : String) :
    (d.set k v).get? k' = if k' = k then some v else d.get? k' := by
  induction d with
  | nil => simp [set, get?_cons]
  | cons item d ih =>
      obtain ⟨k₁, v₁⟩ := item
      by_cases hk : k₁ = k
      · subst hk
        simp only [set, if_pos, get?_cons]
        split <;> rfl
      · simp only [set, if_neg hk, get?_cons, ih]
        by_cases h₁ : k' = k₁
        · simp [h₁, hk]
        · simp [h₁]

@[simp] theorem get?_set_self (d : JsonObj) (k : String) (v : Json) : (d.set k v).get? k = some v := by
  simp [get?_set]

theorem get?_set_ne {k k' : String} (h : k' ≠ k) (d : JsonObj) (v : Json) : (d.set k v).get? k' = d.get? k' := by
  simp [get?_set, h]

theorem get?_filter (d : JsonObj) (p : String → Bool) (k : String) :
    get? (d.filter fun item => p item.1) k = if p k then d.get? k else none := by
  induction d with
  | nil => simp
  | cons item d ih =>
      obtain ⟨k', v⟩ := item
      rw [get?_cons]
      cases hp : p k' with
      | true =>
          rw [List.filter_cons_of_pos (by simpa using hp), get?_cons, ih]
          by_cases hk : k = k'
          · simp [hk, hp]
          · simp [hk]
      | false =>
          rw [List.filter_cons_of_neg (by simpa using hp), ih]
          by_cases hk : k = k'
          · simp [hk, hp]
          · simp [hk]

theorem get?_pop (d : JsonObj) (k k' : String) : (d.pop k).get? k' = if k' = k then none else d.get? k' := by
  unfold pop
  have h := get?_filter d (fun x => x ≠ k) k'
  simp only [ne_eq, decide_not] at h ⊢
  rw [h]
  by_cases hk : k' = k <;> simp [hk]

theorem get?_foldl_pop (d : JsonObj) (keys : List String) (k : String) :
    (keys.foldl pop d).get? k = if k ∈ keys then none else d.get? k := by
  induction keys generalizing d with
  | nil => simp
  | cons key keys ih =>
      rw [List.foldl_cons, ih, get?_pop]
      by_cases hk : k = key <;> simp [hk]

end JsonObj

end PyMotor.Lib
