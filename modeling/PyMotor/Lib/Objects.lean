import Mathlib.Data.List.Basic
import Mathlib.Data.List.Forall2
import Mathlib.Logic.Relation
import PyMotor.Lib.Run

/-!
# Objects that refer to each other

An object has a label of its own and refers to other objects by address. What it stands for is the tree of the labels. A
deep copy makes a new object for each one it meets; a memo keeps those that have been copied. What is reached from a copy
is apart from what it is a copy of, and so are their changes.
-/

/-!
## Heaps of shared objects

Objects that several containers refer to live in a heap, and the containers hold references. References
are never reused, so the objects of a request are fresh.
-/

namespace PyMotor.Lib

/-- The objects by reference. -/
abbrev Heap (α : Type) := List α

namespace Heap

variable {α β : Type} {h : Heap α} {r r' : Nat}

/-- Create objects; their references come first. -/
def alloc (h : Heap α) (xs : List α) : List Nat × Heap α := (List.range' h.length xs.length, h ++ xs)

@[simp] theorem length_alloc (xs : List α) : (h.alloc xs).2.length = h.length + xs.length := by
  simp [alloc]

theorem mem_alloc {xs : List α} : r ∈ (h.alloc xs).1 ↔ h.length ≤ r ∧ r < h.length + xs.length := by
  simp [alloc]

theorem modify_append_length (h : Heap α) (x : α) (f : α → α) : (h ++ [x]).modify h.length f = h ++ [f x] := by
  induction h with
  | nil => rfl
  | cons y h ih => simpa using ih

variable [Inhabited α]

/-- The object behind a reference. -/
def read (h : Heap α) (r : Nat) : α := h.getD r default

theorem read_modify_self (hr : r < h.length) (f : α → α) : read (h.modify r f) r = f (h.read r) := by
  simp [read, hr]

theorem read_modify_ne (hr : r' ≠ r) (f : α → α) : read (h.modify r f) r' = h.read r' := by
  simp [read, hr.symm]

theorem read_modify_congr {f : α → α} {g : α → β} (hg : ∀ x, g (f x) = g x) (r r' : Nat) :
    g (read (h.modify r f) r') = g (h.read r') := by
  by_cases he : r' = r
  · by_cases hr : r < h.length
    · rw [he, read_modify_self hr, hg]
    · simp [read, he, hr]
  · rw [read_modify_ne he]

theorem read_alloc_old (hr : r < h.length) (xs : List α) : (h.alloc xs).2.read r = h.read r := by
  simp [read, alloc, List.getElem?_append_left hr]

theorem read_append_new {xs : List α} (hle : h.length ≤ r) (hlt : r < (h ++ xs).length) :
    read (h ++ xs) r ∈ xs := by
  rw [List.length_append] at hlt
  have hget : (h ++ xs)[r]? = xs[r - h.length]? := List.getElem?_append_right hle
  simp only [read, List.getD_eq_getElem?_getD, hget]
  rw [List.getElem?_eq_getElem (by omega), Option.getD_some]
  exact List.getElem_mem _

theorem map_read_alloc (xs : List α) : (h.alloc xs).1.map (h.alloc xs).2.read = xs := by
  apply List.ext_getElem
  · simp [alloc]
  · intro i hi hx
    simp [read, alloc, hx]

end Heap

variable {α : Type}

/-- The objects by address. -/
abbrev Objects (α : Type) := List (α × List Nat)

inductive ObjectTree (α : Type)
  | node (label : α) (children : List (ObjectTree α))

/-- The object at an address stands for a tree at most `d` deep. -/
def ReadsIn (h : Objects α) : Nat → Nat → ObjectTree α → Prop
  | 0 => fun _ _ => False
  | d + 1 => fun r => fun
    | .node label trees => ∃ refs, h[r]? = some (label, refs) ∧ List.Forall₂ (ReadsIn h d) refs trees

/-- The objects that have been copied, with their copies. -/
abbrev Memo := List (Nat × Nat)

/-- Copy the objects of a list one after the other. -/
def copyAll (copy : Objects α → Memo → Nat → Option (Nat × Objects α × Memo)) :
    Objects α → Memo → List Nat → Option (List Nat × Objects α × Memo)
  | h, memo, [] => some ([], h, memo)
  | h, memo, r :: refs =>
    match copy h memo r with
    | none => none
    | some (r', h, memo) => (copyAll copy h memo refs).map fun out => (r' :: out.1, out.2)

/-- `copy.deepcopy` of an object at most `d` deep: the address of the copy, the objects and the memo. -/
def deepCopy : Nat → Objects α → Memo → Nat → Option (Nat × Objects α × Memo)
  | 0 => fun _ _ _ => none
  | d + 1 => fun h memo r =>
    match memo.lookup r with
    | some r' => some (r', h, memo)
    | none =>
      match h[r]? with
      | none => none
      | some (label, refs) =>
        (copyAll (deepCopy d) h memo refs).map fun (refs', h, memo) =>
          (h.length, h ++ [(label, refs')], (r, h.length) :: memo)

/-! ## Reading -/

variable {h h' h₀ : Objects α} {memo : Memo} {d r : Nat} {t : ObjectTree α}

theorem ReadsIn.extend (hpre : h <+: h') (hread : ReadsIn h d r t) : ReadsIn h' d r t := by
  induction d generalizing r t with
  | zero => cases hread
  | succ d ih =>
      obtain ⟨label, trees⟩ := t
      obtain ⟨refs, hr, htrees⟩ := hread
      obtain ⟨more, rfl⟩ := hpre
      refine ⟨refs, ?_, htrees.imp fun _ _ => ih⟩
      rw [List.getElem?_append_left (List.getElem?_eq_some_iff.mp hr).1, hr]

/-- An object stands for one tree. -/
theorem ReadsIn.unique {d' : Nat} {t' : ObjectTree α} (hread : ReadsIn h d r t) (hread' : ReadsIn h d' r t') : t = t' := by
  induction d generalizing d' r t t' with
  | zero => cases hread
  | succ d ih =>
      cases d' with
      | zero => cases hread'
      | succ d' =>
          obtain ⟨label, trees⟩ := t
          obtain ⟨label', trees'⟩ := t'
          obtain ⟨refs, hr, htrees⟩ := hread
          obtain ⟨refs', hr', htrees'⟩ := hread'
          cases hr.symm.trans hr'
          have heq : trees = trees' := by
            clear hr hr'
            induction htrees generalizing trees' with
            | nil =>
                cases htrees'
                rfl
            | cons hhead _ ihtail =>
                cases htrees' with
                | cons hhead' htail' => rw [ih hhead hhead', ihtail _ htail']
          rw [heq]

/-! ## What a copy is -/

/-- The copy is new and stands for everything that the original stood for. -/
structure Copied (h₀ h : Objects α) (r r' : Nat) : Prop where
  new : h₀.length ≤ r'
  reads : ∀ d t, ReadsIn h₀ d r t → ReadsIn h d r' t

/-- The objects that are there while copying from `h₀`: no new one refers to an old one. -/
structure Copying (h₀ h : Objects α) (memo : Memo) : Prop where
  old : h₀ <+: h
  closed : ∀ r o, h₀.length ≤ r → h[r]? = some o → ∀ s ∈ o.2, h₀.length ≤ s
  copied : ∀ p ∈ memo, Copied h₀ h p.1 p.2

theorem Copied.extend {r' : Nat} (hcopied : Copied h₀ h r r') (hpre : h <+: h') : Copied h₀ h' r r' :=
  ⟨hcopied.new, fun d t hread => (hcopied.reads d t hread).extend hpre⟩

theorem copied_new {refs refs' : List Nat} (hcopied : List.Forall₂ (Copied h₀ h) refs refs') :
    ∀ s ∈ refs', h₀.length ≤ s := by
  induction hcopied with
  | nil => simp
  | cons hhead _ ih => exact List.forall_mem_cons.mpr ⟨hhead.new, ih⟩

theorem copied_reads {refs refs' : List Nat} {trees : List (ObjectTree α)}
    (hcopied : List.Forall₂ (Copied h₀ h) refs refs') (hread : List.Forall₂ (ReadsIn h₀ d) refs trees) :
    List.Forall₂ (ReadsIn h d) refs' trees := by
  induction hcopied generalizing trees with
  | nil =>
      cases hread
      exact .nil
  | cons hhead _ ih =>
      cases hread with
      | cons hread hreads => exact .cons (hhead.reads _ _ hread) (ih hreads)

theorem Copying.start (h₀ : Objects α) : Copying h₀ h₀ [] where
  old := List.prefix_rfl
  closed r o hr ho := absurd (List.getElem?_eq_some_iff.mp ho).1 (Nat.not_lt.mpr hr)
  copied p hp := by cases hp

theorem Copying.forget (hcopy : Copying h₀ h memo) : Copying h₀ h [] where
  old := hcopy.old
  closed := hcopy.closed
  copied p hp := by cases hp

theorem Copying.add (hcopy : Copying h₀ h memo) (label : α) {refs : List Nat} (hnew : ∀ s ∈ refs, h₀.length ≤ s) :
    Copying h₀ (h ++ [(label, refs)]) memo where
  old := hcopy.old.trans (List.prefix_append ..)
  closed r o hr ho := by
    rcases Nat.lt_trichotomy r h.length with hlt | rfl | hgt
    · rw [List.getElem?_append_left hlt] at ho
      exact hcopy.closed r o hr ho
    · rw [List.getElem?_concat_length] at ho
      cases ho
      exact hnew
    · rw [List.getElem?_eq_none (by simp; omega)] at ho
      cases ho
  copied p hp := (hcopy.copied p hp).extend (List.prefix_append ..)

theorem copyAll_spec {copy : Objects α → Memo → Nat → Option (Nat × Objects α × Memo)}
    (hstep : ∀ h memo r t, Copying h₀ h memo → ReadsIn h₀ d r t → ∃ r' h' memo',
      copy h memo r = some (r', h', memo') ∧ h <+: h' ∧ Copying h₀ h' memo' ∧ Copied h₀ h' r r')
    {refs : List Nat} {trees : List (ObjectTree α)} (hcopy : Copying h₀ h memo) (hread : List.Forall₂ (ReadsIn h₀ d) refs trees) :
    ∃ refs' h' memo', copyAll copy h memo refs = some (refs', h', memo') ∧ h <+: h' ∧ Copying h₀ h' memo' ∧
      List.Forall₂ (Copied h₀ h') refs refs' := by
  induction hread generalizing h memo with
  | nil => exact ⟨[], h, memo, rfl, List.prefix_rfl, hcopy, .nil⟩
  | cons hhead _ ih =>
      obtain ⟨r', h₁, memo₁, hcopy₁, hpre₁, hstate₁, hcopied₁⟩ := hstep h memo _ _ hcopy hhead
      obtain ⟨refs', h₂, memo₂, hcopy₂, hpre₂, hstate₂, hcopied₂⟩ := ih hstate₁
      refine ⟨r' :: refs', h₂, memo₂, ?_, hpre₁.trans hpre₂, hstate₂, .cons (hcopied₁.extend hpre₂) hcopied₂⟩
      simp [copyAll, hcopy₁, hcopy₂]

/-- A deep copy of what can be read is made, and is a copy. -/
theorem deepCopy_spec (hcopy : Copying h₀ h memo) (hread : ReadsIn h₀ d r t) :
    ∃ r' h' memo', deepCopy d h memo r = some (r', h', memo') ∧ h <+: h' ∧ Copying h₀ h' memo' ∧ Copied h₀ h' r r' := by
  induction d generalizing h memo r t with
  | zero => cases hread
  | succ d ih =>
      cases hmemo : memo.lookup r with
      | some r' =>
          obtain ⟨before, after, heq, -⟩ := List.lookup_eq_some_iff.mp hmemo
          have hmem : (r, r') ∈ memo := by simp [heq]
          exact ⟨r', h, memo, by simp [deepCopy, hmemo], List.prefix_rfl, hcopy, hcopy.copied _ hmem⟩
      | none =>
          obtain ⟨label, trees⟩ := t
          obtain ⟨refs, hr, htrees⟩ := hread
          have hrh : h[r]? = some (label, refs) := by
            obtain ⟨more, rfl⟩ := hcopy.old
            rw [List.getElem?_append_left (List.getElem?_eq_some_iff.mp hr).1, hr]
          obtain ⟨refs', h₁, memo₁, hall, hpre, hstate, hcopied⟩ :=
            copyAll_spec (fun h memo r t hcopy hread => ih hcopy hread) hcopy htrees
          have hadd := hstate.add label (copied_new hcopied)
          have hself : Copied h₀ (h₁ ++ [(label, refs')]) r h₁.length := by
            refine ⟨hstate.old.length_le, fun d' t' hread' => ?_⟩
            cases d' with
            | zero => cases hread'
            | succ d' =>
                obtain ⟨label', trees'⟩ := t'
                obtain ⟨refs₂, hr', htrees'⟩ := hread'
                cases hr.symm.trans hr'
                exact ⟨refs', List.getElem?_concat_length .., copied_reads
                  (hcopied.imp fun _ _ hcopied => hcopied.extend (List.prefix_append ..)) htrees'⟩
          refine ⟨h₁.length, h₁ ++ [(label, refs')], (r, h₁.length) :: memo₁, ?_, hpre.trans (List.prefix_append ..),
            ⟨hadd.old, hadd.closed, ?_⟩, hself⟩
          · simp [deepCopy, hmemo, hrh, hall]
          · intro p hp
            rcases List.mem_cons.mp hp with rfl | hp
            · exact hself
            · exact hadd.copied p hp

/-! ## What is reached -/

def Refers (h : Objects α) (r s : Nat) : Prop := ∃ o, h[r]? = some o ∧ s ∈ o.2

def Reaches (h : Objects α) : Nat → Nat → Prop := Relation.ReflTransGen (Refers h)

/-- Nothing is reached from both. -/
def Apart (h : Objects α) (c x : Nat) : Prop := ∀ y, Reaches h c y → ¬ Reaches h x y

theorem ReadsIn.reaches (hread : ReadsIn h d r t) {y : Nat} (hy : Reaches h r y) : ∃ d t, ReadsIn h d y t := by
  induction hy with
  | refl => exact ⟨d, t, hread⟩
  | tail _ hrefers ih =>
      obtain ⟨d', ⟨label, trees⟩, hread'⟩ := ih
      obtain ⟨o, ho, hmem⟩ := hrefers
      cases d' with
      | zero => cases hread'
      | succ d' =>
          obtain ⟨refs, hr, htrees⟩ := hread'
          cases hr.symm.trans ho
          clear hr ho
          induction htrees with
          | nil => cases hmem
          | cons hhead _ ih =>
              rcases List.mem_cons.mp hmem with rfl | hmem
              · exact ⟨d', _, hhead⟩
              · exact ih hmem

theorem ReadsIn.lt_length (hread : ReadsIn h d r t) : r < h.length := by
  cases d with
  | zero => cases hread
  | succ d =>
      obtain ⟨label, trees⟩ := t
      obtain ⟨refs, hr, -⟩ := hread
      exact (List.getElem?_eq_some_iff.mp hr).1

/-- Objects that agree on what a readable object reaches have it reach the same. -/
theorem reaches_congr {x : Nat} (hagree : ∀ y, Reaches h x y → h'[y]? = h[y]?) {y : Nat} :
    Reaches h' x y ↔ Reaches h x y := by
  constructor
  · intro hy
    induction hy with
    | refl => exact .refl
    | tail _ hrefers ih =>
        obtain ⟨o, ho, hmem⟩ := hrefers
        exact ih.tail ⟨o, hagree _ ih ▸ ho, hmem⟩
  · intro hy
    induction hy with
    | refl => exact .refl
    | tail hreach hrefers ih =>
        obtain ⟨o, ho, hmem⟩ := hrefers
        exact ih.tail ⟨o, (hagree _ hreach).trans ho, hmem⟩

theorem ReadsIn.congr (hread : ReadsIn h d r t) (hagree : ∀ y, Reaches h r y → h'[y]? = h[y]?) :
    ReadsIn h' d r t := by
  induction d generalizing r t with
  | zero => cases hread
  | succ d ih =>
      obtain ⟨label, trees⟩ := t
      obtain ⟨refs, hr, htrees⟩ := hread
      refine ⟨refs, (hagree r .refl).trans hr, ?_⟩
      have hchild : ∀ s ∈ refs, ∀ y, Reaches h s y → h'[y]? = h[y]? := fun s hs y hy =>
        hagree y (.head ⟨_, hr, hs⟩ hy)
      clear hr
      induction htrees with
      | nil => exact .nil
      | cons hhead _ ihtail =>
          refine .cons (ih hhead (hchild _ (by simp))) (ihtail fun s hs => hchild s (List.mem_cons_of_mem _ hs))

/-- A copy and its original share nothing. -/
theorem Copying.apart (hcopy : Copying h₀ h memo) {c x : Nat} (hc : h₀.length ≤ c) (hread : ReadsIn h₀ d x t) :
    Apart h c x := by
  intro y hcy hxy
  have hnew : h₀.length ≤ y := by
    clear hxy
    induction hcy with
    | refl => exact hc
    | tail _ hrefers ih =>
        obtain ⟨o, ho, hmem⟩ := hrefers
        exact hcopy.closed _ o ih ho _ hmem
  have hagree : ∀ z, Reaches h₀ x z → h[z]? = h₀[z]? := by
    intro z hz
    obtain ⟨d', t', hread'⟩ := hread.reaches hz
    obtain ⟨more, rfl⟩ := hcopy.old
    exact List.getElem?_append_left hread'.lt_length
  obtain ⟨d', t', hy⟩ := hread.reaches ((reaches_congr hagree).mp hxy)
  exact absurd hy.lt_length (Nat.not_lt.mpr hnew)

/-! ## Changes -/

/-- A new object, or another content for an old one. -/
inductive ObjectChange (α : Type)
  | new (o : α × List Nat)
  | set (r : Nat) (o : α × List Nat)

namespace ObjectChange

def apply (h : Objects α) : ObjectChange α → Objects α
  | .new o => h ++ [o]
  | .set r o => List.set h r o

/-- A change of what `c` reaches, that gives it nothing that `x` reaches. -/
def Of (c x : Nat) (h : Objects α) : ObjectChange α → Prop
  | .new o => ∀ s ∈ o.2, Apart h s x
  | .set r o => Reaches h c r ∧ ∀ s ∈ o.2, Apart h s x

variable {c x : Nat} {change : ObjectChange α}

theorem Of.agrees (hchange : Of c x h change) (hapart : Apart h c x) (hread : ReadsIn h d x t) {y : Nat}
    (hy : Reaches h x y) : (apply h change)[y]? = h[y]? := by
  cases change with
  | new o =>
      obtain ⟨d', t', hread'⟩ := hread.reaches hy
      exact List.getElem?_append_left hread'.lt_length
  | set r o =>
      have hne : r ≠ y := by
        rintro rfl
        exact hapart r hchange.1 hy
      exact List.getElem?_set_ne hne

theorem Of.refers (hchange : Of c x h change) {y z : Nat} (hrefers : Refers (apply h change) y z) :
    Refers h y z ∨ Apart h z x := by
  obtain ⟨o, ho, hmem⟩ := hrefers
  cases change with
  | new o' =>
      rcases Nat.lt_or_ge y h.length with hlt | hge
      · exact Or.inl ⟨o, by rwa [apply, List.getElem?_append_left hlt] at ho, hmem⟩
      · have hlast : y = h.length ∧ o = o' := by
          have hlt := (List.getElem?_eq_some_iff.mp ho).1
          simp only [apply, List.length_append, List.length_singleton] at hlt
          have hy : y = h.length := by omega
          rw [hy, apply, List.getElem?_concat_length] at ho
          exact ⟨hy, (Option.some.inj ho).symm⟩
        exact Or.inr (hchange z (hlast.2 ▸ hmem))
  | set r o' =>
      by_cases hy : r = y
      · obtain rfl := hy
        have ho' : o = o' := by
          have hlt := (List.getElem?_eq_some_iff.mp ho).1
          rw [apply, List.length_set] at hlt
          rw [apply, List.getElem?_set_self hlt] at ho
          exact (Option.some.inj ho).symm
        exact Or.inr (hchange.2 z (ho' ▸ hmem))
      · exact Or.inl ⟨o, by rwa [apply, List.getElem?_set_ne hy] at ho, hmem⟩

theorem Of.apart (hchange : Of c x h change) (hapart : Apart h c x) (hread : ReadsIn h d x t) :
    Apart (apply h change) c x := by
  have hgood : ∀ {y}, Reaches (apply h change) c y → Apart h y x := by
    intro y hy
    induction hy with
    | refl => exact hapart
    | tail _ hrefers ih =>
        rcases hchange.refers hrefers with hold | hnew
        · exact fun z hz => ih z (.head hold hz)
        · exact hnew
  intro y hcy hxy
  exact hgood hcy y .refl ((reaches_congr fun _ hz => hchange.agrees hapart hread hz).mp hxy)

/-- However a copy is changed, what is apart from it stands for the same. -/
theorem reads_after {changes : List (ObjectChange α)} (hapart : Apart h c x) (hread : ReadsIn h d x t)
    (hchanges : Along apply (Of c x) h changes) : ReadsIn (run apply h changes) d x t := by
  have hinv : Apart (run apply h changes) c x ∧ ReadsIn (run apply h changes) d x t :=
    run_invariant (I := fun h => Apart h c x ∧ ReadsIn h d x t) (fun h change hinv hchange =>
      ⟨hchange.apart hinv.1 hinv.2, hinv.2.congr fun _ hy => hchange.agrees hinv.1 hinv.2 hy⟩)
      ⟨hapart, hread⟩ hchanges
  exact hinv.2

end ObjectChange

end PyMotor.Lib
