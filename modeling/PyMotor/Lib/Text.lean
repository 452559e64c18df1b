import Mathlib
import PyMotor.Lib.Bytes

/-!
# Words and numbers of a text

`str.split` and `float` of the language, and the number that a float stands for.
-/

namespace PyMotor.Lib.Text

theorem toString_injective : Function.Injective fun n : Int => toString n := fun _ _ h => Int.repr_injective h

/-- `s.split()`. -/
def words (s : List Char) : List (List Char) := (s.splitOnP isSpace).filter fun word => !word.isEmpty

/-- The zeros of the decimal digits; nine more follow each. -/
def zeros : List Nat :=
  [0x30, 0x660, 0x6f0, 0x7c0, 0x966, 0x9e6, 0xa66, 0xae6, 0xb66, 0xbe6, 0xc66, 0xce6, 0xd66, 0xde6, 0xe50, 0xed0, 0xf20,
    0x1040, 0x1090, 0x17e0, 0x1810, 0x1946, 0x19d0, 0x1a80, 0x1a90, 0x1b50, 0x1bb0, 0x1c40, 0x1c50, 0xa620, 0xa8d0,
    0xa900, 0xa9d0, 0xa9f0, 0xaa50, 0xabf0, 0xff10, 0x104a0, 0x10d30, 0x11066, 0x110f0, 0x11136, 0x111d0, 0x112f0,
    0x11450, 0x114d0, 0x11650, 0x116c0, 0x11730, 0x118e0, 0x11950, 0x11c50, 0x11d50, 0x11da0, 0x16a60, 0x16ac0,
    0x16b50, 0x1d7ce, 0x1d7d8, 0x1d7e2, 0x1d7ec, 0x1d7f6, 0x1e140, 0x1e2f0, 0x1e950, 0x1fbf0]

/-- The value of a decimal digit. -/
def decimal (c : Char) : Option Nat :=
  (zeros.find? fun first => first ≤ c.toNat && c.toNat < first + 10).map fun first => c.toNat - first

/-- `\d` of a pattern. -/
def isDecimal (c : Char) : Bool := (decimal c).isSome

/-- `s.upper()`. Of the characters outside ASCII only those change whose upper case is in ASCII. -/
def upper (s : List Char) : List Char :=
  s.flatMap fun c =>
    match c with
    | 'ß' => ['S', 'S']
    | 'ı' => ['I']
    | 'ſ' => ['S']
    | 'ﬀ' => ['F', 'F']
    | 'ﬁ' => ['F', 'I']
    | 'ﬂ' => ['F', 'L']
    | 'ﬃ' => ['F', 'F', 'I']
    | 'ﬄ' => ['F', 'F', 'L']
    | 'ﬅ' => ['S', 'T']
    | 'ﬆ' => ['S', 'T']
    | c => [c.toUpper]

/-- The digits at the head; an underscore may stand between two of them. -/
def takeDigits : List Char → List Char × List Char
  | [] => ([], [])
  | [c] => if isDecimal c then ([c], []) else ([], [c])
  | c :: '_' :: s =>
    if isDecimal c then
      match s with
      | [] => ([c], ['_'])
      | d :: s' =>
        if isDecimal d then
          let (digits, rest) := takeDigits (d :: s')
          (c :: digits, rest)
        else ([c], '_' :: d :: s')
    else ([], c :: '_' :: s)
  | c :: s =>
    if isDecimal c then
      let (digits, rest) := takeDigits s
      (c :: digits, rest)
    else ([], c :: s)

def digitsValue (digits : List Char) : Nat := digits.foldl (fun n c => 10 * n + (decimal c).getD 0) 0

def takeSign : List Char → Bool × List Char
  | '-' :: s => (true, s)
  | '+' :: s => (false, s)
  | s => (false, s)

def signed {α : Type} [Neg α] (negative : Bool) (x : α) : α := if negative then -x else x

/-- `float(s)`, with `none` for a `ValueError`. -/
def float (s : List Char) : Option Float :=
  let (negative, s) := takeSign (strip s)
  let word := String.ofList (s.map Char.toLower)
  if word = "inf" || word = "infinity" then some (signed negative (1.0 / 0.0))
  else if word = "nan" then some (0.0 / 0.0)
  else
    let (whole, s) := takeDigits s
    let (fraction, s) := match s with
      | '.' :: s => takeDigits s
      | s => ([], s)
    let value := fun exponent : Int => signed negative (Float.ofModel
      (.ofScientific (digitsValue (whole ++ fraction)) (exponent - fraction.length)))
    if whole.isEmpty && fraction.isEmpty then none
    else match s with
      | [] => some (value 0)
      | c :: s =>
        let (small, s) := takeSign s
        let (exponent, rest) := takeDigits s
        if (c = 'e' || c = 'E') && !exponent.isEmpty && rest.isEmpty then
          some (value (signed small (digitsValue exponent)))
        else none

example : float "-1_2.50e-1".toList = some (-1.25) := by decide +kernel

example : float "-Infinity".toList = some (-1.0 / 0.0) := by decide +kernel

end PyMotor.Lib.Text

namespace PyMotor.Lib

/-! ## Floats -/

/-- The number that a float stands for; an infinity and a NaN stand for none. -/
def numberOf (x : Float) : Option ℚ :=
  match x.toModel.unpack with
  | .zero _ => some 0
  | .finite sign mantissa exponent _ =>
    some (((sign.apply mantissa * 2 ^ exponent.toNat : ℤ) : ℚ) / ((2 ^ (-exponent).toNat : ℕ) : ℚ))
  | _ => none

theorem unpack_zero : (0 : Float).toModel.unpack = .zero .positive := rfl

theorem nonneg_of_not_neg {x : Float} (h : ¬ x < 0) : 0 ≤ (numberOf x).getD 0 := by
  have hcompare : ¬ x.toModel.unpack.lt (.zero .positive) = true := by
    intro hlt
    rw [← unpack_zero] at hlt
    exact h (decide_eq_true hlt)
  rw [numberOf]
  cases hx : x.toModel.unpack with
  | infinity sign => rfl
  | notANumber => rfl
  | zero sign => rfl
  | finite sign mantissa exponent hpos =>
      rw [hx] at hcompare
      cases sign with
      | negative => exact absurd rfl hcompare
      | positive =>
          dsimp only [Option.getD_some, Float.Model.UnpackedFloat.Sign.apply]
          positivity

/-!
## Texts made of lines

A word has no blanks. A line is read as its words, and lines are read one at a time, or two together as a block's head.
-/

namespace Text

structure IsWord (w : List Char) : Prop where
  ne_nil : w ≠ []
  plain : ∀ c ∈ w, isSpace c = false

variable {w s : List Char} {c : Char}

theorem words_space (h : isSpace c = true) : words (c :: s) = words s := by
  rw [words, words, List.splitOnP_cons_eq_if_modifyHead, if_pos h]
  rfl

/-- What does not begin with a blank begins with its first word. -/
theorem words_plain (h : isSpace c = false) : ∃ w ws, words (c :: s) = (c :: w) :: ws := by
  obtain ⟨w, ws, hsplit⟩ := List.exists_cons_of_ne_nil (List.splitOnP_ne_nil isSpace s)
  refine ⟨w, ws.filter fun word => !word.isEmpty, ?_⟩
  rw [words, List.splitOnP_cons_eq_if_modifyHead, if_neg (by simp [h]), hsplit]
  rfl

theorem IsWord.words_eq (h : IsWord w) : words w = [w] := by
  rw [words, List.splitOnP_eq_singleton h.plain]
  simp [h.ne_nil]

theorem IsWord.words_append (h : IsWord w) (hc : isSpace c = true) : words (w ++ c :: s) = w :: words s := by
  rw [words, List.splitOnP_append_cons_of_forall_mem h.plain c hc, List.filter_cons]
  simp [h.ne_nil, words]

theorem words_intercalate {ws : List (List Char)} (h : ∀ w ∈ ws, IsWord w) : words ([' '].intercalate ws) = ws := by
  induction ws with
  | nil => rfl
  | cons w ws ih =>
      rw [List.forall_mem_cons] at h
      cases ws with
      | nil => rw [List.intercalate_singleton, h.1.words_eq]
      | cons w' ws =>
          rw [List.intercalate_cons_cons, List.append_assoc, List.singleton_append, h.1.words_append rfl, ih h.2]

/-- There is no blank at the end. -/
def EndsPlain (s : List Char) : Prop := ∃ before c, s = before ++ [c] ∧ isSpace c = false

theorem IsWord.endsPlain (h : IsWord w) : EndsPlain w := by
  obtain ⟨before, c, rfl⟩ := (List.eq_nil_or_concat' w).resolve_left h.ne_nil
  exact ⟨before, c, rfl, h.plain c (by simp)⟩

theorem EndsPlain.append (h : EndsPlain s) (before : List Char) : EndsPlain (before ++ s) := by
  obtain ⟨before', c, rfl, hc⟩ := h
  exact ⟨before ++ before', c, (List.append_assoc ..).symm, hc⟩

theorem endsPlain_intercalate {lines : List (List Char)} (hne : lines ≠ []) (h : ∀ line ∈ lines, EndsPlain line)
    (sep : List Char) : EndsPlain (sep.intercalate lines) := by
  induction lines with
  | nil => exact absurd rfl hne
  | cons line lines ih =>
      rw [List.forall_mem_cons] at h
      cases lines with
      | nil => rw [List.intercalate_singleton]; exact h.1
      | cons line' lines =>
          rw [List.intercalate_cons_cons]
          exact (ih (List.cons_ne_nil _ _) h.2).append _

theorem strip_eq_self (hhead : ∀ c, s.head? = some c → isSpace c = false) (h : EndsPlain s) : strip s = s := by
  obtain ⟨before, c, rfl, hc⟩ := h
  have hdrop : (before ++ [c]).dropWhile isSpace = before ++ [c] := by
    cases before with
    | nil => exact List.dropWhile_cons_of_neg (by simp [hc])
    | cons b before => exact List.dropWhile_cons_of_neg (by simp [hhead b rfl])
  rw [strip, hdrop, List.reverse_append, List.reverse_singleton, List.singleton_append,
    List.dropWhile_cons_of_neg (by simp [hc]), List.reverse_cons, List.reverse_reverse]

theorem isSpace_of_strip (h : strip s = c :: w) : isSpace c = false := by
  have hstart : strip s <+: s.dropWhile isSpace := by
    rw [strip, ← List.reverse_suffix, List.reverse_reverse]
    exact List.dropWhile_suffix _
  rw [h] at hstart
  obtain ⟨t, ht⟩ := hstart
  have hhead := List.head?_dropWhile_not isSpace s
  rw [← ht] at hhead
  simpa using hhead

end Text

/-- The first lines can be read, and the rest remains. -/
inductive Reads {α : Type} (block : α → α → Prop) (body : α → Prop) : List α → List α → Prop
  | refl (rest : List α) : Reads block body rest rest
  | body {line : α} {lines rest : List α} : body line → Reads block body lines rest →
      Reads block body (line :: lines) rest
  | block {first second : α} {lines rest : List α} : block first second → Reads block body lines rest →
      Reads block body (first :: second :: lines) rest

section Reads

variable {α : Type} {block block' : α → α → Prop} {body body' : α → Prop} {line : α} {lines rest : List α}

theorem reads_cons_iff : Reads block body (line :: lines) rest ↔
    rest = line :: lines ∨ (body line ∧ Reads block body lines rest) ∨
      ∃ second lines', lines = second :: lines' ∧ block line second ∧ Reads block body lines' rest := by
  constructor
  · intro h
    cases h with
    | refl => exact .inl rfl
    | body hline h => exact .inr (.inl ⟨hline, h⟩)
    | block hblock h => exact .inr (.inr ⟨_, _, rfl, hblock, h⟩)
  · rintro (rfl | ⟨hline, h⟩ | ⟨second, lines', rfl, hblock, h⟩)
    · exact .refl _
    · exact .body hline h
    · exact .block hblock h

theorem Reads.mono (hblock : ∀ first second, block first second → block' first second)
    (hbody : ∀ line, body line → body' line) (h : Reads block body lines rest) : Reads block' body' lines rest := by
  induction h with
  | refl => exact .refl _
  | body hline _ ih => exact .body (hbody _ hline) ih
  | block hhead _ ih => exact .block (hblock _ _ hhead) ih

/-- What is read in two ways is read in both at once, when no line is a body for one and a head for the other. -/
theorem Reads.and (hapart : ∀ line, body line → ∀ second, ¬ block' line second)
    (hapart' : ∀ line, body' line → ∀ second, ¬ block line second)
    (h : Reads block body lines []) (h' : Reads block' body' lines []) :
    Reads (fun first second => block first second ∧ block' first second) body lines [] := by
  generalize hrest : ([] : List α) = rest at h
  induction h with
  | refl => exact .refl _
  | @body line lines rest hline _ ih =>
      rcases reads_cons_iff.mp h' with hnil | ⟨-, h'⟩ | ⟨second, lines', -, hblock, -⟩
      · cases hnil
      · exact .body hline (ih h' hrest)
      · exact absurd hblock (hapart _ hline _)
  | @block first second lines rest hhead _ ih =>
      rcases reads_cons_iff.mp h' with hnil | ⟨hline, -⟩ | ⟨second', lines', hcons, hblock, h'⟩
      · cases hnil
      · exact absurd hhead (hapart' _ hline _)
      · cases hcons
        exact .block ⟨hhead, hblock⟩ (ih h' hrest)

end Reads

end PyMotor.Lib
