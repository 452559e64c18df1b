import PyMotor.Lib.Text

/-!
# Fields and integers of a text

`str.split` with a separator and a limit, `bytes.hex`, and `int(s, base)` of the language for a base of at most 36. A
decimal digit counts as the ASCII digit of its value.
-/

namespace PyMotor.Lib.Text

/-! ## Fields -/

/-- `s.split(sep, n)`. -/
def splitMax (sep : Char) : Nat → List Char → List (List Char)
  | 0, s => [s]
  | n + 1, s =>
    match s.dropWhile (· != sep) with
    | [] => [s]
    | _ :: rest => s.takeWhile (· != sep) :: splitMax sep n rest

theorem splitMax_append {sep : Char} {a : List Char} (h : sep ∉ a) (n : Nat) (b : List Char) :
    splitMax sep (n + 1) (a ++ sep :: b) = a :: splitMax sep n b := by
  have ha : ∀ c ∈ a, (c != sep) = true := by
    intro c hc
    rw [bne_iff_ne]
    rintro rfl
    exact h hc
  have hdrop : (a ++ sep :: b).dropWhile (· != sep) = sep :: b := by
    rw [List.dropWhile_append_of_pos ha, List.dropWhile_cons_of_neg (by rw [bne_self_eq_false]; decide)]
  have htake : (a ++ sep :: b).takeWhile (· != sep) = a := by
    rw [List.takeWhile_append_of_pos ha, List.takeWhile_cons_of_neg (by rw [bne_self_eq_false]; decide), List.append_nil]
  rw [splitMax, hdrop, htake]

/-- A text is split at its first separator in one way. -/
theorem append_sep_inj {sep : Char} {a a' b b' : List Char} (h : a ++ sep :: b = a' ++ sep :: b') (ha : sep ∉ a)
    (ha' : sep ∉ a') : a = a' ∧ b = b' := by
  have hsplit := congrArg (splitMax sep 1) h
  rw [splitMax_append ha, splitMax_append ha', List.cons.injEq] at hsplit
  exact ⟨hsplit.1, (List.cons.inj hsplit.2).1⟩

/-- And at its last one. -/
theorem append_sep_inj_last {sep : Char} {a a' b b' : List Char} (h : a ++ sep :: b = a' ++ sep :: b') (hb : sep ∉ b)
    (hb' : sep ∉ b') : a = a' ∧ b = b' := by
  have hreverse := congrArg List.reverse h
  simp only [List.reverse_append, List.reverse_cons, List.append_assoc, List.singleton_append] at hreverse
  obtain ⟨hright, hleft⟩ := append_sep_inj hreverse (by rwa [List.mem_reverse]) (by rwa [List.mem_reverse])
  exact ⟨List.reverse_injective hleft, List.reverse_injective hright⟩

theorem splitMax_eq_cons_cons {sep : Char} {n : Nat} {s a b : List Char} {fields : List (List Char)}
    (h : splitMax sep (n + 1) s = a :: b :: fields) :
    sep ∉ a ∧ ∃ rest, s = a ++ sep :: rest ∧ splitMax sep n rest = b :: fields := by
  rw [splitMax] at h
  split at h
  · cases h
  · rename_i c rest hdrop
    have hc : c = sep := by
      have hnot := List.head?_dropWhile_not (· != sep) s
      rw [hdrop] at hnot
      simpa using hnot
    subst hc
    injection h with ha hfields
    refine ⟨fun hmem => ?_, rest, ?_, hfields⟩
    · rw [← ha] at hmem
      exact absurd (List.mem_takeWhile_imp hmem) (by rw [bne_self_eq_false]; decide)
    · rw [← ha, ← hdrop, List.takeWhile_append_dropWhile]

/-- `b.hex()`. -/
def hex (bytes : Bytes) : List Char :=
  bytes.flatMap fun b => [(b.toNat / 16).digitChar, (b.toNat % 16).digitChar]

theorem digitChar_injOn : ∀ a < 16, ∀ b < 16, Nat.digitChar a = Nat.digitChar b → a = b := by decide

theorem digitChar_ne_colon : ∀ a < 16, Nat.digitChar a ≠ ':' := by decide

theorem hex_injective : Function.Injective hex := by
  intro s t h
  induction s generalizing t with
  | nil =>
      cases t with
      | nil => rfl
      | cons b t => cases h
  | cons a s ih =>
      cases t with
      | nil => cases h
      | cons b t =>
          simp only [hex, List.flatMap_cons, List.cons_append, List.nil_append, List.cons.injEq] at h
          obtain ⟨hhigh, hlow, hrest⟩ := h
          have ha := a.toNat_lt
          have hb := b.toNat_lt
          have hdiv := digitChar_injOn _ (by omega) _ (by omega) hhigh
          have hmod := digitChar_injOn _ (by omega) _ (by omega) hlow
          have hab : a.toNat = b.toNat := by omega
          rw [UInt8.toNat_inj.mp hab, ih hrest]

theorem colon_not_mem_hex (bytes : Bytes) : ':' ∉ hex bytes := by
  intro h
  obtain ⟨b, -, hb⟩ := List.mem_flatMap.mp h
  have hlt := b.toNat_lt
  rw [List.mem_cons, List.mem_singleton] at hb
  rcases hb with hb | hb
  · exact digitChar_ne_colon _ (by omega) hb.symm
  · exact digitChar_ne_colon _ (by omega) hb.symm

/-! ## Integers -/

/-- A decimal digit as an ASCII digit. -/
def asciiDigit (c : Char) : Char :=
  match decimal c with
  | some d => d.digitChar
  | none => c

/-- The value of a digit. -/
def digit (base : Nat) (c : Char) : Option Nat :=
  let value :=
    if c.isDigit then c.toNat - '0'.toNat
    else if c.isLower then c.toNat - 'a'.toNat + 10
    else if c.isUpper then c.toNat - 'A'.toNat + 10
    else 36
  if value < base then some value else none

/-- The value of the digits after those of the value `n`; an underscore may stand before each of them. -/
def numeral (base : Nat) : List Char → Nat → Option Nat
  | [], n => some n
  | '_' :: c :: s, n => (digit base c).bind fun d => numeral base s (base * n + d)
  | c :: s, n => (digit base c).bind fun d => numeral base s (base * n + d)

/-- The text without the prefix of the base 16, after which one underscore may stand. -/
def dropHexPrefix : List Char → List Char
  | '0' :: 'x' :: '_' :: s => s
  | '0' :: 'X' :: '_' :: s => s
  | '0' :: 'x' :: s => s
  | '0' :: 'X' :: s => s
  | s => s

/-- `sys.int_info.default_max_str_digits`. -/
def maxStrDigits : Nat := 4300

/-- There are too many digits to convert, which a base that is a power of two never has. -/
def TooLong (base : Nat) (s : List Char) : Prop :=
  base ∉ [2, 4, 8, 16, 32] ∧ maxStrDigits < (s.filter (· != '_')).length

instance (base : Nat) (s : List Char) : Decidable (TooLong base s) := inferInstanceAs (Decidable (_ ∧ _))

/-- `int(s, base)`, with `none` for a `ValueError`. -/
def int (base : Nat) (s : List Char) : Option Int :=
  let (negative, s) := takeSign ((strip s).map asciiDigit)
  let digits := if base = 16 then dropHexPrefix s else s
  if TooLong base digits then none
  else
    match digits with
    | [] => none
    | c :: s => ((digit base c).bind (numeral base s)).map fun n => signed negative (n : Int)

/-- `str(n)`, with `none` for a `ValueError`. -/
def str (n : Int) : Option (List Char) :=
  if maxStrDigits < (Nat.toDigits 10 n.natAbs).length then none else some (toString n).toList

/-- The digits that are no decimal digits, as ranges. -/
def otherDigits : List (Nat × Nat) :=
  [(0xb2, 0xb3), (0xb9, 0xb9), (0x1369, 0x1371), (0x19da, 0x19da), (0x2070, 0x2070), (0x2074, 0x2079), (0x2080, 0x2089),
    (0x2460, 0x2468), (0x2474, 0x247c), (0x2488, 0x2490), (0x24ea, 0x24ea), (0x24f5, 0x24fd), (0x24ff, 0x24ff),
    (0x2776, 0x277e), (0x2780, 0x2788), (0x278a, 0x2792), (0x10a40, 0x10a43), (0x10e60, 0x10e68), (0x11052, 0x1105a),
    (0x1f100, 0x1f10a)]

/-- `s.isdigit()`. -/
def isDigits (s : List Char) : Bool :=
  !s.isEmpty && s.all fun c => isDecimal c || otherDigits.any fun range => range.1 ≤ c.toNat && c.toNat ≤ range.2

example : int 16 " 0x_1f ".toList = some 31 := by decide

example : int 10 "-1_0".toList = some (-10) := by decide

example : int 10 "1__0".toList = none := by decide

example : int 10 "１".toList = some 1 := by decide

/-! ## A number is read from its digits -/

theorem digit_of_isDigit {c : Char} (h : c.isDigit = true) : digit 10 c = some (c.toNat - '0'.toNat) := by
  have hle : c.toNat ≤ 57 := (Char.isDigit_iff_toNat.mp h).2
  have hlt : c.toNat - '0'.toNat < 10 := by
    rw [show '0'.toNat = 48 from rfl]
    omega
  simp only [digit, if_pos h, if_pos hlt]

theorem numeral_of_digits {s : List Char} (h : ∀ c ∈ s, c.isDigit = true) (n : Nat) :
    numeral 10 s n = some (Nat.ofDigitChars 10 s n) := by
  induction s generalizing n with
  | nil => rfl
  | cons c s ih =>
      rw [List.forall_mem_cons] at h
      have hne : c ≠ '_' := by
        rintro rfl
        cases h.1
      have hstep : numeral 10 (c :: s) n = (digit 10 c).bind fun d => numeral 10 s (10 * n + d) := by
        rw [numeral]
        intro d rest heq
        exact absurd heq hne
      rw [hstep, digit_of_isDigit h.1, Nat.ofDigitChars_cons]
      exact ih h.2 _

theorem asciiDigit_of_isDigit {c : Char} (h : c.isDigit = true) : asciiDigit c = c := by
  have hle : 48 ≤ c.toNat ∧ c.toNat ≤ 57 := Char.isDigit_iff_toNat.mp h
  have hdecimal : decimal c = some (c.toNat - 48) := by
    have hfind : zeros.find? (fun first => first ≤ c.toNat && c.toNat < first + 10) = some 0x30 := by
      rw [zeros, List.find?_cons_of_pos]
      rw [decide_eq_true hle.1, decide_eq_true (by omega : c.toNat < 0x30 + 10), Bool.and_self]
    rw [decimal, hfind]
    rfl
  rw [asciiDigit, hdecimal]
  obtain ⟨hlow, hhigh⟩ := hle
  have hc : c = Char.ofNat c.toNat := (Char.ofNat_toNat c).symm
  generalize c.toNat = n at hc hlow hhigh
  subst hc
  interval_cases n <;> rfl

theorem isSpace_of_isDigit {c : Char} (h : c.isDigit = true) : isSpace c = false := by
  have hle : 48 ≤ c.toNat ∧ c.toNat ≤ 57 := Char.isDigit_iff_toNat.mp h
  simp only [isSpace, Bool.or_eq_false_iff, Bool.and_eq_false_iff, decide_eq_false_iff_not]
  omega

section

variable {s : List Char} (hne : s ≠ []) (h : ∀ c ∈ s, c.isDigit = true)
include hne h

theorem endsPlain_of_digits : EndsPlain s := by
  refine ⟨s.dropLast, s.getLast hne, (List.dropLast_append_getLast hne).symm, ?_⟩
  exact isSpace_of_isDigit (h _ (List.getLast_mem hne))

theorem numeral_bind_digits : ∃ c rest, s = c :: rest ∧
    ((digit 10 c).bind (numeral 10 rest)) = some (Nat.ofDigitChars 10 s 0) := by
  cases s with
  | nil => exact absurd rfl hne
  | cons c rest =>
      rw [List.forall_mem_cons] at h
      refine ⟨c, rest, rfl, ?_⟩
      rw [digit_of_isDigit h.1, Option.bind_some, numeral_of_digits h.2, Nat.ofDigitChars_cons, Nat.mul_zero, Nat.zero_add]

omit hne in
theorem not_tooLong_of_digits (hlen : s.length ≤ maxStrDigits) : ¬ TooLong 10 s := by
  have hfilter : s.filter (· != '_') = s := by
    rw [List.filter_eq_self]
    intro c hc
    rw [bne_iff_ne]
    rintro rfl
    cases h _ hc
  rintro ⟨-, hlong⟩
  rw [hfilter] at hlong
  omega

theorem int_of_digits (hlen : s.length ≤ maxStrDigits) : int 10 s = some (Nat.ofDigitChars 10 s 0 : Int) := by
  have hshort := not_tooLong_of_digits h hlen
  have hmap : s.map asciiDigit = s := by
    conv_rhs => rw [← List.map_id s]
    exact List.map_congr_left fun c hc => asciiDigit_of_isDigit (h c hc)
  have hstrip : strip s = s := by
    refine strip_eq_self (fun c hc => ?_) (endsPlain_of_digits hne h)
    exact isSpace_of_isDigit (h c (List.mem_of_mem_head? hc))
  obtain ⟨c, rest, rfl, hvalue⟩ := numeral_bind_digits hne h
  have hsign : takeSign (c :: rest) = (false, c :: rest) := by
    have hc := h c List.mem_cons_self
    rw [takeSign]
    · rintro rest' heq
      cases heq
      cases hc
    · rintro rest' heq
      cases heq
      cases hc
  rw [int, hstrip, hmap, hsign]
  simp only [(by decide : ¬ (10 : Nat) = 16), if_false, hshort, hvalue]
  rfl

theorem int_neg_of_digits (hlen : s.length ≤ maxStrDigits) :
    int 10 ('-' :: s) = some (-(Nat.ofDigitChars 10 s 0 : Int)) := by
  have hshort := not_tooLong_of_digits h hlen
  have hmap : ('-' :: s).map asciiDigit = '-' :: s := by
    rw [List.map_cons, show asciiDigit '-' = '-' by decide]
    conv_rhs => rw [← List.map_id s]
    rw [List.map_congr_left fun c hc => asciiDigit_of_isDigit (h c hc)]
    rfl
  have hstrip : strip ('-' :: s) = '-' :: s := by
    refine strip_eq_self (fun c hc => ?_) ((endsPlain_of_digits hne h).append ['-'])
    cases hc
    decide
  obtain ⟨c, rest, rfl, hvalue⟩ := numeral_bind_digits hne h
  rw [int, hstrip, hmap, takeSign]
  simp only [(by decide : ¬ (10 : Nat) = 16), if_false, hshort, hvalue]
  rfl

end

/-- `int(str(n))`. -/
theorem int_str {n : Int} {s : List Char} (h : str n = some s) : int 10 s = some n := by
  have hdigits : ∀ m : Nat, ∀ c ∈ Nat.toDigits 10 m, c.isDigit = true := fun m c hc =>
    Nat.isDigit_of_mem_toDigits (by decide) (by decide) hc
  rw [str] at h
  split at h
  · cases h
  · rename_i hlen
    have hle := Nat.le_of_not_lt hlen
    cases h
    cases n with
    | ofNat m =>
        have htext : (toString (Int.ofNat m)).toList = Nat.toDigits 10 m := Nat.toList_repr
        rw [htext, int_of_digits Nat.toDigits_ne_nil (hdigits m) hle, Nat.ofDigitChars_ten_toDigits]
        rfl
    | negSucc m =>
        have htext : (toString (Int.negSucc m)).toList = '-' :: Nat.toDigits 10 (m + 1) := by
          have hrepr : toString (Int.negSucc m) = "-" ++ (m + 1).repr := rfl
          rw [hrepr, String.toList_append, Nat.toList_repr]
          rfl
        rw [htext, int_neg_of_digits Nat.toDigits_ne_nil (hdigits (m + 1)) hle, Nat.ofDigitChars_ten_toDigits]
        rfl

theorem str_eq_some {n : Int} {s : List Char} (h : str n = some s) : s = (toString n).toList := by
  rw [str] at h
  split at h
  · cases h
  · exact (Option.some.inj h).symm

theorem isDigit_of_str {n : Nat} {s : List Char} (h : str n = some s) : ∀ c ∈ s, c.isDigit = true := by
  have htext : (toString (n : Int)).toList = Nat.toDigits 10 n := Nat.toList_repr
  rw [str_eq_some h, htext]
  exact fun c hc => Nat.isDigit_of_mem_toDigits (by decide) (by decide) hc

theorem colon_not_mem_toString (n : Int) : ':' ∉ (toString n).toList := by
  have hdigits : ∀ m : Nat, ':' ∉ Nat.toDigits 10 m := fun m hmem => by
    cases Nat.isDigit_of_mem_toDigits (by decide) (by decide) hmem
  cases n with
  | ofNat m =>
      have htext : (toString (Int.ofNat m)).toList = Nat.toDigits 10 m := Nat.toList_repr
      rw [htext]
      exact hdigits m
  | negSucc m =>
      have hrepr : toString (Int.negSucc m) = "-" ++ (m + 1).repr := rfl
      rw [hrepr, String.toList_append, Nat.toList_repr, List.mem_append, not_or]
      exact ⟨by decide, hdigits (m + 1)⟩

/-! ## Hexadecimal digits -/

/-- The digits of the value in the base. -/
def IsNumeral (base : Nat) (s : List Char) (n : Nat) : Prop :=
  ∃ digits : List Nat, s.map (digit base) = digits.map some ∧ s ≠ [] ∧ n = Nat.ofDigits base digits.reverse

theorem toNat_of_digit_sixteen {c : Char} {d : Nat} (h : digit 16 c = some d) :
    (48 ≤ c.toNat ∧ c.toNat ≤ 57) ∨ (97 ≤ c.toNat ∧ c.toNat ≤ 102) ∨ (65 ≤ c.toNat ∧ c.toNat ≤ 70) := by
  simp only [digit, Option.ite_none_right_eq_some] at h
  obtain ⟨hlt, -⟩ := h
  split at hlt
  · rename_i hdigit
    exact .inl (Char.isDigit_iff_toNat.mp hdigit)
  · split at hlt
    · rename_i hlower
      rw [show 'a'.toNat = 97 from rfl] at hlt
      simp only [Char.isLower, Bool.and_eq_true, decide_eq_true_eq] at hlower
      have : 97 ≤ c.toNat := hlower.1
      omega
    · split at hlt
      · rename_i hupper
        rw [show 'A'.toNat = 65 from rfl] at hlt
        simp only [Char.isUpper, decide_eq_true_eq] at hupper
        have : 65 ≤ c.toNat := hupper.1
        omega
      · omega

/-- A hexadecimal digit is no blank, no sign and no underscore. -/
theorem plain_of_digit_sixteen {c : Char} {d : Nat} (h : digit 16 c = some d) :
    isSpace c = false ∧ asciiDigit c = c ∧ c ∉ ['_', '-', '+', 'x', 'X', ','] := by
  have hrange := toNat_of_digit_sixteen h
  clear h
  have hc : c = Char.ofNat c.toNat := (Char.ofNat_toNat c).symm
  generalize c.toNat = n at hc hrange
  subst hc
  rcases hrange with ⟨hlow, hhigh⟩ | ⟨hlow, hhigh⟩ | ⟨hlow, hhigh⟩ <;> interval_cases n <;> decide

theorem numeral_of_digit {base : Nat} {s : List Char} {digits : List Nat} (h : s.map (digit base) = digits.map some)
    (hplain : '_' ∉ s) (n : Nat) : numeral base s n = some (base ^ s.length * n + Nat.ofDigits base digits.reverse) := by
  induction s generalizing digits n with
  | nil =>
      rw [List.map_nil, eq_comm, List.map_eq_nil_iff] at h
      subst h
      simp [numeral]
  | cons c s ih =>
      cases digits with
      | nil => cases h
      | cons d digits =>
          rw [List.map_cons, List.map_cons, List.cons.injEq] at h
          rw [List.mem_cons, not_or] at hplain
          have hlen : s.length = digits.length := by simpa using congrArg List.length h.2
          have hstep : numeral base (c :: s) n = (digit base c).bind fun d => numeral base s (base * n + d) := by
            rw [numeral]
            intro d rest heq
            exact absurd heq.symm hplain.1
          rw [hstep, h.1, Option.bind_some, ih h.2 hplain.2, List.reverse_cons, Nat.ofDigits_append,
            List.length_reverse, Nat.ofDigits_singleton, List.length_cons, hlen]
          congr 1
          ring

section

variable {s : List Char} {n : Nat}

theorem IsNumeral.plain (h : IsNumeral 16 s n) :
    ∀ c ∈ s, isSpace c = false ∧ asciiDigit c = c ∧ c ∉ ['_', '-', '+', 'x', 'X', ','] := by
  obtain ⟨digits, hdigits, -, -⟩ := h
  intro c hc
  have hmem : digit 16 c ∈ digits.map some := hdigits ▸ List.mem_map_of_mem hc
  obtain ⟨d, -, hd⟩ := List.mem_map.mp hmem
  exact plain_of_digit_sixteen hd.symm

theorem dropHexPrefix_of_plain (hlower : 'x' ∉ s) (hupper : 'X' ∉ s) : dropHexPrefix s = s := by
  unfold dropHexPrefix
  split
  · simp at hlower
  · simp at hupper
  · simp at hlower
  · simp at hupper
  · rfl

theorem dropHexPrefix_cons (h : '_' ∉ s) : dropHexPrefix ('0' :: 'x' :: s) = s := by
  cases s with
  | nil => rfl
  | cons c s =>
      rw [dropHexPrefix]
      rintro s' heq
      cases heq
      simp at h

theorem IsNumeral.strip_append (h : IsNumeral 16 s n) (pre : List Char) (hpre : ∀ c ∈ pre, isSpace c = false) :
    strip (pre ++ s) = pre ++ s := by
  have hplain := h.plain
  obtain ⟨-, -, hne, -⟩ := h
  have hends : EndsPlain s :=
    ⟨s.dropLast, s.getLast hne, (List.dropLast_append_getLast hne).symm, (hplain _ (List.getLast_mem hne)).1⟩
  refine strip_eq_self (fun c hc => ?_) (hends.append pre)
  rcases List.mem_append.mp (List.mem_of_mem_head? hc) with hc | hc
  · exact hpre c hc
  · exact (hplain c hc).1

/-- What `int(s, 16)` makes of digits after a prefix of the base. -/
theorem IsNumeral.int_append (h : IsNumeral 16 s n) (pre : List Char)
    (hpre : ∀ c ∈ pre, isSpace c = false ∧ asciiDigit c = c) (hsign : takeSign (pre ++ s) = (false, pre ++ s))
    (hdrop : dropHexPrefix (pre ++ s) = s) : int 16 (pre ++ s) = some (n : Int) := by
  have hplain := h.plain
  have hstrip := h.strip_append pre fun c hc => (hpre c hc).1
  obtain ⟨digits, hdigits, hne, rfl⟩ := h
  have hmap : (pre ++ s).map asciiDigit = pre ++ s := by
    conv_rhs => rw [← List.map_id (pre ++ s)]
    refine List.map_congr_left fun c hc => ?_
    rcases List.mem_append.mp hc with hc | hc
    · exact (hpre c hc).2
    · exact (hplain c hc).2.1
  have hunderscore : '_' ∉ s := fun hmem => (hplain _ hmem).2.2 (by simp)
  have hshort : ¬ TooLong 16 s := fun h => h.1 (by simp)
  have hvalue := numeral_of_digit hdigits hunderscore 0
  rw [int, hstrip, hmap, hsign]
  simp only [if_true, hdrop, if_neg hshort]
  cases s with
  | nil => exact absurd rfl hne
  | cons c s =>
      have hstep : numeral 16 (c :: s) 0 = (digit 16 c).bind (numeral 16 s) := by
        rw [numeral]
        · simp
        · rintro d rest heq
          exact absurd heq (fun heq => hunderscore (heq ▸ List.mem_cons_self))
      dsimp only
      rw [← hstep, hvalue, Nat.mul_zero, Nat.zero_add]
      rfl

/-- `int(s, 16)` of hexadecimal digits, with or without the prefix. -/
theorem IsNumeral.int_eq (h : IsNumeral 16 s n) :
    int 16 s = some (n : Int) ∧ int 16 ('0' :: 'x' :: s) = some (n : Int) := by
  have hnot : ∀ c ∈ ['_', '-', '+', 'x', 'X', ','], c ∉ s := fun c hc hmem => (h.plain c hmem).2.2 hc
  have hsign : takeSign s = (false, s) := by
    unfold takeSign
    split
    · exact absurd List.mem_cons_self (hnot '-' (by simp))
    · exact absurd List.mem_cons_self (hnot '+' (by simp))
    · rfl
  constructor
  · exact h.int_append [] (fun c hc => (nomatch hc)) hsign
      (dropHexPrefix_of_plain (hnot 'x' (by simp)) (hnot 'X' (by simp)))
  · refine h.int_append ['0', 'x'] ?_ rfl (dropHexPrefix_cons (hnot '_' (by simp)))
    simp only [List.forall_mem_cons]
    exact ⟨by decide, by decide, fun c hc => (nomatch hc)⟩

end

end PyMotor.Lib.Text
