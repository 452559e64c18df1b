import Mathlib.Data.List.Basic

/-!
# Byte strings and text

`bytes.find`, `bytes.decode("utf-8")` and `str.strip` of the language. A text is a list of characters.
-/

namespace PyMotor.Lib

abbrev Bytes := List UInt8

namespace Bytes

/-- `s.find(pat)`, with `none` for -1. -/
def find (pat : Bytes) : Bytes → Option Nat
  | [] => if pat.isEmpty then some 0 else none
  | b :: rest => if pat.isPrefixOf (b :: rest) then some 0 else (find pat rest).map (· + 1)

/-- `find` gives the first place of the pattern. -/
theorem find_eq_some {pat s : Bytes} {i : Nat} (h : find pat s = some i) :
    pat <+: s.drop i ∧ ∀ j, pat <+: s.drop j → i ≤ j := by
  induction s generalizing i with
  | nil =>
      unfold find at h
      split at h
      · rename_i hempty
        cases h
        rw [List.isEmpty_iff.mp hempty]
        exact ⟨List.nil_prefix, fun j _ => Nat.zero_le j⟩
      · cases h
  | cons b rest ih =>
      unfold find at h
      split at h
      · rename_i hpre
        cases h
        exact ⟨by simpa using hpre, fun j _ => Nat.zero_le j⟩
      · rename_i hpre
        obtain ⟨k, hk, rfl⟩ := Option.map_eq_some_iff.mp h
        obtain ⟨hat, hfirst⟩ := ih hk
        refine ⟨hat, fun j hj => ?_⟩
        cases j with
        | zero => exact absurd (by simpa using hj) hpre
        | succ j => exact Nat.succ_le_succ (hfirst j hj)

theorem find_eq_none {pat s : Bytes} (h : find pat s = none) (j : Nat) : ¬ pat <+: s.drop j := by
  induction s generalizing j with
  | nil =>
      unfold find at h
      split at h
      · cases h
      · rename_i hne
        intro hpre
        rw [List.drop_nil] at hpre
        simp [List.prefix_nil.mp hpre] at hne
  | cons b rest ih =>
      unfold find at h
      split at h
      · cases h
      · rename_i hne
        cases j with
        | zero =>
            intro hpre
            exact hne (by simpa using hpre)
        | succ j => exact ih (Option.map_eq_none_iff.mp h) j

/-- `pat in s`. -/
def contains (pat s : Bytes) : Bool := (find pat s).isSome

/-- `s.endswith(pat)`. -/
def endsWith (pat s : Bytes) : Bool := pat.reverse.isPrefixOf s.reverse

/-- The value of a continuation byte. -/
def continuation (b : UInt8) : Option Nat := if b.toNat / 64 = 2 then some (b.toNat % 64) else none

/-- The character of a code point, when the encoding is the shortest one and the code point is a scalar value. -/
def scalar (least n : Nat) : Option Char :=
  if h : n.isValidChar then if least ≤ n then some (Char.ofNatAux n h) else none else none

/-- `s.decode("utf-8")`, with `none` for a `UnicodeDecodeError`. -/
def decodeUtf8 : Bytes → Option (List Char)
  | [] => some []
  | b :: rest =>
    if b.toNat < 128 then do
      let c ← scalar 0 b.toNat
      return c :: (← decodeUtf8 rest)
    else match rest with
      | [] => none
      | b₁ :: rest =>
        if b.toNat / 32 = 6 then do
          let x₁ ← continuation b₁
          let c ← scalar 128 (b.toNat % 32 * 64 + x₁)
          return c :: (← decodeUtf8 rest)
        else match rest with
          | [] => none
          | b₂ :: rest =>
            if b.toNat / 16 = 14 then do
              let x₁ ← continuation b₁
              let x₂ ← continuation b₂
              let c ← scalar 2048 (b.toNat % 16 * 4096 + x₁ * 64 + x₂)
              return c :: (← decodeUtf8 rest)
            else match rest with
              | [] => none
              | b₃ :: rest =>
                if b.toNat / 8 = 30 then do
                  let x₁ ← continuation b₁
                  let x₂ ← continuation b₂
                  let x₃ ← continuation b₃
                  let c ← scalar 65536 (b.toNat % 8 * 262144 + x₁ * 4096 + x₂ * 64 + x₃)
                  return c :: (← decodeUtf8 rest)
                else none

end Bytes

namespace Text

/-- `c.isspace()`. -/
def isSpace (c : Char) : Bool :=
  let n := c.toNat
  (9 ≤ n && n ≤ 13) || (28 ≤ n && n ≤ 32) || n = 0x85 || n = 0xa0 || n = 0x1680 || (0x2000 ≤ n && n ≤ 0x200a) ||
    n = 0x2028 || n = 0x2029 || n = 0x202f || n = 0x205f || n = 0x3000

/-- `s.strip()`. -/
def strip (s : List Char) : List Char := ((s.dropWhile isSpace).reverse.dropWhile isSpace).reverse

/-- `s.startswith(pat)`. -/
def startsWith (pat s : List Char) : Bool := pat.isPrefixOf s

end Text

end PyMotor.Lib

/-!
## UTF-8 and ranges of byte strings

`str.encode` and `bytes.decode` of the language. A text is the beginning of another one when its bytes are, and the byte
strings that begin with given bytes are a range.
-/

namespace PyMotor.Lib.Bytes

/-- `s.encode("utf-8")`. -/
def encode (s : String) : Bytes := s.toList.flatMap String.utf8EncodeChar

/-- `s.decode("utf-8")`, with `none` for a `UnicodeDecodeError`. -/
def decode (s : Bytes) : Option String := String.fromUTF8? s.toByteArray

theorem toByteArray_encode (s : String) : (encode s).toByteArray = s.toByteArray := by
  have h : s.toList.utf8Encode = s.toByteArray := by
    rw [← String.toByteArray_ofList, String.ofList_toList]
  exact h

theorem decode_encode (s : String) : decode (encode s) = some s := by
  have hvalid := s.isValidUTF8
  rw [decode, toByteArray_encode, String.fromUTF8?, dif_pos hvalid]
  rfl

theorem encode_injective : Function.Injective encode := by
  intro s t h
  have hdecode := congrArg decode h
  rwa [decode_encode, decode_encode, Option.some.injEq] at hdecode

/-- The first character can be told from the bytes. -/
theorem utf8EncodeChar_append_inj {c c' : Char} {s s' : Bytes}
    (h : String.utf8EncodeChar c ++ s = String.utf8EncodeChar c' ++ s') : c = c' ∧ s = s' := by
  have hdecode := congrArg (fun bytes : Bytes => bytes.toByteArray.utf8DecodeChar? 0) h
  simp only [List.toByteArray_append, ByteArray.utf8DecodeChar?_utf8EncodeChar_append, Option.some.injEq] at hdecode
  subst hdecode
  exact ⟨rfl, List.append_cancel_left h⟩

theorem encode_prefix_iff {s t : String} : encode s <+: encode t ↔ s.toList <+: t.toList := by
  rw [encode, encode]
  generalize s.toList = cs
  generalize t.toList = cs'
  constructor
  · intro h
    induction cs generalizing cs' with
    | nil => exact List.nil_prefix
    | cons c cs ih =>
        obtain ⟨rest, hrest⟩ := h
        cases cs' with
        | nil =>
            have hlength := congrArg List.length hrest
            have hpos := c.utf8Size_pos
            simp only [List.flatMap_cons, List.flatMap_nil, List.length_append, String.length_utf8EncodeChar,
              List.length_nil] at hlength
            omega
        | cons c' cs' =>
            rw [List.flatMap_cons, List.flatMap_cons, List.append_assoc] at hrest
            obtain ⟨rfl, hcs⟩ := utf8EncodeChar_append_inj hrest
            exact List.cons_prefix_cons.mpr ⟨rfl, ih cs' ⟨rest, hcs⟩⟩
  · rintro ⟨rest, rfl⟩
    rw [List.flatMap_append]
    exact List.prefix_append ..

/-- The byte `0xff` does not occur. -/
theorem lt_of_mem_encode {s : String} {b : UInt8} (h : b ∈ encode s) : b < 0xff := by
  obtain ⟨c, -, hb⟩ := List.mem_flatMap.mp h
  simp only [String.utf8EncodeChar] at hb
  generalize c.val.toNat = v at hb
  rw [UInt8.lt_iff_toNat_lt]
  split at hb
  · simp only [List.mem_cons, List.not_mem_nil, or_false] at hb
    rw [hb, UInt8.toNat_ofNat']
    simp
    omega
  split at hb
  · simp only [List.mem_cons, List.not_mem_nil, or_false] at hb
    rcases hb with rfl | rfl <;> rw [UInt8.toNat_ofNat'] <;> simp <;> omega
  split at hb
  · simp only [List.mem_cons, List.not_mem_nil, or_false] at hb
    rcases hb with rfl | rfl | rfl <;> rw [UInt8.toNat_ofNat'] <;> simp <;> omega
  · simp only [List.mem_cons, List.not_mem_nil, or_false] at hb
    rcases hb with rfl | rfl | rfl | rfl <;> rw [UInt8.toNat_ofNat'] <;> simp <;> omega

theorem encode_ne_nil {s : String} (h : s ≠ "") : encode s ≠ [] := by
  intro hnil
  exact h (encode_injective (hnil.trans rfl))

/-! ## Ranges -/

/-- `s < t`. -/
def lt : Bytes → Bytes → Bool
  | _, [] => false
  | [], _ :: _ => true
  | b :: s, b' :: t => decide (b < b') || (decide (b = b') && lt s t)

/-- The byte strings from given bytes to those whose last byte is greater by one. -/
theorem between_iff {q k : Bytes} {b : UInt8} (hb : b < 0xff) :
    lt k (q ++ [b]) = false ∧ lt k (q ++ [b + 1]) = true ↔ q ++ [b] <+: k := by
  induction q generalizing k with
  | nil =>
      cases k with
      | nil => simp [lt]
      | cons c k =>
          have hsucc : (b + 1).toNat = b.toNat + 1 := by
            have := UInt8.lt_iff_toNat_lt.mp hb
            rw [UInt8.toNat_add]
            simp at this ⊢
            omega
          simp only [List.nil_append, lt, Bool.and_false, Bool.or_false, decide_eq_false_iff_not, decide_eq_true_eq,
            List.cons_prefix_cons, List.nil_prefix, and_true, UInt8.lt_iff_toNat_lt, hsucc, ← UInt8.toNat_inj]
          omega
  | cons a q ih =>
      cases k with
      | nil => simp [lt]
      | cons c k =>
          simp only [List.cons_append, lt, Bool.or_eq_false_iff, Bool.or_eq_true, Bool.and_eq_true, Bool.and_eq_false_iff,
            decide_eq_false_iff_not, decide_eq_true_eq, List.cons_prefix_cons, ← ih (k := k)]
          constructor
          · rintro ⟨⟨hnlt, hne | hle⟩, hlt | ⟨rfl, hlt⟩⟩
            · exact absurd hlt hnlt
            · exact absurd rfl hne
            · exact absurd hlt hnlt
            · exact ⟨rfl, hle, hlt⟩
          · rintro ⟨rfl, hle, hlt⟩
            exact ⟨⟨by simp, .inr hle⟩, .inr ⟨rfl, hlt⟩⟩

end PyMotor.Lib.Bytes

/-!
## Msgpack values as Python sees them

The values that a msgpack decoder returns: scalars, lists and dictionaries. A dictionary is the list of its items
in insertion order, and its keys are any values.
-/

namespace PyMotor.Lib

inductive Msg
  | nil
  | bool (b : Bool)
  | int (n : Int)
  | float (bits : UInt64)
  | str (s : String)
  | bin (data : Bytes)
  | ext (code : Int) (data : Bytes)
  | arr (xs : List Msg)
  | map (items : List (Msg × Msg))

namespace Msg

/-- The items of a Python dictionary. -/
abbrev Items := List (Msg × Msg)

/-- `isinstance(x, (dict, list))`. -/
def isContainer : Msg → Bool
  | .arr _ => true
  | .map _ => true
  | _ => false

mutual
/-- Every dictionary of the tree, itself included, satisfies `p`. -/
def Everywhere (p : Items → Prop) : Msg → Prop
  | .arr xs => EverywhereList p xs
  | .map items => p items ∧ EverywhereItems p items
  | _ => True

def EverywhereList (p : Items → Prop) : List Msg → Prop
  | [] => True
  | x :: xs => x.Everywhere p ∧ EverywhereList p xs

def EverywhereItems (p : Items → Prop) : Items → Prop
  | [] => True
  | (_, v) :: items => v.Everywhere p ∧ EverywhereItems p items
end

/-- The keys are strings, each once. -/
def StringKeys (items : Items) : Prop :=
  (items.map Prod.fst).Nodup ∧ ∀ item ∈ items, ∃ s, item.1 = .str s

theorem StringKeys.of_keys {items out : Items} (h : StringKeys items)
    (hk : out.map Prod.fst = items.map Prod.fst) : StringKeys out := by
  refine ⟨by rw [hk]; exact h.1, fun item hitem => ?_⟩
  have hmem : item.1 ∈ items.map Prod.fst := by
    rw [← hk]
    exact List.mem_map_of_mem hitem
  obtain ⟨item', hitem', heq⟩ := List.mem_map.1 hmem
  rw [← heq]
  exact h.2 item' hitem'

/-- A tree of dictionaries with string keys, lists and scalars. -/
def Tree (m : Msg) : Prop := m.Everywhere StringKeys

end Msg

/-- An encoder and a decoder, with `none` for an exception. -/
structure Codec where
  encode : Msg → Option Bytes
  decode : Bytes → Option Msg

namespace Codec

/-- The decoder reads back what the encoder wrote of a tree. -/
def Inverse (codec : Codec) : Prop :=
  ∀ m b, m.Tree → codec.encode m = some b → codec.decode b = some m

/-- The encoder takes every tree. -/
def Total (codec : Codec) : Prop := ∀ m, m.Tree → (codec.encode m).isSome

end Codec

end PyMotor.Lib
