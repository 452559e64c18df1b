import Mathlib.Data.List.Basic
import Mathlib.Data.Nat.Digits.Defs
import Mathlib.Tactic.Ring
import PyMotor.Lib.Bytes

/-!
# Packed records

Little-endian records without alignment: a format is a list of codes, each of a fixed width. Every value that fits its code
is read back, and a field lies behind the fields before it. A buffer is changed by writing over a part of it.
-/

namespace PyMotor.Lib.Struct

/-! ## Integers -/

/-- The lowest `width` bytes, the lowest first. -/
def leBytes : Nat → Nat → Bytes
  | 0, _ => []
  | width + 1, n => UInt8.ofNat n :: leBytes width (n / 256)

def ofLeBytes : Bytes → Nat
  | [] => 0
  | b :: bs => b.toNat + 256 * ofLeBytes bs

@[simp] theorem length_leBytes (width n : Nat) : (leBytes width n).length = width := by
  induction width generalizing n with
  | zero => rfl
  | succ width ih => rw [leBytes, List.length_cons, ih]

theorem ofLeBytes_leBytes {width n : Nat} (h : n < 256 ^ width) : ofLeBytes (leBytes width n) = n := by
  induction width generalizing n with
  | zero =>
      rw [Nat.pow_zero, Nat.lt_one_iff] at h
      rw [h]
      rfl
  | succ width ih =>
      have hdiv : n / 256 < 256 ^ width := by
        rw [Nat.div_lt_iff_lt_mul (by decide), ← Nat.pow_succ]
        exact h
      have hlow : (UInt8.ofNat n).toNat = n % 256 := by simp
      rw [leBytes, ofLeBytes, ih hdiv, hlow]
      exact Nat.mod_add_div n 256

/-! ## Codes -/

/-- A value to pack; a float is given by its bits. -/
inductive Value
  | int (n : Int)
  | double (bits : UInt64)
deriving DecidableEq, Repr

/-- An unsigned or a signed integer of some bytes, a float, or padding. -/
inductive Code
  | unsigned (width : Nat)
  | signed (width : Nat)
  | double
  | pad (n : Nat)
deriving DecidableEq, Repr

namespace Code

def size : Code → Nat
  | unsigned width => width
  | signed width => width
  | double => 8
  | pad n => n

/-- Whether the code takes a value. -/
def isField : Code → Bool
  | pad _ => false
  | _ => true

/-- The values that fit. -/
def Fits : Code → Value → Prop
  | unsigned width, .int n => 0 ≤ n ∧ n < 256 ^ width
  | signed width, .int n => -(256 ^ width) ≤ 2 * n ∧ 2 * n < 256 ^ width
  | double, .double _ => True
  | _, _ => False

instance (code : Code) (value : Value) : Decidable (code.Fits value) := by
  cases code <;> cases value <;> unfold Fits <;> infer_instance

def pack (code : Code) (value : Value) : Bytes :=
  match value with
  | .int n => leBytes code.size (n % 256 ^ code.size).toNat
  | .double bits => leBytes code.size bits.toNat

def unpack (code : Code) (data : Bytes) : Value :=
  match code with
  | unsigned _ => .int (ofLeBytes data)
  | signed width =>
    .int (if 2 * (ofLeBytes data : Int) < 256 ^ width then ofLeBytes data else (ofLeBytes data : Int) - 256 ^ width)
  | double => .double (UInt64.ofNat (ofLeBytes data))
  | pad _ => .int 0

@[simp] theorem length_pack (code : Code) (value : Value) : (code.pack value).length = code.size := by
  cases value <;> rw [pack, length_leBytes]

theorem unpack_pack {code : Code} {value : Value} (h : code.Fits value) : code.unpack (code.pack value) = value := by
  cases code with
  | unsigned width =>
      cases value with
      | double bits => exact h.elim
      | int n =>
          obtain ⟨hlow, hhigh⟩ := h
          have hmod : n % 256 ^ width = n := Int.emod_eq_of_lt hlow hhigh
          have hlt : n.toNat < 256 ^ width := by
            rw [Int.toNat_lt hlow]
            exact_mod_cast hhigh
          rw [unpack, pack, size, hmod, ofLeBytes_leBytes hlt, Int.toNat_of_nonneg hlow]
  | signed width =>
      cases value with
      | double bits => exact h.elim
      | int n =>
          obtain ⟨hlow, hhigh⟩ := h
          have hpos : (0 : Int) < 256 ^ width := by positivity
          have hnonneg : 0 ≤ n % 256 ^ width := Int.emod_nonneg n hpos.ne'
          have hlt : (n % 256 ^ width).toNat < 256 ^ width := by
            rw [Int.toNat_lt hnonneg]
            exact_mod_cast Int.emod_lt_of_pos n hpos
          rw [unpack, pack, size, ofLeBytes_leBytes hlt, Int.toNat_of_nonneg hnonneg]
          by_cases hneg : 0 ≤ n
          · have hmod : n % 256 ^ width = n := Int.emod_eq_of_lt hneg (by omega)
            rw [hmod, if_pos hhigh]
          · have hmod : n % 256 ^ width = n + 256 ^ width := by
              rw [← Int.add_emod_right]
              exact Int.emod_eq_of_lt (by omega) (by omega)
            rw [hmod, if_neg (by omega), Int.add_sub_cancel]
  | double =>
      cases value with
      | int n => exact h.elim
      | double bits =>
          have hlt : bits.toNat < 256 ^ 8 := bits.toNat_lt
          rw [unpack, pack, size, ofLeBytes_leBytes hlt, UInt64.ofNat_toNat]
  | pad n => cases value <;> exact h.elim

end Code

/-! ## Formats -/

abbrev Format := List Code

def size (format : Format) : Nat := (format.map Code.size).sum

/-- `struct.pack`, with none for values that do not fit. -/
def pack : Format → List Value → Option Bytes
  | [], [] => some []
  | .pad n :: format, values => (pack format values).map (List.replicate n 0 ++ ·)
  | code :: format, value :: values =>
    if code.Fits value then (pack format values).map (code.pack value ++ ·) else none
  | _, _ => none

/-- The values that fit the codes of a format. -/
def Admits : Format → List Value → Prop
  | [], [] => True
  | .pad _ :: format, values => Admits format values
  | code :: format, value :: values => code.Fits value ∧ Admits format values
  | _, _ => False

/-- The values of data of the size of the format. -/
def fields : Format → Bytes → List Value
  | [], _ => []
  | .pad n :: format, data => fields format (data.drop n)
  | code :: format, data => code.unpack (data.take code.size) :: fields format (data.drop code.size)

/-- `struct.unpack`, with none for data of another size. -/
def unpack (format : Format) (data : Bytes) : Option (List Value) :=
  if data.length = size format then some (fields format data) else none

/-! ## Round trips -/

/-- The bytes of some values: each of the width of its code. -/
inductive Packs : Format → List Value → Bytes → Prop
  | nil : Packs [] [] []
  | pad {format : Format} {values : List Value} {data : Bytes} (n : Nat) (h : Packs format values data) :
    Packs (.pad n :: format) values (List.replicate n 0 ++ data)
  | field {code : Code} {format : Format} {value : Value} {values : List Value} {data : Bytes} (hcode : code.isField = true)
    (hvalue : code.Fits value) (h : Packs format values data) :
    Packs (code :: format) (value :: values) (code.pack value ++ data)

variable {format : Format} {values : List Value} {data : Bytes}

theorem packs_of_pack (h : pack format values = some data) : Packs format values data := by
  induction format generalizing values data with
  | nil =>
      cases values with
      | nil =>
          cases h
          exact .nil
      | cons value values => cases h
  | cons code format ih =>
      have hfield : ∀ value values, code.isField = true → (if code.Fits value then
          (pack format values).map (code.pack value ++ ·) else none) = some data →
          Packs (code :: format) (value :: values) data := by
        intro value values hcode h
        split at h
        · rename_i hfits
          obtain ⟨rest, hrest, rfl⟩ := Option.map_eq_some_iff.mp h
          exact .field hcode hfits (ih hrest)
        · cases h
      cases code with
      | pad n =>
          rw [pack] at h
          obtain ⟨rest, hrest, rfl⟩ := Option.map_eq_some_iff.mp h
          exact .pad n (ih hrest)
      | _ =>
          cases values with
          | nil => cases h
          | cons value values => exact hfield value values rfl h

theorem exists_pack (h : Admits format values) : ∃ data, pack format values = some data := by
  induction format generalizing values with
  | nil =>
      cases values with
      | nil => exact ⟨[], rfl⟩
      | cons value values => exact h.elim
  | cons code format ih =>
      have hfield : ∀ value values, code.Fits value → Admits format values → ∃ data, (if code.Fits value then
          (pack format values).map (code.pack value ++ ·) else none) = some data := by
        intro value values hvalue hvalues
        obtain ⟨rest, hrest⟩ := ih hvalues
        exact ⟨_, by rw [if_pos hvalue, hrest, Option.map_some]⟩
      cases code with
      | pad n =>
          obtain ⟨rest, hrest⟩ := ih h
          exact ⟨_, by rw [pack, hrest, Option.map_some]⟩
      | _ =>
          cases values with
          | nil => exact h.elim
          | cons value values => exact hfield value values h.1 h.2

theorem size_cons (code : Code) (format : Format) : size (code :: format) = code.size + size format := by
  rw [size, List.map_cons, List.sum_cons, size]

theorem Packs.length_eq (h : Packs format values data) : data.length = size format := by
  induction h with
  | nil => rfl
  | pad n h ih => rw [List.length_append, List.length_replicate, ih, size_cons, Code.size]
  | field hcode hvalue h ih => rw [List.length_append, Code.length_pack, ih, size_cons]

theorem fields_field {code : Code} (hcode : code.isField = true) (format : Format) (data : Bytes) :
    fields (code :: format) data = code.unpack (data.take code.size) :: fields format (data.drop code.size) := by
  cases code with
  | pad n => cases hcode
  | _ => rfl

theorem Packs.fields_eq (h : Packs format values data) : fields format data = values := by
  induction h with
  | nil => rfl
  | @pad format values data n h ih =>
      rw [fields, List.drop_append_of_le_length (List.length_replicate).ge, List.drop_of_length_le (by simp), List.nil_append,
        ih]
  | @field code format value values data hcode hvalue h ih =>
      have hlength : (code.pack value).length = code.size := Code.length_pack code value
      rw [fields_field hcode, ← hlength, List.take_left, List.drop_left, ih, Code.unpack_pack hvalue]

theorem length_of_pack (h : pack format values = some data) : data.length = size format :=
  (packs_of_pack h).length_eq

theorem unpack_pack (h : pack format values = some data) : unpack format data = some values := by
  have hpacks := packs_of_pack h
  rw [unpack, if_pos (length_of_pack h), hpacks.fields_eq]

/-! ## Offsets -/

theorem fields_append (before after : Format) (data : Bytes) :
    fields (before ++ after) data = fields before data ++ fields after (data.drop (size before)) := by
  induction before generalizing data with
  | nil => rfl
  | cons code before ih =>
      rw [List.cons_append, size_cons, ← List.drop_drop]
      cases hcode : code.isField with
      | false =>
          cases code with
          | pad n => exact ih _
          | _ => cases hcode
      | true => rw [fields_field hcode, fields_field hcode, ih, List.cons_append]

theorem fields_take {n : Nat} (h : size format ≤ n) (data : Bytes) : fields format (data.take n) = fields format data := by
  induction format generalizing data n with
  | nil => rfl
  | cons code format ih =>
      rw [size_cons] at h
      cases hcode : code.isField with
      | false =>
          cases code with
          | pad m =>
              rw [Code.size] at h
              rw [fields, fields, List.drop_take, ih (by omega)]
          | _ => cases hcode
      | true =>
          rw [fields_field hcode, fields_field hcode, List.take_take, min_eq_left (by omega), List.drop_take,
            ih (by omega)]

/-! ## Buffers -/

section Buffers

variable {α : Type} {buf data : List α} {offset other n : Nat}

/-- `buf[offset:offset + n]` of a `memoryview`. -/
def slice (buf : List α) (offset n : Nat) : List α := (buf.drop offset).take n

/-- The buffer with other bytes from an offset on. -/
def overwrite (buf : List α) (offset : Nat) (data : List α) : List α :=
  buf.take offset ++ data ++ buf.drop (offset + data.length)

theorem length_slice (h : offset + n ≤ buf.length) : (slice buf offset n).length = n := by
  rw [slice, List.length_take, List.length_drop]
  omega

theorem length_overwrite (h : offset + data.length ≤ buf.length) : (overwrite buf offset data).length = buf.length := by
  rw [overwrite, List.length_append, List.length_append, List.length_take, List.length_drop]
  omega

theorem slice_overwrite_self (h : offset + data.length ≤ buf.length) :
    slice (overwrite buf offset data) offset data.length = data := by
  have hlength : (buf.take offset).length = offset := by
    rw [List.length_take]
    omega
  rw [slice, overwrite, List.append_assoc, List.drop_left' hlength, List.take_left]

theorem getElem?_overwrite_of_lt (h : offset ≤ buf.length) {i : Nat} (hi : i < offset) :
    (overwrite buf offset data)[i]? = buf[i]? := by
  rw [overwrite, List.append_assoc, List.getElem?_append_left (by rw [List.length_take]; omega),
    List.getElem?_take_of_lt hi]

theorem getElem?_overwrite_of_le (h : offset ≤ buf.length) {i : Nat} (hi : offset + data.length ≤ i) :
    (overwrite buf offset data)[i]? = buf[i]? := by
  have hlength : (buf.take offset ++ data).length = offset + data.length := by
    rw [List.length_append, List.length_take]
    omega
  rw [overwrite, List.getElem?_append_right (by omega), hlength, List.getElem?_drop]
  congr 1
  omega

theorem slice_overwrite_of_disjoint (h : offset ≤ buf.length)
    (hdisjoint : other + n ≤ offset ∨ offset + data.length ≤ other) :
    slice (overwrite buf offset data) other n = slice buf other n := by
  apply List.ext_getElem?
  intro i
  rw [slice, slice]
  by_cases hi : i < n
  · rw [List.getElem?_take_of_lt hi, List.getElem?_take_of_lt hi, List.getElem?_drop, List.getElem?_drop]
    cases hdisjoint with
    | inl hbefore => exact getElem?_overwrite_of_lt h (by omega)
    | inr hafter => exact getElem?_overwrite_of_le h (by omega)
  · have hnone : ∀ l : List α, (l.take n)[i]? = none := fun l =>
      List.getElem?_eq_none ((List.length_take_le n l).trans (by omega))
    rw [hnone, hnone]

theorem take_overwrite (h : offset ≤ buf.length) (hn : offset + data.length ≤ n) :
    (overwrite buf offset data).take n = overwrite (buf.take n) offset data := by
  have hlength : (buf.take offset ++ data).length = offset + data.length := by
    rw [List.length_append, List.length_take]
    omega
  rw [overwrite, overwrite, List.take_append, List.take_of_length_le (by omega), hlength, List.take_take,
    min_eq_left (by omega), List.drop_take]

theorem slice_slice (buf : List α) {inner m : Nat} (h : inner + m ≤ n) :
    slice (slice buf offset n) inner m = slice buf (offset + inner) m := by
  rw [slice, slice, slice, List.drop_take, List.take_take, List.drop_drop, min_eq_left (by omega)]

end Buffers

theorem fields_split (before after : Format) {code : Code} (hcode : code.isField = true) (data : Bytes) :
    fields (before ++ code :: after) data =
      fields before data ++ code.unpack (slice data (size before) code.size) ::
        fields after (data.drop (size before + code.size)) := by
  rw [fields_append, fields_field hcode, List.drop_drop, slice]

/-- Writing over the part at the offset of a field changes this field alone. -/
theorem fields_overwrite (before after : Format) {code : Code} (hcode : code.isField = true) {data field : Bytes}
    (hfield : field.length = code.size) (h : size before + code.size ≤ data.length) :
    fields (before ++ code :: after) (overwrite data (size before) field) =
      fields before data ++ code.unpack field :: fields after (data.drop (size before + code.size)) := by
  have hself : slice (overwrite data (size before) field) (size before) code.size = field := by
    rw [← hfield]
    exact slice_overwrite_self (by omega)
  have hbefore : fields before (overwrite data (size before) field) = fields before data := by
    have hslice : slice (overwrite data (size before) field) 0 (size before) = slice data 0 (size before) :=
      slice_overwrite_of_disjoint (by omega) (Or.inl (by omega))
    rw [← fields_take le_rfl (overwrite data (size before) field), ← fields_take le_rfl data]
    exact congrArg (fields before) hslice
  have hafter : (overwrite data (size before) field).drop (size before + code.size) =
      data.drop (size before + code.size) := by
    have hlength : (data.take (size before) ++ field).length = size before + code.size := by
      rw [List.length_append, List.length_take, hfield]
      omega
    rw [overwrite, List.drop_left' hlength, hfield]
  rw [fields_split before after hcode, hself, hbefore, hafter]

end PyMotor.Lib.Struct
