import Mathlib.Data.List.Basic

/-!
# Streams of delimited frames

A stream is cut after every delimiter. The cut is unique, and it can be made while the stream arrives in pieces.
-/

namespace PyMotor.Lib

variable {α : Type} {Delim : List α → Prop} {s t f rest rest' : List α} {frames frames' : List (List α)}

/-- No delimiter is in `s`. -/
def Undelimited (Delim : List α → Prop) (s : List α) : Prop := ∀ pre d post, Delim d → s ≠ pre ++ d ++ post

/-- A delimiter ends `f`, and none ends before. -/
structure IsFrame (Delim : List α → Prop) (f : List α) : Prop where
  ends : ∃ d, Delim d ∧ d <:+ f
  once : ∀ pre d post, Delim d → f = pre ++ d ++ post → post = []

/-- The frames of `s`, and what follows the last of them. -/
structure Splits (Delim : List α → Prop) (s : List α) (frames : List (List α)) (rest : List α) : Prop where
  concat : frames.flatten ++ rest = s
  frames : ∀ f ∈ frames, IsFrame Delim f
  rest : Undelimited Delim rest

theorem IsFrame.not_undelimited (h : IsFrame Delim f) (t : List α) : ¬ Undelimited Delim (f ++ t) := by
  intro hu
  obtain ⟨d, hd, pre, rfl⟩ := h.ends
  exact hu pre d t hd rfl

theorem IsFrame.ne_nil (h : IsFrame Delim f) (hne : ¬ Delim []) : f ≠ [] := by
  rintro rfl
  obtain ⟨d, hd, hsuffix⟩ := h.ends
  rw [List.suffix_nil.mp hsuffix] at hd
  exact hne hd

/-- Of two frames at the head of a stream neither is longer. -/
theorem IsFrame.eq_of_append {g : List α} (hf : IsFrame Delim f) (hg : IsFrame Delim g) (h : f ++ s = g ++ t) : f = g := by
  have key : ∀ {f g u : List α}, IsFrame Delim f → IsFrame Delim g → g = f ++ u → f = g := by
    intro f g u hf hg he
    obtain ⟨d, hd, pre, rfl⟩ := hf.ends
    have hu := hg.once pre d u hd he
    rw [he, hu, List.append_nil]
  rcases List.append_eq_append_iff.mp h with ⟨u, hu, -⟩ | ⟨u, hu, -⟩
  · exact key hf hg hu
  · exact (key hg hf hu).symm

theorem Splits.unique (h : Splits Delim s frames rest) (h' : Splits Delim s frames' rest') :
    frames = frames' ∧ rest = rest' := by
  induction frames generalizing s frames' with
  | nil =>
      obtain rfl : rest = s := h.concat
      cases frames' with
      | nil => exact ⟨rfl, h'.concat.symm⟩
      | cons g frames' =>
          have hc := h'.concat
          rw [List.flatten_cons, List.append_assoc] at hc
          exact absurd (hc ▸ h.rest) ((h'.frames g (List.mem_cons_self ..)).not_undelimited _)
  | cons f frames ih =>
      have hc := h.concat
      rw [List.flatten_cons, List.append_assoc] at hc
      have hf := h.frames f (List.mem_cons_self ..)
      cases frames' with
      | nil =>
          obtain rfl : rest' = s := h'.concat
          exact absurd (hc ▸ h'.rest) (hf.not_undelimited _)
      | cons g frames' =>
          have hc' := h'.concat
          rw [List.flatten_cons, List.append_assoc] at hc'
          have he := hf.eq_of_append (h'.frames g (List.mem_cons_self ..)) (hc.trans hc'.symm)
          subst he
          have hrest := List.append_cancel_left (hc.trans hc'.symm)
          obtain ⟨hframes, hr⟩ := ih (s := frames.flatten ++ rest)
            ⟨rfl, fun x hx => h.frames x (List.mem_cons_of_mem _ hx), h.rest⟩
            ⟨hrest.symm, fun x hx => h'.frames x (List.mem_cons_of_mem _ hx), h'.rest⟩
          exact ⟨by rw [hframes], hr⟩

theorem Splits.append (h : Splits Delim s frames rest) (h' : Splits Delim (rest ++ t) frames' rest') :
    Splits Delim (s ++ t) (frames ++ frames') rest' where
  concat := by
    rw [List.flatten_append, List.append_assoc, h'.concat, ← List.append_assoc, h.concat]
  frames f hf := by
    rcases List.mem_append.mp hf with hf | hf
    · exact h.frames f hf
    · exact h'.frames f hf
  rest := h'.rest

theorem Splits.nil (h : Undelimited Delim s) : Splits Delim s [] s := ⟨rfl, fun _ hf => (nomatch hf), h⟩

theorem Splits.cons (hf : IsFrame Delim f) (h : Splits Delim s frames rest) : Splits Delim (f ++ s) (f :: frames) rest where
  concat := by rw [List.flatten_cons, List.append_assoc, h.concat]
  frames g hg := by
    rcases List.mem_cons.mp hg with rfl | hg
    · exact hf
    · exact h.frames g hg
  rest := h.rest

end PyMotor.Lib
