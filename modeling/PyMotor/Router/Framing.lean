import PyMotor.Lib.Framing
import PyMotor.Router.Lemmas.Frames

/-!
# The frames of a stream

`forward_stream_request` cuts the bytes of the engine after every blank line. It looks for both line ends, and an
arriving chunk may end anywhere.
-/

namespace PyMotor.Router

open Lib

/-- A blank line. -/
def Delimiter (d : Bytes) : Prop := d = [10, 10] ∨ d = [13, 10, 13, 10]

/-- A consumer that keeps what it gets. -/
def collect (frame : Bytes) (st : List Bytes × Router) : FrameEnd × List Bytes × Router :=
  (.next, st.1 ++ [frame], st.2)

/-- What `forward_stream_request` yields. -/
def yielded (chunks : List Bytes) (s : Router) : List Bytes :=
  (forwardStreamRequest collect { chunks := chunks } [] s).2.1

/-! ## The search for a delimiter -/

variable {s : Bytes} {i : Nat}

theorem getElem?_of_lf (h : [10, 10] <+: s.drop i) : s[i]? = some 10 ∧ s[i + 1]? = some 10 := by
  obtain ⟨t, ht⟩ := h
  constructor
  · rw [← Nat.add_zero i, ← List.getElem?_drop, ← ht]
    rfl
  · rw [← List.getElem?_drop, ← ht]
    rfl

theorem getElem?_of_crlf (h : [13, 10, 13, 10] <+: s.drop i) : s[i]? = some 13 ∧ s[i + 2]? = some 13 := by
  obtain ⟨t, ht⟩ := h
  constructor
  · rw [← Nat.add_zero i, ← List.getElem?_drop, ← ht]
    rfl
  · rw [← List.getElem?_drop, ← ht]
    rfl

theorem lf_not_in_crlf {j : Nat} (hcrlf : [13, 10, 13, 10] <+: s.drop i) (hlf : [10, 10] <+: s.drop j) (hij : i ≤ j)
    (hend : j + 2 ≤ i + 4) : False := by
  obtain ⟨h₀, h₂⟩ := getElem?_of_crlf hcrlf
  obtain ⟨hj, hj'⟩ := getElem?_of_lf hlf
  obtain rfl | rfl | rfl : j = i ∨ j = i + 1 ∨ j = i + 2 := by omega
  · rw [h₀] at hj
    simp at hj
  · rw [h₂] at hj'
    simp at hj'
  · rw [h₂] at hj
    simp at hj

theorem at_of_eq_append {pre d : Bytes} (post : Bytes) (h : s = pre ++ d ++ post) : d <+: s.drop pre.length := by
  rw [h, List.append_assoc, List.drop_left]
  exact List.prefix_append _ _

theorem isFrame_take {d : Bytes} (hd : Delimiter d) (hat : d <+: s.drop i)
    (hfirst : ∀ j d', Delimiter d' → d' <+: s.drop j → j + d'.length ≤ i + d.length → j + d'.length = i + d.length) :
    IsFrame Delimiter (s.take (i + d.length)) where
  ends := by
    refine ⟨d, hd, s.take i, ?_⟩
    rw [List.take_add, ← List.prefix_iff_eq_take.mp hat]
  once pre d' post hd' he := by
    have hlen := congrArg List.length he
    simp only [List.length_take, List.length_append] at hlen
    have hat' : d' <+: s.drop pre.length := by
      refine at_of_eq_append (post ++ s.drop (i + d.length)) ?_
      rw [← List.append_assoc, ← he, List.take_append_drop]
    have hend := hfirst pre.length d' hd' hat' (by omega)
    exact List.eq_nil_of_length_eq_zero (by omega)

theorem isFrame_lf (hlf : Bytes.find [10, 10] s = some i)
    (hcrlf : ∀ j, [13, 10, 13, 10] <+: s.drop j → i ≤ j) : IsFrame Delimiter (s.take (i + 2)) := by
  obtain ⟨hat, hfirst⟩ := Bytes.find_eq_some hlf
  refine isFrame_take (d := [10, 10]) (.inl rfl) hat fun j d' hd' hj hend => ?_
  rcases hd' with rfl | rfl
  · have hij := hfirst j hj
    simp only [List.length_cons, List.length_nil] at hend ⊢
    omega
  · have hij := hcrlf j hj
    simp only [List.length_cons, List.length_nil] at hend
    omega

theorem isFrame_crlf (hcrlf : Bytes.find [13, 10, 13, 10] s = some i)
    (hlf : ∀ j, [10, 10] <+: s.drop j → i ≤ j) : IsFrame Delimiter (s.take (i + 4)) := by
  obtain ⟨hat, hfirst⟩ := Bytes.find_eq_some hcrlf
  refine isFrame_take (d := [13, 10, 13, 10]) (.inr rfl) hat fun j d' hd' hj hend => ?_
  rcases hd' with rfl | rfl
  · exact (lf_not_in_crlf hat hj (hlf j hj) (by simpa using hend)).elim
  · have hij := hfirst j hj
    simp only [List.length_cons, List.length_nil] at hend ⊢
    omega

theorem nextFrame_eq_none (h : nextFrame s = none) : Undelimited Delimiter s := by
  intro pre d post hd he
  have hat := at_of_eq_append post he
  unfold nextFrame at h
  split at h
  · rename_i hlf hcrlf
    rcases hd with rfl | rfl
    · exact Bytes.find_eq_none hlf _ hat
    · exact Bytes.find_eq_none hcrlf _ hat
  · cases h
  · cases h
  · cases h

theorem nextFrame_eq_some {frame rest : Bytes} (h : nextFrame s = some (frame, rest)) :
    frame ++ rest = s ∧ IsFrame Delimiter frame := by
  have key : ∀ n, IsFrame Delimiter (s.take n) → some (s.splitAt n) = some (frame, rest) →
      frame ++ rest = s ∧ IsFrame Delimiter frame := by
    intro n hframe he
    rw [List.splitAt_eq, Option.some.injEq, Prod.mk.injEq] at he
    obtain ⟨rfl, rfl⟩ := he
    exact ⟨List.take_append_drop n s, hframe⟩
  unfold nextFrame at h
  split at h
  · cases h
  · rename_i lf hlf hcrlf
    exact key _ (isFrame_lf hlf fun j hj => absurd hj (Bytes.find_eq_none hcrlf j)) h
  · rename_i crlf hlf hcrlf
    exact key _ (isFrame_crlf hcrlf fun j hj => absurd hj (Bytes.find_eq_none hlf j)) h
  · rename_i lf crlf hlf hcrlf
    have hlf' := (Bytes.find_eq_some hlf).2
    have hcrlf' := (Bytes.find_eq_some hcrlf).2
    split at h
    · exact key _ (isFrame_crlf hcrlf fun j hj => (Nat.le_of_lt ‹_›).trans (hlf' j hj)) h
    · exact key _ (isFrame_lf hlf fun j hj => (Nat.le_of_not_lt ‹_›).trans (hcrlf' j hj)) h

/-! ## The frames -/

theorem splits_splitFrames (fuel : Nat) (hlen : s.length ≤ fuel) :
    Splits Delimiter s (splitFrames fuel s).1 (splitFrames fuel s).2 := by
  induction fuel generalizing s with
  | zero =>
      obtain rfl := List.eq_nil_of_length_eq_zero (Nat.le_zero.mp hlen)
      exact .nil (nextFrame_eq_none nextFrame_nil)
  | succ fuel ih =>
      unfold splitFrames
      cases hnext : nextFrame s with
      | none => exact .nil (nextFrame_eq_none hnext)
      | some p =>
          obtain ⟨frame, rest⟩ := p
          obtain ⟨rfl, hframe⟩ := nextFrame_eq_some hnext
          have hpos := List.length_pos_of_ne_nil (nextFrame_ne_nil hnext)
          rw [List.length_append] at hlen
          exact .cons hframe (ih (by omega))

theorem splits_completeFrames (chunks : List Bytes) (pending : Bytes) (h : Undelimited Delimiter pending) :
    Splits Delimiter (pending ++ chunks.flatten) (completeFrames chunks pending).1 (completeFrames chunks pending).2 := by
  induction chunks generalizing pending with
  | nil => simpa [completeFrames] using Splits.nil h
  | cons chunk chunks ih =>
      have hchunk := splits_splitFrames (s := pending ++ chunk) _ (Nat.le_refl _)
      have hrest := hchunk.append (ih _ hchunk.rest)
      rw [List.append_assoc] at hrest
      exact hrest

theorem yielded_eq (chunks : List Bytes) (s : Router) : yielded chunks s = streamFrames none chunks [] := by
  have hbody : ∀ taken frame (st : List Bytes × Router), st.1 = taken →
      FramePost (fun taken st => st.1 = taken) (fun _ _ => False) (fun _ _ _ => False) (taken ++ [frame])
        (collect frame st) := by
    rintro taken frame st rfl
    rfl
  have hloop := forChunks_rule hbody (fun _ _ _ _ h => h) none chunks []
    (show (([] : List Bytes), { s with firstChunkSent := false }).1 = [] from rfl)
  unfold yielded forwardStreamRequest
  dsimp only
  rcases hres : forChunks collect none chunks [] (([] : List Bytes), { s with firstChunkSent := false }) with ⟨result, st⟩
  rw [hres] at hloop
  cases result with
  | exhausted => exact hloop.2
  | broke =>
      obtain ⟨t, -, hB⟩ := hloop
      exact hB.elim
  | raised e =>
      rcases hloop with ⟨t, -, hX⟩ | ⟨hend, -⟩
      · exact hX.elim
      · cases hend

/-- What a consumer gets of the bytes `s`, cut in any way: the frames up to the last blank line, and then the bytes
after it as they are. -/
theorem yielded_of_splits {chunks : List Bytes} {frames : List Bytes} {rest : Bytes} (r : Router)
    (h : Splits Delimiter chunks.flatten frames rest) :
    yielded chunks r = frames ++ if rest.isEmpty then [] else [rest] := by
  obtain ⟨hframes, hrest⟩ := (splits_completeFrames chunks [] (nextFrame_eq_none nextFrame_nil)).unique h
  rw [yielded_eq, streamFrames, hframes, hrest]
  rfl

/-- The frames are the stream, however it is cut. All but the last one end with a blank line and have none before, and
none is empty. -/
theorem frames_of_stream (chunks : List Bytes) (r : Router) :
    (yielded chunks r).flatten = chunks.flatten ∧
      (∀ chunks' r', chunks'.flatten = chunks.flatten → yielded chunks' r' = yielded chunks r) ∧
      (∀ frame ∈ (yielded chunks r).dropLast, IsFrame Delimiter frame) ∧
      [] ∉ yielded chunks r := by
  have h := splits_completeFrames chunks [] (nextFrame_eq_none nextFrame_nil)
  rw [List.nil_append] at h
  generalize (completeFrames chunks []).1 = frames at h
  generalize (completeFrames chunks []).2 = rest at h
  have hne : ∀ frame ∈ frames, frame ≠ [] := fun frame hf => (h.frames frame hf).ne_nil (by simp [Delimiter])
  refine ⟨?_, fun chunks' r' he => ?_, ?_, ?_⟩
  · rw [yielded_of_splits r h, ← h.concat, List.flatten_append]
    cases rest <;> simp
  · rw [yielded_of_splits r h, yielded_of_splits r' (he ▸ h)]
  · rw [yielded_of_splits r h]
    intro frame hf
    cases rest with
    | nil => exact h.frames frame (List.mem_of_mem_dropLast (by simpa using hf))
    | cons b rest => exact h.frames frame (by simpa using hf)
  · rw [yielded_of_splits r h]
    intro hmem
    rcases List.mem_append.mp hmem with hmem | hmem
    · exact hne [] hmem rfl
    · cases rest with
      | nil => simp at hmem
      | cons b rest => simp at hmem

end PyMotor.Router
