import PyMotor.Router.Spec

/-!
# Frames and the loop over a stream
-/

namespace PyMotor.Router

open Lib

theorem nextFrame_nil : nextFrame [] = none := rfl

theorem nextFrame_ne_nil {pending frame rest : Bytes} (h : nextFrame pending = some (frame, rest)) : frame ≠ [] := by
  have key : ∀ n : Nat, some (pending.splitAt (n + 1)) = some (frame, rest) → frame ≠ [] := by
    intro n hn hnil
    rw [Option.some.injEq, List.splitAt_eq, Prod.mk.injEq] at hn
    have hp : pending = [] := by simpa [hnil] using hn.1
    rw [hp, nextFrame_nil] at h
    cases h
  unfold nextFrame at h
  split at h
  · cases h
  · exact key _ h
  · exact key _ h
  · split at h
    · exact key _ h
    · exact key _ h

theorem splitFrames_ne_nil (fuel : Nat) (pending : Bytes) : ∀ frame ∈ (splitFrames fuel pending).1, frame ≠ [] := by
  induction fuel generalizing pending with
  | zero => intro _ h; cases h
  | succ fuel ih =>
      unfold splitFrames
      cases hn : nextFrame pending with
      | none => intro _ h; cases h
      | some p =>
          intro frame h
          rcases List.mem_cons.mp h with rfl | h
          · exact nextFrame_ne_nil hn
          · exact ih _ frame h

theorem splitFrames_none {pending : Bytes} (h : nextFrame pending = none) (fuel : Nat) :
    splitFrames fuel pending = ([], pending) := by
  cases fuel with
  | zero => rfl
  | succ fuel => simp [splitFrames, h]

theorem splitFrames_some {pending : Bytes} {p : Bytes × Bytes} (h : nextFrame pending = some p) :
    ∃ frames rest, splitFrames pending.length pending = (p.1 :: frames, rest) := by
  cases pending with
  | nil => cases h
  | cons b pending => simp [splitFrames, h]

section Loop

variable {σ : Type} {body : Bytes → σ × Router → FrameEnd × σ × Router} {I : σ × Router → Prop}

theorem forFrames_invariant {frames : List Bytes} (hbody : ∀ frame ∈ frames, ∀ st, I st → I (body frame st).2)
    {st : σ × Router} (h : I st) : I (forFrames body frames st).2 := by
  induction frames generalizing st with
  | nil => exact h
  | cons frame frames ih =>
      have hf := hbody frame (List.mem_cons_self ..) st h
      unfold forFrames
      split
      · rename_i he
        rw [he] at hf
        exact ih (fun f hmem => hbody f (List.mem_cons_of_mem _ hmem)) hf
      · exact hf

theorem forChunks_invariant (hbody : ∀ frame, frame ≠ [] → ∀ st, I st → I (body frame st).2)
    (hnote : ∀ locals s chunk, I (locals, s) → I (locals, noteChunk chunk s)) (ending : Option Raised)
    {chunks : List Bytes} {pending : Bytes} {st : σ × Router} (h : I st) :
    I (forChunks body ending chunks pending st).2 := by
  induction chunks generalizing pending st with
  | nil =>
      unfold forChunks
      cases ending with
      | some e => exact h
      | none =>
          dsimp only
          split
          · exact h
          · rename_i hp
            have hne : pending ≠ [] := by simpa using hp
            have hf := hbody pending hne st h
            split <;> (rename_i he; rw [he] at hf; exact hf)
  | cons chunk chunks ih =>
      obtain ⟨locals, s⟩ := st
      have hf := forFrames_invariant (I := I)
        (fun frame hmem => hbody frame (splitFrames_ne_nil (pending ++ chunk).length (pending ++ chunk) frame hmem))
        (hnote locals s chunk h)
      unfold forChunks
      dsimp only
      split <;> rename_i he
      · rw [he] at hf; exact ih hf
      · rw [he] at hf; exact hf
      · rw [he] at hf; exact hf

end Loop

/-! ## A rule for the loop

The rule follows the frames that the body has taken. `I` holds between two frames, `B` after a frame that breaks
the loop, `X` after a frame that raises. -/

section Rule

variable {σ : Type} {body : Bytes → σ × Router → FrameEnd × σ × Router} {I B : List Bytes → σ × Router → Prop}
  {X : Raised → List Bytes → σ × Router → Prop}

def FramePost (I B : List Bytes → σ × Router → Prop) (X : Raised → List Bytes → σ × Router → Prop)
    (taken : List Bytes) : FrameEnd × σ × Router → Prop
  | (.next, st) => I taken st
  | (.broke, st) => B taken st
  | (.raised e, st) => X e taken st

theorem forFrames_rule (hbody : ∀ taken frame st, I taken st → FramePost I B X (taken ++ [frame]) (body frame st))
    (frames : List Bytes) {taken : List Bytes} {st : σ × Router} (h : I taken st) :
    FramePost I (fun _ st => ∃ t, t <+: taken ++ frames ∧ B t st) (fun e _ st => ∃ t, t <+: taken ++ frames ∧ X e t st)
      (taken ++ frames) (forFrames body frames st) := by
  induction frames generalizing taken st with
  | nil => simpa [forFrames, FramePost] using h
  | cons frame frames ih =>
      have hf := hbody taken frame st h
      have hpre : taken ++ [frame] <+: taken ++ frame :: frames := ⟨frames, by simp⟩
      unfold forFrames
      rcases hb : body frame st with ⟨result, st'⟩
      rw [hb] at hf
      cases result with
      | next =>
          have htaken : I (taken ++ [frame]) st' := hf
          have hrest := ih htaken
          rw [List.append_assoc] at hrest
          exact hrest
      | broke => exact ⟨_, hpre, hf⟩
      | raised e => exact ⟨_, hpre, hf⟩

def LoopPost (I B : List Bytes → σ × Router → Prop) (X : Raised → List Bytes → σ × Router → Prop)
    (ending : Option Raised) (frames : List Bytes) : LoopEnd × σ × Router → Prop
  | (.exhausted, st) => ending = none ∧ I frames st
  | (.broke, st) => ∃ t, t <+: frames ∧ B t st
  | (.raised e, st) => (∃ t, t <+: frames ∧ X e t st) ∨ ending = some e ∧ I frames st

theorem forChunks_rule (hbody : ∀ taken frame st, I taken st → FramePost I B X (taken ++ [frame]) (body frame st))
    (hnote : ∀ taken locals s chunk, I taken (locals, s) → I taken (locals, noteChunk chunk s)) (ending : Option Raised)
    (chunks : List Bytes) (pending : Bytes) {taken : List Bytes} {st : σ × Router} (h : I taken st) :
    LoopPost I B X ending (taken ++ streamFrames ending chunks pending) (forChunks body ending chunks pending st) := by
  induction chunks generalizing pending taken st with
  | nil =>
      unfold forChunks
      cases ending with
      | some e => exact .inr ⟨rfl, by simpa [streamFrames, completeFrames] using h⟩
      | none =>
          cases hp : pending.isEmpty with
          | true => exact ⟨rfl, by simpa [streamFrames, completeFrames, hp] using h⟩
          | false =>
              have hf := hbody taken pending st h
              rcases hb : body pending st with ⟨result, st'⟩
              rw [hb] at hf
              have hframes : streamFrames none [] pending = [pending] := by simp [streamFrames, completeFrames, hp]
              rw [hframes]
              dsimp only
              rw [if_neg Bool.false_ne_true]
              cases result with
              | next => exact ⟨rfl, hf⟩
              | broke => exact ⟨_, List.prefix_refl _, hf⟩
              | raised e => exact .inl ⟨_, List.prefix_refl _, hf⟩
  | cons chunk chunks ih =>
      obtain ⟨locals, s⟩ := st
      have hf := forFrames_rule hbody (splitFrames (pending ++ chunk).length (pending ++ chunk)).1
        (hnote taken locals s chunk h)
      have hframes : streamFrames ending (chunk :: chunks) pending =
          (splitFrames (pending ++ chunk).length (pending ++ chunk)).1 ++
            streamFrames ending chunks (splitFrames (pending ++ chunk).length (pending ++ chunk)).2 := by
        simp [streamFrames, completeFrames]
      have hpre : ∀ {t}, t <+: taken ++ (splitFrames (pending ++ chunk).length (pending ++ chunk)).1 →
          t <+: taken ++ streamFrames ending (chunk :: chunks) pending := by
        intro t ht
        rw [hframes, ← List.append_assoc]
        exact ht.trans (List.prefix_append ..)
      unfold forChunks
      dsimp only
      rcases hb : forFrames body (splitFrames (pending ++ chunk).length (pending ++ chunk)).1
        (locals, noteChunk chunk s) with ⟨result, st'⟩
      rw [hb] at hf
      cases result with
      | next =>
          have hrest := ih (splitFrames (pending ++ chunk).length (pending ++ chunk)).2 hf
          rw [List.append_assoc, ← hframes] at hrest
          exact hrest
      | broke =>
          obtain ⟨t, ht, hB⟩ := hf
          exact ⟨t, hpre ht, hB⟩
      | raised e =>
          obtain ⟨t, ht, hX⟩ := hf
          exact .inl ⟨t, hpre ht, hX⟩

end Rule

section Stream

variable {σ : Type} {body : Bytes → σ × Router → FrameEnd × σ × Router} {I B : List Bytes → σ × Router → Prop}
  {X : Raised → List Bytes → σ × Router → Prop} {stream : DecodeStream} {locals : σ} {s : Router}

theorem forwardStreamRequest_rule (hconnect : stream.connect = none)
    (hbody : ∀ taken frame st, taken ++ [frame] <+: stream.frames → I taken st →
      FramePost I B X (taken ++ [frame]) (body frame st))
    (hnote : ∀ taken locals s chunk, I taken (locals, s) → I taken (locals, noteChunk chunk s))
    (h : I [] (locals, { s with firstChunkSent := false })) :
    LoopPost I B X stream.ending stream.frames (forwardStreamRequest body stream locals s) := by
  have hstep : ∀ taken frame st, (taken <+: stream.frames → I taken st) →
      FramePost (fun t st => t <+: stream.frames → I t st) (fun t st => t <+: stream.frames → B t st)
        (fun e t st => t <+: stream.frames → X e t st) (taken ++ [frame]) (body frame st) := by
    intro taken frame st hst
    have hpost : taken ++ [frame] <+: stream.frames → FramePost I B X (taken ++ [frame]) (body frame st) := fun hp =>
      hbody taken frame st hp (hst ((List.prefix_append ..).trans hp))
    generalize body frame st = r at hpost ⊢
    obtain ⟨result, st'⟩ := r
    cases result with
    | next => exact hpost
    | broke => exact hpost
    | raised e => exact hpost
  have hloop := forChunks_rule hstep (fun taken locals s chunk hst hp => hnote taken locals s chunk (hst hp)) stream.ending
    stream.chunks []
    (show ([] : List Bytes) <+: stream.frames → I [] (locals, { s with firstChunkSent := false }) from fun _ => h)
  rw [List.nil_append, show streamFrames stream.ending stream.chunks [] = stream.frames from rfl] at hloop
  rw [forwardStreamRequest, hconnect]
  dsimp only
  rcases hr : forChunks body stream.ending stream.chunks [] (locals, { s with firstChunkSent := false }) with ⟨result, st'⟩
  rw [hr] at hloop
  cases result with
  | exhausted => exact ⟨hloop.1, hloop.2 (List.prefix_refl _)⟩
  | broke =>
      obtain ⟨t, ht, hB⟩ := hloop
      exact ⟨t, ht, hB ht⟩
  | raised e =>
      rcases hloop with ⟨t, ht, hX⟩ | ⟨hend, hI⟩
      · exact .inl ⟨t, ht, hX ht⟩
      · exact .inr ⟨hend, hI (List.prefix_refl _)⟩

/-- The body passes over a frame. -/
def Passes (body : Bytes → σ × Router → FrameEnd × σ × Router) (I : List Bytes → σ × Router → Prop) (frames : List Bytes) :
    Prop :=
  ∀ taken frame st, frame ∈ frames → I taken st → ∃ st', body frame st = (.next, st') ∧ I (taken ++ [frame]) st'

theorem forwardStreamRequest_passed (hconnect : stream.connect = none) (hending : stream.ending = none)
    (hbody : Passes body I stream.frames)
    (hnote : ∀ taken locals s chunk, I taken (locals, s) → I taken (locals, noteChunk chunk s))
    (h : I [] (locals, { s with firstChunkSent := false })) :
    ∃ st', forwardStreamRequest body stream locals s = (.exhausted, st') ∧ I stream.frames st' := by
  have hstep : ∀ taken frame st, taken ++ [frame] <+: stream.frames → I taken st →
      FramePost I (fun _ _ => False) (fun _ _ _ => False) (taken ++ [frame]) (body frame st) := by
    intro taken frame st hp hst
    obtain ⟨st', hb, hst'⟩ := hbody taken frame st (hp.subset (by simp)) hst
    rw [hb]
    exact hst'
  have hloop := forwardStreamRequest_rule hconnect hstep hnote h
  rcases hr : forwardStreamRequest body stream locals s with ⟨result, st'⟩
  rw [hr] at hloop
  cases result with
  | exhausted => exact ⟨st', rfl, hloop.2⟩
  | broke =>
      obtain ⟨t, -, hfalse⟩ := hloop
      exact hfalse.elim
  | raised e =>
      rcases hloop with ⟨t, -, hfalse⟩ | ⟨hend, -⟩
      · exact hfalse.elim
      · rw [hending] at hend
        cases hend

def loopEnd : FrameEnd × σ × Router → LoopEnd × σ × Router
  | (.next, st) => (.exhausted, st)
  | (.broke, st) => (.broke, st)
  | (.raised e, st) => (.raised e, st)

theorem forwardStreamRequest_stopped {before : List Bytes} {signal : Bytes} (hconnect : stream.connect = none)
    (hframes : before ++ [signal] <+: stream.frames) (hbody : Passes body I before)
    (hstop : ∀ st, I before st → ∀ st', body signal st ≠ (.next, st'))
    (hnote : ∀ taken locals s chunk, I taken (locals, s) → I taken (locals, noteChunk chunk s))
    (h : I [] (locals, { s with firstChunkSent := false })) :
    ∃ st, I before st ∧ forwardStreamRequest body stream locals s = loopEnd (body signal st) := by
  have hshort : ¬ stream.frames <+: before := by
    intro hf
    have hlen := (hframes.trans hf).length_le
    rw [List.length_append, List.length_singleton] at hlen
    omega
  have hstep : ∀ taken frame st, taken ++ [frame] <+: stream.frames → taken <+: before ∧ I taken st →
      FramePost (fun t st => t <+: before ∧ I t st) (fun _ st' => ∃ st, I before st ∧ body signal st = (.broke, st'))
        (fun e _ st' => ∃ st, I before st ∧ body signal st = (.raised e, st')) (taken ++ [frame]) (body frame st) := by
    intro taken frame st hp ⟨htaken, hst⟩
    by_cases hmore : taken ++ [frame] <+: before
    · obtain ⟨st', hb, hst'⟩ := hbody taken frame st (hmore.subset (by simp)) hst
      rw [hb]
      exact ⟨hmore, hst'⟩
    · -- All of `before` is taken, so this is the frame that ends the loop.
      have hlen := htaken.length_le
      have hle : before ++ [signal] <+: taken ++ [frame] := by
        refine List.prefix_of_prefix_length_le hframes hp ?_
        by_contra hlt
        refine hmore (List.prefix_of_prefix_length_le hp ((List.prefix_append ..).trans hframes) ?_)
        simp only [List.length_append, List.length_singleton] at hlt ⊢
        omega
      have hall := hle.eq_of_length_le (by simpa using hlen)
      obtain ⟨rfl, hsignal⟩ := List.append_inj' hall rfl
      obtain rfl := (List.cons.inj hsignal).1
      rcases hb : body signal st with ⟨result, st'⟩
      cases result with
      | next => exact absurd hb (hstop st hst st')
      | broke => exact ⟨st, hst, hb⟩
      | raised e => exact ⟨st, hst, hb⟩
  have hloop := forwardStreamRequest_rule hconnect hstep
    (fun taken locals s chunk hst => ⟨hst.1, hnote taken locals s chunk hst.2⟩) ⟨List.nil_prefix, h⟩
  rcases hr : forwardStreamRequest body stream locals s with ⟨result, st'⟩
  rw [hr] at hloop
  cases result with
  | exhausted => exact absurd hloop.2.1 hshort
  | broke =>
      obtain ⟨t, -, st, hst, hb⟩ := hloop
      exact ⟨st, hst, by rw [hb]; rfl⟩
  | raised e =>
      rcases hloop with ⟨t, -, st, hst, hb⟩ | ⟨-, hI⟩
      · exact ⟨st, hst, by rw [hb]; rfl⟩
      · exact absurd hI.1 hshort

theorem forwardStreamRequest_broke {before : List Bytes} {signal : Bytes} {P : σ × Router → Prop}
    (hconnect : stream.connect = none) (hframes : before ++ [signal] <+: stream.frames) (hbody : Passes body I before)
    (hsignal : ∀ st, I before st → ∃ st', body signal st = (.broke, st') ∧ P st')
    (hnote : ∀ taken locals s chunk, I taken (locals, s) → I taken (locals, noteChunk chunk s))
    (h : I [] (locals, { s with firstChunkSent := false })) :
    ∃ st', forwardStreamRequest body stream locals s = (.broke, st') ∧ P st' := by
  obtain ⟨st, hst, hloop⟩ := forwardStreamRequest_stopped hconnect hframes hbody (fun st hst st' hb => by
    obtain ⟨st'', hb', -⟩ := hsignal st hst
    rw [hb'] at hb
    cases hb) hnote h
  obtain ⟨st', hb, hP⟩ := hsignal st hst
  rw [hb] at hloop
  exact ⟨st', hloop, hP⟩

theorem forwardStreamRequest_raised {before : List Bytes} {signal : Bytes} {P : Raised → Prop}
    (hconnect : stream.connect = none) (hframes : before ++ [signal] <+: stream.frames) (hbody : Passes body I before)
    (hsignal : ∀ st, I before st → ∃ e st', body signal st = (.raised e, st') ∧ P e)
    (hnote : ∀ taken locals s chunk, I taken (locals, s) → I taken (locals, noteChunk chunk s))
    (h : I [] (locals, { s with firstChunkSent := false })) :
    ∃ e st', forwardStreamRequest body stream locals s = (.raised e, st') ∧ P e := by
  obtain ⟨st, hst, hloop⟩ := forwardStreamRequest_stopped hconnect hframes hbody (fun st hst st' hb => by
    obtain ⟨e, st'', hb', -⟩ := hsignal st hst
    rw [hb'] at hb
    cases hb) hnote h
  obtain ⟨e, st', hb, hP⟩ := hsignal st hst
  rw [hb] at hloop
  exact ⟨e, st', hloop, hP⟩

end Stream

end PyMotor.Router
