import Mathlib.Data.Fintype.EquivFin
import PyMotor.Zmq.Lemmas.RoundTrip

/-!
# Following references between frames

Resolving a value comes to an end exactly when no chain of references from it leads into a cycle: along a chain the
depth that is left goes down, and without a cycle the finitely many frames are resolved one after the other.
-/

namespace PyMotor.Zmq

open Lib Relation

/-- Over finitely many members, an element from which no cycle is reachable is accessible. -/
theorem acc_of_no_cycle {r : Nat → Nat → Prop} {bound : Nat} (hbound : ∀ i j, r i j → j < bound) {i : Nat}
    (h : ¬ ∃ j, ReflTransGen r i j ∧ TransGen r j j) : Acc (fun a b => r b a) i := by
  let α := { j : Nat // TransGen r i j }
  have hlt : ∀ j : α, j.1 < bound := by
    rintro ⟨j, hj⟩
    obtain ⟨k, -, hkj⟩ := TransGen.tail'_iff.1 hj
    exact hbound k j hkj
  have hfin : Finite α :=
    Finite.of_injective (fun j : α => (⟨j.1, hlt j⟩ : Fin bound)) fun a b hab => Subtype.ext (by simpa using hab)
  have : IsTrans α fun a b => TransGen r b.1 a.1 := ⟨fun _ _ _ hab hbc => hbc.trans hab⟩
  have : Std.Irrefl fun a b : α => TransGen r b.1 a.1 := ⟨fun a ha => h ⟨a.1, a.2.to_reflTransGen, ha⟩⟩
  have hwf := Finite.wellFounded_of_trans_of_irrefl fun a b : α => TransGen r b.1 a.1
  have hacc : ∀ j : α, Acc (fun a b => r b a) j.1 := by
    intro j
    induction j using hwf.induction with
    | _ j ih => exact Acc.intro _ fun k hk => ih ⟨k, j.2.tail hk⟩ (.single hk)
  exact Acc.intro i fun j hj => hacc ⟨j, .single hj⟩

/-! ## Runs of the reader -/

section Reading

variable {α β : Type}

theorem Reading.bind_eq_pure {x : Reading α} {f : α → Reading β} {b : β} :
    x >>= f = pure b ↔ ∃ a, x = pure a ∧ f a = pure b := by
  constructor
  · intro h
    match x, h with
    | some (.ok a), h => exact ⟨a, rfl, h⟩
    | some (.error _), h => cases h
    | none, h => cases h
  · rintro ⟨a, rfl, hf⟩
    rw [pure_bind, hf]

theorem Reading.bind_eq_throw {x : Reading α} {f : α → Reading β} {e : ReadError} (h : x >>= f = throw e) :
    x = throw e ∨ ∃ a, x = pure a ∧ f a = throw e := by
  match x, h with
  | some (.ok a), h => exact .inr ⟨a, rfl, h⟩
  | some (.error _), h =>
      cases h
      exact .inl rfl
  | none, h => cases h

theorem Reading.pure_ne_throw (a : α) (e : ReadError) : (pure a : Reading α) ≠ throw e := by
  intro h
  cases h

theorem Reading.isSome_bind_pure (x : Reading α) (f : α → β) :
    (x >>= fun a => pure (f a)).run.isSome = x.run.isSome := by
  match x with
  | some (.ok a) => rfl
  | some (.error _) => rfl
  | none => rfl

theorem mapM_returns_iff {f : α → Reading β} {xs : List α} :
    (∃ ys, xs.mapM f = pure ys) ↔ ∀ x ∈ xs, ∃ y, f x = pure y := by
  induction xs with
  | nil => simp
  | cons x xs ih =>
      rw [List.forall_mem_cons, ← ih, List.mapM_cons]
      simp only [Reading.bind_eq_pure]
      constructor
      · rintro ⟨_, y, hy, ys, hys, -⟩
        exact ⟨⟨y, hy⟩, ys, hys⟩
      · rintro ⟨⟨y, hy⟩, ys, hys⟩
        exact ⟨y :: ys, y, hy, ys, hys, rfl⟩

theorem mapM_ne_throw {f : α → Reading β} (hf : ∀ x e, f x ≠ throw e) (xs : List α) (e : ReadError) :
    xs.mapM f ≠ throw e := by
  induction xs with
  | nil => exact Reading.pure_ne_throw _ _
  | cons x xs ih =>
      rw [List.mapM_cons]
      intro h
      rcases Reading.bind_eq_throw h with h | ⟨y, -, h⟩
      · exact hf x e h
      · rcases Reading.bind_eq_throw h with h | ⟨ys, -, h⟩
        · exact ih h
        · exact Reading.pure_ne_throw _ _ h

end Reading

section

variable {codec : Codec} {aux : List Bytes}

/-- The recursion of depth `fuel` gives a value. -/
def Returns (codec : Codec) (aux : List Bytes) (fuel : Nat) (m : Msg) : Prop :=
  ∃ r, resolveRefs codec aux fuel m = pure r

theorem not_returns_zero (m : Msg) : ¬ Returns codec aux 0 m := by
  rintro ⟨r, hr⟩
  cases hr

theorem returns_ref {fuel idx : Nat} {items : Msg.Items} {m : Msg} (hidx : refFrame aux.length items = some idx)
    (hm : codec.decode (aux.getD idx []) = some m) :
    Returns codec aux (fuel + 1) (.map items) ↔ Returns codec aux fuel m := by
  simp only [Returns, resolveRefs, hidx, hm]

theorem returns_map {fuel : Nat} {items : Msg.Items} (hnot : refFrame aux.length items = none) :
    Returns codec aux (fuel + 1) (.map items) ↔ ∀ item ∈ items, Returns codec aux fuel item.2 := by
  have hitem : ∀ item : Msg × Msg,
      (∃ r, (do return (item.1, ← resolveRefs codec aux fuel item.2) : Reading (Msg × Msg)) = pure r) ↔
        Returns codec aux fuel item.2 := by
    intro item
    simp only [Returns, Reading.bind_eq_pure]
    constructor
    · rintro ⟨_, r, hr, -⟩
      exact ⟨r, hr⟩
    · rintro ⟨r, hr⟩
      exact ⟨_, r, hr, rfl⟩
  simp only [Returns, resolveRefs, hnot, Reading.bind_eq_pure]
  constructor
  · rintro ⟨_, out, hout, -⟩ item hmem
    exact (hitem item).1 (mapM_returns_iff.1 ⟨out, hout⟩ item hmem)
  · intro h
    obtain ⟨out, hout⟩ := mapM_returns_iff.2 fun item hmem => (hitem item).2 (h item hmem)
    exact ⟨_, out, hout, rfl⟩

theorem returns_arr {fuel : Nat} {xs : List Msg} :
    Returns codec aux (fuel + 1) (.arr xs) ↔ ∀ x ∈ xs, Returns codec aux fuel x := by
  simp only [Returns, resolveRefs, Reading.bind_eq_pure]
  constructor
  · rintro ⟨_, out, hout, -⟩ x hmem
    exact mapM_returns_iff.1 ⟨out, hout⟩ x hmem
  · intro h
    obtain ⟨out, hout⟩ := mapM_returns_iff.2 h
    exact ⟨_, out, hout, rfl⟩

theorem returns_scalar {fuel : Nat} {m : Msg} (h : m.isContainer = false) : Returns codec aux (fuel + 1) m := by
  refine ⟨m, ?_⟩
  cases m <;> simp_all [Msg.isContainer, resolveRefs]

theorem refFrame_lt {count idx : Nat} {items : Msg.Items} (h : refFrame count items = some idx) : idx < count := by
  unfold refFrame at h
  split at h
  · split at h
    · cases h
      omega
    · cases h
  · cases h

theorem mem_refsItems {count i : Nat} {items : Msg.Items} :
    i ∈ refsItems count items ↔ ∃ item ∈ items, i ∈ refs count item.2 := by
  induction items with
  | nil => simp [refsItems]
  | cons item items ih => simp [refsItems, ih]

theorem mem_refsElements {count i : Nat} {xs : List Msg} :
    i ∈ refsElements count xs ↔ ∃ x ∈ xs, i ∈ refs count x := by
  induction xs with
  | nil => simp [refsElements]
  | cons x xs ih => simp [refsElements, ih]

/-- Every frame holds a msgpack value. -/
def Decodes (codec : Codec) (aux : List Bytes) : Prop := ∀ b ∈ aux, (codec.decode b).isSome

theorem Decodes.getD (haux : Decodes codec aux) {idx : Nat} (h : idx < aux.length) :
    ∃ b m, aux[idx]? = some b ∧ codec.decode b = some m ∧ codec.decode (aux.getD idx []) = some m := by
  have hb : aux[idx]? = some (aux[idx]) := List.getElem?_eq_getElem h
  obtain ⟨m, hm⟩ := Option.isSome_iff_exists.1 (haux aux[idx] (List.getElem_mem h))
  exact ⟨aux[idx], m, hb, hm, by simp [hb, hm]⟩

theorem resolveRefs_ne_throw (haux : Decodes codec aux) (fuel : Nat) (m : Msg) (e : ReadError) :
    resolveRefs codec aux fuel m ≠ throw e := by
  induction fuel generalizing m e with
  | zero =>
      intro h
      cases h
  | succ fuel ih =>
      cases m with
      | map items =>
          cases hidx : refFrame aux.length items with
          | some idx =>
              obtain ⟨-, m, -, -, hm⟩ := haux.getD (refFrame_lt hidx)
              simpa only [resolveRefs, hidx, hm] using ih m e
          | none =>
              simp only [resolveRefs, hidx]
              intro h
              rcases Reading.bind_eq_throw h with h | ⟨out, -, h⟩
              · refine mapM_ne_throw (fun item e' h' => ?_) items e h
                rcases Reading.bind_eq_throw h' with h' | ⟨r, -, h'⟩
                · exact ih item.2 e' h'
                · exact Reading.pure_ne_throw _ _ h'
              · exact Reading.pure_ne_throw _ _ h
      | arr xs =>
          rw [resolveRefs]
          intro h
          rcases Reading.bind_eq_throw h with h | ⟨out, -, h⟩
          · exact mapM_ne_throw ih xs e h
          · exact Reading.pure_ne_throw _ _ h
      | _ =>
          rw [resolveRefs]
          · exact Reading.pure_ne_throw _ _
          all_goals simp

theorem Returns.succ (haux : Decodes codec aux) {fuel : Nat} {m : Msg} (h : Returns codec aux fuel m) :
    Returns codec aux (fuel + 1) m := by
  induction fuel generalizing m with
  | zero => exact absurd h (not_returns_zero m)
  | succ fuel ih =>
      cases m with
      | map items =>
          cases hidx : refFrame aux.length items with
          | some idx =>
              obtain ⟨-, m, -, -, hm⟩ := haux.getD (refFrame_lt hidx)
              rw [returns_ref hidx hm] at h ⊢
              exact ih h
          | none =>
              rw [returns_map hidx] at h ⊢
              exact fun item hitem => ih (h item hitem)
      | arr xs =>
          rw [returns_arr] at h ⊢
          exact fun x hx => ih (h x hx)
      | _ => exact returns_scalar rfl

theorem Returns.mono (haux : Decodes codec aux) {fuel fuel' : Nat} {m : Msg} (h : Returns codec aux fuel m)
    (hle : fuel ≤ fuel') : Returns codec aux fuel' m := by
  induction hle with
  | refl => exact h
  | step _ ih => exact ih.succ haux

/-! ## A cycle has no end -/

/-- The value of frame `i` resolves within the depth. -/
def FrameReturns (codec : Codec) (aux : List Bytes) (fuel i : Nat) : Prop :=
  ∃ b m, aux[i]? = some b ∧ codec.decode b = some m ∧ Returns codec aux fuel m

theorem Returns.frame (haux : Decodes codec aux) {fuel : Nat} {m : Msg} (h : Returns codec aux fuel m) {i : Nat}
    (hi : i ∈ refs aux.length m) : ∃ fuel' < fuel, FrameReturns codec aux fuel' i := by
  induction fuel generalizing m with
  | zero => exact absurd h (not_returns_zero m)
  | succ fuel ih =>
      cases m with
      | map items =>
          rw [refs] at hi
          cases hidx : refFrame aux.length items with
          | some idx =>
              obtain ⟨b, m, hb, hbm, hm⟩ := haux.getD (refFrame_lt hidx)
              rw [hidx, List.mem_singleton] at hi
              subst hi
              exact ⟨fuel, Nat.lt_succ_self fuel, b, m, hb, hbm, (returns_ref hidx hm).1 h⟩
          | none =>
              rw [hidx, mem_refsItems] at hi
              obtain ⟨item, hitem, hi⟩ := hi
              obtain ⟨fuel', hlt, hframe⟩ := ih ((returns_map hidx).1 h item hitem) hi
              exact ⟨fuel', by omega, hframe⟩
      | arr xs =>
          rw [refs, mem_refsElements] at hi
          obtain ⟨x, hx, hi⟩ := hi
          obtain ⟨fuel', hlt, hframe⟩ := ih (returns_arr.1 h x hx) hi
          exact ⟨fuel', by omega, hframe⟩
      | _ => simp [refs] at hi

theorem FrameReturns.refers (haux : Decodes codec aux) {fuel i j : Nat} (h : FrameReturns codec aux fuel i)
    (hij : Refers codec aux i j) : ∃ fuel' < fuel, FrameReturns codec aux fuel' j := by
  obtain ⟨b, m, hb, hm, hret⟩ := h
  obtain ⟨b', m', hb', hm', hj⟩ := hij
  obtain rfl : b = b' := by simpa [hb] using hb'
  obtain rfl : m = m' := by simpa [hm] using hm'
  exact hret.frame haux hj

theorem FrameReturns.reach (haux : Decodes codec aux) {fuel i j : Nat} (h : FrameReturns codec aux fuel i)
    (hij : ReflTransGen (Refers codec aux) i j) : ∃ fuel' ≤ fuel, FrameReturns codec aux fuel' j := by
  induction hij with
  | refl => exact ⟨fuel, le_refl fuel, h⟩
  | tail _ hjk ih =>
      obtain ⟨fuel₁, hle, h₁⟩ := ih
      obtain ⟨fuel₂, hlt, h₂⟩ := h₁.refers haux hjk
      exact ⟨fuel₂, by omega, h₂⟩

theorem not_frameReturns_of_cycle (haux : Decodes codec aux) {j : Nat} (hj : TransGen (Refers codec aux) j j)
    (fuel : Nat) : ¬ FrameReturns codec aux fuel j := by
  induction fuel using Nat.strong_induction_on with
  | _ fuel ih =>
      intro h
      obtain ⟨k, hjk, hkj⟩ := TransGen.head'_iff.1 hj
      obtain ⟨fuel₁, hlt, h₁⟩ := h.refers haux hjk
      obtain ⟨fuel₂, hle, h₂⟩ := h₁.reach haux hkj
      exact ih fuel₂ (by omega) h₂

/-! ## Without a cycle there is an end -/

mutual
theorem returns_of_frames (haux : Decodes codec aux) : (m : Msg) →
    (∀ i ∈ refs aux.length m, ∃ fuel, FrameReturns codec aux fuel i) → ∃ fuel, Returns codec aux fuel m
  | .map items, h => by
      rw [refs] at h
      cases hidx : refFrame aux.length items with
      | some idx =>
          obtain ⟨b, m, hb, hbm, hm⟩ := haux.getD (refFrame_lt hidx)
          rw [hidx] at h
          obtain ⟨fuel, b', m', hb', hm', hret⟩ := h idx (List.mem_singleton_self idx)
          obtain rfl : b = b' := by simpa [hb] using hb'
          obtain rfl : m = m' := by simpa [hbm] using hm'
          exact ⟨fuel + 1, (returns_ref hidx hm).2 hret⟩
      | none =>
          rw [hidx] at h
          obtain ⟨fuel, hret⟩ := returns_of_frames_items haux items h
          exact ⟨fuel + 1, (returns_map hidx).2 hret⟩
  | .arr xs, h => by
      rw [refs] at h
      obtain ⟨fuel, hret⟩ := returns_of_frames_elements haux xs h
      exact ⟨fuel + 1, returns_arr.2 hret⟩
  | .nil, _ | .bool _, _ | .int _, _ | .float _, _ | .str _, _ | .bin _, _ | .ext _ _, _ => ⟨1, returns_scalar rfl⟩

theorem returns_of_frames_items (haux : Decodes codec aux) : (items : Msg.Items) →
    (∀ i ∈ refsItems aux.length items, ∃ fuel, FrameReturns codec aux fuel i) →
    ∃ fuel, ∀ item ∈ items, Returns codec aux fuel item.2
  | [], _ => ⟨0, by simp⟩
  | (k, v) :: items, h => by
      rw [refsItems] at h
      obtain ⟨fuel₁, h₁⟩ := returns_of_frames haux v fun i hi => h i (List.mem_append_left _ hi)
      obtain ⟨fuel₂, h₂⟩ := returns_of_frames_items haux items fun i hi => h i (List.mem_append_right _ hi)
      refine ⟨max fuel₁ fuel₂, ?_⟩
      rw [List.forall_mem_cons]
      exact ⟨h₁.mono haux (by omega), fun item hitem => (h₂ item hitem).mono haux (by omega)⟩

theorem returns_of_frames_elements (haux : Decodes codec aux) : (xs : List Msg) →
    (∀ i ∈ refsElements aux.length xs, ∃ fuel, FrameReturns codec aux fuel i) →
    ∃ fuel, ∀ x ∈ xs, Returns codec aux fuel x
  | [], _ => ⟨0, by simp⟩
  | x :: xs, h => by
      rw [refsElements] at h
      obtain ⟨fuel₁, h₁⟩ := returns_of_frames haux x fun i hi => h i (List.mem_append_left _ hi)
      obtain ⟨fuel₂, h₂⟩ := returns_of_frames_elements haux xs fun i hi => h i (List.mem_append_right _ hi)
      refine ⟨max fuel₁ fuel₂, ?_⟩
      rw [List.forall_mem_cons]
      exact ⟨h₁.mono haux (by omega), fun y hy => (h₂ y hy).mono haux (by omega)⟩
end

mutual
theorem refs_lt {count i : Nat} : (m : Msg) → i ∈ refs count m → i < count
  | .map items, h => by
      rw [refs] at h
      cases hidx : refFrame count items with
      | some idx =>
          rw [hidx, List.mem_singleton] at h
          rw [h]
          exact refFrame_lt hidx
      | none =>
          rw [hidx] at h
          exact refsItems_lt items h
  | .arr xs, h => by
      rw [refs] at h
      exact refsElements_lt xs h
  | .nil, h | .bool _, h | .int _, h | .float _, h | .str _, h | .bin _, h | .ext _ _, h => by simp [refs] at h

theorem refsItems_lt {count i : Nat} : (items : Msg.Items) → i ∈ refsItems count items → i < count
  | [], h => by simp [refsItems] at h
  | (_, v) :: items, h => by
      rw [refsItems, List.mem_append] at h
      exact h.elim (refs_lt v) (refsItems_lt items)

theorem refsElements_lt {count i : Nat} : (xs : List Msg) → i ∈ refsElements count xs → i < count
  | [], h => by simp [refsElements] at h
  | x :: xs, h => by
      rw [refsElements, List.mem_append] at h
      exact h.elim (refs_lt x) (refsElements_lt xs)
end

theorem frameReturns_of_acc (haux : Decodes codec aux) {i : Nat} (h : Acc (fun a b => Refers codec aux b a) i)
    (hi : i < aux.length) : ∃ fuel, FrameReturns codec aux fuel i := by
  induction h with
  | intro i _ ih =>
      obtain ⟨b, m, hb, hm, -⟩ := haux.getD hi
      obtain ⟨fuel, hret⟩ :=
        returns_of_frames haux m fun j hj => ih j ⟨b, m, hb, hm, hj⟩ (refs_lt m hj)
      exact ⟨fuel, b, m, hb, hm, hret⟩

theorem resolveRefs_ends_iff (haux : Decodes codec aux) (m : Msg) :
    (∃ fuel, (resolveRefs codec aux fuel m).run.isSome) ↔ ¬ ReachesCycle codec aux m := by
  constructor
  · rintro ⟨fuel, hsome⟩ ⟨i, hi, j, hij, hjj⟩
    have hret : Returns codec aux fuel m := by
      obtain ⟨out, hout⟩ := Option.isSome_iff_exists.1 hsome
      cases out with
      | ok r => exact ⟨r, hout⟩
      | error e => exact absurd hout (resolveRefs_ne_throw haux fuel m e)
    obtain ⟨fuel₁, -, h₁⟩ := hret.frame haux hi
    obtain ⟨fuel₂, -, h₂⟩ := h₁.reach haux hij
    exact not_frameReturns_of_cycle haux hjj fuel₂ h₂
  · intro h
    have hbound : ∀ i j, Refers codec aux i j → j < aux.length := by
      rintro i j ⟨b, m', -, -, hj⟩
      exact refs_lt m' hj
    have hframes : ∀ i ∈ refs aux.length m, ∃ fuel, FrameReturns codec aux fuel i := by
      intro i hi
      refine frameReturns_of_acc haux (acc_of_no_cycle hbound ?_) (refs_lt m hi)
      rintro ⟨j, hij, hjj⟩
      exact h ⟨i, hi, j, hij, hjj⟩
    obtain ⟨fuel, r, hr⟩ := returns_of_frames haux m hframes
    exact ⟨fuel, by rw [hr]; rfl⟩

theorem not_reachesCycle_nil {m : Msg} : ¬ ReachesCycle codec [] m := by
  rintro ⟨i, hi, -⟩
  exact Nat.not_lt_zero i (refs_lt m hi)

theorem decodeResponse_data {buf : Bytes} {response : SchedulerResponse}
    (h : decodeResponse codec buf = some response) : response.data = .nil ∨ ∃ items, response.data = .map items := by
  have hopt : ∀ m d, asOptional asDict m = some (some d) → ∃ items, d = .map items := by
    intro m d hd
    unfold asOptional asDict at hd
    split at hd <;> simp_all
    split at hd <;> simp_all
    exact ⟨_, hd.2.symm⟩
  unfold decodeResponse at h
  split at h
  · simp only [bind, Option.bind_eq_some_iff, pure, Option.some.injEq] at h
    obtain ⟨-, -, -, -, data, hdata, -, -, rfl⟩ := h
    cases data with
    | none => exact .inl rfl
    | some d =>
        obtain ⟨items, hitems⟩ := hopt _ d hdata
        exact .inr ⟨items, hitems⟩
  · cases h

theorem refs_of_not_hasItems {count : Nat} {m : Msg} (hm : m = .nil ∨ ∃ items, m = .map items)
    (h : ¬ hasItems m) : refs count m = [] := by
  rcases hm with rfl | ⟨items, rfl⟩
  · simp [refs]
  · cases items with
    | nil => simp [refs, refFrame, refIndex, refsItems]
    | cons item items => exact absurd rfl h

end

end PyMotor.Zmq
