import Mathlib.Data.List.ReduceOption
import Mathlib.Data.Set.Insert
import Mathlib.Logic.Relation

/-!
# A replica that is sent changes and snapshots

A leader queues every change of a set for a follower. A request for a snapshot, once taken from the queue, hands over
the set as it is then. `Following` says that the queued changes lead the follower to the leader's set; `Aligned`
says the same of the leader's own set, which holds whatever is lost.
-/

namespace PyMotor.Lib

variable {K : Type}

inductive Delta (K : Type)
  | insert (k : K)
  | remove (k : K)

namespace Delta

def apply (s : Set K) : Delta K → Set K
  | insert k => Insert.insert k s
  | remove k => s \ {k}

def applyAll (s : Set K) (ds : List (Delta K)) : Set K := ds.foldl apply s

variable {s t : Set K} {d : Delta K} {ds : List (Delta K)} {k : K}

@[simp] theorem applyAll_nil : applyAll s [] = s := rfl

@[simp] theorem applyAll_cons : applyAll s (d :: ds) = applyAll (apply s d) ds := rfl

@[simp] theorem applyAll_snoc : applyAll s (ds ++ [d]) = apply (applyAll s ds) d := by
  simp [applyAll]

theorem applyAll_append (s : Set K) (ds es : List (Delta K)) :
    applyAll s (ds ++ es) = applyAll (applyAll s ds) es := List.foldl_append

theorem settles_or_keeps (d : Delta K) (k : K) :
    (∀ s t, k ∈ apply s d ↔ k ∈ apply t d) ∨ ∀ s, k ∈ apply s d ↔ k ∈ s := by
  cases d with
  | insert j => by_cases h : k = j <;> simp [apply, h]
  | remove j => by_cases h : k = j <;> simp [apply, h]

theorem settles_or_keeps_all (ds : List (Delta K)) (k : K) :
    (∀ s t, k ∈ applyAll s ds ↔ k ∈ applyAll t ds) ∨ ∀ s, k ∈ applyAll s ds ↔ k ∈ s := by
  induction ds with
  | nil => exact Or.inr fun s => Iff.rfl
  | cons d ds ih =>
      rcases ih with ih | ih
      · exact Or.inl fun s t => ih _ _
      · simp only [applyAll_cons, ih]
        exact settles_or_keeps d k

/-- Changes that have been made once change nothing more. -/
theorem applyAll_applyAll (s : Set K) (ds : List (Delta K)) : applyAll (applyAll s ds) ds = applyAll s ds := by
  ext k
  rcases settles_or_keeps_all ds k with h | h
  · exact h _ _
  · exact h _

/-- The last change makes an earlier one of the same kind needless. -/
theorem apply_applyAll_apply (s : Set K) (d : Delta K) (ds : List (Delta K)) :
    apply (applyAll (apply s d) ds) d = apply (applyAll s ds) d := by
  ext k
  rcases settles_or_keeps d k with h | h
  · exact h _ _
  · rw [h, h]
    rcases settles_or_keeps_all ds k with hs | hs
    · exact hs _ _
    · rw [hs, hs, h]

theorem applyAll_map_insert (s : Set K) (l : List K) : applyAll s (l.map .insert) = s ∪ {k | k ∈ l} := by
  induction l generalizing s with
  | nil => simp
  | cons j l ih =>
      rw [List.map_cons, applyAll_cons, ih]
      ext k
      simp [apply, or_assoc, or_left_comm]

theorem applyAll_map_remove (s : Set K) (l : List K) : applyAll s (l.map .remove) = s \ {k | k ∈ l} := by
  induction l generalizing s with
  | nil =>
      ext k
      simp
  | cons j l ih =>
      rw [List.map_cons, applyAll_cons, ih]
      ext k
      simp [apply, and_assoc]

theorem applyAll_tail (h : applyAll s (d :: ds) = s) : applyAll s ds = s := by
  have hidem := applyAll_applyAll (apply s d) ds
  rw [applyAll_cons] at h
  rwa [h] at hidem

end Delta

/-- `none` in the queue asks for a snapshot. -/
structure Replica (K : Type) where
  leader : Set K
  queue : List (Option (Delta K))
  follower : Set K

namespace Replica

open Delta

variable {r r' : Replica K}

def pending (r : Replica K) : List (Delta K) := r.queue.reduceOption

def Aligned (r : Replica K) : Prop := applyAll r.leader r.pending = r.leader

def Following (r : Replica K) : Prop := applyAll r.follower r.pending = r.leader

/-- Nothing is lost; a snapshot may be left out. -/
inductive Step : Replica K → Replica K → Prop
  | announce (r : Replica K) (d : Delta K) :
    Step r { r with leader := apply r.leader d, queue := r.queue ++ [some d] }
  | request (r : Replica K) : Step r { r with queue := r.queue ++ [none] }
  | deliver {r : Replica K} {d : Delta K} {rest : List (Option (Delta K))} (h : r.queue = some d :: rest) :
    Step r { r with queue := rest, follower := apply r.follower d }
  | snapshot {r : Replica K} {rest : List (Option (Delta K))} (h : r.queue = none :: rest) :
    Step r { r with queue := rest, follower := r.leader }
  | skip {r : Replica K} {rest : List (Option (Delta K))} (h : r.queue = none :: rest) : Step r { r with queue := rest }

inductive Fault : Replica K → Replica K → Prop
  | lose {r : Replica K} {m : Option (Delta K)} {rest : List (Option (Delta K))} (h : r.queue = m :: rest) :
    Fault r { r with queue := rest }
  | disturb (r : Replica K) (s : Set K) : Fault r { r with follower := s }

/-- Any number of steps and faults. -/
abbrev Reaches : Replica K → Replica K → Prop := Relation.ReflTransGen fun r r' => Step r r' ∨ Fault r r'

abbrev Steps : Replica K → Replica K → Prop := Relation.ReflTransGen Step

/-- The leader makes one change, inserting nothing that it has, or asks for a snapshot. -/
inductive Write : Replica K → Replica K → Prop
  | announce (r : Replica K) {d : Delta K} (h : ∀ k ∈ r.leader, d ≠ .insert k) :
    Write r { r with leader := apply r.leader d, queue := r.queue ++ [some d] }
  | request (r : Replica K) : Write r { r with queue := r.queue ++ [none] }

/-- At most one write. -/
abbrev Writes : Replica K → Replica K → Prop := Relation.ReflGen Write

/-- The follower does not have the key, and no change that is queued tells it. -/
def Unknown (r : Replica K) (k : K) : Prop := k ∉ r.follower ∧ some (.insert k) ∉ r.queue

theorem Write.step (h : Write r r') : Step r r' := by
  cases h with
  | announce _ => exact .announce r _
  | request => exact .request r

theorem Writes.steps (h : Writes r r') : Steps r r' := by
  cases h with
  | refl => exact .refl
  | single h => exact .single h.step

theorem Writes.queue (h : Writes r r') : ∃ l, r'.queue = r.queue ++ l := by
  cases h with
  | refl => exact ⟨[], (List.append_nil _).symm⟩
  | single h => cases h <;> exact ⟨_, rfl⟩

theorem steps_announce (r : Replica K) (ds : List (Delta K)) :
    Steps r { r with leader := applyAll r.leader ds, queue := r.queue ++ ds.map some } := by
  induction ds generalizing r with
  | nil => simpa using Relation.ReflTransGen.refl
  | cons d ds ih =>
      have htail := ih { r with leader := apply r.leader d, queue := r.queue ++ [some d] }
      rw [List.append_assoc] at htail
      exact Relation.ReflTransGen.head (.announce r d) htail

theorem Steps.reaches (h : Steps r r') : Reaches r r' := Relation.ReflTransGen.mono (fun _ _ => Or.inl) _ _ h

theorem Following.aligned (h : r.Following) : r.Aligned := by
  have hidem := applyAll_applyAll r.follower r.pending
  rwa [h] at hidem

theorem Following.step (h : r.Following) (hs : Step r r') : r'.Following := by
  have hal := h.aligned
  unfold Following Aligned pending at *
  cases hs with
  | announce d => simp [List.reduceOption_append, h]
  | request => simpa [List.reduceOption_append] using h
  | deliver hq => simpa [hq] using h
  | snapshot hq => simpa [hq] using hal
  | skip hq => simpa [hq] using h

theorem Following.steps (h : r.Following) (hs : Steps r r') : r'.Following := by
  induction hs with
  | refl => exact h
  | tail _ hs ih => exact ih.step hs

theorem Aligned.step (h : r.Aligned) (hs : Step r r') : r'.Aligned := by
  unfold Aligned pending at *
  cases hs with
  | announce d => simp [List.reduceOption_append, apply_applyAll_apply, h]
  | request => simpa [List.reduceOption_append] using h
  | deliver hq =>
      rw [hq, List.reduceOption_cons_of_some] at h
      exact applyAll_tail h
  | snapshot hq => simpa [hq] using h
  | skip hq => simpa [hq] using h

theorem Aligned.fault (h : r.Aligned) (hs : Fault r r') : r'.Aligned := by
  unfold Aligned pending at *
  cases hs with
  | lose hq =>
      rename_i m _
      cases m with
      | none => simpa [hq] using h
      | some d =>
          rw [hq, List.reduceOption_cons_of_some] at h
          exact applyAll_tail h
  | disturb s => exact h

theorem Aligned.reaches (h : r.Aligned) (hs : Reaches r r') : r'.Aligned := by
  induction hs with
  | refl => exact h
  | tail _ hs ih => exact hs.elim ih.step ih.fault

theorem Unknown.writes {k : K} (h : r.Unknown k) (hk : k ∈ r.leader) (hw : Writes r r') : r'.Unknown k := by
  obtain ⟨hfollower, hqueue⟩ := h
  cases hw with
  | refl => exact ⟨hfollower, hqueue⟩
  | single hw =>
      cases hw with
      | announce hd =>
          refine ⟨hfollower, ?_⟩
          simpa [hqueue] using (hd k hk).symm
      | request => exact ⟨hfollower, by simpa using hqueue⟩

theorem Unknown.take {k : K} {m : Option (Delta K)} {rest : List (Option (Delta K))} {s : Set K} (h : r.Unknown k)
    (hq : r.queue = m :: rest) (hs : s = r.follower ∨ ∃ d, m = some d ∧ s = apply r.follower d) :
    Unknown { r with queue := rest, follower := s } k := by
  obtain ⟨hfollower, hqueue⟩ := h
  rw [hq, List.mem_cons, not_or] at hqueue
  refine ⟨?_, hqueue.2⟩
  rcases hs with rfl | ⟨d, rfl, rfl⟩
  · exact hfollower
  · cases d with
    | insert j =>
        have hj : k ≠ j := fun he => hqueue.1 (by rw [he])
        simp [apply, hj, hfollower]
    | remove j => simp [apply, hfollower]

/-- A snapshot sets the follower right, whatever has been lost before. -/
theorem Aligned.snapshot {rest : List (Option (Delta K))} (h : r.Aligned) (hq : r.queue = none :: rest) :
    Following { r with queue := rest, follower := r.leader } := by
  unfold Aligned Following pending at *
  simpa [hq] using h

/-- A follower whose queue is empty has the leader's set. -/
theorem Following.quiet (h : r.Following) (hq : r.queue = []) : r.follower = r.leader := by
  unfold Following pending at h
  simpa [hq] using h

end Replica

end PyMotor.Lib
