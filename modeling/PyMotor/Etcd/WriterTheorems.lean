import PyMotor.Etcd.Theorems
import PyMotor.Etcd.Writers

/-!
# Persisting one after the other

While no lease expires under a call that writes, one call writes at a time, and what is under the prefix is what the calls
leave one after the other.
-/

namespace PyMotor

open Lib EtcdClient

/-! ## Stores that agree under a prefix -/

namespace EtcdClient

variable {V T : Type} {codec : JsonCodec V T} {c : EtcdClient} {start keyPrefix : String} {store store' : Dict String T}

def AgreeUnder (start : String) (store store' : Dict String T) : Prop :=
  ∀ key, startsWith key start = true → store.get? key = store'.get? key

theorem AgreeUnder.refl (start : String) (store : Dict String T) : AgreeUnder start store store := fun _ _ => rfl

theorem AgreeUnder.trans {store'' : Dict String T} (h : AgreeUnder start store store')
    (h' : AgreeUnder start store' store'') : AgreeUnder start store store'' :=
  fun key hkey => (h key hkey).trans (h' key hkey)

theorem AgreeUnder.set (h : AgreeUnder start store store') (key : String) (value : T) :
    AgreeUnder start (store.set key value) (store'.set key value) := by
  intro key' hkey
  by_cases he : key' = key
  · subst he
    rw [Dict.get?_set_self, Dict.get?_set_self]
  · rw [Dict.get?_set_ne he, Dict.get?_set_ne he]
    exact h key' hkey

theorem AgreeUnder.putJson (h : AgreeUnder start store store') (codec : JsonCodec V T) (c : EtcdClient) (key : String)
    (data : V) (outcome : OpOutcome) :
    (putJson codec c store key data outcome).1 = (putJson codec c store' key data outcome).1 ∧
      AgreeUnder start (putJson codec c store key data outcome).2 (putJson codec c store' key data outcome).2 := by
  unfold EtcdClient.putJson
  cases codec.dumps data with
  | none => exact ⟨rfl, h⟩
  | some jsonData =>
      cases outcome with
      | answered => exact ⟨rfl, h.set _ _⟩
      | unanswered => exact ⟨rfl, h.set _ _⟩
      | refused => exact ⟨rfl, h⟩

theorem AgreeUnder.deletePrefix (h : AgreeUnder start store store') (outcome : OpOutcome) :
    AgreeUnder start (c.deletePrefix store keyPrefix outcome).2 (c.deletePrefix store' keyPrefix outcome).2 := by
  have hrest : AgreeUnder start
      (store.filterKeys fun key => !startsWith key (c.getKeyWithNamespaceAndJobName keyPrefix))
      (store'.filterKeys fun key => !startsWith key (c.getKeyWithNamespaceAndJobName keyPrefix)) := by
    intro key hkey
    rw [Dict.get?_filterKeys, Dict.get?_filterKeys, h key hkey]
  cases outcome with
  | answered => exact hrest
  | unanswered => exact hrest
  | refused => exact h

theorem AgreeUnder.putAll (h : AgreeUnder start store store') (codec : JsonCodec V T) (c : EtcdClient)
    (keyPrefix : String) (es : List (String × V)) (outcomes : List OpOutcome) :
    (putAll codec c keyPrefix store es outcomes).1 = (putAll codec c keyPrefix store' es outcomes).1 ∧
      AgreeUnder start (putAll codec c keyPrefix store es outcomes).2
        (putAll codec c keyPrefix store' es outcomes).2 := by
  induction es generalizing store store' outcomes with
  | nil => exact ⟨rfl, h⟩
  | cons item es ih =>
      obtain ⟨dataKey, dataValue⟩ := item
      obtain ⟨hflag, hstore⟩ := h.putJson codec c (keyPrefix ++ "/" ++ dataKey) dataValue (outcomes.headD .answered)
      simp only [EtcdClient.putAll]
      cases hput : EtcdClient.putJson codec c store (keyPrefix ++ "/" ++ dataKey) dataValue (outcomes.headD .answered) with
      | mk flag rest =>
      cases hput' : EtcdClient.putJson codec c store' (keyPrefix ++ "/" ++ dataKey) dataValue (outcomes.headD .answered) with
      | mk flag' rest' =>
      rw [hput, hput'] at hflag hstore
      obtain rfl : flag = flag' := hflag
      cases flag with
      | false => exact ⟨rfl, hstore⟩
      | true => exact ih hstore outcomes.tail

theorem pairwise_rangePrefix (store : Dict String T) (start : String) :
    (rangePrefix store start).Pairwise fun a b => decide (a.1 ≤ b.1) = true := by
  refine List.pairwise_mergeSort (fun a b c hab hbc => ?_) (fun a b => ?_) _
  · exact decide_eq_true (String.le_trans (of_decide_eq_true hab) (of_decide_eq_true hbc))
  · simpa using String.le_total a.1 b.1

theorem AgreeUnder.rangePrefix (h : AgreeUnder start store store') :
    rangePrefix store start = rangePrefix store' start := by
  have hmem : ∀ kv, kv ∈ EtcdClient.rangePrefix store start ↔ kv ∈ EtcdClient.rangePrefix store' start := by
    intro kv
    rw [mem_rangePrefix, mem_rangePrefix]
    exact and_congr_left fun hkey => by rw [h kv.1 hkey]
  have hperm := (List.perm_ext_iff_of_nodup (List.Nodup.of_map _ (nodup_rangePrefix store start))
    (List.Nodup.of_map _ (nodup_rangePrefix store' start))).2 hmem
  refine hperm.eq_of_pairwise (fun a b ha hb hab hba => ?_) (pairwise_rangePrefix store start)
    (pairwise_rangePrefix store' start)
  have hkey : a.1 = b.1 := String.le_antisymm (of_decide_eq_true hab) (of_decide_eq_true hba)
  have hvalue := (mem_rangePrefix.1 ((hmem a).1 ha)).1.symm.trans ((congrArg _ hkey).trans (mem_rangePrefix.1 hb).1)
  exact Prod.ext hkey (Option.some.inj hvalue)

theorem AgreeUnder.restoreData (h : AgreeUnder (c.getKeyWithNamespaceAndJobName keyPrefix) store store') :
    restoreData codec c store keyPrefix = restoreData codec c store' keyPrefix := by
  simp only [EtcdClient.restoreData, getPrefixData, h.rangePrefix]

end EtcdClient

/-! ## One writer at a time -/

namespace Writers

variable {W V T : Type} {codec : JsonCodec V T} {c : EtcdClient} {keyPrefix : String} {store : Dict String T}
variable {s : Writers W V T} {w : W} {l : Int}

/-- The leases of the calls are their own, and those of the calls that write live and have the lock. -/
structure Locked (c : EtcdClient) (keyPrefix : String) (s : Writers W V T) : Prop where
  granted : ∀ w l, (s.phases w).leaseId? = some l → l ≤ s.locks.granted
  unique : ∀ w w' l, (s.phases w).leaseId? = some l → (s.phases w').leaseId? = some l → w = w'
  live : ∀ w l, (s.phases w).writing? = some l → s.locks.Live l
  held : ∀ w l, (s.phases w).writing? = some l → s.locks.Attached (lockKey c keyPrefix) l

theorem leaseId?_of_writing? {phase : WriterPhase V} (h : phase.writing? = some l) : phase.leaseId? = some l := by
  cases phase with
  | deleting data leaseId => exact h
  | putting data leaseId delete puts rest => exact h
  | idle => cases h
  | granting data => cases h
  | claiming data leaseId => cases h
  | abandoning leaseId => cases h
  | releasing leaseId => cases h

theorem Locked.one_writer (h : s.Locked c keyPrefix) {w' : W} {l' : Int} (hw : (s.phases w).writing? = some l)
    (hw' : (s.phases w').writing? = some l') : w = w' := by
  have hheld := h.held w l hw
  obtain rfl : l = l' := Option.some.inj (hheld.symm.trans (h.held w' l' hw'))
  exact h.unique w w' l (leaseId?_of_writing? hw) (leaseId?_of_writing? hw')

theorem Locked.locks (h : s.Locked c keyPrefix) {e : LeaseEvent String}
    (hkeep : ∀ w l, (s.phases w).writing? = some l → e ≠ .request (.revoke l) ∧ e ≠ .expire l) :
    Locked c keyPrefix { s with locks := s.locks.step e } where
  granted := fun w l hl => Int.le_trans (h.granted w l hl) (s.locks.granted_le_step e)
  unique := h.unique
  live := fun w l hl => LeaseServer.live_step (h.live w l hl) (hkeep w l hl).1 (hkeep w l hl).2
  held := fun w l hl => LeaseServer.attached_step (h.held w l hl)
    (LeaseServer.live_step (h.live w l hl) (hkeep w l hl).1 (hkeep w l hl).2)

variable [DecidableEq W]

@[simp] theorem goTo_self (s : Writers W V T) (w : W) (phase : WriterPhase V) : (s.goTo w phase).phases w = phase :=
  Function.update_self ..

theorem goTo_ne {w' : W} (h : w' ≠ w) (s : Writers W V T) (phase : WriterPhase V) :
    (s.goTo w phase).phases w' = s.phases w' := Function.update_of_ne h ..

theorem Locked.goTo (h : s.Locked c keyPrefix) {phase : WriterPhase V}
    (hlease : ∀ l, phase.leaseId? = some l → l ≤ s.locks.granted ∧ ∀ w', (s.phases w').leaseId? = some l → w' = w)
    (hwriting : ∀ l, phase.writing? = some l → s.locks.Live l ∧ s.locks.Attached (lockKey c keyPrefix) l) :
    (s.goTo w phase).Locked c keyPrefix := by
  refine ⟨fun w' l hl => ?_, fun w' w'' l hl hl' => ?_, fun w' l hl => ?_, fun w' l hl => ?_⟩
  · by_cases hw : w' = w
    · subst hw
      rw [goTo_self] at hl
      exact (hlease l hl).1
    · rw [goTo_ne hw] at hl
      exact h.granted w' l hl
  · by_cases hw : w' = w
    · subst hw
      rw [goTo_self] at hl
      by_cases hw' : w'' = w'
      · exact hw'.symm
      · rw [goTo_ne hw'] at hl'
        exact ((hlease l hl).2 w'' hl').symm
    · rw [goTo_ne hw] at hl
      by_cases hw' : w'' = w
      · subst hw'
        rw [goTo_self] at hl'
        exact (hlease l hl').2 w' hl
      · rw [goTo_ne hw'] at hl'
        exact h.unique w' w'' l hl hl'
  · by_cases hw : w' = w
    · subst hw
      rw [goTo_self] at hl
      exact (hwriting l hl).1
    · rw [goTo_ne hw] at hl
      exact h.live w' l hl
  · by_cases hw : w' = w
    · subst hw
      rw [goTo_self] at hl
      exact (hwriting l hl).2
    · rw [goTo_ne hw] at hl
      exact h.held w' l hl

theorem Locked.goTo_same (h : s.Locked c keyPrefix) {phase : WriterPhase V}
    (hlease : ∀ l, phase.leaseId? = some l → (s.phases w).leaseId? = some l)
    (hwriting : ∀ l, phase.writing? = some l → (s.phases w).writing? = some l) : (s.goTo w phase).Locked c keyPrefix :=
  h.goTo (fun l hl => ⟨h.granted w l (hlease l hl), fun w' hl' => h.unique w' w l hl' (hlease l hl)⟩)
    fun l hl => ⟨h.live w l (hwriting l hl), h.held w l (hwriting l hl)⟩

/-! ## What a call has still to do -/

/-- What is under the prefix is what the call would leave after the others, whatever comes of its other puts. -/
def Continues (codec : JsonCodec V T) (c : EtcdClient) (keyPrefix : String) (before store : Dict String T)
    (data : Dict String V) (delete : OpOutcome) (puts : List OpOutcome) (rest : List (String × V)) : Prop :=
  ∀ more,
    let whole := EtcdClient.persistData codec c before keyPrefix data { delete := delete, puts := puts ++ more }
    let left := EtcdClient.putAll codec c keyPrefix store rest more
    whole.1 = left.1 ∧ AgreeUnder (c.getKeyWithNamespaceAndJobName keyPrefix) whole.2 left.2

section Continue

variable {before : Dict String T} {data : Dict String V} {delete : OpOutcome} {puts : List OpOutcome}
  {rest : List (String × V)} {dataKey : String} {dataValue : V} {outcome : OpOutcome} {store' : Dict String T}

omit [DecidableEq W] in
theorem continues_delete (h : AgreeUnder (c.getKeyWithNamespaceAndJobName keyPrefix) before store)
    (outcome : OpOutcome) : Continues codec c keyPrefix before (c.deletePrefix store keyPrefix outcome).2 data outcome []
      data.entries := by
  intro more
  exact (h.deletePrefix outcome).putAll codec c keyPrefix data.entries more

omit [DecidableEq W] in
theorem Continues.put (h : Continues codec c keyPrefix before store data delete puts ((dataKey, dataValue) :: rest))
    (hput : EtcdClient.putJson codec c store (keyPrefix ++ "/" ++ dataKey) dataValue outcome = (true, store')) :
    Continues codec c keyPrefix before store' data delete (puts ++ [outcome]) rest := by
  intro more
  have hnext := h (outcome :: more)
  simp only [EtcdClient.putAll, List.headD_cons, hput, List.tail_cons] at hnext
  rw [List.append_assoc]
  exact hnext

omit [DecidableEq W] in
theorem Continues.fail (h : Continues codec c keyPrefix before store data delete puts ((dataKey, dataValue) :: rest))
    (hput : EtcdClient.putJson codec c store (keyPrefix ++ "/" ++ dataKey) dataValue outcome = (false, store')) :
    (EtcdClient.persistData codec c before keyPrefix data { delete := delete, puts := puts ++ [outcome] }).1 = false ∧
      AgreeUnder (c.getKeyWithNamespaceAndJobName keyPrefix)
        (EtcdClient.persistData codec c before keyPrefix data { delete := delete, puts := puts ++ [outcome] }).2 store' := by
  have hlast := h [outcome]
  simp only [EtcdClient.putAll, List.headD_cons, hput] at hlast
  exact hlast

theorem putAll_refused (store : Dict String T) (rest : List (String × V)) :
    (EtcdClient.putAll codec c keyPrefix store rest [.refused]).2 = store := by
  cases rest with
  | nil => rfl
  | cons item rest =>
      obtain ⟨dataKey, dataValue⟩ := item
      simp only [EtcdClient.putAll, List.headD_cons, EtcdClient.putJson]
      cases codec.dumps dataValue <;> rfl

omit [DecidableEq W] in
theorem Continues.refused (h : Continues codec c keyPrefix before store data delete puts rest) :
    AgreeUnder (c.getKeyWithNamespaceAndJobName keyPrefix)
      (EtcdClient.persistData codec c before keyPrefix data { delete := delete, puts := puts ++ [.refused] }).2 store := by
  have hlast := (h [.refused]).2
  rw [putAll_refused] at hlast
  exact hlast

omit [DecidableEq W] in
theorem Continues.elsewhere (h : Continues codec c keyPrefix before store data delete puts rest)
    (hagree : AgreeUnder (c.getKeyWithNamespaceAndJobName keyPrefix) store store') :
    Continues codec c keyPrefix before store' data delete puts rest := by
  intro more
  obtain ⟨hflag, hstore⟩ := h more
  have hrest := hagree.putAll codec c keyPrefix rest more
  exact ⟨hflag.trans hrest.1, hstore.trans hrest.2⟩

end Continue

/-! ## The calls in order -/

/-- The calls have returned what they return one after the other. -/
def Returned (codec : JsonCodec V T) (c : EtcdClient) (keyPrefix : String) (store : Dict String T)
    (calls : List (PersistCall W V)) : Prop :=
  ∀ before call after, calls = before ++ call :: after → ∀ b, call.returned = some b →
    b = (EtcdClient.persistData codec c (oneByOne codec c keyPrefix store before) keyPrefix call.data call.outcomes).1

structure Serial (codec : JsonCodec V T) (c : EtcdClient) (keyPrefix : String) (store : Dict String T)
    (s : Writers W V T) : Prop where
  locked : s.Locked c keyPrefix
  quiet : (∀ w, (s.phases w).writing? = none) →
    AgreeUnder (c.getKeyWithNamespaceAndJobName keyPrefix) (oneByOne codec c keyPrefix store s.calls) s.store
  deleting : ∀ w data l, s.phases w = .deleting data l →
    AgreeUnder (c.getKeyWithNamespaceAndJobName keyPrefix) (oneByOne codec c keyPrefix store s.calls) s.store
  putting : ∀ w data l delete puts rest, s.phases w = .putting data l delete puts rest →
    Continues codec c keyPrefix (oneByOne codec c keyPrefix store s.calls) s.store data delete puts rest
  returned : Returned codec c keyPrefix store s.calls

omit [DecidableEq W] in
theorem Serial.of_same {s' : Writers W V T} (h : s.Serial codec c keyPrefix store) (hlocked : s'.Locked c keyPrefix)
    (hstore : s'.store = s.store) (hcalls : s'.calls = s.calls)
    (hphases : ∀ w, s'.phases w = s.phases w ∨ (s.phases w).writing? = none ∧ (s'.phases w).writing? = none) :
    s'.Serial codec c keyPrefix store := by
  refine ⟨hlocked, fun hquiet => ?_, fun w data l hw => ?_, fun w data l delete puts rest hw => ?_, hcalls ▸ h.returned⟩
  · rw [hstore, hcalls]
    refine h.quiet fun w => ?_
    rcases hphases w with he | ⟨he, -⟩
    · rw [← he]
      exact hquiet w
    · exact he
  · rw [hstore, hcalls]
    rcases hphases w with he | ⟨-, he⟩
    · exact h.deleting w data l (he ▸ hw)
    · rw [hw] at he
      cases he
  · rw [hstore, hcalls]
    rcases hphases w with he | ⟨-, he⟩
    · exact h.putting w data l delete puts rest (he ▸ hw)
    · rw [hw] at he
      cases he

omit [DecidableEq W] in
theorem Returned.append {calls : List (PersistCall W V)} (h : Returned codec c keyPrefix store calls)
    {call : PersistCall W V} (hcall : ∀ b, call.returned = some b →
      b = (EtcdClient.persistData codec c (oneByOne codec c keyPrefix store calls) keyPrefix call.data call.outcomes).1) :
    Returned codec c keyPrefix store (calls ++ [call]) := by
  intro before call' after he
  rcases List.eq_nil_or_concat after with rfl | ⟨after, last, rfl⟩
  · obtain ⟨rfl, hlast⟩ := List.append_inj' he rfl
    obtain rfl : call = call' := by simpa using hlast
    exact hcall
  · have hsplit : calls ++ [call] = (before ++ call' :: after) ++ [last] := by simpa using he
    exact h before call' after (List.append_inj' hsplit rfl).1

omit [DecidableEq W] in
theorem Locked.alone (h : s.Locked c keyPrefix) (hw : (s.phases w).writing? = some l) {w' : W} (hne : w' ≠ w) :
    (s.phases w').writing? = none := by
  cases hw' : (s.phases w').writing? with
  | none => rfl
  | some l' => exact absurd (h.one_writer hw' hw) hne

theorem serial_record (hlocked : s.Locked c keyPrefix) (hreturned : Returned codec c keyPrefix store s.calls)
    {call : PersistCall W V} (hw : (s.phases call.writer).writing? = some l)
    (hagree : AgreeUnder (c.getKeyWithNamespaceAndJobName keyPrefix)
      (EtcdClient.persistData codec c (oneByOne codec c keyPrefix store s.calls) keyPrefix call.data call.outcomes).2
      s.store)
    (hcall : ∀ b, call.returned = some b →
      b = (EtcdClient.persistData codec c (oneByOne codec c keyPrefix store s.calls) keyPrefix call.data call.outcomes).1)
    {phase : WriterPhase V} (hphase : phase.writing? = none)
    (hlease : ∀ l', phase.leaseId? = some l' → (s.phases call.writer).leaseId? = some l') :
    (s.record call phase).Serial codec c keyPrefix store := by
  have hquiet : ∀ w, ((s.record call phase).phases w).writing? = none := by
    intro w
    by_cases hne : w = call.writer
    · subst hne
      rw [show (s.record call phase).phases call.writer = phase from goTo_self ..]
      exact hphase
    · rw [show (s.record call phase).phases w = s.phases w from goTo_ne hne ..]
      exact hlocked.alone hw hne
  have hmoved := hlocked.goTo_same (w := call.writer) hlease fun l' hl' => by rw [hphase] at hl'; cases hl'
  refine ⟨⟨hmoved.granted, hmoved.unique, hmoved.live, hmoved.held⟩, fun _ => ?_, fun w data l' he => ?_,
    fun w data l' delete puts rest he => ?_, hreturned.append hcall⟩
  · show AgreeUnder _ (oneByOne codec c keyPrefix store (s.calls ++ [call])) s.store
    rw [oneByOne, List.foldl_append]
    exact hagree
  · have hnone := hquiet w
    rw [he] at hnone
    cases hnone
  · have hnone := hquiet w
    rw [he] at hnone
    cases hnone

theorem serial_putNext (hlocked : s.Locked c keyPrefix) (hreturned : Returned codec c keyPrefix store s.calls)
    (hw : (s.phases w).writing? = some l) {data : Dict String V} {delete : OpOutcome} {puts : List OpOutcome}
    {rest : List (String × V)}
    (hnext : Continues codec c keyPrefix (oneByOne codec c keyPrefix store s.calls) s.store data delete puts rest) :
    (s.putNext w data l delete puts rest).Serial codec c keyPrefix store := by
  cases rest with
  | nil =>
      obtain ⟨hflag, hstore⟩ := hnext []
      rw [List.append_nil] at hflag hstore
      refine serial_record hlocked hreturned hw hstore ?_ rfl fun l' hl' => ?_
      · intro b hb
        rw [← Option.some.inj hb]
        exact hflag.symm
      · rw [← hl']
        exact leaseId?_of_writing? hw
  | cons item rest =>
      have hmoved : (s.goTo w (.putting data l delete puts (item :: rest))).Locked c keyPrefix :=
        hlocked.goTo_same (fun l' hl' => (leaseId?_of_writing? hw).trans hl') fun l' hl' => hw.trans hl'
      have halone : ∀ w' phase, (s.putNext w data l delete puts (item :: rest)).phases w' = phase →
          phase.writing? ≠ none → w' = w ∧ phase = .putting data l delete puts (item :: rest) := by
        intro w' phase he hphase
        by_cases hne : w' = w
        · subst hne
          exact ⟨rfl, he.symm.trans (goTo_self ..)⟩
        · rw [show (s.putNext w data l delete puts (item :: rest)).phases w' = s.phases w' from goTo_ne hne ..] at he
          rw [← he] at hphase
          exact absurd (hlocked.alone hw hne) hphase
      refine ⟨hmoved, fun hquiet => ?_, fun w' data' l' he => ?_, fun w' data' l' delete' puts' rest' he => ?_, hreturned⟩
      · have hnone := hquiet w
        rw [show (s.putNext w data l delete puts (item :: rest)).phases w = .putting data l delete puts (item :: rest) from
          goTo_self ..] at hnone
        cases hnone
      · cases (halone w' _ he (by simp [WriterPhase.writing?])).2
      · cases (halone w' _ he (by simp [WriterPhase.writing?])).2
        exact hnext

/-! ## Steps -/

omit [DecidableEq W] in
theorem lockRequest_eq (s : Writers W V T) (r : LeaseRequest String) (outcome : OpOutcome) :
    s.lockRequest r outcome = s ∨ s.lockRequest r outcome = { s with locks := s.locks.step (.request r) } := by
  unfold lockRequest
  split
  · exact .inr rfl
  · exact .inl rfl

omit [DecidableEq W] in
@[simp] theorem phases_lockRequest (s : Writers W V T) (r : LeaseRequest String) (outcome : OpOutcome) :
    (s.lockRequest r outcome).phases = s.phases := by
  rcases s.lockRequest_eq r outcome with he | he <;> rw [he]

omit [DecidableEq W] in
theorem Locked.withStore (h : s.Locked c keyPrefix) (store : Dict String T) :
    Locked c keyPrefix { s with store := store } := ⟨h.granted, h.unique, h.live, h.held⟩

omit [DecidableEq W] in
theorem Locked.lockRequest (h : s.Locked c keyPrefix) {r : LeaseRequest String}
    (hkeep : ∀ w l, (s.phases w).writing? = some l → r ≠ .revoke l) (outcome : OpOutcome) :
    (s.lockRequest r outcome).Locked c keyPrefix := by
  rcases s.lockRequest_eq r outcome with he | he <;> rw [he]
  · exact h
  · exact h.locks fun w l hl => ⟨fun hr => hkeep w l hl (LeaseEvent.request.inj hr), by simp⟩

theorem Serial.goTo_quiet (h : s.Serial codec c keyPrefix store) (hquiet : (s.phases w).writing? = none)
    {r : LeaseRequest String} (hkeep : ∀ w l, (s.phases w).writing? = some l → r ≠ .revoke l) {outcome : OpOutcome}
    {phase : WriterPhase V} (hphase : phase.writing? = none)
    (hlease : ∀ l, phase.leaseId? = some l → l ≤ (s.lockRequest r outcome).locks.granted ∧
      ∀ w', (s.phases w').leaseId? = some l → w' = w) :
    ((s.lockRequest r outcome).goTo w phase).Serial codec c keyPrefix store := by
  have hsame : (s.lockRequest r outcome).phases = s.phases ∧ (s.lockRequest r outcome).store = s.store ∧
      (s.lockRequest r outcome).calls = s.calls := by
    rcases s.lockRequest_eq r outcome with he | he <;> rw [he] <;> exact ⟨rfl, rfl, rfl⟩
  have hlocked := h.locked.lockRequest hkeep outcome
  refine h.of_same (hlocked.goTo (fun l hl => ?_) fun l hl => ?_) hsame.2.1 hsame.2.2 fun w' => ?_
  · rw [hsame.1]
    exact hlease l hl
  · rw [hphase] at hl
    cases hl
  · by_cases hne : w' = w
    · subst hne
      rw [goTo_self]
      exact .inr ⟨hquiet, hphase⟩
    · rw [goTo_ne hne, hsame.1]
      exact .inl rfl

theorem Serial.revoke_quiet (h : s.Serial codec c keyPrefix store) (hquiet : (s.phases w).writing? = none)
    (hlease : (s.phases w).leaseId? = some l) (outcome : OpOutcome) :
    ((s.lockRequest (.revoke l) outcome).goTo w .idle).Serial codec c keyPrefix store := by
  refine h.goTo_quiet hquiet (fun w' l' hl' hr => ?_) rfl fun l' hl' => by cases hl'
  obtain rfl : l = l' := LeaseRequest.revoke.inj hr
  obtain rfl := h.locked.unique w w' l hlease (leaseId?_of_writing? hl')
  rw [hquiet] at hl'
  cases hl'

theorem Serial.enter (h : s.Serial codec c keyPrefix store) {data : Dict String V}
    (hw : s.phases w = .claiming data l)
    (hclaimed : (s.locks.serve (.claim (lockKey c keyPrefix) l)).1 = .claimed true) :
    (goTo { s with locks := s.locks.step (.request (.claim (lockKey c keyPrefix) l)) } w
      (.deleting data l)).Serial codec c keyPrefix store := by
  obtain ⟨hfree, hlive⟩ := LeaseServer.free_of_claimed hclaimed
  have hattached : (s.locks.step (.request (.claim (lockKey c keyPrefix) l))).Attached (lockKey c keyPrefix) l :=
    LeaseServer.attached_of_claimed hclaimed
  have hquiet : ∀ w, (s.phases w).writing? = none := by
    intro w'
    cases hw' : (s.phases w').writing? with
    | none => rfl
    | some l' =>
        have hheld := h.locked.held w' l' hw'
        rw [LeaseServer.Attached, hfree] at hheld
        cases hheld
  have hlocks : Locked c keyPrefix { s with locks := s.locks.step (.request (.claim (lockKey c keyPrefix) l)) } :=
    h.locked.locks fun w' l' hl' => by
      rw [hquiet w'] at hl'
      cases hl'
  have hlocked : (goTo { s with locks := s.locks.step (.request (.claim (lockKey c keyPrefix) l)) } w
      (.deleting data l)).Locked c keyPrefix := by
    refine hlocks.goTo (fun l' hl' => ?_) fun l' hl' => ?_
    · cases hl'
      have hlease : (s.phases w).leaseId? = some l := by rw [hw]; rfl
      exact ⟨hlocks.granted w l hlease, fun w' hl' => h.locked.unique w' w l hl' hlease⟩
    · cases hl'
      exact ⟨LeaseServer.live_step hlive (by simp) (by simp), hattached⟩
  refine ⟨hlocked, fun _ => h.quiet hquiet, fun _ _ _ _ => h.quiet hquiet, fun w' data' l' delete puts rest he => ?_,
    h.returned⟩
  by_cases hne : w' = w
  · subst hne
    rw [goTo_self] at he
    cases he
  · rw [goTo_ne hne] at he
    have hnone := hquiet w'
    rw [he] at hnone
    cases hnone

theorem Serial.request (h : s.Serial codec c keyPrefix store) (w : W) (outcome : OpOutcome) :
    (s.request codec c keyPrefix w outcome).Serial codec c keyPrefix store := by
  unfold Writers.request
  cases hw : s.phases w with
  | idle => exact h
  | granting data =>
      have hquiet : (s.phases w).writing? = none := by rw [hw]; rfl
      dsimp only
      split
      · rename_i leaseId hanswer
        refine h.goTo_quiet hquiet (fun _ _ _ => by simp) rfl fun l hl => ?_
        obtain rfl : leaseId = l := Option.some.inj hl
        cases outcome with
        | answered =>
            obtain ⟨rfl, hgranted⟩ := LeaseServer.granted_of_serve (Option.some.inj hanswer)
            refine ⟨Int.le_of_eq hgranted.symm, fun w' hl' => ?_⟩
            have hle := h.locked.granted w' _ hl'
            omega
        | unanswered => cases hanswer
        | refused => cases hanswer
      · exact h.goTo_quiet hquiet (fun _ _ _ => by simp) rfl fun l hl => by cases hl
  | claiming data leaseId =>
      have hquiet : (s.phases w).writing? = none := by rw [hw]; rfl
      have hlease : (s.phases w).leaseId? = some leaseId := by rw [hw]; rfl
      dsimp only
      split
      · rename_i hanswer
        cases outcome with
        | answered => exact h.enter hw (Option.some.inj hanswer)
        | unanswered => cases hanswer
        | refused => cases hanswer
      · refine h.goTo_quiet hquiet (fun _ _ _ => by simp) rfl fun l hl => ?_
        obtain rfl : leaseId = l := Option.some.inj hl
        have hlocked := h.locked.lockRequest (r := .claim (lockKey c keyPrefix) leaseId) (fun _ _ _ => by simp) outcome
        exact ⟨hlocked.granted w leaseId (by rw [phases_lockRequest]; exact hlease),
          fun w' hl' => h.locked.unique w' w leaseId hl' hlease⟩
  | abandoning leaseId => exact h.revoke_quiet (by rw [hw]; rfl) (by rw [hw]; rfl) outcome
  | releasing leaseId => exact h.revoke_quiet (by rw [hw]; rfl) (by rw [hw]; rfl) outcome
  | deleting data leaseId =>
      have hwriting : (s.phases w).writing? = some leaseId := by rw [hw]; rfl
      exact serial_putNext (h.locked.withStore (c.deletePrefix s.store keyPrefix outcome).2) h.returned hwriting
        (continues_delete (h.deleting w data leaseId hw) outcome)
  | putting data leaseId delete puts rest =>
      have hwriting : (s.phases w).writing? = some leaseId := by rw [hw]; rfl
      have hnext := h.putting w data leaseId delete puts rest hw
      cases rest with
      | nil => exact h
      | cons item rest =>
          obtain ⟨dataKey, dataValue⟩ := item
          dsimp only
          split
          · rename_i store' hput
            exact serial_putNext (h.locked.withStore store') h.returned hwriting (hnext.put hput)
          · rename_i store' hput
            obtain ⟨hflag, hstore⟩ := hnext.fail hput
            refine serial_record (h.locked.withStore store') h.returned hwriting hstore (fun b hb => ?_) rfl fun l' hl' => ?_
            · rw [← Option.some.inj hb]
              exact hflag.symm
            · rw [← hl']
              exact leaseId?_of_writing? hwriting

theorem Serial.crash (h : s.Serial codec c keyPrefix store) (w : W) : (s.crash w).Serial codec c keyPrefix store := by
  have hidle : (s.phases w).writing? = none → (s.goTo w .idle).Serial codec c keyPrefix store := by
    intro hquiet
    refine h.of_same (h.locked.goTo_same (fun l hl => by cases hl) fun l hl => by cases hl) rfl rfl fun w' => ?_
    by_cases hne : w' = w
    · subst hne
      rw [goTo_self]
      exact .inr ⟨hquiet, rfl⟩
    · exact .inl (goTo_ne hne ..)
  unfold Writers.crash
  cases hw : s.phases w with
  | idle => exact h
  | granting data => exact hidle (by rw [hw]; rfl)
  | claiming data leaseId => exact hidle (by rw [hw]; rfl)
  | abandoning leaseId => exact hidle (by rw [hw]; rfl)
  | releasing leaseId => exact hidle (by rw [hw]; rfl)
  | deleting data leaseId =>
      have hnext : Continues codec c keyPrefix (oneByOne codec c keyPrefix store s.calls) s.store data .refused []
        data.entries := continues_delete (h.deleting w data leaseId hw) .refused
      exact serial_record h.locked h.returned (l := leaseId) (by rw [hw]; rfl) hnext.refused (fun b hb => by cases hb) rfl
        fun l' hl' => by cases hl'
  | putting data leaseId delete puts rest =>
      exact serial_record h.locked h.returned (l := leaseId) (by rw [hw]; rfl)
        (h.putting w data leaseId delete puts rest hw).refused (fun b hb => by cases hb) rfl fun l' hl' => by cases hl'

omit [DecidableEq W] in
theorem Serial.elsewhere (h : s.Serial codec c keyPrefix store) {store' : Dict String T}
    (hagree : AgreeUnder (c.getKeyWithNamespaceAndJobName keyPrefix) s.store store') :
    Serial codec c keyPrefix store { s with store := store' } :=
  ⟨h.locked.withStore store', fun hquiet => (h.quiet hquiet).trans hagree,
    fun w data l hw => (h.deleting w data l hw).trans hagree,
    fun w data l delete puts rest hw => (h.putting w data l delete puts rest hw).elsewhere hagree, h.returned⟩

theorem Serial.step (h : s.Serial codec c keyPrefix store) {e : WriterEvent W V T} (hkeep : s.KeepsLease e) :
    (s.step codec c keyPrefix e).Serial codec c keyPrefix store := by
  cases e with
  | persist w data =>
      simp only [Writers.step]
      split
      · rename_i hw
        refine h.of_same (h.locked.goTo_same (fun l hl => by cases hl) fun l hl => by cases hl) rfl rfl fun w' => ?_
        by_cases hne : w' = w
        · subst hne
          rw [goTo_self, hw]
          exact .inr ⟨rfl, rfl⟩
        · exact .inl (goTo_ne hne ..)
      · exact h
  | request w outcome => exact h.request w outcome
  | crash w => exact h.crash w
  | expire leaseId =>
      refine h.of_same (h.locked.locks (e := .expire leaseId) fun w l hl => ⟨by simp, ?_⟩) rfl rfl fun w => .inl rfl
      rintro he
      cases he
      exact hkeep w hl
  | elsewhere key value =>
      simp only [Writers.step]
      split
      · exact h
      · rename_i hkey
        have hne : ∀ key', startsWith key' (c.getKeyWithNamespaceAndJobName keyPrefix) = true → key' ≠ key := by
          rintro key' hkey' rfl
          exact hkey hkey'
        cases value with
        | none => exact h.elsewhere fun key' hkey' => (Dict.get?_erase_ne (hne key' hkey')).symm
        | some value => exact h.elsewhere fun key' hkey' => (Dict.get?_set_ne (hne key' hkey')).symm

omit [DecidableEq W] in
theorem serial_start (codec : JsonCodec V T) (c : EtcdClient) (keyPrefix : String) (store : Dict String T) :
    Serial codec c keyPrefix store ({ store := store } : Writers W V T) :=
  ⟨⟨fun w l hl => (by cases hl), fun w w' l hl => (by cases hl), fun w l hl => (by cases hl), fun w l hl => (by cases hl)⟩,
    fun _ => AgreeUnder.refl _ _, fun w data l hw => (by cases hw), fun w data l delete puts rest hw => (by cases hw),
    fun before call after he => by
      have hlength := congrArg List.length he
      simp at hlength⟩

/-- While no lease expires under a call that writes, whatever gets lost and whoever crashes, one call writes at a time;
whenever none does, what is restored is what the calls leave that have written, one after the other; and every call has
returned what it returns then. -/
theorem persists_one_by_one (codec : JsonCodec V T) (c : EtcdClient) (keyPrefix : String) (store : Dict String T)
    (es : List (WriterEvent W V T)) :
    let start : Writers W V T := { store := store }
    Along (step codec c keyPrefix) KeepsLease start es →
    let s := run (step codec c keyPrefix) start es
    (∀ w w' l l', (s.phases w).writing? = some l → (s.phases w').writing? = some l' → w = w') ∧
    ((∀ w, (s.phases w).writing? = none) → EtcdClient.restoreData codec c s.store keyPrefix =
      EtcdClient.restoreData codec c (oneByOne codec c keyPrefix store s.calls) keyPrefix) ∧
    ∀ before call after, s.calls = before ++ call :: after → ∀ b, call.returned = some b →
      b = (EtcdClient.persistData codec c (oneByOne codec c keyPrefix store before) keyPrefix call.data call.outcomes).1 := by
  intro start hkeep
  have h := run_invariant (I := Serial codec c keyPrefix store) (fun _ _ h hk => h.step hk)
    (serial_start codec c keyPrefix store) hkeep
  exact ⟨fun w w' l l' hw hw' => h.locked.one_writer hw hw', fun hquiet => (h.quiet hquiet).restoreData.symm, h.returned⟩

/-- Both clients persist. The second one finds the lock taken; the answer to its release gets lost, and its lease
expires. -/
def twoWriters : List (WriterEvent Bool String String) :=
  [.persist false oldData, .persist true newData, .request false .answered, .request true .answered,
    .request false .answered, .request true .answered, .request false .answered, .request true .refused,
    .request false .answered, .expire 2, .request false .unanswered]

theorem persists_one_by_one_twoWriters :
    let s := run (step textCodec podClient "/data") { store := Dict.empty } twoWriters
    s.calls.map (fun call => call.returned) = [some true] ∧
      EtcdClient.restoreData textCodec podClient s.store "/data" =
        EtcdClient.restoreData textCodec podClient (oneByOne textCodec podClient "/data" Dict.empty s.calls) "/data" := by
  have hkeep : Along (step textCodec podClient "/data") KeepsLease
      ({ store := Dict.empty } : Writers Bool String String) twoWriters := by
    refine ⟨trivial, trivial, trivial, trivial, trivial, trivial, trivial, trivial, trivial, fun w => ?_, trivial, trivial⟩
    cases w <;> decide
  refine ⟨by decide, (persists_one_by_one textCodec podClient "/data" Dict.empty twoWriters hkeep).2.1 fun w => ?_⟩
  cases w <;> decide

end Writers

end PyMotor
