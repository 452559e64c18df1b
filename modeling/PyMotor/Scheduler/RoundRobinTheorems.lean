import PyMotor.Lib.Cycle
import PyMotor.Scheduler.Policies

/-!
# Round robin is fair

The policy of the server and a client both follow a rotor: round the instances, and at each instance round its endpoints.
The server keeps its counters modulo their cycle and a client adds its offset; neither shows in what is picked.
-/

namespace PyMotor

open Lib

def PicksAt (instances : List ManagedInstance) (result : Option (ManagedInstance × Endpoint)) (p : Nat × Nat) : Prop :=
  ∃ inst ep, instances[p.1]? = some inst ∧ inst.getAllEndpoints[p.2]? = some ep ∧ result = some (inst, ep)

def endpointCount (instances : List ManagedInstance) (j : Nat) : Nat :=
  (instances[j]?.map fun inst => inst.getAllEndpoints.length).getD 0

/-- `k` rounds over the instances from the place of a counter, with the positions that were picked. -/
structure FairRounds (instances : List ManagedInstance) (counter : Int) (k : Nat)
    (results : List (Option (ManagedInstance × Endpoint))) (picks : List (Nat × Nat)) : Prop where
  picked : List.Forall₂ (PicksAt instances) results picks
  cyclic : picks.map Prod.fst = walk instances.length counter (k * instances.length)
  instances_even : ∀ j < instances.length, picks.countP (·.1 = j) = k
  endpoints_even : ∀ j < instances.length, ∀ i < endpointCount instances j,
    picks.count (j, i) = k / endpointCount instances j ∨ picks.count (j, i) = k ⌈/⌉ endpointCount instances j

theorem fairRounds_of_rotor {instances : List ManagedInstance} {r : Rotor} {k : Nat}
    {results : List (Option (ManagedInstance × Endpoint))}
    (h : List.Forall₂ (PicksAt instances) results
      (r.picks instances.length (endpointCount instances) (k * instances.length))) :
    FairRounds instances r.turn k results
      (r.picks instances.length (endpointCount instances) (k * instances.length)) where
  picked := h
  cyclic := r.map_fst_picks ..
  instances_even _ hj := Rotor.countP_picks hj _ r k
  endpoints_even _ hj _ hi := Rotor.count_picks hj hi r k

/-! ## The counters of the endpoints -/

/-- The instances are those of a dictionary by id, and each has an endpoint to select. -/
structure Selectable (instances : List ManagedInstance) : Prop where
  nonempty : instances ≠ []
  ids : (instances.map (·.id)).Nodup
  endpoints : ∀ inst ∈ instances, inst.getAllEndpoints ≠ []

/-- The counters of the instances are those of the rotor, modulo the number of endpoints. -/
def CountersFollow (instances : List ManagedInstance) (counters : Dict Int Int) (inner : Nat → Int) : Prop :=
  ∀ j inst, instances[j]? = some inst →
    (counters.get? inst.id).getD 0 ≡ inner j [ZMOD inst.getAllEndpoints.length]

variable {instances : List ManagedInstance} {counters : Dict Int Int} {inner : Nat → Int}

theorem Selectable.length_pos (h : Selectable instances) : 0 < instances.length := List.length_pos_iff.mpr h.nonempty

theorem Selectable.eq_of_id (h : Selectable instances) {i j : Nat} {x y : ManagedInstance} (hi : instances[i]? = some x)
    (hj : instances[j]? = some y) (hid : x.id = y.id) : i = j := by
  have hlt : i < (instances.map (·.id)).length := by
    rw [List.length_map]
    exact (List.getElem?_eq_some_iff.mp hi).1
  refine (List.getElem?_inj hlt h.ids).mp ?_
  rw [List.getElem?_map, List.getElem?_map, hi, hj, Option.map_some, Option.map_some, hid]

theorem place_getElem? {α : Type} {l : List α} (h : l ≠ []) (c : Int) : ∃ x, l[place l.length c]? = some x :=
  ⟨_, List.getElem?_eq_getElem (place_lt (List.length_pos_iff.mpr h) c)⟩

theorem exists_map_of_forall₂ {α β γ : Type} {f : α → β} {P : α → γ → Prop} {xs : List β} {ys : List γ}
    (h : List.Forall₂ (fun x y => ∃ a, x = f a ∧ P a y) xs ys) :
    ∃ as : List α, xs = as.map f ∧ List.Forall₂ P as ys := by
  induction h with
  | nil => exact ⟨[], rfl, .nil⟩
  | cons hhead _ ih =>
      obtain ⟨a, rfl, ha⟩ := hhead
      obtain ⟨as, rfl, has⟩ := ih
      exact ⟨a :: as, rfl, .cons ha has⟩

theorem CountersFollow.select (hsel : Selectable instances) (h : CountersFollow instances counters inner) {j : Nat}
    {inst : ManagedInstance} (hj : instances[j]? = some inst) :
    ∃ ep counters', RoundRobinPolicy.selectEndpointFromInstance inst counters = (some ep, counters') ∧
      inst.getAllEndpoints[place (endpointCount instances j) (inner j)]? = some ep ∧
      CountersFollow instances counters' (Function.update inner j (inner j + 1)) := by
  have hne := hsel.endpoints inst (List.mem_of_getElem? hj)
  have hcount : endpointCount instances j = inst.getAllEndpoints.length := by simp [endpointCount, hj]
  obtain ⟨ep, hep⟩ := place_getElem? hne ((counters.get? inst.id).getD 0)
  refine ⟨ep, counters.set inst.id (((counters.get? inst.id).getD 0 + 1) % inst.getAllEndpoints.length), ?_, ?_, ?_⟩
  · unfold place at hep
    simp [RoundRobinPolicy.selectEndpointFromInstance, hne, hep]
  · rw [hcount, ← place_congr (h j inst hj)]
    exact hep
  · intro j' inst' hj'
    by_cases hid : inst'.id = inst.id
    · obtain rfl := hsel.eq_of_id hj' hj hid
      cases hj'.symm.trans hj
      rw [Dict.get?_set_self, Option.getD_some, Function.update_self]
      exact (Int.mod_modEq _ _).trans ((h j' inst hj).add_right 1)
    · have hne' : j' ≠ j := by
        rintro rfl
        cases hj'.symm.trans hj
        exact hid rfl
      rw [Dict.get?_set_ne hid, Function.update_of_ne hne']
      exact h j' inst' hj'

/-! ## The server and the client -/

namespace RoundRobinPolicy

/-- The policy keeps the counter of the role modulo the number of instances. -/
structure Follows (instances : List ManagedInstance) (role : Option PDRole) (s : RoundRobinPolicy) (r : Rotor) : Prop where
  turn : (s.instanceRrCounters.get? role).getD 0 ≡ r.turn [ZMOD instances.length]
  inner : CountersFollow instances s.endpointRrCounters r.inner

theorem Follows.step (hsel : Selectable instances) {active : Dict Int ManagedInstance} (hactive : active.values = instances)
    {role : Option PDRole} {s : RoundRobinPolicy} {r : Rotor} (h : Follows instances role s r) :
    PicksAt instances (s.selectInstanceAndEndpoint active role).1 (r.pick instances.length (endpointCount instances)) ∧
      Follows instances role (s.selectInstanceAndEndpoint active role).2 (r.next instances.length) := by
  obtain ⟨inst, hinst⟩ := place_getElem? hsel.nonempty ((s.instanceRrCounters.get? role).getD 0)
  have hj : instances[place instances.length r.turn]? = some inst := by
    rw [← place_congr h.turn]
    exact hinst
  obtain ⟨ep, counters', hselect, hep, hfollow⟩ := h.inner.select hsel hj
  unfold place at hinst
  simp only [selectInstanceAndEndpoint, selectInstance, selectInstanceFromList, selectEndpoint, hactive,
    List.isEmpty_iff, if_neg hsel.nonempty, hinst, hselect, Option.map_some]
  refine ⟨⟨inst, ep, hj, hep, rfl⟩, ?_, hfollow⟩
  rw [Dict.get?_set_self, Option.getD_some]
  exact (Int.mod_modEq _ _).trans (h.turn.add_right 1)

theorem selections_fair (hsel : Selectable instances) (policy : RoundRobinPolicy) {active : Dict Int ManagedInstance}
    (hactive : active.values = instances) (role : Option PDRole) (k : Nat) :
    ∃ picks, FairRounds instances ((policy.instanceRrCounters.get? role).getD 0) k
      (answers (fun s (_ : Unit) => s.selectInstanceAndEndpoint active role) policy
        (List.replicate (k * instances.length) ())) picks := by
  have hstart : Follows instances role policy ⟨(policy.instanceRrCounters.get? role).getD 0,
      fun j => (instances[j]?.map fun inst => (policy.endpointRrCounters.get? inst.id).getD 0).getD 0⟩ :=
    ⟨Int.ModEq.refl _, fun j inst hj => by simp [hj, Int.ModEq.refl]⟩
  have hfollow := Rotor.answers_follow (e := endpointCount instances)
    (fun s (_ : Unit) r (h : Follows instances role s r) => h.step hsel hactive) hstart
    (List.replicate (k * instances.length) ())
  rw [List.length_replicate] at hfollow
  exact ⟨_, fairRounds_of_rotor hfollow⟩

end RoundRobinPolicy

namespace ClientSelector

/-- The client keeps the counter of the role without its offset. -/
structure Follows (instances : List ManagedInstance) (role : PDRole) (client : ClientSelector) (r : Rotor) : Prop where
  schedulerType : client.schedulerType = .roundRobin
  turn : (client.instanceRrCounters.get? role).getD 0 + client.startOffset instances.length = r.turn
  inner : CountersFollow instances client.endpointRrCounters r.inner

theorem Follows.step (hsel : Selectable instances) {role : PDRole} {client : ClientSelector} {r : Rotor}
    (h : Follows instances role client r) (reply : Json) :
    (∃ result, (client.selectFromList instances role reply).1 = .ok result ∧
      PicksAt instances result (r.pick instances.length (endpointCount instances))) ∧
      Follows instances role (client.selectFromList instances role reply).2 (r.next instances.length) := by
  obtain ⟨inst, hj⟩ := place_getElem? hsel.nonempty r.turn
  obtain ⟨ep, counters', hselect, hep, hfollow⟩ := h.inner.select hsel hj
  have hinst := hj
  unfold place at hinst
  cases hall : inst.getAllEndpoints with
  | nil => exact absurd hall (hsel.endpoints inst (List.mem_of_getElem? hj))
  | cons first rest =>
      simp only [selectFromList, selectByRoundRobin, RoundRobinPolicy.selectInstanceFromList, selectEndpointForInstance,
        h.schedulerType, h.turn, List.isEmpty_iff, if_neg hsel.nonempty, hinst, hall, hselect, Option.map_some,
        Prod.map_apply, id]
      refine ⟨⟨_, rfl, inst, ep, hj, hep, rfl⟩, rfl, ?_, hfollow⟩
      rw [Dict.get?_set_self, Option.getD_some]
      exact Int.sub_add_cancel _ _

theorem startOffset_lt {client : ClientSelector} (h : client.clientIndex < client.clientCount) {n : Nat} (hn : 0 < n) :
    client.startOffset n < n := by
  unfold startOffset
  rw [if_neg (by omega), Nat.div_lt_iff_lt_mul client.clientCount_pos]
  exact Nat.mul_lt_mul_of_pos_left h hn

theorem startOffset_lt_startOffset {client client' : ClientSelector} (hcount : client.clientCount = client'.clientCount)
    {n : Nat} (hn : client.clientCount ≤ n) (hlt : client.clientIndex < client'.clientIndex) :
    client.startOffset n < client'.startOffset n := by
  have hpos := client.clientCount_pos
  have hnext : n * client.clientIndex + client.clientCount ≤ n * client'.clientIndex := by
    calc n * client.clientIndex + client.clientCount ≤ n * client.clientIndex + n := by omega
      _ = n * (client.clientIndex + 1) := by ring
      _ ≤ n * client'.clientIndex := Nat.mul_le_mul_left n hlt
  unfold startOffset
  rw [if_neg (by omega), if_neg (by omega), ← hcount, Nat.lt_iff_add_one_le, ← Nat.add_div_right _ hpos]
  exact Nat.div_le_div_right hnext

theorem selections_fair (hsel : Selectable instances) {client : ClientSelector}
    (htype : client.schedulerType = .roundRobin) (role : PDRole) {replies : List Json} {k : Nat}
    (hlen : replies.length = k * instances.length) :
    ∃ results picks,
      answers (fun s reply => s.selectFromList instances role reply) client replies = results.map .ok ∧
        FairRounds instances
          ((client.instanceRrCounters.get? role).getD 0 + client.startOffset instances.length) k results picks := by
  have hstart : Follows instances role client
      ⟨(client.instanceRrCounters.get? role).getD 0 + client.startOffset instances.length,
        fun j => (instances[j]?.map fun inst => (client.endpointRrCounters.get? inst.id).getD 0).getD 0⟩ :=
    ⟨htype, rfl, fun j inst hj => by simp [hj, Int.ModEq.refl]⟩
  have hfollow : List.Forall₂ (fun answer p => ∃ result, answer = .ok result ∧ PicksAt instances result p)
      (answers (fun s reply => selectFromList s instances role reply) client replies) _ :=
    Rotor.answers_follow (R := Follows instances role) (fun s reply r h => h.step hsel reply) hstart replies
  rw [hlen] at hfollow
  obtain ⟨results, hresults, hpicked⟩ := exists_map_of_forall₂ hfollow
  exact ⟨results, _, hresults, fairRounds_of_rotor hpicked⟩

end ClientSelector

/-- Round robin is fair over any whole number of rounds, from any counters: the policy of the server and every client
walk the instances in order, visit each as often as the others, and each of its endpoints as often as the other ones but
for one visit. The offsets of the workers are places of the cycle, different ones if there are enough instances. -/
theorem roundRobin_fair {instances : List ManagedInstance} (hsel : Selectable instances) :
    (∀ (client : ClientSelector) (role : PDRole) (replies : List Json) (k : Nat),
      client.schedulerType = .roundRobin → client.clientIndex < client.clientCount →
      replies.length = k * instances.length → ∃ results picks,
        answers (fun s reply => s.selectFromList instances role reply) client replies = results.map .ok ∧
          FairRounds instances
            ((client.instanceRrCounters.get? role).getD 0 + client.startOffset instances.length) k results picks) ∧
    (∀ (policy : RoundRobinPolicy) (active : Dict Int ManagedInstance) (role : Option PDRole) (k : Nat),
      active.values = instances → ∃ picks,
        FairRounds instances ((policy.instanceRrCounters.get? role).getD 0) k
          (answers (fun s (_ : Unit) => s.selectInstanceAndEndpoint active role) policy
            (List.replicate (k * instances.length) ())) picks) ∧
    (∀ client : ClientSelector, client.clientIndex < client.clientCount →
      client.startOffset instances.length < instances.length) ∧
    ∀ client client' : ClientSelector, client.clientCount = client'.clientCount →
      client.clientCount ≤ instances.length → client.clientIndex ≠ client'.clientIndex →
      client.startOffset instances.length ≠ client'.startOffset instances.length := by
  refine ⟨?_, ?_, ?_, ?_⟩
  · intro client role replies k htype _ hlen
    exact client.selections_fair hsel htype role hlen
  · intro policy active role k hactive
    exact policy.selections_fair hsel hactive role k
  · intro client hlt
    exact ClientSelector.startOffset_lt hlt hsel.length_pos
  · intro client client' hcount hn hne
    rcases Nat.lt_or_gt_of_ne hne with hlt | hlt
    · exact (ClientSelector.startOffset_lt_startOffset hcount hn hlt).ne
    · exact (ClientSelector.startOffset_lt_startOffset hcount.symm (hcount ▸ hn) hlt).ne'

def twoAndOne : List ManagedInstance :=
  [{ id := 1, role := "prefill", endpoints := .single "10.0.0.1" ((Dict.single 0 { id := 0 }).set 1 { id := 1 }) },
    { id := 2, role := "prefill", endpoints := .single "10.0.0.2" (.single 0 { id := 0 }) }]

theorem twoAndOne_selectable : Selectable twoAndOne := ⟨by decide, by decide, by decide⟩

def secondWorker : ClientSelector := { clientIndex := 1, clientCount := 2 }

theorem twoAndOne_fair : ∃ results picks,
    answers (fun (s : ClientSelector) (reply : Json) => s.selectFromList twoAndOne .roleP reply) secondWorker
      (List.replicate 6 .null) = results.map Except.ok ∧ FairRounds twoAndOne 1 3 results picks :=
  (roundRobin_fair twoAndOne_selectable).1 secondWorker .roleP
    (List.replicate 6 .null) 3 rfl (by decide) rfl

end PyMotor
