import Mathlib.Data.List.Induction
import PyMotor.Zmq.Transport

/-!
# What a step does to the tables of the transport

Every step touches the entries of at most one id. `step_change` says how; the invariant, the results of returned
calls and the entries of calls that timed out are read off it.
-/

namespace PyMotor.Zmq

open Lib

namespace SendCall

def Open (c : SendCall) : Prop := c.phase = .sending ∨ c.phase = .waiting

theorem isSending_iff {c : SendCall} : c.isSending = true ↔ c.phase = .sending := by
  cases h : c.phase <;> simp [isSending, h]

theorem isWaiting_iff {c : SendCall} : c.isWaiting = true ↔ c.phase = .waiting := by
  cases h : c.phase <;> simp [isWaiting, h]

end SendCall

namespace SchedulerTransport

/-! ## The invariant -/

/-- The entries of a call's id, by the phase of the call. -/
def SlotOk (call : Nat) (c : SendCall) (info : Option PendingInfo) (response : Option SchedulerResponse) : Prop :=
  match c.phase with
  | .sending | .waiting =>
      info = some { event := some call, timestamp := c.requestTimestamp } ∧ (c.eventSet = false → response = none)
  | .returned .timedOut =>
      info = some { event := none, timestamp := c.requestTimestamp } ∨ info = none ∧ response = none
  | .returned exit => info = none ∧ response = none ∧ ∀ r, exit.result = some r → r.requestId = c.requestId

structure Inv (s : SchedulerTransport) : Prop where
  ids : (s.calls.map SendCall.requestId).Nodup
  slots : ∀ k c, s.calls[k]? = some c →
    SlotOk k c (s.pendingRequests.get? c.requestId) (s.pendingResponses.get? c.requestId)
  own : ∀ id r, s.pendingResponses.get? id = some r → r.requestId = id
  known : ∀ id, (∀ c ∈ s.calls, c.requestId ≠ id) → s.Forgotten id

variable {s s' : SchedulerTransport}

theorem Inv.call_eq (h : Inv s) {j k : Nat} {c d : SendCall} (hj : s.calls[j]? = some d) (hk : s.calls[k]? = some c)
    (hid : d.requestId = c.requestId) : j = k := by
  have hlt : j < (s.calls.map SendCall.requestId).length := by
    rw [List.length_map]
    exact (List.getElem?_eq_some_iff.1 hj).1
  refine (List.getElem?_inj hlt h.ids).1 ?_
  simp [List.getElem?_map, hj, hk, hid]

theorem Inv.call_of_info (h : Inv s) {id : String} {info : PendingInfo} (hinfo : s.pendingRequests.get? id = some info) :
    ∃ (k : Nat) (c : SendCall), s.calls[k]? = some c ∧ c.requestId = id := by
  by_contra hnone
  have hknown := h.known id fun c hc hid => hnone (by
    obtain ⟨k, hk⟩ := List.getElem?_of_mem hc
    exact ⟨k, c, hk, hid⟩)
  rw [hknown.1] at hinfo
  cases hinfo

/-! ## What a step changes -/

/-- The calls are the same, and so are the entries of both tables. -/
structure Same (s s' : SchedulerTransport) : Prop where
  calls : s'.calls = s.calls
  requests : ∀ id, s'.pendingRequests.get? id = s.pendingRequests.get? id
  responses : ∀ id, s'.pendingResponses.get? id = s.pendingResponses.get? id

/-- A new call, with its entry when the transport is connected. -/
structure Started (s s' : SchedulerTransport) (c : SendCall) : Prop where
  fresh : ∀ d ∈ s.calls, d.requestId ≠ c.requestId
  calls : s'.calls = s.calls ++ [c]
  requests : ∀ id, id ≠ c.requestId → s'.pendingRequests.get? id = s.pendingRequests.get? id
  responses : ∀ id, s'.pendingResponses.get? id = s.pendingResponses.get? id
  slot : c.phase = .sending ∧
      s'.pendingRequests.get? c.requestId = some { event := some s.calls.length, timestamp := c.requestTimestamp } ∨
    c.phase = .returned .notConnected ∧ s'.pendingRequests.get? c.requestId = s.pendingRequests.get? c.requestId

/-- Only one call and the entries of its id change. -/
structure Update (s s' : SchedulerTransport) (k : Nat) (c c' : SendCall) : Prop where
  call : s.calls[k]? = some c
  calls : s'.calls = s.calls.modify k fun _ => c'
  id_eq : c'.requestId = c.requestId
  requests : ∀ id, id ≠ c.requestId → s'.pendingRequests.get? id = s.pendingRequests.get? id
  responses : ∀ id, id ≠ c.requestId → s'.pendingResponses.get? id = s.pendingResponses.get? id

/-- What happens to a call and the entries of its id. -/
inductive Change (late : Prop) (c : SendCall) (info : Option PendingInfo) (response : Option SchedulerResponse) :
    SendCall → Option PendingInfo → Option SchedulerResponse → Prop
  | sent : c.phase = .sending → Change late c info response { c with phase := .waiting } info response
  | ended (exit : CallExit) : c.Open → exit ≠ .timedOut → (∀ r, exit.result = some r → response = some r) →
      Change late c info response { c with phase := .returned exit } none none
  | timedOut : c.phase = .waiting →
      Change late c info response { c with phase := .returned .timedOut }
        (some { event := none, timestamp := c.requestTimestamp }) response
  | accepted (r : SchedulerResponse) : c.Open → r.requestId = c.requestId →
      Change late c info response { c with eventSet := true } info (some r)
  | dropped : (c.eventSet = true ∨ info = none) → Change late c info response c info none
  | late : late → Change late c info response c none none

theorem getElem?_modify_const {xs : List SendCall} {k : Nat} {c c' : SendCall} (h : xs[k]? = some c) (j : Nat) :
    (xs.modify k fun _ => c')[j]? = if k = j then some c' else xs[j]? := by
  rw [List.getElem?_modify]
  by_cases hj : k = j
  · subst hj
    simp [h]
  · simp [hj]

theorem modify_eq_const {xs : List SendCall} {k : Nat} {c : SendCall} (h : xs[k]? = some c) (f : SendCall → SendCall) :
    xs.modify k f = xs.modify k fun _ => f c := by
  apply List.ext_getElem?
  intro j
  rw [getElem?_modify_const h, List.getElem?_modify]
  by_cases hj : k = j
  · subst hj
    simp [h]
  · simp [hj]

theorem modify_self {xs : List SendCall} {k : Nat} {c : SendCall} (h : xs[k]? = some c) :
    (xs.modify k fun _ => c) = xs := by
  apply List.ext_getElem?
  intro j
  rw [getElem?_modify_const h]
  by_cases hj : k = j
  · rw [if_pos hj, ← hj, h]
  · rw [if_neg hj]

theorem map_requestId_modify {xs : List SendCall} {k : Nat} {c c' : SendCall} (h : xs[k]? = some c)
    (hid : c'.requestId = c.requestId) :
    (xs.modify k fun _ => c').map SendCall.requestId = xs.map SendCall.requestId := by
  apply List.ext_getElem?
  intro j
  rw [List.getElem?_map, getElem?_modify_const h, List.getElem?_map]
  by_cases hj : k = j
  · subst hj
    simp [h, hid]
  · simp [hj]

/-! ## The invariant is kept -/

theorem Same.inv (h : Same s s') (hs : Inv s) : Inv s' where
  ids := by rw [h.calls]; exact hs.ids
  slots k c hc := by
    rw [h.requests, h.responses]
    exact hs.slots k c (h.calls ▸ hc)
  own id r hr := hs.own id r (h.responses id ▸ hr)
  known id hid := by
    obtain ⟨hreq, hresp⟩ := hs.known id (h.calls ▸ hid)
    exact ⟨(h.requests id).trans hreq, (h.responses id).trans hresp⟩

theorem Started.inv {c : SendCall} (h : Started s s' c) (hs : Inv s) : Inv s' where
  ids := by
    rw [h.calls, List.map_append, List.map_singleton]
    refine List.Nodup.append hs.ids (List.nodup_singleton _) ?_
    rw [List.disjoint_singleton]
    intro hmem
    obtain ⟨d, hd, hid⟩ := List.mem_map.1 hmem
    exact h.fresh d hd hid
  slots k d hd := by
    obtain ⟨hreq, hresp⟩ := hs.known c.requestId h.fresh
    rw [h.calls, List.getElem?_append] at hd
    split at hd
    · have hne : d.requestId ≠ c.requestId := h.fresh d (List.mem_of_getElem? hd)
      rw [h.requests _ hne, h.responses]
      exact hs.slots k d hd
    · have hk : k = s.calls.length := by
        by_contra hk
        rw [List.getElem?_eq_none (by rw [List.length_singleton]; omega)] at hd
        cases hd
      subst hk
      obtain rfl : c = d := by simpa using hd
      rcases h.slot with ⟨hphase, hinfo⟩ | ⟨hphase, hinfo⟩
      · simp [SlotOk, hphase, hinfo, h.responses, hresp]
      · simp [SlotOk, hphase, hinfo, hreq, h.responses, hresp, CallExit.result]
  own id r hr := hs.own id r (h.responses id ▸ hr)
  known id hid := by
    rw [h.calls, List.forall_mem_append, List.forall_mem_singleton] at hid
    obtain ⟨hreq, hresp⟩ := hs.known id hid.1
    exact ⟨(h.requests id (Ne.symm hid.2)).trans hreq, (h.responses id).trans hresp⟩

theorem Change.slotOk {late : Prop} {k : Nat} {c c' : SendCall} {info info' : Option PendingInfo}
    {response response' : Option SchedulerResponse} (h : Change late c info response c' info' response')
    (hlate : late → c.phase = .returned .timedOut) (hok : SlotOk k c info response)
    (hown : ∀ r, response = some r → r.requestId = c.requestId) : SlotOk k c' info' response' := by
  cases h with
  | sent hp =>
      simp only [SlotOk, hp] at hok
      exact hok
  | ended exit _ hne hres =>
      have hres' : ∀ r, exit.result = some r → r.requestId = c.requestId := fun r hr => hown r (hres r hr)
      cases exit <;> simp_all [SlotOk]
  | timedOut _ => simp [SlotOk]
  | accepted r hopen hr =>
      rcases hopen with hp | hp <;> simp only [SlotOk, hp] at hok <;> simp [SlotOk, hp, hok.1]
  | dropped hset =>
      cases hp : c.phase with
      | sending => simp_all [SlotOk]
      | waiting => simp_all [SlotOk]
      | returned exit =>
          cases exit <;> simp_all [SlotOk]
          exact hok.imp id And.left
  | late hl => simp [SlotOk, hlate hl]

theorem Change.own {late : Prop} {c c' : SendCall} {info info' : Option PendingInfo}
    {response response' : Option SchedulerResponse} (h : Change late c info response c' info' response')
    (hown : ∀ r, response = some r → r.requestId = c.requestId) :
    ∀ r, response' = some r → r.requestId = c.requestId := by
  cases h with
  | sent _ => exact hown
  | ended _ _ _ _ => simp
  | timedOut _ => exact hown
  | accepted r _ hr => simpa using hr
  | dropped _ => simp
  | late _ => simp

theorem Update.inv {k : Nat} {c c' : SendCall} (h : Update s s' k c c') (hs : Inv s)
    (hown : ∀ r, s'.pendingResponses.get? c.requestId = some r → r.requestId = c.requestId)
    (hslot : SlotOk k c' (s'.pendingRequests.get? c.requestId) (s'.pendingResponses.get? c.requestId)) : Inv s' where
  ids := by
    rw [h.calls, map_requestId_modify h.call h.id_eq]
    exact hs.ids
  slots j d hd := by
    rw [h.calls, getElem?_modify_const h.call] at hd
    split at hd
    · rename_i hj
      cases hd
      rw [h.id_eq, ← hj]
      exact hslot
    · rename_i hj
      have hne : d.requestId ≠ c.requestId := fun hid => hj (hs.call_eq hd h.call hid).symm
      rw [h.requests _ hne, h.responses _ hne]
      exact hs.slots j d hd
  own id r hr := by
    by_cases hid : id = c.requestId
    · rw [hid] at hr ⊢
      exact hown r hr
    · exact hs.own id r (h.responses id hid ▸ hr)
  known id hid := by
    have hids : ∀ d ∈ s.calls, d.requestId ≠ id := by
      intro d hd heq
      have hmem : id ∈ s'.calls.map SendCall.requestId := by
        rw [h.calls, map_requestId_modify h.call h.id_eq, ← heq]
        exact List.mem_map_of_mem hd
      obtain ⟨d', hd', hid'⟩ := List.mem_map.1 hmem
      exact hid d' hd' hid'
    have hne : id ≠ c.requestId := fun heq => hids c (List.mem_of_getElem? h.call) heq.symm
    obtain ⟨hreq, hresp⟩ := hs.known id hids
    exact ⟨(h.requests id hne).trans hreq, (h.responses id hne).trans hresp⟩

theorem slotOk_some {k : Nat} {c : SendCall} {info : PendingInfo} {response : Option SchedulerResponse}
    (h : SlotOk k c (some info) response) :
    c.Open ∧ info = { event := some k, timestamp := c.requestTimestamp } ∨
      c.phase = .returned .timedOut ∧ info = { event := none, timestamp := c.requestTimestamp } := by
  unfold SlotOk at h
  split at h
  · rename_i hp
    exact .inl ⟨.inl hp, Option.some.inj h.1⟩
  · rename_i hp
    exact .inl ⟨.inr hp, Option.some.inj h.1⟩
  · rename_i hp
    exact .inr ⟨hp, Option.some.inj (h.resolve_right fun hnone => by cases hnone.1)⟩
  · cases h.1

/-! ## Every step is one of these -/

/-- What a step does to the calls and their entries. -/
def Moves (s s' : SchedulerTransport) (late : Nat → Prop) : Prop :=
  Same s s' ∨ (∃ c, Started s s' c) ∨
    ∃ k c c', Update s s' k c c' ∧
      Change (late k) c (s.pendingRequests.get? c.requestId) (s.pendingResponses.get? c.requestId) c'
        (s'.pendingRequests.get? c.requestId) (s'.pendingResponses.get? c.requestId)

theorem Same.rfl_of {s s' : SchedulerTransport} (hcalls : s'.calls = s.calls)
    (hreq : s'.pendingRequests = s.pendingRequests) (hresp : s'.pendingResponses = s.pendingResponses) : Same s s' :=
  ⟨hcalls, fun _ => by rw [hreq], fun _ => by rw [hresp]⟩

theorem setPhase_calls {k : Nat} {c : SendCall} (h : s.calls[k]? = some c) (phase : SendPhase) :
    (s.setPhase k phase).calls = s.calls.modify k fun _ => { c with phase } :=
  modify_eq_const h fun c => { c with phase }

theorem update_setPhase {k : Nat} {c : SendCall} (h : s.calls[k]? = some c) (phase : SendPhase) :
    Update s (s.setPhase k phase) k c { c with phase } :=
  ⟨h, setPhase_calls h phase, rfl, fun _ _ => rfl, fun _ _ => rfl⟩

theorem update_dropPending {k : Nat} {c : SendCall} (h : s.calls[k]? = some c) (phase : SendPhase) :
    Update s ((s.dropPending c.requestId).setPhase k phase) k c { c with phase } :=
  ⟨h, setPhase_calls (s := s.dropPending c.requestId) h phase, rfl, fun _ hid => Dict.get?_erase_ne hid,
    fun _ hid => Dict.get?_erase_ne hid⟩

theorem moves_drop {late : Nat → Prop} {k : Nat} {c : SendCall} (h : s.calls[k]? = some c) {exit : CallExit}
    (hopen : c.Open) (hne : exit ≠ .timedOut)
    (hres : ∀ r, exit.result = some r → s.pendingResponses.get? c.requestId = some r) :
    Moves s ((s.dropPending c.requestId).setPhase k (.returned exit)) late := by
  refine .inr (.inr ⟨k, c, _, update_dropPending h _, ?_⟩)
  have hreq : (((s.dropPending c.requestId).setPhase k (.returned exit)).pendingRequests).get? c.requestId = none :=
    Dict.get?_erase_self _ _
  have hresp : (((s.dropPending c.requestId).setPhase k (.returned exit)).pendingResponses).get? c.requestId = none :=
    Dict.get?_erase_self _ _
  rw [hreq, hresp]
  exact .ended exit hopen hne hres

theorem moves_withCall {late : Nat → Prop} {k : Nat} {admits : SendCall → Bool}
    {f : SendCall → SchedulerTransport}
    (h : ∀ c, s.calls[k]? = some c → admits c = true → Moves s (f c) late) : Moves s (s.withCall k admits f) late := by
  unfold withCall
  split
  · rename_i c hc
    split
    · rename_i hadm
      exact h c hc hadm
    · exact .inl (.rfl_of rfl rfl rfl)
  · exact .inl (.rfl_of rfl rfl rfl)

theorem moves_sendRequest {late : Nat → Prop} {id : String} {now : Int} (hfresh : ∀ c ∈ s.calls, c.requestId ≠ id) :
    Moves s (s.sendRequest id now) late := by
  unfold sendRequest
  split
  · refine .inr (.inl ⟨_, hfresh, rfl, fun _ hid => Dict.get?_set_ne hid, fun _ => rfl, .inl ⟨rfl, ?_⟩⟩)
    exact Dict.get?_set_self _ _ _
  · exact .inr (.inl ⟨_, hfresh, rfl, fun _ _ => rfl, fun _ => rfl, .inr ⟨rfl, rfl⟩⟩)

theorem moves_timedOut {late : Nat → Prop} (hs : Inv s) {k : Nat} {c : SendCall} (h : s.calls[k]? = some c)
    (hw : c.phase = .waiting) : Moves s (s.timedOut k c) late := by
  have hslot := hs.slots k c h
  simp only [SlotOk, hw] at hslot
  have hcontains : (s.setPhase k (.returned .timedOut)).pendingRequests.contains c.requestId = true :=
    Dict.contains_iff.2 ⟨_, hslot.1⟩
  rw [timedOut, if_pos hcontains]
  refine .inr (.inr ⟨k, c, _, ⟨h, setPhase_calls h _, rfl, fun _ hid => Dict.get?_set_ne hid, fun _ _ => rfl⟩, ?_⟩)
  rw [Dict.get?_set_self]
  exact .timedOut hw

theorem moves_awake {late : Nat → Prop} (hs : Inv s) {k : Nat} {c : SendCall} (h : s.calls[k]? = some c)
    (hw : c.phase = .waiting) : Moves s (s.awake k c) late := by
  have hslot := hs.slots k c h
  simp only [SlotOk, hw] at hslot
  simp only [awake, hslot.1]
  refine moves_drop h (.inr hw) (by simp) fun r hr => ?_
  simp only [CallExit.result] at hr
  split at hr
  · exact hr
  · cases hr

/-- A response to a call that is known: accepted, dropped, or the last of a call that timed out. -/
theorem moves_handleResponse {late : Nat → Prop} (hs : Inv s) {response : SchedulerResponse} {now : Int}
    (hlate : ∀ k c, s.calls[k]? = some c → c.requestId = response.requestId → c.phase = .returned .timedOut →
      s.cleanupDelay < now - c.requestTimestamp → late k) :
    Moves s (s.handleResponse response now) late := by
  unfold handleResponse
  split
  · rename_i hnone
    by_cases hknown : ∃ (k : Nat) (c : SendCall), s.calls[k]? = some c ∧ c.requestId = response.requestId
    · obtain ⟨k, c, hk, hid⟩ := hknown
      refine .inr (.inr ⟨k, c, c, ⟨hk, (modify_self hk).symm, rfl, fun _ _ => rfl,
        fun _ hne => Dict.get?_erase_ne (hid ▸ hne)⟩, ?_⟩)
      rw [hid, Dict.get?_erase_self]
      exact .dropped (.inr hnone)
    · -- A response that nobody asked for finds nothing to erase.
      have hforgot := hs.known response.requestId fun c hc hid => hknown (by
        obtain ⟨k, hk⟩ := List.getElem?_of_mem hc
        exact ⟨k, c, hk, hid⟩)
      refine .inl ⟨rfl, fun _ => rfl, fun id => ?_⟩
      rw [Dict.get?_erase]
      split
      · rename_i hid
        rw [hid, hforgot.2]
      · rfl
  · rename_i info hinfo
    obtain ⟨k, c, hk, hid⟩ := hs.call_of_info hinfo
    have hslot := hs.slots k c hk
    rw [hid, hinfo] at hslot
    have hsame := (modify_self hk).symm
    rcases slotOk_some hslot with ⟨hopen, rfl⟩ | ⟨htimed, rfl⟩
    · have hset : s.isSet k = c.eventSet := by simp [isSet, hk]
      simp only [hset]
      split
      · rename_i hev
        refine .inr (.inr ⟨k, c, c, ⟨hk, hsame, rfl, fun _ _ => rfl, fun _ hne => Dict.get?_erase_ne (hid ▸ hne)⟩, ?_⟩)
        rw [hid, Dict.get?_erase_self]
        exact .dropped (.inl hev)
      · refine .inr (.inr ⟨k, c, { c with eventSet := true },
          ⟨hk, ?_, rfl, fun _ _ => rfl, fun _ hne => Dict.get?_set_ne (hid ▸ hne)⟩, ?_⟩)
        · exact modify_eq_const hk _
        · have hresp : (s.pendingResponses.set response.requestId response).get? c.requestId = some response := by
            rw [hid, Dict.get?_set_self]
          rw [hresp]
          exact .accepted response hopen hid.symm
    · simp only
      split
      · rename_i hdelay
        refine .inr (.inr ⟨k, c, c, ⟨hk, hsame, rfl, fun _ hne => Dict.get?_erase_ne (hid ▸ hne),
          fun _ hne => Dict.get?_erase_ne (hid ▸ hne)⟩, ?_⟩)
        have hreq : (s.dropPending response.requestId).pendingRequests.get? c.requestId = none := by
          rw [hid]
          exact Dict.get?_erase_self _ _
        have hresp : (s.dropPending response.requestId).pendingResponses.get? c.requestId = none := by
          rw [hid]
          exact Dict.get?_erase_self _ _
        rw [hreq, hresp]
        exact .late (hlate k c hk hid htimed hdelay)
      · exact .inl (.rfl_of rfl rfl rfl)

theorem handleResponse_inFlight (s : SchedulerTransport) (inFlight : List (List Bytes)) (response : SchedulerResponse)
    (now : Int) :
    { s with inFlight }.handleResponse response now = { s.handleResponse response now with inFlight } := by
  unfold handleResponse
  cases hinfo : s.pendingRequests.get? response.requestId with
  | none => rfl
  | some info =>
      obtain ⟨event, timestamp⟩ := info
      cases event with
      | none =>
          by_cases hdelay : now - timestamp > s.timeout * 2
          · simp [cleanupDelay, hdelay, dropPending]
          · simp [cleanupDelay, hdelay]
      | some k =>
          by_cases hset : s.isSet k = true
          · simp only [isSet] at hset
            simp [isSet, hset]
          · simp only [isSet] at hset
            simp [isSet, hset]

theorem Moves.congr {late : Nat → Prop} {t : SchedulerTransport} (h : Moves s s' late) (hcalls : t.calls = s'.calls)
    (hreq : t.pendingRequests = s'.pendingRequests) (hresp : t.pendingResponses = s'.pendingResponses) :
    Moves s t late := by
  rcases h with h | ⟨c, h⟩ | ⟨k, c, c', h, hchange⟩
  · refine .inl ⟨hcalls.trans h.calls, fun id => ?_, fun id => ?_⟩
    · rw [hreq, h.requests]
    · rw [hresp, h.responses]
  · refine .inr (.inl ⟨c, h.fresh, hcalls.trans h.calls, fun id hid => ?_, fun id => ?_, ?_⟩)
    · rw [hreq, h.requests id hid]
    · rw [hresp, h.responses]
    · rw [hreq]
      exact h.slot
  · refine .inr (.inr ⟨k, c, c', ⟨h.call, hcalls.trans h.calls, h.id_eq, fun id hid => ?_, fun id hid => ?_⟩, ?_⟩)
    · rw [hreq, h.requests id hid]
    · rw [hresp, h.responses id hid]
    · rw [hreq, hresp]
      exact hchange

theorem step_moves (hs : Inv s) {e : TransportEvent} (hfresh : s.FreshId e) :
    Moves s (s.step e) fun k => s.LateAnswer k e := by
  cases e with
  | connect outcome =>
      refine .inl ?_
      simp only [step, connect]
      split
      · exact .rfl_of rfl rfl rfl
      · split
        · exact .rfl_of rfl rfl rfl
        · cases outcome <;> exact .rfl_of rfl rfl rfl
  | connectCancelled => exact .inl (.rfl_of rfl rfl rfl)
  | disconnect => exact .inl (.rfl_of rfl rfl rfl)
  | closeConnection =>
      refine .inl ?_
      simp only [step, closeConnection]
      split <;> exact .rfl_of rfl rfl rfl
  | sendRequest id now => exact moves_sendRequest hfresh
  | requestSent k =>
      refine moves_withCall fun c hc hadm => .inr (.inr ⟨k, c, _, update_setPhase hc _, ?_⟩)
      exact .sent (SendCall.isSending_iff.1 hadm)
  | sendRaised k =>
      refine moves_withCall fun c hc hadm => moves_drop hc (.inl (SendCall.isSending_iff.1 hadm)) (by simp) ?_
      simp [CallExit.result]
  | wake k =>
      refine moves_withCall fun c hc hadm => moves_awake hs hc ?_
      rw [Bool.and_eq_true] at hadm
      exact SendCall.isWaiting_iff.1 hadm.1
  | timeout k => exact moves_withCall fun c hc hadm => moves_timedOut hs hc (SendCall.isWaiting_iff.1 hadm)
  | cancel k =>
      refine moves_withCall fun c hc hadm => moves_drop hc ?_ (by simp) (by simp [CallExit.result])
      rw [Bool.or_eq_true, SendCall.isSending_iff, SendCall.isWaiting_iff] at hadm
      exact hadm
  | answer parts => exact .inl (.rfl_of rfl rfl rfl)
  | lose message => exact .inl (.rfl_of rfl rfl rfl)
  | startLoop =>
      refine .inl ?_
      simp only [step]
      split <;> exact .rfl_of rfl rfl rfl
  | receive message now =>
      simp only [step]
      split
      · rename_i parts hparts
        split
        · rename_i hrun
          unfold receive
          split
          · exact .inl (.rfl_of rfl rfl rfl)
          · rename_i hlen
            split
            · rename_i response hdec
              -- The message has left the network; the tables are those of `s`.
              have hmoves : Moves s (s.handleResponse response now) fun k => s.LateAnswer k (.receive message now) := by
                refine moves_handleResponse hs fun k c hk hid htimed hdelay => ?_
                exact ⟨hrun, parts, c, hparts, hk, htimed, ⟨by omega, response, hdec, hid.symm⟩, hdelay⟩
              rw [handleResponse_inFlight]
              exact hmoves.congr rfl rfl rfl
            · exact .inl (.rfl_of rfl rfl rfl)
        · exact .inl (.rfl_of rfl rfl rfl)
      · exact .inl (.rfl_of rfl rfl rfl)

/-! ## Runs -/

theorem Moves.inv {late : Nat → Prop} (h : Moves s s' late) (hs : Inv s)
    (hlate : ∀ k c, late k → s.calls[k]? = some c → c.phase = .returned .timedOut) : Inv s' := by
  rcases h with h | ⟨c, h⟩ | ⟨k, c, c', h, hchange⟩
  · exact h.inv hs
  · exact h.inv hs
  · have hown := hs.own c.requestId
    exact h.inv hs (hchange.own hown) (hchange.slotOk (fun hl => hlate k c hl h.call) (hs.slots k c h.call) hown)

theorem LateAnswer.phase {k : Nat} {c : SendCall} {e : TransportEvent} (h : s.LateAnswer k e)
    (hc : s.calls[k]? = some c) : c.phase = .returned .timedOut := by
  cases e with
  | receive message now =>
      obtain ⟨-, parts, d, -, hd, hphase, -⟩ := h
      obtain rfl : c = d := by simpa [hc] using hd
      exact hphase
  | _ => exact h.elim

theorem inv_step (hs : Inv s) {e : TransportEvent} (hfresh : s.FreshId e) : Inv (s.step e) :=
  (step_moves hs hfresh).inv hs fun _ _ hl hc => hl.phase hc

def start (serializer : Serializer) (timeout : Int) : SchedulerTransport := { serializer, timeout }

theorem inv_start (serializer : Serializer) (timeout : Int) : Inv (start serializer timeout) where
  ids := List.nodup_nil
  slots k c hc := by simp [start] at hc
  own id r hr := by simp [start] at hr
  known id _ := ⟨rfl, rfl⟩

theorem inv_run {es : List TransportEvent} (hs : Inv s) (hes : Along step FreshId s es) : Inv (run step s es) :=
  run_invariant (I := Inv) (fun _ _ hs hok => inv_step hs hok) hs hes

theorem Change.returned {late : Prop} {c c' : SendCall} {info info' : Option PendingInfo}
    {response response' : Option SchedulerResponse} {exit : CallExit}
    (h : Change late c info response c' info' response') (hc : c.phase = .returned exit) :
    c' = c ∧ (info' = info ∧ response' = none ∨ late ∧ info' = none ∧ response' = none) := by
  cases h with
  | sent hp => simp [hc] at hp
  | ended _ hopen _ _ => rcases hopen with hp | hp <;> simp [hc] at hp
  | timedOut hp => simp [hc] at hp
  | accepted _ hopen _ => rcases hopen with hp | hp <;> simp [hc] at hp
  | dropped _ => exact ⟨rfl, .inl ⟨rfl, rfl⟩⟩
  | late hl => exact ⟨rfl, .inr ⟨hl, rfl, rfl⟩⟩

theorem Moves.returned {late : Nat → Prop} (h : Moves s s' late) {k : Nat} {c : SendCall} {exit : CallExit}
    (hk : s.calls[k]? = some c) (hc : c.phase = .returned exit) : s'.calls[k]? = some c := by
  rcases h with h | ⟨d, h⟩ | ⟨j, d, d', h, hchange⟩
  · rw [h.calls, hk]
  · rw [h.calls, List.getElem?_append_left (List.getElem?_eq_some_iff.1 hk).1, hk]
  · rw [h.calls, getElem?_modify_const h.call]
    split
    · rename_i hj
      subst hj
      obtain rfl : c = d := by simpa [hk] using h.call
      rw [(hchange.returned hc).1]
    · exact hk

theorem returned_run {es : List TransportEvent} (hs : Inv s) (hes : Along step FreshId s es) {k : Nat} {c : SendCall}
    {exit : CallExit} (hk : s.calls[k]? = some c) (hc : c.phase = .returned exit) :
    (run step s es).calls[k]? = some c := by
  induction es generalizing s with
  | nil => exact hk
  | cons e es ih => exact ih (inv_step hs hes.1) hes.2 ((step_moves hs hes.1).returned hk hc)

theorem Change.timesOut {late : Prop} {c c' : SendCall} {info info' : Option PendingInfo}
    {response response' : Option SchedulerResponse} (h : Change late c info response c' info' response')
    (hc : c'.phase = .returned .timedOut) : c' = c ∨ c.Open ∧ info' ≠ none := by
  cases h with
  | sent _ => simp at hc
  | ended exit _ hne _ => exact absurd (by simpa using hc) hne
  | timedOut hw => exact .inr ⟨.inr hw, by simp⟩
  | accepted r hopen _ => rcases hopen with hp | hp <;> simp [hp] at hc
  | dropped _ => exact .inl rfl
  | late _ => exact .inl rfl

theorem Moves.timesOut {late : Nat → Prop} (h : Moves s s' late) {k : Nat} {c : SendCall}
    (hk : s'.calls[k]? = some c) (hc : c.phase = .returned .timedOut) :
    s.calls[k]? = some c ∨
      (∃ d, s.calls[k]? = some d ∧ d.Open) ∧ s'.pendingRequests.get? c.requestId ≠ none := by
  rcases h with h | ⟨d, h⟩ | ⟨j, d, d', h, hchange⟩
  · exact .inl (h.calls ▸ hk)
  · rw [h.calls, List.getElem?_append] at hk
    split at hk
    · exact .inl hk
    · obtain rfl : d = c := by
        exact (List.mem_singleton.1 (List.mem_of_getElem? hk)).symm
      rcases h.slot with ⟨hphase, -⟩ | ⟨hphase, -⟩ <;> simp [hc] at hphase
  · rw [h.calls, getElem?_modify_const h.call] at hk
    split at hk
    · rename_i hj
      subst hj
      obtain rfl : d' = c := by simpa using hk
      rcases hchange.timesOut hc with heq | ⟨hopen, hinfo⟩
      · exact .inl (heq ▸ h.call)
      · rw [h.id_eq]
        exact .inr ⟨⟨d, h.call, hopen⟩, hinfo⟩
    · exact .inl hk

/-- The entries of a returned call go with a late answer, and never come back. -/
theorem Moves.forgotten {late : Nat → Prop} (h : Moves s s' late) (hs : Inv s) {k : Nat} {c : SendCall}
    {exit : CallExit} (hk : s.calls[k]? = some c) (hc : c.phase = .returned exit) :
    (s.Forgotten c.requestId → s'.Forgotten c.requestId) ∧
      (s'.pendingRequests.get? c.requestId = none → s.pendingRequests.get? c.requestId = none ∨ late k) := by
  rcases h with h | ⟨d, h⟩ | ⟨j, d, d', h, hchange⟩
  · unfold Forgotten
    rw [h.requests, h.responses]
    exact ⟨id, .inl⟩
  · have hne : c.requestId ≠ d.requestId := h.fresh c (List.mem_of_getElem? hk)
    unfold Forgotten
    rw [h.requests _ hne, h.responses]
    exact ⟨id, .inl⟩
  · by_cases hid : c.requestId = d.requestId
    · obtain rfl := hs.call_eq hk h.call hid
      obtain rfl : c = d := by simpa [hk] using h.call
      unfold Forgotten
      rcases (hchange.returned hc).2 with ⟨hinfo, hresp⟩ | ⟨hl, hinfo, hresp⟩
      · rw [hinfo, hresp]
        exact ⟨fun hforgot => ⟨hforgot.1, rfl⟩, .inl⟩
      · rw [hinfo, hresp]
        exact ⟨fun _ => ⟨rfl, rfl⟩, fun _ => .inr hl⟩
    · unfold Forgotten
      rw [h.requests _ hid, h.responses _ hid]
      exact ⟨id, .inl⟩

theorem forgotten_of_late (hs : Inv s) {k : Nat} {c : SendCall} {e : TransportEvent} (hk : s.calls[k]? = some c)
    (hl : s.LateAnswer k e) : (s.step e).Forgotten c.requestId := by
  have hphase := hl.phase hk
  cases e with
  | receive message now =>
      obtain ⟨hrun, parts, d, hparts, hd, -, ⟨hlen, response, hdec, hid⟩, hdelay⟩ := hl
      obtain rfl : c = d := by simpa [hk] using hd
      have hshort : ¬ parts.length < 2 := by omega
      have hdec' : { s with inFlight := s.inFlight.eraseIdx message }.decode parts = some response := hdec
      simp only [step, hparts, if_pos hrun, receive, if_neg hshort, hdec', handleResponse_inFlight]
      have hslot := hs.slots k c hk
      simp only [SlotOk, hphase] at hslot
      rcases hslot with hinfo | ⟨hinfo, -⟩
      · rw [← hid] at hinfo ⊢
        have hdelay' : now - c.requestTimestamp > s.cleanupDelay := hdelay
        simp only [handleResponse, hinfo, if_pos hdelay']
        exact ⟨Dict.get?_erase_self _ _, Dict.get?_erase_self _ _⟩
      · rw [← hid] at hinfo ⊢
        simp only [handleResponse, hinfo]
        exact ⟨hinfo, Dict.get?_erase_self _ _⟩
  | _ => exact hl.elim

theorem answeredLate_snoc {es : List TransportEvent} {e : TransportEvent} {k : Nat} :
    AnsweredLate s (es ++ [e]) k ↔ AnsweredLate s es k ∨ (run step s es).LateAnswer k e := by
  constructor
  · rintro ⟨es₁, e', es₂, heq, hl⟩
    rcases List.eq_nil_or_concat es₂ with rfl | ⟨es₃, e'', rfl⟩
    · obtain ⟨rfl, he⟩ := List.append_inj' heq rfl
      cases he
      exact .inr hl
    · refine .inl ⟨es₁, e', es₃, ?_, hl⟩
      rw [List.concat_eq_append, ← List.cons_append, ← List.append_assoc] at heq
      exact (List.append_inj' heq rfl).1
  · rintro (⟨es₁, e', es₂, rfl, hl⟩ | hl)
    · exact ⟨es₁, e', es₂ ++ [e], by simp, hl⟩
    · exact ⟨es, e, [], rfl, hl⟩

theorem timedOut_of_answeredLate {es : List TransportEvent} (hs : Inv s) (hes : Along step FreshId s es) {k : Nat}
    (h : AnsweredLate s es k) : ∃ c, (run step s es).calls[k]? = some c ∧ c.phase = .returned .timedOut := by
  obtain ⟨es₁, e, es₂, rfl, hl⟩ := h
  rw [along_append] at hes
  have hinv := inv_run hs hes.1
  cases e with
  | receive message now =>
      obtain ⟨-, parts, c, -, hc, hphase, -⟩ := hl
      refine ⟨c, ?_, hphase⟩
      rw [run_append]
      exact returned_run hinv hes.2 hc hphase
  | _ => exact hl.elim

/-- The entry of a call that timed out goes exactly with a late answer. -/
theorem forgotten_iff_answeredLate {es : List TransportEvent} (hs : Inv s) (hnone : s.calls = [])
    (hes : Along step FreshId s es) {k : Nat} {c : SendCall} (hk : (run step s es).calls[k]? = some c)
    (hc : c.phase = .returned .timedOut) :
    (run step s es).Forgotten c.requestId ↔ AnsweredLate s es k := by
  induction es using List.reverseRecOn generalizing c with
  | nil => simp [hnone] at hk
  | append_singleton es e ih =>
      rw [along_append] at hes
      have hinv := inv_run hs hes.1
      have hmoves := step_moves hinv hes.2.1
      rw [run_append] at hk ⊢
      rw [answeredLate_snoc]
      change ((run step s es).step e).calls[k]? = some c at hk
      change ((run step s es).step e).Forgotten c.requestId ↔ _
      rcases hmoves.timesOut hk hc with hbefore | ⟨⟨d, hd, hopen⟩, hinfo⟩
      · obtain ⟨hkeep, hgone⟩ := hmoves.forgotten hinv hbefore hc
        rw [← ih hes.1 hbefore hc]
        constructor
        · intro hforgot
          rcases hgone hforgot.1 with hinfo | hl
          · have hslot := hinv.slots k c hbefore
            simp only [SlotOk, hc, hinfo] at hslot
            exact .inl ⟨hinfo, (hslot.resolve_left (by simp)).2⟩
          · exact .inr hl
        · rintro (hforgot | hl)
          · exact hkeep hforgot
          · exact forgotten_of_late hinv hbefore hl
      · -- The call times out in this step, so no answer found it timed out before.
        refine iff_of_false (fun hforgot => hinfo hforgot.1) ?_
        rintro (hlate | hl)
        · obtain ⟨d', hd', hphase⟩ := timedOut_of_answeredLate hs hes.1 hlate
          obtain rfl : d = d' := by simpa [hd] using hd'
          rcases hopen with hp | hp <;> simp [hphase] at hp
        · have hphase := hl.phase hd
          rcases hopen with hp | hp <;> simp [hphase] at hp

/-! ## Results -/

theorem Inv.result (h : Inv s) {c : SendCall} (hc : c ∈ s.calls) {r : SchedulerResponse} (hr : c.result = some r) :
    r.requestId = c.requestId := by
  obtain ⟨k, hk⟩ := List.getElem?_of_mem hc
  have hslot := h.slots k c hk
  cases hphase : c.phase with
  | sending => simp [SendCall.result, hphase] at hr
  | waiting => simp [SendCall.result, hphase] at hr
  | returned exit =>
      simp only [SendCall.result, hphase] at hr
      cases exit with
      | done response =>
          simp only [SlotOk, hphase] at hslot
          exact hslot.2.2 r hr
      | _ => simp [CallExit.result] at hr

theorem returnedIds_sublist {cs : List SendCall} (h : ∀ c ∈ cs, ∀ r, c.result = some r → r.requestId = c.requestId) :
    ((cs.filterMap SendCall.result).map SchedulerResponse.requestId).Sublist (cs.map SendCall.requestId) := by
  induction cs with
  | nil => simp
  | cons c cs ih =>
      have hrest := ih fun d hd => h d (List.mem_cons_of_mem c hd)
      cases hres : c.result with
      | none =>
          rw [List.filterMap_cons_none hres]
          exact hrest.trans (List.sublist_cons_self _ _)
      | some r =>
          rw [List.filterMap_cons_some hres, List.map_cons, List.map_cons, h c (List.mem_cons_self ..) r hres]
          exact hrest.cons_cons _

/-! ## The connection -/

/-- The socket and the loop of a connected transport; a stop comes with the end of the loop. -/
structure LinkInv (s : SchedulerTransport) : Prop where
  served : s.Served
  open_socket : s.connected = true → s.socket = true
  not_stopped : s.LoopRuns → s.stopEvent = false ∧ s.connected = true
  closing_stopped : 0 < s.closing → s.stopEvent = true

/-- The part of the state that belongs to the connection. -/
structure SameLink (s s' : SchedulerTransport) : Prop where
  socket : s'.socket = s.socket
  connected : s'.connected = s.connected
  stopEvent : s'.stopEvent = s.stopEvent
  closing : s'.closing = s.closing
  receiveTask : s'.receiveTask = s.receiveTask

theorem LinkInv.of_same (hs : LinkInv s) (h : SameLink s s') : LinkInv s' where
  served := by
    unfold Served LoopRuns
    rw [h.closing, h.connected, h.receiveTask]
    exact hs.served
  open_socket := by
    rw [h.connected, h.socket]
    exact hs.open_socket
  not_stopped := by
    unfold LoopRuns
    rw [h.connected, h.stopEvent, h.receiveTask]
    exact hs.not_stopped
  closing_stopped := by
    rw [h.closing, h.stopEvent]
    exact hs.closing_stopped

theorem LinkInv.goesOn (h : LinkInv s) (hrun : s.LoopRuns) : s.goesOn = true := by
  obtain ⟨hstop, hconn⟩ := h.not_stopped hrun
  simp [SchedulerTransport.goesOn, hstop, hconn, h.open_socket hconn]

theorem LinkInv.nextIteration (h : LinkInv s) (hrun : s.LoopRuns) : LinkInv s.nextIteration where
  served := fun _ _ => .inr (by rw [SchedulerTransport.nextIteration, if_pos (h.goesOn hrun)])
  open_socket := h.open_socket
  not_stopped := fun _ => h.not_stopped hrun
  closing_stopped := h.closing_stopped

theorem sameLink_handleResponse (s : SchedulerTransport) (response : SchedulerResponse) (now : Int) :
    SameLink s (s.handleResponse response now) := by
  unfold handleResponse
  split
  · exact ⟨rfl, rfl, rfl, rfl, rfl⟩
  · split
    · split <;> exact ⟨rfl, rfl, rfl, rfl, rfl⟩
    · split <;> exact ⟨rfl, rfl, rfl, rfl, rfl⟩

theorem sameLink_withCall {k : Nat} {admits : SendCall → Bool} {f : SendCall → SchedulerTransport}
    (h : ∀ c, SameLink s (f c)) : SameLink s (s.withCall k admits f) := by
  unfold withCall
  split
  · split
    · exact h _
    · exact ⟨rfl, rfl, rfl, rfl, rfl⟩
  · exact ⟨rfl, rfl, rfl, rfl, rfl⟩

theorem linkInv_connect (hs : LinkInv s) (hstop : s.stopEvent = false) (outcome : ConnectOutcome) :
    LinkInv (s.connect outcome) := by
  unfold connect
  split
  · exact hs
  · split
    · exact hs
    · rename_i hconn
      cases outcome with
      | ok =>
          exact ⟨fun _ _ => .inl rfl, fun _ => rfl, fun _ => ⟨hstop, rfl⟩, hs.closing_stopped⟩
      | raised socket =>
          exact ⟨fun _ h => absurd h hconn, fun h => absurd h hconn, fun h => absurd (hs.not_stopped h).2 hconn,
            hs.closing_stopped⟩

theorem linkInv_closeConnection (hs : LinkInv s) : LinkInv s.closeConnection := by
  unfold closeConnection
  split
  · exact hs
  · rename_i hclosing
    have hstop : s.stopEvent = true := hs.closing_stopped (by omega)
    refine ⟨fun _ h => by simp at h, fun h => by simp at h, fun h => ?_, fun _ => hstop⟩
    have hrun : s.LoopRuns := h
    rw [(hs.not_stopped hrun).1] at hstop
    cases hstop

theorem linkInv_receive (hs : LinkInv s) (hrun : s.receiveTask = .running) {parts : List Bytes} {now : Int}
    (hdec : 2 ≤ parts.length → (s.decode parts).isSome) : LinkInv (s.receive parts now) := by
  unfold receive
  split
  · exact hs.nextIteration (.inr hrun)
  · rename_i hlen
    obtain ⟨response, hresponse⟩ := Option.isSome_iff_exists.1 (hdec (by omega))
    have hlink := sameLink_handleResponse s response now
    simp only [hresponse]
    exact (hs.of_same hlink).nextIteration (.inr (hlink.receiveTask.trans hrun))

theorem linkInv_step (hs : LinkInv s) {e : TransportEvent} (hok : s.Sound e) : LinkInv (s.step e) := by
  cases e with
  | connect outcome => exact linkInv_connect hs hok outcome
  | disconnect =>
      refine ⟨fun h => by simp [step, disconnect] at h, hs.open_socket, fun h => ?_, fun _ => rfl⟩
      simp [step, disconnect, LoopRuns] at h
  | closeConnection => exact linkInv_closeConnection hs
  | sendRequest id now =>
      refine hs.of_same ?_
      simp only [step, sendRequest]
      split <;> exact ⟨rfl, rfl, rfl, rfl, rfl⟩
  | requestSent k => exact hs.of_same (sameLink_withCall fun _ => ⟨rfl, rfl, rfl, rfl, rfl⟩)
  | sendRaised k => exact hs.of_same (sameLink_withCall fun _ => ⟨rfl, rfl, rfl, rfl, rfl⟩)
  | wake k =>
      refine hs.of_same (sameLink_withCall fun c => ?_)
      unfold awake
      split <;> exact ⟨rfl, rfl, rfl, rfl, rfl⟩
  | timeout k =>
      refine hs.of_same (sameLink_withCall fun c => ?_)
      unfold timedOut
      simp only
      split <;> exact ⟨rfl, rfl, rfl, rfl, rfl⟩
  | cancel k => exact hs.of_same (sameLink_withCall fun _ => ⟨rfl, rfl, rfl, rfl, rfl⟩)
  | startLoop =>
      simp only [step]
      split
      · rename_i hcreated
        exact hs.nextIteration (.inl hcreated)
      · exact hs
  | receive message now =>
      simp only [step]
      split
      · rename_i parts hparts
        split
        · rename_i hrun
          have hlink : LinkInv { s with inFlight := s.inFlight.eraseIdx message } :=
            hs.of_same ⟨rfl, rfl, rfl, rfl, rfl⟩
          exact linkInv_receive hlink hrun fun hlen => hok parts hparts hrun hlen
        · exact hs
      · exact hs
  | connectCancelled => exact hs.of_same ⟨rfl, rfl, rfl, rfl, rfl⟩
  | answer parts => exact hs.of_same ⟨rfl, rfl, rfl, rfl, rfl⟩
  | lose message => exact hs.of_same ⟨rfl, rfl, rfl, rfl, rfl⟩

theorem linkInv_start (serializer : Serializer) (timeout : Int) : LinkInv (start serializer timeout) where
  served := fun _ h => by simp [start] at h
  open_socket := fun h => by simp [start] at h
  not_stopped := fun h => by simp [start, LoopRuns] at h
  closing_stopped := fun h => by simp [start] at h

end SchedulerTransport

end PyMotor.Zmq
