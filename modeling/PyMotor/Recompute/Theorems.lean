import Mathlib.Tactic.Linarith
import PyMotor.Recompute.Lemmas.Retry

/-!
# The ledger of the recomputes
-/

namespace PyMotor.Recompute

open Lib

variable {codec : JsonCodec} {reqData₀ reqData sent : JsonObj} {legs : List (List JsonObj)}

theorem get?_copyReqDataForEngine (k : String) :
    (copyReqDataForEngine reqData).get? k = if k ∈ coordinatorOnlyReqKeys then none else reqData.get? k := by
  unfold copyReqDataForEngine
  split
  · have h := JsonObj.get?_filter reqData (fun key => key ∉ coordinatorOnlyReqKeys) k
    simp only [decide_not] at h ⊢
    rw [h]
    by_cases hk : k ∈ coordinatorOnlyReqKeys <;> simp [hk]
  · rename_i hnone
    split
    · rename_i hk
      have hcontains : reqData.contains k = false := by
        by_contra hne
        exact hnone (List.any_eq_true.mpr ⟨k, hk, by simpa using hne⟩)
      rw [JsonObj.contains_eq] at hcontains
      simpa using hcontains
    · rfl

theorem retryMaxTokens_number {origin m : Json} {cumulative : Int} (h : retryMaxTokens origin cumulative = .ok m) :
    ∃ q, origin.number? = some q ∧ m.number? = some (max 1 (q - cumulative + 1)) := by
  obtain ⟨raw, hraw, h⟩ := bind_eq_ok.mp h
  obtain ⟨raw', hraw', h⟩ := bind_eq_ok.mp h
  cases h
  cases origin with
  | bool b =>
      cases hraw
      cases hraw'
      refine ⟨_, rfl, ?_⟩
      simp only [Json.maxOne, Json.number?]
      push_cast
      rw [sub_eq_add_neg]
  | int n =>
      cases hraw
      cases hraw'
      refine ⟨_, rfl, ?_⟩
      simp only [Json.maxOne, Json.number?]
      push_cast
      rw [sub_eq_add_neg]
  | float q =>
      cases hraw
      cases hraw'
      refine ⟨_, rfl, ?_⟩
      simp only [Json.maxOne]
      split
      · rename_i hlt
        simp only [Json.number?]
        push_cast at hlt ⊢
        rw [max_eq_right (by linarith), sub_eq_add_neg]
      · rename_i hle
        simp only [Json.number?]
        push_cast at hle ⊢
        rw [max_eq_left (by linarith)]
  | _ => cases hraw

/-- What the request holds after some rounds. -/
structure Ledger (reqData₀ : JsonObj) (legs : List (List JsonObj)) (reqData : JsonObj) : Prop where
  cumulative : reqData.get? "_cumulative_completion_tokens" =
    some (.int (storedCumulative reqData₀ + (outputs legs).length))
  prompt : ∃ ids, legs.head?.bind legPromptIds = some ids ∧ reqData.get? "prompt" = some (.arr (ids ++ outputs legs))
  origin : reqData.get? "_origin_max_tokens" = some (originMaxTokens reqData₀)
  maxTokens : ∃ m, reqData.get? "max_tokens" = some m ∧
    retryMaxTokens (originMaxTokens reqData₀) (storedCumulative reqData₀ + (outputs legs).length) = .ok m

theorem Ledger.stored (h : Ledger reqData₀ legs reqData) :
    storedCumulative reqData = storedCumulative reqData₀ + (outputs legs).length := by
  unfold storedCumulative
  rw [h.cumulative]
  rfl

theorem Ledger.originMaxTokens (h : Ledger reqData₀ legs reqData) :
    originMaxTokens reqData = originMaxTokens reqData₀ := by
  conv_lhs => unfold Recompute.originMaxTokens
  rw [h.origin]
  rfl

theorem Rewritten.ledger {chunks : List JsonObj} {ids : List Json} {m : Json} {reqData' : JsonObj}
    (h : Rewritten sent chunks ids m reqData')
    (hstored : storedCumulative sent = storedCumulative reqData₀ + (outputs legs).length)
    (horigin : Recompute.originMaxTokens sent = Recompute.originMaxTokens reqData₀)
    (hprompt : ∃ ids₀, (legs ++ [chunks]).head?.bind legPromptIds = some ids₀ ∧ ids = ids₀ ++ outputs legs) :
    Ledger reqData₀ (legs ++ [chunks]) reqData' := by
  have houts : outputs (legs ++ [chunks]) = outputs legs ++ legOutput chunks := by simp [outputs]
  have hlen : storedCumulative reqData₀ + ((outputs (legs ++ [chunks])).length : Int) =
      storedCumulative sent + (legOutput chunks).length := by
    rw [hstored, houts, List.length_append]
    omega
  obtain ⟨ids₀, hids₀, rfl⟩ := hprompt
  constructor
  · rw [hlen]
    exact h.cumulative
  · refine ⟨ids₀, hids₀, ?_⟩
    rw [houts, ← List.append_assoc]
    exact h.prompt
  · rw [← horigin]
    exact h.origin
  · refine ⟨m, h.maxTokens, ?_⟩
    rw [hlen, ← horigin]
    exact h.budget

theorem Rounds.ledger (h : Rounds codec reqData₀ legs reqData) (hne : legs ≠ []) : Ledger reqData₀ legs reqData := by
  induction h with
  | start => exact absurd rfl hne
  | @round legs reqData sent reqData' chunks before edit echo ok ih =>
      obtain ⟨ids, m, hr⟩ := recomputeRound_ok ok
      cases legs with
      | nil =>
          -- The first round starts from the request of the client.
          obtain rfl : reqData = reqData₀ := by
            generalize hlegs : ([] : List (List JsonObj)) = legs at before
            cases before with
            | start => rfl
            | round => simp at hlegs
          refine hr.ledger ?_ edit.originMaxTokens ⟨ids, hr.promptIds, by simp [outputs]⟩
          rw [edit.stored]
          simp [outputs]
      | cons leg legs =>
          have hl := ih (by simp)
          obtain ⟨ids₀, hids₀, hprompt⟩ := hl.prompt
          refine hr.ledger (edit.stored.trans hl.stored) (edit.originMaxTokens.trans hl.originMaxTokens) ⟨ids₀, hids₀, ?_⟩
          have hecho := echo (by simp) _ ((edit _ (by decide) (by decide)).trans hprompt)
          rw [hr.promptIds] at hecho
          exact Option.some.inj hecho

theorem Ledger.nonIncreasing (h : Ledger reqData₀ legs reqData) {chunks : List JsonObj} {reqData' : JsonObj}
    (edit : DecodeEdit reqData sent) (ok : recomputeRound codec sent chunks = .ok reqData') :
    ∃ m m', (reqData.get? "max_tokens").bind Json.number? = some m ∧
      (reqData'.get? "max_tokens").bind Json.number? = some m' ∧ m' ≤ m := by
  obtain ⟨ids, maxTokens', hr⟩ := recomputeRound_ok ok
  obtain ⟨maxTokens, hmax, hbudget⟩ := h.maxTokens
  obtain ⟨q, hq, hm⟩ := retryMaxTokens_number hbudget
  obtain ⟨q', hq', hm'⟩ := retryMaxTokens_number hr.budget
  rw [edit.originMaxTokens, h.originMaxTokens, hq] at hq'
  obtain rfl := Option.some.inj hq'
  refine ⟨_, _, by rw [hmax]; exact hm, by rw [hr.maxTokens]; exact hm', max_le_max le_rfl ?_⟩
  rw [edit.stored, h.stored]
  push_cast
  have hlen : (0 : ℚ) ≤ (legOutput chunks).length := Nat.cast_nonneg _
  linarith

/-- The ledger of the rounds is closed exactly when the client's request brings neither a count of its own nor an
original budget that differs from its `max_tokens`. -/
theorem ledgerClosed_iff (h : Rounds codec reqData₀ legs reqData) (hne : legs ≠ []) :
    LedgerClosed codec reqData₀ legs reqData ↔
      storedCumulative reqData₀ = 0 ∧
        ∀ v, reqData₀.get? "_origin_max_tokens" = some v → v = clientMaxTokens reqData₀ := by
  have hl := h.ledger hne
  have hsum : (legs.map fun chunks => (legOutput chunks).length).sum = (outputs legs).length := by
    simp [outputs, List.length_flatMap]
  constructor
  · intro hc
    constructor
    · have hcum := hc.cumulative
      rw [hl.cumulative, hsum] at hcum
      simpa using hcum
    · intro v hv
      have horigin := hc.origin
      rw [hl.origin] at horigin
      simpa [originMaxTokens, hv] using horigin
  · rintro ⟨hzero, horigin⟩
    have hclient : originMaxTokens reqData₀ = clientMaxTokens reqData₀ := by
      unfold originMaxTokens
      cases hv : reqData₀.get? "_origin_max_tokens" with
      | none => rfl
      | some v => exact horigin v hv
    obtain ⟨m, hm, hbudget⟩ := hl.maxTokens
    obtain ⟨q, hq, hnumber⟩ := retryMaxTokens_number hbudget
    refine ⟨?_, hl.prompt, ?_, ?_, ?_, get?_copyReqDataForEngine⟩
    · rw [hl.cumulative, hzero, hsum, zero_add]
    · rw [hl.origin, hclient]
    · refine ⟨q, max 1 (q - (outputs legs).length + 1), by rw [← hclient]; exact hq, ?_, rfl, le_max_left _ _⟩
      rw [hm]
      rw [hzero, zero_add] at hnumber
      simpa using hnumber
    · intro sent chunks reqData' edit _ ok
      exact hl.nonIncreasing edit ok

/-! A client that sends three tokens' worth of budget, and a leg of one token. -/

def threeTokens : JsonObj := [("prompt", .str "p"), ("max_tokens", .int 3)]

def oneTokenLeg : List JsonObj :=
  [[("prompt_token_ids", .arr [.int 1]), ("choices", .arr [.obj [("token_ids", .arr [.int 5])]])]]

def nullCodec : JsonCodec := { loads := fun _ => .ok none, compact := fun _ => [], dumps := fun _ => [] }

theorem rounds_one (reqData₀ : JsonObj) {reqData : JsonObj}
    (h : recomputeRound nullCodec reqData₀ oneTokenLeg = .ok reqData) : Rounds nullCodec reqData₀ [oneTokenLeg] reqData :=
  .round .start (fun _ _ _ => rfl) (fun hne => absurd rfl hne) h

theorem ledgerClosed_threeTokens :
    ∃ reqData, recomputeRound nullCodec threeTokens oneTokenLeg = .ok reqData ∧
      LedgerClosed nullCodec threeTokens [oneTokenLeg] reqData :=
  ⟨_, rfl, (ledgerClosed_iff (rounds_one threeTokens rfl) (by simp)).mpr
    ⟨rfl, fun v hv => (nomatch hv)⟩⟩

theorem not_ledgerClosed_ownCount :
    ¬ ∀ reqData₀ legs reqData, Rounds nullCodec reqData₀ legs reqData → legs ≠ [] →
      LedgerClosed nullCodec reqData₀ legs reqData := by
  intro h
  have hc := h (threeTokens.set "_cumulative_completion_tokens" (.int 5)) [oneTokenLeg] _ (rounds_one _ rfl) (by simp)
  have hcum : some (Json.int 6) = some (Json.int 1) := hc.cumulative
  simp at hcum

end PyMotor.Recompute
