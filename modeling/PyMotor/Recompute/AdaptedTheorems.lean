import PyMotor.Recompute.Lemmas.Adapted

/-!
# What becomes of an answer in chat chunks
-/

namespace PyMotor.Recompute

open Lib

variable {entryApi : String} {asked : Bool}

/-! ## The legs of a request -/

variable {legs : List CompletionLeg} {f g : CompletionLeg → List JsonObj}

theorem oneRole_nil : OneRole [] := ⟨fun first rest h => by cases h⟩

theorem roles_head_flatMap (h : ∀ leg ∈ legs, OneRole (f leg)) {first : JsonObj} {rest : List JsonObj}
    (hcons : legs.flatMap f = first :: rest) : roles first = 1 := by
  induction legs with
  | nil => cases hcons
  | cons leg legs ih =>
      rw [List.forall_mem_cons] at h
      rw [List.flatMap_cons] at hcons
      cases hleg : f leg with
      | nil =>
          rw [hleg] at hcons
          exact ih h.2 hcons
      | cons second others =>
          rw [hleg, List.cons_append] at hcons
          cases hcons
          exact (h.1.role _ _ hleg).1

theorem oneRole_flatMap (h : ∀ leg ∈ legs, OneRole (f leg)) :
    (OneRole (legs.flatMap f) ↔ (legs.filter fun leg => !(f leg).isEmpty).length ≤ 1) := by
  induction legs with
  | nil => exact ⟨fun _ => Nat.zero_le 1, fun _ => oneRole_nil⟩
  | cons leg legs ih =>
      rw [List.forall_mem_cons] at h
      rw [List.flatMap_cons]
      cases hleg : f leg with
      | nil =>
          rw [List.nil_append, ih h.2, List.filter_cons_of_neg (by simp [hleg])]
      | cons first rest =>
          rw [List.filter_cons_of_pos (by simp [hleg]), List.length_cons]
          have hnil : legs.flatMap f = [] ↔ (legs.filter fun leg => !(f leg).isEmpty) = [] := by
            simp [List.filter_eq_nil_iff]
          rw [hleg] at h
          constructor
          · intro hrole
            have htail : legs.flatMap f = [] := by
              by_contra hne
              obtain ⟨second, others, hcons⟩ := List.exists_cons_of_ne_nil hne
              rw [hcons, List.cons_append] at hrole
              have hzero := (hrole.role _ _ rfl).2 second (by simp)
              have hone := roles_head_flatMap h.2 hcons
              omega
            rw [hnil.mp htail]
            exact Nat.le_refl 1
          · intro hlength
            have htail : legs.flatMap f = [] := hnil.mpr (List.length_eq_zero_iff.mp (by omega))
            rw [htail, List.append_nil]
            exact h.1

theorem forall₂_append_iff {α β : Type} {R : α → β → Prop} {l₁ l₂ : List α} {r₁ r₂ : List β}
    (hlength : l₁.length = r₁.length) :
    List.Forall₂ R (l₁ ++ l₂) (r₁ ++ r₂) ↔ List.Forall₂ R l₁ r₁ ∧ List.Forall₂ R l₂ r₂ := by
  induction l₁ generalizing r₁ with
  | nil =>
      cases r₁ with
      | nil => simp
      | cons b r₁ => cases hlength
  | cons a l₁ ih =>
      cases r₁ with
      | nil => cases hlength
      | cons b r₁ =>
          rw [List.cons_append, List.cons_append, List.forall₂_cons, List.forall₂_cons, ih (Nat.succ.inj hlength),
            and_assoc]

theorem forall₂_flatMap_iff {R : JsonObj → JsonObj → Prop} (h : ∀ leg ∈ legs, (f leg).length = (g leg).length) :
    List.Forall₂ R (legs.flatMap f) (legs.flatMap g) ↔ ∀ leg ∈ legs, List.Forall₂ R (f leg) (g leg) := by
  induction legs with
  | nil => simp
  | cons leg legs ih =>
      rw [List.forall_mem_cons] at h ⊢
      rw [List.flatMap_cons, List.flatMap_cons, forall₂_append_iff h.1, ih h.2]

/-- A leg loses the texts of the further choices, and of the chunk that asks for a recompute. -/
theorem CompletionLeg.Valid.content_iff {leg : CompletionLeg} (h : leg.Valid asked) (hapi : isChatApi entryApi = true)
    (enabled : Bool) :
    ((leg.delivered entryApi enabled).flatMap chatContent).Sublist (leg.chunks.flatMap completionText) ∧
      ((leg.delivered entryApi enabled).flatMap chatContent = leg.chunks.flatMap completionText ↔
        (∀ chunk ∈ leg.shown, ∀ c ∈ (choicesOf chunk).tail, choiceText c = []) ∧
          ∀ chunk ∈ leg.signal.toList, completionText chunk = []) := by
  have hshown : (leg.shown.flatMap headText).Sublist (leg.shown.flatMap completionText) :=
    Sublist.flatMap fun chunk _ => headText_sublist chunk
  rw [(h.sends hapi enabled).content fun chunk hchunk => (h.shown chunk hchunk).1, CompletionLeg.chunks,
    List.flatMap_append]
  refine ⟨hshown.trans (List.sublist_append_left _ _), ?_⟩
  have hsplit := Sublist.append_eq_iff hshown (List.nil_sublist (leg.signal.toList.flatMap completionText))
  rw [List.append_nil] at hsplit
  rw [hsplit, Sublist.flatMap_eq_iff fun chunk _ => headText_sublist chunk, eq_comm, List.flatMap_eq_nil_iff]
  simp only [headText_eq_iff]

/-- What the client of a chat gets is the answer exactly where nothing is lost of the legs. -/
theorem preserves_iff (hlegs : ∀ leg ∈ legs, leg.Valid asked) (hapi : isChatApi entryApi = true) (enabled : Bool) :
    Preserves asked (legs.flatMap CompletionLeg.chunks) (legs.flatMap CompletionLeg.shown)
      (legs.flatMap fun leg => leg.delivered entryApi enabled) ↔ Preservable asked legs := by
  have hcontent : (legs.flatMap fun leg => leg.delivered entryApi enabled).flatMap chatContent =
      (legs.flatMap CompletionLeg.chunks).flatMap completionText ↔ ∀ leg ∈ legs,
        (∀ chunk ∈ leg.shown, ∀ c ∈ (choicesOf chunk).tail, choiceText c = []) ∧
          ∀ chunk ∈ leg.signal.toList, completionText chunk = [] := by
    rw [List.flatMap_assoc, List.flatMap_assoc,
      Sublist.flatMap_eq_iff fun leg hleg => ((hlegs leg hleg).content_iff hapi enabled).1]
    exact forall₂_congr fun leg hleg => ((hlegs leg hleg).content_iff hapi enabled).2
  have hchoices : List.Forall₂ (KeepsChunk asked) (legs.flatMap CompletionLeg.shown)
      (legs.flatMap fun leg => leg.delivered entryApi enabled) ↔ ∀ leg ∈ legs, ∀ chunk ∈ leg.shown,
        (∀ c ∈ (choicesOf chunk).tail, Json.eqStr (c.get? "stop_reason") "recomputed" = false) ∧
          (asked = true → ∀ c ∈ (choicesOf chunk).head?, field c "token_ids" = .null) := by
    rw [forall₂_flatMap_iff fun leg hleg => ((hlegs leg hleg).sends hapi enabled).length]
    exact forall₂_congr fun leg hleg => ((hlegs leg hleg).sends hapi enabled).keeps (hlegs leg hleg).shown
  have hone : ∀ leg ∈ legs, OneRole ((leg.delivered entryApi enabled).filter hasChoices) ∧
      (((leg.delivered entryApi enabled).filter hasChoices).isEmpty = !leg.shown.any hasChoices) := fun leg hleg =>
    ((hlegs leg hleg).sends hapi enabled).oneRole fun chunk hchunk => ((hlegs leg hleg).shown chunk hchunk).1
  have hrole : OneRole ((legs.flatMap fun leg => leg.delivered entryApi enabled).filter hasChoices) ↔
      (legs.filter fun leg => leg.shown.any hasChoices).length ≤ 1 := by
    rw [List.filter_flatMap, oneRole_flatMap fun leg hleg => (hone leg hleg).1]
    rw [List.filter_congr fun leg hleg => by rw [(hone leg hleg).2, Bool.not_not]]
  constructor
  · intro h
    have htexts := hcontent.mp h.content
    have hkept := hchoices.mp h.choices
    refine ⟨fun leg hleg chunk hchunk c hc => ?_, fun leg hleg => (htexts leg hleg).2, fun hasked leg hleg chunk hchunk =>
      (hkept leg hleg chunk hchunk).2 hasked, hrole.mp ⟨h.role⟩⟩
    exact ⟨(htexts leg hleg).1 chunk hchunk c hc, (hkept leg hleg chunk hchunk).1 c hc⟩
  · intro h
    refine ⟨hcontent.mpr fun leg hleg => ⟨fun chunk hchunk c hc => ?_, h.signal leg hleg⟩,
      hchoices.mpr fun leg hleg chunk hchunk => ⟨fun c hc => ?_, fun hasked => h.tokenIds hasked leg hleg chunk hchunk⟩,
      (hrole.mpr h.single).role⟩
    · exact (h.further leg hleg chunk hchunk c hc).1
    · exact (h.further leg hleg chunk hchunk c hc).2

/-! ## The adaptation -/

/-- A chat client gets the answer of a stream exactly where nothing is lost of its legs, and of a body exactly where it has
one choice. -/
theorem adaptation_iff (hlegs : ∀ leg ∈ legs, leg.Valid asked) (hapi : isChatApi entryApi = true) (enabled : Bool)
    {body : JsonObj} (hbody : TextCompletion body) (reqId : String) (roleSent : Bool) :
    (Preserves asked (legs.flatMap CompletionLeg.chunks) (legs.flatMap CompletionLeg.shown)
      (legs.flatMap fun leg => leg.delivered entryApi enabled) ↔ Preservable asked legs) ∧
      (BodyPreserves reqId roleSent body ↔ BodyPreservable body) :=
  ⟨preserves_iff hlegs hapi enabled, bodyPreserves_iff hbody reqId roleSent⟩

def chatTrack : RequestTrack where
  streamFlag := true
  chatFlag := true
  originPrompt := .str ""
  originMaxTokens := .int 16
  clientReturnTokenIds := false

def chatRequest : JsonObj := [("messages", .arr []), ("stream", .bool true)]

def helloChunk : JsonObj :=
  [("object", .str "text_completion"), ("choices", .arr [.obj [("text", .str "hello"), ("index", .int 0)]])]

def helloLeg : CompletionLeg where
  reqId := "1"
  track := chatTrack
  shown := [helloChunk]
  signal := none

def twoAnswersChunk : JsonObj :=
  [("object", .str "text_completion"), ("choices", .arr [.obj [("text", .str "yes"), ("index", .int 0)],
    .obj [("text", .str "no"), ("index", .int 1)]])]

def twoAnswersLeg : CompletionLeg where
  reqId := "1"
  track := chatTrack
  shown := [twoAnswersChunk]
  signal := none

theorem helloChunk_completion : TextCompletion helloChunk := by
  refine ⟨rfl, rfl, fun c hc => ?_⟩
  rw [show choicesOf helloChunk = [[("text", .str "hello"), ("index", .int 0)]] from rfl, List.mem_singleton] at hc
  subst hc
  exact ⟨⟨"hello", rfl⟩, ⟨0, rfl⟩, rfl, rfl⟩

theorem twoAnswersChunk_completion : TextCompletion twoAnswersChunk := by
  refine ⟨rfl, rfl, fun c hc => ?_⟩
  rw [show choicesOf twoAnswersChunk = [[("text", .str "yes"), ("index", .int 0)], [("text", .str "no"), ("index", .int 1)]]
    from rfl, List.mem_cons, List.mem_singleton] at hc
  rcases hc with rfl | rfl
  · exact ⟨⟨"yes", rfl⟩, ⟨0, rfl⟩, rfl, rfl⟩
  · exact ⟨⟨"no", rfl⟩, ⟨1, rfl⟩, rfl, rfl⟩

theorem valid_of_chunk {chunk : JsonObj} (h : TextCompletion chunk) (hask : asksRecompute chunk = false) :
    CompletionLeg.Valid false { reqId := "1", track := chatTrack, shown := [chunk], signal := none } where
  reqId := by simp
  request := ⟨chatRequest, rfl⟩
  streams := rfl
  returns := rfl
  shown := by simp [h, hask]
  signal := by simp

theorem hello_preserved :
    Preserves false ([helloLeg].flatMap CompletionLeg.chunks) ([helloLeg].flatMap CompletionLeg.shown)
      ([helloLeg].flatMap fun leg => leg.delivered "v1/chat/completions" true) ∧ BodyPreserves "1" false helloChunk := by
  have hlegs : ∀ leg ∈ [helloLeg], leg.Valid false := by
    intro leg hleg
    rw [List.mem_singleton] at hleg
    rw [hleg]
    exact valid_of_chunk helloChunk_completion rfl
  have hapi : isChatApi "v1/chat/completions" = true := by rfl
  have hiff := adaptation_iff hlegs hapi true helloChunk_completion "1" false
  refine ⟨hiff.1.mpr ⟨?_, ?_, fun h => (by cases h), Nat.le_refl 1⟩, hiff.2.mpr ⟨Nat.le_refl 1, ?_⟩⟩
  · intro leg hleg chunk hchunk c hc
    rw [List.mem_singleton] at hleg
    subst hleg
    rw [show helloLeg.shown = [helloChunk] from rfl, List.mem_singleton] at hchunk
    subst hchunk
    cases hc
  · intro leg hleg chunk hchunk
    rw [List.mem_singleton] at hleg
    subst hleg
    cases hchunk
  · intro c hc
    rw [show choicesOf helloChunk = [[("text", .str "hello"), ("index", .int 0)]] from rfl, List.mem_singleton] at hc
    subst hc
    exact ⟨rfl, rfl⟩

theorem secondAnswer_not_preserved : twoAnswersLeg.Valid false ∧ isChatApi "v1/chat/completions" = true ∧
    ¬ Preserves false ([twoAnswersLeg].flatMap CompletionLeg.chunks) ([twoAnswersLeg].flatMap CompletionLeg.shown)
      ([twoAnswersLeg].flatMap fun leg => leg.delivered "v1/chat/completions" true) := by
  have hvalid : twoAnswersLeg.Valid false := valid_of_chunk twoAnswersChunk_completion rfl
  have hlegs : ∀ leg ∈ [twoAnswersLeg], leg.Valid false := by
    intro leg hleg
    rw [List.mem_singleton] at hleg
    rw [hleg]
    exact hvalid
  have hapi : isChatApi "v1/chat/completions" = true := by rfl
  refine ⟨hvalid, hapi, fun h => ?_⟩
  have hlost := ((preserves_iff hlegs hapi true).mp h).further twoAnswersLeg (by simp) twoAnswersChunk (by simp [twoAnswersLeg])
    [("text", .str "no"), ("index", .int 1)] (List.mem_singleton_self _)
  cases hlost.1

end PyMotor.Recompute
