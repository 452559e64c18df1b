import PyMotor.Router.Lemmas.PdHandler
import PyMotor.Router.Lemmas.Served

/-!
# Routers release what they allocate
-/

namespace PyMotor.PdHandler

open Lib Recompute Router

/-- For every request whose ids have no record yet, and for every list of legs, with and without streaming: the
changes that the scheduler has got sum to zero on every endpoint exactly when workloads are not counted, or no leg
is stopped between its prefill and the release of the prefill's KV cache and the client gives up on no allocation
that the scheduler makes. -/
theorem released_iff_no_leg_leavesKv (env : RouterEnv) (hroles : env.AnswersAsRequested) (info : RequestInfo)
    (rm : RequestManager) (hrm : Unrecorded { reqInfo := info, requestManager := rm }) :
    (∀ legs, (run (streamLeg env) (start env .returned { reqInfo := info, requestManager := rm }) legs).Released ↔
      env.schedulerType = .roundRobin ∨
      Along (streamLeg env) (fun h leg => streamLeaves env h leg = false ∧ abandons env h leg = false)
        (start env .returned { reqInfo := info, requestManager := rm }) legs) ∧
    (∀ legs,
      (run (nonstreamLeg env) (start env retriesExhausted { reqInfo := info, requestManager := rm }) legs).Released ↔
      env.schedulerType = .roundRobin ∨
      Along (nonstreamLeg env) (fun h leg => nonstreamLeaves env h leg = false ∧ abandons env h leg = false)
        (start env retriesExhausted { reqInfo := info, requestManager := rm }) legs) := by
  constructor
  · exact (streamLeg_legStep hroles).released_run_iff (kept_start env hrm) (not_owing_start env)
  · exact (nonstreamLeg_legStep hroles).released_run_iff (kept_start env hrm) (not_owing_start env)

def emptyCodec : Recompute.JsonCodec := { loads := fun _ => .ok none, compact := fun _ => [], dumps := fun _ => [] }

def oneRequest : RequestInfo := { reqId := "r", reqData := [("stream", .bool true)], reqLen := 40, api := "v1/completions" }

theorem unrecorded_oneRequest : Unrecorded { reqInfo := oneRequest } := fun _ _ _ => rfl

def oneFrame : PdLeg DecodeStream :=
  { prefillSelect := [.allocated 1 10]
    prefill := .ok (.obj [])
    decodeSelect := [.allocated 2 20]
    decode := { chunks := [[91, 68, 79, 78, 69, 93, 10, 10]] } }

theorem released_oneFrame :
    (run (streamLeg { codec := emptyCodec }) (start { codec := emptyCodec } .returned { reqInfo := oneRequest })
      [oneFrame]).Released :=
  ((released_iff_no_leg_leavesKv { codec := emptyCodec } (fun _ _ => rfl) oneRequest {} unrecorded_oneRequest).1 [oneFrame]).mpr
    (.inr (by decide +kernel))

def cancelledDecode : PdLeg DecodeStream := { oneFrame with decode := { ending := some .cancelled } }

theorem not_released_cancelledDecode :
    ¬ ∀ legs, (run (streamLeg { codec := emptyCodec })
        (start { codec := emptyCodec } .returned { reqInfo := oneRequest }) legs).ended.isSome = true →
      (run (streamLeg { codec := emptyCodec }) (start { codec := emptyCodec } .returned { reqInfo := oneRequest })
        legs).Released := by
  intro h
  have hr := h [cancelledDecode] (by decide +kernel) (1, 10)
  exact absurd hr (by decide +kernel)

end PyMotor.PdHandler

/-!
## The legs of a request

How many legs the handlers start, how they follow a recompute, and how their streams end.
-/

namespace PyMotor

open Lib Recompute Router

variable (env : RouterEnv) (info : RequestInfo) (rm : RequestManager)

/-! ## The number of legs -/

def recomputedBody (usage : Json) : JsonObj :=
  [("choices", .arr [.obj [("stop_reason", .str "recomputed"), ("text", .str "a"), ("token_ids", .arr [.int 5])]]),
    ("prompt_token_ids", .arr [.int 1]), ("usage", usage)]

def servedLeg (body : JsonObj) : PdLeg (Except Raised Json) :=
  { prefillSelect := [.allocated 1 10]
    prefill := .ok (.obj [])
    decodeSelect := [.allocated 2 20]
    decode := .ok (.obj body) }

def twoAttempts : RouterEnv := { codec := PdHandler.emptyCodec, transportRetryLimit := 2, recomputeRetryLimit := 1 }

def notStreaming : RequestInfo := { reqId := "r", reqData := [("prompt", .str "p")], reqLen := 40, api := "v1/completions" }

def cdpRecomputedLeg : CdpLeg (Except Raised Json) :=
  { decodeSelect := [.allocated 2 20], decode := .ok (.obj (recomputedBody (.obj []))) }

/-- Without a cancellation the streams of the PD router end visibly, and those of the CDP router do when no leg is
refused with an HTTP exception. -/
theorem streams_end_visibly (hT : 0 < env.transportRetryLimit) :
    (∀ legs : List (PdLeg DecodeStream), (∀ leg ∈ legs, Calm env leg) →
      EndsVisibly (PdHandler.streamLeg env) PdHandler.view env (fun leg => leg.decode.EndsNormally env.codec)
        (PdHandler.start env .returned { reqInfo := info, requestManager := rm }) legs) ∧
    (∀ legs : List (CdpLeg DecodeStream), (∀ leg ∈ legs, leg.Calm env ∧ leg.decode.EngineOnly) →
      Along (CdpHandler.streamLeg env) (fun h leg => h.ended = none → h.refuses env leg = false)
        (CdpHandler.start env { reqInfo := info, requestManager := rm }) legs →
      EndsVisibly (CdpHandler.streamLeg env) CdpHandler.view env (fun leg => leg.decode.EndsNormally env.codec)
        (CdpHandler.start env { reqInfo := info, requestManager := rm }) legs) := by
  constructor
  · intro legs hcalm
    have hmoves := (PdHandler.streamLeg_moves env).noRaise (fun _ leg => Calm env leg) (fun _ _ _ => trivial)
      fun _ _ _ _ hc hr => hr.2 hc
    exact hmoves.endsVisibly (fun _ leg hend => PdHandler.streamLeg_ended hend leg) (PdHandler.live_start _ hT) rfl
      (along_of_forall hcalm) (fun _ ho => (nomatch ho)) (Nat.le_refl _)
  · intro legs hcalm hrefuses
    have hmoves := (CdpHandler.streamLeg_moves env).noRaise
      (fun h leg => (leg.Calm env ∧ leg.decode.EngineOnly) ∧ (h.ended = none → h.refuses env leg = false))
      (fun _ _ _ => trivial) fun h leg e hlive ⟨⟨hc, hengine⟩, hr⟩ hraises => by
        rcases hraises with ⟨-, hn⟩ | ⟨err, -, -, himp⟩
        · exact hn hc
        · rw [hr hlive.running] at himp
          cases himp hengine
    exact hmoves.endsVisibly (fun _ leg hend => CdpHandler.streamLeg_ended hend leg) (CdpHandler.live_start hT) trivial
      (hrefuses.and_forall hcalm) (fun _ ho => (nomatch ho)) (Nat.le_refl _)

def cdpOneFrame : CdpLeg DecodeStream :=
  { decodeSelect := [.allocated 2 20], decode := { chunks := [[91, 68, 79, 78, 69, 93, 10, 10]] } }

theorem endsVisibly_cdpOneFrame :
    EndsVisibly (CdpHandler.streamLeg twoAttempts) CdpHandler.view twoAttempts
      (fun leg => leg.decode.EndsNormally twoAttempts.codec)
      (CdpHandler.start twoAttempts { reqInfo := PdHandler.oneRequest }) [cdpOneFrame] := by
  refine (streams_end_visibly twoAttempts PdHandler.oneRequest {} (by decide)).2 [cdpOneFrame] ?_ (by decide)
  intro leg hleg
  obtain rfl := List.mem_singleton.mp hleg
  refine ⟨⟨?_, ⟨?_, ?_⟩, rfl, fun _ => rfl⟩, fun _ _ => ⟨?_, ?_⟩⟩ <;> simp [cdpOneFrame, SelectsUncancelled]

theorem not_endsVisibly_unscheduled :
    ¬ ∀ leg : CdpLeg DecodeStream, leg.Calm twoAttempts ∧ leg.decode.EngineOnly →
      EndsVisibly (CdpHandler.streamLeg twoAttempts) CdpHandler.view twoAttempts
        (fun leg => leg.decode.EndsNormally twoAttempts.codec)
        (CdpHandler.start twoAttempts { reqInfo := PdHandler.oneRequest }) [leg] := by
  intro h
  have hraised : ∃ e, (run (CdpHandler.streamLeg twoAttempts)
      (CdpHandler.start twoAttempts { reqInfo := PdHandler.oneRequest })
      [{ decodeSelect := [], decode := {} }]).view.ended = some (.raised e) := ⟨_, rfl⟩
  obtain ⟨e, he⟩ := hraised
  have hcalm : CdpLeg.Calm twoAttempts { decodeSelect := [], decode := {} } :=
    ⟨fun _ hc => (nomatch hc), ⟨fun hc => (nomatch hc), fun hc => (nomatch hc)⟩, rfl, fun _ => rfl⟩
  cases (h { decodeSelect := [], decode := {} } ⟨hcalm, fun _ _ => ⟨fun hc => (nomatch hc), fun hc => (nomatch hc)⟩⟩).seen with
  | running ended => rw [he] at ended; cases ended
  | normal _ _ _ _ _ _ _ last => rw [he] at last; cases last
  | error _ _ last => rw [he] at last; cases last

/-! ## The content of a response -/

def joinedText (bodies : List JsonObj) (body : JsonObj) : String := (bodies.map bodyText).foldr (· ++ ·) (bodyText body)

theorem joinedText_eq_iff (bodies : List JsonObj) (body : JsonObj) :
    joinedText bodies body = bodyText body ↔ ∀ b ∈ bodies, bodyText b = "" := by
  have hlen : ∀ bodies : List JsonObj,
      (joinedText bodies body).length = (bodies.map fun b => (bodyText b).length).sum + (bodyText body).length := by
    intro bodies
    induction bodies with
    | nil => simp [joinedText]
    | cons b bodies ih =>
        have hcons : joinedText (b :: bodies) body = bodyText b ++ joinedText bodies body := rfl
        rw [hcons, String.length_append, ih, List.map_cons, List.sum_cons, Nat.add_assoc]
  constructor
  · intro h b hb
    have hsum := hlen bodies
    rw [h] at hsum
    have hzero : (bodies.map fun b => (bodyText b).length).sum = 0 := by omega
    have hb0 := List.sum_eq_zero_iff.mp hzero _ (List.mem_map_of_mem hb)
    exact String.length_eq_zero_iff.mp hb0
  · intro h
    induction bodies with
    | nil => rfl
    | cons b bodies ih =>
        have hcons : joinedText (b :: bodies) body = bodyText b ++ joinedText bodies body := rfl
        rw [hcons, h b (List.mem_cons_self ..), ih fun b' hb' => h b' (List.mem_cons_of_mem _ hb'), String.empty_append]

/-- After recomputed bodies the client gets the text of the last body only, so that nothing is lost exactly when the
others have no text. In CDP mode the recomputes must also leave an attempt. -/
theorem response_text_iff (hroles : env.AnswersAsRequested) (hT : 0 < env.transportRetryLimit)
    (henabled : env.recomputeEnabled = true) (hrm : Unrecorded { reqInfo := info, requestManager := rm }) (heligible : Eligible info.reqData)
    {bodies : List JsonObj} {body : JsonObj} (hbodies : ∀ b ∈ bodies, RecomputedBody b) (hbody : NormalBody body)
    (hlimit : bodies.length ≤ env.recomputeRetryLimit) :
    (∀ legs leg, List.Forall₂ (fun leg b => leg.Served env b) legs bodies → leg.Served env body →
      (respondedText (run (PdHandler.nonstreamLeg env)
          (PdHandler.start env PdHandler.retriesExhausted { reqInfo := info, requestManager := rm })
          (legs ++ [leg])).ended = some (joinedText bodies body) ↔ ∀ b ∈ bodies, bodyText b = "")) ∧
    (∀ legs leg, List.Forall₂ (fun leg b => leg.Served env b) legs bodies → leg.Served env body →
      (respondedText (run (CdpHandler.responseLeg env)
          (CdpHandler.start env { reqInfo := info, requestManager := rm })
          (legs ++ [leg])).ended = some (joinedText bodies body) ↔
        bodies.length < env.transportRetryLimit ∧ ∀ b ∈ bodies, bodyText b = "")) := by
  have haccounts := PdHandler.accounts_start hrm
  constructor
  · intro legs leg hlegs hleg
    have hready : PdHandler.Ready
        (PdHandler.start env PdHandler.retriesExhausted { reqInfo := info, requestManager := rm }) :=
      ⟨by simp [PdHandler.start, hT], rfl, haccounts, heligible⟩
    have hlast := hready.run hroles hlegs hbodies henabled (by simpa [PdHandler.start, CdpHandler.start] using hlimit)
    rw [run_append, run_cons, run_nil, hlast.normal hroles hleg hbody, Option.some.injEq, eq_comm, joinedText_eq_iff]
  · intro legs leg hlegs hleg
    have hready : CdpHandler.Ready (CdpHandler.start env { reqInfo := info, requestManager := rm }) :=
      ⟨by simp [CdpHandler.start, hT], haccounts, heligible.edit (attach_edit env _)⟩
    have hlast := hready.run hroles hT hlegs hbodies henabled (by simpa [PdHandler.start, CdpHandler.start] using hlimit)
    rw [run_append, run_cons, run_nil]
    by_cases hlt : bodies.length < env.transportRetryLimit
    · rw [if_pos (by simpa [CdpHandler.start] using hlt)] at hlast
      rw [hlast.normal hroles hleg hbody, Option.some.injEq, eq_comm, joinedText_eq_iff]
      exact ⟨fun h => ⟨hlt, h⟩, And.right⟩
    · rw [if_neg (by simpa [CdpHandler.start] using hlt)] at hlast
      rw [CdpHandler.responseLeg_ended (by rw [hlast]; rfl), hlast]
      exact ⟨fun h => (by cases h), fun h => absurd h.1 hlt⟩

def normalBody : JsonObj :=
  [("object", .str "text_completion"), ("choices", .arr [.obj [("stop_reason", .null), ("text", .str "b")]])]

theorem served_servedLeg (body : JsonObj) : (servedLeg body).Served twoAttempts body :=
  ⟨⟨1, 10, rfl⟩, ⟨[], rfl⟩, ⟨2, 20, rfl⟩, rfl⟩

theorem normalBody_isNormal : NormalBody normalBody := ⟨rfl, _, _, rfl, fun _ => ⟨rfl, rfl⟩⟩

theorem eligible_notStreaming : Eligible notStreaming.reqData := by
  refine ⟨rfl, ⟨16, rfl⟩, ⟨.str "p", rfl⟩, fun h => ?_⟩
  have hno : notStreaming.reqData.contains "messages" = false := rfl
  rw [hno] at h
  cases h

theorem response_text_normalBody :
    respondedText (run (PdHandler.nonstreamLeg twoAttempts)
      (PdHandler.start twoAttempts PdHandler.retriesExhausted { reqInfo := notStreaming })
      [servedLeg normalBody]).ended = some "b" :=
  ((response_text_iff twoAttempts notStreaming {} (fun _ _ => rfl) (by decide) rfl (fun _ _ _ => rfl) eligible_notStreaming
    (by simp) normalBody_isNormal (by decide)).1 [] (servedLeg normalBody) .nil
      (served_servedLeg normalBody)).mpr (by simp)

theorem response_text_lost :
    ¬ ∀ body, RecomputedBody body → respondedText (run (PdHandler.nonstreamLeg twoAttempts)
      (PdHandler.start twoAttempts PdHandler.retriesExhausted { reqInfo := notStreaming })
      [servedLeg body, servedLeg normalBody]).ended = some (joinedText [body] normalBody) := by
  have hlost : respondedText (run (PdHandler.nonstreamLeg twoAttempts)
      (PdHandler.start twoAttempts PdHandler.retriesExhausted { reqInfo := notStreaming })
      [servedLeg (recomputedBody (.obj [])), servedLeg normalBody]).ended ≠
        some (joinedText [recomputedBody (.obj [])] normalBody) := by decide +kernel
  intro h
  refine hlost (h (recomputedBody (.obj [])) ⟨rfl, rfl, ?_, ?_⟩)
  · intro c0 rest hc
    cases hc
    exact ⟨_, rfl⟩
  · intro u hu
    cases hu
    exact ⟨_, rfl⟩

end PyMotor
