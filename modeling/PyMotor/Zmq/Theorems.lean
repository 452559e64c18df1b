import PyMotor.Zmq.Lemmas.References
import PyMotor.Zmq.Lemmas.Transport

/-!
# Messages between a worker and the scheduler process: theorems
-/

namespace PyMotor.Zmq

open Lib

variable {codec : Codec}

theorem carried_serializeRequest (hcodec : codec.Inverse) {threshold : Nat} {x : SchedulerRequest} (hx : x.Sendable)
    {payload : Payload} (hpay : serializeRequest codec threshold x = some payload) :
    Carried codec (deserializeRequest codec) (fun b => (decodeRequest codec b).map (·.data)) x payload := by
  obtain ⟨items, aux, hrep, hser⟩ := serializeRequest_replaced hcodec threshold hx
  rw [hser] at hpay
  obtain ⟨mainBuf, hmain, rfl⟩ := Option.map_eq_some_iff.1 hpay
  have hdec : decodeRequest codec mainBuf = some { x with data := .map items } :=
    decodeRequest_encode hcodec rfl hrep.tree hmain
  refine hrep.carried ?_ (by simp [hdec])
  obtain ⟨depth, hdepth⟩ := hrep.resolves aux (List.prefix_refl aux)
  refine ⟨depth, fun fuel hf => ?_⟩
  have hres := hdepth fuel hf
  cases aux with
  | nil =>
      have hdata := hrep.unchanged rfl
      simp [payloadOf, deserializeRequest, hdec, readOrThrow, hdata]
  | cons b rest => simp [payloadOf, deserializeRequest, hdec, readOrThrow, hres]

theorem carried_serializeResponse (hcodec : codec.Inverse) {threshold : Nat} {x : SchedulerResponse}
    (hx : x.Sendable) {payload : Payload} (hpay : serializeResponse codec threshold x = some payload) :
    Carried codec (deserializeResponse codec) (fun b => (decodeResponse codec b).map (·.data)) x payload := by
  obtain ⟨data, aux, hrep, hdata, hser⟩ := serializeResponse_replaced hcodec threshold hx
  rw [hser] at hpay
  obtain ⟨mainBuf, hmain, rfl⟩ := Option.map_eq_some_iff.1 hpay
  have hdict : data = .nil ∨ ∃ items, data = .map items := by
    rcases hdata with ⟨hnil, -⟩ | ⟨items, hitems, -⟩
    · exact .inl hnil
    · exact .inr ⟨items, hitems⟩
  have hdec : decodeResponse codec mainBuf = some { x with data } :=
    decodeResponse_encode hcodec hdict hrep.tree hmain
  refine hrep.carried ?_ (by simp [hdec])
  obtain ⟨depth, hdepth⟩ := hrep.resolves aux (List.prefix_refl aux)
  refine ⟨depth, fun fuel hf => ?_⟩
  have hres := hdepth fuel hf
  cases aux with
  | nil =>
      have hsame := hrep.unchanged rfl
      simp [payloadOf, deserializeResponse, hdec, readOrThrow, hsame]
  | cons b rest =>
      -- With side frames the data is a dictionary that is not empty, so the reader resolves it.
      have hitems : hasItems data = true := by
        rcases hdata with ⟨-, haux⟩ | ⟨items, hitems, hempty⟩
        · cases haux
        · cases items with
          | nil => cases hempty rfl
          | cons item items => rw [hitems]; rfl
      simp [payloadOf, deserializeResponse, hdec, readOrThrow, hres, hitems]

/-- A message that is written and sent with the frames of either side is read back as it was, and its side frames are
referred to once each. -/
theorem message_round_trip (hcodec : codec.Inverse) (threshold : Nat) :
    (∀ x : SchedulerRequest, x.Sendable →
      (codec.Total → (serializeRequest codec threshold x).isSome) ∧
      ∀ payload, serializeRequest codec threshold x = some payload →
        Carried codec (deserializeRequest codec) (fun b => (decodeRequest codec b).map (·.data)) x payload) ∧
    (∀ x : SchedulerResponse, x.Sendable →
      (codec.Total → (serializeResponse codec threshold x).isSome) ∧
      ∀ payload, serializeResponse codec threshold x = some payload →
        Carried codec (deserializeResponse codec) (fun b => (decodeResponse codec b).map (·.data)) x payload) := by
  constructor
  · intro x hx
    refine ⟨fun htotal => ?_, fun payload hpay => carried_serializeRequest hcodec hx hpay⟩
    obtain ⟨items, aux, hrep, hser⟩ := serializeRequest_replaced hcodec threshold hx
    rw [hser, Option.isSome_map]
    exact htotal _ (SchedulerRequest.tree_toMsg hrep.tree)
  · intro x hx
    refine ⟨fun htotal => ?_, fun payload hpay => carried_serializeResponse hcodec hx hpay⟩
    obtain ⟨data, aux, hrep, -, hser⟩ := serializeResponse_replaced hcodec threshold hx
    rw [hser, Option.isSome_map]
    exact htotal _ (SchedulerResponse.tree_toMsg hrep.tree)

def smallRequest : SchedulerRequest := { requestType := "t", requestId := "i", data := .map [(.str "a", .arr [])] }

def smallMainBuf : Bytes :=
  [131, 172, 114, 101, 113, 117, 101, 115, 116, 95, 116, 121, 112, 101, 161, 116, 170, 114, 101, 113,
   117, 101, 115, 116, 95, 105, 100, 161, 105, 164, 100, 97, 116, 97, 129, 161, 97, 129, 167, 95, 95,
   114, 101, 102, 95, 95, 0]

def selfRefBuf : Bytes := [129, 167, 95, 95, 114, 101, 102, 95, 95, 0]

def smallCodec : Codec where
  encode
    | .arr [] => some [0x90]
    | .map [(.str "request_type", .str "t"), (.str "request_id", .str "i"),
        (.str "data", .map [(.str "a", .map [(.str "__ref__", .int 0)])])] => some smallMainBuf
    | _ => none
  decode b :=
    if b = [0x90] then some (.arr [])
    else if b = smallMainBuf then some { smallRequest with data := .map [(.str "a", refTo 0)] }.toMsg
    else if b = selfRefBuf then some (refTo 0)
    else none

theorem smallCodec_inverse : smallCodec.Inverse := by
  intro m b _ hb
  simp only [smallCodec] at hb
  split at hb
  · cases hb
    rfl
  · cases hb
    rfl
  · cases hb

theorem message_round_trip_small :
    ∃ payload, serializeRequest smallCodec 0 smallRequest = some payload ∧
      ∃ depth, ∀ fuel, depth ≤ fuel →
        deserializeRequest smallCodec fuel (unpackRecvPayload (packSendFrames [[]] payload)) = pure smallRequest := by
  have hsend : smallRequest.Sendable := by
    refine ⟨⟨_, rfl⟩, ?_, ?_⟩ <;>
      simp [smallRequest, Msg.Tree, Msg.Everywhere, Msg.EverywhereItems, Msg.EverywhereList, Msg.StringKeys, NotRef,
        zeroCopyRefKey]
  have hser : serializeRequest smallCodec 0 smallRequest = some (.multi [smallMainBuf, [0x90]]) := rfl
  obtain ⟨depth, hdepth⟩ := (((message_round_trip smallCodec_inverse 0).1 smallRequest hsend).2 _ hser).read
  exact ⟨_, hser, depth, fun fuel hf => (hdepth fuel hf [] [] []).1⟩

/-! ## The end of reading -/

/-- Reading a message whose frames all decode comes to an end exactly when no chain of references from its main frame
leads into a cycle of side frames. -/
theorem reading_ends_iff (mainBuf : Bytes) (aux : List Bytes) (haux : Decodes codec aux) :
    (∀ request, decodeRequest codec mainBuf = some request →
      ((∃ fuel, (deserializeRequest codec fuel (.multi (mainBuf :: aux))).run.isSome) ↔
        ¬ ReachesCycle codec aux request.data)) ∧
    (∀ response, decodeResponse codec mainBuf = some response →
      ((∃ fuel, (deserializeResponse codec fuel (.multi (mainBuf :: aux))).run.isSome) ↔
        ¬ ReachesCycle codec aux response.data)) := by
  constructor
  · intro request hdec
    rw [← resolveRefs_ends_iff haux]
    cases aux with
    | nil =>
        have hread : ∀ fuel, deserializeRequest codec fuel (.multi [mainBuf]) = pure request := by
          intro fuel
          simp [deserializeRequest, hdec, readOrThrow]
        simp only [hread]
        exact iff_of_true ⟨0, rfl⟩ ((resolveRefs_ends_iff haux _).2 not_reachesCycle_nil)
    | cons b rest =>
        simp only [deserializeRequest, hdec, readOrThrow, pure_bind, List.isEmpty_cons, Bool.false_eq_true, if_false,
          Reading.isSome_bind_pure]
  · intro response hdec
    rw [← resolveRefs_ends_iff haux]
    cases aux with
    | nil =>
        have hread : ∀ fuel, deserializeResponse codec fuel (.multi [mainBuf]) = pure response := by
          intro fuel
          simp [deserializeResponse, hdec, readOrThrow]
        simp only [hread]
        exact iff_of_true ⟨0, rfl⟩ ((resolveRefs_ends_iff haux _).2 not_reachesCycle_nil)
    | cons b rest =>
        by_cases hitems : hasItems response.data
        · simp only [deserializeResponse, hdec, readOrThrow, pure_bind, List.isEmpty_cons, Bool.false_eq_true,
            if_false, hitems, if_true, Reading.isSome_bind_pure]
        · -- Data that counts as missing is not resolved, and it has nothing to resolve.
          have hread : ∀ fuel, deserializeResponse codec fuel (.multi (mainBuf :: b :: rest)) =
              pure { response with data := .nil } := by
            intro fuel
            simp [deserializeResponse, hdec, readOrThrow, hitems]
          simp only [hread]
          refine iff_of_true ⟨0, rfl⟩ ((resolveRefs_ends_iff haux _).2 ?_)
          rintro ⟨i, hi, -⟩
          rw [refs_of_not_hasItems (decodeResponse_data hdec) hitems] at hi
          cases hi

theorem reading_ends_iff_small :
    ∃ fuel, (deserializeRequest smallCodec fuel (.multi [smallMainBuf, [0x90]])).run.isSome := by
  have haux : Decodes smallCodec [[0x90]] := by
    intro b hb
    rw [List.mem_singleton.1 hb]
    rfl
  refine ((reading_ends_iff smallMainBuf [[0x90]] haux).1 _ rfl).2 ?_
  rintro ⟨i, -, j, -, hjj⟩
  obtain ⟨k, hjk, -⟩ := Relation.TransGen.head'_iff.1 hjj
  obtain ⟨b, m, hb, hm, hk⟩ := hjk
  have hmem : b = [0x90] := List.mem_singleton.1 (List.mem_of_getElem? hb)
  subst hmem
  cases hm
  simp [refs, refsElements] at hk

/-- A side frame that refers to itself is resolved without end. -/
theorem not_reading_ends_selfRef :
    ¬ ∀ (codec : Codec) (mainBuf : Bytes) (aux : List Bytes), Decodes codec aux →
      ∀ request, decodeRequest codec mainBuf = some request →
        ∃ fuel, (deserializeRequest codec fuel (.multi (mainBuf :: aux))).run.isSome := by
  intro h
  have haux : Decodes smallCodec [selfRefBuf] := by
    intro b hb
    rw [List.mem_singleton.1 hb]
    rfl
  obtain ⟨fuel, hfuel⟩ := h smallCodec smallMainBuf [selfRefBuf] haux _ rfl
  have hresolve : ∃ fuel, (resolveRefs smallCodec [selfRefBuf] fuel (.map [(.str "a", refTo 0)])).run.isSome := by
    refine ⟨fuel, ?_⟩
    simpa only [deserializeRequest, show decodeRequest smallCodec smallMainBuf =
      some { smallRequest with data := .map [(.str "a", refTo 0)] } from rfl, readOrThrow, pure_bind,
      List.isEmpty_cons, Bool.false_eq_true, if_false, Reading.isSome_bind_pure] using hfuel
  refine (resolveRefs_ends_iff haux _).1 hresolve ⟨0, ?_, 0, .refl, .single ⟨selfRefBuf, refTo 0, rfl, rfl, ?_⟩⟩
  · decide
  · decide

/-!
## The transport of a worker: theorems
-/

open SchedulerTransport

/-! ## Pending requests -/

/-- In every run of calls with ids of their own, a call returns nothing or the response with its id, for good; no id is
returned twice; and the entries of a call that has returned are gone exactly when it did not time out or a response
came to it later than the cleanup delay. -/
theorem pending_entries_iff (serializer : Serializer) (timeout : Int) (es : List TransportEvent)
    (hes : Along step FreshId (start serializer timeout) es) :
    (∀ c ∈ (run step (start serializer timeout) es).calls, ∀ r, c.result = some r → r.requestId = c.requestId) ∧
    ((run step (start serializer timeout) es).returnedResponses.map SchedulerResponse.requestId).Nodup ∧
    (∀ es₁ es₂, es = es₁ ++ es₂ → ∀ (k : Nat) (c : SendCall) exit,
      (run step (start serializer timeout) es₁).calls[k]? = some c → c.phase = .returned exit →
        (run step (start serializer timeout) es).calls[k]? = some c) ∧
    (∀ (k : Nat) (c : SendCall) exit, (run step (start serializer timeout) es).calls[k]? = some c →
      c.phase = .returned exit →
      (∀ parts ∈ (run step (start serializer timeout) es).inFlight,
        ¬ (run step (start serializer timeout) es).Answers parts c) →
      ((run step (start serializer timeout) es).Forgotten c.requestId ↔
        (exit = .timedOut → AnsweredLate (start serializer timeout) es k))) := by
  have hinit := inv_start serializer timeout
  have hinv := inv_run hinit hes
  refine ⟨fun c hc r hr => hinv.result hc hr, ?_, ?_, ?_⟩
  · exact (returnedIds_sublist fun c hc r hr => hinv.result hc hr).nodup hinv.ids
  · rintro es₁ es₂ rfl k c exit hk hc
    rw [along_append] at hes
    rw [run_append]
    exact returned_run (inv_run hinit hes.1) hes.2 hk hc
  · intro k c exit hk hc _
    have hslot := hinv.slots k c hk
    cases exit with
    | timedOut =>
        rw [forgotten_iff_answeredLate hinit rfl hes hk hc]
        exact ⟨fun h _ => h, fun h => h rfl⟩
    | _ =>
        simp only [SlotOk, hc] at hslot
        exact iff_of_true ⟨hslot.1, hslot.2.1⟩ (by simp)

def replyBuf : Bytes :=
  [132, 173, 114, 101, 115, 112, 111, 110, 115, 101, 95, 116, 121, 112, 101, 167, 115, 117, 99, 99,
   101, 115, 115, 170, 114, 101, 113, 117, 101, 115, 116, 95, 105, 100, 161, 105, 164, 100, 97, 116,
   97, 192, 165, 101, 114, 114, 111, 114, 192]

def replyCodec : Codec where
  encode _ := none
  decode b :=
    if b = replyBuf then some (SchedulerResponse.toMsg { responseType := "success", requestId := "i" }) else none

def answeredEarly : List TransportEvent :=
  [.connect .ok, .startLoop, .sendRequest "i" 0, .requestSent 0, .timeout 0, .answer [[], replyBuf], .receive 0 15]

def answeredInTime : List TransportEvent :=
  [.connect .ok, .startLoop, .sendRequest "i" 0, .requestSent 0, .answer [[], replyBuf], .receive 0 5, .wake 0]

theorem fresh_answeredEarly : Along step FreshId (start ⟨replyCodec, 100⟩ 10) answeredEarly :=
  ⟨trivial, trivial, fun _ hc => (List.not_mem_nil hc).elim, trivial, trivial, trivial, trivial, trivial⟩

theorem fresh_answeredInTime : Along step FreshId (start ⟨replyCodec, 100⟩ 10) answeredInTime :=
  ⟨trivial, trivial, fun _ hc => (List.not_mem_nil hc).elim, trivial, trivial, trivial, trivial, trivial⟩

theorem pending_entries_iff_inTime :
    (run step (start ⟨replyCodec, 100⟩ 10) answeredInTime).Forgotten "i" := by
  refine ((pending_entries_iff ⟨replyCodec, 100⟩ 10 answeredInTime fresh_answeredInTime).2.2.2 0 _ _ rfl rfl ?_).2 ?_
  · intro parts hparts
    exact (List.not_mem_nil hparts).elim
  · intro htimed
    cases htimed

/-- The entry of a call that timed out stays when the response comes within the cleanup delay. -/
theorem not_forgotten_answeredEarly :
    ¬ ∀ (serializer : Serializer) (timeout : Int) (es : List TransportEvent),
      Along step FreshId (start serializer timeout) es →
      ∀ (k : Nat) (c : SendCall) exit, (run step (start serializer timeout) es).calls[k]? = some c →
        c.phase = .returned exit →
        (∀ parts ∈ (run step (start serializer timeout) es).inFlight,
          ¬ (run step (start serializer timeout) es).Answers parts c) →
        (run step (start serializer timeout) es).Forgotten c.requestId := by
  intro h
  have hforgot := h ⟨replyCodec, 100⟩ 10 answeredEarly fresh_answeredEarly 0 _ _ rfl rfl
    fun parts hparts => (List.not_mem_nil hparts).elim
  have hentry : (run step (start ⟨replyCodec, 100⟩ 10) answeredEarly).pendingRequests.get? "i" =
      some { event := none, timestamp := 0 } := rfl
  cases hentry.symm.trans hforgot.1

/-! ## The receive loop -/

/-- In every run in which each received message of two or more frames decodes and `connect` does not follow
`disconnect`, a connected transport runs its receive loop. -/
theorem connected_served (serializer : Serializer) (timeout : Int) (es : List TransportEvent)
    (hes : Along step Sound (start serializer timeout) es) : (run step (start serializer timeout) es).Served :=
  (run_invariant (I := LinkInv) (fun _ _ hs hok => linkInv_step hs hok) (linkInv_start serializer timeout) hes).served

theorem connected_served_inTime :
    (run step (start ⟨replyCodec, 100⟩ 10) answeredInTime).receiveTask = .running ∧
      (run step (start ⟨replyCodec, 100⟩ 10) answeredInTime).Served := by
  refine ⟨rfl, connected_served ⟨replyCodec, 100⟩ 10 answeredInTime ⟨rfl, trivial, trivial, trivial, trivial, ?_, trivial,
    trivial⟩⟩
  intro parts hparts _ _
  have heq : [[], replyBuf] = parts := Option.some.inj hparts
  subst heq
  rfl

/-- A frame that msgpack does not know ends the loop of a connected transport. -/
theorem not_served_badFrame :
    ¬ ∀ (serializer : Serializer) (timeout : Int) (es : List TransportEvent),
      (run step (start serializer timeout) es).Served := by
  intro h
  have hserved := h ⟨replyCodec, 100⟩ 10 [.connect .ok, .startLoop, .answer [[], [0xc1]], .receive 0 0] rfl rfl
  rcases hserved with hrun | hrun
  · cases hrun
  · cases hrun

end PyMotor.Zmq
