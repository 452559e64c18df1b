import PyMotor.Http.KeyEncryption

/-!
# The keys that are accepted

A key is verified by deriving it again, so its holders pass unless the salt has a colon. A stored entry passes as it is.
-/

namespace PyMotor

open Lib

/-- An entry of the collection with the arguments `encrypt_key` made it from. -/
structure ApiKeyEntry (pbkdf2Hmac : Pbkdf2Hmac) where
  plainKey : String
  salt : Option String
  iterations : Int
  random : Bytes
  text : String
  encrypted : PBKDF2KeyEncryption.encryptKey pbkdf2Hmac plainKey salt iterations random = .ok text

namespace ApiKeyEntry

variable {pbkdf2Hmac : Pbkdf2Hmac} (e : ApiKeyEntry pbkdf2Hmac) (key : String)

def saltUsed : String := PBKDF2KeyEncryption.saltOr e.salt e.random

/-- The derivation with the salt and the iterations of the entry gives its hash. -/
def Derives : Prop :=
  key ≠ "" ∧ pbkdf2Hmac (Bytes.encode key) (Bytes.encode e.saltUsed) e.iterations =
    pbkdf2Hmac (Bytes.encode e.plainKey) (Bytes.encode e.saltUsed) e.iterations

/-- The salt can be read back from the entry. -/
def Plain : Prop := ':' ∉ e.saltUsed.toList

end ApiKeyEntry

section

variable {pbkdf2Hmac : Pbkdf2Hmac} (entries : List (ApiKeyEntry pbkdf2Hmac)) (key : String)

def Stored : Prop := ∃ e ∈ entries, e.text = key

def Holder : Prop := ∃ e ∈ entries, e.Derives key

/-- The request is accepted when its header has a key that derives to the hash of an entry, and no other one is. -/
def AcceptsHolders (config : APIKeyConfig) (request : KeyRequest) : Prop :=
  config.verifyApiKey pbkdf2Hmac request = .ok () ↔
    ∃ authorization, request.headers config.headerName = some authorization ∧
      Holder entries (config.withoutPrefix authorization)

end

/-! ## An entry and the keys it verifies -/

namespace ApiKeyEntry

variable {pbkdf2Hmac : Pbkdf2Hmac} (e : ApiKeyEntry pbkdf2Hmac) {key : String}

theorem spec : ∃ hash, pbkdf2Hmac (Bytes.encode e.plainKey) (Bytes.encode e.saltUsed) e.iterations = .ok hash ∧
    Text.str e.iterations = some (toString e.iterations).toList ∧
    e.text.toList = e.saltUsed.toList ++ ':' :: ((toString e.iterations).toList ++ ':' :: Text.hex hash) := by
  have h := e.encrypted
  rw [PBKDF2KeyEncryption.encryptKey] at h
  split at h
  · cases h
  · have hsalt : PBKDF2KeyEncryption.saltOr e.salt e.random = e.saltUsed := rfl
    simp only [PBKDF2KeyEncryption.derivedKey, hsalt] at h
    cases hderive : pbkdf2Hmac (Bytes.encode e.plainKey) (Bytes.encode e.saltUsed) e.iterations with
    | error raised =>
        rw [hderive] at h
        cases h
    | ok hash =>
        rw [hderive] at h
        cases hstr : Text.str e.iterations with
        | none =>
            rw [hstr] at h
            cases h
        | some count =>
            rw [hstr] at h
            injection h with htext
            rw [← Text.str_eq_some hstr]
            refine ⟨hash, rfl, rfl, ?_⟩
            rw [← htext, String.toList_ofList, List.append_assoc, List.cons_append]

theorem colon_mem_text : ':' ∈ e.text.toList := by
  obtain ⟨hash, -, -, htext⟩ := e.spec
  rw [htext]
  exact List.mem_append_right _ List.mem_cons_self

theorem text_ne_empty : e.text ≠ "" := by
  intro h
  have hmem := e.colon_mem_text
  rw [h] at hmem
  cases hmem

theorem verifyKey_of_plain (hplain : e.Plain) : PBKDF2KeyEncryption.verifyKey pbkdf2Hmac key e.text = true ↔ e.Derives key := by
  obtain ⟨hash, hhash, hstr, htext⟩ := e.spec
  have hsplit : Text.splitMax ':' 2 e.text.toList =
      [e.saltUsed.toList, (toString e.iterations).toList, Text.hex hash] := by
    rw [htext, Text.splitMax_append hplain, Text.splitMax_append (Text.colon_not_mem_toString e.iterations)]
    rfl
  rw [PBKDF2KeyEncryption.verifyKey, Derives, hsplit, hhash]
  by_cases hkey : key = ""
  · simp [hkey]
  · simp only [hkey, e.text_ne_empty, decide_false, Bool.or_self, Bool.false_eq_true, if_false, Text.int_str hstr,
      String.ofList_toList, PBKDF2KeyEncryption.derivedKey, ne_eq, not_false_eq_true, true_and]
    cases hderive : pbkdf2Hmac (Bytes.encode key) (Bytes.encode e.saltUsed) e.iterations with
    | error raised => simp [Except.map]
    | ok derived => simp [Except.map, Text.hex_injective.eq_iff]

theorem verifyKey_of_not_plain (hplain : ¬ e.Plain) : PBKDF2KeyEncryption.verifyKey pbkdf2Hmac key e.text = false := by
  obtain ⟨hash, -, -, htext⟩ := e.spec
  rw [PBKDF2KeyEncryption.verifyKey]
  split
  · rfl
  · split
    · rename_i storedSalt storedIterations storedHash hsplit
      have hcolon : ':' ∈ storedHash := by
        obtain ⟨hsalt, rest, hrest, hsplit'⟩ := Text.splitMax_eq_cons_cons hsplit
        obtain ⟨hiterations, rest', hrest', hlast⟩ := Text.splitMax_eq_cons_cons hsplit'
        injection hlast with hlast
        have hcount : e.saltUsed.toList.count ':' + 2 ≤ storedHash.count ':' + 2 := by
          have hsame := congrArg (List.count ':') (htext.symm.trans hrest)
          rw [hrest', hlast] at hsame
          simp only [List.count_append, List.count_cons_self, List.count_eq_zero_of_not_mem hsalt,
            List.count_eq_zero_of_not_mem hiterations] at hsame
          omega
        have hpos := List.count_pos_iff.mpr (not_not.mp hplain)
        exact List.count_pos_iff.mp (by omega)
      split
      · rfl
      · split
        · rfl
        · rename_i iterations _ _ computedHash hderive
          have hcomputed : ':' ∉ computedHash := by
            cases hderived : pbkdf2Hmac (Bytes.encode key)
                (Bytes.encode (String.ofList storedSalt)) iterations with
            | error raised =>
                rw [PBKDF2KeyEncryption.derivedKey, hderived] at hderive
                cases hderive
            | ok derived =>
                rw [PBKDF2KeyEncryption.derivedKey, hderived] at hderive
                injection hderive with hhex
                rw [← hhex]
                exact Text.colon_not_mem_hex derived
          rw [beq_eq_false_iff_ne]
          rintro rfl
          exact hcomputed hcolon
    · rfl

theorem verifyKey_iff :
    PBKDF2KeyEncryption.verifyKey pbkdf2Hmac key e.text = true ↔ e.Derives key ∧ e.Plain := by
  by_cases hplain : e.Plain
  · rw [e.verifyKey_of_plain hplain, and_iff_left hplain]
  · rw [e.verifyKey_of_not_plain hplain]
    exact ⟨(fun h => by cases h), fun h => absurd h.2 hplain⟩

theorem verifyKey_plainKey : PBKDF2KeyEncryption.verifyKey pbkdf2Hmac e.plainKey e.text = true ↔ e.Plain := by
  have hkey : e.plainKey ≠ "" := by
    have h := e.encrypted
    rw [PBKDF2KeyEncryption.encryptKey] at h
    split at h
    · cases h
    · assumption
  rw [verifyKey_iff, and_iff_right ⟨hkey, rfl⟩]

end ApiKeyEntry

/-! ## The check of a request -/

section

variable {pbkdf2Hmac : Pbkdf2Hmac} {entries : List (ApiKeyEntry pbkdf2Hmac)} {config : APIKeyConfig} {request : KeyRequest}
  {key authorization : String}

theorem withoutPrefix_empty : config.withoutPrefix "" = "" := by
  rw [APIKeyConfig.withoutPrefix]
  split
  · exact String.toList_inj.mp (by rw [String.toList_ofList]; simp)
  · rfl

theorem not_stored_empty : ¬ Stored entries "" := by
  rintro ⟨e, -, htext⟩
  exact e.text_ne_empty htext

theorem not_holder_empty : ¬ Holder entries "" := by
  rintro ⟨e, -, hkey, -⟩
  exact hkey rfl

theorem verifyAgainst_iff : verifyApiKeyAgainstValidKeys pbkdf2Hmac key (entries.map ApiKeyEntry.text) = true ↔
    ∃ e ∈ entries, e.Derives key ∧ e.Plain := by
  simp only [verifyApiKeyAgainstValidKeys, List.any_map, List.any_eq_true, Function.comp_apply, ApiKeyEntry.verifyKey_iff]

variable (henabled : config.enableApiKey = true) (hkeys : config.validKeys = entries.map ApiKeyEntry.text)
  (hskip : request.path ∉ config.skipPaths)
include henabled hkeys hskip

theorem verifyApiKey_iff : config.verifyApiKey pbkdf2Hmac request = .ok () ↔
    ∃ authorization, request.headers config.headerName = some authorization ∧
      (Stored entries (config.withoutPrefix authorization) ∨
        ∃ e ∈ entries, e.Derives (config.withoutPrefix authorization) ∧ e.Plain) := by
  have hpath : config.skipPaths.contains request.path = false := by
    simpa using hskip
  rw [APIKeyConfig.verifyApiKey, henabled, hpath]
  cases hheader : request.headers config.headerName with
  | none => simp
  | some authorization =>
      by_cases hempty : authorization = ""
      · subst hempty
        have hderives : ¬ ∃ e ∈ entries, e.Derives "" ∧ e.Plain := by
          rintro ⟨e, hmem, hderives, -⟩
          exact not_holder_empty ⟨e, hmem, hderives⟩
        simp [withoutPrefix_empty, not_stored_empty, hderives]
      · have hstored : config.validKeys.contains (config.withoutPrefix authorization) = true ↔
            Stored entries (config.withoutPrefix authorization) := by
          rw [hkeys, List.contains_iff_mem, List.mem_map]
          rfl
        simp only [Option.some.injEq, exists_eq_left', ← hstored, ← verifyAgainst_iff, ← hkeys, hempty, if_false,
          Bool.not_true, Bool.false_eq_true]
        cases config.validKeys.contains (config.withoutPrefix authorization) with
        | true => simp
        | false =>
            cases verifyApiKeyAgainstValidKeys pbkdf2Hmac (config.withoutPrefix authorization) config.validKeys <;> simp

/-- Holders and nobody else are accepted exactly when the key is no stored entry that nobody holds, and a key that is
held is so through an entry whose salt has no colon. -/
theorem acceptsHolders_iff : AcceptsHolders entries config request ↔
    ∀ authorization, request.headers config.headerName = some authorization →
      (Stored entries (config.withoutPrefix authorization) → Holder entries (config.withoutPrefix authorization)) ∧
      (Holder entries (config.withoutPrefix authorization) → Stored entries (config.withoutPrefix authorization) ∨
        ∃ e ∈ entries, e.Derives (config.withoutPrefix authorization) ∧ e.Plain) := by
  rw [AcceptsHolders, verifyApiKey_iff henabled hkeys hskip]
  constructor
  · intro h authorization hheader
    constructor
    · intro hstored
      obtain ⟨other, hother, hholder⟩ := h.mp ⟨authorization, hheader, .inl hstored⟩
      rw [hheader, Option.some.injEq] at hother
      rwa [hother]
    · intro hholder
      obtain ⟨other, hother, haccepted⟩ := h.mpr ⟨authorization, hheader, hholder⟩
      rw [hheader, Option.some.injEq] at hother
      rwa [hother]
  · intro h
    constructor
    · rintro ⟨authorization, hheader, hstored | ⟨e, hmem, hderives, -⟩⟩
      · exact ⟨authorization, hheader, (h authorization hheader).1 hstored⟩
      · exact ⟨authorization, hheader, e, hmem, hderives⟩
    · rintro ⟨authorization, hheader, hholder⟩
      exact ⟨authorization, hheader, (h authorization hheader).2 hholder⟩

end

def testHash : Bytes :=
  [106, 137, 117, 201, 113, 100, 114, 197, 100, 105, 234, 3, 82, 115, 13, 8, 161, 38, 195, 218, 59, 59, 92, 73, 240, 214,
    25, 202, 177, 5, 10, 231]

def testPbkdf2Hmac : Pbkdf2Hmac := fun key _ _ =>
  if key = Bytes.encode "sk-test123456789" then .ok testHash
  else .ok
    [250, 24, 59, 48, 146, 137, 53, 147, 216, 178, 16, 62, 192, 192, 173, 92, 199, 224, 83, 134, 136, 60, 74, 7, 138, 190,
      112, 219, 132, 102, 122, 179]

def testText : String :=
  "00112233445566778899aabbccddeeff:100000:6a8975c9716472c56469ea0352730d08a126c3da3b3b5c49f0d619cab1050ae7"

theorem encryptKey_testKey : PBKDF2KeyEncryption.encryptKey testPbkdf2Hmac "sk-test123456789"
    (some "00112233445566778899aabbccddeeff") 100000 [] = .ok testText := by decide

def testEntry : ApiKeyEntry testPbkdf2Hmac :=
  ⟨"sk-test123456789", some "00112233445566778899aabbccddeeff", 100000, [], testText, encryptKey_testKey⟩

def testConfig : APIKeyConfig := { enableApiKey := true, validKeys := [testText] }

def bearer (key : String) : KeyRequest where
  path := "/v1/completions"
  headers name := if name = "Authorization" then some ("Bearer " ++ key) else none

theorem withoutPrefix_bearer (key : String) : testConfig.withoutPrefix ("Bearer " ++ key) = key := by
  have hlist : ("Bearer " ++ key).toList = "Bearer ".toList ++ key.toList := String.toList_append
  have hprefix : Text.startsWith testConfig.keyPrefix.toList ("Bearer " ++ key).toList = true := by
    rw [Text.startsWith, List.isPrefixOf_iff_prefix, hlist]
    exact List.prefix_append _ _
  rw [APIKeyConfig.withoutPrefix, if_pos ⟨by decide, hprefix⟩, hlist]
  have hlength : testConfig.keyPrefix.length = "Bearer ".toList.length := by decide
  rw [hlength, List.drop_left, String.ofList_toList]

theorem acceptsHolders_testKey : AcceptsHolders [testEntry] testConfig (bearer "sk-test123456789") := by
  refine (acceptsHolders_iff rfl rfl (by decide)).mpr ?_
  intro authorization hheader
  cases hheader
  rw [withoutPrefix_bearer]
  have hderives : testEntry.Derives "sk-test123456789" := ⟨by decide, rfl⟩
  have hplain : testEntry.Plain := by
    have h : ':' ∉ "00112233445566778899aabbccddeeff".toList := by decide
    exact h
  exact ⟨fun _ => ⟨testEntry, List.mem_singleton_self _, hderives⟩,
    fun _ => .inr ⟨testEntry, List.mem_singleton_self _, hderives, hplain⟩⟩

/-- The entry of the configuration opens the server as if it were the key. -/
theorem storedEntry_accepted : ¬ AcceptsHolders [testEntry] testConfig (bearer testText) := by
  intro h
  have hstored : Stored [testEntry] testText := ⟨testEntry, List.mem_singleton_self _, rfl⟩
  have haccepted : testConfig.verifyApiKey testPbkdf2Hmac (bearer testText) = .ok () := by
    have hskip : (bearer testText).path ∉ testConfig.skipPaths := by decide
    have hkeys : testConfig.validKeys = [testEntry].map ApiKeyEntry.text := rfl
    refine (verifyApiKey_iff rfl hkeys hskip).mpr ?_
    refine ⟨"Bearer " ++ testText, rfl, ?_⟩
    rw [withoutPrefix_bearer]
    exact .inl hstored
  obtain ⟨authorization, hheader, hholder⟩ := h.mp haccepted
  cases hheader
  rw [withoutPrefix_bearer] at hholder
  obtain ⟨e, hmem, hkey, hderives⟩ := hholder
  cases List.mem_singleton.mp hmem
  have hne : testPbkdf2Hmac (Bytes.encode testText) (Bytes.encode testEntry.saltUsed) 100000 ≠ .ok testHash := by
    decide
  exact hne hderives

end PyMotor
