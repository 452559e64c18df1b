import PyMotor.Http.CertUtil

/-!
# When TLS fails closed
-/

namespace PyMotor

open Lib

variable {lib : TlsLib} {tlsConfig : TLSConfig} {cert ca : X509} {key : PKey} {purpose : Purpose} {context : SslContext}

/-! ## What is to hold -/

/-- The certificate is of version 3, strong, and in its validity period. -/
structure ValidCert (lib : TlsLib) (cert : X509) : Prop where
  version : cert.version = .ok 2
  signatureAlgorithm : ∃ algorithm ∈ secureAlgorithms, cert.signatureAlgorithm = .ok algorithm
  isRsa : cert.isRsa = .ok true
  keyLength : ∃ size, cert.keySize = .ok size ∧ minRsaLength ≤ size
  period : ∃ notBefore notAfter, cert.notBefore = .ok notBefore ∧ cert.notAfter = .ok notAfter ∧
    notBefore ≤ lib.now ∧ lib.now ≤ notAfter

def SameModulus (cert : X509) (key : PKey) : Prop := ∃ modulus, cert.modulus = .ok modulus ∧ key.modulus = .ok modulus

def SignedBy (lib : TlsLib) (cert ca : X509) : Prop :=
  lib.verifyDirectlyIssuedBy cert ca = .ok () ∧ ∃ hash, cert.issuerHash = .ok hash ∧ ca.subjectHash = .ok hash

def CertFile (lib : TlsLib) (path : String) (cert : X509) : Prop :=
  ∃ data, lib.read path = .ok data ∧ lib.loadCertificate data = .ok cert

def KeyFile (lib : TlsLib) (path : String) (password : Option String) (key : PKey) : Prop :=
  ∃ data, lib.read path = .ok data ∧ lib.loadKey data password = .ok key

/-- The certificate and the key of a configuration are validated. -/
def ValidCertAndKey (lib : TlsLib) (tlsConfig : TLSConfig) : Prop :=
  ∃ cert key ca, CertFile lib tlsConfig.certFile cert ∧ KeyFile lib tlsConfig.keyFile (lib.passwordBytes tlsConfig) key ∧
    CertFile lib tlsConfig.caFile ca ∧ ValidCert lib cert ∧ SameModulus cert key ∧ SignedBy lib cert ca

/-- A revocation list that is signed by the CA. -/
def SignedCrl (lib : TlsLib) (caFile crlFile : String) : Prop :=
  lib.exists? caFile = true ∧ lib.exists? crlFile = true ∧ ∃ data ca, lib.read crlFile = .ok data ∧ CertFile lib caFile ca ∧
    lib.crlSignatureValid data ca = .ok true

/-- What has to be in order before a context is given. -/
structure Checked (lib : TlsLib) (tlsConfig : TLSConfig) : Prop where
  certAndKey : ValidCertAndKey lib tlsConfig
  ca : lib.validateCaCerts tlsConfig.caFile = true
  crl : tlsConfig.crlFile ≠ "" → SignedCrl lib tlsConfig.caFile tlsConfig.crlFile

/-- Every server that starts has a context of the configuration. -/
def ServesWithContext (lib : TlsLib) (tlsConfig : TLSConfig) (started : Except PyException (List Listener)) : Prop :=
  ∀ listeners, started = .ok listeners → ∀ listener ∈ listeners, ∃ context,
    listener.ssl = some context ∧ lib.createSslContext tlsConfig .serverAuth = some context

/-- A context means that everything is in order, and no server starts without one. -/
structure FailsClosed (lib : TlsLib) (config : WorkerConfig) (workerIndex : Int) (stopped : Bool) : Prop where
  context : ∀ purpose context, lib.createSslContext config.inferTlsConfig purpose = some context →
    Checked lib config.inferTlsConfig
  worker : ServesWithContext lib config.inferTlsConfig (runInferenceWorkerProc lib config workerIndex)
  management : ServesWithContext lib config.inferTlsConfig (runManagementServer lib (some config.inferTlsConfig))
  endpoint : ServesWithContext lib config.inferTlsConfig (runMgmtEndpoint lib (some config.inferTlsConfig) stopped)

/-- Everything can be loaded, and the CA and the revocation list pass. -/
structure Loads (lib : TlsLib) (tlsConfig : TLSConfig) (purpose : Purpose) : Prop where
  names : tlsConfig.certFile ≠ "" ∧ tlsConfig.keyFile ≠ "" ∧ tlsConfig.caFile ≠ ""
  files : lib.exists? tlsConfig.certFile = true ∧ lib.exists? tlsConfig.keyFile = true ∧ lib.exists? tlsConfig.caFile = true
  sslContext : lib.sslContext purpose = .ok ()
  certChain : lib.loadCertChain tlsConfig.certFile tlsConfig.keyFile (lib.passwordBytes tlsConfig) = .ok ()
  ca : lib.validateCaCerts tlsConfig.caFile = true
  verifyLocations : lib.loadVerifyLocations tlsConfig.caFile = .ok ()
  crl : tlsConfig.crlFile ≠ "" → SignedCrl lib tlsConfig.caFile tlsConfig.crlFile

/-! ## The checks -/

theorem passes_iff {check : Except PyException Bool} : passes check = true ↔ check = .ok true := by
  cases check with
  | ok passed => simp [passes]
  | error e => simp [passes]

theorem hasExpired_iff : lib.hasExpired cert = false ↔ ∃ notBefore notAfter, cert.notBefore = .ok notBefore ∧
    cert.notAfter = .ok notAfter ∧ notBefore ≤ lib.now ∧ lib.now ≤ notAfter := by
  rw [TlsLib.hasExpired, Bool.not_eq_false', passes_iff]
  cases hbefore : cert.notBefore with
  | error e => simp [bind, Except.bind]
  | ok before =>
      cases hafter : cert.notAfter with
      | error e => simp [bind, Except.bind]
      | ok after => simp [bind, Except.bind, pure, Except.pure]

theorem validateServerCerts_iff : lib.validateServerCerts cert = true ↔ ValidCert lib cert := by
  rw [TlsLib.validateServerCerts, passes_iff]
  constructor
  · intro h
    obtain ⟨version, hversion, h⟩ := bind_eq_ok.mp h
    split at h
    · cases h
    · rename_i hthree
      obtain ⟨algorithm, halgorithm, h⟩ := bind_eq_ok.mp h
      split at h
      · cases h
      · rename_i hsecure
        obtain ⟨isRsa, hrsa, h⟩ := bind_eq_ok.mp h
        split at h
        · rename_i hisRsa
          obtain ⟨size, hsize, h⟩ := bind_eq_ok.mp h
          split at h
          · cases h
          · rename_i hlength
            have hexpired : lib.hasExpired cert = false := by simpa [pure, Except.pure] using h
            exact ⟨by rw [hversion, not_not.mp hthree], ⟨algorithm, not_not.mp hsecure, halgorithm⟩, by rw [hrsa, hisRsa],
              ⟨size, hsize, not_lt.mp hlength⟩, hasExpired_iff.mp hexpired⟩
        · cases h
  · intro h
    obtain ⟨algorithm, hsecure, halgorithm⟩ := h.signatureAlgorithm
    obtain ⟨size, hsize, hlength⟩ := h.keyLength
    simp [bind, Except.bind, pure, Except.pure, h.version, halgorithm, hsecure, h.isRsa, hsize, not_lt.mpr hlength,
      hasExpired_iff.mpr h.period]

theorem validateCertsAndKeysModulus_iff : TlsLib.validateCertsAndKeysModulus cert key = true ↔ SameModulus cert key := by
  rw [TlsLib.validateCertsAndKeysModulus, passes_iff, SameModulus]
  cases cert.modulus with
  | error e => simp [bind, Except.bind]
  | ok modulus =>
      cases key.modulus with
      | error e => simp [bind, Except.bind]
      | ok modulus' => simp [bind, Except.bind, pure, Except.pure, eq_comm]

theorem validateCertSignature_iff : lib.validateCertSignature cert ca = true ↔ SignedBy lib cert ca := by
  rw [TlsLib.validateCertSignature, passes_iff, SignedBy]
  cases lib.verifyDirectlyIssuedBy cert ca with
  | error e => simp [bind, Except.bind]
  | ok u =>
      cases cert.issuerHash with
      | error e => simp [bind, Except.bind]
      | ok hash =>
          cases ca.subjectHash with
          | error e => simp [bind, Except.bind]
          | ok hash' => simp [bind, Except.bind, pure, Except.pure, eq_comm]

theorem validateCertAndKey_iff {certFile keyFile caFile : String} {password : Option String} (hca : caFile ≠ "") :
    lib.validateCertAndKey certFile keyFile password caFile = true ↔ ∃ cert key ca, CertFile lib certFile cert ∧
      KeyFile lib keyFile password key ∧ CertFile lib caFile ca ∧ ValidCert lib cert ∧ SameModulus cert key ∧
      SignedBy lib cert ca := by
  rw [TlsLib.validateCertAndKey, passes_iff]
  constructor
  · intro h
    obtain ⟨certData, hcertData, h⟩ := bind_eq_ok.mp h
    obtain ⟨cert, hcert, h⟩ := bind_eq_ok.mp h
    obtain ⟨keyData, hkeyData, h⟩ := bind_eq_ok.mp h
    obtain ⟨key, hkey, h⟩ := bind_eq_ok.mp h
    split at h
    · cases h
    · rename_i hvalid
      split at h
      · cases h
      · rename_i hmodulus
        obtain ⟨caData, hcaData, h⟩ := bind_eq_ok.mp h
        obtain ⟨ca, hcaCert, h⟩ := bind_eq_ok.mp h
        have hsigned : lib.validateCertSignature cert ca = true := by simpa [pure, Except.pure] using h
        rw [Bool.not_eq_true', Bool.not_eq_false] at hvalid hmodulus
        exact ⟨cert, key, ca, ⟨certData, hcertData, hcert⟩, ⟨keyData, hkeyData, hkey⟩, ⟨caData, hcaData, hcaCert⟩,
          validateServerCerts_iff.mp hvalid, validateCertsAndKeysModulus_iff.mp hmodulus,
          validateCertSignature_iff.mp hsigned⟩
  · rintro ⟨cert, key, ca, ⟨certData, hcertData, hcert⟩, ⟨keyData, hkeyData, hkey⟩, ⟨caData, hcaData, hcaCert⟩, hvalid,
      hmodulus, hsigned⟩
    simp [bind, Except.bind, pure, Except.pure, hcertData, hcert, hkeyData, hkey, hcaData, hcaCert, hca,
      validateServerCerts_iff.mpr hvalid, validateCertsAndKeysModulus_iff.mpr hmodulus,
      validateCertSignature_iff.mpr hsigned]

theorem validateCaCrl_iff {caFile crlFile : String} :
    lib.validateCaCrl caFile crlFile = true ↔ SignedCrl lib caFile crlFile := by
  rw [TlsLib.validateCaCrl, passes_iff]
  constructor
  · intro h
    split at h
    · cases h
    · rename_i hcaFile
      split at h
      · cases h
      · rename_i hcrlFile
        obtain ⟨data, hdata, h⟩ := bind_eq_ok.mp h
        obtain ⟨caData, hcaData, h⟩ := bind_eq_ok.mp h
        obtain ⟨ca, hca, h⟩ := bind_eq_ok.mp h
        rw [Bool.not_eq_true', Bool.not_eq_false] at hcaFile hcrlFile
        exact ⟨hcaFile, hcrlFile, data, ca, hdata, ⟨caData, hcaData, hca⟩, h⟩
  · rintro ⟨hcaFile, hcrlFile, data, ca, hdata, ⟨caData, hcaData, hca⟩, hsigned⟩
    simp [bind, Except.bind, hcaFile, hcrlFile, hdata, hcaData, hca, hsigned]

/-! ## The context -/

theorem createSslContext_eq (hnames : tlsConfig.certFile ≠ "" ∧ tlsConfig.keyFile ≠ "" ∧ tlsConfig.caFile ≠ "")
    (hfiles : lib.exists? tlsConfig.certFile = true ∧ lib.exists? tlsConfig.keyFile = true ∧
      lib.exists? tlsConfig.caFile = true) : lib.createSslContext tlsConfig purpose = some context ↔
    context = { purpose := purpose, certFile := tlsConfig.certFile, keyFile := tlsConfig.keyFile, caFile := tlsConfig.caFile } ∧
    lib.sslContext purpose = .ok () ∧
    (lib.hasPasswordFile tlsConfig = true → lib.validateCertAndKey tlsConfig.certFile tlsConfig.keyFile
      (lib.passwordBytes tlsConfig) tlsConfig.caFile = true) ∧
    lib.loadCertChain tlsConfig.certFile tlsConfig.keyFile (lib.passwordBytes tlsConfig) = .ok () ∧
    lib.validateCaCerts tlsConfig.caFile = true ∧ lib.loadVerifyLocations tlsConfig.caFile = .ok () ∧
    (tlsConfig.crlFile ≠ "" → lib.validateCaCrl tlsConfig.caFile tlsConfig.crlFile = true) := by
  have hpassword : (lib.hasPasswordFile tlsConfig = true → lib.validateCertAndKey tlsConfig.certFile tlsConfig.keyFile
      (lib.passwordBytes tlsConfig) tlsConfig.caFile = true) ↔
      (lib.hasPasswordFile tlsConfig && !lib.validateCertAndKey tlsConfig.certFile tlsConfig.keyFile
        (lib.passwordBytes tlsConfig) tlsConfig.caFile) = false := by simp
  have hcrl : (tlsConfig.crlFile ≠ "" → lib.validateCaCrl tlsConfig.caFile tlsConfig.crlFile = true) ↔
      (tlsConfig.crlFile ≠ "" && !lib.validateCaCrl tlsConfig.caFile tlsConfig.crlFile) = false := by simp
  rw [hpassword, hcrl]
  simp only [TlsLib.createSslContext, hnames, hfiles, or_self, if_false, Bool.not_true, Bool.or_self, Bool.false_eq_true]
  generalize (lib.hasPasswordFile tlsConfig && !lib.validateCertAndKey tlsConfig.certFile tlsConfig.keyFile
    (lib.passwordBytes tlsConfig) tlsConfig.caFile) = refused
  generalize (tlsConfig.crlFile ≠ "" && !lib.validateCaCrl tlsConfig.caFile tlsConfig.crlFile : Bool) = unsigned
  cases lib.sslContext purpose with
  | error e => simp [bind, Except.bind]
  | ok u =>
      cases refused with
      | true => simp [bind, Except.bind, pure, Except.pure]
      | false =>
          cases lib.loadCertChain tlsConfig.certFile tlsConfig.keyFile (lib.passwordBytes tlsConfig) with
          | error e => simp [bind, Except.bind]
          | ok v =>
              cases lib.validateCaCerts tlsConfig.caFile with
              | false => simp [bind, Except.bind, pure, Except.pure]
              | true =>
                  cases lib.loadVerifyLocations tlsConfig.caFile with
                  | error e => simp [bind, Except.bind]
                  | ok w =>
                      cases unsigned with
                      | true => simp [bind, Except.bind, pure, Except.pure]
                      | false => simp [bind, Except.bind, pure, Except.pure, eq_comm]

theorem createSslContext_iff : (∃ context, lib.createSslContext tlsConfig purpose = some context) ↔
    Loads lib tlsConfig purpose ∧ (lib.hasPasswordFile tlsConfig = true → ValidCertAndKey lib tlsConfig) := by
  by_cases hnames : tlsConfig.certFile ≠ "" ∧ tlsConfig.keyFile ≠ "" ∧ tlsConfig.caFile ≠ ""
  · by_cases hfiles : lib.exists? tlsConfig.certFile = true ∧ lib.exists? tlsConfig.keyFile = true ∧
        lib.exists? tlsConfig.caFile = true
    · have hvalid : lib.validateCertAndKey tlsConfig.certFile tlsConfig.keyFile (lib.passwordBytes tlsConfig)
          tlsConfig.caFile = true ↔ ValidCertAndKey lib tlsConfig := validateCertAndKey_iff hnames.2.2
      simp only [createSslContext_eq hnames hfiles, hvalid, validateCaCrl_iff]
      constructor
      · rintro ⟨context, -, hcontext, hpassword, hchain, hca, hlocations, hcrl⟩
        exact ⟨⟨hnames, hfiles, hcontext, hchain, hca, hlocations, hcrl⟩, hpassword⟩
      · rintro ⟨hloads, hpassword⟩
        exact ⟨_, rfl, hloads.sslContext, hpassword, hloads.certChain, hloads.ca, hloads.verifyLocations, hloads.crl⟩
    · refine iff_of_false ?_ fun h => hfiles h.1.files
      rintro ⟨context, h⟩
      have hmissing : (!lib.exists? tlsConfig.certFile || !lib.exists? tlsConfig.keyFile ||
          !lib.exists? tlsConfig.caFile) = true := by
        by_contra hnot
        exact hfiles (by simpa [and_assoc] using hnot)
      rw [TlsLib.createSslContext, if_neg (by tauto), if_pos hmissing] at h
      cases h
  · refine iff_of_false ?_ fun h => hnames h.1.names
    rintro ⟨context, h⟩
    have hempty : tlsConfig.certFile = "" ∨ tlsConfig.keyFile = "" ∨ tlsConfig.caFile = "" := by tauto
    rw [TlsLib.createSslContext, if_pos hempty] at h
    cases h

/-! ## The servers -/

section

variable {config : WorkerConfig} {workerIndex : Int} {stopped : Bool}

theorem management_iff (h : tlsConfig.enableTls = true) :
    ServesWithContext lib tlsConfig (runManagementServer lib (some tlsConfig)) ↔
      ∃ context, lib.createSslContext tlsConfig .serverAuth = some context := by
  have hrun : runManagementServer lib (some tlsConfig) =
      .ok [{ app := "management", ssl := lib.createSslContext tlsConfig .serverAuth }] := by
    simp only [runManagementServer, h, if_true]
  rw [ServesWithContext, hrun]
  constructor
  · intro hserves
    obtain ⟨context, -, hcontext⟩ := hserves _ rfl _ List.mem_cons_self
    exact ⟨context, hcontext⟩
  · rintro ⟨context, hcontext⟩ listeners heq listener hlistener
    cases heq
    cases List.mem_singleton.mp hlistener
    exact ⟨context, hcontext, hcontext⟩

theorem worker_iff (h : config.inferTlsConfig.enableTls = true) :
    ServesWithContext lib config.inferTlsConfig (runInferenceWorkerProc lib config workerIndex) ↔
      config.metaserverPort workerIndex = none ∧
        ∃ context, lib.createSslContext config.inferTlsConfig .serverAuth = some context := by
  rw [ServesWithContext]
  cases hport : config.metaserverPort workerIndex with
  | none =>
      have hrun : runInferenceWorkerProc lib config workerIndex =
          .ok [{ app := "inference", ssl := lib.createSslContext config.inferTlsConfig .serverAuth }] := by
        simp only [runInferenceWorkerProc, hport, h, if_true]
      rw [hrun]
      constructor
      · intro hserves
        obtain ⟨context, -, hcontext⟩ := hserves _ rfl _ List.mem_cons_self
        exact ⟨rfl, context, hcontext⟩
      · rintro ⟨-, context, hcontext⟩ listeners heq listener hlistener
        cases heq
        cases List.mem_singleton.mp hlistener
        exact ⟨context, hcontext, hcontext⟩
  | some port =>
      have hrun : runInferenceWorkerProc lib config workerIndex =
          .ok [{ app := "inference", ssl := lib.createSslContext config.inferTlsConfig .serverAuth },
            { app := "Inference Worker Metaserver", ssl := none }] := by
        simp only [runInferenceWorkerProc, hport, h, if_true]
      rw [hrun]
      refine iff_of_false (fun hserves => ?_) (by simp)
      obtain ⟨context, hssl, -⟩ := hserves _ rfl _ (List.mem_cons_of_mem _ List.mem_cons_self)
      cases hssl

theorem endpoint_serves (h : tlsConfig.enableTls = true) (stopped : Bool) :
    ServesWithContext lib tlsConfig (runMgmtEndpoint lib (some tlsConfig) stopped) := by
  intro listeners heq listener hlistener
  simp only [runMgmtEndpoint, h, if_true] at heq
  cases hcontext : lib.createSslContext tlsConfig .serverAuth with
  | none =>
      rw [hcontext] at heq
      cases heq
  | some context =>
      rw [hcontext] at heq
      cases stopped with
      | true =>
          cases heq
          cases hlistener
      | false =>
          cases heq
          cases List.mem_singleton.mp hlistener
          exact ⟨context, rfl, rfl⟩

/-- TLS fails closed exactly when the worker has no server for the metadata and everything is in order, the certificate and
the key too, which are validated only with a password file. -/
theorem failsClosed_iff (h : config.inferTlsConfig.enableTls = true) : FailsClosed lib config workerIndex stopped ↔
    config.metaserverPort workerIndex = none ∧ Loads lib config.inferTlsConfig .serverAuth ∧
      ValidCertAndKey lib config.inferTlsConfig := by
  constructor
  · intro hclosed
    obtain ⟨hport, context, hcontext⟩ := (worker_iff h).mp hclosed.worker
    exact ⟨hport, (createSslContext_iff.mp ⟨context, hcontext⟩).1, (hclosed.context _ context hcontext).certAndKey⟩
  · rintro ⟨hport, hloads, hvalid⟩
    have hcreated : ∃ context, lib.createSslContext config.inferTlsConfig .serverAuth = some context :=
      createSslContext_iff.mpr ⟨hloads, fun _ => hvalid⟩
    exact ⟨fun _ _ _ => ⟨hvalid, hloads.ca, hloads.crl⟩, (worker_iff h).mpr ⟨hport, hcreated⟩,
      (management_iff h).mpr hcreated, endpoint_serves h stopped⟩

end

/-! ## Files that are missing -/

def soundModulus : Nat := 2 ^ 4095 + 1

def soundCert : X509 where
  version := .ok 2
  signatureAlgorithm := .ok "sha256WithRSAEncryption"
  isRsa := .ok true
  keySize := .ok 4096
  modulus := .ok soundModulus
  basicConstraintsCa := .ok (some true)
  keyUsage := .ok (some { digitalSignature := true, keyCertSign := true, crlSign := true })
  notBefore := .ok 0
  notAfter := .ok 100
  issuerHash := .ok 7
  subjectHash := .ok 7
  digest _ := .ok "AA:BB"

def soundLib : TlsLib where
  exists? _ := true
  read _ := .ok []
  decode _ := .ok ""
  now := 50
  loadCertificate _ := .ok soundCert
  loadPrivatekey _ _ := .ok { modulus := .ok soundModulus }
  verifyDirectlyIssuedBy _ _ := .ok ()
  crlSignatureValid _ _ := .ok true
  sslContext _ := .ok ()
  loadCertChain _ _ _ := .ok ()
  loadVerifyLocations _ := .ok ()

def missingLib : TlsLib :=
  { soundLib with exists? := fun _ => false, read := fun _ => .error (.builtin "FileNotFoundError") }

def tlsWorker : WorkerConfig where
  deployMode := .singleNode
  inferTlsConfig := { enableTls := true }

theorem failsClosed_sound : FailsClosed soundLib tlsWorker 0 false := by
  have hca : soundLib.validateCaCerts tlsWorker.inferTlsConfig.caFile = true := by decide
  have hvalid : ValidCertAndKey soundLib tlsWorker.inferTlsConfig :=
    (validateCertAndKey_iff (by decide)).mp (by decide +kernel)
  have hloads : Loads soundLib tlsWorker.inferTlsConfig .serverAuth :=
    ⟨by decide, by decide, rfl, rfl, hca, rfl, fun hcrl => absurd rfl hcrl⟩
  exact (failsClosed_iff rfl).mpr ⟨by decide, hloads, hvalid⟩

theorem missingFiles_plaintext :
    runManagementServer missingLib (some tlsWorker.inferTlsConfig) = .ok [{ app := "management", ssl := none }] ∧
      ¬ FailsClosed missingLib tlsWorker 0 false := by
  have hrun : runManagementServer missingLib (some tlsWorker.inferTlsConfig) =
      .ok [{ app := "management", ssl := none }] := rfl
  refine ⟨hrun, fun hclosed => ?_⟩
  obtain ⟨context, hssl, -⟩ := hclosed.management _ hrun _ List.mem_cons_self
  cases hssl

end PyMotor
