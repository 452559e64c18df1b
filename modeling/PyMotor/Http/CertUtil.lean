import PyMotor.Http.ClientPool
import PyMotor.Recompute.Common
import PyMotor.Router.Dispatch

/-!
# TLS contexts and the servers that use them

`create_ssl_context` of `motor/common/http/cert_util.py` with the checks that it makes, and the servers that ask for a
context: `run_inference_worker_proc`, `ManagementServer.run` and `MgmtEndpoint._run_server`.
-/

namespace PyMotor

open Lib

/-! ## Certificates -/

structure KeyUsage where
  digitalSignature : Bool
  keyCertSign : Bool
  crlSign : Bool
deriving DecidableEq, Repr

/-- What the libraries read of a certificate; any reading can fail. A missing extension is none. -/
structure X509 where
  version : Except PyException Int
  signatureAlgorithm : Except PyException String
  isRsa : Except PyException Bool
  keySize : Except PyException Nat
  modulus : Except PyException Nat
  basicConstraintsCa : Except PyException (Option Bool)
  keyUsage : Except PyException (Option KeyUsage)
  notBefore : Except PyException ℚ
  notAfter : Except PyException ℚ
  issuerHash : Except PyException Nat
  subjectHash : Except PyException Nat
  digest : String → Except PyException String

structure PKey where
  modulus : Except PyException Nat

inductive Purpose
  | serverAuth
  | clientAuth
deriving DecidableEq, Repr

/-- The files, the clock, and what `OpenSSL`, `cryptography` and `ssl` do with them. -/
structure TlsLib where
  exists? : String → Bool
  read : String → Except PyException Bytes
  decode : Bytes → Except PyException String
  now : ℚ
  loadCertificate : Bytes → Except PyException X509
  loadPrivatekey : Bytes → Option String → Except PyException PKey
  verifyDirectlyIssuedBy : X509 → X509 → Except PyException Unit
  /-- `load_pem_x509_crl`, and `is_signature_valid` for the key of a certificate. -/
  crlSignatureValid : Bytes → X509 → Except PyException Bool
  sslContext : Purpose → Except PyException Unit
  loadCertChain : String → String → Option String → Except PyException Unit
  loadVerifyLocations : String → Except PyException Unit

/-- A check whose exceptions are failures. -/
def passes (check : Except PyException Bool) : Bool :=
  match check with
  | .ok passed => passed
  | .error _ => false

def secureAlgorithms : List String := ["sha256WithRSAEncryption", "sha384WithRSAEncryption", "sha512WithRSAEncryption"]

def minRsaLength : Nat := 3072

/-- `crypto.Error`. -/
def PyException.isCryptoError (e : PyException) : Bool :=
  match e with
  | .other type _ => type = "OpenSSL.crypto.Error"
  | _ => false

namespace TlsLib

def validateCertsAndKeysModulus (serverCrt : X509) (serverKey : PKey) : Bool :=
  passes do return (← serverCrt.modulus) = (← serverKey.modulus)

def validateCertSignature (lib : TlsLib) (cert caCert : X509) : Bool :=
  passes do
    lib.verifyDirectlyIssuedBy cert caCert
    return (← cert.issuerHash) = (← caCert.subjectHash)

/-- Also true when a certificate cannot be read. -/
def hasExpired (lib : TlsLib) (cert : X509) : Bool :=
  !passes do
    let beforeTime ← cert.notBefore
    let afterTime ← cert.notAfter
    return !(lib.now < beforeTime || afterTime < lib.now)

/-- `validate_server_certs`; the purpose of the certificate is only reported. -/
def validateServerCerts (lib : TlsLib) (serverCert : X509) : Bool :=
  passes do
    if (← serverCert.version) ≠ 2 then return false
    else if (← serverCert.signatureAlgorithm) ∉ secureAlgorithms then return false
    else if ← serverCert.isRsa then
      if (← serverCert.keySize) < minRsaLength then return false
      else return !lib.hasExpired serverCert
    else return false

/-- The private key, with the password and then without it; every failure ends the validation. -/
def loadKey (lib : TlsLib) (keyData : Bytes) (plainText : Option String) : Except PyException PKey :=
  match plainText with
  | none => lib.loadPrivatekey keyData none
  | some password =>
    match lib.loadPrivatekey keyData (some password) with
    | .ok key => .ok key
    | .error e => if e.isCryptoError then lib.loadPrivatekey keyData none else .error e

def validateCertAndKey (lib : TlsLib) (serverCrtPath serverKeyPath : String) (plainText : Option String)
    (caCrtPath : String) : Bool :=
  passes do
    let serverCert ← lib.loadCertificate (← lib.read serverCrtPath)
    let serverKey ← lib.loadKey (← lib.read serverKeyPath) plainText
    if !lib.validateServerCerts serverCert then return false
    else if !validateCertsAndKeysModulus serverCert serverKey then return false
    else if caCrtPath ≠ "" then
      let caCert ← lib.loadCertificate (← lib.read caCrtPath)
      return lib.validateCertSignature serverCert caCert
    else return true

/-- The CA flag and the key usage, as far as they can be read. -/
def caExtensions (caCert : X509) : Bool × KeyUsage :=
  let unused : KeyUsage := { digitalSignature := false, keyCertSign := false, crlSign := false }
  match caCert.basicConstraintsCa with
  | .error _ => (false, unused)
  | .ok ca =>
    match caCert.keyUsage with
    | .ok usage => (ca.getD false, usage.getD unused)
    | .error _ => (ca.getD false, unused)

/-- A key that is no RSA key has no least length here. -/
def shortRsaKey (caCert : X509) : Except PyException Bool := do
  if ← caCert.isRsa then return (← caCert.keySize) < minRsaLength else return false

def validateCaCerts (lib : TlsLib) (caCrtPath : String) : Bool :=
  passes do
    let caCert ← lib.loadCertificate (← lib.read caCrtPath)
    if (← caCert.version) ≠ 2 then return false
    else
      let (caFlag, usage) := caExtensions caCert
      if !(caFlag && usage.digitalSignature && usage.keyCertSign && usage.crlSign) then return false
      else
        let pkeyAlgorithm ← caCert.signatureAlgorithm
        if pkeyAlgorithm ∉ secureAlgorithms then return false
        else
          if ← shortRsaKey caCert then return false
          else
            let _ ← caCert.digest pkeyAlgorithm
            return !lib.hasExpired caCert

def validateCaCrl (lib : TlsLib) (caPath crlPath : String) : Bool :=
  passes do
    if !lib.exists? caPath then return false
    else if !lib.exists? crlPath then return false
    else
      let crlData ← lib.read crlPath
      let caCert ← lib.loadCertificate (← lib.read caPath)
      lib.crlSignatureValid crlData caCert

def decrypt (lib : TlsLib) (passwordFile : String) : String :=
  if !lib.exists? passwordFile then ""
  else
    match (do lib.decode (← lib.read passwordFile)) with
    | .ok password => String.ofList (Text.strip password.toList)
    | .error _ => ""

end TlsLib

/-! ## The context -/

/-- A context with what was loaded into it. -/
structure SslContext where
  purpose : Purpose
  certFile : String
  keyFile : String
  caFile : String
deriving DecidableEq, Repr

namespace TlsLib

/-- `if password_file and os.path.exists(password_file)`. -/
def hasPasswordFile (lib : TlsLib) (tlsConfig : TLSConfig) : Bool :=
  tlsConfig.passwdFile ≠ "" && lib.exists? tlsConfig.passwdFile

/-- `password_bytes`, with none for an empty password. -/
def passwordBytes (lib : TlsLib) (tlsConfig : TLSConfig) : Option String :=
  if lib.hasPasswordFile tlsConfig then
    let password := lib.decrypt tlsConfig.passwdFile
    if password ≠ "" then some password else none
  else none

/-- `create_ssl_context`; an exception gives none. -/
def createSslContext (lib : TlsLib) (tlsConfig : TLSConfig) (purpose : Purpose) : Option SslContext :=
  if tlsConfig.certFile = "" ∨ tlsConfig.keyFile = "" ∨ tlsConfig.caFile = "" then none
  else if !lib.exists? tlsConfig.certFile || !lib.exists? tlsConfig.keyFile || !lib.exists? tlsConfig.caFile then none
  else
    let created : Except PyException (Option SslContext) := do
      lib.sslContext purpose
      let password := lib.passwordBytes tlsConfig
      if lib.hasPasswordFile tlsConfig &&
          !lib.validateCertAndKey tlsConfig.certFile tlsConfig.keyFile password tlsConfig.caFile then return none
      else
        lib.loadCertChain tlsConfig.certFile tlsConfig.keyFile password
        if !lib.validateCaCerts tlsConfig.caFile then return none
        else
          lib.loadVerifyLocations tlsConfig.caFile
          if tlsConfig.crlFile ≠ "" && !lib.validateCaCrl tlsConfig.caFile tlsConfig.crlFile then return none
          else return some { purpose := purpose, certFile := tlsConfig.certFile, keyFile := tlsConfig.keyFile,
                             caFile := tlsConfig.caFile }
    match created with
    | .ok context => context
    | .error _ => none

end TlsLib

/-! ## The servers -/

/-- A server that starts serving; without a context it serves in plaintext. -/
structure Listener where
  app : String
  ssl : Option SslContext
deriving DecidableEq, Repr

/-- What the inference worker reads of the configuration of the coordinator. -/
structure WorkerConfig where
  workerMetaserverBasePort : Int := 12000
  deployMode : DeployMode := .pdSeparate
  workerMetaserverPort : Option Int := none
  inferTlsConfig : TLSConfig := {}

/-- `config.worker_metaserver_port`, once the worker has set it. -/
def WorkerConfig.metaserverPort (config : WorkerConfig) (workerIndex : Int) : Option Int :=
  if 0 < config.workerMetaserverBasePort ∧
      config.deployMode ∈ [DeployMode.cdpSeparate, .pdSeparate, .pdDisaggregationSingleContainer] then
    some (config.workerMetaserverBasePort + workerIndex)
  else config.workerMetaserverPort

/-- The servers of `run_inference_worker_proc`. -/
def runInferenceWorkerProc (lib : TlsLib) (config : WorkerConfig) (workerIndex : Int) : Except PyException (List Listener) :=
  let ssl := if config.inferTlsConfig.enableTls then lib.createSslContext config.inferTlsConfig .serverAuth else none
  let metaserver :=
    match config.metaserverPort workerIndex with
    | some _ => [{ app := "Inference Worker Metaserver", ssl := none }]
    | none => []
  .ok ({ app := "inference", ssl := ssl } :: metaserver)

/-- `ManagementServer.run`. -/
def runManagementServer (lib : TlsLib) (mgmtSslConfig : Option TLSConfig) : Except PyException (List Listener) :=
  match mgmtSslConfig with
  | some tlsConfig =>
    .ok [{ app := "management", ssl := if tlsConfig.enableTls then lib.createSslContext tlsConfig .serverAuth else none }]
  | none => .ok [{ app := "management", ssl := none }]

/-- `MgmtEndpoint._run_server`; a stopped endpoint serves no more. -/
def runMgmtEndpoint (lib : TlsLib) (mgmtTlsConfig : Option TLSConfig) (stopped : Bool) :
    Except PyException (List Listener) := do
  let ssl ←
    match mgmtTlsConfig with
    | some tlsConfig =>
      if tlsConfig.enableTls then
        match lib.createSslContext tlsConfig .serverAuth with
        | some context => pure (some context)
        | none => .error (.other "RuntimeError" "Failed to create ssl context")
      else pure none
    | none => pure none
  return if stopped then [] else [{ app := "EngineServer MgmtEndpoint", ssl := ssl }]

end PyMotor
