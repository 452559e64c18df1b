import PyMotor.Lib.Numeral
import PyMotor.Lib.Bytes
import PyMotor.Recompute.Common

/-!
# API keys

`PBKDF2KeyEncryption` of `motor/common/http/key_encryption.py`, and `verify_api_key` of
`motor/coordinator/api_server/inference_server.py`. The derivation of the hash library and the random bytes of a salt are
inputs of it.
-/

namespace PyMotor

open Lib

/-- `hashlib.pbkdf2_hmac` with `sha256` and a length of 32, of a key, a salt and a number of iterations. -/
abbrev Pbkdf2Hmac := Bytes → Bytes → Int → Except PyException Bytes

namespace PBKDF2KeyEncryption

variable (pbkdf2Hmac : Pbkdf2Hmac)

/-- `secrets.token_hex` of the random bytes. -/
def generateSalt (random : Bytes) : String := String.ofList (Text.hex random)

/-- The salt that `encrypt_key` uses. -/
def saltOr (salt : Option String) (random : Bytes) : String :=
  match salt with
  | none => generateSalt random
  | some salt => if salt = "" then generateSalt random else salt

/-- The derived key in hexadecimal digits. -/
def derivedKey (key salt : String) (iterations : Int) : Except PyException (List Char) :=
  (pbkdf2Hmac (Bytes.encode key) (Bytes.encode salt) iterations).map Text.hex

def encryptKey (plainKey : String) (salt : Option String) (iterations : Int) (random : Bytes) :
    Except PyException String :=
  if plainKey = "" then .error (.other "ValueError" "Plain key cannot be empty")
  else
    let salt := saltOr salt random
    match derivedKey pbkdf2Hmac plainKey salt iterations, Text.str iterations with
    | .error e, _ => .error e
    | .ok _, none => .error (.builtin "ValueError")
    | .ok encrypted, some count => .ok (String.ofList (salt.toList ++ ':' :: count ++ ':' :: encrypted))

/-- Every exception of the body gives `False`, also that of `compare_digest` at a stored hash outside ASCII. -/
def verifyKey (plainKey encryptedKey : String) : Bool :=
  if plainKey = "" || encryptedKey = "" then false
  else
    match Text.splitMax ':' 2 encryptedKey.toList with
    | [storedSalt, storedIterations, storedHash] =>
      match Text.int 10 storedIterations with
      | none => false
      | some iterations =>
        match derivedKey pbkdf2Hmac plainKey (String.ofList storedSalt) iterations with
        | .error _ => false
        | .ok computedHash => computedHash == storedHash
    | _ => false

end PBKDF2KeyEncryption

def verifyApiKeyAgainstValidKeys (pbkdf2Hmac : Pbkdf2Hmac) (plainKey : String) (validKeys : List String) : Bool :=
  validKeys.any fun encryptedKey => PBKDF2KeyEncryption.verifyKey pbkdf2Hmac plainKey encryptedKey

def APIKeyConfig.defaultSkipPaths : List String :=
  ["/", "/startup", "/readiness", "/liveness", "/metrics", "/instances/refresh", "/docs", "/redoc", "/openapi.json",
    "/favicon.ico"]

structure APIKeyConfig where
  enableApiKey : Bool := false
  validKeys : List String := []
  headerName : String := "Authorization"
  keyPrefix : String := "Bearer "
  skipPaths : List String := APIKeyConfig.defaultSkipPaths

/-- The path of a request and `request.headers.get`. -/
structure KeyRequest where
  path : String
  headers : String → Option String

namespace APIKeyConfig

variable (pbkdf2Hmac : Pbkdf2Hmac) (config : APIKeyConfig)

/-- The header value without the prefix, when the prefix is there. -/
def withoutPrefix (authorization : String) : String :=
  if config.keyPrefix ≠ "" ∧ Text.startsWith config.keyPrefix.toList authorization.toList = true then
    String.ofList (authorization.toList.drop config.keyPrefix.length)
  else authorization

def verifyApiKey (request : KeyRequest) : Except PyException Unit :=
  if !config.enableApiKey then .ok ()
  else if config.skipPaths.contains request.path then .ok ()
  else
    match request.headers config.headerName with
    | none => .error (.httpException 401 "Missing Authorization header")
    | some authorization =>
      if authorization = "" then .error (.httpException 401 "Missing Authorization header")
      else
        let apiKey := config.withoutPrefix authorization
        if config.validKeys.contains apiKey then .ok ()
        else if verifyApiKeyAgainstValidKeys pbkdf2Hmac apiKey config.validKeys then .ok ()
        else .error (.httpException 403 "Invalid API Key")

end APIKeyConfig

end PyMotor
