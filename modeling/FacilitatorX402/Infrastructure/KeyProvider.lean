import FacilitatorX402.Library.CharPattern
import FacilitatorX402.Library.Requests

/-!
# The provider of the private key

A call that finds no cached key asks the provider, in one request or two, and goes on when the answer has
arrived. A request is answered by the services as they are at that moment.
-/

namespace FacilitatorX402

/-- The variables of `process.env` that the module reads. -/
structure KeyEnv where
  PRIVATE_KEY_PROVIDER : Option String := none
  FACILITATOR_PRIVATE_KEY : Option String := none
  AWS_REGION : Option String := none
  KMS_KEY_ID : Option String := none
  FACILITATOR_PRIVATE_KEY_CIPHERTEXT : Option String := none
  VAULT_ADDR : Option String := none
  VAULT_TOKEN : Option String := none
  VAULT_ROLE_ID : Option String := none
  VAULT_SECRET_ID : Option String := none
  VAULT_SECRET_PATH : Option String := none
  VAULT_SECRET_FIELD : Option String := none

/-- What a call awaits. -/
inductive KeyRequest where
  | importSdk
  | decrypt (region keyId ciphertext : String)
  | login (addr roleId secretId : String)
  | read (url token : String)
  deriving DecidableEq

/-- The parts of a Vault body that are read: `auth.client_token` and the fields of `data.data`. -/
structure VaultBody where
  clientToken : Option String := none
  data : String → Option String := fun _ => none

structure VaultResponse where
  status : Nat
  json : Except String VaultBody

def VaultResponse.ok (response : VaultResponse) : Bool := 200 ≤ response.status && response.status ≤ 299

/-- The services at a moment: whether the SDK can be imported, and what they answer. A request may also
fail with a message. -/
structure KeyService where
  sdkInstalled : Bool
  decrypt : String → String → String → Except String (Option String)
  login : String → String → String → Except String VaultResponse
  read : String → String → Except String VaultResponse

/-- What a call does next. -/
inductive KeyStep where
  | sends (request : KeyRequest)
  | throws (message : String)
  | resolves (key : String)
  deriving DecidableEq

/-- A text that counts as set. -/
def setText (text : Option String) : Option String := text.filter (!·.isEmpty)

/-- White space and line ends. -/
def isTrimmed (c : Char) : Bool :=
  c.toNat ∈ [0x9, 0xA, 0xB, 0xC, 0xD, 0x20, 0xA0, 0x1680, 0x2028, 0x2029, 0x202F, 0x205F, 0x3000, 0xFEFF]
    || (0x2000 ≤ c.toNat && c.toNat ≤ 0x200A)

def trim (text : String) : String :=
  String.ofList ((text.toList.dropWhile isTrimmed).reverse.dropWhile isTrimmed).reverse

/-- The pattern of a key: `0x` and 64 hexadecimal digits. -/
def keyPattern : CharPattern.Pattern :=
  CharPattern.lit "0x" ++ List.replicate 64 CharPattern.hexAnyCase

/-- A text as a key, with its prefix. -/
def checkedKey (text message : String) : Except String String :=
  let startsWith := CharPattern.begins (CharPattern.lit "0x") text.toList
  let key := if startsWith then text else "0x" ++ text
  if CharPattern.whole keyPattern key.toList then .ok key else .error message

def KeyStep.ofExcept : Except String String → KeyStep
  | .ok key => .resolves key
  | .error message => .throws message

namespace KeyEnv

variable (env : KeyEnv)

def secretPath : String := env.VAULT_SECRET_PATH.getD "secret/data/facilitatorx402/private-key"

def secretField : String := env.VAULT_SECRET_FIELD.getD "private_key"

def resolveFromEnv : Except String String :=
  match setText env.FACILITATOR_PRIVATE_KEY with
  | none => .error "FACILITATOR_PRIVATE_KEY is not set. Required when PRIVATE_KEY_PROVIDER=env."
  | some raw => checkedKey raw ("FACILITATOR_PRIVATE_KEY must be a 32-byte hex string " ++
      "(64 hex chars, optionally prefixed with 0x)")

/-- `resolveFromAwsKms` after the import. -/
def afterImport : KeyStep :=
  match setText env.AWS_REGION, setText env.KMS_KEY_ID,
      setText env.FACILITATOR_PRIVATE_KEY_CIPHERTEXT with
  | some region, some keyId, some ciphertext => .sends (.decrypt region keyId ciphertext)
  | _, _, _ => .throws ("PRIVATE_KEY_PROVIDER=awskms requires: AWS_REGION, KMS_KEY_ID, " ++
      "FACILITATOR_PRIVATE_KEY_CIPHERTEXT")

def afterDecrypt (plaintext : Option String) : KeyStep :=
  match plaintext with
  | none => .throws "AWS KMS DecryptCommand returned no plaintext"
  | some plaintext => .ofExcept
      (checkedKey (trim plaintext) "KMS decrypted value is not a valid 32-byte private key")

/-- The read of the secret, with a token. -/
def readSecret (addr token : String) : KeyStep :=
  .sends (.read (addr ++ "/v1/" ++ env.secretPath) token)

/-- `resolveFromVault` up to its first request. -/
def resolveFromVault : KeyStep :=
  match setText env.VAULT_ADDR with
  | none => .throws "PRIVATE_KEY_PROVIDER=vault requires VAULT_ADDR"
  | some addr =>
      match env.VAULT_TOKEN with
      | some token => env.readSecret addr token
      | none =>
          match setText env.VAULT_ROLE_ID, setText env.VAULT_SECRET_ID with
          | some roleId, some secretId => .sends (.login addr roleId secretId)
          | _, _ => .throws ("PRIVATE_KEY_PROVIDER=vault without VAULT_TOKEN requires " ++
              "VAULT_ROLE_ID and VAULT_SECRET_ID")

/-- `vaultAppRoleLogin` after its request, and the read that follows. -/
def afterLogin (addr : String) (response : VaultResponse) : KeyStep :=
  if !response.ok then .throws ("Vault AppRole login failed: HTTP " ++ toString response.status)
  else
    match response.json with
    | .error message => .throws message
    | .ok json =>
        match setText json.clientToken with
        | none => .throws "Vault AppRole login returned no client_token"
        | some clientToken => env.readSecret addr clientToken

def afterRead (response : VaultResponse) : KeyStep :=
  if !response.ok then
    .throws ("Vault KV read failed: HTTP " ++ toString response.status ++ " at " ++ env.secretPath)
  else
    match response.json with
    | .error message => .throws message
    | .ok json =>
        match setText (json.data env.secretField) with
        | none => .throws ("Vault secret at '" ++ env.secretPath ++ "' does not contain field '" ++
            env.secretField ++ "'")
        | some plaintext => .ofExcept
            (checkedKey plaintext "Vault secret is not a valid 32-byte private key")

/-- A call goes on with what the services have answered. -/
def resume (service : KeyService) : KeyRequest → KeyStep
  | .importSdk =>
      if service.sdkInstalled then env.afterImport
      else .throws ("PRIVATE_KEY_PROVIDER=awskms requires @aws-sdk/client-kms. " ++
        "Install with: npm install @aws-sdk/client-kms")
  | .decrypt region keyId ciphertext =>
      match service.decrypt region keyId ciphertext with
      | .error message => .throws message
      | .ok plaintext => afterDecrypt plaintext
  | .login addr roleId secretId =>
      match service.login addr roleId secretId with
      | .error message => .throws message
      | .ok response => env.afterLogin addr response
  | .read url token =>
      match service.read url token with
      | .error message => .throws message
      | .ok response => env.afterRead response

/-- The `switch` over the provider, up to the first request. -/
def resolveKey : KeyStep :=
  match env.PRIVATE_KEY_PROVIDER.getD "env" with
  | "env" => .ofExcept env.resolveFromEnv
  | "awskms" => .sends .importSdk
  | "vault" => env.resolveFromVault
  | provider => .throws ("Unknown PRIVATE_KEY_PROVIDER: " ++ provider ++
      ". Valid values: env, awskms, vault")

end KeyEnv

/-- Where a call is. It is remembered how many invalidations there had been when it began, and when its
request was answered. -/
inductive KeyPhase where
  | idle
  | waiting (request : KeyRequest) (startedAt : Nat)
  | answered (request : KeyRequest) (service : KeyService) (startedAt fetchedAt : Nat)

/-- The cache, the calls, and how many invalidations there have been; with the cached key, how many there
had been when it was fetched. -/
structure KeyProvider where
  _cachedKey : Option String
  cachedAt : Nat
  phase : Nat → KeyPhase
  invalidations : Nat

/-- A call begins, the services answer its request, the answer has arrived, or the cache is
invalidated. -/
inductive KeyMove where
  | getPrivateKey (who : Nat)
  | answer (who : Nat) (service : KeyService)
  | resume (who : Nat)
  | invalidateKeyCache

inductive KeyReply where
  | none
  | yields (key : String) (startedAt fetchedAt : Nat)
  | throws (message : String)
  deriving DecidableEq

namespace KeyProvider

def empty : KeyProvider where
  _cachedKey := none
  cachedAt := 0
  phase _ := .idle
  invalidations := 0

def setPhase (provider : KeyProvider) (who : Nat) (phase : KeyPhase) : KeyProvider :=
  { provider with phase := Function.update provider.phase who phase }

/-- What a call does next, when it has a key that was fetched then. -/
def take (provider : KeyProvider) (who startedAt fetchedAt : Nat) : KeyStep → KeyReply × KeyProvider
  | .sends request => (.none, provider.setPhase who (.waiting request startedAt))
  | .throws message => (.throws message, provider.setPhase who .idle)
  | .resolves key =>
      (.yields key startedAt fetchedAt,
        { provider with _cachedKey := some key, cachedAt := fetchedAt }.setPhase who .idle)

def getPrivateKey (env : KeyEnv) (provider : KeyProvider) (who : Nat) : KeyReply × KeyProvider :=
  match provider.phase who with
  | .idle =>
      match provider._cachedKey with
      | some key => (.yields key provider.invalidations provider.cachedAt, provider)
      | none => provider.take who provider.invalidations provider.invalidations env.resolveKey
  | _ => (.none, provider)

def answer (provider : KeyProvider) (who : Nat) (service : KeyService) : KeyProvider :=
  match provider.phase who with
  | .waiting request startedAt =>
      provider.setPhase who (.answered request service startedAt provider.invalidations)
  | _ => provider

def resume (env : KeyEnv) (provider : KeyProvider) (who : Nat) : KeyReply × KeyProvider :=
  match provider.phase who with
  | .answered request service startedAt fetchedAt =>
      provider.take who startedAt fetchedAt (env.resume service request)
  | _ => (.none, provider)

def invalidateKeyCache (provider : KeyProvider) : KeyProvider :=
  { provider with _cachedKey := none, invalidations := provider.invalidations + 1 }

def serve (env : KeyEnv) (provider : KeyProvider) : KeyMove → KeyReply × KeyProvider
  | .getPrivateKey who => provider.getPrivateKey env who
  | .answer who service => (.none, provider.answer who service)
  | .resume who => provider.resume env who
  | .invalidateKeyCache => (.none, provider.invalidateKeyCache)

end KeyProvider

end FacilitatorX402
