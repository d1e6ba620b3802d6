import FacilitatorX402.Infrastructure.ServiceStore

/-!
# Anti-replay protection of the services

Claims in Redis and the lookup in PostgreSQL. Both take the nonce and the signature hash as they come:
the hash is that of the signature's text, and the nonce keeps its letter case.
-/

namespace FacilitatorX402

open Interact

namespace Service

abbrev ServiceProgram (α : Type) := Program interface Err α

def redis {α : Type} (program : Program (KeyStore.interface Key) Err α) : ServiceProgram α :=
  program.lift redisHom

def redisSetNx (key : Key) : ServiceProgram Bool :=
  redis (@Program.call (KeyStore.interface Key) Err (KeyStore.Op.setNx key))

def redisDel (key : Key) : ServiceProgram Unit :=
  redis (@Program.call (KeyStore.interface Key) Err (KeyStore.Op.del key))

def ulid : ServiceProgram String := Op.generateId.call

/-- `Date.now()` and `new Date()`. -/
def dateNow : ServiceProgram Nat := Op.now.call

/-- `Promise.all` of two: either may come first, and the first failure is thrown. -/
def promiseAll {α β : Type} (first : ServiceProgram α) (second : ServiceProgram β) :
    ServiceProgram (α × β) := do
  let inOrder ← Op.race.call
  if inOrder then
    let x ← first.attempt
    let y ← second.attempt
    return (← Program.ofExcept x, ← Program.ofExcept y)
  else
    let y ← second.attempt
    let x ← first.attempt
    let y ← Program.ofExcept y
    return (← Program.ofExcept x, y)

def hashSignature (host : Host) (signature : String) : String := (host.sha256 signature).hex

inductive ReplayReason where
  | nonceUsed
  | signatureUsed
  deriving DecidableEq

def ReplayReason.text : ReplayReason → String
  | nonceUsed => "nonce_used"
  | signatureUsed => "signature_used"

/-- The reason of a duplicate, or none for a fresh payment. -/
abbrev ReplayCheckResult := Option ReplayReason

/-- A taken nonce leaves the claim of the signature where it is; a taken signature gives the nonce
back. -/
def claimNonceRedis (nonce signatureHash : String) : ServiceProgram ReplayCheckResult := do
  let (nonceClaimed, sigClaimed) ←
    promiseAll (redisSetNx (.nonce nonce)) (redisSetNx (.sig signatureHash))
  if !nonceClaimed then return some .nonceUsed
  else if !sigClaimed then
    redisDel (.nonce nonce)
    return some .signatureUsed
  else return none

def releaseNonceRedis (nonce signatureHash : String) : ServiceProgram Unit := do
  let _ ← promiseAll (redisDel (.nonce nonce)) (redisDel (.sig signatureHash))
  return ()

def findReplay (nonce signatureHash : String) : ServiceProgram (Option PaymentVerification) :=
  (Op.findReplay nonce signatureHash).call

def checkReplayPostgres (nonce signatureHash : String) : ServiceProgram ReplayCheckResult := do
  match ← findReplay nonce signatureHash with
  | none => return none
  | some existing =>
      if existing.nonce = some nonce then return some .nonceUsed
      else return some .signatureUsed

end Service

end FacilitatorX402
