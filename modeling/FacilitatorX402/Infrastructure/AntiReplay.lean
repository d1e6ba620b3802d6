import FacilitatorX402.Infrastructure.Surroundings

/-!
# Anti-replay keys

The keys of one payment, claimed and given back one Redis command at a time. Keys are lower-cased,
so the letter case of a nonce or a signature makes no difference.
-/

namespace FacilitatorX402

open Interact

/-- A program that only talks to Redis. -/
abbrev RedisProgram (α : Type) := Program (KeyStore.interface Key) Err α

/-- `redis.set(key, '1', 'EX', ttl, 'NX')`: whether the answer is `'OK'`. -/
def redisSetNx (key : Key) : RedisProgram Bool :=
  @Program.call (KeyStore.interface Key) Err (KeyStore.Op.setNx key)

def redisDel (key : Key) : RedisProgram Unit :=
  @Program.call (KeyStore.interface Key) Err (KeyStore.Op.del key)

def nonceKey (nonce : String) : Key := .nonce (HexText.lowerCase nonce)

def signatureKey (signatureHash : String) : Key := .sig (HexText.lowerCase signatureHash)

def claimNonce (nonce : String) : RedisProgram Bool := redisSetNx (nonceKey nonce)

def claimSignatureHash (signatureHash : String) : RedisProgram Bool :=
  redisSetNx (signatureKey signatureHash)

def releaseNonce (nonce : String) : RedisProgram Unit := redisDel (nonceKey nonce)

def releaseSignatureHash (signatureHash : String) : RedisProgram Unit :=
  redisDel (signatureKey signatureHash)

section Sat

variable {L : Type} {P : Protocol (KeyStore.interface Key) Err L} {phase : L}

theorem sat_redisSetNx {key : Key} {post : L → Except Err Bool → Prop} :
    (redisSetNx key).Sat P phase post ↔ P.allowed phase (.setNx key) ∧
      ∀ (answer : Except Err Bool) (phase' : L),
        P.trans phase (.setNx key) answer phase' → post phase' answer :=
  @Program.sat_call (KeyStore.interface Key) Err L P (.setNx key) phase post

theorem sat_redisDel {key : Key} {post : L → Except Err Unit → Prop} :
    (redisDel key).Sat P phase post ↔ P.allowed phase (.del key) ∧
      ∀ (answer : Except Err Unit) (phase' : L),
        P.trans phase (.del key) answer phase' → post phase' answer :=
  @Program.sat_call (KeyStore.interface Key) Err L P (.del key) phase post

end Sat

end FacilitatorX402
