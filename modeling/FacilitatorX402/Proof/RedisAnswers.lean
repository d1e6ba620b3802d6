import FacilitatorX402.Infrastructure.PaymentStore
import FacilitatorX402.Infrastructure.ServiceStore
import FacilitatorX402.Library.Trace

/-!
# What Redis answers

Both pipelines send their commands to the same Redis, beside operations on the database and the chain
that are not the same. What a call has been told about a key, and what it means that Redis succeeds, is
said here once, for any interface that holds these commands.
-/

namespace FacilitatorX402

open Interact KeyStore

/-- Where the answer to an operation comes from. The clock and the generator of ids are those of the
process. -/
inductive Answerer where
  | redis
  | process
  | other
  deriving DecidableEq

/-- An interface some of whose operations are commands to Redis. -/
class OverRedis (I : Interface) where
  redis : KeyStore.Op Key → I.Op
  reply : (command : KeyStore.Op Key) → command.Ans → I.Ans (redis command)
  answerer : I.Op → Answerer
  redis_injective : Function.Injective redis

instance : OverRedis Payment.interface where
  redis := .redis
  reply _ answer := answer
  answerer
    | .redis _ => .redis
    | .now => .process
    | .generateId => .process
    | _ => .other
  redis_injective _ _ := Payment.Op.redis.inj

instance : OverRedis Service.interface where
  redis := .redis
  reply _ answer := answer
  answerer
    | .redis _ => .redis
    | .now => .process
    | .generateId => .process
    | _ => .other
  redis_injective _ _ := Service.Op.redis.inj

namespace OverRedis

section Events

variable {I : Interface} [OverRedis I] {ι : Type}

/-- A call got `'OK'` for a key. -/
def took (who : ι) (key : Key) : Event I Err ι :=
  ⟨who, redis (.setNx key), .ok (reply (.setNx key) true)⟩

/-- A call was answered that a key is deleted. -/
def dropped (who : ι) (key : Key) : Event I Err ι :=
  ⟨who, redis (.del key), .ok (reply (.del key) ())⟩

/-- The call got `'OK'` for the key, and has not deleted the key since. -/
def Retains (who : ι) (key : Key) (events : List (Event I Err ι)) : Prop :=
  Since (· = took who key) (· = dropped who key) events

/-- The key is not retained, and none of the operations outside of `Q` has failed. -/
abbrev Sound (Q : I.Op → Prop) (who : ι) (key : Key) : List (Event I Err ι) → Prop :=
  Clean (· = took who key) (· = dropped who key) Q

theorem Sound.of_dropped {Q : I.Op → Prop} {who : ι} {key : Key} {events : List (Event I Err ι)}
    (hdel : Q (redis (.del key))) (h : ¬ Failed Q events) :
    Sound Q who key (dropped who key :: events) := by
  refine .of_closes hdel (fun heq => ?_) rfl h
  cases redis_injective (congrArg Event.op heq)

/-- Redis commands are answered. -/
def RedisSucceeds {W : Type} (_ : W) (event : Event I Err ι) : Prop :=
  answerer event.op = .redis → event.answer.isOk = true

instance {W : Type} (world : W) (event : Event I Err ι) : Decidable (RedisSucceeds world event) :=
  inferInstanceAs (Decidable (_ → _))

/-- Redis, the clock and the generator of ids do not fail. -/
def Admits (op : I.Op) (answer : Except Err (I.Ans op)) : Prop :=
  match answerer op with
  | .redis => answer.isOk = true
  | .process => answer.isOk = true
  | .other => True

end Events

section Machines

variable {I : Interface} [OverRedis I] {ι : Type} {M : Machine I Err ι}

/-- The clock and the generator of ids always answer, and every operation can be answered without a
failure of Redis. -/
structure Answering (M : Machine I Err ι) : Prop where
  process : ∀ {who : ι} {world world' : M.World} {op : I.Op} {outcome : M.Outcome}
    {answer : Except Err (I.Ans op)}, M.exec who world op outcome = some (answer, world') →
    answerer op = .process → answer.isOk = true
  exists_exec : ∀ (who : ι) (world : M.World) (op : I.Op), ∃ outcome answer world',
    M.exec who world op outcome = some (answer, world') ∧ RedisSucceeds world ⟨who, op, answer⟩

theorem Answering.admits (h : Answering M) {who : ι} {world world' : M.World} {op : I.Op}
    {outcome : M.Outcome} {answer : Except Err (I.Ans op)}
    (hexec : M.exec who world op outcome = some (answer, world'))
    (hredis : RedisSucceeds world ⟨who, op, answer⟩) : Admits op answer := by
  unfold Admits
  split
  · rename_i hop
    exact hredis hop
  · rename_i hop
    exact h.process hexec hop
  · trivial

/-- While Redis succeeds, every call can be run to its end. -/
theorem Answering.exists_finished [DecidableEq ι] {α : Type} (h : Answering M) (cfg : Config M α)
    (who : ι) : ∃ last, Config.Reachable RedisSucceeds cfg last ∧ last.Finished who :=
  Config.exists_reachable_finished (fun cfg who op => h.exists_exec who cfg.world op) cfg who

/-- What is no command to Redis may be answered anything. -/
theorem exists_succeeding {who : ι} {world : M.World} {op : I.Op} (hop : answerer op ≠ .redis)
    (outcome : M.Outcome)
    (h : ∃ answer world', M.exec who world op outcome = some (answer, world')) :
    ∃ outcome answer world', M.exec who world op outcome = some (answer, world') ∧
      RedisSucceeds world ⟨who, op, answer⟩ := by
  obtain ⟨answer, world', hexec⟩ := h
  exact ⟨outcome, answer, world', hexec, fun hredis => absurd hredis hop⟩

end Machines

end OverRedis

end FacilitatorX402
