import FacilitatorX402.Infrastructure.RpcCircuitBreaker

/-!
# Failover between two RPC nodes

The client keeps a breaker for each node. The URL of the fallback is read from a field that nothing
assigns, so `fn` is called there with `undefined`.
-/

namespace FacilitatorX402

structure RpcFailoverConfig where
  primaryUrl : String
  fallbackUrl : Option String := none
  breaker : CircuitBreakerConfig := {}

structure RpcFailoverClient where
  primaryBreaker : RpcCircuitBreaker
  fallbackBreaker : Option RpcCircuitBreaker
  deriving DecidableEq

/-- What a call of the client finds around it: for each node what overlapping calls do and the clock,
and what they do to the breaker of the fallback before it is tried. They change none of its settings. -/
structure FailoverAround where
  primaryStartedAt : Int
  primary : Nat → RpcCircuitBreaker.Around
  meanwhile : RpcCircuitBreaker → RpcCircuitBreaker := id
  meanwhile_maxRetries : ∀ breaker, (meanwhile breaker).maxRetries = breaker.maxRetries := by
    exact fun _ => rfl
  fallbackStartedAt : Int
  fallback : Nat → RpcCircuitBreaker.Around

namespace RpcFailoverClient

variable {ε α σ : Type}

/-- The constructor. An empty URL is no URL. -/
def new (cfg : RpcFailoverConfig) : RpcFailoverClient where
  primaryBreaker := .new cfg.breaker
  fallbackBreaker := if (cfg.fallbackUrl.getD "").isEmpty then none else some (.new cfg.breaker)

/-- A field that is read and never assigned. -/
def _fallbackUrl (_ : RpcFailoverClient) : Option String := none

/-- `fn` is called with a URL, or with `undefined`. -/
def call (client : RpcFailoverClient) (around : FailoverAround) (primaryUrl : String)
    (fn : Option String → σ → Except (RpcError ε) α × σ) (world : σ) :
    Except (CallError ε) α × RpcFailoverClient × σ :=
  match client.primaryBreaker.call around.primaryStartedAt around.primary
      (fun _ => fn (some primaryUrl)) world with
  | (.ok value, primaryBreaker, world) => (.ok value, { client with primaryBreaker }, world)
  | (.error primaryErr, primaryBreaker, world) =>
      match client.fallbackBreaker with
      | none => (.error primaryErr, { client with primaryBreaker }, world)
      | some fallbackBreaker =>
          let fallbackUrl := client._fallbackUrl
          let (result, fallbackBreaker, world) :=
            (around.meanwhile fallbackBreaker).call around.fallbackStartedAt around.fallback
              (fun _ => fn fallbackUrl) world
          (result, ⟨primaryBreaker, some fallbackBreaker⟩, world)

end RpcFailoverClient

end FacilitatorX402
