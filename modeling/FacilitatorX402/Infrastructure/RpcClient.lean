import FacilitatorX402.Infrastructure.CircuitBreaker

/-!
# The resilient RPC client

A call goes to the primary endpoint through its breaker. When it is refused or fails, the same
closure is called with the fallback endpoint. The closure acts on a world, with everything it does,
also after the timer has given it up: `withTimeout` abandons a call without cancelling it.
-/

namespace FacilitatorX402

structure RpcConfig where
  RPC_URL : String
  RPC_URL_FALLBACK : String := ""

/-- The two breakers of the client, which all its calls share. -/
structure RpcBreakers where
  primaryCb : CircuitBreaker
  fallbackCb : CircuitBreaker

structure RpcUnavailableError where
  message : String := "All RPC endpoints are unavailable"
  deriving DecidableEq

/-- What a call finds around it: the clock where the breakers read it, and what overlapping calls do
to the breakers while it waits for an endpoint. -/
structure RpcSurroundings where
  primaryStart : Int
  primaryEnd : Int
  duringPrimary : RpcBreakers → RpcBreakers
  fallbackStart : Int
  fallbackEnd : Int
  duringFallback : RpcBreakers → RpcBreakers

namespace RpcClient

variable {σ ε α τ : Type}

def withFallback (config : RpcConfig) (fn : String → σ → Race ε α × σ) (around : RpcSurroundings)
    (breakers : RpcBreakers) (world : σ) : Except RpcUnavailableError α × RpcBreakers × σ :=
  if config.RPC_URL_FALLBACK = "" then
    (.error ⟨"No fallback RPC configured and primary is unavailable"⟩, breakers, world)
  else
    match @CircuitBreaker.enter ε breakers.fallbackCb around.fallbackStart with
    | (some _, cb) =>
        (.error ⟨"Both primary and fallback RPC are unavailable"⟩,
          { breakers with fallbackCb := cb }, world)
    | (none, cb) =>
        let (race, world) := fn config.RPC_URL_FALLBACK world
        let breakers := around.duringFallback { breakers with fallbackCb := cb }
        let result := breakers.fallbackCb.withTimeout race
        let breakers :=
          { breakers with fallbackCb := breakers.fallbackCb.leave result around.fallbackEnd }
        match result with
        | .ok value => (.ok value, breakers, world)
        | .error _ =>
            (.error ⟨"Both primary and fallback RPC are unavailable"⟩, breakers, world)

def withPrimary (config : RpcConfig) (fn : String → σ → Race ε α × σ) (around : RpcSurroundings)
    (breakers : RpcBreakers) (world : σ) : Except RpcUnavailableError α × RpcBreakers × σ :=
  match @CircuitBreaker.enter ε breakers.primaryCb around.primaryStart with
  | (some _, cb) => withFallback config fn around { breakers with primaryCb := cb } world
  | (none, cb) =>
      let (race, world) := fn config.RPC_URL world
      let breakers := around.duringPrimary { breakers with primaryCb := cb }
      let result := breakers.primaryCb.withTimeout race
      let breakers :=
        { breakers with primaryCb := breakers.primaryCb.leave result around.primaryEnd }
      match result with
      | .ok value => (.ok value, breakers, world)
      | .error _ => withFallback config fn around breakers world

/-- What becomes of one call of a wallet client's `sendTransaction`: the transaction that it
broadcasts, at once or late, and what decides its race against the timer. -/
structure SendAttempt (ε τ : Type) where
  broadcast : Option τ
  race : Race ε String

/-- `makeWalletClient(url).sendTransaction(txRequest)`: what it does may depend on what has been
broadcast before, as the nonce of an account does. -/
abbrev WalletClients (ε ρ τ : Type) := String → ρ → List τ → SendAttempt ε τ

/-- The closure of `sendTransaction`. Its world holds the transactions broadcast so far, newest
first. -/
def sendThrough {ρ : Type} (wallets : WalletClients ε ρ τ) (txRequest : ρ) (url : String)
    (sent : List τ) : Race ε String × List τ :=
  let attempt := wallets url txRequest sent
  (attempt.race, attempt.broadcast.toList ++ sent)

def sendTransaction {ρ : Type} (config : RpcConfig) (wallets : WalletClients ε ρ τ) (txRequest : ρ)
    (around : RpcSurroundings) (breakers : RpcBreakers) (sent : List τ) :
    Except RpcUnavailableError String × RpcBreakers × List τ :=
  withPrimary config (sendThrough wallets txRequest) around breakers sent

end RpcClient

end FacilitatorX402
