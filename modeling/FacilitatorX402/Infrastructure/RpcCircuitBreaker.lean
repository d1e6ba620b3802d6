import FacilitatorX402.Library.Requests
import Mathlib.Algebra.Ring.Int.Defs
import Mathlib.Data.List.Infix

/-!
# The circuit breaker with retries

`call` tests the state once and then makes its attempts, waiting between them. `enter` is what it does
up to the first attempt, and `settle` what it does when an attempt is over. How long it waits depends on
a random number, so any time may pass.
-/

namespace FacilitatorX402

/-- What `fn` can throw: an `Error` with its message, or any other value. -/
inductive RpcError (ε : Type) where
  | error (message : String)
  | value (thrown : ε)
  deriving DecidableEq

/-- What `call` can throw. It throws what the last attempt threw, and that is undefined when there was no
attempt. -/
inductive CallError (ε : Type) where
  | circuitOpen
  | lastErr (err : Option (RpcError ε))
  deriving DecidableEq

/-- `toLowerCase`: besides the capitals, two characters have a lower case that holds an ASCII letter. -/
def lowerCaseChar (c : Char) : List Char :=
  if c = Char.ofNat 0x212A then ['k']
  else if c = Char.ofNat 0x130 then ['i', Char.ofNat 0x307]
  else [c.toLower]

def NON_RETRYABLE_PATTERNS : List String :=
  ["insufficient funds", "nonce too low", "execution reverted", "gas required exceeds",
    "already known"]

def isRetryable {ε : Type} (err : RpcError ε) : Bool :=
  let msg := match err with
    | .error message => message.toList.flatMap lowerCaseChar
    | .value _ => []
  !NON_RETRYABLE_PATTERNS.any fun p => p.toList <:+: msg

structure CircuitBreakerConfig where
  failureThreshold : Option Nat := none
  successThreshold : Option Nat := none
  openDurationMs : Option Int := none
  maxRetries : Option Nat := none

inductive RpcCircuitState where
  | CLOSED
  | OPEN
  | HALF_OPEN
  deriving DecidableEq

structure RpcCircuitBreaker where
  state : RpcCircuitState
  failureCount : Int
  successCount : Int
  lastOpenedAt : Int
  failureThreshold : Nat
  successThreshold : Nat
  openDurationMs : Int
  maxRetries : Nat
  deriving DecidableEq

/-- How far `call` has come: it has returned or thrown, `fn` has been called for an attempt, or it
waits for the next attempt. -/
inductive CallProgress (ε α : Type) where
  | returned (value : α)
  | thrown (err : CallError ε)
  | invoked (attempt attempts : Nat)
  | delayed (attempt attempts : Nat)

namespace RpcCircuitBreaker

variable {ε α σ : Type}

/-- The constructor. -/
def new (cfg : CircuitBreakerConfig) : RpcCircuitBreaker where
  state := .CLOSED
  failureCount := 0
  successCount := 0
  lastOpenedAt := 0
  failureThreshold := cfg.failureThreshold.getD 5
  successThreshold := cfg.successThreshold.getD 2
  openDurationMs := cfg.openDurationMs.getD 30000
  maxRetries := cfg.maxRetries.getD 3

def trip (breaker : RpcCircuitBreaker) (now : Int) : RpcCircuitBreaker :=
  { breaker with state := .OPEN, lastOpenedAt := now, failureCount := 0 }

def reset (breaker : RpcCircuitBreaker) : RpcCircuitBreaker :=
  { breaker with state := .CLOSED, failureCount := 0, successCount := 0 }

def maybeTransitionFromOpen (breaker : RpcCircuitBreaker) (now : Int) : RpcCircuitBreaker :=
  if breaker.state ≠ .OPEN then breaker
  else if now - breaker.lastOpenedAt ≥ breaker.openDurationMs then
    { breaker with state := .HALF_OPEN, successCount := 0 }
  else breaker

def onSuccess (breaker : RpcCircuitBreaker) : RpcCircuitBreaker :=
  if breaker.state = .HALF_OPEN then
    let breaker := { breaker with successCount := breaker.successCount + 1 }
    if breaker.successCount ≥ breaker.successThreshold then breaker.reset else breaker
  else { breaker with failureCount := max 0 (breaker.failureCount - 1) }

def onFailure (breaker : RpcCircuitBreaker) (now : Int) : RpcCircuitBreaker :=
  if breaker.state = .HALF_OPEN then breaker.trip now
  else
    let breaker := { breaker with failureCount := breaker.failureCount + 1 }
    if breaker.failureCount ≥ breaker.failureThreshold then breaker.trip now else breaker

def attempts (breaker : RpcCircuitBreaker) : Nat :=
  if breaker.state = .HALF_OPEN then 1 else breaker.maxRetries

/-- `call` up to the first attempt. -/
def enter (breaker : RpcCircuitBreaker) (now : Int) : CallProgress ε α × RpcCircuitBreaker :=
  let breaker := breaker.maybeTransitionFromOpen now
  if breaker.state = .OPEN then (.thrown .circuitOpen, breaker)
  else if breaker.attempts = 0 then (.thrown (.lastErr none), breaker)
  else (.invoked 0 breaker.attempts, breaker)

/-- `call` once an attempt is over. -/
def settle (breaker : RpcCircuitBreaker) (attempt attempts : Nat) (outcome : Except (RpcError ε) α)
    (now : Int) : CallProgress ε α × RpcCircuitBreaker :=
  match outcome with
  | .ok value => (.returned value, breaker.onSuccess)
  | .error err =>
      if isRetryable err then
        if attempt + 1 < attempts then (.delayed attempt attempts, breaker.onFailure now)
        else (.thrown (.lastErr (some err)), breaker.onFailure now)
      else (.thrown (.lastErr (some err)), breaker)

/-- Whether a failure trips the breaker. -/
def trips (breaker : RpcCircuitBreaker) : Bool :=
  breaker.state = .HALF_OPEN || breaker.failureCount + 1 ≥ breaker.failureThreshold

/-! ## One call -/

/-- What a call finds around it, attempt by attempt: what overlapping calls do to the breaker while `fn`
runs and while it waits, and the clock when the attempt is over. -/
structure Around where
  during : RpcCircuitBreaker → RpcCircuitBreaker := id
  settledAt : Int
  delayed : RpcCircuitBreaker → RpcCircuitBreaker := id

/-- The attempts of a call that remain. `fn` is called while the breaker is in a state, and acts on a
world. -/
def attemptFrom (fn : RpcCircuitState → σ → Except (RpcError ε) α × σ) (around : Nat → Around)
    (attempts : Nat) : Nat → RpcCircuitBreaker → σ →
      Except (CallError ε) α × RpcCircuitBreaker × σ
  | 0, breaker, world => (.error (.lastErr none), breaker, world)
  | remaining + 1, breaker, world =>
      let attempt := attempts - (remaining + 1)
      let (outcome, world) := fn breaker.state world
      let breaker := (around attempt).during breaker
      match breaker.settle attempt attempts outcome (around attempt).settledAt with
      | (.returned value, breaker) => (.ok value, breaker, world)
      | (.thrown err, breaker) => (.error err, breaker, world)
      | (_, breaker) =>
          attemptFrom fn around attempts remaining ((around attempt).delayed breaker) world

def call (breaker : RpcCircuitBreaker) (startedAt : Int) (around : Nat → Around)
    (fn : RpcCircuitState → σ → Except (RpcError ε) α × σ) (world : σ) :
    Except (CallError ε) α × RpcCircuitBreaker × σ :=
  let breaker := breaker.maybeTransitionFromOpen startedAt
  if breaker.state = .OPEN then (.error .circuitOpen, breaker, world)
  else attemptFrom fn around breaker.attempts breaker.attempts breaker world

end RpcCircuitBreaker

/-! ## Overlapping calls -/

/-- Where a call is. -/
inductive CallPhase where
  | idle
  | invoked (attempt attempts : Nat)
  | delayed (attempt attempts : Nat)
  deriving DecidableEq

def CallProgress.phase {ε α : Type} : CallProgress ε α → CallPhase
  | .returned _ => .idle
  | .thrown _ => .idle
  | .invoked attempt attempts => .invoked attempt attempts
  | .delayed attempt attempts => .delayed attempt attempts

def CallProgress.invokedIn {ε α : Type} (state : RpcCircuitState) :
    CallProgress ε α → Option RpcCircuitState
  | .invoked _ _ => some state
  | _ => none

/-- A failure that counts. -/
def countsAsFailure {ε α : Type} : Except (RpcError ε) α → Bool
  | .ok _ => false
  | .error err => isRetryable err

/-- Calls of one breaker. Beside the breaker and the calls it is remembered when the breaker tripped
last, and how many successes have been completed since HALF-OPEN was entered last. -/
structure SharedRpcBreaker where
  breaker : RpcCircuitBreaker
  phase : Nat → CallPhase
  trippedAt : Option Int
  succeeded : Nat

/-- A call begins, an attempt of a call is over, or a call has waited long enough. -/
inductive RpcMove (ε α : Type) where
  | enter (who : Nat) (now : Int)
  | settle (who : Nat) (outcome : Except (RpcError ε) α) (now : Int)
  | wake (who : Nat)

namespace SharedRpcBreaker

variable {ε α : Type}

def new (cfg : CircuitBreakerConfig) : SharedRpcBreaker where
  breaker := .new cfg
  phase _ := .idle
  trippedAt := none
  succeeded := 0

/-- `who` calls `call`. The reply of a move is the state that `fn` is called in, if it is called. -/
def enter (shared : SharedRpcBreaker) (who : Nat) (now : Int) :
    Option RpcCircuitState × SharedRpcBreaker :=
  match shared.phase who with
  | .idle =>
      let (progress, breaker) := @RpcCircuitBreaker.enter ε α shared.breaker now
      let halfOpens := shared.breaker.state = .OPEN ∧ breaker.state = .HALF_OPEN
      (progress.invokedIn breaker.state,
        { shared with
          breaker := breaker
          phase := Function.update shared.phase who progress.phase
          succeeded := if halfOpens then 0 else shared.succeeded })
  | _ => (none, shared)

/-- The attempt of `who` is over. -/
def settle (shared : SharedRpcBreaker) (who : Nat) (outcome : Except (RpcError ε) α) (now : Int) :
    SharedRpcBreaker :=
  match shared.phase who with
  | .invoked attempt attempts =>
      let (progress, breaker) := shared.breaker.settle attempt attempts outcome now
      { breaker := breaker
        phase := Function.update shared.phase who progress.phase
        trippedAt := if countsAsFailure outcome ∧ shared.breaker.trips then some now else shared.trippedAt
        succeeded := if outcome.isOk then shared.succeeded + 1 else shared.succeeded }
  | _ => shared

/-- `who` goes on to its next attempt. -/
def wake (shared : SharedRpcBreaker) (who : Nat) : Option RpcCircuitState × SharedRpcBreaker :=
  match shared.phase who with
  | .delayed attempt attempts =>
      (some shared.breaker.state,
        { shared with phase := Function.update shared.phase who (.invoked (attempt + 1) attempts) })
  | _ => (none, shared)

def serve (shared : SharedRpcBreaker) : RpcMove ε α → Option RpcCircuitState × SharedRpcBreaker
  | .enter who now => @enter ε α shared who now
  | .settle who outcome now => (none, shared.settle who outcome now)
  | .wake who => shared.wake who

end SharedRpcBreaker

end FacilitatorX402
