import FacilitatorX402.Library.RunLength
import Mathlib.Algebra.Ring.Int.Defs

/-!
# The circuit breaker

`execute` has two halves: what it does before it calls `fn`, and what it does when the race between
`fn` and the timer is decided. The clock is read in each of them. Metrics and log lines are not
modelled, nothing reads them.
-/

namespace FacilitatorX402

inductive CircuitState where
  | CLOSED
  | OPEN
  | HALF_OPEN
  deriving DecidableEq

/-- What a call can throw: a `CircuitOpenError`, another `Error` with its message, or any value. -/
inductive Thrown (ε : Type) where
  | circuitOpenError (message : String)
  | error (message : String)
  | value (thrown : ε)
  deriving DecidableEq

structure CircuitBreakerOptions where
  name : String
  failureThreshold : Option Nat := none
  successThreshold : Option Nat := none
  resetTimeoutMs : Option Int := none
  callTimeoutMs : Option Nat := none

/-- The readonly fields. -/
structure BreakerSettings where
  name : String
  failureThreshold : Nat
  successThreshold : Nat
  resetTimeoutMs : Int
  callTimeoutMs : Nat
  deriving DecidableEq

structure CircuitBreaker extends BreakerSettings where
  state : CircuitState
  failures : Nat
  successes : Nat
  lastOpenedAt : Option Int
  deriving DecidableEq

/-- What decides the race of `withTimeout`: `fn` is fulfilled, `fn` is rejected (or throws at once),
or the timer of `callTimeoutMs` fires. Whatever `fn` does afterwards is ignored. -/
inductive Race (ε α : Type) where
  | fulfilled (value : α)
  | rejected (thrown : Thrown ε)
  | timer
  deriving DecidableEq

namespace BreakerSettings

variable {ε α : Type}

/-- What a refused call throws. -/
def refusal (settings : BreakerSettings) : Thrown ε :=
  .circuitOpenError ("Circuit breaker [" ++ settings.name ++ "] is OPEN. Calls blocked.")

def timeoutMessage (settings : BreakerSettings) : String :=
  "Circuit breaker [" ++ settings.name ++ "] call timeout (" ++ toString settings.callTimeoutMs ++
    "ms)"

/-- What the promise of `withTimeout` settles with. -/
def withTimeout (settings : BreakerSettings) : Race ε α → Except (Thrown ε) α
  | .fulfilled value => .ok value
  | .rejected thrown => .error thrown
  | .timer => .error (.error settings.timeoutMessage)

end BreakerSettings

namespace CircuitBreaker

variable {ε α : Type}

/-- The constructor. -/
def new (opts : CircuitBreakerOptions) : CircuitBreaker :=
  { state := .CLOSED
    failures := 0
    successes := 0
    lastOpenedAt := none
    name := opts.name
    failureThreshold := opts.failureThreshold.getD 5
    successThreshold := opts.successThreshold.getD 2
    resetTimeoutMs := opts.resetTimeoutMs.getD 30000
    callTimeoutMs := opts.callTimeoutMs.getD 10000 }

/-- `now` is what `Date.now()` answers, which only an opening reads. -/
def transitionTo (cb : CircuitBreaker) (next : CircuitState) (now : Int) : CircuitBreaker :=
  match next with
  | .OPEN => { cb with state := .OPEN, lastOpenedAt := some now, failures := 0 }
  | .HALF_OPEN => { cb with state := .HALF_OPEN, successes := 0 }
  | .CLOSED => { cb with state := .CLOSED, failures := 0, successes := 0 }

def isOpen (cb : CircuitBreaker) (now : Int) : Bool × CircuitBreaker :=
  if cb.state = .OPEN then
    let elapsed := now - cb.lastOpenedAt.getD 0
    if elapsed ≥ cb.resetTimeoutMs then (false, cb.transitionTo .HALF_OPEN now) else (true, cb)
  else (false, cb)

def onSuccess (cb : CircuitBreaker) (now : Int) : CircuitBreaker :=
  if cb.state = .HALF_OPEN then
    let cb := { cb with successes := cb.successes + 1 }
    if cb.successes ≥ cb.successThreshold then cb.transitionTo .CLOSED now else cb
  else { cb with failures := 0 }

def onFailure (cb : CircuitBreaker) (now : Int) : CircuitBreaker :=
  let cb := { cb with failures := cb.failures + 1, successes := 0 }
  if cb.state = .HALF_OPEN ∨ cb.failures ≥ cb.failureThreshold then cb.transitionTo .OPEN now else cb

/-- `execute` up to the call of `fn`: the error of a refused call, or none when `fn` is called. -/
def enter (cb : CircuitBreaker) (now : Int) : Option (Thrown ε) × CircuitBreaker :=
  let (blocked, cb) := cb.isOpen now
  if blocked then (some cb.refusal, cb) else (none, cb)

/-- `execute` once `withTimeout` has settled: a `CircuitOpenError` of `fn` is passed on without being
recorded. -/
def leave (cb : CircuitBreaker) (result : Except (Thrown ε) α) (now : Int) : CircuitBreaker :=
  match result with
  | .ok _ => cb.onSuccess now
  | .error (.circuitOpenError _) => cb
  | .error (.error _) => cb.onFailure now
  | .error (.value _) => cb.onFailure now

/-- A call of `execute` that nothing overlaps: `fn` acts on a world of its own, the clock is read at
`startedAt` and at `endedAt`. -/
structure Call (σ ε α : Type) where
  fn : σ → Race ε α × σ
  startedAt : Int
  endedAt : Int

def execute {σ : Type} (cb : CircuitBreaker) (call : Call σ ε α) (world : σ) :
    Except (Thrown ε) α × CircuitBreaker × σ :=
  match cb.enter call.startedAt with
  | (some refusal, cb) => (.error refusal, cb, world)
  | (none, cb) =>
      let (race, world) := call.fn world
      let result := cb.withTimeout race
      (result, cb.leave result call.endedAt, world)

end CircuitBreaker

/-! ## Overlapping calls -/

/-- A call that `fn` has been started for: the state it was admitted in, and how many HALF_OPEN
periods had begun then. -/
structure Admission where
  who : Nat
  state : CircuitState
  period : Nat
  deriving DecidableEq

/-- A breaker shared by calls that overlap. Beside the code's own fields it is remembered which calls
are in flight, how often HALF_OPEN was entered, whose successes `successes` counts, and for each
change from HALF_OPEN to CLOSED in which period it came and whose successes were counted then. -/
structure SharedBreaker where
  breaker : CircuitBreaker
  inFlight : List Admission := []
  period : Nat := 0
  credited : List Admission := []
  closings : List (Nat × List Admission) := []
  deriving DecidableEq

/-- A call enters `execute`, or the race of a call in flight is decided. -/
inductive CallMove (ε α : Type) where
  | enter (who : Nat) (now : Int)
  | leave (who : Nat) (race : Race ε α) (now : Int)

namespace SharedBreaker

variable {ε α : Type}

def new (opts : CircuitBreakerOptions) : SharedBreaker := { breaker := .new opts }

/-- A call enters. The reply is what a refused call throws. -/
def enter (shared : SharedBreaker) (who : Nat) (now : Int) : Option (Thrown ε) × SharedBreaker :=
  let (refusal, breaker) := shared.breaker.enter now
  let halfOpens := shared.breaker.state ≠ .HALF_OPEN ∧ breaker.state = .HALF_OPEN
  let period := if halfOpens then shared.period + 1 else shared.period
  let credited := if halfOpens then [] else shared.credited
  let admission : Admission := { who := who, state := breaker.state, period := period }
  let inFlight := if refusal.isSome then shared.inFlight else admission :: shared.inFlight
  (refusal,
    { shared with breaker := breaker, inFlight := inFlight, period := period, credited := credited })

/-- Whose successes are counted after a call has answered. -/
def credit (shared : SharedBreaker) (admission : Admission) (answer : Except (Thrown ε) α) :
    List Admission :=
  match answer with
  | .ok _ =>
      if shared.breaker.state = .HALF_OPEN then admission :: shared.credited else shared.credited
  | .error (.circuitOpenError _) => shared.credited
  | .error _ => []

/-- A call in flight leaves. -/
def leave (shared : SharedBreaker) (admission : Admission) (answer : Except (Thrown ε) α)
    (now : Int) : SharedBreaker :=
  let breaker := shared.breaker.leave answer now
  let closes := shared.breaker.state = .HALF_OPEN ∧ breaker.state = .CLOSED
  let credited := shared.credit admission answer
  { breaker := breaker
    inFlight := shared.inFlight.filter (·.who ≠ admission.who)
    period := shared.period
    credited := if closes then [] else credited
    closings := if closes then (shared.period, credited) :: shared.closings else shared.closings }

/-- The reply is what the call of the move answers, if it is over with the move. -/
def serve (shared : SharedBreaker) (move : CallMove ε α) :
    Option (Except (Thrown ε) α) × SharedBreaker :=
  match move with
  | .enter who now =>
      let (refusal, shared) := shared.enter who now
      (refusal.map .error, shared)
  | .leave who race now =>
      match shared.inFlight.find? (·.who = who) with
      | none => (none, shared)
      | some admission =>
          let answer := shared.breaker.withTimeout race
          (some answer, shared.leave admission answer now)

end SharedBreaker

/-- Opens at the first failure, closes at the first success, and may be tried again after 100 ms. -/
def quickBreaker : CircuitBreakerOptions :=
  { name := "rpc-primary", failureThreshold := some 1, successThreshold := some 1,
    resetTimeoutMs := some 100 }

end FacilitatorX402
