import FacilitatorX402.Library.Requests
import Mathlib.Algebra.Ring.Int.Defs

/-!
# The rate limit of a seller

A hook call counts its request with an INCR, and the call that has made the counter sends an EXPIRE. Any
commands of other calls may come between the two, and either may fail. Times are in milliseconds and are
those of Redis.
-/

namespace FacilitatorX402

/-- What becomes of a command: it takes effect and is answered, it takes effect and fails, or it only
fails. -/
inductive CommandFate where
  | done
  | lost
  | failed
  deriving DecidableEq

def CommandFate.takesEffect : CommandFate → Bool
  | .failed => false
  | _ => true

/-- A key with its value and its expiry. -/
structure LimitCounter where
  value : Nat
  expiresAt : Option Int
  deriving DecidableEq

/-- The counters, and of each key it is remembered how often it has been made and when last. -/
structure LimitCounters where
  stored : String → Option LimitCounter
  lifetimes : String → Nat
  madeAt : String → Int

/-- An INCR that took effect: the value it has left, and in which lifetime of its key. -/
structure Counted where
  key : String
  time : Int
  value : Nat
  lifetime : Nat
  deriving DecidableEq

namespace LimitCounters

def empty : LimitCounters where
  stored _ := none
  lifetimes _ := 0
  madeAt _ := 0

/-- A key that has expired does not exist. -/
def find (counters : LimitCounters) (now : Int) (key : String) : Option LimitCounter :=
  (counters.stored key).filter fun counter => counter.expiresAt.all (now < ·)

def incr (counters : LimitCounters) (key : String) (now : Int) : Counted × LimitCounters :=
  match counters.find now key with
  | some counter =>
      let counter := { counter with value := counter.value + 1 }
      (⟨key, now, counter.value, counters.lifetimes key⟩,
        { counters with stored := Function.update counters.stored key (some counter) })
  | none =>
      let lifetime := counters.lifetimes key + 1
      (⟨key, now, 1, lifetime⟩,
        { stored := Function.update counters.stored key (some ⟨1, none⟩)
          lifetimes := Function.update counters.lifetimes key lifetime
          madeAt := Function.update counters.madeAt key now })

def expire (counters : LimitCounters) (key : String) (seconds : Nat) (now : Int) : LimitCounters :=
  match counters.find now key with
  | some counter =>
      let counter := { counter with expiresAt := some (now + 1000 * seconds) }
      { counters with stored := Function.update counters.stored key (some counter) }
  | none => counters

variable {counters counters' : LimitCounters} {key other : String} {now : Int}

theorem find_congr (h : counters.stored key = counters'.stored key) :
    counters.find now key = counters'.find now key := by
  rw [find, find, h]

theorem find_of_stored {counter : LimitCounter} (h : counters.stored key = some counter)
    (hlive : ∀ expiresAt ∈ counter.expiresAt, now < expiresAt) : counters.find now key = some counter := by
  rw [find, h, Option.filter_eq_some_iff]
  refine ⟨rfl, ?_⟩
  cases hexpires : counter.expiresAt with
  | none => rfl
  | some expiresAt => exact decide_eq_true (hlive expiresAt hexpires)

theorem incr_stored (h : other ≠ key) :
    (counters.incr key now).2.stored other = counters.stored other := by
  unfold incr
  cases counters.find now key <;> exact Function.update_of_ne h ..

theorem expire_stored {seconds : Nat} (h : other ≠ key) :
    (counters.expire key seconds now).stored other = counters.stored other := by
  unfold expire
  cases counters.find now key with
  | none => rfl
  | some counter => exact Function.update_of_ne h ..

theorem incr_of_find {counter : LimitCounter} (h : counters.find now key = some counter) :
    (counters.incr key now).1.value = counter.value + 1 ∧
      (counters.incr key now).2.stored key = some ⟨counter.value + 1, counter.expiresAt⟩ := by
  simp [incr, h]

theorem incr_of_not_find (h : counters.find now key = none) :
    (counters.incr key now).1.value = 1 ∧
      (counters.incr key now).2.stored key = some ⟨1, none⟩ := by
  simp [incr, h]

theorem expire_of_find {seconds : Nat} {counter : LimitCounter}
    (h : counters.find now key = some counter) :
    (counters.expire key seconds now).stored key =
      some ⟨counter.value, some (now + 1000 * seconds)⟩ := by
  simp [expire, h]

theorem expire_of_not_find {seconds : Nat} (h : counters.find now key = none) :
    counters.expire key seconds now = counters := by
  simp [expire, h]

end LimitCounters

def SELLER_RATE_LIMITS : List (String × Nat) := [("verify", 60), ("settle", 30), ("default", 100)]

/-- What `createSellerRateLimitHook` reads. The configuration refuses a window below one second. -/
structure SellerRateLimitHook where
  endpoint : String
  RATE_LIMIT_WINDOW_MS : Nat
  window_min : 1000 ≤ RATE_LIMIT_WINDOW_MS

structure RateLimitHeaders where
  limit : Nat
  remaining : Nat
  reset : Int
  deriving DecidableEq

structure RateLimitedBody where
  code : String
  reason : String
  message : String
  retryAfter : Nat
  deriving DecidableEq

/-- The hook lets the request pass, or replies 429. It sets no headers without a key, or when Redis has
failed. -/
inductive HookAnswer where
  | pass (headers : Option RateLimitHeaders)
  | tooMany (headers : RateLimitHeaders) (body : RateLimitedBody)
  deriving DecidableEq

def HookAnswer.isTooMany : HookAnswer → Bool
  | .pass _ => false
  | .tooMany _ _ => true

/-- `slice(0, units)`: a character beyond the basic plane has two units, and half of one is no letter. -/
def sliceUnits (units : Nat) : List Char → List Char
  | [] => []
  | c :: text =>
      let size := if c.toNat < 0x10000 then 1 else 2
      if size ≤ units then c :: sliceUnits (units - size) text else []

def isAsciiAlphanumeric (c : Char) : Bool :=
  ('a' ≤ c && c ≤ 'z') || ('A' ≤ c && c ≤ 'Z') || ('0' ≤ c && c ≤ '9')

def keyPrefix (apiKey : String) : String :=
  String.ofList ((sliceUnits 16 apiKey.toList).filter isAsciiAlphanumeric)

namespace SellerRateLimitHook

variable (hook : SellerRateLimitHook)

def limit : Nat := (SELLER_RATE_LIMITS.lookup hook.endpoint).getD 100

/-- `Math.ceil(windowMs / 1000)`. -/
def windowSec : Nat := (hook.RATE_LIMIT_WINDOW_MS + 999) / 1000

def redisKey (apiKey : String) : String := "rl:seller:" ++ hook.endpoint ++ ":" ++ keyPrefix apiKey

theorem limit_pos : 1 ≤ hook.limit := by
  simp only [limit, SELLER_RATE_LIMITS, List.lookup_cons, List.lookup_nil]
  cases hook.endpoint == "verify" <;> cases hook.endpoint == "settle" <;>
    cases hook.endpoint == "default" <;> simp

theorem windowSec_pos : 1 ≤ hook.windowSec := by
  have hwindow := hook.window_min
  unfold windowSec
  omega

/-- The hook after its commands. -/
def finish (current : Nat) (now : Int) : HookAnswer :=
  let headers : RateLimitHeaders := {
    limit := hook.limit
    remaining := hook.limit - current
    reset := (now + 999) / 1000 + hook.windowSec }
  if current > hook.limit then
    .tooMany headers {
      code := "rate_limited"
      reason := "Seller rate limit exceeded"
      message := "Too many " ++ hook.endpoint ++ " requests. Limit: " ++ toString hook.limit ++
        "/min. Retry after " ++ toString hook.windowSec ++ "s."
      retryAfter := hook.windowSec }
  else .pass (some headers)

/-- A call whose commands nothing comes between and that does not fail. -/
def sellerRateLimitHook (counters : LimitCounters) (apiKey : Option String) (now : Int) :
    HookAnswer × LimitCounters :=
  match apiKey.filter (!·.isEmpty) with
  | none => (.pass none, counters)
  | some apiKey =>
      let (counted, counters) := counters.incr (hook.redisKey apiKey) now
      if counted.value = 1 then
        (hook.finish counted.value now, counters.expire (hook.redisKey apiKey) hook.windowSec now)
      else (hook.finish counted.value now, counters)

/-- The hook of /verify with the default window. -/
def verifyHook : SellerRateLimitHook where
  endpoint := "verify"
  RATE_LIMIT_WINDOW_MS := 60000
  window_min := by decide

end SellerRateLimitHook

/-! ## Overlapping calls -/

/-- A call whose INCR has made the counter sends its EXPIRE. -/
inductive HookPhase where
  | idle
  | expiring (key : String)
  deriving DecidableEq

structure SellerLimiter where
  counters : LimitCounters
  phase : Nat → HookPhase
  now : Int

/-- A hook call begins, or its EXPIRE is carried out. -/
inductive HookMove where
  | incr (who : Nat) (apiKey : Option String) (now : Int) (fate : CommandFate)
  | expire (who : Nat) (now : Int) (fate : CommandFate)

def HookMove.now : HookMove → Int
  | .incr _ _ now _ => now
  | .expire _ now _ => now

/-- What a move answers, and what it has counted. -/
structure HookReply where
  answer : Option HookAnswer := none
  counted : Option Counted := none
  deriving DecidableEq

namespace SellerLimiter

variable (hook : SellerRateLimitHook)

def empty : SellerLimiter where
  counters := .empty
  phase _ := .idle
  now := 0

def incr (limiter : SellerLimiter) (who : Nat) (apiKey : Option String) (now : Int)
    (fate : CommandFate) : HookReply × SellerLimiter :=
  let limiter := { limiter with now := now }
  match limiter.phase who with
  | .expiring _ => ({}, limiter)
  | .idle =>
      match apiKey.filter (!·.isEmpty) with
      | none => ({ answer := some (.pass none) }, limiter)
      | some apiKey =>
          let key := hook.redisKey apiKey
          if fate.takesEffect then
            let (counted, counters) := limiter.counters.incr key now
            let limiter := { limiter with counters := counters }
            -- the error of a lost command is caught like that of a failed one
            if fate = .lost then ({ answer := some (.pass none), counted := some counted }, limiter)
            else if counted.value = 1 then
              ({ counted := some counted },
                { limiter with phase := Function.update limiter.phase who (.expiring key) })
            else
              ({ answer := some (hook.finish counted.value now), counted := some counted }, limiter)
          else ({ answer := some (.pass none) }, limiter)

def expire (limiter : SellerLimiter) (who : Nat) (now : Int) (fate : CommandFate) :
    HookReply × SellerLimiter :=
  let limiter := { limiter with now := now }
  match limiter.phase who with
  | .idle => ({}, limiter)
  | .expiring key =>
      let counters :=
        if fate.takesEffect then limiter.counters.expire key hook.windowSec now else limiter.counters
      let answer := if fate = .done then hook.finish 1 now else .pass none
      ({ answer := some answer },
        { limiter with counters, phase := Function.update limiter.phase who .idle })

def serve (limiter : SellerLimiter) : HookMove → HookReply × SellerLimiter
  | .incr who apiKey now fate => limiter.incr hook who apiKey now fate
  | .expire who now fate => limiter.expire hook who now fate

end SellerLimiter

end FacilitatorX402
