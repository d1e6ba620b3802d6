/-!
# The rate limits of the routes

The configuration that a route hands to the rate limiter: how many requests are allowed in a window, and
the key under which a request is counted.
-/

namespace FacilitatorX402

structure RouteLimits where
  ip : Nat
  seller : Nat
  deriving DecidableEq

/-- The limits that override the defaults. -/
structure RateLimitConfig where
  verify : Option RouteLimits := none
  settle : Option RouteLimits := none
  receipts : Option Nat := none

inductive LimitedEndpoint where
  | verify
  | settle
  | receipts
  deriving DecidableEq

def LimitedEndpoint.name : LimitedEndpoint → String
  | .verify => "verify"
  | .settle => "settle"
  | .receipts => "receipts"

/-- What of a request is read: the address, and the header `x-seller-id`. -/
structure LimitedRequest where
  ip : String
  sellerId : Option String := none
  deriving DecidableEq

/-- The options of the limiter. -/
structure RouteRateLimit where
  max : Nat
  timeWindow : String
  keyGenerator : LimitedRequest → String

/-- `if (seller)`: an empty header is no header. -/
def LimitedRequest.seller (request : LimitedRequest) : Option String :=
  request.sellerId.filter (!·.isEmpty)

namespace RateLimitConfig

variable (cfg : RateLimitConfig)

def verifyLimits : RouteLimits := cfg.verify.getD { ip := 30, seller := 60 }

def settleLimits : RouteLimits := cfg.settle.getD { ip := 20, seller := 40 }

def limits (endpoint : LimitedEndpoint) : RouteLimits :=
  if endpoint = .verify then cfg.verifyLimits else cfg.settleLimits

def buildRouteRateLimit (endpoint : LimitedEndpoint) : RouteRateLimit :=
  if endpoint = .receipts then {
    max := cfg.receipts.getD 60
    timeWindow := "1 minute"
    keyGenerator := fun request => "rl:receipts:ip:" ++ request.ip }
  else {
    max := (cfg.limits endpoint).ip
    timeWindow := "1 minute"
    keyGenerator := fun request =>
      match request.seller with
      | some seller => "rl:" ++ endpoint.name ++ ":seller:" ++ seller
      | none => "rl:" ++ endpoint.name ++ ":ip:" ++ request.ip }

end RateLimitConfig

/-- Whether a limiter with some options admits a request after those of the same window, newest first. -/
abbrev RateLimiter := RouteRateLimit → List LimitedRequest → LimitedRequest → Bool

/-- How many requests of a window are admitted. -/
def RateLimiter.admitted (limiter : RateLimiter) (options : RouteRateLimit) :
    List LimitedRequest → Nat
  | [] => 0
  | request :: earlier =>
      limiter.admitted options earlier + if limiter options earlier request then 1 else 0

end FacilitatorX402
