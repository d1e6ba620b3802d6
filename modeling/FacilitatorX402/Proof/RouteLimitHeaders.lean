import FacilitatorX402.Http.RouteRateLimit
import FacilitatorX402.Library.KeyedQuota

/-!
# The limit of an address and the header

The key is that of the seller that the request names, so that each value of the header has a limit of its
own.
-/

namespace FacilitatorX402

open KeyedQuota

/-- The limiter counts the requests of each key, and admits `max` of them in a window. -/
def RateLimiter.CountsPerKey (limiter : RateLimiter) : Prop :=
  ∀ options earlier request, limiter options earlier request = true ↔
    (earlier.map options.keyGenerator).count (options.keyGenerator request) < options.max

variable {limiter : RateLimiter} {options : RouteRateLimit} {endpoint : LimitedEndpoint}
  {cfg : RateLimitConfig}

theorem admitted_eq_taken (h : limiter.CountsPerKey) (requests : List LimitedRequest) :
    limiter.admitted options requests = taken options.max (requests.map options.keyGenerator) := by
  induction requests with
  | nil => rfl
  | cons request earlier ih =>
      rw [RateLimiter.admitted, ih, List.map_cons, taken]
      simp only [h options earlier request]

theorem ip_ne_seller (ip seller : List Char) : ":ip:".toList ++ ip ≠ ":seller:".toList ++ seller := by
  intro heq
  have htake := congrArg (List.take 2) heq
  rw [List.take_append_of_le_length (by decide), List.take_append_of_le_length (by decide)] at htake
  exact absurd htake (by decide)

/-- Requests of one address have one key when they name the same seller, or none. -/
theorem keyGenerator_inj (hendpoint : endpoint ≠ .receipts) {request other : LimitedRequest}
    (hip : request.ip = other.ip) :
    (cfg.buildRouteRateLimit endpoint).keyGenerator request =
        (cfg.buildRouteRateLimit endpoint).keyGenerator other ↔ request.seller = other.seller := by
  simp only [RateLimitConfig.buildRouteRateLimit, if_neg hendpoint]
  constructor
  · intro hkey
    have hlist := congrArg String.toList hkey
    cases hseller : request.seller with
    | none =>
        cases hother : other.seller with
        | none => rfl
        | some seller =>
            simp only [hseller, hother, String.toList_append, List.append_assoc] at hlist
            exact absurd (List.append_cancel_left (List.append_cancel_left hlist)) (ip_ne_seller _ _)
    | some seller =>
        cases hother : other.seller with
        | none =>
            simp only [hseller, hother, String.toList_append, List.append_assoc] at hlist
            exact absurd (List.append_cancel_left (List.append_cancel_left hlist)).symm
              (ip_ne_seller _ _)
        | some seller' =>
            simp only [hseller, hother, String.toList_append] at hlist
            exact congrArg some (String.toList_inj.mp (List.append_cancel_left hlist))
  · intro hseller
    rw [hseller, hip]

/-- The requests of one address with these headers. -/
def requestsFrom (ip : String) (headers : List (Option String)) : List LimitedRequest :=
  headers.map fun sellerId => { ip, sellerId }

/-- **The limit of an address.** Of the requests of one address in one window at most `limits.ip` are
admitted, exactly when that is none, when there are no more requests, or when all of them name the same
seller or none. -/
theorem admitted_le_iff (h : limiter.CountsPerKey) (hendpoint : endpoint ≠ .receipts) (ip : String)
    (headers : List (Option String)) :
    let requests := requestsFrom ip headers
    limiter.admitted (cfg.buildRouteRateLimit endpoint) requests ≤ (cfg.limits endpoint).ip ↔
      (cfg.limits endpoint).ip = 0 ∨ requests.length ≤ (cfg.limits endpoint).ip ∨
        ∀ request ∈ requests, ∀ other ∈ requests, other.seller = request.seller := by
  intro requests
  have hmax : (cfg.buildRouteRateLimit endpoint).max = (cfg.limits endpoint).ip := by
    simp only [RateLimitConfig.buildRouteRateLimit, if_neg hendpoint]
  have hip : ∀ request ∈ requests, request.ip = ip := by
    intro request hmem
    obtain ⟨sellerId, -, rfl⟩ := List.mem_map.mp hmem
    rfl
  rw [admitted_eq_taken h, hmax, taken_le_iff, List.length_map]
  refine or_congr_right (or_congr_right ?_)
  simp only [List.forall_mem_map]
  refine forall₂_congr fun request hrequest => forall₂_congr fun other hother => ?_
  exact keyGenerator_inj hendpoint ((hip other hother).trans (hip request hrequest).symm)

/-- The limiter that counts per key. -/
def countingLimiter : RateLimiter := fun options earlier request =>
  (earlier.map options.keyGenerator).count (options.keyGenerator request) < options.max

theorem admitted_le_iff_same :
    countingLimiter.admitted (RateLimitConfig.buildRouteRateLimit {} .verify)
      (requestsFrom "203.0.113.7" (List.replicate 40 (some "seller_004"))) ≤ 30 := by
  refine (admitted_le_iff (fun _ _ _ => decide_eq_true_iff) (by decide) _ _).mpr (.inr (.inr ?_))
  have hsame : ∀ request ∈ requestsFrom "203.0.113.7" (List.replicate 40 (some "seller_004")),
      request = { ip := "203.0.113.7", sellerId := some "seller_004" } := by
    intro request hmem
    obtain ⟨sellerId, hsellerId, rfl⟩ := List.mem_map.mp hmem
    rw [List.eq_of_mem_replicate hsellerId]
  intro request hrequest other hother
  rw [hsame request hrequest, hsame other hother]

/-- A seller id of its own for every request. -/
theorem not_admitted_le :
    ¬ countingLimiter.admitted (RateLimitConfig.buildRouteRateLimit {} .verify)
      (requestsFrom "203.0.113.7" (none :: List.replicate 30 (some "seller_004"))) ≤ 30 := by
  decide

end FacilitatorX402
