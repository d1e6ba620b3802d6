import FacilitatorX402.Infrastructure.SellerRateLimit

/-!
# Sellers that share a counter

The counter is that of the letters and digits among the first sixteen units of the header. Two headers
are counted apart exactly when these differ.
-/

namespace FacilitatorX402

structure LimitRequest where
  apiKey : String
  now : Int
  deriving DecidableEq

namespace SellerRateLimitHook

variable (hook : SellerRateLimitHook)

/-- The counters after some requests, the oldest first. -/
def after (counters : LimitCounters) (requests : List LimitRequest) : LimitCounters :=
  requests.foldl (fun counters request =>
    (hook.sellerRateLimitHook counters (some request.apiKey) request.now).2) counters

/-- Whether a request is answered 429 after others. -/
def tooManyAfter (counters : LimitCounters) (earlier : List LimitRequest) (request : LimitRequest) :
    Bool :=
  (hook.sellerRateLimitHook (hook.after counters earlier) (some request.apiKey)
    request.now).1.isTooMany

/-- In every interleaving of requests with two headers, the requests with one of them are answered 429 as
if the others had not been made. -/
def Isolated (apiKey apiKey' : String) : Prop :=
  ∀ (counters : LimitCounters) (earlier : List LimitRequest) (request : LimitRequest),
    (∀ other ∈ earlier ++ [request], other.apiKey = apiKey ∨ other.apiKey = apiKey') →
      (earlier ++ [request]).Pairwise (·.now ≤ ·.now) →
        hook.tooManyAfter counters earlier request =
          hook.tooManyAfter counters (earlier.filter (·.apiKey = request.apiKey)) request

variable {hook} {apiKey apiKey' : String} {counters counters' : LimitCounters} {now : Int}

theorem redisKey_inj (h : hook.redisKey apiKey = hook.redisKey apiKey') :
    keyPrefix apiKey = keyPrefix apiKey' := by
  have hlist := congrArg String.toList h
  simp only [redisKey, String.toList_append] at hlist
  exact String.toList_inj.mp (List.append_cancel_left hlist)

section Counters

open LimitCounters

theorem incr_congr {key : String} (h : counters.stored key = counters'.stored key) :
    (counters.incr key now).1.value = (counters'.incr key now).1.value ∧
      (counters.incr key now).2.stored key = (counters'.incr key now).2.stored key := by
  have hfind := @find_congr _ _ _ now h
  cases hfound : counters'.find now key with
  | none =>
      obtain ⟨hvalue, hstored⟩ := incr_of_not_find (hfind.trans hfound)
      obtain ⟨hvalue', hstored'⟩ := incr_of_not_find hfound
      exact ⟨hvalue.trans hvalue'.symm, hstored.trans hstored'.symm⟩
  | some counter =>
      obtain ⟨hvalue, hstored⟩ := incr_of_find (hfind.trans hfound)
      obtain ⟨hvalue', hstored'⟩ := incr_of_find hfound
      exact ⟨hvalue.trans hvalue'.symm, hstored.trans hstored'.symm⟩

theorem expire_congr {key : String} {seconds : Nat}
    (h : counters.stored key = counters'.stored key) :
    (counters.expire key seconds now).stored key = (counters'.expire key seconds now).stored key := by
  have hfind := @find_congr _ _ _ now h
  cases hfound : counters'.find now key with
  | none => rw [expire_of_not_find (hfind.trans hfound), expire_of_not_find hfound, h]
  | some counter =>
      exact (expire_of_find (hfind.trans hfound)).trans (expire_of_find hfound).symm

end Counters

open LimitCounters

theorem sellerRateLimitHook_eq (h : apiKey ≠ "") :
    hook.sellerRateLimitHook counters (some apiKey) now =
      let (counted, incremented) := counters.incr (hook.redisKey apiKey) now
      (hook.finish counted.value now,
        if counted.value = 1 then incremented.expire (hook.redisKey apiKey) hook.windowSec now
        else incremented) := by
  have hempty : apiKey.isEmpty = false := by
    rw [← Bool.not_eq_true, String.isEmpty_iff]
    exact h
  simp only [sellerRateLimitHook, Option.filter_some, hempty, Bool.not_false, if_true]
  split_ifs <;> rfl

/-- What a request answers and leaves depends on its own counter. -/
theorem sellerRateLimitHook_congr
    (h : counters.stored (hook.redisKey apiKey) = counters'.stored (hook.redisKey apiKey)) :
    (hook.sellerRateLimitHook counters (some apiKey) now).1 =
        (hook.sellerRateLimitHook counters' (some apiKey) now).1 ∧
      (hook.sellerRateLimitHook counters (some apiKey) now).2.stored (hook.redisKey apiKey) =
        (hook.sellerRateLimitHook counters' (some apiKey) now).2.stored (hook.redisKey apiKey) := by
  by_cases hempty : apiKey = ""
  · subst hempty
    exact ⟨rfl, h⟩
  · obtain ⟨hvalue, hstored⟩ := @incr_congr _ _ now _ h
    rw [sellerRateLimitHook_eq hempty, sellerRateLimitHook_eq hempty]
    refine ⟨congrArg (hook.finish · now) hvalue, ?_⟩
    simp only [hvalue]
    split_ifs
    · exact expire_congr hstored
    · exact hstored

theorem sellerRateLimitHook_frame {key : String} (h : apiKey = "" ∨ hook.redisKey apiKey ≠ key) :
    (hook.sellerRateLimitHook counters (some apiKey) now).2.stored key = counters.stored key := by
  by_cases hempty : apiKey = ""
  · subst hempty
    rfl
  · have hne := (h.resolve_left hempty).symm
    rw [sellerRateLimitHook_eq hempty]
    simp only
    split_ifs
    · exact (expire_stored hne).trans (incr_stored hne)
    · exact incr_stored hne

/-- Requests with the other header can be left out. -/
theorem after_filter {earlier : List LimitRequest}
    (hother : ∀ other ∈ earlier, other.apiKey ≠ apiKey →
      other.apiKey = "" ∨ hook.redisKey other.apiKey ≠ hook.redisKey apiKey)
    (h : counters.stored (hook.redisKey apiKey) = counters'.stored (hook.redisKey apiKey)) :
    (hook.after counters earlier).stored (hook.redisKey apiKey) =
      (hook.after counters' (earlier.filter (·.apiKey = apiKey))).stored (hook.redisKey apiKey) := by
  induction earlier generalizing counters counters' with
  | nil => exact h
  | cons first rest ih =>
      have hrest := fun other hmem => hother other (List.mem_cons_of_mem first hmem)
      by_cases hsame : first.apiKey = apiKey
      · rw [List.filter_cons_of_pos (by simpa using hsame)]
        subst hsame
        exact ih hrest (sellerRateLimitHook_congr h).2
      · rw [List.filter_cons_of_neg (by simpa using hsame)]
        exact ih hrest
          ((sellerRateLimitHook_frame (hother first List.mem_cons_self hsame)).trans h)

/-- The counter after some requests of one time. -/
theorem stored_after_replicate (h : apiKey ≠ "") (n : Nat) :
    (hook.after .empty (List.replicate (n + 1) ⟨apiKey, now⟩)).stored (hook.redisKey apiKey) =
      some ⟨n + 1, some (now + 1000 * hook.windowSec)⟩ := by
  have hwindow : (1 : Int) ≤ hook.windowSec := by exact_mod_cast hook.windowSec_pos
  induction n with
  | zero =>
      obtain ⟨hvalue, hstored⟩ := @incr_of_not_find .empty (hook.redisKey apiKey) now rfl
      change (hook.sellerRateLimitHook LimitCounters.empty (some apiKey) now).2.stored _ = _
      rw [sellerRateLimitHook_eq h]
      simp only [hvalue, if_true]
      exact expire_of_find (find_of_stored hstored (by simp))
  | succ n ih =>
      have hfind : (hook.after .empty (List.replicate (n + 1) ⟨apiKey, now⟩)).find now
          (hook.redisKey apiKey) = some ⟨n + 1, some (now + 1000 * hook.windowSec)⟩ := by
        refine find_of_stored ih fun expiresAt hexpires => ?_
        cases hexpires
        omega
      obtain ⟨hvalue, hstored⟩ := incr_of_find hfind
      rw [List.replicate_succ', after, List.foldl_append]
      change (hook.sellerRateLimitHook (hook.after .empty (List.replicate (n + 1) ⟨apiKey, now⟩))
        (some apiKey) now).2.stored _ = _
      rw [sellerRateLimitHook_eq h]
      have hnot : ¬ n + 1 + 1 = 1 := by omega
      simp only [hvalue, if_neg hnot]
      exact hstored

theorem tooManyAfter_eq (h : apiKey ≠ "") {earlier : List LimitRequest} :
    hook.tooManyAfter counters earlier ⟨apiKey, now⟩ =
      decide (hook.limit <
        ((hook.after counters earlier).incr (hook.redisKey apiKey) now).1.value) := by
  rw [tooManyAfter, sellerRateLimitHook_eq h]
  simp only [finish]
  split_ifs with hmany
  · exact (decide_eq_true hmany).symm
  · exact (decide_eq_false hmany).symm

/-- Two headers of one image: as many requests as are allowed, with the one, lock out the other. -/
theorem not_isolated_of_keyPrefix (hne : apiKey ≠ apiKey') (hfirst : apiKey ≠ "") (hsecond : apiKey' ≠ "")
    (himage : keyPrefix apiKey = keyPrefix apiKey') : ¬ hook.Isolated apiKey apiKey' := by
  intro hisolated
  have hkey : hook.redisKey apiKey = hook.redisKey apiKey' := by rw [redisKey, himage, redisKey]
  obtain ⟨n, hn⟩ : ∃ n, hook.limit = n + 1 := ⟨hook.limit - 1, by have := @limit_pos hook; omega⟩
  have hwindow : (1 : Int) ≤ hook.windowSec := by exact_mod_cast hook.windowSec_pos
  have hsame := hisolated .empty (List.replicate (n + 1) ⟨apiKey', 0⟩) ⟨apiKey, 0⟩ ?_ ?_
  · have hnone : (List.replicate (n + 1) (LimitRequest.mk apiKey' 0)).filter (·.apiKey = apiKey) = [] := by
      rw [List.filter_replicate_of_neg]
      simpa using hne.symm
    have hfind : (hook.after .empty (List.replicate (n + 1) ⟨apiKey', 0⟩)).find 0
        (hook.redisKey apiKey) = some ⟨n + 1, some (0 + 1000 * hook.windowSec)⟩ := by
      rw [hkey]
      refine find_of_stored (stored_after_replicate hsecond n) fun expiresAt hexpires => ?_
      cases hexpires
      omega
    rw [tooManyAfter_eq hfirst, tooManyAfter_eq hfirst, hnone, (incr_of_find hfind).1, hn] at hsame
    have halone : (incr .empty (hook.redisKey apiKey) 0).1.value = 1 := rfl
    have hmany : n + 1 < n + 1 + 1 := by omega
    have hfew : ¬ n + 1 < 1 := by omega
    simp only [after, List.foldl_nil, halone, decide_eq_true hmany, decide_eq_false hfew] at hsame
    cases hsame
  · intro other hmem
    rcases List.mem_append.mp hmem with hmem | hmem
    · rw [List.eq_of_mem_replicate hmem]
      exact .inr rfl
    · rw [List.mem_singleton.mp hmem]
      exact .inl rfl
  · refine List.pairwise_append.mpr ⟨?_, List.pairwise_singleton _ _, ?_⟩
    · exact List.pairwise_replicate.mpr (.inr (Int.le_refl 0))
    · intro first hfirst second hsecond
      obtain rfl := List.eq_of_mem_replicate hfirst
      obtain rfl := List.mem_singleton.mp hsecond
      exact Int.le_refl 0

/-- **The isolation of sellers.** Of two different headers neither influences whether the other is
answered 429, exactly when their images differ or one of them is empty. -/
theorem isolated_iff (hook : SellerRateLimitHook) {apiKey apiKey' : String} (hne : apiKey ≠ apiKey') :
    hook.Isolated apiKey apiKey' ↔
      keyPrefix apiKey ≠ keyPrefix apiKey' ∨ apiKey = "" ∨ apiKey' = "" := by
  constructor
  · intro hisolated
    by_contra hnot
    simp only [not_or, not_not] at hnot
    exact not_isolated_of_keyPrefix hne hnot.2.1 hnot.2.2 hnot.1 hisolated
  · intro hcondition counters earlier request hkeys _
    have hkeys' := fun other hmem => hkeys other (List.mem_append_left _ hmem)
    have hrequest := hkeys request (List.mem_append_right _ (List.mem_singleton.mpr rfl))
    obtain ⟨key, now⟩ := request
    simp only at hrequest
    by_cases hempty : key = ""
    · subst hempty
      rfl
    · have hother : ∀ other ∈ earlier, other.apiKey ≠ key →
          other.apiKey = "" ∨ hook.redisKey other.apiKey ≠ hook.redisKey key := by
        intro other hmem hdiffers
        -- the two headers are the two of the statement, in one order or the other
        have hpair : keyPrefix other.apiKey ≠ keyPrefix key ∨ other.apiKey = "" ∨ key = "" := by
          rcases hrequest with rfl | rfl <;> rcases hkeys' other hmem with hkey | hkey
          · exact absurd hkey hdiffers
          · rw [hkey]
            exact hcondition.imp Ne.symm Or.symm
          · rw [hkey]
            exact hcondition
          · exact absurd hkey hdiffers
        rcases hpair with himage | hnone | hnone
        · exact .inr fun hkey => himage (redisKey_inj hkey)
        · exact .inl hnone
        · exact absurd hnone hempty
      have hstored := after_filter hother (@rfl _ (counters.stored (hook.redisKey key)))
      rw [tooManyAfter_eq hempty, tooManyAfter_eq hempty, (incr_congr hstored).1]

theorem isolated_iff_sample : verifyHook.Isolated "seller-1" "seller-2" :=
  (isolated_iff verifyHook (by decide)).mpr (.inl (by decide))

/-- Two headers with the same first sixteen units, and two with the same letters and digits. -/
theorem not_isolated_same_prefix :
    ¬ verifyHook.Isolated "sk_live_facilitator_1" "sk_live_facilitator_2" ∧
      ¬ verifyHook.Isolated "seller-1" "seller.1" :=
  ⟨not_isolated_of_keyPrefix (by decide) (by decide) (by decide) (by decide),
    not_isolated_of_keyPrefix (by decide) (by decide) (by decide) (by decide)⟩

end SellerRateLimitHook

end FacilitatorX402
