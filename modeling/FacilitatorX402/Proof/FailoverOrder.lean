import FacilitatorX402.Infrastructure.RpcFailover
import FacilitatorX402.Proof.RpcBreakerBounds

/-!
# The nodes that a failover call tries

The order is kept for as long as the fallback is not tried. When it is, `fn` is called with no URL.
-/

namespace FacilitatorX402

namespace RpcCircuitBreaker

variable {ε α : Type}

/-- The attempts of a call, when at most so many are made. -/
def tries (outcome : Nat → Except (RpcError ε) α) (made : Nat) :
    Nat → List (Except (RpcError ε) α)
  | 0 => []
  | remaining + 1 =>
      outcome made ::
        if countsAsFailure (outcome made) then tries outcome (made + 1) remaining else []

/-- What a call comes to, by its attempts. -/
def lastOf (made : List (Except (RpcError ε) α)) : Except (CallError ε) α :=
  match made.getLast? with
  | some (.ok value) => .ok value
  | some (.error err) => .error (.lastErr (some err))
  | none => .error (.lastErr none)

theorem lastOf_cons {x : Except (RpcError ε) α} {made : List (Except (RpcError ε) α)}
    (h : made ≠ []) : lastOf (x :: made) = lastOf made := by
  rw [lastOf, List.getLast?_cons_of_ne_nil h, lastOf]

/-- A success is the last attempt. -/
def UntilSuccess (made : List (Except (RpcError ε) α)) : Prop :=
  ∀ outcome ∈ made.dropLast, outcome.isOk = false

/-- One of the attempts succeeds, and the attempts before it may be repeated. -/
def SucceedsWithin (outcome : Nat → Except (RpcError ε) α) (made attempts : Nat) : Prop :=
  ∃ k < attempts, (outcome (made + k)).isOk = true ∧
    ∀ i < k, countsAsFailure (outcome (made + i)) = true

/-- `fn` keeps what it was called with and what it did. -/
def recording (outcome : Option String → Nat → Except (RpcError ε) α) (url : Option String)
    (log : List (Option String × Except (RpcError ε) α)) :
    Except (RpcError ε) α × List (Option String × Except (RpcError ε) α) :=
  (outcome url log.length, log ++ [(url, outcome url log.length)])

section Tries

variable {outcome : Nat → Except (RpcError ε) α} {made remaining : Nat}

theorem length_tries_le : (tries outcome made remaining).length ≤ remaining := by
  induction remaining generalizing made with
  | zero => exact le_refl 0
  | succ remaining ih =>
      unfold tries
      split_ifs
      · exact Nat.succ_le_succ ih
      · exact Nat.succ_le_succ (Nat.zero_le _)

theorem tries_ne_nil (h : 0 < remaining) : tries outcome made remaining ≠ [] := by
  obtain ⟨n, rfl⟩ : ∃ n, remaining = n + 1 := ⟨remaining - 1, by omega⟩
  exact List.cons_ne_nil _ _

theorem isOk_of_countsAsFailure {x : Except (RpcError ε) α} (h : countsAsFailure x = true) :
    x.isOk = false := by
  cases x with
  | ok value => cases h
  | error err => rfl

theorem untilSuccess_tries : UntilSuccess (tries outcome made remaining) := by
  induction remaining generalizing made with
  | zero => simp [UntilSuccess, tries]
  | succ remaining ih =>
      unfold tries
      split_ifs with hfail
      · cases hrest : tries outcome (made + 1) remaining with
        | nil => simp [UntilSuccess]
        | cons x rest =>
            have hnext := @ih (made + 1)
            rw [hrest] at hnext
            rw [UntilSuccess, List.dropLast_cons_cons]
            exact List.forall_mem_cons.mpr ⟨isOk_of_countsAsFailure hfail, hnext⟩
      · simp [UntilSuccess]

theorem exists_isOk_tries :
    (∃ x ∈ tries outcome made remaining, x.isOk = true) ↔ SucceedsWithin outcome made remaining := by
  induction remaining generalizing made with
  | zero => simp [tries, SucceedsWithin]
  | succ remaining ih =>
      unfold tries
      split_ifs with hfail
      · -- the first attempt is repeated
        have hnot : (outcome made).isOk ≠ true := by
          rw [isOk_of_countsAsFailure hfail]
          exact Bool.false_ne_true
        rw [List.exists_mem_cons_iff, or_iff_right hnot, ih]
        constructor
        · rintro ⟨k, hk, hok, hbefore⟩
          refine ⟨k + 1, by omega, by rwa [Nat.add_right_comm] at hok, fun i hi => ?_⟩
          cases i with
          | zero => exact hfail
          | succ i =>
              have hnext := hbefore i (by omega)
              rwa [Nat.add_right_comm] at hnext
        · rintro ⟨k, hk, hok, hbefore⟩
          cases k with
          | zero => exact absurd hok hnot
          | succ k =>
              refine ⟨k, by omega, by rwa [Nat.add_right_comm], fun i hi => ?_⟩
              rw [Nat.add_right_comm]
              exact hbefore (i + 1) (by omega)
      · -- the first attempt is the last
        simp only [List.mem_singleton, exists_eq_left]
        constructor
        · intro hok
          exact ⟨0, by omega, hok, fun i hi => absurd hi (Nat.not_lt_zero i)⟩
        · rintro ⟨k, hk, hok, hbefore⟩
          cases k with
          | zero => exact hok
          | succ k => exact absurd (hbefore 0 (by omega)) hfail

end Tries

/-- What the attempts of a call are, and what it comes to. -/
theorem attemptFrom_recording {outcome : Option String → Nat → Except (RpcError ε) α}
    {url : Option String} {around : Nat → Around} {n remaining : Nat} {breaker : RpcCircuitBreaker}
    {log : List (Option String × Except (RpcError ε) α)} (hn : remaining ≤ n) :
    let made := tries (outcome url) log.length remaining
    let ended := attemptFrom (fun _ => recording outcome url) around n remaining breaker log
    ended.1 = lastOf made ∧ ended.2.2 = log ++ made.map (url, ·) := by
  induction remaining generalizing breaker log with
  | zero => exact ⟨rfl, by simp [attemptFrom, tries]⟩
  | succ remaining ih =>
      simp only [attemptFrom, recording, tries]
      cases houtcome : outcome url log.length with
      | ok value => exact ⟨rfl, rfl⟩
      | error err =>
          cases hretry : isRetryable err with
          | false =>
              simp only [settle, countsAsFailure, hretry, Bool.false_eq_true, if_false]
              exact ⟨rfl, rfl⟩
          | true =>
              by_cases hlast : remaining = 0
              · subst hlast
                have hover : ¬ n - (0 + 1) + 1 < n := by omega
                simp only [settle, countsAsFailure, hretry, if_true, if_neg hover, tries]
                exact ⟨rfl, rfl⟩
              · have hmore : n - (remaining + 1) + 1 < n := by omega
                simp only [settle, countsAsFailure, hretry, if_true, if_pos hmore]
                generalize (around (n - (remaining + 1))).delayed _ = later
                obtain ⟨hended, hlog⟩ := @ih later (log ++ [(url, .error err)]) (by omega)
                rw [hended, hlog, List.length_append, List.length_singleton]
                refine ⟨?_, by simp⟩
                rw [lastOf_cons (tries_ne_nil (by omega))]

/-- What a call of a breaker makes of the attempts. -/
theorem call_recording (outcome : Option String → Nat → Except (RpcError ε) α) (url : Option String)
    (around : Nat → Around) (breaker : RpcCircuitBreaker) (startedAt : Int)
    (log : List (Option String × Except (RpcError ε) α)) :
    let entered := breaker.maybeTransitionFromOpen startedAt
    let made := tries (outcome url) log.length entered.attempts
    let ended := breaker.call startedAt around (fun _ => recording outcome url) log
    (entered.state = .OPEN ∧ ended.1 = .error .circuitOpen ∧ ended.2.2 = log) ∨
      (entered.state ≠ .OPEN ∧ ended.1 = lastOf made ∧ ended.2.2 = log ++ made.map (url, ·)) := by
  unfold RpcCircuitBreaker.call
  simp only
  split_ifs with hopen
  · exact .inl ⟨hopen, rfl, rfl⟩
  · exact .inr ⟨hopen, attemptFrom_recording (le_refl _)⟩

theorem attempts_bounds {breaker : RpcCircuitBreaker} (now : Int) (h : 1 ≤ breaker.maxRetries) :
    1 ≤ (breaker.maybeTransitionFromOpen now).attempts ∧
      (breaker.maybeTransitionFromOpen now).attempts ≤ breaker.maxRetries := by
  have hretries : (breaker.maybeTransitionFromOpen now).maxRetries = breaker.maxRetries := by
    rcases breaker.maybeTransitionFromOpen_cases now with hsame | ⟨-, -, hhalf⟩
    · rw [hsame]
    · rw [hhalf]
  unfold attempts
  split_ifs <;> omega

end RpcCircuitBreaker

namespace RpcFailoverClient

open RpcCircuitBreaker

variable {ε α : Type}

/-- The error of the fallback's breaker: its last attempt's, or that it is OPEN. -/
def fallbackError (second : List (Except (RpcError ε) α)) : CallError ε :=
  match second.getLast? with
  | some (.error err) => .lastErr (some err)
  | _ => .circuitOpen

def firstSuccess (made : List (Except (RpcError ε) α)) : Option α :=
  made.findSome? fun outcome => outcome.toOption

/-- The primary is tried until it succeeds, and the fallback only after it has not. -/
def FollowsOrder (maxRetries : Nat) (primaryUrl fallbackUrl : String)
    (log : List (Option String × Except (RpcError ε) α)) (result : Except (CallError ε) α) : Prop :=
  ∃ first second : List (Except (RpcError ε) α),
    log = first.map (some primaryUrl, ·) ++ second.map (some fallbackUrl, ·) ∧
      (first.length ≤ maxRetries ∧ UntilSuccess first) ∧
      (second.length ≤ maxRetries ∧ UntilSuccess second) ∧
      (second ≠ [] → firstSuccess first = none) ∧
      result = ((firstSuccess (first ++ second)).map Except.ok).getD (.error (fallbackError second))

/-- The primary lets the call in, and one of its attempts succeeds. -/
def PrimarySucceeds (client : RpcFailoverClient) (around : FailoverAround) (primaryUrl : String)
    (outcome : Option String → Nat → Except (RpcError ε) α) : Prop :=
  let entered := client.primaryBreaker.maybeTransitionFromOpen around.primaryStartedAt
  entered.state ≠ .OPEN ∧ SucceedsWithin (outcome (some primaryUrl)) 0 entered.attempts

/-- The breaker of the fallback is OPEN when its turn comes. -/
def FallbackRefuses (fallbackBreaker : RpcCircuitBreaker) (around : FailoverAround) : Prop :=
  ((around.meanwhile fallbackBreaker).maybeTransitionFromOpen around.fallbackStartedAt).state = .OPEN

/-- A client with a fallback, in any state that it may have come to. -/
structure BuiltBy (client : RpcFailoverClient) (cfg : RpcFailoverConfig) (fallbackUrl : String)
    (fallbackBreaker : RpcCircuitBreaker) : Prop where
  configured : cfg.fallbackUrl = some fallbackUrl
  nonempty : fallbackUrl.isEmpty = false
  fallback : client.fallbackBreaker = some fallbackBreaker
  primaryRetries : client.primaryBreaker.maxRetries = (RpcCircuitBreaker.new cfg.breaker).maxRetries
  fallbackRetries : fallbackBreaker.maxRetries = (RpcCircuitBreaker.new cfg.breaker).maxRetries

theorem BuiltBy.new {cfg : RpcFailoverConfig} {fallbackUrl : String}
    (hconfigured : cfg.fallbackUrl = some fallbackUrl) (hnonempty : fallbackUrl.isEmpty = false) :
    (new cfg).BuiltBy cfg fallbackUrl (.new cfg.breaker) where
  configured := hconfigured
  nonempty := hnonempty
  fallback := by simp [RpcFailoverClient.new, hconfigured, hnonempty]
  primaryRetries := rfl
  fallbackRetries := rfl

section Attempts

variable {made : List (Except (RpcError ε) α)}

theorem firstSuccess_eq_none : firstSuccess made = none ↔ ¬ ∃ x ∈ made, x.isOk = true := by
  rw [firstSuccess, List.findSome?_eq_none_iff]
  constructor
  · rintro h ⟨x, hx, hok⟩
    cases x with
    | ok value => exact absurd (h _ hx) (by simp [Except.toOption])
    | error err => cases hok
  · intro h x hx
    cases x with
    | ok value => exact absurd ⟨_, hx, rfl⟩ h
    | error err => rfl

/-- What a call comes to is its first success, or else the error of its last attempt. -/
theorem lastOf_eq (hne : made ≠ []) (h : UntilSuccess made) :
    lastOf made = ((firstSuccess made).map Except.ok).getD (.error (fallbackError made)) := by
  induction made with
  | nil => exact absurd rfl hne
  | cons x made ih =>
      cases made with
      | nil => cases x <;> rfl
      | cons y rest =>
          have hrest : UntilSuccess (y :: rest) := fun z hz => h z (List.mem_cons_of_mem x hz)
          have hfirst : x.isOk = false := h x List.mem_cons_self
          rw [lastOf_cons (List.cons_ne_nil _ _), ih (List.cons_ne_nil _ _) hrest]
          cases x with
          | ok value => cases hfirst
          | error err => rfl

end Attempts

theorem primary_cases {client : RpcFailoverClient} (around : FailoverAround) (primaryUrl : String)
    (outcome : Option String → Nat → Except (RpcError ε) α)
    (hretries : 1 ≤ client.primaryBreaker.maxRetries) :
    let ended := client.primaryBreaker.call around.primaryStartedAt around.primary
      (fun _ => recording outcome (some primaryUrl)) []
    ∃ first : List (Except (RpcError ε) α), ended.2.2 = first.map (some primaryUrl, ·) ∧
      (first.length ≤ client.primaryBreaker.maxRetries ∧ UntilSuccess first) ∧
      ((client.PrimarySucceeds around primaryUrl outcome ∧
          ∃ value, firstSuccess first = some value ∧ ended.1 = .ok value) ∨
        (¬ client.PrimarySucceeds around primaryUrl outcome ∧
          firstSuccess first = none ∧ ∃ err, ended.1 = .error err)) := by
  obtain ⟨hsome, hmost⟩ := attempts_bounds around.primaryStartedAt hretries
  rcases call_recording outcome (some primaryUrl) around.primary client.primaryBreaker
    around.primaryStartedAt [] with
    ⟨hopen, hended, hlog⟩ | ⟨hclosed, hended, hlog⟩
  · refine ⟨[], hlog, ⟨by simp, by simp [UntilSuccess]⟩, .inr ⟨?_, rfl, _, hended⟩⟩
    exact fun h => h.1 hopen
  · refine ⟨_, hlog, ⟨length_tries_le.trans hmost, untilSuccess_tries⟩, ?_⟩
    rw [lastOf_eq (tries_ne_nil hsome) untilSuccess_tries] at hended
    by_cases hsucceeds : SucceedsWithin (outcome (some primaryUrl)) 0
      (client.primaryBreaker.maybeTransitionFromOpen around.primaryStartedAt).attempts
    · have hsuccess := mt firstSuccess_eq_none.mp (not_not.mpr (exists_isOk_tries.mpr hsucceeds))
      obtain ⟨value, hvalue⟩ := Option.ne_none_iff_exists'.mp hsuccess
      refine .inl ⟨⟨hclosed, hsucceeds⟩, value, hvalue, ?_⟩
      rw [hended, List.length_nil, hvalue]
      rfl
    · have hnone := firstSuccess_eq_none.mpr (mt exists_isOk_tries.mp hsucceeds)
      refine .inr ⟨fun h => hsucceeds h.2, hnone, ?_⟩
      rw [List.length_nil, hnone] at hended
      exact ⟨_, hended⟩

/-- **The order of the failover.** A call tries the primary until it succeeds and the fallback only after
it has not, exactly when an attempt on the primary succeeds or the breaker of the fallback refuses. -/
theorem follows_order_iff {client : RpcFailoverClient} {cfg : RpcFailoverConfig}
    {fallbackUrl : String} {fallbackBreaker : RpcCircuitBreaker}
    (hbuilt : client.BuiltBy cfg fallbackUrl fallbackBreaker)
    (hretries : 1 ≤ (RpcCircuitBreaker.new cfg.breaker).maxRetries) (around : FailoverAround)
    (primaryUrl : String) (outcome : Option String → Nat → Except (RpcError ε) α) :
    let called := client.call around primaryUrl (recording outcome) []
    FollowsOrder (RpcCircuitBreaker.new cfg.breaker).maxRetries primaryUrl fallbackUrl
        called.2.2 called.1 ↔
      client.PrimarySucceeds around primaryUrl outcome ∨ FallbackRefuses fallbackBreaker around := by
  obtain ⟨first, hlog, hfirst, hcases⟩ := primary_cases around primaryUrl outcome
    (hretries.trans_eq hbuilt.primaryRetries.symm)
  rw [hbuilt.primaryRetries] at hfirst
  unfold RpcFailoverClient.call
  generalize client.primaryBreaker.call around.primaryStartedAt around.primary
    (fun _ => recording outcome (some primaryUrl)) [] = ended at hlog hcases
  obtain ⟨result, primaryBreaker, log⟩ := ended
  rcases hcases with ⟨hsucceeds, value, hvalue, hresult⟩ | ⟨hfails, hnone, err, hresult⟩
  · simp only at hlog hresult
    subst hlog hresult
    refine iff_of_true ⟨first, [], by simp, hfirst, ⟨by simp, by simp [UntilSuccess]⟩, ?_, ?_⟩
      (.inl hsucceeds)
    · exact fun h => absurd rfl h
    · rw [List.append_nil, hvalue]
      rfl
  · simp only at hlog hresult
    subst hlog hresult
    simp only [hbuilt.fallback, _fallbackUrl]
    rcases call_recording outcome none around.fallback (around.meanwhile fallbackBreaker)
      around.fallbackStartedAt (first.map (some primaryUrl, ·)) with
      ⟨hopen, hended, hlog⟩ | ⟨hclosed, hended, hlog⟩
    · -- the fallback refuses, and its error is what the call throws
      refine iff_of_true ⟨first, [], by rw [hlog]; simp, hfirst, ⟨by simp, by simp [UntilSuccess]⟩,
        ?_, ?_⟩ (.inr hopen)
      · exact fun h => absurd rfl h
      · rw [hended, List.append_nil, hnone]
        rfl
    · -- the fallback is tried, and not with its URL
      refine iff_of_false ?_ (not_or.mpr ⟨hfails, hclosed⟩)
      rintro ⟨first', second, horder, -⟩
      have hretry : 1 ≤ ((around.meanwhile fallbackBreaker).maybeTransitionFromOpen
          around.fallbackStartedAt).attempts := by
        refine (attempts_bounds around.fallbackStartedAt ?_).1
        rw [around.meanwhile_maxRetries, hbuilt.fallbackRetries]
        exact hretries
      obtain ⟨x, hx⟩ := List.exists_mem_of_ne_nil _ (tries_ne_nil hretry)
      have hmem := List.mem_append_right (first.map (some primaryUrl, ·))
        (List.mem_map_of_mem (f := ((none : Option String), ·)) hx)
      rw [← hlog, horder] at hmem
      simp at hmem

/-- The primary fails once and then answers. -/
def retriedOutcome : Option String → Nat → Except (RpcError Unit) Nat
  | some "primary", 1 => .ok 7
  | _, _ => .error (.error "503")

def plainAround : FailoverAround where
  primaryStartedAt := 0
  primary _ := { settledAt := 0 }
  fallbackStartedAt := 0
  fallback _ := { settledAt := 0 }

theorem follows_order_iff_retried :
    let cfg : RpcFailoverConfig := { primaryUrl := "primary", fallbackUrl := some "fallback" }
    let called := (new cfg).call plainAround "primary" (recording retriedOutcome) []
    FollowsOrder 3 "primary" "fallback" called.2.2 called.1 := by
  refine (follows_order_iff (BuiltBy.new rfl rfl) (by decide) plainAround "primary"
    retriedOutcome).mpr (.inl ⟨by decide, 1, by decide, by decide, ?_⟩)
  decide

/-- The primary fails for good, and `fn` is called with no URL. -/
theorem not_follows_order_failing :
    let cfg : RpcFailoverConfig := { primaryUrl := "primary", fallbackUrl := some "fallback" }
    let outcome : Option String → Nat → Except (RpcError Unit) Nat :=
      fun _ _ => .error (.error "503")
    let called := (new cfg).call plainAround "primary" (recording outcome) []
    ¬ FollowsOrder 3 "primary" "fallback" called.2.2 called.1 := by
  rintro cfg outcome called ⟨first, second, horder, -⟩
  have hmem : (none, .error (.error "503")) ∈ called.2.2 := by decide
  rw [horder] at hmem
  simp at hmem

end RpcFailoverClient

end FacilitatorX402
