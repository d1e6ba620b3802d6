import FacilitatorX402.Infrastructure.RpcCircuitBreaker
import Mathlib.Tactic.Linarith

/-!
# The bounds of the breaker with retries

A completion may arrive in any state, whatever the state was in which its call was admitted: a success
in OPEN lowers the failure count, a failure in OPEN raises it and may trip the breaker again. The bounds
hold all the same, because each operation keeps them on its own.
-/

namespace FacilitatorX402

namespace RpcCircuitBreaker

/-- The counters are below their thresholds. -/
structure Bounded (breaker : RpcCircuitBreaker) : Prop where
  failures : 0 ≤ breaker.failureCount ∧ breaker.failureCount < breaker.failureThreshold
  successes : breaker.state = .HALF_OPEN →
    0 ≤ breaker.successCount ∧ breaker.successCount < breaker.successThreshold

/-- The fields that the constructor sets. -/
def SameSettings (breaker other : RpcCircuitBreaker) : Prop :=
  breaker.failureThreshold = other.failureThreshold ∧
    breaker.successThreshold = other.successThreshold ∧ breaker.openDurationMs = other.openDurationMs

variable {breaker : RpcCircuitBreaker} {now : Int}

theorem Bounded.trip (hfailures : 1 ≤ breaker.failureThreshold) : (breaker.trip now).Bounded where
  failures := ⟨le_refl _, by simp [RpcCircuitBreaker.trip]; omega⟩
  successes h := by cases h

theorem Bounded.maybeTransitionFromOpen (h : breaker.Bounded)
    (hsuccesses : 1 ≤ breaker.successThreshold) : (breaker.maybeTransitionFromOpen now).Bounded := by
  unfold RpcCircuitBreaker.maybeTransitionFromOpen
  split_ifs with hstate hnow
  · exact h
  · exact ⟨h.failures, fun _ => ⟨le_refl _, by simp; omega⟩⟩
  · exact h

theorem Bounded.onSuccess (h : breaker.Bounded) : breaker.onSuccess.Bounded := by
  obtain ⟨⟨hlow, hhigh⟩, hsuccesses⟩ := h
  unfold RpcCircuitBreaker.onSuccess
  split_ifs with hhalf
  · obtain ⟨hleast, -⟩ := hsuccesses hhalf
    simp only
    split_ifs with hclose
    · refine ⟨⟨le_refl _, ?_⟩, fun hstate => by cases hstate⟩
      simp only [RpcCircuitBreaker.reset]
      omega
    · refine ⟨⟨hlow, hhigh⟩, fun _ => ⟨?_, ?_⟩⟩
      · simp only
        omega
      · simp only
        omega
  · refine ⟨?_, fun hstate => absurd hstate hhalf⟩
    change 0 ≤ max 0 (breaker.failureCount - 1) ∧
      max 0 (breaker.failureCount - 1) < breaker.failureThreshold
    omega

theorem Bounded.onFailure (h : breaker.Bounded) : (breaker.onFailure now).Bounded := by
  obtain ⟨⟨hlow, hhigh⟩, hsuccesses⟩ := h
  have hthreshold : 1 ≤ breaker.failureThreshold := by omega
  unfold RpcCircuitBreaker.onFailure
  split_ifs with hhalf
  · exact Bounded.trip hthreshold
  · simp only
    split_ifs with htrip
    · exact Bounded.trip hthreshold
    · refine ⟨⟨?_, ?_⟩, fun hstate => absurd hstate hhalf⟩
      · simp only
        omega
      · simp only
        omega

/-! ### What an operation does to the state -/

theorem state_onSuccess : breaker.onSuccess.state = breaker.state ∨
    breaker.state = .HALF_OPEN ∧ breaker.onSuccess.state = .CLOSED ∧
      (breaker.successThreshold : Int) ≤ breaker.successCount + 1 := by
  unfold onSuccess
  split_ifs with hhalf
  · simp only
    split_ifs with hclose
    · exact .inr ⟨hhalf, rfl, hclose⟩
    · exact .inl rfl
  · exact .inl rfl

theorem state_onFailure (htrips : breaker.trips = true) : (breaker.onFailure now).state = .OPEN ∧
    (breaker.onFailure now).lastOpenedAt = now := by
  unfold onFailure
  split_ifs with hhalf
  · exact ⟨rfl, rfl⟩
  · have hcount : breaker.failureCount + 1 ≥ breaker.failureThreshold := by
      simpa [trips, hhalf] using htrips
    simp only [if_pos hcount]
    exact ⟨rfl, rfl⟩

theorem onFailure_of_not_trips (htrips : breaker.trips = false) :
    breaker.onFailure now = { breaker with failureCount := breaker.failureCount + 1 } := by
  have hhalf : breaker.state ≠ .HALF_OPEN := by
    intro hstate
    simp [trips, hstate] at htrips
  have hcount : ¬ breaker.failureCount + 1 ≥ breaker.failureThreshold := by
    simpa [trips, hhalf] using htrips
  simp only [onFailure, if_neg hhalf, if_neg hcount]

/-- OPEN is left for HALF-OPEN when the time has passed. -/
theorem maybeTransitionFromOpen_cases (breaker : RpcCircuitBreaker) (now : Int) :
    breaker.maybeTransitionFromOpen now = breaker ∨
      breaker.state = .OPEN ∧ breaker.lastOpenedAt + breaker.openDurationMs ≤ now ∧
        breaker.maybeTransitionFromOpen now =
          { breaker with state := .HALF_OPEN, successCount := 0 } := by
  unfold maybeTransitionFromOpen
  split_ifs with hstate hnow
  · exact .inl rfl
  · exact .inr ⟨not_not.mp hstate, by omega, rfl⟩
  · exact .inl rfl

theorem sameSettings_onSuccess : breaker.onSuccess.SameSettings breaker := by
  unfold onSuccess
  split_ifs
  · simp only
    split_ifs <;> exact ⟨rfl, rfl, rfl⟩
  · exact ⟨rfl, rfl, rfl⟩

theorem sameSettings_onFailure : (breaker.onFailure now).SameSettings breaker := by
  unfold onFailure
  split_ifs
  · exact ⟨rfl, rfl, rfl⟩
  · simp only
    split_ifs <;> exact ⟨rfl, rfl, rfl⟩

end RpcCircuitBreaker

/-! ### Overlapping calls -/

namespace SharedRpcBreaker

open RpcCircuitBreaker Requests

variable {ε α : Type} {cfg : CircuitBreakerConfig} {shared : SharedRpcBreaker}

/-- The counters are bounded, and the code's fields are what is remembered. -/
structure Tracks (cfg : CircuitBreakerConfig) (shared : SharedRpcBreaker) : Prop where
  settings : shared.breaker.SameSettings (.new cfg)
  bounded : shared.breaker.Bounded
  tripped : shared.breaker.state = .OPEN → shared.trippedAt = some shared.breaker.lastOpenedAt
  counted : shared.breaker.state = .HALF_OPEN → shared.breaker.successCount = shared.succeeded

/-- The changes of state that are intended. -/
inductive Change (shared shared' : SharedRpcBreaker) : RpcMove ε α → Prop
  | none {move : RpcMove ε α} (h : shared'.breaker.state = shared.breaker.state) :
      Change shared shared' move
  | opens {move : RpcMove ε α} (hbefore : shared.breaker.state = .CLOSED)
      (hafter : shared'.breaker.state = .OPEN) : Change shared shared' move
  | reopens {move : RpcMove ε α} (hbefore : shared.breaker.state = .HALF_OPEN)
      (hafter : shared'.breaker.state = .OPEN) : Change shared shared' move
  | halfOpens {who : Nat} {now tripped : Int} (hbefore : shared.breaker.state = .OPEN)
      (hafter : shared'.breaker.state = .HALF_OPEN) (htripped : shared.trippedAt = some tripped)
      (hlong : tripped + shared.breaker.openDurationMs ≤ now) :
      Change shared shared' (.enter who now)
  | closes {move : RpcMove ε α} (hbefore : shared.breaker.state = .HALF_OPEN)
      (hafter : shared'.breaker.state = .CLOSED)
      (hsucceeded : shared.breaker.successThreshold ≤ shared'.succeeded) :
      Change shared shared' move

theorem Tracks.new (hfailures : 1 ≤ (RpcCircuitBreaker.new cfg).failureThreshold) :
    Tracks cfg (.new cfg) where
  settings := ⟨rfl, rfl, rfl⟩
  bounded := ⟨⟨le_refl _, Int.natCast_pos.mpr hfailures⟩, fun h => by cases h⟩
  tripped h := by cases h
  counted h := by cases h

theorem enter_cases (shared : SharedRpcBreaker) (who : Nat) (now : Int) :
    (@enter ε α shared who now).2 = shared ∨
      (@enter ε α shared who now).2.breaker = shared.breaker.maybeTransitionFromOpen now ∧
      (@enter ε α shared who now).2.trippedAt = shared.trippedAt ∧
      (@enter ε α shared who now).2.succeeded =
        (if shared.breaker.state = .OPEN ∧
          (shared.breaker.maybeTransitionFromOpen now).state = .HALF_OPEN then 0
        else shared.succeeded) := by
  have hbreaker : (@RpcCircuitBreaker.enter ε α shared.breaker now).2 =
      shared.breaker.maybeTransitionFromOpen now := by
    unfold RpcCircuitBreaker.enter
    simp only
    split_ifs <;> rfl
  unfold enter
  cases hphase : shared.phase who with
  | idle => exact .inr ⟨hbreaker, rfl, by simp only [hbreaker]⟩
  | invoked attempt attempts => exact .inl rfl
  | delayed attempt attempts => exact .inl rfl

/-- What an attempt that is over does: nothing, it counts as a success, or it counts as a failure. -/
theorem settle_cases (shared : SharedRpcBreaker) (who : Nat) (outcome : Except (RpcError ε) α)
    (now : Int) :
    let shared' := shared.settle who outcome now
    (shared'.breaker = shared.breaker ∧ shared'.trippedAt = shared.trippedAt ∧
        shared'.succeeded = shared.succeeded) ∨
      (shared'.breaker = shared.breaker.onSuccess ∧ shared'.trippedAt = shared.trippedAt ∧
        shared'.succeeded = shared.succeeded + 1) ∨
      (shared'.breaker = shared.breaker.onFailure now ∧
        shared'.trippedAt = (if shared.breaker.trips then some now else shared.trippedAt) ∧
        shared'.succeeded = shared.succeeded) := by
  unfold settle
  cases hphase : shared.phase who with
  | idle => exact .inl ⟨rfl, rfl, rfl⟩
  | delayed attempt attempts => exact .inl ⟨rfl, rfl, rfl⟩
  | invoked attempt attempts =>
      cases outcome with
      | ok value => exact .inr (.inl ⟨rfl, by simp [countsAsFailure], rfl⟩)
      | error err =>
          cases hretry : isRetryable err with
          | false =>
              refine .inl ⟨?_, by simp [countsAsFailure, hretry], rfl⟩
              simp [RpcCircuitBreaker.settle, hretry]
          | true =>
              refine .inr (.inr ⟨?_, by simp [countsAsFailure, hretry], rfl⟩)
              simp only [RpcCircuitBreaker.settle, hretry, if_true]
              split_ifs <;> rfl

theorem wake_breaker (shared : SharedRpcBreaker) (who : Nat) :
    (shared.wake who).2.breaker = shared.breaker ∧
      (shared.wake who).2.trippedAt = shared.trippedAt ∧
      (shared.wake who).2.succeeded = shared.succeeded := by
  unfold wake
  cases shared.phase who <;> exact ⟨rfl, rfl, rfl⟩

theorem Tracks.of_eq (h : Tracks cfg shared) {shared' : SharedRpcBreaker}
    (heq : shared'.breaker = shared.breaker ∧ shared'.trippedAt = shared.trippedAt ∧
      shared'.succeeded = shared.succeeded) : Tracks cfg shared' where
  settings := heq.1 ▸ h.settings
  bounded := heq.1 ▸ h.bounded
  tripped hstate := by
    rw [heq.1] at hstate ⊢
    rw [heq.2.1]
    exact h.tripped hstate
  counted hstate := by
    rw [heq.1] at hstate ⊢
    rw [heq.2.2]
    exact h.counted hstate

theorem Tracks.enter (h : Tracks cfg shared)
    (hsuccesses : 1 ≤ (RpcCircuitBreaker.new cfg).successThreshold) (who : Nat) (now : Int) :
    Tracks cfg (@enter ε α shared who now).2 ∧
      Change shared (@enter ε α shared who now).2 (.enter who now : RpcMove ε α) := by
  obtain ⟨hfailure, hsuccess, hduration⟩ := h.settings
  rcases @enter_cases ε α shared who now with hsame | ⟨hbreaker, htripped, hsucceeded⟩
  · rw [hsame]
    exact ⟨h, .none rfl⟩
  · have hbounded := @Bounded.maybeTransitionFromOpen _ now h.bounded (by omega)
    rcases shared.breaker.maybeTransitionFromOpen_cases now with hstays | ⟨hopen, hlong, hhalf⟩
    · have hnot : ¬ (shared.breaker.state = .OPEN ∧ shared.breaker.state = .HALF_OPEN) := by
        rintro ⟨hopen, hhalf⟩
        rw [hopen] at hhalf
        cases hhalf
      rw [hstays] at hbreaker hsucceeded
      rw [if_neg hnot] at hsucceeded
      exact ⟨h.of_eq ⟨hbreaker, htripped, hsucceeded⟩, .none (by rw [hbreaker])⟩
    · rw [hhalf] at hbreaker hsucceeded hbounded
      rw [if_pos ⟨hopen, rfl⟩] at hsucceeded
      refine ⟨⟨?_, ?_, ?_, ?_⟩, ?_⟩
      · rw [hbreaker]
        exact h.settings
      · rw [hbreaker]
        exact hbounded
      · intro hstate
        rw [hbreaker] at hstate
        cases hstate
      · intro _
        rw [hbreaker, hsucceeded]
        rfl
      · exact .halfOpens hopen (by rw [hbreaker]) (h.tripped hopen) hlong

theorem Tracks.settle (h : Tracks cfg shared) (who : Nat) (outcome : Except (RpcError ε) α)
    (now : Int) : Tracks cfg (shared.settle who outcome now) ∧
      Change shared (shared.settle who outcome now) (.settle who outcome now) := by
  rcases settle_cases shared who outcome now with
    hsame | ⟨hbreaker, htripped, hsucceeded⟩ | ⟨hbreaker, htripped, hsucceeded⟩
  · exact ⟨h.of_eq hsame, .none (by rw [hsame.1])⟩
  · -- a success: in HALF-OPEN it is counted, and may close the breaker
    have hsettings : shared.breaker.onSuccess.SameSettings (.new cfg) := by
      obtain ⟨hfailures, hsuccesses, hduration⟩ := shared.breaker.sameSettings_onSuccess
      exact ⟨hfailures.trans h.settings.1, hsuccesses.trans h.settings.2.1,
        hduration.trans h.settings.2.2⟩
    rcases shared.breaker.state_onSuccess with hstate | ⟨hhalf, hclosed, henough⟩
    · refine ⟨⟨hbreaker ▸ hsettings, hbreaker ▸ h.bounded.onSuccess, ?_, ?_⟩,
        .none (by rw [hbreaker, hstate])⟩
      · intro hopen
        rw [hbreaker, hstate] at hopen
        rw [htripped, hbreaker, h.tripped hopen]
        simp [onSuccess, hopen]
      · intro hhalf
        rw [hbreaker, hstate] at hhalf
        rw [hbreaker, hsucceeded]
        have hcounted := h.counted hhalf
        rw [onSuccess, if_pos hhalf] at hstate ⊢
        simp only at hstate ⊢
        split_ifs at hstate ⊢ with hclose
        · rw [hhalf] at hstate
          cases hstate
        · simp only
          omega
    · refine ⟨⟨hbreaker ▸ hsettings, hbreaker ▸ h.bounded.onSuccess, ?_, ?_⟩,
        .closes hhalf (by rw [hbreaker, hclosed]) ?_⟩
      · intro hopen
        rw [hbreaker, hclosed] at hopen
        cases hopen
      · intro hopen
        rw [hbreaker, hclosed] at hopen
        cases hopen
      · rw [hsucceeded]
        have hcounted := h.counted hhalf
        omega
  · -- a failure: it trips the breaker or is counted
    have hsettings : (shared.breaker.onFailure now).SameSettings (.new cfg) := by
      obtain ⟨hfailures, hsuccesses, hduration⟩ := @sameSettings_onFailure shared.breaker now
      exact ⟨hfailures.trans h.settings.1, hsuccesses.trans h.settings.2.1,
        hduration.trans h.settings.2.2⟩
    cases htrips : shared.breaker.trips with
    | true =>
        obtain ⟨hopen, hopened⟩ := @state_onFailure _ now htrips
        rw [htrips, if_pos rfl] at htripped
        refine ⟨⟨hbreaker ▸ hsettings, hbreaker ▸ h.bounded.onFailure, ?_, ?_⟩, ?_⟩
        · intro _
          rw [htripped, hbreaker, hopened]
        · intro hhalf
          rw [hbreaker, hopen] at hhalf
          cases hhalf
        · have hafter : (shared.settle who outcome now).breaker.state = .OPEN := by
            rw [hbreaker, hopen]
          cases hbefore : shared.breaker.state with
          | CLOSED => exact .opens hbefore hafter
          | OPEN => exact .none (hafter.trans hbefore.symm)
          | HALF_OPEN => exact .reopens hbefore hafter
    | false =>
        have hcounted := @onFailure_of_not_trips _ now htrips
        rw [htrips, if_neg Bool.false_ne_true] at htripped
        refine ⟨⟨hbreaker ▸ hsettings, hbreaker ▸ h.bounded.onFailure, ?_, ?_⟩, ?_⟩
        · intro hopen
          rw [hbreaker, hcounted] at hopen ⊢
          rw [htripped]
          exact h.tripped hopen
        · intro hhalf
          rw [hbreaker, hcounted] at hhalf ⊢
          rw [hsucceeded]
          exact h.counted hhalf
        · exact .none (by rw [hbreaker, hcounted])

theorem Tracks.step (h : Tracks cfg shared)
    (hsuccesses : 1 ≤ (RpcCircuitBreaker.new cfg).successThreshold) (move : RpcMove ε α) :
    Tracks cfg (shared.serve move).2 ∧ Change shared (shared.serve move).2 move := by
  cases move with
  | enter who now => exact h.enter hsuccesses who now
  | settle who outcome now => exact h.settle who outcome now
  | wake who =>
      have hwake := wake_breaker shared who
      exact ⟨h.of_eq hwake, .none (by rw [← hwake.1]; rfl)⟩

/-- **The bounds of the breaker.** In every run of overlapping calls the counters are below their
thresholds, and every move changes the state as intended. -/
theorem rpc_breaker_bounds {log : Log (RpcMove ε α) (Option RpcCircuitState)}
    (hfailures : 1 ≤ (RpcCircuitBreaker.new cfg).failureThreshold)
    (hsuccesses : 1 ≤ (RpcCircuitBreaker.new cfg).successThreshold)
    (hrun : Run serve anyRequest (.new cfg) log shared) :
    shared.breaker.Bounded ∧ shared.breaker.SameSettings (.new cfg) ∧
      ∀ move : RpcMove ε α, Change shared (shared.serve move).2 move := by
  have htracks : Tracks cfg shared := by
    refine hrun.invariant (I := fun _ shared => Tracks cfg shared) (Tracks.new hfailures) ?_
    exact fun _ shared move htracks _ => (htracks.step hsuccesses move).1
  exact ⟨htracks.bounded, htracks.settings, fun move => (htracks.step hsuccesses move).2⟩

/-- One call trips the breaker while another waits, and the next call probes it. -/
def trippedMoves : List (RpcMove Unit Nat) :=
  [.settle 2 (.ok 7) 40000, .enter 2 40000, .settle 0 (.error (.error "503")) 3,
    .settle 1 (.error (.error "503")) 2, .enter 1 1, .enter 0 0]

theorem rpc_breaker_bounds_tripped :
    let cfg : CircuitBreakerConfig := { failureThreshold := some 2 }
    let shared := (served serve (.new cfg) trippedMoves).2
    shared.breaker.state = .HALF_OPEN ∧ shared.breaker.Bounded := by
  refine ⟨by decide, ?_⟩
  exact (rpc_breaker_bounds (by decide) (by decide)
    (run_served (admitted_anyRequest trippedMoves))).1

end SharedRpcBreaker

end FacilitatorX402
