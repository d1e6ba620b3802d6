import FacilitatorX402.Proof.RpcBreakerBounds

/-!
# Attempts that follow the trip

The state is tested before the first attempt of a call and not again, so a failure that trips the
breaker is followed by the attempts that remain. Of calls one after another these are the attempts of
the call itself; of calls that overlap they may be those of any call.
-/

namespace FacilitatorX402

namespace RpcCircuitBreaker

variable {ε α : Type}

/-- A call that nothing overlaps: what each of its attempts ends with, and the clock. -/
structure PlainCall (ε α : Type) where
  startedAt : Int
  outcome : Nat → Except (RpcError ε) α
  settledAt : Nat → Int

namespace PlainCall

variable (call : PlainCall ε α)

def around (attempt : Nat) : Around := { settledAt := call.settledAt attempt }

/-- `fn` keeps the states it is called in, the newest first. -/
def fn (state : RpcCircuitState) (invoked : List RpcCircuitState) :
    Except (RpcError ε) α × List RpcCircuitState :=
  (call.outcome invoked.length, state :: invoked)

end PlainCall

/-- The states that `fn` is called in. -/
def invokedIn (breaker : RpcCircuitBreaker) (call : PlainCall ε α) : List RpcCircuitState :=
  (breaker.call call.startedAt call.around call.fn []).2.2

def afterCall (breaker : RpcCircuitBreaker) (call : PlainCall ε α) : RpcCircuitBreaker :=
  (breaker.call call.startedAt call.around call.fn []).2.1

/-- In a sequence of calls, `fn` is never called while the breaker is OPEN. -/
def Silent : RpcCircuitBreaker → List (PlainCall ε α) → Prop
  | _, [] => True
  | breaker, call :: calls => .OPEN ∉ breaker.invokedIn call ∧ Silent (breaker.afterCall call) calls

/-- The failures that are still missing come from the first attempts of the call, and are not all of
its attempts. -/
def TripsEarly (breaker : RpcCircuitBreaker) (call : PlainCall ε α) : Prop :=
  let entered := breaker.maybeTransitionFromOpen call.startedAt
  entered.state = .CLOSED ∧ ∃ missing < entered.maxRetries,
    entered.failureCount + missing = entered.failureThreshold ∧
      ∀ attempt < missing, countsAsFailure (call.outcome attempt) = true

def NoneTripsEarly : RpcCircuitBreaker → List (PlainCall ε α) → Prop
  | _, [] => True
  | breaker, call :: calls => ¬ breaker.TripsEarly call ∧ NoneTripsEarly (breaker.afterCall call) calls

section Sequence

variable {call : PlainCall ε α} {breaker : RpcCircuitBreaker} {invoked : List RpcCircuitState}

theorem mem_attemptFrom {n remaining : Nat} {state : RpcCircuitState} (h : state ∈ invoked) :
    state ∈ (attemptFrom call.fn call.around n remaining breaker invoked).2.2 := by
  induction remaining generalizing breaker invoked with
  | zero => exact h
  | succ remaining ih =>
      have hmem := List.mem_cons_of_mem breaker.state h
      simp only [attemptFrom, PlainCall.fn]
      split
      · exact hmem
      · exact hmem
      · exact ih hmem

theorem open_mem_attemptFrom {n remaining : Nat} (h : breaker.state = .OPEN) :
    .OPEN ∈ (attemptFrom call.fn call.around n (remaining + 1) breaker invoked).2.2 := by
  have hmem : RpcCircuitState.OPEN ∈ breaker.state :: invoked := by
    rw [h]
    exact List.mem_cons_self
  simp only [attemptFrom, PlainCall.fn]
  split
  · exact hmem
  · exact hmem
  · exact mem_attemptFrom hmem

/-- A failure that counts is followed by the next attempt. -/
theorem attemptFrom_retry {n remaining : Nat}
    (hfail : countsAsFailure (call.outcome invoked.length) = true)
    (hlength : invoked.length = n - (remaining + 1)) (hmore : invoked.length + 1 < n) :
    attemptFrom call.fn call.around n (remaining + 1) breaker invoked =
      attemptFrom call.fn call.around n remaining
        (breaker.onFailure (call.settledAt invoked.length)) (breaker.state :: invoked) := by
  simp only [attemptFrom, PlainCall.fn, ← hlength]
  cases houtcome : call.outcome invoked.length with
  | ok value =>
      rw [houtcome] at hfail
      cases hfail
  | error err =>
      rw [houtcome] at hfail
      have hretry : isRetryable err = true := hfail
      simp only [settle, hretry, if_true, if_pos hmore]
      rfl

/-- Any other attempt is the last. -/
theorem attemptFrom_ends {n remaining : Nat}
    (hends : countsAsFailure (call.outcome invoked.length) = false ∨ n ≤ invoked.length + 1)
    (hlength : invoked.length = n - (remaining + 1)) :
    (attemptFrom call.fn call.around n (remaining + 1) breaker invoked).2.2 =
      breaker.state :: invoked := by
  simp only [attemptFrom, PlainCall.fn, ← hlength]
  cases houtcome : call.outcome invoked.length with
  | ok value => rfl
  | error err =>
      rw [houtcome] at hends
      cases hretry : isRetryable err with
      | false => simp [settle, hretry]
      | true =>
          have hlast : ¬ invoked.length + 1 < n := by
            rcases hends with hnot | hlast
            · rw [countsAsFailure, hretry] at hnot
              cases hnot
            · omega
          simp only [settle, hretry, if_true, if_neg hlast]

/-- Below the threshold, `remaining` attempts reach OPEN when the missing failures come first. -/
theorem open_mem_attemptFrom_iff {n remaining : Nat} (hn : remaining ≤ n)
    (hlength : invoked.length = n - remaining) (hclosed : breaker.state = .CLOSED)
    (hcount : breaker.failureCount < breaker.failureThreshold) :
    .OPEN ∈ (attemptFrom call.fn call.around n remaining breaker invoked).2.2 ↔
      .OPEN ∈ invoked ∨ ∃ missing : Nat, missing < remaining ∧
        breaker.failureCount + missing = breaker.failureThreshold ∧
          ∀ i < missing, countsAsFailure (call.outcome (invoked.length + i)) = true := by
  induction remaining generalizing breaker invoked with
  | zero => simp [attemptFrom]
  | succ remaining ih =>
      have hcons : RpcCircuitState.OPEN ∈ breaker.state :: invoked ↔ .OPEN ∈ invoked := by
        simp [hclosed]
      by_cases hmore : countsAsFailure (call.outcome invoked.length) = true ∧ remaining ≠ 0
      · obtain ⟨hfail, hremaining⟩ := hmore
        rw [attemptFrom_retry hfail hlength (by omega)]
        cases htrips : breaker.trips with
        | true =>
            have hopen := (@state_onFailure _ (call.settledAt invoked.length) htrips).1
            have hsum : breaker.failureCount + 1 = breaker.failureThreshold := by
              simp [trips, hclosed] at htrips
              omega
            refine iff_of_true ?_ (.inr ⟨1, by omega, hsum, ?_⟩)
            · rw [← Nat.succ_pred_eq_of_ne_zero hremaining]
              exact open_mem_attemptFrom hopen
            · intro i hi
              rw [Nat.lt_one_iff.mp hi]
              exact hfail
        | false =>
            have hbelow : breaker.failureCount + 1 < breaker.failureThreshold := by
              simp [trips, hclosed] at htrips
              omega
            have hnext := @ih { breaker with failureCount := breaker.failureCount + 1 }
              (breaker.state :: invoked) (by omega) (by rw [List.length_cons]; omega) hclosed hbelow
            rw [onFailure_of_not_trips htrips, hnext, hcons]
            refine or_congr_right ⟨?_, ?_⟩
            · rintro ⟨missing, hmissing, hsum, hrest⟩
              have hsum' : breaker.failureCount + 1 + missing = breaker.failureThreshold := hsum
              refine ⟨missing + 1, by omega, by omega, fun i hi => ?_⟩
              cases i with
              | zero => exact hfail
              | succ i =>
                  have hnext := hrest i (by omega)
                  rwa [List.length_cons, Nat.add_right_comm] at hnext
            · rintro ⟨missing, hmissing, hsum, hrest⟩
              obtain ⟨before, rfl⟩ : ∃ before, missing = before + 1 :=
                ⟨missing - 1, by omega⟩
              have hsum' : breaker.failureCount + 1 + before = breaker.failureThreshold := by omega
              refine ⟨before, by omega, hsum', fun i hi => ?_⟩
              rw [List.length_cons, Nat.add_right_comm]
              exact hrest (i + 1) (by omega)
      · -- the call ends with this attempt
        have hends : countsAsFailure (call.outcome invoked.length) = false ∨ remaining = 0 := by
          cases hfail : countsAsFailure (call.outcome invoked.length) with
          | false => exact .inl rfl
          | true => exact .inr (not_not.mp fun hremaining => hmore ⟨hfail, hremaining⟩)
        rw [attemptFrom_ends (hends.imp_right (by omega)) hlength, hcons]
        refine ⟨.inl, fun h => h.resolve_right ?_⟩
        rintro ⟨missing, hmissing, hsum, hrest⟩
        rcases hends with hnot | hlast
        · have hfirst := hrest 0 (by omega)
          rw [Nat.add_zero, hnot] at hfirst
          cases hfirst
        · omega

/-- A call reaches OPEN when it trips early. -/
theorem open_mem_invokedIn (hbounded : breaker.Bounded) :
    .OPEN ∈ breaker.invokedIn call ↔ breaker.TripsEarly call := by
  have hfailures : (breaker.maybeTransitionFromOpen call.startedAt).failureCount <
      (breaker.maybeTransitionFromOpen call.startedAt).failureThreshold := by
    rcases breaker.maybeTransitionFromOpen_cases call.startedAt with hsame | ⟨-, -, hhalf⟩
    · rw [hsame]
      exact hbounded.failures.2
    · rw [hhalf]
      exact hbounded.failures.2
  unfold invokedIn RpcCircuitBreaker.call TripsEarly
  simp only
  generalize breaker.maybeTransitionFromOpen call.startedAt = entered at hfailures ⊢
  cases hstate : entered.state with
  | CLOSED =>
      have hattempts : entered.attempts = entered.maxRetries := by simp [attempts, hstate]
      rw [if_neg (by simp), hattempts, open_mem_attemptFrom_iff (le_refl _) (by simp) hstate hfailures]
      simp
  | OPEN => simp
  | HALF_OPEN =>
      have hattempts : entered.attempts = 1 := by simp [attempts, hstate]
      rw [if_neg (by simp), hattempts, attemptFrom_ends (.inr (by simp)) rfl, hstate]
      simp

/-- The counters stay below their thresholds, and the next call may half-open. -/
def Ready (breaker : RpcCircuitBreaker) : Prop :=
  breaker.Bounded ∧ 1 ≤ breaker.successThreshold

theorem Ready.attemptFrom {n remaining : Nat} (h : breaker.Ready) :
    (attemptFrom call.fn call.around n remaining breaker invoked).2.1.Ready := by
  induction remaining generalizing breaker invoked with
  | zero => exact h
  | succ remaining ih =>
      have hsucceeds : breaker.onSuccess.Ready :=
        ⟨h.1.onSuccess, h.2.trans_eq sameSettings_onSuccess.2.1.symm⟩
      have hfails : ∀ now, (breaker.onFailure now).Ready := fun now =>
        ⟨h.1.onFailure, h.2.trans_eq sameSettings_onFailure.2.1.symm⟩
      simp only [RpcCircuitBreaker.attemptFrom, PlainCall.fn, PlainCall.around, id]
      cases houtcome : call.outcome invoked.length with
      | ok value => exact hsucceeds
      | error err =>
          simp only [settle]
          split_ifs
          · exact ih (hfails _)
          · exact hfails _
          · exact h

theorem Ready.afterCall (h : breaker.Ready) : (breaker.afterCall call).Ready := by
  have hentered : (breaker.maybeTransitionFromOpen call.startedAt).Ready := by
    refine ⟨h.1.maybeTransitionFromOpen h.2, ?_⟩
    rcases breaker.maybeTransitionFromOpen_cases call.startedAt with hsame | ⟨-, -, hhalf⟩
    · rw [hsame]
      exact h.2
    · rw [hhalf]
      exact h.2
  unfold RpcCircuitBreaker.afterCall RpcCircuitBreaker.call
  simp only
  split_ifs
  · exact hentered
  · exact hentered.attemptFrom

theorem silent_iff {calls : List (PlainCall ε α)} (h : breaker.Ready) :
    Silent breaker calls ↔ NoneTripsEarly breaker calls := by
  induction calls generalizing breaker with
  | nil => exact Iff.rfl
  | cons call calls ih => exact and_congr (not_congr (open_mem_invokedIn h.1)) (ih h.afterCall)

end Sequence

end RpcCircuitBreaker

/-! ### Overlapping calls -/

/-- The call may go on to another attempt. -/
def CallPhase.HasAttempt : CallPhase → Prop
  | .idle => False
  | .invoked attempt attempts => attempt + 1 < attempts
  | .delayed _ _ => True

instance : DecidablePred CallPhase.HasAttempt
  | .idle => inferInstanceAs (Decidable False)
  | .invoked attempt attempts => inferInstanceAs (Decidable (attempt + 1 < attempts))
  | .delayed _ _ => inferInstanceAs (Decidable True)

/-- A call that is let in is not let in while OPEN. -/
theorem RpcCircuitBreaker.enter_spec {ε α : Type} (breaker : RpcCircuitBreaker) (now : Int) :
    let entered := @RpcCircuitBreaker.enter ε α breaker now
    entered.2 = breaker.maybeTransitionFromOpen now ∧
      (entered.2.state = .OPEN → ¬ entered.1.phase.HasAttempt) ∧
      entered.1.invokedIn entered.2.state ≠ some .OPEN := by
  unfold RpcCircuitBreaker.enter
  simp only
  split_ifs with hopen
  · exact ⟨rfl, fun _ => id, by simp [CallProgress.invokedIn]⟩
  · exact ⟨rfl, fun _ => id, by simp [CallProgress.invokedIn]⟩
  · exact ⟨rfl, fun hstate => absurd hstate hopen, by simp [CallProgress.invokedIn, hopen]⟩

namespace SharedRpcBreaker

open RpcCircuitBreaker Requests

variable {ε α : Type} {cfg : CircuitBreakerConfig} {shared : SharedRpcBreaker}

def AnyAttemptLeft (shared : SharedRpcBreaker) : Prop := ∃ who, (shared.phase who).HasAttempt

/-- A failure that trips the breaker finds no call with another attempt. -/
def TripsLast : Admits SharedRpcBreaker (RpcMove ε α) (Option RpcCircuitState) :=
  fun _ shared move =>
    match move with
    | .settle who outcome _ =>
        (∃ attempt attempts, shared.phase who = .invoked attempt attempts) →
          countsAsFailure outcome = true → shared.breaker.trips = true → ¬ shared.AnyAttemptLeft
    | _ => True

/-- No call has another attempt while the breaker is OPEN. -/
def Quiet (shared : SharedRpcBreaker) : Prop :=
  shared.breaker.state = .OPEN → ¬ shared.AnyAttemptLeft

theorem AnyAttemptLeft.of_ended {phase : CallPhase} {shared' : SharedRpcBreaker} {who : Nat}
    (hphase : shared'.phase = Function.update shared.phase who phase) (hended : ¬ phase.HasAttempt)
    (h : shared'.AnyAttemptLeft) : shared.AnyAttemptLeft := by
  obtain ⟨other, hother⟩ := h
  rw [hphase] at hother
  by_cases hsame : other = who
  · subst hsame
    rw [Function.update_self] at hother
    exact absurd hother hended
  · rw [Function.update_of_ne hsame] at hother
    exact ⟨other, hother⟩

theorem Quiet.enter (h : shared.Quiet) (who : Nat) (now : Int) :
    (@enter ε α shared who now).2.Quiet ∧ (@enter ε α shared who now).1 ≠ some .OPEN := by
  obtain ⟨hbreaker, hended, hreply⟩ := enter_spec (ε := ε) (α := α) shared.breaker now
  unfold SharedRpcBreaker.enter
  cases hphase : shared.phase who with
  | invoked attempt attempts => exact ⟨h, by simp⟩
  | delayed attempt attempts => exact ⟨h, by simp⟩
  | idle =>
      refine ⟨fun hopen hleft => ?_, hreply⟩
      have hwas : shared.breaker.state = .OPEN := by
        rcases shared.breaker.maybeTransitionFromOpen_cases now with hsame | ⟨hwas, -, -⟩
        · rw [← hsame, ← hbreaker]
          exact hopen
        · exact hwas
      exact h hwas (AnyAttemptLeft.of_ended rfl (hended hopen) hleft)

theorem Quiet.settle (h : shared.Quiet) {who : Nat} {outcome : Except (RpcError ε) α} {now : Int}
    {log : Log (RpcMove ε α) (Option RpcCircuitState)}
    (hlast : TripsLast log shared (.settle who outcome now)) :
    (shared.settle who outcome now).Quiet := by
  unfold SharedRpcBreaker.settle
  cases hphase : shared.phase who with
  | idle => exact h
  | delayed attempt attempts => exact h
  | invoked attempt attempts =>
      intro hopen hleft
      cases outcome with
      | ok value =>
          have hwas : shared.breaker.state = .OPEN := by
            rcases shared.breaker.state_onSuccess with hstate | ⟨-, hclosed, -⟩
            · rw [← hstate]
              exact hopen
            · exact absurd (hclosed.symm.trans hopen) (by simp)
          exact h hwas (AnyAttemptLeft.of_ended rfl id hleft)
      | error err =>
          cases hretry : isRetryable err with
          | false =>
              simp only [RpcCircuitBreaker.settle, hretry, Bool.false_eq_true, if_false] at hopen hleft
              exact h hopen (AnyAttemptLeft.of_ended rfl id hleft)
          | true =>
              -- before the failure no call had an attempt left, whether it trips the breaker or not
              have hnone : ¬ shared.AnyAttemptLeft := by
                cases htrips : shared.breaker.trips with
                | true => exact hlast ⟨attempt, attempts, hphase⟩ hretry htrips
                | false =>
                    refine h ?_
                    simp only [RpcCircuitBreaker.settle, hretry, if_true,
                      onFailure_of_not_trips htrips] at hopen
                    split_ifs at hopen <;> exact hopen
              have hover : ¬ attempt + 1 < attempts := fun hmore =>
                hnone ⟨who, by rw [hphase]; exact hmore⟩
              simp only [RpcCircuitBreaker.settle, hretry, if_true, if_neg hover] at hleft
              exact hnone (AnyAttemptLeft.of_ended rfl id hleft)

theorem Quiet.wake (h : shared.Quiet) (who : Nat) :
    (shared.wake who).2.Quiet ∧ (shared.wake who).1 ≠ some .OPEN := by
  unfold SharedRpcBreaker.wake
  cases hphase : shared.phase who with
  | idle => exact ⟨h, by simp⟩
  | invoked attempt attempts => exact ⟨h, by simp⟩
  | delayed attempt attempts =>
      have hnot : shared.breaker.state ≠ .OPEN := fun hopen =>
        h hopen ⟨who, by rw [hphase]; trivial⟩
      exact ⟨fun hopen => absurd hopen hnot, by simpa using hnot⟩

theorem Quiet.step {log : Log (RpcMove ε α) (Option RpcCircuitState)} (h : shared.Quiet)
    {move : RpcMove ε α} (hlast : TripsLast log shared move) :
    (shared.serve move).2.Quiet ∧ (shared.serve move).1 ≠ some .OPEN := by
  cases move with
  | enter who now => exact h.enter who now
  | settle who outcome now => exact ⟨h.settle hlast, by simp [serve]⟩
  | wake who => exact h.wake who

end SharedRpcBreaker

namespace RpcCircuitBreaker

open Requests

/-- **No attempt while OPEN.** Of calls one after another, none is attempted while the breaker is OPEN
exactly when no call trips it before its last attempt; of calls that overlap, none is when every failure
that trips it finds no call with another attempt. -/
theorem silent_when_trips_last {ε α : Type} (cfg : CircuitBreakerConfig)
    (hfailures : 1 ≤ (RpcCircuitBreaker.new cfg).failureThreshold)
    (hsuccesses : 1 ≤ (RpcCircuitBreaker.new cfg).successThreshold) :
    (∀ calls : List (PlainCall ε α), Silent (.new cfg) calls ↔ NoneTripsEarly (.new cfg) calls) ∧
      ∀ (log : Log (RpcMove ε α) (Option RpcCircuitState)) (shared : SharedRpcBreaker),
        Run SharedRpcBreaker.serve SharedRpcBreaker.TripsLast (.new cfg) log shared →
          ∀ x ∈ log, x.reply ≠ some .OPEN := by
  constructor
  · intro calls
    exact silent_iff ⟨⟨⟨le_refl _, Int.natCast_pos.mpr hfailures⟩, fun h => by cases h⟩, hsuccesses⟩
  · intro log shared hrun
    have hquiet : shared.Quiet ∧ ∀ x ∈ log, x.reply ≠ some .OPEN := by
      refine hrun.invariant
        (I := fun log shared => shared.Quiet ∧ ∀ x ∈ log, x.reply ≠ some .OPEN) ⟨?_, by simp⟩ ?_
      · intro h
        cases h
      · rintro log shared move ⟨hquiet, hearlier⟩ hlast
        obtain ⟨hnext, hreply⟩ := hquiet.step hlast
        exact ⟨hnext, List.forall_mem_cons.mpr ⟨hreply, hearlier⟩⟩
    exact hquiet.2

/-- A call whose attempts all fail. -/
def failingCall : PlainCall Unit Nat where
  startedAt := 0
  outcome _ := .error (.error "503")
  settledAt _ := 0

/-- Three failures are not enough to trip. -/
theorem silent_when_trips_last_failing_call : Silent (.new {}) [failingCall] := by
  refine ((silent_when_trips_last {} (by decide) (by decide)).1 _).mpr ⟨?_, trivial⟩
  rintro ⟨-, missing, hmissing, hsum, -⟩
  have hthree : missing < 3 := hmissing
  have hfive : (0 : Int) + missing = 5 := hsum
  omega

/-- With the default configuration, the third attempt of the second call comes after the trip. -/
theorem not_silent_two_failing_calls : ¬ Silent (.new {}) [failingCall, failingCall] := by
  rintro ⟨-, hsecond, -⟩
  exact hsecond (by decide)

end RpcCircuitBreaker

end FacilitatorX402
