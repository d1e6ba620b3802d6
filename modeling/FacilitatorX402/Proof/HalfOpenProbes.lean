import FacilitatorX402.Infrastructure.CircuitBreaker
import FacilitatorX402.Library.Requests

/-!
# Probes in HALF_OPEN

HALF_OPEN is meant to let one test call through. `isOpen` answers false to every call while the
breaker is HALF_OPEN, and an outcome is counted in the state the breaker is in when the call ends. So
two probes can be in flight together, and a call admitted long ago in CLOSED can end while the
breaker is HALF_OPEN and close it.
-/

namespace FacilitatorX402.Probes

open Requests SharedBreaker

variable {ε α : Type}

/-- At most one call admitted in HALF_OPEN is in flight. -/
def AtMostOneProbe (shared : SharedBreaker) : Prop :=
  (shared.inFlight.filter (·.state = .HALF_OPEN)).length ≤ 1

/-- Each change from HALF_OPEN to CLOSED was caused by calls admitted in that period. -/
def ClosedByProbes (shared : SharedBreaker) : Prop :=
  ∀ closing ∈ shared.closings, ∀ call ∈ closing.2,
    call.state = .HALF_OPEN ∧ call.period = closing.1

instance (shared : SharedBreaker) : Decidable (AtMostOneProbe shared) :=
  inferInstanceAs (Decidable (_ ≤ _))

instance (shared : SharedBreaker) : Decidable (ClosedByProbes shared) :=
  inferInstanceAs (Decidable (∀ closing ∈ shared.closings, ∀ call ∈ closing.2, _))

/-- A call enters once, and leaves while it is in flight. -/
def Possible (shared : SharedBreaker) : CallMove ε α → Prop
  | .enter who _ => ∀ call ∈ shared.inFlight, call.who ≠ who
  | .leave who _ _ => ∃ call ∈ shared.inFlight, call.who = who

/-- A call that enters while the breaker is HALF_OPEN, or makes it so, finds no probe in flight; a
call whose success ends it while the breaker is HALF_OPEN was admitted in the current period. -/
def Orderly (shared : SharedBreaker) : CallMove ε α → Prop
  | .enter _ now =>
      (shared.breaker.isOpen now).2.state = .HALF_OPEN →
        ∀ call ∈ shared.inFlight, call.state ≠ .HALF_OPEN
  | .leave who (.fulfilled _) _ =>
      shared.breaker.state = .HALF_OPEN →
        ∀ call ∈ shared.inFlight, call.who = who →
          call.state = .HALF_OPEN ∧ call.period = shared.period
  | .leave _ _ _ => True

/-- The moves of a run, in any order. -/
def anyOrder : Admits SharedBreaker (CallMove ε α) (Option (Except (Thrown ε) α)) :=
  fun _ shared move => Possible shared move

/-- The moves of a run that all meet the condition. -/
def inOrder : Admits SharedBreaker (CallMove ε α) (Option (Except (Thrown ε) α)) :=
  fun _ shared move => Possible shared move ∧ Orderly shared move

instance (shared : SharedBreaker) : (move : CallMove ε α) → Decidable (Possible shared move)
  | .enter who _ => inferInstanceAs (Decidable (∀ call ∈ shared.inFlight, call.who ≠ who))
  | .leave who _ _ => inferInstanceAs (Decidable (∃ call ∈ shared.inFlight, call.who = who))

instance (shared : SharedBreaker) : (move : CallMove ε α) → Decidable (Orderly shared move)
  | .enter _ now =>
      inferInstanceAs (Decidable ((shared.breaker.isOpen now).2.state = .HALF_OPEN →
        ∀ call ∈ shared.inFlight, call.state ≠ .HALF_OPEN))
  | .leave who (.fulfilled _) _ =>
      inferInstanceAs (Decidable (shared.breaker.state = .HALF_OPEN →
        ∀ call ∈ shared.inFlight, call.who = who →
          call.state = .HALF_OPEN ∧ call.period = shared.period))
  | .leave _ (.rejected _) _ => inferInstanceAs (Decidable True)
  | .leave _ .timer _ => inferInstanceAs (Decidable True)

instance (log : Log (CallMove ε α) (Option (Except (Thrown ε) α))) (shared : SharedBreaker)
    (move : CallMove ε α) : Decidable (anyOrder log shared move) :=
  inferInstanceAs (Decidable (Possible shared move))

instance (log : Log (CallMove ε α) (Option (Except (Thrown ε) α))) (shared : SharedBreaker)
    (move : CallMove ε α) : Decidable (inOrder log shared move) :=
  inferInstanceAs (Decidable (Possible shared move ∧ Orderly shared move))

/-- What an orderly run keeps. -/
structure Probing (shared : SharedBreaker) : Prop where
  oneProbe : AtMostOneProbe shared
  closed : ClosedByProbes shared
  credited : shared.breaker.state = .HALF_OPEN →
    ∀ call ∈ shared.credited, call.state = .HALF_OPEN ∧ call.period = shared.period

/-! ## The moves -/

theorem enter_cases (shared : SharedBreaker) (who : Nat) (now : Int) :
    ((shared.breaker.isOpen now).1 = true ∧ shared.breaker.state = .OPEN ∧
        (@SharedBreaker.enter ε shared who now).2 = shared) ∨
      ((shared.breaker.isOpen now).2.state = .HALF_OPEN ∧
        (shared.breaker.isOpen now).2.successes = 0 ∧
        (@SharedBreaker.enter ε shared who now).2 =
          { shared with
            breaker := (shared.breaker.isOpen now).2
            inFlight := ⟨who, .HALF_OPEN, shared.period + 1⟩ :: shared.inFlight
            period := shared.period + 1
            credited := [] }) ∨
      ((shared.breaker.isOpen now).2 = shared.breaker ∧ shared.breaker.state ≠ .OPEN ∧
        (@SharedBreaker.enter ε shared who now).2 =
          { shared with
            inFlight := ⟨who, shared.breaker.state, shared.period⟩ :: shared.inFlight }) := by
  by_cases hopen : shared.breaker.state = .OPEN
  · by_cases hnow : now - shared.breaker.lastOpenedAt.getD 0 ≥ shared.breaker.resetTimeoutMs
    · refine .inr (.inl ⟨?_, ?_, ?_⟩)
      · simp [CircuitBreaker.isOpen, hopen, hnow, CircuitBreaker.transitionTo]
      · simp [CircuitBreaker.isOpen, hopen, hnow, CircuitBreaker.transitionTo]
      · simp [SharedBreaker.enter, CircuitBreaker.enter, CircuitBreaker.isOpen, hopen, hnow,
          CircuitBreaker.transitionTo]
    · refine .inl ⟨?_, hopen, ?_⟩
      · simp only [CircuitBreaker.isOpen, hopen, if_true, if_neg hnow]
      · simp only [SharedBreaker.enter, CircuitBreaker.enter, CircuitBreaker.isOpen, hopen, if_true,
          if_neg hnow]
        simp
  · refine .inr (.inr ⟨?_, hopen, ?_⟩)
    · simp [CircuitBreaker.isOpen, hopen]
    · by_cases hhalf : shared.breaker.state = .HALF_OPEN
      all_goals simp [SharedBreaker.enter, CircuitBreaker.enter, CircuitBreaker.isOpen, hopen, hhalf]

theorem onFailure_state (cb : CircuitBreaker) (now : Int) :
    (cb.onFailure now).state = .OPEN ∨
      (cb.onFailure now).state = cb.state ∧ cb.state ≠ .HALF_OPEN := by
  by_cases hopens : cb.state = .HALF_OPEN ∨ cb.failureThreshold ≤ cb.failures + 1
  · left
    simp [CircuitBreaker.onFailure, hopens, CircuitBreaker.transitionTo]
  · right
    obtain ⟨hhalf, hbelow⟩ := not_or.mp hopens
    simp [CircuitBreaker.onFailure, hbelow, hhalf]

/-- A counted failure leaves the breaker out of HALF_OPEN and closes nothing. -/
theorem leave_failure (shared : SharedBreaker) (admission : Admission) (thrown : Thrown ε)
    (now : Int)
    (hfails : shared.breaker.leave (.error thrown : Except (Thrown ε) α) now =
      shared.breaker.onFailure now) :
    (shared.leave admission (.error thrown : Except (Thrown ε) α) now).breaker.state ≠ .HALF_OPEN ∧
      (shared.leave admission (.error thrown : Except (Thrown ε) α) now).closings =
        shared.closings := by
  have hstate := onFailure_state shared.breaker now
  simp only [SharedBreaker.leave, hfails]
  constructor
  · rcases hstate with hopen | ⟨hsame, hhalf⟩
    · simp [hopen]
    · simpa [hsame] using hhalf
  · refine if_neg ?_
    rintro ⟨hhalf, hclosed⟩
    rcases hstate with hopen | ⟨-, hnot⟩
    · simp [hopen] at hclosed
    · exact hnot hhalf

/-- What a call does when it leaves: its success is counted while HALF_OPEN, or closes the breaker;
otherwise the breaker was not HALF_OPEN, or is not any more, or the answer is not counted. -/
theorem leave_cases (shared : SharedBreaker) (admission : Admission)
    (answer : Except (Thrown ε) α) (now : Int) :
    (∃ value, answer = .ok value ∧ shared.breaker.state = .HALF_OPEN ∧
        ((shared.leave admission answer now).breaker.state = .HALF_OPEN ∧
            (shared.leave admission answer now).breaker.successes =
              shared.breaker.successes + 1 ∧
            (shared.leave admission answer now).credited = admission :: shared.credited ∧
            (shared.leave admission answer now).closings = shared.closings ∨
          (shared.leave admission answer now).breaker.state = .CLOSED ∧
            (shared.leave admission answer now).closings =
              (shared.period, admission :: shared.credited) :: shared.closings)) ∨
      ((shared.leave admission answer now).breaker.state ≠ .HALF_OPEN ∧
        (shared.leave admission answer now).closings = shared.closings) ∨
      ((shared.leave admission answer now).breaker = shared.breaker ∧
        (shared.leave admission answer now).credited = shared.credited ∧
        (shared.leave admission answer now).closings = shared.closings) := by
  cases answer with
  | ok value =>
      by_cases hhalf : shared.breaker.state = .HALF_OPEN
      · refine .inl ⟨value, rfl, hhalf, ?_⟩
        by_cases hreached : shared.breaker.successThreshold ≤ shared.breaker.successes + 1
        · right
          simp [SharedBreaker.leave, CircuitBreaker.leave, CircuitBreaker.onSuccess, hhalf,
            hreached, CircuitBreaker.transitionTo, credit]
        · left
          simp [SharedBreaker.leave, CircuitBreaker.leave, CircuitBreaker.onSuccess, hhalf,
            hreached, credit]
      · exact .inr (.inl (by
          simp [SharedBreaker.leave, CircuitBreaker.leave, CircuitBreaker.onSuccess, hhalf]))
  | error thrown =>
      cases thrown with
      | circuitOpenError message =>
          have hcloses : ¬ (shared.breaker.state = .HALF_OPEN ∧ shared.breaker.state = .CLOSED) := by
            simp +contextual
          refine .inr (.inr ⟨rfl, ?_, ?_⟩)
          · exact if_neg hcloses
          · exact if_neg hcloses
      | error message => exact .inr (.inl (leave_failure shared admission (.error message) now rfl))
      | value thrown => exact .inr (.inl (leave_failure shared admission (.value thrown) now rfl))

/-! ## Runs -/

theorem probing_new (opts : CircuitBreakerOptions) : Probing (SharedBreaker.new opts) where
  oneProbe := Nat.zero_le 1
  closed := by simp [ClosedByProbes, SharedBreaker.new]
  credited := by simp [SharedBreaker.new]

theorem AtMostOneProbe.cons_probe {shared : SharedBreaker} {who period : Nat}
    (hnone : ∀ call ∈ shared.inFlight, call.state ≠ .HALF_OPEN) :
    ((⟨who, .HALF_OPEN, period⟩ :: shared.inFlight : List Admission).filter
      (·.state = .HALF_OPEN)).length ≤ 1 := by
  have hfilter : shared.inFlight.filter (·.state = .HALF_OPEN) = [] := by
    simpa using hnone
  simp [hfilter]

theorem Probing.enter {shared : SharedBreaker} (h : Probing shared) (who : Nat) (now : Int)
    (horder : (shared.breaker.isOpen now).2.state = .HALF_OPEN →
      ∀ call ∈ shared.inFlight, call.state ≠ .HALF_OPEN) :
    Probing (@SharedBreaker.enter ε shared who now).2 := by
  obtain ⟨-, -, hsame⟩ | ⟨hhalf, -, hentered⟩ | ⟨hbreaker, -, hentered⟩ :=
    @enter_cases ε shared who now
  · rw [hsame]
    exact h
  · rw [hentered]
    exact ⟨AtMostOneProbe.cons_probe (horder hhalf), h.closed, by simp⟩
  · rw [hentered]
    refine ⟨?_, h.closed, h.credited⟩
    by_cases hstate : shared.breaker.state = .HALF_OPEN
    · rw [hbreaker] at horder
      simpa only [AtMostOneProbe, hstate] using AtMostOneProbe.cons_probe (horder hstate)
    · simpa [AtMostOneProbe, hstate] using h.oneProbe

theorem AtMostOneProbe.leave {shared : SharedBreaker} (h : AtMostOneProbe shared)
    (admission : Admission) (answer : Except (Thrown ε) α) (now : Int) :
    AtMostOneProbe (shared.leave admission answer now) := by
  have hsub : (shared.leave admission answer now).inFlight.Sublist shared.inFlight :=
    List.filter_sublist
  exact (hsub.filter _).length_le.trans h

theorem Probing.leave {shared : SharedBreaker} (h : Probing shared) (admission : Admission)
    (answer : Except (Thrown ε) α) (now : Int)
    (horder : ∀ value, answer = .ok value → shared.breaker.state = .HALF_OPEN →
      admission.state = .HALF_OPEN ∧ admission.period = shared.period) :
    Probing (shared.leave admission answer now) := by
  refine ⟨h.oneProbe.leave admission answer now, ?_, ?_⟩
  · obtain ⟨value, hvalue, hhalf, hcounted | hclosed⟩ | ⟨-, hclosings⟩ | ⟨-, -, hclosings⟩ :=
      leave_cases shared admission answer now
    · rw [ClosedByProbes, hcounted.2.2.2]
      exact h.closed
    · intro closing hmem call hcall
      rw [hclosed.2] at hmem
      rcases List.mem_cons.mp hmem with rfl | hmem
      · rcases List.mem_cons.mp hcall with rfl | hcall
        · exact horder value hvalue hhalf
        · exact h.credited hhalf call hcall
      · exact h.closed closing hmem call hcall
    · rw [ClosedByProbes, hclosings]
      exact h.closed
    · rw [ClosedByProbes, hclosings]
      exact h.closed
  · intro hafter
    obtain ⟨value, hvalue, hhalf, hcounted | hclosed⟩ | ⟨hstate, -⟩ | ⟨hbreaker, hcredited, -⟩ :=
      leave_cases shared admission answer now
    · intro call hcall
      rw [hcounted.2.2.1] at hcall
      rcases List.mem_cons.mp hcall with rfl | hcall
      · exact horder value hvalue hhalf
      · exact h.credited hhalf call hcall
    · simp [hclosed.1] at hafter
    · exact absurd hafter hstate
    · rw [hcredited]
      exact h.credited (hbreaker ▸ hafter)

theorem Probing.serve {shared : SharedBreaker} (h : Probing shared) {move : CallMove ε α}
    (horder : Orderly shared move) : Probing (shared.serve move).2 := by
  cases move with
  | enter who now => exact h.enter who now horder
  | leave who race now =>
      simp only [SharedBreaker.serve]
      split
      · exact h
      · rename_i admission hfind
        have hmem := List.mem_of_find?_eq_some hfind
        have hwho : admission.who = who := by simpa using List.find?_some hfind
        refine h.leave admission _ now fun value hvalue hhalf => ?_
        cases race with
        | fulfilled result => exact horder hhalf admission hmem hwho
        | rejected thrown => cases hvalue
        | timer => cases hvalue

/-- One call after the other. -/
def oneAfterTheOther : List (CallMove Unit Unit) :=
  [.leave 1 (.fulfilled ()) 201, .enter 1 200, .leave 0 .timer 5, .enter 0 0]

/-- In every state that an orderly run reaches at most one probe is in flight, and every change from
HALF_OPEN to CLOSED so far was caused by calls admitted in its period. -/
theorem one_probe_at_a_time {opts : CircuitBreakerOptions}
    {log : Log (CallMove ε α) (Option (Except (Thrown ε) α))} {shared : SharedBreaker}
    (h : Run SharedBreaker.serve inOrder (SharedBreaker.new opts) log shared) :
    AtMostOneProbe shared ∧ ClosedByProbes shared := by
  have hprobing : Probing shared :=
    h.invariant (I := fun _ shared => Probing shared) (probing_new opts)
      fun _ _ _ h hadmits => h.serve hadmits.2
  exact ⟨hprobing.oneProbe, hprobing.closed⟩

theorem one_probe_at_a_time_sequential :
    Admitted SharedBreaker.serve inOrder (SharedBreaker.new quickBreaker) oneAfterTheOther ∧
      ClosedByProbes (served SharedBreaker.serve (SharedBreaker.new quickBreaker)
        oneAfterTheOther).2 := by
  have hadmitted : Admitted SharedBreaker.serve inOrder (SharedBreaker.new quickBreaker)
      oneAfterTheOther := by
    decide
  exact ⟨hadmitted, (one_probe_at_a_time (run_served hadmitted)).2⟩

/-- The calls remembered as credited are those that `successes` counts, in any order of moves. -/
theorem credited_length {opts : CircuitBreakerOptions}
    {log : Log (CallMove ε α) (Option (Except (Thrown ε) α))} {shared : SharedBreaker}
    (h : Run SharedBreaker.serve anyOrder (SharedBreaker.new opts) log shared) :
    shared.breaker.state = .HALF_OPEN →
      shared.credited.length = shared.breaker.successes := by
  refine h.invariant (I := fun _ shared => shared.breaker.state = .HALF_OPEN →
    shared.credited.length = shared.breaker.successes) (fun hhalf => by cases hhalf) ?_
  intro log shared move ih _ hafter
  cases move with
  | enter who now =>
      simp only [SharedBreaker.serve] at hafter ⊢
      obtain ⟨-, -, hsame⟩ | ⟨-, hzero, hentered⟩ | ⟨-, -, hentered⟩ :=
        @enter_cases ε shared who now
      · rw [hsame] at hafter ⊢
        exact ih hafter
      · rw [hentered]
        exact hzero.symm
      · rw [hentered] at hafter ⊢
        exact ih hafter
  | leave who race now =>
      simp only [SharedBreaker.serve] at hafter ⊢
      split at hafter
      · rename_i hfind
        exact ih hafter
      · rename_i admission hfind
        obtain ⟨_, -, hhalf, hcounted | hclosed⟩ | ⟨hstate, -⟩ | ⟨hbreaker, hcredited, -⟩ :=
          leave_cases shared admission (shared.breaker.withTimeout race) now
        · rw [hcounted.2.1, hcounted.2.2.1, List.length_cons, ih hhalf]
        · simp [hclosed.1] at hafter
        · exact absurd hafter hstate
        · rw [hbreaker] at hafter ⊢
          rw [hcredited]
          exact ih hafter

/-! ## Runs that are not orderly -/

/-- Two calls come after the reset period. Moves are listed newest first. -/
def twoProbes : List (CallMove Unit Unit) :=
  [.enter 2 201, .enter 1 200, .leave 0 .timer 5, .enter 0 0]

/-- A call that was admitted in CLOSED succeeds after another has failed and the reset period is
over. -/
def lateSuccess : List (CallMove Unit Unit) :=
  [.leave 1 (.fulfilled ()) 201, .enter 2 200, .leave 0 .timer 5, .enter 1 1, .enter 0 0]

theorem not_one_probe_at_a_time :
    (¬ ∀ (opts : CircuitBreakerOptions)
        (log : Log (CallMove Unit Unit) (Option (Except (Thrown Unit) Unit)))
        (shared : SharedBreaker),
        1 ≤ (CircuitBreaker.new opts).failureThreshold →
          1 ≤ (CircuitBreaker.new opts).successThreshold →
            Run SharedBreaker.serve anyOrder (SharedBreaker.new opts) log shared →
              AtMostOneProbe shared) ∧
      ¬ ∀ (opts : CircuitBreakerOptions)
        (log : Log (CallMove Unit Unit) (Option (Except (Thrown Unit) Unit)))
        (shared : SharedBreaker),
        1 ≤ (CircuitBreaker.new opts).failureThreshold →
          1 ≤ (CircuitBreaker.new opts).successThreshold →
            Run SharedBreaker.serve anyOrder (SharedBreaker.new opts) log shared →
              ClosedByProbes shared := by
  have htwo : Admitted SharedBreaker.serve anyOrder (SharedBreaker.new quickBreaker) twoProbes := by
    decide
  have hlate :
      Admitted SharedBreaker.serve anyOrder (SharedBreaker.new quickBreaker) lateSuccess := by
    decide
  constructor
  · intro hall
    have hone := hall quickBreaker _ _ (by decide) (by decide) (run_served htwo)
    exact absurd hone (by decide)
  · intro hall
    have hclosed := hall quickBreaker _ _ (by decide) (by decide) (run_served hlate)
    exact absurd hclosed (by decide)

end FacilitatorX402.Probes
