import FacilitatorX402.Infrastructure.CircuitBreaker

/-!
# The breaker as an automaton over its history

The reference automaton keeps no counter and no timestamp. It looks at what has been seen of the
breaker from outside: its changes of state, the calls it refused and the calls that ran. Each of
the three stored quantities is a quantity of that history: `failures` while CLOSED is the newest run
of failures, `successes` while HALF_OPEN is the number of calls counted since it was entered, and
`lastOpenedAt` while OPEN is the time of the last change.
-/

namespace FacilitatorX402.Breaker

open RunLength CircuitBreaker

variable {σ ε α : Type}

inductive Event (ε α : Type) where
  | became (state : CircuitState) (time : Int)
  | refused (answer : Except (Thrown ε) α)
  | ran (answer : Except (Thrown ε) α)
  deriving DecidableEq

/-- Whether the event is a counted call, and then whether the call succeeded. A call that ended in a
`CircuitOpenError` of `fn` is not counted. -/
def Event.counted : Event ε α → Option Bool
  | .ran (.ok _) => some true
  | .ran (.error (.circuitOpenError _)) => none
  | .ran (.error _) => some false
  | _ => none

/-- The last change of state and its time. Histories are kept newest first. -/
def lastChange : List (Event ε α) → Option (CircuitState × Int)
  | [] => none
  | .became state time :: _ => some (state, time)
  | _ :: past => lastChange past

/-- The outcomes counted since the last change of state, newest first. -/
def sinceChange : List (Event ε α) → List Bool
  | [] => []
  | .became _ _ :: _ => []
  | event :: past => event.counted.toList ++ sinceChange past

def stateOf (past : List (Event ε α)) : CircuitState :=
  (lastChange past).elim .CLOSED Prod.fst

namespace Reference

/-- The last change was an opening less than `resetTimeoutMs` ago. -/
def Refuses (settings : BreakerSettings) (past : List (Event ε α)) (now : Int) : Prop :=
  ∃ openedAt, lastChange past = some (.OPEN, openedAt) ∧ now - openedAt < settings.resetTimeoutMs

instance (settings : BreakerSettings) (past : List (Event ε α)) (now : Int) :
    Decidable (Refuses settings past now) :=
  decidable_of_iff
    ((lastChange past).any fun change =>
      change.1 = .OPEN ∧ now - change.2 < settings.resetTimeoutMs)
    (by
      simp only [Refuses, Option.any_eq_true]
      grind)

/-- The change of state that a call brings about when it is over. -/
def next (settings : BreakerSettings) (past : List (Event ε α)) : Option CircuitState :=
  match stateOf past with
  | .CLOSED =>
      if LastAll (! ·) settings.failureThreshold (sinceChange past) then some .OPEN else none
  | .HALF_OPEN =>
      if LastAll id settings.successThreshold (sinceChange past) then some .CLOSED
      else if (sinceChange past).head? = some false then some .OPEN else none
  | .OPEN => none

def call (settings : BreakerSettings) (seen : σ × List (Event ε α)) (call : Call σ ε α) :
    σ × List (Event ε α) :=
  let (world, past) := seen
  if Refuses settings past call.startedAt then (world, .refused (.error settings.refusal) :: past)
  else
    let past := if stateOf past = .OPEN then .became .HALF_OPEN call.startedAt :: past else past
    let (race, world) := call.fn world
    let past := .ran (settings.withTimeout race) :: past
    (world, ((next settings past).map fun state => .became state call.endedAt).toList ++ past)

end Reference

/-- A breaker, the world its calls act on and what has been seen of it. -/
structure Watched (σ ε α : Type) where
  breaker : CircuitBreaker
  world : σ
  past : List (Event ε α)

/-- The change of state that shows when `getState` is compared. -/
def changed (before after : CircuitState) (time : Int) : List (Event ε α) :=
  if before = after then [] else [.became after time]

namespace Watched

def start (opts : CircuitBreakerOptions) (world : σ) : Watched σ ε α :=
  { breaker := .new opts, world := world, past := [] }

/-- One call of `execute`, with what is seen of it. -/
def call (watched : Watched σ ε α) (call : Call σ ε α) : Watched σ ε α :=
  let (refusal, entered) := @enter ε watched.breaker call.startedAt
  let (answer, breaker, world) := watched.breaker.execute call watched.world
  { breaker := breaker
    world := world
    past := changed entered.state breaker.state call.endedAt ++
      (if refusal.isSome then .refused answer else .ran answer) ::
        (changed watched.breaker.state entered.state call.startedAt ++ watched.past) }

end Watched

/-- The second half of an admitted call. -/
def Watched.finish (watched : Watched σ ε α) (answer : Except (Thrown ε) α) (time : Int) :
    Watched σ ε α :=
  let breaker := watched.breaker.leave answer time
  { watched with
    breaker := breaker
    past := changed watched.breaker.state breaker.state time ++ .ran answer :: watched.past }

/-! ## What one call sees -/

@[simp]
theorem lastChange_became (state : CircuitState) (time : Int) (past : List (Event ε α)) :
    lastChange (.became state time :: past) = some (state, time) := rfl

@[simp]
theorem lastChange_ran (answer : Except (Thrown ε) α) (past : List (Event ε α)) :
    lastChange (.ran answer :: past) = lastChange past := rfl

@[simp]
theorem lastChange_refused (answer : Except (Thrown ε) α) (past : List (Event ε α)) :
    lastChange (.refused answer :: past) = lastChange past := rfl

@[simp]
theorem sinceChange_became (state : CircuitState) (time : Int) (past : List (Event ε α)) :
    sinceChange (.became state time :: past) = [] := rfl

@[simp]
theorem sinceChange_ran (answer : Except (Thrown ε) α) (past : List (Event ε α)) :
    sinceChange (.ran answer :: past) =
      (Event.ran answer).counted.toList ++ sinceChange past := rfl

@[simp]
theorem sinceChange_refused (answer : Except (Thrown ε) α) (past : List (Event ε α)) :
    sinceChange (.refused answer :: past) = sinceChange past := rfl

@[simp]
theorem changed_self (state : CircuitState) (time : Int) :
    (changed state state time : List (Event ε α)) = [] := by
  simp [changed]

theorem enter_of_refusing {cb : CircuitBreaker} {now : Int} (hopen : cb.state = .OPEN)
    (hnow : now - cb.lastOpenedAt.getD 0 < cb.resetTimeoutMs) :
    cb.enter now = (some (cb.refusal : Thrown ε), cb) := by
  have helapsed : ¬ now - cb.lastOpenedAt.getD 0 ≥ cb.resetTimeoutMs := by omega
  simp only [enter, isOpen, hopen, if_true, helapsed, if_false]

theorem enter_of_elapsed {cb : CircuitBreaker} {now : Int} (hopen : cb.state = .OPEN)
    (hnow : cb.resetTimeoutMs ≤ now - cb.lastOpenedAt.getD 0) :
    cb.enter now = ((none : Option (Thrown ε)), cb.transitionTo .HALF_OPEN now) := by
  simp [enter, isOpen, hopen, hnow]

theorem enter_of_not_open {cb : CircuitBreaker} {now : Int} (hopen : cb.state ≠ .OPEN) :
    cb.enter now = ((none : Option (Thrown ε)), cb) := by
  simp [enter, isOpen, hopen]

/-- What the stored fields are, in terms of the history. -/
structure Tracks (settings : BreakerSettings) (watched : Watched σ ε α) : Prop where
  settings_eq : watched.breaker.toBreakerSettings = settings
  state_eq : watched.breaker.state = stateOf watched.past
  closed : watched.breaker.state = .CLOSED →
    watched.breaker.failures = run (! ·) (sinceChange watched.past) ∧
      watched.breaker.failures < settings.failureThreshold
  halfOpen : watched.breaker.state = .HALF_OPEN →
    watched.breaker.successes = (sinceChange watched.past).length ∧
      (∀ outcome ∈ sinceChange watched.past, outcome) ∧
      watched.breaker.successes < settings.successThreshold
  opened : watched.breaker.state = .OPEN →
    ∃ openedAt, watched.breaker.lastOpenedAt = some openedAt ∧
      lastChange watched.past = some (.OPEN, openedAt)

theorem Tracks.start {opts : CircuitBreakerOptions}
    (hfailures : 1 ≤ (CircuitBreaker.new opts).failureThreshold) (world : σ) :
    Tracks (CircuitBreaker.new opts).toBreakerSettings
      (Watched.start opts world : Watched σ ε α) where
  settings_eq := rfl
  state_eq := rfl
  closed := fun _ => ⟨rfl, hfailures⟩
  halfOpen := fun h => by cases h
  opened := fun h => by cases h

variable {settings : BreakerSettings} {watched : Watched σ ε α}

/-- The breaker refuses exactly when the history says so. -/
theorem Tracks.refuses_iff (tracks : Tracks settings watched) (now : Int) :
    Reference.Refuses settings watched.past now ↔
      watched.breaker.state = .OPEN ∧
        now - watched.breaker.lastOpenedAt.getD 0 < watched.breaker.resetTimeoutMs := by
  obtain ⟨hsettings, hstate, -, -, hopened⟩ := tracks
  subst hsettings
  constructor
  · rintro ⟨openedAt, hlast, hnow⟩
    have hopen : watched.breaker.state = .OPEN := by rw [hstate, stateOf, hlast]; rfl
    obtain ⟨stored, hstored, hlast'⟩ := hopened hopen
    obtain rfl : openedAt = stored := by simpa [hlast] using hlast'
    exact ⟨hopen, by simpa [hstored] using hnow⟩
  · rintro ⟨hopen, hnow⟩
    obtain ⟨stored, hstored, hlast⟩ := hopened hopen
    exact ⟨stored, hlast, by simpa [hstored] using hnow⟩

theorem next_ran_closed {answer : Except (Thrown ε) α} {past : List (Event ε α)}
    (hstate : stateOf past = .CLOSED) :
    Reference.next settings (.ran answer :: past) =
      if settings.failureThreshold ≤
          run (! ·) ((Event.ran answer).counted.toList ++ sinceChange past) then
        some .OPEN
      else none := by
  have hran : stateOf (.ran answer :: past) = .CLOSED := hstate
  simp only [Reference.next, hran, sinceChange_ran]
  exact if_congr le_run_iff.symm rfl rfl

theorem next_ran_halfOpen {answer : Except (Thrown ε) α} {past : List (Event ε α)}
    (hstate : stateOf past = .HALF_OPEN) :
    Reference.next settings (.ran answer :: past) =
      if settings.successThreshold ≤
          run id ((Event.ran answer).counted.toList ++ sinceChange past) then
        some .CLOSED
      else if ((Event.ran answer).counted.toList ++ sinceChange past).head? = some false then
        some .OPEN
      else none := by
  have hran : stateOf (.ran answer :: past) = .HALF_OPEN := hstate
  simp only [Reference.next, hran, sinceChange_ran]
  exact if_congr le_run_iff.symm rfl rfl

/-- The condition on what a call appends to the history, and the invariant after it. -/
structure Follows (settings : BreakerSettings) (watched after : Watched σ ε α)
    (answer : Except (Thrown ε) α) (time : Int) : Prop where
  past_eq : after.past =
    ((Reference.next settings (.ran answer :: watched.past)).map
      fun state => .became state time).toList ++ .ran answer :: watched.past
  tracks : Tracks settings after

theorem Tracks.finish_uncounted (tracks : Tracks settings watched)
    (hopen : watched.breaker.state ≠ .OPEN) (message : String) (time : Int) :
    Follows settings watched (watched.finish (.error (.circuitOpenError message)) time)
      (.error (.circuitOpenError message)) time := by
  obtain ⟨hsettings, hstate, hclosed, hhalf, -⟩ := tracks
  have hpast : (watched.finish (.error (.circuitOpenError message)) time).past =
      .ran (.error (.circuitOpenError message)) :: watched.past := by
    simp [Watched.finish, leave]
  refine ⟨?_, ⟨hsettings, ?_, ?_, ?_, ?_⟩⟩
  · rw [hpast]
    cases hcase : watched.breaker.state with
    | CLOSED =>
        obtain ⟨hrun, hlt⟩ := hclosed hcase
        rw [next_ran_closed (hstate ▸ hcase)]
        simp [Event.counted, ← hrun, Nat.not_le.mpr hlt]
    | HALF_OPEN =>
        obtain ⟨hlength, hall, hlt⟩ := hhalf hcase
        have hhead : (sinceChange watched.past).head? ≠ some false := by
          intro hhead
          simpa using hall _ (List.mem_of_head? hhead)
        rw [next_ran_halfOpen (hstate ▸ hcase)]
        simp [Event.counted, run_eq_length (p := id) hall, ← hlength, Nat.not_le.mpr hlt, hhead]
    | OPEN => exact absurd hcase hopen
  · rw [hpast]
    exact hstate
  · intro hcase
    rw [hpast]
    exact hclosed hcase
  · intro hcase
    rw [hpast]
    exact hhalf hcase
  · intro hcase
    exact absurd hcase hopen

theorem leave_ok_closed {cb : CircuitBreaker} (hstate : cb.state = .CLOSED) (value : α)
    (time : Int) :
    cb.leave (ε := ε) (.ok value) time = { cb with failures := 0 } := by
  simp [leave, onSuccess, hstate]

theorem leave_ok_halfOpen {cb : CircuitBreaker} (hstate : cb.state = .HALF_OPEN) (value : α)
    (time : Int) :
    cb.leave (ε := ε) (.ok value) time =
      if cb.successThreshold ≤ cb.successes + 1 then
        { cb with state := .CLOSED, failures := 0, successes := 0 }
      else { cb with successes := cb.successes + 1 } := by
  simp only [leave, onSuccess, hstate, if_true, transitionTo, ge_iff_le]

theorem Tracks.finish_success (tracks : Tracks settings watched)
    (hfailures : 1 ≤ settings.failureThreshold) (hopen : watched.breaker.state ≠ .OPEN)
    (value : α) (time : Int) :
    Follows settings watched (watched.finish (.ok value) time) (.ok value) time := by
  obtain ⟨hsettings, hstate, hclosed, hhalf, -⟩ := tracks
  have hcounted : (Event.ran (.ok value : Except (Thrown ε) α)).counted = some true := rfl
  cases hcase : watched.breaker.state with
  | OPEN => exact absurd hcase hopen
  | CLOSED =>
      have hafter := leave_ok_closed (ε := ε) hcase value time
      have hpast : (watched.finish (.ok value) time).past = .ran (.ok value) :: watched.past := by
        simp [Watched.finish, hafter]
      have hbreaker : (watched.finish (.ok value) time).breaker =
          { watched.breaker with failures := 0 } := hafter
      refine ⟨?_, ⟨?_, ?_, ?_, ?_, ?_⟩⟩
      · rw [hpast, next_ran_closed (hstate ▸ hcase)]
        simp [hcounted, Nat.not_le.mpr hfailures]
      · rw [hbreaker]
        exact hsettings
      · rw [hbreaker, hpast]
        exact hstate
      · intro _
        rw [hbreaker, hpast]
        simp [hcounted]
        omega
      · rw [hbreaker]
        simp [hcase]
      · rw [hbreaker]
        simp [hcase]
  | HALF_OPEN =>
      obtain ⟨hlength, hall, hlt⟩ := hhalf hcase
      have hafter := leave_ok_halfOpen (ε := ε) hcase value time
      have hthreshold : watched.breaker.successThreshold = settings.successThreshold := by
        rw [← hsettings]
      have hrun : run id ((Event.ran (.ok value : Except (Thrown ε) α)).counted.toList ++
          sinceChange watched.past) = watched.breaker.successes + 1 := by
        simp [hcounted, run_eq_length (p := id) hall, hlength]
      rw [hthreshold] at hafter
      by_cases hreached : settings.successThreshold ≤ watched.breaker.successes + 1
      · rw [if_pos hreached] at hafter
        have hbreaker : (watched.finish (.ok value) time).breaker =
            { watched.breaker with state := .CLOSED, failures := 0, successes := 0 } := hafter
        have hpast : (watched.finish (.ok value) time).past =
            .became .CLOSED time :: .ran (.ok value) :: watched.past := by
          simp [Watched.finish, hafter, changed, hcase]
        refine ⟨?_, ⟨?_, ?_, ?_, ?_, ?_⟩⟩
        · rw [hpast, next_ran_halfOpen (hstate ▸ hcase), hrun, if_pos hreached]
          rfl
        · rw [hbreaker]
          exact hsettings
        · rw [hbreaker, hpast]
          rfl
        · intro _
          rw [hbreaker, hpast]
          simp
          omega
        · rw [hbreaker]
          simp
        · rw [hbreaker]
          simp
      · rw [if_neg hreached] at hafter
        have hbreaker : (watched.finish (.ok value) time).breaker =
            { watched.breaker with successes := watched.breaker.successes + 1 } := hafter
        have hpast : (watched.finish (.ok value) time).past =
            .ran (.ok value) :: watched.past := by
          simp [Watched.finish, hafter]
        refine ⟨?_, ⟨?_, ?_, ?_, ?_, ?_⟩⟩
        · rw [hpast, next_ran_halfOpen (hstate ▸ hcase), hrun, if_neg hreached]
          simp [hcounted]
        · rw [hbreaker]
          exact hsettings
        · rw [hbreaker, hpast]
          exact hstate
        · rw [hbreaker]
          simp [hcase]
        · intro _
          rw [hbreaker, hpast]
          refine ⟨by simp [hcounted, hlength], ?_, Nat.not_le.mp hreached⟩
          simpa [hcounted] using hall
        · rw [hbreaker]
          simp [hcase]

/-- A counted failure: any error but a `CircuitOpenError`. -/
def Fails : Except (Thrown ε) α → Prop
  | .error (.circuitOpenError _) => False
  | .error _ => True
  | .ok _ => False

theorem Fails.counted {answer : Except (Thrown ε) α} (hfails : Fails answer) :
    (Event.ran answer).counted = some false := by
  cases answer with
  | ok value => exact hfails.elim
  | error thrown =>
      cases thrown with
      | circuitOpenError message => exact hfails.elim
      | error message => rfl
      | value thrown => rfl

theorem Fails.leave {answer : Except (Thrown ε) α} (hfails : Fails answer) (cb : CircuitBreaker)
    (time : Int) : cb.leave answer time = cb.onFailure time := by
  cases answer with
  | ok value => exact hfails.elim
  | error thrown =>
      cases thrown with
      | circuitOpenError message => exact hfails.elim
      | error message => rfl
      | value thrown => rfl

theorem onFailure_eq (cb : CircuitBreaker) (time : Int) :
    cb.onFailure time =
      if cb.state = .HALF_OPEN ∨ cb.failureThreshold ≤ cb.failures + 1 then
        { cb with state := .OPEN, lastOpenedAt := some time, failures := 0, successes := 0 }
      else { cb with failures := cb.failures + 1, successes := 0 } := rfl

theorem Tracks.finish_failure (tracks : Tracks settings watched)
    (hsuccesses : 1 ≤ settings.successThreshold) (hopen : watched.breaker.state ≠ .OPEN)
    {answer : Except (Thrown ε) α} (hfails : Fails answer) (time : Int) :
    Follows settings watched (watched.finish answer time) answer time := by
  obtain ⟨hsettings, hstate, hclosed, hhalf, -⟩ := tracks
  have hcounted := hfails.counted
  have hafter : watched.breaker.leave answer time = watched.breaker.onFailure time :=
    hfails.leave watched.breaker time
  have hthreshold : watched.breaker.failureThreshold = settings.failureThreshold := by
    rw [← hsettings]
  rw [onFailure_eq, hthreshold] at hafter
  by_cases htrips : watched.breaker.state = .HALF_OPEN ∨
      settings.failureThreshold ≤ watched.breaker.failures + 1
  · rw [if_pos htrips] at hafter
    have hpast : (watched.finish answer time).past =
        .became .OPEN time :: .ran answer :: watched.past := by
      simp [Watched.finish, hafter, changed, hopen]
    have hnext : Reference.next settings (.ran answer :: watched.past) = some .OPEN := by
      cases hcase : watched.breaker.state with
      | OPEN => exact absurd hcase hopen
      | CLOSED =>
          obtain ⟨hrun, -⟩ := hclosed hcase
          have hreached : settings.failureThreshold ≤ watched.breaker.failures + 1 :=
            htrips.resolve_left (by simp [hcase])
          rw [next_ran_closed (hstate ▸ hcase)]
          simp [hcounted, ← hrun, hreached]
      | HALF_OPEN =>
          rw [next_ran_halfOpen (hstate ▸ hcase)]
          simp [hcounted, Nat.not_le.mpr hsuccesses]
    refine ⟨?_, ⟨?_, ?_, ?_, ?_, ?_⟩⟩
    · rw [hpast, hnext]
      rfl
    · simpa [Watched.finish, hafter] using hsettings
    · rw [hpast]
      simp [Watched.finish, hafter, stateOf]
    · simp [Watched.finish, hafter]
    · simp [Watched.finish, hafter]
    · rw [hpast]
      simp [Watched.finish, hafter]
  · rw [if_neg htrips] at hafter
    obtain ⟨hnotHalf, hbelow⟩ := not_or.mp htrips
    have hcase : watched.breaker.state = .CLOSED := by
      cases h : watched.breaker.state with
      | CLOSED => rfl
      | OPEN => exact absurd h hopen
      | HALF_OPEN => exact absurd h hnotHalf
    obtain ⟨hrun, -⟩ := hclosed hcase
    have hpast : (watched.finish answer time).past = .ran answer :: watched.past := by
      simp [Watched.finish, hafter]
    refine ⟨?_, ⟨?_, ?_, ?_, ?_, ?_⟩⟩
    · rw [hpast, next_ran_closed (hstate ▸ hcase)]
      simp [hcounted, ← hrun, hbelow]
    · simpa [Watched.finish, hafter] using hsettings
    · rw [hpast]
      simpa [Watched.finish, hafter, stateOf] using hstate
    · intro _
      rw [hpast]
      simpa [Watched.finish, hafter, hcounted, hrun] using Nat.not_le.mp (hrun ▸ hbelow)
    · simp [Watched.finish, hafter, hcase]
    · simp [Watched.finish, hafter, hcase]

/-- Once a call has run, whatever its outcome, the history has grown as the reference says. -/
theorem Tracks.finish (tracks : Tracks settings watched)
    (hfailures : 1 ≤ settings.failureThreshold) (hsuccesses : 1 ≤ settings.successThreshold)
    (hopen : watched.breaker.state ≠ .OPEN) (answer : Except (Thrown ε) α) (time : Int) :
    Follows settings watched (watched.finish answer time) answer time := by
  cases answer with
  | ok value => exact tracks.finish_success hfailures hopen value time
  | error thrown =>
      cases thrown with
      | circuitOpenError message => exact tracks.finish_uncounted hopen message time
      | error message =>
          have hfails : Fails (.error (.error message) : Except (Thrown ε) α) := trivial
          exact tracks.finish_failure hsuccesses hopen hfails time
      | value thrown =>
          have hfails : Fails (.error (.value thrown) : Except (Thrown ε) α) := trivial
          exact tracks.finish_failure hsuccesses hopen hfails time

theorem Tracks.halfOpens (tracks : Tracks settings watched)
    (hsuccesses : 1 ≤ settings.successThreshold) (world : σ) (time : Int) :
    Tracks settings
      { breaker := watched.breaker.transitionTo .HALF_OPEN time
        world := world
        past := .became .HALF_OPEN time :: watched.past } where
  settings_eq := tracks.settings_eq
  state_eq := rfl
  closed := fun h => by cases h
  halfOpen := fun _ => ⟨rfl, by simp, hsuccesses⟩
  opened := fun h => by cases h

theorem Tracks.with_world (tracks : Tracks settings watched) (world : σ) :
    Tracks settings { watched with world := world } :=
  ⟨tracks.settings_eq, tracks.state_eq, tracks.closed, tracks.halfOpen, tracks.opened⟩

/-- The reference has seen the same. -/
def Watched.seen (watched : Watched σ ε α) : σ × List (Event ε α) := (watched.world, watched.past)

theorem call_of_admitted {entered : CircuitBreaker} {call : Call σ ε α}
    (henter : watched.breaker.enter call.startedAt = ((none : Option (Thrown ε)), entered)) :
    watched.call call =
      Watched.finish
        { breaker := entered
          world := (call.fn watched.world).2
          past := changed watched.breaker.state entered.state call.startedAt ++ watched.past }
        (entered.withTimeout (call.fn watched.world).1) call.endedAt := by
  simp [Watched.call, Watched.finish, execute, henter]

theorem Tracks.call (tracks : Tracks settings watched)
    (hfailures : 1 ≤ settings.failureThreshold) (hsuccesses : 1 ≤ settings.successThreshold)
    (call : Call σ ε α) :
    (watched.call call).seen = Reference.call settings watched.seen call ∧
      Tracks settings (watched.call call) := by
  by_cases hrefuses : Reference.Refuses settings watched.past call.startedAt
  · obtain ⟨hopen, hnow⟩ := (tracks.refuses_iff call.startedAt).mp hrefuses
    have hcall : watched.call call =
        { watched with past := .refused (.error settings.refusal) :: watched.past } := by
      simp [Watched.call, execute, enter_of_refusing hopen hnow, tracks.settings_eq]
    refine ⟨?_, ?_⟩
    · simp [Reference.call, Watched.seen, hcall, hrefuses]
    · rw [hcall]
      exact ⟨tracks.settings_eq, tracks.state_eq, tracks.closed, tracks.halfOpen, tracks.opened⟩
  by_cases hopen : watched.breaker.state = .OPEN
  · have hnow : watched.breaker.resetTimeoutMs ≤
        call.startedAt - watched.breaker.lastOpenedAt.getD 0 := by
      by_contra hbelow
      exact hrefuses ((tracks.refuses_iff _).mpr ⟨hopen, by omega⟩)
    have hcall := call_of_admitted (enter_of_elapsed (ε := ε) hopen hnow)
    have hchanged : (changed watched.breaker.state
        (watched.breaker.transitionTo .HALF_OPEN call.startedAt).state call.startedAt :
          List (Event ε α)) = [.became .HALF_OPEN call.startedAt] := by
      simp [hopen, changed, transitionTo]
    rw [hchanged] at hcall
    have hfollows := (tracks.halfOpens hsuccesses (call.fn watched.world).2 call.startedAt).finish
      hfailures hsuccesses (by simp [transitionTo])
      (settings.withTimeout (call.fn watched.world).1) call.endedAt
    have hanswer : (watched.breaker.transitionTo .HALF_OPEN call.startedAt).withTimeout
        (call.fn watched.world).1 = settings.withTimeout (call.fn watched.world).1 := by
      rw [← tracks.settings_eq]
      rfl
    rw [hanswer] at hcall
    refine ⟨?_, hcall ▸ hfollows.tracks⟩
    have hpast := hfollows.past_eq
    rw [← List.singleton_append, ← hcall] at hpast
    have hworld : (watched.call call).world = (call.fn watched.world).2 := by
      rw [hcall]
      rfl
    simp [Reference.call, Watched.seen, hrefuses, ← tracks.state_eq, hopen, hpast, hworld]
  · have henter : watched.breaker.enter call.startedAt =
        ((none : Option (Thrown ε)), watched.breaker) := enter_of_not_open hopen
    have hcall := call_of_admitted henter
    rw [changed_self, List.nil_append, tracks.settings_eq] at hcall
    have hfollows := (tracks.with_world (call.fn watched.world).2).finish hfailures hsuccesses hopen
      (settings.withTimeout (call.fn watched.world).1) call.endedAt
    have hpast := hfollows.past_eq
    rw [← hcall] at hpast
    have hworld : (watched.call call).world = (call.fn watched.world).2 := by
      rw [hcall]
      rfl
    refine ⟨?_, hcall ▸ hfollows.tracks⟩
    simp [Reference.call, Watched.seen, hrefuses, ← tracks.state_eq, hopen, hpast, hworld]

theorem Tracks.calls (tracks : Tracks settings watched)
    (hfailures : 1 ≤ settings.failureThreshold) (hsuccesses : 1 ≤ settings.successThreshold)
    (calls : List (Call σ ε α)) :
    (calls.foldl Watched.call watched).seen =
        calls.foldl (Reference.call settings) watched.seen ∧
      Tracks settings (calls.foldl Watched.call watched) := by
  induction calls generalizing watched with
  | nil => exact ⟨rfl, tracks⟩
  | cons call calls ih =>
      obtain ⟨hseen, hafter⟩ := tracks.call hfailures hsuccesses call
      rw [List.foldl_cons, List.foldl_cons, ← hseen]
      exact ih hafter

/-- Calls that do not overlap: what is seen of the breaker, with the answers and the effects of the
calls, is what the reference automaton says, and `getState` answers the reference's state. -/
theorem refines_reference (opts : CircuitBreakerOptions)
    (hfailures : 1 ≤ (CircuitBreaker.new opts).failureThreshold)
    (hsuccesses : 1 ≤ (CircuitBreaker.new opts).successThreshold)
    (calls : List (Call σ ε α)) (world : σ) :
    let watched := calls.foldl Watched.call (Watched.start opts world)
    let seen := calls.foldl (Reference.call (CircuitBreaker.new opts).toBreakerSettings) (world, [])
    watched.world = seen.1 ∧ watched.past = seen.2 ∧ watched.breaker.state = stateOf seen.2 := by
  have hstart := Tracks.start (ε := ε) (α := α) hfailures world
  obtain ⟨hseen, hafter⟩ := hstart.calls hfailures hsuccesses calls
  refine ⟨congrArg Prod.fst hseen, congrArg Prod.snd hseen, ?_⟩
  rw [hafter.state_eq]
  exact congrArg (fun seen => stateOf seen.2) hseen

/-- Calls that end as given and count how often `fn` runs. -/
def timedCall (race : Race Unit Unit) (startedAt endedAt : Int) : Call Nat Unit Unit :=
  { fn := fun runs => (race, runs + 1), startedAt := startedAt, endedAt := endedAt }

theorem refines_reference_quick :
    1 ≤ (CircuitBreaker.new quickBreaker).failureThreshold ∧
      1 ≤ (CircuitBreaker.new quickBreaker).successThreshold ∧
      ([timedCall .timer 0 5, timedCall (.fulfilled ()) 50 51,
        timedCall (.fulfilled ()) 200 201].foldl Watched.call
          (Watched.start quickBreaker 0)).world = 2 := by
  refine ⟨by decide, by decide, ?_⟩
  rw [(refines_reference quickBreaker (by decide) (by decide) [timedCall .timer 0 5,
    timedCall (.fulfilled ()) 50 51, timedCall (.fulfilled ()) 200 201] 0).1]
  rfl

end FacilitatorX402.Breaker
