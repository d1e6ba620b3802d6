import FacilitatorX402.Library.Program
import Mathlib.Logic.Relation

/-!
# Interleaved calls

Any number of calls, each a program, share one world. A step picks a call and lets the world carry
out the operation that call stands at; the environment may also move on its own. What was performed
and answered is kept in the history, newest first.

`step` and `run` execute a schedule, so a bad interleaving is a list that can be replayed. `Step` is
the same transition as a relation, restricted to the steps that meet a condition; safety of every
run is proved with `Reachable.follows`, which carries a phase of its protocol for each call.
-/

namespace Interact

/-- A shared world: how it carries out an operation of a call, given what the surroundings decide,
and how it moves on its own. -/
structure Machine (I : Interface) (E ι : Type) where
  World : Type
  Outcome : Type
  Env : Type
  exec : ι → World → (op : I.Op) → Outcome → Option (Except E (I.Ans op) × World)
  env : World → Env → Option World

/-- One operation performed by one call, with its answer. -/
structure Event (I : Interface) (E ι : Type) where
  who : ι
  op : I.Op
  answer : Except E (I.Ans op)

variable {I : Interface} {E ι α : Type}

structure Config (M : Machine I E ι) (α : Type) where
  world : M.World
  calls : ι → Program I E α
  history : List (Event I E ι)

inductive Move (M : Machine I E ι) where
  | call (who : ι) (outcome : M.Outcome)
  | env (event : M.Env)

namespace Config

variable {M : Machine I E ι}

/-- The call has performed nothing yet. -/
def NotStarted (cfg : Config M α) (who : ι) : Prop := ∀ event ∈ cfg.history, event.who ≠ who

/-- The call has returned or thrown. -/
def Finished (cfg : Config M α) (who : ι) : Prop := (cfg.calls who).result? ≠ none

variable [DecidableEq ι]

/-- The configuration after a call has performed an operation and received its answer. -/
def perform (cfg : Config M α) (who : ι) (op : I.Op) (next : Except E (I.Ans op) → Program I E α)
    (answer : Except E (I.Ans op)) (world : M.World) : Config M α :=
  { world := world
    calls := Function.update cfg.calls who (next answer)
    history := ⟨who, op, answer⟩ :: cfg.history }

def step (cfg : Config M α) : Move M → Option (Config M α)
  | .call who outcome =>
      match cfg.calls who with
      | .perform op next =>
          (M.exec who cfg.world op outcome).map fun (answer, world) =>
            cfg.perform who op next answer world
      | _ => none
  | .env event => (M.env cfg.world event).map fun world => { cfg with world := world }

/-- Replay a schedule. -/
def run (cfg : Config M α) : List (Move M) → Option (Config M α)
  | [] => some cfg
  | move :: moves => (cfg.step move).bind fun cfg' => cfg'.run moves

/-- A transition whose event meets the condition `good` in the state before it. -/
inductive Step (good : Config M α → Event I E ι → Prop) : Config M α → Config M α → Prop
  | call {cfg : Config M α} {who : ι} {op : I.Op} {next : Except E (I.Ans op) → Program I E α}
      {outcome : M.Outcome} {answer : Except E (I.Ans op)} {world : M.World}
      (hcall : cfg.calls who = .perform op next)
      (hexec : M.exec who cfg.world op outcome = some (answer, world))
      (hgood : good cfg ⟨who, op, answer⟩) : Step good cfg (cfg.perform who op next answer world)
  | env {cfg : Config M α} {event : M.Env} {world : M.World}
      (henv : M.env cfg.world event = some world) : Step good cfg { cfg with world := world }

/-- Runs all of whose steps meet the condition. -/
abbrev Reachable (good : Config M α → Event I E ι → Prop) : Config M α → Config M α → Prop :=
  Relation.ReflTransGen (Step good)

/-- No condition on the steps. -/
def anyStep : Config M α → Event I E ι → Prop := fun _ _ => True

theorem step_of_eq_some {cfg cfg' : Config M α} {move : Move M} (h : cfg.step move = some cfg') :
    Step anyStep cfg cfg' := by
  cases move with
  | call who outcome =>
      simp only [step] at h
      split at h
      · rename_i op next hcall
        obtain ⟨⟨answer, world⟩, hexec, rfl⟩ := Option.map_eq_some_iff.mp h
        exact .call hcall hexec trivial
      · cases h
  | env event =>
      obtain ⟨world, henv, rfl⟩ := Option.map_eq_some_iff.mp h
      exact .env henv

/-- A schedule that can be replayed is a run. -/
theorem reachable_of_run {cfg cfg' : Config M α} {moves : List (Move M)}
    (h : cfg.run moves = some cfg') : Reachable anyStep cfg cfg' := by
  induction moves generalizing cfg with
  | nil =>
      obtain rfl : cfg = cfg' := Option.some.inj h
      exact .refl
  | cons move moves ih =>
      obtain ⟨middle, hstep, hrun⟩ := Option.bind_eq_some_iff.mp h
      exact .head (step_of_eq_some hstep) (ih hrun)

/-- A test on the last configuration of a schedule finds a reachable configuration. -/
theorem exists_reachable_of_run {cfg : Config M α} {moves : List (Move M)}
    {test : Config M α → Bool} (h : (cfg.run moves).map test = some true) :
    ∃ cfg', Reachable anyStep cfg cfg' ∧ test cfg' = true := by
  obtain ⟨cfg', hrun, htest⟩ := Option.map_eq_some_iff.mp h
  exact ⟨cfg', reachable_of_run hrun, htest⟩

theorem run_append (cfg : Config M α) (moves moves' : List (Move M)) :
    cfg.run (moves ++ moves') = (cfg.run moves).bind fun middle => middle.run moves' := by
  induction moves generalizing cfg with
  | nil => rfl
  | cons move moves ih =>
      rw [List.cons_append, run, run, Option.bind_assoc]
      exact congrArg _ (funext fun cfg' => ih cfg')

theorem exists_reachable_of_runs {cfg : Config M α} {moves moves' : List (Move M)}
    {test test' : Config M α → Bool} (h : (cfg.run moves).map test = some true)
    (h' : (cfg.run (moves ++ moves')).map test' = some true) :
    ∃ middle last, Reachable anyStep cfg middle ∧ test middle = true ∧
      Reachable anyStep middle last ∧ test' last = true := by
  obtain ⟨middle, hrun, htest⟩ := Option.map_eq_some_iff.mp h
  rw [run_append, hrun] at h'
  obtain ⟨last, hlast, htest'⟩ := exists_reachable_of_run h'
  exact ⟨middle, last, reachable_of_run hrun, htest, hlast, htest'⟩

/-- Replay a schedule as long as its events pass a test. -/
def runChecked (test : Config M α → Event I E ι → Bool) (cfg : Config M α) :
    List (Move M) → Option (Config M α)
  | [] => some cfg
  | .call who outcome :: moves =>
      match cfg.calls who with
      | .perform op next =>
          (M.exec who cfg.world op outcome).bind fun (answer, world) =>
            if test cfg ⟨who, op, answer⟩ then
              (cfg.perform who op next answer world).runChecked test moves
            else none
      | _ => none
  | .env event :: moves =>
      (M.env cfg.world event).bind fun world =>
        ({ cfg with world := world } : Config M α).runChecked test moves

/-- A checked schedule is a run that meets the condition. -/
theorem reachable_of_runChecked {good : Config M α → Event I E ι → Prop}
    {test : Config M α → Event I E ι → Bool}
    (htest : ∀ cfg event, test cfg event = true → good cfg event) {moves : List (Move M)}
    {cfg cfg' : Config M α} (h : cfg.runChecked test moves = some cfg') :
    Reachable good cfg cfg' := by
  induction moves generalizing cfg with
  | nil =>
      obtain rfl : cfg = cfg' := Option.some.inj h
      exact .refl
  | cons move moves ih =>
      cases move with
      | call who outcome =>
          simp only [runChecked] at h
          split at h
          · rename_i op next hcall
            obtain ⟨⟨answer, world⟩, hexec, hrest⟩ := Option.bind_eq_some_iff.mp h
            split at hrest
            · rename_i hpassed
              exact .head (.call hcall hexec (htest _ _ hpassed)) (ih hrest)
            · cases hrest
          · cases h
      | env event =>
          obtain ⟨world, henv, hrest⟩ := Option.bind_eq_some_iff.mp h
          exact .head (.env henv) (ih hrest)

theorem Step.mono {good good' : Config M α → Event I E ι → Prop} {cfg cfg' : Config M α}
    (himp : ∀ cfg event, good cfg event → good' cfg event) (h : Step good cfg cfg') :
    Step good' cfg cfg' := by
  cases h with
  | call hcall hexec hgood => exact .call hcall hexec (himp _ _ hgood)
  | env henv => exact .env henv

theorem Reachable.mono {good good' : Config M α → Event I E ι → Prop} {cfg cfg' : Config M α}
    (himp : ∀ cfg event, good cfg event → good' cfg event) (h : Reachable good cfg cfg') :
    Reachable good' cfg cfg' := by
  induction h with
  | refl => exact .refl
  | tail _ hlast ih => exact ih.tail (hlast.mono himp)

/-- A property kept by every step holds after every run. -/
theorem Reachable.invariant {good : Config M α → Event I E ι → Prop} {Inv : Config M α → Prop}
    (hstep : ∀ cfg cfg', Inv cfg → Step good cfg cfg' → Inv cfg') {cfg cfg' : Config M α}
    (h : Reachable good cfg cfg') (hinv : Inv cfg) : Inv cfg' := by
  induction h with
  | refl => exact hinv
  | tail _ hlast ih => exact hstep _ _ ih hlast

@[simp]
theorem perform_world (cfg : Config M α) (who : ι) (op : I.Op)
    (next : Except E (I.Ans op) → Program I E α) (answer : Except E (I.Ans op))
    (world : M.World) : (cfg.perform who op next answer world).world = world := rfl

@[simp]
theorem perform_history (cfg : Config M α) (who : ι) (op : I.Op)
    (next : Except E (I.Ans op) → Program I E α) (answer : Except E (I.Ans op))
    (world : M.World) : (cfg.perform who op next answer world).history
      = ⟨who, op, answer⟩ :: cfg.history := rfl

@[simp]
theorem perform_calls_self (cfg : Config M α) (who : ι) (op : I.Op)
    (next : Except E (I.Ans op) → Program I E α) (answer : Except E (I.Ans op))
    (world : M.World) : (cfg.perform who op next answer world).calls who = next answer := by
  simp [perform]

theorem perform_calls_of_ne (cfg : Config M α) {who other : ι} (hne : other ≠ who) (op : I.Op)
    (next : Except E (I.Ans op) → Program I E α) (answer : Except E (I.Ans op))
    (world : M.World) : (cfg.perform who op next answer world).calls other = cfg.calls other := by
  simp [perform, hne]

/-- The operations one call has performed, newest first. -/
def eventsOf (cfg : Config M α) (who : ι) : List (Event I E ι) :=
  cfg.history.filter (·.who = who)

@[simp]
theorem eventsOf_perform_self (cfg : Config M α) (who : ι) (op : I.Op)
    (next : Except E (I.Ans op) → Program I E α) (answer : Except E (I.Ans op))
    (world : M.World) : (cfg.perform who op next answer world).eventsOf who
      = ⟨who, op, answer⟩ :: cfg.eventsOf who :=
  List.filter_cons_of_pos (decide_eq_true rfl)

theorem eventsOf_perform_of_ne (cfg : Config M α) {who other : ι} (hne : other ≠ who) (op : I.Op)
    (next : Except E (I.Ans op) → Program I E α) (answer : Except E (I.Ans op))
    (world : M.World) :
    (cfg.perform who op next answer world).eventsOf other = cfg.eventsOf other :=
  List.filter_cons_of_neg fun hmine => hne (of_decide_eq_true hmine).symm

theorem eventsOf_of_notStarted {cfg : Config M α} {who : ι} (h : cfg.NotStarted who) :
    cfg.eventsOf who = [] :=
  List.filter_eq_nil_iff.mpr fun event hevent hmine => h event hevent (of_decide_eq_true hmine)

/-- A call that has performed nothing has all of its program left. -/
theorem Reachable.calls_of_notStarted {good : Config M α → Event I E ι → Prop} {cfg cfg' : Config M α}
    (h : Reachable good cfg cfg') {who : ι} (hnew : cfg'.NotStarted who) :
    cfg'.calls who = cfg.calls who := by
  induction h with
  | refl => rfl
  | @tail middle last _ hlast ih =>
      cases hlast with
      | env => exact ih hnew
      | @call actor op next outcome answer world hcall hexec hgood =>
          have hne : who ≠ actor := fun heq => hnew _ List.mem_cons_self heq.symm
          rw [perform_calls_of_ne _ hne]
          exact ih fun event hevent => hnew event (List.mem_cons_of_mem _ hevent)

/-! ### Calls that follow a protocol -/

/-- Every call follows its protocol from the phase it is in, and the phases and the configuration
satisfy the invariant. -/
structure Follows {L : Type} (P : ι → Protocol I E L) (post : ι → L → Except E α → Prop)
    (Inv : Config M α → (ι → L) → Prop) (cfg : Config M α) (phase : ι → L) : Prop where
  sat : ∀ who, (cfg.calls who).Sat (P who) (phase who) (post who)
  inv : Inv cfg phase

section Follows

variable {L : Type} {P : ι → Protocol I E L} {post : ι → L → Except E α → Prop}
  {Inv : Config M α → (ι → L) → Prop} {good : Config M α → Event I E ι → Prop}

omit [DecidableEq ι] in
/-- What a call may do next is allowed in its phase. -/
theorem Follows.allowed {cfg : Config M α} {phase : ι → L} (h : Follows P post Inv cfg phase)
    {who : ι} {op : I.Op} {next : Except E (I.Ans op) → Program I E α}
    (hcall : cfg.calls who = .perform op next) : (P who).allowed (phase who) op := by
  have hsat := h.sat who
  rw [hcall] at hsat
  exact hsat.1

omit [DecidableEq ι] in
/-- A finished call has met its postcondition. -/
theorem Follows.of_result {cfg : Config M α} {phase : ι → L} (h : Follows P post Inv cfg phase)
    {who : ι} {outcome : Except E α} (hdone : (cfg.calls who).result? = some outcome) :
    post who (phase who) outcome := (h.sat who).of_result hdone

/-- What the world must do for the invariant: answer each allowed operation along some transition
of the protocol that keeps it, and keep it when moving on its own. -/
structure Preserved (P : ι → Protocol I E L) (post : ι → L → Except E α → Prop)
    (Inv : Config M α → (ι → L) → Prop) (good : Config M α → Event I E ι → Prop) : Prop where
  call : ∀ (cfg : Config M α) (phase : ι → L) (who : ι) (op : I.Op)
    (next : Except E (I.Ans op) → Program I E α) (outcome : M.Outcome)
    (answer : Except E (I.Ans op)) (world : M.World), Follows P post Inv cfg phase →
    cfg.calls who = .perform op next → (P who).allowed (phase who) op →
    M.exec who cfg.world op outcome = some (answer, world) → good cfg ⟨who, op, answer⟩ →
    ∃ phase', (P who).trans (phase who) op answer phase' ∧
      Inv (cfg.perform who op next answer world) (Function.update phase who phase')
  env : ∀ (cfg : Config M α) (phase : ι → L) (event : M.Env) (world : M.World),
    Follows P post Inv cfg phase → M.env cfg.world event = some world →
    Inv { cfg with world := world } phase

theorem Follows.step (hkeep : Preserved P post Inv good) {cfg cfg' : Config M α} {phase : ι → L}
    (h : Follows P post Inv cfg phase) (hstep : Step good cfg cfg') :
    ∃ phase', Follows P post Inv cfg' phase' := by
  cases hstep with
  | @call who op next outcome answer world hcall hexec hgood =>
      obtain ⟨phase', htrans, hinv⟩ :=
        hkeep.call cfg phase who op next outcome answer world h hcall (h.allowed hcall) hexec hgood
      refine ⟨Function.update phase who phase', fun other => ?_, hinv⟩
      by_cases heq : other = who
      · subst heq
        have hsat := h.sat other
        rw [hcall] at hsat
        rw [perform_calls_self, Function.update_self]
        exact hsat.2 answer phase' htrans
      · rw [perform_calls_of_ne _ heq, Function.update_of_ne heq]
        exact h.sat other
  | @env event world henv => exact ⟨phase, h.sat, hkeep.env cfg phase event world h henv⟩

/-- The run rule: after every run each call is in some phase of its protocol, and the invariant
holds of the configuration and the phases. -/
theorem Reachable.follows (hkeep : Preserved P post Inv good) {cfg cfg' : Config M α}
    (h : Reachable good cfg cfg') {phase : ι → L} (hstart : Follows P post Inv cfg phase) :
    ∃ phase', Follows P post Inv cfg' phase' := by
  induction h with
  | refl => exact ⟨phase, hstart⟩
  | tail _ hlast ih =>
      obtain ⟨phase', hfollows⟩ := ih
      exact hfollows.step hkeep hlast

end Follows

end Config

end Interact
