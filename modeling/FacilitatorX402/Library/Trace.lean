import FacilitatorX402.Library.Interleaving

/-!
# What one call has performed

The operations of one call with their answers, newest first, as the phase of a protocol. A program
held to it ends with a statement about its own trace, and the same statement then holds of what a
finished call has left in the history of any run, whatever the other calls do.
-/

namespace Interact

variable {I : Interface} {E ι α : Type}

/-- Something opened, and nothing has closed it since. -/
def Since {β : Type} (opens closes : β → Prop) : List β → Prop
  | [] => False
  | x :: xs => opens x ∨ ¬ closes x ∧ Since opens closes xs

namespace Since

variable {β : Type} {opens closes : β → Prop} {x : β} {xs : List β}

theorem cons_of_opens (h : opens x) : Since opens closes (x :: xs) := .inl h

theorem not_cons_of_closes (hopens : ¬ opens x) (hcloses : closes x) :
    ¬ Since opens closes (x :: xs) := by
  simp [Since, hopens, hcloses]

theorem not_cons_of_not (hopens : ¬ opens x) (h : ¬ Since opens closes xs) :
    ¬ Since opens closes (x :: xs) := by
  simp [Since, hopens, h]

end Since

/-- Something of the one kind came, and something of the other kind after it. -/
def Followed {β : Type} (first second : β → Prop) : List β → Prop
  | [] => False
  | x :: xs => Followed first second xs ∨ second x ∧ ∃ y ∈ xs, first y

/-- Everything may be performed, and is kept with its answer. -/
def traced (who : ι) (admits : (op : I.Op) → Except E (I.Ans op) → Prop) :
    Protocol I E (List (Event I E ι)) where
  allowed _ _ := True
  trans events op answer events' := admits op answer ∧ events' = ⟨who, op, answer⟩ :: events

/-- A property of traces that the operations of a program keep. -/
theorem Program.Only.traced {Q : I.Op → Prop} {who : ι}
    {admits : (op : I.Op) → Except E (I.Ans op) → Prop} {R : List (Event I E ι) → Prop}
    {program : Program I E α} {events : List (Event I E ι)} (h : program.Only Q)
    (hkeep : ∀ op answer events, Q op → admits op answer → R events →
      R (⟨who, op, answer⟩ :: events)) (hevents : R events) :
    program.Sat (traced who admits) events fun events' _ => R events' := by
  apply h.keeps (fun _ _ _ _ => trivial) _ hevents
  rintro events op answer _ hop hbefore ⟨hadmits, rfl⟩
  exact hkeep op answer events hop hadmits hbefore

/-- Whatever a program performs, a postcondition that always holds is met. -/
theorem Program.sat_traced {who : ι} {admits : (op : I.Op) → Except E (I.Ans op) → Prop}
    {post : List (Event I E ι) → Except E α → Prop} (program : Program I E α)
    (events : List (Event I E ι)) (hpost : ∀ events outcome, post events outcome) :
    program.Sat (traced who admits) events post := by
  induction program generalizing events with
  | ret value => exact hpost events _
  | throw error => exact hpost events _
  | perform op next ih => exact ⟨trivial, fun answer events' _ => ih answer events'⟩

/-- A protocol that goes on after every answer says how a program ends; the trace need not be kept
in its phases for that. -/
theorem Program.Sat.to_traced {L : Type} {P : Protocol I E L} {who : ι}
    {admits : (op : I.Op) → Except E (I.Ans op) → Prop} {post : L → Except E α → Prop}
    {program : Program I E α} {phase : L} (h : program.Sat P phase post)
    (hgoes : ∀ phase op answer, admits op answer → ∃ phase', P.trans phase op answer phase')
    (events : List (Event I E ι)) :
    program.Sat (traced who admits) events fun _ outcome => ∃ phase, post phase outcome := by
  induction program generalizing phase events with
  | ret value => exact ⟨phase, h⟩
  | throw error => exact ⟨phase, h⟩
  | perform op next ih =>
      refine ⟨trivial, fun answer events' hevents => ?_⟩
      obtain ⟨phase', htrans⟩ := hgoes phase op answer hevents.1
      exact ih answer (h.2 answer phase' htrans) events'

/-! ### Against given answers -/

/-- What a program has performed against surroundings that answer everything, oldest first, how it has
ended, and what is left of the surroundings. -/
structure Performed (I : Interface) (E W α : Type) where
  events : List (Event I E Unit)
  outcome : Except E α
  world : W

namespace Program

variable {W β : Type} (answer : W → (op : I.Op) → Except E (I.Ans op) × W)

/-- Run a program to its end. -/
def against : Program I E α → W → Performed I E W α
  | ret value, world => ⟨[], .ok value, world⟩
  | throw error, world => ⟨[], .error error, world⟩
  | perform op next, world =>
      let rest := (next (answer world op).1).against (answer world op).2
      { rest with events := ⟨(), op, (answer world op).1⟩ :: rest.events }

theorem against_attempt (program : Program I E α) (world : W) :
    program.attempt.against answer world = { program.against answer world with
      outcome := .ok (program.against answer world).outcome } := by
  induction program generalizing world with
  | ret value => rfl
  | throw error => rfl
  | perform op next ih => rw [attempt, against, against, ih]

theorem against_bind_ok {program : Program I E α} {f : α → Program I E β} {world : W} {value : α}
    (h : (program.against answer world).outcome = .ok value) :
    (program.bind f).against answer world =
      let first := program.against answer world
      let rest := (f value).against answer first.world
      { rest with events := first.events ++ rest.events } := by
  induction program generalizing world with
  | ret value' =>
      obtain rfl := Except.ok.inj h
      rfl
  | throw error => cases h
  | perform op next ih =>
      rw [bind, against, ih _ h]
      rfl

/-- A finalizer that returns adds its own events, and leaves the outcome. -/
theorem against_tryFinally {body : Program I E α} {finalizer : Program I E Unit} {world : W}
    (h : (finalizer.against answer (body.against answer world).world).outcome = .ok ()) :
    (body.tryFinally finalizer).against answer world =
      let first := body.against answer world
      let rest := finalizer.against answer first.world
      { events := first.events ++ rest.events, outcome := first.outcome, world := rest.world } := by
  have hended : ∀ (outcome : Except E α) (world : W),
      (ofExcept outcome : Program I E α).against answer world = ⟨[], outcome, world⟩ := by
    intro outcome world
    cases outcome <;> rfl
  rw [tryFinally, against_bind_ok answer (by rw [against_attempt]), against_attempt]
  dsimp only
  rw [against_bind_ok answer h]
  dsimp only
  rw [hended, List.append_nil]

end Program

/-! ### What a program can throw -/

namespace Program

variable {J : Interface} {β : Type} {Q : E → Prop}

/-- Every error the program can end with satisfies a predicate, if those of its operations do. -/
def Throws (Q : E → Prop) : Program I E α → Prop
  | ret _ => True
  | throw error => Q error
  | perform _ next => ∀ answer, (∀ error, answer = .error error → Q error) → (next answer).Throws Q

theorem Throws.bind {program : Program I E α} {f : α → Program I E β} (h : program.Throws Q)
    (hf : ∀ value, (f value).Throws Q) : (program.bind f).Throws Q := by
  induction program with
  | ret value => exact hf value
  | throw error => exact h
  | perform op next ih => exact fun answer hanswer => ih answer (h answer hanswer)

theorem throws_attempt (program : Program I E α) : program.attempt.Throws Q := by
  induction program with
  | ret value => trivial
  | throw error => trivial
  | perform op next ih => exact fun answer _ => ih answer

theorem throws_call (op : I.Op) : (call op : Program I E (I.Ans op)).Throws Q := by
  rintro (error | value) hanswer
  · exact hanswer error rfl
  · trivial

/-- Only the handler decides what a handled body throws. -/
theorem throws_tryCatch {body : Program I E α} {handler : E → Program I E α}
    (h : ∀ error, (handler error).Throws Q) : (body.tryCatch handler).Throws Q := by
  apply (throws_attempt body).bind
  rintro (error | value)
  · exact h error
  · trivial

theorem throws_ignoreErrors (body : Program I E α) : body.ignoreErrors.Throws Q :=
  (throws_attempt body).bind fun _ => trivial

theorem Throws.lift (h : I.Hom J) {program : Program I E α} (hprogram : program.Throws Q) :
    (program.lift h).Throws Q := by
  induction program with
  | ret value => trivial
  | throw error => exact hprogram
  | perform op next ih =>
      intro answer hanswer
      apply ih
      apply hprogram
      intro error herror
      cases answer with
      | ok value => cases herror
      | error error' =>
          obtain rfl := Except.error.inj herror
          exact hanswer error' rfl

/-- A body whose errors satisfy the predicate, and a finalizer whose errors do. -/
theorem Throws.tryFinally {body : Program I E α} {finalizer : Program I E Unit} (h : body.Throws Q)
    (hfinal : finalizer.Throws Q) : (body.tryFinally finalizer).Throws Q := by
  induction body with
  | ret value => exact hfinal.bind fun _ => trivial
  | throw error => exact hfinal.bind fun _ => h
  | perform op next ih => exact fun answer hanswer => ih answer (h answer hanswer)

theorem Throws.sat {who : ι} {admits : (op : I.Op) → Except E (I.Ans op) → Prop}
    {program : Program I E α} (h : program.Throws Q)
    (hadmits : ∀ op answer, admits op answer → ∀ error, answer = .error error → Q error)
    (events : List (Event I E ι)) :
    program.Sat (Interact.traced who admits) events fun _ outcome =>
      ∀ error, outcome = .error error → Q error := by
  induction program generalizing events with
  | ret value =>
      intro error heq
      cases heq
  | throw error =>
      intro error' heq
      obtain rfl := Except.error.inj heq
      exact h
  | perform op next ih =>
      refine ⟨trivial, ?_⟩
      rintro answer _ ⟨hanswer, rfl⟩
      exact ih answer (h answer (hadmits op answer hanswer)) _

end Program

/-! ### Failures, and what is left open -/

/-- An operation outside of `Q` was answered an error. -/
def Failed (Q : I.Op → Prop) (events : List (Event I E ι)) : Prop :=
  ∃ event ∈ events, ¬ Q event.op ∧ event.answer.isOk = false

/-- Nothing is open, and nothing outside of `Q` has failed. -/
structure Clean (opens closes : Event I E ι → Prop) (Q : I.Op → Prop)
    (events : List (Event I E ι)) : Prop where
  closed : ¬ Since opens closes events
  unfailed : ¬ Failed Q events

section Clean

variable {opens closes : Event I E ι → Prop} {Q : I.Op → Prop} {events : List (Event I E ι)}
  {event : Event I E ι}

theorem not_failed_nil : ¬ Failed Q ([] : List (Event I E ι)) := by
  simp [Failed]

theorem failed_cons (hop : ¬ Q event.op) (herror : event.answer.isOk = false) :
    Failed Q (event :: events) :=
  ⟨event, List.mem_cons_self, hop, herror⟩

theorem not_failed_cons (hop : Q event.op ∨ event.answer.isOk = true)
    (h : ¬ Failed Q events) : ¬ Failed Q (event :: events) := by
  rintro ⟨other, hother, hunguarded, herror⟩
  cases hother with
  | head =>
      rcases hop with hguarded | hok
      · exact hunguarded hguarded
      · simp [hok] at herror
  | tail _ hother => exact h ⟨other, hother, hunguarded, herror⟩

theorem Clean.nil : Clean opens closes Q [] := ⟨id, not_failed_nil⟩

theorem Clean.cons (hop : Q event.op ∨ event.answer.isOk = true) (hopens : ¬ opens event)
    (h : Clean opens closes Q events) : Clean opens closes Q (event :: events) :=
  ⟨Since.not_cons_of_not hopens h.closed, not_failed_cons hop h.unfailed⟩

theorem Clean.of_closes (hop : Q event.op) (hopens : ¬ opens event) (hcloses : closes event)
    (h : ¬ Failed Q events) : Clean opens closes Q (event :: events) :=
  ⟨Since.not_cons_of_closes hopens hcloses, not_failed_cons (.inl hop) h⟩

/-- A program that keeps to `Q` fails nowhere else. -/
theorem Program.Only.unfailed {who : ι} {admits : (op : I.Op) → Except E (I.Ans op) → Prop}
    {program : Program I E α} (h : program.Only Q) (hevents : ¬ Failed Q events) :
    program.Sat (Interact.traced who admits) events fun events' _ => ¬ Failed Q events' := by
  apply h.traced _ hevents
  exact fun op answer events hop _ hbefore => not_failed_cons (.inl hop) hbefore

end Clean

namespace Config

variable {M : Machine I E ι} [DecidableEq ι] {good : Config M α → Event I E ι → Prop}

/-- A call held to its trace is held to it in every run: what it has left to do follows on what the
history has of it. -/
theorem Reachable.traced {cfg cfg' : Config M α} (h : Reachable good cfg cfg') {who : ι}
    {admits : (op : I.Op) → Except E (I.Ans op) → Prop}
    {post : List (Event I E ι) → Except E α → Prop}
    (hadmits : ∀ (cfg : Config M α) op outcome answer world,
      M.exec who cfg.world op outcome = some (answer, world) → good cfg ⟨who, op, answer⟩ →
      admits op answer)
    (hsat : (cfg.calls who).Sat (traced who admits) (cfg.eventsOf who) post) :
    (cfg'.calls who).Sat (Interact.traced who admits) (cfg'.eventsOf who) post := by
  induction h with
  | refl => exact hsat
  | @tail middle last _ hlast ih =>
      cases hlast with
      | env => exact ih
      | @call actor op next outcome answer world hcall hexec hgood =>
          by_cases heq : who = actor
          · subst heq
            rw [hcall] at ih
            rw [perform_calls_self, eventsOf_perform_self]
            exact ih.2 answer _ ⟨hadmits middle op outcome answer world hexec hgood, rfl⟩
          · rw [perform_calls_of_ne _ heq, eventsOf_perform_of_ne _ heq]
            exact ih

/-- What a finished call has performed meets its postcondition. -/
theorem Reachable.traced_result {cfg cfg' : Config M α} (h : Reachable good cfg cfg') {who : ι}
    {admits : (op : I.Op) → Except E (I.Ans op) → Prop}
    {post : List (Event I E ι) → Except E α → Prop}
    (hadmits : ∀ (cfg : Config M α) op outcome answer world,
      M.exec who cfg.world op outcome = some (answer, world) → good cfg ⟨who, op, answer⟩ →
      admits op answer)
    (hsat : (cfg.calls who).Sat (Interact.traced who admits) (cfg.eventsOf who) post)
    {outcome : Except E α} (hdone : (cfg'.calls who).result? = some outcome) :
    post (cfg'.eventsOf who) outcome := (h.traced hadmits hsat).of_result hdone

/-- Where every operation has some good answer, a call can be run to its end. -/
theorem exists_reachable_finished
    (hlive : ∀ (cfg : Config M α) (who : ι) (op : I.Op), ∃ outcome answer world,
      M.exec who cfg.world op outcome = some (answer, world) ∧ good cfg ⟨who, op, answer⟩)
    (cfg : Config M α) (who : ι) : ∃ cfg', Reachable good cfg cfg' ∧ cfg'.Finished who := by
  generalize hcall : cfg.calls who = program
  induction program generalizing cfg with
  | ret value => exact ⟨cfg, .refl, by simp [Finished, hcall]⟩
  | throw error => exact ⟨cfg, .refl, by simp [Finished, hcall]⟩
  | perform op next ih =>
      obtain ⟨outcome, answer, world, hexec, hgood⟩ := hlive cfg who op
      obtain ⟨cfg', hreach, hdone⟩ := ih answer (cfg.perform who op next answer world) (by simp)
      exact ⟨cfg', .head (.call hcall hexec hgood) hreach, hdone⟩

end Config

end Interact
