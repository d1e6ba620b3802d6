import Mathlib.Logic.Function.Basic
import Mathlib.Tactic.Common

/-!
# Programs over an interface

An asynchronous function is a tree: it ends, throws, or performs one operation of an interface and
goes on with whatever that operation answers. Everything a scheduler may put between two awaits sits
between two nodes of the tree, so the same tree serves a sequential run and an interleaving.

A `Protocol` is an automaton over the operations. `Program.Sat` says that a program only performs
what the protocol allows and ends as promised, whatever the answers are; the rules below compute it
through binds, handlers and finalizers.
-/

namespace Interact

/-- The operations a program can perform, and what each of them answers. -/
structure Interface where
  Op : Type
  Ans : Op → Type

inductive Program (I : Interface) (E α : Type) : Type
  | ret (value : α)
  | throw (error : E)
  | perform (op : I.Op) (next : Except E (I.Ans op) → Program I E α)

namespace Program

variable {I : Interface} {E α β : Type}

def bind : Program I E α → (α → Program I E β) → Program I E β
  | ret value, f => f value
  | throw error, _ => throw error
  | perform op next, f => perform op fun answer => (next answer).bind f

instance : Monad (Program I E) where
  pure := ret
  bind := bind

/-- One awaited operation: its answer is the value, its failure is thrown. -/
def call (op : I.Op) : Program I E (I.Ans op) :=
  perform op fun
    | .ok value => ret value
    | .error error => throw error

/-- Run a program and hand its result, value or error, to the caller. -/
def attempt : Program I E α → Program I E (Except E α)
  | ret value => ret (.ok value)
  | throw error => ret (.error error)
  | perform op next => perform op fun answer => (next answer).attempt

def ofExcept : Except E α → Program I E α
  | .ok value => ret value
  | .error error => throw error

/-- `try { body } catch (error) { handler }`. -/
def tryCatch (body : Program I E α) (handler : E → Program I E α) : Program I E α :=
  body.attempt.bind fun
    | .ok value => ret value
    | .error error => handler error

/-- `try { body } finally { finalizer }`: a finalizer that throws replaces the outcome. -/
def tryFinally (body : Program I E α) (finalizer : Program I E Unit) : Program I E α :=
  body.attempt.bind fun outcome => finalizer.bind fun _ => ofExcept outcome

/-- `body.catch(() => {})`. -/
def ignoreErrors (body : Program I E α) : Program I E Unit :=
  body.attempt.bind fun _ => ret ()

@[simp]
theorem ofExcept_ok_bind (value : α) (f : α → Program I E β) :
    (ofExcept (.ok value) : Program I E α) >>= f = f value := rfl

/-- What a finished program ended with. -/
def result? : Program I E α → Option (Except E α)
  | ret value => some (.ok value)
  | throw error => some (.error error)
  | perform _ _ => none

/-- The operation a program is about to perform. -/
def next? : Program I E α → Option I.Op
  | perform op _ => some op
  | _ => none

@[simp]
theorem result?_ret (value : α) : (ret value : Program I E α).result? = some (.ok value) := rfl

@[simp]
theorem result?_throw (error : E) : (throw error : Program I E α).result? = some (.error error) :=
  rfl

@[simp]
theorem result?_perform (op : I.Op) (next : Except E (I.Ans op) → Program I E α) :
    (perform op next).result? = none := rfl

theorem result?_eq_none_iff {program : Program I E α} :
    program.result? = none ↔ ∃ op next, program = perform op next := by
  cases program <;> simp

theorem next?_eq_some_iff {program : Program I E α} {op : I.Op} :
    program.next? = some op ↔ ∃ next, program = perform op next := by
  cases program with
  | ret value => simp [next?]
  | throw error => simp [next?]
  | perform op' next =>
      constructor
      · intro h
        obtain rfl : op' = op := Option.some.inj h
        exact ⟨next, rfl⟩
      · rintro ⟨next', h⟩
        cases h
        rfl

end Program

/-! ### Embedding a smaller interface -/

/-- A way to perform the operations of `I` through those of `J`. -/
structure Interface.Hom (I J : Interface) where
  op : I.Op → J.Op
  ans : ∀ o, J.Ans (op o) → I.Ans o

namespace Program

variable {I J : Interface} {E α β : Type}

def lift (h : I.Hom J) : Program I E α → Program J E α
  | ret value => ret value
  | throw error => throw error
  | perform op next => perform (h.op op) fun answer => (next (answer.map (h.ans op))).lift h

end Program

/-! ### Protocols -/

/-- An automaton over the operations of an interface: what may be performed in a phase, and the
phases an answer can lead to. -/
structure Protocol (I : Interface) (E L : Type) where
  allowed : L → I.Op → Prop
  trans : L → (op : I.Op) → Except E (I.Ans op) → L → Prop

/-- The protocol along `I` of a protocol for `J`. -/
def Protocol.comap {I J : Interface} {E L : Type} (h : I.Hom J) (P : Protocol J E L) :
    Protocol I E L where
  allowed phase op := P.allowed phase (h.op op)
  trans phase op answer phase' :=
    ∃ answer', answer'.map (h.ans op) = answer ∧ P.trans phase (h.op op) answer' phase'

namespace Program

variable {I J : Interface} {E L α β : Type} {P : Protocol I E L}

/-- Started in a phase, the program performs only what the protocol allows, and it ends with the
postcondition, for every answer the protocol admits. -/
def Sat (P : Protocol I E L) : Program I E α → L → (L → Except E α → Prop) → Prop
  | ret value, phase, post => post phase (.ok value)
  | throw error, phase, post => post phase (.error error)
  | perform op next, phase, post =>
      P.allowed phase op ∧
        ∀ answer phase', P.trans phase op answer phase' → (next answer).Sat P phase' post

/-- The postcondition a first part must reach so that `f` reaches `post`. -/
def thenSat (P : Protocol I E L) (f : α → Program I E β) (post : L → Except E β → Prop) :
    L → Except E α → Prop
  | phase, .ok value => (f value).Sat P phase post
  | phase, .error error => post phase (.error error)

@[simp]
theorem thenSat_ok (f : α → Program I E β) (post : L → Except E β → Prop) (phase : L) (value : α) :
    thenSat P f post phase (.ok value) = (f value).Sat P phase post := rfl

@[simp]
theorem thenSat_error (f : α → Program I E β) (post : L → Except E β → Prop) (phase : L)
    (error : E) : thenSat P f post phase (.error error) = post phase (.error error) := rfl

@[simp]
theorem sat_ret (value : α) (phase : L) (post : L → Except E α → Prop) :
    (ret value : Program I E α).Sat P phase post ↔ post phase (.ok value) := Iff.rfl

@[simp]
theorem sat_pure (value : α) (phase : L) (post : L → Except E α → Prop) :
    (pure value : Program I E α).Sat P phase post ↔ post phase (.ok value) := Iff.rfl

@[simp]
theorem sat_throw (error : E) (phase : L) (post : L → Except E α → Prop) :
    (throw error : Program I E α).Sat P phase post ↔ post phase (.error error) := Iff.rfl

@[simp]
theorem sat_call (op : I.Op) (phase : L) (post : L → Except E (I.Ans op) → Prop) :
    (call op : Program I E _).Sat P phase post ↔ P.allowed phase op ∧
      ∀ answer phase', P.trans phase op answer phase' → post phase' answer := by
  refine and_congr_right fun _ => forall_congr' fun answer => ?_
  cases answer <;> exact Iff.rfl

theorem Sat.mono {program : Program I E α} {phase : L} {post post' : L → Except E α → Prop}
    (hsat : program.Sat P phase post) (himp : ∀ phase outcome, post phase outcome →
      post' phase outcome) : program.Sat P phase post' := by
  induction program generalizing phase with
  | ret value => exact himp _ _ hsat
  | throw error => exact himp _ _ hsat
  | perform op next ih =>
      exact ⟨hsat.1, fun answer phase' htrans => ih answer (hsat.2 answer phase' htrans)⟩

/-- A finished program has met its postcondition. -/
theorem Sat.of_result {program : Program I E α} {phase : L} {post : L → Except E α → Prop}
    (hsat : program.Sat P phase post) {outcome : Except E α}
    (hdone : program.result? = some outcome) : post phase outcome := by
  cases program with
  | ret value =>
      obtain rfl := Option.some.inj hdone
      exact hsat
  | throw error =>
      obtain rfl := Option.some.inj hdone
      exact hsat
  | perform op next => cases hdone

@[simp]
theorem sat_bind (program : Program I E α) (f : α → Program I E β) (phase : L)
    (post : L → Except E β → Prop) :
    (program.bind f).Sat P phase post ↔ program.Sat P phase (thenSat P f post) := by
  induction program generalizing phase with
  | ret value => exact Iff.rfl
  | throw error => exact Iff.rfl
  | perform op next ih =>
      exact and_congr_right fun _ => forall_congr' fun answer => forall_congr' fun phase' =>
        imp_congr_right fun _ => ih answer phase'

@[simp]
theorem sat_bind' (program : Program I E α) (f : α → Program I E β) (phase : L)
    (post : L → Except E β → Prop) :
    (program >>= f).Sat P phase post ↔ program.Sat P phase (thenSat P f post) :=
  sat_bind program f phase post

@[simp]
theorem sat_attempt (program : Program I E α) (phase : L)
    (post : L → Except E (Except E α) → Prop) :
    program.attempt.Sat P phase post ↔
      program.Sat P phase fun phase outcome => post phase (.ok outcome) := by
  induction program generalizing phase with
  | ret value => exact Iff.rfl
  | throw error => exact Iff.rfl
  | perform op next ih =>
      exact and_congr_right fun _ => forall_congr' fun answer => forall_congr' fun phase' =>
        imp_congr_right fun _ => ih answer phase'

@[simp]
theorem sat_ofExcept (outcome : Except E α) (phase : L) (post : L → Except E α → Prop) :
    (ofExcept outcome : Program I E α).Sat P phase post ↔ post phase outcome := by
  cases outcome <;> exact Iff.rfl

/-- A handler takes over exactly where its body throws. -/
theorem sat_tryCatch (body : Program I E α) (handler : E → Program I E α) (phase : L)
    (post : L → Except E α → Prop) :
    (body.tryCatch handler).Sat P phase post ↔
      body.Sat P phase fun phase outcome =>
        match outcome with
        | .ok value => post phase (.ok value)
        | .error error => (handler error).Sat P phase post := by
  rw [tryCatch, sat_bind, sat_attempt]
  refine ⟨fun h => h.mono ?_, fun h => h.mono ?_⟩ <;> rintro phase (error | value) hpost <;>
    exact hpost

theorem sat_tryFinally (body : Program I E α) (finalizer : Program I E Unit) (phase : L)
    (post : L → Except E α → Prop) :
    (body.tryFinally finalizer).Sat P phase post ↔
      body.Sat P phase fun phase outcome =>
        finalizer.Sat P phase fun phase ended =>
          match ended with
          | .ok _ => post phase outcome
          | .error error => post phase (.error error) := by
  rw [tryFinally, sat_bind, sat_attempt]
  have hfinal : ∀ phase outcome,
      thenSat P (fun outcome => finalizer.bind fun _ => ofExcept outcome) post phase (.ok outcome)
        ↔ finalizer.Sat P phase fun phase ended =>
          match ended with
          | .ok _ => post phase outcome
          | .error error => post phase (.error error) := by
    intro phase outcome
    rw [thenSat_ok, sat_bind]
    refine ⟨fun h => h.mono ?_, fun h => h.mono ?_⟩ <;> rintro phase (error | value) hpost
    · exact hpost
    · simpa using hpost
    · exact hpost
    · simpa using hpost
  exact ⟨fun h => h.mono fun phase outcome => (hfinal phase outcome).mp,
    fun h => h.mono fun phase outcome => (hfinal phase outcome).mpr⟩

/-- Swallowing the errors of a program keeps its operations and forgets its outcome. -/
theorem sat_ignoreErrors (body : Program I E α) (phase : L) (post : L → Except E Unit → Prop) :
    body.ignoreErrors.Sat P phase post ↔ body.Sat P phase fun phase _ => post phase (.ok ()) := by
  rw [ignoreErrors, sat_bind, sat_attempt]
  exact Iff.rfl

/-- A lifted program follows a protocol when the original follows it through the embedding. -/
@[simp]
theorem sat_lift {J : Interface} {P : Protocol J E L} (h : I.Hom J) (program : Program I E α)
    (phase : L) (post : L → Except E α → Prop) :
    (program.lift h).Sat P phase post ↔ program.Sat (P.comap h) phase post := by
  induction program generalizing phase with
  | ret value => exact Iff.rfl
  | throw error => exact Iff.rfl
  | perform op next ih =>
      refine and_congr_right fun _ => ⟨?_, ?_⟩
      · rintro hsat answer phase' ⟨answer', rfl, htrans⟩
        exact (ih _ phase').mp (hsat answer' phase' htrans)
      · intro hsat answer phase' htrans
        exact (ih _ phase').mpr (hsat _ phase' ⟨answer, rfl, htrans⟩)

end Program

/-! ### Programs that keep to some operations -/

namespace Program

variable {I J : Interface} {E L α β : Type} {Q : I.Op → Prop}

/-- Every operation the program can come to satisfies a predicate. -/
def Only (Q : I.Op → Prop) : Program I E α → Prop
  | ret _ => True
  | throw _ => True
  | perform op next => Q op ∧ ∀ answer, (next answer).Only Q

theorem Only.mono {Q' : I.Op → Prop} {program : Program I E α} (h : program.Only Q)
    (himp : ∀ op, Q op → Q' op) : program.Only Q' := by
  induction program with
  | ret value => trivial
  | throw error => trivial
  | perform op next ih => exact ⟨himp op h.1, fun answer => ih answer (h.2 answer)⟩

theorem Only.bind {program : Program I E α} {f : α → Program I E β} (h : program.Only Q)
    (hf : ∀ value, (f value).Only Q) : (program.bind f).Only Q := by
  induction program with
  | ret value => exact hf value
  | throw error => trivial
  | perform op next ih => exact ⟨h.1, fun answer => ih answer (h.2 answer)⟩

theorem Only.attempt {program : Program I E α} (h : program.Only Q) : program.attempt.Only Q := by
  induction program with
  | ret value => trivial
  | throw error => trivial
  | perform op next ih => exact ⟨h.1, fun answer => ih answer (h.2 answer)⟩

theorem only_ofExcept (outcome : Except E α) : (ofExcept outcome : Program I E α).Only Q := by
  cases outcome <;> trivial

theorem Only.tryCatch {body : Program I E α} {handler : E → Program I E α} (h : body.Only Q)
    (hhandler : ∀ error, (handler error).Only Q) : (body.tryCatch handler).Only Q := by
  apply h.attempt.bind
  rintro (error | value)
  · exact hhandler error
  · trivial

theorem Only.ignoreErrors {body : Program I E α} (h : body.Only Q) : body.ignoreErrors.Only Q :=
  h.attempt.bind fun _ => trivial

theorem only_call {op : I.Op} (h : Q op) : (call op : Program I E (I.Ans op)).Only Q := by
  refine ⟨h, fun answer => ?_⟩
  cases answer <;> trivial

/-- A lifted program keeps to the operations of the smaller interface. -/
theorem only_lift (h : I.Hom J) (program : Program I E α) :
    (program.lift h).Only fun op => ∃ o, op = h.op o := by
  induction program with
  | ret value => trivial
  | throw error => trivial
  | perform op next ih => exact ⟨⟨op, rfl⟩, fun answer => ih _⟩

/-- A program whose operations are all allowed and all keep a property of the phases keeps it. -/
theorem Only.keeps {P : Protocol I E L} {R : L → Prop} {program : Program I E α} {phase : L}
    (h : program.Only Q) (hallowed : ∀ phase op, Q op → R phase → P.allowed phase op)
    (hkeep : ∀ phase op answer phase', Q op → R phase → P.trans phase op answer phase' →
      R phase') (hphase : R phase) : program.Sat P phase fun phase' _ => R phase' := by
  induction program generalizing phase with
  | ret value => exact hphase
  | throw error => exact hphase
  | perform op next ih =>
      refine ⟨hallowed phase op h.1 hphase, fun answer phase' htrans => ?_⟩
      exact ih answer (h.2 answer) (hkeep phase op answer phase' h.1 hphase htrans)

/-- A program whose operations are all allowed in a phase and do not leave it stays there. -/
theorem Only.sat {P : Protocol I E L} {program : Program I E α} {phase : L} (h : program.Only Q)
    (hallowed : ∀ op, Q op → P.allowed phase op)
    (hstays : ∀ op answer phase', Q op → P.trans phase op answer phase' → phase' = phase) :
    program.Sat P phase fun phase' _ => phase' = phase := by
  apply @Only.keeps _ _ _ _ _ P (fun phase' => phase' = phase) _ _ h _ _ rfl
  · rintro _ op hop rfl
    exact hallowed op hop
  · rintro _ op answer phase' hop rfl htrans
    exact hstays op answer phase' hop htrans

end Program

end Interact
