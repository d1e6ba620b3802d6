import FacilitatorX402.Library.Program
import Mathlib.Data.List.Basic

/-!
# A program and its answers

What a program performs and how it ends, when the operations are answered one after the other. A program
is a tree without infinite branches, so every sequence of answers leads it to an end.
-/

namespace Interact

namespace Program

variable {I : Interface} {E α β : Type}

/-- The operations from the `n`-th answer on, in their order, and the end. -/
def answered (answer : Nat → (op : I.Op) → Except E (I.Ans op)) :
    Program I E α → Nat → List I.Op × Except E α
  | ret value, _ => ([], .ok value)
  | throw error, _ => ([], .error error)
  | perform op next, n =>
      let rest := (next (answer n op)).answered answer (n + 1)
      (op :: rest.1, rest.2)

variable {answer : Nat → (op : I.Op) → Except E (I.Ans op)}

@[simp]
theorem answered_ret (value : α) (n : Nat) :
    (ret value : Program I E α).answered answer n = ([], .ok value) := rfl

@[simp]
theorem answered_throw (error : E) (n : Nat) :
    (throw error : Program I E α).answered answer n = ([], .error error) := rfl

theorem answered_perform (op : I.Op) (next : Except E (I.Ans op) → Program I E α) (n : Nat) :
    (perform op next).answered answer n =
      (op :: ((next (answer n op)).answered answer (n + 1)).1,
        ((next (answer n op)).answered answer (n + 1)).2) := rfl

/-- The outcome of one awaited operation, value or error, is handed on. -/
theorem attempt_call_bind (op : I.Op) (f : Except E (I.Ans op) → Program I E β) :
    (call op).attempt.bind f = perform op f := by
  refine congrArg (perform op) (funext fun answer => ?_)
  cases answer <;> rfl

/-- After a first part that ends with a value, the answers go on where it has left them. -/
theorem answered_bind_ok {program : Program I E α} {n : Nat} {value : α}
    (h : (program.answered answer n).2 = .ok value) (f : α → Program I E β) :
    ((program.bind f).answered answer n).2 =
      ((f value).answered answer (n + (program.answered answer n).1.length)).2 := by
  induction program generalizing n with
  | ret value' =>
      cases h
      rfl
  | throw error => cases h
  | perform op next ih =>
      have hrest := ih (answer n op) h
      rw [bind, answered_perform, answered_perform, List.length_cons]
      rwa [Nat.add_assoc, Nat.add_comm 1] at hrest

theorem answered_bind_error {program : Program I E α} {n : Nat} {error : E}
    (h : (program.answered answer n).2 = .error error) (f : α → Program I E β) :
    ((program.bind f).answered answer n).2 = .error error := by
  induction program generalizing n with
  | ret value => cases h
  | throw error' =>
      cases h
      rfl
  | perform op next ih => exact ih (answer n op) h

/-- Answers to operations that are never performed do not matter. -/
theorem Only.answered_congr {Q : I.Op → Prop} {program : Program I E α} (h : program.Only Q)
    {answer' : Nat → (op : I.Op) → Except E (I.Ans op)}
    (hsame : ∀ n op, Q op → answer n op = answer' n op) (n : Nat) :
    program.answered answer n = program.answered answer' n := by
  induction program generalizing n with
  | ret value => rfl
  | throw error => rfl
  | perform op next ih =>
      rw [answered_perform, answered_perform, hsame n op h.1, ih _ (h.2 _)]

end Program

end Interact
