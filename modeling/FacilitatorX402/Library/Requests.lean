import Mathlib.Data.List.Basic
import Mathlib.Tactic.Common

/-!
# Requests served one after the other

A server answers each request from its state and goes to the next one. `Run` keeps what was asked and
what was answered, newest first, under a condition on each request that may look at all of it.
-/

namespace Requests

variable {σ Req Rep : Type}

/-- A request with the answer it was given. -/
structure Exchange (Req Rep : Type) where
  request : Req
  reply : Rep

abbrev Log (Req Rep : Type) := List (Exchange Req Rep)

/-- What a server answers to a request in a state, and the state it goes on in. -/
abbrev Handler (σ Req Rep : Type) := σ → Req → Rep × σ

/-- Which requests may come, after what was served and in a state. -/
abbrev Admits (σ Req Rep : Type) := Log Req Rep → σ → Req → Prop

inductive Run (serve : Handler σ Req Rep) (admits : Admits σ Req Rep) (start : σ) :
    Log Req Rep → σ → Prop
  | nil : Run serve admits start [] start
  | cons {log : Log Req Rep} {state : σ} {request : Req} (h : Run serve admits start log state)
      (hadmits : admits log state request) :
      Run serve admits start (⟨request, (serve state request).1⟩ :: log) (serve state request).2

variable {serve : Handler σ Req Rep} {admits : Admits σ Req Rep} {start : σ} {log : Log Req Rep}
  {state : σ}

/-- What holds at the start and survives every request holds in every state reached. -/
theorem Run.invariant (h : Run serve admits start log state) {I : Log Req Rep → σ → Prop}
    (hstart : I [] start)
    (hstep : ∀ log state request, I log state → admits log state request →
      I (⟨request, (serve state request).1⟩ :: log) (serve state request).2) : I log state := by
  induction h with
  | nil => exact hstart
  | cons _ hadmits ih => exact hstep _ _ _ ih hadmits

/-- Every exchange of a run was served in a state that the run had reached. -/
theorem Run.reached {later earlier : Log Req Rep} {x : Exchange Req Rep}
    (h : Run serve admits start (later ++ x :: earlier) state) :
    ∃ middle, Run serve admits start earlier middle ∧ admits earlier middle x.request ∧
      x.reply = (serve middle x.request).1 := by
  induction later generalizing state with
  | nil =>
      cases h with
      | cons h hadmits => exact ⟨_, h, hadmits, rfl⟩
  | cons y later ih =>
      cases h with
      | cons h _ => exact ih h

theorem Run.mono (h : Run serve admits start log state) {admits' : Admits σ Req Rep}
    (himp : ∀ log state request, admits log state request → admits' log state request) :
    Run serve admits' start log state := by
  induction h with
  | nil => exact .nil
  | cons _ hadmits ih => exact ih.cons (himp _ _ _ hadmits)

/-! ### Running a server -/

variable (serve admits start)

/-- The log and the state after some requests, the newest first. -/
def served : List Req → Log Req Rep × σ
  | [] => ([], start)
  | request :: earlier =>
      let (log, state) := served earlier
      (⟨request, (serve state request).1⟩ :: log, (serve state request).2)

/-- Each request may come where it comes. -/
def Admitted : List Req → Prop
  | [] => True
  | request :: earlier =>
      Admitted earlier ∧ admits (served serve start earlier).1 (served serve start earlier).2 request

instance decidableAdmitted [∀ log state request, Decidable (admits log state request)] :
    (requests : List Req) → Decidable (Admitted serve admits start requests)
  | [] => inferInstanceAs (Decidable True)
  | _ :: earlier =>
      haveI := decidableAdmitted earlier
      inferInstanceAs (Decidable (_ ∧ _))

/-- No condition on the requests. -/
def anyRequest : Admits σ Req Rep := fun _ _ _ => True

variable {serve admits start}

theorem run_served {requests : List Req} (h : Admitted serve admits start requests) :
    Run serve admits start (served serve start requests).1 (served serve start requests).2 := by
  induction requests with
  | nil => exact .nil
  | cons request earlier ih => exact (ih h.1).cons h.2

/-- Conditions admit the same requests when they agree under an invariant that one of them keeps. -/
theorem admitted_congr {admits' : Admits σ Req Rep} {I : Log Req Rep → σ → Prop} (hstart : I [] start)
    (hstep : ∀ log state request, I log state → admits log state request →
      I (⟨request, (serve state request).1⟩ :: log) (serve state request).2)
    (hiff : ∀ log state request, I log state →
      (admits log state request ↔ admits' log state request)) (requests : List Req) :
    Admitted serve admits start requests ↔ Admitted serve admits' start requests := by
  induction requests with
  | nil => exact Iff.rfl
  | cons request earlier ih =>
      rw [Admitted, Admitted, ← ih]
      exact and_congr_right fun hearlier => hiff _ _ _ ((run_served hearlier).invariant hstart hstep)

theorem admitted_anyRequest (requests : List Req) : Admitted serve anyRequest start requests := by
  induction requests with
  | nil => trivial
  | cons request earlier ih => exact ⟨ih, trivial⟩

end Requests
