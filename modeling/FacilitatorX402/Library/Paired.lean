import FacilitatorX402.Library.Sequential
import Mathlib.Data.List.Forall2

/-!
# Pairs of runs

Two programs that run alone in two worlds under the same decisions, or under decisions that agree
where it matters. `Twin` follows both at once, and its rules compute what holds of the two ends: this
is how the effect of something that has happened in one world only is followed through a later call.
-/

namespace Interact

variable {I : Interface} {E ι α β : Type} (M : Machine I E ι)

/-- Which operations are performed in step, and which of their outcomes count as the same. -/
structure Coupling where
  ops : I.Op → I.Op → Prop
  outcomes : M.Outcome → M.Outcome → Prop

variable {M}

/-- The same operations with the same outcomes. -/
def Coupling.same : Coupling M := ⟨Eq, Eq⟩

/-- Decisions that agree about coupled operations. -/
def Coupling.Agree (C : Coupling M) : Decisions M → Decisions M → Prop :=
  List.Forall₂ fun decide decide' => ∀ op op', C.ops op op' → C.outcomes (decide op) (decide' op')

theorem Coupling.same_agree (decisions : Decisions M) :
    (Coupling.same : Coupling M).Agree decisions decisions :=
  List.forall₂_same.mpr fun decide _ _ _ heq => congrArg decide heq

/-- Both programs perform their operations in step, and the two ends meet the postcondition. -/
def Twin (C : Coupling M) (fair : Fair M) (who : ι) :
    Program I E α → Program I E α → M.World → M.World →
      (M.World → Except E α → M.World → Except E α → Prop) → Prop
  | .ret value, other, world, world', post =>
      ∃ value', other = .ret value' ∧ post world (.ok value) world' (.ok value')
  | .throw error, other, world, world', post =>
      ∃ error', other = .throw error' ∧ post world (.error error) world' (.error error')
  | .perform op next, other, world, world', post =>
      ∃ op' next', other = .perform op' next' ∧ C.ops op op' ∧
        ∀ outcome outcome' answer answer' middle middle', C.outcomes outcome outcome' →
          fair world op outcome → fair world' op' outcome' →
          M.exec who world op outcome = some (answer, middle) →
          M.exec who world' op' outcome' = some (answer', middle') →
          Twin C fair who (next answer) (next' answer') middle middle' post

variable {C : Coupling M} {fair : Fair M} {who : ι}

/-- What the first parts of two programs must reach so that the rest reaches the postcondition. -/
def thenTwin (C : Coupling M) (fair : Fair M) (who : ι) (f g : α → Program I E β)
    (post : M.World → Except E β → M.World → Except E β → Prop) :
    M.World → Except E α → M.World → Except E α → Prop
  | world, .ok value, world', .ok value' => Twin C fair who (f value) (g value') world world' post
  | world, .error error, world', .error error' => post world (.error error) world' (.error error')
  | _, _, _, _ => False

section Rules

variable {program other : Program I E α} {world world' : M.World}
  {post : M.World → Except E α → M.World → Except E α → Prop}

theorem twin_ret {value value' : α} (h : post world (.ok value) world' (.ok value')) :
    Twin C fair who (.ret value) (.ret value') world world' post := ⟨value', rfl, h⟩

theorem twin_throw {error error' : E} (h : post world (.error error) world' (.error error')) :
    Twin C fair who (.throw error) (.throw error') world world' post := ⟨error', rfl, h⟩

theorem twin_perform {op op' : I.Op} {next : Except E (I.Ans op) → Program I E α}
    {next' : Except E (I.Ans op') → Program I E α} (hops : C.ops op op')
    (h : ∀ outcome outcome' answer answer' middle middle', C.outcomes outcome outcome' →
      fair world op outcome → fair world' op' outcome' →
      M.exec who world op outcome = some (answer, middle) →
      M.exec who world' op' outcome' = some (answer', middle') →
      Twin C fair who (next answer) (next' answer') middle middle' post) :
    Twin C fair who (.perform op next) (.perform op' next') world world' post :=
  ⟨op', next', rfl, hops, h⟩

theorem Twin.mono (h : Twin C fair who program other world world' post)
    {post' : M.World → Except E α → M.World → Except E α → Prop}
    (himp : ∀ world result world' result', post world result world' result' →
      post' world result world' result') :
    Twin C fair who program other world world' post' := by
  induction program generalizing other world world' with
  | ret value =>
      obtain ⟨value', rfl, hpost⟩ := h
      exact ⟨value', rfl, himp _ _ _ _ hpost⟩
  | throw error =>
      obtain ⟨error', rfl, hpost⟩ := h
      exact ⟨error', rfl, himp _ _ _ _ hpost⟩
  | perform op next ih =>
      obtain ⟨op', next', rfl, hops, hrest⟩ := h
      exact ⟨op', next', rfl, hops, fun _ _ answer _ _ _ hsame hfair hfair' hexec hexec' =>
        ih answer (hrest _ _ _ _ _ _ hsame hfair hfair' hexec hexec')⟩

theorem twin_bind {f g : α → Program I E β}
    {post : M.World → Except E β → M.World → Except E β → Prop}
    (h : Twin C fair who program other world world' (thenTwin C fair who f g post)) :
    Twin C fair who (program.bind f) (other.bind g) world world' post := by
  induction program generalizing other world world' with
  | ret value =>
      obtain ⟨value', rfl, hpost⟩ := h
      exact hpost
  | throw error =>
      obtain ⟨error', rfl, hpost⟩ := h
      exact ⟨error', rfl, hpost⟩
  | perform op next ih =>
      obtain ⟨op', next', rfl, hops, hrest⟩ := h
      exact ⟨op', fun answer => (next' answer).bind g, rfl, hops,
        fun _ _ answer _ _ _ hsame hfair hfair' hexec hexec' =>
          ih answer (hrest _ _ _ _ _ _ hsame hfair hfair' hexec hexec')⟩

theorem twin_attempt {post : M.World → Except E (Except E α) → M.World → Except E (Except E α) → Prop}
    (h : Twin C fair who program other world world'
      fun world result world' result' => post world (.ok result) world' (.ok result')) :
    Twin C fair who program.attempt other.attempt world world' post := by
  induction program generalizing other world world' with
  | ret value =>
      obtain ⟨value', rfl, hpost⟩ := h
      exact ⟨_, rfl, hpost⟩
  | throw error =>
      obtain ⟨error', rfl, hpost⟩ := h
      exact ⟨_, rfl, hpost⟩
  | perform op next ih =>
      obtain ⟨op', next', rfl, hops, hrest⟩ := h
      exact ⟨op', fun answer => (next' answer).attempt, rfl, hops,
        fun _ _ answer _ _ _ hsame hfair hfair' hexec hexec' =>
          ih answer (hrest _ _ _ _ _ _ hsame hfair hfair' hexec hexec')⟩

/-- What the rules compute holds of every pair of runs. -/
theorem Twin.sound (h : Twin C fair who program other world world' post)
    {decisions decisions' : Decisions M} {result result' : Except E α} {last last' : M.World}
    (hagree : C.Agree decisions decisions')
    (halone : Alone M fair who program world decisions result last)
    (halone' : Alone M fair who other world' decisions' result' last') :
    post last result last' result' := by
  induction halone generalizing other world' decisions' with
  | ret =>
      obtain ⟨value', rfl, hpost⟩ := h
      obtain ⟨rfl, rfl⟩ := halone'.of_ret
      exact hpost
  | throw =>
      obtain ⟨error', rfl, hpost⟩ := h
      obtain ⟨rfl, rfl⟩ := halone'.of_throw
      exact hpost
  | perform hfair hexec _ ih =>
      obtain ⟨op', next', rfl, hops, hrest⟩ := h
      obtain ⟨decide', rest', answer', middle', rfl, hfair', hexec', halone'⟩ := halone'.of_perform
      obtain ⟨hhead, htail⟩ := List.forall₂_cons.mp hagree
      exact ih (hrest _ _ _ _ _ _ (hhead _ _ hops) hfair hfair' hexec hexec') htail halone'

end Rules

end Interact
