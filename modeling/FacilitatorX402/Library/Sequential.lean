import FacilitatorX402.Library.Interleaving

/-!
# Calls that run alone

A call that nothing interrupts: every operation is carried out in the world the one before it has
left. `Alone` keeps what the surroundings decided, each time for whichever operation comes, so that
two runs can be compared under the same decisions. The worlds are themselves the phases of a protocol,
and the rules of `Program.Sat` then compute what every run of a program leaves behind.

`Serially` is one call after the other. Calls that leave the world as they found it can be dropped
from such a history without changing what the others meet.
-/

namespace Interact

variable {I : Interface} {E ι α C : Type} (M : Machine I E ι)

/-- What the surroundings may decide about an operation, in a world. -/
abbrev Fair := M.World → I.Op → M.Outcome → Prop

/-- What the surroundings decide about the operations of a call, one after the other. -/
abbrev Decisions := List (I.Op → M.Outcome)

/-- A program runs alone to its end, with these decisions, this result and this world left. -/
inductive Alone (fair : Fair M) (who : ι) :
    Program I E α → M.World → Decisions M → Except E α → M.World → Prop
  | ret {value : α} {world : M.World} {decisions : Decisions M} :
      Alone fair who (.ret value) world decisions (.ok value) world
  | throw {error : E} {world : M.World} {decisions : Decisions M} :
      Alone fair who (.throw error) world decisions (.error error) world
  | perform {op : I.Op} {next : Except E (I.Ans op) → Program I E α} {world middle last : M.World}
      {decide : I.Op → M.Outcome} {decisions : Decisions M} {answer : Except E (I.Ans op)}
      {result : Except E α} (hfair : fair world op (decide op))
      (hexec : M.exec who world op (decide op) = some (answer, middle))
      (hrest : Alone fair who (next answer) middle decisions result last) :
      Alone fair who (.perform op next) world (decide :: decisions) result last

/-- The worlds a call can step through, as a protocol. -/
def solo (fair : Fair M) (who : ι) : Protocol I E M.World where
  allowed _ _ := True
  trans world op answer world' := ∃ outcome, fair world op outcome ∧
    M.exec who world op outcome = some (answer, world')

variable {M}

section Alone

variable {fair : Fair M} {who : ι} {program : Program I E α} {world last : M.World}
  {decisions : Decisions M} {result : Except E α}

/-- What the rules compute holds after every run. -/
theorem Alone.of_sat (h : Alone M fair who program world decisions result last)
    {post : M.World → Except E α → Prop} (hsat : program.Sat (solo M fair who) world post) :
    post last result := by
  induction h with
  | ret => exact hsat
  | throw => exact hsat
  | perform hfair hexec _ ih => exact ih (hsat.2 _ _ ⟨_, hfair, hexec⟩)

theorem Alone.unique (h : Alone M fair who program world decisions result last)
    {result' : Except E α} {last' : M.World}
    (h' : Alone M fair who program world decisions result' last') :
    result' = result ∧ last' = last := by
  induction h with
  | ret =>
      cases h'
      exact ⟨rfl, rfl⟩
  | throw =>
      cases h'
      exact ⟨rfl, rfl⟩
  | perform _ hexec _ ih =>
      cases h' with
      | perform _ hexec' hrest' =>
          obtain ⟨rfl, rfl⟩ := Prod.mk.inj (Option.some.inj (hexec.symm.trans hexec'))
          exact ih hrest'

theorem Alone.of_perform {op : I.Op} {next : Except E (I.Ans op) → Program I E α}
    (h : Alone M fair who (.perform op next) world decisions result last) :
    ∃ decide rest answer middle, decisions = decide :: rest ∧ fair world op (decide op) ∧
      M.exec who world op (decide op) = some (answer, middle) ∧
      Alone M fair who (next answer) middle rest result last := by
  cases h with
  | perform hfair hexec hrest => exact ⟨_, _, _, _, rfl, hfair, hexec, hrest⟩

theorem Alone.of_ret {value : α} (h : Alone M fair who (.ret value) world decisions result last) :
    result = .ok value ∧ last = world := by
  cases h
  exact ⟨rfl, rfl⟩

theorem Alone.of_throw {error : E} (h : Alone M fair who (.throw error) world decisions result last) :
    result = .error error ∧ last = world := by
  cases h
  exact ⟨rfl, rfl⟩

theorem Alone.mono {fair' : Fair M} (h : Alone M fair who program world decisions result last)
    (himp : ∀ world op outcome, fair world op outcome → fair' world op outcome) :
    Alone M fair' who program world decisions result last := by
  induction h with
  | ret => exact .ret
  | throw => exact .throw
  | perform hfair hexec _ ih => exact .perform (himp _ _ _ hfair) hexec ih

/-- Decisions made without looking at the operation. -/
def constantly (outcomes : List M.Outcome) : Decisions M := outcomes.map fun outcome _ => outcome

/-- Run a program alone with these decisions, as long as they pass a test. -/
def runAlone (test : M.World → I.Op → M.Outcome → Bool) (who : ι) :
    Program I E α → M.World → Decisions M → Option (Except E α × M.World)
  | .ret value, world, _ => some (.ok value, world)
  | .throw error, world, _ => some (.error error, world)
  | .perform op next, world, decide :: decisions =>
      if test world op (decide op) then
        (M.exec who world op (decide op)).bind fun (answer, middle) =>
          runAlone test who (next answer) middle decisions
      else none
  | .perform _ _, _, [] => none

theorem alone_of_runAlone {test : M.World → I.Op → M.Outcome → Bool}
    (htest : ∀ world op outcome, test world op outcome = true → fair world op outcome)
    (h : runAlone test who program world decisions = some (result, last)) :
    Alone M fair who program world decisions result last := by
  induction program generalizing world decisions with
  | ret value =>
      obtain ⟨rfl, rfl⟩ := Prod.mk.inj (Option.some.inj h)
      exact .ret
  | throw error =>
      obtain ⟨rfl, rfl⟩ := Prod.mk.inj (Option.some.inj h)
      exact .throw
  | perform op next ih =>
      cases decisions with
      | nil => cases h
      | cons decide decisions =>
          simp only [runAlone] at h
          split at h
          · rename_i hpassed
            obtain ⟨⟨answer, middle⟩, hexec, hrest⟩ := Option.bind_eq_some_iff.mp h
            exact .perform (htest _ _ _ hpassed) hexec (ih answer hrest)
          · cases h

end Alone

/-! ### One call after the other -/

variable (M) (C α : Type)

/-- A request that has been served, by which call, with which decisions and with which result. -/
structure Served where
  who : ι
  request : C
  decisions : Decisions M
  result : Except E α

variable {M C α}

/-- The requests are served one after the other. -/
inductive Serially (fair : C → Fair M) (program : C → Program I E α) :
    M.World → List (Served M C α) → M.World → Prop
  | nil {world : M.World} : Serially fair program world [] world
  | cons {world middle last : M.World} {served : Served M C α} {rest : List (Served M C α)}
      (hserved : Alone M (fair served.request) served.who (program served.request) world
        served.decisions served.result middle)
      (hrest : Serially fair program middle rest last) :
      Serially fair program world (served :: rest) last

section Serially

variable {fair : C → Fair M} {program : C → Program I E α} {world last : M.World}
  {history : List (Served M C α)}

theorem Serially.of_cons {served : Served M C α}
    (h : Serially fair program world (served :: history) last) :
    ∃ middle, Alone M (fair served.request) served.who (program served.request) world served.decisions
      served.result middle ∧ Serially fair program middle history last := by
  cases h with
  | cons hserved hrest => exact ⟨_, hserved, hrest⟩

/-- Requests that leave the world as they found it can be dropped. -/
theorem Serially.filter (h : Serially fair program world history last)
    (keep : Served M C α → Bool)
    (hdrop : ∀ (served : Served M C α) (world world' : M.World),
      Alone M (fair served.request) served.who (program served.request) world served.decisions
        served.result world' → keep served = false → world' = world) :
    Serially fair program world (history.filter keep) last := by
  induction h with
  | nil => exact .nil
  | @cons world middle last served rest hserved hrest ih =>
      cases hkeep : keep served with
      | true =>
          rw [List.filter_cons_of_pos hkeep]
          exact .cons hserved ih
      | false =>
          obtain rfl : middle = world := hdrop served world middle hserved hkeep
          rw [List.filter_cons_of_neg (by rw [hkeep]; exact Bool.false_ne_true)]
          exact ih

/-- What a request was given: all but its result. -/
def Served.given (served : Served M C α) : ι × C × Decisions M :=
  (served.who, served.request, served.decisions)

/-- The requests and the decisions determine the results. -/
theorem Serially.unique (h : Serially fair program world history last)
    {history' : List (Served M C α)} {last' : M.World}
    (h' : Serially fair program world history' last')
    (hgiven : history'.map Served.given = history.map Served.given) :
    history' = history ∧ last' = last := by
  induction h generalizing history' with
  | nil =>
      cases List.map_eq_nil_iff.mp hgiven
      cases h'
      exact ⟨rfl, rfl⟩
  | @cons world middle last served rest hserved hrest ih =>
      cases h' with
      | nil => cases hgiven
      | @cons _ middle' _ served' rest' hserved' hrest' =>
          obtain ⟨hhead, htail⟩ := List.cons.inj hgiven
          obtain ⟨who, request, decisions, result⟩ := served
          obtain ⟨who', request', decisions', result'⟩ := served'
          obtain ⟨rfl, hrest''⟩ := Prod.mk.inj hhead
          obtain ⟨rfl, rfl⟩ := Prod.mk.inj hrest''
          obtain ⟨rfl, rfl⟩ := hserved.unique hserved'
          obtain ⟨rfl, rfl⟩ := ih hrest' htail
          exact ⟨rfl, rfl⟩

/-- The same requests, written in another form. -/
theorem Serially.map {C' : Type} {fair' : C' → Fair M} {program' : C' → Program I E α} (f : C → C')
    (hfair : ∀ request, fair' (f request) = fair request)
    (hprogram : ∀ request, program' (f request) = program request)
    (h : Serially fair program world history last) :
    Serially fair' program' world (history.map fun served =>
      ⟨served.who, f served.request, served.decisions, served.result⟩) last := by
  induction h with
  | nil => exact .nil
  | cons hserved _ ih =>
      refine .cons ?_ ih
      rw [hfair, hprogram]
      exact hserved

/-- Serve requests one after the other, as long as the decisions pass a test. -/
def serve (test : C → M.World → I.Op → M.Outcome → Bool) (program : C → Program I E α) :
    M.World → List (ι × C × Decisions M) → Option (List (Served M C α) × M.World)
  | world, [] => some ([], world)
  | world, (who, request, decisions) :: rest =>
      (runAlone (test request) who (program request) world decisions).bind fun (result, middle) =>
        (serve test program middle rest).map fun (history, last) =>
          (⟨who, request, decisions, result⟩ :: history, last)

theorem serially_of_serve {test : C → M.World → I.Op → M.Outcome → Bool}
    (htest : ∀ request world op outcome, test request world op outcome = true →
      fair request world op outcome) {given : List (ι × C × Decisions M)}
    (h : serve test program world given = some (history, last)) :
    Serially fair program world history last := by
  induction given generalizing world history with
  | nil =>
      obtain ⟨rfl, rfl⟩ := Prod.mk.inj (Option.some.inj h)
      exact .nil
  | cons head given ih =>
      obtain ⟨who, request, decisions⟩ := head
      obtain ⟨⟨result, middle⟩, hrun, hrest⟩ := Option.bind_eq_some_iff.mp h
      obtain ⟨⟨rest, last'⟩, hserve, heq⟩ := Option.map_eq_some_iff.mp hrest
      obtain ⟨rfl, rfl⟩ := Prod.mk.inj heq
      exact .cons (alone_of_runAlone (htest request) hrun) (ih hserve)

end Serially

end Interact
