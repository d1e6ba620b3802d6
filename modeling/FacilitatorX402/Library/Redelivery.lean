import FacilitatorX402.Library.Sequential

/-!
# Programs that are run again

A queue hands a job to one attempt after the other. An attempt runs alone, and may be cut before any
of its operations; an operation that took effect without an answer is one after which it was cut.
What is read off a world then moves at most once, if every attempt leaves it alone or moves it, and no
two moves follow each other.

A client makes one call after the other, each of which comes to its end while the surroundings only
move between them. `tracked` follows one such call and keeps account of whether what the surroundings
decided has met a further condition, so that a result can be traced back to it.
-/

namespace Interact

variable {I : Interface} {E ι α β : Type} {M : Machine I E ι}

/-- A program runs alone and is cut somewhere, or comes to its end. -/
inductive Cut (fair : Fair M) (who : ι) : Program I E α → M.World → M.World → Prop
  | stop {program : Program I E α} {world : M.World} : Cut fair who program world world
  | perform {op : I.Op} {next : Except E (I.Ans op) → Program I E α} {world middle last : M.World}
      {outcome : M.Outcome} {answer : Except E (I.Ans op)} (hfair : fair world op outcome)
      (hexec : M.exec who world op outcome = some (answer, middle))
      (hrest : Cut fair who (next answer) middle last) :
      Cut fair who (.perform op next) world last

/-- The worlds a call can step through, all of which keep an invariant. -/
def soloWithin (fair : Fair M) (who : ι) (inv : M.World → Prop) : Protocol I E M.World where
  allowed world _ := inv world
  trans := (solo M fair who).trans

section Cut

variable {fair : Fair M} {who : ι} {program : Program I E α} {world last : M.World}

/-- An invariant that holds at every operation holds wherever the program is cut. -/
theorem Cut.of_sat (h : Cut fair who program world last) {inv : M.World → Prop}
    (hsat : program.Sat (soloWithin fair who inv) world fun world' _ => inv world') : inv last := by
  induction h with
  | @stop program world =>
      cases program with
      | ret value => exact hsat
      | throw error => exact hsat
      | perform op next => exact hsat.1
  | perform hfair hexec _ ih => exact ih (hsat.2 _ _ ⟨_, hfair, hexec⟩)

/-- Run a program with these outcomes, and cut it after them. -/
def runCut (who : ι) : Program I E α → M.World → List M.Outcome → Option M.World
  | _, world, [] => some world
  | .perform op next, world, outcome :: outcomes =>
      (M.exec who world op outcome).bind fun (answer, middle) =>
        runCut who (next answer) middle outcomes
  | _, _, _ :: _ => none

theorem cut_of_runCut (hfair : ∀ world op outcome, fair world op outcome)
    {outcomes : List M.Outcome} (h : runCut who program world outcomes = some last) :
    Cut fair who program world last := by
  induction outcomes generalizing program world with
  | nil =>
      obtain rfl : world = last := by
        cases program <;> exact Option.some.inj h
      exact .stop
  | cons outcome outcomes ih =>
      cases program with
      | ret value => cases h
      | throw error => cases h
      | perform op next =>
          obtain ⟨⟨answer, middle⟩, hexec, hrest⟩ := Option.bind_eq_some_iff.mp h
          exact .perform (hfair _ _ _) hexec (ih hrest)

end Cut

/-- One attempt after the other, with the worlds they leave. -/
inductive Retried (fair : Fair M) (program : Program I E α) : M.World → List M.World → Prop
  | nil {world : M.World} : Retried fair program world []
  | cons {who : ι} {world after : M.World} {rest : List M.World}
      (hcut : Cut fair who program world after) (hrest : Retried fair program after rest) :
      Retried fair program world (after :: rest)

section Retried

variable {fair : Fair M} {program : Program I E α} {world : M.World} {worlds : List M.World}
  {view : M.World → β} {Moves : β → β → Prop}

/-- After a move, nothing moves any more. -/
theorem Retried.still (h : Retried fair program world worlds)
    (hstep : ∀ {who : ι} {world after : M.World}, Cut fair who program world after →
      view after = view world ∨ Moves (view world) (view after))
    (hmoved : ∀ b, ¬Moves (view world) b) : ∀ after ∈ worlds, view after = view world := by
  induction h with
  | nil =>
      intro after hafter
      cases hafter
  | @cons who world middle rest hcut _ ih =>
      have hmiddle : view middle = view world := (hstep hcut).resolve_right (hmoved _)
      intro after hafter
      rcases List.mem_cons.mp hafter with rfl | hafter
      · exact hmiddle
      · exact (ih (hmiddle ▸ hmoved) after hafter).trans hmiddle

/-- Either nothing ever moves, or the first attempt that moves is the only one. -/
theorem Retried.moves_once (h : Retried fair program world worlds)
    (hstep : ∀ {who : ι} {world after : M.World}, Cut fair who program world after →
      view after = view world ∨ Moves (view world) (view after))
    (hfinal : ∀ {a b c : β}, Moves a b → ¬Moves b c) :
    (∀ after ∈ worlds, view after = view world) ∨
      ∃ before first rest, worlds = before ++ first :: rest ∧
        (∀ after ∈ before, view after = view world) ∧ Moves (view world) (view first) ∧
        ∀ after ∈ rest, view after = view first := by
  induction h with
  | nil =>
      left
      intro after hafter
      cases hafter
  | @cons who world middle rest hcut hrest ih =>
      rcases hstep hcut with hsame | hmoves
      · rw [hsame] at ih
        rcases ih with hkept | ⟨before, first, after, rfl, hbefore, hfirst, hafter⟩
        · exact .inl (List.forall_mem_cons.mpr ⟨hsame, hkept⟩)
        · exact .inr ⟨middle :: before, first, after, rfl,
            List.forall_mem_cons.mpr ⟨hsame, hbefore⟩, hfirst, hafter⟩
      · exact .inr ⟨[], middle, rest, rfl, fun _ hnone => (by cases hnone), hmoves,
          hrest.still hstep fun _ => hfinal hmoves⟩

/-- Make these attempts, each with its outcomes. -/
def retry (program : Program I E α) : M.World → List (ι × List M.Outcome) → Option (List M.World)
  | _, [] => some []
  | world, (who, outcomes) :: rest =>
      (runCut who program world outcomes).bind fun after =>
        (retry program after rest).map (after :: ·)

theorem retried_of_retry (hfair : ∀ world op outcome, fair world op outcome)
    {attempts : List (ι × List M.Outcome)} (h : retry program world attempts = some worlds) :
    Retried fair program world worlds := by
  induction attempts generalizing world worlds with
  | nil =>
      obtain rfl := Option.some.inj h
      exact .nil
  | cons attempt attempts ih =>
      obtain ⟨after, hcut, hrest⟩ := Option.bind_eq_some_iff.mp h
      obtain ⟨rest, hretry, rfl⟩ := Option.map_eq_some_iff.mp hrest
      exact .cons (cut_of_runCut hfair hcut) (ih hretry)

end Retried

/-! ### Calls that come to their end -/

/-- One call after the other, with their results; the surroundings move in between. -/
inductive Repeated (fair : Fair M) (program : Program I E α) :
    M.World → List (Except E α) → M.World → Prop
  | nil {world : M.World} : Repeated fair program world [] world
  | call {who : ι} {world middle last : M.World} {decisions : Decisions M} {result : Except E α}
      {results : List (Except E α)}
      (hcall : Alone M fair who program world decisions result middle)
      (hrest : Repeated fair program middle results last) :
      Repeated fair program world (result :: results) last
  | env {world middle last : M.World} {event : M.Env} {results : List (Except E α)}
      (henv : M.env world event = some middle)
      (hrest : Repeated fair program middle results last) :
      Repeated fair program world results last

/-- What calls and surroundings keep, every series keeps; and each call ends as promised there. -/
theorem Repeated.keeps {fair : Fair M} {program : Program I E α} {world last : M.World}
    {results : List (Except E α)} (h : Repeated fair program world results last)
    {inv : M.World → Prop} {post : Except E α → Prop}
    (hcall : ∀ {who : ι} {world after : M.World} {decisions : Decisions M} {result : Except E α},
      inv world → Alone M fair who program world decisions result after → post result ∧ inv after)
    (henv : ∀ {world after : M.World} {event : M.Env}, inv world → M.env world event = some after →
      inv after) (hworld : inv world) : (∀ result ∈ results, post result) ∧ inv last := by
  induction h with
  | nil =>
      refine ⟨fun result hresult => ?_, hworld⟩
      cases hresult
  | call hserved _ ih =>
      obtain ⟨hresult, hmiddle⟩ := hcall hworld hserved
      obtain ⟨hrest, hlast⟩ := ih hmiddle
      exact ⟨List.forall_mem_cons.mpr ⟨hresult, hrest⟩, hlast⟩
  | env hmoved _ ih => exact ih (henv hworld hmoved)

/-- The worlds a call can step through, and whether all its decisions have been `strict` so far. -/
def tracked (fair strict : Fair M) (who : ι) : Protocol I E (M.World × Prop) where
  allowed _ _ := True
  trans phase op answer phase' := ∃ outcome, fair phase.1 op outcome ∧
    M.exec who phase.1 op outcome = some (answer, phase'.1) ∧
    phase'.2 = (phase.2 ∧ strict phase.1 op outcome)

theorem Alone.of_tracked {fair strict : Fair M} {who : ι} {program : Program I E α}
    {world last : M.World} {decisions : Decisions M} {result : Except E α}
    (h : Alone M fair who program world decisions result last) {sofar : Prop}
    {post : M.World × Prop → Except E α → Prop}
    (hsat : program.Sat (tracked fair strict who) (world, sofar) post) :
    ∃ account, post (last, account) result ∧
      (account ↔ sofar ∧ Alone M strict who program world decisions result last) := by
  induction h generalizing sofar with
  | ret => exact ⟨sofar, hsat, fun hsofar => ⟨hsofar, .ret⟩, fun hboth => hboth.1⟩
  | throw => exact ⟨sofar, hsat, fun hsofar => ⟨hsofar, .throw⟩, fun hboth => hboth.1⟩
  | @perform op next world middle last decide decisions answer result hfair hexec _ ih =>
      obtain ⟨account, hpost, haccount⟩ :=
        ih (hsat.2 answer (middle, sofar ∧ strict world op (decide op)) ⟨_, hfair, hexec, rfl⟩)
      refine ⟨account, hpost, haccount.trans ⟨?_, ?_⟩⟩
      · rintro ⟨⟨hsofar, hstrict⟩, hrest⟩
        exact ⟨hsofar, .perform hstrict hexec hrest⟩
      · rintro ⟨hsofar, hall⟩
        cases hall with
        | perform hstrict hexec' hrest =>
            obtain ⟨rfl, rfl⟩ := Prod.mk.inj (Option.some.inj (hexec'.symm.trans hexec))
            exact ⟨⟨hsofar, hstrict⟩, hrest⟩

end Interact
