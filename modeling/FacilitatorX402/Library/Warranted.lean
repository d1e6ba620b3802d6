import FacilitatorX402.Library.Trace

/-!
# Operations that need a warrant

A call may perform some operations only after it has been told what warrants them. The rule looks at what
the call itself has performed, newest first, with the answers. A program that keeps to the rule alone keeps
to it in every run, whatever the other calls do.
-/

namespace Interact

variable {I : Interface} {E ι α : Type}

/-- An operation is performed only if what came before it warrants it. -/
def warranted (who : ι) (warrants : List (Event I E ι) → I.Op → Prop) :
    Protocol I E (List (Event I E ι)) where
  allowed := warrants
  trans events op answer events' := events' = ⟨who, op, answer⟩ :: events

section Program

variable {who : ι} {warrants : List (Event I E ι) → I.Op → Prop} {events : List (Event I E ι)}

/-- Operations that what was told warrants, whatever is told besides, leave all of it. -/
theorem Program.Only.warranted {Q : I.Op → Prop} {program : Program I E α} (h : program.Only Q)
    (hwarrants : ∀ events', events ⊆ events' → ∀ op, Q op → warrants events' op) :
    program.Sat (Interact.warranted who warrants) events fun events' _ => events ⊆ events' := by
  apply h.keeps
  · exact fun events' op hop hsubset => hwarrants events' hsubset op hop
  · rintro events' op answer _ - hsubset rfl
    exact List.Subset.trans hsubset (List.subset_cons_self _ _)
  · exact List.Subset.refl events

theorem Program.Only.lift {J : Interface} {Q : J.Op → Prop} (hom : I.Hom J) {program : Program I E α}
    (h : program.Only fun op => Q (hom.op op)) : (program.lift hom).Only Q := by
  induction program with
  | ret value => trivial
  | throw error => trivial
  | perform op next ih => exact ⟨h.1, fun answer => ih _ (h.2 _)⟩

end Program

section History

variable [DecidableEq ι] {warrants : ι → List (Event I E ι) → I.Op → Prop}

/-- Every operation of a history was warranted by what its call had performed before. -/
def Warranted (warrants : ι → List (Event I E ι) → I.Op → Prop) : List (Event I E ι) → Prop
  | [] => True
  | event :: earlier =>
      warrants event.who (earlier.filter (·.who = event.who)) event.op ∧ Warranted warrants earlier

/-- What warranted an operation, its call had performed before. -/
theorem Warranted.of_mem {history : List (Event I E ι)} (h : Warranted warrants history)
    {event : Event I E ι} (hevent : event ∈ history) :
    ∃ later earlier, history = later ++ event :: earlier ∧
      warrants event.who (earlier.filter (·.who = event.who)) event.op := by
  induction history with
  | nil => cases hevent
  | cons last earlier ih =>
      cases hevent with
      | head => exact ⟨[], earlier, rfl, h.1⟩
      | tail _ hold =>
          obtain ⟨later, before, hsplit, hwarrants⟩ := ih h.2 hold
          exact ⟨last :: later, before, by rw [hsplit, List.cons_append], hwarrants⟩

namespace Config

variable {M : Machine I E ι} {good : Config M α → Event I E ι → Prop}
  {post : ι → List (Event I E ι) → Except E α → Prop}

/-- Calls that keep to the rule one by one keep to it together. -/
theorem Reachable.warranted {start cfg : Config M α} (h : Reachable good start cfg)
    (hhistory : start.history = [])
    (hsat : ∀ who, (start.calls who).Sat (Interact.warranted who (warrants who)) [] (post who)) :
    Warranted warrants cfg.history := by
  let Inv : Config M α → (ι → List (Event I E ι)) → Prop := fun cfg phase =>
    (∀ who, phase who = cfg.eventsOf who) ∧ Warranted warrants cfg.history
  have hkeep : Preserved (fun who => Interact.warranted who (warrants who)) post Inv good :=
    { call := by
        rintro cfg phase who op next outcome answer world hfollows - hallowed - -
        obtain ⟨hphase, hwarranted⟩ := hfollows.inv
        refine ⟨⟨who, op, answer⟩ :: phase who, rfl, fun other => ?_, ?_, hwarranted⟩
        · by_cases heq : other = who
          · subst heq
            rw [Function.update_self, eventsOf_perform_self, hphase]
          · rw [Function.update_of_ne heq, eventsOf_perform_of_ne _ heq, hphase]
        · rw [hphase] at hallowed
          exact hallowed
      env := fun _ _ _ _ hfollows _ => hfollows.inv }
  have hstart : Follows (fun who => Interact.warranted who (warrants who)) post Inv start
      fun _ => [] := by
    refine ⟨hsat, fun who => ?_, ?_⟩
    · rw [eventsOf, hhistory, List.filter_nil]
    · rw [hhistory]
      trivial
  obtain ⟨phase, hfollows⟩ := h.follows hkeep hstart
  exact hfollows.inv.2

end Config

end History

end Interact
