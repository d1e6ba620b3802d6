import Mathlib.Logic.Function.Basic
import Mathlib.Logic.Relation

/-!
# A book of promises

Promises are entered under their terms, and each is kept once, by an outcome that is due for its terms. An
entry is never taken back or changed. The rules say which terms and which outcomes may stand beside each
other.
-/

namespace PromiseBook

variable {ι τ ω : Type}

structure Entry (τ ω : Type) where
  terms : τ
  kept : Option ω

abbrev Book (ι τ ω : Type) := ι → Option (Entry τ ω)

structure Rules (ι τ ω : Type) where
  apart : τ → τ → Prop
  due : ι → τ → ω → Prop
  distinct : ω → ω → Prop

section Steps

variable [DecidableEq ι]

def Book.enter (book : Book ι τ ω) (id : ι) (terms : τ) : Book ι τ ω :=
  Function.update book id (some ⟨terms, none⟩)

def Book.keep (book : Book ι τ ω) (id : ι) (terms : τ) (outcome : ω) : Book ι τ ω :=
  Function.update book id (some ⟨terms, some outcome⟩)

variable (book : Book ι τ ω) {id other : ι} (terms : τ) (outcome : ω)

@[simp]
theorem Book.enter_self : book.enter id terms id = some ⟨terms, none⟩ := Function.update_self ..

theorem Book.enter_of_ne (hne : other ≠ id) : book.enter id terms other = book other :=
  Function.update_of_ne hne ..

@[simp]
theorem Book.keep_self : book.keep id terms outcome id = some ⟨terms, some outcome⟩ :=
  Function.update_self ..

theorem Book.keep_of_ne (hne : other ≠ id) : book.keep id terms outcome other = book other :=
  Function.update_of_ne hne ..

/-- A kept entry was there before another was entered. -/
theorem Book.eq_of_enter {entry : Entry τ ω} {kept : ω} (h : book.enter id terms other = some entry)
    (hkept : entry.kept = some kept) : book other = some entry := by
  by_cases hsame : other = id
  · rw [hsame, enter_self] at h
    obtain rfl := Option.some.inj h
    cases hkept
  · rwa [enter_of_ne book terms hsame] at h

theorem Book.cases_of_keep {entry : Entry τ ω} {kept : ω} (h : book.keep id terms outcome other = some entry)
    (hkept : entry.kept = some kept) :
    book other = some entry ∨ other = id ∧ entry.terms = terms ∧ kept = outcome := by
  by_cases hsame : other = id
  · rw [hsame, keep_self] at h
    obtain rfl := Option.some.inj h
    exact .inr ⟨hsame, rfl, (Option.some.inj hkept).symm⟩
  · rw [keep_of_ne book terms outcome hsame] at h
    exact .inl h

inductive Step (rules : Rules ι τ ω) : Book ι τ ω → Book ι τ ω → Prop
  | enter {book : Book ι τ ω} {id : ι} {terms : τ} (hfresh : book id = none)
      (hapart : ∀ other entry, book other = some entry → rules.apart entry.terms terms) :
      Step rules book (book.enter id terms)
  | keep {book : Book ι τ ω} {id : ι} {terms : τ} {outcome : ω}
      (hentered : book id = some ⟨terms, none⟩) (hdue : rules.due id terms outcome)
      (hdistinct : ∀ other entry kept, book other = some entry → entry.kept = some kept →
        rules.distinct kept outcome) : Step rules book (book.keep id terms outcome)

/-- Any number of steps. -/
abbrev Leads (rules : Rules ι τ ω) : Book ι τ ω → Book ι τ ω → Prop :=
  Relation.ReflTransGen (Step rules)

end Steps

/-! ### What stays -/

/-- An entry as it may be found later. -/
structure Entry.Becomes (entry entry' : Entry τ ω) : Prop where
  terms : entry'.terms = entry.terms
  kept : ∀ outcome, entry.kept = some outcome → entry'.kept = some outcome

theorem Entry.Becomes.refl (entry : Entry τ ω) : entry.Becomes entry := ⟨rfl, fun _ => id⟩

theorem Entry.Becomes.trans {entry entry' entry'' : Entry τ ω} (h : entry.Becomes entry')
    (h' : entry'.Becomes entry'') : entry.Becomes entry'' :=
  ⟨h'.terms.trans h.terms, fun outcome hkept => h'.kept outcome (h.kept outcome hkept)⟩

/-- No entry is lost, and each has become what it is. -/
def Book.Grows (book book' : Book ι τ ω) : Prop :=
  ∀ id entry, book id = some entry → ∃ entry', book' id = some entry' ∧ entry.Becomes entry'

theorem Book.Grows.refl (book : Book ι τ ω) : book.Grows book :=
  fun _ entry hentry => ⟨entry, hentry, .refl entry⟩

theorem Book.Grows.trans {book book' book'' : Book ι τ ω} (h : book.Grows book')
    (h' : book'.Grows book'') : book.Grows book'' := by
  intro id entry hentry
  obtain ⟨entry', hentry', hbecomes⟩ := h id entry hentry
  obtain ⟨entry'', hentry'', hbecomes'⟩ := h' id entry' hentry'
  exact ⟨entry'', hentry'', hbecomes.trans hbecomes'⟩

section Steps

variable [DecidableEq ι] {rules : Rules ι τ ω} {book book' : Book ι τ ω}

theorem Step.grows (h : Step rules book book') : book.Grows book' := by
  cases h with
  | @enter id terms hfresh _ =>
      intro other entry hentry
      have hne : other ≠ id := by
        rintro rfl
        cases hfresh.symm.trans hentry
      exact ⟨entry, (book.enter_of_ne terms hne).trans hentry, .refl entry⟩
  | @keep id terms outcome hentered _ _ =>
      intro other entry hentry
      by_cases hsame : other = id
      · subst hsame
        obtain rfl := Option.some.inj (hentered.symm.trans hentry)
        exact ⟨_, book.keep_self terms outcome, rfl, nofun⟩
      · exact ⟨entry, (book.keep_of_ne terms outcome hsame).trans hentry, .refl entry⟩

theorem Leads.grows (h : Leads rules book book') : book.Grows book' := by
  induction h with
  | refl => exact .refl book
  | tail _ hlast ih => exact ih.trans hlast.grows

/-! ### What the rules give -/

/-- The rules hold of all entries. -/
structure Book.Obeys (book : Book ι τ ω) (rules : Rules ι τ ω) : Prop where
  apart : ∀ id id' entry entry', id ≠ id' → book id = some entry → book id' = some entry' →
    rules.apart entry.terms entry'.terms ∨ rules.apart entry'.terms entry.terms
  due : ∀ id entry outcome, book id = some entry → entry.kept = some outcome →
    rules.due id entry.terms outcome
  distinct : ∀ id id' entry entry' outcome outcome', id ≠ id' → book id = some entry →
    book id' = some entry' → entry.kept = some outcome → entry'.kept = some outcome' →
      rules.distinct outcome outcome' ∨ rules.distinct outcome' outcome

omit [DecidableEq ι] in
theorem obeys_empty (rules : Rules ι τ ω) : Book.Obeys (fun _ => none) rules :=
  ⟨fun _ _ _ _ _ => nofun, fun _ _ _ => nofun, fun _ _ _ _ _ _ _ => nofun⟩

theorem Book.Obeys.enter (h : book.Obeys rules) {id : ι} {terms : τ}
    (hapart : ∀ other entry, book other = some entry → rules.apart entry.terms terms) :
    (book.enter id terms).Obeys rules := by
  have hnew : ∀ entry, book.enter id terms id = some entry → entry = ⟨terms, none⟩ := fun entry hentry =>
    (Option.some.inj ((book.enter_self terms).symm.trans hentry)).symm
  have hold : ∀ other entry, other ≠ id → book.enter id terms other = some entry →
      book other = some entry := fun other entry hne hentry =>
    (book.enter_of_ne terms hne).symm.trans hentry
  refine ⟨?_, ?_, ?_⟩
  · intro one other entry entry' hne hentry hentry'
    by_cases hone : one = id
    · subst hone
      obtain rfl := hnew entry hentry
      exact .inr (hapart other entry' (hold other entry' hne.symm hentry'))
    · by_cases hother : other = id
      · subst hother
        obtain rfl := hnew entry' hentry'
        exact .inl (hapart one entry (hold one entry hone hentry))
      · exact h.apart one other entry entry' hne (hold _ _ hone hentry) (hold _ _ hother hentry')
  · intro one entry outcome hentry hkept
    by_cases hone : one = id
    · subst hone
      obtain rfl := hnew entry hentry
      cases hkept
    · exact h.due one entry outcome (hold _ _ hone hentry) hkept
  · intro one other entry entry' outcome outcome' hne hentry hentry' hkept hkept'
    by_cases hone : one = id
    · subst hone
      obtain rfl := hnew entry hentry
      cases hkept
    · by_cases hother : other = id
      · subst hother
        obtain rfl := hnew entry' hentry'
        cases hkept'
      · exact h.distinct one other entry entry' outcome outcome' hne (hold _ _ hone hentry)
          (hold _ _ hother hentry') hkept hkept'

theorem Book.Obeys.keep (h : book.Obeys rules) {id : ι} {terms : τ} {outcome : ω}
    (hentered : book id = some ⟨terms, none⟩) (hdue : rules.due id terms outcome)
    (hdistinct : ∀ other entry kept, book other = some entry → entry.kept = some kept →
      rules.distinct kept outcome) : (book.keep id terms outcome).Obeys rules := by
  have hnew : ∀ entry, book.keep id terms outcome id = some entry → entry = ⟨terms, some outcome⟩ :=
    fun entry hentry => (Option.some.inj ((book.keep_self terms outcome).symm.trans hentry)).symm
  have hold : ∀ other entry, other ≠ id → book.keep id terms outcome other = some entry →
      book other = some entry := fun other entry hne hentry =>
    (book.keep_of_ne terms outcome hne).symm.trans hentry
  -- the terms of an entry are those that it had
  have hterms : ∀ other entry, book.keep id terms outcome other = some entry →
      ∃ entry', book other = some entry' ∧ entry'.terms = entry.terms := by
    intro other entry hentry
    by_cases hsame : other = id
    · subst hsame
      obtain rfl := hnew entry hentry
      exact ⟨_, hentered, rfl⟩
    · exact ⟨entry, hold other entry hsame hentry, rfl⟩
  refine ⟨?_, ?_, ?_⟩
  · intro one other entry entry' hne hentry hentry'
    obtain ⟨before, hbefore, heq⟩ := hterms one entry hentry
    obtain ⟨before', hbefore', heq'⟩ := hterms other entry' hentry'
    rw [← heq, ← heq']
    exact h.apart one other before before' hne hbefore hbefore'
  · intro one entry kept hentry hkept
    by_cases hone : one = id
    · subst hone
      obtain rfl := hnew entry hentry
      obtain rfl := Option.some.inj hkept
      exact hdue
    · exact h.due one entry kept (hold _ _ hone hentry) hkept
  · intro one other entry entry' kept kept' hne hentry hentry' hkept hkept'
    by_cases hone : one = id
    · subst hone
      obtain rfl := hnew entry hentry
      obtain rfl := Option.some.inj hkept
      exact .inr (hdistinct other entry' kept' (hold _ _ hne.symm hentry') hkept')
    · by_cases hother : other = id
      · subst hother
        obtain rfl := hnew entry' hentry'
        obtain rfl := Option.some.inj hkept'
        exact .inl (hdistinct one entry kept (hold _ _ hone hentry) hkept)
      · exact h.distinct one other entry entry' kept kept' hne (hold _ _ hone hentry)
          (hold _ _ hother hentry') hkept hkept'

theorem Step.obeys (hstep : Step rules book book') (h : book.Obeys rules) : book'.Obeys rules := by
  cases hstep with
  | enter hfresh hapart => exact h.enter hapart
  | keep hentered hdue hdistinct => exact h.keep hentered hdue hdistinct

/-- A book that obeys the rules obeys them after any number of steps. -/
theorem Leads.obeys (hleads : Leads rules book book') (h : book.Obeys rules) : book'.Obeys rules := by
  induction hleads with
  | refl => exact h
  | tail _ hlast ih => exact hlast.obeys ih

end Steps

end PromiseBook
