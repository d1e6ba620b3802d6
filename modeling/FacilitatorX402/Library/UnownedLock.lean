import FacilitatorX402.Library.KeyStore

/-!
# Locks that do not know their owner

A lock is a key: whoever finds it fresh holds it, and anyone can delete it. A holder that deletes it
and will delete it once more is leaving, and its second deletion can hit the next holder. `Exclusive`
is mutual exclusion of all who hold or leave a lock; it survives every command, provided no one takes
a lock that another is still leaving.
-/

namespace KeyStore

variable {K ι E : Type}

/-- Where a caller stands towards its lock. -/
inductive Stance where
  | outside
  | holding
  | leaving
  deriving DecidableEq

/-- A held lock is in the store under its holder's name, and no two callers hold or leave one lock. -/
structure Exclusive (store : Store K ι) (lock : ι → K) (stance : ι → Stance) : Prop where
  held : ∀ who, stance who = .holding → store (lock who) = some (.call who)
  alone : ∀ who other, stance who ≠ .outside → stance other ≠ .outside → lock who = lock other →
    who = other

namespace Exclusive

variable [DecidableEq ι] {store store' : Store K ι} {lock : ι → K} {stance : ι → Stance}

omit [DecidableEq ι] in
theorem start (hout : ∀ who, stance who = .outside) : Exclusive store lock stance where
  held who hholding := by
    rw [hout who] at hholding
    cases hholding
  alone who other hwho := absurd (hout who) hwho

/-- A caller moves without touching the store: it holds only what it held, and enters nothing. -/
theorem move (h : Exclusive store lock stance) {who : ι} {after : Stance}
    (hheld : after = .holding → stance who = .holding)
    (hinside : after ≠ .outside → stance who ≠ .outside) :
    Exclusive store lock (Function.update stance who after) where
  held other hholding := by
    by_cases heq : other = who
    · subst heq
      rw [Function.update_self] at hholding
      exact h.held other (hheld hholding)
    · rw [Function.update_of_ne heq] at hholding
      exact h.held other hholding
  alone := by
    have hwas : ∀ other, Function.update stance who after other ≠ .outside →
        stance other ≠ .outside := by
      intro other hother
      by_cases heq : other = who
      · subst heq
        rw [Function.update_self] at hother
        exact hinside hother
      · rwa [Function.update_of_ne heq] at hother
    exact fun one other hone hother => h.alone one other (hwas one hone) (hwas other hother)

section Commands

variable [DecidableEq K]

omit [DecidableEq ι] in
theorem put (h : Exclusive store lock stance) {key : K} (habsent : store key = none) (who : ι) :
    Exclusive (store.put key who) lock stance where
  held other hholding := by
    have hne : lock other ≠ key := by
      rintro rfl
      rw [h.held other hholding] at habsent
      cases habsent
    rw [Store.put_of_ne _ hne]
    exact h.held other hholding
  alone := h.alone

omit [DecidableEq ι] in
theorem setNx_missed (h : Exclusive store lock stance) {who : ι} {key : K} {fate : Fate E}
    {answer : Except E Bool} (hexec : exec who store (.setNx key) fate = (answer, store')) :
    Exclusive store' lock stance := by
  rcases exec_setNx_cases hexec with ⟨-, habsent, rfl⟩ | ⟨-, -, rfl⟩ | ⟨error, -, rfl | ⟨habsent, rfl⟩⟩
  · exact h.put habsent who
  · exact h
  · exact h
  · exact h.put habsent who

omit [DecidableEq ι] in
theorem del_other (h : Exclusive store lock stance) {who : ι} {key : K} {fate : Fate E}
    {answer : Except E Unit} (hexec : exec who store (.del key) fate = (answer, store'))
    (hne : ∀ other, lock other ≠ key) : Exclusive store' lock stance where
  held other hholding := by
    rcases exec_del_cases hexec with rfl | ⟨-, rfl⟩
    · rw [Store.erase_of_ne _ (hne other)]
      exact h.held other hholding
    · exact h.held other hholding
  alone := h.alone

theorem acquire (h : Exclusive store lock stance) {who : ι} {fate : Fate E}
    (hexec : exec who store (.setNx (lock who)) fate = (.ok true, store'))
    (hleft : ∀ other, lock other = lock who → stance other ≠ .leaving) :
    Exclusive store' lock (Function.update stance who .holding) := by
  rcases exec_setNx_cases hexec with ⟨-, habsent, rfl⟩ | ⟨hanswer, -, -⟩ | ⟨error, hanswer, -⟩
  · have hothers : ∀ other, lock other = lock who → stance other = .outside := by
      intro other hlock
      cases hstance : stance other with
      | outside => rfl
      | holding =>
          rw [← hlock, h.held other hstance] at habsent
          cases habsent
      | leaving => exact absurd hstance (hleft other hlock)
    refine ⟨fun other hholding => ?_, fun one other hone hother hlock => ?_⟩
    · by_cases heq : other = who
      · subst heq
        exact Store.put_self _ _ _
      · rw [Function.update_of_ne heq] at hholding
        exact (h.put habsent who).held other hholding
    · by_cases heq : one = who
      · subst heq
        by_contra hne
        rw [Function.update_of_ne (Ne.symm hne)] at hother
        exact hother (hothers other hlock.symm)
      · rw [Function.update_of_ne heq] at hone
        by_cases heq' : other = who
        · subst heq'
          exact absurd (hothers one hlock) hone
        · rw [Function.update_of_ne heq'] at hother
          exact h.alone one other hone hother hlock
  · cases hanswer
  · cases hanswer

theorem release (h : Exclusive store lock stance) {who : ι} (hinside : stance who ≠ .outside)
    {fate : Fate E} {answer : Except E Unit}
    (hexec : exec who store (.del (lock who)) fate = (answer, store')) {after : Stance}
    (hafter : after ≠ .holding) : Exclusive store' lock (Function.update stance who after) := by
  have halone : ∀ one other, Function.update stance who after one ≠ .outside →
      Function.update stance who after other ≠ .outside → lock one = lock other → one = other := by
    have hwas : ∀ other, Function.update stance who after other ≠ .outside →
        stance other ≠ .outside := by
      intro other hother
      by_cases heq : other = who
      · rwa [heq]
      · rwa [Function.update_of_ne heq] at hother
    exact fun one other hone hother => h.alone one other (hwas one hone) (hwas other hother)
  have hothers : ∀ other, Function.update stance who after other = .holding →
      stance other = .holding ∧ lock other ≠ lock who := by
    intro other hother
    have hne : other ≠ who := by
      rintro rfl
      rw [Function.update_self] at hother
      exact hafter hother
    rw [Function.update_of_ne hne] at hother
    refine ⟨hother, fun hlock => hne (h.alone other who ?_ hinside hlock)⟩
    rw [hother]
    decide
  rcases exec_del_cases hexec with rfl | ⟨-, rfl⟩
  · refine ⟨fun other hholding => ?_, halone⟩
    obtain ⟨hholding, hne⟩ := hothers other hholding
    rw [Store.erase_of_ne _ hne]
    exact h.held other hholding
  · exact ⟨fun other hholding => h.held other (hothers other hholding).1, halone⟩

end Commands

end Exclusive

end KeyStore
