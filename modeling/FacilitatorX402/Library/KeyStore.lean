import FacilitatorX402.Library.Program
import Mathlib.Data.Set.Insert

/-!
# A store of claim keys

The part of a key-value server used as a lock table: `SET key NX` and `DEL key`, each atomic. The
store keeps, for each present key, who put it there. No program can read that, the answers only say
whether a key was fresh; it is what makes "the key of another call" a statement about a state.

`Owned` is the invariant of callers that delete only what they hold. A caller that follows the
`claims` protocol keeps it at every command, and under it no two callers hold one key.
-/

namespace KeyStore

variable {K ι E : Type}

/-- What becomes of a command: carried out and answered, carried out but answered by an error, or
not carried out at all. -/
inductive Fate (E : Type) where
  | done
  | lost (error : E)
  | failed (error : E)
  deriving DecidableEq

namespace Fate

def applied : Fate E → Bool
  | done => true
  | lost _ => true
  | failed _ => false

def answer {α : Type} : Fate E → α → Except E α
  | done, value => .ok value
  | lost error, _ => .error error
  | failed error, _ => .error error

end Fate

/-- Whose command put a key into the store. -/
inductive Holder (ι : Type) where
  | earlier
  | call (who : ι)
  deriving DecidableEq

abbrev Store (K ι : Type) := K → Option (Holder ι)

inductive Op (K : Type) where
  | setNx (key : K)
  | del (key : K)
  deriving DecidableEq

/-- `SET NX` answers whether the key was fresh. -/
def Op.Ans : Op K → Type
  | .setNx _ => Bool
  | .del _ => Unit

def interface (K : Type) : Interact.Interface := ⟨Op K, Op.Ans⟩

section Exec

variable [DecidableEq K]

def Store.put (store : Store K ι) (key : K) (who : ι) : Store K ι :=
  Function.update store key (some (.call who))

def Store.erase (store : Store K ι) (key : K) : Store K ι :=
  Function.update store key none

def exec (who : ι) (store : Store K ι) : (op : Op K) → Fate E → Except E op.Ans × Store K ι
  | .setNx key, fate =>
      match store key with
      | some _ => (fate.answer false, store)
      | none => (fate.answer true, if fate.applied then store.put key who else store)
  | .del key, fate => (fate.answer (), if fate.applied then store.erase key else store)

theorem exec_done_isOk (who : ι) (store : Store K ι) (op : Op K) :
    (exec who store op (.done : Fate E)).1.isOk = true := by
  cases op with
  | setNx key =>
      simp only [exec]
      split <;> rfl
  | del key => rfl

@[simp]
theorem Store.put_self (store : Store K ι) (key : K) (who : ι) :
    store.put key who key = some (.call who) := by
  simp [Store.put]

theorem Store.put_of_ne (store : Store K ι) {key other : K} (hne : other ≠ key) (who : ι) :
    store.put key who other = store other := by
  simp [Store.put, hne]

@[simp]
theorem Store.erase_self (store : Store K ι) (key : K) : store.erase key key = none := by
  simp [Store.erase]

theorem Store.erase_of_ne (store : Store K ι) {key other : K} (hne : other ≠ key) :
    store.erase key other = store other := by
  simp [Store.erase, hne]

theorem Store.erase_put (store : Store K ι) {key : K} (habsent : store key = none) (who : ι) :
    (store.put key who).erase key = store := by
  rw [erase, put, Function.update_idem, ← habsent, Function.update_eq_self]

theorem Store.erase_put_comm (store : Store K ι) {key other : K} (hne : other ≠ key) (who : ι) :
    (store.put key who).erase other = (store.erase other).put key who :=
  Function.update_comm hne.symm _ _ _

theorem Store.put_comm (store : Store K ι) {key other : K} (hne : key ≠ other) (who who' : ι) :
    (store.put key who).put other who' = (store.put other who').put key who :=
  Function.update_comm hne _ _ _

theorem Store.erase_comm (store : Store K ι) {key other : K} (hne : key ≠ other) :
    (store.erase key).erase other = (store.erase other).erase key :=
  Function.update_comm hne _ _ _

/-- What `SET NX` can do: find the key present and change nothing, or put it, with or without the
caller learning of it, or fail. -/
theorem exec_setNx_cases {who : ι} {store store' : Store K ι} {key : K} {fate : Fate E}
    {answer : Except E Bool} (h : exec who store (.setNx key) fate = (answer, store')) :
    (answer = .ok true ∧ store key = none ∧ store' = store.put key who) ∨
      (answer = .ok false ∧ store key ≠ none ∧ store' = store) ∨
      (∃ error, answer = .error error ∧
        (store' = store ∨ store key = none ∧ store' = store.put key who)) := by
  simp only [exec] at h
  split at h
  · rename_i holder hholder
    obtain ⟨hanswer, rfl⟩ := Prod.mk.inj h
    subst hanswer
    cases fate with
    | done => exact .inr (.inl ⟨rfl, by simp [hholder], rfl⟩)
    | lost error => exact .inr (.inr ⟨error, rfl, .inl rfl⟩)
    | failed error => exact .inr (.inr ⟨error, rfl, .inl rfl⟩)
  · rename_i hnone
    obtain ⟨hanswer, rfl⟩ := Prod.mk.inj h
    subst hanswer
    cases fate with
    | done => exact .inl ⟨rfl, hnone, rfl⟩
    | lost error => exact .inr (.inr ⟨error, rfl, .inr ⟨hnone, rfl⟩⟩)
    | failed error => exact .inr (.inr ⟨error, rfl, .inl rfl⟩)

/-- What `DEL` can do: erase the key, with or without the caller learning of it, or fail. -/
theorem exec_del_cases {who : ι} {store store' : Store K ι} {key : K} {fate : Fate E}
    {answer : Except E Unit} (h : exec who store (.del key) fate = (answer, store')) :
    store' = store.erase key ∨ (∃ error, answer = .error error) ∧ store' = store := by
  obtain ⟨hanswer, rfl⟩ := Prod.mk.inj h
  subst hanswer
  cases fate with
  | done => exact .inl rfl
  | lost error => exact .inl rfl
  | failed error => exact .inr ⟨⟨error, rfl⟩, rfl⟩

def Op.key : Op K → K
  | .setNx key => key
  | .del key => key

/-- A command meets only its own key: two stores that agree on it answer alike, and agree afterwards
wherever they did before. -/
theorem exec_agree (who : ι) {store store' : Store K ι} {op : Op K} (hkey : store' op.key = store op.key)
    (fate : Fate E) : (exec who store' op fate).1 = (exec who store op fate).1 ∧
      ∀ other, store' other = store other →
        (exec who store' op fate).2 other = (exec who store op fate).2 other := by
  cases op with
  | setNx key =>
      change store' key = store key at hkey
      simp only [exec, hkey]
      cases store key with
      | some holder => exact ⟨rfl, fun _ => id⟩
      | none =>
          refine ⟨rfl, fun other hother => ?_⟩
          cases fate.applied with
          | false => exact hother
          | true =>
              by_cases heq : other = key
              · simp [heq]
              · simp [Store.put_of_ne _ heq, hother]
  | del key =>
      refine ⟨rfl, fun other hother => ?_⟩
      simp only [exec]
      cases fate.applied with
      | false => exact hother
      | true =>
          by_cases heq : other = key
          · simp [heq]
          · simp [Store.erase_of_ne _ heq, hother]

end Exec

/-! ### Ownership -/

/-- Every key a call holds is in the store, put there by that call. -/
def Owned (store : Store K ι) (held : ι → Set K) : Prop :=
  ∀ who, ∀ key ∈ held who, store key = some (.call who)

theorem Owned.eq_of_mem {store : Store K ι} {held : ι → Set K} (h : Owned store held) {key : K}
    {who other : ι} (hwho : key ∈ held who) (hother : key ∈ held other) : who = other := by
  have heq : some (Holder.call who) = some (Holder.call other) :=
    (h who key hwho).symm.trans (h other key hother)
  exact Holder.call.inj (Option.some.inj heq)

/-- The keys held after a command: a fresh `SET NX` adds its key, a `DEL` gives it up however it
ends. -/
def claimed (held : Set K) : (op : Op K) → Except E op.Ans → Set K
  | .setNx key, answer =>
      match answer with
      | .ok true => insert key held
      | _ => held
  | .del key, _ => held \ {key}

@[simp]
theorem claimed_setNx_true (held : Set K) (key : K) :
    claimed held (.setNx key) (.ok true : Except E Bool) = insert key held := rfl

@[simp]
theorem claimed_setNx_false (held : Set K) (key : K) :
    claimed held (.setNx key) (.ok false : Except E Bool) = held := rfl

@[simp]
theorem claimed_setNx_error (held : Set K) (key : K) (error : E) :
    claimed held (.setNx key) (.error error : Except E Bool) = held := rfl

@[simp]
theorem claimed_del (held : Set K) (key : K) (answer : Except E Unit) :
    claimed held (.del key) answer = held \ {key} := rfl

/-- The discipline of a caller that deletes only what it holds. -/
def claims (K E : Type) : Interact.Protocol (interface K) E (Set K) where
  allowed held
    | .setNx _ => True
    | .del key => key ∈ held
  trans held op answer held' := held' = claimed held op answer

section Commands

variable [DecidableEq K]

theorem Owned.put {store : Store K ι} {held : ι → Set K} (h : Owned store held) {key : K}
    (habsent : store key = none) (who : ι) : Owned (store.put key who) held := by
  intro other key' hmem
  have hne : key' ≠ key := by
    rintro rfl
    rw [h other key' hmem] at habsent
    cases habsent
  rw [Store.put_of_ne _ hne]
  exact h other key' hmem

theorem Owned.put_insert [DecidableEq ι] {store : Store K ι} {held : ι → Set K} (h : Owned store held) {key : K}
    (habsent : store key = none) (who : ι) :
    Owned (store.put key who) (Function.update held who (insert key (held who))) := by
  intro other key' hmem
  by_cases hkey : key' = key
  · subst hkey
    rw [Store.put_self]
    by_cases heq : other = who
    · rw [heq]
    · rw [Function.update_of_ne heq] at hmem
      rw [h other key' hmem] at habsent
      cases habsent
  · refine (h.put habsent who) other key' ?_
    by_cases heq : other = who
    · subst heq
      rw [Function.update_self] at hmem
      exact hmem.resolve_left hkey
    · rwa [Function.update_of_ne heq] at hmem

omit [DecidableEq K] in
theorem Owned.mono {store : Store K ι} {held held' : ι → Set K} (h : Owned store held)
    (hsub : ∀ who, held' who ⊆ held who) : Owned store held' :=
  fun who key hmem => h who key (hsub who hmem)

theorem Owned.erase {store : Store K ι} {held : ι → Set K} (h : Owned store held) {key : K}
    (habsent : ∀ who, key ∉ held who) : Owned (store.erase key) held := by
  intro who key' hmem
  have hne : key' ≠ key := by
    rintro rfl
    exact habsent who hmem
  rw [Store.erase_of_ne _ hne]
  exact h who key' hmem

/-- A command of a disciplined caller keeps every claim in place. -/
theorem Owned.exec [DecidableEq ι] {store store' : Store K ι} {held : ι → Set K} (h : Owned store held) {who : ι}
    {op : Op K} {fate : Fate E} {answer : Except E op.Ans}
    (hallowed : (claims K E).allowed (held who) op)
    (hexec : exec who store op fate = (answer, store')) :
    Owned store' (Function.update held who (claimed (held who) op answer)) := by
  cases op with
  | setNx key =>
      rcases exec_setNx_cases hexec with ⟨rfl, habsent, rfl⟩ | ⟨rfl, -, rfl⟩ | ⟨error, rfl, hstore⟩
      · exact h.put_insert habsent who
      · rwa [claimed_setNx_false, Function.update_eq_self]
      · rw [claimed_setNx_error, Function.update_eq_self]
        rcases hstore with rfl | ⟨habsent, rfl⟩
        · exact h
        · exact h.put habsent who
  | del key =>
      have hsub : ∀ other, Function.update held who (held who \ {key}) other ⊆ held other := by
        intro other
        by_cases heq : other = who
        · subst heq
          rw [Function.update_self]
          exact fun _ hmem => hmem.1
        · rw [Function.update_of_ne heq]
      rcases exec_del_cases hexec with rfl | ⟨-, rfl⟩
      · refine (h.mono hsub).erase fun other hmem => ?_
        by_cases heq : other = who
        · subst heq
          rw [Function.update_self] at hmem
          exact hmem.2 rfl
        · rw [Function.update_of_ne heq] at hmem
          exact heq (h.eq_of_mem hmem hallowed)
      · exact h.mono hsub

end Commands

end KeyStore
