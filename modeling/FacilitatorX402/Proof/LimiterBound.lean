import FacilitatorX402.Infrastructure.SellerRateLimit
import Mathlib.Tactic.Linarith

/-!
# How many requests the limiter admits

A counter lives at least for the window, so that three of its lifetimes never meet one window, however
late the expiry of each was set.
-/

namespace FacilitatorX402

open Requests

/-- The window in milliseconds. -/
def SellerRateLimitHook.window (hook : SellerRateLimitHook) : Int := 1000 * hook.windowSec

/-- The hook lets a request pass only up to its limit. -/
theorem SellerRateLimitHook.le_limit_of_finish {hook : SellerRateLimitHook} {current : Nat} {now : Int}
    {headers : Option RateLimitHeaders} (h : hook.finish current now = .pass headers) :
    current ≤ hook.limit := by
  unfold finish at h
  simp only at h
  split at h
  · cases h
  · omega

/-- What is counted, the newest first. -/
def countedIn (log : Log HookMove HookReply) : List Counted := log.filterMap (·.reply.counted)

/-- A counted call, with the answer it has been given. -/
structure CountedCall where
  who : Nat
  counted : Counted
  answer : Option HookAnswer
  deriving DecidableEq

def CountedCall.admitted (call : CountedCall) : Bool :=
  match call.answer with
  | some (.pass _) => true
  | _ => false

theorem CountedCall.exists_of_admitted {call : CountedCall} (h : call.admitted = true) :
    ∃ headers, call.answer = some (.pass headers) := by
  unfold admitted at h
  split at h
  · exact ⟨_, ‹_›⟩
  · cases h

/-- The newest call of `who` that waits for an answer is given this one. -/
def give (who : Nat) (answer : HookAnswer) : List CountedCall → List CountedCall
  | [] => []
  | call :: calls =>
      if call.who = who ∧ call.answer = none then { call with answer := some answer } :: calls
      else call :: give who answer calls

/-- The counted calls, the newest first. An INCR may answer its call, or leave that to the EXPIRE. -/
def callsIn : Log HookMove HookReply → List CountedCall
  | [] => []
  | ⟨.incr who _ _ _, reply⟩ :: log =>
      match reply.counted with
      | some counted => ⟨who, counted, reply.answer⟩ :: callsIn log
      | none => callsIn log
  | ⟨.expire who _ _, reply⟩ :: log =>
      match reply.answer with
      | some answer => give who answer (callsIn log)
      | none => callsIn log

/-- One counter, counted later and earlier. -/
structure Later (window : Int) (later earlier : Counted) : Prop where
  lifetimes : earlier.lifetime ≤ later.lifetime
  values : earlier.lifetime = later.lifetime → earlier.value < later.value
  apart : earlier.lifetime + 2 ≤ later.lifetime → earlier.time + window < later.time

namespace LimitCounters

/-- A request that has been counted, as the counters stand. -/
structure Dated (counters : LimitCounters) (window now : Int) (counted : Counted) : Prop where
  value_pos : 1 ≤ counted.value
  lifetime_pos : 1 ≤ counted.lifetime
  past : counted.time ≤ now
  lifetime_le : counted.lifetime ≤ counters.lifetimes counted.key
  earlier : counted.lifetime < counters.lifetimes counted.key → counted.time < counters.madeAt counted.key
  muchEarlier : counted.lifetime + 1 < counters.lifetimes counted.key →
    counted.time + window < counters.madeAt counted.key
  current : counted.lifetime = counters.lifetimes counted.key →
    ∀ counter ∈ counters.stored counted.key, counted.value ≤ counter.value ∧
      ∀ expiresAt ∈ counter.expiresAt, counted.time < expiresAt

/-- A counter of the store lives at least for the window. -/
structure Lives (counters : LimitCounters) (window now : Int) (key : String) : Prop where
  stored : counters.lifetimes key ≠ 0 ↔ counters.stored key ≠ none
  past : counters.madeAt key ≤ now
  window : ∀ counter ∈ counters.stored key, ∀ expiresAt ∈ counter.expiresAt,
    counters.madeAt key + window ≤ expiresAt

variable {counters : LimitCounters} {key : String} {now : Int}

theorem stored_of_find {counter : LimitCounter} (h : counters.find now key = some counter) :
    counters.stored key = some counter ∧ ∀ expiresAt ∈ counter.expiresAt, now < expiresAt := by
  rw [find, Option.filter_eq_some_iff] at h
  refine ⟨h.1, fun expiresAt hexpires => ?_⟩
  have hlive := h.2
  rw [hexpires] at hlive
  exact of_decide_eq_true hlive

theorem expired_of_not_find {counter : LimitCounter} (h : counters.find now key = none)
    (hstored : counters.stored key = some counter) : ∃ expiresAt ∈ counter.expiresAt, expiresAt ≤ now := by
  cases hexpires : counter.expiresAt with
  | none =>
      rw [find_of_stored hstored (by simp [hexpires])] at h
      cases h
  | some expiresAt =>
      refine ⟨expiresAt, rfl, Int.not_lt.mp fun hlive => ?_⟩
      have hfind : counters.find now key = some counter := by
        refine find_of_stored hstored fun other hother => ?_
        rw [hexpires] at hother
        cases hother
        exact hlive
      rw [hfind] at h
      cases h

section Incr

variable {window before : Int} {counted : Counted}

theorem Lives.incr {other : String} (h : counters.Lives window before other) (hnow : before ≤ now) :
    (counters.incr key now).2.Lives window now other := by
  by_cases hkey : other = key
  · subst hkey
    unfold LimitCounters.incr
    cases hfind : counters.find now other with
    | some counter =>
        obtain ⟨hstored, -⟩ := stored_of_find hfind
        have hmade := h.stored.mpr (by simp [hstored])
        refine ⟨iff_of_true hmade (by simp), h.past.trans hnow, fun counter' hcounter' => ?_⟩
        simp only [Function.update_self, Option.mem_some_iff] at hcounter'
        subst hcounter'
        exact h.window counter hstored
    | none =>
        refine ⟨iff_of_true (by simp) (by simp), by simp, fun counter' hcounter' => ?_⟩
        simp only [Function.update_self, Option.mem_some_iff] at hcounter'
        subst hcounter'
        simp
  · unfold LimitCounters.incr
    cases hfind : counters.find now key with
    | some counter =>
        exact ⟨by simpa [hkey] using h.stored, h.past.trans hnow, by simpa [hkey] using h.window⟩
    | none =>
        refine ⟨by simpa [hkey] using h.stored, ?_, by simpa [hkey] using h.window⟩
        simpa [hkey] using h.past.trans hnow

/-- An expired counter was made a window ago, after everything that an earlier one had counted. -/
theorem Dated.of_not_find (h : counters.Dated window before counted)
    (hlives : counters.Lives window before counted.key) (hnow : before ≤ now)
    (hfind : counters.find now counted.key = none) :
    counted.time < now ∧
      (counted.lifetime < counters.lifetimes counted.key → counted.time + window < now) := by
  have hmade : counters.lifetimes counted.key ≠ 0 := by
    have hpos := h.lifetime_pos
    have hle := h.lifetime_le
    omega
  obtain ⟨counter, hstored⟩ := Option.ne_none_iff_exists'.mp (hlives.stored.mp hmade)
  obtain ⟨expiresAt, hexpires, hexpired⟩ := expired_of_not_find hfind hstored
  have hwindow := hlives.window counter hstored expiresAt hexpires
  constructor
  · rcases Nat.lt_or_eq_of_le h.lifetime_le with hearlier | hcurrent
    · have hnext := h.earlier hearlier
      have hmadeAt := hlives.past
      omega
    · have hbefore := (h.current hcurrent counter hstored).2 expiresAt hexpires
      omega
  · intro hearlier
    have hnext := h.earlier hearlier
    omega

theorem Dated.incr (h : counters.Dated window before counted)
    (hlives : counters.Lives window before counted.key) (hnow : before ≤ now) :
    (counters.incr key now).2.Dated window now counted := by
  by_cases hkey : counted.key = key
  · subst hkey
    unfold LimitCounters.incr
    cases hfind : counters.find now counted.key with
    | some counter =>
        obtain ⟨hstored, -⟩ := stored_of_find hfind
        refine ⟨h.value_pos, h.lifetime_pos, h.past.trans hnow, h.lifetime_le, h.earlier,
          h.muchEarlier, fun hcurrent counter' hcounter' => ?_⟩
        simp only [Function.update_self, Option.mem_some_iff] at hcounter'
        subst hcounter'
        obtain ⟨hvalue, htime⟩ := h.current hcurrent counter hstored
        exact ⟨Nat.le_succ_of_le hvalue, htime⟩
    | none =>
        obtain ⟨hpast, hlong⟩ := h.of_not_find hlives hnow hfind
        have hle := h.lifetime_le
        refine ⟨h.value_pos, h.lifetime_pos, h.past.trans hnow, ?_, ?_, ?_, ?_⟩
        · simp only [Function.update_self]
          omega
        · simpa using fun _ => hpast
        · simp only [Function.update_self]
          intro hearlier
          exact hlong (by omega)
        · simp only [Function.update_self]
          intro hcurrent
          omega
  · have hfields : (counters.incr key now).2.lifetimes counted.key = counters.lifetimes counted.key ∧
        (counters.incr key now).2.madeAt counted.key = counters.madeAt counted.key ∧
        (counters.incr key now).2.stored counted.key = counters.stored counted.key := by
      unfold LimitCounters.incr
      cases counters.find now key <;> simp [hkey]
    obtain ⟨hlifetimes, hmadeAt, hstored⟩ := hfields
    refine ⟨h.value_pos, h.lifetime_pos, h.past.trans hnow, ?_, ?_, ?_, ?_⟩
    · rw [hlifetimes]
      exact h.lifetime_le
    · rw [hlifetimes, hmadeAt]
      exact h.earlier
    · rw [hlifetimes, hmadeAt]
      exact h.muchEarlier
    · rw [hlifetimes, hstored]
      exact h.current

theorem dated_incr (hlives : counters.Lives window before key) :
    (counters.incr key now).2.Dated window now (counters.incr key now).1 := by
  unfold LimitCounters.incr
  cases hfind : counters.find now key with
  | some counter =>
      obtain ⟨hstored, hlive⟩ := stored_of_find hfind
      have hmade := hlives.stored.mpr (by simp [hstored])
      refine ⟨Nat.le_add_left 1 _, Nat.one_le_iff_ne_zero.mpr hmade, le_refl _, le_refl _,
        fun hearlier => absurd hearlier (lt_irrefl _), fun hearlier => ?_, fun _ counter' hcounter' => ?_⟩
      · simp only at hearlier
        omega
      · simp only [Function.update_self, Option.mem_some_iff] at hcounter'
        subst hcounter'
        exact ⟨le_refl _, hlive⟩
  | none =>
      refine ⟨le_refl _, Nat.le_add_left 1 _, le_refl _, by simp, by simp, ?_, ?_⟩
      · simp only [Function.update_self]
        intro hearlier
        omega
      · simp

theorem later_incr (h : counters.Dated window before counted)
    (hlives : counters.Lives window before counted.key) (hnow : before ≤ now)
    (hkey : counted.key = key) : Later window (counters.incr key now).1 counted := by
  subst hkey
  unfold LimitCounters.incr
  cases hfind : counters.find now counted.key with
  | some counter =>
      obtain ⟨hstored, -⟩ := stored_of_find hfind
      refine ⟨h.lifetime_le, fun hcurrent => ?_, fun happart => ?_⟩
      · exact Nat.lt_succ_of_le (h.current hcurrent counter hstored).1
      · have hmuch := h.muchEarlier (by simp only at happart; omega)
        have hmade := hlives.past
        simp only
        omega
  | none =>
      obtain ⟨hpast, hlong⟩ := h.of_not_find hlives hnow hfind
      have hle := h.lifetime_le
      refine ⟨Nat.le_succ_of_le hle, fun hcurrent => ?_, fun happart => ?_⟩
      · simp only at hcurrent
        omega
      · simp only at happart ⊢
        exact hlong (by omega)

end Incr

theorem incr_key : (counters.incr key now).1.key = key := by
  unfold LimitCounters.incr
  cases counters.find now key <;> rfl

section Expire

variable {seconds : Nat} {before : Int} {counted : Counted}

theorem expire_lifetimes : (counters.expire key seconds now).lifetimes = counters.lifetimes ∧
    (counters.expire key seconds now).madeAt = counters.madeAt := by
  unfold LimitCounters.expire
  cases counters.find now key <;> exact ⟨rfl, rfl⟩

theorem Lives.wait {window : Int} (h : counters.Lives window before key) (hnow : before ≤ now) :
    counters.Lives window now key :=
  ⟨h.stored, h.past.trans hnow, h.window⟩

theorem Dated.wait {window : Int} (h : counters.Dated window before counted) (hnow : before ≤ now) :
    counters.Dated window now counted :=
  { h with past := h.past.trans hnow }

theorem Lives.expire {other : String} (h : counters.Lives (1000 * seconds) before other)
    (hnow : before ≤ now) :
    (counters.expire key seconds now).Lives (1000 * seconds) now other := by
  obtain ⟨hlifetimes, hmadeAt⟩ := @expire_lifetimes counters key now seconds
  cases hfind : counters.find now key with
  | none =>
      rw [expire_of_not_find hfind]
      exact h.wait hnow
  | some counter =>
      by_cases hkey : other = key
      · subst hkey
        have hstored := @expire_of_find _ _ _ seconds _ hfind
        have hmade := h.stored.mpr (by simp [(stored_of_find hfind).1])
        refine ⟨?_, ?_, fun counter' hcounter' expiresAt hexpires => ?_⟩
        · rw [hlifetimes, hstored]
          exact iff_of_true hmade (by simp)
        · rw [hmadeAt]
          exact h.past.trans hnow
        · rw [hstored] at hcounter'
          cases hcounter'
          cases hexpires
          rw [hmadeAt]
          have hpast := h.past
          omega
      · refine ⟨?_, ?_, ?_⟩
        · rw [hlifetimes, expire_stored hkey]
          exact h.stored
        · rw [hmadeAt]
          exact h.past.trans hnow
        · rw [hmadeAt, expire_stored hkey]
          exact h.window

theorem Dated.expire (h : counters.Dated (1000 * seconds) before counted) (hnow : before ≤ now)
    (hseconds : 1 ≤ seconds) :
    (counters.expire key seconds now).Dated (1000 * seconds) now counted := by
  obtain ⟨hlifetimes, hmadeAt⟩ := @expire_lifetimes counters key now seconds
  refine ⟨h.value_pos, h.lifetime_pos, h.past.trans hnow, ?_, ?_, ?_, ?_⟩
  · rw [hlifetimes]
    exact h.lifetime_le
  · rw [hlifetimes, hmadeAt]
    exact h.earlier
  · rw [hlifetimes, hmadeAt]
    exact h.muchEarlier
  · rw [hlifetimes]
    intro hcurrent
    by_cases hkey : counted.key = key
    · subst hkey
      cases hfind : counters.find now counted.key with
      | none =>
          rw [expire_of_not_find hfind]
          exact h.current hcurrent
      | some counter =>
          intro counter' hcounter'
          rw [expire_of_find hfind] at hcounter'
          cases hcounter'
          obtain ⟨hvalue, -⟩ := h.current hcurrent counter (stored_of_find hfind).1
          refine ⟨hvalue, fun expiresAt hexpires => ?_⟩
          cases hexpires
          have hpast := h.past
          omega
    · rw [expire_stored hkey]
      exact h.current hcurrent

end Expire

end LimitCounters

namespace SellerLimiter

open LimitCounters

variable {hook : SellerRateLimitHook} {limiter : SellerLimiter}

/-- Times do not decrease. -/
def InTime : Admits SellerLimiter HookMove HookReply := fun _ limiter move => limiter.now ≤ move.now

/-- Nothing fails. -/
def Reliable : Admits SellerLimiter HookMove HookReply := fun log limiter move =>
  InTime log limiter move ∧
    match move with
    | .incr _ _ _ fate => fate = .done
    | .expire _ _ fate => fate = .done

theorem incr_effect (hook : SellerRateLimitHook) (limiter : SellerLimiter) (who : Nat)
    (apiKey : Option String) (now : Int) (fate : CommandFate) :
    let served := limiter.incr hook who apiKey now fate
    served.2.now = now ∧
      ((served.1.counted = none ∧ served.2.counters = limiter.counters ∧
          served.2.phase = limiter.phase) ∨
        ∃ key, limiter.phase who = .idle ∧
          served.1.counted = some (limiter.counters.incr key now).1 ∧
          served.2.counters = (limiter.counters.incr key now).2 ∧
          ((served.2.phase = limiter.phase ∧
              (fate = .lost ∨ fate = .done ∧ (limiter.counters.incr key now).1.value ≠ 1)) ∨
            (served.2.phase = Function.update limiter.phase who (.expiring key) ∧
              fate = .done ∧ (limiter.counters.incr key now).1.value = 1))) := by
  simp only [incr]
  cases hphase : limiter.phase who with
  | expiring key => exact ⟨rfl, .inl ⟨rfl, rfl, rfl⟩⟩
  | idle =>
      cases hheader : apiKey.filter (!·.isEmpty) with
      | none => exact ⟨rfl, .inl ⟨rfl, rfl, rfl⟩⟩
      | some apiKey =>
          cases fate with
          | failed => exact ⟨rfl, .inl ⟨rfl, rfl, rfl⟩⟩
          | lost => exact ⟨rfl, .inr ⟨_, rfl, rfl, rfl, .inl ⟨rfl, .inl rfl⟩⟩⟩
          | done =>
              have hdone : ¬ CommandFate.done = .lost := by decide
              by_cases hmade : (limiter.counters.incr (hook.redisKey apiKey) now).1.value = 1
              · simp only [CommandFate.takesEffect, if_true, if_neg hdone, if_pos hmade]
                exact ⟨trivial, .inr ⟨_, trivial, rfl, rfl, .inr ⟨rfl, trivial, hmade⟩⟩⟩
              · simp only [CommandFate.takesEffect, if_true, if_neg hdone, if_neg hmade]
                exact ⟨trivial, .inr ⟨_, trivial, rfl, rfl, .inl ⟨trivial, .inr ⟨trivial, hmade⟩⟩⟩⟩

theorem expire_effect (hook : SellerRateLimitHook) (limiter : SellerLimiter) (who : Nat) (now : Int)
    (fate : CommandFate) :
    let served := limiter.expire hook who now fate
    (served.2.now = now ∧ served.1.counted = none) ∧
      ((served.1.answer = none ∧ served.2.counters = limiter.counters ∧
          served.2.phase = limiter.phase) ∨
        ∃ key, limiter.phase who = .expiring key ∧ served.1.answer ≠ none ∧
          served.2.phase = Function.update limiter.phase who .idle ∧
          ((fate = .failed ∧ served.2.counters = limiter.counters) ∨
            (fate ≠ .failed ∧
              served.2.counters = limiter.counters.expire key hook.windowSec now))) := by
  simp only [expire]
  cases hphase : limiter.phase who with
  | idle => exact ⟨⟨rfl, rfl⟩, .inl ⟨rfl, rfl, rfl⟩⟩
  | expiring key =>
      refine ⟨⟨rfl, rfl⟩, .inr ⟨key, rfl, Option.some_ne_none _, rfl, ?_⟩⟩
      cases fate with
      | done => exact .inr ⟨by decide, rfl⟩
      | lost => exact .inr ⟨by decide, rfl⟩
      | failed => exact .inl ⟨rfl, rfl⟩

/-- A move counts a request, sets an expiry or does neither. -/
theorem serve_cases (hook : SellerRateLimitHook) (limiter : SellerLimiter) (move : HookMove) :
    (serve hook limiter move).2.now = move.now ∧
      (((serve hook limiter move).1.counted = none ∧
          ((serve hook limiter move).2.counters = limiter.counters ∨
            ∃ key, (serve hook limiter move).2.counters =
              limiter.counters.expire key hook.windowSec move.now)) ∨
        ∃ key, (serve hook limiter move).1.counted = some (limiter.counters.incr key move.now).1 ∧
          (serve hook limiter move).2.counters = (limiter.counters.incr key move.now).2) := by
  cases move with
  | incr who apiKey now fate =>
      obtain ⟨hclock, ⟨hcounted, hcounters, -⟩ | ⟨key, -, hcounted, hcounters, -⟩⟩ :=
        incr_effect hook limiter who apiKey now fate
      · exact ⟨hclock, .inl ⟨hcounted, .inl hcounters⟩⟩
      · exact ⟨hclock, .inr ⟨key, hcounted, hcounters⟩⟩
  | expire who now fate =>
      obtain ⟨⟨hclock, hcounted⟩, ⟨-, hcounters, -⟩ |
        ⟨key, -, -, -, ⟨-, hcounters⟩ | ⟨-, hcounters⟩⟩⟩ := expire_effect hook limiter who now fate
      · exact ⟨hclock, .inl ⟨hcounted, .inl hcounters⟩⟩
      · exact ⟨hclock, .inl ⟨hcounted, .inl hcounters⟩⟩
      · exact ⟨hclock, .inl ⟨hcounted, .inr ⟨key, hcounters⟩⟩⟩

/-- What has been counted, in every state of a run. -/
structure Tracks (hook : SellerRateLimitHook) (log : Log HookMove HookReply)
    (limiter : SellerLimiter) : Prop where
  lives : ∀ key, limiter.counters.Lives hook.window limiter.now key
  dated : ∀ counted ∈ countedIn log, limiter.counters.Dated hook.window limiter.now counted
  pairs : (countedIn log).Pairwise fun later earlier =>
    later.key = earlier.key → Later hook.window later earlier

theorem Tracks.step {log : Log HookMove HookReply} (h : Tracks hook log limiter) {move : HookMove}
    (hnow : limiter.now ≤ move.now) :
    Tracks hook (⟨move, (serve hook limiter move).1⟩ :: log) (serve hook limiter move).2 := by
  obtain ⟨hclock, ⟨hnone, hcounters⟩ | ⟨key, hcounted, hcounters⟩⟩ := serve_cases hook limiter move
  · have hlog : countedIn (⟨move, (serve hook limiter move).1⟩ :: log) = countedIn log := by
      simp only [countedIn, List.filterMap_cons, hnone]
    refine ⟨?_, ?_, hlog ▸ h.pairs⟩
    · rw [hclock]
      rcases hcounters with hcounters | ⟨key, hcounters⟩
      · rw [hcounters]
        exact fun other => (h.lives other).wait hnow
      · rw [hcounters]
        exact fun other => (h.lives other).expire hnow
    · rw [hclock, hlog]
      rcases hcounters with hcounters | ⟨key, hcounters⟩
      · rw [hcounters]
        exact fun counted hmem => (h.dated counted hmem).wait hnow
      · rw [hcounters]
        exact fun counted hmem => (h.dated counted hmem).expire hnow hook.windowSec_pos
  · have hlog : countedIn (⟨move, (serve hook limiter move).1⟩ :: log) =
        (limiter.counters.incr key move.now).1 :: countedIn log := by
      simp only [countedIn, List.filterMap_cons, hcounted]
    refine ⟨?_, ?_, ?_⟩
    · rw [hclock, hcounters]
      exact fun other => (h.lives other).incr hnow
    · rw [hclock, hcounters, hlog]
      refine List.forall_mem_cons.mpr ⟨dated_incr (h.lives key), fun counted hmem => ?_⟩
      exact (h.dated counted hmem).incr (h.lives _) hnow
    · rw [hlog]
      refine List.pairwise_cons.mpr ⟨fun counted hmem hkey => ?_, h.pairs⟩
      have hsame : (limiter.counters.incr key move.now).1.key = key := incr_key
      exact later_incr (h.dated counted hmem) (h.lives _) hnow (hkey.symm.trans hsame)

theorem Tracks.empty : Tracks hook [] .empty where
  lives key := ⟨by simp [SellerLimiter.empty, LimitCounters.empty],
    by simp [SellerLimiter.empty, LimitCounters.empty],
    by simp [SellerLimiter.empty, LimitCounters.empty]⟩
  dated := by simp [countedIn]
  pairs := by simp [countedIn]

/-! ### Counting -/

/-- Falling values that are at least 1 are no more than the first of them. -/
theorem length_le_of_falling {values : List Nat} {most : Nat}
    (hfalling : values.Pairwise fun later earlier => earlier < later)
    (hrange : ∀ value ∈ values, 1 ≤ value ∧ value ≤ most) : values.length ≤ most := by
  induction values generalizing most with
  | nil => exact Nat.zero_le _
  | cons value values ih =>
      obtain ⟨hhead, hrest⟩ := List.pairwise_cons.mp hfalling
      obtain ⟨hpos, hmost⟩ := hrange value List.mem_cons_self
      have hlength := @ih (value - 1) hrest fun next hnext => by
        have hnext' := hrange next (List.mem_cons_of_mem _ hnext)
        have hless := hhead next hnext
        omega
      rw [List.length_cons]
      omega

theorem length_lifetime_le {requests : List Counted} {window : Int} {key : String} {lifetime most : Nat}
    (hpairs : requests.Pairwise fun later earlier => later.key = earlier.key →
      Later window later earlier)
    (hkey : ∀ counted ∈ requests, counted.key = key ∧ counted.lifetime = lifetime)
    (hrange : ∀ counted ∈ requests, 1 ≤ counted.value ∧ counted.value ≤ most) :
    requests.length ≤ most := by
  rw [← List.length_map (f := Counted.value)]
  refine length_le_of_falling (List.pairwise_map.mpr ?_) ?_
  · refine hpairs.imp_of_mem fun hlater hearlier hpair => ?_
    obtain ⟨hkey₁, hlifetime₁⟩ := hkey _ hlater
    obtain ⟨hkey₂, hlifetime₂⟩ := hkey _ hearlier
    exact (hpair (hkey₁.trans hkey₂.symm)).values (hlifetime₂.trans hlifetime₁.symm)
  · intro value hvalue
    obtain ⟨counted, hmem, rfl⟩ := List.mem_map.mp hvalue
    exact hrange counted hmem

/-- The admitted requests of a time shorter than the window. -/
theorem length_window_le {requests : List Counted} {window : Int} {key : String} {most : Nat}
    (hpairs : requests.Pairwise fun later earlier => later.key = earlier.key →
      Later window later earlier)
    (hkey : ∀ counted ∈ requests, counted.key = key)
    (hrange : ∀ counted ∈ requests, 1 ≤ counted.value ∧ counted.value ≤ most)
    (hclose : ∀ later ∈ requests, ∀ earlier ∈ requests, later.time ≤ earlier.time + window) :
    requests.length ≤ 2 * most := by
  cases requests with
  | nil => exact Nat.zero_le _
  | cons last rest =>
      -- a request of the last but one lifetime, or of an earlier one, is more than a window away
      have hlifetime : ∀ counted ∈ last :: rest,
          counted.lifetime = last.lifetime ∨ counted.lifetime = last.lifetime - 1 := by
        intro counted hmem
        rcases List.mem_cons.mp hmem with rfl | hrest
        · exact .inl rfl
        · have hlater := (List.pairwise_cons.mp hpairs).1 counted hrest
            ((hkey last List.mem_cons_self).trans (hkey counted hmem).symm)
          have hnear := hclose last List.mem_cons_self counted hmem
          have hle := hlater.lifetimes
          have happart := hlater.apart
          by_contra hnot
          have hfar := happart (by omega)
          omega
      have hfirst : ((last :: rest).filter (·.lifetime = last.lifetime)).length ≤ most := by
        refine @length_lifetime_le _ window key last.lifetime most (hpairs.filter _) ?_ ?_
        · intro counted hmem
          obtain ⟨hmem, hsame⟩ := List.mem_filter.mp hmem
          exact ⟨hkey counted hmem, of_decide_eq_true hsame⟩
        · exact fun counted hmem => hrange counted (List.mem_filter.mp hmem).1
      have hsecond : ((last :: rest).filter (fun counted => !decide (counted.lifetime = last.lifetime))).length
          ≤ most := by
        refine @length_lifetime_le _ window key (last.lifetime - 1) most (hpairs.filter _) ?_ ?_
        · intro counted hmem
          obtain ⟨hmem, hdiffers⟩ := List.mem_filter.mp hmem
          refine ⟨hkey counted hmem, (hlifetime counted hmem).resolve_left ?_⟩
          simpa using hdiffers
        · exact fun counted hmem => hrange counted (List.mem_filter.mp hmem).1
      calc (last :: rest).length
          = ((last :: rest).filter (·.lifetime = last.lifetime)).length +
              ((last :: rest).filter
                (fun counted => !decide (counted.lifetime = last.lifetime))).length :=
            List.length_eq_length_filter_add _
        _ ≤ most + most := Nat.add_le_add hfirst hsecond
        _ = 2 * most := (Nat.two_mul most).symm

/-! ### Answers -/

theorem map_counted_give {who : Nat} {answer : HookAnswer} {calls : List CountedCall} :
    (give who answer calls).map (·.counted) = calls.map (·.counted) := by
  induction calls with
  | nil => rfl
  | cons call calls ih =>
      rw [give]
      split
      · rfl
      · rw [List.map_cons, ih, List.map_cons]

theorem mem_give {who : Nat} {answer : HookAnswer} {calls : List CountedCall} {call : CountedCall}
    (h : call ∈ give who answer calls) :
    call ∈ calls ∨ ∃ old ∈ calls, old.answer = none ∧ call = { old with answer := some answer } := by
  induction calls with
  | nil => cases h
  | cons old calls ih =>
      rw [give] at h
      split at h
      · rename_i hwaits
        rcases List.mem_cons.mp h with rfl | hrest
        · exact .inr ⟨old, List.mem_cons_self, hwaits.2, rfl⟩
        · exact .inl (List.mem_cons_of_mem _ hrest)
      · rcases List.mem_cons.mp h with rfl | hrest
        · exact .inl List.mem_cons_self
        · rcases ih hrest with hold | ⟨waiting, hwaiting, hwaits⟩
          · exact .inl (List.mem_cons_of_mem _ hold)
          · exact .inr ⟨waiting, List.mem_cons_of_mem _ hwaiting, hwaits⟩

/-- An INCR answers the request that it counts by its value, or has made the counter. -/
theorem incr_answer (hook : SellerRateLimitHook) (limiter : SellerLimiter) (who : Nat)
    (apiKey : Option String) (now : Int) :
    let reply := (limiter.incr hook who apiKey now .done).1
    reply.counted = none ∨ ∃ counted, reply.counted = some counted ∧
      (reply.answer = none ∧ counted.value = 1 ∨
        reply.answer = some (hook.finish counted.value now)) := by
  simp only [incr]
  cases limiter.phase who with
  | expiring key => exact .inl rfl
  | idle =>
      cases apiKey.filter (!·.isEmpty) with
      | none => exact .inl rfl
      | some apiKey =>
          have hdone : ¬ CommandFate.done = .lost := by decide
          by_cases hmade : (limiter.counters.incr (hook.redisKey apiKey) now).1.value = 1
          · simp only [CommandFate.takesEffect, if_true, if_neg hdone, if_pos hmade]
            exact .inr ⟨_, rfl, .inl ⟨trivial, hmade⟩⟩
          · simp only [CommandFate.takesEffect, if_true, if_neg hdone, if_neg hmade]
            exact .inr ⟨_, rfl, .inr rfl⟩

/-- A call waits only if it has made its counter, and passes only with a value up to the limit. -/
structure Answers (hook : SellerRateLimitHook) (log : Log HookMove HookReply) : Prop where
  counted : (callsIn log).map (·.counted) = countedIn log
  waiting : ∀ call ∈ callsIn log, call.answer = none → call.counted.value = 1
  passed : ∀ call ∈ callsIn log, ∀ headers, call.answer = some (.pass headers) →
    call.counted.value ≤ hook.limit

theorem Answers.incr {log : Log HookMove HookReply} (h : Answers hook log) (who : Nat)
    (apiKey : Option String) (now : Int) :
    Answers hook
      (⟨.incr who apiKey now .done, (limiter.incr hook who apiKey now .done).1⟩ :: log) := by
  rcases incr_answer hook limiter who apiKey now with hnone | ⟨counted, hcounted, hanswer⟩
  · have hcalls : callsIn (⟨.incr who apiKey now .done,
        (limiter.incr hook who apiKey now .done).1⟩ :: log) = callsIn log := by
      simp only [callsIn, hnone]
    have hlog : countedIn (⟨.incr who apiKey now .done,
        (limiter.incr hook who apiKey now .done).1⟩ :: log) = countedIn log := by
      simp only [countedIn, List.filterMap_cons, hnone]
    exact ⟨by rw [hcalls, hlog, h.counted], hcalls ▸ h.waiting, hcalls ▸ h.passed⟩
  · have hcalls : callsIn (⟨.incr who apiKey now .done,
        (limiter.incr hook who apiKey now .done).1⟩ :: log) =
        ⟨who, counted, (limiter.incr hook who apiKey now .done).1.answer⟩ :: callsIn log := by
      simp only [callsIn, hcounted]
    have hlog : countedIn (⟨.incr who apiKey now .done,
        (limiter.incr hook who apiKey now .done).1⟩ :: log) = counted :: countedIn log := by
      simp only [countedIn, List.filterMap_cons, hcounted]
    refine ⟨?_, ?_, ?_⟩
    · rw [hcalls, hlog, List.map_cons, h.counted]
    · rw [hcalls]
      refine List.forall_mem_cons.mpr ⟨fun hnone => ?_, h.waiting⟩
      rcases hanswer with ⟨-, hmade⟩ | hfinish
      · exact hmade
      · exact absurd (hfinish.symm.trans hnone) (Option.some_ne_none _)
    · rw [hcalls]
      refine List.forall_mem_cons.mpr ⟨fun headers hpass => ?_, h.passed⟩
      rcases hanswer with ⟨hnone, -⟩ | hfinish
      · exact absurd (hpass.symm.trans hnone) (Option.some_ne_none _)
      · exact SellerRateLimitHook.le_limit_of_finish (Option.some.inj (hfinish.symm.trans hpass))

theorem Answers.expire {log : Log HookMove HookReply} (h : Answers hook log) (who : Nat) (now : Int) :
    Answers hook (⟨.expire who now .done, (limiter.expire hook who now .done).1⟩ :: log) := by
  have hlog : countedIn (⟨.expire who now .done, (limiter.expire hook who now .done).1⟩ :: log) =
      countedIn log := by
    simp only [countedIn, List.filterMap_cons, (expire_effect hook limiter who now .done).1.2]
  cases hanswer : (limiter.expire hook who now .done).1.answer with
  | none =>
      have hcalls : callsIn (⟨.expire who now .done,
          (limiter.expire hook who now .done).1⟩ :: log) = callsIn log := by
        simp only [callsIn, hanswer]
      exact ⟨by rw [hcalls, hlog, h.counted], hcalls ▸ h.waiting, hcalls ▸ h.passed⟩
  | some answer =>
      have hcalls : callsIn (⟨.expire who now .done, (limiter.expire hook who now .done).1⟩ :: log) =
          give who answer (callsIn log) := by
        simp only [callsIn, hanswer]
      refine ⟨by rw [hcalls, hlog, map_counted_give, h.counted], ?_, ?_⟩
      · rw [hcalls]
        intro call hcall hnone
        rcases mem_give hcall with hold | ⟨old, -, -, rfl⟩
        · exact h.waiting call hold hnone
        · exact absurd hnone (Option.some_ne_none _)
      · rw [hcalls]
        intro call hcall headers hpass
        rcases mem_give hcall with hold | ⟨old, hold, hwaits, rfl⟩
        · exact h.passed call hold headers hpass
        · exact (h.waiting old hold hwaits).trans_le hook.limit_pos

theorem Answers.step {log : Log HookMove HookReply} (h : Answers hook log) {move : HookMove}
    (hreliable : Reliable log limiter move) :
    Answers hook (⟨move, (serve hook limiter move).1⟩ :: log) := by
  obtain ⟨-, hdone⟩ := hreliable
  cases move with
  | incr who apiKey now fate =>
      obtain rfl : fate = .done := hdone
      exact h.incr who apiKey now
  | expire who now fate =>
      obtain rfl : fate = .done := hdone
      exact h.expire who now

theorem Answers.empty : Answers hook [] where
  counted := rfl
  waiting _ h := by cases h
  passed _ h := by cases h

/-- The calls of one counter that were let pass, of those that a test picks. -/
def admittedIn (log : Log HookMove HookReply) (key : String) (test : Counted → Bool) :
    List CountedCall :=
  (callsIn log).filter fun call => call.admitted && call.counted.key = key && test call.counted

/-- **The bound of the limiter.** When no command fails, each lifetime of a counter lets at most `limit`
requests pass, and each window, with either of its ends, twice as many. -/
theorem limiter_bound {log : Log HookMove HookReply} (hrun : Run (serve hook) Reliable empty log limiter)
    (key : String) :
    (∀ lifetime, (admittedIn log key (·.lifetime = lifetime)).length ≤ hook.limit) ∧
      ∀ start : Int,
        (admittedIn log key fun counted =>
            start ≤ counted.time && counted.time < start + hook.window).length ≤ 2 * hook.limit ∧
        (admittedIn log key fun counted =>
            start < counted.time && counted.time ≤ start + hook.window).length ≤ 2 * hook.limit := by
  have htracks : Tracks hook log limiter :=
    hrun.invariant .empty fun _ _ _ htracks hreliable => htracks.step hreliable.1
  have hanswers : Answers hook log := by
    apply hrun.invariant (I := fun log _ => Answers hook log) .empty
    exact fun _ _ _ hanswers hreliable => hanswers.step hreliable
  have hadmitted : ∀ test, ∀ counted ∈ (admittedIn log key test).map (·.counted),
      counted.key = key ∧ (1 ≤ counted.value ∧ counted.value ≤ hook.limit) ∧ test counted = true := by
    intro test counted hmem
    obtain ⟨call, hcall, rfl⟩ := List.mem_map.mp hmem
    obtain ⟨hcall, hall⟩ := List.mem_filter.mp hcall
    obtain ⟨hboth, htest⟩ := Bool.and_eq_true_iff.mp hall
    obtain ⟨hpassed, hkey⟩ := Bool.and_eq_true_iff.mp hboth
    obtain ⟨headers, hanswer⟩ := CountedCall.exists_of_admitted hpassed
    have hcounted : call.counted ∈ countedIn log := by
      rw [← hanswers.counted]
      exact List.mem_map_of_mem hcall
    exact ⟨of_decide_eq_true hkey, ⟨(htracks.dated _ hcounted).value_pos,
      hanswers.passed call hcall headers hanswer⟩, htest⟩
  have hpairs : ∀ test, ((admittedIn log key test).map (·.counted)).Pairwise fun later earlier =>
      later.key = earlier.key → Later hook.window later earlier := by
    intro test
    have hsublist : ((admittedIn log key test).map (·.counted)).Sublist (countedIn log) := by
      rw [← hanswers.counted]
      exact List.filter_sublist.map _
    exact List.Pairwise.sublist hsublist htracks.pairs
  refine ⟨fun lifetime => ?_, fun start => ⟨?_, ?_⟩⟩
  · rw [← List.length_map (f := CountedCall.counted)]
    refine @length_lifetime_le _ hook.window key lifetime _ (hpairs _) (fun counted hmem => ?_)
      fun counted hmem => (hadmitted _ counted hmem).2.1
    obtain ⟨hkey, -, htest⟩ := hadmitted _ counted hmem
    exact ⟨hkey, of_decide_eq_true htest⟩
  · rw [← List.length_map (f := CountedCall.counted)]
    refine length_window_le (hpairs _) (fun counted hmem => (hadmitted _ counted hmem).1)
      (fun counted hmem => (hadmitted _ counted hmem).2.1) fun later hlater earlier hearlier => ?_
    have hend := (hadmitted _ later hlater).2.2
    have hbegin := (hadmitted _ earlier hearlier).2.2
    simp only [Bool.and_eq_true, decide_eq_true_eq] at hend hbegin
    omega
  · rw [← List.length_map (f := CountedCall.counted)]
    refine length_window_le (hpairs _) (fun counted hmem => (hadmitted _ counted hmem).1)
      (fun counted hmem => (hadmitted _ counted hmem).2.1) fun later hlater earlier hearlier => ?_
    have hend := (hadmitted _ later hlater).2.2
    have hbegin := (hadmitted _ earlier hearlier).2.2
    simp only [Bool.and_eq_true, decide_eq_true_eq] at hend hbegin
    omega

/-- Three requests of /verify with one key, two of them before the EXPIRE of the first. -/
def lateExpire : List HookMove :=
  [.incr 2 (some "seller-1") 70000 .done, .expire 0 5000 .done, .incr 1 (some "seller-1") 20 .done,
    .incr 0 (some "seller-1") 10 .done]

/-- The first of them is let pass by its EXPIRE, and the last begins the second lifetime. -/
theorem limiter_bound_late :
    let log := (served (serve .verifyHook) empty lateExpire).1
    let admitted := admittedIn log "rl:seller:verify:seller1" (·.lifetime = 1)
    admitted.map (·.who) = [1, 0] ∧ admitted.length ≤ 60 := by
  have hreliable : Admitted (serve .verifyHook) Reliable empty lateExpire := by
    refine ⟨⟨⟨⟨trivial, ?_⟩, ?_⟩, ?_⟩, ?_⟩ <;> refine ⟨?_, rfl⟩ <;> change (_ : Int) ≤ _ <;> decide
  exact ⟨by decide, (limiter_bound (run_served hreliable) _).1 1⟩

/-- A call that nothing comes between is the hook. -/
theorem serve_alone {who : Nat} (hidle : limiter.phase who = .idle) (apiKey : Option String) (now : Int) :
    let whole := hook.sellerRateLimitHook limiter.counters apiKey now
    let first := limiter.incr hook who apiKey now .done
    let second := first.2.expire hook who now .done
    (first.1.answer = some whole.1 ∧ first.2.counters = whole.2) ∨
      (first.1.answer = none ∧ second.1.answer = some whole.1 ∧ second.2.counters = whole.2) := by
  unfold incr SellerRateLimitHook.sellerRateLimitHook
  simp only [hidle]
  cases apiKey.filter (!·.isEmpty) with
  | none => exact .inl ⟨rfl, rfl⟩
  | some apiKey =>
      simp only [CommandFate.takesEffect, if_true]
      by_cases hmade : (limiter.counters.incr (hook.redisKey apiKey) now).1.value = 1
      · refine .inr ?_
        simp [hmade, expire, CommandFate.takesEffect]
      · refine .inl ?_
        simp [hmade]

end SellerLimiter

end FacilitatorX402
