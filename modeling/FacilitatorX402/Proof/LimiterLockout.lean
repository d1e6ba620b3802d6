import FacilitatorX402.Proof.LimiterBound

/-!
# Counters that never expire

The call that has made a counter is the only one to send an EXPIRE for it. When the INCR is not answered,
or the EXPIRE does not take effect, the counter stays, and every later request of the key is counted in
it.
-/

namespace FacilitatorX402

open Requests

namespace SellerLimiter

open LimitCounters

variable {hook : SellerRateLimitHook} {limiter : SellerLimiter}

/-- Every counter that exists expires within the window. -/
def AllExpire (hook : SellerRateLimitHook) (limiter : SellerLimiter) : Prop :=
  ∀ key counter, limiter.counters.find limiter.now key = some counter →
    ∃ expiresAt ∈ counter.expiresAt, expiresAt ≤ limiter.now + hook.window

/-- An INCR that makes a counter and is not answered, or an EXPIRE without effect. -/
def Strands (x : Exchange HookMove HookReply) : Prop :=
  match x.request with
  | .incr _ _ _ fate => fate = .lost ∧ ∃ counted ∈ x.reply.counted, counted.value = 1
  | .expire _ _ fate => fate = .failed ∧ x.reply.answer ≠ none

/-- A counter without an expiry, and with no EXPIRE on its way. -/
def Stuck (limiter : SellerLimiter) (key : String) : Prop :=
  (∃ counter, limiter.counters.stored key = some counter ∧ counter.expiresAt = none) ∧
    ∀ who, limiter.phase who ≠ .expiring key

/-- An EXPIRE is on its way for a counter without an expiry, and it is the only one. -/
structure Sound (hook : SellerRateLimitHook) (limiter : SellerLimiter) : Prop where
  value_pos : ∀ key, ∀ counter ∈ limiter.counters.stored key, 1 ≤ counter.value
  bound : ∀ key, ∀ counter ∈ limiter.counters.stored key, ∀ expiresAt ∈ counter.expiresAt,
    expiresAt ≤ limiter.now + hook.window
  pending : ∀ who key, limiter.phase who = .expiring key →
    ∃ counter, limiter.counters.stored key = some counter ∧ counter.expiresAt = none
  unique : ∀ who who' key, limiter.phase who = .expiring key → limiter.phase who' = .expiring key →
    who = who'

theorem stuck_congr {limiter' : SellerLimiter} {key : String}
    (hstored : limiter'.counters.stored key = limiter.counters.stored key)
    (hphase : ∀ who, limiter'.phase who = .expiring key ↔ limiter.phase who = .expiring key) :
    limiter'.Stuck key ↔ limiter.Stuck key := by
  unfold Stuck
  rw [hstored]
  exact and_congr_right fun _ => forall_congr' fun who => not_congr (hphase who)

/-- The calls that expire a counter, when one call changes its phase. -/
theorem expiring_update {phase : Nat → HookPhase} {who : Nat} {old new : HookPhase} {key : String}
    (hold : phase who = old) (hneither : old ≠ .expiring key ∧ new ≠ .expiring key) (other : Nat) :
    Function.update phase who new other = .expiring key ↔ phase other = .expiring key := by
  by_cases hother : other = who
  · subst hother
    rw [Function.update_self, hold]
    exact iff_of_false hneither.2 hneither.1
  · rw [Function.update_of_ne hother]

/-- A counter that is made had not existed, and nobody was to expire it. -/
theorem Sound.not_expiring (h : limiter.Sound hook) {key : String} {now : Int}
    (hfind : limiter.counters.find now key = none) (who : Nat) : limiter.phase who ≠ .expiring key := by
  intro hexpiring
  obtain ⟨counter, hstored, hnone⟩ := h.pending who key hexpiring
  rw [find_of_stored hstored (by simp [hnone])] at hfind
  cases hfind

theorem stuck_incr (h : limiter.Sound hook) {who : Nat} {apiKey : Option String} {now : Int}
    {fate : CommandFate} :
    (∃ key, (limiter.incr hook who apiKey now fate).2.Stuck key) ↔
      (∃ key, limiter.Stuck key) ∨
        Strands ⟨.incr who apiKey now fate, (limiter.incr hook who apiKey now fate).1⟩ := by
  obtain ⟨-, ⟨hcounted, hcounters, hphase⟩ | ⟨key, hidle, hcounted, hcounters, hcases⟩⟩ :=
    incr_effect hook limiter who apiKey now fate
  · have hnot : ¬ Strands ⟨.incr who apiKey now fate, (limiter.incr hook who apiKey now fate).1⟩ := by
      rintro ⟨-, counted, hmem, -⟩
      simp only [hcounted] at hmem
      cases hmem
    rw [or_iff_left hnot]
    exact exists_congr fun other => stuck_congr (by rw [hcounters]) fun _ => by rw [hphase]
  · cases hfind : limiter.counters.find now key with
    | some counter =>
        -- the counter is there: its expiry stays as it is
        have hstored := (stored_of_find hfind).1
        obtain ⟨hvalue, hstored'⟩ := incr_of_find hfind
        have hpos := h.value_pos key counter hstored
        have hnot : ¬ Strands
            ⟨.incr who apiKey now fate, (limiter.incr hook who apiKey now fate).1⟩ := by
          rintro ⟨-, counted, hmem, hone⟩
          simp only [hcounted, Option.mem_some_iff] at hmem
          subst hmem
          omega
        have hphase : (limiter.incr hook who apiKey now fate).2.phase = limiter.phase := by
          rcases hcases with ⟨hphase, -⟩ | ⟨-, -, hone⟩
          · exact hphase
          · omega
        rw [or_iff_left hnot]
        refine exists_congr fun other => ?_
        by_cases hother : other = key
        · subst hother
          unfold Stuck
          rw [hcounters, hphase, hstored, hstored']
          simp
        · exact stuck_congr (by rw [hcounters, incr_stored hother]) fun _ => by rw [hphase]
    | none =>
        obtain ⟨hvalue, hstored'⟩ := incr_of_not_find hfind
        rcases hcases with ⟨hphase, hlost | ⟨-, hmore⟩⟩ | ⟨hphase, hdone, -⟩
        · -- nobody learns that the counter has been made
          refine iff_of_true ⟨key, ⟨_, hcounters ▸ hstored', rfl⟩, fun other => ?_⟩
            (.inr ⟨hlost, _, hcounted, hvalue⟩)
          rw [hphase]
          exact h.not_expiring hfind other
        · exact absurd hvalue hmore
        · have hnot : ¬ Strands
              ⟨.incr who apiKey now fate, (limiter.incr hook who apiKey now fate).1⟩ := by
            rintro ⟨hlost, -⟩
            rw [hdone] at hlost
            cases hlost
          rw [or_iff_left hnot]
          refine exists_congr fun other => ?_
          by_cases hother : other = key
          · subst hother
            refine iff_of_false (fun hstuck => ?_) fun hstuck => ?_
            · exact hstuck.2 who (by rw [hphase, Function.update_self])
            · obtain ⟨counter, hstored, hnone⟩ := hstuck.1
              rw [find_of_stored hstored (by simp [hnone])] at hfind
              cases hfind
          · refine stuck_congr (by rw [hcounters, incr_stored hother]) fun who' => ?_
            rw [hphase]
            exact expiring_update hidle ⟨by simp, by simpa using Ne.symm hother⟩ who'

theorem stuck_expire (h : limiter.Sound hook) {who : Nat} {now : Int} {fate : CommandFate} :
    (∃ key, (limiter.expire hook who now fate).2.Stuck key) ↔
      (∃ key, limiter.Stuck key) ∨
        Strands ⟨.expire who now fate, (limiter.expire hook who now fate).1⟩ := by
  obtain ⟨-, ⟨hanswer, hcounters, hphase⟩ |
    ⟨key, hexpiring, hanswer, hphase, ⟨hfailed, hcounters⟩ | ⟨htakes, hcounters⟩⟩⟩ :=
    expire_effect hook limiter who now fate
  · have hnot : ¬ Strands ⟨.expire who now fate, (limiter.expire hook who now fate).1⟩ :=
      fun hstrands => hstrands.2 hanswer
    rw [or_iff_left hnot]
    exact exists_congr fun other => stuck_congr (by rw [hcounters]) fun _ => by rw [hphase]
  · -- nobody else is to expire the counter
    refine iff_of_true ⟨key, ?_, fun other hother => ?_⟩ (.inr ⟨hfailed, hanswer⟩)
    · rw [hcounters]
      exact h.pending who key hexpiring
    · rw [hphase] at hother
      by_cases hsame : other = who
      · subst hsame
        rw [Function.update_self] at hother
        cases hother
      · rw [Function.update_of_ne hsame] at hother
        exact hsame (h.unique other who key hother hexpiring)
  · have hnot : ¬ Strands ⟨.expire who now fate, (limiter.expire hook who now fate).1⟩ :=
      fun hstrands => htakes hstrands.1
    rw [or_iff_left hnot]
    refine exists_congr fun other => ?_
    by_cases hother : other = key
    · subst hother
      obtain ⟨counter, hstored, hnone⟩ := h.pending who other hexpiring
      have hfind := @find_of_stored _ _ now _ hstored (by simp [hnone])
      refine iff_of_false (fun hstuck => ?_) fun hstuck => hstuck.2 who hexpiring
      obtain ⟨counter', hstored', hnone'⟩ := hstuck.1
      rw [hcounters, expire_of_find hfind] at hstored'
      cases hstored'
      cases hnone'
    · refine stuck_congr (by rw [hcounters, expire_stored hother]) fun who' => ?_
      rw [hphase]
      exact expiring_update hexpiring ⟨by simpa using Ne.symm hother, by simp⟩ who'

theorem window_nonneg : 0 ≤ hook.window := by
  unfold SellerRateLimitHook.window
  omega

/-- Counters of other keys, and no new EXPIRE. -/
theorem Sound.of_stored (h : limiter.Sound hook) {limiter' : SellerLimiter} {key : String}
    (hnow : limiter.now ≤ limiter'.now)
    (hothers : ∀ other ≠ key, limiter'.counters.stored other = limiter.counters.stored other)
    (hvalue : ∀ counter ∈ limiter'.counters.stored key, 1 ≤ counter.value)
    (hbound : ∀ counter ∈ limiter'.counters.stored key, ∀ expiresAt ∈ counter.expiresAt,
      expiresAt ≤ limiter'.now + hook.window)
    (hphase : ∀ who other, limiter'.phase who = .expiring other → other ≠ key →
      limiter.phase who = .expiring other)
    (hpending : ∀ who, limiter'.phase who = .expiring key →
      ∃ counter, limiter'.counters.stored key = some counter ∧ counter.expiresAt = none)
    (hunique : ∀ who who', limiter'.phase who = .expiring key → limiter'.phase who' = .expiring key →
      who = who') : limiter'.Sound hook := by
  refine ⟨fun other => ?_, fun other => ?_, fun who other hexpiring => ?_,
    fun who who' other hexpiring hexpiring' => ?_⟩
  · by_cases hother : other = key
    · exact hother ▸ hvalue
    · rw [hothers other hother]
      exact h.value_pos other
  · by_cases hother : other = key
    · exact hother ▸ hbound
    · rw [hothers other hother]
      intro counter hcounter expiresAt hexpires
      have hle := h.bound other counter hcounter expiresAt hexpires
      omega
  · by_cases hother : other = key
    · subst hother
      exact hpending who hexpiring
    · rw [hothers other hother]
      exact h.pending who other (hphase who other hexpiring hother)
  · by_cases hother : other = key
    · subst hother
      exact hunique who who' hexpiring hexpiring'
    · exact h.unique who who' other (hphase who other hexpiring hother)
        (hphase who' other hexpiring' hother)

theorem Sound.incr (h : limiter.Sound hook) {who : Nat} {apiKey : Option String} {now : Int}
    {fate : CommandFate} (hnow : limiter.now ≤ now) : (limiter.incr hook who apiKey now fate).2.Sound hook := by
  obtain ⟨hclock, ⟨-, hcounters, hphase⟩ | ⟨key, hidle, -, hcounters, hcases⟩⟩ :=
    incr_effect hook limiter who apiKey now fate
  · refine ⟨hcounters ▸ h.value_pos, ?_, by rw [hcounters, hphase]; exact h.pending,
      by rw [hphase]; exact h.unique⟩
    rw [hcounters, hclock]
    intro key counter hcounter expiresAt hexpires
    have hle := h.bound key counter hcounter expiresAt hexpires
    omega
  · cases hfind : limiter.counters.find now key with
    | some counter =>
        have hstored := (stored_of_find hfind).1
        obtain ⟨hvalue, hstored'⟩ := incr_of_find hfind
        have hpos := h.value_pos key counter hstored
        have hphase : (limiter.incr hook who apiKey now fate).2.phase = limiter.phase := by
          rcases hcases with ⟨hphase, -⟩ | ⟨-, -, hone⟩
          · exact hphase
          · omega
        refine @Sound.of_stored hook limiter h _ key (by rw [hclock]; exact hnow)
          (fun other hother => by rw [hcounters, incr_stored hother]) ?_ ?_ ?_ ?_ ?_
        · rw [hcounters, hstored']
          rintro counter' ⟨⟩
          exact Nat.le_succ_of_le hpos
        · rw [hcounters, hstored', hclock]
          rintro counter' ⟨⟩ expiresAt hexpires
          have hle := h.bound key counter hstored expiresAt hexpires
          omega
        · rw [hphase]
          exact fun _ _ hexpiring _ => hexpiring
        · rw [hphase, hcounters, hstored']
          intro other hexpiring
          obtain ⟨counter', hcounter', hnone⟩ := h.pending other key hexpiring
          rw [hstored] at hcounter'
          cases hcounter'
          exact ⟨_, rfl, hnone⟩
        · rw [hphase]
          exact fun _ _ => h.unique _ _ key
    | none =>
        obtain ⟨hvalue, hstored'⟩ := incr_of_not_find hfind
        refine @Sound.of_stored hook limiter h _ key (by rw [hclock]; exact hnow)
          (fun other hother => by rw [hcounters, incr_stored hother]) ?_ ?_ ?_ ?_ ?_
        · rw [hcounters, hstored']
          rintro counter' ⟨⟩
          exact le_refl 1
        · rw [hcounters, hstored']
          rintro counter' ⟨⟩ expiresAt hexpires
          cases hexpires
        · rcases hcases with ⟨hphase, -⟩ | ⟨hphase, -, -⟩
          · rw [hphase]
            exact fun _ _ hexpiring _ => hexpiring
          · rw [hphase]
            intro other key' hexpiring hkey
            refine (expiring_update hidle ⟨by simp, ?_⟩ other).mp hexpiring
            simpa using Ne.symm hkey
        · rw [hcounters, hstored']
          exact fun _ _ => ⟨_, rfl, rfl⟩
        · have honly : ∀ other, (limiter.incr hook who apiKey now fate).2.phase other = .expiring key →
              other = who := by
            intro other hexpiring
            by_contra hother
            refine h.not_expiring hfind other ?_
            rcases hcases with ⟨hphase, -⟩ | ⟨hphase, -, -⟩
            · rwa [hphase] at hexpiring
            · rwa [hphase, Function.update_of_ne hother] at hexpiring
          exact fun other other' hexpiring hexpiring' =>
            (honly other hexpiring).trans (honly other' hexpiring').symm

theorem Sound.expire (h : limiter.Sound hook) {who : Nat} {now : Int} {fate : CommandFate}
    (hnow : limiter.now ≤ now) : (limiter.expire hook who now fate).2.Sound hook := by
  obtain ⟨⟨hclock, -⟩, ⟨-, hcounters, hphase⟩ | ⟨key, hexpiring, -, hphase, hcases⟩⟩ :=
    expire_effect hook limiter who now fate
  · refine ⟨hcounters ▸ h.value_pos, ?_, by rw [hcounters, hphase]; exact h.pending,
      by rw [hphase]; exact h.unique⟩
    rw [hcounters, hclock]
    intro key counter hcounter expiresAt hexpires
    have hle := h.bound key counter hcounter expiresAt hexpires
    omega
  · obtain ⟨counter, hstored, hnone⟩ := h.pending who key hexpiring
    have hfind := @find_of_stored _ _ now _ hstored (by simp [hnone])
    have hpos := h.value_pos key counter hstored
    -- the call was the only one that was to expire the counter
    have hnobody : ∀ other, (limiter.expire hook who now fate).2.phase other ≠ .expiring key := by
      intro other hother
      rw [hphase] at hother
      by_cases hsame : other = who
      · subst hsame
        rw [Function.update_self] at hother
        cases hother
      · rw [Function.update_of_ne hsame] at hother
        exact hsame (h.unique other who key hother hexpiring)
    refine @Sound.of_stored hook limiter h _ key (by rw [hclock]; exact hnow) ?_ ?_ ?_ ?_ ?_ ?_
    · intro other hother
      rcases hcases with ⟨-, hcounters⟩ | ⟨-, hcounters⟩
      · rw [hcounters]
      · rw [hcounters, expire_stored hother]
    · rcases hcases with ⟨-, hcounters⟩ | ⟨-, hcounters⟩
      · rw [hcounters]
        exact h.value_pos key
      · rw [hcounters, expire_of_find hfind]
        rintro counter' ⟨⟩
        exact hpos
    · rw [hclock]
      rcases hcases with ⟨-, hcounters⟩ | ⟨-, hcounters⟩
      · rw [hcounters, hstored]
        rintro counter' ⟨⟩ expiresAt hexpires
        rw [hnone] at hexpires
        cases hexpires
      · rw [hcounters, expire_of_find hfind]
        rintro counter' ⟨⟩ expiresAt ⟨⟩
        exact le_refl _
    · rw [hphase]
      intro other key' hother hkey
      exact (expiring_update hexpiring ⟨by simpa using Ne.symm hkey, by simp⟩ other).mp hother
    · exact fun other hother => absurd hother (hnobody other)
    · exact fun other _ hother => absurd hother (hnobody other)

theorem Sound.step {log : Log HookMove HookReply} (h : limiter.Sound hook) {move : HookMove}
    (hnow : InTime log limiter move) :
    (serve hook limiter move).2.Sound hook ∧
      ((∃ key, (serve hook limiter move).2.Stuck key) ↔
        (∃ key, limiter.Stuck key) ∨ Strands ⟨move, (serve hook limiter move).1⟩) := by
  cases move with
  | incr who apiKey now fate => exact ⟨h.incr hnow, stuck_incr h⟩
  | expire who now fate => exact ⟨h.expire hnow, stuck_expire h⟩

/-- When no call is in progress, the counters that do not expire are the stuck ones. -/
theorem allExpire_iff (h : limiter.Sound hook) (hquiet : ∀ who, limiter.phase who = .idle) :
    limiter.AllExpire hook ↔ ¬ ∃ key, limiter.Stuck key := by
  constructor
  · rintro hall ⟨key, ⟨counter, hstored, hnone⟩, -⟩
    obtain ⟨expiresAt, hexpires, -⟩ := hall key counter (find_of_stored hstored (by simp [hnone]))
    rw [hnone] at hexpires
    cases hexpires
  · intro hnone key counter hfind
    have hstored := (stored_of_find hfind).1
    cases hexpires : counter.expiresAt with
    | none =>
        refine absurd ⟨key, ⟨counter, hstored, hexpires⟩, fun who => ?_⟩ hnone
        rw [hquiet who]
        exact fun h => by cases h
    | some expiresAt =>
        exact ⟨expiresAt, rfl, h.bound key counter hstored expiresAt hexpires⟩

/-- After the window the counters are gone. -/
theorem AllExpire.not_find (h : limiter.AllExpire hook) {now : Int}
    (hnow : limiter.now + hook.window ≤ now) (key : String) : limiter.counters.find now key = none := by
  cases hfind : limiter.counters.find now key with
  | none => rfl
  | some counter =>
      obtain ⟨hstored, hlive⟩ := stored_of_find hfind
      have hwindow := @window_nonneg hook
      have hbefore := @find_of_stored _ _ limiter.now _ hstored fun expiresAt hexpires => by
        have hlater := hlive expiresAt hexpires
        omega
      obtain ⟨expiresAt, hexpires, hbound⟩ := h key counter hbefore
      have hlater := hlive expiresAt hexpires
      omega

/-- A seller who stops for the window is admitted again. -/
theorem AllExpire.admits_again (h : limiter.AllExpire hook) {now : Int}
    (hnow : limiter.now + hook.window ≤ now) (apiKey : Option String) :
    (hook.sellerRateLimitHook limiter.counters apiKey now).1.isTooMany = false := by
  unfold SellerRateLimitHook.sellerRateLimitHook
  cases apiKey.filter (!·.isEmpty) with
  | none => rfl
  | some apiKey =>
      have hvalue := (incr_of_not_find (h.not_find hnow (hook.redisKey apiKey))).1
      have hfew : ¬ 1 > hook.limit := by
        have hlimit := hook.limit_pos
        omega
      simp only [hvalue, if_true, SellerRateLimitHook.finish, if_neg hfew]
      rfl

/-- **No lockout.** When no call is in progress, every counter expires within the window exactly when every
INCR that made a counter was answered and every EXPIRE took effect; and then a seller who stops for the
window is admitted again. -/
theorem all_expire_iff {log : Log HookMove HookReply} (hrun : Run (serve hook) InTime empty log limiter)
    (hquiet : ∀ who, limiter.phase who = .idle) :
    (limiter.AllExpire hook ↔ ∀ x ∈ log, ¬ Strands x) ∧
      (limiter.AllExpire hook → ∀ now, limiter.now + hook.window ≤ now → ∀ apiKey,
        (hook.sellerRateLimitHook limiter.counters apiKey now).1.isTooMany = false) := by
  have hsound : limiter.Sound hook ∧ ((∃ key, limiter.Stuck key) ↔ ∃ x ∈ log, Strands x) := by
    refine hrun.invariant (I := fun log limiter => limiter.Sound hook ∧
      ((∃ key, limiter.Stuck key) ↔ ∃ x ∈ log, Strands x)) ⟨⟨?_, ?_, ?_, ?_⟩, ?_⟩ ?_
    · exact fun _ _ hcounter => by cases hcounter
    · exact fun _ _ hcounter => by cases hcounter
    · exact fun _ _ hexpiring => by cases hexpiring
    · exact fun _ _ _ hexpiring => by cases hexpiring
    · simp [Stuck, empty, LimitCounters.empty]
    · rintro log limiter move ⟨hsound, hstuck⟩ hnow
      obtain ⟨hnext, hmove⟩ := hsound.step hnow
      refine ⟨hnext, hmove.trans ?_⟩
      rw [hstuck, List.exists_mem_cons_iff]
      exact or_comm
  refine ⟨?_, fun hall now hnow apiKey => hall.admits_again hnow apiKey⟩
  rw [allExpire_iff hsound.1 hquiet, hsound.2]
  simp only [not_exists, not_and]

/-- The EXPIRE comes late, but it comes. -/
theorem all_expire_iff_late :
    (served (serve .verifyHook) empty lateExpire.tail).2.AllExpire .verifyHook := by
  have hintime : Admitted (serve .verifyHook) InTime empty lateExpire.tail := by
    refine ⟨⟨⟨trivial, ?_⟩, ?_⟩, ?_⟩ <;> change (_ : Int) ≤ _ <;> decide
  refine (all_expire_iff (run_served hintime) fun who => ?_).1.mpr fun x hx => ?_
  · cases who with
    | zero => rfl
    | succ who => rfl
  · rcases List.mem_cons.mp hx with rfl | hx
    · rintro ⟨hfailed, -⟩
      cases hfailed
    · rcases List.mem_cons.mp hx with rfl | hx
      · rintro ⟨hlost, -⟩
        cases hlost
      · rcases List.mem_cons.mp hx with rfl | hx
        · rintro ⟨hlost, -⟩
          cases hlost
        · cases hx

/-- An INCR of which the answer is lost: the counter has no expiry and never gets one. -/
theorem not_all_expire_lost :
    ¬ (served (serve .verifyHook) empty [.incr 0 (some "seller-1") 10 .lost]).2.AllExpire .verifyHook := by
  intro h
  obtain ⟨expiresAt, hexpires, -⟩ := h "rl:seller:verify:seller1" ⟨1, none⟩ (by decide)
  cases hexpires

end SellerLimiter

end FacilitatorX402
