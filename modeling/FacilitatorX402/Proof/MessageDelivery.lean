import FacilitatorX402.Infrastructure.SettlementMessages
import FacilitatorX402.Proof.ListenerMap
import FacilitatorX402.Proof.StreamText
import Mathlib.Data.List.Nodup

/-!
# Updates reach those who listen

A published update is read back by the handler and handed to the callbacks in the entry of its request. In
every run a callback in an entry belongs to a call that has returned and has not left.
-/

namespace FacilitatorX402

open Requests JsonText FacilitatorX402.Stream

namespace SettlementPubSub

variable {κ : Type} [DecidableEq κ] {state : SettlementPubSub κ} {who : Nat}

/-- The calls whose SUBSCRIBE is on its way. -/
def callers (sent : List SubscriberCommand) : List Nat :=
  sent.filterMap fun command =>
    match command with
    | .subscribe who _ => some who
    | .unsubscribe _ => none

/-- Each of them waits for it, and has sent no other. -/
structure Sending (state : SettlementPubSub κ) : Prop where
  once : (callers state.sent).Nodup
  waits : ∀ who ∈ callers state.sent, ∃ requestId callback,
    state.phase who = .subscribing requestId callback

/-- An entry holds callbacks of calls that have returned, each once. -/
def Held (state : SettlementPubSub κ) : Prop :=
  ∀ requestId callbacks, state.listeners requestId = some callbacks → callbacks.Nodup ∧
    ∀ callback ∈ callbacks, ∃ who, state.phase who = .returned requestId callback

omit [DecidableEq κ] in
/-- A call that has not returned changes its phase. -/
theorem Held.setPhase (h : state.Held) {phase : ListenerPhase κ}
    (hnot : ∀ requestId callback, state.phase who ≠ .returned requestId callback) :
    (state.setPhase who phase).Held := by
  intro requestId callbacks hentry
  obtain ⟨hnodup, howned⟩ := h requestId callbacks hentry
  refine ⟨hnodup, fun callback hmem => ?_⟩
  obtain ⟨other, hother⟩ := howned callback hmem
  have hne : other ≠ who := by
    rintro rfl
    exact hnot _ _ hother
  exact ⟨other, (Function.update_of_ne hne ..).trans hother⟩

omit [DecidableEq κ] in
theorem setListeners_self (state : SettlementPubSub κ) (requestId : String) (entry : Option (List κ)) :
    (state.setListeners requestId entry).listeners requestId = entry := Function.update_self ..

omit [DecidableEq κ] in
theorem setListeners_of_ne (state : SettlementPubSub κ) {requestId other : String}
    (hne : other ≠ requestId) (entry : Option (List κ)) :
    (state.setListeners requestId entry).listeners other = state.listeners other :=
  Function.update_of_ne hne ..

theorem nodup_addTo {callbacks : List κ} (h : callbacks.Nodup) (callback : κ) :
    (addTo callbacks callback).Nodup := by
  unfold addTo
  split_ifs with hmem
  · exact h
  · refine List.nodup_append.mpr ⟨h, List.nodup_singleton _, ?_⟩
    rintro x hx y hy rfl
    exact hmem (List.mem_singleton.mp hy ▸ hx)

theorem mem_of_mem_addTo {callbacks : List κ} {callback x : κ} (h : x ∈ addTo callbacks callback) :
    x ∈ callbacks ∨ x = callback := by
  unfold addTo at h
  split_ifs at h with hmem
  · exact .inl h
  · exact (List.mem_append.mp h).imp_right List.mem_singleton.mp

theorem Held.add (h : state.Held) {requestId : String} {callback : κ}
    (hnot : ∀ requestId callback, state.phase who ≠ .returned requestId callback) :
    (state.add who requestId callback).Held := by
  unfold SettlementPubSub.add
  cases hentry : state.listeners requestId with
  | none => exact h.setPhase hnot
  | some callbacks =>
      obtain ⟨hnodup, howned⟩ := h requestId callbacks hentry
      intro other callbacks' hother
      by_cases hsame : other = requestId
      · subst hsame
        obtain rfl : addTo callbacks callback = callbacks' :=
          Option.some.inj ((setListeners_self ..).symm.trans hother)
        refine ⟨nodup_addTo hnodup callback, fun callback' hmem => ?_⟩
        rcases mem_of_mem_addTo hmem with hmem | rfl
        · obtain ⟨owner, howner⟩ := howned callback' hmem
          have hne : owner ≠ who := by
            rintro rfl
            exact hnot _ _ howner
          exact ⟨owner, (Function.update_of_ne hne ..).trans howner⟩
        · exact ⟨who, Function.update_self ..⟩
      · have hother' : state.listeners other = some callbacks' :=
          (setListeners_of_ne _ hsame _).symm.trans hother
        have hreturned : (state.setPhase who (.returned requestId callback)).Held := h.setPhase hnot
        exact hreturned other callbacks' hother'

omit [DecidableEq κ] in
theorem Held.of_eq {state' : SettlementPubSub κ} (h : state.Held)
    (hlisteners : state'.listeners = state.listeners) (hphase : state'.phase = state.phase) :
    state'.Held := by
  rw [Held, hlisteners, hphase]
  exact h

omit [DecidableEq κ] in
/-- An entry that holds nothing, or is gone. -/
theorem Held.setListeners (h : state.Held) {requestId : String} {entry : Option (List κ)}
    (hentry : ∀ callbacks, entry = some callbacks → callbacks.Nodup ∧
      ∀ callback ∈ callbacks, ∃ who, state.phase who = .returned requestId callback) :
    (state.setListeners requestId entry).Held := by
  intro other callbacks hother
  by_cases hsame : other = requestId
  · subst hsame
    exact hentry callbacks ((setListeners_self ..).symm.trans hother)
  · exact h other callbacks ((setListeners_of_ne _ hsame _).symm.trans hother)

/-! ### What a move keeps -/

omit [DecidableEq κ] in
theorem Sending.setPhase (h : state.Sending) {phase : ListenerPhase κ}
    (hnot : who ∉ callers state.sent) : (state.setPhase who phase).Sending where
  once := h.once
  waits other hother := by
    obtain ⟨requestId, callback, hwaits⟩ := h.waits other hother
    have hne : other ≠ who := by
      rintro rfl
      exact hnot hother
    exact ⟨requestId, callback, (Function.update_of_ne hne ..).trans hwaits⟩

omit [DecidableEq κ] in
theorem Sending.not_mem (h : state.Sending)
    (hnot : ∀ requestId callback, state.phase who ≠ .subscribing requestId callback) :
    who ∉ callers state.sent := fun hmem => by
  obtain ⟨requestId, callback, hwaits⟩ := h.waits who hmem
  exact hnot _ _ hwaits

theorem Sending.add (h : state.Sending) {requestId : String} {callback : κ}
    (hnot : who ∉ callers state.sent) : (state.add who requestId callback).Sending := by
  unfold SettlementPubSub.add
  split
  · exact h.setPhase hnot
  · rename_i callbacks hentry
    have hadded : (state.setListeners requestId (some (addTo callbacks callback))).Sending :=
      ⟨h.once, h.waits⟩
    exact hadded.setPhase hnot

/-- What holds in every run. -/
structure Sound (state : SettlementPubSub κ) : Prop where
  sending : state.Sending
  held : state.Held

theorem Sound.add (h : state.Sound) {requestId : String} {callback : κ}
    (hsubscribing : ∀ requestId callback, state.phase who ≠ .subscribing requestId callback)
    (hreturned : ∀ requestId callback, state.phase who ≠ .returned requestId callback) :
    (state.add who requestId callback).Sound :=
  ⟨h.sending.add (h.sending.not_mem hsubscribing), h.held.add hreturned⟩

theorem Sound.subscribeToSettlement (h : state.Sound) {requestId : String} {callback : κ} :
    (state.subscribeToSettlement who requestId callback).Sound := by
  unfold SettlementPubSub.subscribeToSettlement
  cases hphase : state.phase who with
  | idle =>
      dsimp only
      split
      · exact h.add (by simp [hphase]) (by simp [hphase])
      · have hnot : who ∉ callers state.sent := h.sending.not_mem (by simp [hphase])
        have hempty : (state.setListeners requestId (some [])).Held :=
          h.held.setListeners fun callbacks hentry => by
            obtain rfl := Option.some.inj hentry
            exact ⟨List.nodup_nil, nofun⟩
        refine ⟨⟨?_, fun other hother => ?_⟩, Held.setPhase (hempty.of_eq rfl rfl) ?_⟩
        · have hcallers : callers (state.sent ++ [.subscribe who (settlementChannel requestId)])
              = callers state.sent ++ [who] := by simp [callers]
          simp only [setPhase, setListeners, hcallers]
          refine List.nodup_append.mpr ⟨h.sending.once, by simp, ?_⟩
          rintro x hx y hy rfl
          exact hnot (List.mem_singleton.mp hy ▸ hx)
        · by_cases hsame : other = who
          · subst hsame
            exact ⟨requestId, callback, Function.update_self ..⟩
          · have hold : other ∈ callers state.sent := by
              simpa [callers, setPhase, setListeners, hsame] using hother
            obtain ⟨requestId', callback', hwaits⟩ := h.sending.waits other hold
            exact ⟨requestId', callback', (Function.update_of_ne hsame ..).trans hwaits⟩
        · intro requestId' callback' hreturned
          cases hphase.symm.trans hreturned
  | _ => exact h

omit [DecidableEq κ] in
theorem Sound.answer (h : state.Sound) (succeeds : Bool) : (state.answer succeeds).Sound := by
  unfold SettlementPubSub.answer
  cases hsent : state.sent with
  | nil => exact h
  | cons command sent =>
      have honce := h.sending.once
      have hwaits := h.sending.waits
      rw [hsent] at honce hwaits
      cases command with
      | unsubscribe channel => exact ⟨⟨honce, hwaits⟩, h.held.of_eq rfl rfl⟩
      | subscribe who channel =>
          change (who :: callers sent).Nodup at honce
          change ∀ other ∈ who :: callers sent, _ at hwaits
          obtain ⟨hnot, honce⟩ := List.nodup_cons.mp honce
          obtain ⟨requestId, callback, hphase⟩ := hwaits who List.mem_cons_self
          have hrest : ∀ subscribed phase,
              ({ state with sent, subscribed }.setPhase who phase).Sound := by
            intro subscribed phase
            have hsending : { state with sent, subscribed }.Sending :=
              ⟨honce, fun other hother => hwaits other (List.mem_cons_of_mem _ hother)⟩
            exact ⟨hsending.setPhase hnot, Held.setPhase (h.held.of_eq rfl rfl) (by simp [hphase])⟩
          cases succeeds with
          | false => exact hrest _ _
          | true =>
              simp only [if_true, hphase]
              exact hrest _ _

theorem Sound.resume (h : state.Sound) : (state.resume who).Sound := by
  unfold SettlementPubSub.resume
  cases hphase : state.phase who with
  | acknowledged requestId callback => exact h.add (by simp [hphase]) (by simp [hphase])
  | rejected =>
      exact ⟨h.sending.setPhase (h.sending.not_mem (by simp [hphase])),
        h.held.setPhase (by simp [hphase])⟩
  | _ => exact h

/-- A call that leaves takes its callback out of the entry, or finds none or leaves none. -/
theorem Held.leave (h : state.Held) {requestId : String} {callback : κ} {entry : Option (List κ)}
    (hentry : ∀ callbacks', entry = some callbacks' → ∃ callbacks,
      state.listeners requestId = some callbacks ∧ callbacks' = callbacks.filter (· ≠ callback))
    (hphase : state.phase who = .returned requestId callback ∨
      state.phase who = .left requestId callback) :
    ((state.setPhase who (.left requestId callback)).setListeners requestId entry).Held := by
  -- whoever else has a callback in an entry is another call
  have hother : ∀ requestId' callback' other, state.phase other = .returned requestId' callback' →
      ¬ (requestId' = requestId ∧ callback' = callback) →
      (state.setPhase who (.left requestId callback)).phase other = .returned requestId' callback' := by
    intro requestId' callback' other hreturned hnot
    have hne : other ≠ who := by
      rintro rfl
      rcases hphase with hphase | hphase <;> rw [hphase] at hreturned
      · cases hreturned
        exact hnot ⟨rfl, rfl⟩
      · cases hreturned
    exact (Function.update_of_ne hne ..).trans hreturned
  intro requestId' callbacks' hentry'
  by_cases hsame : requestId' = requestId
  · subst hsame
    obtain ⟨callbacks, hold, rfl⟩ := hentry callbacks' ((setListeners_self ..).symm.trans hentry')
    obtain ⟨hnodup, howned⟩ := h requestId' callbacks hold
    refine ⟨hnodup.filter _, fun callback' hmem => ?_⟩
    obtain ⟨hmem, hne⟩ := List.mem_filter.mp hmem
    obtain ⟨other, hreturned⟩ := howned callback' hmem
    exact ⟨other, hother _ _ other hreturned fun hboth => of_decide_eq_true hne hboth.2⟩
  · obtain ⟨hnodup, howned⟩ := h requestId' callbacks'
      ((setListeners_of_ne _ hsame _).symm.trans hentry')
    refine ⟨hnodup, fun callback' hmem => ?_⟩
    obtain ⟨other, hreturned⟩ := howned callback' hmem
    exact ⟨other, hother _ _ other hreturned fun hboth => hsame hboth.1⟩

theorem Sound.leave (h : state.Sound) {requestId : String} {callback : κ}
    (hphase : state.phase who = .returned requestId callback ∨
      state.phase who = .left requestId callback) : (state.unsubscribe who).Sound := by
  have hnot : who ∉ callers state.sent :=
    h.sending.not_mem (by rcases hphase with hphase | hphase <;> simp [hphase])
  have hsending : (state.setPhase who (.left requestId callback)).Sending := h.sending.setPhase hnot
  have hgone : ((state.setPhase who (.left requestId callback)).setListeners requestId none).Held :=
    h.held.leave nofun hphase
  cases hentry : state.listeners requestId with
  | none =>
      have heq : state.unsubscribe who = state.setPhase who (.left requestId callback) := by
        rcases hphase with hphase | hphase <;>
          simp only [SettlementPubSub.unsubscribe, hphase, SettlementPubSub.setPhase, hentry]
      rw [heq]
      refine ⟨hsending, hgone.of_eq ?_ rfl⟩
      exact (Function.update_eq_self_iff.mpr hentry.symm).symm
  | some callbacks =>
      by_cases hlast : callbacks.filter (· ≠ callback) = []
      · have heq : state.unsubscribe who =
            { (state.setPhase who (.left requestId callback)).setListeners requestId none with
              sent := state.sent ++ [.unsubscribe (settlementChannel requestId)] } := by
          rcases hphase with hphase | hphase <;>
            simp only [SettlementPubSub.unsubscribe, hphase, SettlementPubSub.setPhase, hentry,
              SettlementPubSub.setListeners, hlast, if_true]
        have hcallers : callers (state.sent ++ [.unsubscribe (settlementChannel requestId)])
            = callers state.sent := by simp [callers]
        rw [heq]
        refine ⟨⟨?_, ?_⟩, hgone.of_eq rfl rfl⟩
        · rw [hcallers]
          exact hsending.once
        · rw [hcallers]
          exact hsending.waits
      · have heq : state.unsubscribe who =
            (state.setPhase who (.left requestId callback)).setListeners requestId
              (some (callbacks.filter (· ≠ callback))) := by
          rcases hphase with hphase | hphase <;>
            simp only [SettlementPubSub.unsubscribe, hphase, SettlementPubSub.setPhase, hentry,
              SettlementPubSub.setListeners, if_neg hlast]
        rw [heq]
        refine ⟨⟨hsending.once, hsending.waits⟩, h.held.leave (fun callbacks' hsome => ?_) hphase⟩
        exact ⟨callbacks, hentry, (Option.some.inj hsome).symm⟩

theorem Sound.unsubscribe (h : state.Sound) : (state.unsubscribe who).Sound := by
  by_cases hphase : ∃ requestId callback, state.phase who = .returned requestId callback ∨
      state.phase who = .left requestId callback
  · obtain ⟨requestId, callback, hphase⟩ := hphase
    exact h.leave hphase
  · rw [unsubscribe_eq_self hphase]
    exact h

end SettlementPubSub

end FacilitatorX402
