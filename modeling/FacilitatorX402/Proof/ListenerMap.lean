import FacilitatorX402.Infrastructure.SettlementPubSub

/-!
# Listeners that stay registered

An entry of the map is made before its channel is subscribed to, and removed by whoever leaves last. It
is as good as it looks for as long as nobody joins while the SUBSCRIBE is on its way or after it has
failed, and nobody empties the set under a call that waits.
-/

namespace FacilitatorX402

open Requests

namespace SettlementPubSub

variable {κ : Type}

/-- The connection is subscribed to the channel, and no UNSUBSCRIBE of it is on its way. -/
def Live (state : SettlementPubSub κ) (requestId : String) : Prop :=
  state.subscribed (settlementChannel requestId) = true ∧
    .unsubscribe (settlementChannel requestId) ∉ state.sent

/-- The call waits for a SUBSCRIBE, or for its turn after one that has succeeded. -/
def InProgress (state : SettlementPubSub κ) (who : Nat) (requestId : String) : Prop :=
  ∃ callback, state.phase who = .subscribing requestId callback ∨
    state.phase who = .acknowledged requestId callback

/-- What is claimed of a state. -/
structure Registered (state : SettlementPubSub κ) : Prop where
  noTypeError : ∀ who, state.phase who ≠ .typeError
  listens : ∀ who requestId callback, state.phase who = .returned requestId callback →
    (∃ callbacks, state.listeners requestId = some callbacks ∧ callback ∈ callbacks) ∧
      state.Live requestId

/-- The commands on their way: each SUBSCRIBE is of a call that waits for it, no UNSUBSCRIBE of its
channel follows it, and the call has no second one. -/
def Follows (first second : SubscriberCommand) : Prop :=
  ∀ who channel, first = .subscribe who channel →
    second ≠ .unsubscribe channel ∧ ∀ channel', second ≠ .subscribe who channel'

/-- What a call relies on, by where it is. -/
def Owed (state : SettlementPubSub κ) (who : Nat) : ListenerPhase κ → Prop
  | .subscribing requestId _ =>
      .subscribe who (settlementChannel requestId) ∈ state.sent ∧
        ∃ callbacks, state.listeners requestId = some callbacks
  | .acknowledged requestId _ =>
      (∃ callbacks, state.listeners requestId = some callbacks) ∧ state.Live requestId
  | .returned requestId callback =>
      (∃ callbacks, state.listeners requestId = some callbacks ∧ callback ∈ callbacks) ∧
        state.Live requestId
  | .typeError => False
  | _ => True

structure Intact (state : SettlementPubSub κ) : Prop where
  order : state.sent.Pairwise Follows
  sender : ∀ who channel, .subscribe who channel ∈ state.sent →
    ∃ requestId callback, channel = settlementChannel requestId ∧
      state.phase who = .subscribing requestId callback
  owed : ∀ who, state.Owed who (state.phase who)

theorem Intact.registered {state : SettlementPubSub κ} (h : state.Intact) : state.Registered where
  noTypeError who htype := by
    have howed := h.owed who
    rw [htype] at howed
    exact howed
  listens who requestId callback hreturned := by
    have howed := h.owed who
    rw [hreturned] at howed
    exact howed

theorem settlementChannel_injective {requestId requestId' : String}
    (h : settlementChannel requestId = settlementChannel requestId') : requestId = requestId' := by
  have hlist := congrArg String.toList h
  simp only [settlementChannel, String.toList_append] at hlist
  exact String.toList_inj.mp (List.append_cancel_left hlist)

variable {state state' : SettlementPubSub κ} {who : Nat}

/-- Nothing is taken from the call `who`. -/
structure Keeps (state state' : SettlementPubSub κ) (who : Nat) : Prop where
  listeners : ∀ requestId callbacks, state.listeners requestId = some callbacks →
    ∃ callbacks', state'.listeners requestId = some callbacks' ∧
      ∀ callback ∈ callbacks, callback ∈ callbacks'
  waiting : ∀ channel, .subscribe who channel ∈ state.sent → .subscribe who channel ∈ state'.sent
  live : ∀ requestId, state.Live requestId → state'.Live requestId

theorem Owed.imp {phase : ListenerPhase κ} (h : state.Owed who phase)
    (hwaits : ∀ requestId callback, phase = .subscribing requestId callback →
      state.Owed who (.subscribing requestId callback) →
        state'.Owed who (.subscribing requestId callback))
    (hgoesOn : ∀ requestId callback, phase = .acknowledged requestId callback →
      state.Owed who (.acknowledged requestId callback) →
        state'.Owed who (.acknowledged requestId callback))
    (hlistens : ∀ requestId callback, phase = .returned requestId callback →
      state.Owed who (.returned requestId callback) →
        state'.Owed who (.returned requestId callback)) : state'.Owed who phase := by
  cases phase with
  | idle => trivial
  | rejected => trivial
  | left requestId callback => trivial
  | failed => trivial
  | typeError => exact h
  | subscribing requestId callback => exact hwaits _ _ rfl h
  | acknowledged requestId callback => exact hgoesOn _ _ rfl h
  | returned requestId callback => exact hlistens _ _ rfl h

theorem Owed.keep (hkeeps : Keeps state state' who) {phase : ListenerPhase κ}
    (h : state.Owed who phase) : state'.Owed who phase := by
  refine h.imp ?_ ?_ ?_
  · rintro requestId callback - ⟨hsent, callbacks, hentry⟩
    obtain ⟨callbacks', hentry', -⟩ := hkeeps.listeners _ _ hentry
    exact ⟨hkeeps.waiting _ hsent, callbacks', hentry'⟩
  · rintro requestId callback - ⟨⟨callbacks, hentry⟩, hlive⟩
    obtain ⟨callbacks', hentry', -⟩ := hkeeps.listeners _ _ hentry
    exact ⟨⟨callbacks', hentry'⟩, hkeeps.live _ hlive⟩
  · rintro requestId callback - ⟨⟨callbacks, hentry, hmem⟩, hlive⟩
    obtain ⟨callbacks', hentry', hkept⟩ := hkeeps.listeners _ _ hentry
    exact ⟨⟨callbacks', hentry', hkept _ hmem⟩, hkeeps.live _ hlive⟩

/-- A move of `who` that takes nothing from the others. -/
theorem Intact.of_keeps (h : state.Intact) (hkeeps : ∀ other ≠ who, Keeps state state' other)
    {phase : ListenerPhase κ} (hphase : state'.phase = Function.update state.phase who phase)
    (horder : state'.sent.Pairwise Follows)
    (hsender : ∀ who channel, .subscribe who channel ∈ state'.sent →
      ∃ requestId callback, channel = settlementChannel requestId ∧
        state'.phase who = .subscribing requestId callback)
    (howed : state'.Owed who phase) : state'.Intact where
  order := horder
  sender := hsender
  owed other := by
    rw [hphase]
    by_cases hother : other = who
    · subst hother
      rw [Function.update_self]
      exact howed
    · rw [Function.update_of_ne hother]
      exact (h.owed other).keep (hkeeps other hother)

/-- The commands and their callers stay as they are when a call that waits for none changes its phase. -/
theorem sender_update {phase : ListenerPhase κ} (h : state.Intact)
    (hphase : state'.phase = Function.update state.phase who phase) (hsent : state'.sent = state.sent)
    (hnot : ∀ requestId callback, state.phase who ≠ .subscribing requestId callback) :
    ∀ other channel, .subscribe other channel ∈ state'.sent →
      ∃ requestId callback, channel = settlementChannel requestId ∧
        state'.phase other = .subscribing requestId callback := by
  intro other channel hmem
  rw [hsent] at hmem
  obtain ⟨requestId, callback, hchannel, hother⟩ := h.sender other channel hmem
  have hne : other ≠ who := by
    rintro rfl
    exact hnot _ _ hother
  exact ⟨requestId, callback, hchannel, by rw [hphase, Function.update_of_ne hne, hother]⟩

theorem mem_sent_of_ne {command : SubscriberCommand} {sent : List SubscriberCommand} {other : Nat}
    {channel : String} (hmem : .subscribe other channel ∈ command :: sent)
    (hne : ∀ channel, command ≠ .subscribe other channel) : .subscribe other channel ∈ sent := by
  rcases List.mem_cons.mp hmem with heq | hmem
  · exact absurd heq.symm (hne channel)
  · exact hmem

theorem Intact.answered (h : state.Intact) {channel : String} {sent : List SubscriberCommand}
    (hsent : state.sent = .subscribe who channel :: sent) {subscribed : String → Bool}
    (hsubscribed : ∀ other, state.subscribed other = true → subscribed other = true)
    {phase : ListenerPhase κ}
    (howed : { state with sent, subscribed }.Owed who phase) :
    ({ state with sent, subscribed }.setPhase who phase).Intact := by
  have horder := h.order
  rw [hsent, List.pairwise_cons] at horder
  refine h.of_keeps (fun other hother => ⟨?_, ?_, ?_⟩) rfl horder.2 ?_ (by cases phase <;> exact howed)
  · exact fun _ callbacks hentry => ⟨callbacks, hentry, fun _ => id⟩
  · intro channel' hmem
    rw [hsent] at hmem
    exact mem_sent_of_ne hmem fun _ heq => hother (SubscriberCommand.subscribe.inj heq).1.symm
  · rintro requestId ⟨hsub, hunsub⟩
    rw [hsent] at hunsub
    exact ⟨hsubscribed _ hsub, fun hmem => hunsub (List.mem_cons_of_mem _ hmem)⟩
  · intro other channel' hmem
    have hne : other ≠ who := by
      rintro rfl
      exact (horder.1 _ hmem other channel rfl).2 channel' rfl
    obtain ⟨requestId, callback, hchannel, hwaits⟩ :=
      h.sender other channel' (by rw [hsent]; exact List.mem_cons_of_mem _ hmem)
    exact ⟨requestId, callback, hchannel, (Function.update_of_ne hne ..).trans hwaits⟩

theorem Intact.setPhase (h : state.Intact) {phase : ListenerPhase κ}
    (hnot : ∀ requestId callback, state.phase who ≠ .subscribing requestId callback)
    (howed : state.Owed who phase) : (state.setPhase who phase).Intact := by
  refine h.of_keeps (fun _ _ => ⟨?_, fun _ => id, fun _ => id⟩) rfl h.order (sender_update h rfl rfl hnot) ?_
  · exact fun _ callbacks hentry => ⟨callbacks, hentry, fun _ => id⟩
  · cases phase <;> exact howed

theorem Intact.answer (h : state.Intact) (succeeds : Bool) : (state.answer succeeds).Intact := by
  unfold SettlementPubSub.answer
  cases hsent : state.sent with
  | nil => exact h
  | cons command sent =>
      cases command with
      | unsubscribe channel =>
          have horder := h.order
          rw [hsent, List.pairwise_cons] at horder
          refine ⟨horder.2, fun other channel' hmem => ?_, fun other => (h.owed other).keep ?_⟩
          · exact h.sender other channel' (by rw [hsent]; exact List.mem_cons_of_mem _ hmem)
          · refine ⟨fun _ callbacks hentry => ⟨callbacks, hentry, fun _ => id⟩, ?_, ?_⟩
            · intro channel' hmem
              rw [hsent] at hmem
              exact mem_sent_of_ne hmem (by simp)
            · rintro requestId ⟨hsub, hunsub⟩
              rw [hsent, List.mem_cons, not_or] at hunsub
              have hne : settlementChannel requestId ≠ channel := fun heq =>
                hunsub.1 (congrArg _ heq)
              exact ⟨(Function.update_of_ne hne ..).trans hsub, hunsub.2⟩
      | subscribe who channel =>
          obtain ⟨requestId, callback, rfl, hwaits⟩ :=
            h.sender who channel (by rw [hsent]; exact List.mem_cons_self)
          have howed := h.owed who
          rw [hwaits] at howed
          have horder := h.order
          rw [hsent, List.pairwise_cons] at horder
          cases succeeds with
          | false => exact h.answered hsent (fun _ => id) trivial
          | true =>
              simp only [if_true, hwaits]
              refine h.answered hsent (fun other hsub => ?_) ⟨howed.2, Function.update_self .., ?_⟩
              · by_cases hsame : other = settlementChannel requestId
                · subst hsame
                  exact Function.update_self ..
                · exact (Function.update_of_ne hsame ..).trans hsub
              · exact fun hmem => (horder.1 _ hmem who _ rfl).1 rfl

/-- The last callback leaves, and nobody waits or listens. -/
theorem Intact.close (h : state.Intact) {requestId : String}
    (hwaits : ∀ other, ¬ state.InProgress other requestId)
    (hlistens : ∀ other callback, state.phase other ≠ .returned requestId callback) :
    { state.setListeners requestId none with
      sent := state.sent ++ [SubscriberCommand.unsubscribe (settlementChannel requestId)] }.Intact := by
  have hlive : ∀ other, other ≠ requestId → state.Live other →
      { state.setListeners requestId none with
        sent := state.sent ++ [SubscriberCommand.unsubscribe (settlementChannel requestId)] }.Live
          other := by
    rintro other hne ⟨hsub, hunsub⟩
    refine ⟨hsub, fun hmem => ?_⟩
    rcases List.mem_append.mp hmem with hmem | hmem
    · exact hunsub hmem
    · have hchannel := SubscriberCommand.unsubscribe.inj (List.mem_singleton.mp hmem)
      exact hne (settlementChannel_injective hchannel)
  refine ⟨?_, fun other channel hmem => ?_, fun other => ?_⟩
  · refine List.pairwise_append.mpr ⟨h.order, List.pairwise_singleton _ _, ?_⟩
    intro first hfirst second hsecond other channel hsubscribe
    obtain rfl := List.mem_singleton.mp hsecond
    refine ⟨fun heq => ?_, fun channel' hsame => by cases hsame⟩
    have hchannel := SubscriberCommand.unsubscribe.inj heq
    subst hsubscribe
    obtain ⟨requestId', callback, hchannel', hphase⟩ := h.sender other channel hfirst
    obtain rfl := settlementChannel_injective (hchannel.trans hchannel')
    exact hwaits other ⟨callback, .inl hphase⟩
  · rcases List.mem_append.mp hmem with hmem | hmem
    · exact h.sender other channel hmem
    · cases List.mem_singleton.mp hmem
  · refine (h.owed other).imp ?_ ?_ ?_
    · rintro requestId' callback hphase ⟨hmem, callbacks, hentry⟩
      have hne : requestId' ≠ requestId := by
        rintro rfl
        exact hwaits other ⟨callback, .inl hphase⟩
      exact ⟨List.mem_append_left _ hmem, callbacks, (Function.update_of_ne hne ..).trans hentry⟩
    · rintro requestId' callback hphase ⟨⟨callbacks, hentry⟩, hold⟩
      have hne : requestId' ≠ requestId := by
        rintro rfl
        exact hwaits other ⟨callback, .inr hphase⟩
      exact ⟨⟨callbacks, (Function.update_of_ne hne ..).trans hentry⟩, hlive _ hne hold⟩
    · rintro requestId' callback hphase ⟨⟨callbacks, hentry, hmem⟩, hold⟩
      have hne : requestId' ≠ requestId := by
        rintro rfl
        exact hlistens other callback hphase
      exact ⟨⟨callbacks, (Function.update_of_ne hne ..).trans hentry, hmem⟩, hlive _ hne hold⟩

variable [DecidableEq κ]

/-- A call that joins an entry finds its channel live. A call that leaves has its callback to itself, and
empties no set under a call that waits. -/
def Orderly : Admits (SettlementPubSub κ) (ListenerMove κ) Unit := fun _ state move =>
  match move with
  | .subscribe _ requestId _ => (state.listeners requestId).isSome → state.Live requestId
  | .unsubscribe who => ∀ requestId callback,
      (state.phase who = .returned requestId callback ∨ state.phase who = .left requestId callback) →
        (∀ other ≠ who, state.phase other ≠ .returned requestId callback) ∧
          ((∃ callbacks, state.listeners requestId = some callbacks ∧
              callbacks.filter (· ≠ callback) = []) →
            ∀ other, ¬ state.InProgress other requestId)
  | _ => True

theorem mem_addTo {callbacks : List κ} {callback : κ} :
    callback ∈ addTo callbacks callback ∧ ∀ x ∈ callbacks, x ∈ addTo callbacks callback := by
  unfold addTo
  split_ifs with hmem
  · exact ⟨hmem, fun _ => id⟩
  · exact ⟨by simp, fun x hx => List.mem_append_left _ hx⟩

theorem Intact.add (h : state.Intact) {requestId : String} {callback : κ}
    (hnot : ∀ requestId callback, state.phase who ≠ .subscribing requestId callback)
    (hentry : ∃ callbacks, state.listeners requestId = some callbacks)
    (hlive : state.Live requestId) : (state.add who requestId callback).Intact := by
  obtain ⟨callbacks, hentry⟩ := hentry
  have hadd : state.add who requestId callback =
      (state.setListeners requestId (some (addTo callbacks callback))).setPhase who
        (.returned requestId callback) := by
    simp only [SettlementPubSub.add, hentry]
  rw [hadd]
  refine h.of_keeps (fun _ _ => ⟨?_, fun _ => id, fun _ => id⟩) rfl h.order (sender_update h rfl rfl hnot) ?_
  · intro other callbacks' hother
    by_cases hsame : other = requestId
    · subst hsame
      rw [hentry] at hother
      cases hother
      exact ⟨_, Function.update_self .., mem_addTo.2⟩
    · exact ⟨callbacks', (Function.update_of_ne hsame ..).trans hother, fun _ => id⟩
  · exact ⟨⟨_, Function.update_self .., mem_addTo.1⟩, hlive⟩

theorem Intact.resume (h : state.Intact) : (state.resume who).Intact := by
  have howed := h.owed who
  unfold SettlementPubSub.resume
  cases hphase : state.phase who with
  | acknowledged requestId callback =>
      rw [hphase] at howed
      exact h.add (by simp [hphase]) howed.1 howed.2
  | rejected => exact h.setPhase (by simp [hphase]) trivial
  | idle => exact h
  | subscribing requestId callback => exact h
  | returned requestId callback => exact h
  | left requestId callback => exact h
  | failed => exact h
  | typeError => exact h

theorem Intact.subscribeToSettlement (h : state.Intact) {requestId : String} {callback : κ}
    (horderly : (state.listeners requestId).isSome → state.Live requestId) :
    (state.subscribeToSettlement who requestId callback).Intact := by
  unfold SettlementPubSub.subscribeToSettlement
  cases hphase : state.phase who with
  | acknowledged requestId callback => exact h
  | rejected => exact h
  | subscribing requestId callback => exact h
  | returned requestId callback => exact h
  | left requestId callback => exact h
  | failed => exact h
  | typeError => exact h
  | idle =>
      cases hentry : state.listeners requestId with
      | some callbacks =>
          exact h.add (by simp [hphase]) ⟨callbacks, hentry⟩ (horderly (by rw [hentry]; rfl))
      | none =>
          have hunsent : ∀ channel, .subscribe who channel ∉ state.sent := by
            intro channel hmem
            obtain ⟨_, _, -, hwaits⟩ := h.sender who channel hmem
            rw [hphase] at hwaits
            cases hwaits
          refine h.of_keeps (fun _ _ => ⟨?_, ?_, ?_⟩) rfl ?_ ?_ ⟨?_, _, Function.update_self ..⟩
          · intro other callbacks hother
            have hne : other ≠ requestId := by
              rintro rfl
              rw [hentry] at hother
              cases hother
            exact ⟨callbacks, (Function.update_of_ne hne ..).trans hother, fun _ => id⟩
          · exact fun channel hmem => List.mem_append_left _ hmem
          · rintro other ⟨hsubscribed, hnone⟩
            refine ⟨hsubscribed, fun hmem => ?_⟩
            rcases List.mem_append.mp hmem with hmem | hmem
            · exact hnone hmem
            · cases List.mem_singleton.mp hmem
          · refine List.pairwise_append.mpr ⟨h.order, List.pairwise_singleton _ _, ?_⟩
            intro first hfirst second hsecond other channel hsubscribe
            obtain rfl := List.mem_singleton.mp hsecond
            refine ⟨by simp, fun channel' hsame => ?_⟩
            cases hsame
            subst hsubscribe
            exact hunsent channel hfirst
          · intro other channel hmem
            rcases List.mem_append.mp hmem with hold | hmem
            · obtain ⟨requestId', callback', hchannel, hwaits⟩ := h.sender other channel hold
              have hne : other ≠ who := by
                rintro rfl
                exact hunsent channel hold
              exact ⟨requestId', callback', hchannel,
                (Function.update_of_ne hne ..).trans hwaits⟩
            · cases List.mem_singleton.mp hmem
              exact ⟨requestId, callback, rfl, Function.update_self ..⟩
          · exact List.mem_append_right _ (List.mem_singleton.mpr rfl)

/-- A callback leaves a set that stays. -/
theorem Intact.depart (h : state.Intact) {requestId : String} {callback : κ} {callbacks : List κ}
    (hentry : state.listeners requestId = some callbacks)
    (hown : ∀ other, state.phase other ≠ .returned requestId callback) :
    (state.setListeners requestId (some (callbacks.filter (· ≠ callback)))).Intact := by
  refine ⟨h.order, h.sender, fun other => ?_⟩
  have hsome : ∀ other, (∃ callbacks, state.listeners other = some callbacks) →
      ∃ callbacks', (state.setListeners requestId
        (some (callbacks.filter (· ≠ callback)))).listeners other = some callbacks' := by
    rintro other ⟨callbacks', hother⟩
    by_cases hsame : other = requestId
    · subst hsame
      exact ⟨_, Function.update_self ..⟩
    · exact ⟨callbacks', (Function.update_of_ne hsame ..).trans hother⟩
  refine (h.owed other).imp ?_ ?_ ?_
  · exact fun _ _ _ howed => ⟨howed.1, hsome _ howed.2⟩
  · exact fun _ _ _ howed => ⟨hsome _ howed.1, howed.2⟩
  · rintro requestId' callback' hphase ⟨⟨callbacks', hother, hmem⟩, hlive⟩
    refine ⟨?_, hlive⟩
    by_cases hsame : requestId' = requestId
    · subst hsame
      rw [hentry] at hother
      cases hother
      have hne : callback' ≠ callback := by
        rintro rfl
        exact hown other hphase
      exact ⟨_, Function.update_self .., List.mem_filter.mpr ⟨hmem, by simpa using hne⟩⟩
    · exact ⟨callbacks', (Function.update_of_ne hsame ..).trans hother, hmem⟩

theorem unsubscribe_eq_self (h : ¬ ∃ requestId callback,
    state.phase who = .returned requestId callback ∨ state.phase who = .left requestId callback) :
    state.unsubscribe who = state := by
  unfold SettlementPubSub.unsubscribe
  split
  · exact absurd ⟨_, _, .inl ‹_›⟩ h
  · exact absurd ⟨_, _, .inr ‹_›⟩ h
  · rfl

theorem Intact.unsubscribe (h : state.Intact) {log : Log (ListenerMove κ) Unit}
    (horderly : Orderly log state (.unsubscribe who)) : (state.unsubscribe who).Intact := by
  have hleaves : ∀ requestId callback,
      (state.phase who = .returned requestId callback ∨ state.phase who = .left requestId callback) →
        (state.unsubscribe who).Intact := by
    intro requestId callback hphase
    obtain ⟨hown, hempty⟩ := horderly requestId callback hphase
    have hleft : (state.setPhase who (.left requestId callback)).Intact :=
      h.setPhase (by rcases hphase with hphase | hphase <;> simp [hphase]) trivial
    have hothers : ∀ other, (state.setPhase who (.left requestId callback)).phase other ≠
        .returned requestId callback := by
      intro other
      by_cases hother : other = who
      · subst hother
        simp [SettlementPubSub.setPhase]
      · exact fun hreturned => hown other hother
          ((Function.update_of_ne hother ..).symm.trans hreturned)
    cases hentry : state.listeners requestId with
    | none =>
        have heq : state.unsubscribe who = state.setPhase who (.left requestId callback) := by
          rcases hphase with hphase | hphase <;>
            simp only [SettlementPubSub.unsubscribe, hphase, SettlementPubSub.setPhase, hentry]
        rw [heq]
        exact hleft
    | some callbacks =>
        by_cases hlast : callbacks.filter (· ≠ callback) = []
        · have heq : state.unsubscribe who =
              { (state.setPhase who (.left requestId callback)).setListeners requestId none with
                sent := state.sent ++ [.unsubscribe (settlementChannel requestId)] } := by
            rcases hphase with hphase | hphase <;>
              simp only [SettlementPubSub.unsubscribe, hphase, SettlementPubSub.setPhase, hentry,
                SettlementPubSub.setListeners, hlast, if_true]
          rw [heq]
          refine hleft.close (fun other hprogress => ?_) (fun other callback' hreturned => ?_)
          · refine hempty ⟨callbacks, hentry, hlast⟩ other ?_
            have hother : other ≠ who := by
              rintro rfl
              obtain ⟨callback', hphase | hphase⟩ := hprogress <;>
                simp [SettlementPubSub.setPhase] at hphase
            simpa only [InProgress, SettlementPubSub.setPhase, Function.update_of_ne hother]
              using hprogress
          · have howed := hleft.owed other
            rw [hreturned] at howed
            obtain ⟨⟨callbacks', hentry', hmem⟩, -⟩ := howed
            cases hentry.symm.trans hentry'
            have hsame : callback' = callback := by
              by_contra hne
              have hkept : callback' ∈ callbacks.filter (· ≠ callback) :=
                List.mem_filter.mpr ⟨hmem, decide_eq_true hne⟩
              rw [hlast] at hkept
              cases hkept
            exact hothers other (hsame ▸ hreturned)
        · have heq : state.unsubscribe who =
              (state.setPhase who (.left requestId callback)).setListeners requestId
                (some (callbacks.filter (· ≠ callback))) := by
            rcases hphase with hphase | hphase <;>
              simp only [SettlementPubSub.unsubscribe, hphase, SettlementPubSub.setPhase, hentry,
                SettlementPubSub.setListeners, if_neg hlast]
          rw [heq]
          exact hleft.depart hentry hothers
  by_cases hphase : ∃ requestId callback, state.phase who = .returned requestId callback ∨
      state.phase who = .left requestId callback
  · obtain ⟨requestId, callback, hphase⟩ := hphase
    exact hleaves requestId callback hphase
  · rw [unsubscribe_eq_self hphase]
    exact h

theorem Intact.step (h : state.Intact) {log : Log (ListenerMove κ) Unit} {move : ListenerMove κ}
    (horderly : Orderly log state move) : (state.serve move).2.Intact := by
  cases move with
  | subscribe who requestId callback => exact h.subscribeToSettlement horderly
  | answer succeeds => exact h.answer succeeds
  | resume who => exact h.resume
  | unsubscribe who => exact h.unsubscribe horderly

/-- **Listeners stay registered.** In every run in which calls join live entries only, and leave without
emptying a set under a call that waits, no call fails and every listener is in the map of a live
channel. -/
theorem listeners_stay_registered {log : Log (ListenerMove κ) Unit}
    (hrun : Run serve Orderly empty log state) : state.Registered := by
  refine (hrun.invariant (I := fun _ state => state.Intact) ?_ ?_).registered
  · refine ⟨List.Pairwise.nil, fun _ _ hmem => ?_, fun _ => trivial⟩
    cases hmem
  · exact fun _ _ _ hintact horderly => hintact.step horderly

/-- The second client joins when the channel is live. -/
def joinLater : List (ListenerMove Nat) :=
  [.subscribe 1 "req_1" 2, .resume 0, .answer true, .subscribe 0 "req_1" 1]

theorem listeners_stay_registered_join :
    let state := (served serve (empty : SettlementPubSub Nat) joinLater).2
    state.Registered ∧ state.phase 1 = .returned "req_1" 2 := by
  refine ⟨listeners_stay_registered (run_served ⟨⟨⟨⟨trivial, ?_⟩, trivial⟩, trivial⟩, ?_⟩), by decide⟩
  · intro hsome
    cases hsome
  · exact fun _ => ⟨by decide, by decide⟩

/-- A second client that joins while the SUBSCRIBE is on its way returns at once; if it leaves, the first
fails. -/
theorem not_listeners_stay_registered :
    ¬ (served serve (empty : SettlementPubSub Nat)
        [.subscribe 1 "req_1" 2, .subscribe 0 "req_1" 1]).2.Registered ∧
      ¬ (served serve (empty : SettlementPubSub Nat) [.resume 0, .answer true, .unsubscribe 1,
        .subscribe 1 "req_1" 2, .subscribe 0 "req_1" 1]).2.Registered := by
  constructor
  · intro h
    exact absurd (h.listens 1 "req_1" 2 (by decide)).2.1 (by decide)
  · intro h
    exact h.noTypeError 0 (by decide)

end SettlementPubSub

end FacilitatorX402
