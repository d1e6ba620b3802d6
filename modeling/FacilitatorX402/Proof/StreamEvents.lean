import FacilitatorX402.Http.SettlementStream
import FacilitatorX402.Library.Trace

/-!
# Which streams lose the last event

The route reads the row and then subscribes; the writer commits and then publishes. Over every
interleaving of the four: the client is sent the terminal event exactly if the row was read after the
commit, or the row was pending when it was read and the subscription was there before the publication.
Between the two reads nothing is heard, and for a row in processing nothing ever is.
-/

namespace FacilitatorX402.Stream

open Interact

abbrev StreamEvent := Event streamInterface Err Party

/-- The operations of the route. -/
def StreamOp.ofRoute : StreamOp → Bool
  | commit _ => false
  | publish _ => false
  | _ => true

def IsLookup (event : StreamEvent) : Prop := event.op = StreamOp.findSettlement

def IsSubscribe (event : StreamEvent) : Prop := ∃ id, event.op = StreamOp.subscribe id

def IsCommit (event : StreamEvent) : Prop := ∃ row, event.op = StreamOp.commit row

def IsPublish (event : StreamEvent) : Prop := ∃ update, event.op = StreamOp.publish update

/-- The row was looked up after the commit. -/
def LookedUpLate (history : List StreamEvent) : Prop := Followed IsCommit IsLookup history

/-- The publication came after the subscription. -/
def SubscribedEarly (history : List StreamEvent) : Prop := Followed IsSubscribe IsPublish history

/-- The client was sent the event that is published. -/
def TerminalSent (update : SettlementUpdate) (world : StreamWorld) : Prop :=
  ∃ sent ∈ world.sent, sent.event = some update.status

/-- The row before the writer moves it. -/
def Undecided (row : SettlementRow) : Prop :=
  row.settlementStatus = .pending ∨ row.settlementStatus = .processing

/-- The row the writer commits, and the event that says the same. -/
structure Decides (row : SettlementRow) (update : SettlementUpdate) : Prop where
  decided : row.settlementStatus = .confirmed ∨ row.settlementStatus = .failed
  matching : statusMap.lookup row.settlementStatus = some update.status

theorem Decides.terminal {row : SettlementRow} {update : SettlementUpdate} (h : Decides row update) :
    update.status ∈ terminalEvents := by
  have hmatching := h.matching
  rcases h.decided with hstatus | hstatus <;> rw [hstatus] at hmatching <;>
    rw [← Option.some.inj hmatching] <;> decide

/-- An undecided row is sent under another name, or under none. -/
theorem Decides.ne_undecided {row initial : SettlementRow} {update : SettlementUpdate}
    (h : Decides row update) (hinitial : Undecided initial) :
    statusMap.lookup initial.settlementStatus ≠ some update.status := by
  have hterminal := h.terminal
  intro heq
  rcases hinitial with hstatus | hstatus <;> rw [hstatus] at heq
  · obtain hname := Option.some.inj heq
    rw [← hname] at hterminal
    exact absurd hterminal (by decide)
  · cases heq

/-! ### Where the two parties are -/

section Phases

variable (requestId : String) (initial final : SettlementRow) (update : SettlementUpdate)

/-- Nothing has reached the client that matters, and nobody listens. -/
structure Quiet (world : StreamWorld) (history : List StreamEvent) : Prop where
  unsubscribed : world.subscribed = none
  unsent : ¬ TerminalSent update world
  unlistened : ∀ event ∈ history, ¬ IsSubscribe event
  notEarly : ¬ SubscribedEarly history

/-- The stream has not ended, and no timer will end it. -/
def Open (world : StreamWorld) : Prop := world.ended = false ∧ world.closing = false

inductive RouteAt : StreamProgram → StreamWorld → List StreamEvent → Prop
  | start {world history} (hquiet : Quiet update world history) (hopen : Open world)
      (hlate : ¬ LookedUpLate history) : RouteAt (streamRoute requestId) world history
  | foundLate {world history} (hquiet : Quiet update world history) (hopen : Open world)
      (hlate : LookedUpLate history) : RouteAt (streamFound requestId (some final)) world history
  | foundEarly {world history} (hquiet : Quiet update world history) (hopen : Open world)
      (hlate : ¬ LookedUpLate history) : RouteAt (streamFound requestId (some initial)) world history
  | told {program world history} (hprogram : program = close ∨ program = .ret ())
      (hlate : LookedUpLate history) (hsent : TerminalSent update world) :
      RouteAt program world history
  | processing {program world history} (hprogram : program = close ∨ program = .ret ())
      (hquiet : Quiet update world history) (hlate : ¬ LookedUpLate history)
      (hstatus : initial.settlementStatus ≠ .pending) : RouteAt program world history
  | pending {world history} (hquiet : Quiet update world history) (hopen : Open world)
      (hlate : ¬ LookedUpLate history) (hstatus : initial.settlementStatus = .pending) :
      RouteAt (subscribeToSettlement requestId) world history
  | listening {world history} (hsubscribed : world.subscribed = some requestId)
      (hlistened : ∃ event ∈ history, IsSubscribe event)
      (hopen : (∀ event ∈ history, ¬ IsPublish event) → Open world)
      (hsent : TerminalSent update world ↔ SubscribedEarly history)
      (hlate : ¬ LookedUpLate history) (hstatus : initial.settlementStatus = .pending) :
      RouteAt (.ret ()) world history

inductive WriterAt : StreamProgram → StreamWorld → List StreamEvent → Prop
  | start {world history} (hrow : world.row = some initial)
      (hcommit : ∀ event ∈ history, ¬ IsCommit event)
      (hpublish : ∀ event ∈ history, ¬ IsPublish event) :
      WriterAt (settlementWriter final update) world history
  | committed {world history} (hrow : world.row = some final)
      (hcommit : ∃ event ∈ history, IsCommit event)
      (hpublish : ∀ event ∈ history, ¬ IsPublish event) :
      WriterAt (publishSettlementUpdate update) world history
  | published {world history} (hrow : world.row = some final)
      (hcommit : ∃ event ∈ history, IsCommit event) : WriterAt (.ret ()) world history

structure StreamInv (cfg : Config streamMachine Unit) : Prop where
  route : RouteAt requestId initial final update (cfg.calls .route) cfg.world cfg.history
  writer : WriterAt initial final update (cfg.calls .writer) cfg.world cfg.history

end Phases

variable {requestId : String} {initial final : SettlementRow} {update : SettlementUpdate}

/-! ### Steps of the writer, seen by the route -/

/-- An event of another kind leaves the order of the others as it is. -/
theorem lookedUpLate_cons {event : StreamEvent} {history : List StreamEvent} (h : ¬ IsLookup event) :
    LookedUpLate (event :: history) ↔ LookedUpLate history := by
  simp [LookedUpLate, Followed, h]

theorem subscribedEarly_cons {event : StreamEvent} {history : List StreamEvent}
    (h : ¬ IsPublish event) : SubscribedEarly (event :: history) ↔ SubscribedEarly history := by
  simp [SubscribedEarly, Followed, h]

theorem Quiet.cons {world world' : StreamWorld} {event : StreamEvent} {history : List StreamEvent}
    (h : Quiet update world history) (hsubscribe : ¬ IsSubscribe event)
    (hsubscribed : world'.subscribed = world.subscribed)
    (hsent : TerminalSent update world' → TerminalSent update world) :
    Quiet update world' (event :: history) := by
  refine ⟨hsubscribed.trans h.unsubscribed, fun hterminal => h.unsent (hsent hterminal), ?_, ?_⟩
  · rintro other (_ | ⟨_, hmem⟩)
    · exact hsubscribe
    · exact h.unlistened other hmem
  · rintro (hearly | ⟨-, other, hmem, hother⟩)
    · exact h.notEarly hearly
    · exact h.unlistened other hmem hother

/-- The commit changes the row and nothing that the route has seen. -/
theorem RouteAt.commit {program : StreamProgram} {world : StreamWorld} {history : List StreamEvent}
    (h : RouteAt requestId initial final update program world history) {row : SettlementRow}
    (answer : Except Err Unit) : RouteAt requestId initial final update program { world with row := some row }
      (⟨.writer, StreamOp.commit row, answer⟩ :: history) := by
  have hlookup : ¬ IsLookup (⟨.writer, StreamOp.commit row, answer⟩ : StreamEvent) := fun h => nomatch h
  have hsubscribe : ¬ IsSubscribe (⟨.writer, StreamOp.commit row, answer⟩ : StreamEvent) :=
    fun ⟨_, h⟩ => nomatch h
  have hpublish : ¬ IsPublish (⟨.writer, StreamOp.commit row, answer⟩ : StreamEvent) :=
    fun ⟨_, h⟩ => nomatch h
  cases h with
  | start hquiet hopen hlate =>
      exact .start (hquiet.cons hsubscribe rfl id) hopen (mt (lookedUpLate_cons hlookup).mp hlate)
  | foundLate hquiet hopen hlate =>
      exact .foundLate (hquiet.cons hsubscribe rfl id) hopen ((lookedUpLate_cons hlookup).mpr hlate)
  | foundEarly hquiet hopen hlate =>
      exact .foundEarly (hquiet.cons hsubscribe rfl id) hopen (mt (lookedUpLate_cons hlookup).mp hlate)
  | told hprogram hlate hsent =>
      exact .told hprogram ((lookedUpLate_cons hlookup).mpr hlate) hsent
  | processing hprogram hquiet hlate hstatus =>
      exact .processing hprogram (hquiet.cons hsubscribe rfl id)
        (mt (lookedUpLate_cons hlookup).mp hlate) hstatus
  | pending hquiet hopen hlate hstatus =>
      exact .pending (hquiet.cons hsubscribe rfl id) hopen (mt (lookedUpLate_cons hlookup).mp hlate)
        hstatus
  | listening hsubscribed hlistened hopen hsent hlate hstatus =>
      obtain ⟨event, hmem, hevent⟩ := hlistened
      exact .listening hsubscribed ⟨event, List.mem_cons_of_mem _ hmem, hevent⟩
        (fun hnone => hopen fun other hother => hnone other (List.mem_cons_of_mem _ hother))
        (hsent.trans (subscribedEarly_cons hpublish).symm) (mt (lookedUpLate_cons hlookup).mp hlate)
        hstatus

/-- The publication reaches the client exactly if the callback listens. -/
theorem RouteAt.publish {program : StreamProgram} {world : StreamWorld} {history : List StreamEvent}
    (h : RouteAt requestId initial final update program world history)
    (hfirst : ∀ event ∈ history, ¬ IsPublish event) (answer : Except Err Unit) :
    RouteAt requestId initial final update program
      (world.publish update)
      (⟨.writer, StreamOp.publish update, answer⟩ :: history) := by
  have hlookup : ¬ IsLookup (⟨.writer, StreamOp.publish update, answer⟩ : StreamEvent) :=
    fun h => nomatch h
  have hsubscribe : ¬ IsSubscribe (⟨.writer, StreamOp.publish update, answer⟩ : StreamEvent) :=
    fun ⟨_, h⟩ => nomatch h
  have hpublish : IsPublish (⟨.writer, StreamOp.publish update, answer⟩ : StreamEvent) := ⟨_, rfl⟩
  have hlate : LookedUpLate (⟨.writer, StreamOp.publish update, answer⟩ :: history) ↔
      LookedUpLate history := lookedUpLate_cons hlookup
  rw [StreamWorld.publish]
  cases h with
  | start hquiet hopen hnot =>
      rw [hquiet.unsubscribed]
      exact .start (hquiet.cons hsubscribe rfl id) hopen (mt hlate.mp hnot)
  | foundLate hquiet hopen hyes =>
      rw [hquiet.unsubscribed]
      exact .foundLate (hquiet.cons hsubscribe rfl id) hopen (hlate.mpr hyes)
  | foundEarly hquiet hopen hnot =>
      rw [hquiet.unsubscribed]
      exact .foundEarly (hquiet.cons hsubscribe rfl id) hopen (mt hlate.mp hnot)
  | told hprogram hyes hsent =>
      refine .told hprogram (hlate.mpr hyes) ?_
      obtain ⟨sent, hmem, hevent⟩ := hsent
      cases world.subscribed with
      | none => exact ⟨sent, hmem, hevent⟩
      | some subscriber =>
          refine ⟨sent, ?_, hevent⟩
          simp only [StreamWorld.deliver, StreamWorld.write]
          split
          · exact hmem
          · exact List.mem_cons_of_mem _ hmem
  | processing hprogram hquiet hnot hstatus =>
      rw [hquiet.unsubscribed]
      exact .processing hprogram (hquiet.cons hsubscribe rfl id) (mt hlate.mp hnot) hstatus
  | pending hquiet hopen hnot hstatus =>
      rw [hquiet.unsubscribed]
      exact .pending (hquiet.cons hsubscribe rfl id) hopen (mt hlate.mp hnot) hstatus
  | listening hsubscribed hlistened hopen hsent hnot hstatus =>
      obtain ⟨hended, -⟩ := hopen hfirst
      obtain ⟨event, hmem, hevent⟩ := hlistened
      rw [hsubscribed]
      refine .listening ?_ ⟨event, List.mem_cons_of_mem _ hmem, hevent⟩ (fun hnone => ?_)
        ⟨fun _ => .inr ⟨hpublish, event, hmem, hevent⟩, fun _ => ?_⟩ (mt hlate.mp hnot) hstatus
      · simp [StreamWorld.deliver, StreamWorld.write, hended, hsubscribed]
      · exact absurd hpublish (hnone _ List.mem_cons_self)
      · refine ⟨⟨some update.status, .realtime requestId update⟩, ?_, rfl⟩
        simp [StreamWorld.deliver, StreamWorld.write, hended]

/-- The timer ends only a stream whose last event was sent. -/
theorem RouteAt.timer {program : StreamProgram} {world : StreamWorld} {history : List StreamEvent}
    (h : RouteAt requestId initial final update program world history)
    (hclosing : world.closing = true) :
    RouteAt requestId initial final update program { world with ended := true } history := by
  have hnotOpen : ∀ {P : Prop}, Open world → P := fun hopen =>
    absurd (hclosing.symm.trans hopen.2) (by decide)
  cases h with
  | start _ hopen => exact hnotOpen hopen
  | foundLate _ hopen => exact hnotOpen hopen
  | foundEarly _ hopen => exact hnotOpen hopen
  | told hprogram hyes hsent => exact .told hprogram hyes hsent
  | processing hprogram hquiet hnot hstatus =>
      exact .processing hprogram ⟨hquiet.unsubscribed, hquiet.unsent, hquiet.unlistened,
        hquiet.notEarly⟩ hnot hstatus
  | pending _ hopen => exact hnotOpen hopen
  | listening hsubscribed hlistened hopen hsent hnot hstatus =>
      exact .listening hsubscribed hlistened (fun hnone => hnotOpen (hopen hnone)) hsent hnot hstatus

/-! ### Steps of the route -/

/-- The route does not move the row. -/
theorem WriterAt.cons {program : StreamProgram} {world world' : StreamWorld} {event : StreamEvent}
    {history : List StreamEvent} (h : WriterAt initial final update program world history)
    (hrow : world'.row = world.row) (hop : StreamOp.ofRoute event.op = true) :
    WriterAt initial final update program world' (event :: history) := by
  have hcommit : ¬ IsCommit event := by
    rintro ⟨row, heq⟩
    rw [heq] at hop
    cases hop
  have hpublish : ¬ IsPublish event := by
    rintro ⟨update, heq⟩
    rw [heq] at hop
    cases hop
  have hcons : ∀ {P : StreamEvent → Prop}, ¬ P event → (∀ other ∈ history, ¬ P other) →
      ∀ other ∈ event :: history, ¬ P other := by
    rintro P hevent hall other (_ | ⟨_, hmem⟩)
    · exact hevent
    · exact hall other hmem
  cases h with
  | start hold hnocommit hnopublish =>
      exact .start (hrow.trans hold) (hcons hcommit hnocommit) (hcons hpublish hnopublish)
  | committed hold hsome hnopublish =>
      obtain ⟨other, hmem, hother⟩ := hsome
      exact .committed (hrow.trans hold) ⟨other, List.mem_cons_of_mem _ hmem, hother⟩
        (hcons hpublish hnopublish)
  | published hold hsome =>
      obtain ⟨other, hmem, hother⟩ := hsome
      exact .published (hrow.trans hold) ⟨other, List.mem_cons_of_mem _ hmem, hother⟩

theorem RouteAt.lookup {world : StreamWorld} {history : List StreamEvent} {program : StreamProgram}
    (hquiet : Quiet update world history) (hopen : Open world) (hlate : ¬ LookedUpLate history)
    (hwriter : WriterAt initial final update program world history)
    (answer : Except Err (Option SettlementRow)) :
    RouteAt requestId initial final update (streamFound requestId world.row) world
      (⟨.route, StreamOp.findSettlement, answer⟩ :: history) := by
  have hnosubscribe : ¬ IsSubscribe (⟨.route, StreamOp.findSettlement, answer⟩ : StreamEvent) :=
    fun ⟨_, h⟩ => nomatch h
  have hquiet' := hquiet.cons hnosubscribe rfl id
  cases hwriter with
  | start hrow hnocommit =>
      rw [hrow]
      refine .foundEarly hquiet' hopen ?_
      rintro (hold | ⟨-, other, hmem, hother⟩)
      · exact hlate hold
      · exact hnocommit other hmem hother
  | committed hrow hcommit =>
      rw [hrow]
      exact .foundLate hquiet' hopen (.inr ⟨rfl, hcommit⟩)
  | published hrow hcommit =>
      rw [hrow]
      exact .foundLate hquiet' hopen (.inr ⟨rfl, hcommit⟩)

/-- A route program once it stands at its first operation. -/
theorem streamRoute_eq : streamRoute requestId = .perform StreamOp.findSettlement fun
    | .ok row => streamFound requestId row
    | .error error => .throw error := by
  rw [streamRoute]
  refine congrArg (Program.perform (I := streamInterface) StreamOp.findSettlement) (funext fun answer => ?_)
  cases answer <;> rfl

theorem streamFound_eq (row : SettlementRow) : streamFound requestId (some row) =
    .perform (StreamOp.send (dbEvent requestId row)) fun
      | .ok _ => if row.settlementStatus ≠ .pending then close else subscribeToSettlement requestId
      | .error error => .throw error := by
  rw [streamFound]
  refine congrArg (Program.perform (I := streamInterface) (StreamOp.send (dbEvent requestId row)))
    (funext fun answer => ?_)
  cases answer <;> rfl

theorem call_eq (op : StreamOp) : call op = .perform op fun
    | .ok value => .ret value
    | .error error => .throw error := by
  rw [call, Program.call]
  refine congrArg (Program.perform (I := streamInterface) op) (funext fun answer => ?_)
  cases answer <;> rfl

theorem settlementWriter_eq (row : SettlementRow) : settlementWriter row update =
    .perform (StreamOp.commit row) fun
      | .ok _ => publishSettlementUpdate update
      | .error error => .throw error := by
  rw [settlementWriter]
  refine congrArg (Program.perform (I := streamInterface) (StreamOp.commit row)) (funext fun answer => ?_)
  cases answer <;> rfl

/-- What the route sends of a row that it found while the stream was open. -/
theorem terminalSent_write {world : StreamWorld} (hopen : Open world) (event : SentEvent) :
    TerminalSent update (world.write event) ↔
      event.event = some update.status ∨ TerminalSent update world := by
  simp [TerminalSent, StreamWorld.write, hopen.1]

theorem RouteAt.send (hdecides : Decides final update) (hinitial : Undecided initial)
    {world : StreamWorld} {history : List StreamEvent} {row : SettlementRow}
    (hquiet : Quiet update world history) (hopen : Open world)
    (hrow : (row = final ∧ LookedUpLate history) ∨ (row = initial ∧ ¬ LookedUpLate history))
    (answer : Except Err Unit) :
    RouteAt requestId initial final update
      (if row.settlementStatus ≠ .pending then close else subscribeToSettlement requestId)
      (world.write (dbEvent requestId row))
      (⟨.route, StreamOp.send (dbEvent requestId row), answer⟩ :: history) := by
  have hlookup : ¬ IsLookup (⟨.route, StreamOp.send (dbEvent requestId row), answer⟩ : StreamEvent) :=
    fun h => nomatch h
  have hsubscribe : ¬ IsSubscribe
      (⟨.route, StreamOp.send (dbEvent requestId row), answer⟩ : StreamEvent) := fun ⟨_, h⟩ => nomatch h
  have hsubscribed : (world.write (dbEvent requestId row)).subscribed = world.subscribed := by
    simp [StreamWorld.write, hopen.1]
  have hstillOpen : Open (world.write (dbEvent requestId row)) := by
    simpa [Open, StreamWorld.write, hopen.1] using hopen
  rcases hrow with ⟨rfl, hlate⟩ | ⟨rfl, hlate⟩
  · have hstatus : row.settlementStatus ≠ .pending := by
      rcases hdecides.decided with h | h <;> rw [h] <;> decide
    rw [if_pos hstatus]
    exact .told (.inl rfl) ((lookedUpLate_cons hlookup).mpr hlate)
      ((terminalSent_write hopen _).mpr (.inl hdecides.matching))
  · have hquiet' := hquiet.cons hsubscribe hsubscribed fun hsent =>
      ((terminalSent_write hopen _).mp hsent).resolve_left (hdecides.ne_undecided hinitial)
    have hlate' := mt (lookedUpLate_cons hlookup).mp hlate
    by_cases hstatus : row.settlementStatus ≠ .pending
    · rw [if_pos hstatus]
      exact .processing (.inl rfl) hquiet' hlate' hstatus
    · rw [if_neg hstatus]
      exact .pending hquiet' hstillOpen hlate' (not_not.mp hstatus)

theorem RouteAt.subscribe {world : StreamWorld} {history : List StreamEvent}
    (hquiet : Quiet update world history) (hopen : Open world) (hlate : ¬ LookedUpLate history)
    (hstatus : initial.settlementStatus = .pending) (answer : Except Err Unit) :
    RouteAt requestId initial final update (.ret ()) { world with subscribed := some requestId }
      (⟨.route, StreamOp.subscribe requestId, answer⟩ :: history) := by
  have hlookup : ¬ IsLookup (⟨.route, StreamOp.subscribe requestId, answer⟩ : StreamEvent) :=
    fun h => nomatch h
  have hpublish : ¬ IsPublish (⟨.route, StreamOp.subscribe requestId, answer⟩ : StreamEvent) :=
    fun ⟨_, h⟩ => nomatch h
  exact .listening rfl ⟨_, List.mem_cons_self, _, rfl⟩ (fun _ => hopen)
    ⟨fun hsent => absurd hsent hquiet.unsent, fun hearly =>
      absurd ((subscribedEarly_cons hpublish).mp hearly) hquiet.notEarly⟩
    (mt (lookedUpLate_cons hlookup).mp hlate) hstatus

theorem RouteAt.close {world : StreamWorld} {history : List StreamEvent}
    (h : RouteAt requestId initial final update Stream.close world history) (answer : Except Err Unit) :
    RouteAt requestId initial final update (.ret ()) { world with ended := true }
      (⟨.route, StreamOp.close, answer⟩ :: history) := by
  have hlookup : ¬ IsLookup (⟨.route, StreamOp.close, answer⟩ : StreamEvent) := fun h => nomatch h
  have hsubscribe : ¬ IsSubscribe (⟨.route, StreamOp.close, answer⟩ : StreamEvent) :=
    fun ⟨_, h⟩ => nomatch h
  generalize hprogram : Stream.close = program at h
  cases h with
  | told _ hlate hsent => exact .told (.inr rfl) ((lookedUpLate_cons hlookup).mpr hlate) hsent
  | processing _ hquiet hlate hstatus =>
      exact .processing (.inr rfl) (hquiet.cons hsubscribe rfl id)
        (mt (lookedUpLate_cons hlookup).mp hlate) hstatus
  | start =>
      rw [Stream.close, call_eq, streamRoute_eq] at hprogram
      cases hprogram
  | foundLate =>
      rw [Stream.close, call_eq, streamFound_eq] at hprogram
      cases hprogram
  | foundEarly =>
      rw [Stream.close, call_eq, streamFound_eq] at hprogram
      cases hprogram
  | pending =>
      rw [Stream.close, subscribeToSettlement, call_eq, call_eq] at hprogram
      cases hprogram
  | listening =>
      rw [Stream.close, call_eq] at hprogram
      cases hprogram

/-! ### Every step -/

theorem WriterAt.world {program : StreamProgram} {world world' : StreamWorld}
    {history : List StreamEvent} (h : WriterAt initial final update program world history)
    (hrow : world'.row = world.row) : WriterAt initial final update program world' history := by
  cases h with
  | start hold hcommit hpublish => exact .start (hrow.trans hold) hcommit hpublish
  | committed hold hcommit hpublish => exact .committed (hrow.trans hold) hcommit hpublish
  | published hold hcommit => exact .published (hrow.trans hold) hcommit

/-- What the writer does next, and where it is then. -/
theorem StreamInv.writerStep {cfg : Config streamMachine Unit}
    (h : StreamInv requestId initial final update cfg) {op : streamInterface.Op}
    {next : Except Err (streamInterface.Ans op) → StreamProgram} {outcome : streamMachine.Outcome}
    {answer : Except Err (streamInterface.Ans op)} {world : streamMachine.World}
    (hcall : cfg.calls .writer = .perform op next)
    (hexec : streamMachine.exec .writer cfg.world op outcome = some (answer, world)) :
    StreamInv requestId initial final update (cfg.perform .writer op next answer world) := by
  have hwriter := h.writer
  generalize hprogram : cfg.calls .writer = program at hwriter
  rw [hcall] at hprogram
  refine ⟨?_, ?_⟩
  · rw [Config.perform_calls_of_ne _ (by decide)]
    cases hwriter with
    | start =>
        rw [settlementWriter_eq] at hprogram
        cases hprogram
        obtain ⟨-, rfl⟩ := Prod.mk.inj (Option.some.inj hexec)
        exact h.route.commit answer
    | committed _ _ hfirst =>
        rw [publishSettlementUpdate, call_eq] at hprogram
        cases hprogram
        obtain ⟨-, rfl⟩ := Prod.mk.inj (Option.some.inj hexec)
        exact h.route.publish hfirst answer
    | published => cases hprogram
  · rw [Config.perform_calls_self]
    cases hwriter with
    | start _ _ hfirst =>
        rw [settlementWriter_eq] at hprogram
        cases hprogram
        obtain ⟨rfl, rfl⟩ := Prod.mk.inj (Option.some.inj hexec)
        refine .committed rfl ⟨_, List.mem_cons_self, _, rfl⟩ ?_
        rintro event (_ | ⟨_, hmem⟩)
        · exact fun ⟨_, h⟩ => nomatch h
        · exact hfirst event hmem
    | committed hrow hcommit _ =>
        rw [publishSettlementUpdate, call_eq] at hprogram
        cases hprogram
        obtain ⟨rfl, rfl⟩ := Prod.mk.inj (Option.some.inj hexec)
        obtain ⟨event, hmem, hevent⟩ := hcommit
        exact .published ((publish_row _ update).trans hrow)
          ⟨event, List.mem_cons_of_mem _ hmem, hevent⟩
    | published => cases hprogram

/-- What the route does next, and where it is then. -/
theorem StreamInv.routeStep (hdecides : Decides final update) (hinitial : Undecided initial)
    {cfg : Config streamMachine Unit} (h : StreamInv requestId initial final update cfg)
    {op : streamInterface.Op} {next : Except Err (streamInterface.Ans op) → StreamProgram}
    {outcome : streamMachine.Outcome} {answer : Except Err (streamInterface.Ans op)}
    {world : streamMachine.World} (hcall : cfg.calls .route = .perform op next)
    (hexec : streamMachine.exec .route cfg.world op outcome = some (answer, world)) :
    RouteAt requestId initial final update (next answer) world (⟨.route, op, answer⟩ :: cfg.history) ∧
      StreamWorld.row world = StreamWorld.row cfg.world ∧ StreamOp.ofRoute op = true := by
  have hroute := h.route
  have hclose : RouteAt requestId initial final update Stream.close cfg.world cfg.history →
      (.perform op next : StreamProgram) = Stream.close →
      RouteAt requestId initial final update (next answer) world
        (⟨.route, op, answer⟩ :: cfg.history) ∧
        StreamWorld.row world = StreamWorld.row cfg.world ∧ StreamOp.ofRoute op = true := by
    intro hat hprogram
    rw [Stream.close, call_eq] at hprogram
    cases hprogram
    obtain ⟨rfl, rfl⟩ := Prod.mk.inj (Option.some.inj hexec)
    exact ⟨hat.close _, rfl, rfl⟩
  generalize hprogram : cfg.calls .route = program at hroute
  rw [hcall] at hprogram
  cases hroute with
  | start hquiet hopen hlate =>
      rw [streamRoute_eq] at hprogram
      cases hprogram
      obtain ⟨rfl, rfl⟩ := Prod.mk.inj (Option.some.inj hexec)
      exact ⟨.lookup hquiet hopen hlate h.writer _, rfl, rfl⟩
  | foundLate hquiet hopen hlate =>
      rw [streamFound_eq] at hprogram
      cases hprogram
      obtain ⟨rfl, rfl⟩ := Prod.mk.inj (Option.some.inj hexec)
      exact ⟨.send hdecides hinitial hquiet hopen (.inl ⟨rfl, hlate⟩) _, write_row _ _, rfl⟩
  | foundEarly hquiet hopen hlate =>
      rw [streamFound_eq] at hprogram
      cases hprogram
      obtain ⟨rfl, rfl⟩ := Prod.mk.inj (Option.some.inj hexec)
      exact ⟨.send hdecides hinitial hquiet hopen (.inr ⟨rfl, hlate⟩) _, write_row _ _, rfl⟩
  | told hwhere hlate hsent =>
      rcases hwhere with rfl | rfl
      · exact hclose (.told (.inl rfl) hlate hsent) hprogram
      · cases hprogram
  | processing hwhere hquiet hlate hstatus =>
      rcases hwhere with rfl | rfl
      · exact hclose (.processing (.inl rfl) hquiet hlate hstatus) hprogram
      · cases hprogram
  | pending hquiet hopen hlate hstatus =>
      rw [subscribeToSettlement, call_eq] at hprogram
      cases hprogram
      obtain ⟨rfl, rfl⟩ := Prod.mk.inj (Option.some.inj hexec)
      exact ⟨.subscribe hquiet hopen hlate hstatus _, rfl, rfl⟩
  | listening => cases hprogram

theorem StreamInv.step (hdecides : Decides final update) (hinitial : Undecided initial)
    {cfg cfg' : Config streamMachine Unit} (h : StreamInv requestId initial final update cfg)
    (hstep : Config.Step Config.anyStep cfg cfg') : StreamInv requestId initial final update cfg' := by
  cases hstep with
  | env henv =>
      simp only [streamMachine, streamTimer] at henv
      split at henv
      · rename_i hclosing
        obtain rfl := Option.some.inj henv
        exact ⟨h.route.timer hclosing, h.writer.world rfl⟩
      · cases henv
  | @call who op next outcome answer world hcall hexec _ =>
      cases who with
      | writer => exact h.writerStep hcall hexec
      | route =>
          obtain ⟨hroute, hrow, hop⟩ := h.routeStep hdecides hinitial hcall hexec
          refine ⟨?_, ?_⟩
          · rw [Config.perform_calls_self]
            exact hroute
          · rw [Config.perform_calls_of_ne _ (by decide)]
            exact h.writer.cons hrow hop

theorem streamInv_start : StreamInv requestId initial final update
    (streamStart requestId initial final update) := by
  refine ⟨.start ⟨rfl, ?_, ?_, id⟩ ⟨rfl, rfl⟩ id, .start rfl ?_ ?_⟩
  · rintro ⟨_, hmem, _⟩
    cases hmem
  all_goals exact fun _ hmem => nomatch hmem

/-- Over every interleaving, once the route is done, and the writer or not: the client was sent the terminal
event exactly if the lookup came after the commit, or the row was pending and the subscription came
before the publication. -/
theorem terminal_sent_iff (hdecides : Decides final update) (hinitial : Undecided initial)
    {cfg : Config streamMachine Unit}
    (h : Config.Reachable Config.anyStep (streamStart requestId initial final update) cfg)
    (hroute : cfg.Finished .route) :
    TerminalSent update cfg.world ↔ LookedUpLate cfg.history ∨
      initial.settlementStatus = .pending ∧ SubscribedEarly cfg.history := by
  have hinv := Config.Reachable.invariant (fun _ _ hinv hstep => StreamInv.step hdecides hinitial hinv hstep)
    h streamInv_start
  have hat := hinv.route
  generalize hprogram : cfg.calls .route = program at hat
  rw [Config.Finished, hprogram] at hroute
  cases hat with
  | start =>
      rw [streamRoute_eq] at hroute
      exact absurd rfl hroute
  | foundLate =>
      rw [streamFound_eq] at hroute
      exact absurd rfl hroute
  | foundEarly =>
      rw [streamFound_eq] at hroute
      exact absurd rfl hroute
  | told _ hlate hsent => exact ⟨fun _ => .inl hlate, fun _ => hsent⟩
  | processing _ hquiet hlate hstatus =>
      exact ⟨fun hsent => absurd hsent hquiet.unsent, fun h =>
        h.elim (fun hl => absurd hl hlate) fun hp => absurd hp.1 hstatus⟩
  | pending =>
      rw [subscribeToSettlement, call_eq] at hroute
      exact absurd rfl hroute
  | listening _ _ _ hsent hlate hstatus =>
      exact ⟨fun h => .inr ⟨hstatus, hsent.mp h⟩, fun h =>
        hsent.mpr (h.resolve_left hlate).2⟩

/-! ### Three interleavings -/

def sampleRow (status : SettlementStatus) : SettlementRow := ⟨status, none, none⟩

def sampleUpdate : SettlementUpdate := ⟨"settlement.confirmed", none, none, none, "0"⟩

def sampleStart (status : SettlementStatus) : Config streamMachine Unit :=
  streamStart "req_1" (sampleRow status) (sampleRow .confirmed) sampleUpdate

theorem sample_decides : Decides (sampleRow .confirmed) sampleUpdate := ⟨.inl rfl, rfl⟩

/-- A schedule, by who moves. -/
def schedule (parties : List Party) : List (Move streamMachine) := parties.map fun who => .call who ()

/-- Both parties are done, and the client was sent the event or not. -/
def endsWith (sent : Bool) (cfg : Config streamMachine Unit) : Bool :=
  (cfg.calls .route).result?.isSome && (cfg.calls .writer).result?.isSome &&
    (StreamWorld.sent cfg.world).any (·.event = some sampleUpdate.status) == sent

theorem of_endsWith_false {cfg : Config streamMachine Unit} (h : endsWith false cfg = true) :
    cfg.Finished .route ∧ cfg.Finished .writer ∧ ¬ TerminalSent sampleUpdate cfg.world := by
  simp only [endsWith, Bool.and_eq_true, beq_iff_eq, List.any_eq_false] at h
  obtain ⟨⟨hroute, hwriter⟩, hsent⟩ := h
  refine ⟨Option.isSome_iff_ne_none.mp hroute, Option.isSome_iff_ne_none.mp hwriter, ?_⟩
  rintro ⟨sent, hmem, hevent⟩
  exact hsent sent hmem (decide_eq_true hevent)

def subscribedFirst : List (Move streamMachine) :=
  schedule [.route, .route, .route, .writer, .writer]

/-- The row is pending and the route subscribes before the writer commits. -/
theorem terminal_sent_subscribed : ∃ cfg,
    Config.Reachable Config.anyStep (sampleStart .pending) cfg ∧ cfg.Finished .writer ∧
      TerminalSent sampleUpdate cfg.world := by
  have hrun : (sampleStart .pending).run subscribedFirst =
      some (((sampleStart .pending).run subscribedFirst).get rfl) := rfl
  have hreach := Config.reachable_of_run hrun
  have hroute : Config.Finished (((sampleStart .pending).run subscribedFirst).get rfl) .route :=
    Option.isSome_iff_ne_none.mp rfl
  have hwriter : Config.Finished (((sampleStart .pending).run subscribedFirst).get rfl) .writer :=
    Option.isSome_iff_ne_none.mp rfl
  have hearly : SubscribedEarly
      (Config.history (((sampleStart .pending).run subscribedFirst).get rfl)) :=
    .inr ⟨⟨_, rfl⟩, _, List.mem_cons_of_mem _ List.mem_cons_self, _, rfl⟩
  exact ⟨_, hreach, hwriter, (terminal_sent_iff sample_decides (.inl rfl) hreach hroute).mpr
    (.inr ⟨rfl, hearly⟩)⟩

/-- The event is lost for a row in processing, and for a pending row when the writer commits and
publishes between the lookup and the subscription. -/
theorem terminal_event_lost :
    (∃ cfg, Config.Reachable Config.anyStep (sampleStart .processing) cfg ∧
      cfg.Finished .route ∧ cfg.Finished .writer ∧ ¬ TerminalSent sampleUpdate cfg.world) ∧
    ∃ cfg, Config.Reachable Config.anyStep (sampleStart .pending) cfg ∧
      cfg.Finished .route ∧ cfg.Finished .writer ∧ ¬ TerminalSent sampleUpdate cfg.world := by
  have hprocessing : ((sampleStart .processing).run
      (schedule [.route, .route, .route, .writer, .writer])).map (endsWith false) = some true := by
    decide
  have hrace : ((sampleStart .pending).run
      (schedule [.route, .route, .writer, .writer, .route])).map (endsWith false) = some true := by
    decide
  obtain ⟨cfg, hreach, hlost⟩ := Config.exists_reachable_of_run hprocessing
  obtain ⟨cfg', hreach', hlost'⟩ := Config.exists_reachable_of_run hrace
  exact ⟨⟨cfg, hreach, of_endsWith_false hlost⟩, cfg', hreach', of_endsWith_false hlost'⟩

end FacilitatorX402.Stream
