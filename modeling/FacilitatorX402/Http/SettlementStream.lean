import FacilitatorX402.Infrastructure.Surroundings

/-!
# The settlement stream

`GET /settlements/:id/stream` and the bridge it hangs on: the route looks the row up, then subscribes;
the writer of the row commits, then publishes. A published message reaches the callbacks that are
subscribed at that moment. Heartbeats are left out, and so are the client's own end of the connection
and the time limit of the stream.
-/

namespace FacilitatorX402.Stream

open Interact

/-- The columns of the row that the route reads. -/
structure SettlementRow where
  settlementStatus : SettlementStatus
  txHash : Option String
  confirmedAt : Option Nat
  deriving DecidableEq

/-- What is published: the status is the name of an event. -/
structure SettlementUpdate where
  status : String
  txHash : Option String
  receiptId : Option String
  errorReason : Option String
  timestamp : String
  deriving DecidableEq

inductive StreamData where
  | db (requestId : String) (row : SettlementRow)
  | realtime (requestId : String) (update : SettlementUpdate)
  deriving DecidableEq

/-- An event as it is written to the client. The name is undefined for a status that the map of the
route does not have. -/
structure SentEvent where
  event : Option String
  data : StreamData
  deriving DecidableEq

inductive StreamOp where
  | findSettlement
  | send (event : SentEvent)
  | close
  | subscribe (requestId : String)
  | commit (row : SettlementRow)
  | publish (update : SettlementUpdate)
  deriving DecidableEq

def StreamOp.Ans : StreamOp → Type
  | findSettlement => Option SettlementRow
  | _ => Unit

abbrev streamInterface : Interface := ⟨StreamOp, StreamOp.Ans⟩

abbrev StreamProgram := Program streamInterface Err Unit

def statusMap : List (SettlementStatus × String) :=
  [(.confirmed, "settlement.confirmed"), (.failed, "settlement.failed"),
    (.pending, "settlement.pending")]

def terminalEvents : List String := ["settlement.confirmed", "settlement.failed"]

/-- The event the route sends for the row it has found. -/
def dbEvent (id : String) (row : SettlementRow) : SentEvent :=
  { event := statusMap.lookup row.settlementStatus, data := .db id row }

def call (op : StreamOp) : Program streamInterface Err op.Ans := Program.call (I := streamInterface) op

def findSettlement : Program streamInterface Err (Option SettlementRow) := call .findSettlement

def send (event : SentEvent) : StreamProgram := call (.send event)

def close : StreamProgram := call .close

def subscribeToSettlement (id : String) : StreamProgram := call (.subscribe id)

def publishSettlementUpdate (update : SettlementUpdate) : StreamProgram := call (.publish update)

/-- The handler, once the lookup has answered. -/
def streamFound (id : String) : Option SettlementRow → StreamProgram
  | none => subscribeToSettlement id
  | some row => do
      send (dbEvent id row)
      if row.settlementStatus ≠ .pending then close else subscribeToSettlement id

def streamRoute (id : String) : StreamProgram := do
  let settlement ← findSettlement
  streamFound id settlement

/-- Who moves the row: it commits the new status, and then publishes the event. -/
def settlementWriter (row : SettlementRow) (update : SettlementUpdate) : StreamProgram := do
  call (.commit row)
  publishSettlementUpdate update

/-! ### The world of one stream -/

/-- The row of the request, whether the callback of the route is subscribed, and what the client was
sent. A stream that is closing ends when its timer fires. -/
structure StreamWorld where
  row : Option SettlementRow
  subscribed : Option String
  sent : List SentEvent
  closing : Bool
  ended : Bool
  deriving DecidableEq

/-- `send`: nothing is written once the stream has ended. -/
def StreamWorld.write (world : StreamWorld) (event : SentEvent) : StreamWorld :=
  if world.ended then world else { world with sent := event :: world.sent }

/-- The callback of the route. -/
def StreamWorld.deliver (world : StreamWorld) (id : String) (update : SettlementUpdate) :
    StreamWorld :=
  { world.write ⟨some update.status, .realtime id update⟩ with
    closing := world.closing || terminalEvents.contains update.status }

/-- A published message reaches the callback that is subscribed, and nobody else. -/
def StreamWorld.publish (world : StreamWorld) (update : SettlementUpdate) : StreamWorld :=
  match world.subscribed with
  | none => world
  | some id => world.deliver id update

inductive Party where
  | route
  | writer
  deriving DecidableEq

def streamExec (world : StreamWorld) :
    (op : StreamOp) → Unit → Option (Except Err op.Ans × StreamWorld)
  | .findSettlement, _ => some (.ok world.row, world)
  | .send event, _ => some (.ok (), world.write event)
  | .close, _ => some (.ok (), { world with ended := true })
  | .subscribe id, _ => some (.ok (), { world with subscribed := some id })
  | .commit row, _ => some (.ok (), { world with row := some row })
  | .publish update, _ => some (.ok (), world.publish update)

/-- The timer that ends a stream after its last event. -/
def streamTimer (world : StreamWorld) (_ : Unit) : Option StreamWorld :=
  if world.closing then some { world with ended := true } else none

def streamMachine : Machine streamInterface Err Party where
  World := StreamWorld
  Outcome := Unit
  Env := Unit
  exec _ := streamExec
  env := streamTimer

@[simp]
theorem write_row (world : StreamWorld) (event : SentEvent) : (world.write event).row = world.row := by
  rw [StreamWorld.write]
  split <;> rfl

@[simp]
theorem publish_row (world : StreamWorld) (update : SettlementUpdate) :
    (world.publish update).row = world.row := by
  rw [StreamWorld.publish]
  cases world.subscribed with
  | none => rfl
  | some id => exact write_row world _

/-- One client connects while a writer is about to move the row. -/
def streamStart (id : String) (row row' : SettlementRow) (update : SettlementUpdate) :
    Config streamMachine Unit where
  world := ⟨some row, none, [], false, false⟩
  calls
    | .route => streamRoute id
    | .writer => settlementWriter row' update
  history := []

end FacilitatorX402.Stream
