import FacilitatorX402.Http.SettlementStream
import FacilitatorX402.Library.EventStream
import FacilitatorX402.Library.Requests
import FacilitatorX402.Protocol.JsonStringify
import FacilitatorX402.Protocol.JsonText

/-!
# What a settlement stream writes

One connection of GET /settlements/:id/stream after its lookup, with its three timers and the end of the
client: the heartbeat, the time limit, and the timer that ends the stream after a terminal event. Every
`write` is a whole frame.
-/

namespace FacilitatorX402.Stream

open EventStream JsonText

def statusText : SettlementStatus → String
  | .pending => "pending"
  | .processing => "processing"
  | .confirmed => "confirmed"
  | .failed => "failed"

/-- Properties that are undefined are not printed. -/
def definedFields (fields : List (String × Option Json)) : List (String × Json) :=
  fields.filterMap fun field => field.2.map fun value => (field.1, value)

/-- `{ ...update, timestamp }`. -/
def SettlementUpdate.fields (update : SettlementUpdate) : List (String × Json) :=
  definedFields
    [("status", some (.str update.status)),
      ("txHash", update.txHash.map .str),
      ("receiptId", update.receiptId.map .str),
      ("errorReason", update.errorReason.map .str),
      ("timestamp", some (.str update.timestamp))]

def StreamData.fields : StreamData → List (String × Json)
  | .db requestId row =>
      definedFields
        [("requestId", some (.str requestId)),
          ("status", some (.str (statusText row.settlementStatus))),
          ("txHash", some (row.txHash.elim .null .str)),
          ("confirmedAt", row.confirmedAt.map fun ms => .str (isoText ms)),
          ("source", some (.str "db"))]
  | .realtime requestId update =>
      define "source" (.str "realtime") (define "requestId" (.str requestId) update.fields)

/-- What a call of `send` is given: an event of the settlement, or the end of the time limit. -/
inductive Sent where
  | event (sent : SentEvent)
  | timedOut
  deriving DecidableEq

/-- A name that is undefined is printed all the same. -/
def Sent.name : Sent → String
  | event sent => sent.event.getD "undefined"
  | timedOut => "timeout"

def Sent.data : Sent → Json
  | event sent => .obj sent.data.fields
  | timedOut =>
      .obj [("message", .str "Stream timeout. Poll GET /receipts/:id for final status.")]

def Sent.frame (numberText : JsNumber → String) (sent : Sent) : Frame :=
  .event sent.name (stringify numberText sent.data)

def heartbeatFrame : Frame := .comment " heartbeat"

inductive Subscription where
  | waiting
  | listening
  | gone
  deriving DecidableEq

/-- Which timers run, and what has been written. -/
structure StreamConnection where
  heartbeat : Bool
  timeLimit : Bool
  closing : Nat
  subscription : Subscription
  ended : Bool
  written : List Char

inductive StreamMove where
  | subscribed
  | update (update : SettlementUpdate)
  | heartbeat
  | timeLimit
  | flushed
  | disconnect

namespace StreamConnection

variable (numberText : JsNumber → String) (id : String)

def write (connection : StreamConnection) (frame : Frame) : StreamConnection :=
  { connection with written := connection.written ++ frame.text.toList }

/-- `send`, and whether it has written. -/
def send (connection : StreamConnection) (sent : Sent) : Option Sent × StreamConnection :=
  if connection.ended then (none, connection)
  else (some sent, connection.write (sent.frame numberText))

/-- The handler, from the answer of the lookup to its `await`. A row that is not pending ends the stream
before anything is started. -/
def connect (row : Option SettlementRow) : Option Sent × StreamConnection :=
  match row with
  | none => (none, ⟨true, true, 0, .waiting, false, []⟩)
  | some row =>
      if row.settlementStatus ≠ .pending then
        let sent := send numberText ⟨false, false, 0, .gone, false, []⟩ (.event (dbEvent id row))
        (sent.1, { sent.2 with ended := true })
      else send numberText ⟨true, true, 0, .waiting, false, []⟩ (.event (dbEvent id row))

/-- The callback of the route. -/
def callback (connection : StreamConnection) (update : SettlementUpdate) :
    Option Sent × StreamConnection :=
  let sent := send numberText connection (.event ⟨some update.status, .realtime id update⟩)
  if terminalEvents.contains update.status then
    (sent.1, { sent.2 with heartbeat := false, timeLimit := false, closing := sent.2.closing + 1 })
  else sent

/-- The reply to a move is the event that it has written. The callback is called while it is
subscribed, and a timer fires while it runs. -/
def serve (connection : StreamConnection) : StreamMove → Option Sent × StreamConnection
  | .subscribed =>
      if connection.subscription = .waiting then (none, { connection with subscription := .listening })
      else (none, connection)
  | .update update =>
      if connection.subscription = .listening then callback numberText id connection update
      else (none, connection)
  | .heartbeat =>
      if connection.heartbeat then
        if connection.ended then (none, { connection with heartbeat := false })
        else (none, connection.write heartbeatFrame)
      else (none, connection)
  | .timeLimit =>
      if connection.timeLimit then
        let sent := send numberText { connection with heartbeat := false, timeLimit := false } .timedOut
        (sent.1, { sent.2 with ended := true })
      else (none, connection)
  | .flushed =>
      if 0 < connection.closing then
        (none, { connection with closing := connection.closing - 1, ended := true })
      else (none, connection)
  | .disconnect =>
      if connection.subscription = .listening then
        (none, { connection with heartbeat := false, timeLimit := false, subscription := .gone })
      else (none, connection)

end StreamConnection

end FacilitatorX402.Stream
