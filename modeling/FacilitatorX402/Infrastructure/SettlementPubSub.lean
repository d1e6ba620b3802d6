import FacilitatorX402.Library.Requests

/-!
# Listeners of settlements

All calls share one connection, which carries out the commands in the order in which they were sent. A
call of `subscribeToSettlement` that finds no entry sends a SUBSCRIBE and goes on when it has been
answered; one that finds an entry returns at once.
-/

namespace FacilitatorX402

/-- A command on its way, a SUBSCRIBE with the call that waits for it. -/
inductive SubscriberCommand where
  | subscribe (who : Nat) (channel : String)
  | unsubscribe (channel : String)
  deriving DecidableEq

def settlementChannel (requestId : String) : String := "settlement:" ++ requestId

/-- How far a call has come. `left` is a call whose unsubscribe has been called. -/
inductive ListenerPhase (κ : Type) where
  | idle
  | subscribing (requestId : String) (callback : κ)
  | acknowledged (requestId : String) (callback : κ)
  | rejected
  | returned (requestId : String) (callback : κ)
  | left (requestId : String) (callback : κ)
  | failed
  | typeError
  deriving DecidableEq

/-- The map of the module, the commands on their way, the channels that Redis has the connection
subscribed to, and the calls. A callback is known by its identity. -/
structure SettlementPubSub (κ : Type) where
  listeners : String → Option (List κ)
  sent : List SubscriberCommand
  subscribed : String → Bool
  phase : Nat → ListenerPhase κ

/-- A call begins, Redis answers the oldest command, a call that was answered goes on, or the function
that a call returned is called. -/
inductive ListenerMove (κ : Type) where
  | subscribe (who : Nat) (requestId : String) (callback : κ)
  | answer (succeeds : Bool)
  | resume (who : Nat)
  | unsubscribe (who : Nat)
  deriving DecidableEq

namespace SettlementPubSub

variable {κ : Type} [DecidableEq κ]

def empty : SettlementPubSub κ where
  listeners _ := none
  sent := []
  subscribed _ := false
  phase _ := .idle

/-- `add` of a set. -/
def addTo (callbacks : List κ) (callback : κ) : List κ :=
  if callback ∈ callbacks then callbacks else callbacks ++ [callback]

def setPhase (state : SettlementPubSub κ) (who : Nat) (phase : ListenerPhase κ) :
    SettlementPubSub κ :=
  { state with phase := Function.update state.phase who phase }

def setListeners (state : SettlementPubSub κ) (requestId : String) (callbacks : Option (List κ)) :
    SettlementPubSub κ :=
  { state with listeners := Function.update state.listeners requestId callbacks }

/-- `listeners.get(requestId)!.add(callback)`, and what it leads to. -/
def add (state : SettlementPubSub κ) (who : Nat) (requestId : String) (callback : κ) :
    SettlementPubSub κ :=
  match state.listeners requestId with
  | none => state.setPhase who .typeError
  | some callbacks =>
      (state.setListeners requestId (some (addTo callbacks callback))).setPhase who
        (.returned requestId callback)

/-- `subscribeToSettlement` up to its `await`. -/
def subscribeToSettlement (state : SettlementPubSub κ) (who : Nat) (requestId : String)
    (callback : κ) : SettlementPubSub κ :=
  match state.phase who with
  | .idle =>
      match state.listeners requestId with
      | some _ => state.add who requestId callback
      | none =>
          let state := state.setListeners requestId (some [])
          let command := SubscriberCommand.subscribe who (settlementChannel requestId)
          { state with sent := state.sent ++ [command] }.setPhase who (.subscribing requestId callback)
  | _ => state

/-- Redis answers. Only a SUBSCRIBE may fail. -/
def answer (state : SettlementPubSub κ) (succeeds : Bool) : SettlementPubSub κ :=
  match state.sent with
  | [] => state
  | .unsubscribe channel :: sent =>
      { state with sent := sent, subscribed := Function.update state.subscribed channel false }
  | .subscribe who channel :: sent =>
      let state := { state with sent := sent }
      if succeeds then
        let state := { state with subscribed := Function.update state.subscribed channel true }
        match state.phase who with
        | .subscribing requestId callback => state.setPhase who (.acknowledged requestId callback)
        | _ => state
      else state.setPhase who .rejected

/-- The rest of `subscribeToSettlement`. -/
def resume (state : SettlementPubSub κ) (who : Nat) : SettlementPubSub κ :=
  match state.phase who with
  | .acknowledged requestId callback => state.add who requestId callback
  | .rejected => state.setPhase who .failed
  | _ => state

/-- The function that a call returned. It may be called again. -/
def unsubscribe (state : SettlementPubSub κ) (who : Nat) : SettlementPubSub κ :=
  match state.phase who with
  | .returned requestId callback | .left requestId callback =>
      let state := state.setPhase who (.left requestId callback)
      match state.listeners requestId with
      | none => state
      | some callbacks =>
          let callbacks := callbacks.filter (· ≠ callback)
          if callbacks = [] then
            let state := state.setListeners requestId none
            { state with sent := state.sent ++ [.unsubscribe (settlementChannel requestId)] }
          else state.setListeners requestId (some callbacks)
  | _ => state

def serve (state : SettlementPubSub κ) : ListenerMove κ → Unit × SettlementPubSub κ
  | .subscribe who requestId callback => ((), state.subscribeToSettlement who requestId callback)
  | .answer succeeds => ((), state.answer succeeds)
  | .resume who => ((), state.resume who)
  | .unsubscribe who => ((), state.unsubscribe who)

end SettlementPubSub

end FacilitatorX402
