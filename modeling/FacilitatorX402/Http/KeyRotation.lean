import FacilitatorX402.Http.Sellers
import FacilitatorX402.Library.Requests

/-!
# Rotations that overlap

`POST /sellers/rotate-key` in its two statements: the lookup, which reads the active sellers and checks
the presented key against what was read, and the update, which names the seller by its id only.
-/

namespace FacilitatorX402.Sellers

open KeyedRows Requests

/-- A request between its two statements: the key it presented, and the row it was checked against. -/
structure PendingRotation where
  who : Nat
  token : String
  seller : Seller
  deriving DecidableEq

/-- A request that was answered 200. -/
structure Rotation where
  token : String
  sellerId : String
  apiKey : String
  deriving DecidableEq

/-- The table, the requests in flight, and what is remembered of the past: the keys that were found to
be a seller's, and the rotations that were answered 200, newest first. -/
structure RotationState where
  sellers : SellerTable
  pending : List PendingRotation := []
  presented : List String := []
  rotations : List Rotation := []

inductive RotationStep where
  | lookup (who : Nat) (authorization : Option String) (fault : Fault)
  | update (who : Nat) (random : RandomBytes) (now : Nat) (fault : Fault)

namespace RotationState

def lookup (host : Host) (state : RotationState) (who : Nat) (authorization : Option String)
    (fault : Fault) : Option SellerReply × RotationState :=
  match lookupSeller host state.sellers authorization fault with
  | .error error => (some (.thrown error), state)
  | .ok none =>
      (some (.refused 401 "unauthorized" "Invalid API key"
        (some "Provide Authorization: Bearer <currentApiKey>")), state)
  | .ok (some seller) =>
      let token := (extractBearerToken authorization).getD ""
      (none,
        { state with
          pending := ⟨who, token, seller⟩ :: state.pending
          presented := token :: state.presented })

/-- The second half, for the request that is pending. -/
def update (host : Host) (state : RotationState) (request : PendingRotation) (random : RandomBytes)
    (now : Nat) (fault : Fault) : SellerReply × RotationState :=
  let key := generateApiKey host random
  let pending := state.pending.filter (·.who ≠ request.who)
  match state.sellers.updateApiKeyHash request.seller.id key.hash fault with
  | (.error error, sellers) => (.thrown error, { state with sellers := sellers, pending := pending })
  | (.ok _, sellers) =>
      (.rotated { sellerId := request.seller.id, apiKey := key.raw, rotatedAt := isoText now },
        { state with
          sellers := sellers
          pending := pending
          rotations := ⟨request.token, request.seller.id, key.raw⟩ :: state.rotations })

def serve (host : Host) : Handler RotationState RotationStep (Option SellerReply)
  | state, .lookup who authorization fault => state.lookup host who authorization fault
  | state, .update who random now fault =>
      match state.pending.find? (·.who = who) with
      | none => (none, state)
      | some request =>
          let (reply, state) := state.update host request random now fault
          (some reply, state)

end RotationState

/-- A request whose two statements nothing comes between answers and stores what `rotateKey` does. -/
theorem rotateKey_eq (host : Host) (state : RotationState) (request : RotateRequest) (who : Nat) :
    (∃ reply, state.lookup host who request.authorization request.lookupFault = (some reply, state) ∧
        rotateKey host state.sellers request = (reply, state.sellers)) ∨
      ∃ pending looked,
        state.lookup host who request.authorization request.lookupFault = (none, looked) ∧
          looked.pending = pending :: state.pending ∧
            rotateKey host state.sellers request =
              ((looked.update host pending request.random request.now request.updateFault).1,
                (looked.update host pending request.random request.now
                  request.updateFault).2.sellers) := by
  simp only [rotateKey, RotationState.lookup]
  cases lookupSeller host state.sellers request.authorization request.lookupFault with
  | error error => exact .inl ⟨_, rfl, rfl⟩
  | ok found =>
      cases found with
      | none => exact .inl ⟨_, rfl, rfl⟩
      | some seller =>
          refine .inr ⟨_, _, rfl, rfl, ?_⟩
          simp only [RotationState.update]
          cases hupdate : state.sellers.updateApiKeyHash seller.id
              (generateApiKey host request.random).hash request.updateFault with
          | mk result sellers =>
              cases result with
              | error error => rfl
              | ok value => rfl

end FacilitatorX402.Sellers
