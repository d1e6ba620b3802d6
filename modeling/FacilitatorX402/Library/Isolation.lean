import FacilitatorX402.Library.Requests

/-!
# Requests that others do not notice

Some of the requests to a server are hidden from a party, and which they are may depend on the state. Two
states are alike for the party, before the requests that are still to come, if a hidden request can be left
out and any other is answered in the same way. Then a run without the hidden requests gives the party the
replies of the whole run.
-/

namespace Isolation

open Requests

variable {σ Req Rep : Type} (serve : Handler σ Req Rep) (hidden : σ → Req → Bool)

/-- The replies to all requests, the oldest first. -/
def replies : σ → List Req → List Rep
  | _, [] => []
  | state, request :: rest => (serve state request).1 :: replies (serve state request).2 rest

/-- The replies to the requests that are not hidden. -/
def visibleReplies : σ → List Req → List Rep
  | _, [] => []
  | state, request :: rest =>
      if hidden state request then visibleReplies (serve state request).2 rest
      else (serve state request).1 :: visibleReplies (serve state request).2 rest

/-- The requests without the hidden ones. -/
def visible : σ → List Req → List Req
  | _, [] => []
  | state, request :: rest =>
      if hidden state request then visible (serve state request).2 rest
      else request :: visible (serve state request).2 rest

/-- States that are alike stay alike, when a request is hidden and when both are sent it. -/
structure Unwinding (Alike : List Req → σ → σ → Prop) : Prop where
  skip : ∀ {request rest state state'}, Alike (request :: rest) state state' →
    hidden state request = true → Alike rest (serve state request).2 state'
  both : ∀ {request rest state state'}, Alike (request :: rest) state state' →
    hidden state request = false → (serve state' request).1 = (serve state request).1 ∧
      Alike rest (serve state request).2 (serve state' request).2

variable {serve hidden}

theorem Unwinding.replies_visible {Alike : List Req → σ → σ → Prop} (h : Unwinding serve hidden Alike)
    {requests : List Req} {state state' : σ} (halike : Alike requests state state') :
    replies serve state' (visible serve hidden state requests)
      = visibleReplies serve hidden state requests := by
  induction requests generalizing state state' with
  | nil => rfl
  | cons request rest ih =>
      rw [visible, visibleReplies]
      cases hhidden : hidden state request with
      | true => exact ih (h.skip halike hhidden)
      | false =>
          obtain ⟨hreply, hrest⟩ := h.both halike hhidden
          rw [if_neg Bool.false_ne_true, if_neg Bool.false_ne_true, replies, hreply, ih hrest]

end Isolation
