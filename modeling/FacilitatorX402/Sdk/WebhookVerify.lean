import FacilitatorX402.Infrastructure.Webhooks

/-!
# The check of a signature in the bundled client

The function and the method of the client. Both answer false where the comparison throws.
-/

namespace FacilitatorX402.Sdk

open Webhooks

/-- `crypto.timingSafeEqual` of two texts as bytes. -/
def timingSafeEqual (left right : String) : Except Err Bool :=
  if (utf8Bytes left).length ≠ (utf8Bytes right).length then
    .error (.raised "Input buffers must have the same byte length")
  else .ok (left = right)

def verifyWebhookSignature (crypto : WebhookCrypto) (rawBody secret : String)
    (header : Option String) : Bool :=
  match header with
  | none => false
  | some header =>
      if header = "" ∨ secret = "" then false
      else
        match timingSafeEqual (signPayload crypto secret rawBody) header with
        | .ok equal => equal
        | .error _ => false

/-- What the method of the client reads of it. -/
structure X402Client where
  webhookSecret : String

/-- The constructor, of its options the one that is read. -/
def X402Client.new (webhookSecret : Option String) : X402Client :=
  { webhookSecret := webhookSecret.getD "" }

def X402Client.verifyWebhookSignature (client : X402Client) (crypto : WebhookCrypto)
    (rawBody : String) (signatureHeader : Option String) : Bool :=
  match signatureHeader with
  | none => false
  | some signatureHeader =>
      if client.webhookSecret = "" ∨ signatureHeader = "" then false
      else
        match timingSafeEqual (signPayload crypto client.webhookSecret rawBody) signatureHeader with
        | .ok equal => equal
        | .error _ => false

end FacilitatorX402.Sdk
