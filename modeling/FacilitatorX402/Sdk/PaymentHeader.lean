import FacilitatorX402.Infrastructure.WebhookSecret
import FacilitatorX402.Protocol.JsonStringify
import FacilitatorX402.Sdk.ExpressMiddleware

/-!
# The payment header

How `expressMiddleware` reads the `X-Payment` header, and what `post` sends of the proof. The error of
`JSON.parse` is the runtime's, and says something of the text.
-/

namespace FacilitatorX402

open JsonText

namespace Service

/-- What the runtime makes of the texts of numbers, and the error it throws for a text that is no JSON. -/
structure JsonRuntime where
  number : String → JsNumber
  numberText : JsNumber → String
  syntaxError : String → Err

/-- `JSON.parse(Buffer.from(paymentHeader, 'base64').toString())`. -/
def decodePaymentHeader (runtime : JsonRuntime) (paymentHeader : String) : Except Err Json :=
  let text := Webhooks.utf8Text (Webhooks.fromBase64 paymentHeader)
  match parse runtime.number text with
  | some proof => .ok proof
  | none => .error (runtime.syntaxError text)

/-- The client of a runtime. -/
def X402Client.on (runtime : JsonRuntime) (referralCode : Option String) : X402Client where
  decodeHeader := decodePaymentHeader runtime
  referralCode := referralCode

/-- The `body` of a request of `post`. -/
def postBody (runtime : JsonRuntime) (body : Json) : String := stringify runtime.numberText body

end Service

end FacilitatorX402
