import FacilitatorX402.Proof.SecretEnvelope
import FacilitatorX402.Proof.ServiceStages
import FacilitatorX402.Sdk.PaymentHeader

/-!
# A proof reaches the facilitator as it was written

A buyer writes its proof as JSON in base 64. In whatever spelling the header arrives, the middleware reads
that proof from it, and what it posts is read as that proof again. Where the writer gives one object a name
twice, the last is read.
-/

namespace FacilitatorX402

open Interact JsonText

namespace Service

/-- The header that carries a proof, as bytes in base 64. -/
def paymentHeader (runtime : JsonRuntime) (proof : Json) : List Char :=
  Base64.encode (Utf8.encode (stringify runtime.numberText proof).toList)

/-- The runtime reads the numbers of a proof as it prints them. -/
def JsonRuntime.Prints (runtime : JsonRuntime) (proof : Json) : Prop :=
  ∀ n ∈ numbers proof, PrintsNumber runtime.number runtime.numberText n

/-- What the middleware does with a proof. -/
def admitProof (imports : Imports) (client : X402Client) (opts : MiddlewareOptions) (proof : Json) :
    ServiceProgram MiddlewareReply :=
  (verifyAndSettle imports client opts proof).tryCatch fun err => return .internalError err.message

section Transport

variable {runtime : JsonRuntime} {proof : Json} {header : String}

theorem text_of_respells (h : Base64.Respells (paymentHeader runtime proof) header.toList) :
    Webhooks.utf8Text (Webhooks.fromBase64 header) = stringify runtime.numberText proof := by
  have hlatin : ∀ c ∈ header.toList, c.toNat < 256 := by
    intro c hc
    have hspelling : ['-', '_', ' ', '\t', '\n', '\r'].all (·.toNat < 256) = true := by decide
    rcases Base64.mem_of_respells h hc with hwritten | hadded
    · exact Webhooks.latin_encode _ c hwritten
    · exact of_decide_eq_true (List.all_eq_true.mp hspelling c hadded)
  rw [Webhooks.fromBase64, Webhooks.lowBytes_of_latin hlatin, Base64.decode_of_respells h, paymentHeader,
    Base64.decode_encode, Webhooks.utf8Text, Utf8.decode_encode, String.ofList_toList]

theorem decodePaymentHeader_of_some
    (h : parse runtime.number (Webhooks.utf8Text (Webhooks.fromBase64 header)) = some proof) :
    decodePaymentHeader runtime header = .ok proof := by
  rw [decodePaymentHeader, h]

theorem decodePaymentHeader_of_none
    (h : parse runtime.number (Webhooks.utf8Text (Webhooks.fromBase64 header)) = none) :
    decodePaymentHeader runtime header =
      .error (runtime.syntaxError (Webhooks.utf8Text (Webhooks.fromBase64 header))) := by
  rw [decodePaymentHeader, h]

theorem parse_of_respells (hprints : runtime.Prints proof)
    (h : Base64.Respells (paymentHeader runtime proof) header.toList) :
    parse runtime.number (Webhooks.utf8Text (Webhooks.fromBase64 header)) = some (kept proof) := by
  rw [text_of_respells h, parse_stringify proof hprints]

theorem parse_empty (number : String → JsNumber) :
    parse number (Webhooks.utf8Text (Webhooks.fromBase64 "")) = none := rfl

theorem parse_postBody (hprints : runtime.Prints proof) :
    parse runtime.number (postBody runtime (kept proof)) = some (kept proof) := by
  rw [postBody]
  exact parse_stringify_of_namedOnce (namedOnce_kept proof) fun n hn =>
    hprints n (numbers_kept proof hn)

theorem ne_empty_of_respells (hprints : runtime.Prints proof)
    (h : Base64.Respells (paymentHeader runtime proof) header.toList) : header ≠ "" := by
  intro hempty
  have hparse := parse_of_respells hprints h
  rw [hempty, parse_empty] at hparse
  cases hparse

variable (imports : Imports) (opts : MiddlewareOptions) (referralCode : Option String)

theorem expressMiddleware_of_some {req : MiddlewareRequest} (hheader : req.paymentHeader = some header)
    (hne : header ≠ "")
    (hparse : parse runtime.number (Webhooks.utf8Text (Webhooks.fromBase64 header)) = some proof) :
    expressMiddleware imports (.on runtime referralCode) opts req =
      admitProof imports (.on runtime referralCode) opts proof := by
  have hdecodes := decodePaymentHeader_of_some hparse
  rw [expressMiddleware, hheader, Option.getD_some, if_neg hne, admitPayment]
  simp only [X402Client.on, hdecodes]
  rfl

theorem expressMiddleware_of_none {req : MiddlewareRequest} (hheader : req.paymentHeader = some header)
    (hne : header ≠ "")
    (hparse : parse runtime.number (Webhooks.utf8Text (Webhooks.fromBase64 header)) = none) :
    ∃ message, expressMiddleware imports (.on runtime referralCode) opts req =
      .ret (.internalError message) := by
  have herror := decodePaymentHeader_of_none hparse
  rw [expressMiddleware, hheader, Option.getD_some, if_neg hne, admitPayment]
  simp only [X402Client.on, herror]
  exact ⟨_, rfl⟩

/-- **A proof is transported as it is.** Whatever spelling of its header a proof arrives in, the middleware
does with it what it does with the proof, and what it posts for verification is read as the proof: of names
that an object has twice with the last only, and as it was written if no name is there twice. No header is a
spelling of two proofs. A header that is no JSON is refused without a request to the facilitator. -/
theorem proof_transported (hprints : runtime.Prints proof)
    (hspells : Base64.Respells (paymentHeader runtime proof) header.toList) {req : MiddlewareRequest}
    (hheader : req.paymentHeader = some header) :
    expressMiddleware imports (.on runtime referralCode) opts req =
        admitProof imports (.on runtime referralCode) opts (kept proof) ∧
      parse runtime.number (postBody runtime (kept proof)) = some (kept proof) ∧
      (NamedOnce proof → kept proof = proof) ∧
      (∀ proof', runtime.Prints proof' →
        Base64.Respells (paymentHeader runtime proof') header.toList → kept proof' = kept proof) ∧
      ∀ req' other, req'.paymentHeader = some other → other ≠ "" →
        parse runtime.number (Webhooks.utf8Text (Webhooks.fromBase64 other)) = none →
          ∃ message, expressMiddleware imports (.on runtime referralCode) opts req' =
            .ret (.internalError message) := by
  have hparse := parse_of_respells hprints hspells
  have hne := ne_empty_of_respells hprints hspells
  refine ⟨?_, parse_postBody hprints, kept_of_namedOnce proof, ?_, ?_⟩
  · exact expressMiddleware_of_some imports opts referralCode hheader hne hparse
  · intro proof' hprints' hspells'
    exact Option.some.inj ((parse_of_respells hprints' hspells').symm.trans hparse)
  · intro req' other hother hnonempty hnone
    exact expressMiddleware_of_none imports opts referralCode hother hnonempty hnone

end Transport

/-! ### Payments in headers -/

theorem numbers_toJson (body : VerifyRequest) :
    numbers body.toJson = [.int body.auth.validAfter, .int body.auth.validBefore] := by
  simp [VerifyRequest.toJson, VerifyPayload.toJson, Authorization.toJson, VerifyRequest.auth, numbers,
    numbersOfFields]

theorem kept_toJson (body : VerifyRequest) : kept body.toJson = body.toJson := by
  apply kept_of_namedOnce
  simp [VerifyRequest.toJson, VerifyPayload.toJson, Authorization.toJson, NamedOnce, NamedOnceFields]

/-- A runtime that reads and prints the numbers of payments. -/
def decimalRuntime : JsonRuntime where
  number text := .int (decimalValue text)
  numberText n :=
    match n with
    | .int value => toString value
    | .nonInteger _ => "0.5"
  syntaxError _ := .raised "Unexpected end of JSON input"

/-- A middleware for one unit of the asset. -/
def sampleOptions : MiddlewareOptions where
  amount := "1000000"
  asset := "USDC"
  network := "base-mainnet"
  invoiceId := none
  description := none
  autoSettle := none

theorem prints_toJson {body : VerifyRequest} (hafter : body.auth.validAfter = 0)
    (hbefore : body.auth.validBefore = 2000000000) : decimalRuntime.Prints body.toJson := by
  intro n hn
  rw [numbers_toJson, hafter, hbefore] at hn
  rcases List.mem_cons.mp hn with rfl | hn
  · exact ⟨by decide +kernel, by decide +kernel⟩
  · rw [List.mem_singleton.mp hn]
    exact ⟨by decide +kernel, by decide +kernel⟩

/-- The header of a payment, after a blank. -/
def spacedHeader : String :=
  String.ofList (' ' :: paymentHeader decimalRuntime (Payment.spelledPayment true).toJson)

theorem respells_spacedHeader :
    Base64.Respells (paymentHeader decimalRuntime (Payment.spelledPayment true).toJson)
      spacedHeader.toList := by
  rw [spacedHeader, String.toList_ofList]
  exact .space ' ' (.inl rfl) (.refl _)

theorem proof_transported_spaced :
    expressMiddleware sampleImports (.on decimalRuntime none) sampleOptions ⟨some spacedHeader, none⟩
      = admitProof sampleImports (.on decimalRuntime none) sampleOptions
          (Payment.spelledPayment true).toJson := by
  have hprints : decimalRuntime.Prints (Payment.spelledPayment true).toJson := prints_toJson rfl rfl
  have hheader : MiddlewareRequest.paymentHeader ⟨some spacedHeader, none⟩ = some spacedHeader := rfl
  have htransported :=
    (proof_transported sampleImports sampleOptions none hprints respells_spacedHeader hheader).1
  rwa [kept_toJson] at htransported

end Service

end FacilitatorX402
