import FacilitatorX402.Proof.JsonRoundTrip
import FacilitatorX402.Proof.PaymentRules

/-!
# What the audit hash identifies

The hashed text is the JSON of the request in lower case, and JSON.parse reads the request back from it.
So two requests have one hash exactly when they are one request up to the letter case of their
hexadecimal fields.
-/

namespace FacilitatorX402

open JsonText

/-- The same digits in lower case. -/
def HexString.lowered {n : Nat} (hex : HexString n) : HexString n where
  text := hex.lower
  wf := by
    have hdigits : (hex.digits.map Char.toLower).all HexText.isDigit = true := by
      rw [List.all_map, List.all_eq_true]
      exact fun c hc => HexText.isDigit_toLower (List.all_eq_true.mp hex.all_digits c hc)
    rw [isHexText, hex.toList_lower]
    simp [hex.length_digits, hdigits]

namespace Payment

/-- The request with its recipient, sender, receiver, nonce and signature in lower case. -/
def lowerCased (req : VerifyRequest) : VerifyRequest :=
  { req with
    recipient := req.recipient.lowered
    payload :=
      { signature := req.payload.signature.lowered
        authorization :=
          { req.auth with
            «from» := req.auth.from.lowered
            «to» := req.auth.to.lowered
            nonce := req.auth.nonce.lowered } } }

/-- The object that is hashed, for a request in lower case. -/
def payloadJson (req : VerifyRequest) : Json :=
  .obj
    [("version", .str req.version), ("scheme", .str req.scheme), ("network", .str req.network),
      ("asset", .str req.asset), ("invoiceId", .str req.invoiceId),
      ("requiredAmount", .str req.requiredAmount.text), ("recipient", .str req.recipient.text),
      ("authorization", req.auth.toJson), ("signature", .str req.payload.signature.text)]

/-- A number of a request, as the host prints it. -/
def numberText (host : Host) : JsNumber → String
  | .int value => host.numberText value.toNat
  | .nonInteger _ => ""

/-- The text that is hashed. -/
def payloadText (host : Host) (req : VerifyRequest) : String :=
  stringify (numberText host) (payloadJson (lowerCased req))

theorem computePayloadHash_eq (host : Host) (req : VerifyRequest) :
    computePayloadHash host req = (host.sha256 (payloadText host req)).hex := by
  simp only [payloadText, payloadJson, Authorization.toJson, stringify, stringifyFields, numberText,
    Int.toNat_natCast]
  rfl

theorem payloadJson_injective {left right : VerifyRequest} (h : payloadJson left = payloadJson right) :
    left = right := by
  have hhex : ∀ {n : Nat} {hex hex' : HexString n}, hex.text = hex'.text → hex = hex' := by
    rintro n ⟨text, wf⟩ ⟨text', wf'⟩ rfl
    rfl
  have hdecimal : ∀ {decimal decimal' : DecimalString}, decimal.text = decimal'.text →
      decimal = decimal' := by
    rintro ⟨text, wf⟩ ⟨text', wf'⟩ rfl
    rfl
  simp only [payloadJson, Authorization.toJson, Json.obj.injEq, List.cons.injEq, Prod.mk.injEq,
    Json.str.injEq, Json.num.injEq, JsNumber.int.injEq, true_and, and_true, Int.natCast_inj] at h
  obtain ⟨-, -, hnetwork, hasset, hinvoiceId, hrequiredAmount, hrecipient,
    ⟨hfrom, hto, hvalue, hvalidAfter, hvalidBefore, hnonce⟩, hsignature⟩ := h
  have hauth : left.auth = right.auth :=
    (Authorization.mk.injEq ..).mpr ⟨hhex hfrom, hhex hto, hdecimal hvalue, hvalidAfter, hvalidBefore,
      hhex hnonce⟩
  have hpayload : left.payload = right.payload :=
    (VerifyPayload.mk.injEq ..).mpr ⟨hhex hsignature, hauth⟩
  exact (VerifyRequest.mk.injEq ..).mpr
    ⟨hnetwork, hasset, hinvoiceId, hdecimal hrequiredAmount, hhex hrecipient, hpayload⟩

/-- The numbers of a request are printed as in JSON: JSON.parse reads them back. -/
def PrintsNumbers (host : Host) (number : String → JsNumber) (req : VerifyRequest) : Prop :=
  PrintsNumber number (numberText host) (.int req.auth.validAfter) ∧
    PrintsNumber number (numberText host) (.int req.auth.validBefore)

/-- The request in lower case is read back from its text. -/
theorem parse_payloadText {host : Host} {number : String → JsNumber} {req : VerifyRequest}
    (h : PrintsNumbers host number req) :
    JsonText.parse number (payloadText host req) = some (payloadJson (lowerCased req)) := by
  refine parse_stringify_of_namedOnce ?_ fun n hn => ?_
  · simp [NamedOnce, NamedOnceFields, payloadJson, Authorization.toJson]
  have hmem : n = .int (lowerCased req).auth.validAfter ∨ n = .int (lowerCased req).auth.validBefore := by
    simpa [numbers, numbersOfFields, payloadJson, Authorization.toJson] using hn
  rcases hmem with rfl | rfl
  · exact h.1
  · exact h.2

theorem digest_hex_injective {left right : Digest} (h : left.hex = right.hex) : left = right := by
  have hbytes : HexText.toHex left.val = HexText.toHex right.val := String.ofList_injective h
  apply Subtype.ext
  rw [← HexText.fromHex_toHex left.val, hbytes, HexText.fromHex_toHex]

/-- **The audit hash is canonical and injective.** Two requests have one hash exactly when they are equal
in lower case, as far as SHA-256 tells their texts apart. -/
theorem computePayloadHash_eq_iff {host : Host} {number : String → JsNumber} {left right : VerifyRequest}
    (hleft : PrintsNumbers host number left) (hright : PrintsNumbers host number right)
    (hsha256 : Set.InjOn host.sha256 {payloadText host left, payloadText host right}) :
    computePayloadHash host left = computePayloadHash host right ↔
      lowerCased left = lowerCased right := by
  rw [computePayloadHash_eq, computePayloadHash_eq]
  constructor
  · intro h
    have htext : payloadText host left = payloadText host right :=
      hsha256 (by simp) (by simp) (digest_hex_injective h)
    have hread := parse_payloadText hleft
    rw [htext, parse_payloadText hright] at hread
    exact payloadJson_injective (Option.some.inj hread).symm
  · intro h
    rw [payloadText, payloadText, h]

/-- A host that digests the sample payment as SHA-256 does. -/
def digestingHost : Host :=
  { trustingHost with
    sha256 := fun _ =>
      ⟨[72, 102, 169, 155, 110, 191, 177, 150, 224, 127, 57, 220, 239, 91, 90, 200, 229, 106, 157, 181,
        39, 1, 18, 16, 241, 135, 215, 3, 110, 41, 139, 114], rfl⟩ }

/-- How numbers without a fraction and an exponent are read. -/
def readNumber (text : String) : JsNumber := .int (decimalValue text)

theorem lowered_repeatedHex (n : Nat) {upper lower : Char} (hupper : HexText.isDigit upper = true)
    (hlower : HexText.isDigit lower = true) (h : upper.toLower = lower.toLower) :
    (repeatedHex n upper hupper).lowered = (repeatedHex n lower hlower).lowered := by
  have htext : (repeatedHex n upper hupper).lower = (repeatedHex n lower hlower).lower := by
    apply String.toList_inj.mp
    simp [HexString.toList_lower, repeatedHex, h]
  simp only [HexString.lowered, htext]

theorem lowerCased_spelledPayment :
    lowerCased (spelledPayment false) = lowerCased (spelledPayment true) := by
  have hnonce := @lowered_repeatedHex (2 * 32) 'A' 'a' rfl rfl rfl
  have hsignature := @lowered_repeatedHex (2 * 65) 'C' 'c' rfl rfl rfl
  simp only [lowerCased, spelledPayment, samplePayment, VerifyRequest.auth, if_true, Bool.false_eq_true,
    if_false, hnonce, hsignature]

/-- The two spellings of the sample payment have one hash. -/
theorem computePayloadHash_eq_iff_spelled :
    computePayloadHash digestingHost (spelledPayment false) =
        computePayloadHash digestingHost (spelledPayment true) ↔
      lowerCased (spelledPayment false) = lowerCased (spelledPayment true) := by
  have hprints : ∀ upper, PrintsNumbers digestingHost readNumber (spelledPayment upper) := by
    intro upper
    cases upper <;>
      exact ⟨⟨by decide +kernel, by decide +kernel⟩, ⟨by decide +kernel, by decide +kernel⟩⟩
  have htexts : payloadText digestingHost (spelledPayment false) =
      payloadText digestingHost (spelledPayment true) := by
    rw [payloadText, payloadText, lowerCased_spelledPayment]
  refine computePayloadHash_eq_iff (hprints false) (hprints true) ?_
  rw [htexts, Set.pair_eq_singleton]
  rintro _ rfl _ rfl _
  rfl

end Payment

end FacilitatorX402
