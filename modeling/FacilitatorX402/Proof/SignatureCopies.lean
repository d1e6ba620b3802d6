import FacilitatorX402.Sdk.WebhookVerify

/-!
# Three copies of one check

The copies of the bundled client decide whether the header is the signature under a secret that is not
empty. The copy of the server does not look at the secret, and lets the comparison throw when the
header has another length than a signature.
-/

namespace FacilitatorX402.Webhooks

variable {crypto : WebhookCrypto} {rawBody secret header : String}

/-- The copies answer the same, and answer true exactly for the signature under a secret that is not
empty. -/
def SameVerdict (crypto : WebhookCrypto) (rawBody secret : String) (header : Option String) : Prop :=
  ∃ verdict : Bool,
    verifyWebhookSignature crypto rawBody secret header = .ok verdict ∧
      Sdk.verifyWebhookSignature crypto rawBody secret header = verdict ∧
        (Sdk.X402Client.new (some secret)).verifyWebhookSignature crypto rawBody header = verdict ∧
          (verdict = true ↔ secret ≠ "" ∧ header = some (signPayload crypto secret rawBody))

theorem length_utf8Bytes_of_ascii {text : String} (h : ∀ c ∈ text.toList, c.utf8Size = 1) :
    (utf8Bytes text).length = text.toList.length := by
  have hall : ∀ chars : List Char, (∀ c ∈ chars, c.utf8Size = 1) →
      (chars.flatMap String.utf8EncodeChar).length = chars.length := by
    intro chars
    induction chars with
    | nil => simp
    | cons c chars ih =>
        intro h
        rw [List.flatMap_cons, List.length_append, String.length_utf8EncodeChar,
          ih fun c' hc' => h c' (List.mem_cons_of_mem _ hc'), h c List.mem_cons_self,
          List.length_cons, Nat.add_comm]
  exact hall text.toList h

theorem utf8Size_of_mem_toHex {bytes : List UInt8} {c : Char} (h : c ∈ HexText.toHex bytes) :
    c.utf8Size = 1 := by
  have hall : HexText.digits.Forall fun c => c.utf8Size = 1 := by decide
  exact List.forall_iff_forall_mem.mp hall c
    (List.contains_iff_mem.mp (HexText.of_mem_toHex h).1)

/-- A signature is the prefix of seven characters and sixty-four digits. -/
theorem length_signPayload (crypto : WebhookCrypto) (secret rawBody : String) :
    (utf8Bytes (signPayload crypto secret rawBody)).length = 71 := by
  have hchars : (signPayload crypto secret rawBody).toList =
      "sha256=".toList ++ HexText.toHex (crypto.hmac secret rawBody).val := by
    simp [signPayload, String.toList_append, Digest.hex]
  rw [length_utf8Bytes_of_ascii, hchars, List.length_append, HexText.length_toHex,
    (crypto.hmac secret rawBody).property]
  · rfl
  · intro c hc
    rw [hchars] at hc
    rcases List.mem_append.mp hc with hprefix | hhex
    · have hall : "sha256=".toList.Forall fun c => c.utf8Size = 1 := by decide
      exact List.forall_iff_forall_mem.mp hall c hprefix
    · exact utf8Size_of_mem_toHex hhex

theorem signPayload_ne_empty (crypto : WebhookCrypto) (secret rawBody : String) :
    signPayload crypto secret rawBody ≠ "" := by
  intro h
  have hlength := length_signPayload crypto secret rawBody
  rw [h] at hlength
  exact absurd hlength (by decide)

/-! ## What each copy answers -/

theorem verify_missing : verifyWebhookSignature crypto rawBody secret none = .ok false := rfl

theorem verify_empty : verifyWebhookSignature crypto rawBody secret (some "") = .ok false := by
  simp [verifyWebhookSignature]

theorem verify_of_length (h : (utf8Bytes header).length = 71) :
    verifyWebhookSignature crypto rawBody secret (some header) =
      .ok (decide (signPayload crypto secret rawBody = header)) := by
  have hheader : header ≠ "" := by
    rintro rfl
    exact absurd h (by decide)
  simp [verifyWebhookSignature, hheader, length_signPayload, h]

/-- The copy of the server throws on a header of any other length. -/
theorem verify_throws (hheader : header ≠ "") (h : (utf8Bytes header).length ≠ 71) :
    verifyWebhookSignature crypto rawBody secret (some header) =
      .error (.raised "Input buffers must have the same byte length") := by
  simp [verifyWebhookSignature, hheader, length_signPayload, Ne.symm h]

/-- The copies of the client decide what the header is. -/
theorem sdk_verify_eq (crypto : WebhookCrypto) (rawBody secret : String) (header : Option String) :
    Sdk.verifyWebhookSignature crypto rawBody secret header =
      decide (secret ≠ "" ∧ header = some (signPayload crypto secret rawBody)) := by
  cases header with
  | none => simp [Sdk.verifyWebhookSignature]
  | some header =>
      by_cases hsecret : secret = ""
      · simp [Sdk.verifyWebhookSignature, hsecret]
      · by_cases heq : signPayload crypto secret rawBody = header
        · subst heq
          simp [Sdk.verifyWebhookSignature, Sdk.timingSafeEqual, signPayload_ne_empty, hsecret]
        · have hne : header ≠ signPayload crypto secret rawBody := fun h => heq h.symm
          simp only [Sdk.verifyWebhookSignature, Sdk.timingSafeEqual]
          split
          · simp [hne]
          · split
            · rename_i hequal
              split at hequal
              · cases hequal
              · rw [← Except.ok.inj hequal]
                simp [heq, hne]
            · simp [hne]

theorem client_verify_eq (client : Sdk.X402Client) (crypto : WebhookCrypto) (rawBody : String)
    (header : Option String) :
    client.verifyWebhookSignature crypto rawBody header =
      Sdk.verifyWebhookSignature crypto rawBody client.webhookSecret header := by
  cases header with
  | none => rfl
  | some header =>
      by_cases hempty : client.webhookSecret = "" ∨ header = ""
      · simp only [Sdk.X402Client.verifyWebhookSignature, Sdk.verifyWebhookSignature,
          if_pos hempty, if_pos hempty.symm]
      · simp only [Sdk.X402Client.verifyWebhookSignature, Sdk.verifyWebhookSignature,
          if_neg hempty, if_neg fun h => hempty (Or.symm h)]

/-- The copies agree exactly on a missing or empty header, and on a header with the length of a
signature that is not the signature under the empty secret. -/
theorem same_verdict_iff (crypto : WebhookCrypto) (rawBody secret : String)
    (header : Option String) :
    SameVerdict crypto rawBody secret header ↔
      header.getD "" = "" ∨
        (utf8Bytes (header.getD "")).length = 71 ∧
          ¬ (secret = "" ∧ header = some (signPayload crypto secret rawBody)) := by
  have hsame : SameVerdict crypto rawBody secret header ↔
      verifyWebhookSignature crypto rawBody secret header =
        .ok (decide (secret ≠ "" ∧ header = some (signPayload crypto secret rawBody))) := by
    constructor
    · rintro ⟨verdict, hserver, hsdk, -, -⟩
      rw [hserver, ← hsdk, sdk_verify_eq]
    · intro hserver
      refine ⟨_, hserver, sdk_verify_eq _ _ _ _, ?_, decide_eq_true_iff⟩
      rw [client_verify_eq]
      exact sdk_verify_eq _ _ _ _
  rw [hsame]
  cases header with
  | none => simp [verify_missing]
  | some header =>
      by_cases hheader : header = ""
      · subst hheader
        have hne : "" ≠ signPayload crypto secret rawBody := fun h =>
          signPayload_ne_empty crypto secret rawBody h.symm
        simp [verify_empty, hne]
      · by_cases hlength : (utf8Bytes header).length = 71
        · rw [verify_of_length hlength]
          by_cases heq : header = signPayload crypto secret rawBody
          · simp [heq, signPayload_ne_empty, length_signPayload]
          · have hne : signPayload crypto secret rawBody ≠ header := fun h => heq h.symm
            simp [hheader, hlength, heq, hne]
        · rw [verify_throws hheader hlength]
          simp [hheader, hlength]

/-! ## Where they differ -/

/-- A code that does not look at the key. -/
def constantCrypto : WebhookCrypto where
  hmac _ _ := ⟨List.replicate 32 7, rfl⟩
  gcmSeal _ _ _ := ([], [])

/-- The header without its prefix makes the server throw; under the empty secret the server accepts
what the others refuse. -/
theorem not_same_verdict :
    (¬ ∀ (crypto : WebhookCrypto) (rawBody secret : String) (header : Option String),
        SameVerdict crypto rawBody secret header) ∧
      verifyWebhookSignature constantCrypto "body" "secret"
          (some (constantCrypto.hmac "secret" "body").hex) =
        .error (.raised "Input buffers must have the same byte length") ∧
      verifyWebhookSignature constantCrypto "body" ""
          (some (signPayload constantCrypto "" "body")) = .ok true := by
  have hthrows : verifyWebhookSignature constantCrypto "body" "secret"
      (some (constantCrypto.hmac "secret" "body").hex) =
        .error (.raised "Input buffers must have the same byte length") := by
    decide +kernel
  refine ⟨fun h => ?_, hthrows, ?_⟩
  · obtain ⟨verdict, hserver, -⟩ := h constantCrypto "body" "secret"
      (some (constantCrypto.hmac "secret" "body").hex)
    rw [hthrows] at hserver
    cases hserver
  · rw [verify_of_length (length_signPayload _ _ _)]
    simp

end FacilitatorX402.Webhooks
