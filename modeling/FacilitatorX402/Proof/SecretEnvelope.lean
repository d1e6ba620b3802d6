import FacilitatorX402.Infrastructure.WebhookSecret
import FacilitatorX402.Proof.JsonRoundTrip

/-!
# Secrets come back out of their envelopes

Base 64 in JSON in UTF-8 in base 64: each reader inverts its writer. A generated secret begins with four
characters that are read as a byte which begins no character, so no JSON text begins there.
-/

namespace FacilitatorX402

namespace Webhooks

open JsonText

theorem lowBytes_cons {c : Char} (h : c.toNat < 256) (text : List Char) :
    lowBytes (c :: text) = c :: lowBytes text := by
  rw [lowBytes, List.flatMap_cons, codeUnits, if_pos (by omega), List.map_cons, Nat.mod_eq_of_lt h,
    Char.ofNat_toNat]
  rfl

/-- A text in Latin 1 is read as it is. -/
theorem lowBytes_of_latin {text : List Char} (h : ∀ c ∈ text, c.toNat < 256) : lowBytes text = text := by
  induction text with
  | nil => rfl
  | cons c text ih =>
      rw [lowBytes_cons (h c List.mem_cons_self), ih fun other hother => h other (List.mem_cons_of_mem _ hother)]

theorem latin_encode (bytes : List UInt8) : ∀ c ∈ Base64.encode bytes, c.toNat < 256 := by
  have halphabet : ('=' :: Base64.alphabet).all (·.toNat < 256) = true := by decide
  intro c hc
  exact of_decide_eq_true (List.all_eq_true.mp halphabet c (Base64.mem_of_mem_encode hc))

theorem fromBase64_base64 (bytes : List UInt8) : fromBase64 (base64 bytes) = bytes := by
  rw [fromBase64, base64, String.toList_ofList, lowBytes_of_latin (latin_encode bytes),
    Base64.decode_encode]

theorem utf8Text_utf8Bytes (text : String) : utf8Text (utf8Bytes text) = text := by
  have hbytes : utf8Bytes text = Utf8.encode text.toList := rfl
  rw [utf8Text, hbytes, Utf8.decode_encode, String.ofList_toList]

theorem readEnvelope_envelope (decipher : WebhookDecipher) (iv : List UInt8)
    (sealed : List UInt8 × List UInt8) :
    readEnvelope decipher (envelope iv sealed) =
      some (.obj [("iv", .str (base64 iv)), ("tag", .str (base64 sealed.2)),
        ("data", .str (base64 sealed.1))]) := by
  let value : Json := .obj [("iv", .str (base64 iv)), ("tag", .str (base64 sealed.2)),
    ("data", .str (base64 sealed.1))]
  have hprinted : stringify (fun _ => "") value = jsonObject [("iv", jsonString (base64 iv)),
      ("tag", jsonString (base64 sealed.2)), ("data", jsonString (base64 sealed.1))] := by
    simp only [value, stringify, stringifyFields]
  have hparsed := @parse_stringify_of_namedOnce decipher.number (fun _ => "") value
    (by simp [value, NamedOnce, NamedOnceFields]) (by simp [value, numbers, numbersOfFields])
  rw [readEnvelope, envelope, fromBase64_base64, utf8Text_utf8Bytes, ← hprinted]
  exact hparsed

/-! ### Secrets that are no envelopes -/

theorem sextets_secret (random : RandomBytes) :
    ∃ rest, Base64.sextets (lowBytes (generateWebhookSecret random).toList) =
      48 :: 33 :: 44 :: 30 :: rest := by
  have htext : (generateWebhookSecret random).toList =
      'w' :: 'h' :: 's' :: 'e' :: 'c' :: '_' :: HexText.toHex random.val := by
    simp [generateWebhookSecret, RandomBytes.hex]
  have hw : 'w' = Base64.symbol 48 := by decide
  have hh : 'h' = Base64.symbol 33 := by decide
  have hs : 's' = Base64.symbol 44 := by decide
  have he : 'e' = Base64.symbol 30 := by decide
  rw [htext, lowBytes_cons (by decide), lowBytes_cons (by decide), lowBytes_cons (by decide),
    lowBytes_cons (by decide), hw, hh, hs, he, Base64.sextets_symbol_cons (by decide),
    Base64.sextets_symbol_cons (by decide), Base64.sextets_symbol_cons (by decide),
    Base64.sextets_symbol_cons (by decide)]
  exact ⟨_, rfl⟩

theorem secret_text (random : RandomBytes) :
    ∃ text, utf8Text (fromBase64 (generateWebhookSecret random)) =
      String.ofList (Utf8.replacement :: text) := by
  obtain ⟨rest, hsextets⟩ := sextets_secret random
  have hbytes : fromBase64 (generateWebhookSecret random) =
      0xC2 :: 0x1B :: 0x1E :: Base64.unpack rest := by
    rw [fromBase64, Base64.decode, hsextets]
    rfl
  have hnext := @Utf8.next_of_broken_pair 0xC2 0x1B rfl (by decide)
    (0x1E :: Base64.unpack rest)
  rw [utf8Text, hbytes, Utf8.decode, List.length_cons, Utf8.read_cons (List.cons_ne_nil _ _), hnext]
  exact ⟨_, rfl⟩

/-- No JSON text begins with the replacement character. -/
theorem parse_replacement (number : String → JsNumber) (text : List Char) :
    JsonText.parse number (String.ofList (Utf8.replacement :: text)) = none := by
  have hvalue : ∀ fuel, parseValue number (fuel + 1) (Utf8.replacement :: text) = none := by
    intro fuel
    rw [parseValue, skipSpace_cons (by decide)]
    simp [Utf8.replacement, parseNumber, skipNumber, skipInteger, skipDigits, isDecimal]
  rw [JsonText.parse, String.toList_ofList, hvalue]
  rfl

theorem not_isEncryptedEnvelope_secret (decipher : WebhookDecipher) (random : RandomBytes) :
    isEncryptedEnvelope decipher (generateWebhookSecret random) = false := by
  obtain ⟨text, htext⟩ := secret_text random
  rw [isEncryptedEnvelope, readEnvelope, htext, parse_replacement]

/-! ### The round trip -/

/-- AES-256-GCM opens what it sealed. A stream mode leaves no byte for `final`. -/
structure OpensSealed (crypto : WebhookCrypto) (decipher : WebhookDecipher) : Prop where
  length_tag : ∀ key iv bytes, key.length = 32 → iv.length = 12 →
    (crypto.gcmSeal key iv bytes).2.length = 16
  open_seal : ∀ key iv bytes, key.length = 32 → iv.length = 12 →
    decipher.gcmOpen key iv (crypto.gcmSeal key iv bytes).2 (crypto.gcmSeal key iv bytes).1 =
      some (bytes, [])

theorem encryptWebhookSecret_ok_iff {crypto : WebhookCrypto} {env : Option String}
    {iv : List UInt8} {plaintext ciphertext : String} :
    encryptWebhookSecret crypto env iv plaintext = .ok ciphertext ↔
      ∃ key, getEncryptionKey env = .ok key ∧ key.length = 32 ∧
        ciphertext = envelope iv (crypto.gcmSeal key iv (utf8Bytes plaintext)) := by
  rw [encryptWebhookSecret]
  cases hkey : getEncryptionKey env with
  | error error => simp
  | ok key =>
      by_cases hlength : key.length = 32
      · simp [hlength, eq_comm]
      · simp [hlength]

theorem isEncryptedEnvelope_envelope (decipher : WebhookDecipher) (iv : List UInt8)
    (sealed : List UInt8 × List UInt8) : isEncryptedEnvelope decipher (envelope iv sealed) = true := by
  rw [isEncryptedEnvelope, readEnvelope_envelope]
  rfl

/-- The three fields are read back, and the cipher is set up with them. -/
theorem decryptWebhookSecret_envelope {decipher : WebhookDecipher} {env : Option String}
    {key iv : List UInt8} (hkey : getEncryptionKey env = .ok key)
    {sealed : List UInt8 × List UInt8} (hsetup : setupDecipher key iv sealed.2 = .ok ())
    {update final : List UInt8}
    (hopen : decipher.gcmOpen key iv sealed.2 sealed.1 = some (update, final)) :
    decryptWebhookSecret decipher env (envelope iv sealed) =
      .ok (utf8Text update ++ utf8Text final) := by
  have hfields : ∀ name bytes, property (.obj [("iv", .str (base64 iv)),
      ("tag", .str (base64 sealed.2)), ("data", .str (base64 sealed.1))]) name =
        .ok (some (.str (base64 bytes))) → envelopeBytes decipher (.obj [("iv", .str (base64 iv)),
          ("tag", .str (base64 sealed.2)), ("data", .str (base64 sealed.1))]) name = .ok bytes := by
    intro name bytes hproperty
    rw [envelopeBytes, hproperty]
    simp only [fromBase64_base64]
  rw [decryptWebhookSecret, hkey]
  simp only [readEnvelope_envelope]
  rw [hfields "iv" iv rfl, hfields "tag" sealed.2 rfl, hfields "data" sealed.1 rfl]
  simp only [bind, Except.bind, hsetup, hopen]

/-- For every text and every IV: where a secret is encrypted, the same key decrypts it to that text and
the detector knows it; a key of thirty-two bytes always encrypts. The detector takes no generated
secret for an envelope. -/
theorem envelope_round_trip {crypto : WebhookCrypto} {decipher : WebhookDecipher}
    (hcipher : OpensSealed crypto decipher) {iv : List UInt8} (hiv : iv.length = 12)
    (env : Option String) (plaintext : String) :
    (∀ ciphertext, encryptWebhookSecret crypto env iv plaintext = .ok ciphertext →
      decryptWebhookSecret decipher env ciphertext = .ok plaintext ∧
        isEncryptedEnvelope decipher ciphertext = true) ∧
    (∀ key, getEncryptionKey env = .ok key → key.length = 32 →
      ∃ ciphertext, encryptWebhookSecret crypto env iv plaintext = .ok ciphertext) ∧
    ∀ random, isEncryptedEnvelope decipher (generateWebhookSecret random) = false := by
  refine ⟨fun ciphertext hencrypt => ?_, fun key hkey hlength => ?_,
    not_isEncryptedEnvelope_secret decipher⟩
  · obtain ⟨key, hkey, hlength, rfl⟩ := encryptWebhookSecret_ok_iff.mp hencrypt
    have hne : iv ≠ [] := by
      rintro rfl
      simp at hiv
    have hsetup : setupDecipher key iv (crypto.gcmSeal key iv (utf8Bytes plaintext)).2 = .ok () := by
      simp [setupDecipher, hlength, hne, hcipher.length_tag key iv _ hlength hiv]
    refine ⟨?_, isEncryptedEnvelope_envelope _ _ _⟩
    rw [decryptWebhookSecret_envelope hkey hsetup (hcipher.open_seal key iv _ hlength hiv),
      utf8Text_utf8Bytes]
    exact congrArg Except.ok (String.append_empty)
  · exact ⟨_, encryptWebhookSecret_ok_iff.mpr ⟨key, hkey, hlength, rfl⟩⟩

/-- The zero key and IV seal sixteen zeros to this ciphertext, with this tag. -/
def sealedZeros : List UInt8 × List UInt8 :=
  ([0xce, 0xa7, 0x40, 0x3d, 0x4d, 0x60, 0x6b, 0x6e, 0x07, 0x4e, 0xc5, 0xd3, 0xba, 0xf3, 0x9d, 0x18],
    [0xd0, 0xd1, 0xc8, 0xa7, 0x99, 0x99, 0x6b, 0xf0, 0x26, 0x5b, 0x98, 0xb5, 0xd4, 0x8a, 0xb9, 0x19])

/-- A cipher that seals sixteen zeros so, and nothing else. -/
def zerosCrypto : WebhookCrypto where
  hmac _ _ := ⟨List.replicate 32 5, rfl⟩
  gcmSeal _ _ bytes :=
    if bytes = List.replicate 16 0 then sealedZeros else (bytes, List.replicate 16 0)

def zerosDecipher : WebhookDecipher where
  gcmOpen _ _ tag data :=
    if tag = sealedZeros.2 then some (List.replicate 16 0, []) else some (data, [])
  bufferFrom _ := .ok []
  number _ := .int 0

theorem zeros_opensSealed : OpensSealed zerosCrypto zerosDecipher where
  length_tag := by
    intro key iv bytes _ _
    by_cases h : bytes = List.replicate 16 0
    · simp only [zerosCrypto, if_pos h]
      rfl
    · simp only [zerosCrypto, if_neg h]
      rfl
  open_seal := by
    intro key iv bytes _ _
    by_cases h : bytes = List.replicate 16 0
    · simp [zerosCrypto, zerosDecipher, h]
    · have htag : List.replicate 16 0 ≠ sealedZeros.2 := by decide
      simp only [zerosCrypto, zerosDecipher, if_neg h, if_neg htag]

def zerosKey : Option String := some (String.ofList (List.replicate 64 '0'))

def zerosText : String := String.ofList (List.replicate 16 (Char.ofNat 0))

theorem envelope_round_trip_zeros :
    ∃ ciphertext, encryptWebhookSecret zerosCrypto zerosKey (List.replicate 12 0) zerosText =
        .ok ciphertext ∧
      decryptWebhookSecret zerosDecipher zerosKey ciphertext = .ok zerosText ∧
      isEncryptedEnvelope zerosDecipher ciphertext = true ∧
      isEncryptedEnvelope zerosDecipher (generateWebhookSecret (sampleRandom 0)) = false := by
  have hkey : getEncryptionKey zerosKey = .ok (List.replicate 32 0) := rfl
  obtain ⟨hopens, hencrypts, hsecret⟩ :=
    envelope_round_trip zeros_opensSealed (show (List.replicate 12 0 : List UInt8).length = 12 from rfl)
      zerosKey zerosText
  obtain ⟨ciphertext, hencrypt⟩ := hencrypts _ hkey List.length_replicate
  obtain ⟨hdecrypt, hdetect⟩ := hopens ciphertext hencrypt
  exact ⟨ciphertext, hencrypt, hdecrypt, hdetect, hsecret _⟩

end Webhooks

end FacilitatorX402
