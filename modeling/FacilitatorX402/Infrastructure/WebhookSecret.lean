import FacilitatorX402.Infrastructure.Webhooks
import FacilitatorX402.Library.Utf8
import FacilitatorX402.Protocol.JsonText

/-!
# Reading a secret back

`decryptWebhookSecret` and the test whether a stored value is an envelope. Both read the value as base
64, the bytes as UTF-8 and the text as JSON.
-/

namespace FacilitatorX402.Webhooks

/-- What `node:crypto` and `Buffer` do when a secret is read. `gcmOpen` takes the key, the IV, the tag
and the ciphertext, and returns what `update` and `final` do, or none where one of them throws;
`bufferFrom` is `Buffer.from` of a value that is not a text. -/
structure WebhookDecipher where
  gcmOpen : List UInt8 → List UInt8 → List UInt8 → List UInt8 → Option (List UInt8 × List UInt8)
  bufferFrom : Option Json → Except Err (List UInt8)
  number : String → JsNumber

/-- The UTF-16 code units of a character. -/
def codeUnits (c : Char) : List Nat :=
  if c.toNat < 0x10000 then [c.toNat]
  else [0xD800 + (c.toNat - 0x10000) / 0x400, 0xDC00 + (c.toNat - 0x10000) % 0x400]

/-- What the reader of base 64 looks at: of each code unit the low byte. -/
def lowBytes (text : List Char) : List Char :=
  text.flatMap fun c => (codeUnits c).map fun unit => Char.ofNat (unit % 256)

/-- `Buffer.from(text, 'base64')`. -/
def fromBase64 (text : String) : List UInt8 := Base64.decode (lowBytes text.toList)

/-- `buffer.toString('utf8')`. -/
def utf8Text (bytes : List UInt8) : String := String.ofList (Utf8.decode bytes)

/-- `JSON.parse(Buffer.from(value, 'base64').toString('utf8'))`. -/
def readEnvelope (decipher : WebhookDecipher) (value : String) : Option Json :=
  JsonText.parse decipher.number (utf8Text (fromBase64 value))

/-- A property of a parsed value, of members of one name the last; null has none to read. -/
def property (json : Json) (name : String) : Except Err (Option Json) :=
  match json with
  | .null => .error (.raised ("Cannot read properties of null (reading '" ++ name ++ "')"))
  | .obj fields => .ok (fields.reverse.lookup name)
  | _ => .ok none

/-- `Buffer.from(envelope.name, 'base64')`. -/
def envelopeBytes (decipher : WebhookDecipher) (json : Json) (name : String) :
    Except Err (List UInt8) :=
  match property json name with
  | .error error => .error error
  | .ok (some (.str text)) => .ok (fromBase64 text)
  | .ok value => decipher.bufferFrom value

/-- `createDecipheriv`, which takes any IV but an empty one, and `setAuthTag` after it. -/
def setupDecipher (key iv tag : List UInt8) : Except Err Unit :=
  if key.length ≠ 32 then .error invalidKeyLength
  else if iv.isEmpty then .error (.raised "Invalid initialization vector")
  else if tag.length ≠ 16 then
    .error (.raised ("Invalid authentication tag length: " ++ toString tag.length))
  else .ok ()

def decryptWebhookSecret (decipher : WebhookDecipher) (env : Option String) (ciphertext : String) :
    Except Err String :=
  match getEncryptionKey env with
  | .error error => .error error
  | .ok key =>
      match readEnvelope decipher ciphertext with
      | none => .error (.raised "Invalid webhook secret envelope — cannot parse JSON")
      | some json => do
          let iv ← envelopeBytes decipher json "iv"
          let tag ← envelopeBytes decipher json "tag"
          let data ← envelopeBytes decipher json "data"
          setupDecipher key iv tag
          match decipher.gcmOpen key iv tag data with
          | none =>
              .error (.raised "Webhook secret decryption failed — wrong key or tampered ciphertext")
          | some (update, final) => .ok (utf8Text update ++ utf8Text final)

/-- `typeof obj.name === 'string'`, false where reading the property throws. -/
def isTextProperty (json : Json) (name : String) : Bool :=
  match property json name with
  | .ok (some (.str _)) => true
  | _ => false

def isEncryptedEnvelope (decipher : WebhookDecipher) (value : String) : Bool :=
  match readEnvelope decipher value with
  | none => false
  | some json => isTextProperty json "iv" && isTextProperty json "tag" && isTextProperty json "data"

end FacilitatorX402.Webhooks
