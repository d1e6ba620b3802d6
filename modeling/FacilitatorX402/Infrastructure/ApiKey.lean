import FacilitatorX402.Crypto.SignatureVerifier

/-!
# API keys

A key is thirty-two random bytes behind a prefix; only its SHA-256 is stored.
-/

namespace FacilitatorX402

/-- What `crypto.randomBytes(32)` returns. -/
abbrev RandomBytes := { bytes : List UInt8 // bytes.length = 32 }

/-- `randomBytes(32).toString('hex')`. -/
def RandomBytes.hex (random : RandomBytes) : String := String.ofList (HexText.toHex random.val)

structure ApiKey where
  raw : String
  hash : String
  deriving DecidableEq

/-- `createHash('sha256').update(text).digest('hex')`. -/
def hashApiKey (host : Host) (rawKey : String) : String := (host.sha256 rawKey).hex

def generateApiKey (host : Host) (random : RandomBytes) : ApiKey :=
  let raw := "fac_" ++ random.hex
  { raw := raw, hash := hashApiKey host raw }

/-- Digests of unequal lengths make the comparison throw, which is answered like a difference. -/
def verifyApiKey (host : Host) (rawKey storedHash : String) : Bool :=
  hashApiKey host rawKey = storedHash

def generateSellerId (ulid : String) : String := "seller_" ++ ulid

def generateWebhookId (ulid : String) : String := "wh_" ++ ulid

def generateWebhookSecret (random : RandomBytes) : String := "whsec_" ++ random.hex

@[simp]
theorem verifyApiKey_iff {host : Host} {rawKey storedHash : String} :
    verifyApiKey host rawKey storedHash = true ↔ hashApiKey host rawKey = storedHash :=
  decide_eq_true_iff

@[simp]
theorem generateApiKey_hash (host : Host) (random : RandomBytes) :
    (generateApiKey host random).hash = hashApiKey host (generateApiKey host random).raw := rfl

theorem hashApiKey_ne_empty (host : Host) (rawKey : String) : hashApiKey host rawKey ≠ "" := by
  intro h
  have hlength := congrArg (fun text => text.toList.length) h
  simp [hashApiKey, Digest.hex, (host.sha256 rawKey).property] at hlength

theorem generateApiKey_raw_ne_empty (host : Host) (random : RandomBytes) :
    (generateApiKey host random).raw ≠ "" := by
  intro h
  have hlength := congrArg (fun text => text.toList.length) h
  simp [generateApiKey] at hlength

/-! ### A small deployment -/

/-- A host that digests a text to its last thirty-two characters. -/
def truncatingHost : Host where
  sha256 text := ⟨((text.toList.reverse.map fun c : Char => UInt8.ofNat c.toNat) ++
    List.replicate 32 0).take 32, by simp⟩
  numberText := toString
  toLowerCase := HexText.lowerCase
  toUpperCase text := String.ofList (text.toList.map Char.toUpper)
  recoverTypedDataAddress _ message _ := .ok message.from

/-- Thirty-two times one byte. -/
def sampleRandom (byte : UInt8) : RandomBytes := ⟨List.replicate 32 byte, rfl⟩

end FacilitatorX402
