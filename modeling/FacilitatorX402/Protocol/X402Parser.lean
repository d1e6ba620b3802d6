import FacilitatorX402.Runtime

/-!
# The verify request

What the schema accepts is kept in the types: a `HexString` has matched its regular expression, a
`VerifyRequest` its schema. The parser is total on JSON values and reports an issue for every field
that does not pass, in the order of the schema.
-/

namespace FacilitatorX402

/-- The numbers of a JSON body, as far as the schema tells them apart. -/
inductive JsNumber where
  | int (value : Int)
  | nonInteger (negative : Bool)
  deriving DecidableEq

inductive Json where
  | null
  | bool (value : Bool)
  | num (value : JsNumber)
  | str (value : String)
  | arr (items : List Json)
  | obj (fields : List (String × Json))

/-! ### Strings a regular expression has matched -/

/-- `^0x[0-9a-fA-F]{n}$`. -/
def isHexText (n : Nat) (text : String) : Bool :=
  match text.toList with
  | '0' :: 'x' :: digits => digits.length == n && digits.all HexText.isDigit
  | _ => false

structure HexString (n : Nat) where
  text : String
  wf : isHexText n text = true
  deriving DecidableEq

abbrev Address := HexString (2 * 20)
abbrev Bytes32 := HexString (2 * 32)
abbrev Signature := HexString (2 * 65)

namespace HexString

variable {n : Nat}

def ofText? (n : Nat) (text : String) : Option (HexString n) :=
  if h : isHexText n text = true then some ⟨text, h⟩ else none

def digits (hex : HexString n) : List Char := hex.text.toList.drop 2

/-- The bytes the digits stand for. -/
def bytes (hex : HexString n) : List UInt8 := HexText.fromHex hex.digits

/-- `text.toLowerCase()`. -/
def lower (hex : HexString n) : String := HexText.lowerCase hex.text

theorem toList_text (hex : HexString n) : hex.text.toList = '0' :: 'x' :: hex.digits := by
  have h := hex.wf
  unfold isHexText at h
  split at h
  · rename_i rest hrest
    rw [digits, hrest]
    rfl
  · cases h

theorem length_digits (hex : HexString n) : hex.digits.length = n := by
  have h := hex.wf
  simp only [isHexText, hex.toList_text, Bool.and_eq_true, beq_iff_eq] at h
  exact h.1

theorem all_digits (hex : HexString n) : hex.digits.all HexText.isDigit = true := by
  have h := hex.wf
  simp only [isHexText, hex.toList_text, Bool.and_eq_true, beq_iff_eq] at h
  exact h.2

theorem toList_lower (hex : HexString n) :
    hex.lower.toList = '0' :: 'x' :: hex.digits.map Char.toLower := by
  rw [lower, HexText.toList_lowerCase, hex.toList_text]
  rfl

/-- Two spellings have one lower-case form exactly when they stand for the same bytes. -/
theorem lower_eq_iff {n m : Nat} (left : HexString (2 * n)) (right : HexString (2 * m)) :
    left.lower = right.lower ↔ left.bytes = right.bytes := by
  rw [bytes, bytes, HexText.fromHex_eq_iff left.length_digits right.length_digits left.all_digits
    right.all_digits, ← String.toList_inj, left.toList_lower, right.toList_lower]
  simp

theorem fromHex_lower {n : Nat} (hex : HexString (2 * n)) :
    HexText.fromHex (hex.lower.toList.drop 2) = hex.bytes := by
  rw [hex.toList_lower]
  exact HexText.fromHex_map_toLower n _ hex.length_digits hex.all_digits

/-- The hexadecimal text with these digits. -/
def ofDigits (digits : List Char) (hlength : digits.length = n)
    (hdigits : digits.all HexText.isDigit = true) : HexString n where
  text := String.ofList ('0' :: 'x' :: digits)
  wf := by simp [isHexText, hlength, hdigits]

@[simp]
theorem digits_ofDigits (digits : List Char) (hlength : digits.length = n)
    (hdigits : digits.all HexText.isDigit = true) :
    (ofDigits digits hlength hdigits).digits = digits := by
  simp [HexString.digits, ofDigits]

theorem lowerCase_lower (hex : HexString n) : HexText.lowerCase hex.lower = hex.lower := by
  have hdigits : ∀ digit ∈ hex.digits, digit.toLower.toLower = digit.toLower := fun digit hmem =>
    HexText.toLower_toLower (List.all_eq_true.mp hex.all_digits digit hmem)
  apply String.toList_inj.mp
  rw [HexText.toList_lowerCase, hex.toList_lower, List.map_cons, List.map_cons, List.map_map,
    List.map_congr_left (show ∀ digit ∈ hex.digits,
      (Char.toLower ∘ Char.toLower) digit = digit.toLower from hdigits)]
  rfl

end HexString

/-- `^\d+$`. -/
def isDecimalText (text : String) : Bool :=
  !text.toList.isEmpty && text.toList.all fun c => decide ('0' ≤ c) && decide (c ≤ '9')

structure DecimalString where
  text : String
  wf : isDecimalText text = true
  deriving DecidableEq

def DecimalString.ofText? (text : String) : Option DecimalString :=
  if h : isDecimalText text = true then some ⟨text, h⟩ else none

/-- `BigInt(text)`. -/
def DecimalString.value (decimal : DecimalString) : Nat := decimalValue decimal.text

/-! ### The request -/

structure Authorization where
  «from» : Address
  «to» : Address
  value : DecimalString
  validAfter : Nat
  validBefore : Nat
  nonce : Bytes32
  validBefore_pos : 0 < validBefore
  deriving DecidableEq

structure VerifyPayload where
  signature : Signature
  authorization : Authorization
  deriving DecidableEq

structure VerifyRequest where
  network : String
  asset : String
  invoiceId : String
  requiredAmount : DecimalString
  recipient : Address
  payload : VerifyPayload
  network_ne : network ≠ ""
  asset_ne : asset ≠ ""
  invoiceId_ne : invoiceId ≠ ""
  invoiceId_length : utf16Length invoiceId ≤ 255
  deriving DecidableEq

namespace VerifyRequest

/-- The schema admits one version and one scheme. -/
def version (_request : VerifyRequest) : String := "1"

def scheme (_request : VerifyRequest) : String := "exact"

def auth (request : VerifyRequest) : Authorization := request.payload.authorization

end VerifyRequest

/-! ### The parser -/

structure ParseIssue where
  path : String
  message : String
  deriving DecidableEq

/-- A field that passed, or the issues found in it. -/
abbrev Checked (α : Type) := Except (List ParseIssue) α

namespace Checked

/-- Check two fields and keep the issues of both. -/
def both {α β : Type} : Checked α → Checked β → Checked (α × β)
  | .ok left, .ok right => .ok (left, right)
  | .ok _, .error issues => .error issues
  | .error issues, .ok _ => .error issues
  | .error issues, .error issues' => .error (issues ++ issues')

end Checked

def typeName : Json → String
  | .null => "null"
  | .bool _ => "boolean"
  | .num _ => "number"
  | .str _ => "string"
  | .arr _ => "array"
  | .obj _ => "object"

/-- The issue of a field of another type than the schema's; a missing field is reported as such. -/
def invalidType (path expected : String) : Option Json → ParseIssue
  | none => ⟨path, "Required"⟩
  | some value => ⟨path, "Expected " ++ expected ++ ", received " ++ typeName value⟩

def checkString (path : String) : Option Json → Checked String
  | some (.str text) => .ok text
  | other => .error [invalidType path "string" other]

def checkObject (path : String) : Option Json → Checked (List (String × Json))
  | some (.obj fields) => .ok fields
  | other => .error [invalidType path "object" other]

/-- A nested object: its own issue, or the issues of its fields. -/
def checkNested {α : Type} (path : String) (parse : List (String × Json) → Checked α)
    (field : Option Json) : Checked α :=
  match checkObject path field with
  | .error issues => .error issues
  | .ok fields => parse fields

def checkLiteral (path expected : String) : Option Json → Checked Unit
  | some (.str text) =>
      if text = expected then .ok ()
      else .error [⟨path, "Invalid literal value, expected \"" ++ expected ++ "\""⟩]
  | _ => .error [⟨path, "Invalid literal value, expected \"" ++ expected ++ "\""⟩]

def checkHex (n : Nat) (path message : String) (field : Option Json) : Checked (HexString n) :=
  match checkString path field with
  | .error issues => .error issues
  | .ok text =>
      match HexString.ofText? n text with
      | some hex => .ok hex
      | none => .error [⟨path, message⟩]

def checkDecimal (path message : String) (field : Option Json) : Checked DecimalString :=
  match checkString path field with
  | .error issues => .error issues
  | .ok text =>
      match DecimalString.ofText? text with
      | some decimal => .ok decimal
      | none => .error [⟨path, message⟩]

/-- `z.string().min(1)`. -/
def checkNonempty (path : String) (field : Option Json) : Checked { text : String // text ≠ "" } :=
  match checkString path field with
  | .error issues => .error issues
  | .ok text =>
      if h : text ≠ "" then .ok ⟨text, h⟩
      else .error [⟨path, "String must contain at least 1 character(s)"⟩]

/-- `z.string().min(1).max(255)`. -/
def checkInvoiceId (path : String) (field : Option Json) :
    Checked { text : String // text ≠ "" ∧ utf16Length text ≤ 255 } :=
  match checkNonempty path field with
  | .error issues => .error issues
  | .ok ⟨text, hne⟩ =>
      if h : utf16Length text ≤ 255 then .ok ⟨text, hne, h⟩
      else .error [⟨path, "String must contain at most 255 character(s)"⟩]

/-- `z.number().int()` with a lower bound: both checks run, so both can be reported. -/
def checkInteger (path : String) (least : Nat) (message : String) (field : Option Json) :
    Checked { n : Nat // least ≤ n } :=
  match field with
  | some (.num (.int value)) =>
      if h : (least : Int) ≤ value then .ok ⟨value.toNat, by omega⟩ else .error [⟨path, message⟩]
  | some (.num (.nonInteger negative)) =>
      .error (⟨path, "Expected integer, received float"⟩ ::
        if negative then [⟨path, message⟩] else [])
  | other => .error [invalidType path "number" other]

def parseAuthorization (fields : List (String × Json)) : Checked Authorization :=
  let path (name : String) := "payload.authorization." ++ name
  let checked :=
    (checkHex (2 * 20) (path "from") "Invalid from address" (fields.lookup "from")).both <|
    (checkHex (2 * 20) (path "to") "Invalid to address" (fields.lookup "to")).both <|
    (checkDecimal (path "value") "Invalid value: must be a decimal string"
      (fields.lookup "value")).both <|
    (checkInteger (path "validAfter") 0 "Number must be greater than or equal to 0"
      (fields.lookup "validAfter")).both <|
    (checkInteger (path "validBefore") 1 "Number must be greater than 0"
      (fields.lookup "validBefore")).both <|
    checkHex (2 * 32) (path "nonce") "Invalid nonce: must be 0x + 32 bytes hex"
      (fields.lookup "nonce")
  checked.map fun (sender, recipient, value, validAfter, validBefore, nonce) =>
    { «from» := sender, «to» := recipient, value := value, validAfter := validAfter.val
      validBefore := validBefore.val, nonce := nonce, validBefore_pos := validBefore.property }

def parsePayload (fields : List (String × Json)) : Checked VerifyPayload :=
  let checked :=
    (checkHex (2 * 65) "payload.signature" "Invalid signature: must be 0x + 65 bytes hex"
      (fields.lookup "signature")).both <|
    checkNested "payload.authorization" parseAuthorization (fields.lookup "authorization")
  checked.map fun (signature, authorization) =>
    { signature := signature, authorization := authorization }

def parseFields (fields : List (String × Json)) : Checked VerifyRequest :=
  let checked :=
    (checkLiteral "version" "1" (fields.lookup "version")).both <|
    (checkLiteral "scheme" "exact" (fields.lookup "scheme")).both <|
    (checkNonempty "network" (fields.lookup "network")).both <|
    (checkNonempty "asset" (fields.lookup "asset")).both <|
    (checkInvoiceId "invoiceId" (fields.lookup "invoiceId")).both <|
    (checkDecimal "requiredAmount" "Invalid requiredAmount: must be a decimal string"
      (fields.lookup "requiredAmount")).both <|
    (checkHex (2 * 20) "recipient" "Invalid recipient address" (fields.lookup "recipient")).both <|
    checkNested "payload" parsePayload (fields.lookup "payload")
  checked.map fun (_, _, network, asset, invoiceId, requiredAmount, recipient, payload) =>
    { network := network.val, asset := asset.val, invoiceId := invoiceId.val
      requiredAmount := requiredAmount, recipient := recipient, payload := payload
      network_ne := network.property, asset_ne := asset.property
      invoiceId_ne := invoiceId.property.1, invoiceId_length := invoiceId.property.2 }

def parseVerifyRequest (raw : Json) : Checked VerifyRequest :=
  checkNested "" parseFields (some raw)

/-! ### What a client sends -/

def Authorization.toJson (authorization : Authorization) : Json :=
  .obj [
    ("from", .str authorization.from.text),
    ("to", .str authorization.to.text),
    ("value", .str authorization.value.text),
    ("validAfter", .num (.int authorization.validAfter)),
    ("validBefore", .num (.int authorization.validBefore)),
    ("nonce", .str authorization.nonce.text)]

def VerifyPayload.toJson (payload : VerifyPayload) : Json :=
  .obj [
    ("signature", .str payload.signature.text),
    ("authorization", payload.authorization.toJson)]

/-- The body of a request. -/
def VerifyRequest.toJson (request : VerifyRequest) : Json :=
  .obj [
    ("version", .str request.version),
    ("scheme", .str request.scheme),
    ("network", .str request.network),
    ("asset", .str request.asset),
    ("invoiceId", .str request.invoiceId),
    ("requiredAmount", .str request.requiredAmount.text),
    ("recipient", .str request.recipient.text),
    ("payload", request.payload.toJson)]

@[simp]
theorem Checked.both_ok {α β : Type} (left : α) (right : β) :
    Checked.both (.ok left) (.ok right) = .ok (left, right) := rfl

/-- What two fields are made of when neither has an issue. -/
theorem Checked.of_both_map {α β γ : Type} {left : Checked α} {right : Checked β} {f : α × β → γ} {result : γ}
    (h : (left.both right).map f = .ok result) :
    ∃ value value', left = .ok value ∧ right = .ok value' ∧ f (value, value') = result := by
  cases left with
  | error issues => cases right <;> cases h
  | ok value =>
      cases right with
      | error issues => cases h
      | ok value' => exact ⟨value, value', rfl, rfl, Except.ok.inj h⟩

@[simp]
theorem checkNested_obj {α : Type} (path : String) (parse : List (String × Json) → Checked α)
    (fields : List (String × Json)) : checkNested path parse (some (.obj fields)) = parse fields :=
  rfl

@[simp]
theorem checkHex_text {n : Nat} (path message : String) (hex : HexString n) :
    checkHex n path message (some (.str hex.text)) = .ok hex := by
  simp [checkHex, checkString, HexString.ofText?, hex.wf]

@[simp]
theorem checkDecimal_text (path message : String) (decimal : DecimalString) :
    checkDecimal path message (some (.str decimal.text)) = .ok decimal := by
  simp [checkDecimal, checkString, DecimalString.ofText?, decimal.wf]

@[simp]
theorem checkNonempty_text (path : String) {text : String} (hne : text ≠ "") :
    checkNonempty path (some (.str text)) = .ok ⟨text, hne⟩ := by
  simp [checkNonempty, checkString, hne]

@[simp]
theorem checkInteger_int (path message : String) {least value : Nat} (hleast : least ≤ value) :
    checkInteger path least message (some (.num (.int value))) = .ok ⟨value, hleast⟩ := by
  simp [checkInteger, hleast]

@[simp]
theorem checkNested_authorization (path : String) (authorization : Authorization) :
    checkNested path parseAuthorization (some authorization.toJson) = .ok authorization := by
  have hbefore : 1 ≤ authorization.validBefore := authorization.validBefore_pos
  simp [Authorization.toJson, parseAuthorization, List.lookup_cons, hbefore, Except.map]

@[simp]
theorem checkNested_payload (path : String) (payload : VerifyPayload) :
    checkNested path parsePayload (some payload.toJson) = .ok payload := by
  simp [VerifyPayload.toJson, parsePayload, List.lookup_cons, Except.map]

/-- **Every request can be sent.** The parser reads its body back. -/
theorem parseVerifyRequest_toJson (request : VerifyRequest) :
    parseVerifyRequest request.toJson = .ok request := by
  have hinvoice : checkInvoiceId "invoiceId" (some (.str request.invoiceId))
      = .ok ⟨request.invoiceId, request.invoiceId_ne, request.invoiceId_length⟩ := by
    simp [checkInvoiceId, request.invoiceId_ne, request.invoiceId_length]
  simp [parseVerifyRequest, VerifyRequest.toJson, parseFields, List.lookup_cons, checkLiteral,
    VerifyRequest.version, VerifyRequest.scheme, request.network_ne, request.asset_ne, hinvoice,
    Except.map]

end FacilitatorX402
