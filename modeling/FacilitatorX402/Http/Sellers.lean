import FacilitatorX402.Http.Routes
import FacilitatorX402.Http.SellerAuth

/-!
# The routes of the sellers

Registration and key rotation, over the table of sellers. What the server draws, what the clock says
and what the database does comes with a request.
-/

namespace FacilitatorX402.Sellers

open Service

/-! ### Bodies -/

def DeviceType.text : DeviceType → String
  | server => "server"
  | robot => "robot"
  | iot => "iot"
  | agent => "agent"

def DeviceType.ofText? (text : String) : Option DeviceType :=
  [server, robot, iot, agent].find? (·.text = text)

structure RegisterSellerBody where
  name : String
  referralCode : Option String
  deviceType : DeviceType
  webhookUrl : Option String
  deriving DecidableEq

/-- The text of an enumeration in a message. -/
def enumText (values : List String) : String :=
  " | ".intercalate (values.map fun value => "'" ++ value ++ "'")

def deviceTypes : List String := ["server", "robot", "iot", "agent"]

def checkEnum (values : List String) (path : String) : Json → Checked String
  | .str text =>
      if text ∈ values then .ok text
      else .error [⟨path, "Invalid enum value. Expected " ++ enumText values ++ ", received '" ++ text
        ++ "'"⟩]
  | value => .error [invalidType path (enumText values) (some value)]

theorem checkEnum_mem {values : List String} {path text : String} {item : Json}
    (h : checkEnum values path item = .ok text) : text ∈ values := by
  cases item with
  | str given =>
      rw [checkEnum] at h
      split at h
      · rename_i hmem
        exact Except.ok.inj h ▸ hmem
      · cases h
  | _ => cases h

/-- A missing device type is a server. -/
def checkDeviceType (path : String) : Option Json → Checked DeviceType
  | none => .ok .server
  | some value =>
      (checkEnum deviceTypes path value).map fun text => (DeviceType.ofText? text).getD .server

/-- `z.string().url()`; what `new URL` parses is a parameter. -/
def checkUrl (isUrl : String → Bool) (path : String) (field : Option Json) : Checked String :=
  match checkString path field with
  | .error issues => .error issues
  | .ok text => if isUrl text then .ok text else .error [⟨path, "Invalid url"⟩]

def parseRegisterFields (isUrl : String → Bool) (fields : List (String × Json)) :
    Checked RegisterSellerBody :=
  let checked :=
    (checkBounded "name" 1 100 (fields.lookup "name")).both <|
    (checkOptional (checkBounded "referralCode" 0 50) (fields.lookup "referralCode")).both <|
    (checkDeviceType "deviceType" (fields.lookup "deviceType")).both <|
    checkOptional (checkUrl isUrl "webhookUrl") (fields.lookup "webhookUrl")
  checked.map fun (name, referralCode, deviceType, webhookUrl) =>
    { name := name, referralCode := referralCode, deviceType := deviceType, webhookUrl := webhookUrl }

def parseRegisterBody (isUrl : String → Bool) (raw : Json) : Checked RegisterSellerBody :=
  checkNested "" (parseRegisterFields isUrl) (some raw)

/-! ### Requests and replies -/

/-- What URLs are. `assertSafeWebhookUrl` resolves the host name; it passes, or throws a message. -/
structure UrlRules where
  isUrl : String → Bool
  assertSafeWebhookUrl : String → Except String Unit

structure RegisterRequest where
  body : Json
  urls : UrlRules
  ulid : String
  random : RandomBytes
  now : Nat
  fault : Fault

structure RotateRequest where
  authorization : Option String
  random : RandomBytes
  now : Nat
  lookupFault : Fault
  updateFault : Fault

structure RegisterReply where
  sellerId : String
  apiKey : String
  walletAddress : String
  deviceType : DeviceType
  createdAt : String
  deriving DecidableEq

structure RotateReply where
  sellerId : String
  apiKey : String
  rotatedAt : String
  deriving DecidableEq

/-- A refusal has a status of its own, a registration is sent with 201 and a rotation with 200. An
error that is thrown is answered by the error handler. -/
inductive SellerReply where
  | refused (httpStatus : Nat) (code reason : String) (message : Option String)
  | registered (reply : RegisterReply)
  | rotated (reply : RotateReply)
  | thrown (error : Err)
  deriving DecidableEq

/-- `0x${Buffer.from(sellerId).toString('hex').slice(0, 40)}`. -/
def placeholderWallet (sellerId : String) : String :=
  "0x" ++ String.ofList ((HexText.toHex (sellerId.toList.flatMap String.utf8EncodeChar)).take 40)

def newSeller (host : Host) (request : RegisterRequest) (body : RegisterSellerBody) : Seller :=
  { id := generateSellerId request.ulid
    name := body.name
    apiKeyHash := (generateApiKey host request.random).hash
    walletAddress := placeholderWallet (generateSellerId request.ulid)
    referralCode := body.referralCode
    deviceType := body.deviceType
    webhookUrl := body.webhookUrl
    active := true
    createdAt := request.now }

/-- The handler from the creation of the row on. -/
def registerParsed (host : Host) (table : SellerTable) (request : RegisterRequest)
    (body : RegisterSellerBody) : SellerReply × SellerTable :=
  match table.create (newSeller host request body) request.fault with
  | (.error error, table) => (.thrown error, table)
  | (.ok seller, table) =>
      (.registered
        { sellerId := seller.id
          apiKey := (generateApiKey host request.random).raw
          walletAddress := seller.walletAddress
          deviceType := seller.deviceType
          createdAt := isoText seller.createdAt },
        table)

/-- Why a webhook URL is refused, if there is one. -/
def unsafeUrl (urls : UrlRules) (webhookUrl : Option String) : Option String :=
  webhookUrl.bind fun url =>
    match urls.assertSafeWebhookUrl url with
    | .ok _ => none
    | .error message => some message

/-- `POST /sellers/register`. -/
def register (host : Host) (table : SellerTable) (request : RegisterRequest) :
    SellerReply × SellerTable :=
  match parseRegisterBody request.urls.isUrl request.body with
  | .error issues =>
      (.refused 400 "invalid_payload" "Validation failed" (issues.head?.map (·.message)), table)
  | .ok body =>
      match unsafeUrl request.urls body.webhookUrl with
      | some message =>
          (.refused 400 "invalid_webhook_url" "Webhook URL failed security validation"
            (some message), table)
      | none => registerParsed host table request body

/-- `await resolveSeller(…)`: without a token nothing is asked of the database. -/
def lookupSeller (host : Host) (table : SellerTable) (authorization : Option String) (fault : Fault) :
    Except Err (Option Seller) :=
  if (extractBearerToken authorization).getD "" = "" then .ok none
  else
    match fault with
    | some error => .error error
    | none => .ok (resolveSeller host table authorization)

/-- `POST /sellers/rotate-key`. -/
def rotateKey (host : Host) (table : SellerTable) (request : RotateRequest) :
    SellerReply × SellerTable :=
  match lookupSeller host table request.authorization request.lookupFault with
  | .error error => (.thrown error, table)
  | .ok none =>
      (.refused 401 "unauthorized" "Invalid API key"
        (some "Provide Authorization: Bearer <currentApiKey>"), table)
  | .ok (some seller) =>
      match table.updateApiKeyHash seller.id (generateApiKey host request.random).hash
          request.updateFault with
      | (.error error, table) => (.thrown error, table)
      | (.ok _, table) =>
          (.rotated
            { sellerId := seller.id
              apiKey := (generateApiKey host request.random).raw
              rotatedAt := isoText request.now },
            table)

/-! ### What each statement does to the table -/

theorem SellerTable.create_cases (table : SellerTable) (seller : Seller) (fault : Fault) :
    (∃ table', table.create seller fault = (.ok seller, table') ∧
        table'.rows = table.rows ++ [seller]) ∨
      ∃ error, table.create seller fault = (.error error, table) := by
  cases fault with
  | some error => exact .inr ⟨error, rfl⟩
  | none =>
      by_cases hfree : table.Free seller
      · exact .inl ⟨_, dif_pos hfree, rfl⟩
      · exact .inr ⟨_, dif_neg hfree⟩

theorem SellerTable.updateApiKeyHash_cases (table : SellerTable) (id apiKeyHash : String)
    (fault : Fault) :
    (∃ table', table.updateApiKeyHash id apiKeyHash fault = (.ok (), table') ∧
        table'.rows = table.rekeyed id apiKeyHash) ∨
      ∃ error, table.updateApiKeyHash id apiKeyHash fault = (.error error, table) := by
  cases fault with
  | some error => exact .inr ⟨error, rfl⟩
  | none =>
      by_cases hid : id ∉ table.rows.map Seller.id
      · exact .inr ⟨_, if_pos hid⟩
      · by_cases hunique : KeyedRows.Unique Seller.apiKeyHash (table.rekeyed id apiKeyHash)
        · exact .inl ⟨_, (if_neg hid).trans (dif_pos hunique), rfl⟩
        · exact .inr ⟨_, (if_neg hid).trans (dif_neg hunique)⟩

end FacilitatorX402.Sellers
