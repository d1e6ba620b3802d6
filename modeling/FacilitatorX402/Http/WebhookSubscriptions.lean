import FacilitatorX402.Http.Sellers
import FacilitatorX402.Infrastructure.Webhooks

/-!
# Subscribing to webhooks

`POST /webhooks`: the secret is returned once, and its envelope stored.
-/

namespace FacilitatorX402.Webhooks

open KeyedRows Sellers

structure CreateWebhookBody where
  url : String
  events : List String
  deriving DecidableEq

def webhookEvents : List String :=
  ["settlement.confirmed", "settlement.failed", "verify.accepted", "verify.rejected"]

/-- The elements of an array, each under its index. -/
def checkElements {α : Type} (path : String) (check : String → Json → Checked α) :
    Nat → List Json → Checked (List α)
  | _, [] => .ok []
  | index, item :: items =>
      ((check (path ++ "." ++ toString index) item).both
        (checkElements path check (index + 1) items)).map fun (value, values) => value :: values

/-- `z.array(z.enum(…)).min(1)`. -/
def checkEvents (path : String) : Option Json → Checked (List String)
  | some (.arr items) =>
      if items.isEmpty then .error [⟨path, "Array must contain at least 1 element(s)"⟩]
      else checkElements path (checkEnum webhookEvents) 0 items
  | other => .error [invalidType path "array" other]

def parseCreateWebhookFields (isUrl : String → Bool) (fields : List (String × Json)) :
    Checked CreateWebhookBody :=
  ((checkUrl isUrl "url" (fields.lookup "url")).both
    (checkEvents "events" (fields.lookup "events"))).map fun (url, events) =>
      { url := url, events := events }

def parseCreateWebhookBody (isUrl : String → Bool) (raw : Json) : Checked CreateWebhookBody :=
  checkNested "" (parseCreateWebhookFields isUrl) (some raw)

theorem checkElements_mem {values : List String} {path : String} {items : List Json} {index : Nat}
    {texts : List String} (h : checkElements path (checkEnum values) index items = .ok texts) :
    ∀ text ∈ texts, text ∈ values := by
  induction items generalizing index texts with
  | nil =>
      obtain rfl := Except.ok.inj h
      exact fun _ hmem => absurd hmem List.not_mem_nil
  | cons item items ih =>
      rw [checkElements] at h
      obtain ⟨first, rest, hfirst, hrest, rfl⟩ := Checked.of_both_map h
      intro text hmem
      rcases List.mem_cons.mp hmem with rfl | hmem
      · exact checkEnum_mem hfirst
      · exact ih hrest text hmem

theorem parseCreateWebhookBody_events {isUrl : String → Bool} {raw : Json} {body : CreateWebhookBody}
    (h : parseCreateWebhookBody isUrl raw = .ok body) : ∀ event ∈ body.events, event ∈ webhookEvents := by
  rw [parseCreateWebhookBody, checkNested] at h
  split at h
  · cases h
  · rename_i fields _
    rw [parseCreateWebhookFields] at h
    obtain ⟨url, events, -, hevents, rfl⟩ := Checked.of_both_map h
    cases hfield : fields.lookup "events" with
    | none =>
        rw [hfield] at hevents
        cases hevents
    | some value =>
        rw [hfield] at hevents
        cases value with
        | arr items =>
            rw [checkEvents] at hevents
            split at hevents
            · cases hevents
            · exact checkElements_mem hevents
        | _ => cases hevents

structure CreateWebhookRequest where
  authorization : Option String
  body : Json
  urls : UrlRules
  ulid : String
  random : RandomBytes
  iv : List UInt8
  now : Nat
  lookupFault : Fault
  createFault : Fault

structure CreateWebhookReply where
  id : String
  url : String
  events : List String
  active : Bool
  secret : String
  createdAt : String
  deriving DecidableEq

inductive SubscribeReply where
  | refused (httpStatus : Nat) (code reason : String) (message : Option String)
  | created (reply : CreateWebhookReply)
  | thrown (error : Err)
  deriving DecidableEq

/-- The rows of the table, by their primary key. -/
structure SubscriptionTable where
  rows : List WebhookSubscription
  unique : KeyedRows.Unique WebhookSubscription.id rows

def SubscriptionTable.create (table : SubscriptionTable) (row : WebhookSubscription) (fault : Fault) :
    Except Err Unit × SubscriptionTable :=
  match fault with
  | some error => (.error error, table)
  | none =>
      if hfree : ∀ other ∈ table.rows, other.id ≠ row.id then
        (.ok (), ⟨table.rows ++ [row], table.unique.append hfree⟩)
      else (.error uniqueViolation, table)

def newSubscription (request : CreateWebhookRequest) (seller : Seller) (body : CreateWebhookBody)
    (encryptedSecret : String) : WebhookSubscription :=
  { id := generateWebhookId request.ulid
    sellerId := seller.id
    url := body.url
    events := body.events
    secret := encryptedSecret
    active := true
    createdAt := request.now }

def createdReply (row : WebhookSubscription) (plaintextSecret : String) : CreateWebhookReply :=
  { id := row.id
    url := row.url
    events := row.events
    active := row.active
    secret := plaintextSecret
    createdAt := isoText row.createdAt }

/-- The handler from the encryption of the secret on. -/
def storeWebhook (crypto : WebhookCrypto) (env : Option String) (table : SubscriptionTable)
    (request : CreateWebhookRequest) (seller : Seller) (body : CreateWebhookBody) :
    SubscribeReply × SubscriptionTable :=
  let plaintextSecret := generateWebhookSecret request.random
  match encryptWebhookSecret crypto env request.iv plaintextSecret with
  | .error error => (.thrown error, table)
  | .ok encryptedSecret =>
      let row := newSubscription request seller body encryptedSecret
      match table.create row request.createFault with
      | (.error error, table) => (.thrown error, table)
      | (.ok _, table) => (.created (createdReply row plaintextSecret), table)

/-- `POST /webhooks`. -/
def createWebhook (host : Host) (crypto : WebhookCrypto) (env : Option String) (sellers : SellerTable)
    (table : SubscriptionTable) (request : CreateWebhookRequest) : SubscribeReply × SubscriptionTable :=
  match lookupSeller host sellers request.authorization request.lookupFault with
  | .error error => (.thrown error, table)
  | .ok none => (.refused 401 "unauthorized" "Invalid API key" (some ""), table)
  | .ok (some seller) =>
      match parseCreateWebhookBody request.urls.isUrl request.body with
      | .error issues =>
          (.refused 400 "invalid_payload" "Validation failed" (issues.head?.map (·.message)), table)
      | .ok body =>
          match unsafeUrl request.urls (some body.url) with
          | some message =>
              (.refused 400 "invalid_webhook_url" "Webhook URL failed security validation"
                (some message), table)
          | none => storeWebhook crypto env table request seller body

theorem SubscriptionTable.mem_create {table table' : SubscriptionTable} {row : WebhookSubscription}
    {fault : Fault} (h : table.create row fault = (.ok (), table')) : row ∈ table'.rows := by
  cases fault with
  | some error => cases (Prod.mk.inj h).1
  | none =>
      simp only [create] at h
      split at h
      · obtain ⟨-, rfl⟩ := Prod.mk.inj h
        exact List.mem_append_right _ (List.mem_singleton_self _)
      · cases (Prod.mk.inj h).1

/-- The row of a subscription that was created holds the envelope of the secret that was returned. -/
def StoredFor (crypto : WebhookCrypto) (env : Option String) (request : CreateWebhookRequest)
    (reply : CreateWebhookReply) (table : SubscriptionTable) : Prop :=
  reply.secret = generateWebhookSecret request.random ∧ ∃ row ∈ table.rows, row.id = reply.id ∧
    encryptWebhookSecret crypto env request.iv reply.secret = .ok row.secret

theorem storeWebhook_created {crypto : WebhookCrypto} {env : Option String}
    {table table' : SubscriptionTable} {request : CreateWebhookRequest} {seller : Seller}
    {body : CreateWebhookBody} {reply : CreateWebhookReply}
    (h : storeWebhook crypto env table request seller body = (.created reply, table')) :
    StoredFor crypto env request reply table' := by
  cases hsecret : encryptWebhookSecret crypto env request.iv
      (generateWebhookSecret request.random) with
  | error error =>
      simp only [storeWebhook, hsecret] at h
      cases (Prod.mk.inj h).1
  | ok encryptedSecret =>
      rcases hcreate : table.create (newSubscription request seller body encryptedSecret)
        request.createFault with ⟨error | _, created⟩
      · simp only [storeWebhook, hsecret, hcreate] at h
        cases (Prod.mk.inj h).1
      · simp only [storeWebhook, hsecret, hcreate] at h
        cases h
        exact ⟨rfl, _, SubscriptionTable.mem_create hcreate, rfl, hsecret⟩

theorem createWebhook_created {host : Host} {crypto : WebhookCrypto} {env : Option String}
    {sellers : SellerTable} {table table' : SubscriptionTable} {request : CreateWebhookRequest}
    {reply : CreateWebhookReply}
    (h : createWebhook host crypto env sellers table request = (.created reply, table')) :
    StoredFor crypto env request reply table' := by
  rw [createWebhook] at h
  cases hlookup : lookupSeller host sellers request.authorization request.lookupFault with
  | error error =>
      simp only [hlookup] at h
      cases (Prod.mk.inj h).1
  | ok found =>
      cases found with
      | none =>
          simp only [hlookup] at h
          cases (Prod.mk.inj h).1
      | some seller =>
          simp only [hlookup] at h
          cases hparse : parseCreateWebhookBody request.urls.isUrl request.body with
          | error issues =>
              simp only [hparse] at h
              cases (Prod.mk.inj h).1
          | ok body =>
              simp only [hparse] at h
              cases hrefused : unsafeUrl request.urls (some body.url) with
              | some message =>
                  simp only [hrefused] at h
                  cases (Prod.mk.inj h).1
              | none =>
                  simp only [hrefused] at h
                  exact storeWebhook_created h

end FacilitatorX402.Webhooks
