import FacilitatorX402.Http.WebhookSubscriptions
import FacilitatorX402.Library.Requests

/-!
# The server of the sellers

The other routes over the tables of sellers and of subscriptions: the list of a seller's subscriptions,
their deletion, and the deactivation of a seller by an operator. Rows of one millisecond are listed as they
were inserted.
-/

namespace FacilitatorX402.Webhooks

open KeyedRows Sellers Requests

structure ListWebhooksRequest where
  authorization : Option String
  lookupFault : Fault
  listFault : Fault

structure DeleteWebhookRequest where
  authorization : Option String
  id : String
  lookupFault : Fault
  deleteFault : Fault

/-- The columns that are selected; the secret is not. -/
structure WebhookSummary where
  id : String
  url : String
  events : List String
  active : Bool
  createdAt : String
  deriving DecidableEq

inductive WebhooksReply where
  | refused (httpStatus : Nat) (code reason : String) (message : Option String)
  | listed (webhooks : List WebhookSummary)
  | deleted
  | thrown (error : Err)
  deriving DecidableEq

def WebhookSubscription.summary (row : WebhookSubscription) : WebhookSummary :=
  { id := row.id
    url := row.url
    events := row.events
    active := row.active
    createdAt := isoText row.createdAt }

namespace SubscriptionTable

/-- The rows of a seller. -/
def ofSeller (table : SubscriptionTable) (sellerId : String) : List WebhookSubscription :=
  table.rows.filter (·.sellerId = sellerId)

/-- `findMany({ where: { sellerId }, orderBy: { createdAt: 'desc' } })`. -/
def findMany (table : SubscriptionTable) (sellerId : String) : List WebhookSubscription :=
  (table.ofSeller sellerId).mergeSort fun row row' => row'.createdAt ≤ row.createdAt

/-- `deleteMany({ where: { id, sellerId } })`. -/
def deleteMany (table : SubscriptionTable) (id sellerId : String) : SubscriptionTable :=
  { rows := table.rows.filter fun row => ¬(row.id = id ∧ row.sellerId = sellerId)
    unique := table.unique.sublist (List.filter_sublist.map _) }

end SubscriptionTable

/-- `GET /webhooks`. -/
def listWebhooks (host : Host) (sellers : SellerTable) (table : SubscriptionTable)
    (request : ListWebhooksRequest) : WebhooksReply :=
  match lookupSeller host sellers request.authorization request.lookupFault with
  | .error error => .thrown error
  | .ok none => .refused 401 "unauthorized" "Invalid API key" (some "")
  | .ok (some seller) =>
      match request.listFault with
      | some error => .thrown error
      | none => .listed ((table.findMany seller.id).map (·.summary))

/-- `DELETE /webhooks/:id`: answered alike whether a row was deleted or not. -/
def deleteWebhook (host : Host) (sellers : SellerTable) (table : SubscriptionTable)
    (request : DeleteWebhookRequest) : WebhooksReply × SubscriptionTable :=
  match lookupSeller host sellers request.authorization request.lookupFault with
  | .error error => (.thrown error, table)
  | .ok none => (.refused 401 "unauthorized" "Invalid API key" (some ""), table)
  | .ok (some seller) =>
      match request.deleteFault with
      | some error => (.thrown error, table)
      | none => (.deleted, table.deleteMany request.id seller.id)

/-- A seller that is no longer active. -/
def deactivated (seller : Seller) : Seller := { seller with active := false }

theorem deactivated_id (seller : Seller) : (deactivated seller).id = seller.id := rfl

theorem deactivated_apiKeyHash (seller : Seller) :
    (deactivated seller).apiKeyHash = seller.apiKeyHash := rfl

theorem deactivated_walletAddress (seller : Seller) :
    (deactivated seller).walletAddress = seller.walletAddress := rfl

/-- `update({ where: { id }, data: { active: false } }).catch(() => null)`. -/
def deactivate (table : SellerTable) (id : String) (fault : Fault) : SellerTable :=
  match fault with
  | some _ => table
  | none =>
      { rows := KeyedRows.update Seller.id id deactivated table.rows
        idUnique := table.idUnique.update deactivated_id id
        apiKeyHashUnique := table.apiKeyHashUnique.update_other deactivated_apiKeyHash id
        walletAddressUnique := table.walletAddressUnique.update_other deactivated_walletAddress id }

/-! ### All routes -/

/-- The tables of the sellers and of their subscriptions. -/
structure SellerStore where
  sellers : SellerTable
  subscriptions : SubscriptionTable

/-- A deactivation is a request of an operator. -/
inductive SellerRequest where
  | register (request : RegisterRequest)
  | rotateKey (request : RotateRequest)
  | deactivate (id : String) (fault : Fault)
  | createWebhook (request : CreateWebhookRequest)
  | listWebhooks (request : ListWebhooksRequest)
  | deleteWebhook (request : DeleteWebhookRequest)

inductive SellerAnswer where
  | seller (reply : SellerReply)
  | deactivated
  | subscribe (reply : SubscribeReply)
  | webhooks (reply : WebhooksReply)
  deriving DecidableEq

def serveSellers (host : Host) (crypto : WebhookCrypto) (env : Option String) :
    Handler SellerStore SellerRequest SellerAnswer
  | store, .register request =>
      let (reply, sellers) := register host store.sellers request
      (.seller reply, { store with sellers := sellers })
  | store, .rotateKey request =>
      let (reply, sellers) := rotateKey host store.sellers request
      (.seller reply, { store with sellers := sellers })
  | store, .deactivate id fault =>
      (.deactivated, { store with sellers := deactivate store.sellers id fault })
  | store, .createWebhook request =>
      let (reply, subscriptions) :=
        createWebhook host crypto env store.sellers store.subscriptions request
      (.subscribe reply, { store with subscriptions := subscriptions })
  | store, .listWebhooks request =>
      (.webhooks (listWebhooks host store.sellers store.subscriptions request), store)
  | store, .deleteWebhook request =>
      let (reply, subscriptions) := deleteWebhook host store.sellers store.subscriptions request
      (.webhooks reply, { store with subscriptions := subscriptions })

end FacilitatorX402.Webhooks
