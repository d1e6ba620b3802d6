import FacilitatorX402.Http.WebhookSubscriptions

/-!
# Registering a webhook

`SellerService.registerWebhook`. The row is looked for under an id made from the seller's, and a row
that is created takes the default of the column, a new cuid.
-/

namespace FacilitatorX402.Webhooks

open KeyedRows Sellers

/-- A call of `registerWebhook`, with the cuid and the time that a created row would take. -/
structure RegisterWebhookCall where
  sellerId : String
  url : String
  secret : String
  events : List String
  cuid : String
  now : Nat
  fault : Fault
  deriving DecidableEq

/-- The row that the `create` of the upsert makes. -/
def RegisterWebhookCall.row (call : RegisterWebhookCall) : WebhookSubscription :=
  { id := call.cuid
    sellerId := call.sellerId
    url := call.url
    events := call.events
    secret := call.secret
    active := true
    createdAt := call.now }

/-- The `update` of the upsert. -/
def RegisterWebhookCall.renew (call : RegisterWebhookCall) (row : WebhookSubscription) :
    WebhookSubscription :=
  { row with url := call.url, secret := call.secret, events := call.events, active := true }

theorem RegisterWebhookCall.renew_id (call : RegisterWebhookCall) (row : WebhookSubscription) :
    (call.renew row).id = row.id := rfl

def registerWebhook (table : SubscriptionTable) (call : RegisterWebhookCall) :
    Except Err Unit × SubscriptionTable :=
  let id := "wh_" ++ call.sellerId
  match call.fault with
  | some error => (.error error, table)
  | none =>
      if id ∈ table.rows.map WebhookSubscription.id then
        (.ok (), ⟨KeyedRows.update WebhookSubscription.id id call.renew table.rows,
          table.unique.update call.renew_id id⟩)
      else table.create call.row none

/-- The table after some calls, the first of the list first. -/
def registerAll (table : SubscriptionTable) (calls : List RegisterWebhookCall) : SubscriptionTable :=
  calls.foldl (fun table call => (registerWebhook table call).2) table

def SubscriptionTable.empty : SubscriptionTable := ⟨[], List.nodup_nil⟩

end FacilitatorX402.Webhooks
