import FacilitatorX402.Http.ErrorHandler
import FacilitatorX402.Infrastructure.PaymentStore
import FacilitatorX402.Infrastructure.ServiceStore

/-!
# Receipts

The payload of a receipt is a JSON column: nothing checks what a writer puts under which name, and the
two readers take what is missing for null or for an empty text. `GET /receipts/:id` and
`getReceiptById` look for different names.
-/

namespace FacilitatorX402

/-! ### What the writers store -/

/-- The payload of `settlePayment`. -/
def Payment.ReceiptPayload.toJson (payload : Payment.ReceiptPayload) : Json :=
  .obj
    [("network", .str payload.network), ("asset", .str payload.asset), ("seller", .str payload.seller),
      ("buyer", .str payload.buyer), ("amount", .str payload.amount), ("txHash", .str payload.txHash),
      ("feeAmount", .str payload.feeAmount), ("developerShare", .str payload.developerShare),
      ("confirmedAt", .str payload.confirmedAt)]

def jsonOrNull : Option String → Json
  | none => .null
  | some text => .str text

/-- The payload of `runSettle` and of the worker. -/
def Service.ReceiptPayload.toJson (payload : Service.ReceiptPayload) : Json :=
  .obj
    [("settlementId", .str payload.settlementId), ("txHash", .str payload.txHash),
      ("network", .str payload.network), ("asset", .str payload.asset),
      ("grossAmount", .str payload.grossAmount), ("feeAmount", .str payload.feeAmount),
      ("developerShare", .str payload.developerShare), ("netAmount", .str payload.netAmount),
      ("feeBps", .num (.int payload.feeBps)), ("referralCode", jsonOrNull payload.referralCode),
      ("confirmedAt", .str payload.confirmedAt)]

/-- What a query joins to a receipt, and the time at which the database created it. -/
structure ReceiptJoin where
  settlementId : Option String
  requestAsset : String
  requestNetwork : Option String
  referralCode : Option String
  createdAt : Nat

/-- A receipt as `findUnique` returns it. -/
structure FoundReceipt where
  id : String
  requestId : String
  protocolVersion : String
  responsePayload : Json
  join : ReceiptJoin

def Payment.PaymentReceipt.found (receipt : Payment.PaymentReceipt) (join : ReceiptJoin) :
    FoundReceipt :=
  { id := receipt.id
    requestId := receipt.requestId
    protocolVersion := receipt.protocolVersion
    responsePayload := receipt.responsePayload.toJson
    join := { join with settlementId := some receipt.settlementId } }

def Service.PaymentReceipt.found (receipt : Service.PaymentReceipt) (join : ReceiptJoin) :
    FoundReceipt :=
  { id := receipt.id
    requestId := receipt.requestId
    protocolVersion := receipt.protocolVersion
    responsePayload := receipt.responsePayload.toJson
    join := join }

/-! ### `GET /receipts/:id` -/

/-- `payload[name] ?? null`. -/
def payloadOrNull (payload : Json) (name : String) : Json := (payload.field? name).getD .null

structure RouteReceipt where
  receiptId : String
  requestId : String
  protocolVersion : String
  network : Json
  asset : String
  grossAmount : Json
  feeAmount : Json
  developerShare : Json
  netAmount : Json
  feeBps : Json
  txHash : Json
  referralCode : Json
  confirmedAt : Json
  createdAt : String

def routeReceipt (receipt : FoundReceipt) : RouteReceipt :=
  let payload := receipt.responsePayload
  { receiptId := receipt.id
    requestId := receipt.requestId
    protocolVersion := receipt.protocolVersion
    network := payloadOrNull payload "network"
    asset := receipt.join.requestAsset
    grossAmount := payloadOrNull payload "grossAmount"
    feeAmount := payloadOrNull payload "feeAmount"
    developerShare := payloadOrNull payload "developerShare"
    netAmount := payloadOrNull payload "netAmount"
    feeBps := payloadOrNull payload "feeBps"
    txHash := payloadOrNull payload "txHash"
    referralCode := payloadOrNull payload "referralCode"
    confirmedAt := payloadOrNull payload "confirmedAt"
    createdAt := isoText receipt.join.createdAt }

inductive ReceiptAnswer where
  | found (receipt : RouteReceipt)
  | notFound (code message : String)

def receiptsRoute (id : String) : Option FoundReceipt → ReceiptAnswer
  | none => .notFound "receipt_not_found" ("No receipt found with id: " ++ id)
  | some receipt => .found (routeReceipt receipt)

/-! ### `getReceiptById` -/

/-- `String(payload[name] ?? '')`; what is not a text is printed by the runtime. -/
def payloadText (print : Json → String) (payload : Json) (name : String) : String :=
  match payload.field? name with
  | none => ""
  | some .null => ""
  | some (.str text) => text
  | some json => print json

structure ReceiptDTO where
  receiptId : String
  requestId : String
  settlementId : String
  protocolVersion : String
  networkName : String
  networkChainId : String
  assetSymbol : String
  seller : String
  buyer : String
  amount : String
  txHash : String
  feeAmount : String
  developerShare : String
  referralCode : Option String
  confirmedAt : String
  createdAt : String

def receiptDTO (print : Json → String) (receipt : FoundReceipt) : ReceiptDTO :=
  let payload := receipt.responsePayload
  { receiptId := receipt.id
    requestId := receipt.requestId
    settlementId := receipt.join.settlementId.getD ""
    protocolVersion := receipt.protocolVersion
    networkName := payloadText print payload "network"
    networkChainId := receipt.join.requestNetwork.getD ""
    assetSymbol := payloadText print payload "asset"
    seller := payloadText print payload "seller"
    buyer := payloadText print payload "buyer"
    amount := payloadText print payload "amount"
    txHash := payloadText print payload "txHash"
    feeAmount := payloadText print payload "feeAmount"
    developerShare := payloadText print payload "developerShare"
    referralCode := receipt.join.referralCode
    confirmedAt := payloadText print payload "confirmedAt"
    createdAt := isoText receipt.join.createdAt }

def getReceiptById (print : Json → String) (id : String) : Option FoundReceipt → Except Err ReceiptDTO
  | none =>
      .error (.facilitator (createError "not_found" (some ("No receipt found for id: " ++ id)) none))
  | some receipt => .ok (receiptDTO print receipt)

/-! ### `listReceiptsBySeller` -/

namespace Payment

/-- The request that a row joins. -/
def Db.requestOf (db : Db) (requestId : String) : Option PaymentRequest :=
  db.requests.find? (·.id = requestId)

/-- `request: { seller }` of a query: the database compares the texts. -/
def Db.paidBy (db : Db) (seller requestId : String) : Bool :=
  (db.requestOf requestId).any (·.seller = seller)

structure ListOpts where
  page : Option Int
  perPage : Option Int

/-- `skip` and `take` of a query. Fewer than no rows are not skipped, and a negative number of rows is
taken from the end. -/
def pageOf {α : Type} (skip take : Int) (rows : List α) : Except Err (List α) :=
  if skip < 0 then
    .error (.raised ("Invalid value for skip argument: Value can only be positive, found: "
      ++ toString skip))
  else if take < 0 then
    .ok ((rows.reverse.drop skip.toNat).take (-take).toNat).reverse
  else .ok ((rows.drop skip.toNat).take take.toNat)

/-- What `include: { request: true, settlement: true }` adds. -/
def Db.joinReceipt (db : Db) (createdAt : PaymentReceipt → Nat) (receipt : PaymentReceipt) :
    FoundReceipt :=
  receipt.found
    { settlementId := none
      requestAsset := ((db.requestOf receipt.requestId).map (·.asset)).getD ""
      requestNetwork := (db.requestOf receipt.requestId).map (·.network)
      referralCode :=
        (db.settlements.find? (·.id = receipt.settlementId)).bind (·.referralCode)
      createdAt := createdAt receipt }

/-- The receipts come last created first. -/
def listReceiptsBySeller (print : Json → String) (createdAt : PaymentReceipt → Nat) (seller : String)
    (db : Db) (opts : ListOpts) : Except Err (List ReceiptDTO) :=
  let page := opts.page.getD 1
  let perPage := min (opts.perPage.getD 20) 100
  let skip := (page - 1) * perPage
  let receipts := (db.receipts.filter fun receipt => db.paidBy seller receipt.requestId).mergeSort
    fun receipt other => createdAt other ≤ createdAt receipt
  (pageOf skip perPage receipts).map fun receipts =>
    receipts.map fun receipt => receiptDTO print (db.joinReceipt createdAt receipt)

end Payment

end FacilitatorX402
