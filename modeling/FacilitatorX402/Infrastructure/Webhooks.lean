import FacilitatorX402.Http.Errors
import FacilitatorX402.Infrastructure.ApiKey
import FacilitatorX402.Library.Base64
import FacilitatorX402.Library.KeyStore
import FacilitatorX402.Library.KeyedRows

/-!
# Webhooks

From the secret of a subscription to the request a seller receives: the envelope a secret is stored in,
the notifier that enters a delivery and enqueues a job, the queue, the worker that signs and sends, and
the check the seller makes.
-/

namespace FacilitatorX402.Webhooks

open KeyedRows

/-! ### Secrets at rest -/

/-- What `node:crypto` computes. `gcmSeal` is AES-256-GCM: the ciphertext and the tag. -/
structure WebhookCrypto where
  hmac : String → String → Digest
  gcmSeal : List UInt8 → List UInt8 → List UInt8 → List UInt8 × List UInt8

def utf8Bytes (text : String) : List UInt8 := text.toList.flatMap String.utf8EncodeChar

def base64 (bytes : List UInt8) : String := String.ofList (Base64.encode bytes)

def missingEncryptionKey : Err :=
  .raised ("WEBHOOK_ENCRYPTION_KEY must be set to a 64-character hex string (32 bytes). "
    ++ "Generate with: openssl rand -hex 32")

/-- The key of the environment variable. -/
def getEncryptionKey (env : Option String) : Except Err (List UInt8) :=
  match env with
  | none => .error missingEncryptionKey
  | some hex =>
      if utf16Length hex ≠ 64 then .error missingEncryptionKey
      else .ok (HexText.fromHex hex.toList)

def invalidKeyLength : Err := .raised "Invalid key length"

/-- The JSON of the envelope, in base 64. -/
def envelope (iv : List UInt8) (sealed : List UInt8 × List UInt8) : String :=
  base64 (utf8Bytes (jsonObject
    [("iv", jsonString (base64 iv)), ("tag", jsonString (base64 sealed.2)),
      ("data", jsonString (base64 sealed.1))]))

/-- `createCipheriv` takes a key of thirty-two bytes, and a value that is no hex makes it shorter. -/
def encryptWebhookSecret (crypto : WebhookCrypto) (env : Option String) (iv : List UInt8)
    (plaintext : String) : Except Err String :=
  match getEncryptionKey env with
  | .error error => .error error
  | .ok key =>
      if key.length ≠ 32 then .error invalidKeyLength
      else .ok (envelope iv (crypto.gcmSeal key iv (utf8Bytes plaintext)))

/-! ### Subscriptions and deliveries -/

structure WebhookSubscription where
  id : String
  sellerId : String
  url : String
  events : List String
  secret : String
  active : Bool
  createdAt : Nat
  deriving DecidableEq

structure WebhookPayload where
  event : String
  requestId : String
  verificationId : Option String
  settlementId : Option String
  txHash : Option String
  receiptId : Option String
  network : Option String
  asset : Option String
  amount : Option String
  feeAmount : Option String
  sellerId : Option String
  timestamp : String
  deriving DecidableEq

/-- A field that is undefined is not printed. -/
def optionalField (name : String) (value : Option String) : List (String × String) :=
  match value with
  | none => []
  | some text => [(name, jsonString text)]

/-- `JSON.stringify(payload)`. -/
def WebhookPayload.stringify (payload : WebhookPayload) : String :=
  jsonObject
    ([("event", jsonString payload.event), ("requestId", jsonString payload.requestId)]
      ++ optionalField "verificationId" payload.verificationId
      ++ optionalField "settlementId" payload.settlementId
      ++ optionalField "txHash" payload.txHash
      ++ optionalField "receiptId" payload.receiptId
      ++ optionalField "network" payload.network
      ++ optionalField "asset" payload.asset
      ++ optionalField "amount" payload.amount
      ++ optionalField "feeAmount" payload.feeAmount
      ++ optionalField "sellerId" payload.sellerId
      ++ [("timestamp", jsonString payload.timestamp)])

inductive DeliveryStatus where
  | pending
  | delivered
  | failed
  deriving DecidableEq

structure WebhookDelivery where
  id : String
  subscriptionId : String
  event : String
  payload : WebhookPayload
  attempt : Nat
  status : DeliveryStatus
  deriving DecidableEq

/-! ### The queue -/

structure WebhookJob where
  webhookUrl : String
  webhookSecret : String
  payload : WebhookPayload
  deriving DecidableEq

/-- Whether a job has attempts left to run, or how it ended. -/
inductive JobState where
  | waiting
  | completed
  | failed
  deriving DecidableEq

structure QueuedJob where
  jobId : String
  job : WebhookJob
  attemptsMade : Nat
  state : JobState
  deriving DecidableEq

/-- `defaultJobOptions.attempts`. -/
def maxAttempts : Nat := 5

/-- `queue.add`: a job whose id is taken is not added. -/
def addJob (queue : List QueuedJob) (jobId : String) (job : WebhookJob) : List QueuedJob :=
  if jobId ∈ queue.map QueuedJob.jobId then queue
  else queue ++ [{ jobId := jobId, job := job, attemptsMade := 0, state := .waiting }]

/-- What the queue makes of an attempt. -/
def QueuedJob.attempted (queued : QueuedJob) (succeeded : Bool) : QueuedJob :=
  { queued with
    attemptsMade := queued.attemptsMade + 1
    state :=
      if succeeded then .completed
      else if maxAttempts ≤ queued.attemptsMade + 1 then .failed
      else .waiting }

/-! ### The worker -/

def signPayload (crypto : WebhookCrypto) (secret body : String) : String :=
  "sha256=" ++ (crypto.hmac secret body).hex

/-- The request a seller receives; the other headers are constants. -/
structure WebhookRequest where
  url : String
  signature : String
  event : String
  body : String
  deriving DecidableEq

def webhookRequest (crypto : WebhookCrypto) (job : WebhookJob) : WebhookRequest :=
  { url := job.webhookUrl
    signature := signPayload crypto job.webhookSecret job.payload.stringify
    event := job.payload.event
    body := job.payload.stringify }

/-- What became of a request: a status, or an error of the network or of the time limit. -/
inductive HttpOutcome where
  | status (code : Nat)
  | error (message : String)
  deriving DecidableEq

/-- `response.ok`. -/
def HttpOutcome.ok : HttpOutcome → Bool
  | status code => 200 ≤ code && code ≤ 299
  | error _ => false

/-- What the processor of a job sends, and how it ends. -/
def deliverWebhook (crypto : WebhookCrypto) (job : WebhookJob) (outcome : HttpOutcome) :
    WebhookRequest × Except Err Unit :=
  let request := webhookRequest crypto job
  match outcome with
  | .error message => (request, .error (.raised message))
  | .status code =>
      if outcome.ok then (request, .ok ())
      else (request, .error (.raised ("Webhook delivery failed: HTTP " ++ toString code ++ " from "
        ++ job.webhookUrl)))

/-- The check of the seller. Digests of unequal lengths make the comparison throw. -/
def verifyWebhookSignature (crypto : WebhookCrypto) (rawBody secret : String)
    (header : Option String) : Except Err Bool :=
  match header with
  | none => .ok false
  | some header =>
      let expected := signPayload crypto secret rawBody
      if header = "" then .ok false
      else if (utf8Bytes expected).length ≠ (utf8Bytes header).length then
        .error (.raised "Input buffers must have the same byte length")
      else .ok (expected = header)

/-! ### The notifier -/

structure WebhookStore where
  subscriptions : List WebhookSubscription
  deliveries : List WebhookDelivery
  queue : List QueuedJob

structure NotifyOptions where
  sellerId : String
  event : String
  requestId : String
  verificationId : Option String
  settlementId : Option String
  txHash : Option String
  receiptId : Option String
  network : Option String
  asset : Option String
  amount : Option String
  feeAmount : Option String
  deriving DecidableEq

/-- What a call of `notify` draws and meets: the id of the delivery, the clock when the payload is
made and when the job is enqueued, a failure of the lookup, and what becomes of the two writes. -/
structure NotifyCall where
  opts : NotifyOptions
  deliveryId : String
  now : Nat
  enqueuedAt : Nat
  findFault : Option Err
  createFate : KeyStore.Fate Err
  enqueueFate : KeyStore.Fate Err

def webhookPayload (opts : NotifyOptions) (now : Nat) : WebhookPayload :=
  { event := opts.event
    requestId := opts.requestId
    verificationId := opts.verificationId
    settlementId := opts.settlementId
    txHash := opts.txHash
    receiptId := opts.receiptId
    network := opts.network
    asset := opts.asset
    amount := opts.amount
    feeAmount := opts.feeAmount
    sellerId := some opts.sellerId
    timestamp := isoText now }

/-- `findFirst`, without an order: the first row the scan meets. -/
def findSubscription (store : WebhookStore) (opts : NotifyOptions) : Option WebhookSubscription :=
  store.subscriptions.find? fun row =>
    row.sellerId = opts.sellerId ∧ row.active = true ∧ opts.event ∈ row.events

/-- What a call of `notify` has done. -/
inductive Notified where
  | skipped
  | thrown (error : Err)
  | unqueued (delivery : WebhookDelivery)
  | enqueued (subscription : WebhookSubscription) (delivery : WebhookDelivery) (jobId : String)
      (job : WebhookJob)
  deriving DecidableEq

def newDelivery (call : NotifyCall) (subscription : WebhookSubscription) : WebhookDelivery :=
  { id := call.deliveryId
    subscriptionId := subscription.id
    event := call.opts.event
    payload := webhookPayload call.opts call.now
    attempt := 1
    status := .pending }

def webhookJob (call : NotifyCall) (subscription : WebhookSubscription) : WebhookJob :=
  { webhookUrl := subscription.url
    webhookSecret := subscription.secret
    payload := webhookPayload call.opts call.now }

def webhookJobId (call : NotifyCall) : String :=
  call.opts.event ++ ":" ++ call.opts.requestId ++ ":" ++ toString call.enqueuedAt

/-- `enqueueWebhook`, once the delivery is entered. -/
def enqueueWebhook (store : WebhookStore) (call : NotifyCall) (subscription : WebhookSubscription) :
    Notified × WebhookStore :=
  let delivery := newDelivery call subscription
  let queued : WebhookStore :=
    { store with queue := addJob store.queue (webhookJobId call) (webhookJob call subscription) }
  if subscription.url = "" then (.unqueued delivery, store)
  else
    match call.enqueueFate with
    | .failed error => (.thrown error, store)
    | .lost error => (.thrown error, queued)
    | .done => (.enqueued subscription delivery (webhookJobId call) (webhookJob call subscription), queued)

/-- The deliveries, with a new row if its id is new. -/
def WebhookStore.enter (store : WebhookStore) (delivery : WebhookDelivery) : WebhookStore :=
  if delivery.id ∈ store.deliveries.map WebhookDelivery.id then store
  else { store with deliveries := store.deliveries ++ [delivery] }

def notify (store : WebhookStore) (call : NotifyCall) : Notified × WebhookStore :=
  match call.findFault with
  | some error => (.thrown error, store)
  | none =>
      match findSubscription store call.opts with
      | none => (.skipped, store)
      | some subscription =>
          let entered := store.enter (newDelivery call subscription)
          match call.createFate with
          | .failed error => (.thrown error, store)
          | .lost error => (.thrown error, entered)
          | .done =>
              if call.deliveryId ∈ store.deliveries.map WebhookDelivery.id then
                (.thrown (.raised "Unique constraint failed"), store)
              else enqueueWebhook entered call subscription

/-! ### An envelope is not a secret -/

theorem underscore_mem_secret (random : RandomBytes) :
    '_' ∈ (generateWebhookSecret random).toList := by
  simp [generateWebhookSecret, String.toList_append]

theorem underscore_not_mem_envelope (iv : List UInt8) (sealed : List UInt8 × List UInt8) :
    '_' ∉ (envelope iv sealed).toList := by
  rw [envelope, base64, String.toList_ofList]
  exact fun hmem => absurd (Base64.mem_of_mem_encode hmem) (by decide)

theorem envelope_ne_secret (iv : List UInt8) (sealed : List UInt8 × List UInt8)
    (random : RandomBytes) : envelope iv sealed ≠ generateWebhookSecret random :=
  fun h => underscore_not_mem_envelope iv sealed (h ▸ underscore_mem_secret random)

end FacilitatorX402.Webhooks
