import FacilitatorX402.Http.WebhookSubscriptions
import FacilitatorX402.Library.Requests

/-!
# What a seller can make of a delivery

The notifier hands the envelope of a secret to the queue as if it were the secret, so the signature is
never the one the seller computes. And the worker does not know of the delivery its job belongs to, so
the row stays as the notifier entered it, however the attempts end.
-/

namespace FacilitatorX402.Webhooks

open KeyedRows Requests Sellers

/-! ### Signatures -/

/-- The seller accepts the request that is sent for a job. -/
def Verifies (crypto : WebhookCrypto) (secret : String) (request : WebhookRequest) : Prop :=
  verifyWebhookSignature crypto request.body secret (some request.signature) = .ok true

theorem hex_injective : Function.Injective Digest.hex := by
  intro left right h
  have hlist := String.ofList_injective h
  have hbytes := congrArg HexText.fromHex hlist
  rw [HexText.fromHex_toHex, HexText.fromHex_toHex] at hbytes
  exact Subtype.ext hbytes

theorem signPayload_inj {crypto : WebhookCrypto} {left right body : String}
    (h : signPayload crypto left body = signPayload crypto right body) :
    crypto.hmac left body = crypto.hmac right body :=
  hex_injective (by simpa [signPayload] using h)

theorem not_verifies {crypto : WebhookCrypto} {secret : String} {job : WebhookJob}
    {outcome : HttpOutcome} (hdigest : crypto.hmac job.webhookSecret job.payload.stringify ≠
      crypto.hmac secret job.payload.stringify) :
    ¬ Verifies crypto secret (deliverWebhook crypto job outcome).1 := by
  have hsent : (deliverWebhook crypto job outcome).1 = webhookRequest crypto job := by
    cases outcome with
    | error message => rfl
    | status code =>
        simp only [deliverWebhook]
        split <;> rfl
  rw [Verifies, hsent, webhookRequest, verifyWebhookSignature]
  intro h
  split at h
  · cases h
  · split at h
    · cases h
    · exact hdigest (signPayload_inj (of_decide_eq_true (Except.ok.inj h))).symm

/-- What `notify` enqueues carries what the row of the subscription stores. -/
theorem notify_enqueued {store : WebhookStore} {call : NotifyCall} {row : WebhookSubscription}
    {delivery : WebhookDelivery} {jobId : String} {job : WebhookJob}
    (h : (notify store call).1 = .enqueued row delivery jobId job) :
    job = webhookJob call row ∧ delivery = newDelivery call row ∧
      call.deliveryId ∉ store.deliveries.map WebhookDelivery.id ∧
      (notify store call).2.deliveries = store.deliveries ++ [delivery] := by
  rw [notify] at h ⊢
  cases hfind : call.findFault with
  | some error => simp [hfind] at h
  | none =>
      cases hrow : findSubscription store call.opts with
      | none => simp [hfind, hrow] at h
      | some subscription =>
          cases hcreate : call.createFate with
          | failed error => simp [hfind, hrow, hcreate] at h
          | lost error => simp [hfind, hrow, hcreate] at h
          | done =>
              simp only [hfind, hrow, hcreate] at h ⊢
              split at h
              · cases h
              · rename_i hfresh
                have hentered : store.enter (newDelivery call subscription) =
                    { store with deliveries := store.deliveries ++ [newDelivery call subscription] } :=
                  if_neg hfresh
                rw [if_neg hfresh]
                simp only [enqueueWebhook, hentered] at h ⊢
                split at h
                · cases h
                · rename_i hurl
                  rw [if_neg hurl]
                  cases hqueue : call.enqueueFate with
                  | failed error => simp [hqueue] at h
                  | lost error => simp [hqueue] at h
                  | done =>
                      simp only [hqueue, Notified.enqueued.injEq] at h
                      obtain ⟨rfl, rfl, -, rfl⟩ := h
                      exact ⟨rfl, rfl, hfresh, rfl⟩

/-- The stored secret is an envelope, and an envelope is not the secret that was returned. -/
theorem StoredFor.secret_ne {crypto : WebhookCrypto} {env : Option String}
    {request : CreateWebhookRequest} {reply : CreateWebhookReply} {table : SubscriptionTable}
    (h : StoredFor crypto env request reply table) {row : WebhookSubscription} (hrow : row ∈ table.rows)
    (hid : row.id = reply.id) : row.secret ≠ reply.secret := by
  obtain ⟨hsecret, stored, hstored, hstoredId, hencrypted⟩ := h
  obtain rfl := table.unique.eq hrow hstored (hid.trans hstoredId.symm)
  rw [encryptWebhookSecret] at hencrypted
  split at hencrypted
  · cases hencrypted
  · split at hencrypted
    · cases hencrypted
    · rw [← Except.ok.inj hencrypted, hsecret]
      exact envelope_ne_secret _ _ _

/-- For every subscription that was created, every secret and initialization vector, and every
delivery that is enqueued for its row: the seller refuses the signature. -/
theorem signature_refused {host : Host} {crypto : WebhookCrypto} {env : Option String}
    {sellers : SellerTable} {table table' : SubscriptionTable} {request : CreateWebhookRequest}
    {reply : CreateWebhookReply}
    (hcreated : createWebhook host crypto env sellers table request = (.created reply, table'))
    {row : WebhookSubscription} (hrow : row ∈ table'.rows) (hid : row.id = reply.id)
    {store : WebhookStore} {call : NotifyCall} {delivery : WebhookDelivery} {jobId : String}
    {job : WebhookJob} (hnotify : (notify store call).1 = .enqueued row delivery jobId job)
    (hhmac : row.secret ≠ reply.secret → crypto.hmac row.secret job.payload.stringify ≠
      crypto.hmac reply.secret job.payload.stringify) (outcome : HttpOutcome) :
    ¬ Verifies crypto reply.secret (deliverWebhook crypto job outcome).1 := by
  have hsecret := (createWebhook_created hcreated).secret_ne hrow hid
  have hjob : job.webhookSecret = row.secret := by rw [(notify_enqueued hnotify).1, webhookJob]
  refine not_verifies ?_
  rw [hjob]
  exact hhmac hsecret

/-! ### A small deployment -/

def sampleSecret : String := generateWebhookSecret (sampleRandom 1)

def sampleIv : List UInt8 := [1, 2, 3, 4, 5, 6, 7, 8, 9, 10, 11, 12]

/-- What AES-256-GCM makes of the secret, under the zero key. -/
def sampleSealed : List UInt8 × List UInt8 :=
  ([74, 44, 164, 71, 68, 38, 68, 187, 179, 108, 134, 105, 203, 179, 68, 175, 212, 166, 62, 141, 201,
     157, 0, 95, 58, 1, 242, 178, 164, 203, 168, 167, 91, 214, 25, 78, 115, 83, 214, 217, 202, 243, 176,
     19, 166, 133, 173, 40, 56, 7, 239, 29, 85, 187, 191, 26, 191, 160, 190, 218, 129, 46, 53, 15, 211,
     233, 215, 65, 1, 48],
    [116, 188, 14, 142, 117, 222, 83, 43, 143, 0, 59, 147, 135, 244, 54, 94])

/-- HMAC-SHA-256 and AES-256-GCM on what the samples give them: one body for each key, and one secret. -/
def sampleCrypto : WebhookCrypto where
  hmac key _ :=
    if key = sampleSecret then
      ⟨[186, 255, 244, 190, 24, 178, 15, 24, 40, 120, 85, 81, 179, 213, 27, 191, 166, 246, 89, 33, 199,
       138, 63, 97, 254, 50, 54, 140, 172, 158, 152, 157], rfl⟩
    else if key = "whsec_1" then
      ⟨[124, 85, 21, 218, 162, 188, 0, 238, 183, 33, 18, 72, 135, 231, 228, 56, 226, 5, 201, 107, 246, 92,
       206, 115, 53, 149, 228, 247, 57, 179, 132, 148], rfl⟩
    else
      ⟨[115, 184, 150, 234, 177, 174, 25, 229, 196, 85, 59, 84, 209, 85, 211, 29, 170, 223, 63, 103, 171,
       216, 254, 58, 194, 244, 72, 28, 130, 15, 190, 155], rfl⟩
  gcmSeal key iv bytes :=
    if key = List.replicate 32 0 ∧ iv = sampleIv ∧ bytes = utf8Bytes sampleSecret then sampleSealed
    else (bytes, List.replicate 16 0)

def sampleSeller : Seller where
  id := "seller_1"
  name := "Robot"
  apiKeyHash := hashApiKey truncatingHost "key"
  walletAddress := "0x1"
  referralCode := none
  deviceType := .robot
  webhookUrl := none
  active := true
  createdAt := 0

def sampleSellers : SellerTable where
  rows := [sampleSeller]
  idUnique := List.nodup_singleton _
  apiKeyHashUnique := List.nodup_singleton _
  walletAddressUnique := List.nodup_singleton _

def sampleSubscribe : CreateWebhookRequest where
  authorization := some "Bearer key"
  body := .obj [("url", .str "https://shop.test"), ("events", .arr [.str "verify.accepted"])]
  urls := ⟨fun _ => true, fun _ => .ok ()⟩
  ulid := "01"
  random := sampleRandom 1
  iv := sampleIv
  now := 0
  lookupFault := none
  createFault := none

def sampleRow : WebhookSubscription where
  id := "wh_01"
  sellerId := "seller_1"
  url := "https://shop.test"
  events := ["verify.accepted"]
  secret := envelope sampleIv sampleSealed
  active := true
  createdAt := 0

def sampleCall : NotifyCall where
  opts := {
    sellerId := "seller_1"
    event := "verify.accepted"
    requestId := "req_1"
    verificationId := none
    settlementId := none
    txHash := none
    receiptId := none
    network := none
    asset := none
    amount := none
    feeAmount := none }
  deliveryId := "delivery_1"
  now := 0
  enqueuedAt := 0
  findFault := none
  createFate := .done
  enqueueFate := .done

def sampleStore : WebhookStore := ⟨[sampleRow], [], []⟩

def sampleEnv : Option String := some (String.ofList (List.replicate 64 '0'))

def noSubscriptions : SubscriptionTable := ⟨[], List.nodup_nil⟩

theorem sample_created : createWebhook truncatingHost sampleCrypto sampleEnv sampleSellers
    noSubscriptions sampleSubscribe =
      (.created (createdReply sampleRow sampleSecret), ⟨[sampleRow], List.nodup_singleton _⟩) := by
  have hlookup : lookupSeller truncatingHost sampleSellers sampleSubscribe.authorization
      sampleSubscribe.lookupFault = .ok (some sampleSeller) := by decide
  have hparse : parseCreateWebhookBody sampleSubscribe.urls.isUrl sampleSubscribe.body =
      .ok ⟨"https://shop.test", ["verify.accepted"]⟩ := by rfl
  have hrefused : unsafeUrl sampleSubscribe.urls (some "https://shop.test") = none := by rfl
  have hencrypt : encryptWebhookSecret sampleCrypto sampleEnv sampleSubscribe.iv
      (generateWebhookSecret sampleSubscribe.random) = .ok sampleRow.secret := by
    have hkey : getEncryptionKey sampleEnv = .ok (List.replicate 32 0) := rfl
    have hsealed : sampleCrypto.gcmSeal (List.replicate 32 0) sampleIv (utf8Bytes sampleSecret)
        = sampleSealed := by
      simp only [sampleCrypto, and_self, if_true]
    rw [encryptWebhookSecret, hkey]
    exact congrArg (fun sealed => Except.ok (envelope sampleIv sealed)) hsealed
  rw [createWebhook, hlookup]
  simp only [hparse, hrefused, storeWebhook, hencrypt]
  rfl

theorem sample_notified : (notify sampleStore sampleCall).1 =
    .enqueued sampleRow (newDelivery sampleCall sampleRow) (webhookJobId sampleCall)
      (webhookJob sampleCall sampleRow) := by
  rfl

theorem sample_digests (body : String) :
    sampleCrypto.hmac sampleRow.secret body ≠ sampleCrypto.hmac sampleSecret body := by
  have hsecret : sampleRow.secret ≠ sampleSecret := envelope_ne_secret _ _ _
  have hother : sampleRow.secret ≠ "whsec_1" := by
    intro heq
    have hnone : '_' ∉ sampleRow.secret.toList := underscore_not_mem_envelope _ _
    rw [heq] at hnone
    exact absurd hnone (by decide)
  simp only [sampleCrypto, if_neg hsecret, if_neg hother, if_true]
  decide

/-- The first delivery of a new subscription. -/
theorem signature_refused_first : ¬ Verifies sampleCrypto sampleSecret
    (deliverWebhook sampleCrypto (webhookJob sampleCall sampleRow) (.status 200)).1 :=
  signature_refused sample_created (List.mem_singleton_self _) rfl sample_notified
    (fun _ => sample_digests _) _

/-- A subscription is created, its delivery enqueued, and the seller refuses what it receives. -/
theorem delivery_unverifiable : ∃ reply row delivery jobId job,
    createWebhook truncatingHost sampleCrypto sampleEnv sampleSellers noSubscriptions sampleSubscribe
      = (.created reply, ⟨[row], List.nodup_singleton _⟩) ∧
    (notify ⟨[row], [], []⟩ sampleCall).1 = .enqueued row delivery jobId job ∧
    row.secret ≠ reply.secret ∧
    ¬ Verifies sampleCrypto reply.secret (deliverWebhook sampleCrypto job (.status 200)).1 :=
  ⟨_, _, _, _, _, sample_created, sample_notified, envelope_ne_secret _ _ _,
    not_verifies (sample_digests _)⟩

/-! ### The audit trail -/

inductive WebhookStep where
  | notify (call : NotifyCall)
  | attempt (jobId : String) (outcome : HttpOutcome)

/-- What a step has done; without a waiting job nothing is attempted. -/
inductive WebhookEffect where
  | notified (result : Notified)
  | sent (request : WebhookRequest) (result : Except Err Unit)
  | idle

def findWaiting (store : WebhookStore) (jobId : String) : Option QueuedJob :=
  store.queue.find? fun queued => queued.jobId = jobId ∧ queued.state = .waiting

/-- The notifier and the worker over one store. The queue runs a job until an attempt succeeds, five
times at most. -/
def serveWebhooks (crypto : WebhookCrypto) : Handler WebhookStore WebhookStep WebhookEffect
  | store, .notify call => (.notified (notify store call).1, (notify store call).2)
  | store, .attempt jobId outcome =>
      match findWaiting store jobId with
      | none => (.idle, store)
      | some queued =>
          let (request, result) := deliverWebhook crypto queued.job outcome
          (.sent request result,
            { store with
              queue := KeyedRows.update QueuedJob.jobId jobId (·.attempted result.toBool) store.queue })

abbrev WebhookExchange := Exchange WebhookStep WebhookEffect

abbrev WebhookLog := Log WebhookStep WebhookEffect

/-- The delivery and the job that an exchange has entered. -/
def entered (x : WebhookExchange) : Option (WebhookDelivery × String) :=
  match x.reply with
  | .notified (.enqueued _ delivery jobId _) => some (delivery, jobId)
  | _ => none

/-- An attempt for the job received a 2xx answer. -/
def Received (jobId : String) (x : WebhookExchange) : Prop :=
  ∃ outcome request result, x = ⟨.attempt jobId outcome, .sent request result⟩ ∧ outcome.ok = true

/-- No attempt is left to run for a job. -/
def Finished (store : WebhookStore) (jobId : String) : Prop :=
  ∀ queued ∈ store.queue, queued.jobId = jobId → queued.state ≠ .waiting

instance (store : WebhookStore) (jobId : String) : Decidable (Finished store jobId) :=
  inferInstanceAs (Decidable (∀ queued ∈ store.queue, _ → _))

/-- The row of the delivery says how the attempts have ended. -/
def Audited (since : WebhookLog) (store : WebhookStore) (deliveryId jobId : String) : Prop :=
  ∃ row ∈ store.deliveries, row.id = deliveryId ∧
    ((∃ x ∈ since, Received jobId x) → row.status = .delivered) ∧
    ((∀ x ∈ since, ¬ Received jobId x) → row.status = .failed)

abbrev WebhookRun (crypto : WebhookCrypto) (start : WebhookStore) (log : WebhookLog)
    (store : WebhookStore) : Prop :=
  Run (serveWebhooks crypto) anyRequest start log store

/-- Deliveries stay as they were entered. -/
def StillPending (log : WebhookLog) (store : WebhookStore) : Prop :=
  ∀ x ∈ log, ∀ delivery jobId, entered x = some (delivery, jobId) →
    delivery.id ∈ store.deliveries.map WebhookDelivery.id ∧
    ∀ row ∈ store.deliveries, row.id = delivery.id → row.status = .pending

theorem attempt_deliveries (crypto : WebhookCrypto) (store : WebhookStore) (jobId : String)
    (outcome : HttpOutcome) :
    (serveWebhooks crypto store (.attempt jobId outcome)).2.deliveries = store.deliveries ∧
      entered ⟨.attempt jobId outcome, (serveWebhooks crypto store (.attempt jobId outcome)).1⟩ =
        none := by
  simp only [serveWebhooks]
  cases findWaiting store jobId with
  | none => exact ⟨rfl, rfl⟩
  | some queued => exact ⟨rfl, rfl⟩

/-- A notification adds at most one row, of a new id and pending. -/
theorem notify_deliveries (store : WebhookStore) (call : NotifyCall) :
    (notify store call).2.deliveries = store.deliveries ∨
      ∃ delivery, (notify store call).2.deliveries = store.deliveries ++ [delivery] ∧
        delivery.id ∉ store.deliveries.map WebhookDelivery.id ∧ delivery.status = .pending := by
  rw [notify]
  cases call.findFault with
  | some error => exact .inl rfl
  | none =>
      cases findSubscription store call.opts with
      | none => exact .inl rfl
      | some subscription =>
          by_cases hfresh : call.deliveryId ∈ store.deliveries.map WebhookDelivery.id
          · have hsame : store.enter (newDelivery call subscription) = store := if_pos hfresh
            simp only [hsame, if_pos hfresh]
            cases call.createFate <;> exact .inl rfl
          · have hentered : store.enter (newDelivery call subscription) =
                { store with deliveries := store.deliveries ++ [newDelivery call subscription] } :=
              if_neg hfresh
            simp only [hentered, if_neg hfresh, enqueueWebhook]
            cases call.createFate with
            | failed error => exact .inl rfl
            | lost error => exact .inr ⟨newDelivery call subscription, rfl, hfresh, rfl⟩
            | done =>
                refine .inr ⟨newDelivery call subscription, ?_, hfresh, rfl⟩
                by_cases hurl : subscription.url = ""
                · simp only [if_pos hurl]
                · simp only [if_neg hurl]
                  cases call.enqueueFate <;> rfl

theorem StillPending.notify {crypto : WebhookCrypto} {log : WebhookLog} {store : WebhookStore}
    (h : StillPending log store) (call : NotifyCall) :
    StillPending (⟨.notify call, (serveWebhooks crypto store (.notify call)).1⟩ :: log)
      (Webhooks.notify store call).2 := by
  intro x hx delivery jobId hentered
  rcases List.mem_cons.mp hx with rfl | hx
  · change Webhooks.entered ⟨.notify call, .notified (Webhooks.notify store call).1⟩ = _ at hentered
    cases hresult : (Webhooks.notify store call).1 with
    | enqueued row entry queued job =>
        obtain ⟨-, rfl, hfresh, hrows⟩ := notify_enqueued hresult
        rw [hresult] at hentered
        obtain ⟨rfl, rfl⟩ := Prod.mk.inj (Option.some.inj hentered)
        rw [hrows, List.map_append]
        refine ⟨List.mem_append_right _ (List.mem_singleton_self _), fun old hold hid => ?_⟩
        rcases List.mem_append.mp hold with hold | hnew
        · have hold' : old.id = call.deliveryId := hid
          exact absurd (hold' ▸ List.mem_map_of_mem hold) hfresh
        · rw [List.mem_singleton.mp hnew]
          rfl
    | skipped => simp [hresult, Webhooks.entered] at hentered
    | thrown error => simp [hresult, Webhooks.entered] at hentered
    | unqueued entry => simp [hresult, Webhooks.entered] at hentered
  · obtain ⟨hmem, hpending⟩ := h x hx delivery jobId hentered
    rcases notify_deliveries store call with hsame | ⟨new, hrows, hfresh, -⟩
    · rw [hsame]
      exact ⟨hmem, hpending⟩
    · rw [hrows, List.map_append]
      refine ⟨List.mem_append_left _ hmem, fun row hrow hid => ?_⟩
      rcases List.mem_append.mp hrow with hold | hnew
      · exact hpending row hold hid
      · rw [List.mem_singleton.mp hnew] at hid
        exact absurd (hid ▸ hmem) hfresh

theorem WebhookRun.stillPending {crypto : WebhookCrypto} {start store : WebhookStore}
    {log : WebhookLog} (h : WebhookRun crypto start log store) : StillPending log store := by
  refine h.invariant (I := StillPending) (fun _ hx => nomatch hx) ?_
  intro log store step ih _
  cases step with
  | notify call => exact ih.notify call
  | attempt jobId outcome =>
      obtain ⟨hsame, hnone⟩ := attempt_deliveries crypto store jobId outcome
      intro x hx delivery queued hentered
      rw [hsame]
      rcases List.mem_cons.mp hx with rfl | hx
      · cases hnone.symm.trans hentered
      · exact ih x hx delivery queued hentered

/-- In every run of the notifier and the worker, with any answers of the sellers: the row of a delivery
that was enqueued never says how its attempts have ended, in no state reached after it. -/
theorem deliveries_unaudited {crypto : WebhookCrypto} {start store : WebhookStore} {log : WebhookLog}
    (h : WebhookRun crypto start log store) {later earlier : WebhookLog} {x : WebhookExchange}
    (hlog : log = later ++ x :: earlier) {delivery : WebhookDelivery} {jobId : String}
    (hentered : entered x = some (delivery, jobId)) : ¬ Audited later store delivery.id jobId := by
  rintro ⟨row, hrow, hid, hdelivered, hfailed⟩
  have hmem : x ∈ log := hlog ▸ List.mem_append_right later List.mem_cons_self
  have hpending := (h.stillPending x hmem delivery jobId hentered).2 row hrow hid
  by_cases hreceived : ∃ y ∈ later, Received jobId y
  · cases hpending.symm.trans (hdelivered hreceived)
  · cases hpending.symm.trans (hfailed fun y hy hy' => hreceived ⟨y, hy, hy'⟩)

/-- One notification, and one attempt for its job. -/
def sampleSteps (outcome : HttpOutcome) : List WebhookStep :=
  [.attempt (webhookJobId sampleCall) outcome, .notify sampleCall]

/-- The first attempt succeeds. -/
theorem deliveries_unaudited_delivered : ∃ log store, WebhookRun sampleCrypto sampleStore log store ∧
    Finished store (webhookJobId sampleCall) ∧
    ¬ Audited (log.take 1) store (newDelivery sampleCall sampleRow).id (webhookJobId sampleCall) :=
  ⟨_, _, run_served (admitted_anyRequest (sampleSteps (.status 200))), by decide,
    deliveries_unaudited (run_served (admitted_anyRequest (sampleSteps (.status 200))))
      (x := ((served (serveWebhooks sampleCrypto) sampleStore [.notify sampleCall]).1.head?).get rfl)
      rfl rfl⟩

/-- A seller answers 200 to the first attempt, and the row of the delivery is pending for good. -/
theorem delivered_still_pending : ∃ x y store,
    WebhookRun sampleCrypto sampleStore [y, x] store ∧
    entered x = some (newDelivery sampleCall sampleRow, webhookJobId sampleCall) ∧
    Received (webhookJobId sampleCall) y ∧ Finished store (webhookJobId sampleCall) ∧
    ¬ Audited [y] store (newDelivery sampleCall sampleRow).id (webhookJobId sampleCall) := by
  have hreceived : ∀ request result, Received (webhookJobId sampleCall)
      ⟨.attempt (webhookJobId sampleCall) (.status 200), .sent request result⟩ :=
    fun request result => ⟨_, request, result, rfl, rfl⟩
  refine ⟨_, _, _, run_served (admitted_anyRequest (sampleSteps (.status 200))), rfl,
    hreceived _ _, by decide, ?_⟩
  rintro ⟨row, hrow, -, hdelivered, -⟩
  have hstatus := hdelivered ⟨_, List.mem_singleton_self _, hreceived _ _⟩
  rw [List.mem_singleton.mp hrow] at hstatus
  cases hstatus

end FacilitatorX402.Webhooks
