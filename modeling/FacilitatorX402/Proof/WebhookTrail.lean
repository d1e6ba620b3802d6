import FacilitatorX402.Http.WebhookRoutes
import FacilitatorX402.Proof.WebhookDelivery
import FacilitatorX402.Proof.WebhookFanOut

/-!
# Where a webhook goes

The routes of the sellers, the notifier and the worker share the table of subscriptions and the queue. A
request that the worker sends goes back to a notification that has entered its job, and through the row that
the notification has met to the seller who registered it. But the routes take other names of events than the
notifications have, so from their rows alone nothing is ever sent.
-/

namespace FacilitatorX402.Webhooks

open KeyedRows Sellers Requests

/-- The tables and the queue of a deployment. -/
structure WebhookDeployment where
  store : SellerStore
  deliveries : List WebhookDelivery
  queue : List QueuedJob

/-- What the notifier and the worker see of it. -/
def WebhookDeployment.webhooks (deployment : WebhookDeployment) : WebhookStore :=
  ⟨deployment.store.subscriptions.rows, deployment.deliveries, deployment.queue⟩

/-- The queue removes jobs that have ended, when `removeOnComplete` and `removeOnFail` say so. -/
inductive DeploymentStep where
  | route (request : SellerRequest)
  | webhook (step : WebhookStep)
  | remove (jobId : String)

inductive DeploymentEffect where
  | answered (answer : SellerAnswer)
  | done (effect : WebhookEffect)
  | removed

def removeEnded (queue : List QueuedJob) (jobId : String) : List QueuedJob :=
  queue.filter fun queued => queued.jobId ≠ jobId ∨ queued.state = .waiting

def serveDeployment (host : Host) (crypto : WebhookCrypto) (env : Option String) :
    Handler WebhookDeployment DeploymentStep DeploymentEffect
  | deployment, .route request =>
      let (answer, store) := serveSellers host crypto env deployment.store request
      (.answered answer, { deployment with store := store })
  | deployment, .webhook step =>
      let (effect, webhooks) := serveWebhooks crypto deployment.webhooks step
      (.done effect, { deployment with deliveries := webhooks.deliveries, queue := webhooks.queue })
  | deployment, .remove jobId =>
      (.removed, { deployment with queue := removeEnded deployment.queue jobId })

abbrev DeploymentLog := Log DeploymentStep DeploymentEffect

abbrev DeploymentRun (host : Host) (crypto : WebhookCrypto) (env : Option String)
    (start : WebhookDeployment) (log : DeploymentLog) (deployment : WebhookDeployment) : Prop :=
  Run (serveDeployment host crypto env) anyRequest start log deployment

/-- The worker has sent a request for the job. -/
abbrev sentFor (jobId : String) (outcome : HttpOutcome) (request : WebhookRequest)
    (result : Except Err Unit) : Exchange DeploymentStep DeploymentEffect :=
  ⟨.webhook (.attempt jobId outcome), .done (.sent request result)⟩

section Trail

variable (host : Host) (crypto : WebhookCrypto) (env : Option String) (start : WebhookDeployment)

/-- The request registers the row for the seller its key belongs to, with a url that has passed the
check. -/
def Registers (sellers : SellerTable) (request : CreateWebhookRequest) (row : WebhookSubscription) :
    Prop :=
  ∃ seller body encryptedSecret,
    lookupSeller host sellers request.authorization request.lookupFault = .ok (some seller) ∧
      parseCreateWebhookBody request.urls.isUrl request.body = .ok body ∧
      unsafeUrl request.urls (some body.url) = none ∧
      encryptWebhookSecret crypto env request.iv (generateWebhookSecret request.random)
        = .ok encryptedSecret ∧
      row = newSubscription request seller body encryptedSecret

/-- The row was there at the start, or `POST /webhooks` has registered it. -/
def RowTrail (log : DeploymentLog) (row : WebhookSubscription) : Prop :=
  row ∈ start.store.subscriptions.rows ∨
    ∃ later request answer earlier deployment,
      log = later ++ ⟨.route (.createWebhook request), answer⟩ :: earlier ∧
        DeploymentRun host crypto env start earlier deployment ∧
        Registers host crypto env deployment.store.sellers request row

/-- The row is one that a notification meets. -/
structure Meets (deployment : WebhookDeployment) (call : NotifyCall) (row : WebhookSubscription) :
    Prop where
  stored : row ∈ deployment.store.subscriptions.rows
  seller : row.sellerId = call.opts.sellerId
  active : row.active = true
  event : call.opts.event ∈ row.events

/-- The notification has entered the job: it was told the id, or the answer of the queue was lost. -/
def Enqueues (call : NotifyCall) (row : WebhookSubscription) (jobId : String) (job : WebhookJob)
    (result : Notified) : Prop :=
  result = .enqueued row (newDelivery call row) jobId job ∨
    ∃ error, call.enqueueFate = .lost error ∧ result = .thrown error

/-- The job was in the queue at the start, or a notification has entered it under this id, for a row that it
met. -/
def JobTrail (log : DeploymentLog) (jobId : String) (job : WebhookJob) : Prop :=
  (∃ queued ∈ start.queue, queued.jobId = jobId ∧ queued.job = job) ∨
    ∃ later call row result earlier deployment,
      log = later ++ ⟨.webhook (.notify call), .done (.notified result)⟩ :: earlier ∧
        jobId = webhookJobId call ∧ job = webhookJob call row ∧ Enqueues call row jobId job result ∧
        DeploymentRun host crypto env start earlier deployment ∧ Meets deployment call row ∧
        RowTrail host crypto env start earlier row

/-- Every row and every job has its trail. -/
structure Trailed (log : DeploymentLog) (deployment : WebhookDeployment) : Prop where
  rows : ∀ row ∈ deployment.store.subscriptions.rows, RowTrail host crypto env start log row
  jobs : ∀ queued ∈ deployment.queue, JobTrail host crypto env start log queued.jobId queued.job

end Trail

/-! ### What the steps add -/

section Steps

variable {host : Host} {crypto : WebhookCrypto} {env : Option String}

theorem mem_of_create {table : SubscriptionTable} {new row : WebhookSubscription} {fault : Fault}
    (hrow : row ∈ (table.create new fault).2.rows) : row ∈ table.rows ∨ row = new := by
  cases fault with
  | some error => exact .inl hrow
  | none =>
      simp only [SubscriptionTable.create] at hrow
      split at hrow
      · exact (List.mem_append.mp hrow).imp_right List.mem_singleton.mp
      · exact .inl hrow

theorem mem_of_storeWebhook {table : SubscriptionTable} {request : CreateWebhookRequest} {seller : Seller}
    {body : CreateWebhookBody} {row : WebhookSubscription}
    (hrow : row ∈ (storeWebhook crypto env table request seller body).2.rows) :
    row ∈ table.rows ∨ ∃ encryptedSecret,
      encryptWebhookSecret crypto env request.iv (generateWebhookSecret request.random)
          = .ok encryptedSecret ∧
        row = newSubscription request seller body encryptedSecret := by
  cases hsecret : encryptWebhookSecret crypto env request.iv
      (generateWebhookSecret request.random) with
  | error error =>
      simp only [storeWebhook, hsecret] at hrow
      exact .inl hrow
  | ok encryptedSecret =>
      have hcreated : row ∈ (table.create (newSubscription request seller body encryptedSecret)
          request.createFault).2.rows := by
        simp only [storeWebhook, hsecret] at hrow
        split at hrow <;> simp_all only
      exact (mem_of_create hcreated).imp_right fun hnew => ⟨encryptedSecret, rfl, hnew⟩

theorem mem_of_createWebhook {sellers : SellerTable} {table : SubscriptionTable}
    {request : CreateWebhookRequest} {row : WebhookSubscription}
    (hrow : row ∈ (createWebhook host crypto env sellers table request).2.rows) :
    row ∈ table.rows ∨ Registers host crypto env sellers request row := by
  simp only [createWebhook] at hrow
  cases hlookup : lookupSeller host sellers request.authorization request.lookupFault with
  | error error =>
      rw [hlookup] at hrow
      exact .inl hrow
  | ok found =>
      rw [hlookup] at hrow
      cases found with
      | none => exact .inl hrow
      | some seller =>
          dsimp only at hrow
          cases hparse : parseCreateWebhookBody request.urls.isUrl request.body with
          | error issues =>
              rw [hparse] at hrow
              exact .inl hrow
          | ok body =>
              rw [hparse] at hrow
              dsimp only at hrow
              cases hurl : unsafeUrl request.urls (some body.url) with
              | some message =>
                  rw [hurl] at hrow
                  exact .inl hrow
              | none =>
                  rw [hurl] at hrow
                  rcases mem_of_storeWebhook hrow with hold | ⟨encryptedSecret, hsecret, hnew⟩
                  · exact .inl hold
                  · exact .inr ⟨seller, body, encryptedSecret, hlookup, hparse, hurl, hsecret, hnew⟩

/-- Only `POST /webhooks` adds rows. -/
theorem mem_of_serveSellers {store : SellerStore} {request : SellerRequest} {row : WebhookSubscription}
    (hrow : row ∈ (serveSellers host crypto env store request).2.subscriptions.rows) :
    row ∈ store.subscriptions.rows ∨
      ∃ created, request = .createWebhook created ∧
        Registers host crypto env store.sellers created row := by
  cases request with
  | register request => exact .inl hrow
  | rotateKey request => exact .inl hrow
  | deactivate id fault => exact .inl hrow
  | createWebhook created => exact (mem_of_createWebhook hrow).imp_right fun hnew => ⟨created, rfl, hnew⟩
  | listWebhooks request => exact .inl hrow
  | deleteWebhook deleted =>
      change row ∈ (deleteWebhook host store.sellers store.subscriptions deleted).2.rows at hrow
      simp only [deleteWebhook] at hrow
      split at hrow
      · exact .inl hrow
      · exact .inl hrow
      · split at hrow
        · exact .inl hrow
        · exact .inl (List.mem_filter.mp hrow).1

/-- A job that is new in the queue is the one that the call has entered, for a row that was found. -/
theorem mem_of_notify {store : WebhookStore} {call : NotifyCall} {queued : QueuedJob}
    (h : queued ∈ (notify store call).2.queue) :
    queued ∈ store.queue ∨ ∃ row, findSubscription store call.opts = some row ∧
      queued.jobId = webhookJobId call ∧ queued.job = webhookJob call row ∧
      Enqueues call row queued.jobId queued.job (notify store call).1 := by
  cases hfind : findSubscription store call.opts with
  | none =>
      have hmatching : matching store call.opts = [] := by
        rwa [findSubscription_eq_head?, List.head?_eq_none_iff] at hfind
      exact .inl (notify_of_matching_nil hmatching ▸ h)
  | some row =>
      by_cases haccepted : Accepted store call row
      · have henqueues : Enqueues call row (webhookJobId call) (webhookJob call row)
            (notify store call).1 := by
          simp only [notify, haccepted.found, hfind, haccepted.created, if_neg haccepted.deliveryId,
            enqueueWebhook, if_neg haccepted.url]
          cases hfate : call.enqueueFate with
          | done => exact .inl rfl
          | lost error => exact .inr ⟨error, hfate, rfl⟩
          | failed error =>
              have happlied := haccepted.enqueued
              rw [hfate] at happlied
              cases happlied
        rw [notify_of_accepted hfind haccepted] at h
        rcases List.mem_append.mp h with hold | hnew
        · exact .inl hold
        · obtain rfl := List.mem_singleton.mp hnew
          exact .inr ⟨row, rfl, rfl, rfl, henqueues⟩
      · exact .inl (notify_queue_of_not_accepted hfind haccepted ▸ h)

theorem deliverWebhook_request (crypto : WebhookCrypto) (job : WebhookJob) (outcome : HttpOutcome) :
    (deliverWebhook crypto job outcome).1 = webhookRequest crypto job := by
  cases outcome with
  | error message => rfl
  | status code =>
      simp only [deliverWebhook]
      split <;> rfl

/-- An attempt sends the request of a job of the queue. -/
theorem sent_of_attempt {store : WebhookStore} {jobId : String} {outcome : HttpOutcome}
    {request : WebhookRequest} {result : Except Err Unit}
    (h : (serveWebhooks crypto store (.attempt jobId outcome)).1 = .sent request result) :
    ∃ queued ∈ store.queue, queued.jobId = jobId ∧ request = webhookRequest crypto queued.job := by
  simp only [serveWebhooks] at h
  cases hfind : findWaiting store jobId with
  | none =>
      rw [hfind] at h
      cases h
  | some queued =>
      rw [hfind] at h
      obtain ⟨rfl, -⟩ := WebhookEffect.sent.inj h
      have hwaiting : queued.jobId = jobId ∧ queued.state = .waiting := by
        simpa using List.find?_some hfind
      exact ⟨queued, List.mem_of_find?_eq_some hfind, hwaiting.1, deliverWebhook_request ..⟩

/-- An attempt leaves the job that it counts as it was. -/
theorem mem_of_attempt {store : WebhookStore} {jobId : String} {outcome : HttpOutcome}
    {queued : QueuedJob}
    (h : queued ∈ (serveWebhooks crypto store (.attempt jobId outcome)).2.queue) :
    ∃ old ∈ store.queue, old.jobId = queued.jobId ∧ old.job = queued.job := by
  simp only [serveWebhooks] at h
  cases hfind : findWaiting store jobId with
  | none =>
      rw [hfind] at h
      exact ⟨queued, h, rfl, rfl⟩
  | some waiting =>
      rw [hfind] at h
      rcases mem_update.mp h with ⟨hold, -⟩ | ⟨old, hold, -, rfl⟩
      · exact ⟨queued, hold, rfl, rfl⟩
      · exact ⟨old, hold, rfl, rfl⟩

end Steps

/-! ### Every request has its trail -/

section Runs

variable {host : Host} {crypto : WebhookCrypto} {env : Option String} {start : WebhookDeployment}
  {log : DeploymentLog} {deployment : WebhookDeployment} {x : Exchange DeploymentStep DeploymentEffect}

theorem RowTrail.cons {row : WebhookSubscription} (h : RowTrail host crypto env start log row)
    (x : Exchange DeploymentStep DeploymentEffect) : RowTrail host crypto env start (x :: log) row := by
  rcases h with hstart | ⟨later, request, answer, earlier, before, rfl, hrest⟩
  · exact .inl hstart
  · exact .inr ⟨x :: later, request, answer, earlier, before, rfl, hrest⟩

theorem JobTrail.cons {jobId : String} {job : WebhookJob} (h : JobTrail host crypto env start log jobId job)
    (x : Exchange DeploymentStep DeploymentEffect) :
    JobTrail host crypto env start (x :: log) jobId job := by
  rcases h with hstart | ⟨later, call, row, result, earlier, before, rfl, hrest⟩
  · exact .inl hstart
  · exact .inr ⟨x :: later, call, row, result, earlier, before, rfl, hrest⟩

theorem meets_of_findSubscription {call : NotifyCall} {row : WebhookSubscription}
    (h : findSubscription deployment.webhooks call.opts = some row) : Meets deployment call row := by
  have hfound : row.sellerId = call.opts.sellerId ∧ row.active = true ∧ call.opts.event ∈ row.events := by
    simpa using List.find?_some h
  exact ⟨List.mem_of_find?_eq_some h, hfound.1, hfound.2.1, hfound.2.2⟩

/-- One step: what is new has the exchange of the step in its trail. -/
theorem Trailed.step (h : Trailed host crypto env start log deployment)
    (hrun : DeploymentRun host crypto env start log deployment) (step : DeploymentStep) :
    Trailed host crypto env start (⟨step, (serveDeployment host crypto env deployment step).1⟩ :: log)
      (serveDeployment host crypto env deployment step).2 := by
  cases step with
  | route request =>
      refine ⟨fun row hrow => ?_, fun queued hqueued => (h.jobs queued hqueued).cons _⟩
      rcases mem_of_serveSellers hrow with hold | ⟨created, rfl, hregisters⟩
      · exact (h.rows row hold).cons _
      · exact .inr ⟨[], created, _, log, deployment, rfl, hrun, hregisters⟩
  | webhook step =>
      refine ⟨fun row hrow => (h.rows row hrow).cons _, fun queued hqueued => ?_⟩
      cases step with
      | notify call =>
          rcases mem_of_notify hqueued with hold | ⟨row, hfind, hid, hjob, henqueues⟩
          · exact (h.jobs queued hold).cons _
          · have hmeets := meets_of_findSubscription hfind
            exact .inr ⟨[], call, row, _, log, deployment, rfl, hid, hjob, henqueues, hrun, hmeets,
              h.rows row hmeets.stored⟩
      | attempt jobId outcome =>
          obtain ⟨old, hold, hid, hjob⟩ := mem_of_attempt hqueued
          rw [← hid, ← hjob]
          exact (h.jobs old hold).cons _
  | remove jobId =>
      exact ⟨fun row hrow => (h.rows row hrow).cons _,
        fun queued hqueued => (h.jobs queued (List.mem_filter.mp hqueued).1).cons _⟩

theorem trailed_of_run (h : DeploymentRun host crypto env start log deployment) :
    Trailed host crypto env start log deployment := by
  induction h with
  | nil => exact ⟨fun _ hrow => .inl hrow, fun queued hqueued => .inl ⟨queued, hqueued, rfl, rfl⟩⟩
  | cons hrun _ ih => exact ih.step hrun _

/-- **Every webhook goes where it belongs.** In every run of the routes, the notifier and the worker,
whatever is sent is the request of a job that has its trail. -/
theorem webhooks_trailed (h : DeploymentRun host crypto env start log deployment)
    {later earlier : DeploymentLog} {jobId : String} {outcome : HttpOutcome} {request : WebhookRequest}
    {result : Except Err Unit} (hlog : log = later ++ sentFor jobId outcome request result :: earlier) :
    ∃ job, JobTrail host crypto env start earlier jobId job ∧ request = webhookRequest crypto job := by
  subst hlog
  obtain ⟨before, hbefore, -, hreply⟩ := h.reached
  obtain ⟨queued, hqueued, rfl, hrequest⟩ := sent_of_attempt (DeploymentEffect.done.inj hreply).symm
  exact ⟨queued.job, (trailed_of_run hbefore).jobs queued hqueued, hrequest⟩

end Runs

/-! ### A small run -/

/-- The row names an event that is notified. -/
def settledRow : WebhookSubscription := sampleSubscription "wh_1" "https://one.example"

def settledDeployment : WebhookDeployment :=
  ⟨⟨sampleSellers, ⟨[settledRow], List.nodup_singleton _⟩⟩, [], []⟩

/-- The queue takes the job, and the call is told that the connection is closed. -/
def lostCall : NotifyCall :=
  { settledCall "delivery_1" with enqueueFate := .lost (.raised "Connection is closed.") }

def lostNotified : DeploymentLog :=
  [⟨.webhook (.notify lostCall), .done (.notified (.thrown (.raised "Connection is closed.")))⟩]

def lostRequest : WebhookRequest := webhookRequest sampleCrypto (webhookJob lostCall settledRow)

theorem exists_lostSent : ∃ deployment,
    DeploymentRun truncatingHost sampleCrypto sampleEnv settledDeployment
      (sentFor (webhookJobId lostCall) (.status 200) lostRequest (.ok ()) :: lostNotified) deployment := by
  have hnotified : DeploymentRun truncatingHost sampleCrypto sampleEnv settledDeployment lostNotified _ :=
    Run.nil.cons trivial
  exact ⟨_, hnotified.cons trivial⟩

/-- The attempt is sent to the url of that row, under its secret. -/
theorem webhooks_trailed_once : ∃ job,
    JobTrail truncatingHost sampleCrypto sampleEnv settledDeployment lostNotified
        (webhookJobId lostCall) job ∧
      lostRequest = webhookRequest sampleCrypto job ∧ lostRequest.url = "https://one.example" := by
  obtain ⟨deployment, hrun⟩ := exists_lostSent
  obtain ⟨job, htrail, hrequest⟩ := webhooks_trailed hrun (List.nil_append _).symm
  exact ⟨job, htrail, hrequest, rfl⟩

/-! ### What is subscribed to is never notified -/

section Names

/-- `WebhookEventType`. -/
def webhookEventTypes : List String := ["payment.verified", "payment.settled", "payment.failed"]

/-- The calls of `notify` have a declared type. -/
def typedCalls : Admits WebhookDeployment DeploymentStep DeploymentEffect
  | _, _, .webhook (.notify call) => call.opts.event ∈ webhookEventTypes
  | _, _, _ => True

/-- The row names no type of a notification. -/
def Unheard (row : WebhookSubscription) : Prop := ∀ event ∈ row.events, event ∉ webhookEventTypes

theorem unheard_of_trail {host : Host} {crypto : WebhookCrypto} {env : Option String}
    {start : WebhookDeployment} {log : DeploymentLog} {row : WebhookSubscription}
    (h : RowTrail host crypto env start log row)
    (hstart : ∀ row ∈ start.store.subscriptions.rows, Unheard row) : Unheard row := by
  rcases h with hrow | ⟨-, request, -, -, -, -, -, seller, body, encryptedSecret, -, hparse, -, -, rfl⟩
  · exact hstart row hrow
  · intro event hevent
    have hdistinct : ∀ event ∈ webhookEvents, event ∉ webhookEventTypes := by decide
    exact hdistinct event (parseCreateWebhookBody_events hparse event hevent)

/-- Nothing is entered and nothing is queued, and no exchange has sent anything. -/
structure Quiet (start : WebhookDeployment) (log : DeploymentLog) (deployment : WebhookDeployment) :
    Prop where
  deliveries : deployment.deliveries = start.deliveries
  queue : deployment.queue = []
  sent : ∀ x ∈ log, ∀ jobId outcome request result, x ≠ sentFor jobId outcome request result

variable {host : Host} {crypto : WebhookCrypto} {env : Option String} {start : WebhookDeployment}
  {log : DeploymentLog} {deployment : WebhookDeployment}

theorem matching_eq_nil {call : NotifyCall} (htyped : call.opts.event ∈ webhookEventTypes)
    (hrows : ∀ row ∈ deployment.store.subscriptions.rows, Unheard row) :
    matching deployment.webhooks call.opts = [] := by
  apply List.filter_eq_nil_iff.mpr
  intro row hrow hmatches
  have hmatches : row.sellerId = call.opts.sellerId ∧ row.active = true ∧
      call.opts.event ∈ row.events := by simpa using hmatches
  exact hrows row hrow _ hmatches.2.2 htyped

theorem Quiet.step (h : Quiet start log deployment) {step : DeploymentStep}
    (htyped : typedCalls log deployment step)
    (hrows : ∀ row ∈ deployment.store.subscriptions.rows, Unheard row) :
    Quiet start (⟨step, (serveDeployment host crypto env deployment step).1⟩ :: log)
      (serveDeployment host crypto env deployment step).2 := by
  cases step with
  | route request =>
      refine ⟨h.deliveries, h.queue, List.forall_mem_cons.mpr ⟨?_, h.sent⟩⟩
      intro jobId outcome sent result heq
      cases heq
  | webhook step =>
      cases step with
      | notify call =>
          have hsame : (notify deployment.webhooks call).2 = deployment.webhooks :=
            notify_of_matching_nil (matching_eq_nil htyped hrows)
          refine ⟨?_, ?_, List.forall_mem_cons.mpr ⟨?_, h.sent⟩⟩
          · exact (congrArg WebhookStore.deliveries hsame).trans h.deliveries
          · exact (congrArg WebhookStore.queue hsame).trans h.queue
          · intro jobId outcome sent result heq
            cases heq
      | attempt jobId outcome =>
          have hidle : serveWebhooks crypto deployment.webhooks (.attempt jobId outcome)
              = (.idle, deployment.webhooks) := by
            have hnone : findWaiting deployment.webhooks jobId = none := by
              rw [findWaiting, WebhookDeployment.webhooks, h.queue, List.find?_nil]
            rw [serveWebhooks, hnone]
          simp only [serveDeployment, hidle]
          refine ⟨h.deliveries, h.queue, List.forall_mem_cons.mpr ⟨?_, h.sent⟩⟩
          intro jobId outcome sent result heq
          cases heq
  | remove jobId =>
      refine ⟨h.deliveries, ?_, List.forall_mem_cons.mpr ⟨?_, h.sent⟩⟩
      · change removeEnded deployment.queue jobId = []
        rw [h.queue]
        rfl
      · intro jobId outcome sent result heq
        cases heq

/-- **No seller is ever notified.** In every run in which the calls of `notify` have the declared types:
when no row of the start names such a type, nothing is ever entered, queued or sent, whatever the sellers
subscribe to. -/
theorem webhooks_unheard (h : Run (serveDeployment host crypto env) typedCalls start log deployment)
    (hrows : ∀ row ∈ start.store.subscriptions.rows, Unheard row) (hqueue : start.queue = []) :
    Quiet start log deployment := by
  induction h with
  | nil => exact ⟨rfl, hqueue, fun _ hx => absurd hx List.not_mem_nil⟩
  | cons hrun htyped ih =>
      have htrailed := trailed_of_run (hrun.mono fun _ _ _ _ => trivial)
      exact ih.step htyped fun row hrow => unheard_of_trail (htrailed.rows row hrow) hrows

end Names

def sampleDeployment : WebhookDeployment := ⟨⟨sampleSellers, noSubscriptions⟩, [], []⟩

theorem sample_registered :
    serveDeployment truncatingHost sampleCrypto sampleEnv sampleDeployment
        (.route (.createWebhook sampleSubscribe))
      = (.answered (.subscribe (.created (createdReply sampleRow sampleSecret))),
          ⟨⟨sampleSellers, ⟨[sampleRow], List.nodup_singleton _⟩⟩, [], []⟩) := by
  simp only [serveDeployment, serveSellers, sampleDeployment, sample_created]

/-- The payment of a request was verified. -/
def sampleTypedCall : NotifyCall :=
  { sampleCall with opts := { sampleCall.opts with event := "payment.verified" } }

/-- The seller has registered a row, and the notification skips it. -/
def sampleSkipped : DeploymentLog :=
  [⟨.webhook (.notify sampleTypedCall), .done (.notified .skipped)⟩,
    ⟨.route (.createWebhook sampleSubscribe),
      .answered (.subscribe (.created (createdReply sampleRow sampleSecret)))⟩]

theorem webhooks_unheard_once : ∃ deployment,
    deployment.store.subscriptions.rows = [sampleRow] ∧
      Quiet sampleDeployment sampleSkipped deployment := by
  have hregistered : Run (serveDeployment truncatingHost sampleCrypto sampleEnv) typedCalls
      sampleDeployment [⟨.route (.createWebhook sampleSubscribe), _⟩] _ := Run.nil.cons trivial
  rw [sample_registered] at hregistered
  have htyped : sampleTypedCall.opts.event ∈ webhookEventTypes := by decide
  have hskipped : Run (serveDeployment truncatingHost sampleCrypto sampleEnv) typedCalls
      sampleDeployment sampleSkipped _ := hregistered.cons htyped
  exact ⟨_, rfl, webhooks_unheard hskipped (fun _ hrow => absurd hrow List.not_mem_nil) rfl⟩

end FacilitatorX402.Webhooks
