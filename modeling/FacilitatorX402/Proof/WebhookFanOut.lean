import FacilitatorX402.Infrastructure.Webhooks
import Mathlib.Data.List.Perm.Basic

/-!
# Fan-out of a notification

A seller may hold several subscriptions. `notify` takes the first that matches, and the job it enqueues
is named after the event, the request and the millisecond. So the other subscriptions hear nothing,
and a job whose name is held already is lost.
-/

namespace FacilitatorX402.Webhooks

/-- The active subscriptions of the seller whose events contain the event. -/
def matching (store : WebhookStore) (opts : NotifyOptions) : List WebhookSubscription :=
  store.subscriptions.filter fun row =>
    row.sellerId = opts.sellerId ∧ row.active = true ∧ opts.event ∈ row.events

/-- The call enters one delivery and adds one job for each matching subscription, and no other. -/
def FansOut (store : WebhookStore) (call : NotifyCall) : Prop :=
  ∃ deliveries jobs,
    (notify store call).2 =
        { store with
          deliveries := store.deliveries ++ deliveries
          queue := store.queue ++ jobs } ∧
      (deliveries.map WebhookDelivery.subscriptionId).Perm
          ((matching store call.opts).map WebhookSubscription.id) ∧
        (jobs.map QueuedJob.job).Perm ((matching store call.opts).map (webhookJob call))

/-- The subscription has a url, the lookup and the creation of the delivery are answered, the queue takes the
job (answered or not), and it holds none of its name. -/
structure Accepted (store : WebhookStore) (call : NotifyCall) (subscription : WebhookSubscription) :
    Prop where
  url : subscription.url ≠ ""
  found : call.findFault = none
  created : call.createFate = .done
  deliveryId : call.deliveryId ∉ store.deliveries.map WebhookDelivery.id
  enqueued : call.enqueueFate.applied = true
  jobId : webhookJobId call ∉ store.queue.map QueuedJob.jobId

/-- No subscription matches, or only one, for which the call is accepted. -/
def OneTarget (store : WebhookStore) (call : NotifyCall) : Prop :=
  matching store call.opts = [] ∨
    ∃ subscription, matching store call.opts = [subscription] ∧ Accepted store call subscription

/-- A condition on each call of a sequence, in the store that the earlier ones have left. -/
def EachCall (P : WebhookStore → NotifyCall → Prop) : WebhookStore → List NotifyCall → Prop
  | _, [] => True
  | store, call :: calls => P store call ∧ EachCall P (notify store call).2 calls

variable {store : WebhookStore} {call : NotifyCall}

theorem findSubscription_eq_head? (store : WebhookStore) (opts : NotifyOptions) :
    findSubscription store opts = (matching store opts).head? := by
  rw [findSubscription, matching, List.head?_filter]

theorem notify_of_matching_nil (h : matching store call.opts = []) :
    (notify store call).2 = store := by
  have hfind : findSubscription store call.opts = none := by
    rw [findSubscription_eq_head?, h, List.head?_nil]
  simp only [notify, hfind]
  split <;> rfl

theorem addJob_of_mem {queue : List QueuedJob} {jobId : String} (h : jobId ∈ queue.map QueuedJob.jobId)
    (job : WebhookJob) : addJob queue jobId job = queue :=
  if_pos h

/-- The job a call adds when it is accepted. -/
def newJob (call : NotifyCall) (subscription : WebhookSubscription) : QueuedJob :=
  { jobId := webhookJobId call
    job := webhookJob call subscription
    attemptsMade := 0
    state := .waiting }

theorem notify_of_accepted {subscription : WebhookSubscription}
    (hfind : findSubscription store call.opts = some subscription)
    (h : Accepted store call subscription) :
    (notify store call).2 =
      { store with
        deliveries := store.deliveries ++ [newDelivery call subscription]
        queue := store.queue ++ [newJob call subscription] } := by
  have hentered : store.enter (newDelivery call subscription) =
      { store with deliveries := store.deliveries ++ [newDelivery call subscription] } := if_neg h.deliveryId
  simp only [notify, h.found, hfind, h.created, if_neg h.deliveryId, hentered, enqueueWebhook, if_neg h.url,
    addJob, if_neg h.jobId]
  cases hqueued : call.enqueueFate with
  | done => rfl
  | lost error => rfl
  | failed error =>
      have hrefused := h.enqueued
      rw [hqueued] at hrefused
      cases hrefused

/-- A call that is not accepted adds no job. -/
theorem notify_queue_of_not_accepted {subscription : WebhookSubscription}
    (hfind : findSubscription store call.opts = some subscription)
    (h : ¬ Accepted store call subscription) : (notify store call).2.queue = store.queue := by
  cases hfound : call.findFault with
  | some error => simp only [notify, hfound]
  | none =>
    have hentered : (store.enter (newDelivery call subscription)).queue = store.queue := by
      rw [WebhookStore.enter]
      split <;> rfl
    cases hcreated : call.createFate with
    | failed error => simp only [notify, hfound, hfind, hcreated]
    | lost error => simp only [notify, hfound, hfind, hcreated, hentered]
    | done =>
      by_cases hdelivery : call.deliveryId ∈ store.deliveries.map WebhookDelivery.id
      · simp only [notify, hfound, hfind, hcreated, if_pos hdelivery]
      · simp only [notify, hfound, hfind, hcreated, if_neg hdelivery, enqueueWebhook, hentered]
        by_cases hurl : subscription.url = ""
        · rw [if_pos hurl, hentered]
        · rw [if_neg hurl]
          have hjob : call.enqueueFate.applied = true → webhookJobId call ∈ store.queue.map QueuedJob.jobId := by
            intro hqueued
            by_contra hjob
            exact h ⟨hurl, hfound, hcreated, hdelivery, hqueued, hjob⟩
          cases hqueued : call.enqueueFate with
          | failed error => exact hentered
          | lost error => exact addJob_of_mem (hjob (by rw [hqueued]; rfl)) _
          | done => exact addJob_of_mem (hjob (by rw [hqueued]; rfl)) _

/-- One call fans out exactly when it has one target at most and is accepted for it. -/
theorem fansOut_iff (store : WebhookStore) (call : NotifyCall) :
    FansOut store call ↔ OneTarget store call := by
  constructor
  · rintro ⟨deliveries, jobs, hafter, -, hjobs⟩
    cases hmatching : matching store call.opts with
    | nil => exact .inl hmatching
    | cons subscription others =>
        have hfind : findSubscription store call.opts = some subscription := by
          rw [findSubscription_eq_head?, hmatching, List.head?_cons]
        have hlength : jobs.length = others.length + 1 := by
          simpa [hmatching] using hjobs.length_eq
        have hqueue : (notify store call).2.queue = store.queue ++ jobs := by rw [hafter]
        by_cases haccepted : Accepted store call subscription
        · rw [notify_of_accepted hfind haccepted] at hqueue
          have hone : jobs = [newJob call subscription] :=
            (List.append_cancel_left hqueue).symm
          have hothers : others = [] := by
            rw [hone] at hlength
            simpa using hlength.symm
          exact .inr ⟨subscription, by rw [hmatching, hothers], haccepted⟩
        · rw [notify_queue_of_not_accepted hfind haccepted] at hqueue
          have hnone : jobs = [] := by simpa using hqueue
          simp [hnone] at hlength
  · rintro (hmatching | ⟨subscription, hmatching, haccepted⟩)
    · exact ⟨[], [], by simp [notify_of_matching_nil hmatching], by simp [hmatching],
        by simp [hmatching]⟩
    · have hfind : findSubscription store call.opts = some subscription := by
        rw [findSubscription_eq_head?, hmatching, List.head?_cons]
      refine ⟨[newDelivery call subscription], [newJob call subscription],
        notify_of_accepted hfind haccepted, ?_, ?_⟩
      · simp [hmatching, newDelivery]
      · simp [hmatching, newJob]

/-- Of any sequence of calls, each fans out exactly when each has one target at most and is accepted
for it, where the jobs of the earlier calls are in the queue. -/
theorem fans_out_iff (store : WebhookStore) (calls : List NotifyCall) :
    EachCall FansOut store calls ↔ EachCall OneTarget store calls := by
  induction calls generalizing store with
  | nil => exact Iff.rfl
  | cons call calls ih => exact and_congr (fansOut_iff store call) (ih _)

/-! ## A seller with two endpoints, and two events at once -/

def sampleSubscription (id url : String) : WebhookSubscription where
  id := id
  sellerId := "seller_1"
  url := url
  events := ["payment.settled"]
  secret := "whsec_1"
  active := true
  createdAt := 0

def settledCall (deliveryId : String) : NotifyCall where
  opts := {
    sellerId := "seller_1"
    event := "payment.settled"
    requestId := "req_1"
    verificationId := none
    settlementId := none
    txHash := none
    receiptId := none
    network := none
    asset := none
    amount := none
    feeAmount := none }
  deliveryId := deliveryId
  now := 0
  enqueuedAt := 0
  findFault := none
  createFate := .done
  enqueueFate := .done

def oneEndpoint : WebhookStore :=
  ⟨[sampleSubscription "wh_1" "https://one.example"], [], []⟩

def twoEndpoints : WebhookStore :=
  ⟨[sampleSubscription "wh_1" "https://one.example", sampleSubscription "wh_2" "https://two.example"],
    [], []⟩

theorem not_fans_out :
    ¬ FansOut twoEndpoints (settledCall "delivery_1") ∧
      ¬ EachCall FansOut oneEndpoint [settledCall "delivery_1", settledCall "delivery_2"] := by
  constructor
  · rw [fansOut_iff]
    rintro (hnone | ⟨subscription, hone, -⟩)
    · exact absurd hnone (by decide)
    · have htwo : (matching twoEndpoints (settledCall "delivery_1").opts).length = 2 := by decide
      rw [hone] at htwo
      cases htwo
  · rintro ⟨-, hsecond, -⟩
    rcases (fansOut_iff _ _).mp hsecond with hnone | ⟨subscription, -, haccepted⟩
    · exact absurd hnone (by decide)
    · exact haccepted.jobId (by decide)

end FacilitatorX402.Webhooks
