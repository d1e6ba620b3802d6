import FacilitatorX402.Application.SellerService
import Mathlib.Data.List.Induction

/-!
# Registering a webhook twice

A cuid never has the form under which the row of a seller is looked for. So the upsert finds no row,
whatever was registered before, and every call that goes through creates one.
-/

namespace FacilitatorX402.Webhooks

open KeyedRows Sellers

/-- The calls that went through. -/
def completed (calls : List RegisterWebhookCall) : List RegisterWebhookCall :=
  calls.filter (·.fault.isNone)

/-- The ids that the column default draws: a cuid begins with the letter c, and is drawn once. -/
structure FreshCuids (calls : List RegisterWebhookCall) : Prop where
  nodup : (calls.map RegisterWebhookCall.cuid).Nodup
  cuids : ∀ call ∈ calls, call.cuid.toList.head? = some 'c'

/-- Each seller has at most one row. -/
def OneRowEach (table : SubscriptionTable) : Prop :=
  ∀ sellerId, (table.rows.filter (·.sellerId = sellerId)).length ≤ 1

/-- The last call for a seller that went through. -/
def lastCall (calls : List RegisterWebhookCall) (sellerId : String) : Option RegisterWebhookCall :=
  (completed calls).reverse.find? (·.sellerId = sellerId)

/-- A notification uses what the seller's last call has registered: its url and its secret when its
events contain the event, and otherwise nothing. -/
def LastCallUsed (calls : List RegisterWebhookCall) (table : SubscriptionTable) : Prop :=
  ∀ (store : WebhookStore) (opts : NotifyOptions), store.subscriptions = table.rows →
    (findSubscription store opts).map (fun row => (row.url, row.secret, row.events)) =
      ((lastCall calls opts.sellerId).filter (opts.event ∈ ·.events)).map
        fun call => (call.url, call.secret, call.events)

theorem lookup_id_ne_cuid (sellerId : String) {cuid : String}
    (hcuid : cuid.toList.head? = some 'c') : "wh_" ++ sellerId ≠ cuid := by
  rintro rfl
  rw [String.toList_append] at hcuid
  exact absurd hcuid (by simp)

/-- One call on a table whose rows all have cuids: a call that goes through appends its row. -/
theorem registerWebhook_rows {table : SubscriptionTable} {call : RegisterWebhookCall}
    (hrows : ∀ row ∈ table.rows, row.id.toList.head? = some 'c')
    (hfresh : ∀ row ∈ table.rows, row.id ≠ call.cuid) :
    (registerWebhook table call).2.rows =
      table.rows ++ (completed [call]).map RegisterWebhookCall.row := by
  cases hfault : call.fault with
  | some error => simp [registerWebhook, completed, hfault]
  | none =>
      have hlookup : "wh_" ++ call.sellerId ∉ table.rows.map WebhookSubscription.id := by
        intro hmem
        obtain ⟨row, hrow, heq⟩ := List.mem_map.mp hmem
        exact lookup_id_ne_cuid call.sellerId (hrows row hrow) heq.symm
      have hfree : ∀ other ∈ table.rows, other.id ≠ call.row.id := hfresh
      simp only [registerWebhook, hfault, if_neg hlookup, SubscriptionTable.create, dif_pos hfree,
        completed]
      simp [hfault]

/-- Every call that goes through has its own row, in the order of the calls. -/
theorem registerAll_rows {calls : List RegisterWebhookCall} (hcuids : FreshCuids calls) :
    (registerAll .empty calls).rows = (completed calls).map RegisterWebhookCall.row := by
  induction calls using List.reverseRecOn with
  | nil => rfl
  | append_singleton calls call ih =>
      have hnodup := hcuids.nodup
      rw [List.map_append, List.nodup_append] at hnodup
      have hrows := ih ⟨hnodup.1, fun other hother =>
        hcuids.cuids other (List.mem_append_left _ hother)⟩
      have hmem : ∀ row ∈ (registerAll .empty calls).rows, ∃ other ∈ calls, row.id = other.cuid := by
        intro row hrow
        rw [hrows] at hrow
        obtain ⟨other, hother, rfl⟩ := List.mem_map.mp hrow
        exact ⟨other, (List.mem_filter.mp hother).1, rfl⟩
      have hstep : (registerAll .empty (calls ++ [call])).rows =
          (registerWebhook (registerAll .empty calls) call).2.rows := by
        simp [registerAll]
      rw [hstep, registerWebhook_rows, hrows, ← List.map_append, completed, completed, completed,
        List.filter_append]
      · intro row hrow
        obtain ⟨other, hother, hid⟩ := hmem row hrow
        rw [hid]
        exact hcuids.cuids other (List.mem_append_left _ hother)
      · intro row hrow
        obtain ⟨other, hother, hid⟩ := hmem row hrow
        rw [hid]
        exact hnodup.2.2 _ (List.mem_map_of_mem hother) _ (by simp)

theorem oneRowEach_iff {calls : List RegisterWebhookCall} (hcuids : FreshCuids calls) :
    OneRowEach (registerAll .empty calls) ↔
      ((completed calls).map RegisterWebhookCall.sellerId).Nodup := by
  have hlength : ∀ sellerId,
      ((registerAll .empty calls).rows.filter (·.sellerId = sellerId)).length =
        ((completed calls).map RegisterWebhookCall.sellerId).count sellerId := by
    intro sellerId
    rw [registerAll_rows hcuids, List.filter_map, List.length_map, List.count, List.countP_map,
      List.countP_eq_length_filter]
    rfl
  rw [List.nodup_iff_count_le_one]
  exact forall_congr' fun sellerId => by rw [hlength sellerId]

/-- While each seller has registered once, the row that is found is the one of that call. -/
theorem lastCallUsed_of_nodup {calls : List RegisterWebhookCall} (hcuids : FreshCuids calls)
    (hsellers : ((completed calls).map RegisterWebhookCall.sellerId).Nodup) :
    LastCallUsed calls (registerAll .empty calls) := by
  intro store opts hstore
  have hunique : KeyedRows.Unique RegisterWebhookCall.sellerId (completed calls) := hsellers
  have hmatches : ((fun row : WebhookSubscription => decide (row.sellerId = opts.sellerId ∧
      row.active = true ∧ opts.event ∈ row.events)) ∘ RegisterWebhookCall.row) =
        fun call => decide (call.sellerId = opts.sellerId ∧ opts.event ∈ call.events) := by
    funext call
    exact decide_eq_decide.mpr (by simp [RegisterWebhookCall.row])
  have hfind : findSubscription store opts =
      ((completed calls).find? fun call =>
        call.sellerId = opts.sellerId ∧ decide (opts.event ∈ call.events)).map
          RegisterWebhookCall.row := by
    rw [findSubscription, hstore, registerAll_rows hcuids, List.find?_map, hmatches]
    simp
  rw [hfind, hunique.find?_and opts.sellerId fun call => decide (opts.event ∈ call.events),
    lastCall, hunique.find?_reverse, Option.map_map]
  rfl

/-- A registration is an upsert exactly as long as no seller registers twice. -/
theorem registers_once_iff (calls : List RegisterWebhookCall) (hcuids : FreshCuids calls) :
    OneRowEach (registerAll .empty calls) ∧ LastCallUsed calls (registerAll .empty calls) ↔
      ((completed calls).map RegisterWebhookCall.sellerId).Nodup :=
  ⟨fun h => (oneRowEach_iff hcuids).mp h.1,
    fun h => ⟨(oneRowEach_iff hcuids).mpr h, lastCallUsed_of_nodup hcuids h⟩⟩

/-- A seller registers a url, with a secret that is as long as the route asks for. -/
def sampleRegistration (url cuid : String) : RegisterWebhookCall where
  sellerId := "seller_004"
  url := url
  secret := "whsec_test_secret_minimum_32_chars_ok"
  events := ["payment.settled", "payment.failed"]
  cuid := cuid
  now := 0
  fault := none

/-- Two sellers register; the first call of one of them fails in the database and is made again. -/
def registeredApart : List RegisterWebhookCall :=
  [{ sampleRegistration "https://example.com/hooks" "cm3a" with fault := some (.raised "timeout") },
    { sampleRegistration "https://example.org/x402" "cm3b" with sellerId := "seller_005" },
    sampleRegistration "https://example.com/hooks" "cm3c"]

theorem registers_once_sample :
    FreshCuids registeredApart ∧ OneRowEach (registerAll .empty registeredApart) ∧
      LastCallUsed registeredApart (registerAll .empty registeredApart) := by
  have hcuids : FreshCuids registeredApart := ⟨by decide, by decide⟩
  exact ⟨hcuids, (registers_once_iff _ hcuids).mpr (by decide)⟩

/-- The seller moves its endpoint. -/
def registeredTwice : List RegisterWebhookCall :=
  [sampleRegistration "https://example.com/hooks" "cm3a",
    sampleRegistration "https://example.com/v2" "cm3b"]

def settledNotification : NotifyOptions where
  sellerId := "seller_004"
  event := "payment.settled"
  requestId := "req_1"
  verificationId := none
  settlementId := none
  txHash := none
  receiptId := none
  network := none
  asset := none
  amount := none
  feeAmount := none

theorem not_registers_once :
    (¬ ∀ calls, FreshCuids calls → OneRowEach (registerAll .empty calls)) ∧
      ¬ ∀ calls, FreshCuids calls → LastCallUsed calls (registerAll .empty calls) := by
  have hcuids : FreshCuids registeredTwice := ⟨by decide, by decide⟩
  constructor
  · intro h
    have hone := h registeredTwice hcuids "seller_004"
    exact absurd hone (by decide)
  · intro h
    have hused := h registeredTwice hcuids
      ⟨(registerAll .empty registeredTwice).rows, [], []⟩ settledNotification rfl
    exact absurd hused (by decide)

end FacilitatorX402.Webhooks
