import FacilitatorX402.Http.WebhookRoutes
import FacilitatorX402.Library.Isolation
import FacilitatorX402.Proof.WebhookDelivery

/-!
# Sellers do not notice each other's webhooks

A request for a seller's webhooks reads and writes only the rows of the seller that its key belongs to, and
none of them touches the table of sellers. So what a seller is answered does not depend on the webhook
requests of the others, as long as no two subscriptions draw the same id.
-/

namespace FacilitatorX402.Webhooks

open KeyedRows Sellers Requests Isolation

/-- What a webhook request presents. -/
def SellerRequest.webhookCaller? : SellerRequest → Option (Option String × Fault)
  | createWebhook request => some (request.authorization, request.lookupFault)
  | listWebhooks request => some (request.authorization, request.lookupFault)
  | deleteWebhook request => some (request.authorization, request.lookupFault)
  | _ => none

/-- A webhook request of another seller. -/
def hiddenFrom (host : Host) (sellerId : String) (store : SellerStore) (request : SellerRequest) : Bool :=
  match request.webhookCaller? with
  | none => false
  | some (authorization, fault) =>
      match lookupSeller host store.sellers authorization fault with
      | .ok (some seller) => seller.id ≠ sellerId
      | _ => false

/-- The ids that subscriptions draw. -/
def newWebhookIds (requests : List SellerRequest) : List String :=
  requests.filterMap fun
    | .createWebhook request => some (generateWebhookId request.ulid)
    | _ => none

/-- The ids are drawn once, and are not taken. -/
structure FreshIds (requests : List SellerRequest) (table : SubscriptionTable) : Prop where
  distinct : (newWebhookIds requests).Nodup
  free : ∀ row ∈ table.rows, row.id ∉ newWebhookIds requests

/-- The stores have the same sellers, and the seller has the same rows in both. -/
structure AlikeFor (sellerId : String) (requests : List SellerRequest) (store store' : SellerStore) :
    Prop where
  sellers : store'.sellers = store.sellers
  rows : store'.subscriptions.ofSeller sellerId = store.subscriptions.ofSeller sellerId
  fresh : FreshIds requests store.subscriptions
  fresh' : FreshIds requests store'.subscriptions

theorem FreshIds.refl_alike {sellerId : String} {requests : List SellerRequest} {store : SellerStore}
    (h : FreshIds requests store.subscriptions) : AlikeFor sellerId requests store store :=
  ⟨rfl, rfl, h, h⟩

/-! ### What each request does to the subscriptions -/

section Requests

variable {host : Host} {crypto : WebhookCrypto} {env : Option String} {sellers : SellerTable}
  {table : SubscriptionTable} {sellerId : String}

/-- With a fresh id, a subscription is created as in an empty table. -/
theorem createWebhook_of_fresh {request : CreateWebhookRequest}
    (hfresh : ∀ row ∈ table.rows, row.id ≠ generateWebhookId request.ulid) :
    (createWebhook host crypto env sellers table request).1
        = (createWebhook host crypto env sellers noSubscriptions request).1 ∧
      (createWebhook host crypto env sellers table request).2.rows
        = table.rows ++ (createWebhook host crypto env sellers noSubscriptions request).2.rows := by
  have hstore : ∀ seller body,
      (storeWebhook crypto env table request seller body).1
          = (storeWebhook crypto env noSubscriptions request seller body).1 ∧
        (storeWebhook crypto env table request seller body).2.rows
          = table.rows ++ (storeWebhook crypto env noSubscriptions request seller body).2.rows := by
    intro seller body
    simp only [storeWebhook]
    cases encryptWebhookSecret crypto env request.iv (generateWebhookSecret request.random) with
    | error error => exact ⟨rfl, (List.append_nil _).symm⟩
    | ok encryptedSecret =>
        cases request.createFault with
        | some error => exact ⟨rfl, (List.append_nil _).symm⟩
        | none =>
            have hfree : ∀ row ∈ table.rows,
                row.id ≠ (newSubscription request seller body encryptedSecret).id := hfresh
            have hempty : ∀ row ∈ noSubscriptions.rows,
                row.id ≠ (newSubscription request seller body encryptedSecret).id := by
              intro row hrow
              cases hrow
            simp only [SubscriptionTable.create, dif_pos hfree, dif_pos hempty]
            exact ⟨trivial, rfl⟩
  simp only [createWebhook]
  cases lookupSeller host sellers request.authorization request.lookupFault with
  | error error => exact ⟨rfl, (List.append_nil _).symm⟩
  | ok found =>
      cases found with
      | none => exact ⟨rfl, (List.append_nil _).symm⟩
      | some seller =>
          dsimp only
          cases parseCreateWebhookBody request.urls.isUrl request.body with
          | error issues => exact ⟨rfl, (List.append_nil _).symm⟩
          | ok body =>
              dsimp only
              cases unsafeUrl request.urls (some body.url) with
              | some message => exact ⟨rfl, (List.append_nil _).symm⟩
              | none => exact hstore seller body

theorem storeWebhook_empty_rows {request : CreateWebhookRequest} {seller : Seller}
    {body : CreateWebhookBody} {row : WebhookSubscription}
    (hrow : row ∈ (storeWebhook crypto env noSubscriptions request seller body).2.rows) :
    ∃ encryptedSecret, row = newSubscription request seller body encryptedSecret := by
  simp only [storeWebhook] at hrow
  cases hsecret : encryptWebhookSecret crypto env request.iv
      (generateWebhookSecret request.random) with
  | error error =>
      rw [hsecret] at hrow
      cases hrow
  | ok encryptedSecret =>
      rw [hsecret] at hrow
      cases hfault : request.createFault with
      | some error =>
          rw [hfault] at hrow
          cases hrow
      | none =>
          rw [hfault] at hrow
          have hempty : ∀ other ∈ noSubscriptions.rows,
              other.id ≠ (newSubscription request seller body encryptedSecret).id := by
            intro other hother
            cases hother
          simp only [SubscriptionTable.create, dif_pos hempty] at hrow
          exact ⟨encryptedSecret, List.mem_singleton.mp hrow⟩

/-- What is created belongs to the seller whose key was presented. -/
theorem createWebhook_empty_rows {request : CreateWebhookRequest} {row : WebhookSubscription}
    (hrow : row ∈ (createWebhook host crypto env sellers noSubscriptions request).2.rows) :
    row.id = generateWebhookId request.ulid ∧ ∃ seller,
      lookupSeller host sellers request.authorization request.lookupFault = .ok (some seller) ∧
        row.sellerId = seller.id := by
  simp only [createWebhook] at hrow
  cases hlookup : lookupSeller host sellers request.authorization request.lookupFault with
  | error error =>
      rw [hlookup] at hrow
      cases hrow
  | ok found =>
      rw [hlookup] at hrow
      cases found with
      | none => cases hrow
      | some seller =>
          dsimp only at hrow
          split at hrow
          · cases hrow
          · split at hrow
            · cases hrow
            · obtain ⟨encryptedSecret, rfl⟩ := storeWebhook_empty_rows hrow
              exact ⟨rfl, seller, rfl, rfl⟩

/-- The rows of a seller after a deletion are its rows without the one that it has deleted. -/
theorem ofSeller_deleteMany (table : SubscriptionTable) (id : String) :
    (table.deleteMany id sellerId).ofSeller sellerId
      = (table.ofSeller sellerId).filter (·.id ≠ id) := by
  simp only [SubscriptionTable.ofSeller, SubscriptionTable.deleteMany, List.filter_filter]
  apply List.filter_congr
  intro row _
  by_cases hmine : row.sellerId = sellerId <;> simp [hmine]

theorem ofSeller_deleteMany_of_ne (table : SubscriptionTable) (id : String) {other : String}
    (hne : other ≠ sellerId) :
    (table.deleteMany id other).ofSeller sellerId = table.ofSeller sellerId := by
  simp only [SubscriptionTable.ofSeller, SubscriptionTable.deleteMany, List.filter_filter]
  apply List.filter_congr
  intro row _
  by_cases hmine : row.sellerId = sellerId <;> simp [hmine, hne.symm]

end Requests

/-! ### Alike stores -/

section Alike

variable {host : Host} {crypto : WebhookCrypto} {env : Option String} {sellerId : String}
  {request : SellerRequest} {rest : List SellerRequest} {store store' : SellerStore}
  {table table' : SubscriptionTable}

theorem newWebhookIds_subset (request : SellerRequest) (rest : List SellerRequest) :
    (newWebhookIds rest).Sublist (newWebhookIds (request :: rest)) := by
  simp only [newWebhookIds, List.filterMap_cons]
  split
  · exact List.Sublist.refl _
  · exact List.sublist_cons_self _ _

/-- Rows that were there before, and rows of an id that has just been drawn. -/
theorem FreshIds.next (h : FreshIds (request :: rest) table)
    (hrows : ∀ row ∈ table'.rows, row ∈ table.rows ∨
      ∃ created, request = .createWebhook created ∧ row.id = generateWebhookId created.ulid) :
    FreshIds rest table' where
  distinct := h.distinct.sublist (newWebhookIds_subset request rest)
  free row hrow hmem := by
    rcases hrows row hrow with hold | ⟨created, rfl, hid⟩
    · exact h.free row hold ((newWebhookIds_subset request rest).subset hmem)
    · rw [hid] at hmem
      exact (List.nodup_cons.mp h.distinct).1 hmem

theorem FreshIds.not_taken {created : CreateWebhookRequest}
    (h : FreshIds (.createWebhook created :: rest) table) :
    ∀ row ∈ table.rows, row.id ≠ generateWebhookId created.ulid :=
  fun row hrow hid => h.free row hrow (hid ▸ List.mem_cons_self)

theorem FreshIds.createWebhook {created : CreateWebhookRequest} {sellers : SellerTable}
    (h : FreshIds (.createWebhook created :: rest) table) :
    FreshIds rest (createWebhook host crypto env sellers table created).2 := by
  apply h.next
  intro row hrow
  rw [(createWebhook_of_fresh h.not_taken).2] at hrow
  rcases List.mem_append.mp hrow with hold | hnew
  · exact .inl hold
  · exact .inr ⟨created, rfl, (createWebhook_empty_rows hnew).1⟩

theorem deleteWebhook_cases {sellers : SellerTable} (deleted : DeleteWebhookRequest)
    (table : SubscriptionTable) :
    (deleteWebhook host sellers table deleted).2 = table ∨ ∃ seller,
      lookupSeller host sellers deleted.authorization deleted.lookupFault = .ok (some seller) ∧
        (deleteWebhook host sellers table deleted).2 = table.deleteMany deleted.id seller.id := by
  simp only [deleteWebhook]
  cases lookupSeller host sellers deleted.authorization deleted.lookupFault with
  | error error => exact .inl rfl
  | ok found =>
      cases found with
      | none => exact .inl rfl
      | some seller =>
          cases deleted.deleteFault with
          | some error => exact .inl rfl
          | none => exact .inr ⟨seller, rfl, rfl⟩

theorem FreshIds.deleteWebhook {deleted : DeleteWebhookRequest} {sellers : SellerTable}
    (h : FreshIds (.deleteWebhook deleted :: rest) table) :
    FreshIds rest (deleteWebhook host sellers table deleted).2 := by
  apply h.next
  intro row hrow
  have hcases : (Webhooks.deleteWebhook host sellers table deleted).2 = table ∨ _ :=
    deleteWebhook_cases deleted table
  rcases hcases with hsame | ⟨seller, -, hdeleted⟩
  · exact .inl (hsame ▸ hrow)
  · rw [hdeleted] at hrow
    exact .inl (List.mem_filter.mp hrow).1

theorem FreshIds.same (h : FreshIds (request :: rest) table) : FreshIds rest table :=
  h.next fun _ hrow => .inl hrow

/-- A key that is hidden belongs to another seller. -/
theorem other_of_hidden {authorization : Option String} {fault : Fault}
    (hcaller : request.webhookCaller? = some (authorization, fault))
    (h : hiddenFrom host sellerId store request = true) :
    ∃ seller, lookupSeller host store.sellers authorization fault = .ok (some seller) ∧
      seller.id ≠ sellerId := by
  simp only [hiddenFrom, hcaller] at h
  split at h
  · rename_i seller hlookup
    exact ⟨seller, hlookup, of_decide_eq_true h⟩
  · cases h

theorem eq_of_not_hidden {authorization : Option String} {fault : Fault} {seller : Seller}
    (hcaller : request.webhookCaller? = some (authorization, fault))
    (h : hiddenFrom host sellerId store request = false)
    (hlookup : lookupSeller host store.sellers authorization fault = .ok (some seller)) :
    seller.id = sellerId := by
  simp only [hiddenFrom, hcaller, hlookup] at h
  simpa using h

theorem AlikeFor.skip (h : AlikeFor sellerId (request :: rest) store store')
    (hhidden : hiddenFrom host sellerId store request = true) :
    AlikeFor sellerId rest (serveSellers host crypto env store request).2 store' := by
  cases request with
  | register request => cases hhidden
  | rotateKey request => cases hhidden
  | deactivate id fault => cases hhidden
  | createWebhook created =>
      obtain ⟨seller, hlookup, hne⟩ := other_of_hidden rfl hhidden
      refine ⟨h.sellers, h.rows.trans ?_, h.fresh.createWebhook, h.fresh'.same⟩
      change _ = (createWebhook host crypto env store.sellers store.subscriptions created).2.ofSeller _
      rw [SubscriptionTable.ofSeller, SubscriptionTable.ofSeller,
        (createWebhook_of_fresh h.fresh.not_taken).2, List.filter_append]
      have hnone : (createWebhook host crypto env store.sellers noSubscriptions created).2.rows.filter
          (·.sellerId = sellerId) = [] := by
        apply List.filter_eq_nil_iff.mpr
        intro row hrow hmine
        obtain ⟨-, owner, howner, hid⟩ := createWebhook_empty_rows hrow
        obtain rfl := Option.some.inj (Except.ok.inj (hlookup.symm.trans howner))
        exact hne (hid.symm.trans (of_decide_eq_true hmine))
      rw [hnone, List.append_nil]
  | listWebhooks request => exact ⟨h.sellers, h.rows, h.fresh.same, h.fresh'.same⟩
  | deleteWebhook deleted =>
      obtain ⟨seller, hlookup, hne⟩ := other_of_hidden rfl hhidden
      refine ⟨h.sellers, h.rows.trans ?_, h.fresh.deleteWebhook, h.fresh'.same⟩
      change _ = (deleteWebhook host store.sellers store.subscriptions deleted).2.ofSeller _
      have hcases : (deleteWebhook host store.sellers store.subscriptions deleted).2
          = store.subscriptions ∨ _ := deleteWebhook_cases deleted store.subscriptions
      rcases hcases with hsame | ⟨owner, howner, hdeleted⟩
      · rw [hsame]
      · obtain rfl := Option.some.inj (Except.ok.inj (hlookup.symm.trans howner))
        rw [hdeleted, ofSeller_deleteMany_of_ne _ _ hne]

theorem AlikeFor.both (h : AlikeFor sellerId (request :: rest) store store')
    (hhidden : hiddenFrom host sellerId store request = false) :
    (serveSellers host crypto env store' request).1 = (serveSellers host crypto env store request).1 ∧
      AlikeFor sellerId rest (serveSellers host crypto env store request).2
        (serveSellers host crypto env store' request).2 := by
  obtain ⟨sellers', subscriptions'⟩ := store'
  obtain rfl : sellers' = store.sellers := h.sellers
  cases request with
  | register request => exact ⟨rfl, rfl, h.rows, h.fresh.same, h.fresh'.same⟩
  | rotateKey request => exact ⟨rfl, rfl, h.rows, h.fresh.same, h.fresh'.same⟩
  | deactivate id fault => exact ⟨rfl, rfl, h.rows, h.fresh.same, h.fresh'.same⟩
  | createWebhook created =>
      obtain ⟨hreply, hrows⟩ := @createWebhook_of_fresh host crypto env store.sellers _ created
        h.fresh.not_taken
      obtain ⟨hreply', hrows'⟩ := @createWebhook_of_fresh host crypto env store.sellers _ created
        h.fresh'.not_taken
      refine ⟨congrArg SellerAnswer.subscribe (hreply'.trans hreply.symm), rfl, ?_,
        h.fresh.createWebhook, h.fresh'.createWebhook⟩
      change (createWebhook host crypto env store.sellers subscriptions' created).2.ofSeller _
        = (createWebhook host crypto env store.sellers store.subscriptions created).2.ofSeller _
      rw [SubscriptionTable.ofSeller, SubscriptionTable.ofSeller, hrows, hrows', List.filter_append,
        List.filter_append]
      exact congrArg (· ++ _) h.rows
  | listWebhooks listed =>
      refine ⟨congrArg SellerAnswer.webhooks ?_, rfl, h.rows, h.fresh.same, h.fresh'.same⟩
      simp only [listWebhooks]
      cases hlookup : lookupSeller host store.sellers listed.authorization listed.lookupFault with
      | error error => rfl
      | ok found =>
          cases found with
          | none => rfl
          | some seller =>
              have hid := eq_of_not_hidden rfl hhidden hlookup
              have hrows : subscriptions'.ofSeller seller.id
                  = store.subscriptions.ofSeller seller.id := hid ▸ h.rows
              simp only [SubscriptionTable.findMany, hrows]
  | deleteWebhook deleted =>
      have hreply : (deleteWebhook host store.sellers subscriptions' deleted).1
          = (deleteWebhook host store.sellers store.subscriptions deleted).1 := by
        simp only [deleteWebhook]
        cases lookupSeller host store.sellers deleted.authorization deleted.lookupFault with
        | error error => rfl
        | ok found =>
            cases found with
            | none => rfl
            | some seller => cases deleted.deleteFault <;> rfl
      have hrows : (deleteWebhook host store.sellers subscriptions' deleted).2.ofSeller sellerId
          = (deleteWebhook host store.sellers store.subscriptions deleted).2.ofSeller sellerId := by
        simp only [deleteWebhook]
        cases hlookup : lookupSeller host store.sellers deleted.authorization deleted.lookupFault with
        | error error => exact h.rows
        | ok found =>
            cases found with
            | none => exact h.rows
            | some seller =>
                cases deleted.deleteFault with
                | some error => exact h.rows
                | none =>
                    have hid := eq_of_not_hidden rfl hhidden hlookup
                    change (subscriptions'.deleteMany deleted.id seller.id).ofSeller sellerId
                      = (store.subscriptions.deleteMany deleted.id seller.id).ofSeller sellerId
                    rw [hid, ofSeller_deleteMany, ofSeller_deleteMany]
                    exact congrArg _ h.rows
      exact ⟨congrArg SellerAnswer.webhooks hreply, rfl, hrows, h.fresh.deleteWebhook,
        h.fresh'.deleteWebhook⟩

end Alike

/-- **Sellers are isolated.** For any requests to the server of the sellers, whoever sends them and
whatever fails, leaving out the webhook requests of all other sellers changes no other reply, as long as
the ids of subscriptions are drawn once. -/
theorem webhooks_isolated (host : Host) (crypto : WebhookCrypto) (env : Option String) (sellerId : String)
    (store : SellerStore) (requests : List SellerRequest)
    (hfresh : FreshIds requests store.subscriptions) :
    replies (serveSellers host crypto env) store
        (visible (serveSellers host crypto env) (hiddenFrom host sellerId) store requests)
      = visibleReplies (serveSellers host crypto env) (hiddenFrom host sellerId) store requests := by
  have hunwinding : Unwinding (serveSellers host crypto env) (hiddenFrom host sellerId)
      (AlikeFor sellerId) :=
    ⟨fun halike hhidden => halike.skip hhidden, fun halike hhidden => halike.both hhidden⟩
  exact hunwinding.replies_visible hfresh.refl_alike

/-- Two sellers, with their keys. -/
def isolatedSellers : SellerTable where
  rows := [sampleSeller,
    { sampleSeller with
      id := "seller_2"
      apiKeyHash := hashApiKey truncatingHost "other"
      walletAddress := "0x2" }]
  idUnique := by decide
  apiKeyHashUnique := by decide +kernel
  walletAddressUnique := by decide

/-- The second seller has a subscription. -/
def isolatedStore : SellerStore :=
  ⟨isolatedSellers, ⟨[{ sampleRow with id := "wh_02", sellerId := "seller_2" }], List.nodup_singleton _⟩⟩

/-- The first seller subscribes, and tries to delete the subscription of the second, which lists its own,
deletes it and lists again. -/
def isolatedRequests : List SellerRequest :=
  [.createWebhook sampleSubscribe, .listWebhooks ⟨some "Bearer other", none, none⟩,
    .deleteWebhook ⟨some "Bearer key", "wh_02", none, none⟩,
    .listWebhooks ⟨some "Bearer other", none, none⟩,
    .deleteWebhook ⟨some "Bearer other", "wh_02", none, none⟩,
    .listWebhooks ⟨some "Bearer key", none, none⟩, .listWebhooks ⟨some "Bearer other", none, none⟩]

/-- The ids that a reply lists. -/
def listedIds : SellerAnswer → Option (List String)
  | .webhooks (.listed webhooks) => some (webhooks.map (·.id))
  | _ => none

/-- The second seller is answered as if the first had sent nothing. -/
theorem webhooks_isolated_sample :
    replies (serveSellers truncatingHost sampleCrypto sampleEnv) isolatedStore
        (visible (serveSellers truncatingHost sampleCrypto sampleEnv)
          (hiddenFrom truncatingHost "seller_2") isolatedStore isolatedRequests)
      = visibleReplies (serveSellers truncatingHost sampleCrypto sampleEnv)
          (hiddenFrom truncatingHost "seller_2") isolatedStore isolatedRequests ∧
    (visibleReplies (serveSellers truncatingHost sampleCrypto sampleEnv)
      (hiddenFrom truncatingHost "seller_2") isolatedStore isolatedRequests).map listedIds
        = [some ["wh_02"], some ["wh_02"], none, some []] :=
  ⟨webhooks_isolated truncatingHost sampleCrypto sampleEnv "seller_2" isolatedStore isolatedRequests
    ⟨by decide, by decide⟩, by decide +kernel⟩

end FacilitatorX402.Webhooks
