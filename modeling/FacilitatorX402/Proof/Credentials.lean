import FacilitatorX402.Http.DeviceAuth
import FacilitatorX402.Http.Sellers

/-!
# Whether issued credentials work

One server answers registrations, rotations and the device flow, in any order. What a registration or
a rotation returns finds its seller until a rotation presents it, and nothing afterwards: the keys
handed out are related to the hashes stored, and each request adds one hash or replaces one. The
device flow returns a key that it stores nowhere, so the runs here are those in which no device is
granted one.
-/

namespace FacilitatorX402.Sellers

open DeviceAuth KeyedRows Requests

structure Services where
  devices : PendingDevices
  sellers : SellerTable

inductive CredentialRequest where
  | register (request : RegisterRequest)
  | rotate (request : RotateRequest)
  | device (request : DeviceRequest)

inductive CredentialReply where
  | seller (reply : SellerReply)
  | device (reply : DeviceReply)

def serve (host : Host) : Handler Services CredentialRequest CredentialReply
  | services, .register request =>
      let (reply, sellers) := register host services.sellers request
      (.seller reply, { services with sellers := sellers })
  | services, .rotate request =>
      let (reply, sellers) := rotateKey host services.sellers request
      (.seller reply, { services with sellers := sellers })
  | services, .device request =>
      let (reply, devices) := DeviceAuth.serve host services.devices request
      (.device reply, { services with devices := devices })

abbrev CredentialExchange := Exchange CredentialRequest CredentialReply

abbrev CredentialLog := Log CredentialRequest CredentialReply

/-- The key an exchange has returned, and the seller it was issued to. An access token has none. -/
def issued (x : CredentialExchange) : Option (String × Option String) :=
  match x.reply with
  | .seller (.registered reply) => some (reply.apiKey, some reply.sellerId)
  | .seller (.rotated reply) => some (reply.apiKey, some reply.sellerId)
  | .device (.token reply) => some (reply.accessToken, none)
  | _ => none

/-- The key that authorised a rotation that succeeded. -/
def retired (x : CredentialExchange) : Option String :=
  match x.request, x.reply with
  | .rotate request, .seller (.rotated _) => extractBearerToken request.authorization
  | _, _ => none

def issuedKeys (log : CredentialLog) : List String := (log.filterMap issued).map Prod.fst

/-- The keys that were issued, or presented by a rotation that succeeded. -/
def keysAtHand (log : CredentialLog) : List String := issuedKeys log ++ log.filterMap retired

/-- The generated keys are fresh, and the digest keeps the keys at hand apart. -/
structure Distinct (host : Host) (log : CredentialLog) : Prop where
  fresh : (issuedKeys log).Nodup
  collisionFree : ∀ key ∈ keysAtHand log, ∀ key' ∈ keysAtHand log,
    hashApiKey host key = hashApiKey host key' → key = key'

/-- The key finds exactly one active seller, and the one it was issued to. -/
def Accepted (host : Host) (table : SellerTable) (key : String) (sellerId : Option String) : Prop :=
  ∃ seller, resolveSeller host table (some ("Bearer " ++ key)) = some seller ∧
    (∀ other ∈ table.findActive, verifyApiKey host key other.apiKeyHash = true → other = seller) ∧
    ∀ id, sellerId = some id → seller.id = id

def NeverAccepted (host : Host) (table : SellerTable) (key : String) : Prop :=
  resolveSeller host table (some ("Bearer " ++ key)) = none

/-- Every key that was issued is accepted until it is retired, and not any more once it is. -/
def CredentialsWork (host : Host) (log : CredentialLog) (table : SellerTable) : Prop :=
  ∀ later x earlier key sellerId, log = later ++ x :: earlier → issued x = some (key, sellerId) →
    ((∀ y ∈ later, retired y ≠ some key) → Accepted host table key sellerId) ∧
    ((∃ y ∈ later, retired y = some key) → NeverAccepted host table key)

/-- No token request comes for a device that is approved and has not expired. -/
def NoGrant (_ : CredentialLog) (services : Services) : CredentialRequest → Prop
  | .device (.token deviceCode now _) => ∀ device ∈ services.devices.rows,
      device.deviceCode = deviceCode → device.approved = true → device.expiresAt < now
  | _ => True

abbrev CredentialRun (host : Host) (start : Services) (log : CredentialLog) (services : Services) :
    Prop :=
  Run (serve host) NoGrant start log services

/-! ### The hashes stored -/

/-- An active row of the seller has the digest of the key. -/
def Held (host : Host) (table : SellerTable) (key : String) (sellerId : Option String) : Prop :=
  ∃ seller ∈ table.rows, seller.active = true ∧ seller.apiKeyHash = hashApiKey host key ∧
    ∀ id, sellerId = some id → seller.id = id

/-- No row has the digest of the key. -/
def Gone (host : Host) (table : SellerTable) (key : String) : Prop :=
  ∀ seller ∈ table.rows, seller.apiKeyHash ≠ hashApiKey host key

variable {host : Host} {table table' : SellerTable} {key : String} {sellerId : Option String}

theorem Held.accepted (h : Held host table key sellerId) (hkey : key ≠ "") :
    Accepted host table key sellerId := by
  obtain ⟨seller, hmem, hactive, hhash, hid⟩ := h
  refine ⟨seller, (resolveSeller_bearer_iff hkey).mpr ⟨hmem, hactive, hhash⟩, ?_, hid⟩
  intro other hother hverify
  exact table.apiKeyHashUnique.eq (List.mem_filter.mp hother).1 hmem
    ((verifyApiKey_iff.mp hverify).symm.trans hhash.symm)

theorem Gone.neverAccepted (h : Gone host table key) : NeverAccepted host table key := by
  by_cases hkey : key = ""
  · subst hkey
    exact resolveSeller_bearer_empty
  · rw [NeverAccepted, Option.eq_none_iff_forall_ne_some]
    intro seller hresolve
    obtain ⟨hmem, -, hhash⟩ := (resolveSeller_bearer_iff hkey).mp hresolve
    exact h seller hmem hhash

/-! ### What a request does to the hashes -/

/-- What an exchange has done to the table. -/
inductive Effect (host : Host) (table : SellerTable) (x : CredentialExchange)
    (table' : SellerTable) : Prop
  | unchanged (htable : table' = table) (hissued : issued x = none) (hretired : retired x = none)
  | registered (seller : Seller) (key : String) (hrows : table'.rows = table.rows ++ [seller])
      (hactive : seller.active = true) (hhash : seller.apiKeyHash = hashApiKey host key)
      (hkey : key ≠ "") (hissued : issued x = some (key, some seller.id)) (hretired : retired x = none)
  | rotated (seller : Seller) (token key : String) (hmem : seller ∈ table.rows)
      (hactive : seller.active = true) (htoken : seller.apiKeyHash = hashApiKey host token)
      (hrows : table'.rows = table.rekeyed seller.id (hashApiKey host key)) (hkey : key ≠ "")
      (hissued : issued x = some (key, some seller.id)) (hretired : retired x = some token)

theorem register_effect (table : SellerTable) (request : RegisterRequest) :
    Effect host table ⟨.register request, .seller (register host table request).1⟩
      (register host table request).2 := by
  rw [register]
  cases parseRegisterBody request.urls.isUrl request.body with
  | error issues => exact .unchanged rfl rfl rfl
  | ok body =>
      cases hrefused : unsafeUrl request.urls body.webhookUrl with
      | some message =>
          simp only [hrefused]
          exact .unchanged rfl rfl rfl
      | none =>
          simp only [hrefused, registerParsed]
          rcases table.create_cases (newSeller host request body) request.fault with
            ⟨table', heq, hrows⟩ | ⟨error, heq⟩
          · rw [heq]
            exact .registered (newSeller host request body) (generateApiKey host request.random).raw
              hrows rfl rfl (generateApiKey_raw_ne_empty host request.random) rfl rfl
          · rw [heq]
            exact .unchanged rfl rfl rfl

/-- A seller that is found has the digest of the token presented. -/
theorem of_lookupSeller {authorization : Option String} {fault : Fault} {seller : Seller}
    (h : lookupSeller host table authorization fault = .ok (some seller)) :
    ∃ token, extractBearerToken authorization = some token ∧ seller ∈ table.rows ∧
      seller.active = true ∧ seller.apiKeyHash = hashApiKey host token := by
  unfold lookupSeller at h
  split at h
  · cases h
  · rename_i htoken
    cases fault with
    | some error => cases h
    | none =>
        cases hextract : extractBearerToken authorization with
        | none => simp [hextract] at htoken
        | some token =>
            have hne : token ≠ "" := by simpa [hextract] using htoken
            simp only [resolveSeller, hextract, if_neg hne, verifyApiKey] at h
            exact ⟨token, rfl, find?_findActive_iff.mp (Except.ok.inj h)⟩

theorem rotateKey_effect (table : SellerTable) (request : RotateRequest) :
    Effect host table ⟨.rotate request, .seller (rotateKey host table request).1⟩
      (rotateKey host table request).2 := by
  rw [rotateKey]
  cases hlookup : lookupSeller host table request.authorization request.lookupFault with
  | error error => exact .unchanged rfl rfl rfl
  | ok found =>
      cases found with
      | none => exact .unchanged rfl rfl rfl
      | some seller =>
          obtain ⟨token, hextract, hmem, hactive, htoken⟩ := of_lookupSeller hlookup
          simp only
          rcases table.updateApiKeyHash_cases seller.id (generateApiKey host request.random).hash
            request.updateFault with ⟨table', heq, hrows⟩ | ⟨error, heq⟩
          · rw [heq]
            exact .rotated seller token (generateApiKey host request.random).raw hmem hactive htoken
              hrows (generateApiKey_raw_ne_empty host request.random) rfl hextract
          · rw [heq]
            exact .unchanged rfl rfl rfl

theorem device_issues_nothing {services : Services} {request : DeviceRequest} {log : CredentialLog}
    (h : NoGrant log services (.device request)) :
    issued ⟨.device request, .device (DeviceAuth.serve host services.devices request).1⟩ = none := by
  cases request with
  | authorize => rfl
  | activate userCode now =>
      rw [DeviceAuth.serve]
      rcases @activate_cases services.devices userCode now with
        ⟨_, _, _, _, _, heq⟩ | ⟨_, _, heq⟩ <;> rw [heq] <;> rfl
  | token deviceCode now random =>
      rw [DeviceAuth.serve]
      rcases @token_cases host services.devices deviceCode now random with
        ⟨device, hdevice, hcode, happroved, htime, -⟩ | ⟨_, _, _, -, heq⟩
      · exact absurd htime (Nat.not_le_of_lt (h device hdevice hcode happroved))
      · rw [heq]
        rfl

theorem serve_effect {log : CredentialLog} {services : Services} {request : CredentialRequest}
    (h : NoGrant log services request) :
    Effect host services.sellers ⟨request, (serve host services request).1⟩
      (serve host services request).2.sellers := by
  cases request with
  | register request => exact register_effect services.sellers request
  | rotate request => exact rotateKey_effect services.sellers request
  | device request => exact .unchanged rfl (device_issues_nothing h) rfl

/-! ### What an effect keeps -/

variable {x : CredentialExchange}

/-- Rows of a rekeyed table have the new hash, or are the old ones of other sellers. -/
theorem mem_rekeyed {id apiKeyHash : String} {row : Seller} (h : row ∈ table.rekeyed id apiKeyHash) :
    (row ∈ table.rows ∧ row.id ≠ id) ∨ row.apiKeyHash = apiKeyHash := by
  rcases KeyedRows.mem_update.mp h with hold | ⟨old, -, -, rfl⟩
  · exact .inl hold
  · exact .inr rfl

theorem Effect.held_issued (h : Effect host table x table') (hissued : issued x = some (key, sellerId)) :
    Held host table' key sellerId ∧ key ≠ "" := by
  cases h with
  | unchanged _ hnone _ => cases hnone.symm.trans hissued
  | registered seller new hrows hactive hhash hnew hsome _ =>
      obtain ⟨rfl, rfl⟩ := Prod.mk.inj (Option.some.inj (hsome.symm.trans hissued))
      refine ⟨⟨seller, ?_, hactive, hhash, fun id hid => Option.some.inj hid⟩, hnew⟩
      rw [hrows]
      exact List.mem_append_right _ (List.mem_singleton_self _)
  | rotated seller token new hmem hactive _ hrows hnew hsome _ =>
      obtain ⟨rfl, rfl⟩ := Prod.mk.inj (Option.some.inj (hsome.symm.trans hissued))
      refine ⟨⟨seller.withKeyHash (hashApiKey host new), ?_, hactive, rfl,
        fun id hid => Option.some.inj hid⟩, hnew⟩
      rw [hrows]
      exact KeyedRows.mem_update_of_eq hmem rfl

/-- A key stays held unless the exchange retires a key of the same digest. -/
theorem Effect.held (h : Effect host table x table') (hheld : Held host table key sellerId)
    (hretired : ∀ token, retired x = some token → hashApiKey host token ≠ hashApiKey host key) :
    Held host table' key sellerId := by
  obtain ⟨holder, hholder, hactive, hhash, hid⟩ := hheld
  refine ⟨holder, ?_, hactive, hhash, hid⟩
  cases h with
  | unchanged htable => exact htable ▸ hholder
  | registered seller new hrows => exact hrows ▸ List.mem_append_left _ hholder
  | rotated seller token new hmem _ htoken hrows _ _ hsome =>
      rw [hrows]
      refine KeyedRows.mem_update_of_ne hholder fun heq => ?_
      obtain rfl := table.idUnique.eq hholder hmem heq
      exact hretired token hsome (htoken.symm.trans hhash)

/-- A key that is gone does not come back, unless one of the same digest is issued. -/
theorem Effect.gone (h : Effect host table x table') (hgone : Gone host table key)
    (hissued : ∀ new id, issued x = some (new, id) → hashApiKey host new ≠ hashApiKey host key) :
    Gone host table' key := by
  cases h with
  | unchanged htable => exact htable ▸ hgone
  | registered seller new hrows _ hhash _ hsome _ =>
      intro row hrow
      rw [hrows, List.mem_append, List.mem_singleton] at hrow
      rcases hrow with hold | rfl
      · exact hgone row hold
      · exact hhash ▸ hissued new _ hsome
  | rotated seller token new _ _ _ hrows _ hsome _ =>
      intro row hrow
      rw [hrows] at hrow
      rcases mem_rekeyed hrow with ⟨hold, -⟩ | hhash
      · exact hgone row hold
      · exact hhash ▸ hissued new _ hsome

/-- The key that authorised a rotation is gone after it. -/
theorem Effect.gone_retired (h : Effect host table x table') (hretired : retired x = some key)
    (hissued : ∀ new id, issued x = some (new, id) → hashApiKey host new ≠ hashApiKey host key) :
    Gone host table' key := by
  cases h with
  | unchanged _ _ hnone => cases hnone.symm.trans hretired
  | registered _ _ _ _ _ _ _ hnone => cases hnone.symm.trans hretired
  | rotated seller token new hmem _ htoken hrows _ hsome htok =>
      obtain rfl := Option.some.inj (htok.symm.trans hretired)
      intro row hrow
      rw [hrows] at hrow
      rcases mem_rekeyed hrow with ⟨hold, hother⟩ | hhash
      · intro heq
        exact hother (congrArg Seller.id (table.apiKeyHashUnique.eq hold hmem (heq.trans htoken.symm)))
      · exact hhash ▸ hissued new _ hsome

/-! ### Every run -/

theorem Distinct.tail {log : CredentialLog} (h : Distinct host (x :: log)) : Distinct host log := by
  have hissued : (issuedKeys log).Sublist (issuedKeys (x :: log)) :=
    ((List.sublist_cons_self x log).filterMap issued).map _
  have hretired : (log.filterMap retired).Sublist ((x :: log).filterMap retired) :=
    (List.sublist_cons_self x log).filterMap retired
  have hkeys := (hissued.append hretired).subset
  exact ⟨h.fresh.sublist hissued, fun key hkey key' hkey' =>
    h.collisionFree key (hkeys hkey) key' (hkeys hkey')⟩

theorem mem_issuedKeys {log : CredentialLog} (hx : x ∈ log)
    (hissued : issued x = some (key, sellerId)) : key ∈ issuedKeys log :=
  List.mem_map.mpr ⟨(key, sellerId), List.mem_filterMap.mpr ⟨x, hx, hissued⟩, rfl⟩

/-- A new key has another digest than one that was issued before. -/
theorem Distinct.ne_of_issued {log : CredentialLog} (h : Distinct host (x :: log))
    (hkey : key ∈ issuedKeys log) {new : String} {id : Option String}
    (hissued : issued x = some (new, id)) : hashApiKey host new ≠ hashApiKey host key := by
  intro heq
  have hkeys : issuedKeys (x :: log) = new :: issuedKeys log := by
    rw [issuedKeys, List.filterMap_cons_some hissued, List.map_cons, issuedKeys]
  obtain rfl := h.collisionFree new
    (List.mem_append_left _ (mem_issuedKeys List.mem_cons_self hissued)) key
    (List.mem_append_left _ (hkeys ▸ List.mem_cons_of_mem _ hkey)) heq
  have hfresh := h.fresh
  rw [hkeys] at hfresh
  exact (List.nodup_cons.mp hfresh).1 hkey

/-- A retired key of another name has another digest. -/
theorem Distinct.ne_of_retired {log : CredentialLog} (h : Distinct host (x :: log))
    (hkey : key ∈ issuedKeys log) (hother : retired x ≠ some key) {token : String}
    (hretired : retired x = some token) : hashApiKey host token ≠ hashApiKey host key := by
  intro heq
  have htoken : token ∈ (x :: log).filterMap retired :=
    List.mem_filterMap.mpr ⟨x, List.mem_cons_self, hretired⟩
  have hold : key ∈ issuedKeys (x :: log) :=
    (((List.sublist_cons_self x log).filterMap issued).map Prod.fst).subset hkey
  obtain rfl := h.collisionFree token (List.mem_append_right _ htoken) key
    (List.mem_append_left _ hold) heq
  exact hother hretired

/-- What the table says of the keys that were issued. -/
def Tracked (host : Host) (log : CredentialLog) (table : SellerTable) : Prop :=
  ∀ later x earlier key sellerId, log = later ++ x :: earlier → issued x = some (key, sellerId) →
    key ≠ "" ∧ ((∀ y ∈ later, retired y ≠ some key) → Held host table key sellerId) ∧
    ((∃ y ∈ later, retired y = some key) → Gone host table key)

theorem Tracked.step {log : CredentialLog} (h : Tracked host log table)
    (heffect : Effect host table x table') (hdistinct : Distinct host (x :: log)) :
    Tracked host (x :: log) table' := by
  intro later y earlier key sellerId hlog hissued
  cases later with
  | nil =>
      obtain ⟨rfl, rfl⟩ := List.cons.inj hlog
      obtain ⟨hheld, hkey⟩ := heffect.held_issued hissued
      exact ⟨hkey, fun _ => hheld, fun ⟨_, hmem, _⟩ => nomatch hmem⟩
  | cons z later =>
      obtain ⟨rfl, rfl⟩ := List.cons.inj hlog
      obtain ⟨hkey, hheld, hgone⟩ := h later y earlier key sellerId rfl hissued
      have hold : key ∈ issuedKeys (later ++ y :: earlier) :=
        mem_issuedKeys (List.mem_append_right later List.mem_cons_self) hissued
      refine ⟨hkey, fun hkept => ?_, fun hretired => ?_⟩
      · exact heffect.held (hheld fun w hw => hkept w (List.mem_cons_of_mem _ hw)) fun token =>
          hdistinct.ne_of_retired hold (hkept x List.mem_cons_self)
      · obtain ⟨w, hw, hretired⟩ := hretired
        rcases List.mem_cons.mp hw with rfl | hw
        · exact heffect.gone_retired hretired fun new id => hdistinct.ne_of_issued hold
        · exact heffect.gone (hgone ⟨w, hw, hretired⟩) fun new id => hdistinct.ne_of_issued hold

theorem CredentialRun.tracked {start services : Services} {log : CredentialLog}
    (h : CredentialRun host start log services) (hdistinct : Distinct host log) :
    Tracked host log services.sellers := by
  refine h.invariant (I := fun log services => Distinct host log →
    Tracked host log services.sellers) ?_ ?_ hdistinct
  · intro _ later x earlier key sellerId hlog
    exact absurd hlog (List.append_ne_nil_of_right_ne_nil _ (List.cons_ne_nil _ _)).symm
  · intro log services request ih hgrant hdistinct
    exact (ih hdistinct.tail).step (serve_effect hgrant) hdistinct

/-- In every run in which no device is granted a token, from any table, with any failures of the
database: what was issued is accepted until a rotation presents it, and not any more afterwards. -/
theorem credentials_work {start services : Services} {log : CredentialLog}
    (h : CredentialRun host start log services) (hdistinct : Distinct host log) :
    CredentialsWork host log services.sellers := by
  intro later x earlier key sellerId hlog hissued
  obtain ⟨hkey, hheld, hgone⟩ := h.tracked hdistinct later x earlier key sellerId hlog hissued
  exact ⟨fun hkept => (hheld hkept).accepted hkey, fun hretired => (hgone hretired).neverAccepted⟩

/-! ### Two runs -/

def emptyServices : Services := ⟨PendingDevices.empty, SellerTable.empty⟩

def sampleRegister : CredentialRequest :=
  .register
    { body := .obj [("name", .str "Robot")]
      urls := ⟨fun _ => true, fun _ => .ok ()⟩
      ulid := "01"
      random := sampleRandom 1
      now := 0
      fault := none }

def sampleRotate : CredentialRequest :=
  .rotate
    { authorization := some ("Bearer " ++ (generateApiKey truncatingHost (sampleRandom 1)).raw)
      random := sampleRandom 2
      now := 1
      lookupFault := none
      updateFault := none }

theorem sampleRotation_admitted :
    Admitted (serve truncatingHost) NoGrant emptyServices [sampleRotate, sampleRegister] :=
  ⟨⟨trivial, trivial⟩, trivial⟩

/-- A seller registers and rotates its key. -/
theorem credentials_work_rotated : ∃ log services,
    CredentialRun truncatingHost emptyServices log services ∧ (issuedKeys log).length = 2 ∧
    CredentialsWork truncatingHost log services.sellers :=
  ⟨_, _, run_served sampleRotation_admitted, by decide,
    credentials_work (run_served sampleRotation_admitted) ⟨by decide, by decide⟩⟩

/-- A device that is granted a token. -/
def sampleGrant (digit : Fin 32) : List CredentialRequest :=
  [.device (.token (sampleRandom 1).hex 9 (sampleRandom 2)), .device (.activate "AAAA-AAAA" 5),
    .device (.authorize "https" "pay.test" 0 (sampleRandom 1) ⟨fun _ => digit, fun _ => digit⟩)]

/-- The access token of a device finds no seller. -/
theorem access_token_refused : ∃ log services,
    Run (serve truncatingHost) anyRequest emptyServices log services ∧
    log.map (·.request) = sampleGrant 0 ∧ Distinct truncatingHost log ∧
    (issuedKeys log).length = 1 ∧ ¬ CredentialsWork truncatingHost log services.sellers := by
  refine ⟨_, _, run_served (admitted_anyRequest (sampleGrant 0)), rfl, ⟨by decide, by decide⟩, by decide,
    fun hwork => ?_⟩
  obtain ⟨seller, hresolve, -⟩ := (hwork [] _ _ _ _ rfl rfl).1 fun _ hmem => nomatch hmem
  cases hresolve

end FacilitatorX402.Sellers
