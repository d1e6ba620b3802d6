import FacilitatorX402.Infrastructure.SellerStore

/-!
# Who presents a key

The three functions that find a seller by the key it presents: the lookup of the seller service, the
scan behind the seller routes, and the hook of the middleware.
-/

namespace FacilitatorX402.Sellers

/-- What the service tells of a seller. -/
structure SellerPublic where
  id : String
  name : String
  walletAddress : String
  referralCode : Option String
  webhookUrl : Option String
  deviceType : DeviceType
  active : Bool
  createdAt : Nat
  deriving DecidableEq

def toPublic (seller : Seller) : SellerPublic :=
  { id := seller.id
    name := seller.name
    walletAddress := seller.walletAddress
    referralCode := seller.referralCode
    webhookUrl := seller.webhookUrl
    deviceType := seller.deviceType
    active := seller.active
    createdAt := seller.createdAt }

def getByApiKey (host : Host) (table : SellerTable) (rawKey : String) : Option SellerPublic :=
  match table.findByApiKeyHash (hashApiKey host rawKey) with
  | none => none
  | some seller => if seller.active = false then none else some (toPublic seller)

def extractBearerToken (authHeader : Option String) : Option String :=
  authHeader.bind fun header =>
    if "Bearer ".toList.isPrefixOf header.toList then some (String.ofList (header.toList.drop 7))
    else none

def resolveSeller (host : Host) (table : SellerTable) (authHeader : Option String) : Option Seller :=
  match extractBearerToken authHeader with
  | none => none
  | some token =>
      if token = "" then none
      else table.findActive.find? fun seller => verifyApiKey host token seller.apiKeyHash

/-- What the hook puts into the request. -/
structure AuthenticatedSeller where
  id : String
  name : String
  referralCode : Option String
  deriving DecidableEq

/-- `safeEqual`. The digest comparison agrees with equality on buffers of one length. -/
def safeEqual (a b : String) : Bool :=
  if a = "" ∨ b = "" then false else a = b

/-- `new FacilitatorError('unauthorized', …)`: a code that the tables of errors do not list. -/
def unauthorized : FacilitatorError := createError "unauthorized" none none

/-- The comparison the hook imports is not exported by the module it names, so it is a parameter. A
header that is sent more than once is not a string, like a missing one. -/
def sellerAuthHook (safeCompare : String → String → Bool) (table : SellerTable)
    (apiKey : Option String) : Except FacilitatorError AuthenticatedSeller :=
  match apiKey with
  | none => .error unauthorized
  | some key =>
      if key = "" then .error unauthorized
      else
        match table.findFirstActive with
        | none => .error unauthorized
        | some seller =>
            if seller.apiKeyHash = "" then .error unauthorized
            else if safeCompare key seller.apiKeyHash = false then .error unauthorized
            else .ok { id := seller.id, name := seller.name, referralCode := seller.referralCode }

/-! ### What each of them finds -/

variable {host : Host} {table : SellerTable} {key : String}

@[simp]
theorem extractBearerToken_bearer (token : String) :
    extractBearerToken (some ("Bearer " ++ token)) = some token := by
  have hlist : ("Bearer " ++ token).toList = "Bearer ".toList ++ token.toList :=
    String.toList_append
  have hprefix : "Bearer ".toList.isPrefixOf ("Bearer ".toList ++ token.toList) = true :=
    List.isPrefixOf_iff_prefix.mpr (List.prefix_append _ _)
  have hdrop : ("Bearer ".toList ++ token.toList).drop 7 = token.toList := rfl
  rw [extractBearerToken, Option.bind_some, hlist, if_pos hprefix, hdrop, String.ofList_toList]

theorem find?_findActive_iff {apiKeyHash : String} {seller : Seller} :
    table.findActive.find? (fun row => decide (apiKeyHash = row.apiKeyHash)) = some seller ↔
      seller ∈ table.rows ∧ seller.active = true ∧ seller.apiKeyHash = apiKeyHash := by
  constructor
  · intro h
    have hmem := List.mem_filter.mp (List.mem_of_find?_eq_some h)
    have hhash : apiKeyHash = seller.apiKeyHash := by simpa using List.find?_some h
    exact ⟨hmem.1, hmem.2, hhash.symm⟩
  · rintro ⟨hmem, hactive, rfl⟩
    cases hfind : table.findActive.find? (fun row => decide (seller.apiKeyHash = row.apiKeyHash)) with
    | none =>
        have hnone := List.find?_eq_none.mp hfind seller (List.mem_filter.mpr ⟨hmem, hactive⟩)
        simp at hnone
    | some other =>
        have hother := (List.mem_filter.mp (List.mem_of_find?_eq_some hfind)).1
        have hhash : seller.apiKeyHash = other.apiKeyHash := by simpa using List.find?_some hfind
        rw [table.apiKeyHashUnique.eq hother hmem hhash.symm]

theorem resolveSeller_bearer_iff {seller : Seller} (hkey : key ≠ "") :
    resolveSeller host table (some ("Bearer " ++ key)) = some seller ↔
      seller ∈ table.rows ∧ seller.active = true ∧ seller.apiKeyHash = hashApiKey host key := by
  rw [resolveSeller, extractBearerToken_bearer]
  simp only [if_neg hkey, verifyApiKey]
  exact find?_findActive_iff

theorem resolveSeller_bearer_empty : resolveSeller host table (some ("Bearer " ++ "")) = none := by
  rw [resolveSeller, extractBearerToken_bearer]
  exact if_pos rfl

theorem findByApiKeyHash_iff {apiKeyHash : String} {seller : Seller} :
    table.findByApiKeyHash apiKeyHash = some seller ↔
      seller ∈ table.rows ∧ seller.apiKeyHash = apiKeyHash := by
  constructor
  · intro h
    exact ⟨List.mem_of_find?_eq_some h, by simpa using List.find?_some h⟩
  · rintro ⟨hmem, rfl⟩
    cases hfind : table.findByApiKeyHash seller.apiKeyHash with
    | none =>
        have hnone := List.find?_eq_none.mp hfind seller hmem
        simp at hnone
    | some other =>
        have hhash : other.apiKeyHash = seller.apiKeyHash := by simpa using List.find?_some hfind
        rw [table.apiKeyHashUnique.eq (List.mem_of_find?_eq_some hfind) hmem hhash]

theorem getByApiKey_iff {found : SellerPublic} : getByApiKey host table key = some found ↔
    ∃ seller ∈ table.rows, seller.active = true ∧ seller.apiKeyHash = hashApiKey host key ∧
      found = toPublic seller := by
  rw [getByApiKey]
  constructor
  · intro h
    cases hfind : table.findByApiKeyHash (hashApiKey host key) with
    | none => simp [hfind] at h
    | some seller =>
        obtain ⟨hmem, hhash⟩ := findByApiKeyHash_iff.mp hfind
        simp only [hfind] at h
        split at h
        · cases h
        · rename_i hactive
          exact ⟨seller, hmem, by simpa using hactive, hhash, (Option.some.inj h).symm⟩
  · rintro ⟨seller, hmem, hactive, hhash, rfl⟩
    rw [findByApiKeyHash_iff.mpr ⟨hmem, hhash⟩]
    simp [hactive]

/-- The hook accepts exactly the stored hash of the first active row. -/
theorem sellerAuthHook_iff {safeCompare : String → String → Bool}
    (hcompare : ∀ a b, safeCompare a b = true ↔ a = b ∧ a ≠ "") {found : AuthenticatedSeller} :
    sellerAuthHook safeCompare table (some key) = .ok found ↔
      ∃ seller, table.findFirstActive = some seller ∧ seller.apiKeyHash = key ∧ key ≠ "" ∧
        found = ⟨seller.id, seller.name, seller.referralCode⟩ := by
  simp only [sellerAuthHook]
  by_cases hkey : key = ""
  · simp [hkey]
  rw [if_neg hkey]
  cases table.findFirstActive with
  | none => simp
  | some seller =>
      by_cases hequal : key = seller.apiKeyHash
      · have hpassed : safeCompare key seller.apiKeyHash = true := (hcompare _ _).mpr ⟨hequal, hkey⟩
        subst hequal
        simp only [if_neg hkey, hpassed, Bool.true_eq_false, if_false, Except.ok.injEq,
          Option.some.injEq]
        constructor
        · rintro rfl
          exact ⟨seller, rfl, rfl, hkey, rfl⟩
        · rintro ⟨_, rfl, -, -, rfl⟩
          rfl
      · have hrefused : safeCompare key seller.apiKeyHash = false := by
          rw [Bool.eq_false_iff, ne_eq, hcompare]
          exact fun h => hequal h.1
        simp [hrefused, Ne.symm hequal]

end FacilitatorX402.Sellers
