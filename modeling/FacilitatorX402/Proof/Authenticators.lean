import FacilitatorX402.Http.SellerAuth

/-!
# Whether the authenticators agree

The lookup of the service and the scan of the routes compare the digest of what is presented; the
hook of the middleware compares what is presented, and with one row only. They agree on a key of a
seller only if it is its own digest.
-/

namespace FacilitatorX402.Sellers

/-- The seller each of the three finds for a key, by its id. -/
def identities (host : Host) (safeCompare : String → String → Bool) (table : SellerTable)
    (key : String) : Option String × Option String × Option String :=
  ((getByApiKey host table key).map (·.id), (resolveSeller host table (some ("Bearer " ++ key))).map (·.id),
    (sellerAuthHook safeCompare table (some key)).toOption.map (·.id))

/-- All three identify one active seller, or all identify none. -/
def AuthenticatorsAgree (host : Host) (safeCompare : String → String → Bool) (table : SellerTable)
    (key : String) : Prop :=
  identities host safeCompare table key = (none, none, none) ∨
    ∃ seller ∈ table.rows, seller.active = true ∧
      identities host safeCompare table key = (some seller.id, some seller.id, some seller.id)

/-- No active seller has the key. -/
def Unknown (host : Host) (table : SellerTable) (key : String) : Prop :=
  ∀ seller ∈ table.rows, seller.active = true → seller.apiKeyHash ≠ hashApiKey host key

instance (host : Host) (safeCompare : String → String → Bool) (table : SellerTable) (key : String) :
    Decidable (AuthenticatorsAgree host safeCompare table key) :=
  inferInstanceAs (Decidable (_ ∨ ∃ seller ∈ table.rows, _ ∧ _))

instance (host : Host) (table : SellerTable) (key : String) : Decidable (Unknown host table key) :=
  inferInstanceAs (Decidable (∀ seller ∈ table.rows, _ → _))

variable {host : Host} {safeCompare : String → String → Bool} {table : SellerTable} {key : String}

theorem toOption_eq_some_iff {ε α : Type} {result : Except ε α} {value : α} :
    result.toOption = some value ↔ result = .ok value := by
  cases result <;> simp [Except.toOption]

theorem getByApiKey_id_iff {id : String} : (getByApiKey host table key).map (·.id) = some id ↔
    ∃ seller ∈ table.rows, seller.active = true ∧ seller.apiKeyHash = hashApiKey host key ∧
      seller.id = id := by
  rw [Option.map_eq_some_iff]
  constructor
  · rintro ⟨found, hfound, rfl⟩
    obtain ⟨seller, hmem, hactive, hhash, rfl⟩ := getByApiKey_iff.mp hfound
    exact ⟨seller, hmem, hactive, hhash, rfl⟩
  · rintro ⟨seller, hmem, hactive, hhash, rfl⟩
    exact ⟨toPublic seller, getByApiKey_iff.mpr ⟨seller, hmem, hactive, hhash, rfl⟩, rfl⟩

theorem getByApiKey_eq_none_iff :
    (getByApiKey host table key).map (·.id) = none ↔ Unknown host table key := by
  rw [Option.eq_none_iff_forall_ne_some]
  simp only [ne_eq, getByApiKey_id_iff]
  exact ⟨fun h seller hmem hactive hhash => h _ ⟨seller, hmem, hactive, hhash, rfl⟩,
    fun h id ⟨seller, hmem, hactive, hhash, _⟩ => h seller hmem hactive hhash⟩

/-- The hook identifies a seller exactly by the stored hash of the first active row. -/
theorem sellerAuthHook_id_iff (hcompare : ∀ a b, safeCompare a b = true ↔ a = b ∧ a ≠ "")
    {id : String} : (sellerAuthHook safeCompare table (some key)).toOption.map (·.id) = some id ↔
      ∃ seller, table.findFirstActive = some seller ∧ seller.apiKeyHash = key ∧ key ≠ "" ∧
        seller.id = id := by
  rw [Option.map_eq_some_iff]
  constructor
  · rintro ⟨found, hfound, rfl⟩
    rw [toOption_eq_some_iff, sellerAuthHook_iff hcompare] at hfound
    obtain ⟨seller, hfirst, hhash, hkey, rfl⟩ := hfound
    exact ⟨seller, hfirst, hhash, hkey, rfl⟩
  · rintro ⟨seller, hfirst, hhash, hkey, rfl⟩
    refine ⟨⟨seller.id, seller.name, seller.referralCode⟩, ?_, rfl⟩
    rw [toOption_eq_some_iff, sellerAuthHook_iff hcompare]
    exact ⟨seller, hfirst, hhash, hkey, rfl⟩

theorem sellerAuthHook_eq_none_iff (hcompare : ∀ a b, safeCompare a b = true ↔ a = b ∧ a ≠ "") :
    (sellerAuthHook safeCompare table (some key)).toOption.map (·.id) = none ↔
      key = "" ∨ ∀ seller, table.findFirstActive = some seller → seller.apiKeyHash ≠ key := by
  rw [Option.eq_none_iff_forall_ne_some]
  simp only [ne_eq, sellerAuthHook_id_iff hcompare]
  constructor
  · intro h
    by_cases hkey : key = ""
    · exact .inl hkey
    · exact .inr fun seller hfirst hhash => h _ ⟨seller, hfirst, hhash, hkey, rfl⟩
  · rintro (rfl | h) id ⟨seller, hfirst, hhash, hkey, -⟩
    · exact hkey rfl
    · exact h seller hfirst hhash

theorem resolveSeller_id_eq (hkey : key ≠ "") :
    (resolveSeller host table (some ("Bearer " ++ key))).map (·.id) =
      (getByApiKey host table key).map (·.id) := by
  refine Option.ext fun id => ?_
  rw [getByApiKey_id_iff, Option.map_eq_some_iff]
  simp only [resolveSeller_bearer_iff hkey]
  exact ⟨fun ⟨seller, h, hid⟩ => ⟨seller, h.1, h.2.1, h.2.2, hid⟩,
    fun ⟨seller, hmem, hactive, hhash, hid⟩ => ⟨seller, ⟨hmem, hactive, hhash⟩, hid⟩⟩

theorem mem_of_findFirstActive {seller : Seller} (h : table.findFirstActive = some seller) :
    seller ∈ table.rows ∧ seller.active = true :=
  ⟨List.mem_of_find?_eq_some h, by simpa using List.find?_some h⟩

/-- The condition under which the three agree: nobody has the key and the hook does not take it for a
stored hash either, or it is the stored hash of the first active row and its own digest as well. -/
def Consistent (host : Host) (table : SellerTable) (key : String) : Prop :=
  (Unknown host table key ∧
      (key = "" ∨ ∀ seller, table.findFirstActive = some seller → seller.apiKeyHash ≠ key)) ∨
    ∃ seller, table.findFirstActive = some seller ∧ seller.apiKeyHash = key ∧
      hashApiKey host key = key

theorem agree_empty_iff (hcompare : ∀ a b, safeCompare a b = true ↔ a = b ∧ a ≠ "") :
    AuthenticatorsAgree host safeCompare table "" ↔ Unknown host table "" := by
  have hhook : (sellerAuthHook safeCompare table (some "")).toOption.map (·.id) = none :=
    (sellerAuthHook_eq_none_iff hcompare).mpr (.inl rfl)
  simp only [AuthenticatorsAgree, identities, hhook, resolveSeller_bearer_empty, Option.map_none,
    Prod.mk.injEq, getByApiKey_eq_none_iff, and_true, reduceCtorEq, and_false, exists_false, or_false]

/-- The same sellers are found by the lookup and by the scan; the hook finds one of them exactly when
the two rows coincide. -/
theorem authenticators_agree_iff (hcompare : ∀ a b, safeCompare a b = true ↔ a = b ∧ a ≠ "") :
    AuthenticatorsAgree host safeCompare table key ↔ Consistent host table key := by
  by_cases hkey : key = ""
  · subst hkey
    rw [agree_empty_iff hcompare]
    refine ⟨fun h => .inl ⟨h, .inl rfl⟩, ?_⟩
    rintro (⟨h, -⟩ | ⟨_, -, -, hself⟩)
    · exact h
    · exact absurd hself (hashApiKey_ne_empty host "")
  rw [AuthenticatorsAgree, identities, resolveSeller_id_eq hkey]
  constructor
  · rintro (hnone | ⟨seller, hmem, -, hsome⟩)
    · obtain ⟨hget, hrest⟩ := Prod.mk.inj hnone
      exact .inl ⟨getByApiKey_eq_none_iff.mp hget,
        (sellerAuthHook_eq_none_iff hcompare).mp (Prod.mk.inj hrest).2⟩
    · obtain ⟨hget, hrest⟩ := Prod.mk.inj hsome
      obtain ⟨owner, howner, -, hdigest, hid⟩ := getByApiKey_id_iff.mp hget
      obtain ⟨first, hfirst, hhash, -, hid'⟩ :=
        (sellerAuthHook_id_iff hcompare).mp (Prod.mk.inj hrest).2
      obtain rfl : owner = first :=
        table.idUnique.eq howner (mem_of_findFirstActive hfirst).1 (hid.trans hid'.symm)
      exact .inr ⟨owner, hfirst, hhash, hdigest.symm.trans hhash⟩
  · rintro (⟨hunknown, hfirst⟩ | ⟨first, hfirst, hhash, hself⟩)
    · exact .inl (by rw [getByApiKey_eq_none_iff.mpr hunknown,
        (sellerAuthHook_eq_none_iff hcompare).mpr hfirst])
    · obtain ⟨hmem, hactive⟩ := mem_of_findFirstActive hfirst
      refine .inr ⟨first, hmem, hactive, ?_⟩
      rw [getByApiKey_id_iff.mpr ⟨first, hmem, hactive, hhash.trans hself.symm, rfl⟩,
        (sellerAuthHook_id_iff hcompare).mpr ⟨first, hfirst, hhash, hkey, rfl⟩]

theorem safeEqual_iff (a b : String) : safeEqual a b = true ↔ a = b ∧ a ≠ "" := by
  by_cases h : a = "" ∨ b = ""
  · rw [safeEqual, if_pos h]
    simp only [Bool.false_eq_true, false_iff, not_and, not_not]
    rintro rfl
    exact h.elim id id
  · rw [safeEqual, if_neg h, decide_eq_true_iff]
    exact ⟨fun heq => ⟨heq, fun ha => h (.inl ha)⟩, And.left⟩

/-- One seller, with this key. -/
def oneSeller (key : String) : SellerTable where
  rows := [{
    id := "seller_1"
    name := "Robot"
    apiKeyHash := hashApiKey truncatingHost key
    walletAddress := "0x1"
    referralCode := none
    deviceType := .robot
    webhookUrl := none
    active := true
    createdAt := 0 }]
  idUnique := List.nodup_singleton _
  apiKeyHashUnique := List.nodup_singleton _
  walletAddressUnique := List.nodup_singleton _

/-- Nobody has this key, and all three refuse it. -/
theorem authenticators_agree_unknown :
    AuthenticatorsAgree truncatingHost safeEqual (oneSeller "a") "b" :=
  (authenticators_agree_iff safeEqual_iff).mpr (.inl ⟨by decide, .inr fun seller hfirst hhash => by
    obtain rfl := Option.some.inj hfirst
    exact absurd hhash (by decide)⟩)

/-- A seller presents its own key: the hook alone refuses it. -/
theorem hook_refuses_own_key : ¬ AuthenticatorsAgree truncatingHost safeEqual (oneSeller "a") "a" ∧
    (identities truncatingHost safeEqual (oneSeller "a") "a").1 = some "seller_1" := by
  decide

end FacilitatorX402.Sellers
