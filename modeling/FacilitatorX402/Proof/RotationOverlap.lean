import FacilitatorX402.Http.KeyRotation
import FacilitatorX402.Proof.Authenticators

/-!
# Overlapping rotations

A rotation checks the presented key against a row it has read, and later writes the new hash by the
seller's id. As long as every update finds in the row the hash that was checked, a key that has
authorised a rotation is gone, and a key that was returned is stored until it authorises one. When
another rotation of the seller has come between, its new hash is overwritten.
-/

namespace FacilitatorX402.Sellers

open KeyedRows Requests

/-- Each key authorises at most one rotation that is answered 200. -/
def OnceEach (state : RotationState) : Prop := (state.rotations.map Rotation.token).Nodup

/-- Every key that was returned and has not authorised a rotation finds its seller. -/
def KeysWork (host : Host) (state : RotationState) : Prop :=
  ∀ rotation ∈ state.rotations, (∀ later ∈ state.rotations, later.token ≠ rotation.apiKey) →
    ∃ seller, resolveSeller host state.sellers (some ("Bearer " ++ rotation.apiKey)) = some seller ∧
      seller.id = rotation.sellerId

/-- The keys that were presented or returned. -/
def RotationState.keys (state : RotationState) : List String :=
  state.presented ++ state.rotations.map Rotation.apiKey

/-- The digest keeps the keys apart that were presented or returned. -/
def CollisionFree (host : Host) (state : RotationState) : Prop :=
  ∀ key ∈ state.keys, ∀ key' ∈ state.keys, hashApiKey host key = hashApiKey host key' → key = key'

/-- A request is in flight once, and what is drawn for its new key is fresh. -/
def Possible (host : Host) (state : RotationState) : RotationStep → Prop
  | .lookup who _ _ => ∀ request ∈ state.pending, request.who ≠ who
  | .update who random _ _ => (∃ request ∈ state.pending, request.who = who) ∧
      (generateApiKey host random).raw ∉ state.keys

/-- The row still has the hash that the request has read. -/
def Current (state : RotationState) : RotationStep → Prop
  | .lookup _ _ _ => True
  | .update who _ _ _ => ∀ request ∈ state.pending, request.who = who →
      ∃ seller ∈ state.sellers.rows, seller.id = request.seller.id ∧
        seller.apiKeyHash = request.seller.apiKeyHash

instance (host : Host) (state : RotationState) :
    (step : RotationStep) → Decidable (Possible host state step)
  | .lookup who _ _ => inferInstanceAs (Decidable (∀ request ∈ state.pending, request.who ≠ who))
  | .update who random _ _ =>
      inferInstanceAs (Decidable ((∃ request ∈ state.pending, request.who = who) ∧
        (generateApiKey host random).raw ∉ state.keys))

instance (state : RotationState) : (step : RotationStep) → Decidable (Current state step)
  | .lookup _ _ _ => inferInstanceAs (Decidable True)
  | .update who _ _ _ =>
      inferInstanceAs (Decidable (∀ request ∈ state.pending, request.who = who →
        ∃ seller ∈ state.sellers.rows, seller.id = request.seller.id ∧
          seller.apiKeyHash = request.seller.apiKeyHash))

instance (host : Host) (state : RotationState) : Decidable (CollisionFree host state) :=
  inferInstanceAs (Decidable (∀ key ∈ state.keys, ∀ key' ∈ state.keys, _))

instance (state : RotationState) : Decidable (OnceEach state) :=
  inferInstanceAs (Decidable (List.Nodup _))

abbrev RotationLog := Log RotationStep (Option SellerReply)

/-- Any interleaving. -/
def anyInterleaving (host : Host) (_ : RotationLog) (state : RotationState) (step : RotationStep) :
    Prop :=
  Possible host state step

/-- The interleavings in which every update finds the hash that was checked. -/
def upToDate (host : Host) (_ : RotationLog) (state : RotationState) (step : RotationStep) : Prop :=
  Possible host state step ∧ Current state step

instance (host : Host) (log : RotationLog) (state : RotationState) (step : RotationStep) :
    Decidable (anyInterleaving host log state step) :=
  inferInstanceAs (Decidable (Possible host state step))

instance (host : Host) (log : RotationLog) (state : RotationState) (step : RotationStep) :
    Decidable (upToDate host log state step) :=
  inferInstanceAs (Decidable (Possible host state step ∧ Current state step))

/-- What an interleaving that is up to date keeps. -/
structure Rotating (host : Host) (state : RotationState) : Prop where
  once : OnceEach state
  presented : ∀ rotation ∈ state.rotations, rotation.token ∈ state.presented
  spent : ∀ rotation ∈ state.rotations, ∀ seller ∈ state.sellers.rows,
    seller.apiKeyHash ≠ hashApiKey host rotation.token
  stored : ∀ rotation ∈ state.rotations,
    (∃ later ∈ state.rotations, later.token = rotation.apiKey) ∨
      ∃ seller ∈ state.sellers.rows, seller.id = rotation.sellerId ∧ seller.active = true ∧
        seller.apiKeyHash = hashApiKey host rotation.apiKey
  nonempty : ∀ rotation ∈ state.rotations, rotation.apiKey ≠ ""
  checked : ∀ request ∈ state.pending, request.token ∈ state.presented ∧
    request.seller.apiKeyHash = hashApiKey host request.token
  active : ∀ request ∈ state.pending, ∀ seller ∈ state.sellers.rows,
    seller.id = request.seller.id → seller.active = true

theorem rotating_start (host : Host) (table : SellerTable) :
    Rotating host { sellers := table } where
  once := List.nodup_nil
  presented := by simp
  spent := by simp
  stored := by simp
  nonempty := by simp
  checked := by simp
  active := by simp

variable {host : Host} {state : RotationState}

theorem lookupSeller_some {table : SellerTable} {authorization : Option String} {fault : Fault}
    {seller : Seller} (h : lookupSeller host table authorization fault = .ok (some seller)) :
    seller ∈ table.rows ∧ seller.active = true ∧
      seller.apiKeyHash = hashApiKey host ((extractBearerToken authorization).getD "") := by
  unfold lookupSeller at h
  split at h
  · cases h
  · rename_i htoken
    cases fault with
    | some error => cases h
    | none =>
        have hresolve := Except.ok.inj h
        rw [resolveSeller] at hresolve
        cases hextract : extractBearerToken authorization with
        | none => simp [hextract] at htoken
        | some token =>
            rw [hextract] at htoken hresolve
            simp only [Option.getD_some] at htoken ⊢
            simp only [if_neg htoken, verifyApiKey] at hresolve
            exact find?_findActive_iff.mp hresolve

theorem Rotating.lookup (h : Rotating host state) (who : Nat) (authorization : Option String)
    (fault : Fault) : Rotating host (state.lookup host who authorization fault).2 := by
  simp only [RotationState.lookup]
  split
  · exact h
  · exact h
  · rename_i seller hlookup
    obtain ⟨hmem, hactive, hhash⟩ := lookupSeller_some hlookup
    refine ⟨h.once, ?_, h.spent, h.stored, h.nonempty, ?_, ?_⟩
    · exact fun rotation hrotation => List.mem_cons_of_mem _ (h.presented rotation hrotation)
    · intro request hrequest
      rcases List.mem_cons.mp hrequest with rfl | hrequest
      · exact ⟨List.mem_cons_self, hhash⟩
      · exact ⟨List.mem_cons_of_mem _ (h.checked request hrequest).1, (h.checked request hrequest).2⟩
    · intro request hrequest other hother hid
      rcases List.mem_cons.mp hrequest with rfl | hrequest
      · rw [state.sellers.idUnique.eq hother hmem hid]
        exact hactive
      · exact h.active request hrequest other hother hid

/-- What the second half does: nothing but to end the request, or the rotation. -/
theorem update_cases (host : Host) (state : RotationState) (request : PendingRotation)
    (random : RandomBytes) (now : Nat) (fault : Fault) :
    (state.update host request random now fault).2 =
        { state with pending := state.pending.filter (·.who ≠ request.who) } ∨
      ∃ sellers : SellerTable,
        sellers.rows =
            state.sellers.rekeyed request.seller.id
              (hashApiKey host (generateApiKey host random).raw) ∧
          (state.update host request random now fault).2 =
            { state with
              sellers := sellers
              pending := state.pending.filter (·.who ≠ request.who)
              rotations :=
                ⟨request.token, request.seller.id, (generateApiKey host random).raw⟩ ::
                  state.rotations } := by
  obtain ⟨sellers, hupdate, hrows⟩ | ⟨error, hupdate⟩ :=
    state.sellers.updateApiKeyHash_cases request.seller.id (generateApiKey host random).hash fault
  · exact .inr ⟨sellers, hrows, by simp only [RotationState.update, hupdate]⟩
  · exact .inl (by simp only [RotationState.update, hupdate])

/-- The rotation itself, on a row that still has the hash that was checked. -/
theorem Rotating.rotate {sellers : SellerTable} {request : PendingRotation} {key : String}
    {pending : List PendingRotation} (h : Rotating host state)
    (hpending : ∀ other ∈ pending, other ∈ state.pending) (hrequest : request ∈ state.pending)
    (hcurrent : ∃ seller ∈ state.sellers.rows, seller.id = request.seller.id ∧
      seller.apiKeyHash = request.seller.apiKeyHash)
    (hkey : key ≠ "") (hfresh : ∀ old ∈ state.keys, hashApiKey host key ≠ hashApiKey host old)
    (hcollision : CollisionFree host state)
    (hrows : sellers.rows = state.sellers.rekeyed request.seller.id (hashApiKey host key)) :
    Rotating host
      { state with
        sellers := sellers
        pending := pending
        rotations := ⟨request.token, request.seller.id, key⟩ :: state.rotations } := by
  obtain ⟨found, hfound, hid, hhash⟩ := hcurrent
  obtain ⟨hpresented, hchecked⟩ := h.checked request hrequest
  rw [hchecked] at hhash
  have htoken : request.token ∈ state.keys := List.mem_append_left _ hpresented
  -- a row of the new table is an old row of another seller, or the one row with its hash replaced
  have hcases : ∀ seller ∈ sellers.rows, seller ∈ state.sellers.rows ∧ seller.id ≠ found.id ∨
      seller = found.withKeyHash (hashApiKey host key) := by
    intro seller hseller
    rw [hrows, SellerTable.rekeyed, mem_update, ← hid] at hseller
    rcases hseller with hother | ⟨old, hold, holdId, rfl⟩
    · exact .inl hother
    · exact .inr (by rw [state.sellers.idUnique.eq hold hfound holdId])
  have hnew : found.withKeyHash (hashApiKey host key) ∈ sellers.rows := by
    rw [hrows, SellerTable.rekeyed, ← hid]
    exact mem_update_of_eq hfound rfl
  have hkept : ∀ seller ∈ state.sellers.rows, seller.id ≠ found.id → seller ∈ sellers.rows := by
    intro seller hseller hne
    rw [hrows, SellerTable.rekeyed, ← hid]
    exact mem_update_of_ne hseller hne
  constructor
  · refine List.nodup_cons.mpr ⟨?_, h.once⟩
    intro hmem
    obtain ⟨earlier, hearlier, heq⟩ := List.mem_map.mp hmem
    exact h.spent earlier hearlier found hfound (by rw [hhash, heq])
  · intro rotation hrotation
    rcases List.mem_cons.mp hrotation with rfl | hrotation
    · exact hpresented
    · exact h.presented rotation hrotation
  · intro rotation hrotation seller hseller
    rcases List.mem_cons.mp hrotation with rfl | hrotation
    · rcases hcases seller hseller with ⟨hold, hne⟩ | rfl
      · intro heq
        exact hne (congrArg Seller.id (state.sellers.apiKeyHashUnique.eq hold hfound
          (heq.trans hhash.symm)))
      · exact hfresh _ htoken
    · rcases hcases seller hseller with ⟨hold, -⟩ | rfl
      · exact h.spent rotation hrotation seller hold
      · exact hfresh _ (List.mem_append_left _ (h.presented rotation hrotation))
  · intro rotation hrotation
    rcases List.mem_cons.mp hrotation with rfl | hrotation
    · exact .inr ⟨_, hnew, hid, h.active request hrequest found hfound hid, rfl⟩
    · rcases h.stored rotation hrotation with ⟨later, hlater, heq⟩ | ⟨seller, hseller, hown, hstored⟩
      · exact .inl ⟨later, List.mem_cons_of_mem _ hlater, heq⟩
      · by_cases hsame : seller.id = found.id
        · -- the row of the returned key is replaced: the request has presented that key
          have hissued : rotation.apiKey ∈ state.keys :=
            List.mem_append_right _ (List.mem_map_of_mem hrotation)
          rw [state.sellers.idUnique.eq hseller hfound hsame, hhash] at hstored
          exact .inl ⟨_, List.mem_cons_self,
            hcollision request.token htoken rotation.apiKey hissued hstored.2⟩
        · exact .inr ⟨seller, hkept seller hseller hsame, hown, hstored⟩
  · intro rotation hrotation
    rcases List.mem_cons.mp hrotation with rfl | hrotation
    · exact hkey
    · exact h.nonempty rotation hrotation
  · exact fun other hother => h.checked other (hpending other hother)
  · intro other hother seller hseller hown
    rcases hcases seller hseller with ⟨hold, -⟩ | rfl
    · exact h.active other (hpending other hother) seller hold hown
    · exact h.active other (hpending other hother) found hfound hown

theorem Rotating.ended (h : Rotating host state) {pending : List PendingRotation}
    (hpending : ∀ other ∈ pending, other ∈ state.pending) :
    Rotating host { state with pending := pending } :=
  ⟨h.once, h.presented, h.spent, h.stored, h.nonempty,
    fun other hother => h.checked other (hpending other hother),
    fun other hother => h.active other (hpending other hother)⟩

theorem keys_serve (host : Host) (state : RotationState) (step : RotationStep) :
    ∀ key ∈ state.keys, key ∈ (RotationState.serve host state step).2.keys := by
  intro key hkey
  have hgrow : ∀ presented rotations, state.presented ⊆ presented → state.rotations ⊆ rotations →
      key ∈ presented ++ rotations.map Rotation.apiKey := by
    intro presented rotations hpresented hrotations
    rcases List.mem_append.mp hkey with hkey | hkey
    · exact List.mem_append_left _ (hpresented hkey)
    · exact List.mem_append_right _ (List.map_subset _ hrotations hkey)
  cases step with
  | lookup who authorization fault =>
      simp only [RotationState.serve, RotationState.lookup]
      split
      · exact hkey
      · exact hkey
      · exact hgrow _ _ (List.subset_cons_self _ _) (List.Subset.refl _)
  | update who random now fault =>
      simp only [RotationState.serve]
      split
      · exact hkey
      · rename_i request _
        obtain hended | ⟨sellers, -, hrotated⟩ := update_cases host state request random now fault
        · simp only [hended]
          exact hkey
        · simp only [hrotated]
          exact hgrow _ _ (List.Subset.refl _) (List.subset_cons_self _ _)

theorem Rotating.serve (h : Rotating host state) {step : RotationStep}
    (hpossible : Possible host state step) (hcurrent : Current state step)
    (hcollision : CollisionFree host (RotationState.serve host state step).2) :
    Rotating host (RotationState.serve host state step).2 := by
  have hbefore : CollisionFree host state := fun key hkey key' hkey' =>
    hcollision key (keys_serve host state step key hkey) key' (keys_serve host state step key' hkey')
  have hold := keys_serve host state step
  cases step with
  | lookup who authorization fault => exact h.lookup who authorization fault
  | update who random now fault =>
      simp only [RotationState.serve] at hcollision hold ⊢
      split
      · exact h
      · rename_i request hfind
        simp only [hfind] at hcollision hold
        have hrequest := List.mem_of_find?_eq_some hfind
        have hwho : request.who = who := by simpa using List.find?_some hfind
        have hpending : ∀ other ∈ state.pending.filter (·.who ≠ request.who),
            other ∈ state.pending := fun other hother => (List.mem_filter.mp hother).1
        obtain hended | ⟨sellers, hrows, hrotated⟩ :=
          update_cases host state request random now fault
        · simp only [hended]
          exact h.ended hpending
        · simp only [hrotated] at hcollision hold ⊢
          refine h.rotate hpending hrequest (hcurrent request hrequest hwho)
            (generateApiKey_raw_ne_empty host random) ?_ hbefore hrows
          intro key hkey heq
          have hsame : (generateApiKey host random).raw = key :=
            hcollision _ (List.mem_append_right _ List.mem_cons_self) key (hold key hkey) heq
          exact hpossible.2 (hsame ▸ hkey)

/-- In an interleaving in which every update finds the hash that was checked, a key authorises one
rotation at most, and when no request is in flight every key returned works until it has authorised
one. -/
theorem rotations_linearize {table : SellerTable} {log : RotationLog}
    (hrun : Run (RotationState.serve host) (upToDate host) { sellers := table } log state)
    (hcollision : CollisionFree host state) :
    OnceEach state ∧ (state.pending = [] → KeysWork host state) := by
  have hrotating : CollisionFree host state → Rotating host state :=
    hrun.invariant (I := fun _ state => CollisionFree host state → Rotating host state)
      (fun _ => rotating_start host table) fun _ state step ih hadmits hafter =>
        (ih fun key hkey key' hkey' => hafter key (keys_serve host state step key hkey) key'
          (keys_serve host state step key' hkey')).serve hadmits.1 hadmits.2 hafter
  have h := hrotating hcollision
  refine ⟨h.once, fun _ rotation hrotation hunused => ?_⟩
  obtain ⟨later, hlater, heq⟩ | ⟨seller, hseller, hid, hactive, hhash⟩ := h.stored rotation hrotation
  · exact absurd heq (hunused later hlater)
  · exact ⟨seller, (resolveSeller_bearer_iff (h.nonempty rotation hrotation)).mpr
      ⟨hseller, hactive, hhash⟩, hid⟩

/-! ## One after the other, and at once -/

def startState : RotationState := { sellers := oneSeller "a" }

/-- A rotation with the key of the seller, and one with the key it returned. -/
def chainedRotations : List RotationStep :=
  [.update 2 (sampleRandom 2) 0 none,
    .lookup 2 (some ("Bearer " ++ (generateApiKey truncatingHost (sampleRandom 1)).raw)) none,
    .update 1 (sampleRandom 1) 0 none, .lookup 1 (some "Bearer a") none]

theorem rotations_linearize_chained :
    Admitted (RotationState.serve truncatingHost) (upToDate truncatingHost) startState
        chainedRotations ∧
      KeysWork truncatingHost
        (served (RotationState.serve truncatingHost) startState chainedRotations).2 := by
  have hadmitted : Admitted (RotationState.serve truncatingHost) (upToDate truncatingHost)
      startState chainedRotations := by
    decide
  exact ⟨hadmitted, (rotations_linearize (run_served hadmitted) (by decide)).2 (by decide)⟩

/-- Two rotations with one key, both of which look it up before either writes. -/
def overlappingRotations : List RotationStep :=
  [.update 2 (sampleRandom 2) 0 none, .update 1 (sampleRandom 1) 0 none,
    .lookup 2 (some "Bearer a") none, .lookup 1 (some "Bearer a") none]

theorem not_rotations_linearize :
    (¬ ∀ (table : SellerTable) (log : RotationLog) (state : RotationState),
        Run (RotationState.serve truncatingHost) (anyInterleaving truncatingHost)
            { sellers := table } log state →
          CollisionFree truncatingHost state → OnceEach state) ∧
      ¬ ∀ (table : SellerTable) (log : RotationLog) (state : RotationState),
        Run (RotationState.serve truncatingHost) (anyInterleaving truncatingHost)
            { sellers := table } log state →
          CollisionFree truncatingHost state → state.pending = [] →
            KeysWork truncatingHost state := by
  have hadmitted : Admitted (RotationState.serve truncatingHost) (anyInterleaving truncatingHost)
      startState overlappingRotations := by
    decide
  constructor
  · intro h
    exact absurd (h _ _ _ (run_served hadmitted) (by decide)) (by decide)
  · intro h
    obtain ⟨seller, hfound, -⟩ := h _ _ _ (run_served hadmitted) (by decide) (by decide)
      ⟨"a", "seller_1", (generateApiKey truncatingHost (sampleRandom 1)).raw⟩ (by decide) (by decide)
    have hlost : resolveSeller truncatingHost
        (served (RotationState.serve truncatingHost) startState overlappingRotations).2.sellers
        (some ("Bearer " ++ (generateApiKey truncatingHost (sampleRandom 1)).raw)) = none := by
      decide
    cases hlost.symm.trans hfound

end FacilitatorX402.Sellers
