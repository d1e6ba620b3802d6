import FacilitatorX402.Proof.VerifyEndings

/-!
# The contract of `runVerify`

The header promises a response for every input, and a refusal that leaves nothing behind. The awaits
after the claim are mostly outside a try statement, and the two inserts are no transaction: the
contract is met exactly when none of the steps listed by `Undisturbed` goes wrong.
-/

namespace FacilitatorX402

open Interact KeyStore

namespace Service

/-- The request and the verification are both stored, and the database says so. -/
def Stores (pattern : Pattern) (host : Host) (db : Db) (network : NetworkConfig)
    (body : VerifyRequest) (requestId : String) (verdict : Verdict) : Prop :=
  ∃ record, VerificationAdded pattern host db network body requestId verdict record ∧
    pattern.create = .fate .done

theorem PersistEnds.stores_iff {pattern : Pattern} {host : Host} {db db' : Db}
    {network : NetworkConfig} {body : VerifyRequest} {requestId : String} {verdict : Verdict}
    {succeeds : Bool} (h : PersistEnds pattern host db network body requestId verdict db' succeeds) :
    Stores pattern host db network body requestId verdict ↔ succeeds = true := by
  cases h with
  | absent hnever =>
      refine ⟨?_, nofun⟩
      rintro ⟨record, hadded, -⟩
      exact absurd hadded.1 (hnever record)
  | @upserted record hupserted hnever =>
      refine ⟨?_, nofun⟩
      rintro ⟨record', hadded, -⟩
      obtain rfl := Option.some.inj (hupserted.2.1.symm.trans hadded.1.2.1)
      exact absurd hadded hnever
  | @added record hadded succeeds hanswer =>
      rw [hanswer]
      exact ⟨fun ⟨_, _, hdone⟩ => hdone, fun hdone => ⟨record, hadded, hdone⟩⟩

/-- A request of this id is there. -/
def Db.HasRequest (db : Db) (requestId : String) : Prop := ∃ row ∈ db.requests, row.id = requestId

/-- An upsert adds no row exactly if there is one. -/
theorem Db.withRequest_subset_iff (db : Db) (body : VerifyRequest) (requestId : String)
    (record : Network) :
    (∀ row ∈ (db.withRequest body requestId record).requests, row ∈ db.requests) ↔
      db.HasRequest requestId := by
  have hany : db.requests.any (·.id = requestId) = true ↔ db.HasRequest requestId := by
    simp [HasRequest]
  rw [Db.withRequest, upsertPaymentRequest, ← hany]
  split
  · rename_i hthere
    exact ⟨fun _ => hthere, fun _ _ => id⟩
  · rename_i hnone
    constructor
    · intro hsub
      have hmem := hsub _ (List.mem_append_right _ (List.mem_singleton_self _))
      exact List.any_eq_true.mpr ⟨_, hmem, decide_eq_true rfl⟩
    · exact fun hthere => absurd hthere hnone

section Contract

variable {ι : Type} {faults : Faults} {pattern : Pattern} {who : ι} {world last : World ι}
  {imports : Imports} {body : VerifyRequest} {requestId : String} {nowMs : Nat}
  {result : Except Err VerifyResponse}

/-- The claims the call has taken are gone, and so are the requests it has created. -/
def LeftClean (who : ι) (world last : World ι) : Prop :=
  (∀ key, last.redis key ≠ some (.call who)) ∧ ∀ row ∈ last.db.requests, row ∈ world.db.requests

/-- A response is returned, and unless it is accepted or the signature is invalid, nothing is left. -/
def MeetsContract (who : ι) (world last : World ι) : Except Err VerifyResponse → Prop
  | .error _ => False
  | .ok (.accepted _) => True
  | .ok (.rejected result) => result.code = "invalid_signature" ∨ LeftClean who world last

/-- Nothing goes wrong after the checks: the nonce key is not there alone; if neither key is, the
lookup is answered; the verifier does not throw; the rejection of an invalid signature is stored; and
a valid one has its verification stored, or no request created for it. -/
def Undisturbed (pattern : Pattern) (imports : Imports) (world : World ι) (body : VerifyRequest)
    (requestId : String) (nowMs : Nat) : Prop :=
  ∀ network asset, Passes imports body nowMs network asset →
    ¬HalfClaimed world body.auth.nonce.text (hashOf imports body) ∧
    (Unclaimed world body.auth.nonce.text (hashOf imports body) → ¬pattern.lookup.Fails ∧
      (world.db.replays body.auth.nonce.text (hashOf imports body) = [] → ∃ sigResult,
        imports.verifyTransferAuthorization body.auth body.payload.signature.text asset network
          = .ok sigResult ∧
        (sigResult.valid = false → Stores pattern imports.host world.db network body requestId
          (invalidVerdict sigResult)) ∧
        (sigResult.valid = true → Stores pattern imports.host world.db network body requestId
          acceptedVerdict ∨ ∀ record, RequestUpserted pattern world.db network body requestId record →
            world.db.HasRequest requestId)))

theorem Passes.unique {network network' : NetworkConfig} {asset asset' : AssetConfig}
    (h : Passes imports body nowMs network asset) (h' : Passes imports body nowMs network' asset') :
    network' = network ∧ asset' = asset := by
  obtain rfl := Option.some.inj (h.supported.symm.trans h'.supported)
  exact ⟨rfl, Option.some.inj (h'.listed.symm.trans h.listed)⟩

/-- For a call that reaches the signature, the condition is about the verifier and the rows. -/
theorem undisturbed_iff_of_unused {network : NetworkConfig} {asset : AssetConfig}
    (hpasses : Passes imports body nowMs network asset)
    (hunused : Unused pattern imports body world) :
    Undisturbed pattern imports world body requestId nowMs ↔ ∃ sigResult,
      imports.verifyTransferAuthorization body.auth body.payload.signature.text asset network
        = .ok sigResult ∧
      (sigResult.valid = false → Stores pattern imports.host world.db network body requestId
        (invalidVerdict sigResult)) ∧
      (sigResult.valid = true → Stores pattern imports.host world.db network body requestId
        acceptedVerdict ∨ ∀ record, RequestUpserted pattern world.db network body requestId record →
          world.db.HasRequest requestId) := by
  constructor
  · exact fun h => ((h network asset hpasses).2 hunused.unclaimed).2 hunused.fresh
  · intro h network' asset' hpasses'
    obtain ⟨rfl, rfl⟩ := hpasses.unique hpasses'
    exact ⟨fun hhalf => hhalf.1 hunused.unclaimed.1, fun _ => ⟨hunused.answered, fun _ => h⟩⟩

theorem leftClean_refl (hnone : ∀ key, world.redis key ≠ some (.call who)) :
    LeftClean who world world := ⟨hnone, fun _ => id⟩

/-- A persistence that fails leaves nothing exactly if it has created no request. -/
theorem PersistEnds.leftClean_iff {network : NetworkConfig} {verdict : Verdict} {db : Db}
    (hnone : ∀ key, world.redis key ≠ some (.call who))
    (h : PersistEnds pattern imports.host world.db network body requestId verdict db false) :
    LeftClean who world { world with db := db } ↔ ∀ record,
      RequestUpserted pattern world.db network body requestId record →
        world.db.HasRequest requestId := by
  cases h with
  | absent hnever =>
      exact ⟨fun _ record hupserted => absurd hupserted (hnever record),
        fun _ => leftClean_refl hnone⟩
  | @upserted record hupserted hnever =>
      have hsub := world.db.withRequest_subset_iff body requestId record
      exact ⟨fun hclean _ _ => hsub.mp hclean.2,
        fun hthere => ⟨hnone, hsub.mpr (hthere record hupserted)⟩⟩
  | @added record hadded _ hanswer =>
      have hsub := world.db.withRequest_subset_iff body requestId record
      exact ⟨fun hclean _ _ => hsub.mp hclean.2,
        fun hthere => ⟨hnone, hsub.mpr (hthere record hadded.1)⟩⟩

theorem Ends.contract_iff (hnone : ∀ key, world.redis key ≠ some (.call who))
    (h : Ends pattern imports who body requestId nowMs world last result) :
    MeetsContract who world last result ↔
      Undisturbed pattern imports world body requestId nowMs := by
  cases h with
  | unchecked hnever hcode =>
      exact ⟨fun _ network asset hpasses => absurd hpasses (hnever network asset),
        fun _ => .inr (leftClean_refl hnone)⟩
  | @halfClaimed network asset result hpasses hhalf hcode =>
      constructor
      · rintro (hinvalid | hclean)
        · rw [hcode] at hinvalid
          exact absurd hinvalid (by decide)
        · exact absurd (Store.put_self _ _ _) (hclean.1 _)
      · exact fun hundisturbed => absurd hhalf (hundisturbed network asset hpasses).1
  | present hpasses hpresent hcode =>
      exact ⟨fun _ _ _ _ => ⟨fun hhalf => hpresent hhalf.2, fun hunclaimed =>
        absurd hunclaimed.2 hpresent⟩, fun _ => .inr (leftClean_refl hnone)⟩
  | @lookupFailed network asset error hpasses hunclaimed hfails =>
      exact ⟨nofun, fun hundisturbed =>
        ((hundisturbed network asset hpasses).2 hunclaimed).1 hfails⟩
  | replayed hpasses hunclaimed hanswered hrows hcode =>
      exact ⟨fun _ _ _ _ => ⟨fun hhalf => hhalf.1 hunclaimed.1, fun _ => ⟨hanswered, fun hfresh =>
        absurd hfresh hrows⟩⟩, fun _ => .inr (leftClean_refl hnone)⟩
  | verifierThrew hpasses hunused hverify =>
      rw [undisturbed_iff_of_unused hpasses hunused]
      refine ⟨nofun, ?_⟩
      rintro ⟨sigResult, hresult, -⟩
      rw [hverify] at hresult
      cases hresult
  | @invalid network asset sigResult db result hpasses hunused hverify hinvalid hpersist hcode =>
      rw [undisturbed_iff_of_unused hpasses hunused]
      refine ⟨fun _ => ⟨sigResult, hverify, fun _ => hpersist.stores_iff.mpr rfl, ?_⟩,
        fun _ => .inl hcode⟩
      intro hvalid
      rw [hinvalid] at hvalid
      cases hvalid
  | invalidUnstored hpasses hunused hverify hinvalid hpersist =>
      rw [undisturbed_iff_of_unused hpasses hunused]
      refine ⟨nofun, ?_⟩
      rintro ⟨sigResult', hverify', hstores, -⟩
      obtain rfl := Except.ok.inj (hverify.symm.trans hverify')
      exact absurd (hpersist.stores_iff.mp (hstores hinvalid)) (by decide)
  | @validUnstored network asset sigResult db result hpasses hunused hverify hvalid hpersist hcode =>
      rw [undisturbed_iff_of_unused hpasses hunused]
      have hclean := hpersist.leftClean_iff hnone
      constructor
      · rintro (hinvalid | hleft)
        · rw [hcode] at hinvalid
          exact absurd hinvalid (by decide)
        · refine ⟨sigResult, hverify, ?_, fun _ => .inr (hclean.mp hleft)⟩
          intro hinvalid
          rw [hvalid] at hinvalid
          cases hinvalid
      · rintro ⟨sigResult', hverify', -, hkept⟩
        obtain rfl := Except.ok.inj (hverify.symm.trans hverify')
        rcases hkept hvalid with hstores | hthere
        · exact absurd (hpersist.stores_iff.mp hstores) (by decide)
        · exact .inr (hclean.mpr hthere)
  | @accepted network asset sigResult db result hpasses hunused hverify hvalid hpersist =>
      rw [undisturbed_iff_of_unused hpasses hunused]
      refine ⟨fun _ => ⟨sigResult, hverify, ?_, fun _ => .inl (hpersist.stores_iff.mpr rfl)⟩,
        fun _ => trivial⟩
      intro hinvalid
      rw [hvalid] at hinvalid
      cases hinvalid

/-- **The contract of `runVerify`.** For every body, every world and every pattern of failures, a call
meets its contract if and only if it is undisturbed at the time it has read first. -/
theorem meetsContract_iff {raw : Json} {decisions : Decisions (machine ι faults)}
    (hnone : ∀ key, world.redis key ≠ some (.call who))
    (h : Alone (machine ι faults) pattern.fair who (runVerify imports raw requestId) world decisions
      result last) :
    ∃ nowMs, ReadsFirst decisions nowMs ∧
      (MeetsContract who world last result ↔ ∀ body, parseVerifyRequest raw = .ok body →
        Undisturbed pattern imports world body requestId nowMs) := by
  unfold runVerify parseX402Payload at h
  cases hparse : parseVerifyRequest raw with
  | error issues =>
      rw [hparse] at h
      obtain ⟨ms, rejected, hfirst, -, rfl, rfl⟩ := alone_refusal h
      refine ⟨ms, hfirst, fun _ body hbody => ?_, fun _ => .inr (leftClean_refl hnone)⟩
      cases hbody
  | ok body =>
      rw [hparse] at h
      obtain ⟨nowMs, hfirst, hends⟩ := ends_of_alone h
      refine ⟨nowMs, hfirst, (hends.contract_iff hnone).trans ?_⟩
      exact ⟨fun hundisturbed body' hbody => Except.ok.inj hbody ▸ hundisturbed,
        fun hall => hall body rfl⟩

end Contract

/-! ### Two calls on an empty store -/

section Sample

variable {ι : Type} {faults : Faults}

/-- Whether a pattern admits a decision. -/
def Pattern.test (pattern : Pattern) (_ : World ι) (op : Op) (outcome : Outcome) : Bool :=
  match op with
  | .redis _ => outcome = .fate .done
  | .now =>
      match outcome with
      | .time ms => (ms : Int) ≤ maxTimeValue
      | _ => false
  | .generateId => outcome = .text pattern.verificationId
  | .findReplay _ _ => outcome = pattern.lookup
  | .findNetwork _ => outcome = pattern.network
  | .upsertPaymentRequest _ => outcome = pattern.upsert
  | .createVerification _ => outcome = pattern.create
  | _ => true

theorem Pattern.fair_of_test {pattern : Pattern} (world : World ι) (op : Op) (outcome : Outcome)
    (h : pattern.test world op outcome = true) :
    (pattern.fair : Fair (machine ι faults)) world op outcome := by
  cases op with
  | now =>
      cases outcome with
      | time ms => exact ⟨ms, of_decide_eq_true h, rfl⟩
      | _ => cases h
  | redis command => exact (of_decide_eq_true h : outcome = .fate .done)
  | generateId => exact (of_decide_eq_true h : outcome = .text pattern.verificationId)
  | findReplay nonce signatureHash => exact (of_decide_eq_true h : outcome = pattern.lookup)
  | findNetwork chainId => exact (of_decide_eq_true h : outcome = pattern.network)
  | upsertPaymentRequest row => exact (of_decide_eq_true h : outcome = pattern.upsert)
  | createVerification row => exact (of_decide_eq_true h : outcome = pattern.create)
  | _ => trivial

/-- Every statement is answered, if the lookup is. -/
def samplePattern (lookup : Outcome) : Pattern where
  lookup := lookup
  network := .fate .done
  verificationId := "ver-0"
  upsert := .fate .done
  create := .fate .done

/-- The decisions of a call that is accepted. -/
def acceptingOutcomes : List Outcome :=
  [.time 1700000000000, .pick 0, .fate .done, .fate .done, .pick 0, .fate .done, .fate .done,
    .text "ver-0", .fate .done, .time 1700000000000]

def connectionLost : Outcome := .fate (.failed (.raised "Connection terminated"))

/-- A call that runs alone on a store that knows nothing. -/
abbrev AloneOnEmpty (pattern : Pattern) (outcomes : List Outcome)
    (result : Except Err VerifyResponse) (last : World Unit) : Prop :=
  Alone (machine Unit ⟨false, false⟩) pattern.fair ()
    (runVerify sampleImports (Payment.spelledPayment false).toJson "req-0") (seededWorld Unit)
    (constantly outcomes) result last

theorem exists_aloneOnEmpty {pattern : Pattern} {outcomes : List Outcome}
    {test : Except Err VerifyResponse → World Unit → Bool}
    (h : (runAlone (M := machine Unit ⟨false, false⟩) pattern.test ()
      (verifyParsed sampleImports (Payment.spelledPayment false) "req-0") (seededWorld Unit)
      (constantly outcomes)).any (fun ended => test ended.1 ended.2) = true) :
    ∃ result last, AloneOnEmpty pattern outcomes result last ∧ test result last = true := by
  obtain ⟨⟨result, last⟩, hrun, htest⟩ := (Option.any_eq_true _ _).mp h
  refine ⟨result, last, ?_, htest⟩
  rw [AloneOnEmpty, runVerify_toJson]
  exact alone_of_runAlone Pattern.fair_of_test hrun

def isAcceptance : Except Err VerifyResponse → Bool
  | .ok (.accepted _) => true
  | _ => false

theorem meetsContract_iff_accepted : ∃ result last,
    AloneOnEmpty (samplePattern (.pick 0)) acceptingOutcomes result last ∧
    MeetsContract () (seededWorld Unit) last result ∧
    ∀ body, parseVerifyRequest (Payment.spelledPayment false).toJson = .ok body →
      Undisturbed (samplePattern (.pick 0)) sampleImports (seededWorld Unit) body "req-0"
        1700000000000 := by
  obtain ⟨result, last, halone, haccepted⟩ := @exists_aloneOnEmpty (samplePattern (.pick 0)) acceptingOutcomes
    (fun result _ => isAcceptance result) (by decide +kernel)
  have hmeets : MeetsContract () (seededWorld Unit) last result := by
    unfold isAcceptance at haccepted
    split at haccepted
    · trivial
    · cases haccepted
  obtain ⟨nowMs, hfirst, hiff⟩ := meetsContract_iff (fun _ => (Option.some_ne_none _).symm) halone
  obtain rfl := hfirst.unique ⟨_, _, rfl, rfl⟩
  exact ⟨result, last, halone, hmeets, hiff.mp hmeets⟩

/-- The lookup fails after the claim. -/
theorem throws_holding_claims : ∃ error last,
    AloneOnEmpty (samplePattern connectionLost)
      [.time 1700000000000, .pick 0, .fate .done, .fate .done, connectionLost] (.error error) last ∧
    last.redis (.nonce (Payment.spelledPayment false).auth.nonce.text) = some (.call ()) ∧
    ¬MeetsContract () (seededWorld Unit) last (.error error) := by
  obtain ⟨result, last, halone, htest⟩ := @exists_aloneOnEmpty (samplePattern connectionLost)
    [.time 1700000000000, .pick 0, .fate .done, .fate .done, connectionLost]
    (fun result last => !result.isOk && decide
      (last.redis (.nonce (Payment.spelledPayment false).auth.nonce.text) = some (.call ())))
    (by decide +kernel)
  obtain ⟨hthrown, hkey⟩ := (Bool.and_eq_true _ _).mp htest
  cases result with
  | ok response => cases hthrown
  | error error => exact ⟨error, last, halone, of_decide_eq_true hkey, id⟩

end Sample

end Service

end FacilitatorX402
