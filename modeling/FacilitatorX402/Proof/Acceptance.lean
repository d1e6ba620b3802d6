import FacilitatorX402.Proof.RebuiltAuthorization
import FacilitatorX402.Library.Trace

/-!
# What an acceptance is worth

Everything `verifyPayment` has checked when it accepts, at the time it read first: the network and the
asset it found, the expiry, the recipient, the amount and the signer. Two things it has not checked. The
authorization may not be valid yet, which the sibling service does look at; and the asset may be a
property that the table of assets inherits, for which the signing domain loses its contract.
-/

namespace FacilitatorX402

open Interact

namespace Payment

section Clock

variable {ι : Type}

/-- The time that an operation has read. -/
def reading? : Event interface Err ι → Option Nat
  | ⟨_, .now, .ok ms⟩ => some ms
  | _ => none

/-- The time that was read first; the newest event comes first. -/
def firstReading : List (Event interface Err ι) → Option Nat
  | [] => none
  | event :: earlier => (firstReading earlier).or (reading? event)

theorem firstReading_cons {event : Event interface Err ι} {earlier : List (Event interface Err ι)}
    {nowMs : Nat} (h : firstReading earlier = some nowMs) :
    firstReading (event :: earlier) = some nowMs := by
  rw [firstReading, h]
  rfl

end Clock

/-- What has been checked of an accepted payment, at a time in milliseconds. -/
structure Checked (host : Host) (registry : NetworkRegistry) (req : VerifyRequest) (nowMs : Nat)
    (network : NetworkConfig) (asset : FoundAsset) : Prop where
  supported : registry req.network = some network
  listed : network.asset req.asset = some asset
  unexpired : nowMs / 1000 < req.auth.validBefore
  recipient : req.auth.to.lower = req.recipient.lower
  amount : req.requiredAmount.value ≤ req.auth.value.value
  signer : ∃ recovered, verifyErc3009Signature host req.auth req.payload.signature.text
      asset.contractAddress network.chainId asset.eip712Version = .ok recovered ∧
    HexText.lowerCase recovered = req.auth.from.lower

section Sat

variable {ι : Type} {who : ι} {host : Host} {registry : NetworkRegistry} {req : VerifyRequest}
  {network : NetworkConfig} {asset : FoundAsset} {requestId : String} {nowMs : Nat}
  {events : List (Event interface Err ι)}

/-- Every answer is possible. -/
abbrev anyAnswers (who : ι) : Protocol interface Err (List (Event interface Err ι)) :=
  traced who fun _ _ => True

/-- A time once read stays the first one. -/
theorem keeps_firstReading {α : Type} (program : PaymentProgram α)
    (h : firstReading events = some nowMs) :
    program.Sat (anyAnswers who) events fun events' _ => firstReading events' = some nowMs := by
  induction program generalizing events with
  | ret value => exact h
  | throw error => exact h
  | perform op next ih =>
      refine ⟨trivial, ?_⟩
      rintro answer _ ⟨-, rfl⟩
      exact ih answer (firstReading_cons h)

theorem of_checkAuthorization (h : checkAuthorization req requestId (nowMs / 1000) = .ok ()) :
    nowMs / 1000 < req.auth.validBefore ∧ req.auth.to.lower = req.recipient.lower ∧
      req.requiredAmount.value ≤ req.auth.value.value := by
  unfold checkAuthorization at h
  dsimp only at h
  split at h
  · split at h <;> cases h
  · rename_i hbefore
    split at h
    · cases h
    · rename_i hto
      split at h
      · cases h
      · rename_i hamount
        exact ⟨not_le.mp hbefore, not_not.mp hto, not_lt.mp hamount⟩

/-- A check of the signer that returns has recovered the sender. -/
theorem checkSigner_sat (signatureHash : String) (h : firstReading events = some nowMs) :
    (checkSigner host network asset req signatureHash requestId).Sat (anyAnswers who) events
      fun events' outcome => firstReading events' = some nowMs ∧ (outcome = .ok () →
        ∃ recovered, verifyErc3009Signature host req.auth req.payload.signature.text
            asset.contractAddress network.chainId asset.eip712Version = .ok recovered ∧
          HexText.lowerCase recovered = req.auth.from.lower) := by
  have hrelease : ∀ error : Err,
      ((releaseClaims req.auth.nonce.text signatureHash).bind fun _ =>
        (.throw error : PaymentProgram Unit)).Sat (anyAnswers who) events fun events' outcome =>
          firstReading events' = some nowMs ∧ (outcome = .ok () →
            ∃ recovered, verifyErc3009Signature host req.auth req.payload.signature.text
                asset.contractAddress network.chainId asset.eip712Version = .ok recovered ∧
              HexText.lowerCase recovered = req.auth.from.lower) := by
    intro error
    rw [Program.sat_bind]
    apply (keeps_firstReading (releaseClaims _ _) h).mono
    rintro events' (error' | released) hreading
    · exact ⟨hreading, fun heq => by cases heq⟩
    · exact ⟨hreading, fun heq => by cases heq⟩
  unfold checkSigner
  dsimp only
  split
  · exact hrelease _
  · rename_i recovered hrecovered
    split
    · exact hrelease _
    · rename_i hsame
      exact ⟨h, fun _ => ⟨recovered, hrecovered, not_not.mp hsame⟩⟩

theorem checked_verifyChecked (hsupported : registry req.network = some network)
    (hlisted : network.asset req.asset = some asset) (hnone : firstReading events = none) :
    (verifyChecked host network asset req requestId).Sat (anyAnswers who) events
      fun events' outcome => ∀ result, outcome = .ok result → ∃ nowMs,
        firstReading events' = some nowMs ∧ Checked host registry req nowMs network asset := by
  rw [verifyChecked, dateNow, Program.sat_bind', sat_op]
  refine ⟨trivial, ?_⟩
  rintro (error | nowMs) _ ⟨-, rfl⟩
  · exact fun _ heq => by cases heq
  have hreading : firstReading ((⟨who, .now, .ok nowMs⟩ : Event interface Err ι) :: events)
      = some nowMs := by
    rw [firstReading, hnone]
    rfl
  rw [Program.thenSat_ok, Program.sat_bind', Program.sat_ofExcept]
  cases hcheck : checkAuthorization req requestId (nowMs / 1000) with
  | error error => exact fun _ heq => by cases heq
  | ok checked =>
      obtain ⟨hunexpired, hrecipient, hamount⟩ := of_checkAuthorization hcheck
      rw [Program.thenSat_ok, Program.sat_bind']
      apply (keeps_firstReading (claimPayment _ _ _) hreading).mono
      rintro events' (error | claimed) hreading'
      · exact fun _ heq => by cases heq
      rw [Program.thenSat_ok, Program.sat_bind']
      apply (checkSigner_sat _ hreading').mono
      rintro events' (error | signed) ⟨hreading', hsigner⟩
      · exact fun _ heq => by cases heq
      have hchecked : Checked host registry req nowMs network asset :=
        ⟨hsupported, hlisted, hunexpired, hrecipient, hamount, hsigner rfl⟩
      rw [Program.thenSat_ok]
      exact (keeps_firstReading _ hreading').mono fun _ _ hlast _ _ => ⟨nowMs, hlast, hchecked⟩

/-- Whatever is answered, an accepted payment has been checked at the time read first. -/
theorem checked_verifyPayment (host : Host) (registry : NetworkRegistry) (rawBody : Json) :
    (verifyPayment host registry rawBody).Sat (anyAnswers who) [] fun events outcome =>
      ∀ result, outcome = .ok result → ∃ req nowMs network asset,
        parseVerifyRequest rawBody = .ok req ∧ firstReading events = some nowMs ∧
          Checked host registry req nowMs network asset := by
  unfold verifyPayment
  cases hparse : parseVerifyRequest rawBody with
  | error issues => exact fun _ heq => by cases heq
  | ok req =>
      change (verifyParsed host registry req).Sat _ _ _
      rw [verifyParsed, generateUlid, Program.sat_bind', sat_op]
      refine ⟨trivial, ?_⟩
      rintro (error | requestId) _ ⟨-, rfl⟩
      · exact fun _ heq => by cases heq
      rw [Program.thenSat_ok]
      split
      · exact fun _ heq => by cases heq
      · rename_i network hsupported
        split
        · exact fun _ heq => by cases heq
        · rename_i asset hlisted
          apply (checked_verifyChecked hsupported hlisted rfl).mono
          intro events' outcome hchecked result hresult
          obtain ⟨nowMs, hreading, hchecked⟩ := hchecked result hresult
          exact ⟨req, nowMs, network, asset, rfl, hreading, hchecked⟩

end Sat

/-! ### Against ERC-3009 -/

/-- The token would take the authorization now: it is in its time, the six fields are signed by the
sender under the domain of the asset found, and it pays the recipient at least what is required. -/
structure Submittable (host : Host) (registry : NetworkRegistry) (req : VerifyRequest) (nowSec : Nat) :
    Prop where
  after : req.auth.validAfter ≤ nowSec
  before : nowSec < req.auth.validBefore
  signed : ∃ network asset recovered, registry req.network = some network ∧
    network.asset req.asset = some asset ∧
    host.recoverTypedDataAddress (erc3009Domain asset.contractAddress asset.eip712Version network.chainId)
      { «from» := req.auth.from.text
        «to» := req.auth.to.text
        value := req.auth.value.value
        validAfter := req.auth.validAfter
        validBefore := req.auth.validBefore
        nonce := req.auth.nonce.text } req.payload.signature.text = .ok recovered ∧
    HexText.lowerCase recovered = HexText.lowerCase req.auth.from.text
  recipient : req.auth.to.bytes = req.recipient.bytes
  amount : req.requiredAmount.value ≤ req.auth.value.value

theorem Checked.submittable_iff {host : Host} {registry : NetworkRegistry} {req : VerifyRequest}
    {nowMs : Nat} {network : NetworkConfig} {asset : FoundAsset}
    (h : Checked host registry req nowMs network asset) :
    Submittable host registry req (nowMs / 1000) ↔ req.auth.validAfter ≤ nowMs / 1000 := by
  obtain ⟨recovered, hrecovered, hsame⟩ := h.signer
  exact ⟨fun hsubmittable => hsubmittable.after, fun hafter =>
    { after := hafter
      before := h.unexpired
      signed := ⟨network, asset, recovered, h.supported, h.listed, hrecovered, hsame⟩
      recipient := (HexString.lower_eq_iff _ _).mp h.recipient
      amount := h.amount }⟩

section Runs

variable {ι : Type} {faults : Faults} [DecidableEq ι] {host : Host} {registry : NetworkRegistry}

/-- **An acceptance is sound exactly from `validAfter` on.** In every run, whatever the other calls do,
a payment that a call has accepted is submittable at the time the call read first if and only if its
`validAfter` has come by then. -/
theorem acceptance_sound_iff {start cfg : Config (machine ι faults) VerifyResult} {who : ι}
    {rawBody : Json} (hcall : start.calls who = verifyPayment host registry rawBody)
    (hbegin : start.NotStarted who) (hreach : Config.Reachable Config.anyStep start cfg)
    {result : VerifyResult} (haccepted : (cfg.calls who).result? = some (.ok result)) :
    ∃ req nowMs, parseVerifyRequest rawBody = .ok req ∧
      firstReading (cfg.eventsOf who) = some nowMs ∧
      (Submittable host registry req (nowMs / 1000) ↔ req.auth.validAfter ≤ nowMs / 1000) := by
  have hsat : (start.calls who).Sat (anyAnswers who) (start.eventsOf who) fun events outcome =>
      ∀ result, outcome = .ok result → ∃ req nowMs network asset,
        parseVerifyRequest rawBody = .ok req ∧ firstReading events = some nowMs ∧
          Checked host registry req nowMs network asset := by
    rw [hcall, Config.eventsOf_of_notStarted hbegin]
    exact checked_verifyPayment host registry rawBody
  obtain ⟨req, nowMs, network, asset, hparse, hreading, hchecked⟩ :=
    hreach.traced_result (fun _ _ _ _ _ _ _ => trivial) hsat haccepted result rfl
  exact ⟨req, nowMs, hparse, hreading, hchecked.submittable_iff⟩

end Runs

/-! ### The asset of an acceptance -/

/-- The asset is one the network configures, the sender has signed under its domain, and no settlement
of the payment goes to another contract. -/
def BoundToAsset {ι : Type} {faults : Faults} (host : Host) (registry : NetworkRegistry)
    (call : ι → PaymentCall) (cfg : Config (machine ι faults) PaymentReply) (req : VerifyRequest)
    (result : VerifyResult) : Prop :=
  ∃ network asset, registry req.network = some network ∧ network.assets.lookup req.asset = some asset ∧
    (∃ recovered, host.recoverTypedDataAddress
        { name := "USD Coin"
          version := some asset.eip712Version
          chainId := network.chainId
          verifyingContract := some asset.contractAddress } req.auth.message
        req.payload.signature.text = .ok recovered ∧
      HexText.lowerCase recovered = HexText.lowerCase req.auth.from.text) ∧
    ∀ event ∈ cfg.history, ∀ args config settleRequest, event.op = .chain (.submitOnChain args) →
      call event.who = .settle config settleRequest →
      settleRequest.paymentRequestId = result.paymentRequestId →
        args.assetAddress = some asset.contractAddress

/-- The asset is not named like an inherited property, or the network configures it all the same. -/
def OwnAsset (registry : NetworkRegistry) (req : VerifyRequest) : Prop :=
  req.asset ∈ inheritedProperties → ∀ network, registry req.network = some network →
    (network.assets.lookup req.asset).isSome = true

section Asset

variable {network : NetworkConfig} {asset : FoundAsset} {symbol : String}

theorem NetworkConfig.asset_of_lookup {found : AssetConfig}
    (h : network.assets.lookup symbol = some found) :
    network.asset symbol = some ⟨some found.contractAddress, some found.eip712Version⟩ := by
  rw [NetworkConfig.asset, h]

/-- What is found and is not configured is inherited. -/
theorem NetworkConfig.inherited_of_asset (hfound : network.asset symbol = some asset)
    (hnone : network.assets.lookup symbol = none) : symbol ∈ inheritedProperties := by
  rw [NetworkConfig.asset, hnone] at hfound
  by_contra hown
  rw [if_neg hown] at hfound
  cases hfound

/-- A settlement goes to the contract of the asset its request names. -/
theorem assetAddress_of_submitArgs {deps : SettleDeps} {request : PaymentRequest}
    {verification : PaymentVerification} {args : SubmitArgs}
    (h : submitArgs deps request verification = .ok args) :
    ∃ network asset, deps.networkRegistry request.network = some network ∧
      network.asset request.asset = some asset ∧ args.assetAddress = asset.contractAddress := by
  unfold submitArgs at h
  split at h
  · cases h
  · rename_i network hsupported
    split at h
    · cases h
    · rename_i asset hlisted
      split at h
      · cases h
      · obtain rfl := Except.ok.inj h
        exact ⟨network, asset, hsupported, hlisted, rfl⟩

end Asset

section Runs

variable {ι : Type} {faults : Faults} [DecidableEq ι] {host : Host} {registry : NetworkRegistry}
  {call : ι → PaymentCall} {start cfg : Config (machine ι faults) PaymentReply}

/-- In a deployment, an accepted payment has been checked. -/
theorem checked_of_accepted (hstart : PaymentStart host registry call start)
    (hreach : Config.Reachable Config.anyStep start cfg) {verifier : ι} {rawBody : Json}
    {req : VerifyRequest} {result : VerifyResult} (hverifier : call verifier = .verify rawBody)
    (hparse : parseVerifyRequest rawBody = .ok req)
    (haccepted : (cfg.calls verifier).result? = some (.ok (.verified result))) :
    ∃ nowMs network asset, Checked host registry req nowMs network asset := by
  have hsat : (start.calls verifier).Sat (anyAnswers verifier) (start.eventsOf verifier)
      fun _ outcome => ∀ result, outcome = .ok (.verified result) → ∃ req nowMs network asset,
        parseVerifyRequest rawBody = .ok req ∧ Checked host registry req nowMs network asset := by
    rw [hstart.calls, hverifier, PaymentCall.program, Config.eventsOf, hstart.history,
      Program.sat_bind']
    apply (checked_verifyPayment host registry rawBody).mono
    rintro events (error | result) hchecked
    · exact fun _ heq => by cases heq
    · rintro result' heq
      cases heq
      obtain ⟨req, nowMs, network, asset, hparse, -, hchecked⟩ := hchecked result rfl
      exact ⟨req, nowMs, network, asset, hparse, hchecked⟩
  obtain ⟨req', nowMs, network, asset, hparse', hchecked⟩ :=
    hreach.traced_result (fun _ _ _ _ _ _ _ => trivial) hsat haccepted result rfl
  obtain rfl : req = req' := by
    rw [hparse] at hparse'
    exact Except.ok.inj hparse'
  exact ⟨nowMs, network, asset, hchecked⟩

/-- **An acceptance is bound to an asset exactly if the asset is the network's own.** In every run of
verifications and settlements, an accepted payment names a configured asset, is signed for its contract
and settled through it, if and only if its asset is not an inherited property. -/
theorem asset_bound_iff (hstart : PaymentStart host registry call start)
    (hreach : Config.Reachable Config.anyStep start cfg) {verifier : ι} {rawBody : Json}
    {req : VerifyRequest} {result : VerifyResult} (hverifier : call verifier = .verify rawBody)
    (hparse : parseVerifyRequest rawBody = .ok req)
    (haccepted : (cfg.calls verifier).result? = some (.ok (.verified result))) :
    BoundToAsset host registry call cfg req result ↔ OwnAsset registry req := by
  obtain ⟨nowMs, network, found, hchecked⟩ :=
    checked_of_accepted hstart hreach hverifier hparse haccepted
  have hlookup : ∀ {asset : AssetConfig}, network.assets.lookup req.asset = some asset →
      found = ⟨some asset.contractAddress, some asset.eip712Version⟩ := by
    intro asset hasset
    exact Option.some.inj (hchecked.listed.symm.trans (network.asset_of_lookup hasset))
  constructor
  · rintro ⟨network', asset, hsupported, hasset, -⟩ - network'' hsupported'
    obtain rfl := Option.some.inj (hsupported.symm.trans hsupported')
    rw [hasset]
    rfl
  · intro hown
    cases hasset : network.assets.lookup req.asset with
    | none =>
        have hinherited := network.inherited_of_asset hchecked.listed hasset
        have hsome := hown hinherited network hchecked.supported
        rw [hasset] at hsome
        cases hsome
    | some asset =>
        obtain ⟨recovered, hrecovered, hsame⟩ := hchecked.signer
        obtain rfl := hlookup hasset
        refine ⟨network, asset, hchecked.supported, hasset, ⟨recovered, hrecovered, hsame⟩, ?_⟩
        intro event hevent args config settleRequest hargs hsettler hid
        obtain ⟨config', verificationId, hsubmit⟩ := submitted_accepted hstart hreach hverifier hparse
          haccepted hevent hargs hsettler hid
        obtain ⟨network', asset', hsupported, hlisted, haddress⟩ := assetAddress_of_submitArgs hsubmit
        obtain rfl := Option.some.inj (hchecked.supported.symm.trans hsupported)
        obtain rfl := Option.some.inj (hchecked.listed.symm.trans hlisted)
        exact haddress

end Runs

/-! ### One call on an empty store -/

section Samples

/-- A call that verifies a payment. -/
def acceptStart (req : VerifyRequest) : Config (machine Unit ⟨false, false⟩) PaymentReply where
  world := emptyWorld _
  calls _ := do return .verified (← verifyParsed trustingHost baseRegistry req)
  history := []

/-- The same without the other calls of a deployment. -/
def verifyOnlyStart (req : VerifyRequest) : Config (machine Unit ⟨false, false⟩) VerifyResult where
  world := emptyWorld _
  calls _ := verifyParsed trustingHost baseRegistry req
  history := []

/-- The payment passes every check and is stored. -/
def acceptMoves : List (Move (machine Unit ⟨false, false⟩)) :=
  [.call () (.text "req-0"), .call () (.time 1700000000000), .call () (.fate .done),
    .call () (.fate .done), .call () (.time 1700000000000), .call () (.text "ver-0"),
    .call () (.fate .done)]

def accepted? (cfg : Config (machine Unit ⟨false, false⟩) VerifyResult) : Option VerifyResult :=
  match (cfg.calls ()).result? with
  | some (.ok result) => some result
  | _ => none

theorem result?_of_accepted? {cfg : Config (machine Unit ⟨false, false⟩) VerifyResult}
    {result : VerifyResult} (h : accepted? cfg = some result) :
    (cfg.calls ()).result? = some (.ok result) := by
  unfold accepted? at h
  split at h
  · rename_i hresult
    rw [hresult, Option.some.inj h]
  · cases h

theorem exists_accepted {req : VerifyRequest}
    (h : ((verifyOnlyStart req).run acceptMoves).map (fun cfg => (accepted? cfg).isSome
      && firstReading (cfg.eventsOf ()) = some 1700000000000) = some true) :
    ∃ cfg result, Config.Reachable Config.anyStep (verifyOnlyStart req) cfg ∧
      (cfg.calls ()).result? = some (.ok result) ∧
      firstReading (cfg.eventsOf ()) = some 1700000000000 := by
  obtain ⟨cfg, hreach, htest⟩ := Config.exists_reachable_of_run h
  obtain ⟨hsome, hreading⟩ := Bool.and_eq_true_iff.mp htest
  obtain ⟨result, hresult⟩ := Option.isSome_iff_exists.mp hsome
  exact ⟨cfg, result, hreach, result?_of_accepted? hresult, of_decide_eq_true hreading⟩

theorem acceptance_sound_now : ∃ req, parseVerifyRequest (firstPayment 0).toJson = .ok req ∧
    Submittable trustingHost baseRegistry req 1700000000 := by
  obtain ⟨cfg, result, hreach, haccepted, hreading⟩ :=
    @exists_accepted (firstPayment 0) (by decide +kernel)
  have hcall : (verifyOnlyStart (firstPayment 0)).calls ()
      = verifyPayment trustingHost baseRegistry (firstPayment 0).toJson :=
    (verifyPayment_toJson trustingHost baseRegistry (firstPayment 0)).symm
  obtain ⟨req, nowMs, hparse, hreading', hiff⟩ := acceptance_sound_iff hcall
    (fun event hevent => absurd hevent List.not_mem_nil) hreach haccepted
  rw [hreading] at hreading'
  obtain rfl := Option.some.inj hreading'
  refine ⟨req, hparse, hiff.mpr ?_⟩
  rw [parseVerifyRequest_toJson] at hparse
  obtain rfl := Except.ok.inj hparse
  exact Nat.zero_le _

/-- A payment that is valid from 2027 on is accepted in 2023. -/
theorem accepted_too_early : ∃ cfg result,
    Config.Reachable Config.anyStep (verifyOnlyStart (firstPayment 1800000000)) cfg ∧
    (cfg.calls ()).result? = some (.ok result) ∧
    firstReading (cfg.eventsOf ()) = some 1700000000000 ∧
    ¬Submittable trustingHost baseRegistry (firstPayment 1800000000) (1700000000000 / 1000) := by
  obtain ⟨cfg, result, hreach, haccepted, hreading⟩ :=
    @exists_accepted (firstPayment 1800000000) (by decide +kernel)
  exact ⟨cfg, result, hreach, haccepted, hreading, fun h => absurd h.after (by decide)⟩

/-- A payment in what every object can do. -/
def constructorPayment : VerifyRequest :=
  { firstPayment 0 with
    asset := "constructor"
    asset_ne := by decide }

theorem paymentStart_acceptStart (req : VerifyRequest) :
    PaymentStart trustingHost baseRegistry (fun _ => .verify req.toJson) (acceptStart req) where
  calls _ := by
    rw [PaymentCall.program, verifyPayment_toJson]
    rfl
  history := rfl
  linked := ⟨List.nodup_nil, fun _ hnone => by cases hnone⟩

def verified? (cfg : Config (machine Unit ⟨false, false⟩) PaymentReply) : Option VerifyResult :=
  match (cfg.calls ()).result? with
  | some (.ok (.verified result)) => some result
  | _ => none

theorem exists_verified {req : VerifyRequest}
    (h : ((acceptStart req).run acceptMoves).map (fun cfg => (verified? cfg).isSome) = some true) :
    ∃ cfg result, Config.Reachable Config.anyStep (acceptStart req) cfg ∧
      (cfg.calls ()).result? = some (.ok (.verified result)) := by
  obtain ⟨cfg, hreach, htest⟩ := Config.exists_reachable_of_run h
  obtain ⟨result, hresult⟩ := Option.isSome_iff_exists.mp htest
  refine ⟨cfg, result, hreach, ?_⟩
  unfold verified? at hresult
  split at hresult
  · rename_i heq
    rw [heq, Option.some.inj hresult]
  · cases hresult

theorem asset_bound_usdc : ∃ cfg result,
    BoundToAsset trustingHost baseRegistry (fun _ => .verify (firstPayment 0).toJson)
      (cfg : Config (machine Unit ⟨false, false⟩) PaymentReply) (firstPayment 0) result := by
  obtain ⟨cfg, result, hreach, haccepted⟩ := @exists_verified (firstPayment 0) (by decide +kernel)
  refine ⟨cfg, result, (asset_bound_iff (paymentStart_acceptStart (firstPayment 0)) hreach rfl
    (parseVerifyRequest_toJson _) haccepted).mpr ?_⟩
  intro hinherited
  exact absurd hinherited (by decide)

/-- Signed for no contract at all, it is accepted. -/
theorem accepted_unbound : ∃ cfg result,
    Config.Reachable Config.anyStep (acceptStart constructorPayment) cfg ∧
    (cfg.calls ()).result? = some (.ok (.verified result)) ∧
    ¬BoundToAsset trustingHost baseRegistry (fun _ => .verify constructorPayment.toJson) cfg
      constructorPayment result := by
  obtain ⟨cfg, result, hreach, haccepted⟩ := @exists_verified constructorPayment
    (by decide +kernel)
  refine ⟨cfg, result, hreach, haccepted, ?_⟩
  rintro ⟨network, asset, hsupported, hasset, -⟩
  have hnone : (baseRegistry "base").bind (fun network => network.assets.lookup "constructor") = none := by
    decide
  change baseRegistry "base" = some network at hsupported
  rw [hsupported, Option.bind_some] at hnone
  rw [show network.assets.lookup "constructor" = some asset from hasset] at hnone
  cases hnone

end Samples

end Payment

end FacilitatorX402
