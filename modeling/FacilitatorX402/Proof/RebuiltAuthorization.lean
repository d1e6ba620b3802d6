import FacilitatorX402.Proof.SignatureSplit
import FacilitatorX402.Proof.StoredPayment

/-!
# From the signed authorization to the arguments on chain

A payment is taken apart when it is verified, kept in two rows, and rebuilt from them when it is
settled. Rows of requests and of verifications are neither changed nor lost, and a request has only
the verification it was stored with. What is rebuilt is then the signed authorization in every field
but `validAfter`, which no row keeps.
-/

namespace FacilitatorX402

open Interact KeyedRows

namespace Payment

/-- The arguments are the signed authorization: every field, and the bytes of the signature. -/
structure Rebuilds (args : SubmitArgs) (payload : VerifyPayload) : Prop where
  «from» : args.from = payload.authorization.from.text
  «to» : args.to = some payload.authorization.to.text
  value : args.value = payload.authorization.value.value
  validAfter : args.validAfter = payload.authorization.validAfter
  validBefore : args.validBefore = payload.authorization.validBefore
  nonce : args.nonce = payload.authorization.nonce.text
  bytes : hexBytes args.signature = payload.signature.bytes
  split : splitSignature args.signature = splitSignature payload.signature.text

/-! ### The tables -/

/-- Ids of requests are unique, and every verification belongs to a request. -/
structure Db.Linked (db : Db) : Prop where
  requests : Unique (·.id) db.requests
  foreign : ∀ verification ∈ db.verifications, ∃ request ∈ db.requests,
    request.id = verification.requestId

/-- The request is stored, with this verification and no other. -/
def Db.Holds (db : Db) (request : PaymentRequest) (verification : PaymentVerification) : Prop :=
  request ∈ db.requests ∧
    ∀ other ∈ db.verifications, other.requestId = request.id → other = verification

/-- The request and the verification are rows, and belong together. -/
def Db.Joins (db : Db) (request : PaymentRequest) (verification : PaymentVerification) : Prop :=
  request ∈ db.requests ∧ verification ∈ db.verifications ∧ verification.requestId = request.id

namespace Db

variable {db : Db} {request : PaymentRequest} {verification : PaymentVerification}

theorem Joins.createVerified (h : db.Joins request verification) (request' : PaymentRequest)
    (verification' : PaymentVerification) :
    (db.createVerified request' verification').Joins request verification :=
  ⟨List.mem_append_left _ h.1, List.mem_append_left _ h.2.1, h.2.2⟩

theorem fresh_of_canVerify (hcan : db.canVerify request verification = true) :
    ∀ other ∈ db.requests, other.id ≠ request.id := by
  simp only [canVerify, Bool.and_eq_true, List.all_eq_true, decide_eq_true_eq] at hcan
  exact hcan.1.2

theorem Linked.createVerified (h : db.Linked) (hcan : db.canVerify request verification = true)
    (hrequest : verification.requestId = request.id) :
    (db.createVerified request verification).Linked where
  requests := h.requests.append (fresh_of_canVerify hcan)
  foreign := by
    intro other hother
    rcases List.mem_append.mp hother with hold | hnew
    · obtain ⟨owner, howner, hid⟩ := h.foreign other hold
      exact ⟨owner, List.mem_append_left _ howner, hid⟩
    · rw [List.mem_singleton.mp hnew]
      exact ⟨request, List.mem_append_right _ (List.mem_singleton_self _), hrequest.symm⟩

/-- A new request leaves the others with the verifications they have. -/
theorem Holds.createVerified (h : db.Holds request verification) {request' : PaymentRequest}
    {verification' : PaymentVerification} (hcan : db.canVerify request' verification' = true)
    (hrequest : verification'.requestId = request'.id) :
    (db.createVerified request' verification').Holds request verification := by
  refine ⟨List.mem_append_left _ h.1, fun other hother hsame => ?_⟩
  rcases List.mem_append.mp hother with hold | hnew
  · exact h.2 other hold hsame
  · rw [List.mem_singleton.mp hnew] at hsame
    exact absurd (hsame.symm.trans hrequest) (fresh_of_canVerify hcan request h.1)

/-- A request that has just been stored has only the verification it was stored with. -/
theorem Linked.holds_createVerified (h : db.Linked)
    (hcan : db.canVerify request verification = true) :
    (db.createVerified request verification).Holds request verification := by
  refine ⟨List.mem_append_right _ (List.mem_singleton_self _), fun other hother hsame => ?_⟩
  rcases List.mem_append.mp hother with hold | hnew
  · obtain ⟨owner, howner, hid⟩ := h.foreign other hold
    exact absurd (hid.trans hsame) (fresh_of_canVerify hcan owner howner)
  · exact List.mem_singleton.mp hnew

theorem Holds.eq_of_joins (h : db.Holds request verification) (hlinked : db.Linked)
    {request' : PaymentRequest} {verification' : PaymentVerification}
    (hjoins : db.Joins request' verification') (hid : request'.id = request.id) :
    request' = request ∧ verification' = verification :=
  ⟨hlinked.requests.eq hjoins.1 h.1 hid, h.2 verification' hjoins.2.1 (hjoins.2.2.trans hid)⟩

theorem joins_of_requestWithVerifications {id : String} {verifications : List PaymentVerification}
    (h : db.requestWithVerifications id = some (request, verification :: verifications)) :
    db.Joins request verification ∧ request.id = id := by
  obtain ⟨found, hfound, heq⟩ := Option.map_eq_some_iff.mp h
  obtain ⟨rfl, hrows⟩ := Prod.mk.inj heq
  have hid : found.id = id := by simpa using List.find?_some hfound
  have hmem : verification ∈ db.verifications.filter fun verification =>
      verification.requestId = id ∧ verification.verificationStatus = .accepted := by
    rw [hrows]
    exact List.mem_cons_self
  obtain ⟨hverification, hboth⟩ := List.mem_filter.mp hmem
  refine ⟨⟨List.mem_of_find?_eq_some hfound, hverification, ?_⟩, hid⟩
  rw [hid]
  exact (of_decide_eq_true hboth).1

end Db

/-! ### Runs of both kinds of calls -/

section Runs

variable {ι : Type} {faults : Faults}

/-- Only a verification writes requests and verifications. -/
theorem exec_verified_cases {who : ι} {world world' : World ι} {op : Op} {outcome : Outcome}
    {answer : Except Err (interface.Ans op)}
    (h : (machine ι faults).exec who world op outcome = some (answer, world')) :
    (world'.db.requests = world.db.requests ∧ world'.db.verifications = world.db.verifications) ∨
      ∃ request verification, op = .createVerified request verification ∧
        world.db.canVerify request verification = true ∧
        world'.db = world.db.createVerified request verification := by
  cases op with
  | createVerified request verification =>
      rcases exec_createVerified h with ⟨hcan, rfl⟩ | ⟨-, rfl⟩
      · exact .inr ⟨request, verification, rfl, hcan, rfl⟩
      · exact .inl ⟨rfl, rfl⟩
  | redis command => exact .inl (by rw [(exec_redis h).2]; exact ⟨rfl, rfl⟩)
  | chain op => exact .inl (by rw [(exec_chain h).2.1]; exact ⟨rfl, rfl⟩)
  | now => exact .inl (by rw [(exec_now h).1]; exact ⟨rfl, rfl⟩)
  | generateId => exact .inl (by rw [(exec_generateId h).1]; exact ⟨rfl, rfl⟩)
  | findPaymentRequest id => exact .inl (by rw [(exec_findPaymentRequest h).1]; exact ⟨rfl, rfl⟩)
  | findConfirmedSettlement requestId =>
      exact .inl (by rw [(exec_findConfirmedSettlement h).1]; exact ⟨rfl, rfl⟩)
  | createSettlement row =>
      rcases exec_createSettlement h with ⟨-, rfl⟩ | ⟨-, rfl⟩ <;> exact .inl ⟨rfl, rfl⟩
  | failSettlement id => rcases exec_failSettlement h with rfl | ⟨-, rfl⟩ <;> exact .inl ⟨rfl, rfl⟩
  | confirmSettlement id data receipt =>
      rcases statement_cases (statement_of_transaction h) with ⟨-, rfl, -⟩ | ⟨-, rfl⟩ <;>
        exact .inl ⟨rfl, rfl⟩

/-- Calls that have not begun, on linked tables. -/
structure PaymentStart (host : Host) (registry : NetworkRegistry) (call : ι → PaymentCall)
    (cfg : Config (machine ι faults) PaymentReply) : Prop where
  calls : ∀ who, cfg.calls who = (call who).program host registry
  history : cfg.history = []
  linked : cfg.world.db.Linked

/-- The tables are linked, every call has stored or read what its stage says, and what was submitted
was rebuilt from what its call has read. -/
structure SourceInv (host : Host) (registry : NetworkRegistry) (call : ι → PaymentCall)
    (cfg : Config (machine ι faults) PaymentReply) (stage : ι → Stage) : Prop where
  linked : cfg.world.db.Linked
  stored : ∀ who request verification, stage who = .stored request verification →
    cfg.world.db.Holds request verification
  read : ∀ who request verification, stage who = .read request verification →
    cfg.world.db.Joins request verification ∧
      ∃ config req, call who = .settle config req ∧ request.id = req.paymentRequestId
  submitted : ∀ event ∈ cfg.history, ∀ args, event.op = .chain (.submitOnChain args) →
    ∃ config req request verification, call event.who = .settle config req ∧
      stage event.who = .read request verification ∧
      submitArgs { host := host, networkRegistry := registry, config := config } request verification
        = .ok args

abbrev PaymentFollows (host : Host) (registry : NetworkRegistry) (call : ι → PaymentCall)
    (cfg : Config (machine ι faults) PaymentReply) (stage : ι → Stage) : Prop :=
  Config.Follows (fun who => callRules host registry (call who)) (fun who => callPost host (call who))
    (SourceInv host registry call) cfg stage

variable [DecidableEq ι] {host : Host} {registry : NetworkRegistry} {call : ι → PaymentCall}
  {start cfg : Config (machine ι faults) PaymentReply}

/-- Having read or stored a payment, a call keeps to it. -/
theorem PaymentCall.Allowed.next_read {call : PaymentCall} {stage : Stage} {op : Op}
    (h : call.Allowed host registry stage op) {config : FacilitatorConfig} {req : SettleRequest}
    (hcall : call = .settle config req) {request : PaymentRequest}
    {verification : PaymentVerification} (hstage : stage = .read request verification)
    (answer : Except Err (interface.Ans op)) : stage.next op answer = .read request verification := by
  subst hstage
  cases op with
  | createVerified request verification =>
      obtain ⟨rawBody, requestId, hverify, -⟩ := h
      rw [hcall] at hverify
      cases hverify
  | findPaymentRequest id =>
      obtain ⟨hbegun, -⟩ := h
      cases hbegun
  | _ => rfl

theorem SourceInv.step {stage : ι → Stage} {who : ι} {op : Op}
    {next : Except Err (interface.Ans op) → PaymentProgram PaymentReply}
    {answer : Except Err (interface.Ans op)} {world : World ι}
    (h : SourceInv host registry call cfg stage)
    (hallowed : (call who).Allowed host registry (stage who) op) {outcome : Outcome}
    (hexec : (machine ι faults).exec who cfg.world op outcome = some (answer, world)) :
    SourceInv host registry call (cfg.perform who op next answer world)
      (Function.update stage who ((stage who).next op answer)) := by
  -- what the step does to the tables, and that it keeps what the calls rely on
  have htables : world.db.Linked ∧
      (∀ request verification, cfg.world.db.Holds request verification →
        world.db.Holds request verification) ∧
      ∀ request verification, cfg.world.db.Joins request verification →
        world.db.Joins request verification := by
    rcases exec_verified_cases hexec with ⟨hrequests, hverifications⟩ |
      ⟨request, verification, rfl, hcan, hdb⟩
    · refine ⟨⟨?_, ?_⟩, ?_, ?_⟩
      · rw [hrequests]
        exact h.linked.requests
      · rw [hrequests, hverifications]
        exact h.linked.foreign
      · intro request verification hholds
        rw [Db.Holds, hrequests, hverifications]
        exact hholds
      · intro request verification hjoins
        rw [Db.Joins, hrequests, hverifications]
        exact hjoins
    · obtain ⟨rawBody, requestId, -, req, verificationId, -, rfl, rfl⟩ := hallowed
      rw [hdb]
      exact ⟨h.linked.createVerified hcan rfl, fun _ _ hholds => hholds.createVerified hcan rfl,
        fun _ _ hjoins => hjoins.createVerified _ _⟩
  refine ⟨htables.1, ?_, ?_, ?_⟩
  · intro other request verification hstage
    by_cases heq : other = who
    · subst heq
      rw [Function.update_self] at hstage
      by_cases hcreate : ∃ request verification, op = .createVerified request verification
      · obtain ⟨request', verification', rfl⟩ := hcreate
        rcases answer with error | created
        · exact htables.2.1 _ _ (h.stored other request verification hstage)
        · cases hstage
          rcases exec_createVerified hexec with ⟨hcan, rfl⟩ | ⟨⟨error, herror⟩, -⟩
          · exact h.linked.holds_createVerified hcan
          · cases herror
      · have hbefore : stage other = .stored request verification := by
          cases op with
          | createVerified request verification => exact absurd ⟨_, _, rfl⟩ hcreate
          | findPaymentRequest id =>
              rcases answer with error | _ | ⟨found, _ | ⟨verification', verifications⟩⟩
              · exact hstage
              · exact hstage
              · exact hstage
              · cases hstage
          | _ => exact hstage
        exact htables.2.1 _ _ (h.stored other request verification hbefore)
    · rw [Function.update_of_ne heq] at hstage
      exact htables.2.1 _ _ (h.stored other request verification hstage)
  · intro other request verification hstage
    by_cases heq : other = who
    · subst heq
      rw [Function.update_self] at hstage
      by_cases hfind : ∃ id, op = .findPaymentRequest id
      · obtain ⟨id, rfl⟩ := hfind
        obtain ⟨hbegun, config, req, hcall, rfl⟩ := hallowed
        rw [hbegun] at hstage
        obtain ⟨rfl, hanswer | ⟨error, rfl⟩⟩ := exec_findPaymentRequest hexec
        · rcases answer with error | _ | ⟨found, _ | ⟨verification', verifications⟩⟩
          · cases hstage
          · cases hstage
          · cases hstage
          · cases hstage
            obtain ⟨hjoins, hid⟩ := Db.joins_of_requestWithVerifications (Except.ok.inj hanswer).symm
            exact ⟨hjoins, config, req, hcall, hid⟩
        · cases hstage
      · have hbefore : stage other = .read request verification := by
          cases op with
          | findPaymentRequest id => exact absurd ⟨_, rfl⟩ hfind
          | createVerified request' verification' =>
              rcases answer with error | created
              · exact hstage
              · cases hstage
          | _ => exact hstage
        obtain ⟨hjoins, hcall⟩ := h.read other request verification hbefore
        exact ⟨htables.2.2 _ _ hjoins, hcall⟩
    · rw [Function.update_of_ne heq] at hstage
      obtain ⟨hjoins, hcall⟩ := h.read other request verification hstage
      exact ⟨htables.2.2 _ _ hjoins, hcall⟩
  · intro event hevent args hargs
    rcases List.mem_cons.mp hevent with rfl | hbefore
    · obtain rfl : op = .chain (.submitOnChain args) := hargs
      have hsource := hallowed
      obtain ⟨config, req, request, verification, hcall, hstage, hsubmit⟩ := hsource
      refine ⟨config, req, request, verification, hcall, ?_, hsubmit⟩
      rw [Function.update_self]
      exact PaymentCall.Allowed.next_read hallowed hcall hstage answer
    · obtain ⟨config, req, request, verification, hcall, hstage, hsubmit⟩ :=
        h.submitted event hbefore args hargs
      refine ⟨config, req, request, verification, hcall, ?_, hsubmit⟩
      by_cases heq : event.who = who
      · rw [heq] at hcall hstage ⊢
        rw [Function.update_self]
        exact PaymentCall.Allowed.next_read hallowed hcall hstage answer
      · rw [Function.update_of_ne heq]
        exact hstage

theorem preserved_source :
    Config.Preserved (M := machine ι faults) (fun who => callRules host registry (call who))
      (fun who => callPost host (call who)) (SourceInv host registry call) Config.anyStep where
  call _ _ _ _ _ _ _ _ hfollows _ hallowed hexec _ :=
    ⟨_, rfl, hfollows.inv.step hallowed hexec⟩
  env cfg stage event world hfollows henv := by
    have hdb := machine_env_db henv
    have hinv := hfollows.inv
    exact ⟨hdb ▸ hinv.linked, hdb ▸ hinv.stored, hdb ▸ hinv.read, hinv.submitted⟩

omit [DecidableEq ι] in
theorem PaymentStart.follows (h : PaymentStart host registry call start) :
    PaymentFollows host registry call start fun _ => .begun where
  sat who := by
    rw [h.calls who]
    exact sat_paymentCall (call who)
  inv :=
    { linked := h.linked
      stored := fun _ _ _ hstage => by cases hstage
      read := fun _ _ _ hstage => by cases hstage
      submitted := fun event hevent => by
        rw [h.history] at hevent
        cases hevent }

end Runs

/-! ### Fields that survive the tables -/

theorem floorSeconds_ofSeconds {seconds : Nat} {floor : Int}
    (h : (JsDate.ofSeconds seconds).floorSeconds = some floor) : floor = seconds := by
  unfold JsDate.ofSeconds at h
  split at h
  · have hfloor : (seconds : Int) * 1000 / 1000 = floor := Option.some.inj h
    omega
  · cases h

theorem splitSignature_congr {left right : String} (h : hexBytes left = hexBytes right) :
    splitSignature left = splitSignature right := by
  simp only [splitSignature, h]

/-- The arguments rebuilt from the rows of a payload are its authorization, but for `validAfter`. -/
theorem rebuilds_submitArgs_iff {host : Host} {deps : SettleDeps} {req : VerifyRequest}
    {requestId verificationId : String} {args : SubmitArgs}
    (h : submitArgs deps (acceptedRequest req requestId)
      (acceptedVerification host req verificationId requestId
        (computeSignatureHash req.payload.signature.text)) = .ok args) :
    Rebuilds args req.payload ↔ req.auth.validAfter = 0 := by
  unfold submitArgs at h
  split at h
  · cases h
  split at h
  · cases h
  split at h
  · cases h
  rename_i validBefore hbefore
  obtain rfl := Except.ok.inj h
  constructor
  · intro hrebuilds
    have hafter : (0 : Int) = (req.auth.validAfter : Int) := hrebuilds.validAfter
    omega
  · intro hzero
    have hbytes := hexBytes_signatureHash req.payload.signature
    refine ⟨rfl, rfl, rfl, ?_, floorSeconds_ofSeconds hbefore, rfl, hbytes,
      splitSignature_congr hbytes⟩
    change (0 : Int) = (req.auth.validAfter : Int)
    omega

section Runs

variable {ι : Type} {faults : Faults} [DecidableEq ι] {host : Host} {registry : NetworkRegistry}
  {call : ι → PaymentCall} {start cfg : Config (machine ι faults) PaymentReply}

/-- A settlement of an accepted payment submits what it rebuilds from the rows of that payment. -/
theorem submitted_accepted (hstart : PaymentStart host registry call start)
    (hreach : Config.Reachable Config.anyStep start cfg) {verifier : ι} {rawBody : Json}
    {vreq : VerifyRequest} {result : VerifyResult} (hverifier : call verifier = .verify rawBody)
    (hparse : parseVerifyRequest rawBody = .ok vreq)
    (haccepted : (cfg.calls verifier).result? = some (.ok (.verified result)))
    {event : Event interface Err ι} (hevent : event ∈ cfg.history) {args : SubmitArgs}
    (hargs : event.op = .chain (.submitOnChain args)) {config : FacilitatorConfig}
    {req : SettleRequest} (hsettler : call event.who = .settle config req)
    (hsame : req.paymentRequestId = result.paymentRequestId) :
    ∃ config verificationId, submitArgs { host := host, networkRegistry := registry, config := config }
      (acceptedRequest vreq result.paymentRequestId)
      (acceptedVerification host vreq verificationId result.paymentRequestId
        (computeSignatureHash vreq.payload.signature.text)) = .ok args := by
  obtain ⟨stage, hfollows⟩ := hreach.follows preserved_source hstart.follows
  obtain ⟨rawBody', request, verification, hcall, hstage, hstored⟩ :=
    hfollows.of_result haccepted result rfl
  obtain rfl : rawBody = rawBody' := by
    rw [hverifier] at hcall
    exact PaymentCall.verify.inj hcall
  have hholds := hfollows.inv.stored verifier request verification hstage
  obtain ⟨vreq', verificationId, hparse', rfl, rfl⟩ := hstored
  obtain rfl : vreq = vreq' := by
    rw [hparse] at hparse'
    exact Except.ok.inj hparse'
  obtain ⟨config', req', request, verification, hcall', hread, hsubmit⟩ :=
    hfollows.inv.submitted event hevent args hargs
  obtain ⟨hjoins, config'', req'', hcall'', hid⟩ :=
    hfollows.inv.read event.who request verification hread
  obtain rfl : req = req'' := by
    rw [hsettler] at hcall''
    exact (PaymentCall.settle.inj hcall'').2
  obtain ⟨rfl, rfl⟩ := hholds.eq_of_joins hfollows.inv.linked hjoins (hid.trans hsame)
  exact ⟨config', verificationId, hsubmit⟩

/-- **The rebuilt authorization.** What a settlement submits for a payment that a verification has
accepted is the signed authorization with its signature, exactly if its `validAfter` is zero. -/
theorem rebuilds_iff (hstart : PaymentStart host registry call start)
    (hreach : Config.Reachable Config.anyStep start cfg) {verifier : ι} {rawBody : Json}
    {vreq : VerifyRequest} {result : VerifyResult} (hverifier : call verifier = .verify rawBody)
    (hparse : parseVerifyRequest rawBody = .ok vreq)
    (haccepted : (cfg.calls verifier).result? = some (.ok (.verified result)))
    {event : Event interface Err ι} (hevent : event ∈ cfg.history) {args : SubmitArgs}
    (hargs : event.op = .chain (.submitOnChain args)) {config : FacilitatorConfig}
    {req : SettleRequest} (hsettler : call event.who = .settle config req)
    (hsame : req.paymentRequestId = result.paymentRequestId) :
    Rebuilds args vreq.payload ↔ vreq.auth.validAfter = 0 := by
  obtain ⟨config', verificationId, hsubmit⟩ := submitted_accepted hstart hreach hverifier hparse
    haccepted hevent hargs hsettler hsame
  exact rebuilds_submitArgs_iff hsubmit

end Runs

/-! ### A verification and its settlement -/

section Schedules

abbrev TwoCalls := Config (machine (Fin 2) ⟨false, false⟩) PaymentReply

/-- Call 0 verifies a payment, and call 1 settles it. -/
def paymentCall (validAfter : Nat) (who : Fin 2) : PaymentCall :=
  if who.val = 0 then .verify (firstPayment validAfter).toJson
  else .settle sampleDeps.config sampleRequest

def paymentStart (validAfter : Nat) : TwoCalls where
  world := emptyWorld _
  calls who :=
    if who.val = 0 then do
      return .verified (← verifyParsed trustingHost baseRegistry (firstPayment validAfter))
    else do return .settled (← settlePayment sampleDeps sampleRequest)
  history := []

theorem paymentStart_start (validAfter : Nat) :
    PaymentStart trustingHost baseRegistry (paymentCall validAfter) (paymentStart validAfter) where
  calls
    | 0 => by
        change _ = PaymentCall.program _ _ (.verify (firstPayment validAfter).toJson)
        rw [PaymentCall.program, verifyPayment_toJson]
        rfl
    | 1 => rfl
  history := rfl
  linked := ⟨List.nodup_nil, nofun⟩

/-- The verification is accepted, and the settlement enters `submitOnChain`. -/
def verifyThenSubmit (verifier settler : Fin 2) : List (Move (machine (Fin 2) ⟨false, false⟩)) :=
  [.call verifier (.text "req-0"), .call verifier (.time 1700000000000),
    .call verifier (.fate .done), .call verifier (.fate .done),
    .call verifier (.time 1700000000000), .call verifier (.text "ver-0"),
    .call verifier (.fate .done)]
    ++ lookups settler ++ lockAndCreate settler "set-0" ++ [.call settler (.fate .done)]

/-- The id an accepted verification returned. -/
def acceptedId (cfg : TwoCalls) (who : Fin 2) : Option String :=
  match (cfg.calls who).result? with
  | some (.ok (.verified result)) => some result.paymentRequestId
  | _ => none

/-- The arguments of the operation performed last, if it enters `submitOnChain`. -/
def lastSubmitted (cfg : TwoCalls) : Option (Fin 2 × SubmitArgs) :=
  match cfg.history with
  | ⟨who, .chain (.submitOnChain args), _⟩ :: _ => some (who, args)
  | _ => none

theorem accepted_of_acceptedId {cfg : TwoCalls} {who : Fin 2} {id : String}
    (h : acceptedId cfg who = some id) : ∃ result,
      (cfg.calls who).result? = some (.ok (.verified result)) ∧ result.paymentRequestId = id := by
  unfold acceptedId at h
  split at h
  · rename_i result hresult
    exact ⟨result, hresult, Option.some.inj h⟩
  · cases h

theorem event_of_lastSubmitted {cfg : TwoCalls} {who : Fin 2} {args : SubmitArgs}
    (h : lastSubmitted cfg = some (who, args)) :
    ∃ event ∈ cfg.history, event.who = who ∧ event.op = .chain (.submitOnChain args) := by
  unfold lastSubmitted at h
  split at h
  · rename_i hhistory
    obtain ⟨rfl, rfl⟩ := Prod.mk.inj (Option.some.inj h)
    exact ⟨_, hhistory ▸ List.mem_cons_self, rfl, rfl⟩
  · cases h

theorem rebuilds_fromZero :
    ∃ (cfg : TwoCalls) (event : Event interface Err (Fin 2)) (args : SubmitArgs),
      event ∈ cfg.history ∧ event.op = .chain (.submitOnChain args) ∧
        Rebuilds args (firstPayment 0).payload := by
  obtain ⟨cfg, hreach, htest⟩ := Config.exists_reachable_of_run
    (show ((paymentStart 0).run (verifyThenSubmit 0 1)).map (fun cfg =>
      acceptedId cfg 0 = some "req-0" && (lastSubmitted cfg).any (·.1 = 1)) = some true by
        decide +kernel)
  simp only [Bool.and_eq_true, decide_eq_true_eq, Option.any_eq_true] at htest
  obtain ⟨result, haccepted, hid⟩ := accepted_of_acceptedId htest.1
  obtain ⟨⟨who, args⟩, hsubmitted, rfl⟩ := htest.2
  obtain ⟨event, hevent, hwho, hargs⟩ := event_of_lastSubmitted hsubmitted
  have hiff := rebuilds_iff (paymentStart_start 0) hreach rfl
    (parseVerifyRequest_toJson _) haccepted hevent hargs (by rw [hwho]; rfl) hid.symm
  exact ⟨cfg, event, args, hevent, hargs, hiff.mpr rfl⟩

/-- A payment that is valid from second 5 on is submitted as valid from the beginning. -/
theorem not_rebuilds_fromFive :
    ∃ (cfg : TwoCalls) (result : VerifyResult) (event : Event interface Err (Fin 2))
      (args : SubmitArgs), Config.Reachable Config.anyStep (paymentStart 5) cfg ∧
      (cfg.calls 0).result? = some (.ok (.verified result)) ∧
      result.paymentRequestId = sampleRequest.paymentRequestId ∧
      event ∈ cfg.history ∧ event.who = 1 ∧ event.op = .chain (.submitOnChain args) ∧
      ¬Rebuilds args (firstPayment 5).payload := by
  obtain ⟨cfg, hreach, htest⟩ := Config.exists_reachable_of_run
    (show ((paymentStart 5).run (verifyThenSubmit 0 1)).map (fun cfg =>
      acceptedId cfg 0 = some "req-0"
        && (lastSubmitted cfg).any fun (who, args) => who = 1 && args.validAfter = 0) = some true by
          decide +kernel)
  simp only [Bool.and_eq_true, decide_eq_true_eq, Option.any_eq_true] at htest
  obtain ⟨result, haccepted, hid⟩ := accepted_of_acceptedId htest.1
  obtain ⟨⟨who, args⟩, hsubmitted, rfl, hzero⟩ := htest.2
  obtain ⟨event, hevent, hwho, hargs⟩ := event_of_lastSubmitted hsubmitted
  refine ⟨cfg, result, event, args, hreach, haccepted, hid, hevent, hwho, hargs, fun h => ?_⟩
  have hafter : args.validAfter = 5 := h.validAfter
  rw [hzero] at hafter
  cases hafter

end Schedules

end Payment

end FacilitatorX402
