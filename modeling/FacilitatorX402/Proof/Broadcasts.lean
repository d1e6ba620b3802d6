import FacilitatorX402.Library.Trace
import FacilitatorX402.Settlement.OnChain

/-!
# One broadcast for each submission

The loop over the endpoints broadcasts, waits and looks at the receipt in one try statement. Whatever
fails in it, the next endpoint broadcasts again, also when the transaction of the one before is already
out. Which endpoints a submission comes to is decided by their answers alone.
-/

namespace FacilitatorX402

open Interact

namespace OnChain

/-- An endpoint, with its answer to a broadcast and its answer to the wait that follows. -/
structure Endpoint where
  rpcUrl : String
  broadcast : Except Err String
  receipt : Except Err TxReceipt

/-- The endpoint in use, and those not yet tried. -/
structure Endpoints where
  current : Option Endpoint
  untried : List Endpoint

/-- Every broadcast is answered by the next endpoint, every wait by the one in use. -/
def Endpoints.answer (endpoints : Endpoints) : (op : ChainOp) → Except Err op.Ans × Endpoints
  | .submitOnChain _ => (.ok (), endpoints)
  | .submitOnChainEnd => (.ok (), endpoints)
  | .writeContract _ =>
      match endpoints.untried with
      | [] => (.error (.raised "no endpoint"), endpoints)
      | endpoint :: untried =>
          (endpoint.broadcast, { current := some endpoint, untried := untried })
  | .waitForTransactionReceipt _ _ =>
      match endpoints.current with
      | none => (.error (.raised "no endpoint"), endpoints)
      | some endpoint => (endpoint.receipt, endpoints)

abbrev ChainEvent := Event chainInterface Err Unit

abbrev Submission := Performed chainInterface Err Endpoints OnChainResult

/-- A program run against these endpoints. -/
def submission (program : Program chainInterface Err OnChainResult) (endpoints : List Endpoint) :
    Submission :=
  program.against Endpoints.answer { current := none, untried := endpoints }

def IsBroadcast (event : ChainEvent) : Prop := ∃ transfer, event.op = .writeContract transfer

/-- The endpoint has returned a hash. -/
def HasBroadcast (event : ChainEvent) : Prop :=
  ∃ transfer hash, event = ⟨(), .writeContract transfer, .ok hash⟩

/-- Once a hash has been returned, nothing is broadcast any more. -/
def BroadcastsOnce (events : List ChainEvent) : Prop :=
  events.Pairwise fun event later => HasBroadcast event → ¬IsBroadcast later

/-- The receipt of this transaction has been obtained, and it is not that of a reverted one. -/
def Obtained (events : List ChainEvent) (txHash : String) : Prop :=
  ∃ rpcUrl receipt, (⟨(), .waitForTransactionReceipt rpcUrl txHash, .ok receipt⟩ : ChainEvent) ∈ events ∧
    receipt.status ≠ .reverted

/-- The endpoint's transaction is out, and its receipt is not to be had or says that it was reverted. -/
def Endpoint.Wastes (endpoint : Endpoint) : Prop :=
  (∃ hash, endpoint.broadcast = .ok hash) ∧
    ∀ receipt, endpoint.receipt = .ok receipt → receipt.status = .reverted

/-- The first endpoint to return a hash does not waste it, unless it is the last one. -/
def NoneWasted (endpoints : List Endpoint) : Prop :=
  ∀ endpoint after, endpoints.dropWhile (fun other => !other.broadcast.isOk) = endpoint :: after →
    after ≠ [] → ¬endpoint.Wastes

section Loop

variable {args : SubmitArgs} {endpoint : Endpoint} {endpoints : List Endpoint}
  {current : Option Endpoint} {lastError : Option Err}

/-- The loop over these endpoints, with some endpoint in use before it. -/
def loopFrom (args : SubmitArgs) (lastError : Option Err) (current : Option Endpoint)
    (endpoints : List Endpoint) : Submission :=
  (submitLoop args (endpoints.map (·.rpcUrl)) lastError).against Endpoints.answer
    { current := current, untried := endpoints }

/-- The events of an iteration in which the endpoint refuses the broadcast. -/
def refusal (args : SubmitArgs) (rpcUrl : String) (error : Err) : List ChainEvent :=
  [⟨(), .writeContract (args.transfer rpcUrl), .error error⟩]

/-- The events of an iteration in which the endpoint broadcasts. -/
def attempt (args : SubmitArgs) (rpcUrl txHash : String) (receipt : Except Err TxReceipt) :
    List ChainEvent :=
  [⟨(), .writeContract (args.transfer rpcUrl), .ok txHash⟩,
    ⟨(), .waitForTransactionReceipt rpcUrl txHash, receipt⟩]

/-- What one iteration of the loop does. -/
inductive Iteration (args : SubmitArgs) (endpoint : Endpoint) (rest : Submission) (whole : Submission) :
    Prop
  | refused (error : Err) (hbroadcast : endpoint.broadcast = .error error)
      (hevents : whole.events = refusal args endpoint.rpcUrl error ++ rest.events)
      (houtcome : whole.outcome = rest.outcome)
  | wasted (txHash : String) (hbroadcast : endpoint.broadcast = .ok txHash) (hwastes : endpoint.Wastes)
      (hevents : whole.events = attempt args endpoint.rpcUrl txHash endpoint.receipt ++ rest.events)
      (houtcome : whole.outcome = rest.outcome)
  | mined (txHash : String) (receipt : TxReceipt) (hbroadcast : endpoint.broadcast = .ok txHash)
      (hreceipt : endpoint.receipt = .ok receipt) (hstatus : receipt.status = .success)
      (hevents : whole.events = attempt args endpoint.rpcUrl txHash (.ok receipt))
      (houtcome : ∃ result, whole.outcome = .ok result ∧ result.txHash = txHash)

theorem iteration : ∃ lastError', Iteration args endpoint
    (loopFrom args lastError' (some endpoint) endpoints)
    (loopFrom args lastError current (endpoint :: endpoints)) := by
  have hloop : loopFrom args lastError current (endpoint :: endpoints) =
      ((submitThrough args endpoint.rpcUrl).tryCatch fun err =>
        submitLoop args (endpoints.map (·.rpcUrl)) (some err)).against Endpoints.answer
          { current := current, untried := endpoint :: endpoints } := rfl
  obtain ⟨rpcUrl, broadcast, receipt⟩ := endpoint
  cases broadcast with
  | error error =>
      refine ⟨some error, .refused error rfl ?_ ?_⟩ <;> rw [hloop] <;> rfl
  | ok txHash =>
      cases receipt with
      | error error =>
          refine ⟨some error, .wasted txHash rfl ⟨⟨txHash, rfl⟩, nofun⟩ ?_ ?_⟩ <;> rw [hloop] <;> rfl
      | ok receipt =>
          obtain ⟨status, blockNumber, gasUsed⟩ := receipt
          cases status with
          | success =>
              refine ⟨lastError, .mined txHash _ rfl rfl rfl ?_
                ⟨⟨txHash, blockNumber, gasUsed⟩, ?_, rfl⟩⟩ <;> rw [hloop] <;> rfl
          | reverted =>
              refine ⟨some (.raised ("Transaction reverted: " ++ txHash)), .wasted txHash rfl
                ⟨⟨txHash, rfl⟩, ?_⟩ ?_ ?_⟩
              · intro receipt heq
                cases heq
                rfl
              · rw [hloop]
                rfl
              · rw [hloop]
                rfl

/-! ### The events of the loop -/

theorem not_isBroadcast_wait {rpcUrl txHash : String} {receipt : Except Err TxReceipt} :
    ¬IsBroadcast ⟨(), .waitForTransactionReceipt rpcUrl txHash, receipt⟩ := by
  rintro ⟨transfer, heq⟩
  cases heq

theorem once_refusal {rpcUrl : String} {error : Err} {events : List ChainEvent} :
    BroadcastsOnce (refusal args rpcUrl error ++ events) ↔ BroadcastsOnce events := by
  rw [BroadcastsOnce, refusal, List.singleton_append, List.pairwise_cons, ← BroadcastsOnce]
  refine and_iff_right fun later _ hbroadcast => ?_
  obtain ⟨transfer, hash, heq⟩ := hbroadcast
  cases heq

/-- After a hash, nothing may be broadcast. -/
theorem once_attempt {rpcUrl txHash : String} {receipt : Except Err TxReceipt}
    {events : List ChainEvent} :
    BroadcastsOnce (attempt args rpcUrl txHash receipt ++ events) ↔
      ∀ later ∈ events, ¬IsBroadcast later := by
  have hhash : HasBroadcast ⟨(), .writeContract (args.transfer rpcUrl), .ok txHash⟩ := ⟨_, _, rfl⟩
  rw [BroadcastsOnce, attempt, List.cons_append, List.pairwise_cons, List.singleton_append,
    List.pairwise_cons]
  constructor
  · rintro ⟨hfirst, -, -⟩ later hlater
    exact hfirst later (List.mem_cons_of_mem _ hlater) hhash
  · intro hnone
    refine ⟨?_, fun later hlater _ => hnone later hlater, ?_⟩
    · rintro later hlater -
      rcases List.mem_cons.mp hlater with rfl | hlater
      · exact not_isBroadcast_wait
      · exact hnone later hlater
    · exact List.pairwise_iff_forall_sublist.mpr fun hsub _ => hnone _ (hsub.subset (by simp))

/-- A loop with an endpoint left broadcasts through it. -/
theorem exists_broadcast : ∃ event ∈ (loopFrom args lastError current (endpoint :: endpoints)).events,
    IsBroadcast event := by
  obtain ⟨lastError', hiteration⟩ := @iteration args endpoint endpoints current lastError
  cases hiteration with
  | refused error hbroadcast hevents =>
      rw [hevents]
      exact ⟨_, List.mem_append_left _ (List.mem_singleton_self _), _, rfl⟩
  | wasted txHash hbroadcast hwastes hevents =>
      rw [hevents]
      exact ⟨_, List.mem_append_left _ List.mem_cons_self, _, rfl⟩
  | mined txHash receipt hbroadcast hreceipt hstatus hevents =>
      rw [hevents]
      exact ⟨_, List.mem_cons_self, _, rfl⟩

/-! ### The condition on the endpoints -/

theorem noneWasted_refused (hbroadcast : endpoint.broadcast.isOk = false) :
    NoneWasted (endpoint :: endpoints) ↔ NoneWasted endpoints := by
  rw [NoneWasted, List.dropWhile_cons_of_pos (by rw [hbroadcast]; rfl), ← NoneWasted]

theorem noneWasted_broadcast (hbroadcast : endpoint.broadcast.isOk = true) :
    NoneWasted (endpoint :: endpoints) ↔ (endpoints ≠ [] → ¬endpoint.Wastes) := by
  rw [NoneWasted, List.dropWhile_cons_of_neg (by simp [hbroadcast])]
  constructor
  · exact fun h => h endpoint endpoints rfl
  · rintro h first after heq
    cases heq
    exact h

/-- What holds of a submission through these endpoints. -/
structure Submits (endpoints : List Endpoint) (submission : Submission) : Prop where
  once_iff : BroadcastsOnce submission.events ↔ NoneWasted endpoints
  obtained : ∀ result, submission.outcome = .ok result → Obtained submission.events result.txHash

theorem Obtained.mono {events events' : List ChainEvent} {txHash : String}
    (h : Obtained events txHash) (hsub : events ⊆ events') : Obtained events' txHash := by
  obtain ⟨rpcUrl, receipt, hmem, hstatus⟩ := h
  exact ⟨rpcUrl, receipt, hsub hmem, hstatus⟩

/-- Induction on the endpoints, one iteration at a time. -/
theorem submits_loopFrom (args : SubmitArgs) (endpoints : List Endpoint) (lastError : Option Err)
    (current : Option Endpoint) : Submits endpoints (loopFrom args lastError current endpoints) := by
  induction endpoints generalizing lastError current with
  | nil =>
      refine ⟨⟨fun _ endpoint after heq => ?_, fun _ => List.Pairwise.nil⟩, nofun⟩
      cases heq
  | cons endpoint endpoints ih =>
      obtain ⟨lastError', hiteration⟩ := @iteration args endpoint endpoints current lastError
      have hrest := ih lastError' (some endpoint)
      cases hiteration with
      | refused error hbroadcast hevents houtcome =>
          refine ⟨?_, fun result hresult => ?_⟩
          · rw [hevents, once_refusal, hrest.once_iff,
              noneWasted_refused (by rw [hbroadcast]; rfl)]
          · rw [houtcome] at hresult
            rw [hevents]
            exact (hrest.obtained result hresult).mono (List.subset_append_right _ _)
      | wasted txHash hbroadcast hwastes hevents houtcome =>
          refine ⟨?_, fun result hresult => ?_⟩
          · rw [hevents, once_attempt, noneWasted_broadcast (by rw [hbroadcast]; rfl)]
            cases endpoints with
            | nil =>
                refine ⟨fun _ hne => absurd rfl hne, fun _ later hlater => ?_⟩
                cases hlater
            | cons next endpoints =>
                obtain ⟨event, hmem, hbroadcast'⟩ :=
                  @exists_broadcast args next endpoints (some endpoint) lastError'
                exact ⟨fun hnone => absurd hbroadcast' (hnone event hmem),
                  fun hnever => absurd hwastes (hnever (List.cons_ne_nil _ _))⟩
          · rw [houtcome] at hresult
            rw [hevents]
            exact (hrest.obtained result hresult).mono (List.subset_append_right _ _)
      | mined txHash receipt hbroadcast hreceipt hstatus hevents houtcome =>
          obtain ⟨result, hresult, rfl⟩ := houtcome
          refine ⟨?_, fun result' hresult' => ?_⟩
          · rw [noneWasted_broadcast (by rw [hbroadcast]; rfl)]
            refine ⟨fun _ _ hwastes => ?_, fun _ => ?_⟩
            · have hreverted := hwastes.2 receipt hreceipt
              rw [hstatus] at hreverted
              cases hreverted
            · have honce := @once_attempt args endpoint.rpcUrl result.txHash (.ok receipt) []
              rw [List.append_nil] at honce
              rw [hevents]
              exact honce.mpr fun later hlater => by cases hlater
          · rw [hresult] at hresult'
            obtain rfl := Except.ok.inj hresult'
            rw [hevents]
            refine ⟨endpoint.rpcUrl, receipt, List.mem_cons_of_mem _ (List.mem_singleton_self _), ?_⟩
            rw [hstatus]
            decide

theorem submits_submitOnChain (hurls : args.rpcUrls = endpoints.map (·.rpcUrl)) :
    Submits endpoints (submission (submitOnChain args) endpoints) := by
  have hloop := submits_loopFrom args endpoints none none
  have hbody : ((submitLoop args args.rpcUrls none).tryFinally leaveSubmitOnChain).against
      Endpoints.answer { current := none, untried := endpoints } =
        { loopFrom args none none endpoints with
          events := (loopFrom args none none endpoints).events ++ [⟨(), .submitOnChainEnd, .ok ()⟩] } := by
    rw [hurls, Program.against_tryFinally]
    · rfl
    · rfl
  have hevents : (submission (submitOnChain args) endpoints).events =
      ⟨(), .submitOnChain args, .ok ()⟩ :: ((loopFrom args none none endpoints).events
        ++ [⟨(), .submitOnChainEnd, .ok ()⟩]) := by
    change _ :: (((submitLoop args args.rpcUrls none).tryFinally leaveSubmitOnChain).against
      Endpoints.answer { current := none, untried := endpoints }).events = _
    rw [hbody]
    rfl
  have houtcome : (submission (submitOnChain args) endpoints).outcome =
      (loopFrom args none none endpoints).outcome := by
    change (((submitLoop args args.rpcUrls none).tryFinally leaveSubmitOnChain).against
      Endpoints.answer { current := none, untried := endpoints }).outcome = _
    rw [hbody]
  have hedges : BroadcastsOnce (submission (submitOnChain args) endpoints).events ↔
      BroadcastsOnce (loopFrom args none none endpoints).events := by
    have henter : ¬HasBroadcast ⟨(), .submitOnChain args, .ok ()⟩ := by
      rintro ⟨transfer, hash, heq⟩
      cases heq
    have hleave : ¬IsBroadcast ⟨(), .submitOnChainEnd, .ok ()⟩ := by
      rintro ⟨transfer, heq⟩
      cases heq
    rw [hevents, BroadcastsOnce, List.pairwise_cons, List.pairwise_append, ← BroadcastsOnce]
    constructor
    · exact fun h => h.2.1
    · refine fun h => ⟨fun _ _ hbroadcast => absurd hbroadcast henter, h, List.pairwise_singleton _ _, ?_⟩
      intro event _ later hlater _
      rw [List.mem_singleton.mp hlater]
      exact hleave
  refine ⟨hedges.trans hloop.once_iff, fun result hresult => ?_⟩
  rw [houtcome] at hresult
  rw [hevents]
  exact (hloop.obtained result hresult).mono fun event hmem =>
    List.mem_cons_of_mem _ (List.mem_append_left _ hmem)

/-- **One broadcast for each submission.** For every list of endpoints and all their answers, a hash is
the last thing to be broadcast for if and only if the first endpoint to return one does not waste it,
or is the last; and a submission that returns has obtained the receipt of its transaction, which was
not reverted. -/
theorem broadcasts_once_iff (args : SubmitArgs) (endpoints : List Endpoint) :
    Submits endpoints (submission (submitLoop args (endpoints.map (·.rpcUrl)) none) endpoints) ∧
      (args.rpcUrls = endpoints.map (·.rpcUrl) →
        Submits endpoints (submission (submitOnChain args) endpoints)) :=
  ⟨submits_loopFrom args endpoints none none, submits_submitOnChain⟩

end Loop

/-- A transfer submitted through two endpoints. -/
def twoEndpoints : SubmitArgs where
  «from» := "0xaa"
  «to» := some "0xbb"
  value := 1000
  validAfter := 0
  validBefore := 2000000000
  nonce := "0xcc"
  signature := "0xdd"
  assetAddress := some "0xee"
  chainId := 8453
  rpcUrl := "https://primary"
  fallbackRpcUrl := some "https://fallback"

def mined : TxReceipt := { status := .success, blockNumber := 1, gasUsed := 50000 }

/-- The primary endpoint returns a hash, and its receipt does not come in time. -/
def slowPrimary : List Endpoint :=
  [{ rpcUrl := "https://primary", broadcast := .ok "0x01", receipt := .error (.raised "timed out") },
    { rpcUrl := "https://fallback", broadcast := .ok "0x02", receipt := .ok mined }]

/-- The primary endpoint refuses the broadcast. -/
def refusingPrimary : List Endpoint :=
  [{ rpcUrl := "https://primary", broadcast := .error (.raised "connection refused"),
     receipt := .error (.raised "no transaction") },
    { rpcUrl := "https://fallback", broadcast := .ok "0x02", receipt := .ok mined }]

theorem broadcasts_once_fallback :
    BroadcastsOnce (submission (submitOnChain twoEndpoints) refusingPrimary).events :=
  ((broadcasts_once_iff twoEndpoints refusingPrimary).2 (by decide)).once_iff.mpr (by
    intro endpoint after heq hne
    cases heq
    exact absurd rfl hne)

/-- The transfer goes out a second time while the first transaction is still waited for. -/
theorem not_broadcasts_once : ¬∀ (args : SubmitArgs) (endpoints : List Endpoint),
    args.rpcUrls = endpoints.map (·.rpcUrl) →
      BroadcastsOnce (submission (submitOnChain args) endpoints).events := by
  intro hclaim
  have honce := (submits_submitOnChain (by decide)).once_iff.mp (hclaim twoEndpoints slowPrimary (by decide))
  refine honce _ _ rfl (List.cons_ne_nil _ _) ⟨⟨"0x01", rfl⟩, fun receipt hreceipt => ?_⟩
  cases hreceipt

end OnChain

end FacilitatorX402
