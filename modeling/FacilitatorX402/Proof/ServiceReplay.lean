import FacilitatorX402.Proof.ServiceStages

/-!
# Accepted once for each spelling

`runVerify` judges a replay by text: the keys, the lookup and the unique columns hold the nonce as it
is written, and a hash of the signature as it is written. An accepted call has its row in the table,
so the unique columns keep two accepted calls apart in both columns. They do not keep apart two
spellings of one nonce and of its signature, which the chain reads as the same bytes.
-/

namespace FacilitatorX402

open Interact

namespace Service

/-- The payment a call is to verify. -/
def ServiceCall.body? : ServiceCall → Option VerifyRequest
  | verify raw _ => (parseVerifyRequest raw).toOption
  | settle _ => none

/-- Two rows that both unique columns tell apart. -/
def Apart (row row' : PaymentVerification) : Prop :=
  row.nonce ≠ row'.nonce ∧ row.signatureHash ≠ row'.signatureHash

theorem Apart.symm {row row' : PaymentVerification} (h : Apart row row') : Apart row' row :=
  ⟨h.1.symm, h.2.symm⟩

/-- A row that can be added is apart from every row there is, if it has a nonce and a hash. -/
theorem Db.apart_of_canVerify {db : Db} {row row' : PaymentVerification}
    (hcan : db.canVerify row = true) (hnonce : row.nonce ≠ none) (hhash : row.signatureHash ≠ none)
    (hrow' : row' ∈ db.verifications) : Apart row' row := by
  have hall := List.all_eq_true.mp ((Bool.and_eq_true _ _).mp hcan).2 row' hrow'
  obtain ⟨-, hsignature, hfresh⟩ := of_decide_eq_true hall
  exact ⟨hfresh.resolve_right hnonce, hsignature.resolve_right hhash⟩

section Runs

variable {ι : Type} {faults : Faults}

/-- The call has returned accepted, for this payment. -/
def Accepted (call : ι → ServiceCall) (cfg : Config (machine ι faults) ServiceReply) (who : ι)
    (body : VerifyRequest) : Prop :=
  (call who).body? = some body ∧
    ∃ result, (cfg.calls who).result? = some (.ok (.verified (.accepted result)))

/-- Acceptable payments of one payer with one nonce are written with the same digits of the nonce, or
their signatures have the same hash. -/
def SpelledAlike (imports : ι → Imports) (call : ι → ServiceCall) : Prop :=
  ∀ who other body body', (call who).body? = some body → (call other).body? = some body' →
    Acceptable (imports who) body → Acceptable (imports other) body' →
    body.auth.nonce.bytes = body'.auth.nonce.bytes → body.auth.from.bytes = body'.auth.from.bytes →
    body.auth.nonce.text = body'.auth.nonce.text ∨
      hashSignature (imports who).host body.payload.signature.text
        = hashSignature (imports other).host body'.payload.signature.text

theorem exec_verifications {who : ι} {world world' : World ι} {op : Op} {outcome : Outcome}
    {answer : Except Err (interface.Ans op)}
    (h : (machine ι faults).exec who world op outcome = some (answer, world')) :
    world.db.verifications ⊆ world'.db.verifications := by
  cases exec_effect h with
  | upsertPaymentRequest row =>
      simp only [Db.upsertPaymentRequest]
      split <;> exact List.Subset.refl _
  | createVerification row => exact List.subset_append_left _ _
  | confirmByWorker id data receipt =>
      simp only [Db.confirmByWorker]
      split <;> exact List.Subset.refl _
  | _ => exact List.Subset.refl _

/-- The answer that a row has been stored. -/
def stored (who : ι) (row : PaymentVerification) : Event interface Err ι :=
  ⟨who, .createVerification row, .ok ()⟩

/-- A call gets into a stage with a stored row only by storing it. -/
theorem ServiceCall.Allowed.next_stored {imports : Imports} {call : ServiceCall} {stage : Stage}
    {op : Op} (h : call.Allowed imports stage op) (who : ι)
    (answer : Except Err (interface.Ans op)) :
    (∀ row, stage.next op answer = .stored row → stage = .stored row) ∨
      ∃ body row, StoredFor imports body row ∧ ⟨who, op, answer⟩ = stored who row := by
  rcases h with hquiet | ⟨raw, requestId, body, row, -, -, hrow, rfl⟩ |
    ⟨opts, -, ⟨rfl, rfl⟩ | ⟨row, ⟨rfl, rfl⟩ | ⟨rfl, id, rfl⟩ | ⟨rfl, args, rfl, -⟩ |
      ⟨rfl | rfl, rfl⟩⟩⟩
  · rw [hquiet.next_eq]
    exact .inl fun _ => id
  · cases answer with
    | ok done => exact .inr ⟨body, row, hrow, rfl⟩
    | error error =>
        have hsame : stage.next (.createVerification row) (.error error) = stage := by
          cases stage <;> rfl
        rw [hsame]
        exact .inl fun _ => id
  · rcases answer with error | _ | ⟨row, request, network⟩ <;> exact .inl fun _ hnext => nomatch hnext
  · rcases answer with error | _ | _ <;> exact .inl fun _ hnext => nomatch hnext
  · cases answer <;> exact .inl fun _ hnext => nomatch hnext
  · exact .inl fun _ hnext => nomatch hnext
  · exact .inl fun _ hnext => nomatch hnext
  · exact .inl fun _ hnext => nomatch hnext

/-- The rows that calls have stored are in the table, and apart from each other. -/
structure ReplayInv (cfg : Config (machine ι faults) ServiceReply) (stage : ι → Stage) : Prop where
  rows : ∀ who row, stage who = .stored row → row ∈ cfg.world.db.verifications
  apart : ∀ who other row row', stage who = .stored row → stage other = .stored row' →
    who = other ∨ Apart row row'

variable [DecidableEq ι]

section Step

variable {cfg : Config (machine ι faults) ServiceReply} {stage : ι → Stage} {who : ι} {op : Op}
  {next : Except Err (interface.Ans op) → ServiceProgram ServiceReply}
  {answer : Except Err (interface.Ans op)} {world : World ι}

theorem ReplayInv.perform (h : ReplayInv cfg stage) {stage' : Stage}
    (hrows : cfg.world.db.verifications ⊆ world.db.verifications)
    (hstage : ∀ row, stage' = .stored row → stage who = .stored row) :
    ReplayInv (cfg.perform who op next answer world) (Function.update stage who stage') := by
  have hbefore : ∀ other row, Function.update stage who stage' other = .stored row →
      stage other = .stored row := by
    intro other row hother
    by_cases heq : other = who
    · subst heq
      rw [Function.update_self] at hother
      exact hstage row hother
    · rwa [Function.update_of_ne heq] at hother
  constructor
  · exact fun other row hother => hrows (h.rows other row (hbefore other row hother))
  · intro one other row row' hone hother
    exact h.apart one other row row' (hbefore one row hone) (hbefore other row' hother)

theorem ReplayInv.perform_store (h : ReplayInv cfg stage) {row : PaymentVerification}
    {next : Except Err Unit → ServiceProgram ServiceReply} {imports : Imports} {body : VerifyRequest}
    (hfor : StoredFor imports body row) {outcome : Outcome}
    (hexec : (machine ι faults).exec who cfg.world (.createVerification row) outcome
      = some (.ok (), world)) :
    ReplayInv (cfg.perform who (.createVerification row) next (.ok ()) world)
      (Function.update stage who (.stored row)) := by
  obtain ⟨hcan, rfl⟩ := exec_createVerification_ok hexec
  have hfresh : ∀ other row', other ≠ who → stage other = .stored row' → Apart row' row := by
    intro other row' _ hother
    apply Db.apart_of_canVerify hcan
    · rw [hfor.1]
      exact Option.some_ne_none _
    · rw [hfor.2]
      exact Option.some_ne_none _
    · exact h.rows other row' hother
  constructor
  · intro other row' hother
    by_cases heq : other = who
    · subst heq
      rw [Function.update_self] at hother
      obtain rfl := Stage.stored.inj hother
      exact List.mem_append_right _ (List.mem_singleton_self _)
    · rw [Function.update_of_ne heq] at hother
      exact List.mem_append_left _ (h.rows other row' hother)
  · intro one other row₁ row₂ hone hother
    by_cases hmine : one = who
    · by_cases hyours : other = who
      · exact .inl (hmine.trans hyours.symm)
      · rw [hmine, Function.update_self] at hone
        rw [Function.update_of_ne hyours] at hother
        obtain rfl := Stage.stored.inj hone
        exact .inr (hfresh other row₂ hyours hother).symm
    · rw [Function.update_of_ne hmine] at hone
      by_cases hyours : other = who
      · rw [hyours, Function.update_self] at hother
        obtain rfl := Stage.stored.inj hother
        exact .inr (hfresh one row₁ hmine hone)
      · rw [Function.update_of_ne hyours] at hother
        exact h.apart one other row₁ row₂ hone hother

theorem ReplayInv.step {imports : Imports} {call : ServiceCall} (h : ReplayInv cfg stage)
    (hallowed : call.Allowed imports (stage who) op) {outcome : Outcome}
    (hexec : (machine ι faults).exec who cfg.world op outcome = some (answer, world)) :
    ReplayInv (cfg.perform who op next answer world)
      (Function.update stage who ((stage who).next op answer)) := by
  rcases hallowed.next_stored who answer with hkept | ⟨body, row, hfor, hevent⟩
  · exact h.perform (exec_verifications hexec) hkept
  · cases hevent
    have hnext : (stage who).next (.createVerification row) (.ok ()) = .stored row := by
      cases stage who <;> rfl
    rw [hnext]
    exact h.perform_store hfor hexec

end Step

variable {imports : ι → Imports} {call : ι → ServiceCall}
  {start cfg : Config (machine ι faults) ServiceReply}

theorem preserved_replay :
    Config.Preserved (M := machine ι faults) (fun who => serviceRules (imports who) (call who))
      (fun who => servicePost (imports who) (call who)) ReplayInv Config.anyStep where
  call _ _ _ _ _ _ _ _ hfollows _ hallowed hexec _ :=
    ⟨_, rfl, hfollows.inv.step hallowed hexec⟩
  env _ _ _ _ hfollows henv := by
    refine ⟨?_, hfollows.inv.apart⟩
    rw [(machine_env_rows henv).1]
    exact hfollows.inv.rows

/-- **Accepted once for each spelling.** If payments of one payer with one nonce are written with the
same nonce, or have signatures with the same hash, no two calls are accepted for them. -/
theorem accepted_apart (hstart : ServiceStart imports call start)
    (halike : SpelledAlike imports call) (hreach : Config.Reachable Config.anyStep start cfg)
    {who other : ι} {body body' : VerifyRequest} (hwho : Accepted call cfg who body)
    (hother : Accepted call cfg other body')
    (hnonce : body.auth.nonce.bytes = body'.auth.nonce.bytes)
    (hpayer : body.auth.from.bytes = body'.auth.from.bytes) : who = other := by
  have hbegin : ReplayInv start fun _ => .begun := by
    constructor
    · intro who row hstored
      cases hstored
    · intro who other row row' hstored
      cases hstored
  obtain ⟨stage, hfollows⟩ := hreach.follows preserved_replay (hstart.follows hbegin)
  have haccepted : ∀ {who body}, Accepted call cfg who body → Acceptable (imports who) body ∧
      ∃ row, StoredFor (imports who) body row ∧ stage who = .stored row := by
    rintro who body ⟨hbody, result, hresult⟩
    obtain ⟨raw, requestId, body', row, hcall, hparse, hacceptable, hfor, hstored, -⟩ :=
      hfollows.of_result hresult result rfl
    rw [hcall, ServiceCall.body?, hparse] at hbody
    obtain rfl := Option.some.inj hbody
    exact ⟨hacceptable, row, hfor, hstored⟩
  obtain ⟨hacceptable, row, hfor, hstored⟩ := haccepted hwho
  obtain ⟨hacceptable', row', hfor', hstored'⟩ := haccepted hother
  apply (hfollows.inv.apart who other row row' hstored hstored').resolve_right
  rintro ⟨hnonces, hhashes⟩
  rcases halike who other body body' hwho.1 hother.1 hacceptable hacceptable' hnonce hpayer
    with htext | hhash
  · exact hnonces (by rw [hfor.1, hfor'.1, htext])
  · exact hhashes (by rw [hfor.2, hfor'.2, hhash])

end Runs

/-! ### Two calls for one payment -/

section Schedules

/-- Two verifications of one payment, each in a spelling of its own. -/
def twoCalls (upper : Fin 2 → Bool) (who : Fin 2) : ServiceCall :=
  sampleVerify (upper who) (if who.val = 0 then "req-0" else "req-1")

theorem body?_twoCalls (upper : Fin 2 → Bool) (who : Fin 2) :
    (twoCalls upper who).body? = some (Payment.spelledPayment (upper who)) := by
  rw [twoCalls, sampleVerify, ServiceCall.body?, parseVerifyRequest_toJson]
  rfl

/-- The calls, after the parser has read their bodies. -/
def twoVerifications (upper : Fin 2 → Bool) :
    Config (machine (Fin 2) ⟨false, false⟩) ServiceReply where
  world := seededWorld _
  calls who := do
    return .verified (← verifyParsed sampleImports (Payment.spelledPayment (upper who))
      (if who.val = 0 then "req-0" else "req-1"))
  history := []

theorem twoVerifications_start (upper : Fin 2 → Bool) :
    ServiceStart (fun _ => sampleImports) (twoCalls upper) (twoVerifications upper) where
  calls who := by
    rw [twoCalls, sampleVerify, ServiceCall.program, runVerify_toJson]
    rfl
  history := rfl

/-- Whether a call has returned accepted. -/
def isAccepted (cfg : Config (machine (Fin 2) ⟨false, false⟩) ServiceReply) (who : Fin 2) : Bool :=
  match (cfg.calls who).result? with
  | some (.ok (.verified (.accepted _))) => true
  | _ => false

theorem accepted_of_isAccepted {upper : Fin 2 → Bool}
    {cfg : Config (machine (Fin 2) ⟨false, false⟩) ServiceReply} {who : Fin 2}
    (h : isAccepted cfg who = true) :
    Accepted (twoCalls upper) cfg who (Payment.spelledPayment (upper who)) := by
  unfold isAccepted at h
  split at h
  · rename_i result hresult
    exact ⟨body?_twoCalls upper who, result, hresult⟩
  · cases h

/-- The letter case of the calls of a replay. -/
def secondUpper (who : Fin 2) : Bool := who.val = 1

theorem accepted_apart_resent :
    ∃ cfg : Config (machine (Fin 2) ⟨false, false⟩) ServiceReply,
      Accepted (twoCalls fun _ => false) cfg 0 (Payment.spelledPayment false) ∧
      ¬Accepted (twoCalls fun _ => false) cfg 1 (Payment.spelledPayment false) := by
  obtain ⟨cfg, hreach, hfirst⟩ := Config.exists_reachable_of_run
    (show ((twoVerifications fun _ => false).run (acceptMoves 0 "ver-0")).map (isAccepted · 0)
      = some true by
      simp only [twoVerifications, verifyParsed, verifyChecked, verifyClaimed,
        verifySignature_spelledPayment rfl]
      decide +kernel)
  have halike : SpelledAlike (fun _ => sampleImports) (twoCalls fun _ => false) := by
    intro who other body body' hbody hbody' _ _ _ _
    rw [body?_twoCalls] at hbody hbody'
    rw [← Option.some.inj hbody, ← Option.some.inj hbody']
    exact .inl rfl
  have haccepted := @accepted_of_isAccepted (fun _ => false) _ _ hfirst
  refine ⟨cfg, haccepted, fun hsecond => ?_⟩
  exact absurd (accepted_apart (twoVerifications_start _) halike hreach haccepted hsecond rfl rfl)
    (by decide)

theorem accepted_twice :
    ∃ cfg : Config (machine (Fin 2) ⟨false, false⟩) ServiceReply,
      Config.Reachable Config.anyStep (twoVerifications secondUpper) cfg ∧
      Accepted (twoCalls secondUpper) cfg 0 (Payment.spelledPayment false) ∧
      Accepted (twoCalls secondUpper) cfg 1 (Payment.spelledPayment true) ∧
      (Payment.spelledPayment false).auth.nonce.bytes
        = (Payment.spelledPayment true).auth.nonce.bytes ∧
      (Payment.spelledPayment false).auth.from.bytes
        = (Payment.spelledPayment true).auth.from.bytes := by
  obtain ⟨cfg, hreach, hboth⟩ := Config.exists_reachable_of_run
    (show ((twoVerifications secondUpper).run (acceptMoves 0 "ver-0" ++ acceptMoves 1 "ver-1")).map
      (fun cfg => isAccepted cfg 0 && isAccepted cfg 1) = some true by
      simp only [twoVerifications, verifyParsed, verifyChecked, verifyClaimed,
        verifySignature_spelledPayment rfl]
      decide +kernel)
  obtain ⟨hfirst, hsecond⟩ := (Bool.and_eq_true _ _).mp hboth
  exact ⟨cfg, hreach, accepted_of_isAccepted hfirst, accepted_of_isAccepted hsecond,
    by decide +kernel, by decide +kernel⟩

end Schedules

end Service

end FacilitatorX402
