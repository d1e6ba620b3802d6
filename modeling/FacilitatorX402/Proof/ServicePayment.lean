import FacilitatorX402.Proof.ServiceReplay

/-!
# What a settlement submits

`runSettle` has no signature: the row it reads holds the digest of one, and it submits that. The row
is the one `runVerify` stored, since rows are never removed and ids are unique; so a settlement of an
accepted payment hands 32 bytes to `submitOnChain` where the signature has 65.
-/

namespace FacilitatorX402

open Interact KeyedRows

namespace Service

/-- The submission pays the recipient of the payment, with its signature. -/
def PaysAsVerified (body : VerifyRequest) (args : SubmitArgs) : Prop :=
  args.to = some body.auth.to.text ∧
    splitSignature args.signature = splitSignature body.payload.signature.text ∧
    (splitSignature args.signature).v ≠ none

theorem hexBytes_hex (digest : Digest) : hexBytes ("0x" ++ digest.hex) = digest.val := by
  have hdrop : ("0x" ++ digest.hex).toList.drop 2 = HexText.toHex digest.val := by
    simp [Digest.hex]
  rw [hexBytes, hdrop, HexText.fromHex_toHex]

/-- A digest is too short to have a recovery byte. -/
theorem splitSignature_hex (digest : Digest) : (splitSignature ("0x" ++ digest.hex)).v = none := by
  have hlength := digest.property
  rw [splitSignature, hexBytes_hex]
  exact List.getElem?_eq_none (by omega)

/-- The verification a settlement has read. -/
def Stage.read? : Stage → Option PaymentVerification
  | read row => some row
  | locked row => some row
  | created row => some row
  | submitted row => some row
  | _ => none

section Runs

variable {ι : Type} {faults : Faults}

/-- The row is there, under the id the settlement names. -/
def Db.HasVerification (db : Db) (call : ServiceCall) (row : PaymentVerification) : Prop :=
  row ∈ db.verifications ∧ ∃ opts, call = .settle opts ∧ row.id = opts.verificationId

theorem Db.HasVerification.mono {db db' : Db} {call : ServiceCall} {row : PaymentVerification}
    (h : db.HasVerification call row) (hsub : db.verifications ⊆ db'.verifications) :
    db'.HasVerification call row :=
  ⟨hsub h.1, h.2⟩

/-- Ids are unique, rows that calls have read are there, and what was submitted carries the hash of
such a row. -/
structure ReadInv (call : ι → ServiceCall) (cfg : Config (machine ι faults) ServiceReply)
    (stage : ι → Stage) : Prop where
  replay : ReplayInv cfg stage
  unique : Unique (·.id) cfg.world.db.verifications
  read : ∀ who row, (stage who).read? = some row → cfg.world.db.HasVerification (call who) row
  submitted : ∀ event ∈ cfg.history, ∀ args, event.op = .chain (.submitOnChain args) →
    ∃ row, cfg.world.db.HasVerification (call event.who) row ∧
      args.signature = "0x" ++ row.signatureHash.getD "null"

/-- A new verification has an id of its own. -/
theorem exec_unique {who : ι} {world world' : World ι} {op : Op} {outcome : Outcome}
    {answer : Except Err (interface.Ans op)}
    (h : (machine ι faults).exec who world op outcome = some (answer, world'))
    (hunique : Unique (·.id) world.db.verifications) : Unique (·.id) world'.db.verifications := by
  cases exec_effect h with
  | upsertPaymentRequest row =>
      simp only [Db.upsertPaymentRequest]
      split <;> exact hunique
  | createVerification row hcan =>
      apply hunique.append
      intro other hother
      have hall := List.all_eq_true.mp ((Bool.and_eq_true _ _).mp hcan).2 other hother
      exact (of_decide_eq_true hall).1
  | confirmByWorker id data receipt =>
      simp only [Db.confirmByWorker]
      split <;> exact hunique
  | _ => exact hunique

variable [DecidableEq ι] {call : ι → ServiceCall}

section Step

variable {imports : ι → Imports} {cfg : Config (machine ι faults) ServiceReply} {stage : ι → Stage}
  {who : ι} {op : Op} {next : Except Err (interface.Ans op) → ServiceProgram ServiceReply}
  {answer : Except Err (interface.Ans op)} {world : World ι}

omit [DecidableEq ι] in
/-- What a call has read after a step it had read before, or has just found. -/
theorem ServiceCall.Allowed.next_read {imports : Imports} {call : ServiceCall} {stage : Stage}
    (h : call.Allowed imports stage op) {outcome : Outcome}
    (hexec : (machine ι faults).exec who cfg.world op outcome = some (answer, world))
    {row : PaymentVerification} (hread : (stage.next op answer).read? = some row) :
    stage.read? = some row ∨ cfg.world.db.HasVerification call row := by
  rcases h with hquiet | ⟨raw, requestId, body, stored, -, -, -, rfl⟩ |
    ⟨opts, hcall, ⟨rfl, rfl⟩ | ⟨found, ⟨rfl, rfl⟩ | ⟨rfl, id, rfl⟩ | ⟨rfl, args, rfl, -⟩ |
      ⟨rfl | rfl, rfl⟩⟩⟩
  · rw [hquiet.next_eq] at hread
    exact .inl hread
  · cases answer with
    | ok done => cases stage <;> cases hread
    | error error =>
        have hsame : stage.next (.createVerification stored) (.error error) = stage := by
          cases stage <;> rfl
        rw [hsame] at hread
        exact .inl hread
  · rcases answer with error | _ | ⟨found, request, network⟩
    · cases hread
    · cases hread
    · obtain rfl := Option.some.inj hread
      obtain ⟨hmem, hid⟩ := exec_findAcceptedVerification hexec
      exact .inr ⟨hmem, opts, hcall, hid⟩
  · rcases answer with error | _ | _ <;> exact .inl hread
  · cases answer <;> exact .inl hread
  · exact .inl hread
  · exact .inl hread
  · exact .inl hread

omit [DecidableEq ι] in
/-- What is submitted carries the hash of the row that was read. -/
theorem ServiceCall.Allowed.signature_eq {imports : Imports} {call : ServiceCall} {stage : Stage}
    {args : SubmitArgs} (h : call.Allowed imports stage (.chain (.submitOnChain args))) :
    ∃ row, stage.read? = some row ∧ args.signature = "0x" ++ row.signatureHash.getD "null" := by
  rcases h with hquiet | ⟨raw, requestId, body, stored, -, -, -, hop⟩ |
    ⟨opts, -, ⟨-, hop⟩ | ⟨row, ⟨-, hop⟩ | ⟨-, id, hop⟩ | ⟨rfl, args', hop, hsignature⟩ | ⟨-, hop⟩⟩⟩
  · exact hquiet.elim
  · cases hop
  · cases hop
  · cases hop
  · cases hop
  · cases hop
    exact ⟨row, rfl, hsignature⟩
  · cases hop

theorem ReadInv.step (h : ReadInv call cfg stage)
    (hallowed : (call who).Allowed (imports who) (stage who) op) {outcome : Outcome}
    (hexec : (machine ι faults).exec who cfg.world op outcome = some (answer, world)) :
    ReadInv call (cfg.perform who op next answer world)
      (Function.update stage who ((stage who).next op answer)) where
  replay := h.replay.step hallowed hexec
  unique := exec_unique hexec h.unique
  read := by
    have hrows := exec_verifications hexec
    intro other row hread
    by_cases heq : other = who
    · subst heq
      rw [Function.update_self] at hread
      rcases hallowed.next_read hexec hread with hbefore | hfound
      · exact (h.read other row hbefore).mono hrows
      · exact hfound.mono hrows
    · rw [Function.update_of_ne heq] at hread
      exact (h.read other row hread).mono hrows
  submitted := by
    have hrows := exec_verifications hexec
    intro event hevent args hop
    rcases List.mem_cons.mp hevent with rfl | hbefore
    · obtain rfl : op = .chain (.submitOnChain args) := hop
      obtain ⟨row, hread, hsignature⟩ := hallowed.signature_eq
      exact ⟨row, (h.read who row hread).mono hrows, hsignature⟩
    · obtain ⟨row, hrow, hsignature⟩ := h.submitted event hbefore args hop
      exact ⟨row, hrow.mono hrows, hsignature⟩

end Step

variable {imports : ι → Imports} {start cfg : Config (machine ι faults) ServiceReply}

theorem preserved_read :
    Config.Preserved (M := machine ι faults) (fun who => serviceRules (imports who) (call who))
      (fun who => servicePost (imports who) (call who)) (ReadInv call) Config.anyStep where
  call _ _ _ _ _ _ _ _ hfollows _ hallowed hexec _ :=
    ⟨_, rfl, hfollows.inv.step hallowed hexec⟩
  env cfg stage event world hfollows henv := by
    have hrows : world.db.verifications = cfg.world.db.verifications := (machine_env_rows henv).1
    have hinv := hfollows.inv
    constructor
    · exact ⟨hrows ▸ hinv.replay.rows, hinv.replay.apart⟩
    · exact hrows ▸ hinv.unique
    · exact fun who row hread => (hinv.read who row hread).mono (hrows ▸ List.Subset.refl _)
    · intro event hevent args hop
      obtain ⟨row, hrow, hsignature⟩ := hinv.submitted event hevent args hop
      exact ⟨row, hrow.mono (hrows ▸ List.Subset.refl _), hsignature⟩

omit [DecidableEq ι] in
theorem ServiceStart.readInv (hstart : ServiceStart imports call start)
    (hunique : Unique (·.id) start.world.db.verifications) :
    ReadInv call start fun _ => .begun := by
  refine ⟨⟨?_, ?_⟩, hunique, ?_, ?_⟩
  · intro who row hstored
    cases hstored
  · intro who other row row' hstored
    cases hstored
  · intro who row hread
    cases hread
  · intro event hevent
    rw [hstart.history] at hevent
    cases hevent

/-- **No settlement pays as verified.** Whatever a settlement of an accepted verification submits, its
signature has no recovery byte. -/
theorem never_pays_as_verified (hstart : ServiceStart imports call start)
    (hunique : Unique (·.id) start.world.db.verifications)
    (hreach : Config.Reachable Config.anyStep start cfg) {who : ι} {result : VerifyAccepted}
    (hresult : (cfg.calls who).result? = some (.ok (.verified (.accepted result))))
    {event : Event interface Err ι} (hevent : event ∈ cfg.history) {opts : SettleOpts}
    (hcall : call event.who = .settle opts) (hid : opts.verificationId = result.verificationId)
    {args : SubmitArgs} (hop : event.op = .chain (.submitOnChain args)) :
    (splitSignature args.signature).v = none ∧
      ∀ body, (call who).body? = some body → ¬PaysAsVerified body args := by
  obtain ⟨stage, hfollows⟩ :=
    hreach.follows preserved_read (hstart.follows (hstart.readInv hunique))
  have hinv := hfollows.inv
  obtain ⟨raw, requestId, body', row, -, -, -, hfor, hstored, hrowId⟩ :=
    hfollows.of_result hresult result rfl
  obtain ⟨read, ⟨hread, opts', hcall', hreadId⟩, hsignature⟩ := hinv.submitted event hevent args hop
  -- the row that was read is the row that was stored
  have hopts : opts = opts' := ServiceCall.settle.inj (hcall.symm.trans hcall')
  have hrow : read = row := by
    apply hinv.unique.eq hread (hinv.replay.rows who row hstored)
    calc
      read.id = opts'.verificationId := hreadId
      _ = result.verificationId := hopts ▸ hid
      _ = row.id := hrowId.symm
  have hnone : (splitSignature args.signature).v = none := by
    rw [hsignature, hrow, hfor.2, Option.getD_some, hashSignature]
    exact splitSignature_hex _
  exact ⟨hnone, fun _ _ hpays => hpays.2.2 hnone⟩

end Runs

/-! ### A verification and its settlement -/

section Schedules

/-- Call 0 verifies a payment, and call 1 settles it. -/
def verifyThenSettle (who : Fin 2) : ServiceCall :=
  if who.val = 0 then sampleVerify false "req-0" else sampleSettle

def paidStart : Config (machine (Fin 2) ⟨false, false⟩) ServiceReply where
  world := seededWorld _
  calls who :=
    if who.val = 0 then do
      return .verified (← verifyParsed sampleImports (Payment.spelledPayment false) "req-0")
    else sampleSettle.program sampleImports
  history := []

theorem paidStart_start : ServiceStart (fun _ => sampleImports) verifyThenSettle paidStart where
  calls who := by
    by_cases hwho : who.val = 0
    · simp only [paidStart, verifyThenSettle, if_pos hwho, sampleVerify, ServiceCall.program,
        runVerify_toJson]
    · simp only [paidStart, verifyThenSettle, if_neg hwho]
  history := rfl

/-- The calls one after the other, up to the entry into `submitOnChain`. -/
def verifyThenSubmit (verifier settler : Fin 2) : List (Move (machine (Fin 2) ⟨false, false⟩)) :=
  acceptMoves verifier "ver-0" ++ lookups settler ++ lockAndSubmit settler "set-0"

/-- The arguments of a submission. -/
def submitted? : Event interface Err (Fin 2) → Option SubmitArgs
  | ⟨_, .chain (.submitOnChain args), _⟩ => some args
  | _ => none

theorem op_of_submitted? {event : Event interface Err (Fin 2)} {args : SubmitArgs}
    (h : submitted? event = some args) : event.op = .chain (.submitOnChain args) := by
  unfold submitted? at h
  split at h
  · rw [Option.some.inj h]
  · cases h

/-- The id under which a call has been accepted. -/
def acceptedId? (cfg : Config (machine (Fin 2) ⟨false, false⟩) ServiceReply) (who : Fin 2) :
    Option String :=
  match (cfg.calls who).result? with
  | some (.ok (.verified (.accepted result))) => some result.verificationId
  | _ => none

theorem exists_of_acceptedId? {cfg : Config (machine (Fin 2) ⟨false, false⟩) ServiceReply}
    {who : Fin 2} {id : String} (h : acceptedId? cfg who = some id) : ∃ result,
      (cfg.calls who).result? = some (.ok (.verified (.accepted result))) ∧
        result.verificationId = id := by
  unfold acceptedId? at h
  split at h
  · rename_i result hresult
    exact ⟨result, hresult, Option.some.inj h⟩
  · cases h

/-- Whether call 1 has submitted something that names the payer as the recipient. -/
def paysPayer (event : Event interface Err (Fin 2)) : Bool :=
  event.who.val = 1 && (submitted? event).any fun args =>
    args.to = some (Payment.spelledPayment false).auth.from.text

theorem exists_paidRun : ∃ cfg : Config (machine (Fin 2) ⟨false, false⟩) ServiceReply,
    Config.Reachable Config.anyStep paidStart cfg ∧
      (∃ result, (cfg.calls 0).result? = some (.ok (.verified (.accepted result))) ∧
        result.verificationId = "ver-0") ∧
      ∃ event ∈ cfg.history, event.who = 1 ∧ ∃ args, event.op = .chain (.submitOnChain args) ∧
        args.to = some (Payment.spelledPayment false).auth.from.text := by
  obtain ⟨cfg, hreach, hboth⟩ := Config.exists_reachable_of_run
    (show (paidStart.run (verifyThenSubmit 0 1)).map (fun cfg =>
      decide (acceptedId? cfg 0 = some "ver-0") && cfg.history.any paysPayer) = some true by
        decide +kernel)
  obtain ⟨haccepted, hpaid⟩ := (Bool.and_eq_true _ _).mp hboth
  obtain ⟨event, hevent, hpays⟩ := List.any_eq_true.mp hpaid
  obtain ⟨hwho, hargs⟩ := (Bool.and_eq_true _ _).mp hpays
  obtain ⟨args, hop, hto⟩ := (Option.any_eq_true _ _).mp hargs
  exact ⟨cfg, hreach, exists_of_acceptedId? (of_decide_eq_true haccepted), event, hevent,
    Fin.ext (of_decide_eq_true hwho), args, op_of_submitted? hop, of_decide_eq_true hto⟩

theorem never_pays_as_verified_settled :
    ∃ args : SubmitArgs, (splitSignature args.signature).v = none ∧
      ¬PaysAsVerified (Payment.spelledPayment false) args := by
  obtain ⟨cfg, hreach, ⟨result, hresult, hid⟩, event, hevent, hwho, args, hop, -⟩ := exists_paidRun
  have hcall : verifyThenSettle event.who
      = .settle { requestId := "req-0", verificationId := "ver-0", referralCode := none } := by
    rw [hwho]
    rfl
  have hbody : (verifyThenSettle 0).body? = some (Payment.spelledPayment false) :=
    body?_twoCalls (fun _ => false) 0
  obtain ⟨hnone, hpays⟩ := never_pays_as_verified paidStart_start List.nodup_nil hreach hresult
    hevent hcall hid.symm hop
  exact ⟨args, hnone, hpays _ hbody⟩

/-- The recipient is the payer, and the signature has no recovery byte. -/
theorem pays_payer_unsigned : ∃ cfg : Config (machine (Fin 2) ⟨false, false⟩) ServiceReply,
    Config.Reachable Config.anyStep paidStart cfg ∧
      Accepted verifyThenSettle cfg 0 (Payment.spelledPayment false) ∧
      ∃ event ∈ cfg.history, event.who = 1 ∧ ∃ args, event.op = .chain (.submitOnChain args) ∧
        args.to ≠ some (Payment.spelledPayment false).auth.to.text ∧
        ¬PaysAsVerified (Payment.spelledPayment false) args := by
  obtain ⟨cfg, hreach, ⟨result, hresult, -⟩, event, hevent, hwho, args, hop, hto⟩ := exists_paidRun
  have hne : args.to ≠ some (Payment.spelledPayment false).auth.to.text := by
    rw [hto]
    decide +kernel
  exact ⟨cfg, hreach, ⟨body?_twoCalls (fun _ => false) 0, result, hresult⟩, event, hevent, hwho,
    args, hop, hne, fun hpays => hne hpays.1⟩

end Schedules

end Service

end FacilitatorX402
