import FacilitatorX402.Http.ReceiptsRoute
import FacilitatorX402.Proof.ClientRetries

/-!
# Polling for a receipt

A poll waits for a status, and the schema of the answer lists none. So every answer that is a receipt is
asked for again, and a poll of a receipt that is there ends with its time.
-/

namespace FacilitatorX402

open Sdk Interact

/-! ### What is sent of a receipt -/

theorem lookup_serialize {serializer : PropertySerializer} {fields : List (String × Json)}
    {schema : List (String × PropertyType)} {name : String} (hname : ∀ property ∈ schema, property.1 ≠ name)
    {properties : List (String × Json)} (h : serialize serializer fields schema = .ok properties) :
    properties.lookup name = none := by
  induction schema generalizing properties with
  | nil =>
      cases h
      rfl
  | cons property schema ih =>
      obtain ⟨name', type⟩ := property
      have hrest : ∀ property ∈ schema, property.1 ≠ name := fun property hmem =>
        hname property (List.mem_cons_of_mem _ hmem)
      rw [serialize] at h
      split at h
      · exact ih hrest h
      · split at h
        · rename_i hrestOk
          cases h
          have hne : (name == name') = false := by
            simpa using Ne.symm (hname (name', type) List.mem_cons_self)
          rw [List.lookup_cons, hne]
          exact ih hrest hrestOk
        · cases h
        · cases h

/-- What a writer puts under a name to which the schema gives the type: a value of the type, or null. -/
def PropertyType.Takes : PropertyType → Json → Prop
  | _, .null => True
  | .string, .str _ => True
  | .nullableString, .str _ => True
  | .number, .num (.int _) => True
  | _, _ => False

/-- The serializer makes something of every value of the type, and of null. -/
def ReceiptsServer.SendsTaken (server : ReceiptsServer) : Prop :=
  ∀ (type : PropertyType) value, type.Takes value → ∃ sent, server.serializer type value = .ok sent

/-- Under each name of the schema is what its type takes, or nothing. -/
def Fits (fields : List (String × Json)) (schema : List (String × PropertyType)) : Prop :=
  ∀ property ∈ schema, property.2.Takes ((fields.lookup property.1).getD .null)

theorem Fits.exists_serialize {server : ReceiptsServer} (h : server.SendsTaken)
    {fields : List (String × Json)} {schema : List (String × PropertyType)} (hfits : Fits fields schema) :
    ∃ properties, serialize server.serializer fields schema = .ok properties := by
  induction schema with
  | nil => exact ⟨[], rfl⟩
  | cons property schema ih =>
      obtain ⟨name, type⟩ := property
      obtain ⟨htakes, hrest⟩ := List.forall_mem_cons.mp hfits
      obtain ⟨properties, hproperties⟩ := ih hrest
      rw [serialize]
      cases hlookup : fields.lookup name with
      | none => exact ⟨properties, hproperties⟩
      | some value =>
          rw [hlookup] at htakes
          obtain ⟨sent, hsent⟩ := h type value htakes
          exact ⟨(name, sent) :: properties, by simp only [hsent, hproperties]⟩

theorem fits_payment (payload : Payment.ReceiptPayload) :
    ∃ fields, payload.toJson = .obj fields ∧ Fits fields receiptSchema := by
  refine ⟨_, rfl, ?_⟩
  simp only [receiptSchema, Fits, List.forall_mem_cons]
  exact ⟨trivial, trivial, trivial, trivial, trivial, trivial, trivial, trivial, trivial, trivial, trivial,
    trivial, trivial, trivial, by simp⟩

theorem takes_jsonOrNull (text : Option String) : PropertyType.nullableString.Takes (jsonOrNull text) := by
  cases text <;> trivial

theorem fits_service (payload : Service.ReceiptPayload) :
    ∃ fields, payload.toJson = .obj fields ∧ Fits fields receiptSchema := by
  refine ⟨_, rfl, ?_⟩
  simp only [receiptSchema, Fits, List.forall_mem_cons]
  exact ⟨trivial, trivial, trivial, trivial, trivial, trivial, trivial, trivial, trivial, trivial, trivial,
    takes_jsonOrNull payload.referralCode, trivial, trivial, by simp⟩

/-- A receipt of one of the writers. -/
def Stored (receipt : FoundReceipt) : Prop :=
  (∃ stored join, receipt = Payment.PaymentReceipt.found stored join) ∨
    ∃ stored join, receipt = Service.PaymentReceipt.found stored join

theorem Stored.fits_payload {receipt : FoundReceipt} (h : Stored receipt) :
    ∃ fields, receipt.responsePayload = .obj fields ∧ Fits fields receiptSchema := by
  rcases h with ⟨stored, join, rfl⟩ | ⟨stored, join, rfl⟩
  · exact fits_payment stored.responsePayload
  · exact fits_service stored.responsePayload

/-- The route leaves under each name what the payload has there. -/
theorem Stored.fits {receipt : FoundReceipt} (h : Stored receipt) :
    Fits (routeReceipt receipt).fields receiptSchema := by
  obtain ⟨fields, hpayload, hfits⟩ := h.fits_payload
  have htakes : ∀ property ∈ receiptSchema,
      property.2.Takes (payloadOrNull receipt.responsePayload property.1) := by
    rw [hpayload]
    exact hfits
  simp only [receiptSchema, List.forall_mem_cons] at htakes
  simp only [receiptSchema, Fits, List.forall_mem_cons]
  obtain ⟨-, -, -, hnetwork, -, hgross, hfee, hshare, hnet, hbps, htx, hreferral, hconfirmed, -⟩ := htakes
  exact ⟨trivial, trivial, trivial, hnetwork, trivial, hgross, hfee, hshare, hnet, hbps, htx, hreferral,
    hconfirmed, trivial, by simp⟩

/-- What is sent as a success is an object without a status. -/
theorem status_respond {server : ReceiptsServer} {answer : ReceiptAnswer} {json : Json}
    (hok : (server.respond answer).ok = true) (hbody : (server.respond answer).body = .ok json) :
    ∃ properties, json = .obj properties ∧ properties.lookup "status" = none := by
  cases answer with
  | notFound code message => cases hok
  | found receipt =>
      simp only [ReceiptsServer.respond] at hok hbody
      cases hsent : serialize server.serializer receipt.fields receiptSchema with
      | error message =>
          simp only [hsent, HttpResponse.ok, status_errorReply_raised] at hok
          cases hok
      | ok properties =>
          simp only [hsent] at hbody
          exact ⟨properties, (Except.ok.inj hbody).symm, lookup_serialize (by decide) hsent⟩

/-! ### The poll -/

namespace Sdk

namespace FacilitatorClient

variable {client : FacilitatorClient} {receiptId : String}

/-- Every `fetch` is answered by the route, from the rows that there are at the time. -/
def polled (server : ReceiptsServer) (tables : Nat → List FoundReceipt) (n : Nat) (http : HttpRequest) :
    Except ClientError HttpResponse := .ok (server.get (tables n) http.path)

theorem only_request (client : FacilitatorClient) (http : HttpRequest) (attempt : Nat) :
    (client.request http attempt).Only (· = http) := by
  induction hleft : client.retries - attempt using Nat.strongRecOn generalizing attempt with
  | ind left ih =>
      rw [request_eq]
      refine ⟨rfl, fun outcome => ?_⟩
      dsimp only
      split
      · trivial
      · rename_i hretry _
        exact ih (client.retries - (attempt + 1)) (by omega) (attempt + 1) rfl
      · trivial

/-- A poll asks for the receipt: the answers to it are all that matter. -/
theorem answered_getReceipt (client : FacilitatorClient) (server : ReceiptsServer)
    (tables : Nat → List FoundReceipt) (receiptId : String) (n : Nat) :
    (client.getReceipt receiptId).answered (polled server tables) n =
      (client.getReceipt receiptId).answered (fetches fun n => .ok (server.respond
        (receiptsRoute receiptId ((tables n).find? (·.id = receiptId))))) n := by
  refine (client.only_request ⟨"GET", "/receipts/" ++ receiptId, none⟩ 0).answered_congr ?_ n
  rintro n http rfl
  exact congrArg Except.ok (server.get_receipts (tables n) receiptId)

/-- What a poll reads is described by the answer of the route at some time. -/
theorem describes_getReceipt (client : FacilitatorClient) (server : ReceiptsServer)
    (tables : Nat → List FoundReceipt) (receiptId : String) (n : Nat) :
    ∃ time, Describes
      (.ok (server.respond (receiptsRoute receiptId ((tables time).find? (·.id = receiptId)))))
      ((client.getReceipt receiptId).answered (polled server tables) n).2 := by
  rw [answered_getReceipt]
  obtain ⟨last, -, -, -, hdescribes⟩ := answered_request client ⟨"GET", "/receipts/" ++ receiptId, none⟩
    (fun n => .ok (server.respond (receiptsRoute receiptId ((tables n).find? (·.id = receiptId))))) 0 n
  exact ⟨n + last, hdescribes⟩

/-- A receipt that is read is asked for again. -/
theorem isFinal_getReceipt {server : ReceiptsServer} {tables : Nat → List FoundReceipt} {n : Nat}
    {receipt : Option Json}
    (h : ((client.getReceipt receiptId).answered (polled server tables) n).2 = .ok receipt) :
    isFinal receipt = .ok false := by
  obtain ⟨time, hdescribes⟩ := describes_getReceipt client server tables receiptId n
  rw [h] at hdescribes
  cases hdescribes with
  | value hok hbody =>
      obtain ⟨properties, rfl, hstatus⟩ := status_respond hok hbody
      simp [isFinal, readField, Json.field?, hstatus, Except.map]

theorem pollFrom_never_ok (client : FacilitatorClient) (server : ReceiptsServer)
    (tables : Nat → List FoundReceipt) (receiptId : String) (timeoutMs attempts n : Nat)
    (receipt : Option Json) :
    ((client.pollFrom receiptId timeoutMs attempts).answered (polled server tables) n).2 ≠ .ok receipt := by
  induction attempts generalizing n with
  | zero => exact nofun
  | succ attempts ih =>
      rw [pollFrom]
      cases hread : ((client.getReceipt receiptId).answered (polled server tables) n).2 with
      | error error =>
          rw [Program.answered_bind_error hread]
          exact nofun
      | ok found =>
          rw [Program.answered_bind_ok hread]
          simp only [isFinal_getReceipt hread]
          exact ih _

/-- The receipt is in the table at every time, as one of the writers has stored it. -/
def Holds (tables : Nat → List FoundReceipt) (receiptId : String) : Prop :=
  ∀ n, ∃ receipt, (tables n).find? (·.id = receiptId) = some receipt ∧ Stored receipt

theorem exists_getReceipt {server : ReceiptsServer} {tables : Nat → List FoundReceipt}
    (hserver : server.SendsTaken) (hholds : Holds tables receiptId) (client : FacilitatorClient) (n : Nat) :
    ∃ receipt, ((client.getReceipt receiptId).answered (polled server tables) n).2 = .ok receipt := by
  obtain ⟨time, hdescribes⟩ := describes_getReceipt client server tables receiptId n
  obtain ⟨receipt, hfound, hstored⟩ := hholds time
  obtain ⟨properties, hsent⟩ := hstored.fits.exists_serialize hserver
  have hresponse : server.respond (receiptsRoute receiptId ((tables time).find? (·.id = receiptId))) =
      { status := 200, body := .ok (.obj properties) } := by
    simp only [hfound, receiptsRoute, ReceiptsServer.respond, hsent]
  rw [hresponse] at hdescribes
  exact ⟨_, hdescribes.eq_value rfl rfl⟩

theorem pollFrom_times_out {server : ReceiptsServer} {tables : Nat → List FoundReceipt}
    (hserver : server.SendsTaken) (hholds : Holds tables receiptId) (client : FacilitatorClient)
    (timeoutMs attempts n : Nat) :
    ((client.pollFrom receiptId timeoutMs attempts).answered (polled server tables) n).2 =
      .error (.pollTimeout timeoutMs) := by
  induction attempts generalizing n with
  | zero => rfl
  | succ attempts ih =>
      obtain ⟨receipt, hread⟩ := exists_getReceipt hserver hholds client n
      rw [pollFrom, Program.answered_bind_ok hread]
      simp only [isFinal_getReceipt hread]
      exact ih _

/-- **A poll never finds the receipt.** Whatever the rows are, no poll returns; and a poll of a stored
receipt times out. -/
theorem poll_never_finds (client : FacilitatorClient) (server : ReceiptsServer)
    (tables : Nat → List FoundReceipt) (receiptId : String) (options : PollOptions) :
    let result := ((client.pollSettlement receiptId options).answered (polled server tables) 0).2
    (∀ receipt, result ≠ .ok receipt) ∧
      (server.SendsTaken → Holds tables receiptId →
        result = .error (.pollTimeout (options.intervalMs.getD 2000 * options.maxAttempts.getD 30))) :=
  ⟨pollFrom_never_ok client server tables receiptId _ _ 0,
    fun hserver hholds => pollFrom_times_out hserver hholds client _ _ 0⟩

/-- A receipt of `runSettle`. -/
def polledReceipt : FoundReceipt :=
  Service.PaymentReceipt.found
    { id := "rec-0", requestId := "req-0", protocolVersion := "x402/1"
      responsePayload :=
        { settlementId := "set-0", txHash := "0x01", network := "eip155:84532", asset := "0xusdc"
          grossAmount := "1000", feeAmount := "10", developerShare := "5", netAmount := "990", feeBps := 100
          referralCode := none, confirmedAt := "2026-01-01T00:00:00.000Z" } }
    { settlementId := some "set-0", requestAsset := "0xusdc", requestNetwork := some "eip155:84532"
      referralCode := none, createdAt := 0 }

/-- A null becomes the empty text and zero where the schema does not allow it. -/
def sendTaken : PropertySerializer
  | .string, .null => .ok (.str "")
  | .number, .null => .ok (.num (.int 0))
  | _, value => .ok value

theorem sends_sendTaken {server : ReceiptsServer} (h : server.serializer = sendTaken) :
    server.SendsTaken := by
  intro type value _
  rw [h]
  unfold sendTaken
  split <;> exact ⟨_, rfl⟩

/-- The receipt is stored before the poll, and the route answers every request with it. -/
theorem poll_of_stored_times_out :
    ∃ (server : ReceiptsServer) (tables : Nat → List FoundReceipt),
      server.serializer = sendTaken ∧ Holds tables "rec-0" ∧
        (∀ n, (server.get (tables n) "/receipts/rec-0").status = 200) ∧
        (((FacilitatorClient.new none).pollSettlement "rec-0" ⟨none, none⟩).answered
          (polled server tables) 0).2 = .error (.pollTimeout 60000) := by
  let server : ReceiptsServer :=
    ⟨sendTaken, .exported, fun _ => .null, "req-1", fun _ => ⟨404, .error ""⟩⟩
  have hholds : Holds (fun _ => [polledReceipt]) "rec-0" := fun _ =>
    ⟨polledReceipt, rfl, .inr ⟨_, _, rfl⟩⟩
  refine ⟨server, fun _ => [polledReceipt], rfl, hholds, fun _ => ?_,
    pollFrom_times_out (sends_sendTaken rfl) hholds _ _ _ 0⟩
  exact congrArg HttpResponse.status (server.get_receipts [polledReceipt] "rec-0")

end FacilitatorClient

end Sdk

end FacilitatorX402
