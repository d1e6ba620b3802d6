import FacilitatorX402.Infrastructure.Receipts

/-!
# The answers of GET /receipts/:id

The route sends an object, and the serializer of the framework sends of it the properties that the schema
of the answer lists.
-/

namespace FacilitatorX402

/-- The types of properties in the schemas of the route. -/
inductive PropertyType where
  | string
  | nullableString
  | number
  deriving DecidableEq

/-- What the serializer makes of a value that the schema gives a type. It may throw. -/
abbrev PropertySerializer := PropertyType → Json → Except String Json

/-- An object by its schema: the properties that are defined, in the order of the schema. -/
def serialize (serializer : PropertySerializer) (fields : List (String × Json)) :
    List (String × PropertyType) → Except String (List (String × Json))
  | [] => .ok []
  | (name, type) :: schema =>
      match fields.lookup name with
      | none => serialize serializer fields schema
      | some value =>
          match serializer type value, serialize serializer fields schema with
          | .ok value, .ok properties => .ok ((name, value) :: properties)
          | .error message, _ => .error message
          | _, .error message => .error message

/-- The schema of a receipt. -/
def receiptSchema : List (String × PropertyType) :=
  [("receiptId", .string), ("requestId", .string), ("protocolVersion", .string), ("network", .string),
    ("asset", .string), ("grossAmount", .string), ("feeAmount", .string), ("developerShare", .string),
    ("netAmount", .string), ("feeBps", .number), ("txHash", .string), ("referralCode", .nullableString),
    ("confirmedAt", .string), ("createdAt", .string)]

/-- The object that the route sends. -/
def RouteReceipt.fields (receipt : RouteReceipt) : List (String × Json) :=
  [("receiptId", .str receipt.receiptId), ("requestId", .str receipt.requestId),
    ("protocolVersion", .str receipt.protocolVersion), ("network", receipt.network),
    ("asset", .str receipt.asset), ("grossAmount", receipt.grossAmount),
    ("feeAmount", receipt.feeAmount), ("developerShare", receipt.developerShare),
    ("netAmount", receipt.netAmount), ("feeBps", receipt.feeBps), ("txHash", receipt.txHash),
    ("referralCode", receipt.referralCode), ("confirmedAt", receipt.confirmedAt),
    ("createdAt", .str receipt.createdAt)]

/-- What is around the route: the serializer of the framework, what it answers where the error handler
throws, and the other routes. -/
structure ReceiptsServer where
  serializer : PropertySerializer
  errorsTotal : ErrorsTotal
  fallback : Err → Json
  requestId : String
  otherRoutes : String → HttpResponse

def ReceiptsServer.respond (server : ReceiptsServer) : ReceiptAnswer → HttpResponse
  | .notFound code message =>
      { status := 404
        body := .ok (.obj [("error", .obj [("code", .str code), ("message", .str message)])]) }
  | .found receipt =>
      match serialize server.serializer receipt.fields receiptSchema with
      | .ok properties => { status := 200, body := .ok (.obj properties) }
      | .error message => errorReply server.fallback server.errorsTotal server.requestId (.raised message)

/-- The answer to GET of a path. The rows are those that `findUnique` searches, with what it joins. -/
def ReceiptsServer.get (server : ReceiptsServer) (receipts : List FoundReceipt) (path : String) :
    HttpResponse :=
  if "/receipts/".toList.isPrefixOf path.toList then
    let id := String.ofList (path.toList.drop "/receipts/".length)
    server.respond (receiptsRoute id (receipts.find? (·.id = id)))
  else server.otherRoutes path

theorem ReceiptsServer.get_receipts (server : ReceiptsServer) (receipts : List FoundReceipt)
    (id : String) : server.get receipts ("/receipts/" ++ id) =
      server.respond (receiptsRoute id (receipts.find? (·.id = id))) := by
  have hid : String.ofList (("/receipts/" ++ id).toList.drop "/receipts/".length) = id := by
    rw [String.toList_append, ← String.length_toList, List.drop_left, String.ofList_toList]
  have hpath : "/receipts/".toList.isPrefixOf ("/receipts/" ++ id).toList = true := by simp
  rw [get, if_pos hpath, hid]

end FacilitatorX402
