import FacilitatorX402.Http.Errors
import FacilitatorX402.Protocol.X402Parser

/-!
# The error handler

What becomes of an error that a route throws: a status and a JSON body, unless the handler throws itself.
-/

namespace FacilitatorX402

/-- A response; a body that is not JSON has the message of the parser instead. -/
structure HttpResponse where
  status : Nat
  body : Except String Json

/-- `response.ok`. -/
def HttpResponse.ok (response : HttpResponse) : Bool :=
  200 ≤ response.status && response.status ≤ 299

/-- A field of an object; nothing else has one. -/
def Json.field? (name : String) : Json → Option Json
  | .obj fields => fields.lookup name
  | _ => none

/-- A field that is undefined is not sent. -/
def definedField (name : String) (value : Option String) : List (String × Json) :=
  (value.map fun text => (name, Json.str text)).toList

def toErrorResponse (error : FacilitatorError) : Json :=
  .obj [("error", .obj
    ([("code", .str error.code)] ++ definedField "reason" error.reason
      ++ [("message", .str error.message)] ++ definedField "correlationId" error.correlationId))]

def unknownErrorResponse (requestId : String) : Json :=
  .obj [("error", .obj
    [("code", .str "internal_error"), ("reason", .str "Internal server error"),
      ("message", .str "An unexpected error occurred"), ("correlationId", .str requestId)])]

/-- What `errorsTotal` is imported as. The metrics export nothing of that name. -/
inductive ErrorsTotal where
  | undefined
  | counter
  deriving DecidableEq

def ErrorsTotal.exported : ErrorsTotal := .undefined

/-- What is thrown where `inc` is read of nothing. -/
def undefinedInc : Err := .raised "Cannot read properties of undefined (reading 'inc')"

/-- `errorsTotal.inc`; what it counts, nothing reads. -/
def ErrorsTotal.inc : ErrorsTotal → Except Err Unit
  | .undefined => .error undefinedInc
  | .counter => .ok ()

/-- An error is counted before the handler replies. A code that the table of statuses does not list has no
status, and the framework refuses to send it. -/
def errorHandler (errorsTotal : ErrorsTotal) (requestId : String) : Err → Except Err HttpResponse
  | .facilitator error => do
      errorsTotal.inc
      match error.httpStatus with
      | some status => return { status := status, body := .ok (toErrorResponse error) }
      | none => .error (.raised "Called reply with an invalid status code: undefined")
  | .raised _ => do
      errorsTotal.inc
      return { status := 500, body := .ok (unknownErrorResponse requestId) }

/-- What is sent for an error. The framework replies to what the handler throws, with 500 and a body of its
own. -/
def errorReply (fallback : Err → Json) (errorsTotal : ErrorsTotal) (requestId : String) (error : Err) :
    HttpResponse :=
  match errorHandler errorsTotal requestId error with
  | .ok response => response
  | .error thrown => { status := 500, body := .ok (fallback thrown) }

/-- Without the counter nothing is replied to. -/
theorem errorHandler_undefined (requestId : String) (error : Err) :
    errorHandler .undefined requestId error = .error undefinedInc := by
  cases error <;> rfl

theorem errorReply_undefined (fallback : Err → Json) (requestId : String) (error : Err) :
    errorReply fallback .undefined requestId error = ⟨500, .ok (fallback undefinedInc)⟩ := by
  rw [errorReply, errorHandler_undefined]

theorem status_errorReply_raised {fallback : Err → Json} {errorsTotal : ErrorsTotal}
    {requestId message : String} :
    (errorReply fallback errorsTotal requestId (.raised message)).status = 500 := by
  cases errorsTotal <;> rfl

theorem errorHandler_listed {requestId code : String} {message correlationId : Option String}
    (hcode : code ∈ errorCodes) :
    ∃ status, httpStatusMap.lookup code = some status ∧
      errorHandler .counter requestId (.facilitator (createError code message correlationId)) =
        .ok ⟨status, .ok (toErrorResponse (createError code message correlationId))⟩ := by
  obtain ⟨status, hstatus⟩ :=
    Option.isSome_iff_exists.mp (lookup_isSome_of_mem_errorCodes code hcode).1
  refine ⟨status, hstatus, ?_⟩
  simp only [errorHandler, createError, hstatus]
  rfl

theorem errorReply_listed {fallback : Err → Json} {requestId code : String}
    {message correlationId : Option String} (hcode : code ∈ errorCodes) :
    ∃ status, httpStatusMap.lookup code = some status ∧
      errorReply fallback .counter requestId (.facilitator (createError code message correlationId)) =
        ⟨status, .ok (toErrorResponse (createError code message correlationId))⟩ := by
  obtain ⟨status, hstatus, hreply⟩ :=
    @errorHandler_listed requestId code message correlationId hcode
  exact ⟨status, hstatus, by rw [errorReply, hreply]⟩

end FacilitatorX402
