import Listing.Error
import Listing.Json.Printer
import Listing.Text.Blank

set_option autoImplicit false

namespace Listing.Http

/-!
# Responses

What goes back to a client, and which errors it is told of. Errors of the server keep their
details to themselves.
-/

structure Response where
  status : Nat
  contentType : Option String
  body : String
deriving DecidableEq, Repr

def Response.json (status : Nat) (document : Json) : Response :=
  ⟨status, some "application/json", document.compact⟩

def Response.empty (status : Nat) : Response :=
  ⟨status, none, ""⟩

inductive DatabaseError where
  | recordNotFound (text : String)
  | custom (text : String)
  | type (text : String)
  | json (text : String)
  | migration (text : String)
  /-- Any other failure, such as a lost connection or a statement that cannot be run. -/
  | other (text : String)
deriving DecidableEq, Repr

/-- An error as it leaves the server. The details of an internal error are for the server alone. -/
inductive ApiError where
  | badRequest (message : String)
  | notFound (resource : String)
  | database (error : DatabaseError)
  | internal (message : String) (details : Option String)
deriving DecidableEq, Repr

namespace ApiError

def status : ApiError → Nat
  | .badRequest _ => 400
  | .notFound _ => 404
  | .database _ => 500
  | .internal _ _ => 500

/-- What the client is told. -/
def message : ApiError → String
  | .badRequest message => message
  | .notFound resource => resource ++ " not found"
  | .database _ => "A database error occurred"
  | .internal message _ => message

def response (error : ApiError) : Response :=
  .json error.status (.object [("error", .string error.message)])

/-- A refused request is answered with its reason; that a resource has no configuration is the
server's affair. -/
def ofRequestError (error : RequestError) : ApiError :=
  if error.isClientError then .badRequest error.message
  else .internal "Resource is not queryable" (some error.message)

/-- A missing record is named by the first word of what the database says. -/
def ofDatabaseError : DatabaseError → ApiError
  | .recordNotFound text => .notFound ((Text.firstWord? text).getD "Resource")
  | error => .database error

end ApiError

end Listing.Http
