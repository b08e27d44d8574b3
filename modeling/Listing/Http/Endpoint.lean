import Listing.Description
import Listing.FormEncoding
import Listing.Http.Response
import Listing.Http.Target
import Listing.Registry

set_option autoImplicit false

namespace Listing.Http

/-!
# Endpoints

The two endpoints of an entity: its rows, and the description of what may be asked of it. An
endpoint does not run a statement; it says which statement it sends and how it answers the reply.
-/

/-- What the database answers a statement: rows, each an object, or an error. -/
abbrev Reply := Except DatabaseError (List Json)

inductive Action where
  /-- Answers at once. -/
  | answer (response : Response)
  /-- Sends a statement and answers when the reply is there. -/
  | query (select : Sql.Select) (respond : Reply → Response)

namespace Action

/-- The response with a given database. -/
def response (database : Sql.Select → Reply) : Action → Response
  | .answer response => response
  | .query select respond => respond (database select)

def queries : Action → List Sql.Select
  | .answer _ => []
  | .query select _ => [select]

def mapResponse (change : Response → Response) : Action → Action
  | .answer response => .answer (change response)
  | .query select respond => .query select fun reply => change (respond reply)

end Action

/-- The response to a reply: the rows in the order of the database, or its error. -/
def respondRows : Reply → Response
  | .ok rows => .json 200 (.array rows)
  | .error error => (ApiError.ofDatabaseError error).response

/-- The selection that query pairs ask of an entity. -/
def selectRows (registry : Registry) (entity : Entity) (pairs : List (String × String)) :
    Except RequestError Sql.Select := do
  let request ← Request.ofPairs pairs
  registry.index entity request (.ofEntity entity)

def indexEndpoint (registry : Registry) (entity : Entity) (pairs : List (String × String)) :
    Action :=
  match selectRows registry entity pairs with
  | .error error => .answer (ApiError.ofRequestError error).response
  | .ok select => .query select respondRows

def describeEndpoint (registry : Registry) (entity : Entity) : Action :=
  match registry.get? entity with
  | none => .answer (ApiError.ofRequestError (.notConfigured entity.table)).response
  | some resource => .answer (.json 200 resource.describe.toJson)

/-! ## Routes -/

/-- The endpoints that are reachable: below each path those of an entity. -/
abbrev Routes := List (String × Entity)

/-- The action of the endpoint at the path of a target, compared character by character. -/
def endpointAt? (registry : Registry) (routes : Routes) (target : Target) : Option Action :=
  routes.findSome? fun (base, entity) =>
    if target.path = base.toList then
      some (indexEndpoint registry entity (FormEncoding.pairs target.query))
    else if target.path = base.toList ++ "/filters".toList then
      some (describeEndpoint registry entity)
    else none

/-- The action for a request. An endpoint can be read, or asked for its head alone, which has no
body; no other method is allowed. -/
def route (registry : Registry) (routes : Routes) (method target : String) : Action :=
  match endpointAt? registry routes (.ofText target) with
  | none => .answer (.empty 404)
  | some action =>
    if method = "GET" then action
    else if method = "HEAD" then action.mapResponse fun response => { response with body := "" }
    else .answer (.empty 405)

end Listing.Http
