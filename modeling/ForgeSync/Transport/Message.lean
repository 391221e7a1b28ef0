import ForgeSync.Hosted
import ForgeSync.Json.Read
import ForgeSync.Json.Decode

/-!
# Requests and responses

A request as the client builds it: a method, a path (relative to the service's API root, or a
full URL), query pairs in order, an optional JSON body and header overrides for this request
only.  A response as the client receives it: the body's bytes, the status, the session data
from its headers and, for GitHub, the number of the next page named by its link header.

Decoding a body reads its bytes as JSON and then as the expected record; a failure of either
step is a decoding error whose message ends with the status and the body's size in bytes.
-/

namespace ForgeSync

/-- An HTTP method. -/
inductive Method where
  | get
  | post
  | put
  | patch
  | delete
  deriving Repr, DecidableEq, Inhabited

/-- The name of a method on the wire. -/
def Method.name : Method → String
  | .get => "GET"
  | .post => "POST"
  | .put => "PUT"
  | .patch => "PATCH"
  | .delete => "DELETE"

/-- A request to a service. -/
structure Request where
  method : Method
  path : String
  query : List (String × String) := []
  body : Option Json := none
  headers : List (String × String) := []
  deriving Inhabited

namespace Request

/-- A request with a method and a path, and nothing else yet. -/
def new (method : Method) (path : String) : Request := { method, path }

/-- Add a query pair at the end. -/
def withQuery (r : Request) (key value : String) : Request :=
  { r with query := r.query ++ [(key, value)] }

/-- Add a query pair when there is a value. -/
def withOptionalQuery (r : Request) (key : String) (value : Option String) : Request :=
  match value with
  | some v => r.withQuery key v
  | none => r

/-- Set the body. -/
def withBody (r : Request) (body : Json) : Request := { r with body := some body }

/-- Add a header override. -/
def withHeader (r : Request) (name value : String) : Request :=
  { r with headers := r.headers ++ [(name, value)] }

end Request

/-- A response from a service. -/
structure Response where
  body : List UInt8 := []
  status : Nat := 200
  session : Session := {}
  nextPage : Option Nat := none
  deriving Inhabited

namespace Response

/-- The decoding error for this response, after the reader's own words. -/
def decodeError (r : Response) (words : String) : ApiError :=
  .decode (words ++ " (status " ++ toString r.status ++ ", " ++ toString r.body.length ++ " bytes)")

/-- Read the body as JSON and then as a record. -/
def decode {α : Type} (r : Response) (read : Json → Json.Decoded α) : Except ApiError α :=
  match Json.parseBytes r.body with
  | none => .error (r.decodeError "invalid JSON")
  | some j =>
    match read j with
    | .ok v => .ok v
    | .error m => .error (r.decodeError m)

end Response

end ForgeSync
