import Parley.Http.Target
import Parley.Json.Form
import Parley.Json.Value

/-!
# Replies

What the server sends back, and the replies that refuse a request.
-/

namespace Parley.Http

inductive Content where
  | none
  | text (s : String)
  | json (j : Json)

structure Reply where
  status : Nat
  headers : List (String × String)
  content : Content

namespace Reply

def empty (status : Nat) : Reply := ⟨status, [], .none⟩

def text (status : Nat) (s : String) : Reply :=
  ⟨status, [("content-type", "text/plain; charset=utf-8")], .text s⟩

def json (status : Nat) (j : Json) : Reply :=
  ⟨status, [("content-type", "application/json")], .json j⟩

def withHeaders (r : Reply) (fields : List (String × String)) : Reply :=
  { r with headers := r.headers ++ fields }

def headOnly (r : Reply) : Reply := { r with content := .none }

def refusal (status : Nat) (reason : String) (retryable : Bool) : Reply :=
  json status (.obj [("error", .str reason), ("retryable", .bool retryable)])

-- ---------------------------------------------------------------------------
-- Refusals by cause
-- ---------------------------------------------------------------------------

def ofStoreError : StoreError → Reply
  | .invalid reason => refusal 400 reason.message false
  | .notFound what => refusal 404 s!"{what.name} not found" false
  | .notUnique columns => refusal 409 (StoreError.notUnique columns).message false
  | .foreignKey => refusal 409 StoreError.foreignKey.message false
  | .conflict _ => refusal 503 "Concurrent update, please retry" true
  | .failure _ => refusal 500 "Database error" false

def ofPathFault : PathFault → Reply
  | .badText => text 400 "Invalid URL: Invalid UTF-8 in `id`"
  | .badNumber s => text 400 s!"Invalid URL: Cannot parse `{Text.quoted s}` to a `i64`"

def ofQueryFault (f : QueryFault) : Reply :=
  text 400 s!"Failed to deserialize query string: {f.message}"

def notJson : Reply := text 415 "Expected request with `Content-Type: application/json`"

def tooLong : Reply := text 413 "Failed to buffer the request body: length limit exceeded"

def ofBodyFault : Json.Fault → Reply
  | .malformed => text 400 Json.Fault.malformed.message
  | .misfit place reason => text 422 (Json.Fault.misfit place reason).message

end Reply
end Parley.Http
