import Parley.Http.MediaType
import Parley.Http.Reply

/-!
# Request bodies

The forms that requests carry, and what is read from them.
-/

namespace Parley.Http

open Json (Form Field)

def Request.maxBody : Nat := 2097152

def Request.readAs (r : Request) (form : Form) (build : List (Option String) → Option α) :
    Except Reply α := do
  if !r.hasJsonBody then throw .notJson
  if maxBody < r.body.length then throw .tooLong
  match build (← (form.read r.body).mapError .ofBodyFault) with
  | some a => return a
  | none => throw (.ofBodyFault .malformed)

structure Registration where
  username : String
  email : String
  password : String
  deriving DecidableEq, Repr

namespace Registration

def form : Form :=
  ⟨"CreateAccountRequest", [⟨"username", false⟩, ⟨"email", false⟩, ⟨"password", false⟩]⟩

def build : List (Option String) → Option Registration
  | [some username, some email, some password] => some { username, email, password }
  | _ => none

def read (r : Request) : Except Reply Registration := r.readAs form build

end Registration

structure Credentials where
  username : String
  password : String
  deriving DecidableEq, Repr

namespace Credentials

def form : Form := ⟨"LoginRequest", [⟨"username", false⟩, ⟨"password", false⟩]⟩

def build : List (Option String) → Option Credentials
  | [some username, some password] => some { username, password }
  | _ => none

def read (r : Request) : Except Reply Credentials := r.readAs form build

end Credentials

structure UserSearch where
  username : String
  deriving DecidableEq, Repr

namespace UserSearch

def form : Form := ⟨"SearchUsersRequest", [⟨"username", false⟩]⟩

def build : List (Option String) → Option UserSearch
  | [some username] => some { username }
  | _ => none

def read (r : Request) : Except Reply UserSearch := r.readAs form build

end UserSearch

structure Posting where
  content : String
  key : Option String
  deriving DecidableEq, Repr

namespace Posting

def form : Form :=
  ⟨"SendMessageRequest", [⟨"encrypted_content", false⟩, ⟨"client_message_id", true⟩]⟩

def build : List (Option String) → Option Posting
  | [some content, key] => some { content, key }
  | _ => none

def read (r : Request) : Except Reply Posting := r.readAs form build

end Posting
end Parley.Http
