import Parley.Http.Target

/-!
# Routes

The paths that the server knows, and the methods of each. Parts of a path that stand for a number
are kept as they are; they are read only when the request is answered.
-/

namespace Parley.Http

inductive Route where
  | health
  | createAccount
  | login
  | logout
  | searchUsers
  | user (id : String)
  | inbox
  | conversation (id : String)
  | messages (id : String)
  | readMarker (id : String)
  | unreadCount (id : String)
  deriving DecidableEq, Repr

namespace Route

/-- The route of a path. A fixed part goes before a number in its place, and a number at the end of
a path is not empty. -/
def ofSegments? : List String → Option Route
  | ["", "health"] => some .health
  | ["", "api", "account", "create"] => some .createAccount
  | ["", "api", "account", "login"] => some .login
  | ["", "api", "account", "logout"] => some .logout
  | ["", "api", "users", "search"] => some .searchUsers
  | ["", "api", "users", id] => if id.isEmpty then none else some (.user id)
  | ["", "api", "conversations"] => some .inbox
  | ["", "api", "conversations", id] => if id.isEmpty then none else some (.conversation id)
  | ["", "api", "conversations", id, "messages"] => some (.messages id)
  | ["", "api", "conversations", id, "read"] => some (.readMarker id)
  | ["", "api", "conversations", id, "unread"] => some (.unreadCount id)
  | _ => none

def of? (target : String) : Option Route := ofSegments? (segments target)

def isProtected : Route → Bool
  | .health | .createAccount | .login => false
  | _ => true

def hasGet : Route → Bool
  | .health | .user _ | .inbox | .conversation _ | .messages _ | .unreadCount _ => true
  | .createAccount | .login | .logout | .searchUsers | .readMarker _ => false

def hasPost : Route → Bool
  | .health | .user _ | .inbox | .unreadCount _ => false
  | .createAccount | .login | .logout | .searchUsers | .conversation _ | .messages _
  | .readMarker _ => true

def allowed (r : Route) : String :=
  match r.hasGet, r.hasPost with
  | true, true => "GET,HEAD,POST"
  | true, false => "GET,HEAD"
  | false, true => "POST"
  | false, false => ""

end Route

inductive Verb where
  | get
  | post
  deriving DecidableEq, Repr

def Route.verb? (r : Route) (method : String) : Option Verb :=
  if (method = "GET" ∨ method = "HEAD") ∧ r.hasGet then some .get
  else if method = "POST" ∧ r.hasPost then some .post
  else none

end Parley.Http
