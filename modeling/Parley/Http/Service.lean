import Parley.Draws
import Parley.Http.Bodies
import Parley.Http.Route

/-!
# The service

What the server does with a request. A handler works on the database until it replies or refuses,
and what it has done to the database by then has been done in either case.
-/

namespace Parley.Http

/-- What a request is answered from: the request itself, the clock, the random draws for it, and the
database that it finds. -/
structure Call where
  request : Request
  now : Instant
  draws : Draws
  db : Database

abbrev Handler := Attempt Reply Database

namespace Handler

def store (refuse : StoreError → Reply) (x : Database → Database.Result α) : Handler α := fun db =>
  match x db with
  | .ok a db => .ok a db
  | .error e db => .error (refuse e) db

def read (refuse : StoreError → Reply) (q : Tables → Except StoreError α) : Handler α :=
  store refuse (·.read q)

end Handler

namespace Call

open Handler (read store)

variable (c : Call)

-- ---------------------------------------------------------------------------
-- Accounts
-- ---------------------------------------------------------------------------

def customerRole : String := "customer"

def sessionReply (token : String) (userId : Int) (username : String) : Reply :=
  .json 200 (.obj [("token", .str token), ("user_id", .int userId), ("username", .str username)])

def refuseAccount (e : StoreError) : Reply :=
  if e.isUnique then .refusal 409 "Username or email already exists" false else .ofStoreError e

def createAccount : Handler Reply := do
  let form ← Registration.read c.request
  if Text.allBlank form.username then throw (.refusal 400 "Username cannot be empty" false)
  if !form.email.toList.contains '@' then throw (.refusal 400 "Email address is invalid" false)
  if form.password.isEmpty then throw (.refusal 400 "Password cannot be empty" false)
  let token := c.draws.tokenText
  let user : NewUser :=
    { username := form.username, email := form.email
      passwordHash := Password.hash c.draws.salt form.password, role := customerRole }
  let u ← store refuseAccount (·.createAccount c.now user token)
  return sessionReply token u.id u.username

def wrongCredentials : Reply := .refusal 401 "Invalid username or password" false

def refuseLogin : StoreError → Reply
  | .notFound _ => wrongCredentials
  | e => .ofStoreError e

def login : Handler Reply := do
  let form ← Credentials.read c.request
  let user ← read refuseLogin (·.userByName form.username)
  match Password.verify form.password user.passwordHash with
  | .error fault => throw (.refusal 500 s!"Password verification error: {fault.message}" false)
  | .ok false => throw wrongCredentials
  | .ok true =>
    let token := c.draws.tokenText
    store .ofStoreError (·.transact (.change (·.createSession user.id token c.now)))
    return sessionReply token user.id user.username

def logout (userId : Int) : Handler Reply := do
  let _ ← store .ofStoreError (·.transact (.change (·.deleteSessions userId)))
  return .empty 204

-- ---------------------------------------------------------------------------
-- Users
-- ---------------------------------------------------------------------------

def getUser (userId requestedId : Int) : Handler Reply := do
  if requestedId ≠ userId then
    throw (.refusal 403 "Account does not belong to the authenticated user" false)
  return .json 200 (← read .ofStoreError (·.userById userId)).toJson

def searchLimit : Int := 20

def searchUsers : Handler Reply := do
  let form ← UserSearch.read c.request
  let term := Text.trim form.username
  if term.isEmpty then throw (.refusal 400 "Search term cannot be empty" false)
  let users ← read .ofStoreError (·.searchUsers term searchLimit)
  return .json 200 (.obj [("users", .ofList UserSummary.toJson users),
    ("count", .int users.length)])

-- ---------------------------------------------------------------------------
-- Conversations
-- ---------------------------------------------------------------------------

def page (defaultLimit : Int) : Except Reply Page := do
  return .resolve (← (pageRequest c.request.target).mapError .ofQueryFault) defaultLimit

def listInbox (userId : Int) : Handler Reply := do
  let page ← c.page 20
  let entries ← read .ofStoreError fun t => .ok (t.listInbox userId page)
  return .json 200 (.ofList InboxEntry.toJson entries)

def refuseOther : StoreError → Reply
  | .notFound _ => .refusal 404 "Other user not found" false
  | e => .ofStoreError e

def openConversation (userId otherId : Int) : Handler Reply := do
  if otherId = userId then
    throw (.refusal 400 "Cannot create conversation with yourself" false)
  let _ ← read refuseOther (·.userById otherId)
  let result ← store .ofStoreError (·.getOrCreateDirect c.now userId otherId)
  return .json (if result.isNew then 201 else 200) (.obj
    [("conversation_id", .int result.conversation.id), ("is_new", .bool result.isNew),
      ("updated_at", result.conversation.updatedAt.toJson)])

def requireParticipant (conversationId userId : Int) : Handler Unit := do
  if !(← read .ofStoreError fun t => .ok (t.isParticipant conversationId userId)) then
    throw (.refusal 403 "You are not a participant in this conversation" false)

def getConversation (userId conversationId : Int) : Handler Reply := do
  let conversation ← read .ofStoreError (·.conversationById conversationId)
  requireParticipant conversationId userId
  let participants ← read .ofStoreError fun t => .ok (t.participantsOf conversationId)
  return .json 200 (.obj [("conversation", conversation.toJson),
    ("participants", .ofList Participant.toJson participants)])

-- ---------------------------------------------------------------------------
-- Messages
-- ---------------------------------------------------------------------------

def getMessages (userId conversationId : Int) : Handler Reply := do
  let page ← c.page 50
  requireParticipant conversationId userId
  let messages ← read .ofStoreError fun t => .ok (t.listMessages conversationId page)
  return .json 200 (.ofList Message.toJson messages)

def sentReply (status : Nat) (m : Message) (key : String) (updatedAt : Option Stamp)
    (duplicate : Bool) : Reply :=
  .json status (.obj [("message_id", .int m.id), ("client_message_id", .str key),
    ("sent_at", m.sentAt.toJson), ("conversation_updated_at", .ofOption Stamp.toJson updatedAt),
    ("duplicate", .bool duplicate)])

def requireContent (content : String) : Except Reply Unit := do
  if content.isEmpty then throw (.refusal 400 "Message content cannot be empty" false)
  if !Base64.isEncoded .standard content.toList then
    throw (.refusal 400 "Message content must be base64 encoded" false)

def messageKey (given : Option String) : String :=
  match given.filter fun key => !Text.allBlank key with
  | some key => key
  | none => c.draws.keyText

def sendMessage (userId conversationId : Int) : Handler Reply := do
  let form ← Posting.read c.request
  requireContent form.content
  requireParticipant conversationId userId
  let key := c.messageKey form.key
  let message : NewMessage := { conversationId, senderId := userId, content := form.content, key }
  match ← store .ofStoreError (·.sendMessage c.now message) with
  | .sent m conversation => return sentReply 201 m key (some conversation.updatedAt) false
  | .duplicate existing =>
    if existing.conversationId ≠ conversationId ∨ existing.senderId ≠ userId then
      throw (.refusal 409 "client_message_id is already in use" false)
    return sentReply 200 existing key none true

def markAsRead (userId conversationId : Int) : Handler Reply := do
  requireParticipant conversationId userId
  store .ofStoreError (·.markAsRead c.now conversationId userId)
  return .empty 204

def unreadCount (userId conversationId : Int) : Handler Reply := do
  requireParticipant conversationId userId
  let count ← store .ofStoreError (·.unreadCount conversationId userId)
  return .json 200 (.obj [("conversation_id", .int conversationId), ("unread_count", .int count)])

-- ---------------------------------------------------------------------------
-- Routes
-- ---------------------------------------------------------------------------

def authenticate : Except Reply Int :=
  match c.request.bearerToken? with
  | none => .error (.empty 401)
  | some token =>
    match c.db.query (·.userIdByToken token) with
    | .ok userId => .ok userId
    | .error (.notFound _) => .error (.empty 401)
    | .error _ => .error (.empty 500)

def pathId (segment : String) : Except Reply Int := (readId segment).mapError .ofPathFault

def servePublic : Route → Handler Reply
  | .health => return .text 200 "OK"
  | .createAccount => c.createAccount
  | .login => c.login
  | _ => throw (.empty 404)

def serveUser (userId : Int) (verb : Verb) : Route → Handler Reply
  | .logout => logout userId
  | .searchUsers => c.searchUsers
  | .user id => do getUser userId (← pathId id)
  | .inbox => c.listInbox userId
  | .conversation id => do
    let id ← pathId id
    match verb with
    | .get => getConversation userId id
    | .post => c.openConversation userId id
  | .messages id => do
    let id ← pathId id
    match verb with
    | .get => c.getMessages userId id
    | .post => c.sendMessage userId id
  | .readMarker id => do c.markAsRead userId (← pathId id)
  | .unreadCount id => do unreadCount userId (← pathId id)
  | _ => throw (.empty 404)

/-- Answers a request to a route. Who asks is looked at before what is asked for. -/
def serve (route : Route) : Handler Reply :=
  let allow := [("allow", route.allowed)]
  match route.verb? c.request.method, route.isProtected with
  | some _, false => c.servePublic route
  | some verb, true => do c.serveUser (← c.authenticate) verb route
  | none, false => throw ((Reply.empty 405).withHeaders allow)
  | none, true =>
    match c.authenticate with
    | .ok _ => throw ((Reply.empty 405).withHeaders allow)
    | .error r => throw (r.withHeaders allow)

def originHeaders : List (String × String) :=
  [("vary", "origin, access-control-request-method, access-control-request-headers"),
    ("access-control-allow-origin", "*")]

def preflight : Reply :=
  let allow := match Route.of? c.request.target with
    | some route => [("allow", route.allowed)]
    | none => []
  (Reply.empty 200).withHeaders
    (allow ++ [("access-control-allow-methods", "*"), ("access-control-allow-headers", "*")])

def answer : Reply × Database :=
  let (reply, db) :=
    if c.request.method = "OPTIONS" then (c.preflight, c.db)
    else
      match Route.of? c.request.target with
      | none => (Reply.empty 404, c.db)
      | some route =>
        match c.serve route c.db with
        | .ok served db => (served, db)
        | .error refused db => (refused, db)
  let reply := if c.request.method = "HEAD" then reply.headOnly else reply
  (reply.withHeaders originHeaders, db)

end Call
end Parley.Http
