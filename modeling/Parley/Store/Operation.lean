import Parley.Store.Database
import Parley.Text.Blank

/-!
# Operations

Accounts, conversations and messages: what the store does as a whole. An operation makes its
statements in one transaction. Where a key is taken, the transaction is rolled back first, and what
has the key is looked for after that.
-/

namespace Parley

structure NewConversation where
  conversation : Conversation
  first : Participant
  second : Participant
  deriving DecidableEq

structure DirectConversation where
  conversation : Conversation
  isNew : Bool
  deriving DecidableEq

inductive SendOutcome where
  | sent (message : Message) (conversation : Conversation)
  | duplicate (existing : Message)
  deriving DecidableEq

namespace Database

open Transaction (change)

-- ---------------------------------------------------------------------------
-- Accounts
-- ---------------------------------------------------------------------------

def createAccount (db : Database) (now : Instant) (user : NewUser) (token : String) : Result User :=
  db.transact do
    let u ← change (·.createUser user now)
    change (·.createSession u.id token now)
    return u

-- ---------------------------------------------------------------------------
-- Conversations
-- ---------------------------------------------------------------------------

/-- A reference that does not exist can only be the user's. -/
def asMissingUser : StoreError → StoreError
  | .foreignKey => .notFound .user
  | e => e

def insertConversation (now : Instant) (directKey : Option String) (a b : Int) :
    Transaction NewConversation := do
  let c ← change (·.createConversation directKey now)
  let first ← (change (·.addParticipant c.id a now)).adaptExcept asMissingUser
  let second ← (change (·.addParticipant c.id b now)).adaptExcept asMissingUser
  return ⟨c, first, second⟩

/-- A new conversation of two users, whether or not they have one. -/
def createConversation (db : Database) (now : Instant) (a b : Int) : Result NewConversation :=
  db.transact (insertConversation now none a b)

def openDirect (now : Instant) (pair : Pair) : Transaction DirectConversation := do
  match (← get).tables.findDirect pair with
  | .ok id => return ⟨← Transaction.query (·.conversationById id), false⟩
  | .error (.notFound _) =>
    let n ← insertConversation now (some pair.key) pair.low pair.high
    return ⟨n.conversation, true⟩
  | .error e => throw e

def refetchDirect (db : Database) (pair : Pair) : Result DirectConversation :=
  match db.query (·.findDirect pair) with
  | .ok id => (db.read (·.conversationById id)).map (⟨·, false⟩)
  | .error (.notFound _) => .error (.conflict (.conversationHidden pair.key)) db
  | .error e => .error e db

def getOrCreateDirect (db : Database) (now : Instant) (a b : Int) : Result DirectConversation :=
  match Pair.of a b with
  | .error e => .error e db
  | .ok pair =>
    match db.transact (openDirect now pair) with
    | .error (.notUnique _) db => db.refetchDirect pair
    | r => r

-- ---------------------------------------------------------------------------
-- Messages
-- ---------------------------------------------------------------------------

/-- A reference that does not exist can only be the sender's. -/
def asMissingSender : StoreError → StoreError
  | .foreignKey => .notFound .sender
  | e => e

/-- Stores a message and moves its conversation's activity. The message is stamped with the clock,
but never before the last activity, so that messages stand in the order in which they were stored
whatever the clock does. -/
def deliver (now : Instant) (m : NewMessage) : Transaction SendOutcome := do
  let lastActivity ← change (·.lockConversation m.conversationId)
  let sentAt := max now lastActivity
  let message ← (change (·.createMessage m sentAt)).adaptExcept asMissingSender
  change (·.touchConversation message.conversationId message.sentAt.instant)
  let conversation ← Transaction.query (·.conversationById message.conversationId)
  return .sent message conversation

def existingMessage (db : Database) (key : String) : Result SendOutcome :=
  match db.query (·.messageByKey key) with
  | .ok m => .ok (.duplicate m) db
  | .error (.notFound _) => .error (.conflict (.messageHidden key)) db
  | .error e => .error e db

/-- Sends a message. A key that has been used is no error: the answer is the message that was stored
with it. -/
def sendMessage (db : Database) (now : Instant) (m : NewMessage) : Result SendOutcome :=
  if Text.allBlank m.key then .error (.invalid .blankKey) db
  else if m.content.isEmpty then .error (.invalid .emptyContent) db
  else
    match db.transact (deliver now m) with
    | .error (.notUnique _) db => db.existingMessage m.key
    | r => r

/-- Moves a user's read marker in a conversation to now. There may be no such participant. -/
def markAsRead (db : Database) (now : Instant) (conversationId userId : Int) : Result Unit :=
  db.transact do
    let _ ← change (·.updateLastRead conversationId userId now)

def unreadCount (db : Database) (conversationId userId : Int) : Result Nat :=
  db.read fun t => .ok (t.countUnread conversationId userId)

end Database
end Parley
