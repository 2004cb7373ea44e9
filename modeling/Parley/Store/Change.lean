import Parley.Store.Query

/-!
# Changes

What can be written to the tables, one statement at a time. A statement that is refused changes
nothing. Uniqueness is checked before references to other tables are.
-/

namespace Parley

/-- What a statement that writes has done: its answer, the tables after it, and whether it has
touched a row, be it to write what stood there before. -/
structure Write (α : Type) where
  answer : α
  tables : Tables
  touched : Bool

structure NewUser where
  username : String
  email : String
  passwordHash : String
  role : String
  deriving DecidableEq, Repr

structure NewMessage where
  conversationId : Int
  senderId : Int
  content : String
  key : String
  deriving DecidableEq, Repr

namespace Tables

variable (t : Tables)

def require (ok : Bool) (error : StoreError) : Except StoreError Unit :=
  if ok then .ok () else .error error

def hasUser (id : Int) : Bool := t.users.rows.any (·.id == id)
def hasConversation (id : Int) : Bool := t.conversations.rows.any (·.id == id)

def createUser (u : NewUser) (now : Instant) : Except StoreError (Write User) := do
  require (t.users.rows.all (·.email != u.email)) (.notUnique .email)
  require (t.users.rows.all (·.username != u.username)) (.notUnique .username)
  let row : User :=
    { id := t.users.nextId, username := u.username, email := u.email
      passwordHash := u.passwordHash, role := u.role, createdAt := .of now }
  return ⟨row, { t with users := t.users.add row }, true⟩

def createSession (userId : Int) (token : String) (now : Instant) :
    Except StoreError (Write Unit) := do
  require (t.sessions.rows.all (·.token != token)) (.notUnique .token)
  require (t.hasUser userId) .foreignKey
  let row : Session := { id := t.sessions.nextId, userId, token, createdAt := .of now }
  return ⟨(), { t with sessions := t.sessions.add row }, true⟩

def deleteSessions (userId : Int) : Except StoreError (Write Nat) :=
  let count := t.sessions.rows.countP (·.userId == userId)
  .ok ⟨count, { t with sessions := t.sessions.remove (·.userId == userId) }, count != 0⟩

def createConversation (directKey : Option String) (now : Instant) :
    Except StoreError (Write Conversation) := do
  require (directKey.isNone || t.conversations.rows.all (·.directKey != directKey))
    (.notUnique .directKey)
  let row : Conversation :=
    { id := t.conversations.nextId, directKey, createdAt := .of now, updatedAt := .of now }
  return ⟨row, { t with conversations := t.conversations.add row }, true⟩

def addParticipant (conversationId userId : Int) (now : Instant) :
    Except StoreError (Write Participant) := do
  require (!t.isParticipant conversationId userId) (.notUnique .participant)
  require (t.hasConversation conversationId && t.hasUser userId) .foreignKey
  let row : Participant :=
    { id := t.participants.nextId, conversationId, userId, joinedAt := .of now, lastReadAt := none }
  return ⟨row, { t with participants := t.participants.add row }, true⟩

/-- Moves the time of a conversation's last activity forward, never back. The conversation is
written even if its time stays where it is. -/
def touchConversation (conversationId : Int) (time : Instant) :
    Except StoreError (Write Unit) := do
  require (t.hasConversation conversationId) (.notFound .conversation)
  let conversations := t.conversations.update (·.id == conversationId) fun c =>
    { c with updatedAt := max c.updatedAt (.of time) }
  return ⟨(), { t with conversations }, true⟩

def lockConversation (conversationId : Int) : Except StoreError (Write Instant) := do
  let c ← t.conversationById conversationId
  return ⟨c.updatedAt.instant, t, true⟩

def createMessage (m : NewMessage) (sentAt : Instant) : Except StoreError (Write Message) := do
  require (t.messages.rows.all (·.key != m.key)) (.notUnique .messageKey)
  require (t.hasConversation m.conversationId && t.hasUser m.senderId) .foreignKey
  let row : Message :=
    { id := t.messages.nextId, conversationId := m.conversationId, senderId := m.senderId
      content := m.content, key := m.key, sentAt := .of sentAt }
  return ⟨row, { t with messages := t.messages.add row }, true⟩

def laterMarker (marker : Option Stamp) (time : Stamp) : Stamp :=
  match marker with
  | none => time
  | some last => max last time

/-- Moves a participant's read marker forward, never back; the answer is how many rows there were to
move it in. A marker that stays where it is touches no row. -/
def updateLastRead (conversationId userId : Int) (time : Instant) :
    Except StoreError (Write Nat) :=
  let isRow (p : Participant) := p.conversationId == conversationId && p.userId == userId
  let moved (p : Participant) : Participant :=
    { p with lastReadAt := some (laterMarker p.lastReadAt (.of time)) }
  .ok ⟨t.participants.rows.countP isRow,
    { t with participants := t.participants.update isRow moved },
    t.participants.rows.any fun p => isRow p && moved p != p⟩

end Tables
end Parley
