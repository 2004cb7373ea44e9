import Parley.Page
import Parley.Pair
import Parley.Store.Tables
import Parley.Text.Pattern

/-!
# Queries

What can be read from the tables.
-/

namespace Parley

structure UserSummary where
  id : Int
  username : String
  deriving DecidableEq, Repr

/-- One line of a user's inbox: a conversation, one other participant, and how many messages the
user has not read. -/
structure InboxEntry where
  conversationId : Int
  otherUserId : Int
  otherUsername : String
  updatedAt : Stamp
  unreadCount : Nat
  deriving DecidableEq

def found (what : Missing) : Option α → Except StoreError α
  | some a => .ok a
  | none => .error (.notFound what)

namespace Tables

variable (t : Tables)

-- ---------------------------------------------------------------------------
-- Users and sessions
-- ---------------------------------------------------------------------------

def userById (id : Int) : Except StoreError User :=
  found .user (t.users.rows.find? (·.id == id))

def userByName (username : String) : Except StoreError User :=
  found .user (t.users.rows.find? (·.username == username))

def userIdByToken (token : String) : Except StoreError Int :=
  found .session ((t.sessions.rows.find? (·.token == token)).map (·.userId))

/-- The users whose names hold the term, by name. A limit of zero asks for nothing, so the term is
not looked at; a negative one is no limit. -/
def searchUsers (term : String) (limit : Int) : Except StoreError (List UserSummary) :=
  let pattern := Pattern.containing term
  if limit = 0 ∨ t.users.rows.isEmpty then .ok []
  else if Pattern.maxBytes < pattern.utf8ByteSize then .error (.failure .patternTooComplex)
  else
    let hits := t.users.rows.filter fun u => Pattern.isLike u.username pattern
    let sorted := hits.mergeSort fun a b => decide (a.username ≤ b.username)
    .ok ((Page.mk limit 0).cut (sorted.map fun u => ⟨u.id, u.username⟩))

-- ---------------------------------------------------------------------------
-- Conversations
-- ---------------------------------------------------------------------------

def conversationById (id : Int) : Except StoreError Conversation :=
  found .conversation (t.conversations.rows.find? (·.id == id))

def participantsOf (conversationId : Int) : List Participant :=
  t.participants.rows.filter (·.conversationId == conversationId)

def isParticipant (conversationId userId : Int) : Bool :=
  t.participants.rows.any fun p => p.conversationId == conversationId && p.userId == userId

/-- The ids of the conversations in which both users of a pair take part and nobody else does. -/
def directConversationIds (pair : Pair) : List Int :=
  t.participants.rows.flatMap fun p =>
    (t.participants.rows.filter fun q =>
      q.conversationId == p.conversationId && p.userId == pair.low && q.userId == pair.high &&
        (t.participantsOf p.conversationId).length == 2).map (·.conversationId)

def findDirect (pair : Pair) : Except StoreError Int :=
  found .directConversation (t.directConversationIds pair).min?

-- ---------------------------------------------------------------------------
-- Messages and what of them has been read
-- ---------------------------------------------------------------------------

/-- Whether a participant has yet to read a message: it is from another user, and later than the
participant's read marker. -/
def isUnread (m : Message) (userId : Int) (marker : Option Stamp) : Bool :=
  m.senderId != userId && marker.all fun last => decide (last < m.sentAt)

def messageByKey (key : String) : Except StoreError Message :=
  found .message (t.messages.rows.find? (·.key == key))

def newestFirst (a b : Message) : Bool :=
  decide (b.sentAt < a.sentAt) || (a.sentAt == b.sentAt && decide (b.id ≤ a.id))

def allMessages (conversationId : Int) : List Message :=
  (t.messages.rows.filter (·.conversationId == conversationId)).mergeSort newestFirst

def listMessages (conversationId : Int) (page : Page) : List Message :=
  page.cut (t.allMessages conversationId)

def countUnread (conversationId userId : Int) : Nat :=
  (t.messages.rows.flatMap fun m =>
    t.participants.rows.filter fun p =>
      p.conversationId == m.conversationId && p.userId == userId &&
        m.conversationId == conversationId && isUnread m userId p.lastReadAt).length

def mostRecentFirst (a b : InboxEntry) : Bool :=
  decide (b.updatedAt < a.updatedAt) || (a.updatedAt == b.updatedAt &&
    (decide (b.conversationId < a.conversationId) || (a.conversationId == b.conversationId &&
      decide (a.otherUserId ≤ b.otherUserId))))

/-- The lines of a user's inbox, in no particular order: one for each other participant of each
conversation of the user. -/
def inboxEntries (userId : Int) : List InboxEntry :=
  (t.participants.rows.filter (·.userId == userId)).flatMap fun me =>
    (t.conversations.rows.filter (·.id == me.conversationId)).flatMap fun c =>
      (t.participants.rows.filter fun other =>
          other.conversationId == c.id && other.userId != me.userId).flatMap fun other =>
        (t.users.rows.filter (·.id == other.userId)).map fun u =>
          { conversationId := c.id
            otherUserId := other.userId
            otherUsername := u.username
            updatedAt := c.updatedAt
            unreadCount := t.messages.rows.countP fun m =>
              m.conversationId == c.id && isUnread m me.userId me.lastReadAt }

def inbox (userId : Int) : List InboxEntry := (t.inboxEntries userId).mergeSort mostRecentFirst

def listInbox (userId : Int) (page : Page) : List InboxEntry := page.cut (t.inbox userId)

end Tables
end Parley
