import Parley.Store.Operation

/-!
# JSON values

The values that answers are made of, and the rows of the tables as such values. Times are shown in
their short form.
-/

namespace Parley

inductive Json where
  | null
  | bool (b : Bool)
  | int (n : Int)
  | str (s : String)
  | arr (items : List Json)
  | obj (fields : List (String × Json))

namespace Json

def ofOption (f : α → Json) : Option α → Json
  | none => null
  | some a => f a

def ofList (f : α → Json) (as : List α) : Json := arr (as.map f)

end Json

def Instant.toJson (i : Instant) : Json := .str i.shown
def Stamp.toJson (s : Stamp) : Json := s.instant.toJson

/-- A user as clients see it: without the password hash. -/
def User.toJson (u : User) : Json :=
  .obj [("id", .int u.id), ("username", .str u.username), ("email", .str u.email),
    ("role", .str u.role), ("created_at", u.createdAt.toJson)]

def UserSummary.toJson (u : UserSummary) : Json :=
  .obj [("id", .int u.id), ("username", .str u.username)]

def Conversation.toJson (c : Conversation) : Json :=
  .obj [("id", .int c.id), ("direct_key", .ofOption .str c.directKey),
    ("created_at", c.createdAt.toJson), ("updated_at", c.updatedAt.toJson)]

def Participant.toJson (p : Participant) : Json :=
  .obj [("id", .int p.id), ("conversation_id", .int p.conversationId), ("user_id", .int p.userId),
    ("joined_at", p.joinedAt.toJson), ("last_read_at", .ofOption Stamp.toJson p.lastReadAt)]

def Message.toJson (m : Message) : Json :=
  .obj [("id", .int m.id), ("conversation_id", .int m.conversationId),
    ("sender_id", .int m.senderId), ("encrypted_content", .str m.content),
    ("client_message_id", .str m.key), ("sent_at", m.sentAt.toJson)]

def InboxEntry.toJson (e : InboxEntry) : Json :=
  .obj [("conversation_id", .int e.conversationId), ("other_user_id", .int e.otherUserId),
    ("other_username", .str e.otherUsername), ("updated_at", e.updatedAt.toJson),
    ("unread_count", .int e.unreadCount)]

end Parley
