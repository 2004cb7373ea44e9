import Parley.Store.Change

/-!
# Statements

Queries and changes as data, with the answers they have in common.
-/

namespace Parley

inductive Query where
  | userById (id : Int)
  | userByName (username : String)
  | userIdByToken (token : String)
  | searchUsers (term : String) (limit : Int)
  | conversationById (id : Int)
  | findDirect (pair : Pair)
  | participantsOf (conversationId : Int)
  | isParticipant (conversationId userId : Int)
  | listInbox (userId : Int) (page : Page)
  | messageByKey (key : String)
  | listMessages (conversationId : Int) (page : Page)
  | countUnread (conversationId userId : Int)
  deriving DecidableEq

inductive Change where
  | createUser (user : NewUser) (now : Instant)
  | createSession (userId : Int) (token : String) (now : Instant)
  | deleteSessions (userId : Int)
  | createConversation (directKey : Option String) (now : Instant)
  | addParticipant (conversationId userId : Int) (now : Instant)
  | touchConversation (conversationId : Int) (time : Instant)
  | lockConversation (conversationId : Int)
  | createMessage (message : NewMessage) (sentAt : Instant)
  | updateLastRead (conversationId userId : Int) (time : Instant)
  deriving DecidableEq

inductive Answer where
  | done
  | number (n : Int)
  | flag (b : Bool)
  | time (i : Instant)
  | user (u : User)
  | users (us : List UserSummary)
  | conversation (c : Conversation)
  | participant (p : Participant)
  | participants (ps : List Participant)
  | inbox (es : List InboxEntry)
  | message (m : Message)
  | messages (ms : List Message)
  deriving DecidableEq

def Query.run (t : Tables) : Query → Except StoreError Answer
  | userById id => (t.userById id).map .user
  | userByName username => (t.userByName username).map .user
  | userIdByToken token => (t.userIdByToken token).map .number
  | searchUsers term limit => (t.searchUsers term limit).map .users
  | conversationById id => (t.conversationById id).map .conversation
  | findDirect pair => (t.findDirect pair).map .number
  | participantsOf c => .ok (.participants (t.participantsOf c))
  | isParticipant c u => .ok (.flag (t.isParticipant c u))
  | listInbox u page => .ok (.inbox (t.listInbox u page))
  | messageByKey key => (t.messageByKey key).map .message
  | listMessages c page => .ok (.messages (t.listMessages c page))
  | countUnread c u => .ok (.number (t.countUnread c u))

def Write.map (f : α → β) (w : Write α) : Write β := ⟨f w.answer, w.tables, w.touched⟩

def Change.run (t : Tables) : Change → Except StoreError (Write Answer)
  | createUser u now => (t.createUser u now).map (·.map .user)
  | createSession u token now => (t.createSession u token now).map (·.map fun _ => .done)
  | deleteSessions u => (t.deleteSessions u).map (·.map fun (n : Nat) => .number n)
  | createConversation key now => (t.createConversation key now).map (·.map .conversation)
  | addParticipant c u now => (t.addParticipant c u now).map (·.map .participant)
  | touchConversation c time => (t.touchConversation c time).map (·.map fun _ => .done)
  | lockConversation c => (t.lockConversation c).map (·.map .time)
  | createMessage m sentAt => (t.createMessage m sentAt).map (·.map .message)
  | updateLastRead c u time =>
    (t.updateLastRead c u time).map (·.map fun (n : Nat) => .number n)

end Parley
