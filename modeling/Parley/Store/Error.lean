/-!
# Errors of the store

Why a statement or an operation on the tables is refused. Each cause has one text.
-/

namespace Parley

inductive Missing where
  | user
  | session
  | conversation
  | directConversation
  | message
  | sender
  deriving DecidableEq, Repr

def Missing.name : Missing → String
  | .user => "user"
  | .session => "session"
  | .conversation => "conversation"
  | .directConversation => "direct conversation"
  | .message => "message"
  | .sender => "sender"

inductive Invalid where
  | malformedPair (a b : Int)
  | ownConversation
  | blankKey
  | emptyContent
  deriving DecidableEq, Repr

def Invalid.message : Invalid → String
  | .malformedPair a b => s!"malformed user id pair ({a}, {b})"
  | .ownConversation => "cannot create a conversation with yourself"
  | .blankKey => "client message id cannot be empty"
  | .emptyContent => "message content cannot be empty"

inductive UniqueColumns where
  | email
  | username
  | token
  | directKey
  | participant
  | messageKey
  deriving DecidableEq, Repr

def UniqueColumns.name : UniqueColumns → String
  | .email => "users.email"
  | .username => "users.username"
  | .token => "sessions.token"
  | .directKey => "conversations.direct_key"
  | .participant => "conversation_participants.conversation_id, conversation_participants.user_id"
  | .messageKey => "messages.client_message_id"

inductive Conflict where
  | locked
  | conversationHidden (key : String)
  | messageHidden (key : String)
  deriving DecidableEq, Repr

def Conflict.message : Conflict → String
  | .locked => "database is locked"
  | .conversationHidden key => s!"direct conversation {key} is not visible yet"
  | .messageHidden key => s!"message {key} is not visible yet"

inductive Failure where
  | closed
  | patternTooComplex
  deriving DecidableEq, Repr

def Failure.message : Failure → String
  | .closed => "attempted to acquire a connection on a closed pool"
  | .patternTooComplex =>
    "error returned from database: (code: 1) LIKE or GLOB pattern too complex"

inductive StoreError where
  | invalid (reason : Invalid)
  | notFound (what : Missing)
  | notUnique (columns : UniqueColumns)
  | foreignKey
  | conflict (reason : Conflict)
  | failure (reason : Failure)
  deriving DecidableEq, Repr

namespace StoreError

def message : StoreError → String
  | invalid reason => s!"invalid input: {reason.message}"
  | notFound what => s!"{what.name} not found"
  | notUnique columns =>
    s!"constraint violation (Unique): UNIQUE constraint failed: {columns.name}"
  | foreignKey => "constraint violation (ForeignKey): FOREIGN KEY constraint failed"
  | conflict reason => s!"transaction conflict: {reason.message}"
  | failure reason => s!"database error: {reason.message}"

/-- Whether the same request may succeed once the competing writer has ended. -/
def isRetryable : StoreError → Bool
  | conflict _ => true
  | _ => false

def isUnique : StoreError → Bool
  | notUnique _ => true
  | _ => false

def isForeignKey : StoreError → Bool
  | foreignKey => true
  | _ => false

end StoreError
end Parley
