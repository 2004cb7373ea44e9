import Mathlib.Data.List.Dedup
import Parley.Proofs.Http.Answers

/-!
# Histories

What requests and their replies tell to someone who does not see the database: who has which token,
between whom a conversation was opened, what was sent and what was read. `History.inbox` is the inbox
of a user as it follows from that alone.
-/

namespace Parley.Http

structure Exchange where
  clock : Instant
  request : Request
  reply : Reply

inductive Event where
  | named (token : String) (user : Int) (name : String)
  | left (user : Int)
  | opened (user other conversation : Int) (isNew : Bool)
  | sent (user conversation : Int)
  | read (user conversation : Int)
  deriving DecidableEq

structure Entry where
  clock : Instant
  event : Event

/-- What has happened, the latest first. -/
abbrev History := List Entry

-- ---------------------------------------------------------------------------
-- What one event says
-- ---------------------------------------------------------------------------

namespace Event

def name? (user : Int) : Event → Option String
  | named _ u name => if u = user then some name else none
  | _ => none

/-- With whom a user has opened a conversation, or who with the user. -/
def partner? (user : Int) : Event → Option Int
  | opened a b _ _ => if a = user then some b else if b = user then some a else none
  | _ => none

def between? (u v : Int) : Event → Option Int
  | opened a b c _ => if (a = u ∧ b = v) ∨ (a = v ∧ b = u) then some c else none
  | _ => none

def isActivity (conversation : Int) : Event → Bool
  | opened _ _ c isNew => isNew && c == conversation
  | sent _ c => c == conversation
  | _ => false

end Event

-- ---------------------------------------------------------------------------
-- What a history says
-- ---------------------------------------------------------------------------

namespace History

def holder (token : String) : History → Option Int
  | [] => none
  | e :: h =>
    match e.event with
    | .named t user _ => if t = token then some user else holder token h
    | .left user => (holder token h).filter (· != user)
    | _ => holder token h

variable (h : History)

def asker (r : Request) : Option Int := r.bearerToken?.bind fun token => holder token h

def nameOf (user : Int) : String := (h.findSome? (·.event.name? user)).getD ""

def partners (user : Int) : List Int := (h.filterMap (·.event.partner? user)).dedup

def conversationOf (u v : Int) : Int := (h.findSome? (·.event.between? u v)).getD 0

def lastActivity (conversation : Int) : Instant :=
  ((h.find? (·.event.isActivity conversation)).map (·.clock)).getD .epoch

/-- How many messages `v` has sent to a conversation since `u` has last read it. -/
def unread (u v conversation : Int) : Nat :=
  (h.takeWhile (·.event != .read u conversation)).countP (·.event == .sent v conversation)

def line (u v : Int) : InboxEntry where
  conversationId := h.conversationOf u v
  otherUserId := v
  otherUsername := h.nameOf v
  updatedAt := .of (h.lastActivity (h.conversationOf u v))
  unreadCount := h.unread u v (h.conversationOf u v)

/-- The inbox of a user: a line for everybody with whom the user has a conversation, the one that was
active last coming first. -/
def inbox (user : Int) : List InboxEntry :=
  let activity (v : Int) := h.lastActivity (h.conversationOf user v)
  ((h.partners user).mergeSort fun v w => decide (activity w ≤ activity v)).map (h.line user)

end History

-- ---------------------------------------------------------------------------
-- What an exchange adds
-- ---------------------------------------------------------------------------

def pathNumber? (segment : String) : Option Int := (readId segment).toOption

/-- What an exchange tells, after what has happened before. A refusal tells nothing. -/
def Exchange.event? (x : Exchange) (h : History) : Option Event :=
  if 400 ≤ x.reply.status then none
  else
    match x.request.asks? with
    | some (.post, .createAccount) | some (.post, .login) => do
      return .named (← x.reply.str? "token") (← x.reply.int? "user_id")
        (← x.reply.str? "username")
    | some (.post, .logout) => (h.asker x.request).map .left
    | some (.post, .conversation segment) => do
      return .opened (← h.asker x.request) (← pathNumber? segment)
        (← x.reply.int? "conversation_id") (← x.reply.bool? "is_new")
    | some (.post, .messages segment) =>
      if x.reply.status = 201 then do return .sent (← h.asker x.request) (← pathNumber? segment)
      else none
    | some (.post, .readMarker segment) => do
      return .read (← h.asker x.request) (← pathNumber? segment)
    | _ => none

def History.add (h : History) (now : Instant) : Option Event → History
  | some event => ⟨now, event⟩ :: h
  | none => h

def History.of (exchanges : List Exchange) : History :=
  exchanges.foldl (fun h x => h.add x.clock (x.event? h)) []

end Parley.Http
