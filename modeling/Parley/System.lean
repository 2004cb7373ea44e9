import Parley.Http.Service

/-!
# The system

A database, a clock, and the steps that they take: operations of the store, statements on the
tables, requests to the server, and what is done with the transaction that is held. The clock moves
only when a step sets it.
-/

namespace Parley

structure System where
  db : Database
  clock : Instant

inductive Operation where
  | createAccount (user : NewUser) (token : String)
  | createConversation (a b : Int)
  | getOrCreateDirect (a b : Int)
  | sendMessage (message : NewMessage)
  | markAsRead (conversationId userId : Int)
  | unreadCount (conversationId userId : Int)
  deriving DecidableEq

inductive Report where
  | done
  | account (u : User)
  | conversation (c : NewConversation)
  | direct (c : DirectConversation)
  | sending (s : SendOutcome)
  | count (n : Nat)
  deriving DecidableEq

def Operation.run (db : Database) (now : Instant) : Operation → Database.Result Report
  | createAccount user token => (db.createAccount now user token).map .account
  | createConversation a b => (db.createConversation now a b).map .conversation
  | getOrCreateDirect a b => (db.getOrCreateDirect now a b).map .direct
  | sendMessage m => (db.sendMessage now m).map .sending
  | markAsRead c u => (db.markAsRead now c u).map fun () => .done
  | unreadCount c u => (db.unreadCount c u).map .count

inductive Statement where
  | query (q : Query)
  | change (w : Change)
  deriving DecidableEq

/-- Makes a statement, in the held transaction if `held` and one is held, else on its own. -/
def Statement.run (db : Database) (held : Bool) (s : Statement) :
    Except StoreError Answer × Database :=
  match s, (if held then db.held else none) with
  | .query q, some h => db.queryHeld h fun t => q.run t
  | .change w, some h => db.changeHeld h fun t => w.run t
  | .query q, none => (db.query fun t => q.run t, db)
  | .change w, none =>
    match db.transact (.change fun t => w.run t) with
    | .ok a db => (.ok a, db)
    | .error e db => (.error e, db)

inductive Action where
  /-- Nothing but setting the clock. -/
  | wait
  | beginHeld
  | commitHeld
  | rollbackHeld
  | close
  /-- Makes sure that the tables exist, which they do. -/
  | createTables
  | dump
  | store (operation : Operation)
  | statement (held : Bool) (s : Statement)
  | findDirect (held : Bool) (a b : Int)
  | request (r : Http.Request) (draws : Draws)

structure Step where
  /-- What the clock is set to before the step. -/
  clock : Option Instant
  action : Action

inductive Outcome where
  | done
  | answer (a : Answer)
  | report (r : Report)
  | tables (t : Tables)
  | reply (r : Http.Reply)
  | refused (e : StoreError)
  | noTransaction

namespace System

def start (clock : Instant) : System := ⟨.empty, clock⟩

def ofResult (f : α → Outcome) : Except StoreError α → Outcome
  | .ok a => f a
  | .error e => .refused e

def settle (s : System) (f : α → Outcome) : Database.Result α → Outcome × System
  | .ok a db => (f a, { s with db })
  | .error e db => (.refused e, { s with db })

def settleEnd (s : System) : Option Database → Outcome × System
  | some db => (.done, { s with db })
  | none => (.noTransaction, s)

def statement (s : System) (held : Bool) (st : Statement) : Outcome × System :=
  let (r, db) := st.run s.db held
  (ofResult .answer r, { s with db })

def act (s : System) : Action → Outcome × System
  | .wait => (.done, s)
  | .beginHeld => s.settle (fun () => .done) s.db.beginHeld
  | .commitHeld => s.settleEnd s.db.commitHeld
  | .rollbackHeld => s.settleEnd s.db.rollbackHeld
  | .close => (.done, { s with db := s.db.close })
  | .createTables => (ofResult (fun _ => .done) (s.db.query fun _ => .ok ()), s)
  | .dump => (ofResult .tables (s.db.query .ok), s)
  | .store op => s.settle .report (op.run s.db s.clock)
  | .statement held st => s.statement held st
  | .findDirect held a b =>
    match Pair.of a b with
    | .ok pair => s.statement held (.query (.findDirect pair))
    | .error e => (.refused e, s)
  | .request r draws =>
    let (reply, db) := Http.Call.answer ⟨r, s.clock, draws, s.db⟩
    (.reply reply, { s with db })

def step (s : System) (st : Step) : Outcome × System :=
  { s with clock := st.clock.getD s.clock }.act st.action

def run (s : System) : List Step → List Outcome × System
  | [] => ([], s)
  | st :: rest =>
    let (o, s) := s.step st
    let (os, s) := s.run rest
    (o :: os, s)

end System
end Parley
