import Parley.Attempt
import Parley.Store.Statement

/-!
# The database

The committed tables, and one transaction that may be held open beside all other work.

All other work is done in transactions that begin and end in one step. Reads see the committed
tables. There is one write lock: while the held transaction has it, nobody else writes. A held
transaction sees the tables as they were committed at its first statement, and its own writes. Its
first write takes the lock; if another commit has touched rows by then, the write is refused, and
the transaction goes on with what it has seen.
-/

namespace Parley

inductive Held where
  | begun
  /-- It sees `view` and has not written; `current` says that no commit has touched rows since. -/
  | reading (view : Tables) (current : Bool)
  /-- It has the write lock and sees `view`; `touched` says that it has touched rows. -/
  | writing (view : Tables) (touched : Bool)
  deriving DecidableEq

/-- What becomes of the held transaction when other work that touched rows is committed. -/
def Held.outdate : Held → Held
  | reading view _ => reading view false
  | h => h

def Held.hasLock : Held → Bool
  | writing .. => true
  | _ => false

structure Database where
  committed : Tables
  held : Option Held
  isOpen : Bool
  deriving DecidableEq

namespace Database

def empty : Database := ⟨.empty, none, true⟩

def isLocked (db : Database) : Bool := db.held.any Held.hasLock

def publish (db : Database) (tables : Tables) (touched : Bool) : Database :=
  { db with
    committed := tables
    held := if touched then db.held.map Held.outdate else db.held }

end Database

-- ---------------------------------------------------------------------------
-- Transactions
-- ---------------------------------------------------------------------------

/-- A transaction in progress: the database as it is for everybody else, and the tables as the
transaction has made them. -/
structure Draft where
  database : Database
  tables : Tables
  touched : Bool
  deriving DecidableEq

namespace Draft

def begin (db : Database) : Draft := ⟨db, db.committed, false⟩

def writable (d : Draft) : Bool := !d.database.isLocked

def commit (d : Draft) : Database := d.database.publish d.tables d.touched

def rollback (d : Draft) : Database := d.database

end Draft

/-- Statements of one transaction. One that is refused undoes what it has done itself, but not what
the statements before it have done. -/
abbrev Transaction := Attempt StoreError Draft

namespace Transaction

def query (q : Tables → Except StoreError α) : Transaction α := fun d =>
  match q d.tables with
  | .ok a => .ok a d
  | .error e => .error e d

def change (w : Tables → Except StoreError (Write α)) : Transaction α := fun d =>
  if d.writable then
    match w d.tables with
    | .ok r => .ok r.answer { d with tables := r.tables, touched := d.touched || r.touched }
    | .error e => .error e d
  else .error (.conflict .locked) d

end Transaction

namespace Database

abbrev Result := EStateM.Result StoreError Database

def Result.map (f : α → β) : Result α → Result β
  | .ok a db => .ok (f a) db
  | .error e db => .error e db

-- ---------------------------------------------------------------------------
-- Work beside the held transaction
-- ---------------------------------------------------------------------------

def query (db : Database) (q : Tables → Except StoreError α) : Except StoreError α :=
  if db.isOpen then q db.committed else .error (.failure .closed)

def read (db : Database) (q : Tables → Except StoreError α) : Result α :=
  match db.query q with
  | .ok a => .ok a db
  | .error e => .error e db

/-- Runs a transaction, commits it if no statement was refused, and rolls it back if one was. -/
def transact (db : Database) (x : Transaction α) : Result α :=
  if db.isOpen then
    match x (.begin db) with
    | .ok a d => .ok a d.commit
    | .error e d => .error e d.rollback
  else .error (.failure .closed) db

-- ---------------------------------------------------------------------------
-- The held transaction
-- ---------------------------------------------------------------------------

/-- Begins a transaction to hold; one that is held already is rolled back. -/
def beginHeld (db : Database) : Result Unit :=
  if db.isOpen then .ok () { db with held := some .begun } else .error (.failure .closed) db

def commitHeld (db : Database) : Option Database :=
  match db.held with
  | none => none
  | some (.writing view _) => some { db with committed := view, held := none }
  | some _ => some { db with held := none }

def rollbackHeld (db : Database) : Option Database :=
  match db.held with
  | none => none
  | some _ => some { db with held := none }

def close (db : Database) : Database := { db with held := none, isOpen := false }

/-- A query of the held transaction. The first statement fixes what the transaction sees. -/
def queryHeld (db : Database) (h : Held) (q : Tables → Except StoreError α) :
    Except StoreError α × Database :=
  match h with
  | .begun => (q db.committed, { db with held := some (.reading db.committed true) })
  | .reading view _ => (q view, db)
  | .writing view _ => (q view, db)

def writeHeld (db : Database) (view : Tables) (touched : Bool)
    (w : Tables → Except StoreError (Write α)) : Except StoreError α × Database :=
  match w view with
  | .ok r => (.ok r.answer, { db with held := some (.writing r.tables (touched || r.touched)) })
  | .error e => (.error e, { db with held := some (.writing view touched) })

def changeHeld (db : Database) (h : Held) (w : Tables → Except StoreError (Write α)) :
    Except StoreError α × Database :=
  match h with
  | .begun => db.writeHeld db.committed false w
  | .reading view true => db.writeHeld view false w
  | .reading _ false => (.error (.conflict .locked), db)
  | .writing view touched => db.writeHeld view touched w

end Database
end Parley
