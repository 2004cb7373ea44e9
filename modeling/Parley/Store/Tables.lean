import Parley.Time.Stamp

/-!
# Tables

The five tables of the database and their rows. Rows stand in the order in which they were added,
which is also the order of their ids: ids count up from one and are never used again.
-/

namespace Parley

structure User where
  id : Int
  username : String
  email : String
  passwordHash : String
  role : String
  createdAt : Stamp
  deriving DecidableEq

structure Session where
  id : Int
  userId : Int
  token : String
  createdAt : Stamp
  deriving DecidableEq

/-- A direct conversation has the key of its pair; a conversation made otherwise has none. -/
structure Conversation where
  id : Int
  directKey : Option String
  createdAt : Stamp
  updatedAt : Stamp
  deriving DecidableEq

structure Participant where
  id : Int
  conversationId : Int
  userId : Int
  joinedAt : Stamp
  lastReadAt : Option Stamp
  deriving DecidableEq

structure Message where
  id : Int
  conversationId : Int
  senderId : Int
  content : String
  key : String
  sentAt : Stamp
  deriving DecidableEq

/-- Rows, and how many ids have been given out. -/
structure Table (ρ : Type) where
  rows : List ρ
  issued : Nat
  deriving DecidableEq

namespace Table

def empty : Table ρ := ⟨[], 0⟩

def nextId (t : Table ρ) : Int := t.issued + 1

/-- Adds a row, which has to carry the next id. -/
def add (t : Table ρ) (row : ρ) : Table ρ := ⟨t.rows ++ [row], t.issued + 1⟩

def update (t : Table ρ) (p : ρ → Bool) (f : ρ → ρ) : Table ρ :=
  { t with rows := t.rows.map fun r => if p r then f r else r }

def remove (t : Table ρ) (p : ρ → Bool) : Table ρ :=
  { t with rows := t.rows.filter fun r => !p r }

@[simp] theorem rows_add (t : Table ρ) (row : ρ) : (t.add row).rows = t.rows ++ [row] := rfl
@[simp] theorem issued_add (t : Table ρ) (row : ρ) : (t.add row).issued = t.issued + 1 := rfl
@[simp] theorem issued_update (t : Table ρ) (p : ρ → Bool) (f : ρ → ρ) :
    (t.update p f).issued = t.issued := rfl
@[simp] theorem issued_remove (t : Table ρ) (p : ρ → Bool) : (t.remove p).issued = t.issued := rfl

theorem mem_rows_remove {t : Table ρ} {p : ρ → Bool} {r : ρ} :
    r ∈ (t.remove p).rows ↔ r ∈ t.rows ∧ p r = false := by
  simp [remove, List.mem_filter]

end Table

structure Tables where
  users : Table User
  sessions : Table Session
  conversations : Table Conversation
  participants : Table Participant
  messages : Table Message
  deriving DecidableEq

def Tables.empty : Tables := ⟨.empty, .empty, .empty, .empty, .empty⟩

end Parley
