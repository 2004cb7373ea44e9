import Parley.Proofs.Run.Step

/-!
# Sessions of clients

In a session of requests and of waiting between them the database stays open and no transaction is
held, and what every request keeps holds at its end (`clients_keep`).
-/

namespace Parley

def Action.isClient : Action → Bool
  | wait | request .. => true
  | _ => false

theorem Database.Commits.held {db db' : Database} (h : db.Commits allowed db')
    (hheld : db.held = none) : db'.held = none := by
  obtain ⟨touched, hdb, -⟩ := h.published
  rw [hdb, publish, hheld]
  simp

theorem Http.Call.answer_held {c : Call} (h : c.db.held = none) : c.answer.2.held = none := by
  rcases answer_work c with hdb | ⟨w, -, hdoes⟩
  · rw [hdb, h]
  · exact hdoes.commits.held h

namespace System

/-- The database is open to clients alone, its tables are whole, and `P` holds of them. -/
structure Serving (P : Tables → Prop) (s : System) : Prop where
  isOpen : s.db.isOpen = true
  held : s.db.held = none
  whole : s.db.committed.Integrity
  keeps : P s.db.committed

theorem clients_keep {P : Tables → Prop} (clock : Instant) {steps : List Step}
    (hsteps : ∀ st ∈ steps, st.action.isClient = true) (hempty : P .empty)
    (hanswer : ∀ c : Http.Call, c.db.committed.Integrity → P c.db.committed →
      P c.answer.2.committed) :
    ((start clock).run steps).2.Serving P := by
  refine run_keeps ⟨rfl, rfl, Tables.integrity_empty, hempty⟩ fun s hs st hst => ?_
  obtain ⟨time, action⟩ := st
  have hclient : action.isClient = true := hsteps _ hst
  cases action with
  | wait => exact ⟨hs.isOpen, hs.held, hs.whole, hs.keeps⟩
  | request r draws =>
    rw [step_request]
    exact {
      isOpen := (Http.Call.answer_isOpen _).trans hs.isOpen
      held := Http.Call.answer_held hs.held
      whole := Http.Call.answer_integrity hs.whole
      keeps := hanswer _ hs.whole hs.keeps }
  | _ => cases hclient

end System
end Parley
