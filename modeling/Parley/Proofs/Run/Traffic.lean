import Parley.Proofs.Http.Effect
import Parley.Proofs.Run.Requests

/-!
# What is asked and answered

The exchanges of a run, as somebody sees them who watches the server from outside. In a session of
clients the tables are what the exchanges have made them, so an invariant may speak of both
(`traffic_keeps`).
-/

namespace Parley

open Http (Call Exchange)

namespace System

variable {s : System} {steps : List Step}

def traffic (s : System) : List Step → List Exchange
  | [] => []
  | st :: rest =>
    match st.action, s.step st with
    | .request r _, (.reply reply, s) => ⟨s.clock, r, reply⟩ :: traffic s rest
    | _, (_, s) => traffic s rest

@[simp] theorem traffic_nil : s.traffic [] = [] := rfl

@[simp] theorem traffic_request (rest : List Step) :
    s.traffic (⟨time, .request r draws⟩ :: rest) =
      Call.exchange ⟨r, time.getD s.clock, draws, s.db⟩ ::
        (s.step ⟨time, .request r draws⟩).2.traffic rest := rfl

/-- What every answer keeps of the tables and the exchanges so far, holds at the end. The answers may
be known to be among those of a longer run. -/
theorem traffic_keeps {P : List Exchange → Tables → Prop} {all : List Exchange}
    (hanswer : ∀ (c : Call) (seen : List Exchange), seen ++ [c.exchange] <+: all →
      c.db.committed.Integrity → P seen c.db.committed →
      P (seen ++ [c.exchange]) c.answer.2.committed)
    (hsteps : ∀ st ∈ steps, st.action.isClient = true) (seen : List Exchange)
    (hs : s.Serving (P seen)) (hall : seen ++ s.traffic steps <+: all) :
    (s.run steps).2.Serving (P (seen ++ s.traffic steps)) := by
  -- Each request moves its exchange from those to come to those that were seen.
  induction steps generalizing s seen with
  | nil =>
    rw [traffic_nil, List.append_nil]
    exact hs
  | cons st rest ih =>
    have hrest := fun st' hst' => hsteps st' (List.mem_cons_of_mem _ hst')
    obtain ⟨time, action⟩ := st
    have hclient : action.isClient = true := hsteps _ List.mem_cons_self
    cases action with
    | wait => exact ih hrest seen ⟨hs.isOpen, hs.held, hs.whole, hs.keeps⟩ hall
    | request r draws =>
      let c : Call := ⟨r, time.getD s.clock, draws, s.db⟩
      rw [traffic_request, List.append_cons] at hall ⊢
      have hseen : seen ++ [c.exchange] <+: all := (List.prefix_append _ _).trans hall
      refine ih hrest (seen ++ [c.exchange]) ?_ hall
      exact {
        isOpen := (Call.answer_isOpen c).trans hs.isOpen
        held := Call.answer_held hs.held
        whole := Call.answer_integrity hs.whole
        keeps := hanswer c seen hseen hs.whole hs.keeps }
    | _ => cases hclient

theorem traffic_keeps_start {P : List Exchange → Tables → Prop} (clock : Instant)
    (hsteps : ∀ st ∈ steps, st.action.isClient = true) (hempty : P [] .empty)
    (hanswer : ∀ (c : Call) (seen : List Exchange),
      seen ++ [c.exchange] <+: (start clock).traffic steps → c.db.committed.Integrity →
      P seen c.db.committed → P (seen ++ [c.exchange]) c.answer.2.committed) :
    ((start clock).run steps).2.Serving (P ((start clock).traffic steps)) :=
  traffic_keeps hanswer hsteps [] ⟨rfl, rfl, Tables.integrity_empty, hempty⟩ List.prefix_rfl

end System
end Parley
