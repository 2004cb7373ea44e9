import Parley.Proofs.Store.Refusals

/-!
# Statements one after the other

`Statement.serially t sts` makes statements on the tables `t` with nothing in between: their answers,
and the tables after them. No such answer names a competing writer (`serially_definite`).
-/

namespace Parley

-- ---------------------------------------------------------------------------
-- Refusals that trying again would not help
-- ---------------------------------------------------------------------------

/-- Where it refuses, no competing writer stood in the way. -/
def Definite (x : Except StoreError α) : Prop := ∀ e, x = .error e → e.isRetryable = false

theorem Query.definite (q : Query) (t : Tables) : Definite (q.run t) := by
  intro e he
  rcases q.fails t e he with h | rfl
  · exact h.isRetryable
  · rfl

theorem Change.definite (c : Change) (t : Tables) : Definite (c.run t) := by
  intro e he
  exact (c.fails t e he).caller.isRetryable

-- ---------------------------------------------------------------------------
-- Serial runs
-- ---------------------------------------------------------------------------

namespace Statement

def isChange : Statement → Bool
  | query _ => false
  | change _ => true

def on (t : Tables) : Statement → Except StoreError Answer × Tables
  | query q => (q.run t, t)
  | change c =>
    match c.run t with
    | .ok w => (.ok w.answer, w.tables)
    | .error e => (.error e, t)

def serially (t : Tables) : List Statement → List (Except StoreError Answer) × Tables
  | [] => ([], t)
  | st :: rest =>
    let (answer, t) := st.on t
    let (answers, t) := serially t rest
    (answer :: answers, t)

theorem on_definite (st : Statement) (t : Tables) : Definite (st.on t).1 := by
  cases st with
  | query q => exact q.definite t
  | change c =>
    intro e he
    simp only [on] at he
    split at he
    · cases he
    · rename_i e' he'
      cases he
      exact c.definite t e he'

theorem serially_definite (sts : List Statement) (t : Tables) :
    ∀ x ∈ (serially t sts).1, Definite x := by
  induction sts generalizing t with
  | nil => rintro _ ⟨⟩
  | cons st rest ih =>
    intro x hx
    rcases List.mem_cons.mp hx with rfl | hx
    · exact st.on_definite t
    · exact ih (st.on t).2 x hx

end Statement
end Parley
