import Parley.Proofs.Run.Beside
import Parley.Proofs.Store.Serial

/-!
# What a held transaction shows

`Held.Accounts first committed made`: what the held transaction has shown agrees with where it
stands. Either it has only read, and then the tables `first`, or it has written, and then all that it
has shown is as if done just now on the committed tables. Its own statements keep this
(`Held.Accounts.run`), and so does what others commit (`Held.Accounts.commits`).
-/

namespace Parley

-- ---------------------------------------------------------------------------
-- Statements
-- ---------------------------------------------------------------------------

theorem Database.writeHeld_on (db : Database) (view : Tables) (touched : Bool) (c : Change) :
    ∃ touched', db.writeHeld view touched (fun t => c.run t) =
      (((Statement.change c).on view).1,
        { db with held := some (.writing ((Statement.change c).on view).2 touched') }) := by
  cases hw : c.run view with
  | ok w => exact ⟨touched || w.touched, by simp only [Database.writeHeld, Statement.on, hw]⟩
  | error e => exact ⟨touched, by simp only [Database.writeHeld, Statement.on, hw]⟩

namespace Statement

theorem run_held {db : Database} (hk : db.held = some k) (st : Statement) :
    (st.run db true).2.held.isSome = true ∧ (st.run db true).2.alone = db.alone := by
  cases st with
  | query q =>
    simp only [run, ↓reduceIte, hk]
    cases k with
    | begun => exact ⟨rfl, rfl⟩
    | reading | writing => exact ⟨by simp [Database.queryHeld, hk], rfl⟩
  | change c =>
    simp only [run, ↓reduceIte, hk]
    have hwrite (view : Tables) (touched : Bool) :
        (db.writeHeld view touched fun t => c.run t).2.held.isSome = true ∧
          (db.writeHeld view touched fun t => c.run t).2.alone = db.alone := by
      obtain ⟨touched', h⟩ := db.writeHeld_on view touched c
      rw [h]
      exact ⟨rfl, rfl⟩
    cases k with
    | begun => exact hwrite _ _
    | reading view current =>
      cases current with
      | true => exact hwrite _ _
      | false => exact ⟨by simp [Database.changeHeld, hk], rfl⟩
    | writing view touched => exact hwrite _ _

theorem serially_concat (t : Tables) (sts : List Statement) (st : Statement) :
    serially t (sts ++ [st]) = ((serially t sts).1 ++ [(st.on (serially t sts).2).1],
      (st.on (serially t sts).2).2) := by
  induction sts generalizing t with
  | nil => rfl
  | cons st' rest ih => simp only [List.cons_append, serially, ih]

end Statement

-- ---------------------------------------------------------------------------
-- What has been shown
-- ---------------------------------------------------------------------------

def System.shown (answers : List (Except StoreError Answer)) : List Outcome :=
  answers.map (ofResult .answer)

/-- What a held transaction has shown agrees with where it stands: it has read the tables as they
were committed at its first statement, and has been refused for now where it tried to write; or it
has written, and all of it is as if done just now. -/
def Held.Accounts (first committed : Tables) (made : List (Statement × Outcome)) : Held → Prop
  | .begun => False
  | .reading view current => view = first ∧ (current = true → view = committed) ∧
    ∀ x ∈ made, (∃ q, x.1 = .query q ∧ x.2 = System.ofResult .answer (q.run view)) ∨
      x.1.isChange = true ∧ current = false ∧ x.2.isConflict = true
  | .writing view _ => (∃ x ∈ made, x.1.isChange = true) ∧ ∃ answers,
    Statement.serially committed (made.map (·.1)) = (answers, view) ∧
      made.map (·.2) = System.shown answers

namespace System

theorem serially_queries {t : Tables} {made : List (Statement × Outcome)}
    (h : ∀ x ∈ made, ∃ q, x.1 = .query q ∧ x.2 = ofResult .answer (q.run t)) :
    ∃ answers, Statement.serially t (made.map (·.1)) = (answers, t) ∧
      made.map (·.2) = shown answers := by
  induction made with
  | nil => exact ⟨[], rfl, rfl⟩
  | cons x rest ih =>
    obtain ⟨q, hq, hx⟩ := h x List.mem_cons_self
    obtain ⟨answers, hserial, hshown⟩ := ih fun y hy => h y (List.mem_cons_of_mem _ hy)
    refine ⟨q.run t :: answers, ?_, ?_⟩
    · simp only [List.map_cons, hq, Statement.serially, Statement.on, hserial]
    · simp only [List.map_cons, hx, hshown, shown]

end System

namespace Held.Accounts

variable {db : Database} {k : Held} {first committed : Tables}
variable {made : List (Statement × Outcome)}

theorem concat {view : Tables} {touched : Bool} {st : Statement}
    (h : (∃ answers, Statement.serially committed (made.map (·.1)) = (answers, view) ∧
      made.map (·.2) = System.shown answers))
    (hchange : ∃ x ∈ made ++ [(st, System.ofResult .answer (st.on view).1)], x.1.isChange = true) :
    (Held.writing (st.on view).2 touched).Accounts first committed
      (made ++ [(st, System.ofResult .answer (st.on view).1)]) := by
  obtain ⟨answers, hserial, hshown⟩ := h
  refine ⟨hchange, answers ++ [(st.on view).1], ?_, ?_⟩
  · rw [List.map_append, List.map_singleton, Statement.serially_concat, hserial]
  · rw [List.map_append, hshown]
    simp [System.shown]

theorem run (hk : db.held = some k) (h : k.Accounts first db.committed made) (st : Statement) :
    ∃ k', (st.run db true).2.held = some k' ∧ k'.Accounts first db.committed
      (made ++ [(st, System.ofResult .answer (st.run db true).1)]) := by
  cases k with
  | begun => cases h
  | reading view current =>
    obtain ⟨hfirst, hcurrent, hmade⟩ := h
    cases st with
    | query q =>
      have hrun : (Statement.query q).run db true = (q.run view, db) := by
        simp only [Statement.run, ↓reduceIte, hk, Database.queryHeld]
      rw [hrun]
      refine ⟨_, hk, hfirst, hcurrent, ?_⟩
      intro x hx
      rcases List.mem_append.mp hx with hx | hx
      · exact hmade x hx
      · obtain rfl := List.mem_singleton.mp hx
        exact .inl ⟨q, rfl, rfl⟩
    | change c =>
      cases current with
      | true =>
        have hqueries : ∀ x ∈ made, ∃ q, x.1 = .query q ∧
            x.2 = System.ofResult .answer (q.run view) := by
          intro x hx
          rcases hmade x hx with h | ⟨-, h, -⟩
          · exact h
          · cases h
        obtain ⟨touched', hwrite⟩ := db.writeHeld_on view false c
        simp only [Statement.run, ↓reduceIte, hk, Database.changeHeld, hwrite]
        refine ⟨_, rfl, concat ?_ ?_⟩
        · rw [← hcurrent rfl]
          exact System.serially_queries hqueries
        · exact ⟨_, List.mem_append_right _ List.mem_cons_self, rfl⟩
      | false =>
        have hrun : (Statement.change c).run db true = (.error (.conflict .locked), db) := by
          simp only [Statement.run, ↓reduceIte, hk, Database.changeHeld]
        rw [hrun]
        refine ⟨_, hk, hfirst, hcurrent, ?_⟩
        intro x hx
        rcases List.mem_append.mp hx with hx | hx
        · exact hmade x hx
        · obtain rfl := List.mem_singleton.mp hx
          exact .inr ⟨rfl, rfl, rfl⟩
  | writing view touched =>
    obtain ⟨⟨x, hx, hchange⟩, hserial⟩ := h
    have hchange (y : Statement × Outcome) : ∃ x ∈ made ++ [y], x.1.isChange = true :=
      ⟨x, List.mem_append_left _ hx, hchange⟩
    cases st with
    | query q =>
      have hrun : (Statement.query q).run db true = (q.run view, db) := by
        simp only [Statement.run, ↓reduceIte, hk, Database.queryHeld]
      rw [hrun]
      exact ⟨_, hk, concat hserial (hchange _)⟩
    | change c =>
      obtain ⟨touched', hwrite⟩ := db.writeHeld_on view touched c
      simp only [Statement.run, ↓reduceIte, hk, Database.changeHeld, hwrite]
      exact ⟨_, rfl, concat hserial (hchange _)⟩

theorem begun (hk : db.held = some .begun) (st : Statement) :
    ∃ k', (st.run db true).2.held = some k' ∧ k'.Accounts db.committed db.committed
      [(st, System.ofResult .answer (st.run db true).1)] := by
  let db' : Database := { db with held := some (.reading db.committed true) }
  have hrun : st.run db true = st.run db' true := by
    cases st with
    | query q => simp only [Statement.run, ↓reduceIte, hk, Database.queryHeld, db']
    | change c =>
      simp only [Statement.run, ↓reduceIte, hk, Database.changeHeld, Database.writeHeld, db']
  rw [hrun]
  have hheld : db'.held = some (.reading db.committed true) := rfl
  have hfresh : (Held.reading db.committed true).Accounts db.committed db'.committed [] :=
    ⟨rfl, fun _ => rfl, fun _ h => absurd h List.not_mem_nil⟩
  exact hfresh.run hheld st

/-- Other work may be committed beside the transaction, but not once it has the write lock. -/
theorem commits (hk : db.held = some k) (h : k.Accounts first db.committed made)
    {allowed : Change → Prop} (hc : db.Commits allowed db') :
    ∃ k', db'.held = some k' ∧ k'.Accounts first db'.committed made := by
  obtain ⟨touched, hpub, hsame⟩ := hc.published
  cases touched with
  | false =>
    rw [hsame rfl]
    exact ⟨k, by rw [hpub]; exact hk, h⟩
  | true =>
    refine ⟨k.outdate, by rw [hpub]; simp [Database.publish, hk], ?_⟩
    cases k with
    | begun => cases h
    | reading view current =>
      obtain ⟨hfirst, -, hmade⟩ := h
      refine ⟨hfirst, by rintro ⟨⟩, fun x hx => (hmade x hx).imp_right fun h => ⟨h.1, rfl, h.2.2⟩⟩
    | writing view touched =>
      rw [hc.locked (by simp [Database.isLocked, hk, Held.hasLock])]
      exact h

theorem not_conflict {answers : List (Except StoreError Answer)}
    (hanswers : ∀ x ∈ answers, Definite x) (hmade : made.map (·.2) = System.shown answers) :
    ∀ x ∈ made, x.2.isConflict = false := by
  intro x hx
  have hshown : x.2 ∈ System.shown answers := hmade ▸ List.mem_map_of_mem hx
  obtain ⟨answer, hanswer, heq⟩ := List.mem_map.mp hshown
  rw [← heq]
  cases answer with
  | ok a => rfl
  | error e => exact hanswers _ hanswer e rfl

theorem written (h : k.Accounts first committed made)
    (hx : ∃ x ∈ made, x.1.isChange = true ∧ x.2.isConflict = false) :
    (∀ x ∈ made, x.2.isConflict = false) ∧ ∃ answers view touched, k = .writing view touched ∧
      Statement.serially committed (made.map (·.1)) = (answers, view) ∧
      made.map (·.2) = System.shown answers := by
  obtain ⟨x, hx, hchange, hconflict⟩ := hx
  cases k with
  | begun => cases h
  | reading view current =>
    rcases h.2.2 x hx with ⟨q, hq, -⟩ | ⟨-, -, h⟩
    · rw [hq] at hchange
      cases hchange
    · rw [hconflict] at h
      cases h
  | writing view touched =>
    obtain ⟨-, answers, hserial, hshown⟩ := h
    refine ⟨not_conflict ?_ hshown, answers, view, touched, rfl, hserial, hshown⟩
    rw [← show (Statement.serially committed (made.map (·.1))).1 = answers by rw [hserial]]
    exact Statement.serially_definite _ _

theorem unwritten (h : k.Accounts first committed made)
    (hmade : ∀ x ∈ made, x.1.isChange = true → x.2.isConflict = true) :
    k.hasLock = false ∧
      ∀ q o, (.query q, o) ∈ made → o = System.ofResult .answer (q.run first) := by
  cases k with
  | begun => cases h
  | reading view current =>
    obtain ⟨rfl, -, hreads⟩ := h
    refine ⟨rfl, fun q o ho => ?_⟩
    rcases hreads _ ho with ⟨q', hq, h⟩ | ⟨hchange, -⟩
    · cases hq
      exact h
    · cases hchange
  | writing view touched =>
    obtain ⟨⟨x, hx, hchange⟩, answers, hserial, hshown⟩ := h
    have hdefinite := not_conflict (fun y hy => Statement.serially_definite _ _ y (by
      rw [hserial]
      exact hy)) hshown x hx
    rw [hmade x hx hchange] at hdefinite
    cases hdefinite

end Held.Accounts

end Parley
