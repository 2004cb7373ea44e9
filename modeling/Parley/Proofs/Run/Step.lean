import Parley.Proofs.Http.Service

/-!
# Steps and runs

What a step may do to the committed tables: nothing, one piece of work that its action asks for, or
to commit what the held transaction has written (`act_moves`). What all of this keeps holds after
every run (`run_keeps`), so the tables of every session are whole (`integrity_run`).
-/

namespace Parley

/-- The work that an action at the time `now` asks for. -/
inductive Action.Works (now : Instant) : Action → Work → Prop where
  | store : Works now (.store op) (.operation op)
  | statement : Works now (.statement held (.change c)) (.change c)
  | request : Work.OfRequest now w → Works now (.request r draws) w

/-- If the action is a statement that writes, it is an allowed change. -/
def Action.Within (allowed : Change → Prop) (a : Action) : Prop :=
  ∀ held c, a = .statement held (.change c) → allowed c

namespace System

def atSecond (n : Nat) : Instant := ⟨n, 0, .inl (by decide)⟩

/-- What an action may do to the committed tables. -/
inductive Moves (allowed : Change → Prop) (a : Action) (s s' : System) : Prop where
  | rest (h : s'.db.committed = s.db.committed)
  | work (ha : a.Works s.clock w) (h : w.Does s.clock s.db s'.db)
  | commit (h : s.db.committed.Reaches allowed s'.db.committed)

variable {allowed : Change → Prop} {s s' : System} {a : Action}

theorem Moves.reaches (h : s.Moves allowed a s') : s.db.committed.Reaches
    (fun c => allowed c ∨ ∃ w, a.Works s.clock w ∧ w.Makes s.clock c) s'.db.committed := by
  cases h with
  | rest h => rw [h]; exact .refl
  | work ha h => exact h.commits.reaches.mono fun c hc => .inr ⟨_, ha, hc⟩
  | commit h => exact h.mono fun c hc => .inl hc

-- ---------------------------------------------------------------------------
-- One action
-- ---------------------------------------------------------------------------

theorem statement_moves (hs : s.db.Consistent allowed)
    (ha : Action.Within allowed (.statement held st)) :
    (s.statement held st).2.db.Consistent allowed ∧
      s.Moves allowed (.statement held st) (s.statement held st).2 := by
  unfold statement Statement.run
  cases hheld : (if held then s.db.held else none) with
  | some h =>
    have hdb : s.db.held = some h := by
      cases held <;> simp_all
    cases st with
    | query q =>
      obtain ⟨hc, heq⟩ := hs.queryHeld h hdb fun t => q.run t
      exact ⟨hc, .rest heq⟩
    | change c =>
      obtain ⟨hc, heq⟩ := hs.changeHeld hdb (ha _ c rfl)
      exact ⟨hc, .rest heq⟩
  | none =>
    cases st with
    | query q => exact ⟨hs, .rest rfl⟩
    | change c =>
      dsimp only
      cases hdb : s.db.transact (.change fun t => c.run t) with
      | ok a db =>
        have hdoes : Work.Does s.clock s.db db (.change c) := .change hdb
        exact ⟨hs.commits hdoes.commits, .work .statement hdoes⟩
      | error e db =>
        obtain rfl := Database.transact_restores (.change _) hdb
        exact ⟨hs, .rest rfl⟩

theorem settle_clock (s : System) (f : α → Outcome) (r : Database.Result α) :
    (s.settle f r).2.clock = s.clock := by
  cases r <;> rfl

theorem act_clock (s : System) (a : Action) : (s.act a).2.clock = s.clock := by
  cases a <;> simp only [act]
  case beginHeld => exact settle_clock _ _ _
  case commitHeld => cases h : s.db.commitHeld <;> rfl
  case rollbackHeld => cases h : s.db.rollbackHeld <;> rfl
  case store op => exact settle_clock _ _ _
  case statement => rfl
  case findDirect => split <;> rfl

theorem act_moves (hs : s.db.Consistent allowed) (ha : a.Within allowed) :
    (s.act a).2.db.Consistent allowed ∧ s.Moves allowed a (s.act a).2 := by
  cases a <;> simp only [act]
  case wait => exact ⟨hs, .rest rfl⟩
  case beginHeld =>
    cases h : s.db.beginHeld with
    | ok _ db =>
      obtain ⟨hc, heq⟩ : db.Consistent allowed ∧ _ := Database.Consistent.beginHeld h
      exact ⟨hc, .rest heq⟩
    | error e db =>
      obtain rfl := Database.beginHeld_error h
      exact ⟨hs, .rest rfl⟩
  case commitHeld =>
    cases h : s.db.commitHeld with
    | some db =>
      obtain ⟨hc, hr⟩ := hs.commitHeld h
      exact ⟨hc, .commit hr⟩
    | none => exact ⟨hs, .rest rfl⟩
  case rollbackHeld =>
    cases h : s.db.rollbackHeld with
    | some db =>
      obtain ⟨hc, heq⟩ : db.Consistent allowed ∧ _ := Database.Consistent.rollbackHeld h
      exact ⟨hc, .rest heq⟩
    | none => exact ⟨hs, .rest rfl⟩
  case close => exact ⟨.close, .rest rfl⟩
  case createTables => exact ⟨hs, .rest rfl⟩
  case dump => exact ⟨hs, .rest rfl⟩
  case store op =>
    cases h : op.run s.db s.clock with
    | ok r db =>
      have hdoes : Work.Does s.clock s.db db (.operation op) := .operation h
      exact ⟨hs.commits hdoes.commits, .work .store hdoes⟩
    | error e db =>
      obtain rfl := Operation.restores h
      exact ⟨hs, .rest rfl⟩
  case statement held st => exact statement_moves hs ha
  case findDirect held a b =>
    split
    · rename_i p _
      have hwithin : (Action.statement held (.query (.findDirect p))).Within allowed := by
        rintro _ _ ⟨⟩
      obtain ⟨hc, hm⟩ := statement_moves hs hwithin
      refine ⟨hc, ?_⟩
      cases hm with
      | rest h => exact .rest h
      | work ha _ => cases ha
      | commit h => exact .commit h
    · exact ⟨hs, .rest rfl⟩
  case request r draws =>
    rcases Http.Call.answer_work ⟨r, s.clock, draws, s.db⟩ with h | ⟨w, hw, hdoes⟩
    · rw [h]
      exact ⟨hs, .rest rfl⟩
    · exact ⟨hs.commits hdoes.commits, .work (.request hw) hdoes⟩

-- ---------------------------------------------------------------------------
-- Runs
-- ---------------------------------------------------------------------------

def tick (s : System) (st : Step) : System := { s with clock := st.clock.getD s.clock }

theorem step_eq (s : System) (st : Step) : s.step st = (s.tick st).act st.action := rfl

theorem step_store (h : (s.step ⟨time, .store op⟩).1 = .report r) :
    op.run s.db (time.getD s.clock) = .ok r (s.step ⟨time, .store op⟩).2.db := by
  simp only [step, act] at h ⊢
  cases hrun : op.run s.db (time.getD s.clock) <;> rw [hrun] at h <;> cases h
  rfl

theorem step_store_refused : (s.step ⟨time, .store op⟩).1 = .refused e ↔
    op.run s.db (time.getD s.clock) = .error e s.db := by
  simp only [step, act]
  cases hrun : op.run s.db (time.getD s.clock) with
  | ok r db => simp [settle]
  | error e' db =>
    obtain rfl := Operation.restores hrun
    simp [settle]

theorem step_request (s : System) (time : Option Instant) (r : Http.Request) (draws : Draws) :
    s.step ⟨time, .request r draws⟩ =
      (.reply (Http.Call.answer ⟨r, time.getD s.clock, draws, s.db⟩).1,
        ⟨(Http.Call.answer ⟨r, time.getD s.clock, draws, s.db⟩).2, time.getD s.clock⟩) := rfl

theorem run_append (s : System) (steps more : List Step) :
    (s.run (steps ++ more)).2 = ((s.run steps).2.run more).2 := by
  induction steps generalizing s with
  | nil => rfl
  | cons st rest ih => exact ih (s.step st).2

theorem run_replicate (h : s.step st = (o, s)) (n : Nat) :
    s.run (List.replicate n st) = (List.replicate n o, s) := by
  induction n with
  | zero => rfl
  | succ n ih =>
    rw [List.replicate_succ, run, h]
    simp only [ih]
    rfl

theorem run_keeps {P : System → Prop} {steps : List Step} (hs : P s)
    (keep : ∀ s, P s → ∀ st ∈ steps, P (s.step st).2) : P (s.run steps).2 := by
  induction steps generalizing s with
  | nil => exact hs
  | cons st rest ih =>
    exact ih (keep s hs st List.mem_cons_self) fun s hs st' hst =>
      keep s hs st' (List.mem_cons_of_mem _ hst)

theorem consistent_start (clock : Instant) : (start clock).db.Consistent allowed :=
  Database.consistent_of_none rfl

theorem consistent_run {steps : List Step} (hs : s.db.Consistent allowed)
    (hsteps : ∀ st ∈ steps, st.action.Within allowed) :
    (s.run steps).2.db.Consistent allowed :=
  run_keeps (P := fun s => s.db.Consistent allowed) hs fun s hs st hst =>
    (act_moves (s := s.tick st) hs (hsteps st hst)).1

theorem run_reaches (hs : s.db.Consistent fun _ => True) (steps : List Step) :
    s.db.committed.Reaches (fun _ => True) (s.run steps).2.db.committed := by
  refine (run_keeps (P := fun s' => s'.db.Consistent (fun _ => True) ∧
    s.db.committed.Reaches (fun _ => True) s'.db.committed) ⟨hs, .refl⟩ ?_).2
  rintro s' ⟨hs', hr⟩ st -
  obtain ⟨hc, hm⟩ := act_moves (s := s'.tick st) (a := st.action) hs' fun _ _ _ => trivial
  exact ⟨hc, hr.trans (hm.reaches.mono fun _ _ => trivial)⟩

theorem integrity_run (clock : Instant) (steps : List Step) :
    ((start clock).run steps).2.db.committed.Integrity :=
  (run_reaches (consistent_start clock) steps).integrity Tables.integrity_empty

end System
end Parley
