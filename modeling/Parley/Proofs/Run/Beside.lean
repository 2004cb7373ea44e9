import Parley.Proofs.Http.Alone
import Parley.Proofs.Run.Step

/-!
# Actions beside the held transaction

Of a held transaction all other work notices the write lock at most (`System.act_beside`): an action
beside it shows what it shows without it and does the same, or it is refused for now and does
nothing.
-/

namespace Parley

def Action.held? : Action → Option Statement
  | .statement true st => some st
  | .findDirect true a b => (Pair.of a b).toOption.map fun pair => .query (.findDirect pair)
  | _ => none

/-- Whether an action begins or ends the held transaction. -/
def Action.isBound : Action → Bool
  | .beginHeld | .commitHeld | .rollbackHeld | .close => true
  | _ => false

def Outcome.isConflict : Outcome → Bool
  | .refused e => e.isRetryable
  | .reply r => r.isBusy
  | _ => false

-- ---------------------------------------------------------------------------
-- Statements
-- ---------------------------------------------------------------------------

def Statement.beside (db : Database) : Statement → Database.Result Answer
  | query q => db.read fun t => q.run t
  | change c => db.transact (.change fun t => c.run t)

theorem Statement.beside_yields (st : Statement) : Database.Yields st.beside := by
  cases st with
  | query q => exact .read _
  | change c => exact .transact (.change _)

theorem Statement.beside_restores {st : Statement} (h : st.beside db = .error e db') : db' = db := by
  cases st with
  | query q => exact (Database.read_error.mp h).2
  | change c => exact Database.transact_restores (.change _) h

theorem Statement.beside_commits {st : Statement} (h : st.beside db = .ok a db') :
    db.Commits (fun _ => True) db' := by
  cases st with
  | query q =>
    obtain ⟨-, -, rfl⟩ := Database.read_ok.mp h
    exact .refl
  | change c =>
    exact Database.transact_commits (Transaction.Makes.change (Change.run_is c) trivial) h

-- ---------------------------------------------------------------------------
-- Actions
-- ---------------------------------------------------------------------------

namespace System

def alone (s : System) : System := { s with db := s.db.alone }

variable {s : System} {a : Action}

theorem statement_beside (s : System) (st : Statement) :
    s.statement false st = s.settle .answer (st.beside s.db) := by
  cases st with
  | query q =>
    simp only [statement, Statement.run, Statement.beside, Database.read, Bool.false_eq_true,
      ↓reduceIte]
    cases s.db.query fun t => q.run t <;> rfl
  | change c =>
    simp only [statement, Statement.run, Statement.beside, Bool.false_eq_true, ↓reduceIte]
    cases s.db.transact (.change fun t => c.run t) <;> rfl

structure Beside (s : System) (a : Action) : Prop where
  commits : s.db.Commits (fun _ => True) (s.act a).2.db
  conflict : (s.act a).1.isConflict = true → (s.act a).2 = s
  alone : (s.act a).1.isConflict = true ∨ s.alone.act a = ((s.act a).1, (s.act a).2.alone)

theorem Beside.of_settle (x : Database → Database.Result β) (f : β → Outcome)
    (hact : s.act a = s.settle f (x s.db))
    (halone : s.alone.act a = s.alone.settle f (x s.db.alone)) (hx : Database.Yields x)
    (hf : ∀ b, (f b).isConflict = false)
    (hrestores : ∀ e db, x s.db = .error e db → db = s.db)
    (hcommits : ∀ b db, x s.db = .ok b db → s.db.Commits (fun _ => True) db) : s.Beside a := by
  have hyields := hx s.db
  cases hrun : x s.db with
  | ok b db =>
    have hdone : s.act a = (f b, { s with db }) := by rw [hact, hrun]; rfl
    refine ⟨by rw [hdone]; exact hcommits b db hrun, fun h => ?_, .inr ?_⟩
    · rw [hdone, hf] at h
      cases h
    · rw [hrun] at hyields
      rcases hyields with ⟨e, db', heq, -⟩ | hsame
      · cases heq
      · rw [halone, hsame, hdone]
        rfl
  | error e db =>
    obtain rfl := hrestores e db hrun
    have hdone : s.act a = (.refused e, s) := by rw [hact, hrun]; rfl
    refine ⟨by rw [hdone]; exact .refl, fun _ => by rw [hdone], ?_⟩
    rw [hrun] at hyields
    rcases hyields with ⟨e', db', heq, hretry⟩ | hsame
    · cases heq
      exact .inl (by rw [hdone]; exact hretry)
    · exact .inr (by rw [halone, hsame, hdone]; rfl)

theorem Beside.of_rest {o : Outcome} (hact : s.act a = (o, s))
    (halone : s.alone.act a = (o, s.alone)) : s.Beside a :=
  ⟨by rw [hact]; exact .refl, fun _ => by rw [hact], .inr (by rw [halone, hact])⟩

theorem act_beside (hheld : a.held? = none) (hbound : a.isBound = false) : s.Beside a := by
  cases a with
  | wait => exact .of_rest rfl rfl
  | beginHeld | commitHeld | rollbackHeld | close => cases hbound
  | createTables => exact .of_rest rfl rfl
  | dump => exact .of_rest rfl rfl
  | store op =>
    refine .of_settle (op.run · s.clock) .report rfl rfl (op.yields s.clock) (fun _ => rfl)
      (fun _ _ => Operation.restores) fun r db h => ?_
    exact (Operation.commits h).mono fun _ _ => trivial
  | statement held st =>
    cases held with
    | true => cases hheld
    | false =>
      exact .of_settle (Statement.beside · st) .answer (statement_beside s st)
        (statement_beside s.alone st) st.beside_yields (fun _ => rfl)
        (fun _ _ => Statement.beside_restores) fun _ _ => Statement.beside_commits
  | findDirect held a b =>
    cases hpair : Pair.of a b with
    | error e =>
      have hact (s : System) : s.act (.findDirect held a b) = (.refused e, s) := by
        simp only [act, hpair]
      exact .of_rest (hact s) (hact s.alone)
    | ok pair =>
      cases held with
      | true => simp [Action.held?, hpair, Except.toOption] at hheld
      | false =>
        have hact (s : System) : s.act (.findDirect false a b) =
            s.statement false (.query (.findDirect pair)) := by simp only [act, hpair]
        exact .of_settle (Statement.beside · _) .answer ((hact s).trans (statement_beside s _))
          ((hact s.alone).trans (statement_beside s.alone _)) (Statement.beside_yields _)
          (fun _ => rfl) (fun _ _ => Statement.beside_restores) fun _ _ => Statement.beside_commits
  | request r draws =>
    let c : Http.Call := ⟨r, s.clock, draws, s.db⟩
    refine ⟨?_, fun h => ?_, ?_⟩
    · rcases c.answer_work with h | ⟨w, -, hdoes⟩
      · show s.db.Commits _ c.answer.2
        rw [h]
        exact .refl
      · exact hdoes.commits.mono fun _ _ => trivial
    · show (⟨c.answer.2, s.clock⟩ : System) = s
      rw [c.answer_busy h]
    · rcases c.answer_alone with h | h
      · exact .inl h
      · refine .inr ?_
        show (Outcome.reply c.alone.answer.1, (⟨c.alone.answer.2, s.clock⟩ : System)) = _
        rw [h]
        rfl

end System
end Parley
