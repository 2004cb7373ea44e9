import Parley.Proofs.Run.Held

/-!
# Serial sessions

The statements of a held transaction and all other work may come in any order. What the other work
comes to is what it comes to without the held transaction, save that some of it is refused for now
(`System.Serializes.beside`). What the held transaction comes to, if it writes, is what its
statements come to one after the other when it is committed (`System.Serializes.written`).
-/

namespace Parley

namespace System

def asked (s : System) : List Step → List (Statement × Outcome)
  | [] => []
  | st :: rest =>
    let (o, s') := s.step st
    match st.action.held? with
    | some made => (made, o) :: s'.asked rest
    | none => s'.asked rest

/-- What a step and its outcome are without the held transaction. Of a step in it, or one that is
refused for now, only the time remains. -/
def kept (s : System) (st : Step) : Step × Outcome :=
  if st.action.held?.isSome || (s.step st).1.isConflict then (⟨st.clock, .wait⟩, .done)
  else (st, (s.step st).1)

def remains (s : System) : List Step → List (Step × Outcome)
  | [] => []
  | st :: rest => s.kept st :: (s.step st).2.remains rest

def firstSeen (s : System) (steps : List Step) : Tables :=
  (s.run (steps.takeWhile (·.action.held?.isNone))).2.db.committed

-- ---------------------------------------------------------------------------
-- Runs
-- ---------------------------------------------------------------------------

variable {s : System} {steps : List Step}

theorem act_held {a : Action} (h : a.held? = some made) : s.act a = s.statement true made := by
  cases a with
  | statement held st =>
    cases held with
    | false => cases h
    | true => cases h; rfl
  | findDirect held a b =>
    cases held with
    | false => cases h
    | true =>
      cases hpair : Pair.of a b with
      | error e => simp [Action.held?, hpair, Except.toOption] at h
      | ok pair =>
        simp only [Action.held?, hpair, Except.toOption, Option.map_some, Option.some.injEq] at h
        subst h
        simp only [act, hpair]
  | _ => cases h

theorem step_held {st : Step} (h : st.action.held? = some made) : s.step st =
    (ofResult .answer (made.run s.db true).1,
      ⟨(made.run s.db true).2, st.clock.getD s.clock⟩) := by
  rw [step_eq, act_held h]
  rfl

theorem committed_step_held {st : Step} (h : st.action.held? = some made)
    (hk : s.db.held = some k) : (s.step st).2.db.committed = s.db.committed := by
  rw [step_held h]
  exact congrArg (·.committed) (made.run_held hk).2

theorem step_keeps {st : Step} (hbound : st.action.isBound = false)
    (hheld : s.db.held.isSome = true) :
    (s.step st).2.db.held.isSome = true ∧ (s.step st).2.db.isOpen = s.db.isOpen := by
  cases hmade : st.action.held? with
  | some made =>
    obtain ⟨k, hk⟩ := Option.isSome_iff_exists.mp hheld
    obtain ⟨hsome, halone⟩ := made.run_held hk
    rw [step_held hmade]
    exact ⟨hsome, congrArg (·.isOpen) halone⟩
  | none =>
    have hbeside : (s.tick st).Beside st.action := act_beside hmade hbound
    obtain ⟨touched, hpub, -⟩ := hbeside.commits.published
    refine ⟨?_, hbeside.commits.isOpen⟩
    rw [step_eq, hpub]
    cases touched <;> simpa [Database.publish, tick] using hheld

theorem isOpen_run (hsteps : ∀ st ∈ steps, st.action.isBound = false)
    (hheld : s.db.held.isSome = true) : (s.run steps).2.db.isOpen = s.db.isOpen := by
  refine (run_keeps (P := fun s' => s'.db.held.isSome = true ∧ s'.db.isOpen = s.db.isOpen)
    ⟨hheld, rfl⟩ ?_).2
  rintro s' ⟨hheld', hopen⟩ st hst
  obtain ⟨hsome, hsame⟩ := step_keeps (hsteps st hst) hheld'
  exact ⟨hsome, hsame.trans hopen⟩

theorem step_alone {st : Step} (hbound : st.action.isBound = false)
    (hheld : s.db.held.isSome = true) :
    s.alone.step (s.kept st).1 = ((s.kept st).2, (s.step st).2.alone) := by
  cases hmade : st.action.held? with
  | some made =>
    obtain ⟨k, hk⟩ := Option.isSome_iff_exists.mp hheld
    simp only [kept, hmade, Option.isSome_some, Bool.true_or, ↓reduceIte]
    rw [step_held hmade]
    show _ = (Outcome.done, (⟨(made.run s.db true).2.alone, _⟩ : System))
    rw [(made.run_held hk).2]
    rfl
  | none =>
    have hbeside : (s.tick st).Beside st.action := act_beside hmade hbound
    cases hconflict : (s.step st).1.isConflict with
    | true =>
      simp only [kept, hconflict, Bool.or_true, ↓reduceIte]
      rw [show (s.step st).2 = s.tick st from hbeside.conflict hconflict]
      rfl
    | false =>
      simp only [kept, hmade, hconflict, Option.isSome_none, Bool.or_false, Bool.false_eq_true,
        ↓reduceIte]
      rcases hbeside.alone with h | h
      · rw [← step_eq, hconflict] at h
        cases h
      · exact h

/-- Without the held transaction, what remains of a run shows the same and comes to the same. -/
theorem remains_run (hsteps : ∀ st ∈ steps, st.action.isBound = false)
    (hheld : s.db.held.isSome = true) :
    s.alone.run ((s.remains steps).map (·.1)) =
      ((s.remains steps).map (·.2), (s.run steps).2.alone) := by
  induction steps generalizing s with
  | nil => rfl
  | cons st rest ih =>
    have hst := hsteps st List.mem_cons_self
    have hrest := ih (fun st' hst => hsteps st' (List.mem_cons_of_mem _ hst)) (step_keeps hst hheld).1
    simp only [remains, List.map_cons, run, step_alone hst hheld, hrest]

theorem accounts_run {k : Held} (hsteps : ∀ st ∈ steps, st.action.isBound = false)
    (hk : s.db.held = some k) (h : k.Accounts first s.db.committed made) :
    ∃ k', (s.run steps).2.db.held = some k' ∧
      k'.Accounts first (s.run steps).2.db.committed (made ++ s.asked steps) := by
  induction steps generalizing s k made with
  | nil => exact ⟨k, hk, by simpa [asked, run] using h⟩
  | cons st rest ih =>
    have hrest : ∀ st ∈ rest, st.action.isBound = false :=
      fun st' hst => hsteps st' (List.mem_cons_of_mem _ hst)
    cases hmade : st.action.held? with
    | some q =>
      obtain ⟨k', hk', h'⟩ := h.run hk q
      rw [← committed_step_held hmade hk] at h'
      obtain ⟨k'', hk'', h''⟩ := ih hrest (by rw [step_held hmade]; exact hk') h'
      refine ⟨k'', hk'', ?_⟩
      simp only [asked, hmade, run]
      rw [step_held hmade] at h'' ⊢
      simpa using h''
    | none =>
      have hbeside : (s.tick st).Beside st.action :=
        act_beside hmade (hsteps st List.mem_cons_self)
      obtain ⟨k', hk', h'⟩ := h.commits hk hbeside.commits
      obtain ⟨k'', hk'', h''⟩ := ih hrest hk' h'
      refine ⟨k'', hk'', ?_⟩
      simp only [asked, hmade]
      exact h''

theorem begun_run (hsteps : ∀ st ∈ steps, st.action.isBound = false)
    (hk : s.db.held = some .begun) :
    ((s.run steps).2.db.held = some .begun ∧ s.asked steps = []) ∨
      ∃ k, (s.run steps).2.db.held = some k ∧
        k.Accounts (s.firstSeen steps) (s.run steps).2.db.committed (s.asked steps) := by
  induction steps generalizing s with
  | nil => exact .inl ⟨hk, rfl⟩
  | cons st rest ih =>
    have hrest : ∀ st ∈ rest, st.action.isBound = false :=
      fun st' hst => hsteps st' (List.mem_cons_of_mem _ hst)
    cases hmade : st.action.held? with
    | some q =>
      have hsame := committed_step_held hmade hk
      have hfirst : s.firstSeen (st :: rest) = (s.step st).2.db.committed := by
        simp [firstSeen, List.takeWhile, hmade, run, hsame]
      obtain ⟨k, hk', h⟩ := Held.Accounts.begun hk q
      rw [← hsame] at h
      obtain ⟨k', hk'', h'⟩ := accounts_run hrest (by rw [step_held hmade]; exact hk') h
      refine .inr ⟨k', hk'', ?_⟩
      simp only [hfirst, asked, hmade, run]
      rw [step_held hmade] at h' ⊢
      simpa using h'
    | none =>
      have hbeside : (s.tick st).Beside st.action :=
        act_beside hmade (hsteps st List.mem_cons_self)
      have hk' : (s.step st).2.db.held = some .begun := by
        obtain ⟨touched, hpub, -⟩ := hbeside.commits.published
        rw [step_eq, hpub]
        cases touched <;> simp [Database.publish, tick, hk, Held.outdate]
      have hfirst : s.firstSeen (st :: rest) = (s.step st).2.firstSeen rest := by
        simp [firstSeen, List.takeWhile, hmade, run]
      simp only [hfirst, asked, hmade, run]
      exact ih hrest hk'

-- ---------------------------------------------------------------------------
-- Sessions with a held transaction
-- ---------------------------------------------------------------------------

/-- What comes of a transaction that is held from `b` on, while the steps `during` are taken. -/
structure Serializes (b : System) (during : List Step) : Prop where
  /-- Without it, the other steps show the same and come to the same, save those that were refused
  for now. So none of them shows any of its writes. -/
  beside : b.alone.run ((b.remains during).map (·.1)) =
    ((b.remains during).map (·.2), (b.run during).2.alone)
  /-- If it has written, none of it was refused for now, and its commit is as if all of it were done
  then. -/
  written : (∃ x ∈ b.asked during, x.1.isChange = true ∧ x.2.isConflict = false) →
    (∀ x ∈ b.asked during, x.2.isConflict = false) ∧
      ∃ answers tables, Statement.serially (b.run during).2.db.committed
          ((b.asked during).map (·.1)) = (answers, tables) ∧
        (b.asked during).map (·.2) = shown answers ∧
        ∀ time, (b.run during).2.step ⟨time, .commitHeld⟩ =
          (.done, ⟨{ (b.run during).2.db.alone with committed := tables },
            time.getD (b.run during).2.clock⟩)
  /-- If it has not, its commit changes nothing, and it has read the tables as they were committed
  at its first statement. -/
  unwritten : (∀ x ∈ b.asked during, x.1.isChange = true → x.2.isConflict = true) →
    (∀ q o, (.query q, o) ∈ b.asked during → o = ofResult .answer (q.run (b.firstSeen during))) ∧
      ∀ time, (b.run during).2.step ⟨time, .commitHeld⟩ =
        (.done, ⟨(b.run during).2.db.alone, time.getD (b.run during).2.clock⟩)
  /-- If it is not committed, it is as if it had never been. -/
  dropped : ∀ st : Step, st.action.isBound = true → st.action ≠ .commitHeld →
    ((b.run during).2.step st).1 = .done ∧
      ((b.run during).2.step st).2 = ((b.run during).2.alone.step st).2 ∧
      ((b.run during).2.step st).2.db.committed = (b.run during).2.db.committed

theorem commitHeld_read {db : Database} {k : Held} (hk : db.held = some k)
    (hlock : k.hasLock = false) : db.commitHeld = some db.alone := by
  cases k with
  | begun | reading => simp only [Database.commitHeld, hk]; rfl
  | writing => cases hlock

/-- Every session with a held transaction is as good as one in which its statements stand together,
at its commit if it has written, else at its first statement. -/
theorem serializable (hopen : s.db.isOpen = true) (time : Option Instant) {during : List Step}
    (hduring : ∀ st ∈ during, st.action.isBound = false) :
    (s.step ⟨time, .beginHeld⟩).2.Serializes during := by
  have hbegin {s : System} (hopen : s.db.isOpen = true) (time : Option Instant) :
      s.step ⟨time, .beginHeld⟩ =
        (.done, ⟨{ s.db with held := some .begun }, time.getD s.clock⟩) := by
    simp [step, act, Database.beginHeld, hopen, settle]
  rw [hbegin hopen]
  let b : System := ⟨{ s.db with held := some .begun }, time.getD s.clock⟩
  show b.Serializes during
  have hheld : b.db.held = some .begun := rfl
  have hrun := begun_run hduring hheld
  refine ⟨remains_run hduring rfl, ?_, ?_, ?_⟩
  · intro hwrote
    rcases hrun with ⟨-, hasked⟩ | ⟨k, hk, haccounts⟩
    · obtain ⟨x, hx, -⟩ := hwrote
      rw [hasked] at hx
      cases hx
    · obtain ⟨hall, answers, view, touched, rfl, hserial, hshown⟩ := haccounts.written hwrote
      refine ⟨hall, answers, view, hserial, hshown, fun time => ?_⟩
      simp only [step, act, Database.commitHeld, hk, settleEnd]
      rfl
  · intro hread
    rcases hrun with ⟨hk, hasked⟩ | ⟨k, hk, haccounts⟩
    · refine ⟨fun q o h => ?_, fun time => ?_⟩
      · rw [hasked] at h
        cases h
      · simp only [step, act, commitHeld_read hk rfl]
        rfl
    · obtain ⟨hlock, hreads⟩ := haccounts.unwritten hread
      refine ⟨hreads, fun time => ?_⟩
      simp only [step, act, commitHeld_read hk hlock]
      rfl
  · rintro ⟨time, a⟩ hbound hcommit
    have hopen' : (b.run during).2.db.isOpen = true := (isOpen_run hduring rfl).trans hopen
    obtain ⟨k, hk⟩ : ∃ k, (b.run during).2.db.held = some k := by
      rcases hrun with ⟨hk, -⟩ | ⟨k, hk, -⟩
      · exact ⟨_, hk⟩
      · exact ⟨k, hk⟩
    cases a with
    | beginHeld =>
      have halone : (b.run during).2.alone.db.isOpen = true := hopen'
      rw [hbegin hopen', hbegin halone]
      exact ⟨rfl, rfl, rfl⟩
    | rollbackHeld =>
      have hdrop : (b.run during).2.step ⟨time, .rollbackHeld⟩ =
          (.done, ⟨(b.run during).2.db.alone, time.getD (b.run during).2.clock⟩) := by
        simp only [step, act, Database.rollbackHeld, hk]
        rfl
      rw [hdrop]
      exact ⟨rfl, rfl, rfl⟩
    | close => exact ⟨rfl, rfl, rfl⟩
    | commitHeld => exact absurd rfl hcommit
    | _ => cases hbound

/-- The held transaction makes a user, and another writer is turned away. -/
def crossing : List Step :=
  [⟨none, .statement true (.query (.userByName "ada"))⟩,
    ⟨none, .statement true (.change (.createUser ⟨"ada", "ada@example.org", "h", "customer"⟩ .epoch))⟩,
    ⟨none, .store (.createAccount ⟨"bob", "bob@example.org", "h", "customer"⟩ "t")⟩,
    ⟨none, .statement false (.query (.userByName "ada"))⟩,
    ⟨none, .statement true (.query (.userByName "ada"))⟩]

theorem crossing_serializes :
    let b := ((start .epoch).step ⟨none, .beginHeld⟩).2
    b.Serializes crossing ∧
      (b.asked crossing).map (fun x => (x.1.isChange, x.2.isConflict)) =
        [(false, false), (true, false), (false, false)] ∧
      (b.run crossing).1.map Outcome.isConflict = [false, false, true, false, false] :=
  ⟨serializable rfl none (by decide +kernel), by decide +kernel, by decide +kernel⟩

end System
end Parley
