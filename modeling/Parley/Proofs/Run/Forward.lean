import Parley.Proofs.Run.Grants
import Parley.Proofs.Run.MessageOrder
import Parley.Proofs.Run.Serial
import Parley.Proofs.Store.Forward

/-!
# History only moves forward

No step of any session takes back what is committed, save sessions, and those are ended by their own
user or by the statement that ends them (`System.Ends`). Such a statement in a held transaction has
its effect when the transaction is committed, so what is committed has to be traced to the steps
since it was begun (`consistent_since`).
-/

namespace Parley

open Http (Request Call)

theorem Database.Consistent.mono {allowed more : Change → Prop} {db : Database}
    (h : db.Consistent allowed) (hm : ∀ c, allowed c → more c) : db.Consistent more := by
  intro k hk
  have hagrees := h k hk
  cases k with
  | begun => trivial
  | reading view current => exact hagrees
  | writing view touched => exact ⟨hagrees.1.mono hm, hagrees.2⟩

-- ---------------------------------------------------------------------------
-- The held transaction
-- ---------------------------------------------------------------------------

namespace System

/-- The steps since one began or ended a held transaction, the last of them first. -/
def sinceBound (steps : List Step) : List Step :=
  steps.reverse.takeWhile fun st => !st.action.isBound

def MadeIn (steps : List Step) (c : Change) : Prop :=
  ∃ st ∈ steps, st.action = .statement true (.change c)

variable {s : System} {a : Action} {allowed : Change → Prop}

theorem act_unheld (hnone : s.db.held = none) (hbound : a.isBound = false) :
    s.db.Commits (fun _ => True) (s.act a).2.db := by
  cases hmade : a.held? with
  | none => exact (act_beside hmade hbound).commits
  | some made =>
    have hact : s.act a = s.act (.statement false made) := by
      rw [act_held hmade]
      simp only [act, statement, Statement.run, hnone, ite_self]
    rw [hact]
    exact (act_beside rfl rfl).commits

theorem held_bound (hbound : a.isBound = true) : (s.act a).2.db.held = none ∨
    (s.act a).2.db.isOpen = true ∧ (s.act a).2.db.held = some .begun ∨
    s.db.isOpen = false ∧ (s.act a).2 = s := by
  cases a with
  | beginHeld =>
    by_cases hopen : s.db.isOpen = true
    · exact .inr (.inl (by simp [act, Database.beginHeld, hopen, settle]))
    · exact .inr (.inr (by simp [act, Database.beginHeld, hopen, settle]))
  | commitHeld =>
    refine .inl ?_
    cases hheld : s.db.held with
    | none => simp [act, Database.commitHeld, hheld, settleEnd]
    | some k => cases k <;> simp [act, Database.commitHeld, hheld, settleEnd]
  | rollbackHeld =>
    refine .inl ?_
    cases hheld : s.db.held <;> simp [act, Database.rollbackHeld, hheld, settleEnd]
  | close => exact .inl rfl
  | _ => cases hbound

theorem committed_bound (hbound : a.isBound = true) (ha : a ≠ .commitHeld) :
    (s.act a).2.db.committed = s.db.committed := by
  cases a with
  | beginHeld =>
    by_cases hopen : s.db.isOpen = true <;>
      simp [act, Database.beginHeld, hopen, settle]
  | commitHeld => exact absurd rfl ha
  | rollbackHeld =>
    cases hheld : s.db.held <;> simp [act, Database.rollbackHeld, hheld, settleEnd]
  | close => rfl
  | _ => cases hbound

theorem closed_step {st : Step} (h : s.db.isOpen = false → s.db.held = none)
    (hclosed : (s.step st).2.db.isOpen = false) : (s.step st).2.db.held = none := by
  cases hbound : st.action.isBound with
  | true =>
    rcases held_bound (s := s.tick st) hbound with hnone | ⟨hopen, -⟩ | ⟨hwas, hsame⟩
    · exact hnone
    · exact absurd (hclosed.symm.trans hopen) (by decide)
    · rw [step_eq, hsame]
      exact h hwas
  | false =>
    cases hheld : s.db.held with
    | none => exact (act_unheld (s := s.tick st) hheld hbound).held hheld
    | some k =>
      have hopen := (step_keeps hbound (by rw [hheld]; rfl)).2
      rw [h (hopen.symm.trans hclosed)] at hheld
      cases hheld

theorem consistent_bound (hbound : a.isBound = true) (h : s.db.isOpen = false → s.db.held = none) :
    (s.act a).2.db.Consistent allowed := by
  rcases held_bound (s := s) hbound with hnone | ⟨-, hbegun⟩ | ⟨hclosed, hsame⟩
  · exact Database.consistent_of_none hnone
  · intro k hk
    rw [hbegun] at hk
    cases hk
    trivial
  · rw [hsame]
    exact Database.consistent_of_none (h hclosed)

theorem consistent_unbound (hs : s.db.Consistent allowed) (hbound : a.isBound = false)
    (ha : ∀ c, a = .statement true (.change c) → allowed c) :
    (s.act a).2.db.Consistent allowed := by
  cases hmade : a.held? with
  | none => exact hs.commits (act_beside hmade hbound).commits
  | some made =>
    refine (act_moves hs ?_).1
    rintro held c rfl
    cases held with
    | true => exact ha c rfl
    | false => cases hmade

theorem consistent_step {st : Step} (hs : s.db.Consistent (MadeIn (sinceBound steps)))
    (hclosed : s.db.isOpen = false → s.db.held = none) :
    (s.step st).2.db.Consistent (MadeIn (sinceBound (steps ++ [st]))) := by
  rw [step_eq]
  cases hbound : st.action.isBound with
  | true => exact consistent_bound hbound hclosed
  | false =>
    have hsince : sinceBound (steps ++ [st]) = st :: sinceBound steps := by
      simp [sinceBound, hbound]
    rw [hsince]
    refine consistent_unbound (hs.mono ?_) hbound fun c hc => ⟨st, List.mem_cons_self, hc⟩
    rintro c ⟨st', hst, hc⟩
    exact ⟨st', List.mem_cons_of_mem _ hst, hc⟩

/-- What a held transaction has changed was asked for since it was begun. -/
theorem consistent_since (clock : Instant) (steps : List Step) :
    ((start clock).run steps).2.db.Consistent (MadeIn (sinceBound steps)) := by
  -- More steps after some that have been taken.
  have hmore (s : System) (taken more : List Step) (hs : s.db.Consistent (MadeIn (sinceBound taken)))
      (hclosed : s.db.isOpen = false → s.db.held = none) :
      (s.run more).2.db.Consistent (MadeIn (sinceBound (taken ++ more))) := by
    induction more generalizing s taken with
    | nil => rwa [List.append_nil]
    | cons st rest ih =>
      have := ih (s.step st).2 (taken ++ [st]) (consistent_step hs hclosed) (closed_step hclosed)
      rwa [List.append_assoc] at this
  exact hmore (start clock) [] steps (Database.consistent_of_none rfl) fun _ => rfl

-- ---------------------------------------------------------------------------
-- Sessions that end
-- ---------------------------------------------------------------------------

/-- What may end the sessions of `u` after the given steps: a request of theirs to log out, the
statement that deletes them, or the commit of a transaction in which it was made. -/
inductive Ends (u : Int) (steps : List Step) (t : Tables) : Action → Prop where
  | logout : r.asks? = some (.post, .logout) → r.bearerToken? = some token →
      t.userIdByToken token = .ok u → Ends u steps t (.request r draws)
  | statement : Ends u steps t (.statement held (.change (.deleteSessions u)))
  | commit : MadeIn (sinceBound steps) (.deleteSessions u) → Ends u steps t .commitHeld

theorem statement_sessions (held : Bool) (st : Statement) : ∀ x ∈ s.db.committed.sessions.rows,
    x ∈ (s.statement held st).2.db.committed.sessions.rows ∨
      st = .change (.deleteSessions x.userId) := by
  intro x hx
  cases hk : (if held then s.db.held else none) with
  | some k =>
    obtain ⟨rfl, hk⟩ : held = true ∧ s.db.held = some k := by
      cases held <;> simp_all
    have hcommitted : (st.run s.db true).2.committed = s.db.committed :=
      congrArg (·.committed) (st.run_held hk).2
    exact .inl (hcommitted.symm ▸ hx)
  | none =>
    cases st with
    | query q =>
      have hdb : (s.statement held (.query q)).2.db = s.db := by
        simp only [statement, Statement.run, hk]
      exact .inl (hdb.symm ▸ hx)
    | change c =>
      cases hrun : s.db.transact (.change fun t => c.run t) with
      | error e db =>
        have hdb : (s.statement held (.change c)).2.db = s.db := by
          simp only [statement, Statement.run, hk, hrun]
          exact Database.transact_restores (.change _) hrun
        exact .inl (hdb.symm ▸ hx)
      | ok r db =>
        have hdb : (s.statement held (.change c)).2.db = db := by
          simp only [statement, Statement.run, hk, hrun]
        have hdoes : Work.Does s.clock s.db db (.change c) := .change hrun
        rw [hdb]
        exact (hdoes.commits.reaches.session_stays x hx).imp_right fun hc => congrArg _ hc.symm

theorem act_sessions (ht : s.db.committed.Integrity)
    (hs : s.db.Consistent (MadeIn (sinceBound steps))) : ∀ x ∈ s.db.committed.sessions.rows,
    x ∈ (s.act a).2.db.committed.sessions.rows ∨ Ends x.userId steps s.db.committed a := by
  intro x hx
  cases a with
  | wait | createTables | dump => exact .inl hx
  | beginHeld | rollbackHeld | close =>
    refine .inl ?_
    rw [committed_bound rfl (by simp)]
    exact hx
  | commitHeld =>
    cases h : s.db.commitHeld with
    | some db =>
      simp only [act, h, settleEnd]
      exact ((hs.commitHeld h).2.session_stays x hx).imp_right .commit
    | none =>
      simp only [act, h, settleEnd]
      exact .inl hx
  | store op =>
    refine .inl ?_
    cases h : op.run s.db s.clock with
    | ok r db =>
      simp only [act, h, settle]
      -- No operation deletes sessions.
      have hnot : ¬ op.Makes s.clock (.deleteSessions x.userId) := by cases op <;> exact id
      exact ((Operation.commits h).reaches.session_stays x hx).resolve_right hnot
    | error e db =>
      simp only [act, h, settle]
      exact Operation.restores h ▸ hx
  | statement held st =>
    refine (statement_sessions held st x hx).imp_right ?_
    rintro rfl
    exact .statement
  | findDirect held a b =>
    cases hpair : Pair.of a b with
    | ok pair =>
      simp only [act, hpair]
      exact .inl ((statement_sessions held _ x hx).resolve_right (by rintro ⟨⟩))
    | error e =>
      simp only [act, hpair]
      exact .inl hx
  | request r draws =>
    let c : Call := ⟨r, s.clock, draws, s.db⟩
    refine (Call.answer_sessions (c := c) ht x hx).imp_right ?_
    rintro ⟨hasks, hu⟩
    obtain ⟨-, token, htoken, hu⟩ := Call.authenticate_ok.mp hu
    exact .logout hasks htoken hu

-- ---------------------------------------------------------------------------
-- Times
-- ---------------------------------------------------------------------------

/-- The clock and all times that are compared are in four-digit years, and the held transaction will
keep them so. -/
structure Timed (s : System) : Prop where
  clock : s.clock.FourDigitYear
  consistent : s.db.Consistent Change.Dated
  timed : s.db.committed.Timed

theorem dated_of_works (h : a.Works now (.change c)) (ha : a.Within Change.Dated)
    (hnow : now.FourDigitYear) : c.Dated := by
  cases h with
  | statement => exact ha _ _ rfl
  | request h =>
    cases h with
    | createSession => exact fun _ htime => Option.some.inj htime ▸ hnow
    | deleteSessions => rintro _ ⟨⟩

theorem timed_start {clock : Instant} (hclock : clock.FourDigitYear) : (start clock).Timed :=
  ⟨hclock, consistent_start clock, Tables.timed_empty⟩

theorem Timed.step (h : s.Timed) {st : Step} (hdated : st.Dated) : (s.step st).2.Timed := by
  have hclock : (s.tick st).clock.FourDigitYear := year_tick h.clock hdated.clock
  obtain ⟨hconsistent, hmoves⟩ := act_moves (s := s.tick st) h.consistent hdated.change
  refine ⟨(act_clock (s.tick st) st.action).symm ▸ hclock, hconsistent, ?_⟩
  cases hmoves with
  | rest hsame => exact hsame ▸ h.timed
  | commit hreaches => exact hreaches.timed h.timed
  | work hworks hdoes =>
    rcases hdoes.cases with ⟨m, row, hrow, heq⟩ | hreaches
    · exact heq ▸ h.timed.withMessage hrow hclock
    · refine (hreaches.mono ?_).timed h.timed
      rintro c (rfl | ⟨-, htime⟩)
      · exact dated_of_works hworks hdated.change hclock
      · exact fun time hc => htime time hc ▸ hclock

theorem timed_run {clock : Instant} (hclock : clock.FourDigitYear) {steps : List Step}
    (hdated : ∀ st ∈ steps, st.Dated) : ((start clock).run steps).2.Timed :=
  run_keeps (timed_start hclock) fun _ h st hst => h.step (hdated st hst)

/-- What is committed by a step, compared with what was committed before, in a session all of whose
times are in four-digit years. Users and messages stay as they are, and so do conversations and
participants but for times that do not go back. Conversations are not active before they are made. A
session stays as it is until its user's sessions are ended, and its id is then gone. -/
theorem history_moves_forward (clock : Instant) (hclock : clock.FourDigitYear) (steps : List Step)
    (hdated : ∀ st ∈ steps, st.Dated) (st : Step) (hst : st.Dated) :
    let s := ((start clock).run steps).2
    let t := s.db.committed
    let t' := (s.step st).2.db.committed
    t.users.rows <+: t'.users.rows ∧ t.messages.rows <+: t'.messages.rows ∧
    (∀ c ∈ t.conversations.rows, ∃ c' ∈ t'.conversations.rows, c'.fixed = c.fixed ∧
      c.updatedAt.instant ≤ c'.updatedAt.instant) ∧
    (∀ c ∈ t'.conversations.rows, c.createdAt.instant ≤ c.updatedAt.instant) ∧
    (∀ p ∈ t.participants.rows, ∃ p' ∈ t'.participants.rows, p'.fixed = p.fixed ∧
      ∀ last ∈ p.lastReadAt, ∃ last' ∈ p'.lastReadAt, last.instant ≤ last'.instant) ∧
    ∀ x ∈ t.sessions.rows, x ∈ t'.sessions.rows ∨
      (∀ x' ∈ t'.sessions.rows, x'.id ≠ x.id) ∧ Ends x.userId steps t st.action := by
  intro s t t'
  have htimed : s.Timed := timed_run hclock hdated
  have htimed' : (s.step st).2.Timed := htimed.step hst
  have ht : t.Integrity := integrity_run clock steps
  have hreaches : t.Reaches (fun _ => True) t' :=
    run_reaches (consistent_run (consistent_start clock) fun _ _ _ _ _ => trivial) [st]
  have hforward := hreaches.advances
  refine ⟨hforward.users, hforward.messages, fun c hc => ?_, fun c hc => ?_, fun p hp => ?_,
    fun x hx => ?_⟩
  · obtain ⟨c', hc', heq, hle⟩ := hforward.conversations c hc
    exact ⟨c', hc', heq, (Stamp.instant_le_instant (htimed.timed.conversationYears c hc).2
      (htimed'.timed.conversationYears c' hc').2).mpr hle⟩
  · obtain ⟨hcreated, hupdated⟩ := htimed'.timed.conversationYears c hc
    exact (Stamp.instant_le_instant hcreated hupdated).mpr (htimed'.timed.active c hc)
  · obtain ⟨p', hp', heq, hlater⟩ := hforward.participants p hp
    refine ⟨p', hp', heq, fun last hlast => ?_⟩
    obtain ⟨last', hlast', hle⟩ := hlater last hlast
    exact ⟨last', hlast', (Stamp.instant_le_instant (htimed.timed.markerYears p hp last hlast)
      (htimed'.timed.markerYears p' hp' last' hlast')).mpr hle⟩
  · by_cases hstays : x ∈ t'.sessions.rows
    · exact .inl hstays
    · refine .inr ⟨fun x' hx' hid => hstays ?_, ?_⟩
      · rwa [hreaches.newSessions.eq_of_id ht hx hx' hid.symm]
      · have hends := act_sessions (s := s.tick st) (a := st.action) ht
          (consistent_since clock steps) x hx
        exact hends.resolve_left hstays

/-- A transaction ends the sessions of the first of two users, who has sent a message. -/
def endedInside : List Step :=
  [⟨none, .store (.createAccount ⟨"ada", "ada@example.org", "h", "customer"⟩ "t1")⟩,
    ⟨none, .store (.createAccount ⟨"bob", "bob@example.org", "h", "customer"⟩ "t2")⟩,
    ⟨none, .store (.getOrCreateDirect 1 2)⟩,
    ⟨some (atSecond 100), .store (.sendMessage ⟨1, 1, "aGk=", "k"⟩)⟩,
    ⟨none, .beginHeld⟩,
    ⟨none, .statement true (.change (.deleteSessions 1))⟩]

theorem endedInside_dated : ∀ st ∈ endedInside, st.Dated := by
  intro st hst
  simp only [endedInside, List.mem_cons, List.not_mem_nil, or_false] at hst
  rcases hst with rfl | rfl | rfl | rfl | rfl | rfl
  all_goals
    refine ⟨?_, ?_⟩
    · rintro _ ⟨⟩ <;> decide +kernel
    · rintro _ _ ⟨⟩ <;> rintro _ ⟨⟩

theorem commit_ends_session :
    let s := ((start .epoch).run endedInside).2
    let t' := (s.step ⟨none, .commitHeld⟩).2.db.committed
    s.db.committed.sessions.rows.map (·.userId) = [1, 2] ∧ t'.sessions.rows.map (·.userId) = [2] ∧
    ∀ x ∈ s.db.committed.sessions.rows, x ∈ t'.sessions.rows ∨
      (∀ x' ∈ t'.sessions.rows, x'.id ≠ x.id) ∧
        MadeIn (sinceBound endedInside) (.deleteSessions x.userId) := by
  refine ⟨by decide +kernel, by decide +kernel, fun x hx => ?_⟩
  obtain ⟨-, -, -, -, -, hsessions⟩ := history_moves_forward .epoch (by decide +kernel) endedInside
    endedInside_dated ⟨none, .commitHeld⟩ ⟨by rintro _ ⟨⟩, by rintro _ _ ⟨⟩⟩
  refine (hsessions x hx).imp_right fun ⟨hgone, hends⟩ => ⟨hgone, ?_⟩
  cases hends with
  | commit h => exact h

end System
end Parley
