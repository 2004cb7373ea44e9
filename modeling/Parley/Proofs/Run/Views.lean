import Parley.Proofs.Run.Forward

/-!
# The tables that are shown

A session shows the committed tables, and what the held transaction sees of them
(`Database.Shows`). Of any two of them, now or later, changes lead from one to the other
(`Tables.Joined`), unless the transaction that saw the first was dropped. So all of them are whole,
and the id of a session that one of them has means the same session in the other (`shown_whole`). An
id that only a dropped transaction has given out is given out again (`dropped_id_reused`).
-/

namespace Parley

def Tables.Joined (t t' : Tables) : Prop :=
  t.Reaches (fun _ => True) t' ∨ t'.Reaches (fun _ => True) t

theorem Tables.Joined.symm {t t' : Tables} (h : t.Joined t') : t'.Joined t := Or.symm h

theorem Tables.Joined.session_eq {t t' : Tables} (h : t.Joined t') (ht : t.Integrity)
    (ht' : t'.Integrity) (hx : x ∈ t.sessions.rows) (hx' : x' ∈ t'.sessions.rows)
    (hid : x.id = x'.id) : x = x' := by
  rcases h with h | h
  · exact h.newSessions.eq_of_id ht hx hx' hid
  · exact (h.newSessions.eq_of_id ht' hx' hx hid.symm).symm

-- ---------------------------------------------------------------------------
-- Statements of the held transaction
-- ---------------------------------------------------------------------------

namespace Held

def seen (committed : Tables) : Held → Tables
  | .begun => committed
  | .reading view _ | .writing view _ => view

/-- What one statement makes of the held transaction. -/
inductive Next (committed : Tables) : Held → Held → Prop where
  | same : Next committed k k
  | read : Next committed .begun (.reading committed true)
  | write {k : Held} : (k.seen committed).Reaches (fun _ => True) view →
      Next committed k (.writing view touched)

theorem outdate_eq_reading {k : Held} (h : k.outdate = .reading view current) :
    ∃ current', k = .reading view current' := by
  cases k with
  | begun | writing => cases h
  | reading view' current' => cases h; exact ⟨_, rfl⟩

end Held

theorem Statement.on_reaches (st : Statement) (t : Tables) :
    t.Reaches (fun _ => True) (st.on t).2 := by
  cases st with
  | query q => exact .refl
  | change c =>
    cases hw : c.run t with
    | ok w =>
      simp only [on, hw]
      exact .change .refl trivial hw
    | error e =>
      simp only [on, hw]
      exact .refl

theorem Statement.run_next {db : Database} (hk : db.held = some k) (st : Statement) :
    ∃ k', (st.run db true).2.held = some k' ∧ Held.Next db.committed k k' := by
  have hwrite (view : Tables) (touched : Bool) (c : Change) (hview : k.seen db.committed = view) :
      ∃ k', (db.writeHeld view touched fun t => c.run t).2.held = some k' ∧
        Held.Next db.committed k k' := by
    obtain ⟨touched', h⟩ := db.writeHeld_on view touched c
    rw [h]
    exact ⟨_, rfl, .write (hview ▸ on_reaches _ _)⟩
  cases st with
  | query q =>
    simp only [run, ↓reduceIte, hk]
    cases k with
    | begun => exact ⟨_, rfl, .read⟩
    | reading | writing => exact ⟨_, hk, .same⟩
  | change c =>
    simp only [run, ↓reduceIte, hk]
    cases k with
    | begun => exact hwrite _ _ c rfl
    | reading view current =>
      cases current with
      | true => exact hwrite _ _ c rfl
      | false => exact ⟨_, hk, .same⟩
    | writing view touched => exact hwrite _ _ c rfl

namespace System

variable {s : System} {a : Action} {t : Tables}

theorem act_next (hheld : s.db.held = some k) (hmade : a.held? = some made) :
    (s.act a).2.db.committed = s.db.committed ∧
      ∃ k', (s.act a).2.db.held = some k' ∧ Held.Next s.db.committed k k' := by
  rw [act_held hmade]
  exact ⟨congrArg (·.committed) (made.run_held hheld).2, made.run_next hheld⟩

/-- Who reads has read before, or has just begun to, and then sees what is committed. -/
theorem act_reading (h : (s.act a).2.db.held = some (.reading t current)) :
    (∃ current', s.db.held = some (.reading t current')) ∨
      t = s.db.committed ∧ (s.act a).2.db.committed = s.db.committed := by
  cases hbound : a.isBound with
  | true =>
    rcases held_bound (s := s) hbound with hnone | ⟨-, hbegun⟩ | ⟨-, hsame⟩
    · rw [hnone] at h
      cases h
    · rw [hbegun] at h
      cases h
    · rw [hsame] at h
      exact .inl ⟨_, h⟩
  | false =>
    cases hheld : s.db.held with
    | none =>
      rw [(act_unheld hheld hbound).held hheld] at h
      cases h
    | some k =>
      cases hmade : a.held? with
      | none =>
        obtain ⟨touched, hpub, -⟩ := (act_beside hmade hbound).commits.published
        rw [hpub] at h
        cases touched with
        | false => exact .inl ⟨_, hheld.symm.trans h⟩
        | true =>
          simp only [Database.publish, ↓reduceIte, hheld, Option.map_some, Option.some.injEq] at h
          obtain ⟨current', rfl⟩ := Held.outdate_eq_reading h
          exact .inl ⟨_, rfl⟩
      | some made =>
        obtain ⟨hcommitted, k', hk', hnext⟩ := act_next hheld hmade
        obtain rfl := Option.some.inj (h.symm.trans hk')
        cases hnext with
        | same => exact .inl ⟨_, rfl⟩
        | read => exact .inr ⟨rfl, hcommitted⟩

theorem act_writing (hbound : a.isBound = false) (hheld : s.db.held = some (.writing t touched)) :
    (s.act a).2.db.committed = s.db.committed ∧ ∃ t' touched',
      (s.act a).2.db.held = some (.writing t' touched') ∧ t.Reaches (fun _ => True) t' := by
  cases hmade : a.held? with
  | none =>
    have hcommits := (act_beside (s := s) hmade hbound).commits
    obtain ⟨touched', hpub, -⟩ := hcommits.published
    have hlocked : s.db.isLocked = true := by simp [Database.isLocked, hheld, Held.hasLock]
    refine ⟨hcommits.locked hlocked, t, touched, ?_, .refl⟩
    rw [hpub]
    cases touched' <;> simp [Database.publish, hheld, Held.outdate]
  | some made =>
    obtain ⟨hcommitted, k', hk', hnext⟩ := act_next hheld hmade
    refine ⟨hcommitted, ?_⟩
    cases hnext with
    | same => exact ⟨_, _, hk', .refl⟩
    | write hreaches => exact ⟨_, _, hk', hreaches⟩

end System

-- ---------------------------------------------------------------------------
-- What is shown
-- ---------------------------------------------------------------------------

namespace Database

/-- Tables that may be shown: the committed ones, and those that the held transaction sees. -/
def Shows (db : Database) (t : Tables) : Prop :=
  t = db.committed ∨ ∃ k, db.held = some k ∧ k.seen db.committed = t

/-- The tables that are written next: those of the held transaction if it writes, else the committed
ones. -/
def latest (db : Database) : Tables :=
  match db.held with
  | some (.writing view _) => view
  | _ => db.committed

/-- The held transaction sees whole tables. Those that it reads were committed once, and those that
it has written follow the committed ones. -/
structure Linked (db : Database) : Prop where
  whole : db.committed.Integrity
  consistent : db.Consistent fun _ => True
  reading : ∀ t current, db.held = some (.reading t current) →
    t.Integrity ∧ t.Reaches (fun _ => True) db.committed

/-- What is committed follows `t`, and what is read comes before or after it. -/
structure Follows (t : Tables) (db : Database) : Prop where
  consistent : db.Consistent fun _ => True
  committed : t.Reaches (fun _ => True) db.committed
  reading : ∀ view current, db.held = some (.reading view current) → t.Joined view

/-- The held transaction writes, and its writes come from `t`. -/
structure WritesFrom (t : Tables) (db : Database) : Prop where
  committed : db.committed.Reaches (fun _ => True) t
  writing : ∃ view touched, db.held = some (.writing view touched) ∧
    t.Reaches (fun _ => True) view

variable {db : Database} {t t' : Tables}

theorem Linked.shown (h : db.Linked) (ht : db.Shows t) : t.Integrity := by
  rcases ht with rfl | ⟨k, hk, rfl⟩
  · exact h.whole
  · cases k with
    | begun => exact h.whole
    | reading view current => exact (h.reading view current hk).1
    | writing view touched => exact (h.consistent _ hk).1.integrity h.whole

theorem shows_latest (db : Database) : db.Shows db.latest := by
  unfold latest
  split
  · rename_i view touched hheld
    exact .inr ⟨_, hheld, rfl⟩
  · exact .inl rfl

theorem Linked.follows (h : db.Linked) : db.Follows db.committed :=
  ⟨h.consistent, .refl, fun view current hread => .inr (h.reading view current hread).2⟩

theorem Follows.joined (h : db.Follows t) (ht : db.Shows t') : t.Joined t' := by
  rcases ht with rfl | ⟨k, hk, rfl⟩
  · exact .inl h.committed
  · cases k with
    | begun => exact .inl h.committed
    | reading view current => exact h.reading view current hk
    | writing view touched => exact .inl (h.committed.trans (h.consistent _ hk).1)

theorem Follows.reaches_latest (h : db.Follows t) : t.Reaches (fun _ => True) db.latest := by
  unfold latest
  split
  · rename_i view touched hheld
    exact h.committed.trans (h.consistent _ hheld).1
  · exact h.committed

theorem WritesFrom.joined (h : db.WritesFrom t) (ht : db.Shows t') : t.Joined t' := by
  obtain ⟨view, touched, hheld, hreaches⟩ := h.writing
  rcases ht with rfl | ⟨k, hk, rfl⟩
  · exact .inr h.committed
  · obtain rfl := Option.some.inj (hheld.symm.trans hk)
    exact .inl hreaches

theorem WritesFrom.reaches_latest (h : db.WritesFrom t) : t.Reaches (fun _ => True) db.latest := by
  obtain ⟨view, touched, hheld, hreaches⟩ := h.writing
  simpa only [latest, hheld] using hreaches

end Database

namespace System

variable {s : System} {t : Tables}

-- ---------------------------------------------------------------------------
-- Runs
-- ---------------------------------------------------------------------------

theorem act_reaches (h : s.db.Consistent fun _ => True) (a : Action) :
    (s.act a).2.db.Consistent (fun _ => True) ∧
      s.db.committed.Reaches (fun _ => True) (s.act a).2.db.committed := by
  obtain ⟨hconsistent, hmoves⟩ := act_moves (a := a) h fun _ _ _ => trivial
  exact ⟨hconsistent, hmoves.reaches.mono fun _ _ => trivial⟩

theorem linked_act (h : s.db.Linked) (a : Action) : (s.act a).2.db.Linked := by
  obtain ⟨hconsistent, hreaches⟩ := act_reaches h.consistent a
  refine ⟨hreaches.integrity h.whole, hconsistent, fun t current hread => ?_⟩
  rcases act_reading hread with ⟨current', hread⟩ | ⟨rfl, -⟩
  · obtain ⟨ht, hpast⟩ := h.reading t current' hread
    exact ⟨ht, hpast.trans hreaches⟩
  · exact ⟨h.whole, hreaches⟩

theorem linked_run (clock : Instant) (steps : List Step) :
    ((start clock).run steps).2.db.Linked := by
  refine run_keeps (P := fun s => s.db.Linked)
    ⟨Tables.integrity_empty, consistent_start clock, ?_⟩ fun s h st _ =>
      linked_act (s := s.tick st) h st.action
  rintro t current ⟨⟩

theorem follows_act (h : s.db.Follows t) (a : Action) : (s.act a).2.db.Follows t := by
  obtain ⟨hconsistent, hreaches⟩ := act_reaches h.consistent a
  refine ⟨hconsistent, h.committed.trans hreaches, fun view current hread => ?_⟩
  rcases act_reading hread with ⟨current', hread⟩ | ⟨rfl, -⟩
  · exact h.reading view current' hread
  · exact .inl h.committed

theorem follows_run (h : s.db.Follows t) (steps : List Step) : (s.run steps).2.db.Follows t :=
  run_keeps (P := fun s => s.db.Follows t) h fun s h st _ =>
    follows_act (s := s.tick st) h st.action

theorem writesFrom_act {a : Action} (h : s.db.WritesFrom t) (hbound : a.isBound = false) :
    (s.act a).2.db.WritesFrom t := by
  obtain ⟨view, touched, hheld, hreaches⟩ := h.writing
  obtain ⟨hcommitted, view', touched', hheld', hreaches'⟩ := act_writing hbound hheld
  exact ⟨hcommitted.symm ▸ h.committed, view', touched', hheld', hreaches.trans hreaches'⟩

theorem follows_commitHeld (h : s.db.WritesFrom t) : (s.act .commitHeld).2.db.Follows t := by
  obtain ⟨view, touched, hheld, hreaches⟩ := h.writing
  have hdb : (s.act .commitHeld).2.db = { s.db with committed := view, held := none } := by
    simp [act, Database.commitHeld, hheld, settleEnd]
  rw [hdb]
  exact ⟨Database.consistent_of_none rfl, hreaches, by rintro _ _ ⟨⟩⟩

/-- The transaction that is held before the steps is not dropped in them: they end it by committing
it, if at all. -/
def Keeps (steps : List Step) : Prop :=
  ∀ st, steps.find? (·.action.isBound) = some st → st.action = .commitHeld

theorem writesFrom_run (h : s.db.WritesFrom t) (hkeeps : Keeps steps) :
    (s.run steps).2.db.Follows t ∨ (s.run steps).2.db.WritesFrom t := by
  induction steps generalizing s with
  | nil => exact .inr h
  | cons st rest ih =>
    cases hbound : st.action.isBound with
    | true =>
      have hcommit := hkeeps st (List.find?_cons_of_pos hbound)
      refine .inl (follows_run (s := (s.step st).2) ?_ rest)
      rw [step_eq, hcommit]
      exact follows_commitHeld (s := s.tick st) h
    | false =>
      refine ih (s := (s.step st).2) (writesFrom_act (s := s.tick st) h hbound) fun st' hst => ?_
      exact hkeeps st' (by rw [List.find?_cons_of_neg (by simp [hbound]), hst])

/-- Tables that are shown once are committed later, or stand behind what the held transaction has
written, unless it was dropped. -/
theorem shown_run (h : s.db.Linked) (ht : s.db.Shows t)
    (hkept : s.db.isLocked = false ∨ Keeps steps) :
    (s.run steps).2.db.Follows t ∨ (s.run steps).2.db.WritesFrom t := by
  rcases ht with rfl | ⟨k, hk, rfl⟩
  · exact .inl (follows_run h.follows steps)
  cases k with
  | begun => exact .inl (follows_run h.follows steps)
  | reading view current =>
    refine .inl (follows_run ?_ steps)
    refine ⟨h.consistent, (h.reading view current hk).2, fun view' current' hread => ?_⟩
    cases hk.symm.trans hread
    exact .inl .refl
  | writing view touched =>
    have hlocked : s.db.isLocked = true := by simp [Database.isLocked, hk, Held.hasLock]
    have hkeeps : Keeps steps := hkept.resolve_left (by simp [hlocked])
    exact writesFrom_run ⟨(h.consistent _ hk).1, view, touched, hk, .refl⟩ hkeeps

theorem latest_run (h : s.db.Linked) (hkept : s.db.latest = s.db.committed ∨ Keeps steps) :
    s.db.latest.Reaches (fun _ => True) (s.run steps).2.db.latest := by
  rcases hkept with heq | hkeeps
  · rw [heq]
    exact (follows_run h.follows steps).reaches_latest
  · exact (shown_run h s.db.shows_latest (.inr hkeeps)).elim (·.reaches_latest) (·.reaches_latest)

/-- A session that is shown stands in tables that are committed later, or behind what the held
transaction has written. -/
theorem session_run (h : s.db.Linked) (ht : s.db.Shows t) (hx : x ∈ t.sessions.rows)
    (hkept : x ∈ s.db.committed.sessions.rows ∨ s.db.isLocked = false ∨ Keeps steps) :
    ∃ t, t.Integrity ∧ x ∈ t.sessions.rows ∧
      ((s.run steps).2.db.Follows t ∨ (s.run steps).2.db.WritesFrom t) := by
  rcases hkept with hcommitted | hkept
  · exact ⟨_, h.whole, hcommitted, .inl (follows_run h.follows steps)⟩
  · exact ⟨t, h.shown ht, hx, shown_run h ht hkept⟩

/-- All that is shown after any steps is whole: the committed tables, and those that the held
transaction sees. The id of a user's session is never given to another: where it is shown again, it is
of the same session, and once it is gone from the tables that are written next, it does not come back
to them. This is so unless the session was made in a held transaction that is dropped. -/
theorem shown_whole (clock : Instant) (steps more rest : List Step) :
    let s := ((start clock).run steps).2
    let s' := (s.run more).2
    let s'' := (s'.run rest).2
    (∀ t, s'.db.Shows t → t.Integrity) ∧
    ∀ t, s.db.Shows t → ∀ x ∈ t.sessions.rows,
      (x ∈ s.db.committed.sessions.rows ∨ s.db.isLocked = false ∨ Keeps more) →
      (∀ t', s'.db.Shows t' → ∀ x' ∈ t'.sessions.rows, x'.id = x.id → x' = x) ∧
      (x ∉ s'.db.latest.sessions.rows → (s'.db.latest = s'.db.committed ∨ Keeps rest) →
        ∀ x' ∈ s''.db.latest.sessions.rows, x'.id ≠ x.id) := by
  intro s s' s''
  have hs : s.db.Linked := linked_run clock steps
  have hs' : s'.db.Linked := by
    have := linked_run clock (steps ++ more)
    rwa [run_append] at this
  refine ⟨fun t => hs'.shown, fun t ht x hx hkept => ?_⟩
  obtain ⟨t₀, hwhole, hx₀, hlater⟩ := session_run hs ht hx hkept
  constructor
  · intro t' ht' x' hx' hid
    have hjoined : t₀.Joined t' := hlater.elim (·.joined ht') (·.joined ht')
    exact (hjoined.session_eq hwhole (hs'.shown ht') hx₀ hx' hid.symm).symm
  · intro hgone hkept' x' hx' hid
    have hbefore : t₀.Reaches (fun _ => True) s'.db.latest :=
      hlater.elim (·.reaches_latest) (·.reaches_latest)
    have hafter : s'.db.latest.Reaches (fun _ => True) s''.db.latest := latest_run hs' hkept'
    obtain rfl := (hbefore.trans hafter).newSessions.eq_of_id hwhole hx₀ hx' hid.symm
    rcases hafter.newSessions.new x hx' with hthere | hlate
    · exact hgone hthere
    · -- Its id was given out before.
      have hold := hwhole.sessionIds.2 x hx₀
      have hissued := hbefore.newSessions.issued
      unfold Table.nextId at hold hlate
      omega

def sessionInside : List Step :=
  [⟨none, .store (.createAccount ⟨"ada", "ada@example.org", "h", "customer"⟩ "t1")⟩,
    ⟨none, .beginHeld⟩,
    ⟨none, .statement true (.change (.createSession 1 "inside" .epoch))⟩]

/-- The transaction is dropped, and a session is made without one. -/
def sessionOutside : List Step :=
  [⟨none, .rollbackHeld⟩,
    ⟨none, .statement false (.change (.createSession 1 "outside" .epoch))⟩]

/-- The id of the session that was dropped is the id of the next one, which is committed. -/
theorem dropped_id_reused :
    let s := ((start .epoch).run sessionInside).2
    let s' := (s.run sessionOutside).2
    (∃ t, s.db.Shows t ∧ t.sessions.rows.map (fun x => (x.id, x.token)) = [(1, "t1"), (2, "inside")]) ∧
    s'.db.committed.sessions.rows.map (fun x => (x.id, x.token)) = [(1, "t1"), (2, "outside")] ∧
    ¬ ∀ t, s.db.Shows t → ∀ x ∈ t.sessions.rows, ∀ t', s'.db.Shows t' → ∀ x' ∈ t'.sessions.rows,
      x'.id = x.id → x' = x := by
  intro s s'
  let inside : Session := ⟨2, 1, "inside", .of .epoch⟩
  let outside : Session := ⟨2, 1, "outside", .of .epoch⟩
  have hinside : inside ∈ s.db.latest.sessions.rows := by decide +kernel
  have houtside : outside ∈ s'.db.committed.sessions.rows := by decide +kernel
  refine ⟨⟨_, Database.shows_latest _, by decide +kernel⟩, by decide +kernel, fun hsame => ?_⟩
  have heq : outside = inside :=
    hsame _ (Database.shows_latest _) _ hinside _ (.inl rfl) _ houtside rfl
  exact absurd (congrArg Session.token heq) (by decide)

/-- A user's sessions are ended in a transaction that makes another one. -/
theorem ended_in_view :
    let s := ((start .epoch).run (endedInside.take 4)).2
    let deleting : List Step := [⟨none, .beginHeld⟩,
      ⟨none, .statement true (.change (.deleteSessions 1))⟩]
    let making : List Step :=
      [⟨none, .statement true (.change (.createSession 1 "t3" .epoch))⟩, ⟨none, .commitHeld⟩]
    let s' := (s.run deleting).2
    let s'' := (s'.run making).2
    s.db.committed.sessions.rows.map Session.id = [1, 2] ∧
    s'.db.latest.sessions.rows.map Session.id = [2] ∧
    s''.db.latest.sessions.rows.map Session.id = [2, 3] ∧ s'.db.latest.Integrity ∧
    ∀ x ∈ s.db.committed.sessions.rows, x ∉ s'.db.latest.sessions.rows →
      ∀ x' ∈ s''.db.latest.sessions.rows, x'.id ≠ x.id := by
  intro s deleting making s' s''
  obtain ⟨hwhole, hnever⟩ := shown_whole .epoch (endedInside.take 4) deleting making
  refine ⟨by decide +kernel, by decide +kernel, by decide +kernel,
    hwhole _ (Database.shows_latest _), fun x hx hgone => ?_⟩
  refine (hnever _ (.inl rfl) x hx (.inl hx)).2 hgone (.inr ?_)
  rintro st ⟨⟩
  rfl

end System
end Parley
