import Parley.Proofs.Attempt
import Parley.Proofs.Store.Reach
import Parley.Store.Operation

/-!
# Transactions

A transaction is made of queries and changes, and all of these leave the database itself alone
(`Transaction.Frames`). So a transaction that is refused, whatever it has written by then, leaves the
database as it was when it is rolled back (`Database.transact_restores`). `Transaction.Makes allowed x`
says that `x`, where it is not refused, only makes allowed changes, none without the write lock, and
knows whether it has touched a row. What it publishes is then a commit in the sense of
`Database.Commits`, which is all that the held transaction notices of it.
-/

namespace Parley

-- ---------------------------------------------------------------------------
-- Statements
-- ---------------------------------------------------------------------------

namespace Transaction

variable {d d' : Draft}

theorem get_apply : (get : Transaction Draft) d = .ok d d := rfl

theorem query_ok : query q d = .ok a d' ↔ q d.tables = .ok a ∧ d = d' := by
  unfold query
  cases q d.tables <;> simp

theorem query_error : query q d = .error e d' ↔ q d.tables = .error e ∧ d = d' := by
  unfold query
  cases q d.tables <;> simp

theorem change_ok : change w d = .ok a d' ↔ d.writable = true ∧ ∃ r, w d.tables = .ok r ∧
    r.answer = a ∧ d' = { d with tables := r.tables, touched := d.touched || r.touched } := by
  unfold change
  split
  · next h => cases w d.tables <;> simp [h, eq_comm]
  · next h => simp [h]

theorem change_error : change w d = .error e d' ↔
    ((d.writable = false ∧ e = .conflict .locked) ∨ (d.writable = true ∧ w d.tables = .error e)) ∧
      d' = d := by
  unfold change
  split
  · next h => cases w d.tables <;> simp [h, eq_comm]
  · next h => simp [h, eq_comm]

end Transaction

-- ---------------------------------------------------------------------------
-- The database behind a draft
-- ---------------------------------------------------------------------------

/-- Whether it is refused or not, the transaction does nothing to the database itself. -/
def Transaction.Frames (x : Transaction α) : Prop := ∀ d : Draft, (final (x d)).database = d.database

namespace Transaction.Frames

variable {x : Transaction α} {f : α → Transaction β}

theorem pure (a : α) : (Pure.pure a : Transaction α).Frames := fun _ => rfl

theorem throw (e : StoreError) : (MonadExcept.throw e : Transaction α).Frames := fun _ => rfl

theorem get : (MonadState.get : Transaction Draft).Frames := fun _ => rfl

theorem bind (hx : x.Frames) (hf : ∀ a, (f a).Frames) : (x >>= f).Frames := by
  intro d
  have hkept := hx d
  rw [Attempt.bind_apply]
  cases h : x d with
  | ok a d' =>
    rw [h] at hkept
    exact (hf a d').trans hkept
  | error e d' =>
    rw [h] at hkept
    exact hkept

theorem query (q : Tables → Except StoreError α) : (Transaction.query q).Frames := by
  intro d
  unfold Transaction.query
  cases q d.tables <;> rfl

theorem change (w : Tables → Except StoreError (Write α)) : (Transaction.change w).Frames := by
  intro d
  unfold Transaction.change
  split
  · cases w d.tables <;> rfl
  · rfl

theorem adapt (hx : x.Frames) (g : StoreError → StoreError) :
    Transaction.Frames (x.adaptExcept g) := by
  intro d
  have hkept := hx d
  rw [Attempt.adapt_apply]
  cases h : x d <;> rw [h] at hkept <;> exact hkept

end Transaction.Frames

-- ---------------------------------------------------------------------------
-- Drafts
-- ---------------------------------------------------------------------------

structure Draft.Advances (allowed : Change → Prop) (d d' : Draft) : Prop where
  database : d'.database = d.database
  locked : d.writable = false → d' = d
  touched : d.touched = true → d'.touched = true
  untouched : d'.touched = false → d'.tables = d.tables
  reaches : d.tables.Reaches allowed d'.tables

namespace Draft.Advances

variable {allowed : Change → Prop} {d d' d'' : Draft}

theorem refl : d.Advances allowed d := ⟨rfl, fun _ => rfl, id, fun _ => rfl, .refl⟩

theorem trans (h : d.Advances allowed d') (h' : d'.Advances allowed d'') :
    d.Advances allowed d'' where
  database := h'.database.trans h.database
  locked hl := by
    have hd' : d'.writable = false := by rw [writable, h.database]; exact hl
    exact (h'.locked hd').trans (h.locked hl)
  touched ht := h'.touched (h.touched ht)
  untouched hu := by
    have hd' : d'.touched = false := by
      cases ht : d'.touched
      · rfl
      · rw [h'.touched ht] at hu; exact absurd hu (by simp)
    exact (h'.untouched hu).trans (h.untouched hd')
  reaches := h.reaches.trans h'.reaches

end Draft.Advances

/-- Where it is not refused, the transaction makes allowed changes and no others. -/
def Transaction.Makes (allowed : Change → Prop) (x : Transaction α) : Prop :=
  ∀ ⦃d a d'⦄, x d = .ok a d' → d.Advances allowed d'

def Change.Is (c : Change) (w : Tables → Except StoreError (Write α)) : Prop :=
  ∃ f, ∀ t, c.run t = (w t).map (·.map f)

namespace Change

theorem createUser_is : (createUser u now).Is (·.createUser u now) := ⟨_, fun _ => rfl⟩
theorem createSession_is : (createSession u token now).Is (·.createSession u token now) :=
  ⟨_, fun _ => rfl⟩
theorem deleteSessions_is : (deleteSessions u).Is (·.deleteSessions u) := ⟨_, fun _ => rfl⟩
theorem createConversation_is :
    (createConversation key now).Is (·.createConversation key now) := ⟨_, fun _ => rfl⟩
theorem addParticipant_is : (addParticipant c u now).Is (·.addParticipant c u now) :=
  ⟨_, fun _ => rfl⟩
theorem touchConversation_is : (touchConversation c time).Is (·.touchConversation c time) :=
  ⟨_, fun _ => rfl⟩
theorem lockConversation_is : (lockConversation c).Is (·.lockConversation c) := ⟨_, fun _ => rfl⟩
theorem createMessage_is : (createMessage m sentAt).Is (·.createMessage m sentAt) :=
  ⟨_, fun _ => rfl⟩
theorem updateLastRead_is : (updateLastRead c u time).Is (·.updateLastRead c u time) :=
  ⟨_, fun _ => rfl⟩

theorem run_is (c : Change) : c.Is fun t => c.run t :=
  ⟨id, fun t => by
    show c.run t = (c.run t).map (·.map id)
    cases c.run t <;> rfl⟩

end Change

namespace Transaction.Makes

variable {allowed : Change → Prop} {x : Transaction α} {f : α → Transaction β}

theorem pure : (Pure.pure a : Transaction α).Makes allowed := by
  intro d b d' h
  obtain ⟨-, rfl⟩ := Attempt.pure_ok.mp h
  exact .refl

theorem bind (hx : x.Makes allowed) (hf : ∀ a, (f a).Makes allowed) :
    (x >>= f).Makes allowed := by
  intro d b d'' h
  obtain ⟨a, d', ha, hb⟩ := Attempt.bind_ok.mp h
  exact (hx ha).trans (hf a hb)

theorem query : (Transaction.query q).Makes allowed := by
  intro d a d' h
  obtain ⟨-, rfl⟩ := query_ok.mp h
  exact .refl

theorem adapt (hx : x.Makes allowed) : Transaction.Makes allowed (x.adaptExcept g) :=
  fun _ _ _ h => hx (Attempt.adapt_ok.mp h)

theorem change {w : Tables → Except StoreError (Write α)} (hc : c.Is w) (ha : allowed c) :
    (Transaction.change w).Makes allowed := by
  intro d a d' h
  obtain ⟨hwritable, r, hr, -, rfl⟩ := change_ok.mp h
  obtain ⟨f, hf⟩ := hc
  have hrun : c.run d.tables = .ok (r.map f) := by rw [hf, hr]; rfl
  exact {
    database := rfl
    locked := fun hl => by simp [hwritable] at hl
    touched := fun ht => by simp [ht]
    untouched := fun hu => Tables.eq_of_untouched hrun (Bool.or_eq_false_iff.mp hu).2
    reaches := Tables.Reaches.refl.change ha hrun }

end Transaction.Makes

-- ---------------------------------------------------------------------------
-- Commits beside the held transaction
-- ---------------------------------------------------------------------------

/-- Work beside the held transaction has made allowed changes and committed them: none while the
held transaction has the write lock. -/
structure Database.Commits (allowed : Change → Prop) (db db' : Database) : Prop where
  published : ∃ touched, db' = db.publish db'.committed touched ∧
    (touched = false → db'.committed = db.committed)
  locked : db.isLocked = true → db'.committed = db.committed
  reaches : db.committed.Reaches allowed db'.committed

namespace Database

variable {allowed : Change → Prop} {db db' : Database}

theorem Commits.refl : db.Commits allowed db where
  published := ⟨false, rfl, fun _ => rfl⟩
  locked _ := rfl
  reaches := .refl

theorem Commits.mono {more : Change → Prop} (h : db.Commits allowed db')
    (hm : ∀ c, allowed c → more c) : db.Commits more db' :=
  ⟨h.published, h.locked, h.reaches.mono hm⟩

theorem Commits.isOpen (h : db.Commits allowed db') : db'.isOpen = db.isOpen := by
  obtain ⟨touched, hpub, -⟩ := h.published
  rw [hpub]
  rfl

theorem query_ok : db.query q = .ok a ↔ db.isOpen = true ∧ q db.committed = .ok a := by
  unfold query
  split <;> simp_all

theorem query_error : db.query q = .error e ↔
    (db.isOpen = false ∧ e = .failure .closed) ∨ (db.isOpen = true ∧ q db.committed = .error e) := by
  unfold query
  split
  · next h => simp [h]
  · next h => simp [h, eq_comm]

theorem read_ok : db.read q = .ok a db' ↔
    db.isOpen = true ∧ q db.committed = .ok a ∧ db' = db := by
  rw [← and_assoc, ← query_ok]
  unfold read
  cases db.query q <;> simp [eq_comm]

theorem read_error : db.read q = .error e db' ↔ db.query q = .error e ∧ db' = db := by
  unfold read
  cases db.query q <;> simp [eq_comm]

theorem map_ok {r : Result α} {f : α → β} : r.map f = .ok b db' ↔ ∃ a, r = .ok a db' ∧ f a = b := by
  cases r <;> simp [Result.map, and_comm]

theorem map_error {r : Result α} {f : α → β} : r.map f = .error e db' ↔ r = .error e db' := by
  cases r <;> simp [Result.map]

theorem transact_ok {x : Transaction α} : db.transact x = .ok a db' ↔
    db.isOpen = true ∧ ∃ d, x (.begin db) = .ok a d ∧ db' = d.commit := by
  unfold transact
  split
  · next h => cases x (.begin db) <;> simp [h, and_assoc, eq_comm]
  · next h => simp [h]

theorem transact_error {x : Transaction α} : db.transact x = .error e db' ↔
    (db.isOpen = false ∧ e = .failure .closed ∧ db' = db) ∨
      (db.isOpen = true ∧ ∃ d, x (.begin db) = .error e d ∧ db' = d.rollback) := by
  unfold transact
  split
  · next h => cases x (.begin db) <;> simp [h, and_assoc, eq_comm]
  · next h => simp [h, eq_comm]

/-- A transaction that is refused is rolled back: whatever its statements have written by then, the
database is as it was. -/
theorem transact_restores {x : Transaction α} (hx : x.Frames) (h : db.transact x = .error e db') :
    db' = db := by
  rcases transact_error.mp h with ⟨-, -, hdb⟩ | ⟨-, d, hd, rfl⟩
  · exact hdb
  · have hkept := hx (.begin db)
    rw [hd] at hkept
    exact hkept

theorem transact_refused {x : Transaction α} (hopen : db.isOpen = true)
    (h : db.transact x = .error e db') : ∃ d, x (.begin db) = .error e d := by
  rcases transact_error.mp h with ⟨hclosed, -⟩ | ⟨-, d, hd, -⟩
  · rw [hopen] at hclosed
    cases hclosed
  · exact ⟨d, hd⟩

theorem transact_change_ok {w : Tables → Except StoreError (Write α)} :
    db.transact (.change w) = .ok a db' ↔ db.isOpen = true ∧ db.isLocked = false ∧
      ∃ r, w db.committed = .ok r ∧ r.answer = a ∧ db' = db.publish r.tables r.touched := by
  simp only [transact_ok, Transaction.change_ok]
  constructor
  · rintro ⟨hopen, _, ⟨hlock, r, hr, ha, rfl⟩, rfl⟩
    exact ⟨hopen, by simpa [Draft.writable, Draft.begin] using hlock, r, hr, ha,
      by simp [Draft.commit, Draft.begin]⟩
  · rintro ⟨hopen, hlock, r, hr, ha, rfl⟩
    exact ⟨hopen, _, ⟨by simp [Draft.writable, Draft.begin, hlock], r, hr, ha, rfl⟩,
      by simp [Draft.commit, Draft.begin]⟩

theorem transact_commits {x : Transaction α} (hx : x.Makes allowed)
    (h : db.transact x = .ok a db') : db.Commits allowed db' := by
  obtain ⟨-, d, hd, rfl⟩ := transact_ok.mp h
  have hadv := hx hd
  refine ⟨⟨d.touched, ?_, hadv.untouched⟩, fun hl => ?_, hadv.reaches⟩
  · rw [Draft.commit, hadv.database]
    rfl
  · rw [hadv.locked (by simp [Draft.writable, Draft.begin, hl])]
    rfl

end Database
end Parley
