import Parley.Proofs.Store.Transaction

/-!
# The held transaction beside other work

`Database.Consistent allowed db`: where the held transaction has the write lock, allowed changes lead
from the committed tables to what it sees; where it reads and nothing has been committed since, it
sees the committed tables. Every step of either side keeps this, so that to commit is to make allowed
changes to the tables as they are committed then.
-/

namespace Parley

/-- What a held transaction sees, compared with the committed tables. -/
def Held.Agrees (allowed : Change → Prop) (committed : Tables) : Held → Prop
  | .begun => True
  | .reading view current => current = true → view = committed
  | .writing view touched =>
    committed.Reaches allowed view ∧ (touched = false → view = committed)

namespace Database

def Consistent (allowed : Change → Prop) (db : Database) : Prop :=
  ∀ h, db.held = some h → h.Agrees allowed db.committed

variable {allowed : Change → Prop} {db db' : Database}

theorem consistent_of_none (h : db.held = none) : db.Consistent allowed := by
  intro _ hh
  rw [h] at hh
  cases hh

theorem Consistent.commits {other : Change → Prop} (h : db.Consistent allowed)
    (hc : db.Commits other db') : db'.Consistent allowed := by
  obtain ⟨touched, hpub, hsame⟩ := hc.published
  intro k hk
  rw [hpub] at hk
  cases touched with
  | false =>
    rw [hsame rfl]
    exact h k (by simpa [publish] using hk)
  | true =>
    simp only [publish, ↓reduceIte, Option.map_eq_some_iff] at hk
    obtain ⟨k₀, hk₀, rfl⟩ := hk
    cases k₀ with
    | begun => trivial
    | reading view current => intro hcurrent; cases hcurrent
    | writing view touched =>
      -- Nothing is committed beside a transaction that has the lock.
      rw [hc.locked (by simp [isLocked, hk₀, Held.hasLock])]
      exact h _ hk₀

theorem Consistent.beginHeld (hb : db.beginHeld = .ok () db') :
    db'.Consistent allowed ∧ db'.committed = db.committed := by
  unfold Database.beginHeld at hb
  split at hb
  · cases hb
    exact ⟨fun k hk => by cases hk; trivial, rfl⟩
  · cases hb

theorem beginHeld_error (hb : db.beginHeld = .error e db') : db' = db := by
  unfold Database.beginHeld at hb
  split at hb <;> cases hb
  rfl

theorem Consistent.close : db.close.Consistent allowed := consistent_of_none rfl

theorem Consistent.commitHeld (h : db.Consistent allowed) (hc : db.commitHeld = some db') :
    db'.Consistent allowed ∧ db.committed.Reaches allowed db'.committed := by
  unfold Database.commitHeld at hc
  split at hc
  · cases hc
  · rename_i view touched hheld
    cases hc
    exact ⟨consistent_of_none rfl, (h _ hheld).1⟩
  · cases hc
    exact ⟨consistent_of_none rfl, .refl⟩

theorem Consistent.rollbackHeld (hr : db.rollbackHeld = some db') :
    db'.Consistent allowed ∧ db'.committed = db.committed := by
  unfold Database.rollbackHeld at hr
  split at hr
  · cases hr
  · cases hr
    exact ⟨consistent_of_none rfl, rfl⟩

theorem Consistent.queryHeld (h : db.Consistent allowed) (k : Held) (hk : db.held = some k)
    (q : Tables → Except StoreError α) :
    (db.queryHeld k q).2.Consistent allowed ∧ (db.queryHeld k q).2.committed = db.committed := by
  cases k with
  | begun =>
    refine ⟨fun k hk => ?_, rfl⟩
    cases hk
    exact fun _ => rfl
  | reading view current => exact ⟨h, rfl⟩
  | writing view touched => exact ⟨h, rfl⟩

theorem committed_writeHeld (view : Tables) (touched : Bool)
    (w : Tables → Except StoreError (Write α)) :
    (db.writeHeld view touched w).2.committed = db.committed := by
  unfold writeHeld
  split <;> rfl

theorem Consistent.writeHeld {view : Tables} {touched : Bool} {c : Change} (hc : allowed c)
    (hview : db.committed.Reaches allowed view) (hsame : touched = false → view = db.committed) :
    (db.writeHeld view touched fun t => c.run t).2.Consistent allowed := by
  intro k hk
  rw [committed_writeHeld]
  unfold Database.writeHeld at hk
  split at hk
  · rename_i r hr
    cases hk
    refine ⟨hview.change hc hr, fun hu => ?_⟩
    obtain ⟨ht, hrt⟩ := Bool.or_eq_false_iff.mp hu
    rw [Tables.eq_of_untouched hr hrt, hsame ht]
  · cases hk
    exact ⟨hview, hsame⟩

theorem Consistent.changeHeld (h : db.Consistent allowed) {k : Held} (hk : db.held = some k)
    {c : Change} (hc : allowed c) :
    (db.changeHeld k fun t => c.run t).2.Consistent allowed ∧
      (db.changeHeld k fun t => c.run t).2.committed = db.committed := by
  have hagrees := h k hk
  cases k with
  | begun => exact ⟨.writeHeld hc .refl fun _ => rfl, committed_writeHeld ..⟩
  | reading view current =>
    cases current with
    | true =>
      have hview : view = db.committed := hagrees rfl
      exact ⟨.writeHeld hc (hview ▸ .refl) fun _ => hview, committed_writeHeld ..⟩
    | false => exact ⟨h, rfl⟩
  | writing view touched =>
    obtain ⟨hreaches, hsame⟩ := hagrees
    exact ⟨.writeHeld hc hreaches hsame, committed_writeHeld ..⟩

end Database
end Parley
