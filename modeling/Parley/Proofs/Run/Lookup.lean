import Parley.Proofs.Run.Listings
import Parley.Proofs.Store.Opening

/-!
# Looking for the conversation of two users

`lookup_decided`: the lookup finds the first conversation in which exactly the two users take part,
whichever tables it is shown. It joins the participants with themselves and counts them, which comes to
the same because nobody takes part in a conversation twice.
-/

namespace Parley

namespace Tables

variable {t : Tables} {pair : Pair}

def usersOf (t : Tables) (c : Int) : Set Int :=
  {u | ∃ p ∈ t.participants.rows, p.conversationId = c ∧ p.userId = u}

def conversationsOf (t : Tables) (a b : Int) : Set Int :=
  {c | (∃ row ∈ t.conversations.rows, row.id = c) ∧ t.usersOf c = {a, b}}

theorem usersOf_eq_iff : t.usersOf c = {a, b} ↔ t.Between a b c := by
  simp only [usersOf, Set.ext_iff, Set.mem_ofPred_eq, ← isParticipant_iff]
  rfl

theorem mem_conversationsOf (ht : t.Integrity) (hpair : Pair.of a b = .ok pair) :
    c ∈ t.conversationsOf a b ↔ t.IsDirect pair c := by
  rw [isDirect_of_ok_iff ht hpair, ← usersOf_eq_iff]
  refine ⟨And.right, fun husers => ⟨?_, husers⟩⟩
  have hdirect := (isDirect_of_ok_iff ht hpair).mpr (usersOf_eq_iff.mp husers)
  obtain ⟨row, hrow⟩ := hdirect.conversation ht
  exact ⟨row, conversationById_ok hrow⟩

theorem findDirect_isLeast (ht : t.Integrity) (hpair : Pair.of a b = .ok pair) {id : Int} :
    t.findDirect pair = .ok id ↔ IsLeast (t.conversationsOf a b) id := by
  simp only [findDirect_ok, IsLeast, mem_lowerBounds, mem_conversationsOf ht hpair]

theorem findDirect_empty (ht : t.Integrity) (hpair : Pair.of a b = .ok pair) :
    t.findDirect pair = .error e ↔
      t.conversationsOf a b = ∅ ∧ e = .notFound .directConversation := by
  simp only [findDirect_error, Set.eq_empty_iff_forall_notMem, mem_conversationsOf ht hpair]

end Tables

-- ---------------------------------------------------------------------------
-- What a statement sees
-- ---------------------------------------------------------------------------

/-- The tables that a statement sees: those of the held transaction if it is made in one, else the
committed ones. -/
def Database.seen (db : Database) (held : Bool) : Tables :=
  match if held then db.held else none with
  | some k => k.seen db.committed
  | none => db.committed

theorem Database.shows_seen (db : Database) (held : Bool) : db.Shows (db.seen held) := by
  unfold seen
  cases held with
  | false => exact .inl rfl
  | true =>
    cases hheld : db.held with
    | none => exact .inl rfl
    | some k => exact .inr ⟨k, hheld, rfl⟩

theorem Statement.run_query {db : Database} (hopen : db.isOpen = true) (held : Bool) (q : Query) :
    (Statement.run db held (.query q)).1 = q.run (db.seen held) := by
  unfold run Database.seen
  cases (if held then db.held else none) with
  | none => simp [Database.query, hopen]
  | some k => cases k <;> rfl

namespace System

theorem step_findDirect (hpair : Pair.of a b = .ok pair) (s : System) (time : Option Instant)
    (held : Bool) : s.step ⟨time, .findDirect held a b⟩ =
      s.step ⟨time, .statement held (.query (.findDirect pair))⟩ := by
  simp only [step, act, hpair]

/-- In every session, of all tables that it shows, those that a held transaction sees among them: the
lookup for two users finds the first conversation whose participants are exactly these two, and fails
only if there is none. A step that looks for it shows what the lookup finds in the tables that it sees,
and it makes no difference which of the two users is named first. -/
theorem lookup_decided (clock : Instant) (steps : List Step) {a b : Int} {pair : Pair}
    (hpair : Pair.of a b = .ok pair) :
    let s := ((start clock).run steps).2
    (∀ t, s.db.Shows t →
      (∀ id, t.findDirect pair = .ok id ↔ IsLeast (t.conversationsOf a b) id) ∧
      ∀ e, t.findDirect pair = .error e ↔
        t.conversationsOf a b = ∅ ∧ e = .notFound .directConversation) ∧
    ∀ time held,
      s.step ⟨time, .findDirect held b a⟩ = s.step ⟨time, .findDirect held a b⟩ ∧
      s.db.Shows (s.db.seen held) ∧
      (s.db.isOpen = true → (s.step ⟨time, .findDirect held a b⟩).1 =
        ofResult (.answer ∘ .number) ((s.db.seen held).findDirect pair)) := by
  intro s
  refine ⟨fun t ht => ?_, fun time held => ⟨?_, Database.shows_seen _ _, fun hopen => ?_⟩⟩
  · have hwhole : t.Integrity := (linked_run clock steps).shown ht
    exact ⟨fun _ => Tables.findDirect_isLeast hwhole hpair,
      fun _ => Tables.findDirect_empty hwhole hpair⟩
  · rw [step_findDirect hpair, step_findDirect (Pair.of_swap hpair)]
  · rw [step_findDirect hpair]
    show ofResult .answer (Statement.run s.db held (.query (.findDirect pair))).1 = _
    rw [Statement.run_query hopen, Query.run]
    cases (s.db.seen held).findDirect pair <;> rfl

/-- A third user joins the only conversation of two others in a held transaction, which then sees none
of these two alone. Beside it the conversation is still found. -/
theorem joinedInside_lookups :
    let s := ((start .epoch).run joinedInside).2
    let out (held : Bool) (a b : Int) := (s.step ⟨none, .findDirect held a b⟩).1
    3 ∈ (s.db.seen true).usersOf 1 ∧ (s.db.seen true).conversationsOf 2 1 = ∅ ∧
    out true 2 1 = .refused (.notFound .directConversation) ∧ out true 1 2 = out true 2 1 ∧
    IsLeast ((s.db.seen false).conversationsOf 2 1) 1 ∧ out false 2 1 = .answer (.number 1) := by
  intro s out
  have hpair : Pair.of 2 1 = .ok ⟨1, 2, by decide, by decide⟩ := rfl
  obtain ⟨htables, hsteps⟩ := lookup_decided .epoch joinedInside hpair
  have hopen : s.db.isOpen = true := by decide +kernel
  obtain ⟨hswap, hshown, hinside⟩ := hsteps none true
  obtain ⟨-, hshown', houtside⟩ := hsteps none false
  have hjoined : (s.db.seen true).isParticipant 1 3 = true := by decide +kernel
  have hnone : (s.db.seen true).findDirect ⟨1, 2, by decide, by decide⟩ =
      .error (.notFound .directConversation) := by decide +kernel
  have hfound : (s.db.seen false).findDirect ⟨1, 2, by decide, by decide⟩ = .ok 1 := by
    decide +kernel
  refine ⟨Tables.isParticipant_iff.mp hjoined, (((htables _ hshown).2 _).mp hnone).1, ?_,
    congrArg Prod.fst hswap, ((htables _ hshown').1 1).mp hfound, ?_⟩
  · exact (hinside hopen).trans (congrArg (ofResult _) hnone)
  · exact (houtside hopen).trans (congrArg (ofResult _) hfound)

end System
end Parley
