import Parley.Proofs.Store.Members
import Parley.Proofs.Store.Work

/-!
# Making conversations

Two operations make conversations: one that always makes a new one, without a key, and one that first
looks for the direct conversation of the pair. All other work leaves the conversations and their
members as they are (`Work.Does.founds`).
-/

namespace Parley

namespace Database

variable {db db' : Database}

theorem publish_self (db : Database) : db.publish db.committed false = db := rfl

theorem getOrCreateDirect_cases (h : db.getOrCreateDirect now a b = .ok r db') :
    ∃ pair, Pair.of a b = .ok pair ∧
      ((r.isNew = false ∧ db' = db ∧ db.committed.findDirect pair = .ok r.conversation.id ∧
          r.conversation ∈ db.committed.conversations.rows) ∨
        (r.isNew = true ∧ (∃ e, db.committed.findDirect pair = .error e) ∧
          (∀ c ∈ db.committed.conversations.rows, c.directKey ≠ some pair.key) ∧
          db.committed.hasUser pair.low = true ∧ db.committed.hasUser pair.high = true ∧
          r.conversation = db.committed.conversationRow (some pair.key) now ∧
          db' = db.publish
            (db.committed.withConversation (some pair.key) pair.low pair.high now) true)) := by
  obtain ⟨pair, hpair, h | h⟩ := getOrCreateDirect_ok h
  · refine ⟨pair, hpair, ?_⟩
    obtain ⟨-, d, hd, rfl⟩ := transact_ok.mp h
    rcases openDirect_ok hd with ⟨id, hfind, hrow, hnew, rfl⟩ | ⟨⟨what, hnone⟩, hnew, n, hn, hr⟩
    · obtain ⟨hmem, rfl⟩ := Tables.conversationById_ok hrow
      exact .inl ⟨hnew, publish_self db, hfind, hmem⟩
    · obtain ⟨-, hkey, -, hlow, hhigh, rfl, rfl⟩ := insertConversation_ok hn
      exact .inr ⟨hnew, ⟨_, hnone⟩, hkey _ rfl, hlow, hhigh, hr, rfl⟩
  · obtain ⟨rfl, hnew, id, hfind, hrow⟩ := refetchDirect_ok h
    obtain ⟨hmem, rfl⟩ := Tables.conversationById_ok hrow
    exact ⟨pair, hpair, .inl ⟨hnew, rfl, hfind, hmem⟩⟩

theorem createConversation_cases (h : db.createConversation now a b = .ok n db') :
    db'.committed = db.committed.withConversation none a b now := by
  obtain ⟨-, d, hd, rfl⟩ := transact_ok.mp h
  obtain ⟨-, -, -, -, -, -, rfl⟩ := insertConversation_ok hd
  rfl

end Database

/-- How conversations come into being: as groups, if there may be any, or between the two users of a
pair. -/
inductive Tables.Founds (groups : Prop) (t : Tables) : Tables → Prop where
  | same : t.SameConversations t' → Founds groups t t'
  | group : groups → Founds groups t (t.withConversation none a b now)
  | direct (pair : Pair) : (∀ c ∈ t.conversations.rows, c.directKey ≠ some pair.key) →
      Founds groups t (t.withConversation (some pair.key) pair.low pair.high now)

theorem Tables.Founds.joins {groups : Prop} {t t' : Tables} (h : t.Founds groups t') :
    t.Joins t' := by
  cases h with
  | same h => exact joins_of_members h.members
  | group => exact joins_withConversation ..
  | direct pair => exact joins_withConversation ..

theorem Tables.Founds.mono {groups more : Prop} {t t' : Tables} (h : t.Founds groups t')
    (hm : groups → more) : t.Founds more t' := by
  cases h with
  | same h => exact .same h
  | group h => exact .group (hm h)
  | direct pair h => exact .direct pair h

theorem Work.Does.founds (h : Work.Does now db db' w)
    (hw : ∀ c, w = .change c → c.founds = false) :
    db.committed.Founds (∃ a b, w = .operation (.createConversation a b)) db'.committed := by
  have hsame (hmakes : ∀ c, w.Makes now c → c.founds = false) : db.committed.Founds
      (∃ a b, w = .operation (.createConversation a b)) db'.committed :=
    .same (h.commits.reaches.mono hmakes).sameConversations
  cases w with
  | change c => exact hsame fun c' hc' => hc' ▸ hw c rfl
  | operation op =>
    cases op with
    | createConversation a b =>
      obtain ⟨h⟩ := h
      obtain ⟨n, hn, -⟩ := Database.map_ok.mp h
      rw [Database.createConversation_cases hn]
      exact .group ⟨a, b, rfl⟩
    | getOrCreateDirect a b =>
      obtain ⟨h⟩ := h
      obtain ⟨r, hr, -⟩ := Database.map_ok.mp h
      obtain ⟨pair, -, ⟨-, rfl, -⟩ | ⟨-, -, hkey, -, -, -, rfl⟩⟩ :=
        Database.getOrCreateDirect_cases hr
      · exact .same .refl
      · exact .direct pair hkey
    | createAccount | sendMessage | markAsRead | unreadCount =>
      exact hsame fun c hc => by cases c <;> first | rfl | exact hc.elim

end Parley
