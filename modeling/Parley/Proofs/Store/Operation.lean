import Parley.Proofs.Store.Transaction

/-!
# What an operation does

Each operation is one transaction. For each there is a lemma that reads its success: what the tables
held before, what they hold after, and what it answers.
-/

namespace Parley

open Transaction (change_ok)

-- ---------------------------------------------------------------------------
-- What a transaction leaves to be rolled back
-- ---------------------------------------------------------------------------

namespace Database

open Transaction (Frames)

theorem insertConversation_frames (now : Instant) (key : Option String) (a b : Int) :
    (insertConversation now key a b).Frames :=
  .bind (.change _) fun _ => .bind (.adapt (.change _) _) fun _ =>
    .bind (.adapt (.change _) _) fun _ => .pure _

theorem openDirect_frames (now : Instant) (pair : Pair) : (openDirect now pair).Frames := by
  refine .bind .get fun d => ?_
  split
  · exact .bind (.query _) fun _ => .pure _
  · exact .bind (insertConversation_frames now _ _ _) fun _ => .pure _
  · exact .throw _

theorem deliver_frames (now : Instant) (m : NewMessage) : (deliver now m).Frames :=
  .bind (.change _) fun _ => .bind (.adapt (.change _) _) fun _ =>
    .bind (.change _) fun _ => .bind (.query _) fun _ => .pure _

end Database

-- ---------------------------------------------------------------------------
-- Accounts
-- ---------------------------------------------------------------------------

def Tables.withAccount (t : Tables) (user : NewUser) (token : String) (now : Instant) : Tables :=
  { t with
    users := t.users.add (t.userRow user now)
    sessions := t.sessions.add (t.sessionRow t.users.nextId token now) }

namespace Database

theorem createAccount_ok (h : createAccount db now user token = .ok u db') :
    (∀ s ∈ db.committed.sessions.rows, s.token ≠ token) ∧ u = db.committed.userRow user now ∧
      db' = db.publish (db.committed.withAccount user token now) true := by
  obtain ⟨-, d, hd, rfl⟩ := transact_ok.mp h
  simp only [Attempt.bind_ok, change_ok, Attempt.pure_ok] at hd
  obtain ⟨_, _, ⟨-, r, hr, rfl, rfl⟩, _, _, ⟨-, r₁, hr₁, -, rfl⟩, rfl, rfl⟩ := hd
  obtain ⟨-, -, rfl⟩ := Tables.createUser_ok.mp hr
  obtain ⟨htoken, -, rfl⟩ := Tables.createSession_ok.mp hr₁
  exact ⟨htoken, rfl, rfl⟩

end Database

-- ---------------------------------------------------------------------------
-- Conversations
-- ---------------------------------------------------------------------------

def Tables.withConversation (t : Tables) (key : Option String) (a b : Int) (now : Instant) :
    Tables :=
  let c := t.conversationRow key now
  let t := { t with conversations := t.conversations.add c }
  let t := { t with participants := t.participants.add (t.participantRow c.id a now) }
  { t with participants := t.participants.add (t.participantRow c.id b now) }

def Tables.newConversation (t : Tables) (key : Option String) (a b : Int) (now : Instant) :
    NewConversation :=
  let c := t.conversationRow key now
  let first := t.participantRow c.id a now
  ⟨c, first, { t with participants := t.participants.add first }.participantRow c.id b now⟩

namespace Database

theorem insertConversation_ok (h : insertConversation now key a b d = .ok n d') :
    d.writable = true ∧ (∀ k, key = some k → ∀ r ∈ d.tables.conversations.rows,
        r.directKey ≠ some k) ∧ a ≠ b ∧ d.tables.hasUser a = true ∧ d.tables.hasUser b = true ∧
      n = d.tables.newConversation key a b now ∧
      d' = { d with tables := d.tables.withConversation key a b now, touched := true } := by
  simp only [insertConversation, Attempt.bind_ok, Attempt.adapt_ok, change_ok,
    Attempt.pure_ok] at h
  obtain ⟨_, _, ⟨hwritable, r, hr, rfl, rfl⟩, _, _, ⟨-, r₁, hr₁, rfl, rfl⟩,
    _, _, ⟨-, r₂, hr₂, rfl, rfl⟩, rfl, rfl⟩ := h
  obtain ⟨hkey, rfl⟩ := Tables.createConversation_ok.mp hr
  obtain ⟨-, -, ha, rfl⟩ := Tables.addParticipant_ok.mp hr₁
  obtain ⟨hnew, -, hb, rfl⟩ := Tables.addParticipant_ok.mp hr₂
  refine ⟨hwritable, hkey, ?_, ha, hb, rfl, ?_⟩
  · rintro rfl
    rw [Bool.eq_false_iff] at hnew
    let first := d.tables.participantRow (d.tables.conversationRow key now).id a now
    have hfirst : first ∈ (d.tables.participants.add first).rows := by simp
    exact hnew (Tables.isParticipant_iff.mpr ⟨first, hfirst, rfl, rfl⟩)
  · simp [Tables.withConversation]

theorem openDirect_apply (now : Instant) (pair : Pair) (d : Draft) : openDirect now pair d =
    match d.tables.findDirect pair with
    | .ok id => (Transaction.query (·.conversationById id) >>= fun c => return ⟨c, false⟩) d
    | .error (.notFound _) => (insertConversation now (some pair.key) pair.low pair.high >>= fun n =>
        return ⟨n.conversation, true⟩) d
    | .error e => .error e d := by
  rw [openDirect, Attempt.bind_apply, Transaction.get_apply]
  dsimp only
  cases d.tables.findDirect pair with
  | ok id => rfl
  | error e => cases e <;> rfl

theorem openDirect_ok (h : openDirect now pair d = .ok r d') :
    (∃ id, d.tables.findDirect pair = .ok id ∧ d.tables.conversationById id = .ok r.conversation ∧
      r.isNew = false ∧ d' = d) ∨
    ((∃ what, d.tables.findDirect pair = .error (.notFound what)) ∧ r.isNew = true ∧
      ∃ n, insertConversation now (some pair.key) pair.low pair.high d = .ok n d' ∧
        r.conversation = n.conversation) := by
  rw [openDirect_apply] at h
  split at h
  · next id hid =>
    simp only [Attempt.bind_ok, Transaction.query_ok, Attempt.pure_ok] at h
    obtain ⟨c, _, ⟨hfound, rfl⟩, rfl, rfl⟩ := h
    exact .inl ⟨id, hid, hfound, rfl, rfl⟩
  · next what hnone =>
    simp only [Attempt.bind_ok, Attempt.pure_ok] at h
    obtain ⟨n, _, hn, rfl, rfl⟩ := h
    exact .inr ⟨⟨what, hnone⟩, rfl, n, hn, rfl⟩
  · cases h

theorem refetchDirect_ok (h : refetchDirect db pair = .ok r db') :
    db' = db ∧ r.isNew = false ∧ ∃ id, db.committed.findDirect pair = .ok id ∧
      db.committed.conversationById id = .ok r.conversation := by
  unfold refetchDirect at h
  split at h
  · next id hid =>
    obtain ⟨c, hc, rfl⟩ := map_ok.mp h
    obtain ⟨-, hrow, hdb⟩ := read_ok.mp hc
    exact ⟨hdb, rfl, id, (query_ok.mp hid).2, hrow⟩
  · cases h
  · cases h

theorem getOrCreateDirect_ok (h : getOrCreateDirect db now a b = .ok r db') :
    ∃ pair, Pair.of a b = .ok pair ∧ (db.transact (openDirect now pair) = .ok r db' ∨
      db.refetchDirect pair = .ok r db') := by
  unfold getOrCreateDirect at h
  split at h
  · cases h
  next pair hpair =>
    refine ⟨pair, hpair, ?_⟩
    split at h
    · next hclash =>
      obtain rfl := transact_restores (openDirect_frames now pair) hclash
      exact .inr h
    · exact .inl h

end Database

-- ---------------------------------------------------------------------------
-- Messages
-- ---------------------------------------------------------------------------

/-- The tables with a new message, after which its conversation was not active before it. -/
def Tables.withMessage (t : Tables) (m : NewMessage) (sentAt : Instant) : Tables :=
  { t with messages := t.messages.add (t.messageRow m sentAt) }.touch m.conversationId sentAt

namespace Database

theorem deliver_ok (h : deliver now m d = .ok s d') :
    d.writable = true ∧ ∃ row, d.tables.conversationById m.conversationId = .ok row ∧
      (∀ r ∈ d.tables.messages.rows, r.key ≠ m.key) ∧ d.tables.hasUser m.senderId = true ∧
      ∃ c, (d.tables.withMessage m (max now row.updatedAt.instant)).conversationById
          m.conversationId = .ok c ∧
        s = .sent (d.tables.messageRow m (max now row.updatedAt.instant)) c ∧
        d' = { d with
          tables := d.tables.withMessage m (max now row.updatedAt.instant), touched := true } := by
  simp only [deliver, Attempt.bind_ok, Attempt.adapt_ok, change_ok, Transaction.query_ok,
    Attempt.pure_ok] at h
  obtain ⟨_, _, ⟨hwritable, r, hr, rfl, rfl⟩, _, _, ⟨-, r₁, hr₁, rfl, rfl⟩,
    _, _, ⟨-, r₂, hr₂, -, rfl⟩, c, _, ⟨hc, rfl⟩, rfl, rfl⟩ := h
  obtain ⟨row, hrow, rfl⟩ := Tables.lockConversation_ok.mp hr
  obtain ⟨hkey, -, huser, rfl⟩ := Tables.createMessage_ok.mp hr₁
  obtain ⟨-, rfl⟩ := Tables.touchConversation_ok.mp hr₂
  refine ⟨hwritable, row, hrow, hkey, huser, c, ?_, rfl, ?_⟩
  · simpa [Tables.withMessage, Tables.messageRow] using hc
  · simp [Tables.withMessage, Tables.messageRow]

theorem existingMessage_ok (h : existingMessage db key = .ok s db') :
    db' = db ∧ ∃ m, db.committed.messageByKey key = .ok m ∧ s = .duplicate m := by
  unfold existingMessage at h
  split at h
  · rename_i m hm
    cases h
    exact ⟨rfl, m, (query_ok.mp hm).2, rfl⟩
  · cases h
  · cases h

theorem sendMessage_ok (h : sendMessage db now m = .ok s db') :
    Text.allBlank m.key = false ∧ m.content.isEmpty = false ∧
      (db.transact (deliver now m) = .ok s db' ∨ db.existingMessage m.key = .ok s db') := by
  unfold sendMessage at h
  split at h
  · cases h
  rename_i hkey
  split at h
  · cases h
  rename_i hcontent
  refine ⟨by simpa using hkey, by simpa using hcontent, ?_⟩
  split at h
  · next hclash =>
    obtain rfl := transact_restores (deliver_frames now m) hclash
    exact .inr h
  · exact .inl h

/-- What is sent is stored, stamped no earlier than the last activity, or its key is taken. -/
theorem sendMessage_cases (h : sendMessage db now m = .ok s db') :
    (∃ row, db.committed.conversationById m.conversationId = .ok row ∧
      (∀ r ∈ db.committed.messages.rows, r.key ≠ m.key) ∧
      (∃ c, s = .sent (db.committed.messageRow m (max now row.updatedAt.instant)) c) ∧
      db' = db.publish (db.committed.withMessage m (max now row.updatedAt.instant)) true) ∨
    ∃ m', db.committed.messageByKey m.key = .ok m' ∧ s = .duplicate m' ∧ db' = db := by
  obtain ⟨-, -, h | h⟩ := sendMessage_ok h
  · obtain ⟨-, d, hd, rfl⟩ := transact_ok.mp h
    obtain ⟨-, row, hrow, hkey, -, c, -, rfl, rfl⟩ := deliver_ok hd
    exact .inl ⟨row, hrow, hkey, ⟨c, rfl⟩, rfl⟩
  · obtain ⟨rfl, m', hm', rfl⟩ := existingMessage_ok h
    exact .inr ⟨m', hm', rfl, rfl⟩

theorem markAsRead_ok (h : markAsRead db now c u = .ok () db') :
    db'.committed = db.committed.markRead c u now := by
  obtain ⟨-, d, hd, rfl⟩ := transact_ok.mp h
  simp only [Attempt.bind_ok, change_ok, Attempt.pure_ok] at hd
  obtain ⟨_, _, ⟨-, r, hr, -, rfl⟩, -, rfl⟩ := hd
  obtain rfl := Tables.updateLastRead_ok.mp hr
  rfl

end Database
end Parley
