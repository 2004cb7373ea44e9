import Parley.Http.Service
import Parley.Proofs.Store.Work

/-!
# What is done for a request

For each kind of request: what its success says about the database before, the database after, and
the reply. Requests that only read leave the database alone, be they refused or not
(`Attempt.Keeps`).
-/

namespace Parley.Http

variable {r : Reply} {db db' : Database}

-- ---------------------------------------------------------------------------
-- Work of the store
-- ---------------------------------------------------------------------------

namespace Handler

theorem store_ok {x : Database → Database.Result α} :
    store refuse x db = .ok a db' ↔ x db = .ok a db' := by
  unfold store
  cases x db <;> simp

theorem store_error {x : Database → Database.Result α} :
    store refuse x db = .error r db' ↔ ∃ e, x db = .error e db' ∧ refuse e = r := by
  unfold store
  cases x db <;> simp [and_comm]

theorem read_ok : read refuse q db = .ok a db' ↔
    db.isOpen = true ∧ q db.committed = .ok a ∧ db = db' := by
  rw [read, store_ok, Database.read_ok, eq_comm (a := db)]

theorem read_error : read refuse q db = .error r db' ↔
    ∃ e, db.query q = .error e ∧ refuse e = r ∧ db' = db := by
  simp only [read, store_error, Database.read_error, and_assoc, and_comm (a := db' = db)]

theorem read_keeps (refuse : StoreError → Reply) (q : Tables → Except StoreError α) :
    (read refuse q).Keeps := by
  intro db
  simp only [read, store, Database.read]
  cases db.query q <;> rfl

end Handler

namespace Call

open Handler (read_keeps read_ok store_ok)

variable {c : Call}

-- ---------------------------------------------------------------------------
-- Accounts
-- ---------------------------------------------------------------------------

theorem createAccount_ok (h : c.createAccount db = .ok r db') :
    ∃ form u, Registration.read c.request = .ok form ∧
      db.createAccount c.now
        ⟨form.username, form.email, Password.hash c.draws.salt form.password, customerRole⟩
        c.draws.tokenText = .ok u db' ∧
      r = sessionReply c.draws.tokenText u.id u.username := by
  simp only [createAccount, Attempt.bind_ok, Attempt.lift_ok, Attempt.check_ok, store_ok,
    Attempt.pure_ok] at h
  obtain ⟨form, _, ⟨hform, rfl⟩, -, -, -, u, _, hu, rfl, rfl⟩ := h
  exact ⟨form, u, hform, hu, rfl⟩

theorem login_ok (h : c.login db = .ok r db') :
    ∃ form user, Credentials.read c.request = .ok form ∧
      db.query (·.userByName form.username) = .ok user ∧
      Password.verify form.password user.passwordHash = .ok true ∧
      db.transact (.change (·.createSession user.id c.draws.tokenText c.now)) = .ok () db' ∧
      r = sessionReply c.draws.tokenText user.id user.username := by
  simp only [login, Attempt.bind_ok, Attempt.lift_ok, read_ok] at h
  obtain ⟨form, _, ⟨hform, rfl⟩, user, _, ⟨hopen, huser, rfl⟩, h⟩ := h
  cases hverify : Password.verify form.password user.passwordHash with
  | error fault => simp [hverify, Attempt.throw_ok] at h
  | ok isRight =>
    cases isRight with
    | false => simp [hverify, Attempt.throw_ok] at h
    | true =>
      simp only [hverify, Attempt.bind_ok, store_ok, Attempt.pure_ok] at h
      obtain ⟨_, _, hdb, rfl, rfl⟩ := h
      exact ⟨form, user, hform, Database.query_ok.mpr ⟨hopen, huser⟩, hverify, hdb, rfl⟩

theorem logout_ok (h : logout userId db = .ok r db') :
    (∃ n, db.transact (.change (·.deleteSessions userId)) = .ok n db') ∧ r = .empty 204 := by
  simp only [logout, Attempt.bind_ok, store_ok, Attempt.pure_ok] at h
  obtain ⟨n, _, hdb, rfl, rfl⟩ := h
  exact ⟨⟨n, hdb⟩, rfl⟩

-- ---------------------------------------------------------------------------
-- Users
-- ---------------------------------------------------------------------------

theorem getUser_ok (h : getUser userId requestedId db = .ok r db') :
    requestedId = userId ∧ db' = db ∧
      ∃ u, db.committed.userById userId = .ok u ∧ r = .json 200 u.toJson := by
  simp only [getUser, Attempt.check_ok, Attempt.bind_ok, read_ok, Attempt.pure_ok] at h
  obtain ⟨hid, u, _, ⟨-, hu, rfl⟩, rfl, rfl⟩ := h
  exact ⟨by simpa using hid, rfl, u, hu, rfl⟩

theorem searchUsers_keeps (c : Call) : c.searchUsers.Keeps :=
  .bind (.lift _) fun _ => .check (.bind (read_keeps _ _) fun _ => .pure _)

theorem searchUsers_ok (h : c.searchUsers db = .ok r db') : db' = db ∧ r.status = 200 := by
  refine ⟨c.searchUsers_keeps.ok h, ?_⟩
  simp only [searchUsers, Attempt.check_ok, Attempt.bind_ok, Attempt.pure_ok] at h
  obtain ⟨_, _, -, -, _, _, -, rfl, -⟩ := h
  rfl

-- ---------------------------------------------------------------------------
-- Conversations
-- ---------------------------------------------------------------------------

theorem listInbox_ok (h : c.listInbox userId db = .ok r db') :
    db' = db ∧ ∃ page, c.page 20 = .ok page ∧
      r = .json 200 (.ofList InboxEntry.toJson (db.committed.listInbox userId page)) := by
  simp only [listInbox, Attempt.bind_ok, Attempt.lift_ok, read_ok, Attempt.pure_ok] at h
  obtain ⟨page, _, ⟨hpage, rfl⟩, entries, _, ⟨-, hentries, rfl⟩, rfl, rfl⟩ := h
  cases hentries
  exact ⟨rfl, page, hpage, rfl⟩

theorem openConversation_ok (h : c.openConversation userId otherId db = .ok r db') :
    otherId ≠ userId ∧ ∃ result,
      db.getOrCreateDirect c.now userId otherId = .ok result db' ∧
      r = .json (if result.isNew then 201 else 200) (.obj
        [("conversation_id", .int result.conversation.id), ("is_new", .bool result.isNew),
          ("updated_at", result.conversation.updatedAt.toJson)]) := by
  simp only [openConversation, Attempt.check_ok, Attempt.bind_ok, read_ok, store_ok,
    Attempt.pure_ok] at h
  obtain ⟨hne, _, _, ⟨-, -, rfl⟩, result, _, hresult, rfl, rfl⟩ := h
  exact ⟨hne, result, hresult, rfl⟩

theorem requireParticipant_keeps (conversationId userId : Int) :
    (requireParticipant conversationId userId).Keeps :=
  .bind (read_keeps _ _) fun _ => .ite (.throw _) (.pure _)

theorem requireParticipant_ok (h : requireParticipant conversationId userId db = .ok u db') :
    db.committed.isParticipant conversationId userId = true ∧ db' = db := by
  refine ⟨?_, (requireParticipant_keeps _ _).ok h⟩
  simp only [requireParticipant, Attempt.bind_ok, read_ok] at h
  obtain ⟨member, _, ⟨-, hmember, rfl⟩, h⟩ := h
  cases hmember
  cases hm : db.committed.isParticipant conversationId userId
  · simp [hm, Attempt.throw_ok] at h
  · rfl

theorem requireParticipant_apply (hopen : db.isOpen = true) (conversationId userId : Int) :
    requireParticipant conversationId userId db =
      if db.committed.isParticipant conversationId userId then .ok () db
      else .error (.refusal 403 "You are not a participant in this conversation" false) db := by
  have hread : Handler.read .ofStoreError (fun t => .ok (t.isParticipant conversationId userId)) db =
      .ok (db.committed.isParticipant conversationId userId) db := read_ok.mpr ⟨hopen, rfl, rfl⟩
  rw [requireParticipant, Attempt.bind_apply, hread]
  cases db.committed.isParticipant conversationId userId <;> rfl

theorem getConversation_keeps (userId conversationId : Int) :
    (getConversation userId conversationId).Keeps :=
  .bind (read_keeps _ _) fun _ => .bind (requireParticipant_keeps _ _) fun _ =>
    .bind (read_keeps _ _) fun _ => .pure _

theorem getConversation_ok (h : getConversation userId conversationId db = .ok r db') :
    db' = db ∧ r.status = 200 := by
  refine ⟨(getConversation_keeps _ _).ok h, ?_⟩
  simp only [getConversation, Attempt.bind_ok, Attempt.pure_ok] at h
  obtain ⟨_, _, -, _, _, -, _, _, -, rfl, -⟩ := h
  rfl

-- ---------------------------------------------------------------------------
-- Messages
-- ---------------------------------------------------------------------------

theorem getMessages_ok (h : c.getMessages userId conversationId db = .ok r db') :
    db.committed.isParticipant conversationId userId = true ∧ db' = db ∧
      ∃ page, c.page 50 = .ok page ∧
        r = .json 200 (.ofList Message.toJson (db.committed.listMessages conversationId page)) := by
  simp only [getMessages, Attempt.bind_ok, Attempt.lift_ok, read_ok, Attempt.pure_ok] at h
  obtain ⟨page, _, ⟨hpage, rfl⟩, _, _, hmember, messages, _, ⟨-, hmessages, rfl⟩, rfl, rfl⟩ := h
  obtain ⟨hmember, rfl⟩ := requireParticipant_ok hmember
  cases hmessages
  exact ⟨hmember, rfl, page, hpage, rfl⟩

theorem sendMessage_ok (h : c.sendMessage userId conversationId db = .ok r db') :
    db.committed.isParticipant conversationId userId = true ∧
    ∃ form s, Posting.read c.request = .ok form ∧
      db.sendMessage c.now ⟨conversationId, userId, form.content, c.messageKey form.key⟩ =
        .ok s db' ∧
      ((∃ m row, s = .sent m row ∧
          r = sentReply 201 m (c.messageKey form.key) (some row.updatedAt) false) ∨
        ∃ m, s = .duplicate m ∧ m.conversationId = conversationId ∧ m.senderId = userId ∧
          r = sentReply 200 m (c.messageKey form.key) none true) := by
  simp only [sendMessage, Attempt.bind_ok, Attempt.lift_ok, store_ok] at h
  obtain ⟨form, _, ⟨hform, rfl⟩, _, _, ⟨-, rfl⟩, _, _, hmember, s, db₁, hs, h⟩ := h
  obtain ⟨hmember, rfl⟩ := requireParticipant_ok hmember
  refine ⟨hmember, form, s, hform, ?_⟩
  cases s with
  | sent m row =>
    obtain ⟨rfl, rfl⟩ := Attempt.pure_ok.mp h
    exact ⟨hs, .inl ⟨m, row, rfl, rfl⟩⟩
  | duplicate m =>
    simp only [Attempt.check_ok, Attempt.pure_ok, not_or, ne_eq, Decidable.not_not] at h
    obtain ⟨⟨hc, hu⟩, rfl, rfl⟩ := h
    exact ⟨hs, .inr ⟨m, rfl, hc, hu, rfl⟩⟩

theorem markAsRead_ok (h : c.markAsRead userId conversationId db = .ok r db') :
    db.committed.isParticipant conversationId userId = true ∧
      db.markAsRead c.now conversationId userId = .ok () db' ∧ r = .empty 204 := by
  simp only [markAsRead, Attempt.bind_ok, store_ok, Attempt.pure_ok] at h
  obtain ⟨_, _, hmember, _, _, hdb, rfl, rfl⟩ := h
  obtain ⟨hmember, rfl⟩ := requireParticipant_ok hmember
  exact ⟨hmember, hdb, rfl⟩

theorem unreadCount_ok (h : unreadCount userId conversationId db = .ok r db') :
    db.committed.isParticipant conversationId userId = true ∧ db' = db ∧
      r = .json 200 (.obj [("conversation_id", .int conversationId),
        ("unread_count", .int (db.committed.countUnread conversationId userId))]) := by
  simp only [unreadCount, Attempt.bind_ok, store_ok, Database.unreadCount, Database.read_ok,
    Attempt.pure_ok] at h
  obtain ⟨_, _, hmember, n, _, ⟨-, hn, rfl⟩, rfl, rfl⟩ := h
  obtain ⟨hmember, rfl⟩ := requireParticipant_ok hmember
  cases hn
  exact ⟨hmember, rfl, rfl⟩

end Call
end Parley.Http
