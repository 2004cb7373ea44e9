import Parley.Proofs.Except
import Parley.Proofs.Time.Order
import Parley.Store.Statement

/-!
# What a change does

For each statement that writes: when it is not refused, and the row that it adds or the rows that it
rewrites. `Change.leads` says so for all of them at once. Later modules read changes off these lemmas
and do not unfold them.
-/

namespace Parley

-- ---------------------------------------------------------------------------
-- New rows
-- ---------------------------------------------------------------------------

namespace Tables

variable (t : Tables)

def userRow (u : NewUser) (now : Instant) : User :=
  { id := t.users.nextId, username := u.username, email := u.email
    passwordHash := u.passwordHash, role := u.role, createdAt := .of now }

def sessionRow (userId : Int) (token : String) (now : Instant) : Session :=
  { id := t.sessions.nextId, userId, token, createdAt := .of now }

def conversationRow (directKey : Option String) (now : Instant) : Conversation :=
  { id := t.conversations.nextId, directKey, createdAt := .of now, updatedAt := .of now }

def participantRow (conversationId userId : Int) (now : Instant) : Participant :=
  { id := t.participants.nextId, conversationId, userId, joinedAt := .of now, lastReadAt := none }

def messageRow (m : NewMessage) (sentAt : Instant) : Message :=
  { id := t.messages.nextId, conversationId := m.conversationId, senderId := m.senderId
    content := m.content, key := m.key, sentAt := .of sentAt }

end Tables

-- ---------------------------------------------------------------------------
-- Rewritten rows
-- ---------------------------------------------------------------------------

def Conversation.activeAt (time : Stamp) (c : Conversation) : Conversation :=
  { c with updatedAt := max c.updatedAt time }

def Participant.readAt (time : Stamp) (p : Participant) : Participant :=
  { p with lastReadAt := some (Tables.laterMarker p.lastReadAt time) }

section
variable (time : Stamp) (c : Conversation) (p : Participant)

@[simp] theorem Conversation.id_activeAt : (c.activeAt time).id = c.id := rfl
@[simp] theorem Conversation.directKey_activeAt : (c.activeAt time).directKey = c.directKey := rfl
@[simp] theorem Conversation.createdAt_activeAt : (c.activeAt time).createdAt = c.createdAt := rfl
@[simp] theorem Conversation.updatedAt_activeAt :
    (c.activeAt time).updatedAt = max c.updatedAt time := rfl
@[simp] theorem Participant.id_readAt : (p.readAt time).id = p.id := rfl
@[simp] theorem Participant.conversationId_readAt :
    (p.readAt time).conversationId = p.conversationId := rfl
@[simp] theorem Participant.userId_readAt : (p.readAt time).userId = p.userId := rfl
@[simp] theorem Participant.lastReadAt_readAt :
    (p.readAt time).lastReadAt = some (Tables.laterMarker p.lastReadAt time) := rfl

end

namespace Tables

variable (t : Tables)

def touch (conversationId : Int) (time : Instant) : Tables :=
  { t with
    conversations := t.conversations.update (·.id == conversationId)
      (Conversation.activeAt (.of time)) }

def markRead (conversationId userId : Int) (time : Instant) : Tables :=
  { t with
    participants := t.participants.update
      (fun p => p.conversationId == conversationId && p.userId == userId)
      (Participant.readAt (.of time)) }

end Tables

-- ---------------------------------------------------------------------------
-- Rows that are there
-- ---------------------------------------------------------------------------

namespace Tables

variable {t : Tables} {id : Int}

theorem hasUser_iff : t.hasUser id = true ↔ ∃ u ∈ t.users.rows, u.id = id := by
  simp [hasUser, List.any_eq_true]

theorem hasConversation_iff :
    t.hasConversation id = true ↔ ∃ c ∈ t.conversations.rows, c.id = id := by
  simp [hasConversation, List.any_eq_true]

theorem userById_iff : t.hasUser id = true ↔ ∃ row, t.userById id = .ok row := by
  simp only [userById, found_ok, ← Option.isSome_iff_exists, hasUser, List.find?_isSome,
    List.any_eq_true]

theorem conversationById_ok (h : t.conversationById id = .ok row) :
    row ∈ t.conversations.rows ∧ row.id = id := by
  have hfind := found_ok.mp h
  exact ⟨List.mem_of_find?_eq_some hfind, by simpa using List.find?_some hfind⟩

theorem conversationById_of_has (h : t.hasConversation id = true) :
    ∃ row, t.conversationById id = .ok row := by
  obtain ⟨row, hrow, rfl⟩ := hasConversation_iff.mp h
  cases hfind : t.conversations.rows.find? (·.id == row.id) with
  | none => exact absurd (List.find?_eq_none.mp hfind row hrow) (by simp)
  | some r => exact ⟨r, found_ok.mpr hfind⟩

theorem isParticipant_iff : t.isParticipant c u = true ↔
    ∃ p ∈ t.participants.rows, p.conversationId = c ∧ p.userId = u := by
  simp [isParticipant, List.any_eq_true]

-- ---------------------------------------------------------------------------
-- Changes
-- ---------------------------------------------------------------------------

theorem createUser_ok : t.createUser u now = .ok w ↔
    (∀ r ∈ t.users.rows, r.email ≠ u.email) ∧ (∀ r ∈ t.users.rows, r.username ≠ u.username) ∧
      w = ⟨t.userRow u now, { t with users := t.users.add (t.userRow u now) }, true⟩ := by
  simp only [createUser, bind_ok, require_ok, pure_ok, exists_const, List.all_eq_true,
    bne_iff_ne, eq_comm (b := w)]
  rfl

theorem createSession_ok : t.createSession userId token now = .ok w ↔
    (∀ r ∈ t.sessions.rows, r.token ≠ token) ∧ t.hasUser userId = true ∧
      w = ⟨(), { t with sessions := t.sessions.add (t.sessionRow userId token now) }, true⟩ := by
  simp only [createSession, bind_ok, require_ok, pure_ok, exists_const, List.all_eq_true,
    bne_iff_ne, eq_comm (b := w)]
  rfl

theorem deleteSessions_ok : t.deleteSessions userId = .ok w ↔
    w = ⟨t.sessions.rows.countP (·.userId == userId),
      { t with sessions := t.sessions.remove (·.userId == userId) },
      t.sessions.rows.countP (·.userId == userId) != 0⟩ := by
  simp only [deleteSessions, Except.ok.injEq, eq_comm (b := w)]

theorem createConversation_ok : t.createConversation key now = .ok w ↔
    (∀ k, key = some k → ∀ r ∈ t.conversations.rows, r.directKey ≠ some k) ∧
      w = ⟨t.conversationRow key now,
        { t with conversations := t.conversations.add (t.conversationRow key now) }, true⟩ := by
  simp only [createConversation, bind_ok, require_ok, pure_ok, exists_const, eq_comm (b := w)]
  refine and_congr_left fun _ => ?_
  cases key <;> simp

theorem addParticipant_ok : t.addParticipant c u now = .ok w ↔
    t.isParticipant c u = false ∧ t.hasConversation c = true ∧ t.hasUser u = true ∧
      w = ⟨t.participantRow c u now,
        { t with participants := t.participants.add (t.participantRow c u now) }, true⟩ := by
  simp only [addParticipant, bind_ok, require_ok, pure_ok, exists_const, Bool.not_eq_true',
    Bool.and_eq_true, and_assoc, eq_comm (b := w)]
  rfl

theorem touchConversation_ok : t.touchConversation c time = .ok w ↔
    t.hasConversation c = true ∧ w = ⟨(), t.touch c time, true⟩ := by
  simp only [touchConversation, bind_ok, require_ok, pure_ok, exists_const, eq_comm (b := w)]
  rfl

theorem lockConversation_ok : t.lockConversation c = .ok w ↔
    ∃ row, t.conversationById c = .ok row ∧ w = ⟨row.updatedAt.instant, t, true⟩ := by
  simp only [lockConversation, bind_ok, pure_ok, eq_comm (b := w)]

theorem createMessage_ok : t.createMessage m sentAt = .ok w ↔
    (∀ r ∈ t.messages.rows, r.key ≠ m.key) ∧ t.hasConversation m.conversationId = true ∧
      t.hasUser m.senderId = true ∧ w = ⟨t.messageRow m sentAt,
        { t with messages := t.messages.add (t.messageRow m sentAt) }, true⟩ := by
  simp only [createMessage, bind_ok, require_ok, pure_ok, exists_const, List.all_eq_true,
    bne_iff_ne, Bool.and_eq_true, and_assoc, eq_comm (b := w)]
  rfl

theorem updateLastRead_ok : t.updateLastRead c u time = .ok w ↔
    w = ⟨t.participants.rows.countP fun p => p.conversationId == c && p.userId == u,
      t.markRead c u time, t.participants.rows.any fun p =>
        p.conversationId == c && p.userId == u && p.readAt (.of time) != p⟩ := by
  simp only [updateLastRead, Except.ok.injEq, eq_comm (b := w)]
  rfl

end Tables

/-- The change may be made to `t`, and leads to the tables that follow it. -/
inductive Change.Leads (t : Tables) : Change → Tables → Prop where
  | createUser : (∀ r ∈ t.users.rows, r.email ≠ u.email) →
      (∀ r ∈ t.users.rows, r.username ≠ u.username) →
      Leads t (.createUser u now) { t with users := t.users.add (t.userRow u now) }
  | createSession : (∀ r ∈ t.sessions.rows, r.token ≠ token) → t.hasUser u = true →
      Leads t (.createSession u token now)
        { t with sessions := t.sessions.add (t.sessionRow u token now) }
  | deleteSessions : Leads t (.deleteSessions u)
      { t with sessions := t.sessions.remove (·.userId == u) }
  | createConversation : (∀ k, key = some k → ∀ r ∈ t.conversations.rows, r.directKey ≠ some k) →
      Leads t (.createConversation key now)
        { t with conversations := t.conversations.add (t.conversationRow key now) }
  | addParticipant : t.isParticipant c u = false → t.hasConversation c = true →
      t.hasUser u = true → Leads t (.addParticipant c u now)
        { t with participants := t.participants.add (t.participantRow c u now) }
  | touchConversation : t.hasConversation c = true →
      Leads t (.touchConversation c time) (t.touch c time)
  | lockConversation : t.conversationById c = .ok row → Leads t (.lockConversation c) t
  | createMessage : (∀ r ∈ t.messages.rows, r.key ≠ m.key) →
      t.hasConversation m.conversationId = true → t.hasUser m.senderId = true →
      Leads t (.createMessage m sentAt)
        { t with messages := t.messages.add (t.messageRow m sentAt) }
  | updateLastRead : Leads t (.updateLastRead c u time) (t.markRead c u time)

theorem Change.leads {c : Change} (hw : c.run t = .ok w) : c.Leads t w.tables := by
  cases c <;> simp only [run, map_ok] at hw <;> obtain ⟨w₀, hw₀, rfl⟩ := hw
  case createUser =>
    obtain ⟨hemail, hname, rfl⟩ := Tables.createUser_ok.mp hw₀
    exact .createUser hemail hname
  case createSession =>
    obtain ⟨htoken, huser, rfl⟩ := Tables.createSession_ok.mp hw₀
    exact .createSession htoken huser
  case deleteSessions =>
    obtain rfl := Tables.deleteSessions_ok.mp hw₀
    exact .deleteSessions
  case createConversation =>
    obtain ⟨hkey, rfl⟩ := Tables.createConversation_ok.mp hw₀
    exact .createConversation hkey
  case addParticipant =>
    obtain ⟨hnew, hconversation, huser, rfl⟩ := Tables.addParticipant_ok.mp hw₀
    exact .addParticipant hnew hconversation huser
  case touchConversation =>
    obtain ⟨hconversation, rfl⟩ := Tables.touchConversation_ok.mp hw₀
    exact .touchConversation hconversation
  case lockConversation =>
    obtain ⟨row, hrow, rfl⟩ := Tables.lockConversation_ok.mp hw₀
    exact .lockConversation hrow
  case createMessage =>
    obtain ⟨hkey, hconversation, huser, rfl⟩ := Tables.createMessage_ok.mp hw₀
    exact .createMessage hkey hconversation huser
  case updateLastRead =>
    obtain rfl := Tables.updateLastRead_ok.mp hw₀
    exact .updateLastRead

end Parley
