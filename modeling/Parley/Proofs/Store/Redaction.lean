import Parley.Proofs.Store.Operation

/-!
# Tables without password hashes

`Tables.redact` blanks every password hash. Two states of the tables with the same redaction differ
in hashes alone. No query but the look-up of a user shows a hash, and no change, transaction or
operation depends on one: made on two databases that differ in hashes alone, it is refused in both
for the same reason, or answers the same in both, and leaves databases that again differ in hashes
alone (`Database.Blind`).
-/

namespace Parley

-- ---------------------------------------------------------------------------
-- Redaction
-- ---------------------------------------------------------------------------

def User.redact (u : User) : User := { u with passwordHash := "" }

def Tables.redact (t : Tables) : Tables :=
  { t with users := ⟨t.users.rows.map User.redact, t.users.issued⟩ }

def Write.redact (w : Write α) : Write α := { w with tables := w.tables.redact }

def Held.redact : Held → Held
  | begun => begun
  | reading view current => reading view.redact current
  | writing view touched => writing view.redact touched

def Database.redact (db : Database) : Database :=
  { db with committed := db.committed.redact, held := db.held.map Held.redact }

def Draft.redact (d : Draft) : Draft :=
  { d with database := d.database.redact, tables := d.tables.redact }

section
variable (u : User) (t : Tables) (h : Held) (db : Database)

@[simp] theorem User.id_redact : u.redact.id = u.id := rfl
@[simp] theorem User.username_redact : u.redact.username = u.username := rfl
@[simp] theorem User.email_redact : u.redact.email = u.email := rfl
@[simp] theorem User.redact_redact : u.redact.redact = u.redact := rfl

@[simp] theorem Tables.rows_redact : t.redact.users.rows = t.users.rows.map User.redact := rfl
@[simp] theorem Tables.sessions_redact : t.redact.sessions = t.sessions := rfl
@[simp] theorem Tables.conversations_redact : t.redact.conversations = t.conversations := rfl
@[simp] theorem Tables.participants_redact : t.redact.participants = t.participants := rfl
@[simp] theorem Tables.messages_redact : t.redact.messages = t.messages := rfl

@[simp] theorem Tables.redact_redact : t.redact.redact = t.redact := by
  simp [redact, Function.comp_def]

@[simp] theorem Held.hasLock_redact : h.redact.hasLock = h.hasLock := by cases h <;> rfl

theorem Held.outdate_redact : h.redact.outdate = h.outdate.redact := by cases h <;> rfl

theorem Database.isOpen_redact : db.redact.isOpen = db.isOpen := rfl

theorem Database.isLocked_redact : db.redact.isLocked = db.isLocked := by
  cases hheld : db.held <;> simp [isLocked, redact, hheld]

theorem Database.publish_redact (touched : Bool) :
    (db.publish t touched).redact = db.redact.publish t.redact touched := by
  cases touched <;> simp [publish, redact, Function.comp_def, Held.outdate_redact]

end

-- ---------------------------------------------------------------------------
-- Queries
-- ---------------------------------------------------------------------------

def Tables.Blind (q : Tables → α) : Prop := ∀ t : Tables, q t.redact = q t

namespace Tables

theorem Blind.eq {q : Tables → α} (hq : Blind q) (h : t'.redact = t.redact) : q t' = q t := by
  rw [← hq t', h, hq t]

theorem Blind.map {q : Tables → α} (hq : Blind q) (g : α → β) : Blind fun t => g (q t) :=
  fun t => congrArg g (hq t)

theorem hasUser_blind (id : Int) : Blind (·.hasUser id) := by
  intro t
  simp [hasUser, List.any_map, Function.comp_def]

theorem userIdByToken_blind (token : String) : Blind (·.userIdByToken token) := fun _ => rfl

theorem searchUsers_blind (term : String) (limit : Int) : Blind (·.searchUsers term limit) := by
  intro t
  -- The rows are sorted before the hashes are left out, in an order that does not look at them.
  have hsorted (l : List User) (le : User → User → Bool)
      (hle : ∀ a b, le a b = le a.redact b.redact) :
      (l.map User.redact).mergeSort le = (l.mergeSort le).map User.redact :=
    (List.map_mergeSort fun a _ b _ => hle a b).symm
  simp only [searchUsers, rows_redact, List.isEmpty_map, List.filter_map]
  rw [hsorted _ _ fun _ _ => rfl]
  simp [Function.comp_def]

theorem conversationById_blind (id : Int) : Blind (·.conversationById id) := fun _ => rfl

theorem findDirect_blind (pair : Pair) : Blind (·.findDirect pair) := fun _ => rfl

theorem messageByKey_blind (key : String) : Blind (·.messageByKey key) := fun _ => rfl

theorem listInbox_blind (u : Int) (page : Page) : Blind (·.listInbox u page) := by
  intro t
  simp [listInbox, inbox, inboxEntries, List.filter_map, Function.comp_def]

variable {t t' : Tables}

theorem find?_users (h : t'.redact = t.redact) {p : User → Bool} (hp : ∀ u, p u.redact = p u) :
    Alike User.redact (found .user (t.users.rows.find? p))
      (found .user (t'.users.rows.find? p)) := by
  have hfind (t : Tables) :
      t.redact.users.rows.find? p = (t.users.rows.find? p).map User.redact := by
    rw [rows_redact, List.find?_map, show p ∘ User.redact = p from funext hp]
  have hsame :
      (t'.users.rows.find? p).map User.redact = (t.users.rows.find? p).map User.redact := by
    rw [← hfind, h, hfind]
  cases hu : t.users.rows.find? p <;> cases hu' : t'.users.rows.find? p <;>
    simp_all [Alike, found, Except.map]

theorem userById_alike (h : t'.redact = t.redact) (id : Int) :
    Alike User.redact (t.userById id) (t'.userById id) :=
  find?_users h fun _ => rfl

theorem userByName_alike (h : t'.redact = t.redact) (username : String) :
    Alike User.redact (t.userByName username) (t'.userByName username) :=
  find?_users h fun _ => rfl

end Tables

-- ---------------------------------------------------------------------------
-- Changes
-- ---------------------------------------------------------------------------

def Tables.WritesBlind (w : Tables → Except StoreError (Write α)) : Prop :=
  ∀ t : Tables, Alike Write.redact (w t) (w t.redact)

namespace Tables

theorem WritesBlind.alike {w : Tables → Except StoreError (Write α)} (hw : WritesBlind w)
    (h : t'.redact = t.redact) : Alike Write.redact (w t) (w t') :=
  (hw t).trans (h ▸ (hw t').symm)

theorem WritesBlind.of_keeps {w : Tables → Except StoreError (Write α)}
    (h : ∀ t : Tables, w t.redact = (w t).map Write.redact) : WritesBlind w := by
  intro t
  rw [h]
  cases w t <;> simp [Alike, Except.map, Write.redact]

theorem createUser_blind (u : NewUser) (now : Instant) : WritesBlind (·.createUser u now) := by
  intro t
  simp only [createUser, rows_redact, List.all_map, Function.comp_def, User.email_redact,
    User.username_redact]
  refine .bind_same fun _ => .bind_same fun _ => .ok ?_
  simp [Write.redact, redact, Table.add, Table.nextId, Function.comp_def]

theorem createSession_blind (u : Int) (token : String) (now : Instant) :
    WritesBlind (·.createSession u token now) := by
  intro t
  simp only [createSession, hasUser_blind u t, sessions_redact]
  refine .bind_same fun _ => .bind_same fun _ => .ok ?_
  simp [Write.redact, redact, Function.comp_def]

theorem deleteSessions_blind (u : Int) : WritesBlind (·.deleteSessions u) :=
  .of_keeps fun _ => rfl

theorem createConversation_blind (key : Option String) (now : Instant) :
    WritesBlind (·.createConversation key now) := by
  intro t
  refine .bind_same fun _ => .ok ?_
  simp [Write.redact, redact, Function.comp_def]

theorem addParticipant_blind (c u : Int) (now : Instant) :
    WritesBlind (·.addParticipant c u now) := by
  intro t
  simp only [addParticipant, hasUser_blind u t]
  refine .bind_same fun _ => .bind_same fun _ => .ok ?_
  simp [Write.redact, redact, Function.comp_def]

theorem touchConversation_blind (c : Int) (time : Instant) :
    WritesBlind (·.touchConversation c time) := by
  intro t
  refine .bind_same fun _ => .ok ?_
  simp [Write.redact, redact, Function.comp_def]

theorem lockConversation_blind (c : Int) : WritesBlind (·.lockConversation c) := by
  intro t
  refine .bind_same fun _ => .ok ?_
  simp [Write.redact]

theorem createMessage_blind (m : NewMessage) (sentAt : Instant) :
    WritesBlind (·.createMessage m sentAt) := by
  intro t
  simp only [createMessage, hasUser_blind m.senderId t]
  refine .bind_same fun _ => .bind_same fun _ => .ok ?_
  simp [Write.redact, redact, Function.comp_def]

theorem updateLastRead_blind (c u : Int) (time : Instant) :
    WritesBlind (·.updateLastRead c u time) :=
  .of_keeps fun _ => rfl

end Tables

-- ---------------------------------------------------------------------------
-- Transactions
-- ---------------------------------------------------------------------------

theorem Draft.redact_eq {d d' : Draft} (h : d'.redact = d.redact) :
    d'.database.redact = d.database.redact ∧ d'.tables.redact = d.tables.redact ∧
      d'.touched = d.touched := by
  cases d
  cases d'
  simpa [redact] using h

theorem Draft.writable_redact (d : Draft) : d.redact.writable = d.writable := by
  simp [writable, redact, Database.isLocked_redact]

namespace Attempt.SeesOnly

theorem query {q : Tables → Except StoreError α} (hq : Tables.Blind q) :
    (Transaction.query q).SeesOnly Draft.redact := by
  intro d d' h
  have hsame : q d'.tables = q d.tables := hq.eq (Draft.redact_eq h).2.1
  simp only [Transaction.query, hsame]
  cases q d.tables with
  | ok a => exact .ok rfl h
  | error e => exact .error e h

theorem change {w : Tables → Except StoreError (Write α)} (hw : Tables.WritesBlind w) :
    (Transaction.change w).SeesOnly Draft.redact := by
  intro d d' h
  obtain ⟨hdatabase, htables, htouched⟩ := Draft.redact_eq h
  have hwritable : d'.writable = d.writable := by
    rw [← d'.writable_redact, h, d.writable_redact]
  simp only [Transaction.change, hwritable, htouched]
  split
  · rcases (hw.alike htables).cases with ⟨e, hx, hx'⟩ | ⟨r, r', hx, hx', heq⟩
    · rw [hx, hx']
      exact .error e h
    · rw [hx, hx']
      obtain ⟨a, t, touched⟩ := r
      obtain ⟨a', t', touched'⟩ := r'
      simp only [Write.redact, Write.mk.injEq] at heq
      obtain ⟨rfl, ht, rfl⟩ := heq
      exact .ok rfl (by simp [Draft.redact, hdatabase, ht])
  · exact .error _ h

end Attempt.SeesOnly

-- ---------------------------------------------------------------------------
-- Databases
-- ---------------------------------------------------------------------------

abbrev Database.Blind (x : Database → Database.Result α) : Prop := Attempt.SeesOnly redact x

namespace Database

variable {db db' : Database}

theorem redact_eq (h : db'.redact = db.redact) : db'.committed.redact = db.committed.redact ∧
    db'.isOpen = db.isOpen :=
  ⟨congrArg committed h, by rw [← isOpen_redact, h, isOpen_redact]⟩

theorem query_alike {f : α → β} {q : Tables → Except StoreError α} (h : db'.redact = db.redact)
    (hq : Alike f (q db.committed) (q db'.committed)) : Alike f (db.query q) (db'.query q) := by
  simp only [query, (redact_eq h).2]
  exact .ite hq (.refl _)

theorem query_blind {q : Tables → Except StoreError α} (h : db'.redact = db.redact)
    (hq : Tables.Blind q) : db'.query q = db.query q := by
  simp only [query, redact_eq h, hq.eq (redact_eq h).1]

theorem commit_redact (d : Draft) : d.redact.commit = d.commit.redact :=
  (publish_redact _ _ _).symm

end Database

namespace Attempt.SeesOnly

open Database (Blind)

theorem read {q : Tables → Except StoreError α} (hq : Tables.Blind q) : Blind (·.read q) := by
  intro db db' h
  simp only [Database.read, Database.query_blind h hq]
  cases db.query q with
  | ok a => exact .ok rfl h
  | error e => exact .error e h

theorem map {x : Database → Database.Result α} (hx : Blind x) (f : α → β) :
    Blind fun db => (x db).map f := by
  intro db db' h
  dsimp only
  rcases (hx db db' h).cases with ⟨e, t, t', hr, hr', ht⟩ | ⟨a, a', t, t', hr, hr', ha, ht⟩
  · rw [hr, hr']
    exact .error e ht
  · rw [hr, hr']
    exact .ok (congrArg f ha) ht

theorem transact {x : Transaction α} (hx : x.SeesOnly Draft.redact) : Blind (·.transact x) := by
  intro db db' h
  have hbegin : (Draft.begin db').redact = (Draft.begin db).redact := by
    simp [Draft.begin, Draft.redact, h, (Database.redact_eq h).1]
  simp only [Database.transact, (Database.redact_eq h).2]
  split
  · rcases (hx _ _ hbegin).cases with ⟨e, d, d', hr, hr', hd⟩ | ⟨a, a', d, d', hr, hr', ha, hd⟩
    · rw [hr, hr']
      exact .error e (Draft.redact_eq hd).1
    · rw [hr, hr']
      refine .ok ha ?_
      rw [← Database.commit_redact, hd, Database.commit_redact]
  · exact .error _ h

end Attempt.SeesOnly

-- ---------------------------------------------------------------------------
-- Operations
-- ---------------------------------------------------------------------------

namespace Database

variable (now : Instant)

theorem createAccount_blind (user : NewUser) (token : String) :
    Blind (·.createAccount now user token) :=
  .transact (.bind (.change (Tables.createUser_blind _ _)) fun _ =>
    .bind (.change (Tables.createSession_blind _ _ _)) fun _ => .pure _)

theorem insertConversation_blind (key : Option String) (a b : Int) :
    (insertConversation now key a b).SeesOnly Draft.redact :=
  .bind (.change (Tables.createConversation_blind _ _)) fun _ =>
    .bind (.adapt (.change (Tables.addParticipant_blind _ _ _)) _) fun _ =>
      .bind (.adapt (.change (Tables.addParticipant_blind _ _ _)) _) fun _ => .pure _

theorem openDirect_blind (pair : Pair) : (openDirect now pair).SeesOnly Draft.redact := by
  intro d d' h
  have hfind : d'.tables.findDirect pair = d.tables.findDirect pair :=
    (Tables.findDirect_blind pair).eq (Draft.redact_eq h).2.1
  rw [openDirect_apply, openDirect_apply, hfind]
  split
  · exact Attempt.SeesOnly.bind (.query (Tables.conversationById_blind _)) (fun _ => .pure _) d d' h
  · exact Attempt.SeesOnly.bind (insertConversation_blind now _ _ _) (fun _ => .pure _) d d' h
  · exact .error _ h

theorem refetchDirect_blind (pair : Pair) : Blind (·.refetchDirect pair) := by
  intro db db' h
  simp only [refetchDirect, query_blind h (Tables.findDirect_blind pair)]
  split
  · exact Attempt.SeesOnly.map (.read (Tables.conversationById_blind _)) _ db db' h
  · exact .error _ h
  · exact .error _ h

theorem getOrCreateDirect_blind (a b : Int) : Blind (·.getOrCreateDirect now a b) := by
  intro db db' h
  dsimp only [getOrCreateDirect]
  cases Pair.of a b with
  | error e => exact .error e h
  | ok pair =>
    rcases (Attempt.SeesOnly.transact (openDirect_blind now pair) db db' h).cases with
      ⟨e, t, t', hr, hr', ht⟩ | ⟨a, a', t, t', hr, hr', ha, ht⟩
    · simp only [hr, hr']
      cases e with
      | notUnique _ => exact refetchDirect_blind pair t t' ht
      | _ => exact .error _ ht
    · simp only [hr, hr']
      exact .ok ha ht

theorem deliver_blind (m : NewMessage) : (deliver now m).SeesOnly Draft.redact :=
  .bind (.change (Tables.lockConversation_blind _)) fun _ =>
    .bind (.adapt (.change (Tables.createMessage_blind _ _)) _) fun _ =>
      .bind (.change (Tables.touchConversation_blind _ _)) fun _ =>
        .bind (.query (Tables.conversationById_blind _)) fun _ => .pure _

theorem existingMessage_blind (key : String) : Blind (·.existingMessage key) := by
  intro db db' h
  simp only [existingMessage, query_blind h (Tables.messageByKey_blind key)]
  split
  · exact .ok rfl h
  · exact .error _ h
  · exact .error _ h

theorem sendMessage_blind (m : NewMessage) : Blind (·.sendMessage now m) := by
  intro db db' h
  dsimp only [sendMessage]
  split
  · exact .error _ h
  split
  · exact .error _ h
  rcases (Attempt.SeesOnly.transact (deliver_blind now m) db db' h).cases with
    ⟨e, t, t', hr, hr', ht⟩ | ⟨a, a', t, t', hr, hr', ha, ht⟩
  · simp only [hr, hr']
    cases e with
    | notUnique _ => exact existingMessage_blind m.key t t' ht
    | _ => exact .error _ ht
  · simp only [hr, hr']
    exact .ok ha ht

theorem markAsRead_blind (c u : Int) : Blind (·.markAsRead now c u) :=
  .transact (.bind (.change (Tables.updateLastRead_blind _ _ _)) fun _ => .pure _)

end Database
end Parley
