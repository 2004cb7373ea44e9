import Parley.Proofs.Store.Members
import Parley.System

/-!
# Why the store refuses

An operation is refused for what its caller asks (`StoreError.BlamesCaller`), because the database
is closed, or because the held transaction has the write lock (`Database.Refuses`). One operation has
a further reason: it asks its caller to try again if the key of a pair is taken although no
conversation is between the two (`Tables.Hidden`). Whatever the reason, and whichever of its
statements met it, the database is left as it was found (`Operation.restores`).
-/

namespace Parley

/-- What was asked for cannot be done, whoever else is at work. -/
inductive StoreError.BlamesCaller : StoreError → Prop where
  | invalid : BlamesCaller (.invalid reason)
  | notFound : BlamesCaller (.notFound what)
  | notUnique : BlamesCaller (.notUnique columns)
  | foreignKey : BlamesCaller .foreignKey

theorem StoreError.BlamesCaller.isRetryable {e : StoreError} (h : e.BlamesCaller) :
    e.isRetryable = false := by
  cases h <;> rfl

/-- The key of the pair is taken, but no conversation is between just the two. -/
structure Tables.Hidden (t : Tables) (pair : Pair) : Prop where
  taken : ∃ c ∈ t.conversations.rows, c.directKey = some pair.key
  absent : ∀ c, ¬ t.IsDirect pair c

-- ---------------------------------------------------------------------------
-- Statements
-- ---------------------------------------------------------------------------

theorem Tables.Hidden.findDirect {t : Tables} (h : t.Hidden pair) :
    t.findDirect pair = .error (.notFound .directConversation) :=
  findDirect_error.mpr ⟨h.absent, rfl⟩

theorem Pair.of_fails : FailsOnly StoreError.BlamesCaller (Pair.of a b) := by
  unfold Pair.of
  split
  · split
    · exact .ok _
    · split
      · exact .ok _
      · exact .error .invalid
  · exact .error .invalid

/-- Why a change cannot be made to `t`. -/
inductive Change.Refuses (t : Tables) : Change → StoreError → Prop where
  | email : (∃ r ∈ t.users.rows, r.email = u.email) →
      Refuses t (.createUser u now) (.notUnique .email)
  | username : (∃ r ∈ t.users.rows, r.username = u.username) →
      Refuses t (.createUser u now) (.notUnique .username)
  | token : (∃ r ∈ t.sessions.rows, r.token = token) →
      Refuses t (.createSession u token now) (.notUnique .token)
  | sessionUser : t.hasUser u = false → Refuses t (.createSession u token now) .foreignKey
  | directKey : (∃ r ∈ t.conversations.rows, r.directKey = some key) →
      Refuses t (.createConversation (some key) now) (.notUnique .directKey)
  | participant : t.isParticipant c u = true →
      Refuses t (.addParticipant c u now) (.notUnique .participant)
  | reference : (t.hasConversation c && t.hasUser u) = false →
      Refuses t (.addParticipant c u now) .foreignKey
  | untouched : t.hasConversation c = false →
      Refuses t (.touchConversation c time) (.notFound .conversation)
  | unlocked : t.hasConversation c = false →
      Refuses t (.lockConversation c) (.notFound .conversation)
  | messageKey : (∃ r ∈ t.messages.rows, r.key = m.key) →
      Refuses t (.createMessage m sentAt) (.notUnique .messageKey)
  | messageOf : (t.hasConversation m.conversationId && t.hasUser m.senderId) = false →
      Refuses t (.createMessage m sentAt) .foreignKey

theorem Change.fails (c : Change) (t : Tables) : FailsOnly (c.Refuses t) (c.run t) := by
  cases c with
  | createUser u now =>
    refine .map (.bind (.require fun h => .email ?_) fun _ _ =>
      .bind (.require fun h => .username ?_) fun _ _ => .pure _) _
    · simpa using h
    · simpa using h
  | createSession u token now =>
    refine .map (.bind (.require fun h => .token ?_) fun _ _ =>
      .bind (.require .sessionUser) fun _ _ => .pure _) _
    simpa using h
  | createConversation key now =>
    refine .map (.bind (.require fun h => ?_) fun _ _ => .pure _) _
    cases key with
    | none => simp at h
    | some key => exact .directKey (by simpa using h)
  | addParticipant c u now =>
    refine .map (.bind (.require fun h => .participant ?_) fun _ _ =>
      .bind (.require .reference) fun _ _ => .pure _) _
    simpa using h
  | touchConversation c time =>
    exact .map (.bind (.require .untouched) fun _ _ => .pure _) _
  | lockConversation c =>
    refine .map (.bind (.found fun h => .unlocked ?_) fun _ _ => .pure _) _
    simpa [Tables.hasConversation] using h
  | createMessage m sentAt =>
    refine .map (.bind (.require fun h => .messageKey ?_) fun _ _ =>
      .bind (.require .messageOf) fun _ _ => .pure _) _
    simpa using h
  | deleteSessions | updateLastRead => exact .ok _

theorem Change.Refuses.caller {c : Change} (h : c.Refuses t e) : e.BlamesCaller := by
  cases h <;> constructor

theorem Change.Is.fails {c : Change} (hc : c.Is w) (t : Tables) : FailsOnly (c.Refuses t) (w t) := by
  obtain ⟨f, hf⟩ := hc
  apply FailsOnly.of_map
  rw [← hf]
  exact c.fails t

theorem Tables.searchUsers_fails (t : Tables) (term : String) (limit : Int) :
    FailsOnly (fun e => e = .failure .patternTooComplex ∧
      Pattern.maxBytes < (Pattern.containing term).utf8ByteSize) (t.searchUsers term limit) := by
  simp only [searchUsers]
  refine .ite (fun _ => .ok _) fun _ => .ite (fun hlong => ?_) fun _ => .ok _
  exact .error ⟨rfl, hlong⟩

theorem Query.fails (q : Query) (t : Tables) :
    FailsOnly (fun e => e.BlamesCaller ∨ e = .failure .patternTooComplex) (q.run t) := by
  cases q with
  | userById | userByName | userIdByToken | conversationById | findDirect | messageByKey =>
    exact .map (.found fun _ => .inl .notFound) _
  | searchUsers term limit =>
    apply FailsOnly.map
    exact (t.searchUsers_fails term limit).mono fun e he => .inr he.1
  | participantsOf | isParticipant | listInbox | listMessages | countUnread => exact .ok _

-- ---------------------------------------------------------------------------
-- Transactions
-- ---------------------------------------------------------------------------

/-- Why a transaction in progress is refused. -/
inductive Draft.Refuses (d : Draft) : StoreError → Prop where
  | caller : e.BlamesCaller → Refuses d e
  | locked : d.writable = false → Refuses d (.conflict .locked)

/-- The transaction is refused for no other reason. -/
structure Transaction.Plain (x : Transaction α) : Prop where
  fails : ∀ d, FailsIn (fun e _ => d.Refuses e) (x d)
  frames : x.Frames

theorem Draft.Refuses.congr {d d' : Draft} (h : d'.Refuses e) (hd : d'.database = d.database) :
    d.Refuses e := by
  cases h with
  | caller h => exact .caller h
  | locked h => exact .locked (by rw [writable, ← hd]; exact h)

namespace Transaction.Plain

variable {x : Transaction α} {f : α → Transaction β}

theorem pure : (Pure.pure a : Transaction α).Plain := ⟨fun d => .pure a d, .pure a⟩

theorem bind (hx : x.Plain) (hf : ∀ a, (f a).Plain) : (x >>= f).Plain where
  fails d := by
    refine .bind (hx.fails d) fun a d' ha e d'' he => ?_
    have hkept := hx.frames d
    rw [ha] at hkept
    exact ((hf a).fails d' e d'' he).congr hkept
  frames := .bind hx.frames fun a => (hf a).frames

theorem query (hq : ∀ t, FailsOnly StoreError.BlamesCaller (q t)) : (Transaction.query q).Plain where
  fails d e _ h := .caller (hq d.tables e (query_error.mp h).1)
  frames := .query q

theorem change {w : Tables → Except StoreError (Write α)} {c : Change} (hc : c.Is w) :
    (Transaction.change w).Plain where
  fails d e d' h := by
    rcases (change_error.mp h).1 with ⟨hlock, rfl⟩ | ⟨-, h⟩
    · exact .locked hlock
    · exact .caller (hc.fails d.tables e h).caller
  frames := .change w

theorem adapt {g : StoreError → StoreError} (hx : x.Plain)
    (hg : ∀ e, e.BlamesCaller → (g e).BlamesCaller)
    (hlock : g (.conflict .locked) = .conflict .locked) : Transaction.Plain (x.adaptExcept g) where
  fails d := by
    refine FailsIn.adapt (hx.fails d) fun e _ he => ?_
    cases he with
    | caller he => exact .caller (hg e he)
    | locked hl =>
      rw [hlock]
      exact .locked hl
  frames := .adapt hx.frames g

end Transaction.Plain

-- ---------------------------------------------------------------------------
-- The database
-- ---------------------------------------------------------------------------

/-- Why work beside the held transaction is refused. -/
inductive Database.Refuses (db : Database) : StoreError → Prop where
  | caller : e.BlamesCaller → Refuses db e
  | closed : db.isOpen = false → Refuses db (.failure .closed)
  | locked : db.isLocked = true → Refuses db (.conflict .locked)

namespace Database

open Transaction (Plain change)

variable {db : Database}

theorem map_fails {r : Result α} {P : StoreError → Database → Prop} (h : FailsIn P r) (f : α → β) :
    FailsIn P (r.map f) :=
  fun e db' he => h e db' (map_error.mp he)

theorem query_fails (hq : FailsOnly StoreError.BlamesCaller (q db.committed)) :
    FailsOnly db.Refuses (db.query q) := by
  unfold query
  refine .ite (fun _ => hq.mono fun _ he => .caller he) fun hopen => ?_
  exact .error (.closed (by simpa using hopen))

theorem read_fails (hq : FailsOnly StoreError.BlamesCaller (q db.committed)) :
    FailsLeaving db db.Refuses (db.read q) := by
  intro e db' h
  obtain ⟨h, rfl⟩ := read_error.mp h
  exact ⟨query_fails hq e h, rfl⟩

theorem transact_fails {x : Transaction α} (hx : x.Plain) :
    FailsLeaving db db.Refuses (db.transact x) := by
  intro e db' h
  refine ⟨?_, transact_restores hx.frames h⟩
  rcases transact_error.mp h with ⟨hclosed, rfl, -⟩ | ⟨-, d, hd, -⟩
  · exact .closed hclosed
  · cases hx.fails _ e d hd with
    | caller he => exact .caller he
    | locked hl => exact .locked (by simpa [Draft.writable, Draft.begin] using hl)

-- ---------------------------------------------------------------------------
-- Operations
-- ---------------------------------------------------------------------------

variable {now : Instant}

theorem createAccount_fails : FailsLeaving db db.Refuses (db.createAccount now user token) := by
  apply transact_fails
  exact .bind (.change Change.createUser_is) fun _ =>
    .bind (.change Change.createSession_is) fun _ => .pure

theorem asMissingUser_caller (e : StoreError) (h : e.BlamesCaller) :
    (asMissingUser e).BlamesCaller := by
  cases h <;> constructor

theorem asMissingSender_caller (e : StoreError) (h : e.BlamesCaller) :
    (asMissingSender e).BlamesCaller := by
  cases h <;> constructor

theorem insertConversation_plain : (insertConversation now key a b).Plain := by
  have hadd (c u : Int) :
      Plain ((change (·.addParticipant c u now)).adaptExcept asMissingUser) :=
    .adapt (.change Change.addParticipant_is) asMissingUser_caller rfl
  exact .bind (.change Change.createConversation_is) fun c =>
    .bind (hadd c.id a) fun _ => .bind (hadd c.id b) fun _ => .pure

theorem openDirect_plain : (openDirect now pair).Plain where
  fails d := by
    rw [openDirect_apply]
    split
    · exact (Plain.bind (.query fun t => .found fun _ => .notFound) fun _ => .pure).fails d
    · exact (insertConversation_plain.bind fun _ => .pure).fails d
    · next e hfind =>
      rw [(Tables.findDirect_error.mp hfind).2]
      exact .error (.caller .notFound)
  frames := openDirect_frames now pair

theorem deliver_plain : (deliver now m).Plain := by
  refine .bind (.change Change.lockConversation_is) fun last => ?_
  refine .bind (.adapt (.change Change.createMessage_is) asMissingSender_caller rfl) fun _ => ?_
  refine .bind (.change Change.touchConversation_is) fun _ => ?_
  exact .bind (.query fun t => .found fun _ => .notFound) fun _ => .pure

theorem transact_clash {x : Transaction α}
    (h : db.transact x = .error (.notUnique columns) db') :
    db.isOpen = true ∧ ∃ d, x (.begin db) = .error (.notUnique columns) d := by
  rcases transact_error.mp h with ⟨-, h, -⟩ | ⟨hopen, d, hd, -⟩
  · cases h
  · exact ⟨hopen, d, hd⟩

theorem change_refused {c : Change} (hc : c.Is w) (h : change w d = .error e d')
    (hwritable : d.writable = true) : w d.tables = .error e ∧ c.Refuses d.tables e := by
  rcases (Transaction.change_error.mp h).1 with ⟨hlocked, -⟩ | ⟨-, h⟩
  · rw [hwritable] at hlocked
    cases hlocked
  · exact ⟨h, hc.fails _ _ h⟩

theorem clash_of_asMissingSender (h : asMissingSender e = .notUnique columns) :
    e = .notUnique columns := by
  cases e <;> simp_all [asMissingSender]

theorem deliver_error (h : deliver now m d = .error e d') :
    (d.writable = false ∧ e = .conflict .locked) ∨
      (d.tables.hasConversation m.conversationId = false ∧ e = .notFound .conversation) ∨
      (d.tables.hasConversation m.conversationId = true ∧ ∃ sentAt e',
        d.tables.createMessage m sentAt = .error e' ∧ e = asMissingSender e') := by
  rcases Attempt.bind_error.mp h with h | ⟨last, d₁, hlast, h⟩
  · rcases (Transaction.change_error.mp h).1 with hlocked | ⟨-, h⟩
    · exact .inl hlocked
    · cases Change.lockConversation_is.fails _ _ h with
      | unlocked hnone => exact .inr (.inl ⟨hnone, rfl⟩)
  obtain ⟨hwritable, w, hw, -, rfl⟩ := Transaction.change_ok.mp hlast
  obtain ⟨row, hrow, rfl⟩ := Tables.lockConversation_ok.mp hw
  have hthere : d.tables.hasConversation m.conversationId = true :=
    Tables.hasConversation_iff.mpr ⟨row, Tables.conversationById_ok hrow⟩
  refine .inr (.inr ⟨hthere, ?_⟩)
  rcases Attempt.bind_error.mp h with h | ⟨message, d₂, hcreate, h⟩
  · obtain ⟨e', he, rfl⟩ := Attempt.adapt_error.mp h
    exact ⟨_, e', (change_refused Change.createMessage_is he hwritable).1, rfl⟩
  obtain ⟨-, w, hw, rfl, rfl⟩ := Transaction.change_ok.mp (Attempt.adapt_ok.mp hcreate)
  obtain ⟨-, -, -, rfl⟩ := Tables.createMessage_ok.mp hw
  -- With the message stored, the conversation that it refers to is there for the other statements.
  rcases Attempt.bind_error.mp h with h | ⟨_, d₃, htouch, h⟩
  · cases (change_refused Change.touchConversation_is h hwritable).2 with
    | untouched hnone => exact absurd hthere (Bool.eq_false_iff.mp hnone)
  obtain ⟨-, w, hw, -, rfl⟩ := Transaction.change_ok.mp htouch
  obtain ⟨-, rfl⟩ := Tables.touchConversation_ok.mp hw
  rcases Attempt.bind_error.mp h with h | ⟨_, d₄, -, h⟩
  · obtain ⟨c, hc⟩ := Tables.conversationById_of_has
      ((Tables.hasConversation_touch _ _ _).trans hthere)
    cases hc.symm.trans (Transaction.query_error.mp h).1
  · cases h

/-- A delivery clashes only with a message that has the same key. -/
theorem deliver_clash (h : deliver now m d = .error (.notUnique columns) d') :
    ∃ r ∈ d.tables.messages.rows, r.key = m.key := by
  rcases deliver_error h with ⟨-, heq⟩ | ⟨-, heq⟩ | ⟨-, sentAt, e, he, heq⟩
  · cases heq
  · cases heq
  · rw [clash_of_asMissingSender heq.symm] at he
    cases Change.createMessage_is.fails _ _ he with
    | messageKey hkey => exact hkey

theorem existingMessage_fails (h : ∃ r ∈ db.committed.messages.rows, r.key = key)
    (hopen : db.isOpen = true) : FailsLeaving db db.Refuses (db.existingMessage key) := by
  obtain ⟨r, hr, hkey⟩ := h
  cases hfind : db.committed.messageByKey key with
  | ok m =>
    have hquery : db.query (·.messageByKey key) = .ok m := query_ok.mpr ⟨hopen, hfind⟩
    rw [existingMessage, hquery]
    exact .ok _ _
  | error e =>
    obtain ⟨hnone, -⟩ := found_error.mp hfind
    exact absurd (List.find?_eq_none.mp hnone r hr) (by simp [hkey])

theorem sendMessage_fails : FailsLeaving db db.Refuses (db.sendMessage now m) := by
  unfold sendMessage
  split
  · exact .error ⟨.caller .invalid, rfl⟩
  split
  · exact .error ⟨.caller .invalid, rfl⟩
  split
  · next columns db' h =>
    obtain rfl := transact_restores (deliver_frames now m) h
    obtain ⟨hopen, d, hd⟩ := transact_clash h
    exact existingMessage_fails (deliver_clash hd) hopen
  · exact transact_fails deliver_plain

theorem markAsRead_fails : FailsLeaving db db.Refuses (db.markAsRead now c u) :=
  transact_fails (.bind (.change Change.updateLastRead_is) fun _ => .pure)

theorem unreadCount_fails : FailsLeaving db db.Refuses (db.unreadCount c u) := read_fails (.ok _)

theorem createConversation_fails : FailsLeaving db db.Refuses (db.createConversation now a b) :=
  transact_fails insertConversation_plain

-- ---------------------------------------------------------------------------
-- Hidden conversations
-- ---------------------------------------------------------------------------

theorem insertConversation_error (ht : d.tables.Integrity) (hab : a ≠ b)
    (h : insertConversation now (some key) a b d = .error e d') :
    (d.writable = false ∧ e = .conflict .locked) ∨
      ((∃ c ∈ d.tables.conversations.rows, c.directKey = some key) ∧ e = .notUnique .directKey) ∨
      ((d.tables.hasUser a = false ∨ d.tables.hasUser b = false) ∧ e = .notFound .user) := by
  have hfree (u : Int) : (d.tables.conversations.nextId, u) ∉ d.tables.members := by
    intro hmem
    exact Int.lt_irrefl _ (ht.members_lt hmem)
  rcases Attempt.bind_error.mp h with h | ⟨c, d₁, hc, h⟩
  · rcases (Transaction.change_error.mp h).1 with hlocked | ⟨-, h⟩
    · exact .inl hlocked
    · cases Change.createConversation_is.fails _ _ h with
      | directKey htaken => exact .inr (.inl ⟨htaken, rfl⟩)
  obtain ⟨hwritable, w, hw, rfl, rfl⟩ := Transaction.change_ok.mp hc
  obtain ⟨-, rfl⟩ := Tables.createConversation_ok.mp hw
  refine .inr (.inr ?_)
  have hthere : ((d.tables.conversations.add (d.tables.conversationRow (some key) now)).rows.any
      (·.id == (d.tables.conversationRow (some key) now).id)) = true := by simp
  rcases Attempt.bind_error.mp h with h | ⟨first, d₂, hfirst, h⟩
  · obtain ⟨e', he, rfl⟩ := Attempt.adapt_error.mp h
    cases (change_refused Change.addParticipant_is he hwritable).2 with
    | participant hmember =>
      exact absurd (Tables.isParticipant_iff_members.mp hmember) (hfree a)
    | reference hmissing => exact ⟨.inl (Bool.and_eq_false_imp.mp hmissing hthere), rfl⟩
  obtain ⟨-, w, hw, rfl, rfl⟩ := Transaction.change_ok.mp (Attempt.adapt_ok.mp hfirst)
  obtain ⟨-, -, -, rfl⟩ := Tables.addParticipant_ok.mp hw
  rcases Attempt.bind_error.mp h with h | ⟨second, d₃, -, h⟩
  · obtain ⟨e', he, rfl⟩ := Attempt.adapt_error.mp h
    cases (change_refused Change.addParticipant_is he hwritable).2 with
    | participant hmember =>
      obtain ⟨p, hp, hid, huser⟩ := Tables.isParticipant_iff.mp hmember
      rcases List.mem_append.mp hp with hp | hp
      · exact absurd (List.mem_map.mpr ⟨p, hp, Prod.ext hid huser⟩) (hfree b)
      · obtain rfl := List.mem_singleton.mp hp
        exact absurd huser hab
    | reference hmissing => exact ⟨.inr (Bool.and_eq_false_imp.mp hmissing hthere), rfl⟩
  · cases h

theorem openDirect_error (ht : d.tables.Integrity) (h : openDirect now pair d = .error e d') :
    (∀ c, ¬ d.tables.IsDirect pair c) ∧ ((d.writable = false ∧ e = .conflict .locked) ∨
      ((∃ c ∈ d.tables.conversations.rows, c.directKey = some pair.key) ∧
        e = .notUnique .directKey) ∨
      ((d.tables.hasUser pair.low = false ∨ d.tables.hasUser pair.high = false) ∧
        e = .notFound .user)) := by
  rw [openDirect_apply] at h
  split at h
  · next id hid =>
    obtain ⟨hdirect, -⟩ := Tables.findDirect_ok.mp hid
    obtain ⟨row, hrow⟩ := hdirect.conversation ht
    rcases Attempt.bind_error.mp h with h | ⟨c, d₁, -, h⟩
    · cases hrow.symm.trans (Transaction.query_error.mp h).1
    · cases h
  · next hnone =>
    have hne : pair.low ≠ pair.high := Int.ne_of_lt pair.low_lt_high
    rcases Attempt.bind_error.mp h with h | ⟨n, d₁, -, h⟩
    · exact ⟨(Tables.findDirect_error.mp hnone).1, insertConversation_error ht hne h⟩
    · cases h
  · next e' hnot hnone =>
    obtain ⟨-, rfl⟩ := Tables.findDirect_error.mp hnone
    exact absurd rfl (hnot _)

/-- An attempt to open a direct conversation clashes only if the pair's is hidden. -/
theorem openDirect_clash (ht : d.tables.Integrity)
    (h : openDirect now pair d = .error (.notUnique columns) d') : d.tables.Hidden pair := by
  obtain ⟨habsent, ⟨-, heq⟩ | ⟨htaken, -⟩ | ⟨-, heq⟩⟩ := openDirect_error ht h
  · cases heq
  · exact ⟨htaken, habsent⟩
  · cases heq

theorem createConversation_taken {t : Tables}
    (h : ∃ c ∈ t.conversations.rows, c.directKey = some key) :
    t.createConversation (some key) now = .error (.notUnique .directKey) := by
  obtain ⟨c, hc, hkey⟩ := h
  cases hrun : t.createConversation (some key) now with
  | ok w =>
    obtain ⟨hfree, -⟩ := Tables.createConversation_ok.mp hrun
    exact absurd hkey (hfree key rfl c hc)
  | error e =>
    cases Change.createConversation_is.fails t e hrun
    rfl

theorem refetchDirect_hidden (hopen : db.isOpen = true) (h : db.committed.Hidden pair) :
    db.refetchDirect pair = .error (.conflict (.conversationHidden pair.key)) db := by
  simp only [refetchDirect, query, hopen, h.findDirect, if_true]

/-- A hidden conversation is not found, and no other can take its place. -/
theorem getOrCreateDirect_hidden (hopen : db.isOpen = true) (hlock : db.isLocked = false)
    (hpair : Pair.of a b = .ok pair) (h : db.committed.Hidden pair) :
    db.getOrCreateDirect now a b = .error (.conflict (.conversationHidden pair.key)) db := by
  have hinsert : insertConversation now (some pair.key) pair.low pair.high (.begin db) =
      .error (.notUnique .directKey) (.begin db) := by
    refine Attempt.bind_error.mpr (.inl (Transaction.change_error.mpr ⟨.inr ⟨?_, ?_⟩, rfl⟩))
    · simp [Draft.writable, Draft.begin, hlock]
    · exact createConversation_taken h.taken
  have hclash : db.transact (openDirect now pair) = .error (.notUnique .directKey) db := by
    refine transact_error.mpr (.inr ⟨hopen, .begin db, ?_, rfl⟩)
    rw [openDirect_apply, show (Draft.begin db).tables.findDirect pair = _ from h.findDirect]
    exact Attempt.bind_error.mpr (.inl hinsert)
  simp only [getOrCreateDirect, hpair, hclash]
  exact refetchDirect_hidden hopen h

theorem refetchDirect_fails : FailsLeaving db (fun e => db.Refuses e ∨
    e = .conflict (.conversationHidden pair.key)) (db.refetchDirect pair) := by
  unfold refetchDirect
  split
  · refine map_fails ((read_fails (.found fun _ => ?_)).mono fun _ => .inl) _
    exact .notFound
  · exact .error ⟨.inr rfl, rfl⟩
  · next e hnot he =>
    refine .error ⟨.inl (query_fails (.found fun _ => ?_) e he), rfl⟩
    exact .notFound

theorem getOrCreateDirect_fails : FailsLeaving db (fun e => db.Refuses e ∨ ∃ pair,
    Pair.of a b = .ok pair ∧ (db.committed.Integrity → db.committed.Hidden pair) ∧
      e = .conflict (.conversationHidden pair.key)) (db.getOrCreateDirect now a b) := by
  unfold getOrCreateDirect
  split
  · next e he => exact .error ⟨.inl (.caller (Pair.of_fails e he)), rfl⟩
  next pair hpair =>
    split
    · next columns db' h =>
      obtain rfl := transact_restores (openDirect_frames now pair) h
      obtain ⟨-, d, hd⟩ := transact_clash h
      refine refetchDirect_fails.mono fun e he => ?_
      exact he.imp_right fun he => ⟨pair, hpair, fun ht => openDirect_clash ht hd, he⟩
    · exact (transact_fails openDirect_plain).mono fun _ => .inl

end Database

def Operation.pair? : Operation → Option Pair
  | getOrCreateDirect a b => (Pair.of a b).toOption
  | _ => none

theorem Operation.fails (op : Operation) (db : Database) (now : Instant) :
    FailsLeaving db (fun e => db.Refuses e ∨ ∃ pair, op.pair? = some pair ∧
      (db.committed.Integrity → db.committed.Hidden pair) ∧
      e = .conflict (.conversationHidden pair.key)) (op.run db now) := by
  cases op with
  | createAccount => exact Database.map_fails (Database.createAccount_fails.mono fun _ => .inl) _
  | createConversation =>
    exact Database.map_fails (Database.createConversation_fails.mono fun _ => .inl) _
  | getOrCreateDirect a b =>
    refine Database.map_fails (Database.getOrCreateDirect_fails.mono fun e he => ?_) _
    exact he.imp_right fun ⟨pair, hpair, hhidden⟩ => ⟨pair, toOption_some.mpr hpair, hhidden⟩
  | sendMessage => exact Database.map_fails (Database.sendMessage_fails.mono fun _ => .inl) _
  | markAsRead => exact Database.map_fails (Database.markAsRead_fails.mono fun _ => .inl) _
  | unreadCount => exact Database.map_fails (Database.unreadCount_fails.mono fun _ => .inl) _

/-- An operation that is refused leaves the database as it was. -/
theorem Operation.restores {op : Operation} (h : op.run db now = .error e db') : db' = db :=
  (op.fails db now e db' h).2

/-- With nobody beside it, an operation is asked to try again exactly if what it looks for is
hidden. -/
theorem Operation.retryable_iff {db : Database} (ht : db.committed.Integrity)
    (hopen : db.isOpen = true) (hlock : db.isLocked = false) (op : Operation) (now : Instant) :
    (∃ e, op.run db now = .error e db ∧ e.isRetryable = true) ↔
      ∃ pair, op.pair? = some pair ∧ db.committed.Hidden pair := by
  constructor
  · rintro ⟨e, he, hretry⟩
    obtain ⟨he | ⟨pair, hpair, hhidden, -⟩, -⟩ := op.fails db now e db he
    · cases he with
      | caller he =>
        rw [he.isRetryable] at hretry
        cases hretry
      | closed hclosed => cases hretry
      | locked hl => simp [hlock] at hl
    · exact ⟨pair, hpair, hhidden ht⟩
  · rintro ⟨pair, hpair, hhidden⟩
    cases op with
    | getOrCreateDirect a b =>
      refine ⟨.conflict (.conversationHidden pair.key), ?_, rfl⟩
      rw [run, Database.getOrCreateDirect_hidden hopen hlock (toOption_some.mp hpair) hhidden]
      rfl
    | createAccount | createConversation | sendMessage | markAsRead | unreadCount => cases hpair

end Parley
