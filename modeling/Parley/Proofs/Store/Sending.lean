import Parley.Proofs.Store.MessageOrder
import Parley.Proofs.Store.Refusals

/-!
# What is answered to a message

`Tables.sending` decides what is answered to a message that is sent, from the tables alone. The store
comes to the same answer with a transaction, one statement after the other
(`Database.sendMessage_sending`): its first statement can only miss the conversation, its second can
only be refused for the key or, the conversation being there, for the sender, and the others cannot be
refused.
-/

namespace Parley

namespace Tables

variable {t : Tables}

/-- What is answered to a message that is sent at the time `now`: the first of these that is so. The
message is stamped with the time, but never before the last activity of its conversation. -/
def sending (t : Tables) (now : Instant) (m : NewMessage) : Except StoreError SendOutcome :=
  if Text.allBlank m.key then .error (.invalid .blankKey)
  else if m.content = "" then .error (.invalid .emptyContent)
  else
    match t.conversations.rows.find? (·.id == m.conversationId),
        t.messages.rows.find? (·.key == m.key) with
    | none, _ => .error (.notFound .conversation)
    | some _, some existing => .ok (.duplicate existing)
    | some c, none =>
      if t.users.rows.any (·.id == m.senderId) then
        let sentAt : Stamp := .of (max now c.updatedAt.instant)
        let message : Message :=
          { id := t.messages.nextId, conversationId := m.conversationId, senderId := m.senderId
            content := m.content, key := m.key, sentAt }
        .ok (.sent message (c.activeAt sentAt))
      else .error (.notFound .sender)

theorem messageByKey_of_mem (h : t.Integrity) (hm : m ∈ t.messages.rows) :
    t.messageByKey m.key = .ok m :=
  found_ok.mpr (find?_of_nodup h.messageKeys hm)

theorem createMessage_taken (hm : m ∈ t.messages.rows) (hkey : new.key = m.key) :
    t.createMessage new sentAt = .error (.notUnique .messageKey) := by
  have htaken : (t.messages.rows.all (·.key != new.key)) = false :=
    List.all_eq_false.mpr ⟨m, hm, by simp [hkey]⟩
  simp [createMessage, require, htaken, bind, Except.bind]

theorem createMessage_free (hkey : ∀ r ∈ t.messages.rows, r.key ≠ m.key)
    (h : t.createMessage m sentAt = .error e) :
    (t.hasConversation m.conversationId && t.hasUser m.senderId) = false ∧ e = .foreignKey := by
  cases Change.createMessage_is.fails t e h with
  | messageKey htaken =>
    obtain ⟨r, hr, heq⟩ := htaken
    exact absurd heq (hkey r hr)
  | messageOf horphan => exact ⟨horphan, rfl⟩

-- ---------------------------------------------------------------------------
-- The cases
-- ---------------------------------------------------------------------------

section
variable {m : NewMessage} (hblank : Text.allBlank m.key = false) (hcontent : m.content ≠ "")
include hblank hcontent

theorem sending_missing (hc : t.hasConversation m.conversationId = false) :
    t.sending now m = .error (.notFound .conversation) := by
  have hnone : t.conversations.rows.find? (·.id == m.conversationId) = none := by
    simpa [hasConversation] using hc
  rw [sending, if_neg (Bool.eq_false_iff.mp hblank), if_neg hcontent, hnone]

theorem sending_taken (ht : t.Integrity) (hrow : t.conversationById m.conversationId = .ok row)
    (hr : r ∈ t.messages.rows) (hkey : m.key = r.key) : t.sending now m = .ok (.duplicate r) := by
  have htaken := found_ok.mp (messageByKey_of_mem ht hr)
  rw [sending, if_neg (Bool.eq_false_iff.mp hblank), if_neg hcontent, found_ok.mp hrow, hkey, htaken]

variable (hfree : ∀ r ∈ t.messages.rows, r.key ≠ m.key)
include hfree

theorem sending_orphan (hrow : t.conversationById m.conversationId = .ok row)
    (huser : t.hasUser m.senderId = false) : t.sending now m = .error (.notFound .sender) := by
  have hnone : t.messages.rows.find? (·.key == m.key) = none := by simpa using hfree
  rw [sending, if_neg (Bool.eq_false_iff.mp hblank), if_neg hcontent, found_ok.mp hrow, hnone]
  exact if_neg (Bool.eq_false_iff.mp huser)

theorem sending_fresh (hrow : t.conversationById m.conversationId = .ok row)
    (huser : t.hasUser m.senderId = true) : t.sending now m =
      .ok (.sent (t.messageRow m (max now row.updatedAt.instant))
        (row.activeAt (.of (max now row.updatedAt.instant)))) := by
  have hnone : t.messages.rows.find? (·.key == m.key) = none := by simpa using hfree
  rw [sending, if_neg (Bool.eq_false_iff.mp hblank), if_neg hcontent, found_ok.mp hrow, hnone]
  exact if_pos huser

end

-- ---------------------------------------------------------------------------
-- The conversation of a new message
-- ---------------------------------------------------------------------------

theorem Integrity.conversation_withMessage (h : t.Integrity)
    (hrow : t.conversationById new.conversationId = .ok row)
    (hc : (t.withMessage new time).conversationById new.conversationId = .ok c) :
    c = row.activeAt (.of time) := by
  obtain ⟨hc, hid⟩ := conversationById_ok hc
  obtain ⟨hrow, hrowid⟩ := conversationById_ok hrow
  rcases mem_touch hc with ⟨-, hother⟩ | ⟨row', hrow', hid', rfl⟩
  · exact absurd hid hother
  · rw [h.conversationIds.ascending.eq_of_id hrow' hrow (hid'.trans hrowid.symm)]

end Tables

-- ---------------------------------------------------------------------------
-- The transaction
-- ---------------------------------------------------------------------------

namespace Database

variable {db : Database}

theorem existingMessage_of_mem (hopen : db.isOpen = true) (ht : db.committed.Integrity)
    (hm : m ∈ db.committed.messages.rows) :
    db.existingMessage m.key = .ok (.duplicate m) db := by
  have hquery : db.query (·.messageByKey m.key) = .ok m :=
    query_ok.mpr ⟨hopen, Tables.messageByKey_of_mem ht hm⟩
  rw [existingMessage, hquery]

theorem sendMessage_sending (hopen : db.isOpen = true) (hlock : db.isLocked = false)
    (ht : db.committed.Integrity) (now : Instant) (m : NewMessage) :
    withoutState (db.sendMessage now m) = db.committed.sending now m := by
  by_cases hblank : Text.allBlank m.key = true
  · rw [sendMessage, Tables.sending, if_pos hblank, if_pos hblank]
    rfl
  rw [sendMessage, if_neg hblank]
  by_cases hempty : m.content = ""
  · rw [Tables.sending, if_neg hblank, if_pos hempty, if_pos (by simp [hempty])]
    rfl
  have hblank : Text.allBlank m.key = false := Bool.eq_false_iff.mpr hblank
  rw [if_neg (by simp [hempty])]
  cases htransact : db.transact (deliver now m) with
  | ok r db' =>
    obtain ⟨-, d, hd, -⟩ := transact_ok.mp htransact
    obtain ⟨-, row, hrow, hfree, huser, c, hc, hs, -⟩ := deliver_ok hd
    rw [Tables.sending_fresh (t := db.committed) hblank hempty hfree hrow huser,
      ← ht.conversation_withMessage hrow hc]
    exact congrArg Except.ok hs
  | error e db' =>
    have hdb := transact_restores (deliver_frames now m) htransact
    subst db'
    obtain ⟨d, hd⟩ := transact_refused hopen htransact
    rcases deliver_error hd with ⟨hlocked, -⟩ | ⟨hnone, rfl⟩ | ⟨hthere, sentAt, e, he, rfl⟩
    · simp [Draft.writable, Draft.begin, hlock] at hlocked
    · rw [Tables.sending_missing (t := db.committed) hblank hempty hnone]
      rfl
    have hthere : db.committed.hasConversation m.conversationId = true := hthere
    obtain ⟨row, hrow⟩ := Tables.conversationById_of_has hthere
    -- The conversation is there, so a reference that fails can only be the sender's.
    by_cases hkey : ∃ r ∈ db.committed.messages.rows, m.key = r.key
    · obtain ⟨r, hr, hkey⟩ := hkey
      cases (Tables.createMessage_taken hr hkey).symm.trans he
      rw [Tables.sending_taken hblank hempty ht hrow hr hkey, hkey]
      exact congrArg withoutState (existingMessage_of_mem hopen ht hr)
    · have hfree : ∀ r ∈ db.committed.messages.rows, r.key ≠ m.key :=
        fun r hr heq => hkey ⟨r, hr, heq.symm⟩
      obtain ⟨horphan, rfl⟩ := Tables.createMessage_free hfree he
      have hunknown : db.committed.hasUser m.senderId = false := by simpa [hthere] using horphan
      rw [Tables.sending_orphan hblank hempty hfree hrow hunknown]
      rfl

theorem sendMessage_taken (hopen : db.isOpen = true) (hlock : db.isLocked = false)
    (hwhole : db.committed.Integrity) (hm : m ∈ db.committed.messages.rows)
    (hc : db.committed.hasConversation new.conversationId = true) (hkey : new.key = m.key)
    (hblank : Text.allBlank new.key = false) (hcontent : new.content.isEmpty = false) :
    db.sendMessage now new = .ok (.duplicate m) db := by
  obtain ⟨row, hrow⟩ := Tables.conversationById_of_has hc
  have hcontent : new.content ≠ "" := by simpa using hcontent
  have hanswer := sendMessage_sending hopen hlock hwhole now new
  rw [Tables.sending_taken hblank hcontent hwhole hrow hm hkey] at hanswer
  obtain ⟨db', hsend⟩ := withoutState_ok.mp hanswer
  rcases sendMessage_cases hsend with ⟨_, -, -, ⟨_, heq⟩, -⟩ | ⟨_, -, -, rfl⟩
  · cases heq
  · exact hsend

theorem sendMessage_fresh (hopen : db.isOpen = true) (hlock : db.isLocked = false)
    (hwhole : db.committed.Integrity) (now : Instant) (new : NewMessage)
    (hkey : ∀ m ∈ db.committed.messages.rows, m.key ≠ new.key)
    (hc : db.committed.hasConversation new.conversationId = true)
    (hu : db.committed.hasUser new.senderId = true) (hblank : Text.allBlank new.key = false)
    (hcontent : new.content.isEmpty = false) : ∃ sentAt row, db.sendMessage now new =
      .ok (.sent (db.committed.messageRow new sentAt) row)
        (db.publish (db.committed.withMessage new sentAt) true) := by
  obtain ⟨row, hrow⟩ := Tables.conversationById_of_has hc
  have hanswer := sendMessage_sending hopen hlock hwhole now new
  rw [Tables.sending_fresh hblank (by simpa using hcontent) hkey hrow hu] at hanswer
  obtain ⟨db', hsend⟩ := withoutState_ok.mp hanswer
  rcases sendMessage_cases hsend with ⟨row', -, -, ⟨_, heq⟩, rfl⟩ | ⟨_, -, heq, -⟩
  · rw [heq] at hsend
    exact ⟨_, _, hsend⟩
  · cases heq

end Database
end Parley
