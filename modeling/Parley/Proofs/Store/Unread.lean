import Parley.Proofs.Store.Members
import Parley.Proofs.Store.MessageOrder

/-!
# Unread messages

What a participant has yet to read, as counted for one conversation and as an inbox line shows it.
Marking a conversation as read leaves the messages that are later than the marker it leaves
(`countUnread_markRead`), and a message that is sent is one more for every other participant whose
marker it is later than (`countUnread_withMessage`).
-/

namespace Parley.Tables

variable {t : Tables} {c u : Int}

-- ---------------------------------------------------------------------------
-- Counts
-- ---------------------------------------------------------------------------

theorem Integrity.participant_unique (ht : t.Integrity) (hp : p ∈ t.participants.rows)
    (hq : q ∈ t.participants.rows) (hc : p.conversationId = q.conversationId)
    (hu : p.userId = q.userId) : p = q :=
  List.inj_on_of_nodup_map ht.members hp hq (by rw [hc, hu])

/-- The count of unread messages goes over the messages alone. -/
theorem countUnread_eq (ht : t.Integrity) (hme : me ∈ t.participants.rows) :
    t.countUnread me.conversationId me.userId = t.messages.rows.countP fun m =>
      m.conversationId == me.conversationId && isUnread m me.userId me.lastReadAt := by
  have hone (m : Message) : (t.participants.rows.filter fun p =>
      p.conversationId == m.conversationId && p.userId == me.userId &&
        m.conversationId == me.conversationId && isUnread m me.userId p.lastReadAt).length =
      if m.conversationId == me.conversationId && isUnread m me.userId me.lastReadAt then 1
      else 0 := by
    have hnodup : t.participants.rows.Nodup := .of_map _ ht.members
    rw [← List.countP_eq_length_filter]
    split
    · rename_i hunread
      simp only [Bool.and_eq_true, beq_iff_eq] at hunread
      rw [← List.count_eq_one_of_mem hnodup hme, List.count_eq_countP]
      refine List.countP_congr fun p hp => ?_
      simp only [Bool.and_eq_true, beq_iff_eq]
      constructor
      · rintro ⟨⟨⟨hc, hu⟩, -⟩, -⟩
        exact ht.participant_unique hp hme (hc.trans hunread.1) hu
      · rintro rfl
        exact ⟨⟨⟨hunread.1.symm, rfl⟩, hunread.1⟩, hunread.2⟩
    · rename_i hread
      refine List.countP_eq_zero.mpr fun p hp hunread => hread ?_
      simp only [Bool.and_eq_true, beq_iff_eq] at hunread ⊢
      obtain ⟨⟨⟨hc, hu⟩, hc'⟩, hunread⟩ := hunread
      obtain rfl := ht.participant_unique hp hme (hc.trans hc') hu
      exact ⟨hc', hunread⟩
  rw [countUnread]
  induction t.messages.rows with
  | nil => rfl
  | cons m rest ih => rw [List.flatMap_cons, List.length_append, ih, hone, List.countP_cons, add_comm]

theorem countUnread_of_not_member (h : t.isParticipant c u = false) : t.countUnread c u = 0 := by
  rw [countUnread, List.length_eq_zero_iff, List.flatMap_eq_nil_iff]
  intro m _
  rw [List.filter_eq_nil_iff]
  intro p hp hunread
  simp only [Bool.and_eq_true, beq_iff_eq] at hunread
  obtain ⟨⟨⟨hc, hu⟩, hin⟩, -⟩ := hunread
  rw [Bool.eq_false_iff] at h
  exact h (isParticipant_iff.mpr ⟨p, hp, hc.trans hin, hu⟩)

-- ---------------------------------------------------------------------------
-- Marking as read
-- ---------------------------------------------------------------------------

theorem laterMarker_lt {marker : Option Stamp} {time sentAt : Stamp} :
    laterMarker marker time < sentAt ↔ time < sentAt ∧ marker.all (· < sentAt) = true := by
  cases marker with
  | none => simp [laterMarker]
  | some last => simp [laterMarker, and_comm]

/-- After marking, those messages of others are unread that are later than the time of marking, and
later than the marker before it. -/
theorem countUnread_markRead (ht : t.Integrity) (hme : me ∈ t.participants.rows) :
    (t.markRead me.conversationId me.userId time).countUnread me.conversationId me.userId =
      t.messages.rows.countP fun m => m.conversationId == me.conversationId &&
        decide (.of time < m.sentAt) && isUnread m me.userId me.lastReadAt := by
  have hmarked : me.readAt (.of time) ∈
      (t.markRead me.conversationId me.userId time).participants.rows := by
    refine List.mem_map.mpr ⟨me, hme, ?_⟩
    simp
  have hcount := countUnread_eq (ht.markRead me.conversationId me.userId time) hmarked
  rw [Participant.conversationId_readAt, Participant.userId_readAt] at hcount
  rw [hcount]
  refine List.countP_congr fun m _ => ?_
  simp only [isUnread, Participant.lastReadAt_readAt, Option.all_some, Bool.and_eq_true,
    decide_eq_true_eq, laterMarker_lt]
  constructor
  · rintro ⟨hin, hother, hlate, hlater⟩
    exact ⟨⟨hin, hlate⟩, hother, hlater⟩
  · rintro ⟨⟨hin, hlate⟩, hother, hlater⟩
    exact ⟨hin, hother, hlate, hlater⟩

-- ---------------------------------------------------------------------------
-- Sending
-- ---------------------------------------------------------------------------

theorem countUnread_withMessage (ht : t.Integrity) (ht' : (t.withMessage m sentAt).Integrity)
    (hme : me ∈ t.participants.rows) :
    (t.withMessage m sentAt).countUnread me.conversationId me.userId =
      t.countUnread me.conversationId me.userId +
        if m.conversationId == me.conversationId &&
          isUnread (t.messageRow m sentAt) me.userId me.lastReadAt then 1 else 0 := by
  have hme' : me ∈ (t.withMessage m sentAt).participants.rows := hme
  rw [countUnread_eq ht hme, countUnread_eq ht' hme', show (t.withMessage m sentAt).messages.rows =
    t.messages.rows ++ [t.messageRow m sentAt] from rfl, List.countP_append, List.countP_singleton]
  rfl

-- ---------------------------------------------------------------------------
-- Inbox lines
-- ---------------------------------------------------------------------------

def entry (t : Tables) (me : Participant) (c : Conversation) (w : User) : InboxEntry where
  conversationId := c.id
  otherUserId := w.id
  otherUsername := w.username
  updatedAt := c.updatedAt
  unreadCount := t.messages.rows.countP fun m =>
    m.conversationId == c.id && isUnread m me.userId me.lastReadAt

theorem mem_inboxEntries {e : InboxEntry} : e ∈ t.inboxEntries u ↔
    ∃ me ∈ t.participants.rows, me.userId = u ∧
      ∃ c ∈ t.conversations.rows, c.id = me.conversationId ∧
      ∃ w ∈ t.users.rows, w.id ≠ u ∧ (c.id, w.id) ∈ t.members ∧ e = t.entry me c w := by
  simp only [inboxEntries, List.mem_flatMap, List.mem_filter, List.mem_map, Bool.and_eq_true,
    beq_iff_eq, bne_iff_ne, Tables.members, Prod.mk.injEq]
  constructor
  · rintro ⟨me, ⟨hme, rfl⟩, c, ⟨hc, hin⟩, other, ⟨hother, hwith, hne⟩, w, ⟨hw, hid⟩, rfl⟩
    exact ⟨me, hme, rfl, c, hc, hin, w, hw, hid ▸ hne, ⟨other, hother, hwith, hid.symm⟩,
      by simp [entry, hid]⟩
  · rintro ⟨me, hme, rfl, c, hc, hin, w, hw, hne, ⟨other, hother, hwith, hid⟩, rfl⟩
    exact ⟨me, ⟨hme, rfl⟩, c, ⟨hc, hin⟩, other, ⟨hother, hwith, hid ▸ hne⟩, w, ⟨hw, hid.symm⟩,
      by simp [entry, hid]⟩

theorem mem_of_mem_listInbox (h : e ∈ t.listInbox u page) : e ∈ t.inboxEntries u := by
  have hinbox : e ∈ t.inbox u := by
    unfold listInbox Page.cut at h
    split at h
    · exact List.mem_of_mem_drop h
    · exact List.mem_of_mem_drop (List.mem_of_mem_take h)
  exact (List.mergeSort_perm _ _).subset hinbox

theorem unreadCount_of_mem (ht : t.Integrity) (he : e ∈ t.inboxEntries u) :
    e.unreadCount = t.countUnread e.conversationId u := by
  obtain ⟨me, hme, rfl, c, -, hc, w, -, -, -, rfl⟩ := mem_inboxEntries.mp he
  show List.countP _ _ = t.countUnread c.id me.userId
  rw [hc, countUnread_eq ht hme]

end Parley.Tables
