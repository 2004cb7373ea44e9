import Parley.Proofs.Store.Operation
import Parley.Proofs.Store.Reach

/-!
# Messages in the order of time

`Tables.Ordered`: the messages of a conversation stand in the order of their times, all of them
between the making of the conversation and its last activity. Sending keeps it because a message is
never stamped before the last activity; moving the last activity keeps it because it only moves
forward. Stamps are compared as text, which is the order of time in four-digit years.
-/

namespace Parley

def Change.time? : Change → Option Instant
  | .createUser _ time | .createSession _ _ time | .createConversation _ time
  | .addParticipant _ _ time | .touchConversation _ time | .createMessage _ time
  | .updateLastRead _ _ time => some time
  | .deleteSessions _ | .lockConversation _ => none

def Change.Dated (c : Change) : Prop := ∀ time, c.time? = some time → time.FourDigitYear

def Change.isMessage : Change → Bool
  | .createMessage .. => true
  | _ => false

namespace Tables

structure Ordered (t : Tables) : Prop where
  conversationYears : ∀ c ∈ t.conversations.rows,
    c.createdAt.FourDigitYear ∧ c.updatedAt.FourDigitYear
  messageYears : ∀ m ∈ t.messages.rows, m.sentAt.FourDigitYear
  active : ∀ c ∈ t.conversations.rows, c.createdAt ≤ c.updatedAt
  between : ∀ m ∈ t.messages.rows, ∀ c ∈ t.conversations.rows, c.id = m.conversationId →
    c.createdAt ≤ m.sentAt ∧ m.sentAt ≤ c.updatedAt
  inOrder : t.messages.rows.Pairwise fun m m' =>
    m.conversationId = m'.conversationId → m.sentAt ≤ m'.sentAt

theorem mem_touch {t : Tables} {row' : Conversation}
    (h : row' ∈ (t.touch c time).conversations.rows) :
    (row' ∈ t.conversations.rows ∧ row'.id ≠ c) ∨
      ∃ row ∈ t.conversations.rows, row.id = c ∧ row' = row.activeAt (.of time) := by
  obtain ⟨row, hrow, rfl⟩ := Table.mem_update h
  by_cases hid : row.id = c
  · exact .inr ⟨row, hrow, hid, if_pos (by simpa using hid)⟩
  · rw [if_neg (by simpa using hid)]
    exact .inl ⟨hrow, hid⟩

theorem ordered_empty : Tables.empty.Ordered := by
  constructor <;> simp [Tables.empty, Table.empty]

namespace Ordered

variable {t t' : Tables}

theorem congr (h : t.Ordered) (hc : t'.conversations.rows = t.conversations.rows)
    (hm : t'.messages.rows = t.messages.rows) : t'.Ordered where
  conversationYears := hc ▸ h.conversationYears
  messageYears := hm ▸ h.messageYears
  active := hc ▸ h.active
  between := by rw [hc, hm]; exact h.between
  inOrder := hm ▸ h.inOrder

theorem createConversation (h : t.Ordered) (ht : t.Integrity) (hnow : now.FourDigitYear) :
    Ordered { t with conversations := t.conversations.add (t.conversationRow key now) } where
  conversationYears := by
    intro c hc
    rw [Table.rows_add, List.mem_append, List.mem_singleton] at hc
    rcases hc with hc | rfl
    · exact h.conversationYears c hc
    · exact ⟨Stamp.fourDigitYear_of.mpr hnow, Stamp.fourDigitYear_of.mpr hnow⟩
  messageYears := h.messageYears
  active := by
    intro c hc
    rw [Table.rows_add, List.mem_append, List.mem_singleton] at hc
    rcases hc with hc | rfl
    · exact h.active c hc
    · exact le_refl _
  between := by
    intro m hm c hc hid
    rw [Table.rows_add, List.mem_append, List.mem_singleton] at hc
    rcases hc with hc | rfl
    · exact h.between m hm c hc hid
    · -- No message is in a conversation that was not there.
      obtain ⟨c, hc, heq⟩ := ht.messageIn m hm
      have : c.id < t.conversations.nextId := ht.conversationIds.ascending.2 c hc
      have : t.conversations.nextId = m.conversationId := hid
      omega
  inOrder := h.inOrder

theorem touch (h : t.Ordered) (htime : time.FourDigitYear) (c : Int) : (t.touch c time).Ordered where
  conversationYears := by
    intro row' hrow'
    rcases mem_touch hrow' with ⟨hrow, -⟩ | ⟨row, hrow, -, rfl⟩
    · exact h.conversationYears row' hrow
    · obtain ⟨hcreated, hupdated⟩ := h.conversationYears row hrow
      rw [Conversation.createdAt_activeAt, Conversation.updatedAt_activeAt]
      exact ⟨hcreated, hupdated.max (Stamp.fourDigitYear_of.mpr htime)⟩
  messageYears := h.messageYears
  active := by
    intro row' hrow'
    rcases mem_touch hrow' with ⟨hrow, -⟩ | ⟨row, hrow, -, rfl⟩
    · exact h.active row' hrow
    · rw [Conversation.createdAt_activeAt, Conversation.updatedAt_activeAt]
      exact le_max_of_le_left (h.active row hrow)
  between := by
    intro m hm row' hrow' hid
    rcases mem_touch hrow' with ⟨hrow, -⟩ | ⟨row, hrow, -, rfl⟩
    · exact h.between m hm row' hrow hid
    · rw [Conversation.id_activeAt] at hid
      obtain ⟨hcreated, hupdated⟩ := h.between m hm row hrow hid
      rw [Conversation.createdAt_activeAt, Conversation.updatedAt_activeAt]
      exact ⟨hcreated, le_max_of_le_left hupdated⟩
  inOrder := h.inOrder

theorem change (h : t.Ordered) (ht : t.Integrity) {c : Change} (hdated : c.Dated)
    (hmessage : c.isMessage = false) (hc : c.Leads t t') : t'.Ordered := by
  cases hc with
  | createUser | createSession | deleteSessions | addParticipant | updateLastRead =>
    exact h.congr rfl rfl
  | createConversation => exact h.createConversation ht (hdated _ rfl)
  | touchConversation => exact h.touch (hdated _ rfl) _
  | lockConversation => exact h
  | createMessage => cases hmessage

theorem updatedAt_le_sentAt (h : t.Ordered) (hrow : row ∈ t.conversations.rows)
    (hnow : now.FourDigitYear) :
    (max now row.updatedAt.instant).FourDigitYear ∧
      row.updatedAt ≤ .of (max now row.updatedAt.instant) := by
  have hupdated := (h.conversationYears row hrow).2
  exact ⟨hnow.max hupdated, Stamp.le_of_max hnow hupdated⟩

theorem withMessage (h : t.Ordered) (ht : t.Integrity)
    (hfound : t.conversationById m.conversationId = .ok row) (hnow : now.FourDigitYear) :
    (t.withMessage m (max now row.updatedAt.instant)).Ordered := by
  obtain ⟨hrow, hid⟩ := conversationById_ok hfound
  obtain ⟨hyear, hlate⟩ := h.updatedAt_le_sentAt hrow hnow
  -- Of the stamp, only that it is not before the last activity is used from here on.
  generalize max now row.updatedAt.instant = time at hyear hlate
  have htouch := h.touch hyear m.conversationId
  have hmem {m' : Message} (hm' : m' ∈ (t.withMessage m time).messages.rows) :
      m' ∈ t.messages.rows ∨ m' = t.messageRow m time := by
    simpa [Tables.withMessage, Tables.touch] using hm'
  exact {
    conversationYears := htouch.conversationYears
    active := htouch.active
    messageYears := fun m' hm' => by
      rcases hmem hm' with hm' | rfl
      · exact h.messageYears m' hm'
      · exact Stamp.fourDigitYear_of.mpr hyear
    between := fun m' hm' c' hc' hin => by
      rcases hmem hm' with hm' | rfl
      · exact htouch.between m' hm' c' hc' hin
      · rcases mem_touch hc' with ⟨-, hother⟩ | ⟨c, hc, hsame, rfl⟩
        · exact absurd hin hother
        · obtain rfl := ht.conversationIds.ascending.eq_of_id hrow hc (hid.trans hsame.symm)
          rw [Conversation.createdAt_activeAt, Conversation.updatedAt_activeAt]
          exact ⟨(h.active row hrow).trans hlate, le_max_right row.updatedAt (.of time)⟩
    inOrder := by
      show (t.messages.rows ++ [t.messageRow m time]).Pairwise _
      rw [List.pairwise_append]
      refine ⟨h.inOrder, List.pairwise_singleton _ _, fun m' hm' m'' hm'' hsame => ?_⟩
      obtain rfl := List.mem_singleton.mp hm''
      exact (h.between m' hm' row hrow (hid.trans hsame.symm)).2.trans hlate }

end Ordered
end Tables
end Parley
