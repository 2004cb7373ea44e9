import Parley.Proofs.Store.Listing
import Parley.Proofs.Store.Operation

/-!
# What a user sees of the tables

`t.about c` is what the tables hold of the conversation `c`. Queries about one conversation are
answered from it, and the lines of an inbox that belong to `c` are too. `Tables.AgreeFor u t t'` says
that two states of the tables look the same to the user `u`: every query that is made for `u` then has
the same answer in both.
-/

namespace Parley

theorem flatMap_filter_of_nil {p : α → Bool} {f : α → List β} {l : List α}
    (h : ∀ a ∈ l, p a = false → f a = []) : (l.filter p).flatMap f = l.flatMap f := by
  induction l with
  | nil => rfl
  | cons a rest ih =>
    have hrest := ih fun b hb => h b (List.mem_cons_of_mem _ hb)
    cases hp : p a with
    | true => simp [hp, hrest]
    | false => simp [hp, hrest, h a List.mem_cons_self hp]

theorem Table.filter_update {t : Table ρ} {p q : ρ → Bool} {f : ρ → ρ}
    (hf : ∀ r, q (f r) = q r) (h : ∀ r, q r = true → p r = false) :
    (t.update p f).rows.filter q = t.rows.filter q := by
  have hq (r : ρ) : q (if p r then f r else r) = q r := by
    split
    · exact hf r
    · rfl
  simp only [update, List.filter_map, Function.comp_def, hq]
  refine (List.map_congr_left fun r hr => ?_).trans (List.map_id _)
  simp [h r (List.mem_filter.mp hr).2]

namespace Tables

variable {t t' : Tables}

-- ---------------------------------------------------------------------------
-- One conversation
-- ---------------------------------------------------------------------------

/-- The users and sessions, and what concerns one conversation. -/
def about (t : Tables) (c : Int) : Tables where
  users := ⟨t.users.rows, 0⟩
  sessions := ⟨t.sessions.rows, 0⟩
  conversations := ⟨t.conversations.rows.filter (·.id == c), 0⟩
  participants := ⟨t.participantsOf c, 0⟩
  messages := ⟨t.messages.rows.filter (·.conversationId == c), 0⟩

def linesFor (t : Tables) (me : Participant) : List InboxEntry :=
  (t.conversations.rows.filter (·.id == me.conversationId)).flatMap fun c =>
    (t.participants.rows.filter fun other =>
        other.conversationId == c.id && other.userId != me.userId).flatMap fun other =>
      (t.users.rows.filter (·.id == other.userId)).map fun w =>
        { conversationId := c.id
          otherUserId := other.userId
          otherUsername := w.username
          updatedAt := c.updatedAt
          unreadCount := t.messages.rows.countP fun m =>
            m.conversationId == c.id && isUnread m me.userId me.lastReadAt }

theorem inboxEntries_eq (t : Tables) (u : Int) :
    t.inboxEntries u = (t.participants.rows.filter (·.userId == u)).flatMap t.linesFor := rfl

theorem conversationId_of_mem_linesFor (h : e ∈ t.linesFor me) :
    e.conversationId = me.conversationId := by
  simp only [linesFor, List.mem_flatMap, List.mem_filter, List.mem_map, beq_iff_eq] at h
  obtain ⟨c, ⟨-, hc⟩, other, -, w, -, rfl⟩ := h
  exact hc

section
variable (t : Tables) (c u : Int)

theorem conversationById_about : (t.about c).conversationById c = t.conversationById c := by
  simp only [conversationById, about, List.find?_filter, and_self, Bool.decide_eq_true]

theorem listMessages_about (page : Page) :
    (t.about c).listMessages c page = t.listMessages c page := by
  simp only [listMessages, allMessages, about, List.filter_filter, Bool.and_self]

theorem countUnread_about : (t.about c).countUnread c u = t.countUnread c u := by
  simp only [countUnread, about]
  rw [flatMap_filter_of_nil]
  · refine congrArg List.length (List.flatMap_congr fun m _ => ?_)
    rw [participantsOf, List.filter_filter]
    refine List.filter_congr fun p _ => Bool.eq_iff_iff.mpr ?_
    simp only [Bool.and_eq_true, beq_iff_eq]
    constructor
    · exact And.left
    · intro h
      exact ⟨h, h.1.1.1.trans h.1.2⟩
  · intro m _ hm
    simp [hm]

theorem linesFor_about (me : Participant) :
    (t.about me.conversationId).linesFor me = t.linesFor me := by
  simp only [linesFor, about, List.filter_filter, Bool.and_self]
  refine List.flatMap_congr fun c hc => ?_
  have hid : c.id = me.conversationId := by simpa using (List.mem_filter.mp hc).2
  have hagain (a b : Bool) : (a && b && a) = (a && b) := by cases a <;> simp
  simp only [hid, participantsOf, List.filter_filter, List.countP_filter, hagain]

theorem filter_inboxEntries :
    (t.inboxEntries u).filter (·.conversationId == c) = (t.about c).inboxEntries u := by
  let mine := t.participants.rows.filter (·.userId == u)
  have hother : ∀ me ∈ mine, (me.conversationId == c) = false →
      (t.linesFor me).filter (·.conversationId == c) = [] := by
    intro me _ hme
    rw [List.filter_eq_nil_iff]
    intro e he
    rw [conversationId_of_mem_linesFor he, hme]
    exact Bool.false_ne_true
  have hthis : ∀ me ∈ mine.filter (·.conversationId == c),
      (t.linesFor me).filter (·.conversationId == c) = (t.about c).linesFor me := by
    intro me hme
    obtain rfl : me.conversationId = c := by simpa using (List.mem_filter.mp hme).2
    rw [linesFor_about, List.filter_eq_self]
    intro e he
    rw [conversationId_of_mem_linesFor he, beq_self_eq_true]
  have hmine : mine.filter (·.conversationId == c) =
      (t.about c).participants.rows.filter (·.userId == u) := List.filter_comm ..
  rw [inboxEntries_eq, List.filter_flatMap, ← flatMap_filter_of_nil hother, inboxEntries_eq, ← hmine]
  exact List.flatMap_congr hthis

end

theorem filter_inboxEntries_of_not_member (h : t.isParticipant c u = false) :
    (t.inboxEntries u).filter (·.conversationId == c) = [] := by
  have hnone : (t.about c).participants.rows.filter (·.userId == u) = [] := by
    rw [List.filter_eq_nil_iff]
    intro p hp hu
    obtain ⟨hp, hc⟩ := List.mem_filter.mp hp
    rw [Bool.eq_false_iff] at h
    exact h (isParticipant_iff.mpr ⟨p, hp, beq_iff_eq.mp hc, beq_iff_eq.mp hu⟩)
  rw [filter_inboxEntries, inboxEntries_eq, hnone, List.flatMap_nil]

-- ---------------------------------------------------------------------------
-- Two states
-- ---------------------------------------------------------------------------

structure AgreeFor (u : Int) (t t' : Tables) : Prop where
  users : t'.users.rows = t.users.rows
  sessions : t'.sessions.rows = t.sessions.rows
  ids : ∀ c, t'.hasConversation c = t.hasConversation c
  member : ∀ c, t'.isParticipant c u = t.isParticipant c u
  conversation : ∀ c, t.isParticipant c u = true →
    t'.conversations.rows.filter (·.id == c) = t.conversations.rows.filter (·.id == c)
  participants : ∀ c, t.isParticipant c u = true → t'.participantsOf c = t.participantsOf c
  messages : ∀ c, t.isParticipant c u = true →
    t'.messages.rows.filter (·.conversationId == c) = t.messages.rows.filter (·.conversationId == c)

namespace AgreeFor

theorem about (h : t.AgreeFor u t') (hc : t.isParticipant c u = true) : t'.about c = t.about c := by
  simp only [Tables.about, h.users, h.sessions, h.conversation c hc, h.participants c hc,
    h.messages c hc]

theorem userIdByToken (h : t.AgreeFor u t') (token : String) :
    t'.userIdByToken token = t.userIdByToken token := by
  rw [Tables.userIdByToken, h.sessions, Tables.userIdByToken]

theorem userById (h : t.AgreeFor u t') (id : Int) : t'.userById id = t.userById id := by
  rw [Tables.userById, h.users, Tables.userById]

theorem conversationById_error (h : t.AgreeFor u t') :
    t'.conversationById c = .error e ↔ t.conversationById c = .error e := by
  have hfound (t : Tables) : t.conversationById c = .error e ↔
      t.hasConversation c = false ∧ e = .notFound .conversation := by
    simp [Tables.conversationById, found_error, hasConversation]
  rw [hfound, hfound, h.ids]

theorem conversationById (h : t.AgreeFor u t') (hc : t.isParticipant c u = true) :
    t'.conversationById c = t.conversationById c := by
  rw [← conversationById_about, h.about hc, conversationById_about]

theorem listMessages (h : t.AgreeFor u t') (hc : t.isParticipant c u = true) (page : Page) :
    t'.listMessages c page = t.listMessages c page := by
  rw [← listMessages_about, h.about hc, listMessages_about]

theorem countUnread (h : t.AgreeFor u t') (hc : t.isParticipant c u = true) :
    t'.countUnread c u = t.countUnread c u := by
  rw [← countUnread_about, h.about hc, countUnread_about]

theorem listInbox (h : t.AgreeFor u t') (page : Page) : t'.listInbox u page = t.listInbox u page := by
  have hlines (c : Int) : (t'.inboxEntries u).filter (·.conversationId == c) =
      (t.inboxEntries u).filter (·.conversationId == c) := by
    cases hc : t.isParticipant c u with
    | true => rw [filter_inboxEntries, h.about hc, filter_inboxEntries]
    | false =>
      rw [filter_inboxEntries_of_not_member hc,
        filter_inboxEntries_of_not_member ((h.member c).trans hc)]
  have hinbox : t'.inbox u = t.inbox u :=
    mergeSort_congr mostRecentFirst_trans mostRecentFirst_total
      (fun a b hab hba => mostRecentFirst_conversation hab hba) hlines
  rw [Tables.listInbox, hinbox, Tables.listInbox]

end AgreeFor

/-- A message in a conversation that a user takes no part in does not show to the user. -/
theorem agreeFor_withMessage (h : t.isParticipant m.conversationId u = false) :
    t.AgreeFor u (t.withMessage m sentAt) := by
  have hother {c : Int} (hc : t.isParticipant c u = true) : m.conversationId ≠ c := by
    rintro rfl
    rw [hc] at h
    cases h
  refine ⟨rfl, rfl, fun c => ?_, fun _ => rfl, fun c hc => ?_, fun _ _ => rfl, fun c hc => ?_⟩
  · have hids := Table.map_update Conversation.id (t := t.conversations)
      (·.id == m.conversationId) _ (Conversation.id_activeAt (.of sentAt))
    have hany (rows : List Conversation) :
        rows.any (·.id == c) = (rows.map Conversation.id).any (· == c) := by
      simp [List.any_map, Function.comp_def]
    rw [hasConversation, hasConversation, hany, hany]
    exact congrArg (·.any (· == c)) hids
  · show (t.conversations.update (·.id == m.conversationId)
      (Conversation.activeAt (.of sentAt))).rows.filter (·.id == c) = _
    refine Table.filter_update (fun r => by rw [Conversation.id_activeAt]) fun r hr => ?_
    rw [beq_iff_eq.mp hr]
    exact beq_false_of_ne (hother hc).symm
  · have hne := hother hc
    simp [withMessage, touch, messageRow, hne]

end Tables
end Parley
