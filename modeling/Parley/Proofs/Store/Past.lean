import Parley.Proofs.Store.MessageOrder

/-!
# Tables of the past

`Tables.Past t now`: no conversation of `t` has been active and no marker stands later than `now`.
Every change whose times are not later keeps it.
-/

namespace Parley

/-- No conversation has been active and no marker stands later than now. -/
structure Tables.Past (t : Tables) (now : Stamp) : Prop where
  active : ∀ c ∈ t.conversations.rows, c.updatedAt ≤ now
  markers : ∀ p ∈ t.participants.rows, ∀ last ∈ p.lastReadAt, last ≤ now

namespace Tables

variable {t t' : Tables} {now : Stamp}

theorem past_empty : Tables.empty.Past now := by
  constructor <;> simp [Tables.empty, Table.empty]

theorem laterMarker_le {marker : Option Stamp} {time : Stamp} :
    laterMarker marker time ≤ now ↔ time ≤ now ∧ ∀ last ∈ marker, last ≤ now := by
  cases marker with
  | none => simp [laterMarker]
  | some last => simp [laterMarker, and_comm]

namespace Past

theorem mono (h : t.Past now) {later : Stamp} (hle : now ≤ later) : t.Past later :=
  ⟨fun c hc => (h.active c hc).trans hle, fun p hp last hlast => (h.markers p hp last hlast).trans hle⟩

theorem touch (h : t.Past now) (htime : Stamp.of time ≤ now) (c : Int) : (t.touch c time).Past now where
  active := by
    intro row' hrow'
    rcases mem_touch hrow' with ⟨hrow, -⟩ | ⟨row, hrow, -, rfl⟩
    · exact h.active row' hrow
    · exact max_le (h.active row hrow) htime
  markers := h.markers

theorem change (h : t.Past now) {c : Change} (hc : c.Leads t t')
    (htime : ∀ time, c.time? = some time → Stamp.of time ≤ now) : t'.Past now := by
  cases hc with
  | createUser | createSession | deleteSessions | createMessage => exact ⟨h.active, h.markers⟩
  | createConversation =>
    refine ⟨fun c hc => ?_, h.markers⟩
    rw [Table.rows_add, List.mem_append, List.mem_singleton] at hc
    rcases hc with hc | rfl
    · exact h.active c hc
    · exact htime _ rfl
  | addParticipant =>
    refine ⟨h.active, fun p hp => ?_⟩
    rw [Table.rows_add, List.mem_append, List.mem_singleton] at hp
    rcases hp with hp | rfl
    · exact h.markers p hp
    · rintro _ ⟨⟩
  | touchConversation => exact h.touch (htime _ rfl) _
  | lockConversation => exact h
  | updateLastRead =>
    refine ⟨h.active, fun p hp last hlast => ?_⟩
    obtain ⟨p₀, hp₀, rfl⟩ := Table.mem_update hp
    split at hlast
    · rw [Participant.lastReadAt_readAt, Option.mem_some_iff] at hlast
      rw [← hlast, laterMarker_le]
      exact ⟨htime _ rfl, h.markers p₀ hp₀⟩
    · exact h.markers p₀ hp₀ last hlast

theorem withMessage (h : t.Past now) (htime : Stamp.of sentAt ≤ now) (m : NewMessage) :
    (t.withMessage m sentAt).Past now :=
  touch (t := { t with messages := t.messages.add (t.messageRow m sentAt) })
    ⟨h.active, h.markers⟩ htime _

theorem max_eq {now : Instant} (h : t.Past (.of now)) (ho : t.Ordered) (hnow : now.FourDigitYear)
    (hrow : row ∈ t.conversations.rows) : max now row.updatedAt.instant = now := by
  have hactive := h.active row hrow
  rw [← Stamp.of_instant row.updatedAt] at hactive
  exact max_eq_left ((Stamp.of_le_of (ho.conversationYears row hrow).2 hnow).mp hactive)

/-- A message of now is unread for the others, but not for those whose marker is of now too. -/
theorem isUnread (h : t.Past now) (hp : p ∈ t.participants.rows) (hm : m.sentAt = now) :
    Tables.isUnread m p.userId p.lastReadAt =
      (m.senderId != p.userId && p.lastReadAt != some now) := by
  rw [Tables.isUnread, hm]
  congr 1
  cases hlast : p.lastReadAt with
  | none => rfl
  | some last =>
    have hle := h.markers p hp last hlast
    rw [Bool.eq_iff_iff]
    simp only [Option.all_some, decide_eq_true_eq, bne_iff_ne, ne_eq, Option.some.injEq]
    exact ⟨ne_of_lt, hle.lt_of_ne⟩

end Past
end Tables

end Parley
