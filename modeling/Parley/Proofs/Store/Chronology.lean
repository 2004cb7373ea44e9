import Parley.Proofs.Store.Unread
import Parley.Proofs.Text.Order

/-!
# Times that tables compare

Tables compare times as texts, byte by byte. The texts of times in four-digit years have one length,
and their bytes are ordered as the times are. So where tables with such times take the later of two,
look for what is later or sort, they do so by time (`compared_by_time`).
-/

namespace Parley

open Http (bytesOf)
open Numeral (fixed)

-- ---------------------------------------------------------------------------
-- The bytes of a stored time
-- ---------------------------------------------------------------------------

theorem isAscii_fixed (width n : Nat) : IsAscii (fixed width n) := by
  intro c hc
  have hdigit := isDigit_of_mem_fixed hc
  simp only [Char.isDigit, Bool.and_eq_true, decide_eq_true_eq, UInt32.le_iff_toNat_le] at hdigit
  exact Nat.lt_of_le_of_lt hdigit.2 (by decide)

namespace Instant

variable {a b : Instant}

theorem bytesOf_stored (h : a.FourDigitYear) :
    bytesOf a.stored = a.stored.toList.map asciiByte := by
  have hascii : IsAscii a.stored.toList := by
    rw [toList_stored h]
    repeat' first
      | exact isAscii_fixed _ _
      | refine .append (isAscii_fixed _ _) ?_
      | refine .cons (by decide) ?_
    rintro _ ⟨⟩
  have hbytes := hascii.bytes
  rwa [String.ofList_toList] at hbytes

theorem length_bytesOf_stored (h : a.FourDigitYear) : (bytesOf a.stored).length = 30 := by
  simp only [bytesOf_stored h, toList_stored h, List.length_map, List.length_append,
    List.length_cons, Numeral.length_fixed, List.length_nil]

theorem getLast?_bytesOf_stored (h : a.FourDigitYear) :
    (bytesOf a.stored).getLast? = some (asciiByte 'Z') := by
  rw [bytesOf_stored h, stored, textWith, String.toList_ofList, List.map_append, List.map_cons,
    List.map_nil, List.getLast?_concat]

theorem bytesOf_stored_lt (ha : a.FourDigitYear) (hb : b.FourDigitYear) :
    bytesOf a.stored < bytesOf b.stored ↔ a < b := by
  rw [bytesOf_lt_iff, ← Stamp.of_lt_of ha hb]
  rfl

theorem bytesOf_stored_inj : bytesOf a.stored = bytesOf b.stored ↔ a = b := by
  rw [bytesOf_inj]
  refine ⟨fun h => ?_, congrArg _⟩
  exact Option.some.inj (by rw [← read?_stored a, h, read?_stored])

end Instant

-- ---------------------------------------------------------------------------
-- Tables
-- ---------------------------------------------------------------------------

theorem Table.update_congr {t : Table ρ} {p : ρ → Bool} {f g : ρ → ρ}
    (h : ∀ r ∈ t.rows, f r = g r) : t.update p f = t.update p g := by
  have hrows : (t.update p f).rows = (t.update p g).rows :=
    List.map_congr_left fun r hr => by rw [h r hr]
  cases t
  simpa [Table.update] using hrows

theorem mergeSort_eq_of_agree {le le' : α → α → Bool} {l : List α}
    (h : ∀ a ∈ l, ∀ b ∈ l, le a b = le' a b) : l.mergeSort le = l.mergeSort le' := by
  have hsorted := List.map_mergeSort (r := le) (s := le') (f := id) (l := l) h
  rwa [List.map_id, List.map_id] at hsorted

namespace Tables

variable {t : Tables}

structure InYears (t : Tables) : Prop where
  active : ∀ c ∈ t.conversations.rows, c.updatedAt.FourDigitYear
  markers : ∀ p ∈ t.participants.rows, ∀ last ∈ p.lastReadAt, last.FourDigitYear
  sent : ∀ m ∈ t.messages.rows, m.sentAt.FourDigitYear

def isAfter (m : Message) (userId : Int) (marker : Option Stamp) : Bool :=
  m.senderId != userId && marker.all fun last => decide (last.instant < m.sentAt.instant)

/-- The message that was sent later first and, of two at one time, the one with the greater id. -/
def laterSent (a b : Message) : Bool :=
  decide (b.sentAt.instant < a.sentAt.instant) ||
    (a.sentAt.instant == b.sentAt.instant && decide (b.id ≤ a.id))

def laterActive (a b : InboxEntry) : Bool :=
  decide (b.updatedAt.instant < a.updatedAt.instant) ||
    (a.updatedAt.instant == b.updatedAt.instant &&
      (decide (b.conversationId < a.conversationId) || (a.conversationId == b.conversationId &&
        decide (a.otherUserId ≤ b.otherUserId))))

/-- What is kept as the later of two times, counted as later than a time or listed in the order of
times is so by the instants. -/
structure Chronological (t : Tables) : Prop where
  touch : ∀ c (time : Instant), time.FourDigitYear → t.hasConversation c = true →
    t.touchConversation c time = .ok ⟨(), { t with
      conversations := t.conversations.update (·.id == c) fun row =>
        { row with updatedAt := .of (max row.updatedAt.instant time) } }, true⟩
  mark : ∀ c u (time : Instant), time.FourDigitYear →
    (t.updateLastRead c u time).map Write.tables = .ok { t with
      participants := t.participants.update (fun p => p.conversationId == c && p.userId == u) fun p =>
        { p with lastReadAt := some (.of (p.lastReadAt.elim time (max ·.instant time))) } }
  unread : ∀ c u, t.countUnread c u = (t.messages.rows.flatMap fun m =>
    t.participants.rows.filter fun p =>
      p.conversationId == m.conversationId && p.userId == u && m.conversationId == c &&
        isAfter m u p.lastReadAt).length
  lines : ∀ u, ∀ e ∈ t.inboxEntries u, ∃ me ∈ t.participants.rows,
    me.conversationId = e.conversationId ∧ me.userId = u ∧
      e.unreadCount = t.messages.rows.countP fun m =>
        m.conversationId == e.conversationId && isAfter m u me.lastReadAt
  messages : ∀ c page, t.listMessages c page =
    page.cut ((t.messages.rows.filter (·.conversationId == c)).mergeSort laterSent)
  inbox : ∀ u page, t.listInbox u page = page.cut ((t.inboxEntries u).mergeSort laterActive)

namespace InYears

theorem isUnread_eq (h : t.InYears) (hm : m ∈ t.messages.rows) (hp : p ∈ t.participants.rows)
    (u : Int) : isUnread m u p.lastReadAt = isAfter m u p.lastReadAt := by
  cases hmarker : p.lastReadAt with
  | none => rfl
  | some last =>
    have hlast := h.markers p hp last hmarker
    simp only [isUnread, isAfter, Option.all_some, Stamp.instant_lt_instant hlast (h.sent m hm)]

theorem newestFirst_eq (h : t.InYears) (ha : a ∈ t.messages.rows) (hb : b ∈ t.messages.rows) :
    newestFirst a b = laterSent a b := by
  have hlt := Stamp.instant_lt_instant (h.sent b hb) (h.sent a ha)
  rw [Bool.eq_iff_iff]
  simp only [newestFirst, laterSent, hlt, Bool.or_eq_true, Bool.and_eq_true, beq_iff_eq,
    Stamp.instant_inj]

theorem entryYear (h : t.InYears) (he : e ∈ t.inboxEntries u) : e.updatedAt.FourDigitYear := by
  obtain ⟨me, -, -, c, hc, -, w, -, -, -, rfl⟩ := mem_inboxEntries.mp he
  exact h.active c hc

theorem mostRecentFirst_eq (h : t.InYears) (ha : a ∈ t.inboxEntries u)
    (hb : b ∈ t.inboxEntries u) : mostRecentFirst a b = laterActive a b := by
  have hlt := Stamp.instant_lt_instant (h.entryYear hb) (h.entryYear ha)
  rw [Bool.eq_iff_iff]
  simp only [mostRecentFirst, laterActive, hlt, Bool.or_eq_true, Bool.and_eq_true, beq_iff_eq,
    Stamp.instant_inj]

end InYears

theorem InYears.chronological (h : t.InYears) : t.Chronological where
  touch c time htime hc := by
    refine touchConversation_ok.mpr ⟨hc, ?_⟩
    have hrows : t.conversations.update (·.id == c) (fun row =>
        { row with updatedAt := .of (max row.updatedAt.instant time) }) =
        t.conversations.update (·.id == c) (Conversation.activeAt (.of time)) :=
      Table.update_congr fun row hrow => by
        rw [← Stamp.max_of (h.active row hrow) htime]
        rfl
    rw [hrows]
    rfl
  mark c u time htime := by
    have hrows : t.participants.update (fun p => p.conversationId == c && p.userId == u)
        (Participant.readAt (.of time)) =
        t.participants.update (fun p => p.conversationId == c && p.userId == u) fun p =>
          { p with lastReadAt := some (.of (p.lastReadAt.elim time (max ·.instant time))) } :=
      Table.update_congr fun p hp => by
        cases hmarker : p.lastReadAt with
        | none => simp [Participant.readAt, hmarker, laterMarker]
        | some last =>
          simp [Participant.readAt, hmarker, laterMarker,
            Stamp.max_of (h.markers p hp last hmarker) htime]
    rw [updateLastRead_ok.mpr rfl, ← hrows]
    rfl
  unread c u := by
    rw [countUnread]
    congr 1
    refine List.flatMap_congr fun m hm => List.filter_congr fun p hp => ?_
    rw [h.isUnread_eq hm hp]
  lines u e he := by
    obtain ⟨me, hme, rfl, c, -, hc, w, -, -, -, rfl⟩ := mem_inboxEntries.mp he
    refine ⟨me, hme, hc.symm, rfl, List.countP_congr fun m hm => ?_⟩
    rw [h.isUnread_eq hm hme]
    rfl
  messages c page := by
    refine congrArg page.cut (mergeSort_eq_of_agree fun a ha b hb => ?_)
    exact h.newestFirst_eq (List.mem_of_mem_filter ha) (List.mem_of_mem_filter hb)
  inbox u page :=
    congrArg page.cut (mergeSort_eq_of_agree fun _ ha _ hb => h.mostRecentFirst_eq ha hb)

/-- The bytes of stored times are ordered as the times are, and so is what tables make of them. -/
theorem compared_by_time {a b : Instant} (ha : a.FourDigitYear) (hb : b.FourDigitYear)
    (ht : t.InYears) :
    ((bytesOf a.stored).length = 30 ∧ (bytesOf a.stored).getLast? = some (asciiByte 'Z')) ∧
      (bytesOf a.stored < bytesOf b.stored ↔ a < b) ∧
      (bytesOf a.stored = bytesOf b.stored ↔ a = b) ∧
      (bytesOf b.stored < bytesOf a.stored ↔ b < a) ∧ t.Chronological :=
  ⟨⟨Instant.length_bytesOf_stored ha, Instant.getLast?_bytesOf_stored ha⟩,
    Instant.bytesOf_stored_lt ha hb, Instant.bytesOf_stored_inj,
    Instant.bytesOf_stored_lt hb ha, ht.chronological⟩

/-- Half a second into the leap second at the end of 2016. -/
def leapSecond : Instant := ⟨1483228799, 1500000000, .inr ⟨by decide, by decide⟩⟩

def afterLeapSecond : Instant := ⟨1483228800, 1, .inl (by decide)⟩

def countdown : Tables :=
  { Tables.empty with
    conversations := ⟨[⟨1, none, .of leapSecond, .of leapSecond⟩], 1⟩
    participants := ⟨[⟨1, 1, 1, .of leapSecond, some (.of leapSecond)⟩,
      ⟨2, 1, 2, .of leapSecond, none⟩], 2⟩
    messages := ⟨[⟨1, 1, 2, "aGk=", "k", .of afterLeapSecond⟩], 1⟩ }

/-- The leap second is before the second after it, in the conversation as in its texts. -/
theorem compared_over_leap_second :
    bytesOf leapSecond.stored < bytesOf afterLeapSecond.stored ∧
      (countdown.touchConversation 1 afterLeapSecond).map
        (·.tables.conversations.rows.map Conversation.updatedAt) = .ok [.of afterLeapSecond] ∧
      countdown.countUnread 1 1 = 1 := by
  have hleap : leapSecond.FourDigitYear := by decide +kernel
  have hafter : afterLeapSecond.FourDigitYear := by decide +kernel
  have hyears : countdown.InYears := by
    constructor <;> simp [countdown, Stamp.fourDigitYear_of, hleap, hafter]
  obtain ⟨-, hlt, -, -, htime⟩ := compared_by_time hleap hafter hyears
  refine ⟨hlt.mpr (by decide), ?_, ?_⟩
  · rw [htime.touch 1 afterLeapSecond hafter rfl]
    decide +kernel
  · rw [htime.unread]
    decide +kernel

end Tables
end Parley
