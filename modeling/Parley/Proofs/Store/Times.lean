import Parley.Proofs.Store.Growth
import Parley.Proofs.Store.Opening
import Parley.Proofs.Store.Sending

/-!
# Times read back from rows

A time that a change writes is the time that queries find in the row afterwards, right after the
change where the column may be written again and for good where it stays (`times_kept`). Both texts
of an instant lose nothing of it, in whatever year it is.
-/

namespace Parley

def Stamp.orLater (before : Stamp) (time : Instant) : Instant :=
  if before ≤ .of time then time else before.instant

theorem Stamp.instant_max (before : Stamp) (time : Instant) :
    (max before (.of time)).instant = before.orLater time := by
  rw [max_def, orLater]
  split
  · exact instant_of time
  · rfl

theorem Stamp.instant_laterMarker (marker : Option Stamp) (time : Instant) :
    (Tables.laterMarker marker (.of time)).instant = marker.elim time (·.orLater time) := by
  cases marker with
  | none => rw [Tables.laterMarker, Option.elim_none, instant_of]
  | some last => rw [Tables.laterMarker, Option.elim_some, instant_max]

/-- After a change that has led from `t` to `w`, and in the tables that follow it, rows have the times
that the change was given. -/
def Change.ReadsBack (t : Tables) (w : Write Answer) (later : Tables) : Change → Prop
  | .createUser u now => ∃ row, w.answer = .user row ∧ later.userByName u.username = .ok row ∧
      row.createdAt.instant = now
  | .createSession u token now => ∃ row ∈ w.tables.sessions.rows, row.userId = u ∧
      row.token = token ∧ row.createdAt.instant = now
  | .createConversation _ now => ∃ row, w.answer = .conversation row ∧
      w.tables.conversationById row.id = .ok row ∧ row.createdAt.instant = now ∧
      row.updatedAt.instant = now ∧
      ∃ row', later.conversationById row.id = .ok row' ∧ row'.createdAt.instant = now
  | .addParticipant c u now => (∃ row, w.answer = .participant row ∧ row.joinedAt.instant = now) ∧
      ∃ row ∈ later.participantsOf c, row.userId = u ∧ row.joinedAt.instant = now
  | .touchConversation c time => ∃ row row', t.conversationById c = .ok row ∧
      w.tables.conversationById c = .ok row' ∧ row'.updatedAt.instant = row.updatedAt.orLater time
  | .lockConversation c => ∃ row, w.tables.conversationById c = .ok row ∧
      ∃ time, w.answer = .time time ∧ row.updatedAt = .of time
  | .createMessage m sentAt => ∃ row, w.answer = .message row ∧
      later.messageByKey m.key = .ok row ∧ row.sentAt.instant = sentAt
  | .updateLastRead c u time => ∀ row ∈ t.participantsOf c, row.userId = u →
      ∃ row' ∈ w.tables.participantsOf c, row'.fixed = row.fixed ∧
        row'.lastReadAt.map Stamp.instant = some (row.lastReadAt.elim time (·.orLater time))
  | .deleteSessions _ => True

namespace Change

variable {t later : Tables} {c : Change}

theorem reads_back (ht : t.Integrity) (hw : c.run t = .ok w) (hgrows : w.tables.Grows later)
    (hlater : later.Integrity) : c.ReadsBack t w later := by
  have hafter : w.tables.Integrity := ht.change (Change.leads hw)
  cases c <;> simp only [run, map_ok] at hw <;> obtain ⟨w₀, hw₀, rfl⟩ := hw
  case createUser u now =>
    obtain ⟨-, -, rfl⟩ := Tables.createUser_ok.mp hw₀
    have hrow : t.userRow u now ∈ later.users.rows := hgrows.users.subset (by simp [Write.map])
    exact ⟨t.userRow u now, rfl, found_ok.mpr (find?_of_nodup hlater.usernames hrow),
      Stamp.instant_of now⟩
  case createSession u token now =>
    obtain ⟨-, -, rfl⟩ := Tables.createSession_ok.mp hw₀
    exact ⟨t.sessionRow u token now, by simp [Write.map], rfl, rfl, Stamp.instant_of now⟩
  case deleteSessions => trivial
  case createConversation key now =>
    obtain ⟨-, rfl⟩ := Tables.createConversation_ok.mp hw₀
    have hrow : t.conversationRow key now ∈
        (t.conversations.add (t.conversationRow key now)).rows := by simp
    obtain ⟨row', hrow', hfixed⟩ := hgrows.conversation hrow
    obtain ⟨hid, -, hcreated⟩ := by simpa only [Conversation.fixed, Prod.mk.injEq] using hfixed
    refine ⟨t.conversationRow key now, rfl, Tables.conversationById_of_mem hafter hrow,
      Stamp.instant_of now, Stamp.instant_of now, row', hid ▸ ?_, hcreated ▸ Stamp.instant_of now⟩
    exact Tables.conversationById_of_mem hlater hrow'
  case addParticipant c u now =>
    obtain ⟨-, -, -, rfl⟩ := Tables.addParticipant_ok.mp hw₀
    refine ⟨⟨t.participantRow c u now, rfl, Stamp.instant_of now⟩, ?_⟩
    have hrow : (t.participantRow c u now).fixed ∈ later.participants.rows.map Participant.fixed :=
      hgrows.participants.subset (List.mem_map_of_mem (by simp [Write.map]))
    obtain ⟨row, hrow, hfixed⟩ := List.mem_map.mp hrow
    obtain ⟨-, hin, huser, hjoined⟩ := by simpa [Participant.fixed] using hfixed
    exact ⟨row, List.mem_filter.mpr ⟨hrow, beq_iff_eq.mpr hin⟩, huser,
      hjoined ▸ Stamp.instant_of now⟩
  case touchConversation c time =>
    obtain ⟨hc, rfl⟩ := Tables.touchConversation_ok.mp hw₀
    obtain ⟨row, hfound⟩ := Tables.conversationById_of_has hc
    obtain ⟨hrow, hid⟩ := Tables.conversationById_ok hfound
    have hrow' : row.activeAt (.of time) ∈ (t.touch c time).conversations.rows :=
      List.mem_map.mpr ⟨row, hrow, by simp [hid]⟩
    have hfound' := Tables.conversationById_of_mem hafter hrow'
    rw [Conversation.id_activeAt, hid] at hfound'
    exact ⟨row, row.activeAt (.of time), hfound, hfound', Stamp.instant_max _ _⟩
  case lockConversation c =>
    obtain ⟨row, hrow, rfl⟩ := Tables.lockConversation_ok.mp hw₀
    exact ⟨row, hrow, row.updatedAt.instant, rfl, (Stamp.of_instant _).symm⟩
  case createMessage m sentAt =>
    obtain ⟨-, -, -, rfl⟩ := Tables.createMessage_ok.mp hw₀
    have hrow : t.messageRow m sentAt ∈ later.messages.rows :=
      hgrows.messages.subset (by simp [Write.map])
    exact ⟨t.messageRow m sentAt, rfl, Tables.messageByKey_of_mem hlater hrow,
      Stamp.instant_of sentAt⟩
  case updateLastRead c u time =>
    obtain rfl := Tables.updateLastRead_ok.mp hw₀
    intro row hrow huser
    obtain ⟨hrow, hin⟩ := List.mem_filter.mp hrow
    refine ⟨row.readAt (.of time), List.mem_filter.mpr ⟨?_, hin⟩, rfl, ?_⟩
    · exact List.mem_map.mpr ⟨row, hrow, by simp [beq_iff_eq.mp hin, huser]⟩
    · rw [Participant.lastReadAt_readAt, Option.map_some, Stamp.instant_laterMarker]

/-- Both texts of a time are read back as that time, the shown one has no digits more than that takes,
and a row of the tables has the time that was written. -/
theorem times_kept {allowed : Change → Prop} (ht : t.Integrity) (hw : c.run t = .ok w)
    (hlater : w.tables.Reaches allowed later) :
    (∀ i : Instant, Instant.read? i.stored = some i ∧ Instant.read? i.shown = some i ∧
      ∃ places ∈ [0, 3, 6, 9], i.shown = i.textWith places ∧
        ∀ fewer ∈ [0, 3, 6, 9], Instant.read? (i.textWith fewer) = some i → places ≤ fewer) ∧
      (∀ s : Stamp, Instant.read? s.text = some s.instant ∧
        Instant.read? s.shown = some s.instant) ∧
      c.ReadsBack t w later := by
  refine ⟨fun i => ?_, fun s => ?_, ?_⟩
  · obtain ⟨hplaces, hfewest⟩ := i.shown_fewest
    exact ⟨i.read?_stored, i.read?_shown, i.fewestPlaces, hplaces, rfl, hfewest⟩
  · have htext := s.instant.read?_stored
    rw [← Stamp.text_of, Stamp.of_instant] at htext
    exact ⟨htext, s.instant.read?_shown⟩
  · exact reads_back ht hw hlater.grows (hlater.integrity (ht.change (Change.leads hw)))

/-- A quarter of a second into a leap second at the end of the year before year 0. -/
def beforeYearZero : Instant := ⟨-62167219201, 1250000000, .inr ⟨by decide, by decide⟩⟩

/-- A user from before year 0 is read back after another user has come. -/
theorem times_kept_before_year_zero :
    ∃ w later row, (createUser ⟨"ada", "a@x.org", "h", "customer"⟩ beforeYearZero).run .empty = .ok w ∧
      w.tables.Reaches (fun _ => True) later ∧ later.users.rows.length = 2 ∧
      later.userByName "ada" = .ok row ∧ row.createdAt.instant = beforeYearZero ∧
      row.createdAt.shown = "-0001-12-31T23:59:60.250Z" := by
  obtain ⟨w, hw⟩ : ∃ w, (createUser ⟨"ada", "a@x.org", "h", "customer"⟩ beforeYearZero).run .empty =
    .ok w := ⟨_, rfl⟩
  obtain ⟨w', hw'⟩ : ∃ w', (createUser ⟨"bob", "b@x.org", "h", "customer"⟩ .epoch).run w.tables =
      .ok w' ∧ w'.tables.users.rows.length = 2 := by
    cases hw
    exact ⟨_, rfl, rfl⟩
  have hlater : w.tables.Reaches (fun _ => True) w'.tables := .change .refl trivial hw'.1
  obtain ⟨-, -, row, -, hfound, htime⟩ := times_kept Tables.integrity_empty hw hlater
  refine ⟨w, w'.tables, row, hw, hlater, hw'.2, hfound, htime, ?_⟩
  rw [Stamp.shown, htime]
  decide +kernel

end Change
end Parley
