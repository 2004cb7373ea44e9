import Parley.Proofs.Run.Step
import Parley.Proofs.Store.Direct
import Parley.Proofs.Store.Refusals

/-!
# All or nothing

`Operation.Effect`: for each operation of the store, what it answers and all that it changes, row by
row. In every session an operation has this effect, or it is refused and changes nothing
(`System.store_all_or_nothing`): whichever of its statements is refused, those before it are rolled
back (`Operation.restores`).
-/

namespace Parley

-- ---------------------------------------------------------------------------
-- Rows
-- ---------------------------------------------------------------------------

namespace Table

def Replaces (t : Table ρ) (row row' : ρ) (t' : Table ρ) : Prop :=
  ∃ before after, t.rows = before ++ row :: after ∧ t'.rows = before ++ row' :: after ∧
    t'.issued = t.issued

variable {t : Table ρ} {p : ρ → Bool} {f : ρ → ρ} {row : ρ}

theorem map_of_none {rows : List ρ} (h : ∀ r ∈ rows, p r = false) :
    rows.map (fun r => if p r then f r else r) = rows := by
  refine (List.map_congr_left fun r hr => ?_).trans (List.map_id _)
  simp [h r hr]

theorem replaces_update (hrows : t.rows.Nodup) (hrow : row ∈ t.rows) (hp : p row = true)
    (honly : ∀ r ∈ t.rows, p r = true → r = row) :
    t.Replaces row (f row) (t.update p f) := by
  obtain ⟨before, after, heq⟩ := List.append_of_mem hrow
  rw [heq, List.nodup_append, List.nodup_cons] at hrows
  obtain ⟨-, ⟨hafter, -⟩, hbefore⟩ := hrows
  have hnone {r : ρ} (hr : r ∈ t.rows) (hne : r ≠ row) : p r = false := by
    rw [Bool.eq_false_iff]
    exact fun h => hne (honly r hr h)
  refine ⟨before, after, heq, ?_, rfl⟩
  rw [update, heq, List.map_append, List.map_cons, if_pos hp, map_of_none, map_of_none]
  · intro r hr
    refine hnone (by simp [heq, hr]) ?_
    rintro rfl
    exact hafter hr
  · intro r hr
    exact hnone (by simp [heq, hr]) (hbefore r hr row List.mem_cons_self)

end Table

def Tables.addConversation (t : Tables) (n : NewConversation) : Tables :=
  { t with
    conversations := t.conversations.add n.conversation
    participants := (t.participants.add n.first).add n.second }

structure NewConversation.Joins (n : NewConversation) (t : Tables) (a b : Int) : Prop where
  id : n.conversation.id = t.conversations.nextId
  first : n.first.userId = a
  second : n.second.userId = b
  participants : (t.addConversation n).participantsOf n.conversation.id = [n.first, n.second]

/-- What an operation answers at the time `now`, and what becomes of the tables. A message is stamped
with the clock, but never before the last activity, and its conversation is then active at that time. -/
inductive Operation.Effect (now : Instant) (t : Tables) : Operation → Report → Tables → Prop where
  | account : Effect now t (.createAccount user token) (.account (t.userRow user now))
      { t with
        users := t.users.add (t.userRow user now)
        sessions := t.sessions.add (t.sessionRow (t.userRow user now).id token now) }
  | conversation : n = t.newConversation none a b now → n.Joins t a b →
      Effect now t (.createConversation a b) (.conversation n) (t.addConversation n)
  | opened : Pair.of a b = .ok pair →
      n = t.newConversation (some pair.key) pair.low pair.high now → n.Joins t pair.low pair.high →
      Effect now t (.getOrCreateDirect a b) (.direct ⟨n.conversation, true⟩) (t.addConversation n)
  | found : Pair.of a b = .ok pair → t.findDirect pair = .ok c.id → c ∈ t.conversations.rows →
      Effect now t (.getOrCreateDirect a b) (.direct ⟨c, false⟩) t
  | sent : c.id = m.conversationId → sentAt = max now c.updatedAt.instant →
      c' = { c with updatedAt := max c.updatedAt (.of sentAt) } →
      t.conversations.Replaces c c' conversations →
      Effect now t (.sendMessage m) (.sending (.sent (t.messageRow m sentAt) c'))
        { t with conversations, messages := t.messages.add (t.messageRow m sentAt) }
  | duplicate : t.messageByKey m.key = .ok m' →
      Effect now t (.sendMessage m) (.sending (.duplicate m')) t
  | unmarked : t.isParticipant c u = false → Effect now t (.markAsRead c u) .done t
  | marked : p.conversationId = c → p.userId = u →
      t.participants.Replaces p
        { p with lastReadAt := some (Tables.laterMarker p.lastReadAt (.of now)) } participants →
      Effect now t (.markAsRead c u) .done { t with participants }
  | counted : Effect now t (.unreadCount c u) (.count (t.countUnread c u)) t

def Report.isQuiet : Report → Bool
  | .direct c => !c.isNew
  | .sending (.duplicate _) => true
  | .count _ => true
  | _ => false

-- ---------------------------------------------------------------------------
-- Operations
-- ---------------------------------------------------------------------------

section
variable {t : Tables}

theorem Tables.Integrity.joins (ht : t.Integrity) :
    (t.newConversation key a b now).Joins t a b where
  id := rfl
  first := rfl
  second := rfl
  participants := by
    have hold : t.participants.rows.filter (·.conversationId == t.conversations.nextId) = [] := by
      rw [List.filter_eq_nil_iff]
      intro p hp
      have := ht.members_lt (List.mem_map_of_mem hp)
      simp only [beq_iff_eq]
      omega
    simp [Tables.participantsOf, Tables.addConversation, Tables.newConversation,
      Tables.conversationRow, Tables.participantRow, hold]

theorem Tables.Integrity.sent (ht : t.Integrity) {new : NewMessage} {sentAt : Instant}
    (hrow : t.conversationById new.conversationId = .ok row)
    (htime : sentAt = max now row.updatedAt.instant)
    (hc : (t.withMessage new sentAt).conversationById new.conversationId = .ok c) :
    Operation.Effect now t (.sendMessage new) (.sending (.sent (t.messageRow new sentAt) c))
      (t.withMessage new sentAt) := by
  obtain ⟨hmem, hid⟩ := Tables.conversationById_ok hrow
  have honly : ∀ r ∈ t.conversations.rows, r.id = new.conversationId → r = row := by
    intro r hr heq
    exact ht.conversationIds.ascending.eq_of_id hr hmem (heq.trans hid.symm)
  obtain rfl : c = row.activeAt (.of sentAt) := by
    obtain ⟨hmem', hid'⟩ := Tables.conversationById_ok hc
    obtain ⟨r, hr, rfl⟩ := Table.mem_update hmem'
    split at hid'
    · rename_i hr'
      rw [if_pos hr', honly r hr (beq_iff_eq.mp hr')]
    · rename_i hr'
      exact absurd (beq_iff_eq.mpr hid') hr'
  have hreplaces : t.conversations.Replaces row (row.activeAt (.of sentAt))
      (t.conversations.update (·.id == new.conversationId) (Conversation.activeAt (.of sentAt))) := by
    refine Table.replaces_update ?_ hmem (beq_iff_eq.mpr hid) ?_
    · exact .of_map _ ht.conversationIds.ascending.nodup
    · intro r hr heq
      exact honly r hr (beq_iff_eq.mp heq)
  exact .sent hid htime rfl hreplaces

theorem Tables.Integrity.marked (ht : t.Integrity) (c u : Int) (now : Instant) :
    Operation.Effect now t (.markAsRead c u) .done (t.markRead c u now) := by
  cases hmember : t.isParticipant c u with
  | false =>
    have hnone : ∀ p ∈ t.participants.rows, ¬ (p.conversationId == c && p.userId == u) = true := by
      simpa [Tables.isParticipant] using hmember
    rw [Tables.markRead_eq_self fun p hp hrow => absurd hrow (hnone p hp)]
    exact .unmarked hmember
  | true =>
    obtain ⟨p, hp, hc, hu⟩ := Tables.isParticipant_iff.mp hmember
    refine .marked hc hu (Table.replaces_update ?_ hp (by simp [hc, hu]) ?_)
    · exact .of_map _ ht.participantIds.ascending.nodup
    · intro r hr heq
      simp only [Bool.and_eq_true, beq_iff_eq] at heq
      refine List.inj_on_of_nodup_map ht.members hr hp ?_
      rw [heq.1, heq.2, hc, hu]

theorem Operation.effect (ht : db.committed.Integrity) (h : Operation.run db now op = .ok r db') :
    op.Effect now db.committed r db'.committed ∧ (r.isQuiet = true → db' = db) := by
  cases op <;> simp only [Operation.run, Database.map_ok] at h
  case createAccount user token =>
    obtain ⟨u, h, rfl⟩ := h
    obtain ⟨-, rfl, rfl⟩ := Database.createAccount_ok h
    exact ⟨.account, by rintro ⟨⟩⟩
  case createConversation a b =>
    obtain ⟨n, h, rfl⟩ := h
    obtain ⟨-, d, hd, rfl⟩ := Database.transact_ok.mp h
    obtain ⟨-, -, -, -, -, rfl, rfl⟩ := Database.insertConversation_ok hd
    exact ⟨.conversation rfl ht.joins, by rintro ⟨⟩⟩
  case getOrCreateDirect a b =>
    obtain ⟨⟨c, isNew⟩, h, rfl⟩ := h
    obtain ⟨pair, hpair, ⟨rfl, rfl, hfind, hmem⟩ | ⟨rfl, -, -, -, -, rfl, rfl⟩⟩ :=
      Database.getOrCreateDirect_cases h
    · exact ⟨.found hpair hfind hmem, fun _ => rfl⟩
    · exact ⟨.opened hpair rfl ht.joins, by rintro ⟨⟩⟩
  case sendMessage m =>
    obtain ⟨s, h, rfl⟩ := h
    obtain ⟨-, -, h | h⟩ := Database.sendMessage_ok h
    · obtain ⟨-, d, hd, rfl⟩ := Database.transact_ok.mp h
      obtain ⟨-, row, hrow, -, -, c, hc, rfl, rfl⟩ := Database.deliver_ok hd
      exact ⟨ht.sent hrow rfl hc, by rintro ⟨⟩⟩
    · obtain ⟨rfl, m', hm', rfl⟩ := Database.existingMessage_ok h
      exact ⟨.duplicate hm', fun _ => rfl⟩
  case markAsRead c u =>
    obtain ⟨_, h, rfl⟩ := h
    rw [Database.markAsRead_ok h]
    exact ⟨ht.marked c u now, by rintro ⟨⟩⟩
  case unreadCount c u =>
    obtain ⟨n, h, rfl⟩ := h
    obtain ⟨-, hn, rfl⟩ := Database.read_ok.mp h
    cases hn
    exact ⟨.counted, fun _ => rfl⟩

end

-- ---------------------------------------------------------------------------
-- Sessions
-- ---------------------------------------------------------------------------

/-- In every session an operation is refused, and then everything is as before, or it is reported,
and then the committed tables change as it says and in no other row. -/
theorem System.store_all_or_nothing (clock : Instant) (steps : List Step) (time : Option Instant)
    (op : Operation) :
    let s := ((start clock).run steps).2
    let (o, s') := s.step ⟨time, .store op⟩
    (∃ e, o = .refused e ∧ s'.db = s.db) ∨
      ∃ r, o = .report r ∧ (r.isQuiet = true → s'.db = s.db) ∧
        op.Effect (time.getD s.clock) s.db.committed r s'.db.committed := by
  have hwhole := integrity_run clock steps
  generalize ((start clock).run steps).2 = s at hwhole
  simp only [step, act]
  cases hrun : op.run s.db (time.getD s.clock) with
  | error e db' => exact .inl ⟨e, rfl, Operation.restores hrun⟩
  | ok r db' =>
    obtain ⟨heffect, hquiet⟩ := Operation.effect hwhole hrun
    exact .inr ⟨r, rfl, hquiet, heffect⟩

end Parley
