import Parley.Proofs.Http.Answers
import Parley.Proofs.Run.MessageOrder
import Parley.Proofs.Store.Past
import Parley.Proofs.Store.Unread

/-!
# Unread messages over a run

What marking a conversation as read and sending a message do to the counts of unread messages, after
every run and by whichever way they are asked for. Both compare stamps of messages with markers that
are stamps of the clock, so both depend on where the clock stands: marking leaves the messages that
are later than the clock (`System.marked_unread`), and a message is not unread for those whose marker
is at the clock (`System.sent_unread`).
-/

namespace Parley

-- ---------------------------------------------------------------------------
-- Requests that mark or send
-- ---------------------------------------------------------------------------

namespace Http.Call

def named? (c : Call) (segment : String) : Option (Int × Int) :=
  match pathId segment, c.authenticate with
  | .ok id, .ok u => some (id, u)
  | _, _ => none

def marked? (c : Call) : Option (Int × Int) :=
  match c.request.asks? with
  | some (.post, .readMarker segment) => if c.answer.1.status < 400 then c.named? segment else none
  | _ => none

def sent? (c : Call) : Option (Int × Int) :=
  match c.request.asks? with
  | some (.post, .messages segment) => if c.answer.1.status = 201 then c.named? segment else none
  | _ => none

variable {c : Call} {segment : String} {id u : Int}

theorem named?_some (h : c.named? segment = some (id, u)) :
    pathId segment = .ok id ∧ c.authenticate = .ok u := by
  unfold named? at h
  split at h
  · rename_i hid hu
    cases h
    exact ⟨hid, hu⟩
  · cases h

theorem marked?_some (h : c.marked? = some (id, u)) :
    c.db.markAsRead c.now id u = .ok () c.answer.2 := by
  unfold marked? at h
  split at h
  · rename_i segment hasks
    split at h
    · rename_i hstatus
      obtain ⟨hpath, hwho⟩ := named?_some h
      obtain ⟨_, _, hu, hid, hmark⟩ := answer_marks hasks hstatus
      cases hpath.symm.trans hid
      cases hwho.symm.trans hu
      exact hmark
    · cases h
  · cases h

theorem sent?_some (h : c.sent? = some (id, u)) : ∃ m message row, m.conversationId = id ∧
    m.senderId = u ∧ c.db.sendMessage c.now m = .ok (.sent message row) c.answer.2 := by
  unfold sent? at h
  split at h
  · rename_i segment hasks
    split at h
    · rename_i hstatus
      obtain ⟨hpath, hwho⟩ := named?_some h
      obtain ⟨_, _, m, message, row, hu, hid, hm, hsender, hsent⟩ := answer_sends hasks hstatus
      cases hpath.symm.trans hid
      cases hwho.symm.trans hu
      exact ⟨m, message, row, hm, hsender, hsent⟩
    · cases h
  · cases h

end Http.Call

-- ---------------------------------------------------------------------------
-- Steps that mark or send
-- ---------------------------------------------------------------------------

namespace System

def marked? (s : System) (st : Step) : Option (Int × Int) :=
  match st.action, (s.step st).1 with
  | .store (.markAsRead c u), .report .done => some (c, u)
  | .request r draws, _ => Http.Call.marked? ⟨r, st.clock.getD s.clock, draws, s.db⟩
  | _, _ => none

def sent? (s : System) (st : Step) : Option (Int × Int) :=
  match st.action, (s.step st).1 with
  | .store (.sendMessage m), .report (.sending (.sent _ _)) => some (m.conversationId, m.senderId)
  | .request r draws, _ => Http.Call.sent? ⟨r, st.clock.getD s.clock, draws, s.db⟩
  | _, _ => none

variable {s : System} {st : Step} {c u v : Int}

theorem marked?_some (h : s.marked? st = some (c, u)) :
    (s.step st).2.db.committed = s.db.committed.markRead c u (st.clock.getD s.clock) := by
  obtain ⟨time, action⟩ := st
  unfold marked? at h
  dsimp only at h
  split at h
  · rename_i hout
    cases h
    obtain ⟨_, hmark, -⟩ := Database.map_ok.mp (step_store hout)
    exact Database.markAsRead_ok hmark
  · rw [step_request]
    exact Database.markAsRead_ok (Http.Call.marked?_some h)
  · cases h

theorem sent?_some (h : s.sent? st = some (c, v)) : ∃ m row, m.conversationId = c ∧
    m.senderId = v ∧ s.db.committed.conversationById c = .ok row ∧
    (s.step st).2.db.committed =
      s.db.committed.withMessage m (max (st.clock.getD s.clock) row.updatedAt.instant) := by
  obtain ⟨m, message, row, rfl, rfl, hsent⟩ : ∃ m message row, m.conversationId = c ∧
      m.senderId = v ∧ s.db.sendMessage (st.clock.getD s.clock) m =
        .ok (.sent message row) ((s.step st).2.db) := by
    obtain ⟨time, action⟩ := st
    unfold sent? at h
    dsimp only at h
    split at h
    · rename_i hout
      cases h
      obtain ⟨_, hsent, heq⟩ := Database.map_ok.mp (step_store hout)
      cases heq
      exact ⟨_, _, _, rfl, rfl, hsent⟩
    · rw [step_request]
      exact Http.Call.sent?_some h
    · cases h
  rcases Database.sendMessage_cases hsent with ⟨row, hrow, -, -, hdb⟩ | ⟨_, -, heq, -⟩
  · refine ⟨m, row, rfl, rfl, hrow, ?_⟩
    rw [hdb]
    rfl
  · cases heq

-- ---------------------------------------------------------------------------
-- What is unread after marking
-- ---------------------------------------------------------------------------

/-- After a participant has marked a conversation as read, those messages of others are unread that
are later than the clock, and later than the marker was before: none, unless the conversation was
active later than the clock shows. The inbox shows the same number. -/
theorem marked_unread (clock : Instant) (hclock : clock.FourDigitYear) (steps : List Step)
    (hdated : ∀ st ∈ steps, st.Dated)
    (hmessages : ∀ st ∈ steps, st.action.Within fun c => c.isMessage = false)
    (s : System) (hs : s = ((start clock).run steps).2) (st : Step) (hst : st.Dated)
    (p : Participant) (hp : p ∈ s.db.committed.participants.rows)
    (hmarked : s.marked? st = some (p.conversationId, p.userId)) :
    let now := st.clock.getD s.clock
    let t := s.db.committed
    let t' := (s.step st).2.db.committed
    (t'.countUnread p.conversationId p.userId = t.messages.rows.countP fun m =>
      m.conversationId == p.conversationId && decide (Stamp.of now < m.sentAt) &&
        Tables.isUnread m p.userId p.lastReadAt) ∧
    (∀ page, ∀ e ∈ t'.listInbox p.userId page, e.conversationId = p.conversationId →
      e.unreadCount = t'.countUnread p.conversationId p.userId) ∧
    ((∀ row ∈ t.conversations.rows, row.id = p.conversationId → row.updatedAt.instant ≤ now) →
      t'.countUnread p.conversationId p.userId = 0) := by
  intro now t t'
  obtain ⟨hclock', -, hwhole, hordered⟩ : s.InOrder := hs ▸
    run_keeps (inOrder_start hclock) fun _ hs st hst => hs.step (hdated st hst) (hmessages st hst)
  have ht' : t' = t.markRead p.conversationId p.userId now := marked?_some hmarked
  have hcount : t'.countUnread p.conversationId p.userId = t.messages.rows.countP fun m =>
      m.conversationId == p.conversationId && decide (Stamp.of now < m.sentAt) &&
        Tables.isUnread m p.userId p.lastReadAt := by
    rw [ht', Tables.countUnread_markRead hwhole hp]
  refine ⟨hcount, fun page e he hin => ?_, fun hactive => ?_⟩
  · have hwhole' : t'.Integrity := ht' ▸ hwhole.markRead _ _ _
    rw [← hin]
    exact Tables.unreadCount_of_mem hwhole' (Tables.mem_of_mem_listInbox he)
  · have hnow : now.FourDigitYear := year_tick hclock' hst.clock
    rw [hcount, List.countP_eq_zero]
    intro m hm hlater
    simp only [Bool.and_eq_true, beq_iff_eq, decide_eq_true_eq] at hlater
    obtain ⟨⟨hin, hlate⟩, -⟩ := hlater
    obtain ⟨row, hrow, hid⟩ := hwhole.messageIn m hm
    have hyear := (hordered.conversationYears row hrow).2
    have hle : row.updatedAt ≤ .of now := by
      rw [← Stamp.of_instant row.updatedAt]
      exact (Stamp.of_le_of hyear hnow).mpr (hactive row hrow (hid.trans hin))
    exact absurd (hlate.trans_le (hordered.between m hm row hrow hid).2) (not_lt.mpr hle)

/-- A message is sent at one time, and the clock is set back before it is read. -/
def sendingAhead : List Step :=
  [⟨none, .store (.createAccount ⟨"ada", "ada@example.org", "h", "customer"⟩ "t1")⟩,
    ⟨none, .store (.createAccount ⟨"bob", "bob@example.org", "h", "customer"⟩ "t2")⟩,
    ⟨none, .store (.getOrCreateDirect 1 2)⟩,
    ⟨some (atSecond 100), .store (.sendMessage ⟨1, 1, "aGk=", "k"⟩)⟩]

theorem marked_behind_unread :
    let s := ((start .epoch).run sendingAhead).2
    let st : Step := ⟨some ⟨50, 0, .inl (by decide)⟩, .store (.markAsRead 1 2)⟩
    let t' := (s.step st).2.db.committed
    s.marked? st = some (1, 2) ∧ t'.isParticipant 1 2 = true ∧ t'.countUnread 1 2 = 1 ∧
      (t'.inbox 2).map (fun e => (e.conversationId, e.unreadCount)) = [(1, 1)] := by
  decide +kernel

theorem marked_on_time :
    let s := ((start .epoch).run sendingAhead).2
    let st : Step := ⟨some ⟨200, 0, .inl (by decide)⟩, .store (.markAsRead 1 2)⟩
    s.db.committed.countUnread 1 2 = 1 ∧ (s.step st).2.db.committed.countUnread 1 2 = 0 := by
  refine ⟨by decide +kernel, (marked_unread .epoch (by decide +kernel) sendingAhead ?_ ?_ _ rfl
    ⟨some ⟨200, 0, .inl (by decide)⟩, .store (.markAsRead 1 2)⟩ ?_ ⟨2, 1, 2, .of .epoch, none⟩
    (by decide +kernel) (by decide +kernel)).2.2 (by decide +kernel)⟩
  · intro st hst
    simp only [sendingAhead, List.mem_cons, List.not_mem_nil, or_false] at hst
    rcases hst with rfl | rfl | rfl | rfl
    all_goals
      refine ⟨?_, by rintro _ _ ⟨⟩⟩
      rintro _ ⟨⟩
    decide +kernel
  · intro st hst held c hc
    simp only [sendingAhead, List.mem_cons, List.not_mem_nil, or_false] at hst
    rcases hst with rfl | rfl | rfl | rfl <;> cases hc
  · refine ⟨?_, by rintro _ _ ⟨⟩⟩
    rintro _ ⟨⟩
    decide +kernel

end System

-- ---------------------------------------------------------------------------
-- A clock that does not go back
-- ---------------------------------------------------------------------------

def Action.isService : Action → Bool
  | .wait | .store _ | .request .. => true
  | _ => false

theorem Work.Does.past (h : Work.Does now db db' w)
    (hw : ∀ c, w = .change c → ∀ time, c.time? = some time → time = now)
    (hnow : now.FourDigitYear) (ho : db.committed.Ordered) (hp : db.committed.Past (.of now)) :
    db'.committed.Past (.of now) := by
  rcases h.cases with ⟨m, row, hrow, heq⟩ | hreaches
  · rw [heq, hp.max_eq ho hnow (Tables.conversationById_ok hrow).1]
    exact hp.withMessage (le_refl _) m
  · refine hreaches.invariant (P := fun t => t.Past (.of now)) hp fun t c t' hp hc hleads =>
      hp.change hleads fun time htime => ?_
    rcases hc with hc | ⟨-, hc⟩
    · rw [hw c hc time htime]
    · rw [hc time htime]

namespace System

variable {s : System} {st : Step} {c u v : Int}

structure Current (s : System) : Prop where
  inOrder : s.InOrder
  past : s.db.committed.Past (.of s.clock)

theorem current_start {clock : Instant} (hclock : clock.FourDigitYear) : (start clock).Current :=
  ⟨inOrder_start hclock, Tables.past_empty⟩

theorem act_service {a : Action} (ha : a.isService = true) :
    (s.act a).2.db = s.db ∨ ∃ w, a.Works s.clock w ∧ w.Does s.clock s.db (s.act a).2.db := by
  cases a with
  | wait => exact .inl rfl
  | store op =>
    simp only [act]
    cases h : op.run s.db s.clock with
    | ok r db => exact .inr ⟨_, .store, .operation h⟩
    | error e db => exact .inl (Operation.restores h)
  | request r draws =>
    rcases Http.Call.answer_work ⟨r, s.clock, draws, s.db⟩ with h | ⟨w, hw, hdoes⟩
    · exact .inl h
    · exact .inr ⟨w, .request hw, hdoes⟩
  | _ => cases ha

theorem Current.tick (h : s.Current) (hyear : ∀ time, st.clock = some time → time.FourDigitYear)
    (hforward : s.clock ≤ st.clock.getD s.clock) : (s.tick st).Current := by
  have hnow : (s.tick st).clock.FourDigitYear := year_tick h.inOrder.clock hyear
  exact ⟨⟨hnow, h.inOrder.consistent, h.inOrder.whole, h.inOrder.ordered⟩,
    h.past.mono ((Stamp.of_le_of h.inOrder.clock hnow).mpr hforward)⟩

theorem Current.step (h : s.Current) (hst : st.action.isService = true)
    (hyear : ∀ time, st.clock = some time → time.FourDigitYear)
    (hforward : s.clock ≤ st.clock.getD s.clock) : (s.step st).2.Current := by
  have hwithin (allowed : Change → Prop) : st.action.Within allowed := by
    intro held c heq
    rw [heq] at hst
    cases hst
  have hclock : (s.step st).2.clock = (s.tick st).clock := act_clock (s.tick st) st.action
  obtain ⟨hinOrder, hpast⟩ := h.tick hyear hforward
  refine ⟨h.inOrder.step ⟨hyear, hwithin _⟩ (hwithin _), ?_⟩
  rw [hclock]
  rcases act_service (s := s.tick st) hst with hdb | ⟨w, hworks, hdoes⟩
  · rw [step_eq, hdb]
    exact hpast
  · refine hdoes.past (fun c hc time htime => ?_) hinOrder.clock hinOrder.ordered hpast
    subst hc
    generalize st.action = action at hst hworks
    cases hworks with
    | statement => cases hst
    | request hw =>
      cases hw with
      | createSession => exact (Option.some.inj htime).symm
      | deleteSessions => cases htime

theorem forward_step {steps : List Step}
    (h : (s.clock :: (st :: steps).filterMap Step.clock).Pairwise (· ≤ ·)) :
    s.clock ≤ st.clock.getD s.clock ∧
      ((s.step st).2.clock :: steps.filterMap Step.clock).Pairwise (· ≤ ·) := by
  rw [show (s.step st).2.clock = st.clock.getD s.clock from act_clock (s.tick st) st.action]
  cases htime : st.clock with
  | none => exact ⟨le_refl _, by simpa [htime] using h⟩
  | some time =>
    rw [List.filterMap_cons_some htime, List.pairwise_cons] at h
    exact ⟨h.1 time List.mem_cons_self, h.2⟩

theorem current_run {steps more : List Step} (h : s.Current)
    (hservice : ∀ st ∈ steps, st.action.isService = true)
    (hyears : ∀ st ∈ steps, ∀ time, st.clock = some time → time.FourDigitYear)
    (hforward : (s.clock :: (steps ++ more).filterMap Step.clock).Pairwise (· ≤ ·)) :
    (s.run steps).2.Current ∧
      ((s.run steps).2.clock :: more.filterMap Step.clock).Pairwise (· ≤ ·) := by
  induction steps generalizing s with
  | nil => exact ⟨h, hforward⟩
  | cons st rest ih =>
    obtain ⟨hnow, hlater⟩ := forward_step hforward
    have hst := h.step (hservice st List.mem_cons_self) (hyears st List.mem_cons_self) hnow
    exact ih hst (fun st' hst' => hservice st' (List.mem_cons_of_mem _ hst'))
      (fun st' hst' => hyears st' (List.mem_cons_of_mem _ hst')) hlater

-- ---------------------------------------------------------------------------
-- What is unread after sending
-- ---------------------------------------------------------------------------

/-- In a session whose clock does not go back, a message that is sent is one more for each other
participant, but for one whose marker stands at this very time. For everybody else, and in every
other conversation, the counts stay as they are. -/
theorem sent_unread (clock : Instant) (hclock : clock.FourDigitYear) (steps : List Step) (st : Step)
    (hservice : ∀ st' ∈ steps ++ [st], st'.action.isService = true)
    (hyears : ∀ st' ∈ steps ++ [st], ∀ time, st'.clock = some time → time.FourDigitYear)
    (hforward : (clock :: (steps ++ [st]).filterMap Step.clock).Pairwise (· ≤ ·))
    (s : System) (hs : s = ((start clock).run steps).2) (hsent : s.sent? st = some (c, v)) :
    let now := st.clock.getD s.clock
    let t := s.db.committed
    let t' := (s.step st).2.db.committed
    (∀ p ∈ t.participants.rows, p.conversationId = c → p.userId ≠ v →
      t'.countUnread c p.userId =
        t.countUnread c p.userId + if p.lastReadAt = some (.of now) then 0 else 1) ∧
    ∀ c' u, (c' ≠ c ∨ u = v ∨ t.isParticipant c u = false) →
      t'.countUnread c' u = t.countUnread c' u := by
  intro now t t'
  obtain ⟨hcurrent, hlater⟩ : s.Current ∧ (s.clock :: [st].filterMap Step.clock).Pairwise (· ≤ ·) :=
    hs ▸ current_run (current_start hclock)
      (fun st' hst' => hservice st' (List.mem_append_left _ hst'))
      (fun st' hst' => hyears st' (List.mem_append_left _ hst')) hforward
  have hst : st ∈ steps ++ [st] := List.mem_append_right _ List.mem_cons_self
  have hforward := (forward_step hlater).1
  obtain ⟨hinOrder, (hpast : t.Past (.of now))⟩ := hcurrent.tick (hyears st hst) hforward
  have hwhole : t.Integrity := hinOrder.whole
  have hwhole' : t'.Integrity :=
    (hcurrent.step (hservice st hst) (hyears st hst) hforward).inOrder.whole
  obtain ⟨m, row, rfl, rfl, hrow, ht'⟩ := sent?_some hsent
  have hstamp : max now row.updatedAt.instant = now :=
    hpast.max_eq hinOrder.ordered hinOrder.clock (Tables.conversationById_ok hrow).1
  replace ht' : t' = t.withMessage m now := ht'.trans (congrArg (t.withMessage m) hstamp)
  rw [ht'] at hwhole' ⊢
  refine ⟨fun p hp hc hne => ?_, fun c' u h => ?_⟩
  · rw [← hc, Tables.countUnread_withMessage hwhole hwhole' hp,
      hpast.isUnread hp (m := t.messageRow m now) rfl]
    simp only [Tables.messageRow, hc, beq_self_eq_true, Bool.true_and, Bool.and_eq_true,
      bne_iff_ne, ne_eq, hne.symm, not_false_eq_true, true_and]
    by_cases hmarker : p.lastReadAt = some (.of now)
    · rw [if_neg (not_not_intro hmarker), if_pos hmarker]
    · rw [if_pos hmarker, if_neg hmarker]
  · cases hmember : t.isParticipant c' u with
    | false =>
      have hmember' : (t.withMessage m now).isParticipant c' u = false := hmember
      rw [Tables.countUnread_of_not_member hmember, Tables.countUnread_of_not_member hmember']
    | true =>
      obtain ⟨p, hp, rfl, rfl⟩ := Tables.isParticipant_iff.mp hmember
      rw [Tables.countUnread_withMessage hwhole hwhole' hp, if_neg, Nat.add_zero]
      intro hunread
      simp only [Tables.isUnread, Tables.messageRow, Bool.and_eq_true, beq_iff_eq, bne_iff_ne]
        at hunread
      obtain ⟨hin, hne, -⟩ := hunread
      rcases h with h | h | h
      · exact h hin.symm
      · exact hne h.symm
      · rw [hin, hmember] at h
        cases h

def readBefore : List Step :=
  [⟨none, .store (.createAccount ⟨"ada", "ada@example.org", "h", "customer"⟩ "t1")⟩,
    ⟨none, .store (.createAccount ⟨"bob", "bob@example.org", "h", "customer"⟩ "t2")⟩,
    ⟨none, .store (.getOrCreateDirect 1 2)⟩,
    ⟨none, .store (.markAsRead 1 2)⟩]

theorem sent_at_marker_read :
    let s := ((start .epoch).run readBefore).2
    let st : Step := ⟨none, .store (.sendMessage ⟨1, 1, "aGk=", "k"⟩)⟩
    (Instant.epoch :: (readBefore ++ [st]).filterMap Step.clock).Pairwise (· ≤ ·) ∧
      s.sent? st = some (1, 1) ∧ s.db.committed.isParticipant 1 2 = true ∧
      s.db.committed.countUnread 1 2 = 0 ∧ (s.step st).2.db.committed.countUnread 1 2 = 0 := by
  decide +kernel

theorem sent_after_marker :
    let s := ((start .epoch).run readBefore).2
    let st : Step := ⟨some ⟨10, 0, .inl (by decide)⟩, .store (.sendMessage ⟨1, 1, "aGk=", "k"⟩)⟩
    (s.step st).2.db.committed.countUnread 1 2 = s.db.committed.countUnread 1 2 + 1 := by
  intro s st
  have hcount := (sent_unread .epoch (by decide +kernel) readBefore st (by decide +kernel) ?_
    (by decide +kernel) s rfl (c := 1) (v := 1) (by decide +kernel)).1
    ⟨2, 1, 2, .of .epoch, some (.of .epoch)⟩ (by decide +kernel) rfl (by decide)
  · rw [hcount, if_neg (by decide +kernel)]
  · intro st' hst' time htime
    simp only [readBefore, st, List.cons_append, List.nil_append, List.mem_cons, List.not_mem_nil,
      or_false] at hst'
    rcases hst' with rfl | rfl | rfl | rfl | rfl <;> cases htime
    decide +kernel

end System
end Parley
