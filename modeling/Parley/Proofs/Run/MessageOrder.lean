import Parley.Proofs.Run.Step
import Parley.Proofs.Store.Listing
import Parley.Proofs.Store.MessageOrder

/-!
# The order of messages over a run

Where messages are only sent, never inserted on their own, the messages of a conversation stand in
the order of their times however the clock has moved.
-/

namespace Parley

structure Step.Dated (st : Step) : Prop where
  clock : ∀ time, st.clock = some time → time.FourDigitYear
  change : st.action.Within Change.Dated

def Change.KeepsOrder (c : Change) : Prop := c.Dated ∧ c.isMessage = false

theorem Operation.Makes.time?_eq {op : Operation} (h : op.Makes now c)
    (hop : ∀ m, op ≠ .sendMessage m) :
    c.isMessage = false ∧ ∀ time, c.time? = some time → time = now := by
  cases op <;> cases c <;> first
    | exact h.elim
    | exact absurd rfl (hop _)
    | exact ⟨rfl, fun _ htime => (Option.some.inj htime).symm.trans h.2⟩
    | exact ⟨rfl, fun _ htime => (Option.some.inj htime).symm.trans h.2.2⟩

/-- Work sends a message, or it is a change on its own, or all of it is given the time of the clock.
-/
theorem Work.Does.cases (h : Work.Does now db db' w) :
    (∃ m row, db.committed.conversationById m.conversationId = .ok row ∧
      db'.committed = db.committed.withMessage m (max now row.updatedAt.instant)) ∨
    db.committed.Reaches (fun c => w = .change c ∨
      c.isMessage = false ∧ ∀ time, c.time? = some time → time = now) db'.committed := by
  cases w with
  | change c => exact .inr (h.commits.reaches.mono fun c' hc' => .inl (congrArg _ hc'.symm))
  | operation op =>
    by_cases hop : ∃ m, op = .sendMessage m
    · obtain ⟨m, rfl⟩ := hop
      obtain ⟨h⟩ := h
      obtain ⟨s, hs, -⟩ := Database.map_ok.mp h
      rcases Database.sendMessage_cases hs with ⟨row, hrow, -, -, rfl⟩ | ⟨_, -, -, rfl⟩
      · exact .inl ⟨m, row, hrow, rfl⟩
      · exact .inr .refl
    · refine .inr (h.commits.reaches.mono fun c hc => .inr (hc.time?_eq ?_))
      exact fun m heq => hop ⟨m, heq⟩

namespace Tables

theorem Reaches.ordered {t t' : Tables} (h : t.Reaches Change.KeepsOrder t') (ht : t.Integrity)
    (ho : t.Ordered) : t'.Ordered := by
  refine (h.invariant (P := fun t => t.Integrity ∧ t.Ordered) ⟨ht, ho⟩ ?_).2
  rintro t c t' ⟨ht, ho⟩ ⟨hyears, hkeeps⟩ hc
  exact ⟨ht.change hc, ho.change ht hyears hkeeps hc⟩

end Tables

theorem Work.Does.ordered (h : Work.Does now db db' w)
    (hw : ∀ c, w = .change c → c.KeepsOrder) (hnow : now.FourDigitYear)
    (ht : db.committed.Integrity) (ho : db.committed.Ordered) : db'.committed.Ordered := by
  rcases h.cases with ⟨m, row, hrow, heq⟩ | hreaches
  · rw [heq]
    exact ho.withMessage ht hrow hnow
  · refine (hreaches.mono ?_).ordered ht ho
    rintro c (hc | ⟨hmessage, htime⟩)
    · exact hw c hc
    · exact ⟨fun time h => htime time h ▸ hnow, hmessage⟩

namespace System

/-- The clock is in a four-digit year, the tables are whole and their messages in order, and the
held transaction will keep them so. -/
structure InOrder (s : System) : Prop where
  clock : s.clock.FourDigitYear
  consistent : s.db.Consistent Change.KeepsOrder
  whole : s.db.committed.Integrity
  ordered : s.db.committed.Ordered

theorem inOrder_start {clock : Instant} (hclock : clock.FourDigitYear) : (start clock).InOrder :=
  ⟨hclock, consistent_start clock, Tables.integrity_empty, Tables.ordered_empty⟩

theorem year_tick {s : System} {st : Step} (h : s.clock.FourDigitYear)
    (hst : ∀ time, st.clock = some time → time.FourDigitYear) :
    (s.tick st).clock.FourDigitYear := by
  cases htime : st.clock with
  | none => simpa [tick, htime] using h
  | some time => simpa [tick, htime] using hst time htime

theorem InOrder.step {s : System} (h : s.InOrder) {st : Step} (hdated : st.Dated)
    (hmessages : st.action.Within fun c => c.isMessage = false) : (s.step st).2.InOrder := by
  have hclock : (s.tick st).clock.FourDigitYear := year_tick h.clock hdated.clock
  have hwithin : st.action.Within Change.KeepsOrder :=
    fun held c heq => ⟨hdated.change held c heq, hmessages held c heq⟩
  obtain ⟨hconsistent, hmoves⟩ := act_moves (s := s.tick st) h.consistent hwithin
  refine ⟨(act_clock (s.tick st) st.action).symm ▸ hclock, hconsistent,
    hmoves.reaches.integrity h.whole, ?_⟩
  cases hmoves with
  | rest hsame => exact hsame ▸ h.ordered
  | commit hreaches => exact hreaches.ordered h.whole h.ordered
  | work hworks hdoes =>
    refine hdoes.ordered (fun c hc => ?_) hclock h.whole h.ordered
    subst hc
    generalize st.action = action at hworks hwithin
    cases hworks with
    | statement => exact hwithin _ _ rfl
    | request hreq =>
      cases hreq with
      | createSession => exact ⟨fun _ htime => Option.some.inj htime ▸ hclock, rfl⟩
      | deleteSessions => exact ⟨by rintro _ ⟨⟩, rfl⟩

/-- In a run that only sends messages, and all of whose times are in four-digit years, the messages of
a conversation by their ids are also in the order of their times, none of which is before the making
of the conversation or after its last activity, and a listing shows them from the last to the first.
-/
theorem messages_in_order (clock : Instant) (hclock : clock.FourDigitYear) (steps : List Step)
    (hdated : ∀ st ∈ steps, st.Dated)
    (hmessages : ∀ st ∈ steps, st.action.Within fun c => c.isMessage = false)
    (t : Tables) (ht : t = ((start clock).run steps).2.db.committed) :
    ∀ c ∈ t.conversations.rows,
      let messages := t.messages.rows.filter (·.conversationId == c.id)
      messages.Pairwise
        (fun m m' => m.id < m'.id ∧ m.sentAt.instant ≤ m'.sentAt.instant) ∧
      (∀ m ∈ messages, c.createdAt.instant ≤ m.sentAt.instant ∧
        m.sentAt.instant ≤ c.updatedAt.instant) ∧
      ∀ page, t.listMessages c.id page = page.cut messages.reverse := by
  obtain ⟨-, -, hwhole, hordered⟩ : ((start clock).run steps).2.InOrder :=
    run_keeps (inOrder_start hclock) fun _ hs st hst => hs.step (hdated st hst) (hmessages st hst)
  rw [← ht] at hwhole hordered
  intro c hc messages
  have hids : messages.Pairwise fun m m' => m.id < m'.id :=
    (List.pairwise_map.mp hwhole.messageIds.ascending.1).sublist List.filter_sublist
  have hmem : ∀ m ∈ messages, m ∈ t.messages.rows ∧ c.id = m.conversationId := by
    intro m hm
    obtain ⟨hm, hin⟩ := List.mem_filter.mp hm
    exact ⟨hm, (beq_iff_eq.mp hin).symm⟩
  have htimes : messages.Pairwise fun m m' => m.sentAt ≤ m'.sentAt :=
    (hordered.inOrder.sublist List.filter_sublist).imp_of_mem fun hm hm' hle =>
      hle ((hmem _ hm).2.symm.trans (hmem _ hm').2)
  have hyear (m : Message) (hm : m ∈ messages) := hordered.messageYears m (hmem m hm).1
  refine ⟨?_, fun m hm => ?_, fun page => ?_⟩
  · refine (hids.and htimes).imp_of_mem ?_
    rintro m m' hm hm' ⟨hid, htime⟩
    exact ⟨hid, (Stamp.instant_le_instant (hyear m hm) (hyear m' hm')).mpr htime⟩
  · obtain ⟨hcreated, hupdated⟩ := hordered.conversationYears c hc
    obtain ⟨hafter, hbefore⟩ := hordered.between m (hmem m hm).1 c hc (hmem m hm).2
    exact ⟨(Stamp.instant_le_instant hcreated (hyear m hm)).mpr hafter,
      (Stamp.instant_le_instant (hyear m hm) hupdated).mpr hbefore⟩
  · rw [Tables.listMessages, Tables.allMessages_eq_reverse hwhole htimes]

/-- The clock goes back between two messages. -/
def sendingBackwards : List Step :=
  [⟨none, .store (.createAccount ⟨"ada", "ada@example.org", "h", "customer"⟩ "t1")⟩,
    ⟨none, .store (.createAccount ⟨"bob", "bob@example.org", "h", "customer"⟩ "t2")⟩,
    ⟨none, .store (.getOrCreateDirect 1 2)⟩,
    ⟨some ⟨100, 0, .inl (by decide)⟩, .store (.sendMessage ⟨1, 1, "aGk=", "k1"⟩)⟩,
    ⟨some ⟨50, 0, .inl (by decide)⟩, .store (.sendMessage ⟨1, 2, "eW8=", "k2"⟩)⟩]

theorem sendingBackwards_in_order :
    let t := ((start .epoch).run sendingBackwards).2.db.committed
    t.messages.rows.map (·.sentAt.instant.seconds) = [100, 100] ∧
    ∀ c ∈ t.conversations.rows, ∀ page, t.listMessages c.id page =
      page.cut (t.messages.rows.filter (·.conversationId == c.id)).reverse := by
  refine ⟨by decide +kernel, fun c hc =>
    (messages_in_order .epoch (by decide +kernel) sendingBackwards ?_ ?_ _ rfl c hc).2.2⟩
  · intro st hst
    simp only [sendingBackwards, List.mem_cons, List.not_mem_nil, or_false] at hst
    rcases hst with rfl | rfl | rfl | rfl | rfl
    all_goals
      refine ⟨?_, by rintro _ _ ⟨⟩⟩
      rintro _ ⟨⟩
    · decide +kernel
    · decide +kernel
  · intro st hst held c hc
    simp only [sendingBackwards, List.mem_cons, List.not_mem_nil, or_false] at hst
    rcases hst with rfl | rfl | rfl | rfl | rfl <;> cases hc

end System
end Parley
