import Mathlib.Data.List.TakeWhile
import Parley.Proofs.Http.Reflects
import Parley.Proofs.Store.Inbox

/-!
# The inbox follows from the history

Where the tables reflect a history, the inbox and the unread counts that are read from the tables are
those that follow from the history (`Reflects.inbox`, `Reflects.countUnread`).
-/

namespace Parley

open Http (Event Entry History)

-- ---------------------------------------------------------------------------
-- Histories
-- ---------------------------------------------------------------------------

namespace Http

theorem Event.partner?_iff {event : Event} :
    event.partner? u = some v ↔ ∃ c, event.between? u v = some c := by
  cases event <;> simp only [partner?, between?, reduceCtorEq, exists_false]
  split <;> split <;> simp_all
  all_goals omega

theorem History.mem_partners {h : History} :
    v ∈ h.partners u ↔ ∃ e ∈ h, ∃ c, e.event.between? u v = some c := by
  simp only [partners, List.mem_dedup, List.mem_filterMap, Event.partner?_iff]

theorem Event.between?_some {event : Event} (h : event.between? u v = some c) :
    ∃ isNew, event = .opened u v c isNew ∨ event = .opened v u c isNew := by
  cases event <;> simp only [between?, reduceCtorEq] at h
  split at h
  · rename_i hab
    cases h
    rcases hab with ⟨rfl, rfl⟩ | ⟨rfl, rfl⟩
    · exact ⟨_, .inl rfl⟩
    · exact ⟨_, .inr rfl⟩
  · cases h

theorem Event.isActivity_unique {event : Event} (h : event.isActivity c = true)
    (h' : event.isActivity c' = true) : c = c' := by
  cases event <;> simp_all [isActivity]

end Http

-- ---------------------------------------------------------------------------
-- Who is in a conversation
-- ---------------------------------------------------------------------------

namespace Tables

variable {t : Tables} {h : History} {u v w c : Int}

namespace Opened

theorem symm (ho : t.Opened u v c) : t.Opened v u c := by
  obtain ⟨pair, hpair, hfind⟩ := ho
  exact ⟨pair, Pair.of_swap hpair, hfind⟩

theorem unique (ho : t.Opened u v c) (ho' : t.Opened u v c') : c = c' := by
  obtain ⟨pair, hpair, hfind⟩ := ho
  obtain ⟨pair', hpair', hfind'⟩ := ho'
  obtain rfl := Except.ok.inj (hpair.symm.trans hpair')
  exact Except.ok.inj (hfind.symm.trans hfind')

theorem mem_left (ho : t.Opened u v c) : (c, u) ∈ t.members := by
  obtain ⟨pair, hpair, hfind⟩ := ho
  have hd := (findDirect_ok.mp hfind).1
  rcases Pair.of_ok hpair with ⟨rfl, -⟩ | ⟨-, rfl⟩
  · exact hd.low
  · exact hd.high

theorem mem_right (ho : t.Opened u v c) : (c, v) ∈ t.members := ho.symm.mem_left

theorem ne (ho : t.Opened u v c) : u ≠ v := by
  obtain ⟨pair, hpair, -⟩ := ho
  have := pair.low_lt_high
  rcases Pair.of_ok hpair with ⟨rfl, rfl⟩ | ⟨rfl, rfl⟩ <;> omega

theorem user (ho : t.Opened u v c) (hw : (c, w) ∈ t.members) : w = u ∨ w = v := by
  obtain ⟨pair, hpair, hfind⟩ := ho
  have hw := (findDirect_ok.mp hfind).1.user hw
  rcases Pair.of_ok hpair with ⟨rfl, rfl⟩ | ⟨rfl, rfl⟩
  · exact hw
  · exact hw.symm

theorem partner (ho : t.Opened u v c) (ho' : t.Opened u w c) : w = v :=
  (ho.user ho'.mem_right).resolve_left ho'.ne.symm

end Opened

-- ---------------------------------------------------------------------------
-- Reading the history in the tables
-- ---------------------------------------------------------------------------

namespace Reflects

theorem opened (hr : t.Reflects h) (he : e ∈ h) (hb : e.event.between? u v = some c) :
    t.Opened u v c := by
  obtain ⟨isNew, heq | heq⟩ := Event.between?_some hb
  · exact hr.rooms.opened e he _ _ _ _ heq
  · exact (hr.rooms.opened e he _ _ _ _ heq).symm

theorem opened_of_members (hr : t.Reflects h) (hu : (c, u) ∈ t.members) (hv : (c, v) ∈ t.members)
    (hne : u ≠ v) : t.Opened u v c ∧ ∃ e ∈ h, e.event.between? u v = some c := by
  simp only [Tables.members, List.mem_map, Prod.mk.injEq] at hu
  obtain ⟨p, hp, rfl, rfl⟩ := hu
  obtain ⟨row, hrow, hid⟩ := hr.whole.memberOf p hp
  obtain ⟨e, he, x, y, isNew, hevent⟩ := hr.rooms.rooms row hrow
  rw [hid] at hevent
  have ho := hr.rooms.opened e he x y _ isNew hevent
  have hp : (p.conversationId, p.userId) ∈ t.members := List.mem_map_of_mem hp
  have hb : e.event.between? p.userId v = some p.conversationId := by
    rcases ho.user hp with rfl | rfl <;> rcases ho.user hv with rfl | rfl
    · exact absurd rfl hne
    · simp [hevent, Event.between?]
    · simp [hevent, Event.between?]
    · exact absurd rfl hne
  exact ⟨hr.opened he hb, e, he, hb⟩

theorem conversationOf (hr : t.Reflects h) (he : e ∈ h) (hb : e.event.between? u v = some c) :
    h.conversationOf u v = c := by
  rw [History.conversationOf]
  cases hfind : h.findSome? (·.event.between? u v) with
  | none =>
    have := List.findSome?_eq_none_iff.mp hfind e he
    rw [hb] at this
    cases this
  | some c' =>
    obtain ⟨e', he', hb'⟩ := List.exists_of_findSome?_eq_some hfind
    exact (hr.opened he' hb').unique (hr.opened he hb)

theorem nameOf {u : User} (hr : t.Reflects h) (hu : u ∈ t.users.rows) :
    h.nameOf u.id = u.username := by
  rw [History.nameOf, hr.accounts.names u hu]
  rfl

theorem lastActivity {c : Conversation} (hr : t.Reflects h) (hc : c ∈ t.conversations.rows) :
    ∃ e ∈ h, e.event.isActivity c.id = true ∧ h.lastActivity c.id = e.clock ∧
      c.updatedAt = .of e.clock := by
  obtain ⟨e, he, hupdated⟩ := hr.rooms.active c hc
  have hactivity : e.event.isActivity c.id = true := by simpa using List.find?_some he
  refine ⟨e, List.mem_of_find?_eq_some he, hactivity, ?_, hupdated⟩
  rw [History.lastActivity, he]
  rfl

end Reflects
end Tables

-- ---------------------------------------------------------------------------
-- Unread messages
-- ---------------------------------------------------------------------------

/-- Whether a message that shows this of its event is one of a conversation that `u`, with this read
marker, has yet to read. -/
def unreadPosting (u c : Int) (marker : Option Stamp) : Stamp × Int × Int → Bool
  | (sentAt, sender, conversation) =>
    conversation == c && (sender != u && marker.all fun last => decide (last < sentAt))

namespace Http.History

variable {h after before : History} {u v c : Int}

theorem exists_lastRead (h : History) (u v c : Int) : ∃ after before, h = after ++ before ∧
    h.lastRead? u c = before.head?.map (·.clock) ∧
    h.unread u v c = after.countP (·.event == .sent v c) := by
  let isRead (e : Entry) : Bool := e.event == .read u c
  refine ⟨h.takeWhile (!isRead ·), h.dropWhile (!isRead ·), ?_, ?_, rfl⟩
  · exact List.takeWhile_append_dropWhile.symm
  · rw [lastRead?, h.find?_eq_head?_dropWhile_not]

section
variable (hyears : ∀ e ∈ after ++ before, e.clock.FourDigitYear)
  (horder : (after ++ before).Pairwise fun e e' => e'.clock < e.clock)
include hyears horder

theorem marker_lt (he : e ∈ after) : ((before.head?.map (·.clock)).map Stamp.of).all
    (fun last => decide (last < .of e.clock)) = true := by
  cases before with
  | nil => rfl
  | cons r rest =>
    have hr : r ∈ after ++ r :: rest := List.mem_append_right _ List.mem_cons_self
    have hlater : r.clock < e.clock := (List.pairwise_append.mp horder).2.2 e he r List.mem_cons_self
    have hlt := (Stamp.of_lt_of (hyears r hr) (hyears e (List.mem_append_left _ he))).mpr hlater
    rw [List.head?_cons, Option.map_some, Option.map_some, Option.all_some]
    exact decide_eq_true hlt

theorem le_marker (he : e ∈ before) : ((before.head?.map (·.clock)).map Stamp.of).all
    (fun last => decide (last < .of e.clock)) = false := by
  cases before with
  | nil => cases he
  | cons r rest =>
    have hr : r ∈ after ++ r :: rest := List.mem_append_right _ List.mem_cons_self
    have hbefore := (List.pairwise_append.mp horder).2.1
    have hle : e.clock ≤ r.clock := by
      rcases List.mem_cons.mp he with rfl | he
      · exact le_refl _
      · exact ((List.pairwise_cons.mp hbefore).1 e he).le
    have hle := (Stamp.of_le_of (hyears e (List.mem_append_right _ he)) (hyears r hr)).mpr hle
    rw [List.head?_cons, Option.map_some, Option.map_some, Option.all_some]
    exact decide_eq_false (not_lt.mpr hle)

end

/-- Of the messages, those after the last reading count, and of these those of the other user. -/
theorem countP_unreadPosting (hyears : ∀ e ∈ h, e.clock.FourDigitYear)
    (horder : h.Pairwise fun e e' => e'.clock < e.clock)
    (hsenders : ∀ e ∈ h, ∀ w, e.event = .sent w c → w = u ∨ w = v) (hne : v ≠ u) :
    (h.filterMap Entry.posting?).countP (unreadPosting u c ((h.lastRead? u c).map .of)) =
      h.unread u v c := by
  obtain ⟨after, before, rfl, hmarker, hunread⟩ := h.exists_lastRead u v c
  rw [hunread, hmarker, List.countP_filterMap, List.countP_append]
  have hold : before.countP (fun e => (e.posting?.map
      (unreadPosting u c ((before.head?.map (·.clock)).map .of))).getD false) = 0 := by
    refine List.countP_eq_zero.mpr fun e he hposting => ?_
    have hread := le_marker hyears horder he
    cases hevent : e.event with
    | sent w c' =>
      simp only [Entry.posting?, hevent, Option.map_some, Option.getD_some, unreadPosting, hread,
        Bool.and_false, Bool.false_eq_true] at hposting
    | _ => simp [Entry.posting?, hevent] at hposting
  rw [hold, Nat.add_zero]
  refine List.countP_congr fun e he => ?_
  have hlater := marker_lt hyears horder he
  cases hevent : e.event with
  | sent w c' =>
    have hw := hsenders e (List.mem_append_left _ he) w
    simp only [Entry.posting?, hevent, Option.map_some, Option.getD_some, unreadPosting, hlater,
      Bool.and_true, Bool.and_eq_true, beq_iff_eq, bne_iff_ne, Event.sent.injEq]
    constructor
    · rintro ⟨rfl, hwu⟩
      exact ⟨(hw hevent).resolve_left hwu, rfl⟩
    · rintro ⟨rfl, rfl⟩
      exact ⟨rfl, hne⟩
  | _ => simp [Entry.posting?, hevent]

end Http.History

namespace Tables

variable {t : Tables} {h : History} {u v c : Int}

namespace Reflects

theorem sender (hr : t.Reflects h) (he : e ∈ h) (hsent : e.event = .sent v c) :
    (c, v) ∈ t.members := by
  have hposting : (Stamp.of e.clock, v, c) ∈ t.messages.rows.map Message.posting := by
    rw [hr.posts.messages, List.mem_reverse, List.mem_filterMap]
    exact ⟨e, he, by rw [Entry.posting?, hsent]⟩
  obtain ⟨m, hm, heq⟩ := List.mem_map.mp hposting
  simp only [Message.posting, Prod.mk.injEq] at heq
  obtain ⟨-, rfl, rfl⟩ := heq
  exact hr.posts.senders m hm

theorem unread (hr : t.Reflects h) (hme : me ∈ t.participants.rows)
    (ho : t.Opened me.userId v me.conversationId) :
    (t.messages.rows.countP fun m =>
      m.conversationId == me.conversationId && isUnread m me.userId me.lastReadAt) =
      h.unread me.userId v me.conversationId := by
  have hsenders : ∀ e ∈ h, ∀ w, e.event = .sent w me.conversationId → w = me.userId ∨ w = v :=
    fun e he w hsent => ho.user (hr.sender he hsent)
  rw [← History.countP_unreadPosting hr.years hr.order hsenders ho.ne.symm,
    ← hr.posts.markers me hme, ← List.countP_reverse (l := h.filterMap Entry.posting?),
    ← hr.posts.messages, List.countP_map]
  rfl

theorem countUnread (hr : t.Reflects h) (ho : t.Opened u v c) :
    t.countUnread c u = h.unread u v c := by
  have hmem := ho.mem_left
  simp only [Tables.members, List.mem_map, Prod.mk.injEq] at hmem
  obtain ⟨me, hme, rfl, rfl⟩ := hmem
  rw [countUnread_eq hr.whole hme, hr.unread hme ho]

-- ---------------------------------------------------------------------------
-- Inbox lines
-- ---------------------------------------------------------------------------

theorem entry_eq_line (hr : t.Reflects h) {me : Participant} {c : Conversation} {w : User}
    (hme : me ∈ t.participants.rows) (hc : c ∈ t.conversations.rows)
    (hin : c.id = me.conversationId) (hw : w ∈ t.users.rows) (ho : t.Opened me.userId w.id c.id)
    (he : e ∈ h) (hb : e.event.between? me.userId w.id = some c.id) :
    t.entry me c w = h.line me.userId w.id := by
  obtain ⟨last, -, -, hlast, hupdated⟩ := hr.lastActivity hc
  have hunread := hr.unread hme (hin ▸ ho)
  rw [← hin] at hunread
  rw [entry, History.line, hr.conversationOf he hb, hr.nameOf hw, hlast, ← hupdated, hunread]

theorem mem_inboxEntries (hr : t.Reflects h) {e : InboxEntry} :
    e ∈ t.inboxEntries u ↔ ∃ v ∈ h.partners u, e = h.line u v := by
  rw [Tables.mem_inboxEntries]
  constructor
  · rintro ⟨me, hme, rfl, c, hc, hin, w, hw, hne, hmember, rfl⟩
    have hself : (c.id, me.userId) ∈ t.members :=
      List.mem_map.mpr ⟨me, hme, by rw [hin]⟩
    obtain ⟨ho, x, hx, hb⟩ := hr.opened_of_members hself hmember hne.symm
    exact ⟨w.id, History.mem_partners.mpr ⟨x, hx, _, hb⟩,
      hr.entry_eq_line hme hc hin hw ho hx hb⟩
  · rintro ⟨v, hv, rfl⟩
    obtain ⟨x, hx, c, hb⟩ := History.mem_partners.mp hv
    have ho := hr.opened hx hb
    have hself := ho.mem_left
    have hother := ho.mem_right
    have hne := ho.ne
    simp only [Tables.members, List.mem_map, Prod.mk.injEq] at hself hother
    obtain ⟨me, hme, rfl, rfl⟩ := hself
    obtain ⟨other, hother, hsame, rfl⟩ := hother
    obtain ⟨row, hrow, hid⟩ := hr.whole.memberOf me hme
    obtain ⟨w, hw, hwid⟩ := hr.whole.memberUser other hother
    rw [← hwid, ← hid] at ho hb
    refine ⟨me, hme, rfl, row, hrow, hid, w, hw, ?_, ?_, ?_⟩
    · rw [hwid]
      exact hne.symm
    · exact ho.mem_right
    · rw [← hwid]
      exact (hr.entry_eq_line hme hrow hid hw ho hx hb).symm

theorem partner (hr : t.Reflects h) (hv : v ∈ h.partners u) :
    t.Opened u v (h.conversationOf u v) ∧ ∃ e ∈ h,
      e.event.isActivity (h.conversationOf u v) = true ∧
      h.lastActivity (h.conversationOf u v) = e.clock := by
  obtain ⟨x, hx, c, hb⟩ := History.mem_partners.mp hv
  have ho := hr.opened hx hb
  have hmem := ho.mem_left
  simp only [Tables.members, List.mem_map, Prod.mk.injEq] at hmem
  obtain ⟨me, hme, rfl, rfl⟩ := hmem
  obtain ⟨row, hrow, hid⟩ := hr.whole.memberOf me hme
  obtain ⟨e, he, hactivity, hlast, -⟩ := hr.lastActivity hrow
  rw [hr.conversationOf hx hb, ← hid]
  exact ⟨hid.symm ▸ ho, e, he, hactivity, hlast⟩

/-- No two lines are active at one time: each event is about one conversation. -/
theorem partner_of_activity (hr : t.Reflects h) (hv : v ∈ h.partners u) (hw : w ∈ h.partners u)
    (heq : h.lastActivity (h.conversationOf u v) = h.lastActivity (h.conversationOf u w)) :
    v = w := by
  obtain ⟨ho, e, he, hactivity, hlast⟩ := hr.partner hv
  obtain ⟨ho', e', he', hactivity', hlast'⟩ := hr.partner hw
  have hclocks : (h.map (·.clock)).Nodup := List.pairwise_map.mpr (hr.order.imp ne_of_gt)
  have hevent : e = e' :=
    List.inj_on_of_nodup_map hclocks he he' (hlast.symm.trans (heq.trans hlast'))
  rw [Event.isActivity_unique hactivity (hevent ▸ hactivity')] at ho
  exact ho'.partner ho

theorem activity_year (hr : t.Reflects h) (hv : v ∈ h.partners u) :
    (h.lastActivity (h.conversationOf u v)).FourDigitYear := by
  obtain ⟨-, e, he, -, hlast⟩ := hr.partner hv
  exact hlast ▸ hr.years e he

theorem pairwise_inbox (hr : t.Reflects h) (u : Int) :
    (h.inbox u).Pairwise fun a b => mostRecentFirst a b = true := by
  rw [History.inbox, List.pairwise_map]
  refine (List.pairwise_mergeSort (fun a b c hab hbc => ?_) (fun a b => ?_) _).imp_of_mem ?_
  · simp only [decide_eq_true_eq] at hab hbc ⊢
    exact hbc.trans hab
  · simpa using le_total _ _
  · intro v w hv hw hle
    replace hv := (List.mergeSort_perm ..).subset hv
    replace hw := (List.mergeSort_perm ..).subset hw
    have hle := (Stamp.of_le_of (hr.activity_year hw) (hr.activity_year hv)).mpr
      (of_decide_eq_true hle)
    rw [mostRecentFirst_iff]
    rcases lt_or_eq_of_le hle with hlt | heq
    · exact .inl hlt
    · have htimes := congrArg Stamp.instant heq
      rw [Stamp.instant_of, Stamp.instant_of] at htimes
      obtain rfl := hr.partner_of_activity hv hw htimes.symm
      exact .inr ⟨rfl, .inr ⟨rfl, le_refl _⟩⟩

theorem inbox (hr : t.Reflects h) (u : Int) : t.inbox u = h.inbox u := by
  -- Both have the same lines, none twice, and no two of them tie in the order.
  have hmem {e : InboxEntry} : e ∈ h.inbox u ↔ ∃ v ∈ h.partners u, h.line u v = e := by
    simp only [History.inbox, List.mem_map, List.mem_mergeSort]
  have hnodup : (h.inbox u).Nodup := by
    refine List.Nodup.map (fun v w heq => congrArg InboxEntry.otherUserId heq) ?_
    exact (List.mergeSort_perm ..).nodup_iff.mpr (List.nodup_dedup _)
  refine mergeSort_eq mostRecentFirst_trans mostRecentFirst_total (fun a ha b hb hab hba => ?_)
    ((List.perm_ext_iff_of_nodup (nodup_inboxEntries hr.whole u) hnodup).mpr fun e => ?_)
    (hr.pairwise_inbox u)
  · obtain ⟨v, -, rfl⟩ := hmem.mp ha
    obtain ⟨w, -, rfl⟩ := hmem.mp hb
    exact congrArg (h.line u) (mostRecentFirst_user hab hba)
  · rw [hr.mem_inboxEntries, hmem]
    exact exists_congr fun v => and_congr_right fun _ => eq_comm

end Reflects
end Tables
end Parley
