import Parley.Proofs.Http.Effect
import Parley.Proofs.Store.MessageOrder

/-!
# Tables that reflect a history

`Tables.Reflects` ties every stored token, name, conversation, time and message to the events of a
history. `Reflects.effect` says that an event keeps it, if it is later than all before it: a marker or
the time of an activity that it sets is then the time of the event.
-/

namespace Parley

open Http (Event Entry History)

namespace Http

/-- What a message shows of its event: when, by whom and where it was sent. -/
def Entry.posting? (e : Entry) : Option (Stamp × Int × Int) :=
  match e.event with
  | .sent user conversation => some (.of e.clock, user, conversation)
  | _ => none

def History.lastRead? (h : History) (user conversation : Int) : Option Instant :=
  (h.find? (·.event == .read user conversation)).map (·.clock)

theorem History.lastRead?_cons (now : Instant) (event : Event) (h : History) (u c : Int) :
    History.lastRead? (⟨now, event⟩ :: h) u c =
      if event = .read u c then some now else h.lastRead? u c := by
  rw [lastRead?, List.find?_cons]
  by_cases he : event = .read u c
  · simp [he]
  · simp [he, lastRead?, beq_eq_false_iff_ne.mpr he]

def Event.isAccount : Event → Bool
  | named .. | left _ => true
  | _ => false

/-- Whether an event opens a conversation or is the last activity of one. -/
def Event.isRoom : Event → Bool
  | opened .. | sent .. => true
  | _ => false

def Event.isPost : Event → Bool
  | sent .. | read .. => true
  | _ => false

end Http

def Message.posting (m : Message) : Stamp × Int × Int := (m.sentAt, m.senderId, m.conversationId)

namespace Tables

variable {t t' : Tables} {h : History} {event : Event} {now : Instant}

-- ---------------------------------------------------------------------------
-- Accounts
-- ---------------------------------------------------------------------------

structure ReflectsAccounts (t : Tables) (h : History) : Prop where
  tokens : ∀ token,
    (t.sessions.rows.find? (·.token == token)).map (·.userId) = History.holder token h
  names : ∀ u ∈ t.users.rows, h.findSome? (·.event.name? u.id) = some u.username

namespace ReflectsAccounts

theorem frame (ha : t.ReflectsAccounts h) (hu : t'.users = t.users)
    (hs : t'.sessions = t.sessions) (hevent : event.isAccount = false) :
    t'.ReflectsAccounts (⟨now, event⟩ :: h) where
  tokens token := by
    rw [hs, ha.tokens]
    cases event <;> first | rfl | cases hevent
  names u hu' := by
    rw [hu] at hu'
    rw [List.findSome?_cons, ← ha.names u hu']
    cases event <;> first | rfl | cases hevent

theorem find?_add {token tok : String} {now : Instant} {u : Int}
    (hnew : ∀ s ∈ t.sessions.rows, s.token ≠ token) :
    ((t.sessions.add (t.sessionRow u token now)).rows.find? (·.token == tok)).map (·.userId) =
      if token = tok then some u
      else (t.sessions.rows.find? (·.token == tok)).map (·.userId) := by
  rw [Table.rows_add, List.find?_append]
  by_cases htok : token = tok
  · subst htok
    have hnone : t.sessions.rows.find? (·.token == token) = none :=
      List.find?_eq_none.mpr fun s hs => by simpa using hnew s hs
    simp [hnone, sessionRow]
  · simp [htok, sessionRow]

theorem find?_remove (ht : t.Integrity) (u : Int) {tok : String} :
    ((t.sessions.remove (·.userId == u)).rows.find? (·.token == tok)).map (·.userId) =
      ((t.sessions.rows.find? (·.token == tok)).map (·.userId)).filter (· != u) := by
  cases hfind : t.sessions.rows.find? (·.token == tok) with
  | none =>
    have hnone := List.find?_eq_none.mp hfind
    rw [List.find?_eq_none.mpr fun s hs => hnone s (Table.mem_rows_remove.mp hs).1]
    rfl
  | some s =>
    have hs := List.mem_of_find?_eq_some hfind
    obtain rfl : s.token = tok := by simpa using List.find?_some hfind
    by_cases hu : s.userId = u
    · rw [List.find?_eq_none.mpr fun s' hs' htok => ?_]
      · simp [Option.filter, hu]
      · obtain ⟨hs', hu'⟩ := Table.mem_rows_remove.mp hs'
        obtain rfl := List.inj_on_of_nodup_map ht.tokens hs' hs (beq_iff_eq.mp htok)
        simp [hu] at hu'
    · have hkept : s ∈ (t.sessions.remove (·.userId == u)).rows :=
        Table.mem_rows_remove.mpr ⟨hs, by simpa using hu⟩
      have hnodup : ((t.sessions.remove (·.userId == u)).rows.map Session.token).Nodup :=
        ht.tokens.sublist (List.filter_sublist.map _)
      rw [find?_of_nodup hnodup hkept]
      simp [Option.filter, hu]

theorem joined (ha : t.ReflectsAccounts h) (ht : t.Integrity)
    (hnew : ∀ s ∈ t.sessions.rows, s.token ≠ token) :
    (t.withAccount user token now).ReflectsAccounts
      (⟨now, .named token t.users.nextId user.username⟩ :: h) where
  tokens tok := by
    rw [History.holder, ← ha.tokens]
    exact find?_add hnew
  names u hu := by
    simp only [withAccount, Table.rows_add, List.mem_append, List.mem_singleton] at hu
    rw [List.findSome?_cons]
    rcases hu with hu | rfl
    · have hold : t.users.nextId ≠ u.id := ne_of_gt (ht.userIds.ascending.2 u hu)
      simpa [Event.name?, hold] using ha.names u hu
    · simp [Event.name?, userRow]

theorem returned (ha : t.ReflectsAccounts h) (ht : t.Integrity) (hu : u ∈ t.users.rows)
    (hnew : ∀ s ∈ t.sessions.rows, s.token ≠ token) :
    ReflectsAccounts { t with sessions := t.sessions.add (t.sessionRow u.id token now) }
      (⟨now, .named token u.id u.username⟩ :: h) where
  tokens tok := by
    rw [History.holder, ← ha.tokens]
    exact find?_add hnew
  names v hv := by
    rw [List.findSome?_cons]
    by_cases hid : u.id = v.id
    · obtain rfl := ht.userIds.ascending.eq_of_id hu hv hid
      simp [Event.name?]
    · simpa [Event.name?, hid] using ha.names v hv

theorem left (ha : t.ReflectsAccounts h) (ht : t.Integrity) (u : Int) :
    ReflectsAccounts { t with sessions := t.sessions.remove (·.userId == u) }
      (⟨now, .left u⟩ :: h) where
  tokens tok := by
    rw [History.holder, ← ha.tokens]
    exact find?_remove ht u
  names v hv := by
    rw [List.findSome?_cons]
    exact ha.names v hv

end ReflectsAccounts

-- ---------------------------------------------------------------------------
-- Conversations
-- ---------------------------------------------------------------------------

def Opened (t : Tables) (u v c : Int) : Prop :=
  ∃ pair, Pair.of u v = .ok pair ∧ t.findDirect pair = .ok c

structure ReflectsRooms (t : Tables) (h : History) : Prop where
  opened : ∀ e ∈ h, ∀ u v c isNew, e.event = .opened u v c isNew → t.Opened u v c
  rooms : ∀ c ∈ t.conversations.rows, ∃ e ∈ h, ∃ u v isNew, e.event = .opened u v c.id isNew
  active : ∀ c ∈ t.conversations.rows, ∃ e,
    h.find? (·.event.isActivity c.id) = some e ∧ c.updatedAt = .of e.clock

theorem Opened.joins (ht : t.Integrity) (hj : t.Joins t') (ho : t.Opened u v c) :
    t'.Opened u v c := by
  obtain ⟨pair, hpair, hfind⟩ := ho
  exact ⟨pair, hpair, findDirect_of_joins ht hj hfind⟩

namespace ReflectsRooms

theorem frame (hr : t.ReflectsRooms h) (ht : t.Integrity) (hm : t'.members = t.members)
    (hc : t'.conversations = t.conversations) (hevent : event.isRoom = false) :
    t'.ReflectsRooms (⟨now, event⟩ :: h) where
  opened e he u v c isNew heq := by
    rcases List.mem_cons.mp he with rfl | he
    · cases heq
      cases hevent
    · exact (hr.opened e he u v c isNew heq).joins ht (joins_of_members hm)
  rooms c hc' := by
    rw [hc] at hc'
    obtain ⟨e, he, hopened⟩ := hr.rooms c hc'
    exact ⟨e, List.mem_cons_of_mem _ he, hopened⟩
  active c hc' := by
    rw [hc] at hc'
    have hrest : event.isActivity c.id = false := by
      cases event <;> first | rfl | cases hevent
    rw [List.find?_cons_of_neg (by simp [hrest])]
    exact hr.active c hc'

theorem found (hr : t.ReflectsRooms h) (hpair : Pair.of u v = .ok pair)
    (hfind : t.findDirect pair = .ok c) :
    t.ReflectsRooms (⟨now, .opened u v c false⟩ :: h) where
  opened e he u' v' c' isNew heq := by
    rcases List.mem_cons.mp he with rfl | he
    · cases heq
      exact ⟨pair, hpair, hfind⟩
    · exact hr.opened e he u' v' c' isNew heq
  rooms c' hc' := by
    obtain ⟨e, he, hopened⟩ := hr.rooms c' hc'
    exact ⟨e, List.mem_cons_of_mem _ he, hopened⟩
  active c' hc' := by
    rw [List.find?_cons_of_neg (by simp [Event.isActivity])]
    exact hr.active c' hc'

theorem founded (hr : t.ReflectsRooms h) (ht : t.Integrity) (hpair : Pair.of u v = .ok pair)
    (hnone : t.findDirect pair = .error e) :
    (t.withConversation key pair.low pair.high now).ReflectsRooms
      (⟨now, .opened u v t.conversations.nextId true⟩ :: h) where
  opened e he u' v' c' isNew heq := by
    rcases List.mem_cons.mp he with rfl | he
    · cases heq
      exact ⟨pair, hpair, findDirect_withConversation ht hnone⟩
    · exact (hr.opened e he u' v' c' isNew heq).joins ht (joins_withConversation ..)
  rooms c hc := by
    rw [conversations_withConversation, Table.rows_add, List.mem_append,
      List.mem_singleton] at hc
    rcases hc with hc | rfl
    · obtain ⟨e, he, hopened⟩ := hr.rooms c hc
      exact ⟨e, List.mem_cons_of_mem _ he, hopened⟩
    · exact ⟨_, List.mem_cons_self, u, v, true, rfl⟩
  active c hc := by
    rw [conversations_withConversation, Table.rows_add, List.mem_append,
      List.mem_singleton] at hc
    rcases hc with hc | rfl
    · have hold : t.conversations.nextId ≠ c.id :=
        ne_of_gt (ht.conversationIds.ascending.2 c hc)
      rw [List.find?_cons_of_neg (by simp [Event.isActivity, hold])]
      exact hr.active c hc
    · exact ⟨_, List.find?_cons_of_pos (by simp [Event.isActivity, conversationRow]), rfl⟩

theorem sent (hr : t.ReflectsRooms h) (ht : t.Integrity) (hnow : now.FourDigitYear)
    (hyears : ∀ e ∈ h, e.clock.FourDigitYear) (hlater : ∀ e ∈ h, e.clock < now)
    (m : NewMessage) :
    (t.withMessage m now).ReflectsRooms (⟨now, .sent m.senderId m.conversationId⟩ :: h) where
  opened e he u v c isNew heq := by
    rcases List.mem_cons.mp he with rfl | he
    · cases heq
    · exact (hr.opened e he u v c isNew heq).joins ht (joins_of_members rfl)
  rooms c' hc' := by
    rcases mem_touch hc' with ⟨hc, -⟩ | ⟨c, hc, -, rfl⟩
    · obtain ⟨e, he, hopened⟩ := hr.rooms c' hc
      exact ⟨e, List.mem_cons_of_mem _ he, hopened⟩
    · obtain ⟨e, he, hopened⟩ := hr.rooms c hc
      rw [Conversation.id_activeAt]
      exact ⟨e, List.mem_cons_of_mem _ he, hopened⟩
  active c' hc' := by
    rcases mem_touch hc' with ⟨hc, hother⟩ | ⟨c, hc, hsame, rfl⟩
    · rw [List.find?_cons_of_neg (by simpa [Event.isActivity] using Ne.symm hother)]
      exact hr.active c' hc
    · rw [Conversation.id_activeAt]
      refine ⟨_, List.find?_cons_of_pos (by simp [Event.isActivity, hsame]), ?_⟩
      obtain ⟨e, he, hupdated⟩ := hr.active c hc
      have hmem := List.mem_of_find?_eq_some he
      have hbefore : Stamp.of e.clock < .of now :=
        (Stamp.of_lt_of (hyears e hmem) hnow).mpr (hlater e hmem)
      rw [Conversation.updatedAt_activeAt, hupdated]
      exact max_eq_right hbefore.le

end ReflectsRooms

-- ---------------------------------------------------------------------------
-- Messages and read markers
-- ---------------------------------------------------------------------------

structure ReflectsPosts (t : Tables) (h : History) : Prop where
  messages : t.messages.rows.map Message.posting = (h.filterMap Entry.posting?).reverse
  senders : ∀ m ∈ t.messages.rows, (m.conversationId, m.senderId) ∈ t.members
  readers : ∀ e ∈ h, ∀ u c, e.event = .read u c → (c, u) ∈ t.members
  markers : ∀ p ∈ t.participants.rows,
    p.lastReadAt = (h.lastRead? p.userId p.conversationId).map .of

namespace ReflectsPosts

theorem frame (hp : t.ReflectsPosts h) (hm : t'.messages = t.messages)
    (hmembers : ∀ m ∈ t.members, m ∈ t'.members)
    (hmarkers : ∀ p ∈ t'.participants.rows, p ∈ t.participants.rows ∨
      p.lastReadAt = none ∧ (p.conversationId, p.userId) ∉ t.members)
    (hevent : event.isPost = false) : t'.ReflectsPosts (⟨now, event⟩ :: h) where
  messages := by
    have hposting : Entry.posting? ⟨now, event⟩ = none := by
      cases event <;> first | rfl | cases hevent
    rw [List.filterMap_cons_none hposting, hm]
    exact hp.messages
  senders m hm' := by
    rw [hm] at hm'
    exact hmembers _ (hp.senders m hm')
  readers e he u c heq := by
    rcases List.mem_cons.mp he with rfl | he
    · cases heq
      cases hevent
    · exact hmembers _ (hp.readers e he u c heq)
  markers p hp' := by
    have hread : event ≠ .read p.userId p.conversationId := by
      rintro rfl
      cases hevent
    rw [History.lastRead?_cons, if_neg hread]
    rcases hmarkers p hp' with hold | ⟨hnone, hnew⟩
    · exact hp.markers p hold
    · -- Nobody has read a conversation of which they were not a member.
      have hunread : h.find? (·.event == .read p.userId p.conversationId) = none :=
        List.find?_eq_none.mpr fun e he heq => hnew (hp.readers e he _ _ (beq_iff_eq.mp heq))
      rw [hnone, History.lastRead?, hunread]
      rfl

theorem founded (hp : t.ReflectsPosts h) (ht : t.Integrity) :
    (t.withConversation key a b now).ReflectsPosts (⟨now, .opened u v c true⟩ :: h) := by
  have hnew (w : Int) : (t.conversations.nextId, w) ∉ t.members :=
    fun hw => absurd (ht.members_lt hw) (lt_irrefl _)
  refine hp.frame rfl (fun m hm => ?_) (fun p hp' => ?_) rfl
  · rw [members_withConversation]
    exact List.mem_append_left _ hm
  · simp only [withConversation, Table.rows_add, List.append_assoc, List.mem_append,
      List.mem_singleton] at hp'
    rcases hp' with hold | rfl | rfl
    · exact .inl hold
    · exact .inr ⟨rfl, hnew a⟩
    · exact .inr ⟨rfl, hnew b⟩

theorem sent (hp : t.ReflectsPosts h)
    (hmember : t.isParticipant m.conversationId m.senderId = true) :
    (t.withMessage m now).ReflectsPosts (⟨now, .sent m.senderId m.conversationId⟩ :: h) where
  messages := by
    show (t.messages.rows ++ [t.messageRow m now]).map Message.posting = _
    have hposting : Entry.posting? ⟨now, .sent m.senderId m.conversationId⟩ =
        some (t.messageRow m now).posting := rfl
    rw [List.map_append, hp.messages, List.filterMap_cons_some hposting, List.reverse_cons]
    rfl
  senders m' hm' := by
    have hrows : (t.withMessage m now).messages.rows = t.messages.rows ++ [t.messageRow m now] := rfl
    rw [hrows, List.mem_append, List.mem_singleton] at hm'
    rcases hm' with hm' | rfl
    · exact hp.senders m' hm'
    · exact isParticipant_iff_members.mp hmember
  readers e he u c heq := by
    rcases List.mem_cons.mp he with rfl | he
    · cases heq
    · exact hp.readers e he u c heq
  markers p hp' := by
    rw [History.lastRead?_cons, if_neg (by simp)]
    exact hp.markers p hp'

theorem laterMarker_lastRead? (hnow : now.FourDigitYear)
    (hyears : ∀ e ∈ h, e.clock.FourDigitYear) (hlater : ∀ e ∈ h, e.clock < now) (u c : Int) :
    laterMarker ((h.lastRead? u c).map .of) (.of now) = .of now := by
  rw [History.lastRead?]
  cases hfind : h.find? (·.event == .read u c) with
  | none => rfl
  | some e =>
    have hmem := List.mem_of_find?_eq_some hfind
    have hbefore : Stamp.of e.clock < .of now :=
      (Stamp.of_lt_of (hyears e hmem) hnow).mpr (hlater e hmem)
    exact max_eq_right hbefore.le

theorem read (hp : t.ReflectsPosts h) (hnow : now.FourDigitYear)
    (hyears : ∀ e ∈ h, e.clock.FourDigitYear) (hlater : ∀ e ∈ h, e.clock < now)
    (hmember : t.isParticipant c u = true) :
    (t.markRead c u now).ReflectsPosts (⟨now, .read u c⟩ :: h) where
  messages := by
    rw [List.filterMap_cons_none rfl]
    exact hp.messages
  senders m hm := by
    rw [members_markRead]
    exact hp.senders m hm
  readers e he u' c' heq := by
    rw [members_markRead]
    rcases List.mem_cons.mp he with rfl | he
    · cases heq
      exact isParticipant_iff_members.mp hmember
    · exact hp.readers e he u' c' heq
  markers p' hp' := by
    obtain ⟨p, hrow, rfl⟩ := Table.mem_update hp'
    have hmarker := hp.markers p hrow
    by_cases hself : p.conversationId = c ∧ p.userId = u
    · obtain ⟨rfl, rfl⟩ := hself
      rw [if_pos (by simp), Participant.lastReadAt_readAt, Participant.userId_readAt,
        Participant.conversationId_readAt, History.lastRead?_cons, if_pos rfl, hmarker,
        laterMarker_lastRead? hnow hyears hlater]
      rfl
    · rw [if_neg (by simpa using hself), History.lastRead?_cons, if_neg ?_]
      · exact hmarker
      · rintro heq
        cases heq
        exact hself ⟨rfl, rfl⟩

end ReflectsPosts

-- ---------------------------------------------------------------------------
-- All tables
-- ---------------------------------------------------------------------------

structure Reflects (t : Tables) (h : History) : Prop where
  whole : t.Integrity
  accounts : t.ReflectsAccounts h
  rooms : t.ReflectsRooms h
  posts : t.ReflectsPosts h
  years : ∀ e ∈ h, e.clock.FourDigitYear
  order : h.Pairwise fun e e' => e'.clock < e.clock

namespace Reflects

theorem empty : Tables.empty.Reflects [] where
  whole := integrity_empty
  accounts := by constructor <;> simp [Tables.empty, Table.empty, History.holder]
  rooms := by constructor <;> simp [Tables.empty, Table.empty]
  posts := by constructor <;> simp [Tables.empty, Table.empty]
  years := by simp
  order := .nil

theorem updatedAt (hr : t.Reflects h) (hc : c ∈ t.conversations.rows)
    (hlater : ∀ e ∈ h, e.clock < now) : max now c.updatedAt.instant = now := by
  obtain ⟨e, he, hupdated⟩ := hr.rooms.active c hc
  rw [hupdated, Stamp.instant_of]
  exact max_eq_left (hlater e (List.mem_of_find?_eq_some he)).le

theorem effect (hr : t.Reflects h) {event : Option Event} (he : t.Effect now event t')
    (ht' : t'.Integrity) (hnow : now.FourDigitYear) (hlater : ∀ e ∈ h, e.clock < now) :
    t'.Reflects (h.add now event) := by
  have hyears (event : Event) : ∀ e ∈ (⟨now, event⟩ :: h : History), e.clock.FourDigitYear :=
    List.forall_mem_cons.mpr ⟨hnow, hr.years⟩
  have horder (event : Event) :
      (⟨now, event⟩ :: h : History).Pairwise fun e e' => e'.clock < e.clock :=
    List.pairwise_cons.mpr ⟨hlater, hr.order⟩
  cases he with
  | rest => exact hr
  | joined user hnew =>
    refine ⟨ht', hr.accounts.joined hr.whole hnew, ?_, ?_, hyears _, horder _⟩
    · exact hr.rooms.frame hr.whole rfl rfl rfl
    · exact hr.posts.frame rfl (fun _ => id) (fun _ => .inl) rfl
  | returned hu hnew =>
    refine ⟨ht', hr.accounts.returned hr.whole hu hnew, ?_, ?_, hyears _, horder _⟩
    · exact hr.rooms.frame hr.whole rfl rfl rfl
    · exact hr.posts.frame rfl (fun _ => id) (fun _ => .inl) rfl
  | left =>
    refine ⟨ht', hr.accounts.left hr.whole _, ?_, ?_, hyears _, horder _⟩
    · exact hr.rooms.frame hr.whole rfl rfl rfl
    · exact hr.posts.frame rfl (fun _ => id) (fun _ => .inl) rfl
  | found hpair hfind =>
    refine ⟨ht', hr.accounts.frame rfl rfl rfl, hr.rooms.found hpair hfind, ?_, hyears _, horder _⟩
    exact hr.posts.frame rfl (fun _ => id) (fun _ => .inl) rfl
  | founded hpair hnone =>
    exact ⟨ht', hr.accounts.frame rfl rfl rfl, hr.rooms.founded hr.whole hpair hnone,
      hr.posts.founded hr.whole, hyears _, horder _⟩
  | sent hmember hrow =>
    rw [hr.updatedAt (conversationById_ok hrow).1 hlater] at ht' ⊢
    exact ⟨ht', hr.accounts.frame rfl rfl rfl, hr.rooms.sent hr.whole hnow hr.years hlater _,
      hr.posts.sent hmember, hyears _, horder _⟩
  | read hmember =>
    refine ⟨ht', hr.accounts.frame rfl rfl rfl, ?_,
      hr.posts.read hnow hr.years hlater hmember, hyears _, horder _⟩
    exact hr.rooms.frame hr.whole (members_markRead ..) rfl rfl

end Reflects

end Tables
end Parley
