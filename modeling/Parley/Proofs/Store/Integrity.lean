import Mathlib.Data.List.Nodup
import Parley.Proofs.Store.Change

/-!
# Integrity of the tables

`Tables.Integrity` says what the tables promise of every state: ids count up without gaps (those of
sessions may have gaps, as sessions end), columns that have to be unique are, and rows refer to rows
that exist. The tables of a new database have it, and `Integrity.change` says that every change
keeps it.
-/

namespace Parley

-- ---------------------------------------------------------------------------
-- Ids of one table
-- ---------------------------------------------------------------------------

namespace Table

variable {id : ρ → Int} {t : Table ρ}

/-- The ids are 1, 2, 3 and so on, as many as have been given out. -/
def Numbered (id : ρ → Int) (t : Table ρ) : Prop :=
  t.rows.map id = (List.range t.issued).map fun n : Nat => (n : Int) + 1

/-- The ids go up, and none of them is yet to be given out. -/
def Ascending (id : ρ → Int) (t : Table ρ) : Prop :=
  (t.rows.map id).Pairwise (· < ·) ∧ ∀ r ∈ t.rows, id r < t.nextId

theorem numbered_empty : (empty : Table ρ).Numbered id := rfl

theorem ascending_empty : (empty : Table ρ).Ascending id := by simp [Ascending, empty]

theorem Numbered.add (h : t.Numbered id) {row : ρ} (hrow : id row = t.nextId) :
    (t.add row).Numbered id := by
  simp only [Numbered, rows_add, issued_add, List.map_append, List.range_succ]
  rw [h]
  simp [hrow, nextId]

theorem Ascending.add (h : t.Ascending id) {row : ρ} (hrow : id row = t.nextId) :
    (t.add row).Ascending id := by
  obtain ⟨hup, hbelow⟩ := h
  have hnext : (t.add row).nextId = t.nextId + 1 := by simp [nextId]
  refine ⟨?_, fun r hr => ?_⟩
  · rw [rows_add, List.map_append, List.pairwise_append]
    refine ⟨hup, by simp, ?_⟩
    simpa [hrow] using hbelow
  · rw [rows_add, List.mem_append, List.mem_singleton] at hr
    rcases hr with hr | rfl
    · have := hbelow r hr
      omega
    · omega

theorem Ascending.remove (h : t.Ascending id) (p : ρ → Bool) : (t.remove p).Ascending id := by
  refine ⟨h.1.sublist ?_, fun r hr => h.2 r (mem_rows_remove.mp hr).1⟩
  exact (List.filter_sublist (p := fun r => !p r)).map id

theorem Numbered.ascending (h : t.Numbered id) : t.Ascending id := by
  refine ⟨?_, fun r hr => ?_⟩
  · rw [h, List.pairwise_map]
    exact List.pairwise_lt_range.imp (by omega)
  · have : id r ∈ t.rows.map id := List.mem_map_of_mem hr
    rw [h, List.mem_map] at this
    obtain ⟨n, hn, heq⟩ := this
    rw [List.mem_range] at hn
    simp only [nextId]
    omega

theorem map_update {γ : Type} (g : ρ → γ) (p : ρ → Bool) (f : ρ → ρ) (hf : ∀ r, g (f r) = g r) :
    (t.update p f).rows.map g = t.rows.map g := by
  simp only [update, List.map_map]
  refine List.map_congr_left fun r _ => ?_
  simp only [Function.comp_apply]
  split <;> simp [hf]

theorem Numbered.update (h : t.Numbered id) (p : ρ → Bool) (f : ρ → ρ)
    (hf : ∀ r, id (f r) = id r) : (t.update p f).Numbered id := by
  rw [Numbered, map_update id p f hf]
  exact h

theorem mem_update {p : ρ → Bool} {f : ρ → ρ} {r : ρ} (h : r ∈ (t.update p f).rows) :
    ∃ r₀ ∈ t.rows, r = if p r₀ then f r₀ else r₀ := by
  simp only [update, List.mem_map] at h
  obtain ⟨r₀, hr₀, rfl⟩ := h
  exact ⟨r₀, hr₀, rfl⟩

theorem Ascending.nodup (h : t.Ascending id) : (t.rows.map id).Nodup :=
  h.1.imp fun hlt => Int.ne_of_lt hlt

theorem Ascending.eq_of_id (h : t.Ascending id) {r r' : ρ} (hr : r ∈ t.rows) (hr' : r' ∈ t.rows)
    (heq : id r = id r') : r = r' :=
  List.inj_on_of_nodup_map h.nodup hr hr' heq

end Table

theorem nodup_map_concat {f : α → β} {l : List α} {x : α} (h : (l.map f).Nodup)
    (hx : ∀ r ∈ l, f r ≠ f x) : ((l ++ [x]).map f).Nodup := by
  rw [List.map_append, List.nodup_append]
  refine ⟨h, by simp, ?_⟩
  simpa using hx

theorem find?_of_nodup {rows : List ρ} {f : ρ → κ} [BEq κ] [LawfulBEq κ] {r : ρ}
    (h : (rows.map f).Nodup) (hr : r ∈ rows) : rows.find? (f · == f r) = some r := by
  cases hfind : rows.find? (f · == f r) with
  | none => simpa using List.find?_eq_none.mp hfind r hr
  | some r' =>
    have heq : f r' = f r := by simpa using List.find?_some hfind
    rw [List.inj_on_of_nodup_map h (List.mem_of_find?_eq_some hfind) hr heq]

-- ---------------------------------------------------------------------------
-- All tables
-- ---------------------------------------------------------------------------

structure Tables.Integrity (t : Tables) : Prop where
  userIds : t.users.Numbered User.id
  sessionIds : t.sessions.Ascending Session.id
  conversationIds : t.conversations.Numbered Conversation.id
  participantIds : t.participants.Numbered Participant.id
  messageIds : t.messages.Numbered Message.id
  emails : (t.users.rows.map User.email).Nodup
  usernames : (t.users.rows.map User.username).Nodup
  tokens : (t.sessions.rows.map Session.token).Nodup
  directKeys : ((t.conversations.rows.map Conversation.directKey).filterMap id).Nodup
  members : (t.participants.rows.map fun p => (p.conversationId, p.userId)).Nodup
  messageKeys : (t.messages.rows.map Message.key).Nodup
  sessionUser : ∀ s ∈ t.sessions.rows, ∃ u ∈ t.users.rows, u.id = s.userId
  memberOf : ∀ p ∈ t.participants.rows, ∃ c ∈ t.conversations.rows, c.id = p.conversationId
  memberUser : ∀ p ∈ t.participants.rows, ∃ u ∈ t.users.rows, u.id = p.userId
  messageIn : ∀ m ∈ t.messages.rows, ∃ c ∈ t.conversations.rows, c.id = m.conversationId
  messageBy : ∀ m ∈ t.messages.rows, ∃ u ∈ t.users.rows, u.id = m.senderId

namespace Tables

variable {t t' : Tables}

theorem integrity_empty : Tables.empty.Integrity := by
  constructor <;> first
    | exact Table.numbered_empty
    | exact Table.ascending_empty
    | simp [Tables.empty, Table.empty]

theorem refers_add {rows : List ρ} {l : List σ} {id : σ → Int} {ref : ρ → Int} (x : σ)
    (h : ∀ r ∈ rows, ∃ s ∈ l, id s = ref r) : ∀ r ∈ rows, ∃ s ∈ l ++ [x], id s = ref r := by
  intro r hr
  obtain ⟨s, hs, heq⟩ := h r hr
  exact ⟨s, List.mem_append_left _ hs, heq⟩

theorem add_refers {rows : List ρ} {l : List σ} {id : σ → Int} {ref : ρ → Int} {x : ρ}
    (h : ∀ r ∈ rows, ∃ s ∈ l, id s = ref r) (hx : ∃ s ∈ l, id s = ref x) :
    ∀ r ∈ rows ++ [x], ∃ s ∈ l, id s = ref r := by
  intro r hr
  rcases List.mem_append.mp hr with hr | hr
  · exact h r hr
  · rw [List.mem_singleton] at hr
    exact hr ▸ hx

theorem Integrity.createUser (h : t.Integrity) (hemail : ∀ r ∈ t.users.rows, r.email ≠ u.email)
    (hname : ∀ r ∈ t.users.rows, r.username ≠ u.username) :
    Integrity { t with users := t.users.add (t.userRow u now) } :=
  { h with
    userIds := h.userIds.add rfl
    emails := nodup_map_concat h.emails hemail
    usernames := nodup_map_concat h.usernames hname
    sessionUser := refers_add _ h.sessionUser
    memberUser := refers_add _ h.memberUser
    messageBy := refers_add _ h.messageBy }

theorem Integrity.createSession (h : t.Integrity)
    (htoken : ∀ r ∈ t.sessions.rows, r.token ≠ token) (huser : t.hasUser u = true) :
    Integrity { t with sessions := t.sessions.add (t.sessionRow u token now) } :=
  { h with
    sessionIds := h.sessionIds.add rfl
    tokens := nodup_map_concat h.tokens htoken
    sessionUser := add_refers h.sessionUser (hasUser_iff.mp huser) }

theorem Integrity.deleteSessions (h : t.Integrity) (u : Int) :
    Integrity { t with sessions := t.sessions.remove (·.userId == u) } :=
  { h with
    sessionIds := h.sessionIds.remove _
    tokens := h.tokens.sublist (List.filter_sublist.map _)
    sessionUser := fun s hs => h.sessionUser s (Table.mem_rows_remove.mp hs).1 }

theorem Integrity.createConversation (h : t.Integrity)
    (hkey : ∀ k, key = some k → ∀ r ∈ t.conversations.rows, r.directKey ≠ some k) :
    Integrity { t with conversations := t.conversations.add (t.conversationRow key now) } :=
  { h with
    conversationIds := h.conversationIds.add rfl
    directKeys := by
      simp only [Table.rows_add, List.map_append, List.filterMap_append, List.nodup_append]
      refine ⟨h.directKeys, ?_, ?_⟩
      · cases key <;> simp [conversationRow]
      · intro k hk k' hk'
        simp only [List.mem_filterMap, List.mem_map, id] at hk
        obtain ⟨_, ⟨r, hr, rfl⟩, hrk⟩ := hk
        have : key = some k' := by simpa [conversationRow] using hk'
        rintro rfl
        exact hkey k this r hr hrk
    memberOf := refers_add _ h.memberOf
    messageIn := refers_add _ h.messageIn }

theorem Integrity.addParticipant (h : t.Integrity) (hnew : t.isParticipant c u = false)
    (hconversation : t.hasConversation c = true) (huser : t.hasUser u = true) :
    Integrity { t with participants := t.participants.add (t.participantRow c u now) } :=
  { h with
    participantIds := h.participantIds.add rfl
    members := by
      refine nodup_map_concat h.members fun r hr heq => ?_
      rw [Bool.eq_false_iff] at hnew
      exact hnew (isParticipant_iff.mpr ⟨r, hr, Prod.mk.inj heq⟩)
    memberOf := add_refers h.memberOf (hasConversation_iff.mp hconversation)
    memberUser := add_refers h.memberUser (hasUser_iff.mp huser) }

theorem refers_update {rows : List ρ} {tbl : Table σ} {id : σ → Int} {ref : ρ → Int}
    (p : σ → Bool) (f : σ → σ) (hf : ∀ s, id (f s) = id s)
    (h : ∀ r ∈ rows, ∃ s ∈ tbl.rows, id s = ref r) :
    ∀ r ∈ rows, ∃ s ∈ (tbl.update p f).rows, id s = ref r := by
  intro r hr
  obtain ⟨s, hs, heq⟩ := h r hr
  have : id s ∈ (tbl.update p f).rows.map id := by
    rw [Table.map_update id p f hf]
    exact List.mem_map_of_mem hs
  obtain ⟨s', hs', heq'⟩ := List.mem_map.mp this
  exact ⟨s', hs', heq'.trans heq⟩

theorem Integrity.touch (h : t.Integrity) (c : Int) (time : Instant) :
    (t.touch c time).Integrity :=
  { h with
    conversationIds := h.conversationIds.update _ _ (Conversation.id_activeAt _)
    directKeys := by
      have := h.directKeys
      rwa [← Table.map_update _ _ _ (Conversation.directKey_activeAt (.of time))] at this
    memberOf := refers_update _ _ (Conversation.id_activeAt _) h.memberOf
    messageIn := refers_update _ _ (Conversation.id_activeAt _) h.messageIn }

theorem Integrity.createMessage (h : t.Integrity) (hkey : ∀ r ∈ t.messages.rows, r.key ≠ m.key)
    (hconversation : t.hasConversation m.conversationId = true)
    (huser : t.hasUser m.senderId = true) :
    Integrity { t with messages := t.messages.add (t.messageRow m sentAt) } :=
  { h with
    messageIds := h.messageIds.add rfl
    messageKeys := nodup_map_concat h.messageKeys hkey
    messageIn := add_refers h.messageIn (hasConversation_iff.mp hconversation)
    messageBy := add_refers h.messageBy (hasUser_iff.mp huser) }

theorem Integrity.markRead (h : t.Integrity) (c u : Int) (time : Instant) :
    (t.markRead c u time).Integrity := by
  have hmem : ∀ p ∈ (t.markRead c u time).participants.rows, ∃ p₀ ∈ t.participants.rows,
      p.conversationId = p₀.conversationId ∧ p.userId = p₀.userId := by
    intro p hp
    obtain ⟨p₀, hp₀, rfl⟩ := Table.mem_update hp
    exact ⟨p₀, hp₀, by split <;> simp, by split <;> simp⟩
  exact { h with
    participantIds := h.participantIds.update _ _ (Participant.id_readAt _)
    members := by
      have := h.members
      rwa [← Table.map_update (fun p => (p.conversationId, p.userId)) _
        (Participant.readAt (.of time)) (fun _ => by simp)] at this
    memberOf := fun p hp => by
      obtain ⟨p₀, hp₀, heq, -⟩ := hmem p hp
      exact heq ▸ h.memberOf p₀ hp₀
    memberUser := fun p hp => by
      obtain ⟨p₀, hp₀, -, heq⟩ := hmem p hp
      exact heq ▸ h.memberUser p₀ hp₀ }

theorem Integrity.change (h : t.Integrity) {c : Change} (hc : c.Leads t t') : t'.Integrity := by
  cases hc with
  | createUser hemail hname => exact h.createUser hemail hname
  | createSession htoken huser => exact h.createSession htoken huser
  | deleteSessions => exact h.deleteSessions _
  | createConversation hkey => exact h.createConversation hkey
  | addParticipant hnew hconversation huser => exact h.addParticipant hnew hconversation huser
  | touchConversation => exact h.touch _ _
  | lockConversation => exact h
  | createMessage hkey hconversation huser => exact h.createMessage hkey hconversation huser
  | updateLastRead => exact h.markRead _ _ _

end Tables
end Parley
