import Parley.Proofs.Store.Growth
import Parley.Proofs.Store.Operation

/-!
# Who takes part in what

The direct conversation of a pair is looked for by its participants. Participants are only added to
conversations that are made in the same step, and ids go up, so once a direct conversation has been
found, the same one is found ever after (`findDirect_of_joins`).
-/

namespace Parley

theorem mem_of_length_two {l : List α} (hl : l.length = 2) (hx : x ∈ l) (hy : y ∈ l) (hne : x ≠ y)
    (hz : z ∈ l) : z = x ∨ z = y := by
  obtain ⟨a, b, rfl⟩ := List.length_eq_two.mp hl
  simp only [List.mem_cons, List.not_mem_nil, or_false] at hx hy hz
  rcases hx with rfl | rfl <;> rcases hy with rfl | rfl <;> simp_all [or_comm]

namespace Tables

variable {t t' : Tables} {pair : Pair}

def members (t : Tables) : List (Int × Int) :=
  t.participants.rows.map fun p => (p.conversationId, p.userId)

theorem isParticipant_iff_members : t.isParticipant c u = true ↔ (c, u) ∈ t.members := by
  simp [isParticipant_iff, members]

theorem mem_members_iff : (c, u) ∈ t.members ↔ (c, u) ∈ t.members.filter (·.1 == c) := by
  simp [List.mem_filter]

theorem hasConversation_touch (t : Tables) (n : Int) (time : Instant) :
    (t.touch n time).hasConversation c = t.hasConversation c := by
  have hids : (t.touch n time).conversations.rows.map Conversation.id =
      t.conversations.rows.map Conversation.id :=
    Table.map_update _ _ _ (Conversation.id_activeAt _)
  rw [Bool.eq_iff_iff, hasConversation_iff, hasConversation_iff, ← List.mem_map, ← List.mem_map,
    hids]

theorem members_markRead (t : Tables) (c u : Int) (time : Instant) :
    (t.markRead c u time).members = t.members :=
  Table.map_update (fun p : Participant => (p.conversationId, p.userId)) _ _ fun _ => rfl

theorem length_participantsOf (t : Tables) (c : Int) :
    (t.participantsOf c).length = (t.members.filter (·.1 == c)).length := by
  rw [participantsOf, members, List.filter_map, List.length_map]
  rfl

theorem Integrity.members_lt (h : t.Integrity) (hm : m ∈ t.members) :
    m.1 < t.conversations.nextId := by
  simp only [Tables.members, List.mem_map] at hm
  obtain ⟨p, hp, rfl⟩ := hm
  obtain ⟨c, hc, heq⟩ := h.memberOf p hp
  have := h.conversationIds.ascending.2 c hc
  omega

-- ---------------------------------------------------------------------------
-- Direct conversations
-- ---------------------------------------------------------------------------

/-- Both users of the pair take part in the conversation, and nobody else does. -/
structure IsDirect (t : Tables) (pair : Pair) (c : Int) : Prop where
  low : (c, pair.low) ∈ t.members
  high : (c, pair.high) ∈ t.members
  two : (t.members.filter (·.1 == c)).length = 2

theorem IsDirect.user (hd : t.IsDirect pair c) (hu : (c, u) ∈ t.members) :
    u = pair.low ∨ u = pair.high := by
  have hne : (c, pair.low) ≠ (c, pair.high) := by
    have := pair.low_lt_high
    simp only [ne_eq, Prod.mk.injEq, true_and]
    omega
  have hmem := mem_of_length_two hd.two (mem_members_iff.mp hd.low) (mem_members_iff.mp hd.high)
    hne (mem_members_iff.mp hu)
  simpa using hmem

theorem IsDirect.conversation (ht : t.Integrity) (h : t.IsDirect pair c) :
    ∃ row, t.conversationById c = .ok row := by
  obtain ⟨p, hp, hc, -⟩ := isParticipant_iff.mp (isParticipant_iff_members.mpr h.low)
  obtain ⟨row, hrow, hid⟩ := ht.memberOf p hp
  exact conversationById_of_has (hasConversation_iff.mpr ⟨row, hrow, hid.trans hc⟩)

def Between (t : Tables) (a b c : Int) : Prop :=
  ∀ u, t.isParticipant c u = true ↔ u = a ∨ u = b

theorem Between.symm {a b c : Int} (h : t.Between a b c) : t.Between b a c :=
  fun u => (h u).trans or_comm

theorem isDirect_iff (ht : t.Integrity) : t.IsDirect pair c ↔ t.Between pair.low pair.high c := by
  have hne : pair.low ≠ pair.high := Int.ne_of_lt pair.low_lt_high
  simp only [Between, isParticipant_iff_members]
  constructor
  · intro hd u
    refine ⟨hd.user, ?_⟩
    rintro (rfl | rfl)
    · exact hd.low
    · exact hd.high
  · intro h
    have hnodup : (t.members.filter (·.1 == c)).Nodup := ht.members.filter _
    have hperm : (t.members.filter (·.1 == c)).Perm [(c, pair.low), (c, pair.high)] := by
      refine (List.perm_ext_iff_of_nodup hnodup (by simp [hne])).mpr fun ⟨c', u⟩ => ?_
      simp only [List.mem_filter, beq_iff_eq, List.mem_cons, Prod.mk.injEq, List.not_mem_nil,
        or_false, ← and_or_left]
      constructor
      · rintro ⟨hmem, rfl⟩
        exact ⟨rfl, (h u).mp hmem⟩
      · rintro ⟨rfl, hu⟩
        exact ⟨(h u).mpr hu, rfl⟩
    exact ⟨(h _).mpr (.inl rfl), (h _).mpr (.inr rfl), hperm.length_eq⟩

theorem mem_directConversationIds : c ∈ t.directConversationIds pair ↔ t.IsDirect pair c := by
  simp only [directConversationIds, List.mem_flatMap, List.mem_map, List.mem_filter,
    Bool.and_eq_true, beq_iff_eq, length_participantsOf]
  constructor
  · rintro ⟨p, hp, q, ⟨hq, ⟨⟨hc, hlow⟩, hhigh⟩, htwo⟩, rfl⟩
    rw [← hc] at htwo
    refine ⟨?_, ?_, htwo⟩
    · rw [← hlow, hc]
      exact List.mem_map_of_mem (f := fun p : Participant => (p.conversationId, p.userId)) hp
    · rw [← hhigh]
      exact List.mem_map_of_mem (f := fun p : Participant => (p.conversationId, p.userId)) hq
  · rintro ⟨hlow, hhigh, htwo⟩
    simp only [members, List.mem_map, Prod.mk.injEq] at hlow hhigh
    obtain ⟨p, hp, rfl, hlow⟩ := hlow
    obtain ⟨q, hq, hc, hhigh⟩ := hhigh
    exact ⟨p, hp, q, ⟨hq, ⟨⟨hc, hlow⟩, hhigh⟩, htwo⟩, hc⟩

theorem findDirect_ok {id : Int} : t.findDirect pair = .ok id ↔
    t.IsDirect pair id ∧ ∀ c, t.IsDirect pair c → id ≤ c := by
  simp only [findDirect, found_ok, List.min?_eq_some_iff, mem_directConversationIds]

theorem findDirect_error : t.findDirect pair = .error e ↔
    (∀ c, ¬ t.IsDirect pair c) ∧ e = .notFound .directConversation := by
  simp only [findDirect, found_error, List.min?_eq_none_iff, List.eq_nil_iff_forall_not_mem,
    mem_directConversationIds]

-- ---------------------------------------------------------------------------
-- New members
-- ---------------------------------------------------------------------------

/-- Whoever is a member of something more in `t'` is so of conversations that are not yet in `t`. -/
def Joins (t t' : Tables) : Prop :=
  ∃ added, t'.members = t.members ++ added ∧ ∀ m ∈ added, t.conversations.nextId ≤ m.1

theorem joins_of_members (h : t'.members = t.members) : t.Joins t' := ⟨[], by simp [h], by simp⟩

theorem Joins.filter_members (h : t.Joins t') (hc : c < t.conversations.nextId) :
    t'.members.filter (·.1 == c) = t.members.filter (·.1 == c) := by
  obtain ⟨added, heq, hnew⟩ := h
  have hnone : added.filter (·.1 == c) = [] := by
    rw [List.filter_eq_nil_iff]
    intro m hm
    have := hnew m hm
    simp only [beq_iff_eq]
    omega
  rw [heq, List.filter_append, hnone, List.append_nil]

theorem Joins.isDirect (h : t.Joins t') (hc : c < t.conversations.nextId) :
    t'.IsDirect pair c ↔ t.IsDirect pair c := by
  have hmem (u : Int) : (c, u) ∈ t'.members ↔ (c, u) ∈ t.members := by
    rw [mem_members_iff, h.filter_members hc, ← mem_members_iff]
  have htwo := h.filter_members hc
  constructor
  · exact fun hd => ⟨(hmem _).mp hd.low, (hmem _).mp hd.high, htwo ▸ hd.two⟩
  · exact fun hd => ⟨(hmem _).mpr hd.low, (hmem _).mpr hd.high, htwo.symm ▸ hd.two⟩

/-- Once it has been found, a direct conversation is found ever after. -/
theorem findDirect_of_joins {id : Int} (ht : t.Integrity) (hj : t.Joins t')
    (h : t.findDirect pair = .ok id) : t'.findDirect pair = .ok id := by
  obtain ⟨hdirect, hleast⟩ := findDirect_ok.mp h
  have hid : id < t.conversations.nextId := ht.members_lt hdirect.low
  refine findDirect_ok.mpr ⟨(hj.isDirect hid).mpr hdirect, fun c hc => ?_⟩
  by_cases hold : c < t.conversations.nextId
  · exact hleast c ((hj.isDirect hold).mp hc)
  · omega

-- ---------------------------------------------------------------------------
-- A new conversation of two users
-- ---------------------------------------------------------------------------

section
variable (t : Tables) (key : Option String) (a b : Int) (now : Instant)

theorem members_withConversation : (t.withConversation key a b now).members =
    t.members ++ [(t.conversations.nextId, a), (t.conversations.nextId, b)] := by
  simp [withConversation, members, participantRow, conversationRow]

theorem conversations_withConversation : (t.withConversation key a b now).conversations =
    t.conversations.add (t.conversationRow key now) := rfl

theorem joins_withConversation : t.Joins (t.withConversation key a b now) :=
  ⟨_, members_withConversation .., by simp⟩

end

theorem filter_members_nextId (ht : t.Integrity) :
    t.members.filter (·.1 == t.conversations.nextId) = [] := by
  rw [List.filter_eq_nil_iff]
  intro m hm
  have := ht.members_lt hm
  simp only [beq_iff_eq]
  omega

theorem isDirect_withConversation (ht : t.Integrity) (pair : Pair) :
    (t.withConversation key pair.low pair.high now).IsDirect pair t.conversations.nextId where
  low := by simp [members_withConversation]
  high := by simp [members_withConversation]
  two := by
    rw [members_withConversation, List.filter_append, filter_members_nextId ht]
    simp

theorem findDirect_withConversation (ht : t.Integrity) (h : t.findDirect pair = .error e) :
    (t.withConversation key pair.low pair.high now).findDirect pair =
      .ok t.conversations.nextId := by
  obtain ⟨hnone, -⟩ := findDirect_error.mp h
  refine findDirect_ok.mpr ⟨isDirect_withConversation ht pair, fun c hc => ?_⟩
  by_cases hold : c < t.conversations.nextId
  · exact absurd (((joins_withConversation ..).isDirect hold).mp hc) (hnone c)
  · omega

end Tables

-- ---------------------------------------------------------------------------
-- Changes that leave conversations and their members alone
-- ---------------------------------------------------------------------------

def Change.founds : Change → Bool
  | .createConversation .. | .addParticipant .. => true
  | _ => false

namespace Tables

variable {t t' t'' : Tables}

structure SameConversations (t t' : Tables) : Prop where
  members : t'.members = t.members
  conversations :
    t'.conversations.rows.map Conversation.fixed = t.conversations.rows.map Conversation.fixed

namespace SameConversations

theorem refl : t.SameConversations t := ⟨rfl, rfl⟩

theorem trans (h : t.SameConversations t') (h' : t'.SameConversations t'') :
    t.SameConversations t'' :=
  ⟨h'.members.trans h.members, h'.conversations.trans h.conversations⟩

theorem change {c : Change} (hf : c.founds = false) (hc : c.Leads t t') :
    t.SameConversations t' := by
  cases hc with
  | createUser | createSession | deleteSessions | createMessage => exact ⟨rfl, rfl⟩
  | createConversation | addParticipant => cases hf
  | touchConversation => exact ⟨rfl, Table.map_update _ _ _ (Conversation.fixed_activeAt _)⟩
  | lockConversation => exact refl
  | updateLastRead => exact ⟨members_markRead .., rfl⟩

end SameConversations

theorem Reaches.sameConversations (h : t.Reaches (fun c => c.founds = false) t') :
    t.SameConversations t' :=
  h.related (fun _ => .refl) (fun _ _ _ => .trans) fun _ _ _ hf hc => .change hf hc

end Tables
end Parley
