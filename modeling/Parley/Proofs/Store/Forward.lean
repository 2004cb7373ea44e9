import Parley.Proofs.Store.Growth
import Parley.Proofs.Store.MessageOrder

/-!
# What changes may do to times and sessions

`Tables.Advances t t'`: rows of `t` are still there in `t'`, and their times have not gone back.
`Tables.Timed t`: no conversation was active before it was made, and all times that are compared lie
in four-digit years. Sessions are the only rows that are taken away. Their ids are given out once
(`Tables.NewSessions`), so that a session which is still there is as it was.
-/

namespace Parley

theorem Table.mem_rows_update {ρ : Type} {t : Table ρ} (p : ρ → Bool) (f : ρ → ρ) {r : ρ}
    (hr : r ∈ t.rows) : (if p r then f r else r) ∈ (t.update p f).rows :=
  List.mem_map_of_mem hr

namespace Tables

variable {t t' t'' : Tables}

-- ---------------------------------------------------------------------------
-- Times
-- ---------------------------------------------------------------------------

structure Advances (t t' : Tables) : Prop where
  users : t.users.rows <+: t'.users.rows
  conversations : ∀ c ∈ t.conversations.rows, ∃ c' ∈ t'.conversations.rows,
    c'.fixed = c.fixed ∧ c.updatedAt ≤ c'.updatedAt
  participants : ∀ p ∈ t.participants.rows, ∃ p' ∈ t'.participants.rows,
    p'.fixed = p.fixed ∧ ∀ last ∈ p.lastReadAt, ∃ last' ∈ p'.lastReadAt, last ≤ last'
  messages : t.messages.rows <+: t'.messages.rows

theorem le_laterMarker (marker : Option Stamp) (time : Stamp) :
    ∀ last ∈ marker, last ≤ laterMarker marker time := by
  rintro last hlast
  obtain rfl := Option.mem_def.mp hlast
  exact le_max_left _ _

namespace Advances

theorem refl : t.Advances t where
  users := List.prefix_rfl
  conversations c hc := ⟨c, hc, rfl, le_refl _⟩
  participants p hp := ⟨p, hp, rfl, fun last hlast => ⟨last, hlast, le_refl _⟩⟩
  messages := List.prefix_rfl

theorem trans (h : t.Advances t') (h' : t'.Advances t'') : t.Advances t'' where
  users := h.users.trans h'.users
  conversations c hc := by
    obtain ⟨c', hc', heq, hle⟩ := h.conversations c hc
    obtain ⟨c'', hc'', heq', hle'⟩ := h'.conversations c' hc'
    exact ⟨c'', hc'', heq'.trans heq, hle.trans hle'⟩
  participants p hp := by
    obtain ⟨p', hp', heq, hle⟩ := h.participants p hp
    obtain ⟨p'', hp'', heq', hle'⟩ := h'.participants p' hp'
    refine ⟨p'', hp'', heq'.trans heq, fun last hlast => ?_⟩
    obtain ⟨last', hlast', hbefore⟩ := hle last hlast
    obtain ⟨last'', hlast'', hbefore'⟩ := hle' last' hlast'
    exact ⟨last'', hlast'', hbefore.trans hbefore'⟩
  messages := h.messages.trans h'.messages

theorem touch (t : Tables) (c : Int) (time : Instant) : t.Advances (t.touch c time) where
  users := List.prefix_rfl
  conversations row hrow := by
    refine ⟨_, Table.mem_rows_update _ _ hrow, ?_⟩
    split
    · exact ⟨row.fixed_activeAt _, le_max_left _ _⟩
    · exact ⟨rfl, le_refl _⟩
  participants := refl.participants
  messages := List.prefix_rfl

theorem markRead (t : Tables) (c u : Int) (time : Instant) : t.Advances (t.markRead c u time) where
  users := List.prefix_rfl
  conversations := refl.conversations
  participants p hp := by
    refine ⟨_, Table.mem_rows_update _ _ hp, ?_⟩
    split
    · exact ⟨p.fixed_readAt _, fun last hlast => ⟨_, rfl, le_laterMarker _ _ last hlast⟩⟩
    · exact ⟨rfl, fun last hlast => ⟨last, hlast, le_refl _⟩⟩
  messages := List.prefix_rfl

theorem change {c : Change} (hc : c.Leads t t') : t.Advances t' := by
  cases hc with
  | createUser => exact { refl with users := List.prefix_append .. }
  | createSession | deleteSessions => exact { refl with }
  | createConversation =>
    exact { refl with conversations := fun c hc => ⟨c, List.mem_append_left _ hc, rfl, le_refl _⟩ }
  | addParticipant =>
    exact { refl with
      participants := fun p hp =>
        ⟨p, List.mem_append_left _ hp, rfl, fun last hlast => ⟨last, hlast, le_refl _⟩⟩ }
  | touchConversation => exact touch t _ _
  | lockConversation => exact refl
  | createMessage => exact { refl with messages := List.prefix_append .. }
  | updateLastRead => exact markRead t _ _ _

end Advances

theorem Reaches.advances {allowed : Change → Prop} (h : t.Reaches allowed t') : t.Advances t' :=
  h.related (fun _ => .refl) (fun _ _ _ => .trans) fun _ _ _ _ hc => .change hc

structure Timed (t : Tables) : Prop where
  conversationYears : ∀ c ∈ t.conversations.rows,
    c.createdAt.FourDigitYear ∧ c.updatedAt.FourDigitYear
  active : ∀ c ∈ t.conversations.rows, c.createdAt ≤ c.updatedAt
  markerYears : ∀ p ∈ t.participants.rows, ∀ last ∈ p.lastReadAt, last.FourDigitYear

theorem timed_empty : Tables.empty.Timed := by
  constructor <;> simp [Tables.empty, Table.empty]

namespace Timed

theorem congr (h : t.Timed) (hc : t'.conversations.rows = t.conversations.rows)
    (hp : t'.participants.rows = t.participants.rows) : t'.Timed where
  conversationYears := hc ▸ h.conversationYears
  active := hc ▸ h.active
  markerYears := hp ▸ h.markerYears

theorem touch (h : t.Timed) (htime : time.FourDigitYear) (c : Int) : (t.touch c time).Timed where
  conversationYears := by
    intro row' hrow'
    rcases mem_touch hrow' with ⟨hrow, -⟩ | ⟨row, hrow, -, rfl⟩
    · exact h.conversationYears row' hrow
    · obtain ⟨hcreated, hupdated⟩ := h.conversationYears row hrow
      rw [Conversation.createdAt_activeAt, Conversation.updatedAt_activeAt]
      exact ⟨hcreated, hupdated.max (Stamp.fourDigitYear_of.mpr htime)⟩
  active := by
    intro row' hrow'
    rcases mem_touch hrow' with ⟨hrow, -⟩ | ⟨row, hrow, -, rfl⟩
    · exact h.active row' hrow
    · rw [Conversation.createdAt_activeAt, Conversation.updatedAt_activeAt]
      exact le_max_of_le_left (h.active row hrow)
  markerYears := h.markerYears

theorem markRead (h : t.Timed) (htime : time.FourDigitYear) (c u : Int) :
    (t.markRead c u time).Timed where
  conversationYears := h.conversationYears
  active := h.active
  markerYears := by
    intro p' hp' last hlast
    obtain ⟨p, hp, rfl⟩ := Table.mem_update hp'
    split at hlast
    · obtain rfl := Option.some.inj hlast
      have htime := Stamp.fourDigitYear_of.mpr htime
      cases hmarker : p.lastReadAt with
      | none => exact htime
      | some last => exact (h.markerYears p hp last hmarker).max htime
    · exact h.markerYears p hp last hlast

theorem change (h : t.Timed) {c : Change} (hdated : c.Dated) (hc : c.Leads t t') : t'.Timed := by
  cases hc with
  | createUser | createSession | deleteSessions | createMessage => exact h.congr rfl rfl
  | createConversation =>
    have hnow := Stamp.fourDigitYear_of.mpr (hdated _ rfl)
    refine { h with conversationYears := fun c hc => ?_, active := fun c hc => ?_ }
    · rw [Table.rows_add, List.mem_append, List.mem_singleton] at hc
      rcases hc with hc | rfl
      · exact h.conversationYears c hc
      · exact ⟨hnow, hnow⟩
    · rw [Table.rows_add, List.mem_append, List.mem_singleton] at hc
      rcases hc with hc | rfl
      · exact h.active c hc
      · exact le_refl _
  | addParticipant =>
    refine { h with markerYears := fun p hp => ?_ }
    rw [Table.rows_add, List.mem_append, List.mem_singleton] at hp
    rcases hp with hp | rfl
    · exact h.markerYears p hp
    · rintro _ ⟨⟩
  | touchConversation => exact h.touch (hdated _ rfl) _
  | lockConversation => exact h
  | updateLastRead => exact h.markRead (hdated _ rfl) _ _

theorem withMessage (h : t.Timed) (hfound : t.conversationById m.conversationId = .ok row)
    (hnow : now.FourDigitYear) : (t.withMessage m (max now row.updatedAt.instant)).Timed := by
  have hupdated := (h.conversationYears row (conversationById_ok hfound).1).2
  exact (h.touch (hnow.max hupdated) m.conversationId).congr rfl rfl

end Timed

theorem Reaches.timed (h : t.Reaches Change.Dated t') (ht : t.Timed) : t'.Timed :=
  h.invariant ht fun _ _ _ ht hdated hc => ht.change hdated hc

-- ---------------------------------------------------------------------------
-- Sessions
-- ---------------------------------------------------------------------------

/-- Sessions that `t'` has and `t` has not were given their ids after `t`. -/
structure NewSessions (t t' : Tables) : Prop where
  issued : t.sessions.issued ≤ t'.sessions.issued
  new : ∀ x ∈ t'.sessions.rows, x ∈ t.sessions.rows ∨ t.sessions.nextId ≤ x.id

namespace NewSessions

theorem of_subset (hissued : t'.sessions.issued = t.sessions.issued)
    (hrows : t'.sessions.rows ⊆ t.sessions.rows) : t.NewSessions t' :=
  ⟨hissued.ge, fun _ hx => .inl (hrows hx)⟩

theorem trans (h : t.NewSessions t') (h' : t'.NewSessions t'') : t.NewSessions t'' := by
  have hissued := h.issued
  refine ⟨hissued.trans h'.issued, fun x hx => ?_⟩
  rcases h'.new x hx with hx | hx
  · exact h.new x hx
  · refine .inr ?_
    unfold Table.nextId at hx ⊢
    omega

theorem change {c : Change} (hc : c.Leads t t') : t.NewSessions t' := by
  cases hc with
  | createSession =>
    refine ⟨Nat.le_succ _, fun x hx => ?_⟩
    rw [Table.rows_add, List.mem_append, List.mem_singleton] at hx
    refine hx.imp_right ?_
    rintro rfl
    exact le_refl _
  | deleteSessions => exact .of_subset rfl ((List.filter_subset_self _))
  | createUser | createConversation | addParticipant | touchConversation | lockConversation
  | createMessage | updateLastRead => exact .of_subset rfl (List.Subset.refl _)

theorem eq_of_id (h : t.NewSessions t') (ht : t.Integrity) (hx : x ∈ t.sessions.rows)
    (hx' : x' ∈ t'.sessions.rows) (hid : x.id = x'.id) : x = x' := by
  rcases h.new x' hx' with hx' | hlate
  · exact ht.sessionIds.eq_of_id hx hx' hid
  · have := ht.sessionIds.2 x hx
    omega

end NewSessions

variable {allowed : Change → Prop}

theorem Reaches.newSessions (h : t.Reaches allowed t') : t.NewSessions t' :=
  h.related (fun _ => .of_subset rfl (List.Subset.refl _)) (fun _ _ _ => .trans)
    fun _ _ _ _ hc => .change hc

/-- A session that is gone belonged to a user whose sessions may be deleted. -/
theorem Reaches.session_stays (h : t.Reaches allowed t') :
    ∀ x ∈ t.sessions.rows, x ∈ t'.sessions.rows ∨ allowed (.deleteSessions x.userId) := by
  refine h.related (R := fun t t' => ∀ x ∈ t.sessions.rows,
    x ∈ t'.sessions.rows ∨ allowed (.deleteSessions x.userId)) (fun _ _ hx => .inl hx)
    (fun t₁ t₂ t₃ h₁ h₂ x hx => ?_) ?_
  · rcases h₁ x hx with hx | hdeleted
    · exact h₂ x hx
    · exact .inr hdeleted
  · intro t c t' hallowed hc x hx
    cases hc with
    | createSession => exact .inl (List.mem_append_left _ hx)
    | deleteSessions =>
      rename_i u
      by_cases hu : x.userId = u
      · exact .inr (hu ▸ hallowed)
      · exact .inl (Table.mem_rows_remove.mpr ⟨hx, beq_false_of_ne hu⟩)
    | createUser | createConversation | addParticipant | touchConversation | lockConversation
    | createMessage | updateLastRead => exact .inl hx

end Tables
end Parley
