import Parley.Proofs.Store.Reach

/-!
# Growth of the tables

Changes add users, conversations, participants and messages, and take none of them away. Of their
columns they rewrite two: the time of a conversation's last activity and a participant's read marker.
-/

namespace Parley

def Conversation.fixed (c : Conversation) : Int × Option String × Stamp :=
  (c.id, c.directKey, c.createdAt)

def Participant.fixed (p : Participant) : Int × Int × Int × Stamp :=
  (p.id, p.conversationId, p.userId, p.joinedAt)

theorem Conversation.fixed_activeAt (time : Stamp) (c : Conversation) :
    (c.activeAt time).fixed = c.fixed := rfl

theorem Participant.fixed_readAt (time : Stamp) (p : Participant) :
    (p.readAt time).fixed = p.fixed := rfl

theorem Table.map_stays {ρ γ : Type} {t : Table ρ} {g : ρ → γ} (p : ρ → Bool) (f : ρ → ρ)
    (hf : ∀ r, g (f r) = g r) : t.rows.map g <+: (t.update p f).rows.map g :=
  (map_update g p f hf).symm ▸ List.prefix_rfl

namespace Tables

/-- Rows of `t` are still there in `t'`, in their places, and other rows may follow them. -/
structure Grows (t t' : Tables) : Prop where
  users : t.users.rows <+: t'.users.rows
  conversations :
    t.conversations.rows.map Conversation.fixed <+: t'.conversations.rows.map Conversation.fixed
  participants :
    t.participants.rows.map Participant.fixed <+: t'.participants.rows.map Participant.fixed
  messages : t.messages.rows <+: t'.messages.rows

namespace Grows

variable {t t' t'' : Tables}

theorem refl : t.Grows t :=
  ⟨List.prefix_rfl, List.prefix_rfl, List.prefix_rfl, List.prefix_rfl⟩

theorem trans (h : t.Grows t') (h' : t'.Grows t'') : t.Grows t'' where
  users := h.users.trans h'.users
  conversations := h.conversations.trans h'.conversations
  participants := h.participants.trans h'.participants
  messages := h.messages.trans h'.messages

theorem change {c : Change} (hc : c.Leads t t') : t.Grows t' := by
  cases hc with
  | createUser => exact { refl with users := List.prefix_append .. }
  | createSession => exact { refl with }
  | deleteSessions => exact { refl with }
  | createConversation => exact { refl with conversations := (List.prefix_append ..).map _ }
  | addParticipant => exact { refl with participants := (List.prefix_append ..).map _ }
  | touchConversation =>
    exact { refl with conversations := Table.map_stays _ _ (Conversation.fixed_activeAt _) }
  | lockConversation => exact refl
  | createMessage => exact { refl with messages := List.prefix_append .. }
  | updateLastRead =>
    exact { refl with participants := Table.map_stays _ _ (Participant.fixed_readAt _) }

theorem conversation (h : t.Grows t') (hc : c ∈ t.conversations.rows) :
    ∃ c' ∈ t'.conversations.rows, c'.fixed = c.fixed :=
  List.mem_map.mp (h.conversations.subset (List.mem_map_of_mem hc))

end Grows

theorem Reaches.grows {allowed : Change → Prop} {t t' : Tables} (h : t.Reaches allowed t') :
    t.Grows t' :=
  h.related (fun _ => .refl) (fun _ _ _ => .trans) fun _ _ _ _ hc => .change hc

end Tables
end Parley
