import Parley.Proofs.Store.Integrity

/-!
# Tables that changes lead to

`Tables.Reaches allowed t t'`: changes of an allowed kind, one after the other, lead from `t` to
`t'`. What every allowed change keeps holds of all tables that are reached (`Reaches.invariant`), and
what every allowed change relates, they relate (`Reaches.related`).
-/

namespace Parley.Tables

inductive Reaches (allowed : Change → Prop) (t : Tables) : Tables → Prop where
  | refl : Reaches allowed t t
  | change : Reaches allowed t t' → allowed c → c.run t' = .ok w → Reaches allowed t w.tables

namespace Reaches

variable {allowed : Change → Prop} {t t' t'' : Tables}

theorem trans (h : t.Reaches allowed t') (h' : t'.Reaches allowed t'') :
    t.Reaches allowed t'' := by
  induction h' with
  | refl => exact h
  | change _ hc hw ih => exact ih.change hc hw

theorem mono {more : Change → Prop} (h : t.Reaches allowed t') (hm : ∀ c, allowed c → more c) :
    t.Reaches more t' := by
  induction h with
  | refl => exact .refl
  | change _ hc hw ih => exact ih.change (hm _ hc) hw

theorem invariant {P : Tables → Prop} (h : t.Reaches allowed t') (ht : P t)
    (keep : ∀ t c t', P t → allowed c → c.Leads t t' → P t') : P t' := by
  induction h with
  | refl => exact ht
  | change _ hc hw ih => exact keep _ _ _ ih hc (Change.leads hw)

theorem related {R : Tables → Tables → Prop} (h : t.Reaches allowed t') (refl : ∀ t, R t t)
    (trans : ∀ t₁ t₂ t₃, R t₁ t₂ → R t₂ t₃ → R t₁ t₃)
    (step : ∀ t c t', allowed c → c.Leads t t' → R t t') : R t t' := by
  induction h with
  | refl => exact refl t
  | change _ hc hw ih => exact trans _ _ _ ih (step _ _ _ hc (Change.leads hw))

theorem integrity (h : t.Reaches allowed t') (ht : t.Integrity) : t'.Integrity :=
  h.invariant ht fun _ _ _ ht _ hw => ht.change hw

end Reaches

-- ---------------------------------------------------------------------------
-- Changes that touch no row
-- ---------------------------------------------------------------------------

theorem markRead_eq_self {t : Tables} (h : ∀ p ∈ t.participants.rows,
    (p.conversationId == c && p.userId == u) = true → p.readAt (.of time) = p) :
    t.markRead c u time = t := by
  have hrows : (t.participants.update (fun p => p.conversationId == c && p.userId == u)
      (Participant.readAt (.of time))).rows = t.participants.rows := by
    simp only [Table.update]
    refine (List.map_congr_left fun p hp => ?_).trans (List.map_id _)
    split
    · rename_i hrow
      exact h p hp hrow
    · rfl
  simp only [markRead, Table.update] at hrows ⊢
  rw [hrows]

theorem eq_of_untouched {t : Tables} {c : Change} (hw : c.run t = .ok w)
    (h : w.touched = false) : w.tables = t := by
  cases c <;> simp only [Change.run, map_ok] at hw <;> obtain ⟨w₀, hw₀, rfl⟩ := hw <;>
    simp only [Write.map] at h ⊢
  case createUser => obtain ⟨-, -, rfl⟩ := createUser_ok.mp hw₀; simp at h
  case createSession => obtain ⟨-, -, rfl⟩ := createSession_ok.mp hw₀; simp at h
  case deleteSessions u =>
    obtain rfl := deleteSessions_ok.mp hw₀
    have hnone : ∀ s ∈ t.sessions.rows, ¬ (s.userId == u) = true := by
      simpa [List.countP_eq_zero] using h
    have hrows : t.sessions.remove (·.userId == u) = t.sessions := by
      simp only [Table.remove]
      rw [List.filter_eq_self.mpr fun s hs => by simpa using hnone s hs]
    simp only [hrows]
  case createConversation => obtain ⟨-, rfl⟩ := createConversation_ok.mp hw₀; simp at h
  case addParticipant => obtain ⟨-, -, -, rfl⟩ := addParticipant_ok.mp hw₀; simp at h
  case touchConversation => obtain ⟨-, rfl⟩ := touchConversation_ok.mp hw₀; simp at h
  case lockConversation => obtain ⟨row, -, rfl⟩ := lockConversation_ok.mp hw₀; rfl
  case createMessage => obtain ⟨-, -, -, rfl⟩ := createMessage_ok.mp hw₀; simp at h
  case updateLastRead =>
    obtain rfl := updateLastRead_ok.mp hw₀
    refine markRead_eq_self fun p hp hrow => ?_
    have := List.any_eq_false.mp h p hp
    rw [hrow] at this
    simpa using this

end Parley.Tables
