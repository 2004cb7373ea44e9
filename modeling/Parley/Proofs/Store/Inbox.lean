import Parley.Proofs.Store.Listing
import Parley.Proofs.Store.Unread

/-!
# Inbox lines

A user's inbox has one line for each other participant of each conversation of the user
(`mem_about`, `nodup_about`). A line is determined by what it is about, so no two lines of an inbox
stand at one place (`isInbox_inbox`).
-/

namespace Parley

def InboxEntry.about (e : InboxEntry) : Int × Int := (e.conversationId, e.otherUserId)

namespace Tables

variable {t : Tables} {c u v : Int}

-- ---------------------------------------------------------------------------
-- One line for each conversation and other participant
-- ---------------------------------------------------------------------------

theorem mem_about (ht : t.Integrity) : (c, v) ∈ (t.inboxEntries u).map InboxEntry.about ↔
    t.isParticipant c u = true ∧ t.isParticipant c v = true ∧ v ≠ u := by
  simp only [isParticipant_iff_members, List.mem_map, mem_inboxEntries]
  constructor
  · rintro ⟨_, ⟨me, hme, rfl, row, -, hin, w, -, hne, hother, rfl⟩, habout⟩
    obtain ⟨rfl, rfl⟩ : row.id = c ∧ w.id = v := Prod.mk.inj habout
    refine ⟨?_, hother, hne⟩
    rw [hin]
    exact List.mem_map_of_mem (f := fun p : Participant => (p.conversationId, p.userId)) hme
  · rintro ⟨hme, hother, hne⟩
    simp only [members, List.mem_map, Prod.mk.injEq] at hme
    obtain ⟨me, hme, rfl, rfl⟩ := hme
    obtain ⟨row, hrow, hin⟩ := ht.memberOf me hme
    have hmem := hother
    simp only [members, List.mem_map, Prod.mk.injEq] at hmem
    obtain ⟨other, hmem, -, rfl⟩ := hmem
    obtain ⟨w, hw, hid⟩ := ht.memberUser other hmem
    rw [← hid, ← hin] at hother ⊢
    exact ⟨t.entry me row w, ⟨me, hme, rfl, row, hrow, hin, w, hw, hid.symm ▸ hne, hother, rfl⟩, rfl⟩

theorem eq_of_about (ht : t.Integrity) (he : e ∈ t.inboxEntries u) (he' : e' ∈ t.inboxEntries u)
    (h : e.about = e'.about) : e = e' := by
  obtain ⟨me, hme, rfl, row, hrow, hin, w, hw, -, -, rfl⟩ := mem_inboxEntries.mp he
  obtain ⟨me', hme', hsame, row', hrow', hin', w', hw', -, -, rfl⟩ := mem_inboxEntries.mp he'
  obtain ⟨hconversation, huser⟩ : row.id = row'.id ∧ w.id = w'.id := Prod.mk.inj h
  obtain rfl := ht.conversationIds.ascending.eq_of_id hrow hrow' hconversation
  obtain rfl := ht.userIds.ascending.eq_of_id hw hw' huser
  obtain rfl := ht.participant_unique hme hme' (hin.symm.trans hin') hsame.symm
  rfl

theorem nodup_flatMap_of_key {l : List α} {f : α → List β} {k : α → κ} {g : β → κ}
    (hl : (l.map k).Nodup) (hkey : ∀ a ∈ l, ∀ b ∈ f a, g b = k a) (hf : ∀ a ∈ l, (f a).Nodup) :
    (l.flatMap f).Nodup := by
  refine List.nodup_flatMap.mpr ⟨hf, (List.pairwise_map.mp hl).imp_of_mem ?_⟩
  intro a a' ha ha' hne b hb hb'
  exact hne ((hkey a ha b hb).symm.trans (hkey a' ha' b hb'))

theorem Integrity.nodup_filter (ht : t.Integrity) (p : Participant → Bool) (k : Participant → κ)
    (hk : ∀ a b, p a = true → p b = true → k a = k b →
      a.conversationId = b.conversationId ∧ a.userId = b.userId) :
    ((t.participants.rows.filter p).map k).Nodup := by
  have hnodup : t.participants.rows.Nodup := .of_map _ ht.members
  refine List.Nodup.map_on (fun a ha b hb heq => ?_) (hnodup.filter p)
  obtain ⟨ha, hpa⟩ := List.mem_filter.mp ha
  obtain ⟨hb, hpb⟩ := List.mem_filter.mp hb
  obtain ⟨hc, hu⟩ := hk a b hpa hpb heq
  exact ht.participant_unique ha hb hc hu

theorem nodup_inboxEntries (ht : t.Integrity) (u : Int) : (t.inboxEntries u).Nodup := by
  refine nodup_flatMap_of_key (k := Participant.conversationId) (g := InboxEntry.conversationId)
    (ht.nodup_filter _ _ fun a b ha hb heq => ?_) (fun me hme e he => ?_) fun me hme => ?_
  · simp only [beq_iff_eq] at ha hb
    exact ⟨heq, ha.trans hb.symm⟩
  · simp only [List.mem_flatMap, List.mem_filter, List.mem_map, beq_iff_eq] at he
    obtain ⟨c, ⟨-, hc⟩, other, -, w, -, rfl⟩ := he
    exact hc
  refine nodup_flatMap_of_key (k := Conversation.id) (g := InboxEntry.conversationId)
    (ht.conversationIds.ascending.nodup.sublist (List.filter_sublist.map _)) (fun c hc e he => ?_)
    fun c hc => ?_
  · simp only [List.mem_flatMap, List.mem_map] at he
    obtain ⟨other, -, w, -, rfl⟩ := he
    rfl
  refine nodup_flatMap_of_key (k := Participant.userId) (g := InboxEntry.otherUserId)
    (ht.nodup_filter _ _ fun a b ha hb heq => ?_) (fun other hother e he => ?_)
    fun other hother => ?_
  · simp only [Bool.and_eq_true, beq_iff_eq] at ha hb
    exact ⟨ha.1.trans hb.1.symm, heq⟩
  · obtain ⟨w, -, rfl⟩ := List.mem_map.mp he
    rfl
  · refine .of_map InboxEntry.otherUsername ?_
    rw [List.map_map]
    exact ht.usernames.sublist (List.filter_sublist.map _)

theorem nodup_about (ht : t.Integrity) (u : Int) :
    ((t.inboxEntries u).map InboxEntry.about).Nodup :=
  (nodup_inboxEntries ht u).map_on fun _ he _ he' h => eq_of_about ht he he' h

-- ---------------------------------------------------------------------------
-- The inbox
-- ---------------------------------------------------------------------------

/-- A line for each conversation of the user and each other participant of it, and no two about the
same: the conversation that was active last comes first, at one time that with the greater id, and the
lines of one conversation are in the order of the other users' ids. -/
structure IsInbox (t : Tables) (u : Int) (es : List InboxEntry) : Prop where
  about : ∀ c v, (c, v) ∈ es.map InboxEntry.about ↔
    t.isParticipant c u = true ∧ t.isParticipant c v = true ∧ v ≠ u
  once : (es.map InboxEntry.about).Nodup
  active : ∀ e ∈ es, ∃ row ∈ t.conversations.rows,
    row.id = e.conversationId ∧ row.updatedAt = e.updatedAt
  order : es.Pairwise (LaterFirst InboxEntry.updatedAt fun a b =>
    b.conversationId < a.conversationId ∨
      a.conversationId = b.conversationId ∧ a.otherUserId < b.otherUserId)

theorem isInbox_inbox (ht : t.Integrity) (u : Int) : t.IsInbox u (t.inbox u) := by
  have hperm : (t.inbox u).Perm (t.inboxEntries u) := List.mergeSort_perm _ _
  have hnodup : ((t.inbox u).map InboxEntry.about).Nodup :=
    (hperm.map InboxEntry.about).nodup_iff.mpr (nodup_about ht u)
  have hsorted : (t.inbox u).Pairwise fun a b => mostRecentFirst a b = true :=
    List.pairwise_mergeSort mostRecentFirst_trans mostRecentFirst_total _
  refine ⟨fun c v => ?_, hnodup, fun e he => ?_,
    (hsorted.and (List.pairwise_map.mp hnodup)).imp ?_⟩
  · rw [(hperm.map InboxEntry.about).mem_iff]
    exact mem_about ht
  · obtain ⟨-, -, -, row, hrow, -, -, -, -, -, rfl⟩ := mem_inboxEntries.mp (hperm.subset he)
    exact ⟨row, hrow, rfl, rfl⟩
  · rintro a b ⟨hle, hne⟩
    refine (mostRecentFirst_iff.mp hle).mono (Or.imp_right fun ⟨hconversation, huser⟩ => ?_)
    exact ⟨hconversation, lt_of_le_of_ne huser fun h => hne (Prod.ext hconversation h)⟩

theorem listInbox_all (hlimit : page.limit < 0) (hoffset : page.offset ≤ 0) :
    t.listInbox u page = t.inbox u := by
  rw [listInbox, Page.cut, if_pos hlimit, Int.toNat_of_nonpos hoffset, List.drop_zero]

end Tables
end Parley
