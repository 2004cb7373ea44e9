import Parley.Proofs.Store.Integrity

/-!
# The order of listings

Messages and inbox lines are sorted by total orders, so a listing is the one sorted list of its
entries.
-/

namespace Parley

theorem mergeSort_eq {le : α → α → Bool} {l l' : List α}
    (trans : ∀ a b c, le a b = true → le b c = true → le a c = true)
    (total : ∀ a b, (le a b || le b a) = true)
    (ties : ∀ a ∈ l', ∀ b ∈ l', le a b = true → le b a = true → a = b)
    (hperm : l.Perm l') (hsorted : l'.Pairwise fun a b => le a b = true) :
    l.mergeSort le = l' := by
  have hmerged : (l.mergeSort le).Pairwise fun a b => le a b = true :=
    List.pairwise_mergeSort trans total l
  have hperm' : (l.mergeSort le).Perm l' := (List.mergeSort_perm l le).trans hperm
  exact hperm'.eq_of_pairwise (fun a b ha hb => ties a (hperm'.subset ha) b hb) hmerged hsorted

-- ---------------------------------------------------------------------------
-- Lists that are sorted alike
-- ---------------------------------------------------------------------------

def tied (le : α → α → Bool) (a b : α) : Bool := le a b && le b a

section
variable {le : α → α → Bool} {l l' : List α}

/-- Sorting is stable: tied entries keep their order. -/
theorem filter_mergeSort (trans : ∀ a b c, le a b = true → le b c = true → le a c = true)
    (total : ∀ a b, (le a b || le b a) = true) (x : α) :
    (l.mergeSort le).filter (tied le x) = l.filter (tied le x) := by
  have hties : (l.filter (tied le x)).Pairwise fun a b => le a b = true := by
    refine List.pairwise_of_forall_mem_list fun a ha b hb => ?_
    simp only [List.mem_filter, tied, Bool.and_eq_true] at ha hb
    exact trans a x b ha.2.2 hb.2.1
  have hsub := (List.sublist_mergeSort trans total hties List.filter_sublist).filter (tied le x)
  simp only [List.filter_filter, Bool.and_self] at hsub
  refine (hsub.eq_of_length ?_).symm
  exact ((List.mergeSort_perm l le).filter _).length_eq.symm

/-- A sorted list is determined by what it holds of each group of tied entries. -/
theorem eq_of_filter_tied (total : ∀ a b, (le a b || le b a) = true)
    (hl : l.Pairwise fun a b => le a b = true) (hl' : l'.Pairwise fun a b => le a b = true)
    (h : ∀ x, l.filter (tied le x) = l'.filter (tied le x)) : l = l' := by
  have hself (a : α) : tied le a a = true := by
    simpa [tied] using total a a
  have hmem {l l' : List α} (h : ∀ x, l.filter (tied le x) = l'.filter (tied le x)) {a : α}
      (ha : a ∈ l) : a ∈ l' := by
    have hkept : a ∈ l'.filter (tied le a) := h a ▸ List.mem_filter.mpr ⟨ha, hself a⟩
    exact List.mem_of_mem_filter hkept
  induction l generalizing l' with
  | nil =>
    cases l' with
    | nil => rfl
    | cons b r' => exact absurd (hmem (fun x => (h x).symm) List.mem_cons_self) List.not_mem_nil
  | cons a r ih =>
    cases l' with
    | nil => exact absurd (hmem h List.mem_cons_self) List.not_mem_nil
    | cons b r' =>
      have hab : le a b = true := by
        rcases List.mem_cons.mp (hmem (fun x => (h x).symm) List.mem_cons_self) with rfl | hb
        · exact (Bool.and_eq_true_iff.mp (hself b)).1
        · exact List.rel_of_pairwise_cons hl hb
      have hba : le b a = true := by
        rcases List.mem_cons.mp (hmem h List.mem_cons_self) with rfl | ha
        · exact (Bool.and_eq_true_iff.mp (hself a)).1
        · exact List.rel_of_pairwise_cons hl' ha
      have htied : tied le a b = true := by simp [tied, hab, hba]
      -- Both heads stand first in the group of `a`.
      obtain rfl : a = b := by
        have hgroup := h a
        rw [List.filter_cons_of_pos (hself a), List.filter_cons_of_pos htied] at hgroup
        exact (List.cons.inj hgroup).1
      congr 1
      refine ih hl.of_cons hl'.of_cons fun x => ?_
      have hgroup := h x
      simp only [List.filter_cons] at hgroup
      split at hgroup
      · exact (List.cons.inj hgroup).2
      · exact hgroup

/-- Lists that hold the same entries of every kind, in the same order, are sorted alike, if tied
entries are of one kind. -/
theorem mergeSort_congr [DecidableEq κ] {kind : α → κ}
    (trans : ∀ a b c, le a b = true → le b c = true → le a c = true)
    (total : ∀ a b, (le a b || le b a) = true)
    (ties : ∀ a b, le a b = true → le b a = true → kind a = kind b)
    (h : ∀ k, l.filter (kind · == k) = l'.filter (kind · == k)) :
    l.mergeSort le = l'.mergeSort le := by
  refine eq_of_filter_tied total (List.pairwise_mergeSort trans total l)
    (List.pairwise_mergeSort trans total l') fun x => ?_
  rw [filter_mergeSort trans total, filter_mergeSort trans total]
  have hkind (l : List α) :
      l.filter (tied le x) = (l.filter (kind · == kind x)).filter (tied le x) := by
    rw [List.filter_filter]
    refine List.filter_congr fun a _ => ?_
    cases htied : tied le x a with
    | false => rfl
    | true =>
      obtain ⟨hxa, hax⟩ := Bool.and_eq_true_iff.mp htied
      simp [ties a x hax hxa]
  rw [hkind l, h, ← hkind l']

end

-- ---------------------------------------------------------------------------
-- The later first
-- ---------------------------------------------------------------------------

def LaterFirst (time : α → Stamp) (tie : α → α → Prop) (a b : α) : Prop :=
  time b < time a ∨ time a = time b ∧ tie a b

namespace LaterFirst

variable {time : α → Stamp} {tie : α → α → Prop} {a b c : α}

theorem trans (htie : tie a b → tie b c → tie a c) (hab : LaterFirst time tie a b)
    (hbc : LaterFirst time tie b c) : LaterFirst time tie a c := by
  rcases hab with hab | ⟨hab, hties⟩
  · rcases hbc with hbc | ⟨hbc, -⟩
    · exact .inl (hbc.trans hab)
    · exact .inl (hbc ▸ hab)
  · rcases hbc with hbc | ⟨hbc, hties'⟩
    · exact .inl (hab ▸ hbc)
    · exact .inr ⟨hab.trans hbc, htie hties hties'⟩

theorem total (htie : tie a b ∨ tie b a) : LaterFirst time tie a b ∨ LaterFirst time tie b a := by
  rcases lt_trichotomy (time a) (time b) with h | h | h
  · exact .inr (.inl h)
  · exact htie.imp (fun hties => .inr ⟨h, hties⟩) fun hties => .inr ⟨h.symm, hties⟩
  · exact .inl (.inl h)

theorem ties (hab : LaterFirst time tie a b) (hba : LaterFirst time tie b a) :
    tie a b ∧ tie b a := by
  rcases hab with hab | ⟨heq, hties⟩
  · rcases hba with hba | ⟨heq, -⟩
    · exact absurd hab (lt_asymm hba)
    · exact absurd (heq ▸ hab) (lt_irrefl _)
  · rcases hba with hba | ⟨-, hties'⟩
    · exact absurd (heq ▸ hba) (lt_irrefl _)
    · exact ⟨hties, hties'⟩

theorem mono {tie' : α → α → Prop} (h : LaterFirst time tie a b) (htie : tie a b → tie' a b) :
    LaterFirst time tie' a b :=
  h.imp_right fun ⟨heq, hties⟩ => ⟨heq, htie hties⟩

end LaterFirst

namespace Tables

theorem newestFirst_iff {a b : Message} : newestFirst a b = true ↔
    LaterFirst Message.sentAt (fun a b => b.id ≤ a.id) a b := by
  simp [newestFirst, LaterFirst]

theorem newestFirst_trans (a b c : Message) (hab : newestFirst a b = true)
    (hbc : newestFirst b c = true) : newestFirst a c = true := by
  rw [newestFirst_iff] at *
  exact hab.trans (fun h h' => h'.trans h) hbc

theorem newestFirst_total (a b : Message) : (newestFirst a b || newestFirst b a) = true := by
  rw [Bool.or_eq_true, newestFirst_iff, newestFirst_iff]
  exact LaterFirst.total (Int.le_total b.id a.id)

theorem newestFirst_id {a b : Message} (hab : newestFirst a b = true)
    (hba : newestFirst b a = true) : a.id = b.id := by
  rw [newestFirst_iff] at hab hba
  obtain ⟨hle, hge⟩ := hab.ties hba
  exact Int.le_antisymm hge hle

theorem mostRecentFirst_iff {a b : InboxEntry} : mostRecentFirst a b = true ↔
    LaterFirst InboxEntry.updatedAt (fun a b => b.conversationId < a.conversationId ∨
      a.conversationId = b.conversationId ∧ a.otherUserId ≤ b.otherUserId) a b := by
  simp [mostRecentFirst, LaterFirst]

theorem mostRecentFirst_trans (a b c : InboxEntry) (hab : mostRecentFirst a b = true)
    (hbc : mostRecentFirst b c = true) : mostRecentFirst a c = true := by
  rw [mostRecentFirst_iff] at *
  exact hab.trans (by omega) hbc

theorem mostRecentFirst_total (a b : InboxEntry) :
    (mostRecentFirst a b || mostRecentFirst b a) = true := by
  rw [Bool.or_eq_true, mostRecentFirst_iff, mostRecentFirst_iff]
  exact LaterFirst.total (by omega)

theorem mostRecentFirst_conversation {a b : InboxEntry} (hab : mostRecentFirst a b = true)
    (hba : mostRecentFirst b a = true) : a.conversationId = b.conversationId := by
  rw [mostRecentFirst_iff] at hab hba
  have hties := hab.ties hba
  omega

theorem mostRecentFirst_user {a b : InboxEntry} (hab : mostRecentFirst a b = true)
    (hba : mostRecentFirst b a = true) : a.otherUserId = b.otherUserId := by
  rw [mostRecentFirst_iff] at hab hba
  have hties := hab.ties hba
  omega

/-- All messages of a conversation, each once: the latest first, and at one time by their ids from
the last to the first. -/
structure IsHistory (t : Tables) (c : Int) (ms : List Message) : Prop where
  perm : ms.Perm (t.messages.rows.filter (·.conversationId == c))
  order : ms.Pairwise (LaterFirst Message.sentAt fun a b => b.id < a.id)

theorem isHistory_allMessages {t : Tables} (ht : t.Integrity) (c : Int) :
    t.IsHistory c (t.allMessages c) := by
  have hperm : (t.allMessages c).Perm (t.messages.rows.filter (·.conversationId == c)) :=
    List.mergeSort_perm _ _
  have hids : ((t.messages.rows.filter (·.conversationId == c)).map Message.id).Nodup :=
    ht.messageIds.ascending.nodup.sublist (List.filter_sublist.map _)
  have hids' : (t.allMessages c).Pairwise fun a b => a.id ≠ b.id :=
    List.pairwise_map.mp ((hperm.map Message.id).nodup_iff.mpr hids)
  have hsorted : (t.allMessages c).Pairwise fun a b => newestFirst a b = true :=
    List.pairwise_mergeSort newestFirst_trans newestFirst_total _
  refine ⟨hperm, (hsorted.and hids').imp ?_⟩
  rintro a b ⟨hle, hne⟩
  exact (newestFirst_iff.mp hle).mono fun hid => lt_of_le_of_ne hid hne.symm

theorem allMessages_eq_reverse {t : Tables} (ht : t.Integrity)
    (horder : (t.messages.rows.filter (·.conversationId == c)).Pairwise
      fun m m' => m.sentAt ≤ m'.sentAt) :
    t.allMessages c = (t.messages.rows.filter (·.conversationId == c)).reverse := by
  have hids : (t.messages.rows.filter (·.conversationId == c)).Pairwise
      fun m m' => m.id < m'.id :=
    (List.pairwise_map.mp ht.messageIds.ascending.1).sublist List.filter_sublist
  refine mergeSort_eq newestFirst_trans newestFirst_total (fun a ha b hb hab hba => ?_)
    (List.reverse_perm _).symm (List.pairwise_reverse.mpr ?_)
  · have hmem {m : Message} (h : m ∈ (t.messages.rows.filter (·.conversationId == c)).reverse) :
        m ∈ t.messages.rows := List.mem_of_mem_filter (List.mem_reverse.mp h)
    exact ht.messageIds.ascending.eq_of_id (hmem ha) (hmem hb) (newestFirst_id hab hba)
  · refine (horder.and hids).imp ?_
    rintro m m' ⟨htime, hid⟩
    rw [newestFirst_iff]
    rcases lt_or_eq_of_le htime with hlt | heq
    · exact .inl hlt
    · exact .inr ⟨heq.symm, hid.le⟩

end Tables
end Parley
