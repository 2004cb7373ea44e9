import Parley.Proofs.Store.Direct
import Parley.Proofs.Store.Refusals

/-!
# What is answered to users who want to talk

Unless their pair is hidden, two different users who ask for their direct conversation get the one
they have (`Database.getOrCreateDirect_found`). If they have none, they get a new one
(`Database.getOrCreateDirect_made`) or, if one of them does not exist, are told so
(`Database.getOrCreateDirect_unknown`). Nothing else is answered.
-/

namespace Parley

namespace Tables

variable {t : Tables} {pair : Pair}

theorem isDirect_of_ok_iff (ht : t.Integrity) (h : Pair.of a b = .ok pair) :
    t.IsDirect pair c ↔ t.Between a b c := by
  rw [isDirect_iff ht]
  rcases Pair.of_ok h with ⟨rfl, rfl⟩ | ⟨rfl, rfl⟩
  · exact Iff.rfl
  · exact ⟨.symm, .symm⟩

theorem conversationById_of_mem (ht : t.Integrity) (hrow : row ∈ t.conversations.rows) :
    t.conversationById row.id = .ok row :=
  found_ok.mpr (find?_of_nodup ht.conversationIds.ascending.nodup hrow)

end Tables

namespace Database

variable {db db' : Database} {pair : Pair}

-- ---------------------------------------------------------------------------
-- A conversation that is there
-- ---------------------------------------------------------------------------

theorem getOrCreateDirect_of_findDirect (hopen : db.isOpen = true) (hpair : Pair.of a b = .ok pair)
    (hfind : db.committed.findDirect pair = .ok row.id)
    (hrow : db.committed.conversationById row.id = .ok row) :
    db.getOrCreateDirect now a b = .ok ⟨row, false⟩ db := by
  have hopens : openDirect now pair (.begin db) = .ok ⟨row, false⟩ (.begin db) := by
    rw [openDirect_apply, show (Draft.begin db).tables.findDirect pair = _ from hfind]
    exact Attempt.bind_ok.mpr ⟨row, _, Transaction.query_ok.mpr ⟨hrow, rfl⟩, rfl⟩
  have htransact : db.transact (openDirect now pair) = .ok ⟨row, false⟩ db :=
    transact_ok.mpr ⟨hopen, _, hopens, (publish_self db).symm⟩
  rw [getOrCreateDirect, hpair]
  dsimp only
  rw [htransact]

theorem getOrCreateDirect_found (hopen : db.isOpen = true) (ht : db.committed.Integrity)
    (hpair : Pair.of a b = .ok pair) (now : Instant) (hc : db.committed.Between a b c) :
    ∃ row ∈ db.committed.conversations.rows, db.committed.Between a b row.id ∧
      (∀ c, db.committed.Between a b c → row.id ≤ c) ∧
      db.getOrCreateDirect now a b = .ok ⟨row, false⟩ db := by
  have hbetween {c : Int} := Tables.isDirect_of_ok_iff (c := c) ht hpair
  cases hfind : db.committed.findDirect pair with
  | ok id =>
    obtain ⟨hdirect, hleast⟩ := Tables.findDirect_ok.mp hfind
    obtain ⟨row, hrow⟩ := hdirect.conversation ht
    obtain ⟨hmem, rfl⟩ := Tables.conversationById_ok hrow
    exact ⟨row, hmem, hbetween.mp hdirect, fun c hc => hleast c (hbetween.mpr hc),
      getOrCreateDirect_of_findDirect hopen hpair hfind hrow⟩
  | error e =>
    obtain ⟨hnone, -⟩ := Tables.findDirect_error.mp hfind
    exact absurd (hbetween.mpr hc) (hnone c)

theorem getOrCreateDirect_again (hopen : db.isOpen = true) (ht : db.committed.Integrity)
    (ht' : db'.committed.Integrity) (h : db.getOrCreateDirect now a b = .ok r db') :
    db'.getOrCreateDirect later b a = .ok ⟨r.conversation, false⟩ db' := by
  obtain ⟨pair, hpair, ⟨-, rfl, hfind, hrow⟩ | ⟨-, ⟨e, hnone⟩, -, -, -, hnew, rfl⟩⟩ :=
    getOrCreateDirect_cases h
  · exact getOrCreateDirect_of_findDirect hopen (Pair.of_swap hpair) hfind
      (Tables.conversationById_of_mem ht' hrow)
  · refine getOrCreateDirect_of_findDirect hopen (Pair.of_swap hpair) ?_
      (Tables.conversationById_of_mem ht' ?_)
    · rw [hnew]
      exact Tables.findDirect_withConversation ht hnone
    · rw [hnew]
      exact List.mem_append_right _ (List.mem_singleton_self _)

-- ---------------------------------------------------------------------------
-- No conversation
-- ---------------------------------------------------------------------------

theorem getOrCreateDirect_new (ht : db.committed.Integrity) (hpair : Pair.of a b = .ok pair)
    (hnone : ∀ c, ¬ db.committed.Between a b c)
    (h : db.getOrCreateDirect now a b = .ok r db') :
    (db.committed.hasUser a = true ∧ db.committed.hasUser b = true) ∧
      r = ⟨db.committed.conversationRow (some pair.key) now, true⟩ ∧
      db' = db.publish
        (db.committed.withConversation (some pair.key) pair.low pair.high now) true := by
  obtain ⟨row, isNew⟩ := r
  obtain ⟨pair', hpair', hcases⟩ := getOrCreateDirect_cases h
  cases hpair.symm.trans hpair'
  rcases hcases with ⟨-, -, hfind, -⟩ | ⟨rfl, -, -, hlow, hhigh, rfl, rfl⟩
  · obtain ⟨hdirect, -⟩ := Tables.findDirect_ok.mp hfind
    exact absurd ((Tables.isDirect_of_ok_iff ht hpair).mp hdirect) (hnone _)
  · refine ⟨?_, rfl, rfl⟩
    rcases Pair.of_ok hpair with ⟨rfl, rfl⟩ | ⟨rfl, rfl⟩
    · exact ⟨hlow, hhigh⟩
    · exact ⟨hhigh, hlow⟩

section
variable (hopen : db.isOpen = true) (hlock : db.isLocked = false) (ht : db.committed.Integrity)
  (hpair : Pair.of a b = .ok pair) (hshown : ¬ db.committed.Hidden pair)
include hopen hlock ht hshown

/-- The key of a pair that is not hidden is not in the way of a new conversation. -/
theorem transact_openDirect_error (h : db.transact (openDirect now pair) = .error e db') :
    (db.committed.hasUser pair.low = false ∨ db.committed.hasUser pair.high = false) ∧
      e = .notFound .user := by
  obtain ⟨d, hd⟩ := transact_refused hopen h
  obtain ⟨habsent, ⟨hlocked, -⟩ | ⟨htaken, -⟩ | hunknown⟩ := openDirect_error ht hd
  · simp [Draft.writable, Draft.begin, hlock] at hlocked
  · exact absurd ⟨htaken, habsent⟩ hshown
  · exact hunknown

include hpair

theorem getOrCreateDirect_error (h : db.getOrCreateDirect now a b = .error e db') :
    ((db.committed.hasUser a = false ∨ db.committed.hasUser b = false) ∧ e = .notFound .user) ∧
      db' = db := by
  refine ⟨?_, (getOrCreateDirect_fails e db' h).2⟩
  rw [getOrCreateDirect, hpair] at h
  dsimp only at h
  split at h
  · next columns d hclash =>
    obtain ⟨-, heq⟩ := transact_openDirect_error hopen hlock ht hshown hclash
    cases heq
  · obtain ⟨hunknown, rfl⟩ := transact_openDirect_error hopen hlock ht hshown h
    refine ⟨?_, rfl⟩
    rcases Pair.of_ok hpair with ⟨rfl, rfl⟩ | ⟨rfl, rfl⟩
    · exact hunknown
    · exact hunknown.symm

theorem getOrCreateDirect_unknown (hnone : ∀ c, ¬ db.committed.Between a b c)
    (hunknown : db.committed.hasUser a = false ∨ db.committed.hasUser b = false) :
    db.getOrCreateDirect now a b = .error (.notFound .user) db := by
  cases h : db.getOrCreateDirect now a b with
  | ok r db' =>
    obtain ⟨⟨ha, hb⟩, -⟩ := getOrCreateDirect_new ht hpair hnone h
    rcases hunknown with hunknown | hunknown
    · exact absurd ha (Bool.eq_false_iff.mp hunknown)
    · exact absurd hb (Bool.eq_false_iff.mp hunknown)
  | error e db' =>
    obtain ⟨⟨-, rfl⟩, rfl⟩ := getOrCreateDirect_error hopen hlock ht hpair hshown h
    rfl

theorem getOrCreateDirect_made (now : Instant) (hnone : ∀ c, ¬ db.committed.Between a b c)
    (ha : db.committed.hasUser a = true) (hb : db.committed.hasUser b = true) :
    db.getOrCreateDirect now a b =
      .ok ⟨db.committed.conversationRow (some pair.key) now, true⟩
        (db.publish (db.committed.withConversation (some pair.key) pair.low pair.high now) true) := by
  cases h : db.getOrCreateDirect now a b with
  | ok r db' =>
    obtain ⟨-, hr, hdb⟩ := getOrCreateDirect_new ht hpair hnone h
    rw [← hr, ← hdb]
  | error e db' =>
    obtain ⟨⟨hunknown, -⟩, -⟩ := getOrCreateDirect_error hopen hlock ht hpair hshown h
    rcases hunknown with hunknown | hunknown
    · exact absurd ha (Bool.eq_false_iff.mp hunknown)
    · exact absurd hb (Bool.eq_false_iff.mp hunknown)

end

theorem getOrCreateDirect_comm (hab : a ≠ b) (ha : 0 < a) (hb : 0 < b) :
    db.getOrCreateDirect now b a = db.getOrCreateDirect now a b := by
  rw [getOrCreateDirect, getOrCreateDirect, Pair.of_comm a b hab ha hb]

end Database
end Parley
