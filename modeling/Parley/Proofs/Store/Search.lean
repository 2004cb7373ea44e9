import Parley.Proofs.Text.Order
import Parley.Proofs.Text.Pattern
import Parley.System

/-!
# Searches for users

`search_hits`: a search shows the users whose names hold its term, each once and by name. They are
those whose names contain the term, unless the term has a character that is read as others are; then
there may be more (`replacement_finds_noncharacter`).
-/

namespace Parley

open Http (bytesOf)

def User.summary (u : User) : UserSummary := ⟨u.id, u.username⟩

def limited (limit : Int) (entries : List α) : List α :=
  if limit < 0 then entries else entries.take limit.toNat

namespace Tables

structure AreHits (t : Tables) (p : String → Prop) [DecidablePred p] (hits : List User) :
    Prop where
  each : hits.Perm (t.users.rows.filter fun u => p u.username)
  byName : hits.Pairwise fun a b => bytesOf a.username ≤ bytesOf b.username

variable {t : Tables} {p : String → Prop} [DecidablePred p] {hits : List User}

theorem AreHits.mem (h : t.AreHits p hits) : u ∈ hits ↔ u ∈ t.users.rows ∧ p u.username := by
  rw [h.each.mem_iff, List.mem_filter, decide_eq_true_iff]

theorem AreHits.congr {q : String → Prop} [DecidablePred q] (h : t.AreHits p hits)
    (hpq : ∀ name, p name ↔ q name) : t.AreHits q hits :=
  ⟨by simpa only [hpq] using h.each, h.byName⟩

theorem AreHits.increasing (h : t.AreHits p hits) (ht : (t.users.rows.map User.username).Nodup) :
    hits.Pairwise fun a b => bytesOf a.username < bytesOf b.username := by
  have hnodup : (hits.map User.username).Nodup :=
    (h.each.map _).nodup_iff.mpr (ht.sublist (List.filter_sublist.map _))
  refine (h.byName.and (List.pairwise_map.mp hnodup)).imp ?_
  rintro a b ⟨hle, hne⟩
  have hle : a.username ≤ b.username := String.not_lt.mp fun hlt => hle (bytesOf_lt_iff.mpr hlt)
  exact bytesOf_lt_iff.mpr (String.not_le.mp fun hge => hne (String.le_antisymm hle hge))

theorem AreHits.unique {hits' : List User} (h : t.AreHits p hits) (h' : t.AreHits p hits')
    (ht : (t.users.rows.map User.username).Nodup) : hits = hits' :=
  (h.each.trans h'.each.symm).eq_of_pairwise
    (fun _ _ _ _ hab hba => absurd hba (List.lt_asymm hab)) (h.increasing ht) (h'.increasing ht)

def hitsOf (t : Tables) (term : String) : List User :=
  (t.users.rows.filter fun u => Pattern.isLike u.username (Pattern.containing term)).mergeSort
    fun a b => decide (a.username ≤ b.username)

theorem areHits_hitsOf {term : String} (hterm : '\x00' ∉ term.toList)
    (hnames : ∀ u ∈ t.users.rows, '\x00' ∉ u.username.toList) :
    t.AreHits (Pattern.Holds · term) (t.hitsOf term) where
  each := by
    refine (List.mergeSort_perm _ _).trans (.of_eq (List.filter_congr fun u hu => ?_))
    rw [Bool.eq_iff_iff, decide_eq_true_iff]
    exact Pattern.isLike_containing (hnames u hu) hterm
  byName := by
    have hsorted : (t.hitsOf term).Pairwise fun a b => decide (a.username ≤ b.username) = true := by
      refine List.pairwise_mergeSort (fun a b c hab hbc => ?_) (fun a b => ?_) _
      · simp only [decide_eq_true_eq] at hab hbc ⊢
        exact String.le_trans hab hbc
      · simpa using String.le_total a.username b.username
    refine hsorted.imp fun hab hlt => ?_
    exact String.not_lt.mpr (of_decide_eq_true hab) (bytesOf_lt_iff.mp hlt)

theorem searchUsers_hitsOf {term : String}
    (hsize : (Pattern.containing term).utf8ByteSize ≤ Pattern.maxBytes) (limit : Int) :
    t.searchUsers term limit = .ok ((limited limit (t.hitsOf term)).map User.summary) := by
  unfold searchUsers
  dsimp only
  split
  · next hnone =>
    rcases hnone with rfl | hempty
    · rfl
    · have hrows : t.users.rows = [] := List.isEmpty_iff.mp hempty
      have hhits : t.hitsOf term = [] := by simp [hitsOf, hrows]
      simp [limited, hhits]
  · rw [if_neg (Nat.not_lt.mpr hsize)]
    unfold Page.cut limited
    split
    · rfl
    · exact congrArg Except.ok List.map_take.symm

/-- In every table of users, a search for a term that makes no too long a pattern succeeds. It shows
the first of its hits, as many as the limit says. They are the users whose names hold the term, each
once and in the order of the bytes of their names, and no name that contains the term is left out. If
every character of the term is read alone, they are the users whose names contain the term. Names and
term have no zero character. -/
theorem search_hits (t : Tables) (term : String) (limit : Int) (hterm : '\x00' ∉ term.toList)
    (hsize : (Pattern.containing term).utf8ByteSize ≤ Pattern.maxBytes)
    (hnames : ∀ u ∈ t.users.rows, '\x00' ∉ u.username.toList) :
    ∃ hits, t.searchUsers term limit = .ok ((limited limit hits).map User.summary) ∧
      t.AreHits (Pattern.Holds · term) hits ∧
      (∀ u ∈ t.users.rows, Pattern.Contains u.username term → u ∈ hits) ∧
      ((∀ c ∈ term.toList, Pattern.ReadAlone c) → t.AreHits (Pattern.Contains · term) hits) ∧
      ((t.users.rows.map User.username).Nodup →
        hits.Pairwise fun a b => bytesOf a.username < bytesOf b.username) := by
  have hhits := t.areHits_hitsOf hterm hnames
  refine ⟨t.hitsOf term, searchUsers_hitsOf hsize limit, hhits, fun u hu hcontains => ?_,
    fun halone => ?_, hhits.increasing⟩
  · exact hhits.mem.mpr ⟨hu, hcontains.holds⟩
  · exact hhits.congr fun name => Pattern.holds_iff_contains halone

def userNamed (name : String) (id : Int) : User :=
  ⟨id, name, name ++ "@example.org", "h", "customer", .of .epoch⟩

def withUsers (names : List String) : Tables :=
  ((System.start .epoch).run (names.map fun name =>
    ⟨none, .store (.createAccount ⟨name, name ++ "@example.org", "h", "customer"⟩ name)⟩)).2.db.committed

/-- Case makes no difference to a search, and its signs stand for themselves. -/
theorem hits_among_four :
    let t := withUsers ["alice", "Malice", "bob", "al_x"]
    t.searchUsers "ALI" 20 = .ok [⟨2, "Malice"⟩, ⟨1, "alice"⟩] ∧
    t.searchUsers "_" (-1) = .ok [⟨4, "al_x"⟩] ∧
    t.searchUsers "%" 20 = .ok [] ∧
    t.searchUsers "a" 2 = .ok [⟨2, "Malice"⟩, ⟨4, "al_x"⟩] := by
  intro t
  have hnames : (t.users.rows.all fun u => u.username.toList.all (· != '\x00')) = true := by
    decide +kernel
  have hnames : ∀ u ∈ t.users.rows, '\x00' ∉ u.username.toList := by
    intro u hu hzero
    have hall := List.all_eq_true.mp hnames u hu
    exact absurd (List.all_eq_true.mp hall _ hzero) (by decide)
  have hunique : (t.users.rows.map User.username).Nodup := by decide +kernel
  have hsearch (term : String) (limit : Int) (expected : List User)
      (hterm : '\x00' ∉ term.toList)
      (hsize : (Pattern.containing term).utf8ByteSize ≤ Pattern.maxBytes)
      (halone : (term.toList.all fun c => Pattern.ReadAlone c) = true)
      (hexpected : t.AreHits (Pattern.Contains · term) expected) :
      t.searchUsers term limit = .ok ((limited limit expected).map User.summary) := by
    obtain ⟨hits, hsearch, -, -, hhits, -⟩ := search_hits t term limit hterm hsize hnames
    have halone : ∀ c ∈ term.toList, Pattern.ReadAlone c :=
      fun c hc => of_decide_eq_true (List.all_eq_true.mp halone c hc)
    rw [hsearch, (hhits halone).unique hexpected hunique]
  refine ⟨hsearch "ALI" 20 [userNamed "Malice" 2, userNamed "alice" 1] ?_ ?_ ?_ ⟨?_, ?_⟩,
    hsearch "_" (-1) [userNamed "al_x" 4] ?_ ?_ ?_ ⟨?_, ?_⟩,
    hsearch "%" 20 [] ?_ ?_ ?_ ⟨?_, ?_⟩,
    hsearch "a" 2 [userNamed "Malice" 2, userNamed "al_x" 4, userNamed "alice" 1] ?_ ?_ ?_ ⟨?_, ?_⟩⟩
  all_goals decide +kernel

/-- A search for the replacement character shows a user whose name does not contain it. -/
theorem replacement_finds_noncharacter :
    let t := withUsers ["x\uFFFEy"]
    t.AreHits (Pattern.Contains · "\uFFFD") [] ∧
      t.searchUsers "\uFFFD" 20 = .ok [⟨1, "x\uFFFEy"⟩] := by
  intro t
  have hnone : (t.users.rows.filter fun u => Pattern.Contains u.username "\uFFFD") = [] := by
    decide +kernel
  exact ⟨⟨hnone ▸ .nil, .nil⟩, by decide +kernel⟩

end Tables
end Parley
