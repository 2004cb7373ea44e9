import Mathlib.Data.Int.Order.Basic
import Parley.Page

/-!
# Walking through the pages

Whoever reads page after page, and stops at the first that is not full, has read the whole listing
(`walk_cut_iff`).
-/

namespace Parley.Page

/-- Reading pages of at most `size` entries one after the other, leaving out `start` entries at first
and up to the first page that is not full, shows these entries. -/
inductive Walk (page : Int → List α) (size : Int) : (start : Int) → List α → Prop where
  | last : (page start).length < size → Walk page size start (page start)
  | next : size ≤ (page start).length → Walk page size (start + size) rest →
      Walk page size start (page start ++ rest)

variable {page : Int → List α} {size start : Int} {entries entries' : List α}

theorem Walk.unique (h : Walk page size start entries) (h' : Walk page size start entries') :
    entries = entries' := by
  induction h generalizing entries' with
  | last hshort =>
    cases h' with
    | last => rfl
    | next hfull => omega
  | next hfull _ ih =>
    cases h' with
    | last hshort => omega
    | next _ h' => rw [ih h']

-- ---------------------------------------------------------------------------
-- Pages of one list
-- ---------------------------------------------------------------------------

theorem cut_of_pos (l : List α) (hsize : 0 < size) :
    (Page.mk size start).cut l = (l.drop start.toNat).take size.toNat :=
  if_neg (show ¬ size < 0 by omega)

theorem walk_cut (l : List α) (hsize : 0 < size) (hstart : 0 ≤ start) :
    Walk (fun start => (Page.mk size start).cut l) size start (l.drop start.toNat) := by
  -- What is left of the list gets shorter with each full page.
  induction hleft : (l.drop start.toNat).length using Nat.strongRecOn generalizing start with
  | ind left ih =>
    by_cases hshort : (left : Int) < size
    · have hpage : (Page.mk size start).cut l = l.drop start.toNat := by
        rw [cut_of_pos l hsize, List.take_of_length_le (by omega)]
      have hlast : Walk (fun start => (Page.mk size start).cut l) size start
          ((Page.mk size start).cut l) := .last (by rwa [hpage, hleft])
      rwa [hpage] at hlast
    · have hnext : (start + size).toNat = start.toNat + size.toNat := by omega
      have hfull : size ≤ ((Page.mk size start).cut l).length := by
        rw [cut_of_pos l hsize, List.length_take]
        omega
      have hshorter : (l.drop (start + size).toNat).length < left := by
        rw [hnext, ← List.drop_drop, List.length_drop]
        omega
      have hwalk := Walk.next hfull (ih _ hshorter (by omega) rfl)
      rwa [cut_of_pos l hsize, hnext, ← List.drop_drop, List.take_append_drop] at hwalk

theorem walk_cut_iff (l : List α) (hsize : 0 < size) :
    Walk (fun start => (Page.mk size start).cut l) size 0 entries ↔ entries = l := by
  have hall : Walk (fun start => (Page.mk size start).cut l) size 0 l :=
    walk_cut l hsize (le_refl 0)
  exact ⟨fun h => h.unique hall, fun h => h ▸ hall⟩

-- ---------------------------------------------------------------------------
-- Pages that are asked for
-- ---------------------------------------------------------------------------

theorem cut_nonneg (l : List α) : (Page.mk size (max start 0)).cut l = (Page.mk size start).cut l := by
  have hstart : (max start 0).toNat = start.toNat := by omega
  simp only [cut, hstart]

theorem cut_of_neg (l : List α) (h : start < 0) :
    (Page.mk size start).cut l = (Page.mk size 0).cut l := by
  rw [← cut_nonneg, max_eq_right (Int.le_of_lt h)]

theorem resolve_of_neg (asked : Option Int) (defaultLimit : Int) (h : start < 0) :
    resolve ⟨asked, some start⟩ defaultLimit = resolve ⟨asked, some 0⟩ defaultLimit := by
  have hstart : max start 0 = max 0 0 := by omega
  simp only [resolve, Option.getD_some, hstart]

theorem limit_resolve (r : PageRequest) (defaultLimit : Int) :
    1 ≤ (resolve r defaultLimit).limit ∧ (resolve r defaultLimit).limit ≤ 100 := by
  simp only [resolve, maxLimit]
  omega

theorem walk_resolve_iff (l : List α) {asked : Option Int} {defaultLimit : Int} :
    Walk (fun start => (resolve ⟨asked, some start⟩ defaultLimit).cut l)
      (resolve ⟨asked, some 0⟩ defaultLimit).limit 0 entries ↔ entries = l := by
  have hpage (start : Int) : (resolve ⟨asked, some start⟩ defaultLimit).cut l =
      (Page.mk (resolve ⟨asked, some 0⟩ defaultLimit).limit start).cut l := cut_nonneg l
  have hsize := (limit_resolve ⟨asked, some 0⟩ defaultLimit).1
  simp only [hpage]
  exact walk_cut_iff l (by omega)

end Parley.Page
