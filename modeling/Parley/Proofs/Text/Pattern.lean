import Mathlib.Data.List.Infix
import Mathlib.Data.List.TakeWhile
import Parley.Text.Pattern

/-!
# What a pattern matches

`Matches` says what a pattern stands for, one rule for each of its signs, and `matchesAll` decides it
(`matchesAll_iff`). The pattern that is made of a term matches the texts that hold the term somewhere
(`isLike_containing`): whatever signs the term is made of, in the pattern each stands for itself.
-/

namespace Parley.Pattern

-- ---------------------------------------------------------------------------
-- Matching
-- ---------------------------------------------------------------------------

/-- The whole of a text is what the pattern stands for. -/
inductive Matches : List Glyph → List Char → Prop where
  | nil : Matches [] []
  | anyRun : Matches p s → Matches (.anyRun :: p) (run ++ s)
  | anyOne : Matches p s → Matches (.anyOne :: p) (c :: s)
  | exactly : sameLetter a c = true → Matches p s → Matches (.exactly a :: p) (c :: s)

theorem anyEnd_iff {p : List Char → Bool} {s : List Char} :
    anyEnd p s = true ↔ ∃ run rest, s = run ++ rest ∧ p rest = true := by
  induction s with
  | nil => simp [anyEnd]
  | cons c s ih =>
    rw [anyEnd, Bool.or_eq_true, ih]
    constructor
    · rintro (h | ⟨run, rest, rfl, h⟩)
      · exact ⟨[], c :: s, rfl, h⟩
      · exact ⟨c :: run, rest, rfl, h⟩
    · rintro ⟨run, rest, heq, h⟩
      cases run with
      | nil => exact .inl (heq ▸ h)
      | cons d run => exact .inr ⟨run, rest, (List.cons.inj heq).2, h⟩

theorem matchesAll_iff {p : List Glyph} {s : List Char} : matchesAll p s = true ↔ Matches p s := by
  induction p generalizing s with
  | nil =>
    rw [matchesAll, List.isEmpty_iff]
    exact ⟨fun h => h ▸ .nil, fun h => by cases h; rfl⟩
  | cons g p ih =>
    cases g with
    | anyRun =>
      rw [matchesAll, anyEnd_iff]
      constructor
      · rintro ⟨run, rest, rfl, h⟩
        exact .anyRun (ih.mp h)
      · rintro (_ | h)
        exact ⟨_, _, rfl, ih.mpr h⟩
    | anyOne =>
      cases s with
      | nil => exact ⟨by rintro ⟨⟩, by rintro ⟨⟩⟩
      | cons c s =>
        rw [matchesAll, ih]
        exact ⟨.anyOne, fun h => by cases h; assumption⟩
    | exactly a =>
      cases s with
      | nil => exact ⟨by rintro ⟨⟩, by rintro ⟨⟩⟩
      | cons c s =>
        rw [matchesAll, Bool.and_eq_true, ih]
        exact ⟨fun h => .exactly h.1 h.2, fun h => by cases h with | exactly h h' => exact ⟨h, h'⟩⟩

-- ---------------------------------------------------------------------------
-- Texts that hold a term
-- ---------------------------------------------------------------------------

def folded (c : Char) : Char := (asRead c).toLower

theorem sameLetter_iff {a b : Char} : sameLetter a b = true ↔ folded a = folded b := by
  rw [sameLetter, beq_iff_eq]
  rfl

/-- The text has the term in it, as one piece, up to the case of ASCII letters. -/
def Contains (text term : String) : Prop :=
  term.toList.map Char.toLower <:+: text.toList.map Char.toLower

/-- The text has the term in it as texts are matched: the noncharacters U+FFFE and U+FFFF are not
told apart from the replacement character U+FFFD. -/
def Holds (text term : String) : Prop := term.toList.map folded <:+: text.toList.map folded

instance (text term : String) : Decidable (Contains text term) :=
  inferInstanceAs (Decidable (_ <:+: _))

instance (text term : String) : Decidable (Holds text term) :=
  inferInstanceAs (Decidable (_ <:+: _))

theorem matches_term {cs s : List Char} : Matches (cs.map .exactly ++ [.anyRun]) s ↔
    cs.map folded <+: s.map folded := by
  induction cs generalizing s with
  | nil =>
    refine ⟨fun _ => List.nil_prefix, fun _ => ?_⟩
    rw [← List.append_nil s]
    exact .anyRun .nil
  | cons a cs ih =>
    rw [List.map_cons, List.cons_append]
    cases s with
    | nil => exact ⟨by rintro ⟨⟩, fun h => absurd (List.prefix_nil.mp h) (List.cons_ne_nil _ _)⟩
    | cons c s =>
      rw [List.map_cons, List.map_cons, List.cons_prefix_cons, ← sameLetter_iff, ← ih]
      exact ⟨fun h => by cases h with | exactly h h' => exact ⟨h, h'⟩, fun h => .exactly h.1 h.2⟩

theorem matches_containing {cs s : List Char} :
    Matches (.anyRun :: (cs.map .exactly ++ [.anyRun])) s ↔ cs.map folded <:+: s.map folded := by
  constructor
  · rintro (_ | h)
    rw [List.map_append]
    exact (matches_term.mp h).isInfix.trans (List.suffix_append _ _).isInfix
  · intro h
    obtain ⟨_, hprefix, hsuffix⟩ := List.infix_iff_prefix_suffix.mp h
    obtain ⟨rest, ⟨run, rfl⟩, rfl⟩ := List.suffix_map_iff.mp hsuffix
    exact .anyRun (matches_term.mpr hprefix)

-- ---------------------------------------------------------------------------
-- Escaping
-- ---------------------------------------------------------------------------

def isSpecial (c : Char) : Bool := c = '\\' ∨ c = '%' ∨ c = '_'

/-- The passes come to one. -/
theorem escape_eq_flatMap (s : List Char) :
    escape s = s.flatMap fun c => if isSpecial c then [escapeChar, c] else [c] := by
  simp only [escape, escapeOnly, List.flatMap_assoc]
  refine List.flatMap_congr fun c _ => ?_
  by_cases hslash : c = '\\'
  · subst hslash
    rfl
  by_cases hpercent : c = '%'
  · subst hpercent
    rfl
  by_cases hline : c = '_'
  · subst hline
    rfl
  simp [isSpecial, hslash, hpercent, hline]

/-- In another order what was escaped already is escaped again. -/
example : escapeOnly '\\' (escapeOnly '%' ['%']) ≠ escape ['%'] := by decide

theorem escape_cons (c : Char) (s : List Char) :
    escape (c :: s) = (if isSpecial c then [escapeChar, c] else [c]) ++ escape s := by
  rw [escape_eq_flatMap, escape_eq_flatMap, List.flatMap_cons]

theorem parse?_escaped (c : Char) (rest : List Char) :
    parse? ('\\' :: c :: rest) = (parse? rest).map (.exactly c :: ·) := by
  rw [parse?]

theorem parse?_plain {c : Char} (h : ¬ isSpecial c = true) (rest : List Char) :
    parse? (c :: rest) = (parse? rest).map (.exactly c :: ·) := by
  simp only [isSpecial, decide_eq_true_iff, not_or] at h
  conv => lhs; unfold parse?
  split <;> simp_all

/-- In an escaped text each character stands for itself. -/
theorem parse?_escape_append (s rest : List Char) :
    parse? (escape s ++ rest) = (parse? rest).map (s.map .exactly ++ ·) := by
  induction s with
  | nil => exact Option.map_id'.symm
  | cons c s ih =>
    rw [escape_cons, List.append_assoc]
    split
    · rw [List.cons_append, List.singleton_append, escapeChar, parse?_escaped, ih, Option.map_map]
      rfl
    · next hc =>
      rw [List.singleton_append, parse?_plain hc, ih, Option.map_map]
      rfl

theorem parse?_containing (term : String) : parse? (containing term).toList =
    some (.anyRun :: (term.toList.map .exactly ++ [.anyRun])) := by
  rw [containing, String.toList_ofList, parse?, parse?_escape_append]
  rfl

theorem untilZero_eq {s : List Char} (h : '\x00' ∉ s) : untilZero s = s := by
  rw [untilZero, List.takeWhile_eq_self_iff]
  intro c hc
  rw [bne_iff_ne]
  rintro rfl
  exact h hc

theorem mem_escape {c : Char} {s : List Char} (h : c ∈ escape s) : c = escapeChar ∨ c ∈ s := by
  rw [escape_eq_flatMap] at h
  obtain ⟨d, hd, hc⟩ := List.mem_flatMap.mp h
  split at hc
  · rcases List.mem_cons.mp hc with rfl | hc
    · exact .inl rfl
    · exact .inr (List.mem_singleton.mp hc ▸ hd)
  · exact .inr (List.mem_singleton.mp hc ▸ hd)

theorem zero_not_mem_containing {term : String} (h : '\x00' ∉ term.toList) :
    '\x00' ∉ (containing term).toList := by
  rw [containing, String.toList_ofList]
  intro hmem
  rcases List.mem_cons.mp hmem with heq | hmem
  · exact absurd heq (by decide)
  rcases List.mem_append.mp hmem with hmem | hmem
  · exact (mem_escape hmem).elim (by decide) h
  · exact absurd (List.mem_singleton.mp hmem) (by decide)

theorem isLike_containing {text term : String} (htext : '\x00' ∉ text.toList)
    (hterm : '\x00' ∉ term.toList) : isLike text (containing term) = true ↔ Holds text term := by
  rw [isLike, untilZero_eq (zero_not_mem_containing hterm), parse?_containing, untilZero_eq htext]
  exact matchesAll_iff.trans matches_containing

-- ---------------------------------------------------------------------------
-- Terms without replacement characters
-- ---------------------------------------------------------------------------

theorem eq_of_toLower {c d : Char} (h : c.toLower = d) (hd : 128 ≤ d.toNat) : c = d := by
  unfold Char.toLower at h
  split at h
  · next hupper =>
    subst h
    have hle : c.val.toNat ≤ 90 := UInt32.le_iff_toNat_le.mp hupper.2
    have hval : (c.val + ('a'.val - 'A'.val)).toNat = c.val.toNat + 32 := by
      rw [UInt32.toNat_add]
      show (c.val.toNat + 32) % 2 ^ 32 = _
      omega
    have hd : 128 ≤ (c.val + ('a'.val - 'A'.val)).toNat := hd
    omega
  · exact h

theorem folded_eq (c : Char) : folded c = asRead c.toLower := by
  unfold folded asRead
  by_cases hc : c = '\uFFFE' ∨ c = '\uFFFF'
  · rcases hc with rfl | rfl <;> decide
  · have hlower : ¬ (c.toLower = '\uFFFE' ∨ c.toLower = '\uFFFF') := fun h =>
      hc (h.imp (eq_of_toLower · (by decide)) (eq_of_toLower · (by decide)))
    rw [if_neg hc, if_neg hlower]

theorem map_folded (cs : List Char) : cs.map folded = (cs.map Char.toLower).map asRead := by
  rw [List.map_map]
  exact List.map_congr_left fun c _ => folded_eq c

theorem Contains.holds {text term : String} (h : Contains text term) : Holds text term := by
  rw [Holds, map_folded, map_folded]
  exact h.map asRead

def ReadAlone (c : Char) : Prop := c ≠ '\uFFFD' ∧ c ≠ '\uFFFE' ∧ c ≠ '\uFFFF'

instance (c : Char) : Decidable (ReadAlone c) := inferInstanceAs (Decidable (_ ∧ _))

theorem ReadAlone.toLower {c : Char} (h : ReadAlone c) : ReadAlone c.toLower :=
  ⟨fun heq => h.1 (eq_of_toLower heq (by decide)),
    fun heq => h.2.1 (eq_of_toLower heq (by decide)),
    fun heq => h.2.2 (eq_of_toLower heq (by decide))⟩

theorem ReadAlone.asRead_iff {c : Char} (h : ReadAlone c) (d : Char) :
    asRead c = asRead d ↔ c = d := by
  obtain ⟨hrepl, hfirst, hlast⟩ := h
  rw [asRead, if_neg (by simp [hfirst, hlast]), asRead]
  split
  · next hd =>
    refine iff_of_false hrepl ?_
    rcases hd with rfl | rfl
    · exact hfirst
    · exact hlast
  · exact Iff.rfl

theorem ReadAlone.folded_iff {c : Char} (h : ReadAlone c) (d : Char) :
    folded c = folded d ↔ c.toLower = d.toLower := by
  rw [folded_eq, folded_eq]
  exact h.toLower.asRead_iff _

theorem map_eq_map_iff_of {f g : Char → Char} {cs ds : List Char}
    (h : ∀ c ∈ cs, ∀ d, f c = f d ↔ g c = g d) :
    cs.map f = ds.map f ↔ cs.map g = ds.map g := by
  induction cs generalizing ds with
  | nil => simp [eq_comm]
  | cons c cs ih =>
    cases ds with
    | nil => simp
    | cons d ds =>
      obtain ⟨hc, hcs⟩ := List.forall_mem_cons.mp h
      simp only [List.map_cons, List.cons.injEq, hc d, ih hcs]

/-- A term without the characters that are read alike is held exactly by the texts that contain
it. -/
theorem holds_iff_contains {text term : String} (h : ∀ c ∈ term.toList, ReadAlone c) :
    Holds text term ↔ Contains text term := by
  rw [Holds, Contains, List.infix_map_iff, List.infix_map_iff]
  exact exists_congr fun piece => and_congr_right fun _ =>
    map_eq_map_iff_of fun c hc d => (h c hc).folded_iff d

end Parley.Pattern
