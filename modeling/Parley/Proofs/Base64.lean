import Mathlib.Data.List.GetD
import Mathlib.Data.List.Nodup
import Parley.Base64

/-!
# Base64, written and read back

The text of bytes is read back as the same bytes, whatever the alphabet (`decode_encode`). The padded
texts that are accepted are exactly those that bytes are written as (`isEncoded_iff`).
-/

namespace Parley.Base64

-- ---------------------------------------------------------------------------
-- Six bits and eight
-- ---------------------------------------------------------------------------

theorem ofNat_eq {n : Nat} {a : UInt8} (h : n % 256 = a.toNat) : UInt8.ofNat n = a := by
  rw [← UInt8.toNat_inj, UInt8.toNat_ofNat', h]

theorem sextets_lt (bs : List UInt8) : ∀ v ∈ sextets bs, v < 64 := by
  induction bs using sextets.induct with
  | case1 => simp [sextets]
  | case2 a =>
    have := a.toNat_lt
    simp [sextets]
    omega
  | case3 a b =>
    have := a.toNat_lt
    have := b.toNat_lt
    simp [sextets]
    omega
  | case4 a b c rest ih =>
    have := a.toNat_lt
    have := b.toNat_lt
    have := c.toNat_lt
    simp only [sextets, List.forall_mem_cons]
    exact ⟨by omega, by omega, by omega, by omega, ih⟩

theorem isWhole_sextets (bs : List UInt8) : isWhole (sextets bs) = true := by
  induction bs using sextets.induct with
  | case1 => rfl
  | case2 a => simp [sextets, isWhole]
  | case3 a b => simp [sextets, isWhole]
  | case4 a b c rest ih => exact ih

theorem bytes_sextets (bs : List UInt8) : bytes (sextets bs) = bs := by
  induction bs using sextets.induct with
  | case1 => rfl
  | case2 a =>
    have := a.toNat_lt
    simp only [sextets, bytes]
    rw [ofNat_eq (a := a) (by omega)]
  | case3 a b =>
    have := a.toNat_lt
    have := b.toNat_lt
    simp only [sextets, bytes]
    rw [ofNat_eq (a := a) (by omega), ofNat_eq (a := b) (by omega)]
  | case4 a b c rest ih =>
    have := a.toNat_lt
    have := b.toNat_lt
    have := c.toNat_lt
    simp only [sextets, bytes, ih]
    rw [ofNat_eq (a := a) (by omega), ofNat_eq (a := b) (by omega), ofNat_eq (a := c) (by omega)]

theorem sextets_bytes {vs : List Nat} (hwhole : isWhole vs = true) (hvs : ∀ v ∈ vs, v < 64) :
    sextets (bytes vs) = vs := by
  induction vs using bytes.induct with
  | case1 a b c d rest ih =>
    simp only [List.forall_mem_cons] at hvs
    obtain ⟨ha, hb, hc, hd, hrest⟩ := hvs
    simp only [bytes, sextets, UInt8.toNat_ofNat', ih hwhole hrest, List.cons.injEq, and_true]
    omega
  | case2 a b c =>
    have hc : c % 4 = 0 := by simpa [isWhole] using hwhole
    simp only [List.forall_mem_cons] at hvs
    simp only [bytes, sextets, UInt8.toNat_ofNat', List.cons.injEq, and_true]
    omega
  | case3 a b =>
    have hb : b % 16 = 0 := by simpa [isWhole] using hwhole
    simp only [List.forall_mem_cons] at hvs
    simp only [bytes, sextets, UInt8.toNat_ofNat', List.cons.injEq, and_true]
    omega
  | case4 a => simp [isWhole] at hwhole
  | case5 => rfl

theorem length_sextets (bs : List UInt8) : (sextets bs).length = (4 * bs.length + 2) / 3 := by
  induction bs using sextets.induct with
  | case1 => rfl
  | case2 | case3 => simp [sextets]
  | case4 a b c rest ih =>
    simp only [sextets, List.length_cons, ih]
    omega

-- ---------------------------------------------------------------------------
-- Characters
-- ---------------------------------------------------------------------------

variable (α : Alphabet)

theorem Alphabet.symbol_eq {v : Nat} (hv : v < α.symbols.length) : α.symbol v = α.symbols[v] :=
  List.getD_eq_getElem _ _ hv

theorem Alphabet.symbol_mem {v : Nat} (hv : v < 64) : α.symbol v ∈ α.symbols := by
  rw [← α.length_symbols] at hv
  rw [α.symbol_eq hv]
  exact List.getElem_mem hv

theorem Alphabet.value?_symbol {v : Nat} (hv : v < 64) : α.value? (α.symbol v) = some v := by
  rw [← α.length_symbols] at hv
  rw [value?, List.idxOf?_eq_some_iff, α.symbol_eq hv]
  refine ⟨hv, rfl, fun j hj hsame => ?_⟩
  have := (List.Nodup.getElem_inj_iff α.nodup).mp hsame
  omega

theorem Alphabet.value?_some {c : Char} {v : Nat} (h : α.value? c = some v) :
    v < 64 ∧ c = α.symbol v := by
  rw [value?, List.idxOf?_eq_some_iff] at h
  obtain ⟨hv, hc, -⟩ := h
  rw [α.symbol_eq hv]
  exact ⟨α.length_symbols ▸ hv, hc.symm⟩

theorem mapM_value?_iff {text : List Char} {vs : List Nat} :
    text.mapM α.value? = some vs ↔ text = vs.map α.symbol ∧ ∀ v ∈ vs, v < 64 := by
  induction text generalizing vs with
  | nil => cases vs <;> simp
  | cons c text ih =>
    rw [List.mapM_cons]
    cases vs with
    | nil => simp [Option.bind_eq_some_iff]
    | cons v vs =>
      simp only [Option.bind_eq_bind, Option.bind_eq_some_iff, Option.pure_def, Option.some.injEq, ih]
      constructor
      · rintro ⟨v', hv', vs', ⟨rfl, hvs⟩, heq⟩
        cases heq
        obtain ⟨hv, rfl⟩ := α.value?_some hv'
        exact ⟨rfl, List.forall_mem_cons.mpr ⟨hv, hvs⟩⟩
      · rintro ⟨heq, hvs⟩
        obtain ⟨hv, hvs⟩ := List.forall_mem_cons.mp hvs
        obtain ⟨rfl, rfl⟩ := List.cons.inj heq
        exact ⟨v, α.value?_symbol hv, vs, ⟨rfl, hvs⟩, rfl⟩

theorem encode_mem (bs : List UInt8) : ∀ c ∈ encode α bs, c ∈ α.symbols := by
  intro c hc
  obtain ⟨v, hv, rfl⟩ := List.mem_map.mp hc
  exact α.symbol_mem (sextets_lt bs v hv)

theorem length_encode (bs : List UInt8) : (encode α bs).length = (4 * bs.length + 2) / 3 := by
  rw [encode, List.length_map, length_sextets]

theorem values_symbols (vs : List Nat) (hvs : ∀ v ∈ vs, v < 64) (offset : Nat) :
    values α offset (vs.map α.symbol) = .ok vs := by
  induction vs generalizing offset with
  | nil => rfl
  | cons v rest ih =>
    obtain ⟨hv, hrest⟩ := List.forall_mem_cons.mp hvs
    simp only [List.map_cons, values, α.value?_symbol hv, ih hrest]
    rfl

theorem decode_encode (bs : List UInt8) : decode α (encode α bs) = .ok bs := by
  have hvalues : values α 0 (encode α bs) = .ok (sextets bs) :=
    values_symbols α _ (sextets_lt bs) 0
  simp only [decode, hvalues, bind, Except.bind, isWhole_sextets, bytes_sextets, if_true]

-- ---------------------------------------------------------------------------
-- Padding
-- ---------------------------------------------------------------------------

theorem dropPadding_spec (text : List Char) :
    ∃ k ≤ 2, text = dropPadding text ++ List.replicate k '=' := by
  unfold dropPadding
  split
  · next rest h =>
    exact ⟨2, by omega, by rw [← List.reverse_reverse text, h]; simp⟩
  · next rest _ h =>
    exact ⟨1, by omega, by rw [← List.reverse_reverse text, h]; simp⟩
  · exact ⟨0, by omega, by simp⟩

theorem dropPadding_append {cs : List Char} (hcs : '=' ∉ cs) {k : Nat} (hk : k ≤ 2) :
    dropPadding (cs ++ List.replicate k '=') = cs := by
  have hlast : ∀ rest, cs.reverse ≠ '=' :: rest := by
    rintro rest heq
    exact hcs (List.mem_reverse.mp (heq ▸ List.mem_cons_self))
  unfold dropPadding
  rw [List.reverse_append, List.reverse_replicate]
  match k, hk with
  | 0, _ =>
    split
    · next h => exact absurd h (hlast _)
    · next h => exact absurd h (hlast _)
    · exact List.append_nil cs
  | 1, _ =>
    split
    · next h => exact absurd (List.cons.inj h).2 (hlast _)
    · next h =>
      exact (congrArg List.reverse (List.cons.inj h).2.symm).trans (List.reverse_reverse cs)
    · next h => exact absurd rfl (h _)
  | 2, _ => exact List.reverse_reverse cs

theorem length_padding_le (bs : List UInt8) :
    (4 - (encode α bs).length % 4) % 4 ≤ 2 := by
  rw [length_encode]
  omega

/-- Text is the padded text of bytes, over an alphabet without the padding character. -/
theorem isEncoded_iff (hpad : '=' ∉ α.symbols) {text : List Char} :
    isEncoded α text = true ↔ ∃ bs, text = encodePadded α bs := by
  unfold isEncoded
  constructor
  · intro h
    rw [Bool.and_eq_true, beq_iff_eq] at h
    obtain ⟨hlength, h⟩ := h
    split at h
    · next vs hvalues =>
      obtain ⟨hsymbols, hvs⟩ := (mapM_value?_iff α).mp hvalues
      have hencode : encode α (bytes vs) = dropPadding text := by
        rw [encode, sextets_bytes h hvs, hsymbols]
      obtain ⟨k, hk, htext⟩ := dropPadding_spec text
      have hk' : k = (4 - (dropPadding text).length % 4) % 4 := by
        rw [htext, List.length_append, List.length_replicate] at hlength
        omega
      refine ⟨bytes vs, ?_⟩
      rw [encodePadded, hencode, padding, ← hk', ← htext]
    · cases h
  · rintro ⟨bs, rfl⟩
    have hdrop : dropPadding (encodePadded α bs) = encode α bs :=
      dropPadding_append (fun hmem => hpad (encode_mem α bs _ hmem)) (length_padding_le α bs)
    have hvalues : (encode α bs).mapM α.value? = some (sextets bs) :=
      (mapM_value?_iff α).mpr ⟨rfl, sextets_lt bs⟩
    have hlength : (encodePadded α bs).length % 4 = 0 := by
      rw [encodePadded, List.length_append, padding, List.length_replicate]
      omega
    simp only [hdrop, hvalues, hlength, isWhole_sextets, beq_self_eq_true, Bool.and_self]

/-- RFC 4648 has this text for the bytes of "fooba". With another bit set it is the text of none. -/
example : encodePadded .standard [102, 111, 111, 98, 97] = "Zm9vYmE=".toList ∧
    isEncoded .standard "Zm9vYmF=".toList = false := by decide +kernel

theorem padding_not_mem_standard : '=' ∉ Alphabet.standard.symbols := by decide +kernel

end Parley.Base64
