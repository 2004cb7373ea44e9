import Parley.Http.Target
import Parley.Proofs.Text.Ascii

/-!
# The order of texts

Texts are ordered by their characters. Databases order them by the bytes of their encoding, which is
the same order (`bytesOf_lt_iff`): a later character has a later encoding, also where the encodings
are of different lengths.
-/

namespace Parley

open Http (bytesOf)

-- ---------------------------------------------------------------------------
-- One character
-- ---------------------------------------------------------------------------

theorem cons_byte_lt {m n : Nat} {xs ys : List UInt8} (hm : m < 256) (hn : n < 256)
    (h : m < n ∨ m = n ∧ xs < ys) : UInt8.ofNat m :: xs < UInt8.ofNat n :: ys := by
  rw [List.cons_lt_cons_iff, UInt8.lt_iff_toNat_lt, UInt8.toNat_ofNat_of_lt' hm,
    UInt8.toNat_ofNat_of_lt' hn]
  exact h.imp_right (.imp_left (congrArg _))

/-- Bits of a character in one byte, under the mark `k` of the byte's place. -/
theorem cons_bits_lt {m n k : Nat} {xs ys : List UInt8} (hm : m + k < 256) (hn : n + k < 256)
    (h : m < n ∨ m = n ∧ xs < ys) : UInt8.ofNat (m + k) :: xs < UInt8.ofNat (n + k) :: ys :=
  cons_byte_lt hm hn (h.imp (Nat.add_lt_add_right · k) (.imp_left (congrArg (· + k))))

theorem utf8EncodeChar_append_lt {c d : Char} (h : c < d) (xs ys : List UInt8) :
    String.utf8EncodeChar c ++ xs < String.utf8EncodeChar d ++ ys := by
  have hlt : c.val.toNat < d.val.toNat := h
  have hd : d.val.toNat < 0x110000 := by rcases d.valid with h | h <;> omega
  unfold String.utf8EncodeChar
  generalize c.val.toNat = m at hlt
  generalize d.val.toNat = n at hlt hd
  dsimp only
  repeat' split
  all_goals simp only [List.cons_append, List.nil_append]
  -- Of two encodings of different lengths the longer one begins with the greater byte.
  all_goals try first
    | exact cons_byte_lt (by omega) (by omega) (.inl (by omega))
    | omega
  · have hbits : m / 64 % 32 < n / 64 % 32 ∨ m / 64 % 32 = n / 64 % 32 ∧ m % 64 < n % 64 := by
      omega
    refine cons_bits_lt (by omega) (by omega) (hbits.imp_right (.imp_right fun h => ?_))
    exact cons_bits_lt (by omega) (by omega) (.inl h)
  · have hbits : m / 4096 % 16 < n / 4096 % 16 ∨ m / 4096 % 16 = n / 4096 % 16 ∧
        (m / 64 % 64 < n / 64 % 64 ∨ m / 64 % 64 = n / 64 % 64 ∧ m % 64 < n % 64) := by
      omega
    refine cons_bits_lt (by omega) (by omega) (hbits.imp_right (.imp_right fun h => ?_))
    refine cons_bits_lt (by omega) (by omega) (h.imp_right (.imp_right fun h => ?_))
    exact cons_bits_lt (by omega) (by omega) (.inl h)
  · have hbits : m / 262144 % 8 < n / 262144 % 8 ∨ m / 262144 % 8 = n / 262144 % 8 ∧
        (m / 4096 % 64 < n / 4096 % 64 ∨ m / 4096 % 64 = n / 4096 % 64 ∧
        (m / 64 % 64 < n / 64 % 64 ∨ m / 64 % 64 = n / 64 % 64 ∧ m % 64 < n % 64)) := by
      rcases Nat.lt_or_eq_of_le (Nat.div_le_div_right (c := 4096) (Nat.le_of_lt hlt)) with h | h
      · omega
      · omega
    refine cons_bits_lt (by omega) (by omega) (hbits.imp_right (.imp_right fun h => ?_))
    refine cons_bits_lt (by omega) (by omega) (h.imp_right (.imp_right fun h => ?_))
    refine cons_bits_lt (by omega) (by omega) (h.imp_right (.imp_right fun h => ?_))
    exact cons_bits_lt (by omega) (by omega) (.inl h)

-- ---------------------------------------------------------------------------
-- Whole texts
-- ---------------------------------------------------------------------------

theorem flatMap_utf8EncodeChar_lt {cs ds : List Char} (h : cs < ds) :
    cs.flatMap String.utf8EncodeChar < ds.flatMap String.utf8EncodeChar := by
  induction cs generalizing ds with
  | nil =>
    cases ds with
    | nil => exact absurd h (List.lt_irrefl _)
    | cons d ds =>
      obtain ⟨b, bs, hbytes⟩ := List.exists_cons_of_ne_nil (String.utf8EncodeChar_ne_nil (c := d))
      rw [List.flatMap_cons, hbytes]
      exact List.nil_lt_cons _ _
  | cons c cs ih =>
    cases ds with
    | nil => exact absurd h (List.not_lt_nil _)
    | cons d ds =>
      rw [List.flatMap_cons, List.flatMap_cons]
      rcases List.cons_lt_cons_iff.mp h with hcd | ⟨rfl, hrest⟩
      · exact utf8EncodeChar_append_lt hcd _ _
      · exact List.append_left_lt (ih hrest)

theorem bytesOf_lt {a b : String} (h : a < b) : bytesOf a < bytesOf b := by
  rw [bytesOf, bytesOf, bytes_eq_flatMap, bytes_eq_flatMap]
  exact flatMap_utf8EncodeChar_lt (String.lt_iff.mp h)

theorem bytesOf_inj {a b : String} : bytesOf a = bytesOf b ↔ a = b := by
  refine ⟨fun h => ?_, congrArg _⟩
  exact String.toByteArray_inj.mp (ByteArray.ext (Array.toList_inj.mp h))

theorem bytesOf_lt_iff {a b : String} : bytesOf a < bytesOf b ↔ a < b := by
  refine ⟨fun h => String.not_le.mp fun hle => ?_, bytesOf_lt⟩
  by_cases hba : b < a
  · exact List.lt_asymm h (bytesOf_lt hba)
  · rw [String.le_antisymm hle (String.not_lt.mp hba)] at h
    exact List.lt_irrefl _ h

end Parley
