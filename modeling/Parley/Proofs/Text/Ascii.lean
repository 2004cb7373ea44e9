import Parley.Text.Numeral

/-!
# ASCII text

Of ASCII text each character is one byte, and the bytes are read back as the same text.
-/

namespace Parley

def IsAscii (cs : List Char) : Prop := ∀ c ∈ cs, c.toNat < 128

def asciiByte (c : Char) : UInt8 := .ofNat c.toNat

theorem toNat_asciiByte {c : Char} (h : c.toNat < 128) : (asciiByte c).toNat = c.toNat := by
  simp only [asciiByte, UInt8.toNat_ofNat']
  omega

theorem exists_large_byte {c : Char} (h : ¬ c.toNat < 128) :
    ∃ b ∈ String.utf8EncodeChar c, 128 ≤ b.toNat := by
  have hv : ¬ c.val.toNat ≤ 127 := fun hle => h (Nat.lt_succ_of_le hle)
  unfold String.utf8EncodeChar
  simp only [if_neg hv]
  split
  · exact ⟨_, .head _, by simp only [UInt8.toNat_ofNat']; omega⟩
  split
  · exact ⟨_, .head _, by simp only [UInt8.toNat_ofNat']; omega⟩
  · exact ⟨_, .head _, by simp only [UInt8.toNat_ofNat']; omega⟩

theorem bytes_eq_flatMap (s : String) :
    s.toUTF8.data.toList = s.toList.flatMap String.utf8EncodeChar := by
  rw [String.toUTF8_eq_toByteArray, ← String.utf8Encode_toList, List.utf8Encode,
    List.data_toByteArray]

namespace IsAscii

variable {cs : List Char}

theorem cons {c : Char} (hc : c.toNat < 128) (hcs : IsAscii cs) : IsAscii (c :: cs) :=
  List.forall_mem_cons.mpr ⟨hc, hcs⟩

theorem append {ds : List Char} (hcs : IsAscii cs) (hds : IsAscii ds) : IsAscii (cs ++ ds) :=
  List.forall_mem_append.mpr ⟨hcs, hds⟩

theorem utf8Encode (h : IsAscii cs) : cs.utf8Encode = (cs.map asciiByte).toByteArray := by
  have hbytes : cs.flatMap String.utf8EncodeChar = cs.map asciiByte := by
    induction cs with
    | nil => rfl
    | cons c rest ih =>
      obtain ⟨hc, hrest⟩ := List.forall_mem_cons.mp h
      have hbyte : String.utf8EncodeChar c = [asciiByte c] := if_pos (Nat.le_of_lt_succ hc)
      rw [List.flatMap_cons, ih hrest, hbyte]
      rfl
  rw [List.utf8Encode, hbytes]

theorem bytes (h : IsAscii cs) : (String.ofList cs).toUTF8.data.toList = cs.map asciiByte := by
  rw [String.toUTF8_eq_toByteArray, String.toByteArray_ofList, h.utf8Encode, List.data_toByteArray]

theorem utf8ByteSize (h : IsAscii cs) : (String.ofList cs).utf8ByteSize = cs.length := by
  rw [String.utf8ByteSize, String.toByteArray_ofList, h.utf8Encode, List.size_toByteArray,
    List.length_map]

theorem ofBytes (h : IsAscii cs) : Numeral.ofBytes (cs.map asciiByte) = cs := by
  rw [Numeral.ofBytes, List.map_map]
  refine (List.map_congr_left fun c hc => ?_).trans (List.map_id _)
  rw [Function.comp_apply, toNat_asciiByte (h c hc), Char.ofNat_toNat]
  rfl

theorem fromUTF8? (h : IsAscii cs) :
    String.fromUTF8? ⟨(cs.map asciiByte).toArray⟩ = some (String.ofList cs) := by
  have hbytes : (String.ofList cs).toByteArray = ⟨(cs.map asciiByte).toArray⟩ := by
    rw [String.toByteArray_ofList, h.utf8Encode]
    exact ByteArray.ext List.data_toByteArray
  rw [← hbytes, String.fromUTF8?, dif_pos (String.ofList cs).isValidUTF8]
  rfl

end IsAscii
end Parley
