import Parley.Json.Form
import Parley.Proofs.Except
import Parley.Proofs.Text.Ascii

/-!
# Plain text in JSON

Text that needs no escapes is read back from between its quotes.
-/

namespace Parley.Json

/-- Characters that stand for themselves in a string, one byte each. -/
def IsPlain (cs : List Char) : Prop :=
  ∀ c ∈ cs, 0x20 ≤ c.toNat ∧ c.toNat < 128 ∧ c ≠ '"' ∧ c ≠ '\\'

def quoted (cs : List Char) : Bytes := code '"' :: (cs.map asciiByte ++ [code '"'])

variable {cs : List Char}

theorem IsPlain.isAscii (h : IsPlain cs) : IsAscii cs := fun c hc => (h c hc).2.1

theorem asciiByte_ne_code {c d : Char} (hc : c.toNat < 128) (hd : (code d).toNat = d.toNat)
    (h : c ≠ d) : asciiByte c ≠ code d := by
  intro heq
  have hnat := congrArg UInt8.toNat heq
  rw [toNat_asciiByte hc, hd] at hnat
  exact h (Char.toNat_inj.mp hnat)

theorem takeBytes?_plain (h : IsPlain cs) (out s : Bytes) :
    takeBytes? out (cs.map asciiByte ++ code '"' :: s) =
      some (out.reverse ++ cs.map asciiByte, s) := by
  induction cs generalizing out with
  | nil =>
    rw [List.map_nil, List.nil_append, List.append_nil]
    unfold takeBytes?
    exact if_pos rfl
  | cons c rest ih =>
    obtain ⟨⟨hprinted, hascii, hquote, hescape⟩, hrest⟩ := List.forall_mem_cons.mp h
    have hprinted : ¬ asciiByte c < 0x20 := by
      rw [UInt8.lt_iff_toNat_lt, toNat_asciiByte hascii]
      exact Nat.not_lt.mpr hprinted
    rw [List.map_cons, List.cons_append]
    unfold takeBytes?
    rw [if_neg (asciiByte_ne_code hascii rfl hquote), if_neg (asciiByte_ne_code hascii rfl hescape),
      if_neg hprinted, ih hrest]
    simp

theorem skipBlank_cons (h : isBlankByte b = false) (s : Bytes) : skipBlank (b :: s) = b :: s :=
  List.dropWhile_cons_of_neg (by simp [h])

theorem readText_quoted (h : IsPlain cs) (place : String) (s : Bytes) :
    readText place (quoted cs ++ s) = .ok (String.ofList cs, s) := by
  have htake : takeString? (cs.map asciiByte ++ code '"' :: s) = some (String.ofList cs, s) := by
    simp [takeString?, takeBytes?_plain h, h.isAscii.fromUTF8?]
  simp only [readText, quoted, List.cons_append, List.append_assoc, List.nil_append,
    skipBlank_cons (b := code '"') rfl, if_true, htake]

theorem Form.read_quoted {f : Form} {name : String} (hf : f.fields = [⟨name, false⟩])
    (h : IsPlain cs) :
    f.read (code '[' :: (quoted cs ++ [code ']'])) = .ok [some (String.ofList cs)] := by
  have hfirst : nextElement true (quoted cs ++ [code ']']) =
      .ok (some (quoted cs ++ [code ']'])) := by
    simp only [nextElement, quoted, List.cons_append, skipBlank_cons (b := code '"') rfl,
      if_neg (show code '"' ≠ code ']' by decide), if_true]
  simp only [Form.read, skipBlank_cons (b := code '[') rfl,
    if_neg (show code '[' ≠ code '{' by decide), if_true, hf, readElements, beq_self_eq_true, hfirst,
    ok_bind, Field.read, Bool.false_eq_true, false_and, if_false, readText_quoted h, Except.map,
    skipBlank_cons (b := code ']') rfl]

end Parley.Json
