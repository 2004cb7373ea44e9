import Parley.Password.Hash
import Parley.Proofs.Base64
import Parley.Proofs.Except
import Parley.Proofs.Text.Ascii

/-!
# Reading password hashes

What is made as a hash text is read back, so verifying a password against it gives an answer.
-/

namespace Parley.Password

open Base64 (Alphabet encode decode_encode length_encode encode_mem)

variable {cost : Nat} (salt : Salt) (password : String)

theorem length_digest (salt : List UInt8) : (digest cost salt password).length = 23 := by
  simp [digest, bytesOfWord]

-- ---------------------------------------------------------------------------
-- The parts of a hash text
-- ---------------------------------------------------------------------------

theorem passwords_plain : ∀ c ∈ Alphabet.passwords.symbols,
    c.toNat < 128 ∧ c ≠ '$' ∧ beginsChar (asciiByte c) = true := by
  -- The quantifier is over a list: there are too many characters to try each.
  have h : (Alphabet.passwords.symbols.all fun c =>
      decide (c.toNat < 128 ∧ c ≠ '$' ∧ beginsChar (asciiByte c) = true)) = true := by
    decide +kernel
  exact fun c hc => of_decide_eq_true (List.all_eq_true.mp h c hc)

theorem cost_plain : ∀ cost ≤ maxCost, '$' ∉ Numeral.fixed 2 cost ∧
    Numeral.readNat 0xFFFFFFFF (Numeral.fixed 2 cost) = .ok cost := by
  decide +kernel

def body (cost : Nat) (salt : Salt) (password : String) : List Char :=
  encode .passwords salt.toList ++ encode .passwords (digest cost salt.toList password)

theorem body_mem : ∀ c ∈ body cost salt password, c ∈ Alphabet.passwords.symbols := by
  intro c hc
  rcases List.mem_append.mp hc with hc | hc
  · exact encode_mem _ _ c hc
  · exact encode_mem _ _ c hc

theorem length_salt : (encode .passwords salt.toList).length = saltLength := by
  simp [length_encode, saltLength]

theorem length_body : (body cost salt password).length = bodyLength := by
  simp [body, length_encode, length_digest, bodyLength]

theorem isAscii_body : IsAscii (body cost salt password) :=
  fun c hc => (passwords_plain c (body_mem salt password c hc)).1

theorem parts_hashWith (hcost : cost ≤ maxCost) : parts '$' (hashWith cost salt password) =
    ["2b", String.ofList (Numeral.fixed 2 cost), String.ofList (body cost salt password)] := by
  have htext : (hashWith cost salt password).toList =
      [] ++ '$' :: (['2', 'b'] ++ '$' :: (Numeral.fixed 2 cost ++ '$' :: body cost salt password)) := by
    simp [hashWith, body]
  have hbody : '$' ∉ body cost salt password :=
    fun h => (passwords_plain _ (body_mem salt password _ h)).2.1 rfl
  have hnonempty : (body cost salt password).isEmpty = false := by
    rw [List.isEmpty_eq_false_iff, ← List.length_pos_iff, length_body]
    decide
  have hdigits : (Numeral.fixed 2 cost).isEmpty = false := by
    rw [List.isEmpty_eq_false_iff, ← List.length_pos_iff, Numeral.length_fixed]
    decide
  rw [parts, htext, List.splitOn_append_cons_self_of_not_mem (by decide),
    List.splitOn_append_cons_self_of_not_mem (by decide),
    List.splitOn_append_cons_self_of_not_mem (cost_plain cost hcost).1,
    List.splitOn_eq_singleton hbody]
  simp [hnonempty, hdigits]

-- ---------------------------------------------------------------------------
-- Reading
-- ---------------------------------------------------------------------------

theorem read_hashWith (hmin : minCost ≤ cost) (hmax : cost ≤ maxCost) :
    Hash.read (hashWith cost salt password) = .ok
      ⟨cost, salt.toList, encode .passwords (digest cost salt.toList password)⟩ := by
  have hascii : IsAscii (body cost salt password) := isAscii_body salt password
  have hbegins : (((body cost salt password).map asciiByte)[saltLength]?.any
      fun b => !beginsChar b) = false := by
    rw [Option.any_eq_false]
    intro b hb
    obtain ⟨c, hc, rfl⟩ := List.mem_map.mp (List.mem_of_getElem? hb)
    simp [(passwords_plain c (body_mem salt password c hc)).2.2]
  have hsalt : (body cost salt password).take saltLength = encode .passwords salt.toList :=
    List.take_left' (length_salt salt)
  have hdigest : (body cost salt password).drop saltLength =
      encode .passwords (digest cost salt.toList password) :=
    List.drop_left' (length_salt salt)
  have hversion : "2b" ∈ versions := by decide
  have hrange : ¬ (cost < minCost ∨ maxCost < cost) := by omega
  simp only [Hash.read, parts_hashWith salt password hmax, hversion, not_true_eq_false, if_false,
    String.toList_ofList, (cost_plain cost hmax).2, hascii.bytes, hascii.ofBytes, List.length_map,
    length_body, ne_eq, hbegins, Bool.false_eq_true, or_self, hsalt, decode_encode,
    Except.mapError, ok_bind, hrange, hdigest]
  rfl

variable {salt password}

theorem verify_read (hread : Hash.read text = .ok h)
    (hdigest : Base64.decode .passwords h.digest = .ok expected) (given : String) :
    verify given text = .ok (expected == digest h.cost h.salt given) := by
  simp only [verify, hread, hdigest, ok_bind, Except.mapError, pure, Except.pure]

theorem verify_hash (given : String) : verify given (hash salt password) =
    .ok (digest defaultCost salt.toList password == digest defaultCost salt.toList given) := by
  have hread := read_hashWith salt password (by decide : minCost ≤ defaultCost) (by decide)
  exact verify_read hread (decode_encode .passwords _) given

end Parley.Password
