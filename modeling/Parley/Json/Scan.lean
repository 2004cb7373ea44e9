import Parley.Text.Numeral

/-!
# Scanning JSON

The leaves of JSON's grammar, read from the front of a byte sequence: blanks, words, strings and
numbers. A scanner gives what it has read and the bytes that are left, which are always fewer.
-/

namespace Parley.Json

abbrev Bytes := List UInt8

def code (c : Char) : UInt8 := c.toUInt8

def isBlankByte (b : UInt8) : Bool := b == 0x20 || b == 0x0A || b == 0x0D || b == 0x09

def skipBlank (s : Bytes) : Bytes := s.dropWhile isBlankByte

theorem length_skipBlank (s : Bytes) : (skipBlank s).length ≤ s.length :=
  (List.dropWhile_suffix _).length_le

def afterWord? (word : String) (s : Bytes) : Option Bytes :=
  if word.toUTF8.data.toList.isPrefixOf s then some (s.drop word.utf8ByteSize) else none

-- ---------------------------------------------------------------------------
-- Strings
-- ---------------------------------------------------------------------------

def hexDigit? (b : UInt8) : Option Nat :=
  if code '0' ≤ b ∧ b ≤ code '9' then some (b - code '0').toNat
  else if code 'a' ≤ b ∧ b ≤ code 'f' then some ((b - code 'a').toNat + 10)
  else if code 'A' ≤ b ∧ b ≤ code 'F' then some ((b - code 'A').toNat + 10)
  else none

def hex4? (a b c d : UInt8) : Option Nat := do
  return (← hexDigit? a) * 4096 + (← hexDigit? b) * 256 + (← hexDigit? c) * 16 + (← hexDigit? d)

def escaped? (b : UInt8) : Option UInt8 :=
  if b = code '"' ∨ b = code '\\' ∨ b = code '/' then some b
  else if b = code 'b' then some 0x08
  else if b = code 'f' then some 0x0C
  else if b = code 'n' then some 0x0A
  else if b = code 'r' then some 0x0D
  else if b = code 't' then some 0x09
  else none

/-- What follows a string whose opening quote has been read. Only its form is checked: it may hold
bytes and escapes that stand for no character. -/
def skipString? : Bytes → Option Bytes
  | [] => none
  | b :: s =>
    if b = code '"' then some s
    else if b = code '\\' then
      match s with
      | [] => none
      | e :: s =>
        if e = code 'u' then
          match s with
          | a :: b :: c :: d :: s => if (hex4? a b c d).isSome then skipString? s else none
          | _ => none
        else if (escaped? e).isSome then skipString? s
        else none
    else if b < 0x20 then none
    else skipString? s

def utf8OfCode (n : Nat) : Bytes := (String.singleton (Char.ofNat n)).toUTF8.data.toList

def isHighSurrogate (n : Nat) : Bool := 0xD800 ≤ n && n ≤ 0xDBFF
def isLowSurrogate (n : Nat) : Bool := 0xDC00 ≤ n && n ≤ 0xDFFF

/-- The bytes of a string whose opening quote has been read, with its escapes resolved, and what
follows it; `out` holds the bytes so far, last first. -/
def takeBytes? (out : Bytes) : Bytes → Option (Bytes × Bytes)
  | [] => none
  | b :: s =>
    if b = code '"' then some (out.reverse, s)
    else if b = code '\\' then
      match s with
      | [] => none
      | e :: s =>
        if e = code 'u' then
          match s with
          | a :: b :: c :: d :: s =>
            match hex4? a b c d with
            | none => none
            | some n =>
              if isLowSurrogate n then none
              else if isHighSurrogate n then
                match s with
                | x :: y :: a :: b :: c :: d :: s =>
                  match hex4? a b c d with
                  | none => none
                  | some m =>
                    if x = code '\\' ∧ y = code 'u' ∧ isLowSurrogate m then
                      let n := 0x10000 + (n - 0xD800) * 0x400 + (m - 0xDC00)
                      takeBytes? ((utf8OfCode n).reverse ++ out) s
                    else none
                | _ => none
              else takeBytes? ((utf8OfCode n).reverse ++ out) s
          | _ => none
        else
          match escaped? e with
          | some b => takeBytes? (b :: out) s
          | none => none
    else if b < 0x20 then none
    else takeBytes? (b :: out) s

def takeString? (s : Bytes) : Option (String × Bytes) := do
  let (bytes, rest) ← takeBytes? [] s
  return (← String.fromUTF8? ⟨bytes.toArray⟩, rest)

-- ---------------------------------------------------------------------------
-- Numbers
-- ---------------------------------------------------------------------------

def isDigitByte (b : UInt8) : Bool := code '0' ≤ b && b ≤ code '9'

structure Number where
  negative : Bool
  whole : Bytes
  fraction : Bytes
  exponent : Option (Bool × Bytes)
  deriving DecidableEq, Repr

def takeDigits? (s : Bytes) : Option (Bytes × Bytes) :=
  let digits := s.takeWhile isDigitByte
  if digits.isEmpty then none else some (digits, s.dropWhile isDigitByte)

/-- The whole part: no digit follows a leading zero. -/
def takeWhole? (s : Bytes) : Option (Bytes × Bytes) :=
  match takeDigits? s with
  | some (b :: _ :: _, _) =>
    if b = code '0' then none else takeDigits? s
  | r => r

def takeFraction? : Bytes → Option (Bytes × Bytes)
  | [] => some ([], [])
  | b :: s => if b = code '.' then takeDigits? s else some ([], b :: s)

def takeSign : Bytes → Bool × Bytes
  | [] => (false, [])
  | b :: s =>
    if b = code '+' then (false, s) else if b = code '-' then (true, s) else (false, b :: s)

def takeExponent? : Bytes → Option (Option (Bool × Bytes) × Bytes)
  | [] => some (none, [])
  | b :: s =>
    if b = code 'e' ∨ b = code 'E' then
      (takeDigits? (takeSign s).2).map fun (digits, rest) => (some ((takeSign s).1, digits), rest)
    else some (none, b :: s)

def takeMinus : Bytes → Bool × Bytes
  | [] => (false, [])
  | b :: s => if b = code '-' then (true, s) else (false, b :: s)

def takeNumber? (s : Bytes) : Option (Number × Bytes) := do
  let (whole, rest) ← takeWhole? (takeMinus s).2
  let (fraction, rest) ← takeFraction? rest
  let (exponent, rest) ← takeExponent? rest
  return (⟨(takeMinus s).1, whole, fraction, exponent⟩, rest)

-- ---------------------------------------------------------------------------
-- What is left is shorter
-- ---------------------------------------------------------------------------

theorem length_afterWord? {word : String} {s r : Bytes} (h : afterWord? word s = some r)
    (hw : word.utf8ByteSize ≠ 0) : r.length < s.length := by
  unfold afterWord? at h
  split at h
  · rename_i hp
    obtain rfl := Option.some.inj h
    obtain ⟨t, rfl⟩ := List.isPrefixOf_iff_prefix.mp hp
    have hl : word.toUTF8.data.toList.length = word.utf8ByteSize := rfl
    simp only [List.length_drop, List.length_append, hl]
    omega
  · simp at h

theorem length_skipString? {s r : Bytes} (h : skipString? s = some r) : r.length < s.length := by
  fun_induction skipString? s <;> simp_all <;> omega

theorem length_takeBytes? {out s bs r : Bytes} (h : takeBytes? out s = some (bs, r)) :
    r.length < s.length := by
  fun_induction takeBytes? out s <;> simp_all <;> omega

theorem length_takeString? {s r : Bytes} {t : String} (h : takeString? s = some (t, r)) :
    r.length < s.length := by
  simp only [takeString?, Option.bind_eq_bind, Option.bind_eq_some_iff, Option.pure_def] at h
  obtain ⟨⟨bs, r'⟩, hb, t', -, h⟩ := h
  obtain ⟨-, rfl⟩ := Prod.mk.inj (Option.some.inj h)
  exact length_takeBytes? hb

theorem length_takeDigits? {s ds r : Bytes} (h : takeDigits? s = some (ds, r)) :
    r.length < s.length := by
  simp only [takeDigits?] at h
  split at h
  · simp at h
  · rename_i hne
    obtain ⟨rfl, rfl⟩ := Prod.mk.inj (Option.some.inj h)
    have : (s.takeWhile isDigitByte ++ s.dropWhile isDigitByte).length = s.length := by
      rw [List.takeWhile_append_dropWhile]
    rw [List.length_append] at this
    have : (s.takeWhile isDigitByte).length ≠ 0 := by
      simpa [List.isEmpty_iff_length_eq_zero] using hne
    omega

theorem length_takeWhole? {s ds r : Bytes} (h : takeWhole? s = some (ds, r)) :
    r.length < s.length := by
  unfold takeWhole? at h
  split at h
  · split at h
    · simp at h
    · exact length_takeDigits? h
  · exact length_takeDigits? h

theorem length_takeFraction? {s ds r : Bytes} (h : takeFraction? s = some (ds, r)) :
    r.length ≤ s.length := by
  unfold takeFraction? at h
  split at h
  · simp_all
  · split at h
    · have := length_takeDigits? h; simp only [List.length_cons]; omega
    · obtain ⟨-, rfl⟩ := Prod.mk.inj (Option.some.inj h); exact Nat.le_refl _

theorem length_takeSign (s : Bytes) : (takeSign s).2.length ≤ s.length := by
  unfold takeSign
  split
  · simp
  · split
    · simp
    · split <;> simp

theorem length_takeMinus (s : Bytes) : (takeMinus s).2.length ≤ s.length := by
  unfold takeMinus
  split
  · simp
  · split <;> simp

theorem length_takeExponent? {s r : Bytes} {e : Option (Bool × Bytes)}
    (h : takeExponent? s = some (e, r)) : r.length ≤ s.length := by
  unfold takeExponent? at h
  split at h
  · simp_all
  · rename_i b s
    split at h
    · obtain ⟨⟨ds, r'⟩, hd, he⟩ := Option.map_eq_some_iff.mp h
      obtain ⟨-, rfl⟩ := Prod.mk.inj he
      have hs := length_takeSign s
      have := length_takeDigits? hd
      simp only [List.length_cons]; omega
    · obtain ⟨-, rfl⟩ := Prod.mk.inj (Option.some.inj h); exact Nat.le_refl _

theorem length_takeNumber? {s r : Bytes} {n : Number} (h : takeNumber? s = some (n, r)) :
    r.length < s.length := by
  simp only [takeNumber?, Option.bind_eq_bind, Option.bind_eq_some_iff, Option.pure_def] at h
  obtain ⟨⟨w, s₁⟩, hw, ⟨f, s₂⟩, hf, ⟨e, s₃⟩, he, h⟩ := h
  simp only [Option.some.injEq, Prod.mk.injEq] at h
  obtain ⟨-, rfl⟩ := h
  have h₁ := length_takeWhole? hw
  have h₂ := length_takeFraction? hf
  have h₃ := length_takeExponent? he
  have := length_takeMinus s
  simp only at h₂ h₃
  omega

end Parley.Json
