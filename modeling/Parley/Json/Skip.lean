import Parley.Json.Scan

/-!
# Skipping JSON values

Going over a value without making anything of it. Brackets that are open are kept in a list, so
that a value may be nested to any depth.
-/

namespace Parley.Json

/-- The smallest parts of JSON text. A `scalar` is a number, `true`, `false` or `null`. -/
inductive Token where
  | openArray
  | closeArray
  | openObject
  | closeObject
  | comma
  | colon
  | string
  | scalar
  deriving DecidableEq, Repr

def tokenAt? (s : Bytes) : Option (Token × Bytes) :=
  match s with
  | [] => none
  | b :: rest =>
    if b = code '[' then some (.openArray, rest)
    else if b = code ']' then some (.closeArray, rest)
    else if b = code '{' then some (.openObject, rest)
    else if b = code '}' then some (.closeObject, rest)
    else if b = code ',' then some (.comma, rest)
    else if b = code ':' then some (.colon, rest)
    else if b = code '"' then (skipString? rest).map (.string, ·)
    else if b = code 'n' then (afterWord? "null" s).map (.scalar, ·)
    else if b = code 't' then (afterWord? "true" s).map (.scalar, ·)
    else if b = code 'f' then (afterWord? "false" s).map (.scalar, ·)
    else (takeNumber? s).map fun (_, rest) => (.scalar, rest)

def token? (s : Bytes) : Option (Token × Bytes) := tokenAt? (skipBlank s)

theorem length_tokenAt? {s r : Bytes} {t : Token} (h : tokenAt? s = some (t, r)) :
    r.length < s.length := by
  have word {w : String} (hw : w.utf8ByteSize ≠ 0)
      (h : (afterWord? w s).map (Token.scalar, ·) = some (t, r)) : r.length < s.length := by
    obtain ⟨r', hr, he⟩ := Option.map_eq_some_iff.mp h
    obtain ⟨-, rfl⟩ := Prod.mk.inj he
    exact length_afterWord? hr hw
  unfold tokenAt? at h
  split at h
  · simp at h
  · rename_i b rest
    iterate 6 (split at h; · obtain ⟨-, rfl⟩ := Prod.mk.inj (Option.some.inj h); simp)
    split at h
    · obtain ⟨r', hr, he⟩ := Option.map_eq_some_iff.mp h
      obtain ⟨-, rfl⟩ := Prod.mk.inj he
      have := length_skipString? hr
      simp only [List.length_cons]
      omega
    iterate 3 (split at h; · exact word (by decide) h)
    obtain ⟨⟨n, r'⟩, hr, he⟩ := Option.map_eq_some_iff.mp h
    obtain ⟨-, rfl⟩ := Prod.mk.inj he
    exact length_takeNumber? hr

theorem length_token? {s r : Bytes} {t : Token} (h : token? s = some (t, r)) :
    r.length < s.length :=
  Nat.lt_of_lt_of_le (length_tokenAt? h) (length_skipBlank s)

inductive Bracket where
  | array
  | object
  deriving DecidableEq, Repr

inductive Expect where
  | value
  | firstItem
  | firstName
  | name
  | colon
  | next
  deriving DecidableEq, Repr

inductive Move where
  | finish
  | go (inside : List Bracket) (expect : Expect)
  deriving DecidableEq, Repr

def Move.after : List Bracket → Move
  | [] => .finish
  | inside => .go inside .next

def move? : List Bracket → Expect → Token → Option Move
  | inside, .value, .string | inside, .firstItem, .string => some (.after inside)
  | inside, .value, .scalar | inside, .firstItem, .scalar => some (.after inside)
  | inside, .value, .openArray | inside, .firstItem, .openArray =>
    some (.go (.array :: inside) .firstItem)
  | inside, .value, .openObject | inside, .firstItem, .openObject =>
    some (.go (.object :: inside) .firstName)
  | .array :: inside, .firstItem, .closeArray => some (.after inside)
  | .object :: inside, .firstName, .closeObject => some (.after inside)
  | inside, .firstName, .string | inside, .name, .string => some (.go inside .colon)
  | inside, .colon, .colon => some (.go inside .value)
  | .array :: inside, .next, .comma => some (.go (.array :: inside) .value)
  | .object :: inside, .next, .comma => some (.go (.object :: inside) .name)
  | .array :: inside, .next, .closeArray => some (.after inside)
  | .object :: inside, .next, .closeObject => some (.after inside)
  | _, _, _ => none

def skip? (inside : List Bracket) (expect : Expect) (s : Bytes) : Option Bytes :=
  match _h : token? s with
  | none => none
  | some (t, rest) =>
    match move? inside expect t with
    | none => none
    | some .finish => some rest
    | some (.go inside expect) => skip? inside expect rest
termination_by s.length
decreasing_by exact length_token? _h

def skipValue? (s : Bytes) : Option Bytes := skip? [] .value s

theorem length_skip? {inside : List Bracket} {expect : Expect} {s r : Bytes}
    (h : skip? inside expect s = some r) : r.length < s.length := by
  fun_induction skip? inside expect s with
  | case1 => simp at h
  | case2 => simp at h
  | case3 _ _ _ _ _ ht => obtain rfl := Option.some.inj h; exact length_token? ht
  | case4 _ _ _ _ _ ht _ _ _ ih => exact Nat.lt_trans (ih h) (length_token? ht)

theorem length_skipValue? {s r : Bytes} (h : skipValue? s = some r) : r.length < s.length :=
  length_skip? h

end Parley.Json
