import Parley.Json.Kind
import Parley.Json.Skip

/-!
# Forms

The bodies that requests carry: a few named texts, as an object or as an array in the order of the
form. A body is read from front to back, and the first thing in it that does not fit is named. What
follows the value is not looked at.
-/

namespace Parley.Json

/-- A text of a form. An optional one may be absent or null. -/
structure Field where
  name : String
  optional : Bool
  deriving DecidableEq, Repr

structure Form where
  name : String
  fields : List Field
  deriving DecidableEq, Repr

/-- Why a value does not fit a form. -/
inductive Misfit where
  | wrongKind (kind : Kind) (expected : String)
  | missing (field : String)
  | duplicate (field : String)
  | wrongLength (length : Nat) (expected : String)
  deriving DecidableEq, Repr

/-- Why a body is refused: it is no JSON, or it does not fit, at a place inside if that is known. -/
inductive Fault where
  | malformed
  | misfit (place : Option String) (reason : Misfit)
  deriving DecidableEq, Repr

def Misfit.message : Misfit → String
  | .wrongKind kind expected => s!"invalid type: {kind.describe}, expected {expected}"
  | .missing field => s!"missing field `{field}`"
  | .duplicate field => s!"duplicate field `{field}`"
  | .wrongLength length expected => s!"invalid length {length}, expected {expected}"

def Fault.message : Fault → String
  | .malformed => "Failed to parse the request body as JSON"
  | .misfit place reason =>
    let position := match place with
      | none => ""
      | some place => s!"{place}: "
    s!"Failed to deserialize the JSON body into the target type: {position}{reason.message}"

def Form.describe (f : Form) : String := s!"struct {f.name}"

def Form.describeArray (f : Form) : String :=
  let count := f.fields.length
  let elements := if count = 1 then "element" else "elements"
  s!"{f.describe} with {count} {elements}"

def wrongKind (place : Option String) (expected : String) (s : Bytes) : Fault :=
  match kind? s with
  | some k => .misfit place (.wrongKind k expected)
  | none => .malformed

-- ---------------------------------------------------------------------------
-- The values of fields
-- ---------------------------------------------------------------------------

def readText (place : String) (s : Bytes) : Except Fault (String × Bytes) :=
  match skipBlank s with
  | [] => .error .malformed
  | b :: rest =>
    if b = code '"' then
      match takeString? rest with
      | some r => .ok r
      | none => .error .malformed
    else .error (wrongKind (some place) "a string" (b :: rest))

def Field.read (f : Field) (place : String) (s : Bytes) : Except Fault (Option String × Bytes) :=
  let plain := (readText place s).map fun (t, rest) => (some t, rest)
  if f.optional ∧ (skipBlank s).head? = some (code 'n') then
    match afterWord? "null" (skipBlank s) with
    | some rest => .ok (none, rest)
    | none => .error .malformed
  else plain

theorem length_readText {place t : String} {s r : Bytes} (h : readText place s = .ok (t, r)) :
    r.length < s.length := by
  have hs := length_skipBlank s
  unfold readText at h
  split at h
  · simp at h
  · rename_i b rest hb
    rw [hb] at hs
    split at h
    · split at h
      · rename_i ht
        obtain rfl := Except.ok.inj h
        have := length_takeString? ht
        simp only [List.length_cons] at hs
        omega
      · simp at h
    · simp at h

theorem Field.length_read {f : Field} {place : String} {s r : Bytes} {v : Option String}
    (h : f.read place s = .ok (v, r)) : r.length < s.length := by
  have hs := length_skipBlank s
  simp only [Field.read] at h
  split at h
  · split at h
    · rename_i hw
      obtain ⟨-, rfl⟩ := Prod.mk.inj (Except.ok.inj h)
      exact Nat.lt_of_lt_of_le (length_afterWord? hw (by decide)) hs
    · simp at h
  · cases ht : readText place s with
    | error e => simp [ht, Except.map] at h
    | ok p =>
      simp only [ht, Except.map, Except.ok.injEq, Prod.mk.injEq] at h
      obtain ⟨-, rfl⟩ := h
      exact length_readText (t := p.1) ht

-- ---------------------------------------------------------------------------
-- Objects
-- ---------------------------------------------------------------------------

def quotedName? : Bytes → Option (String × Bytes)
  | [] => none
  | b :: rest => if b = code '"' then takeString? rest else none

/-- The name of the next member of an object, and what follows it; `none` at the object's end. -/
def nextName (first : Bool) (s : Bytes) : Except Fault (Option (String × Bytes)) :=
  match skipBlank s with
  | [] => .error .malformed
  | b :: rest =>
    if b = code '}' then .ok none
    else if !first && b != code ',' then .error .malformed
    else
      match quotedName? (if first then b :: rest else skipBlank rest) with
      | some r => .ok (some r)
      | none => .error .malformed

def afterColon (s : Bytes) : Except Fault Bytes :=
  match skipBlank s with
  | [] => .error .malformed
  | b :: rest => if b = code ':' then .ok rest else .error .malformed

theorem length_quotedName? {s r : Bytes} {n : String} (h : quotedName? s = some (n, r)) :
    r.length < s.length := by
  unfold quotedName? at h
  split at h
  · simp at h
  · split at h
    · have := length_takeString? h
      simp only [List.length_cons]
      omega
    · simp at h

theorem length_nextName {first : Bool} {s r : Bytes} {n : String}
    (h : nextName first s = .ok (some (n, r))) : r.length < s.length := by
  have hs := length_skipBlank s
  unfold nextName at h
  split at h
  · simp at h
  · rename_i b rest hb
    rw [hb, List.length_cons] at hs
    split at h
    · simp at h
    split at h
    · simp at h
    split at h
    · rename_i hq
      obtain rfl := Option.some.inj (Except.ok.inj h)
      have hq := length_quotedName? hq
      have hr := length_skipBlank rest
      split at hq
      · simp only [List.length_cons] at hq
        omega
      · omega
    · simp at h

theorem length_afterColon {s r : Bytes} (h : afterColon s = .ok r) : r.length < s.length := by
  have hs := length_skipBlank s
  unfold afterColon at h
  split at h
  · simp at h
  · rename_i b rest hb
    rw [hb] at hs
    split at h
    · obtain rfl := Except.ok.inj h
      exact hs
    · simp at h

/-- The fields that have been read, the last one first. -/
abbrev Seen := List (String × Option String)

/-- Reads the member `name` of an object, from the colon on, and adds it to what was `seen` if it is
a field of the form. Other members are skipped. -/
def Form.readMember (f : Form) (seen : Seen) (name : String) (s : Bytes) :
    Except Fault (Seen × Bytes) :=
  match f.fields.find? (·.name == name) with
  | none => do
    match skipValue? (← afterColon s) with
    | some rest => .ok (seen, rest)
    | none => .error .malformed
  | some field =>
    if (seen.lookup name).isSome then .error (.misfit none (.duplicate name))
    else do
      let (value, rest) ← field.read name (← afterColon s)
      .ok ((name, value) :: seen, rest)

theorem Form.length_readMember {f : Form} {seen seen' : Seen} {name : String} {s r : Bytes}
    (h : f.readMember seen name s = .ok (seen', r)) : r.length < s.length := by
  unfold readMember at h
  cases hc : afterColon s with
  | error e =>
    simp only [hc] at h
    split at h
    · simp [bind, Except.bind] at h
    · split at h <;> simp [bind, Except.bind] at h
  | ok s' =>
    have hs := length_afterColon hc
    simp only [hc, bind, Except.bind] at h
    split at h
    · split at h
      · rename_i hv
        obtain ⟨-, rfl⟩ := Prod.mk.inj (Except.ok.inj h)
        exact Nat.lt_trans (length_skipValue? hv) hs
      · simp at h
    · split at h
      · simp at h
      · split at h
        · simp at h
        · rename_i v hv
          obtain ⟨-, rfl⟩ := Prod.mk.inj (Except.ok.inj h)
          exact Nat.lt_trans (Field.length_read (v := v.1) hv) hs

def Form.readMembers (f : Form) (seen : Seen) (first : Bool) (s : Bytes) : Except Fault Seen :=
  match _hn : nextName first s with
  | .error e => .error e
  | .ok none => .ok seen
  | .ok (some (name, rest)) =>
    match _hm : f.readMember seen name rest with
    | .error e => .error e
    | .ok (seen, rest) => readMembers f seen false rest
termination_by s.length
decreasing_by exact Nat.lt_trans (Form.length_readMember _hm) (length_nextName _hn)

def collect (seen : Seen) : List Field → Except Fault (List (Option String))
  | [] => .ok []
  | f :: fs =>
    match seen.lookup f.name with
    | some value => (collect seen fs).map (value :: ·)
    | none =>
      if f.optional then (collect seen fs).map (none :: ·)
      else .error (.misfit none (.missing f.name))

-- ---------------------------------------------------------------------------
-- Arrays
-- ---------------------------------------------------------------------------

def nextElement (first : Bool) (s : Bytes) : Except Fault (Option Bytes) :=
  match skipBlank s with
  | [] => .error .malformed
  | b :: rest =>
    if b = code ']' then .ok none
    else if first then .ok (some (b :: rest))
    else if b = code ',' then
      if (skipBlank rest).head? = some (code ']') then .error .malformed else .ok (some rest)
    else .error .malformed

def Form.readElements (f : Form) (i : Nat) (s : Bytes) :
    List Field → Except Fault (List (Option String))
  | [] =>
    match skipBlank s with
    | [] => .error .malformed
    | b :: _ => if b = code ']' then .ok [] else .error .malformed
  | field :: fields => do
    match ← nextElement (i == 0) s with
    | none =>
      if field.optional then (f.readElements (i + 1) s fields).map (none :: ·)
      else .error (.misfit none (.wrongLength i f.describeArray))
    | some s =>
      let (value, rest) ← field.read s!"[{i}]" s
      (f.readElements (i + 1) rest fields).map (value :: ·)

-- ---------------------------------------------------------------------------
-- Bodies
-- ---------------------------------------------------------------------------

def Form.read (f : Form) (body : Bytes) : Except Fault (List (Option String)) :=
  match skipBlank body with
  | [] => .error .malformed
  | b :: rest =>
    if b = code '{' then do collect (← f.readMembers [] true rest) f.fields
    else if b = code '[' then f.readElements 0 rest f.fields
    else .error (wrongKind none f.describe (b :: rest))

end Parley.Json
