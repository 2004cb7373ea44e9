import Parley.Time.Instant

/-!
# Stamps

A time as a table keeps it. Tables know stamps only as text: they are equal, earlier or later as
their texts are.
-/

namespace Parley

structure Stamp where
  text : String
  isStored : ∃ i : Instant, i.stored = text
  deriving DecidableEq

namespace Stamp

def of (i : Instant) : Stamp := ⟨i.stored, i, rfl⟩

def instant (s : Stamp) : Instant := (Instant.read? s.text).getD .epoch

instance : LT Stamp := ⟨fun a b => a.text < b.text⟩
instance : LE Stamp := ⟨fun a b => ¬ b < a⟩
instance (a b : Stamp) : Decidable (a < b) := inferInstanceAs (Decidable (a.text < b.text))
instance (a b : Stamp) : Decidable (a ≤ b) := inferInstanceAs (Decidable (¬ _))

instance : Max Stamp := ⟨fun a b => if a ≤ b then b else a⟩

def shown (s : Stamp) : String := s.instant.shown

end Stamp
end Parley
