import Parley.Store.Error

/-!
# Pairs of users

Two different users in no order, and the key that names their direct conversation.
-/

namespace Parley

structure Pair where
  low : Int
  high : Int
  low_pos : 0 < low
  low_lt_high : low < high
  deriving DecidableEq

namespace Pair

def of (a b : Int) : Except StoreError Pair :=
  if h : 0 < a ∧ 0 < b then
    if hlt : a < b then .ok ⟨a, b, h.1, hlt⟩
    else if hgt : b < a then .ok ⟨b, a, h.2, hgt⟩
    else .error (.invalid .ownConversation)
  else .error (.invalid (.malformedPair a b))

def key (p : Pair) : String := s!"{p.low}:{p.high}"

theorem of_comm (a b : Int) (h : a ≠ b) (ha : 0 < a) (hb : 0 < b) : of a b = of b a := by
  unfold of
  rcases Int.lt_or_gt_of_ne h with hlt | hgt
  · simp [ha, hb, hlt, Int.not_lt.mpr (Int.le_of_lt hlt)]
  · simp [ha, hb, hgt, Int.not_lt.mpr (Int.le_of_lt hgt)]

end Pair
end Parley
