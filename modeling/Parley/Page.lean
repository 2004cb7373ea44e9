/-!
# Pages

The part of a listing that an answer shows: at most so many entries, after leaving out so many. What
a caller asks for is brought into bounds.
-/

namespace Parley

structure Page where
  limit : Int
  offset : Int
  deriving DecidableEq, Repr

structure PageRequest where
  limit : Option Int
  offset : Option Int
  deriving DecidableEq, Repr

namespace Page

def maxLimit : Int := 100

def resolve (r : PageRequest) (defaultLimit : Int) : Page where
  limit := min (max (r.limit.getD defaultLimit) 1) maxLimit
  offset := max (r.offset.getD 0) 0

/-- The entries of the page. A negative limit is no limit, a negative offset is none. -/
def cut (p : Page) (entries : List α) : List α :=
  let rest := entries.drop p.offset.toNat
  if p.limit < 0 then rest else rest.take p.limit.toNat

end Page
end Parley
