/-!
# Attempts

Work on a state that may be refused. What the state has become by then is left in either case:
nothing is undone unless somebody undoes it.
-/

namespace Parley

abbrev Attempt := EStateM

instance Attempt.ofExcept : MonadLift (Except ε) (EStateM ε σ) where
  monadLift
    | .ok a => pure a
    | .error e => throw e

end Parley
