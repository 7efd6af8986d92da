/-! Sets of characters given as runs of code points. -/

namespace GoStub.Text

/-- The code points `first`, `first + step`, … up to `last`. -/
structure Span where
  first : Nat
  last : Nat
  step : Nat
  deriving DecidableEq

def Span.contains (s : Span) (n : Nat) : Bool :=
  s.first ≤ n && n ≤ s.last && (n - s.first) % s.step == 0

/-- A set of code points as a list of runs. -/
abbrev CharSet := List Span

def CharSet.contains (set : CharSet) (c : Char) : Bool :=
  set.any (·.contains c.toNat)

end GoStub.Text
