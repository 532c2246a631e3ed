/-! # Ranges and runs of code points

Tables of character properties are lists of ranges, or of evenly spaced runs
where capitals and small letters alternate.
-/
namespace DataMapper.Text

/-- The code points from `first` to `last`, both included. -/
structure CodeRange where
  first : Nat
  last : Nat
deriving Repr, DecidableEq

/-- Every `step`-th code point from `first` to `last`. -/
structure CodeRun where
  first : Nat
  last : Nat
  step : Nat
deriving Repr, DecidableEq

namespace CodeRange

def contains (r : CodeRange) (c : Char) : Bool :=
  r.first ≤ c.toNat && c.toNat ≤ r.last

end CodeRange

namespace CodeRun

def contains (r : CodeRun) (c : Char) : Bool :=
  r.first ≤ c.toNat && c.toNat ≤ r.last && (c.toNat - r.first) % r.step == 0

end CodeRun
end DataMapper.Text
