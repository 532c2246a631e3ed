/-! # Binary floating point

Numbers of 64-bit binary floating point: a magnitude `m * 2 ^ e` with at most 53
binary digits, the infinities, and not-a-number. All arithmetic is on exact
integers.
-/
namespace DataMapper

inductive Binary64 where
  | nan
  | infinite (negative : Bool)
  /-- The magnitude is `mantissa * 2 ^ exponent`. -/
  | finite (negative : Bool) (mantissa : Nat) (exponent : Int)
deriving DecidableEq

namespace Binary64

/-- The least mantissa of 53 binary digits. -/
def leastMantissa : Nat := 4503599627370496

/-- The exponent of the smallest positive number. -/
def minExponent : Int := -1074

/-- The largest exponent of a mantissa of 53 binary digits. -/
def maxExponent : Int := 971

/-- The quotient rounded to the nearest integer, a half to the even neighbour. -/
def roundDiv (num den : Nat) : Nat :=
  let q := num / den
  let r := num % den
  if 2 * r < den then q
  else if den < 2 * r then q + 1
  else if q % 2 = 0 then q else q + 1

/-- `num / (den * 2 ^ e)` as a quotient of two naturals. -/
def scaled (num den : Nat) (e : Int) : Nat × Nat :=
  if 0 ≤ e then (num, den * Nat.pow 2 e.toNat) else (num * Nat.pow 2 (-e).toNat, den)

/-- The number nearest to a positive quotient. -/
def ofQuotient (negative : Bool) (num den : Nat) : Binary64 :=
  let guess : Int := (num.log2 : Int) - den.log2 - 52
  let small := scaled num den guess
  let e := max (if small.1 / small.2 < leastMantissa then guess - 1 else guess) minExponent
  let (n, d) := scaled num den e
  let m := roundDiv n d
  let (m, e) := if m = 2 * leastMantissa then (leastMantissa, e + 1) else (m, e)
  if maxExponent < e then infinite negative else finite negative m e

/-- The number nearest to `digits * 10 ^ exponent`. -/
def ofDecimal (negative : Bool) (digits : Nat) (exponent : Int) : Binary64 :=
  let size : Int := (Nat.toDigits 10 digits).length
  if digits = 0 then finite negative 0 minExponent
  else if 310 < size + exponent then infinite negative
  else if size + exponent < -330 then finite negative 0 minExponent
  else if 0 ≤ exponent then ofQuotient negative (digits * Nat.pow 10 exponent.toNat) 1
  else ofQuotient negative digits (Nat.pow 10 (-exponent).toNat)

def isZero : Binary64 → Bool
  | finite _ m _ => m == 0
  | _ => false

/-- The nearest natural number below `2 ^ 64`, a half away from zero; numbers out of range go to
the nearer end, and not-a-number to 0. -/
def toWord : Binary64 → Nat
  | nan => 0
  | infinite negative => if negative then 0 else UInt64.size - 1
  | finite negative m e =>
    let rounded :=
      if 0 ≤ e then m * Nat.pow 2 e.toNat
      else (2 * m + Nat.pow 2 (-e).toNat) / Nat.pow 2 ((-e).toNat + 1)
    if negative then 0 else min rounded (UInt64.size - 1)

end Binary64
end DataMapper
