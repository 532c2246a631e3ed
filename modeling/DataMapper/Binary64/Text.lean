import DataMapper.Binary64
import DataMapper.Decimal

/-! # Decimal text of binary floating point

Writing gives the fewest digits that read back as the same number, without an
exponent. Reading takes digits with an optional point and exponent, and names
for the infinities and not-a-number.
-/
namespace DataMapper.Binary64

/-- `c * 10 ^ s` compared with `num / den` after both are multiplied up to naturals. -/
def onGrid (c : Nat) (s : Int) (num den : Nat) : Nat × Nat :=
  if 0 ≤ s then (c * Nat.pow 10 s.toNat * den, num) else (c * den, num * Nat.pow 10 (-s).toNat)

/-- The decimals that read as `m * 2 ^ e` lie between these two quotients with one denominator. -/
def neighbourhood (m : Nat) (e : Int) : Nat × Nat × Nat × Nat :=
  let below := if m = leastMantissa ∧ minExponent < e then 1 else 2
  let (unit, den) := if 2 ≤ e then (Nat.pow 2 (e - 2).toNat, 1) else (1, Nat.pow 2 (2 - e).toNat)
  ((4 * m - below) * unit, 4 * m * unit, (4 * m + 2) * unit, den)

/-- The point of the grid `10 ^ s` that reads back as `m * 2 ^ e` and is nearest to it; of two
equally near the larger. -/
def gridPoint? (m : Nat) (e : Int) (s : Int) : Option Nat :=
  let (low, mid, high, den) := neighbourhood m e
  let c := if 0 ≤ s then mid / (den * Nat.pow 10 s.toNat) else mid * Nat.pow 10 (-s).toNat / den
  let inside (c : Nat) : Bool :=
    let (x, l) := onGrid c s low den
    let (_, h) := onGrid c s high den
    if m % 2 = 0 then l ≤ x && x ≤ h else l < x && x < h
  let (x, v) := onGrid c s mid den
  let (y, _) := onGrid (c + 1) s mid den
  match inside c, inside (c + 1) with
  | true, true => some (if v - x < y - v then c else c + 1)
  | true, false => some c
  | false, true => some (c + 1)
  | false, false => none

/-- The first point found on grids from coarse to fine. -/
def searchGrids (m : Nat) (e : Int) : Nat → Int → Nat × Int
  | 0, s => ((gridPoint? m e s).getD 0, s)
  | steps + 1, s =>
    match gridPoint? m e s with
    | some c => (c, s)
    | none => searchGrids m e steps (s - 1)

/-- The shortest decimal `c * 10 ^ s` that reads back as `m * 2 ^ e`. -/
def shortest (m : Nat) (e : Int) : Nat × Int :=
  let size : Int := ((m.log2 : Int) + e) * 30103 / 100000 + 2
  searchGrids m e 24 size

/-- `c * 10 ^ s` without an exponent. -/
def positional (c : Nat) (s : Int) : List Char :=
  let ds := Nat.toDigits 10 c
  if 0 ≤ s then ds ++ List.replicate s.toNat '0'
  else
    let places := (-s).toNat
    if places < ds.length then ds.take (ds.length - places) ++ '.' :: ds.drop (ds.length - places)
    else '0' :: '.' :: List.replicate (places - ds.length) '0' ++ ds

def display : Binary64 → String
  | nan => "NaN"
  | infinite negative => if negative then "-inf" else "inf"
  | finite negative m e =>
    let digits := if m = 0 then ['0'] else
      let (c, s) := shortest m e
      positional c s
    String.ofList (if negative then '-' :: digits else digits)

/-- An exponent's digits with an optional sign. -/
def readExponent (cs : List Char) : Option Int :=
  match cs with
  | [] => some 0
  | e :: r => if e = 'e' ∨ e = 'E' then Decimal.readInt r else none

/-- Digits with an optional point among them or at either end, and an optional exponent. -/
def readDecimal (negative : Bool) (cs : List Char) : Option Binary64 := do
  let whole := cs.takeWhile Char.isDigit
  let (fraction, rest) := match cs.dropWhile Char.isDigit with
    | '.' :: r => (r.takeWhile Char.isDigit, r.dropWhile Char.isDigit)
    | r => ([], r)
  let digits ← Decimal.readNat (whole ++ fraction)
  let exponent ← readExponent rest
  return ofDecimal negative digits (exponent - fraction.length)

def readUnsigned (negative : Bool) (cs : List Char) : Option Binary64 :=
  match String.ofList (cs.map Char.toLower) with
  | "inf" | "infinity" => some (infinite negative)
  | "nan" => some nan
  | _ => readDecimal negative cs

def read : List Char → Option Binary64
  | '-' :: r => readUnsigned true r
  | '+' :: r => readUnsigned false r
  | r => readUnsigned false r

end DataMapper.Binary64
