import DataMapper.Decimal

/-! # Dates and times of TOML

A date, a time, or both with a distance from universal time are known by their
canonical text. A time counts only if it is well formed, and only a time that
follows a date has a distance. The same grammar reads the front of a document's
value and a text as a whole.
-/
namespace DataMapper.Toml

/-- A number of exactly `n` digits. -/
def fixedDigits (n : Nat) (cs : List Char) : Option (Nat × List Char) := do
  let ds := cs.take n
  if ds.length < n then none
  return (← Decimal.readNat ds, cs.drop n)

def expect (c : Char) : List Char → Option (List Char)
  | d :: r => if c = d then some r else none
  | [] => none

def between (low high n : Nat) : Option Nat :=
  if low ≤ n ∧ n ≤ high then some n else none

def daysInMonth (year month : Nat) : Nat :=
  if month = 2 then
    if year % 4 = 0 ∧ (year % 100 ≠ 0 ∨ year % 400 = 0) then 29 else 28
  else if month ∈ [4, 6, 9, 11] then 30
  else 31

def padded (n value : Nat) : List Char :=
  let ds := Nat.toDigits 10 value
  List.replicate (n - ds.length) '0' ++ ds

def date (cs : List Char) : Option (List Char × List Char) := do
  let (year, r) ← fixedDigits 4 cs
  let (month, r) ← fixedDigits 2 (← expect '-' r)
  let _ ← between 1 12 month
  let (day, r) ← fixedDigits 2 (← expect '-' r)
  let _ ← between 1 (daysInMonth year month) day
  return (padded 4 year ++ '-' :: padded 2 month ++ '-' :: padded 2 day, r)

/-- The first nine digits of a fraction of a second, without zeros at the end. -/
def secondFraction (ds : List Char) : List Char :=
  let kept := ((ds.take 9).reverse.dropWhile (· == '0')).reverse
  if kept.isEmpty then [] else '.' :: kept

/-- A time of day, where the last second may be a leap second. -/
def time (cs : List Char) : Option (List Char × List Char) := do
  let (hour, r) ← fixedDigits 2 cs
  let _ ← between 0 23 hour
  let (minute, r) ← fixedDigits 2 (← expect ':' r)
  let _ ← between 0 59 minute
  let (second, r) ← fixedDigits 2 (← expect ':' r)
  let _ ← between 0 60 second
  let clock := padded 2 hour ++ ':' :: padded 2 minute ++ ':' :: padded 2 second
  match r with
  | '.' :: s =>
    let ds := s.takeWhile Char.isDigit
    if ds.isEmpty then some (clock, r)
    else some (clock ++ secondFraction ds, s.dropWhile Char.isDigit)
  | _ => some (clock, r)

/-- A distance of some minutes; no distance counts as positive. -/
def distance (sign : Char) (minutes : Nat) : List Char :=
  (if minutes = 0 then '+' else sign) :: padded 2 (minutes / 60) ++ ':' :: padded 2 (minutes % 60)

/-- The distance from universal time, if one is written. -/
def zone (cs : List Char) : Option (List Char × List Char) :=
  match cs with
  | 'Z' :: r | 'z' :: r => some (['Z'], r)
  | s :: r =>
    if s = '+' ∨ s = '-' then do
      let (hour, r) ← fixedDigits 2 r
      let _ ← between 0 23 hour
      let (minute, r) ← fixedDigits 2 (← expect ':' r)
      let _ ← between 0 59 minute
      return (distance s (hour * 60 + minute), r)
    else some ([], cs)
  | [] => some ([], [])

/-- The characters after the sign between a date and its time. -/
def afterDelimiter? : List Char → Option (List Char)
  | c :: r => if c = 'T' ∨ c = 't' ∨ c = ' ' then some r else none
  | [] => none

/-- The canonical text of a date or time at the front of the characters. -/
def datetime (cs : List Char) : Option (List Char × List Char) :=
  match date cs with
  | some (d, r) =>
    match (afterDelimiter? r).bind time with
    | some (t, r) => (zone r).map fun (z, r) => (d ++ 'T' :: t ++ z, r)
    | none => some (d, r)
  | none => time cs

/-- The canonical text of the date or time that a whole text spells. -/
def datetimeOfText? (text : String) : Option String :=
  match datetime text.toList with
  | some (canonical, []) => some (String.ofList canonical)
  | _ => none

end DataMapper.Toml
