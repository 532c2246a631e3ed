import DataMapper.Binary64.Text
import DataMapper.Toml.Datetime

/-! # TOML values

Dates and times keep their canonical text. Tables list their keys in the order
in which they were first named. A table whose first key is a marker stands for
a date or time; `settle` puts the date or time in its place.
-/
namespace DataMapper.Toml

inductive Value where
  | text (s : String)
  | int (n : Int)
  | float (x : Binary64)
  | bool (b : Bool)
  | datetime (canonical : String)
  | array (items : List Value)
  | table (entries : List (String × Value))
deriving Inhabited

/-- The first key of a table that stands for a date or time. -/
def datetimeMarker : String :=
  "$__toml_private_datetime"

namespace Value

/-- The date or time that the marker's value spells. -/
def spelled? : Value → Option Value
  | text s => (datetimeOfText? s).map datetime
  | _ => none

mutual

/-- The value with a date or time in the place of every marked table; nothing if a marked table
spells none. What follows the marker in its table does not count. -/
def settle : Value → Option Value
  | array items => (settleItems items).map array
  | table [] => some (table [])
  | table ((key, v) :: rest) =>
    if key = datetimeMarker then v.spelled?
    else do
      let v ← settle v
      return table ((key, v) :: (← settleEntries rest))
  | v => some v

def settleItems : List Value → Option (List Value)
  | [] => some []
  | v :: rest => do
    let v ← settle v
    return v :: (← settleItems rest)

def settleEntries : List (String × Value) → Option (List (String × Value))
  | [] => some []
  | (key, v) :: rest => do
    let v ← settle v
    return (key, v) :: (← settleEntries rest)

end

/-- The entries of a table; nothing for any other value. -/
def entries? : Value → Option (List (String × Value))
  | table es => some es
  | _ => none

end Value
end DataMapper.Toml
