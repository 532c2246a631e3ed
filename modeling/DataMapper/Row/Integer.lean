import DataMapper.Failure
import DataMapper.Field.Problem
import DataMapper.Row
import DataMapper.Text.Blank

/-! # Integers in rows

A named column may hold an integer, and so may the first column of the first
row. NULL, a missing column and a missing row all read as nothing.
-/
namespace DataMapper.Row

/-- A nullable 64-bit integer column. Text counts if it is a decimal numeral; a missing column
reads as NULL. -/
def nullableLong (row : Row) (column : String) : Except Problem (Option Int64) :=
  match row.get? column with
  | none | some .null => .ok none
  | some (.text s) =>
    match (Decimal.readInt (Text.trim s.toList)).bind Narrow.int64? with
    | some l => .ok (some l)
    | none => .error (.wrongType "long" "text")
  | some value =>
    match value.asLong with
    | some l => .ok (some l)
    | none => .error (.wrongType "long" value.typeName)

/-- `nullableLong` narrowed to 32 bits. -/
def nullableInt (row : Row) (column : String) : Except Problem (Option Int32) := do
  match ← row.nullableLong column with
  | none => return none
  | some l =>
    match Narrow.int32? l.toInt with
    | some i => return some i
    | none => throw (.outOfRange "integer" l)

/-- The first column of the first row as a 64-bit integer; nothing for no row or NULL. -/
def scalarLong (rows : List Row) : Except ConnectionFault (Option Int64) :=
  match rows.head?.bind Row.first? with
  | none | some .null => .ok none
  | some value =>
    match value.asLong with
    | some l => .ok (some l)
    | none => .error (.notInteger value.typeName)

/-- `scalarLong` narrowed to 32 bits. -/
def scalarInt (rows : List Row) : Except ConnectionFault (Option Int32) := do
  match ← scalarLong rows with
  | none => return none
  | some l =>
    match Narrow.int32? l.toInt with
    | some i => return some i
    | none => throw (.exceedsInt32 l)

end DataMapper.Row
