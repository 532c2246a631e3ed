import DataMapper.Field.Kind
import DataMapper.Text.Blank

/-! # Cells

A cell is a row value after its column kind has read it. The kind decides which
values are taken and how they are converted; NULL passes through every kind.
-/
namespace DataMapper

inductive Cell where
  | null
  | text (s : String)
  | date (t : Instant)
  | int (i : Int32)
  | long (l : Int64)
  | bool (b : Bool)
deriving DecidableEq

namespace Cell

def typeName : Cell → String
  | null => "null"
  | text _ => "text"
  | date _ => "date"
  | int _ => "int"
  | long _ => "long"
  | bool _ => "bool"

def mismatch (cell : Cell) (expected : String) : Problem :=
  match cell with
  | null => .unexpectedNull
  | other => .wrongType expected other.typeName

def parse (read : String → Except String α) (cell : Cell) : Except Problem α :=
  match cell with
  | text s =>
    match read s with
    | .ok a => .ok a
    | .error reason => .error (.rejectedText s reason)
  | other => .error (other.mismatch "text")

/-- The first constant whose id is the text of the cell. -/
def lookup (constants : List α) (id : α → String) (cell : Cell) : Except Problem α :=
  match cell with
  | text s =>
    match constants.find? (fun a => id a == s) with
    | some a => .ok a
    | none => .error (.unknownId s)
  | other => .error (other.mismatch "text")

/-- The instant that begins with second `s`. -/
def ofSeconds (s : Int64) : Except Problem Cell :=
  match Instant.ofSeconds? s with
  | some t => .ok (date t)
  | none => .error (.outOfRange "date" s)

end Cell

namespace ColumnKind

def toCell (kind : ColumnKind) (value : SqlValue) : Except Problem Cell :=
  match kind, value with
  | _, .null => .ok .null
  | .string, v => .ok (.text v.display)
  | .date, .int i => Cell.ofSeconds i.toInt64
  | .date, .long l => Cell.ofSeconds l
  | .date, .text s =>
    match (Decimal.readInt (Text.trim s.toList)).bind Narrow.int64? with
    | some l => Cell.ofSeconds l
    | none => .error (.wrongType "date" "text")
  | .fromText, .text s | .identifiableEnum, .text s => .ok (.text s)
  | .fromText, .int i | .identifiableEnum, .int i =>
    .ok (.text (SqlValue.int i).display)
  | .fromText, .long l | .identifiableEnum, .long l =>
    .ok (.text (SqlValue.long l).display)
  | .integer, .int i => .ok (.int i)
  | .integer, .long l =>
    match Narrow.int32? l.toInt with
    | some i => .ok (.int i)
    | none => .error (.outOfRange "integer" l)
  | .integer, .bool b => .ok (.int (if b then 1 else 0))
  | .long, .int i => .ok (.long i.toInt64)
  | .long, .long l => .ok (.long l)
  | .long, .bool b => .ok (.long (if b then 1 else 0))
  | .boolean, .bool b => .ok (.bool b)
  | .boolean, .int i => .ok (.bool (i != 0))
  | .boolean, .long l => .ok (.bool (l != 0))
  | kind, v => .error (.wrongType kind.expected v.typeName)

@[simp] theorem toCell_null (kind : ColumnKind) : kind.toCell .null = .ok .null := by
  cases kind <;> rfl

theorem toCell_string {v : SqlValue} (h : v ≠ .null) :
    ColumnKind.string.toCell v = .ok (.text v.display) := by
  cases v <;> simp_all [toCell]

end ColumnKind
end DataMapper
