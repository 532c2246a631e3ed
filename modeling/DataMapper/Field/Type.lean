import DataMapper.Field.Cell

/-! # Field types

A field type ties a Lean type to the database: its capabilities, its zero
value, the value it binds, and how it is built from a cell. The built-in types
are joined by types built from text, enumerations with stored ids, and
optional values of any of them.
-/
namespace DataMapper

structure FieldType where
  Carrier : Type
  capabilities : Capabilities
  zero : Carrier
  bind : Carrier → SqlValue
  ofCell : ColumnKind → Cell → Except Problem Carrier

namespace FieldType

def string : FieldType where
  Carrier := String
  capabilities := { text := true }
  zero := ""
  bind := .text
  ofCell
    | _, .text s => .ok s
    | _, other => .error (other.mismatch "text")

def int : FieldType where
  Carrier := Int32
  capabilities := { integer := true }
  zero := 0
  bind := .int
  ofCell
    | _, .int i => .ok i
    | _, other => .error (other.mismatch "integer")

def long : FieldType where
  Carrier := Int64
  capabilities := { long := true }
  zero := 0
  bind := .long
  ofCell
    | _, .long l => .ok l
    | _, other => .error (other.mismatch "long")

/-- NULL reads as false. -/
def bool : FieldType where
  Carrier := Bool
  capabilities := { boolean := true }
  zero := false
  bind := .bool
  ofCell
    | _, .null => .ok false
    | _, .bool b => .ok b
    | _, other => .error (other.mismatch "boolean")

def date : FieldType where
  Carrier := Instant
  capabilities := { date := true }
  zero := .epoch
  bind := .ofInstant
  ofCell
    | _, .date t => .ok t
    | _, other => .error (other.mismatch "date")

/-- Lists are no column values: they bind NULL and are built from no cell. -/
def list (α : Type) : FieldType where
  Carrier := List α
  capabilities := { collection := true }
  zero := []
  bind _ := .null
  ofCell _ cell := .error (cell.mismatch "collection")

/-- Values of `t` or nothing, which is NULL. -/
def option (t : FieldType) : FieldType where
  Carrier := Option t.Carrier
  capabilities := { t.capabilities with nullable := true }
  zero := none
  bind := SqlValue.ofOption t.bind
  ofCell
    | _, .null => .ok none
    | kind, other => (t.ofCell kind other).map some

/-- A type written as text and built from text by `read`. -/
def ofText {α : Type} (capabilities : Capabilities) (zero : α) (write : α → String)
    (read : String → Except String α) : FieldType where
  Carrier := α
  capabilities := capabilities
  zero := zero
  bind a := .text (write a)
  ofCell _ := Cell.parse read

/-- An enumeration stored by the ids of its constants. -/
def enumeration {α : Type} (capabilities : Capabilities) (zero : α) (constants : List α)
    (id : α → String) : FieldType where
  Carrier := α
  capabilities := capabilities
  zero := zero
  bind a := .text (id a)
  ofCell _ := Cell.lookup constants id

/-- The type of a field that keeps no value. -/
def absent : FieldType where
  Carrier := Unit
  capabilities := {}
  zero := ()
  bind _ := .null
  ofCell _ _ := .ok ()

theorem ofCell_option_of_ne_null (t : FieldType) (kind : ColumnKind) {cell : Cell}
    (h : cell ≠ .null) : t.option.ofCell kind cell = (t.ofCell kind cell).map some := by
  cases cell <;> first | exact absurd rfl h | rfl

@[simp] theorem ofCell_option_null (t : FieldType) (kind : ColumnKind) :
    t.option.ofCell kind .null = .ok none := rfl

end FieldType
end DataMapper
