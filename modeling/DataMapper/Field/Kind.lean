import DataMapper.Field.Problem

/-! # Column kinds

A declared type has capabilities, several at once if it likes. The kind of its
column is the first capability in a fixed order.
-/
namespace DataMapper

structure Capabilities where
  text : Bool := false
  date : Bool := false
  fromText : Bool := false
  identifiableEnum : Bool := false
  integer : Bool := false
  long : Bool := false
  boolean : Bool := false
  plainEnum : Bool := false
  collection : Bool := false
  /-- NULL has a representation. -/
  nullable : Bool := false
deriving DecidableEq

/-- How the values of a column are read before they reach the field. -/
inductive ColumnKind where
  | string
  | date
  | fromText
  | identifiableEnum
  | integer
  | long
  | boolean
deriving DecidableEq

namespace ColumnKind

/-- What a column of the kind expects, in the words of a diagnostic. -/
def expected : ColumnKind → String
  | string => "text"
  | date => "date"
  | fromText => "string-constructible"
  | identifiableEnum => "enum id"
  | integer => "integer"
  | long => "long"
  | boolean => "boolean"

end ColumnKind

def Capabilities.kind (c : Capabilities) : Except Problem ColumnKind :=
  if c.text then .ok .string
  else if c.date then .ok .date
  else if c.fromText then .ok .fromText
  else if c.identifiableEnum then .ok .identifiableEnum
  else if c.integer then .ok .integer
  else if c.long then .ok .long
  else if c.boolean then .ok .boolean
  else if c.plainEnum then .error .enumWithoutIds
  else .error .unsupportedType

/-- The kind does not depend on whether NULL has a representation. -/
theorem Capabilities.kind_nullable (c : Capabilities) (b : Bool) :
    { c with nullable := b }.kind = c.kind := rfl

end DataMapper
