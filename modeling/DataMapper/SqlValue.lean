import DataMapper.Decimal
import DataMapper.Instant

/-! # Scalar values

The values that a statement binds and a row holds: NULL, booleans, integers of
two widths and text.
-/
namespace DataMapper

inductive SqlValue where
  | null
  | bool (b : Bool)
  | int (i : Int32)
  | long (l : Int64)
  | text (s : String)
deriving DecidableEq, Inhabited

namespace SqlValue

def isNull : SqlValue → Bool
  | null => true
  | _ => false

def asText : SqlValue → Option String
  | text s => some s
  | _ => none

/-- The number of an integer of either width. -/
def asLong : SqlValue → Option Int64
  | int i => some i.toInt64
  | long l => some l
  | _ => none

def typeName : SqlValue → String
  | null => "null"
  | bool _ => "bool"
  | int _ => "int"
  | long _ => "long"
  | text _ => "text"

/-- The text shown for a value, also the text by which an identifier is known. -/
def display : SqlValue → String
  | null => "NULL"
  | bool true => "true"
  | bool false => "false"
  | int i => Decimal.ofInt i.toInt
  | long l => Decimal.ofInt l.toInt
  | text s => s

/-- Instants are stored as whole seconds since 1970. -/
def ofInstant (t : Instant) : SqlValue :=
  long t.seconds

def ofOption (wrap : α → SqlValue) : Option α → SqlValue
  | none => null
  | some a => wrap a

@[simp] theorem ofOption_none (wrap : α → SqlValue) : ofOption wrap none = null := rfl

@[simp] theorem ofOption_some (wrap : α → SqlValue) (a : α) : ofOption wrap (some a) = wrap a := rfl

end SqlValue
end DataMapper
