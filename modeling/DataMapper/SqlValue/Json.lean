import DataMapper.Json.Reader
import DataMapper.SqlValue

/-! # JSON form of scalar values

A value is written as the JSON scalar it looks like, without a tag. Reading
takes the narrowest integer width that holds a number.
-/
namespace DataMapper.SqlValue

def toJson : SqlValue → Json
  | null => .null
  | bool b => .bool b
  | int i => .integer i.toInt
  | long l => .integer l.toInt
  | text s => .string s

def ofJson? : Json → Option SqlValue
  | .null => some null
  | .bool b => some (bool b)
  | .integer n =>
    match Narrow.int32? n with
    | some i => some (int i)
    | none => (Narrow.int64? n).map long
  | .string s => some (text s)
  | _ => none

def encode (v : SqlValue) : String :=
  v.toJson.render

/-- The value of a JSON text; nothing for malformed text and for anything but a scalar. -/
def decode (text : String) : Option SqlValue :=
  (Json.parse text).bind ofJson?

theorem ofJson?_toJson_of_int (i : Int32) : ofJson? (int i).toJson = some (int i) := by
  simp [ofJson?, toJson, Narrow.int32?_toInt]

end DataMapper.SqlValue
