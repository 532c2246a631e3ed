import DataMapper.Entity
import DataMapper.Row
import DataMapper.Text.SnakeCase

/-! # Columns

The columns of an entity type are its mapped fields in declared order. A column
knows the field it belongs to, so it reads a record and decodes a row for that
field alone.
-/
namespace DataMapper

/-- A name without its ending `_date`, unless nothing would be left. -/
def Field.withoutDate (name : String) : String :=
  let cs := name.toList
  if "_date".toList.isSuffixOf cs && 5 < cs.length then String.ofList (cs.take (cs.length - 5))
  else name

/-- The explicit column name, else `<entity>_id` for the identifier, else the field name in
snake case. Date columns drop the ending `_date`. -/
def Field.columnName (f : Field) (entity : String) (kind : ColumnKind) : String :=
  match f.column? with
  | some name => name
  | none =>
    if f.isId then Text.snakeCase entity ++ "_id"
    else if kind = .date then withoutDate (Text.snakeCase f.name)
    else Text.snakeCase f.name

structure Column (E : EntityType) where
  index : E.Index
  name : String
  kind : ColumnKind
deriving DecidableEq

def EntityType.column? (E : EntityType) (i : E.Index) : Option (Column E) :=
  match (E.fields.get i).role with
  | .mapped kind => some ⟨i, (E.fields.get i).columnName E.name kind, kind⟩
  | _ => none

def EntityType.columns (E : EntityType) : List (Column E) :=
  (List.finRange E.fields.length).filterMap E.column?

/-- One diagnostic for each field that is neither excluded nor mappable. -/
def EntityType.diagnostics (E : EntityType) : List Diagnostic :=
  E.fields.filterMap fun f =>
    match f.role with
    | .unmappable problem => some ⟨E.name, f.name, problem⟩
    | _ => none

namespace Column
variable {E : EntityType}

def field (c : Column E) : Field :=
  E.fields.get c.index

def isId (c : Column E) : Bool :=
  c.field.isId

def nullable (c : Column E) : Bool :=
  c.field.type.capabilities.nullable

def read (c : Column E) (r : E.Rec) : SqlValue :=
  c.field.type.bind (r c.index)

def decode (c : Column E) (value : SqlValue) : Except Problem c.field.type.Carrier :=
  c.kind.toCell value >>= c.field.type.ofCell c.kind

/-- What the column finds in a row; a missing column counts as NULL. -/
def cell (c : Column E) (row : Row) : SqlValue :=
  (row.get? c.name).getD .null

/-- The record with the decoded value in the column's field, or the problem met. -/
def write (c : Column E) (r : E.Rec) (value : SqlValue) : Except Problem E.Rec := do
  let v ← c.decode value
  return r.set c.index v

/-- The record with the zero value in the column's field. -/
def reset (c : Column E) (r : E.Rec) : E.Rec :=
  r.set c.index c.field.type.zero

end Column

theorem EntityType.index_of_column? {E : EntityType} {i : E.Index} {c : Column E}
    (h : E.column? i = some c) : c.index = i := by
  unfold column? at h
  split at h
  · cases h; rfl
  · cases h

/-- No two columns belong to one field, and they stand in declared order. -/
theorem EntityType.columns_pairwise_lt (E : EntityType) :
    E.columns.Pairwise fun a b => a.index < b.index := by
  unfold columns
  rw [List.pairwise_filterMap]
  refine (List.pairwise_lt_finRange E.fields.length).imp ?_
  intro i j hij a ha b hb
  rw [index_of_column? ha, index_of_column? hb]
  exact hij

end DataMapper
