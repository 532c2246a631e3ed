import DataMapper.Entity.Column

/-! # Rows into records

Every mapped field is filled from its own column. A field whose column cannot
be decoded takes its zero value and is named by a diagnostic; unmapped fields
stay as they were.
-/
namespace DataMapper

/-- A record built from a row, with the problems met on the way. -/
structure Populated (E : EntityType) where
  record : E.Rec
  diagnostics : List Diagnostic

/-- Takes one column of a row over. What cannot be written is reset and named. -/
def Populated.take {E : EntityType} (row : Row) (p : Populated E) (c : Column E) : Populated E :=
  match c.write p.record (c.cell row) with
  | .ok r => { p with record := r }
  | .error problem => ⟨c.reset p.record, p.diagnostics ++ [⟨E.name, c.name, problem⟩]⟩

namespace EntityType

def populate (E : EntityType) (r : E.Rec) (row : Row) : Populated E :=
  E.columns.foldl (Populated.take row) ⟨r, []⟩

def ofRow (E : EntityType) (row : Row) : Populated E :=
  E.populate E.initial row

end EntityType

end DataMapper
