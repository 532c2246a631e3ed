import DataMapper.Entity.Column
import DataMapper.Failure

/-! # Descriptors

A descriptor joins an entity type to a table. It exists only for a type with
exactly one identifier column; the lists of names that statements are made of
are read off the columns.
-/
namespace DataMapper

structure Descriptor (E : EntityType) where
  table : String
  idColumn : Column E
  filter_isId : E.columns.filter Column.isId = [idColumn]

namespace Descriptor
variable {E : EntityType}

/-- The override, else the declared table name, else the type name in snake case. -/
def tableName (E : EntityType) (override? : Option String) : String :=
  (override? <|> E.table?).getD (Text.snakeCase E.name)

def build (E : EntityType) (override? : Option String) : Except Failure (Descriptor E) :=
  match h : E.columns.filter Column.isId with
  | [] => .error (.mapping (.noIdentifier E.name))
  | [c] => .ok ⟨tableName E override?, c, h⟩
  | _ :: _ :: _ => .error (.mapping (.manyIdentifiers E.name))

def columns (_ : Descriptor E) : List (Column E) :=
  E.columns

def dataColumns (_ : Descriptor E) : List (Column E) :=
  E.columns.filter fun c => !c.isId

def columnNames (d : Descriptor E) : List String :=
  d.columns.map (·.name)

def updateColumns (d : Descriptor E) : List String :=
  d.dataColumns.map (·.name)

def column? (d : Descriptor E) (name : String) : Option (Column E) :=
  d.columns.find? (·.name == name)

/-- `a, b, c` -/
def selectList (d : Descriptor E) : String :=
  ", ".intercalate d.columnNames

/-- `q.a, q.b, q.c` -/
def qualifiedBy (d : Descriptor E) (qualifier : String) : String :=
  ", ".intercalate (d.columnNames.map fun name => qualifier ++ "." ++ name)

def tableSelectList (d : Descriptor E) : String :=
  d.qualifiedBy d.table

/-- The select list under a qualifier; a blank one gives the plain list. -/
def selectListFor (d : Descriptor E) (qualifier : String) : String :=
  if Text.isBlank qualifier then d.selectList else d.qualifiedBy qualifier

/-- `a,b,c` -/
def insertList (d : Descriptor E) : String :=
  ",".intercalate d.columnNames

/-- `?,?,?` -/
def placeholders (d : Descriptor E) : String :=
  ",".intercalate (d.columns.map fun _ => "?")

/-- `b=?,c=?` over the columns other than the identifier. -/
def setClause (d : Descriptor E) : String :=
  ",".intercalate (d.updateColumns.map (· ++ "=?"))

def insertValues (d : Descriptor E) (r : E.Rec) : List SqlValue :=
  d.columns.map (·.read r)

def updateValues (d : Descriptor E) (r : E.Rec) : List SqlValue :=
  d.dataColumns.map (·.read r) ++ [d.idColumn.read r]

theorem build_of_filter_isId {c : Column E} (h : E.columns.filter Column.isId = [c])
    (override? : Option String) : build E override? = .ok ⟨tableName E override?, c, h⟩ := by
  unfold build
  split
  · next h' => simp [h] at h'
  · next c' h' =>
    obtain rfl : c = c' := by simpa [h] using h'
    rfl
  · next h' => simp [h] at h'

/-- Building succeeds exactly for one identifier column; only the table depends on the override. -/
theorem build_eq_ok_iff {override? : Option String} {d : Descriptor E} :
    build E override? = .ok d ↔ d.table = tableName E override? := by
  rw [build_of_filter_isId d.filter_isId]
  cases d
  simp [eq_comm]

theorem idColumn_mem (d : Descriptor E) : d.idColumn ∈ d.columns ∧ d.idColumn.isId = true := by
  have h : d.idColumn ∈ E.columns.filter Column.isId := by simp [d.filter_isId]
  exact List.mem_filter.1 h

end Descriptor
end DataMapper
