import DataMapper.Field

/-! # Entity types and records

An entity type lists its fields once, in declared order; names may repeat. A
record holds one value per declared field.
-/
namespace DataMapper

/-- One value for each field. -/
def Record (fields : List Field) : Type :=
  (i : Fin fields.length) → fields[i].type.Carrier

namespace Record
variable {fields : List Field}

def zero : Record fields :=
  fun i => fields[i].type.zero

def set (r : Record fields) (i : Fin fields.length) (v : fields[i].type.Carrier) :
    Record fields :=
  fun j => if h : j = i then h ▸ v else r j

@[simp] theorem set_same (r : Record fields) (i : Fin fields.length)
    (v : fields[i].type.Carrier) : r.set i v i = v := by
  simp [set]

theorem set_of_ne (r : Record fields) {i j : Fin fields.length} (h : j ≠ i)
    (v : fields[i].type.Carrier) : r.set i v j = r j := by
  simp [set, h]

end Record

structure EntityType where
  name : String
  table? : Option String := none
  fields : List Field
  /-- The text of a record's identifier, once it has one. -/
  identifier : Record fields → Option String
  /-- What a new record holds before any row is read. -/
  initial : Record fields := .zero

namespace EntityType

abbrev Rec (E : EntityType) : Type :=
  Record E.fields

abbrev Index (E : EntityType) : Type :=
  Fin E.fields.length

end EntityType
end DataMapper
