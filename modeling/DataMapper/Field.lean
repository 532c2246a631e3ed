import DataMapper.Field.Type

/-! # Fields

A field of an entity type has a name, a type and perhaps a column name of its
own. Its role says what becomes of it: it is excluded, it cannot be mapped, or
it is mapped as some kind of column.
-/
namespace DataMapper

inductive Exclusion where
  | transient
  | manyToMany
  | collection
deriving DecidableEq

structure Field where
  name : String
  type : FieldType
  /-- An explicit column name in place of the derived one. -/
  column? : Option String := none
  exclusion? : Option Exclusion := none

namespace Field

/-- A field that is neither read from nor written to the table. -/
def transient (name : String) : Field where
  name := name
  type := .absent
  exclusion? := some .transient

/-- A relation stored outside the table. -/
def manyToMany (name : String) : Field where
  name := name
  type := .absent
  exclusion? := some .manyToMany

def column (f : Field) (name : String) : Field :=
  { f with column? := some name }

def markTransient (f : Field) : Field :=
  { f with exclusion? := some .transient }

inductive Role where
  | excluded (why : Exclusion)
  | unmappable (problem : Problem)
  | mapped (kind : ColumnKind)
deriving DecidableEq

/-- Exclusion comes first; what is left is mapped if its type has a kind. -/
def role (f : Field) : Role :=
  match f.exclusion? with
  | some why => .excluded why
  | none =>
    if f.type.capabilities.collection then .excluded .collection
    else match f.type.capabilities.kind with
      | .ok kind => .mapped kind
      | .error problem => .unmappable problem

theorem kind_of_role {f : Field} {kind : ColumnKind} (h : f.role = .mapped kind) :
    f.type.capabilities.kind = .ok kind := by
  unfold role at h
  split at h
  · cases h
  · split at h
    · cases h
    · split at h
      · next hkind =>
        cases h
        exact hkind
      · cases h

/-- The field named `id` identifies the entity. -/
def isId (f : Field) : Bool :=
  f.name == "id"

end Field

end DataMapper
