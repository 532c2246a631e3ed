import DataMapper.SqlValue
import DataMapper.Text.Quoted

/-! # Mapping problems

What can go wrong with a single field. A problem never stops an operation: the
field is left out of the mapping, or falls back to its zero value, and a
diagnostic names it.
-/
namespace DataMapper

inductive Problem where
  /-- NULL arrived where absence has no representation. -/
  | unexpectedNull
  | wrongType (expected found : String)
  | outOfRange (expected : String) (value : Int64)
  /-- A type built from text refused the stored text. -/
  | rejectedText (value reason : String)
  | unknownId (id : String)
  /-- An enumeration without stored ids. -/
  | enumWithoutIds
  | unsupportedType
deriving DecidableEq

def Problem.message : Problem → String
  | unexpectedNull => "null value for non-nullable field, using zero value"
  | wrongType expected found => "cannot read " ++ found ++ " value as " ++ expected
  | outOfRange expected value =>
    "value " ++ Decimal.ofInt value.toInt ++ " is out of range for " ++ expected
  | rejectedText value reason => "cannot construct value from " ++ Text.quote value ++ ": " ++ reason
  | unknownId id => "no constant with id " ++ Text.quote id
  | enumWithoutIds => "enum type has no lookup by id and cannot be mapped"
  | unsupportedType => "declared type cannot be mapped to a column"

/-- A problem with the entity type and the column, or declared field, it concerns. -/
structure Diagnostic where
  entity : String
  column : String
  problem : Problem
deriving DecidableEq

def Diagnostic.message (d : Diagnostic) : String :=
  d.entity ++ "." ++ d.column ++ ": " ++ d.problem.message

end DataMapper
