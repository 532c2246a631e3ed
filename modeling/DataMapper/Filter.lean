import DataMapper.Statement

/-! # Filters

A filter is a conjunction of conditions on columns. Column names come from the
calling code and stand in the text as given; every value is bound.
-/
namespace DataMapper

inductive Comparison where
  | eq | ne | gt | ge | lt | le | like
deriving DecidableEq

def Comparison.symbol : Comparison → String
  | eq => "="
  | ne => "<>"
  | gt => ">"
  | ge => ">="
  | lt => "<"
  | le => "<="
  | like => "LIKE"

inductive Condition where
  | compare (column : String) (op : Comparison) (value : SqlValue)
  | isNull (column : String)
  | isNotNull (column : String)
deriving DecidableEq

namespace Condition

/-- `a = ?`, `a IS NULL` or `a IS NOT NULL`. -/
def sql : Condition → String
  | compare column op _ => column ++ " " ++ op.symbol ++ " ?"
  | isNull column => column ++ " IS NULL"
  | isNotNull column => column ++ " IS NOT NULL"

def value? : Condition → Option SqlValue
  | compare _ _ value => some value
  | isNull _ | isNotNull _ => none

end Condition

structure Filter where
  conditions : List Condition := []
deriving DecidableEq

namespace Filter

def isEmpty (f : Filter) : Bool :=
  f.conditions.isEmpty

def add (f : Filter) (c : Condition) : Filter :=
  ⟨f.conditions ++ [c]⟩

def compare (f : Filter) (column : String) (op : Comparison) (value : SqlValue) : Filter :=
  f.add (.compare column op value)

/-- `WHERE a = ? AND b IS NULL`; nothing without conditions. -/
def sql (f : Filter) : String :=
  if f.isEmpty then "" else "WHERE " ++ " AND ".intercalate (f.conditions.map Condition.sql)

/-- The values of the conditions that have one, in order. -/
def values (f : Filter) : List SqlValue :=
  f.conditions.filterMap Condition.value?

def clause (f : Filter) : Statement :=
  ⟨f.sql, f.values⟩

end Filter

end DataMapper
