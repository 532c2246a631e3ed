import DataMapper.SqlValue

/-! # Statements

A statement is a text together with the values bound to its placeholders, in
order.
-/
namespace DataMapper

structure Statement where
  sql : String
  params : List SqlValue
deriving DecidableEq, Inhabited

namespace Statement

/-- A text without values. -/
def raw (sql : String) : Statement :=
  ⟨sql, []⟩

/-- The non-empty clauses of a text, one blank between neighbours. -/
def joinClauses (parts : List String) : String :=
  " ".intercalate (parts.filter fun part => part ≠ "")

@[simp] theorem sql_raw (t : String) : (raw t).sql = t := rfl
@[simp] theorem params_raw (t : String) : (raw t).params = [] := rfl

end Statement
end DataMapper
