import DataMapper.Filter
import DataMapper.Window

/-! # Criteria

What a query asks for: a filter, an order and a row window.
-/
namespace DataMapper

inductive Direction where
  | asc | desc
deriving DecidableEq

def Direction.keyword : Direction → String
  | asc => "ASC"
  | desc => "DESC"

structure OrderTerm where
  column : String
  direction : Direction
deriving DecidableEq

def OrderTerm.sql (t : OrderTerm) : String :=
  t.column ++ " " ++ t.direction.keyword

structure Criteria where
  filter : Filter := {}
  order : List OrderTerm := []
  window? : Option Window := none
deriving DecidableEq

namespace Criteria

def ofFilter (f : Filter) : Criteria where
  filter := f

def withFilter (c : Criteria) (f : Filter) : Criteria :=
  { c with filter := f }

def eq (c : Criteria) (column : String) (value : SqlValue) : Criteria :=
  { c with filter := c.filter.compare column .eq value }

def orderBy (c : Criteria) (term : OrderTerm) : Criteria :=
  { c with order := c.order ++ [term] }

def within (c : Criteria) (w : Window) : Criteria :=
  { c with window? := some w }

def page (c : Criteria) (page size : UInt64) : Criteria :=
  c.within (.ofPage page size)

/-- `ORDER BY a ASC, b DESC`; nothing without terms. -/
def orderSql (c : Criteria) : String :=
  if c.order.isEmpty then ""
  else "ORDER BY " ++ ", ".intercalate (c.order.map OrderTerm.sql)

end Criteria
end DataMapper
