import DataMapper.Criteria
import DataMapper.Descriptor
import DataMapper.Argument

/-! # Queries of a descriptor

Names come from the descriptor or the calling code and stand in the text;
values are bound. Checks of arguments come before any text is made.
-/
namespace DataMapper.Descriptor
variable {E : EntityType}

/-- `SELECT a, b FROM t` -/
def selectFrom (d : Descriptor E) : String :=
  "SELECT " ++ d.selectList ++ " FROM " ++ d.table

/-- `t_id = ?` -/
def idMatches (d : Descriptor E) : String :=
  d.idColumn.name ++ " = ?"

def selectById (d : Descriptor E) (id : SqlValue) : Statement :=
  ⟨d.selectFrom ++ " WHERE " ++ d.idMatches, [id]⟩

/-- The query for criteria with the given row window in place of their own. -/
def selectWithin (d : Descriptor E) (c : Criteria) (window? : Option Window) : Statement :=
  ⟨Statement.joinClauses
    [d.selectFrom, c.filter.sql, c.orderSql, (window?.map Window.sql).getD ""], c.filter.values⟩

def selectCriteria (d : Descriptor E) (c : Criteria) : Statement :=
  d.selectWithin c c.window?

/-- The window of a singular lookup: one row unless the criteria ask for fewer. -/
def singleWindow (c : Criteria) : Except Failure Window :=
  match c.window? with
  | none => .ok .first
  | some l => if 1 < l.count then .error (.invalidArgument (.windowTooWide l.count)) else .ok l

def selectSingle (d : Descriptor E) (c : Criteria) : Except Failure Statement :=
  (singleWindow c).map fun l => d.selectWithin c (some l)

/-- The condition text is taken as it is. -/
def selectByText (d : Descriptor E) (condition : String) : Except Failure Statement := do
  let condition ← Argument.text condition "where"
  return .raw (d.selectFrom ++ " WHERE " ++ condition)

def findByText (d : Descriptor E) (condition : String) : Except Failure Statement := do
  let statement ← d.selectByText condition
  return { statement with sql := statement.sql ++ " LIMIT 1" }

def selectByField (d : Descriptor E) (field : String) (value : SqlValue) :
    Except Failure Statement := do
  let field ← Argument.text field "field"
  return ⟨d.selectFrom ++ " WHERE " ++ field ++ " = ?", [value]⟩

/-- Equality with a value, where NULL and the text `NULL` ask for the absence of one. -/
def fieldMatches (field : String) (value : SqlValue) : Statement :=
  if value = .null ∨ value = .text "NULL" then .raw (field ++ " IS NULL")
  else ⟨field ++ " = ?", [value]⟩

/-- The window of page `page` with `count` rows; the product of two 32-bit numbers fits. -/
def pageWindow (page count : UInt32) : Window :=
  ⟨page.toUInt64 * count.toUInt64, count.toUInt64⟩

def selectByFieldPaged (d : Descriptor E) (field : String) (value : SqlValue) (orderBy : String)
    (page count : UInt32) : Except Failure Statement := do
  let field ← Argument.text field "field"
  let orderBy ← Argument.text orderBy "order_by"
  let condition := fieldMatches field value
  return ⟨d.selectFrom ++ " WHERE " ++ condition.sql ++ " ORDER BY " ++ orderBy ++ " "
    ++ (pageWindow page count).sql, condition.params⟩

/-- `f=?`, refused for a blank name. -/
def fieldEquals (field : String) : Except Failure String := do
  let field ← Argument.text field "field"
  return field ++ "=?"

def selectByFields (d : Descriptor E) (fields : List String) (values : List SqlValue) :
    Except Failure Statement := do
  let fields ← Argument.nonEmpty fields "fields"
  let values ← Argument.nonEmpty values "values"
  if fields.length ≠ values.length then
    throw (.invalidArgument (.unpaired fields.length values.length))
  let conditions ← fields.mapM fieldEquals
  return ⟨d.selectFrom ++ " WHERE " ++ " AND ".intercalate conditions, values⟩

/-- `t_id = ? OR t_id = ?`, once for every value. -/
def selectByIds (d : Descriptor E) (ids : List SqlValue) : Except Failure Statement := do
  let ids ← Argument.nonEmpty ids "ids"
  return ⟨d.selectFrom ++ " WHERE " ++ " OR ".intercalate (.replicate ids.length d.idMatches), ids⟩

inductive Aggregate where
  | count | min | max
deriving DecidableEq

def Aggregate.function : Aggregate → String
  | count => "COUNT"
  | min => "MIN"
  | max => "MAX"

/-- The argument of an aggregate: a field, or every column when none is named. -/
def aggregateTarget (field? : Option String) : String :=
  match field? with
  | some field => if Text.isBlank field then "*" else field
  | none => "*"

/-- Order and window of the criteria do not matter to an aggregate. -/
def aggregate (d : Descriptor E) (f : Aggregate) (field? : Option String) (c : Criteria) :
    Statement :=
  ⟨Statement.joinClauses
    ["SELECT " ++ f.function ++ "(" ++ aggregateTarget field? ++ ") FROM " ++ d.table,
      c.filter.sql], c.filter.values⟩

/-! ## When a query is built, and which -/

section Built
variable {d : Descriptor E} {s : Statement}

theorem selectSingle_eq_ok_iff {c : Criteria} :
    d.selectSingle c = .ok s ↔
      ∃ w, singleWindow c = .ok w ∧ d.selectWithin c (some w) = s := by
  unfold selectSingle
  cases singleWindow c <;> simp [Except.map]

theorem selectByText_eq_ok_iff {condition : String} :
    d.selectByText condition = .ok s ↔
      Text.isBlank condition = false ∧ .raw (d.selectFrom ++ " WHERE " ++ condition) = s := by
  unfold selectByText
  rw [Argument.text_bind_eq_ok_iff]
  simp [pure, Except.pure]

theorem findByText_eq_ok_iff {condition : String} :
    d.findByText condition = .ok s ↔ Text.isBlank condition = false ∧
      .raw (d.selectFrom ++ " WHERE " ++ condition ++ " LIMIT 1") = s := by
  unfold findByText selectByText
  rw [bind_assoc, Argument.text_bind_eq_ok_iff, pure_bind]
  simp [pure, Except.pure, Statement.raw]

theorem selectByField_eq_ok_iff {field : String} {value : SqlValue} :
    d.selectByField field value = .ok s ↔ Text.isBlank field = false ∧
      ⟨d.selectFrom ++ " WHERE " ++ field ++ " = ?", [value]⟩ = s := by
  unfold selectByField
  rw [Argument.text_bind_eq_ok_iff]
  simp [pure, Except.pure]

theorem selectByFieldPaged_eq_ok_iff {field : String} {value : SqlValue} {orderBy : String}
    {page count : UInt32} :
    d.selectByFieldPaged field value orderBy page count = .ok s ↔
      Text.isBlank field = false ∧ Text.isBlank orderBy = false ∧
      ⟨d.selectFrom ++ " WHERE " ++ (fieldMatches field value).sql ++ " ORDER BY " ++ orderBy
        ++ " " ++ (pageWindow page count).sql, (fieldMatches field value).params⟩ = s := by
  unfold selectByFieldPaged
  rw [Argument.text_bind_eq_ok_iff, Argument.text_bind_eq_ok_iff]
  simp [pure, Except.pure]

theorem mapM_fieldEquals_eq_ok_iff {fields conditions : List String} :
    fields.mapM fieldEquals = .ok conditions ↔
      (∀ field ∈ fields, Text.isBlank field = false) ∧ fields.map (· ++ "=?") = conditions := by
  induction fields generalizing conditions with
  | nil => simp [pure, Except.pure]
  | cons field fields ih =>
    rw [List.mapM_cons, fieldEquals, bind_assoc, Argument.text_bind_eq_ok_iff, pure_bind,
      Argument.bind_eq_ok_iff, List.forall_mem_cons, and_assoc]
    refine and_congr_right fun _ => ?_
    constructor
    · rintro ⟨rest, hrest, h⟩
      obtain ⟨hfields, rfl⟩ := ih.1 hrest
      exact ⟨hfields, Except.ok.inj h⟩
    · rintro ⟨hfields, rfl⟩
      exact ⟨_, ih.2 ⟨hfields, rfl⟩, rfl⟩

theorem selectByFields_eq_ok_iff {fields : List String} {values : List SqlValue} :
    d.selectByFields fields values = .ok s ↔
      fields ≠ [] ∧ values ≠ [] ∧ fields.length = values.length ∧
      (∀ field ∈ fields, Text.isBlank field = false) ∧
      ⟨d.selectFrom ++ " WHERE " ++ " AND ".intercalate (fields.map (· ++ "=?")), values⟩ = s := by
  unfold selectByFields
  rw [Argument.nonEmpty_bind_eq_ok_iff, Argument.nonEmpty_bind_eq_ok_iff]
  refine and_congr_right fun _ => and_congr_right fun _ => ?_
  by_cases hlength : fields.length = values.length
  · simp only [hlength, ne_eq, not_true_eq_false, if_false, true_and]
    constructor
    · intro h
      obtain ⟨conditions, hconditions, h⟩ := Argument.bind_eq_ok_iff.1 h
      obtain ⟨hfields, rfl⟩ := mapM_fieldEquals_eq_ok_iff.1 hconditions
      exact ⟨hfields, Except.ok.inj h⟩
    · rintro ⟨hfields, rfl⟩
      exact Argument.bind_eq_ok_iff.2 ⟨_, mapM_fieldEquals_eq_ok_iff.2 ⟨hfields, rfl⟩, rfl⟩
  · simp [hlength, throw, throwThe, MonadExceptOf.throw, bind, Except.bind]

theorem selectByIds_eq_ok_iff {ids : List SqlValue} :
    d.selectByIds ids = .ok s ↔ ids ≠ [] ∧
      ⟨d.selectFrom ++ " WHERE " ++ " OR ".intercalate (.replicate ids.length d.idMatches),
        ids⟩ = s := by
  unfold selectByIds
  rw [Argument.nonEmpty_bind_eq_ok_iff]
  simp [pure, Except.pure]

end Built

end DataMapper.Descriptor
