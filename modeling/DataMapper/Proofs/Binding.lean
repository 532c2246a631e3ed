import DataMapper.Descriptor.Change
import DataMapper.Proofs.Placeholder
import DataMapper.Proofs.RoundTrip

/-! # Values and the placeholders they are bound to

The text of a statement and its values are made apart from each other. Read
from left to right, the placeholders of the text name columns, and the values
are those of the same columns in the same order: a record's own values in
insertions and updates, the value given for a column everywhere else.
-/
namespace DataMapper
open Placeholder

/-- The columns named in the text and the values bound are those of the same pairs, in order. -/
structure Statement.Binds (s : Statement) (bindings : List (String × SqlValue)) : Prop where
  count : Placeholder.count s.sql = s.params.length
  columns : Placeholder.columns s.sql = bindings.map Prod.fst
  params : s.params = bindings.map Prod.snd

theorem Statement.Binds.of_reads {sql word : String} {params : List SqlValue}
    {bindings : List (String × SqlValue)} (hbegins : BeginsWith word sql)
    (hblank : ' ' ∉ word.toList) (hword : word ≠ "INSERT")
    (hreads : Reads sql (bindings.map Prod.fst)) (hparams : params = bindings.map Prod.snd) :
    Statement.Binds ⟨sql, params⟩ bindings := by
  obtain ⟨hcolumns, hcount⟩ := columns_of_reads hbegins hblank hword hreads
  refine ⟨?_, hcolumns, hparams⟩
  rw [hcount, hparams, List.length_map, List.length_map]

/-! ## Names and texts without placeholders -/

theorem free_ofNat (n : Nat) : Free (Decimal.ofNat n) := by
  intro hmem
  exact absurd (Decimal.isDigit_of_mem_ofNat hmem) (by decide)

theorem Window.free_sql (w : Window) : Free w.sql := by
  simp only [Window.sql, free_append]
  exact ⟨⟨⟨by decide, free_ofNat _⟩, by decide⟩, free_ofNat _⟩

namespace Condition

def column : Condition → String
  | compare column _ _ | isNull column | isNotNull column => column

def binding? : Condition → Option (String × SqlValue)
  | compare column _ value => some (column, value)
  | isNull _ | isNotNull _ => none

theorem reads_sql {c : Condition} (h : IsName c.column) :
    Reads c.sql ((c.binding?.map Prod.fst).toList) := by
  cases c with
  | compare column op value =>
    have hsql : (compare column op value).sql = column ++ (" " ++ op.symbol ++ " ") ++ "?" := by
      simp only [sql, String.append_assoc]
      rfl
    rw [hsql]
    exact Reads.comparison h (isOperator_symbol op)
  | isNull column => exact Reads.of_free (free_append.2 ⟨IsName.free h, by decide⟩)
  | isNotNull column => exact Reads.of_free (free_append.2 ⟨IsName.free h, by decide⟩)

end Condition

namespace Filter

def Named (f : Filter) : Prop :=
  ∀ c ∈ f.conditions, IsName c.column

def bindings (f : Filter) : List (String × SqlValue) :=
  f.conditions.filterMap Condition.binding?

theorem values_eq (f : Filter) : f.values = f.bindings.map Prod.snd := by
  unfold values bindings
  rw [List.map_filterMap]
  refine List.filterMap_congr ?_
  intro c _
  cases c <;> rfl

theorem reads_sql {f : Filter} (h : f.Named) : Reads f.sql (f.bindings.map Prod.fst) := by
  have hcols : f.bindings.map Prod.fst
      = f.conditions.flatMap fun c => (c.binding?.map Prod.fst).toList := by
    rw [bindings, List.map_filterMap, List.filterMap_eq_flatMap_toList]
  unfold sql
  split
  · next hempty =>
    have hnil : f.conditions = [] := List.isEmpty_iff.1 hempty
    rw [hcols, hnil]
    exact Reads.of_free (by decide)
  · rw [hcols]
    refine Reads.free_append (by decide) ⟨' ', rfl, rfl⟩ ?_
    refine Reads.intercalate (by decide) ⟨' ', rfl, rfl⟩ ?_
    intro c hc
    exact c.reads_sql (h c hc)

end Filter

namespace Criteria

def Named (c : Criteria) : Prop :=
  c.filter.Named ∧ ∀ term ∈ c.order, IsName term.column

theorem free_orderSql {c : Criteria} (h : c.Named) : Free c.orderSql := by
  unfold orderSql
  split
  · decide
  · refine free_append.2 ⟨by decide, free_intercalate (by decide) ?_⟩
    intro text htext
    obtain ⟨term, hterm, rfl⟩ := List.mem_map.1 htext
    have hkeyword : Free term.direction.keyword := by cases term.direction <;> decide
    exact free_append.2 ⟨free_append.2 ⟨(h.2 term hterm).free, by decide⟩, hkeyword⟩

end Criteria

namespace Descriptor
variable {E : EntityType} {d : Descriptor E}

def Named (d : Descriptor E) : Prop :=
  IsName d.table ∧ ∀ c ∈ d.columns, IsName c.name

namespace Named
variable (h : d.Named)
include h

theorem idColumn : IsName d.idColumn.name :=
  h.2 d.idColumn d.idColumn_mem.1

theorem columnNames : ∀ name ∈ d.columnNames, IsName name := by
  intro name hname
  obtain ⟨c, hc, rfl⟩ := List.mem_map.1 hname
  exact h.2 c hc

theorem updateColumns : ∀ name ∈ d.updateColumns, IsName name := by
  intro name hname
  obtain ⟨c, hc, rfl⟩ := List.mem_map.1 hname
  exact h.2 c (List.mem_filter.1 hc).1

theorem free_selectFrom : Free d.selectFrom := by
  have hlist : Free d.selectList :=
    free_intercalate (by decide) fun name hname => (h.columnNames name hname).free
  simp only [selectFrom, free_append]
  exact ⟨⟨⟨by decide, hlist⟩, by decide⟩, h.1.free⟩

end Named

theorem beginsWith_selectFrom (d : Descriptor E) : BeginsWith "SELECT" d.selectFrom := by
  refine ⟨d.selectList ++ (" FROM " ++ d.table), ?_⟩
  simp only [selectFrom, ← String.append_assoc]
  rfl

theorem reads_equals {field : String} (h : IsName field) : Reads (field ++ " = ?") [field] := by
  have hsql : field ++ " = ?" = field ++ (" " ++ Comparison.eq.symbol ++ " ") ++ "?" := by
    rw [String.append_assoc]
    rfl
  rw [hsql]
  exact Reads.comparison h (isOperator_symbol .eq)

theorem reads_fieldEquals {field : String} (h : IsName field) : Reads (field ++ "=?") [field] := by
  have hsql : field ++ "=?" = field ++ "=" ++ "?" := by
    rw [String.append_assoc]
    rfl
  rw [hsql]
  exact Reads.comparison h isOperator_assign

theorem reads_intercalate_fieldEquals {separator : String} (hfree : Free separator)
    (hend : EndsAtBoundary separator) {fields : List String}
    (h : ∀ field ∈ fields, IsName field) :
    Reads (separator.intercalate (fields.map (· ++ "=?"))) fields := by
  have hreads := Reads.intercalate hfree hend fun field hfield => reads_fieldEquals (h field hfield)
  rwa [List.flatMap_singleton'] at hreads

theorem Named.reads_idMatches (h : d.Named) : Reads d.idMatches [d.idColumn.name] :=
  reads_equals h.idColumn

/-! ## Queries -/

section Queries
variable (h : d.Named)
include h

/-- A query with a condition after WHERE is read as the condition. -/
theorem binds_where {condition : String} {values : List SqlValue}
    {bindings : List (String × SqlValue)} (hreads : Reads condition (bindings.map Prod.fst))
    (hvalues : values = bindings.map Prod.snd) :
    Statement.Binds ⟨d.selectFrom ++ " WHERE " ++ condition, values⟩ bindings := by
  have hbegins : BeginsWith "SELECT" (d.selectFrom ++ " WHERE " ++ condition) :=
    (d.beginsWith_selectFrom.append _).append _
  have hfree : Free (d.selectFrom ++ " WHERE ") :=
    free_append.2 ⟨h.free_selectFrom, by decide⟩
  have hbound : EndsAtBoundary (d.selectFrom ++ " WHERE ") :=
    EndsAtBoundary.prepend ⟨' ', rfl, rfl⟩ d.selectFrom
  exact .of_reads hbegins (by decide) (by decide) (Reads.free_append hfree hbound hreads) hvalues

theorem binds_selectById (id : SqlValue) :
    (d.selectById id).Binds [(d.idColumn.name, id)] :=
  binds_where h h.reads_idMatches rfl

theorem binds_selectWithin {c : Criteria} (hc : c.Named) (window? : Option Window) :
    (d.selectWithin c window?).Binds c.filter.bindings := by
  have hwindow : Free ((window?.map Window.sql).getD "") := by
    cases window? with
    | none => decide
    | some w => exact w.free_sql
  have hne : d.selectFrom ≠ "" := by
    obtain ⟨rest, hrest⟩ := d.beginsWith_selectFrom
    rw [hrest]
    simp
  refine .of_reads (d.beginsWith_selectFrom.joinClauses hne _) (by decide) (by decide) ?_
    c.filter.values_eq
  have hclauses : ∀ p ∈ [(d.selectFrom, []), (c.filter.sql, c.filter.bindings.map Prod.fst),
      (c.orderSql, []), ((window?.map Window.sql).getD "", [])], Reads p.1 p.2 := by
    simp only [List.forall_mem_cons]
    exact ⟨.of_free h.free_selectFrom, Filter.reads_sql hc.1, .of_free (Criteria.free_orderSql hc),
      .of_free hwindow, by simp⟩
  simpa using Reads.joinClauses hclauses

theorem binds_selectByText {condition : String} (hcondition : Free condition) {s : Statement}
    (hs : d.selectByText condition = .ok s) : s.Binds [] := by
  obtain ⟨-, rfl⟩ := selectByText_eq_ok_iff.1 hs
  exact binds_where h (Reads.of_free hcondition) rfl

theorem binds_findByText {condition : String} (hcondition : Free condition) {s : Statement}
    (hs : d.findByText condition = .ok s) : s.Binds [] := by
  obtain ⟨-, rfl⟩ := findByText_eq_ok_iff.1 hs
  have hfree : Free (condition ++ " LIMIT 1") := free_append.2 ⟨hcondition, by decide⟩
  have hbinds : Statement.Binds ⟨d.selectFrom ++ " WHERE " ++ (condition ++ " LIMIT 1"), []⟩ [] :=
    binds_where h (Reads.of_free hfree) rfl
  rwa [← String.append_assoc] at hbinds

theorem binds_selectByField {field : String} (hfield : IsName field) {value : SqlValue}
    {s : Statement} (hs : d.selectByField field value = .ok s) : s.Binds [(field, value)] := by
  obtain ⟨-, rfl⟩ := selectByField_eq_ok_iff.1 hs
  have hbinds : Statement.Binds ⟨d.selectFrom ++ " WHERE " ++ (field ++ " = ?"), [value]⟩
      [(field, value)] := binds_where h (reads_equals hfield) rfl
  rwa [← String.append_assoc] at hbinds

def fieldBindings (field : String) (value : SqlValue) : List (String × SqlValue) :=
  if value = .null ∨ value = .text "NULL" then [] else [(field, value)]

omit h in
theorem reads_fieldMatches {field : String} (hfield : IsName field) (value : SqlValue) :
    Reads (fieldMatches field value).sql ((fieldBindings field value).map Prod.fst) ∧
    (fieldMatches field value).params = (fieldBindings field value).map Prod.snd := by
  unfold fieldMatches fieldBindings
  split
  · exact ⟨Reads.of_free (free_append.2 ⟨hfield.free, by decide⟩), rfl⟩
  · exact ⟨reads_equals hfield, rfl⟩

theorem binds_selectByFieldPaged {field orderBy : String} (hfield : IsName field)
    (horder : IsName orderBy) {value : SqlValue} {page count : UInt32} {s : Statement}
    (hs : d.selectByFieldPaged field value orderBy page count = .ok s) :
    s.Binds (fieldBindings field value) := by
  obtain ⟨-, -, rfl⟩ := selectByFieldPaged_eq_ok_iff.1 hs
  obtain ⟨hreads, hparams⟩ := reads_fieldMatches hfield value
  have htail : Free (" ORDER BY " ++ (orderBy ++ (" " ++ (pageWindow page count).sql))) := by
    simp only [free_append]
    exact ⟨by decide, horder.free, by decide, (pageWindow page count).free_sql⟩
  have hbinds := binds_where h (hreads.append_free htail) hparams
  simpa only [String.append_assoc] using hbinds

theorem binds_selectByFields {fields : List String} (hfields : ∀ field ∈ fields, IsName field)
    {values : List SqlValue} {s : Statement} (hs : d.selectByFields fields values = .ok s) :
    s.Binds (fields.zip values) := by
  obtain ⟨-, -, hlength, -, rfl⟩ := selectByFields_eq_ok_iff.1 hs
  have hreads : Reads (" AND ".intercalate (fields.map (· ++ "=?"))) fields :=
    reads_intercalate_fieldEquals (by decide) ⟨' ', rfl, rfl⟩ hfields
  refine binds_where h ?_ ?_
  · rwa [List.map_fst_zip (Nat.le_of_eq hlength)]
  · rw [List.map_snd_zip (Nat.le_of_eq hlength.symm)]

theorem binds_selectByIds {ids : List SqlValue} {s : Statement} (hs : d.selectByIds ids = .ok s) :
    s.Binds (ids.map fun id => (d.idColumn.name, id)) := by
  obtain ⟨-, rfl⟩ := selectByIds_eq_ok_iff.1 hs
  have hreads : Reads (" OR ".intercalate (ids.map fun _ => d.idMatches))
      (ids.flatMap fun _ => [d.idColumn.name]) :=
    Reads.intercalate (by decide) ⟨' ', rfl, rfl⟩ fun _ _ => h.reads_idMatches
  have hcols : (ids.map fun id => (d.idColumn.name, id)).map Prod.fst
      = ids.flatMap fun _ => [d.idColumn.name] := by
    rw [List.map_map, ← List.map_eq_flatMap]
    rfl
  have hvalues : ids = (ids.map fun id => (d.idColumn.name, id)).map Prod.snd := by
    rw [List.map_map]
    exact (List.map_id' ids).symm
  rw [← hcols] at hreads
  rw [← List.map_const']
  exact binds_where h hreads hvalues

theorem binds_aggregate (f : Aggregate) {field? : Option String}
    (hfield : ∀ field ∈ field?, IsName field) {c : Criteria} (hc : c.filter.Named) :
    (d.aggregate f field? c).Binds c.filter.bindings := by
  have htarget : Free (aggregateTarget field?) := by
    unfold aggregateTarget
    split
    · next field =>
      split
      · decide
      · exact (hfield field rfl).free
    · decide
  have hfunction : Free f.function := by cases f <;> decide
  have hbegins : BeginsWith "SELECT"
      ("SELECT " ++ f.function ++ "(" ++ aggregateTarget field? ++ ") FROM " ++ d.table) := by
    refine ⟨f.function ++ "(" ++ aggregateTarget field? ++ ") FROM " ++ d.table, ?_⟩
    simp only [← String.append_assoc]
    rfl
  have hfree : Free
      ("SELECT " ++ f.function ++ "(" ++ aggregateTarget field? ++ ") FROM " ++ d.table) := by
    simp only [free_append]
    exact ⟨⟨⟨⟨⟨by decide, hfunction⟩, by decide⟩, htarget⟩, by decide⟩, h.1.free⟩
  refine .of_reads (hbegins.joinClauses (by simp) _) (by decide) (by decide) ?_ c.filter.values_eq
  have hclauses : ∀ p ∈ [("SELECT " ++ f.function ++ "(" ++ aggregateTarget field? ++ ") FROM "
      ++ d.table, []), (c.filter.sql, c.filter.bindings.map Prod.fst)], Reads p.1 p.2 := by
    simp only [List.forall_mem_cons]
    exact ⟨.of_free hfree, Filter.reads_sql hc, by simp⟩
  simpa using Reads.joinClauses hclauses

end Queries

/-! ## Changes -/

section Changes
variable (h : d.Named)
include h

/-- A change of the row of an identifier is read as what is changed, then the identifier. -/
theorem binds_change {word change : String} {values : List SqlValue}
    {bindings : List (String × SqlValue)} (id : SqlValue) (hbegins : BeginsWith word change)
    (hblank : ' ' ∉ word.toList) (hword : word ≠ "INSERT")
    (hreads : Reads change (bindings.map Prod.fst)) (hvalues : values = bindings.map Prod.snd) :
    Statement.Binds ⟨change ++ " WHERE " ++ d.idMatches, values ++ [id]⟩
      (bindings ++ [(d.idColumn.name, id)]) := by
  have hchange : Reads (change ++ " WHERE ") (bindings.map Prod.fst) :=
    hreads.append_free (by decide)
  have hbound : EndsAtBoundary (change ++ " WHERE ") := .prepend ⟨' ', rfl, rfl⟩ change
  refine .of_reads ((hbegins.append _).append _) hblank hword ?_ ?_
  · rw [List.map_append]
    exact hchange.append hbound h.reads_idMatches
  · rw [List.map_append, hvalues]
    rfl

theorem binds_change_free {word change : String} (id : SqlValue) (hbegins : BeginsWith word change)
    (hblank : ' ' ∉ word.toList) (hword : word ≠ "INSERT") (hfree : Free change) :
    Statement.Binds ⟨change ++ " WHERE " ++ d.idMatches, [id]⟩ [(d.idColumn.name, id)] := by
  have hreads : Reads change (([] : List (String × SqlValue)).map Prod.fst) := Reads.of_free hfree
  exact binds_change h id hbegins hblank hword hreads rfl

theorem binds_update (r : E.Rec) :
    (d.update r).Binds (d.dataColumns.map (fun c => (c.name, c.read r))
      ++ [(d.idColumn.name, d.idColumn.read r)]) := by
  have hbegins : BeginsWith "UPDATE" ("UPDATE " ++ d.table ++ " SET ") := by
    refine ⟨d.table ++ " SET ", ?_⟩
    simp only [← String.append_assoc]
    rfl
  have hnames : (d.dataColumns.map fun c => (c.name, c.read r)).map Prod.fst = d.updateColumns := by
    rw [List.map_map]
    rfl
  have hclause : Reads d.setClause d.updateColumns :=
    reads_intercalate_fieldEquals (by decide) ⟨',', rfl, rfl⟩ h.updateColumns
  have hfree : Free ("UPDATE " ++ d.table ++ " SET ") := by
    simp only [free_append]
    exact ⟨⟨by decide, h.1.free⟩, by decide⟩
  have hbound : EndsAtBoundary ("UPDATE " ++ d.table ++ " SET ") :=
    EndsAtBoundary.prepend ⟨' ', rfl, rfl⟩ _
  refine binds_change h _ (hbegins.append _) (by decide) (by decide) ?_ ?_
  · rw [hnames]
    exact Reads.free_append hfree hbound hclause
  · rw [List.map_map]
    rfl

theorem binds_deleteById (id : SqlValue) : (d.deleteById id).Binds [(d.idColumn.name, id)] := by
  have hbegins : BeginsWith "DELETE" ("DELETE FROM " ++ d.table) := by
    refine ⟨"FROM " ++ d.table, ?_⟩
    simp only [← String.append_assoc]
    rfl
  have hfree : Free ("DELETE FROM " ++ d.table) := free_append.2 ⟨by decide, h.1.free⟩
  exact binds_change_free h id hbegins (by decide) (by decide) hfree

theorem binds_increment {field : String} (hfield : IsName field) {amount : Int32} {id : SqlValue}
    {s : Statement} (hs : d.increment field amount id = .ok s) :
    s.Binds [(d.idColumn.name, id)] := by
  obtain ⟨-, rfl⟩ := increment_eq_ok_iff.1 hs
  have hstep : Free (signedStep amount) := by
    unfold signedStep
    refine free_append.2 ⟨?_, free_ofNat _⟩
    split <;> decide
  have hbegins : BeginsWith "UPDATE" ("UPDATE " ++ d.table ++ " SET " ++ field ++ "=" ++ field
      ++ " " ++ signedStep amount) := by
    refine ⟨d.table ++ " SET " ++ field ++ "=" ++ field ++ " " ++ signedStep amount, ?_⟩
    simp only [← String.append_assoc]
    rfl
  have hfree : Free ("UPDATE " ++ d.table ++ " SET " ++ field ++ "=" ++ field ++ " "
      ++ signedStep amount) := by
    simp only [free_append]
    exact ⟨⟨⟨⟨⟨⟨⟨by decide, h.1.free⟩, by decide⟩, hfield.free⟩, by decide⟩, hfield.free⟩,
      by decide⟩, hstep⟩
  exact binds_change_free h id hbegins (by decide) (by decide) hfree

theorem binds_insert (r : E.Rec) (delayed : Bool) :
    (d.insert r delayed).Binds (d.columns.map fun c => (c.name, c.read r)) := by
  obtain ⟨words, hwords, hopen, hfree, hbegins⟩ : ∃ words : String,
      (if delayed then "INSERT DELAYED INTO" else "INSERT INTO") = words ∧
        '(' ∉ words.toList ∧ Free words ∧ BeginsWith "INSERT" words := by
    cases delayed with
    | false => exact ⟨_, rfl, by decide, by decide, "INTO", rfl⟩
    | true => exact ⟨_, rfl, by decide, by decide, "DELAYED INTO", rfl⟩
  have hmarks : d.placeholders = ",".intercalate (d.columnNames.map fun _ => "?") := by
    rw [columnNames, List.map_map]
    rfl
  have hsql : (d.insert r delayed).sql = words ++ " " ++ d.table ++ "(" ++
      ",".intercalate d.columnNames ++ ") VALUES (" ++
      ",".intercalate (d.columnNames.map fun _ => "?") ++ ")" := by
    simp only [insert, hwords, ← hmarks]
    rfl
  have hne : d.columnNames ≠ [] := by
    have hid : d.idColumn.name ∈ d.columnNames := List.mem_map_of_mem d.idColumn_mem.1
    exact List.ne_nil_of_mem hid
  have hbefore : '(' ∉ (words ++ " " ++ d.table).toList := by
    simp only [String.toList_append, List.mem_append, not_or]
    exact ⟨⟨hopen, by decide⟩, h.1.not_mem (by decide)⟩
  obtain ⟨hcolumns, hcount⟩ := columns_of_lists hsql ((hbegins.append _).append _) hbefore
    (free_append.2 ⟨free_append.2 ⟨hfree, by decide⟩, h.1.free⟩) hne h.columnNames
  have hnames : d.columnNames.length = (d.insert r delayed).params.length := by
    rw [columnNames, List.length_map]
    exact (List.length_map _).symm
  refine ⟨hcount.trans hnames, ?_, ?_⟩
  · rw [hcolumns, List.map_map]
    rfl
  · rw [List.map_map]
    rfl

end Changes
end Descriptor

/-! ## Every builder -/

inductive Builder (E : EntityType) where
  | selectById (id : SqlValue)
  | selectCriteria (criteria : Criteria)
  | selectSingle (criteria : Criteria)
  | selectByText (condition : String)
  | findByText (condition : String)
  | selectByField (field : String) (value : SqlValue)
  | selectByFieldPaged (field : String) (value : SqlValue) (orderBy : String)
    (page count : UInt32)
  | selectByFields (fields : List String) (values : List SqlValue)
  | selectByIds (ids : List SqlValue)
  | insert (record : E.Rec) (delayed : Bool)
  | update (record : E.Rec)
  | deleteById (id : SqlValue)
  | increment (field : String) (amount : Int32) (id : SqlValue)
  | aggregate (function : Descriptor.Aggregate) (field? : Option String) (criteria : Criteria)

namespace Builder
variable {E : EntityType}

def build (d : Descriptor E) : Builder E → Except Failure Statement
  | selectById id => .ok (d.selectById id)
  | selectCriteria c => .ok (d.selectCriteria c)
  | selectSingle c => d.selectSingle c
  | selectByText condition => d.selectByText condition
  | findByText condition => d.findByText condition
  | selectByField field value => d.selectByField field value
  | selectByFieldPaged field value orderBy page count =>
    d.selectByFieldPaged field value orderBy page count
  | selectByFields fields values => d.selectByFields fields values
  | selectByIds ids => d.selectByIds ids
  | insert r delayed => .ok (d.insert r delayed)
  | update r => .ok (d.update r)
  | deleteById id => .ok (d.deleteById id)
  | increment field amount id => d.increment field amount id
  | aggregate f field? c => .ok (d.aggregate f field? c)

def Named : Builder E → Prop
  | selectCriteria c | selectSingle c => c.Named
  | selectByText condition | findByText condition => Free condition
  | selectByField field _ | increment field _ _ => IsName field
  | selectByFieldPaged field _ orderBy _ _ => IsName field ∧ IsName orderBy
  | selectByFields fields _ => ∀ field ∈ fields, IsName field
  | aggregate _ field? c => (∀ field ∈ field?, IsName field) ∧ c.filter.Named
  | selectById _ | selectByIds _ | insert _ _ | update _ | deleteById _ => True

/-- The columns that values are bound for, with their values: the fields of a record, in an update
with the identifier last, and elsewhere what the arguments name. -/
def bindings (d : Descriptor E) : Builder E → List (String × SqlValue)
  | insert r _ => d.columns.map fun c => (c.name, c.read r)
  | update r => d.dataColumns.map (fun c => (c.name, c.read r))
      ++ [(d.idColumn.name, d.idColumn.read r)]
  | selectById id | deleteById id | increment _ _ id => [(d.idColumn.name, id)]
  | selectByIds ids => ids.map fun id => (d.idColumn.name, id)
  | selectByField field value => [(field, value)]
  | selectByFieldPaged field value _ _ _ => Descriptor.fieldBindings field value
  | selectByFields fields values => fields.zip values
  | selectCriteria c | selectSingle c | aggregate _ _ c => c.filter.bindings
  | selectByText _ | findByText _ => []

/-- Whatever is built has one placeholder for every value, and read from left to right the
placeholders belong to the columns that the values are bound for. -/
theorem binds_build {d : Descriptor E} (hd : d.Named) {b : Builder E} (hb : b.Named)
    {s : Statement} (hs : b.build d = .ok s) : s.Binds (b.bindings d) := by
  cases b with
  | selectById id =>
    obtain rfl := Except.ok.inj hs
    exact Descriptor.binds_selectById hd id
  | selectCriteria c =>
    obtain rfl := Except.ok.inj hs
    exact Descriptor.binds_selectWithin hd hb c.window?
  | selectSingle c =>
    obtain ⟨w, -, rfl⟩ := Descriptor.selectSingle_eq_ok_iff.1 hs
    exact Descriptor.binds_selectWithin hd hb (some w)
  | selectByText condition => exact Descriptor.binds_selectByText hd hb hs
  | findByText condition => exact Descriptor.binds_findByText hd hb hs
  | selectByField field value => exact Descriptor.binds_selectByField hd hb hs
  | selectByFieldPaged field value orderBy page count =>
    exact Descriptor.binds_selectByFieldPaged hd hb.1 hb.2 hs
  | selectByFields fields values => exact Descriptor.binds_selectByFields hd hb hs
  | selectByIds ids => exact Descriptor.binds_selectByIds hd hs
  | insert r delayed =>
    obtain rfl := Except.ok.inj hs
    exact Descriptor.binds_insert hd r delayed
  | update r =>
    obtain rfl := Except.ok.inj hs
    exact Descriptor.binds_update hd r
  | deleteById id =>
    obtain rfl := Except.ok.inj hs
    exact Descriptor.binds_deleteById hd id
  | increment field amount id => exact Descriptor.binds_increment hd hb hs
  | aggregate f field? c =>
    obtain rfl := Except.ok.inj hs
    exact Descriptor.binds_aggregate hd f hb.1 hb.2

end Builder

namespace Gauge

theorem named : descriptor.Named := by
  refine ⟨by decide, ?_⟩
  decide

theorem binds_build_update :
    Placeholder.columns "UPDATE gauge SET level=?,open=?,closed=? WHERE gauge_id = ?"
      = ["level", "open", "closed", "gauge_id"] ∧
    descriptor.updateValues closed = [.int (-3), .bool true, .long (-1), .text "G1"] := by
  have hbuilt : (Builder.update closed).build descriptor
      = .ok ⟨"UPDATE gauge SET level=?,open=?,closed=? WHERE gauge_id = ?",
        descriptor.updateValues closed⟩ := by
    decide
  have hbinds := Builder.binds_build named (b := .update closed) trivial hbuilt
  exact ⟨hbinds.columns, hbinds.params⟩

end Gauge
end DataMapper
