import DataMapper.Proofs.Decoding
import DataMapper.Proofs.Resolution

/-! # Readers of integers

An integer is read in three ways: into an optional field of a record, from a
named column of a row, and from the first cell of a reply. What a cell holds is
the same number for all of them, but only fields take flags for numbers and only
named columns take numerals. Each way comes in two widths, and the narrow reader
is the wide one cut down to the numbers that fit.
-/
namespace DataMapper
open Narrow (IsInt32)

inductive IntegerReader where
  | field
  | column
  | scalar

namespace IntegerReader

/-- What a cell holds for a reader that succeeds: a number, or nothing if the cell is missing or
NULL. -/
def found? : IntegerReader → Option SqlValue → Option (Option Int)
  | _, none | _, some .null => some none
  | _, some (.int i) => some (some i.toInt)
  | _, some (.long l) => some (some l.toInt)
  | field, some (.bool b) => some (some (if b then 1 else 0))
  | column, some (.text s) =>
    ((Decimal.readInt (Text.trim s.toList)).bind Narrow.int64?).map fun l => some l.toInt
  | _, _ => none

def narrowed (found : Option (Option Int)) : Option (Option Int) :=
  found.filter fun n? => n?.all fun n => decide (IsInt32 n)

/-- The outcome of a reader as numbers; a failure is no outcome. -/
def outcome {ε α : Type} (number : α → Int) (result : Except ε (Option α)) :
    Option (Option Int) :=
  result.toOption.map (Option.map number)

def checked {ε : Type} (fault : Int64 → ε) (result : Except ε (Option Int64)) :
    Except ε (Option Int32) := do
  match ← result with
  | none => return none
  | some l =>
    match Narrow.int32? l.toInt with
    | some i => return some i
    | none => throw (fault l)

variable {n? : Option Int} {found : Option (Option Int)}

theorem narrowed_eq_some_iff :
    narrowed found = some n? ↔ found = some n? ∧ ∀ n ∈ n?, IsInt32 n := by
  simp [narrowed, Option.filter_eq_some_iff, Option.all_eq_true]

theorem narrowed_some (n : Int) :
    narrowed (some (some n)) = (Narrow.int32? n).map fun i => some i.toInt := by
  cases hi : Narrow.int32? n with
  | none =>
    have hfits : ¬IsInt32 n := Narrow.int32?_eq_none_iff.1 hi
    simp [narrowed, Option.filter, hfits]
  | some i =>
    have hnumber : i.toInt = n := Narrow.toInt_of_int32? hi
    have hfits : IsInt32 n := Narrow.exists_int32?_iff.1 ⟨i, hi⟩
    have hsame : narrowed (some (some n)) = some (some n) := by
      refine narrowed_eq_some_iff.2 ⟨rfl, ?_⟩
      rintro m ⟨⟩
      exact hfits
    rw [hsame, Option.map_some, hnumber]

/-- Where nothing reads as 0, narrowing refuses the same numbers. -/
theorem map_getD_narrowed_iff {n : Int} :
    (narrowed found).map (·.getD 0) = some n ↔ found.map (·.getD 0) = some n ∧ IsInt32 n := by
  rw [Option.map_eq_some_iff, Option.map_eq_some_iff]
  constructor
  · rintro ⟨n?, hn, rfl⟩
    obtain ⟨hfound, hfits⟩ := narrowed_eq_some_iff.1 hn
    refine ⟨⟨n?, hfound, rfl⟩, ?_⟩
    cases n? with
    | none => decide
    | some m => exact hfits m rfl
  · rintro ⟨⟨n?, hfound, rfl⟩, hfits⟩
    refine ⟨n?, narrowed_eq_some_iff.2 ⟨hfound, ?_⟩, rfl⟩
    rintro m rfl
    exact hfits

theorem outcome_checked {ε : Type} (fault : Int64 → ε) (result : Except ε (Option Int64)) :
    outcome Int32.toInt (checked fault result) = narrowed (outcome Int64.toInt result) := by
  rcases result with e | _ | l
  · rfl
  · rfl
  · have hwide : narrowed (outcome Int64.toInt (.ok (some l) : Except ε (Option Int64)))
        = (Narrow.int32? l.toInt).map fun i => some i.toInt := narrowed_some l.toInt
    rw [hwide]
    simp only [checked, bind, Except.bind]
    cases Narrow.int32? l.toInt <;> rfl

/-! ## The three readers -/

theorem outcome_decode_long (v : SqlValue) :
    outcome Int64.toInt ((FieldType.option .long).decode .long v) = field.found? (some v) := by
  cases v with
  | int i => exact congrArg (fun n => some (some n)) i.toInt_toInt64
  | bool b => cases b <;> rfl
  | null | long | text => rfl

theorem outcome_decode_int (v : SqlValue) :
    outcome Int32.toInt ((FieldType.option .int).decode .integer v)
      = narrowed (field.found? (some v)) := by
  cases v with
  | int i =>
    rw [found?, narrowed_some, Narrow.int32?_toInt]
    rfl
  | long l =>
    rw [found?, narrowed_some, FieldType.decode, ColumnKind.toCell]
    cases Narrow.int32? l.toInt <;> rfl
  | bool b => cases b <;> rfl
  | null | text => rfl

theorem outcome_nullableLong (row : Row) (name : String) :
    outcome Int64.toInt (row.nullableLong name) = column.found? (row.get? name) := by
  unfold Row.nullableLong
  cases row.get? name with
  | none => rfl
  | some v =>
    cases v with
    | int i => exact congrArg (fun n => some (some n)) i.toInt_toInt64
    | text s =>
      simp only [found?]
      cases (Decimal.readInt (Text.trim s.toList)).bind Narrow.int64? <;> rfl
    | null | long | bool => rfl

theorem outcome_nullableInt (row : Row) (name : String) :
    outcome Int32.toInt (row.nullableInt name) = narrowed (column.found? (row.get? name)) := by
  have hchecked : row.nullableInt name = checked (.outOfRange "integer") (row.nullableLong name) :=
    rfl
  rw [hchecked, outcome_checked, outcome_nullableLong]

theorem outcome_scalarLong (rows : List Row) :
    outcome Int64.toInt (Row.scalarLong rows) = scalar.found? (rows.head?.bind Row.first?) := by
  unfold Row.scalarLong
  cases rows.head?.bind Row.first? with
  | none => rfl
  | some v =>
    cases v with
    | int i => exact congrArg (fun n => some (some n)) i.toInt_toInt64
    | null | long | bool | text => rfl

theorem outcome_scalarInt (rows : List Row) :
    outcome Int32.toInt (Row.scalarInt rows)
      = narrowed (outcome Int64.toInt (Row.scalarLong rows)) := by
  have hchecked : Row.scalarInt rows = checked .exceedsInt32 (Row.scalarLong rows) := rfl
  rw [hchecked, outcome_checked]

structure Agreement (cell : Option SqlValue) (wide narrow : List (Option (Option Int))) :
    Prop where
  absent : cell.getD .null = .null → ∀ x ∈ wide ++ narrow, x = some none
  int : ∀ i, cell = some (.int i) → ∀ x ∈ wide, x = some (some i.toInt)
  long : ∀ l, cell = some (.long l) → ∀ x ∈ wide, x = some (some l.toInt)
  agree : ∀ x ∈ wide ++ narrow, ∀ y ∈ wide ++ narrow, ∀ a b, x = some a → y = some b → a = b
  narrow : List.Forall₂ (fun x y => ∀ a, y = some a ↔ x = some a ∧ ∀ n ∈ a, IsInt32 n) wide narrow

theorem found?_absent (reader : IntegerReader) {cell : Option SqlValue}
    (h : cell.getD .null = .null) : reader.found? cell = some none := by
  rcases cell with _ | v
  · cases reader <;> rfl
  · obtain rfl : v = .null := h
    cases reader <;> rfl

/-- Readers may take different cells, but none for different numbers. -/
theorem found?_unique {reader reader' : IntegerReader} {cell : Option SqlValue}
    {a b : Option Int} (ha : reader.found? cell = some a) (hb : reader'.found? cell = some b) :
    a = b := by
  by_cases habsent : cell.getD .null = .null
  · rw [reader.found?_absent habsent] at ha
    rw [reader'.found?_absent habsent] at hb
    exact Option.some.inj (ha.symm.trans hb)
  · rcases cell with _ | v
    · exact absurd rfl habsent
    · cases v with
      | null => exact absurd rfl habsent
      | int | long =>
        cases reader <;> cases reader' <;> exact Option.some.inj (ha.symm.trans hb)
      | bool =>
        -- only a field takes a flag
        cases reader <;> cases ha
        cases reader' <;> cases hb
        rfl
      | text =>
        -- only a named column takes a numeral
        cases reader with
        | field | scalar => cases ha
        | column =>
          cases reader' with
          | field | scalar => cases hb
          | column => exact Option.some.inj (ha.symm.trans hb)

theorem agreement_found? (cell : Option SqlValue) (readers : List IntegerReader) :
    Agreement cell (readers.map fun reader => reader.found? cell)
      (readers.map fun reader => narrowed (reader.found? cell)) := by
  have hmem : ∀ x ∈ (readers.map fun reader => reader.found? cell) ++
      (readers.map fun reader => narrowed (reader.found? cell)),
      ∀ a, x = some a → ∃ reader : IntegerReader, reader.found? cell = some a := by
    intro x hx a ha
    rcases List.mem_append.1 hx with hwide | hnarrow
    · obtain ⟨reader, -, rfl⟩ := List.mem_map.1 hwide
      exact ⟨reader, ha⟩
    · obtain ⟨reader, -, rfl⟩ := List.mem_map.1 hnarrow
      exact ⟨reader, (narrowed_eq_some_iff.1 ha).1⟩
  refine ⟨?_, ?_, ?_, ?_, ?_⟩
  · intro habsent x hx
    rcases List.mem_append.1 hx with hwide | hnarrow
    · obtain ⟨reader, -, rfl⟩ := List.mem_map.1 hwide
      exact reader.found?_absent habsent
    · obtain ⟨reader, -, rfl⟩ := List.mem_map.1 hnarrow
      rw [reader.found?_absent habsent]
      rfl
  · rintro i rfl x hx
    obtain ⟨reader, -, rfl⟩ := List.mem_map.1 hx
    cases reader <;> rfl
  · rintro l rfl x hx
    obtain ⟨reader, -, rfl⟩ := List.mem_map.1 hx
    cases reader <;> rfl
  · intro x hx y hy a b ha hb
    obtain ⟨reader, hreader⟩ := hmem x hx a ha
    obtain ⟨reader', hreader'⟩ := hmem y hy b hb
    exact found?_unique hreader hreader'
  · rw [List.forall₂_map_left_iff, List.forall₂_map_right_iff, List.forall₂_same]
    intro reader _ a
    exact narrowed_eq_some_iff

end IntegerReader

namespace Column
variable {E : EntityType} {t : FieldType}

/-- The field of a column as a row populates it, or the diagnostic about it, which is one of those
that populating lists. -/
def populated (c : Column E) (ht : c.field.type = t) (r : E.Rec) (row : Row) :
    Except Diagnostic t.Carrier :=
  match c.diagnostic? row with
  | some diagnostic => .error diagnostic
  | none => .ok (cast (congrArg FieldType.Carrier ht) ((E.populate r row).record c.index))

theorem toOption_populated {c : Column E} (hc : c ∈ E.columns) (ht : c.field.type = t)
    (r : E.Rec) (row : Row) :
    (c.populated ht r row).toOption = (t.decode c.kind (c.cell row)).toOption := by
  subst ht
  have hdecode : c.field.type.decode c.kind (c.cell row) = c.decode (c.cell row) := rfl
  rw [populated, EntityType.record_populate_column row r hc, hdecode, diagnostic?, value]
  cases c.decode (c.cell row) <;> rfl

theorem kind_of_type {c : Column E} (hc : c ∈ E.columns) (ht : c.field.type = t)
    {kind : ColumnKind} (hkind : t.capabilities.kind = .ok kind) : c.kind = kind := by
  have hmapped := EntityType.kind_of_mem_columns hc
  rw [ht, hkind] at hmapped
  exact (Except.ok.inj hmapped).symm

theorem found?_cell (c : Column E) (row : Row) (reader : IntegerReader) :
    reader.found? (some (c.cell row)) = reader.found? (row.get? c.name) := by
  unfold cell
  cases row.get? c.name with
  | none => cases reader <;> rfl
  | some v => rfl

open IntegerReader (outcome narrowed)

theorem outcome_populated_long {c : Column E} (hc : c ∈ E.columns)
    (ht : c.field.type = .option .long) (r : E.Rec) (row : Row) :
    outcome Int64.toInt (c.populated ht r row)
      = IntegerReader.field.found? (row.get? c.name) := by
  have hkind : c.kind = .long := kind_of_type hc ht rfl
  have hread := toOption_populated hc ht r row
  rw [hkind] at hread
  rw [← c.found?_cell row, ← IntegerReader.outcome_decode_long]
  exact congrArg (Option.map (Option.map Int64.toInt)) hread

theorem outcome_populated_int {c : Column E} (hc : c ∈ E.columns)
    (ht : c.field.type = .option .int) (r : E.Rec) (row : Row) :
    outcome Int32.toInt (c.populated ht r row)
      = narrowed (IntegerReader.field.found? (row.get? c.name)) := by
  have hkind : c.kind = .integer := kind_of_type hc ht rfl
  have hread := toOption_populated hc ht r row
  rw [hkind] at hread
  rw [← c.found?_cell row, ← IntegerReader.outcome_decode_int]
  exact congrArg (Option.map (Option.map Int32.toInt)) hread

end Column

namespace Connection
open IntegerReader (outcome narrowed)
variable {σ : Type} (conn : Connection σ) (statement : Statement) (s : σ)

theorem outcome_queryScalarInt :
    outcome Int32.toInt (conn.queryScalarInt statement s).1
      = narrowed (outcome Int64.toInt (conn.queryScalarLong statement s).1) := by
  unfold queryScalarInt queryScalarLong
  rcases conn.query statement s with ⟨e | rows, s'⟩
  · rfl
  · exact IntegerReader.outcome_scalarInt rows

theorem outcome_queryScalarLong {rows : List Row}
    (h : (conn.query statement s).1 = .ok rows) :
    outcome Int64.toInt (conn.queryScalarLong statement s).1
      = IntegerReader.scalar.found? (rows.head?.bind Row.first?) := by
  have hreply : (conn.queryScalarLong statement s).1 = Row.scalarLong rows := by
    change (conn.query statement s).1 >>= Row.scalarLong = _
    rw [h]
    rfl
  rw [hreply, IntegerReader.outcome_scalarLong]

end Connection

namespace Operation
open IntegerReader (outcome)
variable {E : EntityType} {σ : Type} (conn : Connection σ) (statement : Statement) (s : σ)

theorem toOption_perform_long :
    (perform conn statement s : Except Failure (Answer.long.Value E) × σ).1.toOption.map Int64.toInt
      = (outcome Int64.toInt (conn.queryScalarLong statement s).1).map (·.getD 0) := by
  change (((conn.queryScalarLong statement s).1.map (·.getD 0)).mapError _).toOption.map _ = _
  rcases (conn.queryScalarLong statement s).1 with e | _ | l <;> rfl

theorem toOption_perform_int :
    (perform conn statement s : Except Failure (Answer.int.Value E) × σ).1.toOption.map Int32.toInt
      = (outcome Int32.toInt (conn.queryScalarInt statement s).1).map (·.getD 0) := by
  change (((conn.queryScalarInt statement s).1.map (·.getD 0)).mapError _).toOption.map _ = _
  rcases (conn.queryScalarInt statement s).1 with e | _ | i <;> rfl

end Operation

namespace Dao
variable {E : EntityType} {σ : Type} (conn : Connection σ) (dao : Dao E) (slot : Slot E) (s : σ)

/-- An aggregate in two widths: one statement is sent for both, the narrow one answers what the
wide one answers if it fits, and both answer 0 where nothing is found. -/
structure AggregatesAgree (opInt : Operation E .int) (opLong : Operation E .long) : Prop where
  calls : dao.calls conn opInt slot s = dao.calls conn opLong slot s
  narrow : ∀ n : Int, (dao.run conn opInt slot s).1.toOption.map Int32.toInt = some n ↔
    (dao.run conn opLong slot s).1.toOption.map Int64.toInt = some n ∧ IsInt32 n
  absent : ∀ statement rows, dao.calls conn opLong slot s = [.query statement] →
    (conn.query statement s).1 = .ok rows →
    (rows.head?.bind Row.first?).getD .null = .null →
      (dao.run conn opInt slot s).1.toOption.map Int32.toInt = some 0 ∧
      (dao.run conn opLong slot s).1.toOption.map Int64.toInt = some 0

theorem aggregatesAgree {opInt : Operation E .int} {opLong : Operation E .long}
    (h : opInt.prepare conn.delayedInsert = opLong.prepare conn.delayedInsert) :
    dao.AggregatesAgree conn slot s opInt opLong := by
  have hplan : dao.plan conn.delayedInsert opInt slot
      = dao.plan conn.delayedInsert opLong slot := by
    rw [plan, h]
    rfl
  cases hlong : (dao.plan conn.delayedInsert opLong slot).1 with
  | error e =>
    have hint := (congrArg Prod.fst hplan).trans hlong
    have hcalls := dao.calls_of_plan_error conn opLong slot s hlong
    refine ⟨?_, ?_, ?_⟩
    · rw [hcalls, dao.calls_of_plan_error conn opInt slot s hint]
    · intro n
      rw [dao.run_of_plan_error conn opLong slot s hlong,
        dao.run_of_plan_error conn opInt slot s hint]
      constructor
      · rintro ⟨⟩
      · rintro ⟨⟨⟩, -⟩
    · intro statement rows hcall
      rw [hcalls] at hcall
      cases hcall
  | ok sent =>
    have hint := (congrArg Prod.fst hplan).trans hlong
    have hcalls := dao.calls_of_plan_ok conn opLong slot s hlong
    refine ⟨?_, ?_, ?_⟩
    · rw [hcalls, dao.calls_of_plan_ok conn opInt slot s hint]
      rfl
    · intro n
      rw [dao.run_of_plan_ok conn opLong slot s hlong, dao.run_of_plan_ok conn opInt slot s hint,
        Operation.toOption_perform_long, Operation.toOption_perform_int,
        conn.outcome_queryScalarInt]
      exact IntegerReader.map_getD_narrowed_iff
    · intro statement rows hcall hreply habsent
      obtain rfl : sent = statement := by
        rw [hcalls] at hcall
        cases hcall
        rfl
      have hfound := (conn.outcome_queryScalarLong sent s hreply).trans
        (IntegerReader.found?_absent .scalar habsent)
      rw [dao.run_of_plan_ok conn opLong slot s hlong, dao.run_of_plan_ok conn opInt slot s hint,
        Operation.toOption_perform_long, Operation.toOption_perform_int,
        conn.outcome_queryScalarInt, hfound]
      exact ⟨rfl, rfl⟩

end Dao

/-- Whatever a row holds under a name, the optional fields of either width that it populates, its
named columns and the scalars of a reply that begins with the same cell agree on it: nothing is
found in a cell that is missing or NULL, the wide ones find every integer, those that succeed find
the same, and each narrow one succeeds exactly where the wide one finds a number of 32 bits or
nothing. The least and greatest values of a field agree in the same way, whatever the reply. -/
theorem integers_agree {E E' : EntityType} {c : Column E} {c' : Column E'} (hc : c ∈ E.columns)
    (hc' : c' ∈ E'.columns) (ht : c.field.type = .option .long) (ht' : c'.field.type = .option .int)
    {name : String} (hname : c.name = name) (hname' : c'.name = name) (r : E.Rec) (r' : E'.Rec)
    (row : Row) {σ : Type} (conn : Connection σ) {statement : Statement} {s : σ} {rows : List Row}
    (hreply : (conn.query statement s).1 = .ok rows)
    (hcell : rows.head?.bind Row.first? = row.get? name) :
    IntegerReader.Agreement (row.get? name)
      [IntegerReader.outcome Int64.toInt (c.populated ht r row),
        IntegerReader.outcome Int64.toInt (row.nullableLong name),
        IntegerReader.outcome Int64.toInt (conn.queryScalarLong statement s).1]
      [IntegerReader.outcome Int32.toInt (c'.populated ht' r' row),
        IntegerReader.outcome Int32.toInt (row.nullableInt name),
        IntegerReader.outcome Int32.toInt (conn.queryScalarInt statement s).1] ∧
    ∀ (F : EntityType) (dao : Dao F) (slot : Slot F) (t : σ) (field : String)
      (criteria : Criteria),
      dao.AggregatesAgree conn slot t (.minInt field criteria) (.minLong field criteria) ∧
      dao.AggregatesAgree conn slot t (.maxInt field criteria) (.maxLong field criteria) := by
  refine ⟨?_, ?_⟩
  · have hagreement := IntegerReader.agreement_found? (row.get? name) [.field, .column, .scalar]
    subst hname
    have hlong := c.outcome_populated_long hc ht r row
    have hint := c'.outcome_populated_int hc' ht' r' row
    have hscalar := conn.outcome_queryScalarLong statement s hreply
    rw [hname'] at hint
    rw [hcell] at hscalar
    rw [hlong, hint, IntegerReader.outcome_nullableLong, IntegerReader.outcome_nullableInt,
      conn.outcome_queryScalarInt, hscalar]
    exact hagreement
  · intro F dao slot t field criteria
    exact ⟨dao.aggregatesAgree conn slot t rfl, dao.aggregatesAgree conn slot t rfl⟩

namespace Tally
open IntegerReader (outcome)

def tally : EntityType where
  name := "Tally"
  fields := [
    { name := "id", type := .option .string },
    { name := "total", type := .option .long },
    { name := "seen", type := .option .int, column? := some "total" }]
  identifier r := r ⟨0, by decide⟩

def total : Column tally := ⟨⟨1, by decide⟩, "total", .long⟩

def seen : Column tally := ⟨⟨2, by decide⟩, "total", .integer⟩

def large : Row :=
  ⟨[("tally_id", .text "T1"), ("TOTAL", .long 3000000000)]⟩

def reporting : Connection Unit where
  execute _ s := (.ok 0, s)
  query _ s := (.ok [⟨[("total", .long 3000000000)]⟩], s)

theorem integers_agree_large :
    outcome Int64.toInt (total.populated rfl tally.initial large) = some (some 3000000000) ∧
    outcome Int64.toInt (large.nullableLong "total") = some (some 3000000000) ∧
    (∀ n, outcome Int32.toInt (seen.populated rfl tally.initial large) ≠ some n) ∧
    (Dao.mk none).AggregatesAgree reporting {} () (.minInt (E := tally) "total" {})
      (.minLong "total" {}) := by
  have htotal : total ∈ tally.columns := by decide
  have hseen : seen ∈ tally.columns := by decide
  have hreply : (reporting.query (.raw "SELECT 1") ()).1
      = .ok [⟨[("total", .long 3000000000)]⟩] := rfl
  obtain ⟨hagree, haggregates⟩ := integers_agree htotal hseen rfl rfl rfl rfl tally.initial
    tally.initial large reporting hreply rfl
  have hcell : large.get? "total" = some (.long 3000000000) := by decide
  have hwide := hagree.long 3000000000 hcell
  have htoo : ¬IsInt32 (3000000000 : Int64).toInt := by decide
  refine ⟨hwide _ List.mem_cons_self, hwide _ (List.mem_cons_of_mem _ List.mem_cons_self), ?_, ?_⟩
  · intro n hn
    rcases hagree.narrow with _ | ⟨hfield, -⟩
    obtain ⟨hfound, hfits⟩ := (hfield n).1 hn
    have hn := (hwide _ List.mem_cons_self).symm.trans hfound
    exact htoo (hfits _ (Option.some.inj hn).symm)
  · exact (haggregates tally (Dao.mk none) {} () "total" {}).1

end Tally
end DataMapper
