import DataMapper.Proofs.Repopulation
import DataMapper.Proofs.StoredRecord

/-! # Rows as maps from names

A row is read by the names of the columns, whatever the case of their letters.
So neither the order of its cells nor cells that no column reads make a
difference, and a name that occurs again is never reached.
-/
namespace DataMapper

namespace Row

def names (row : Row) : List String :=
  row.cells.map (·.1)

theorem get?_eq_some_of_split {row : Row} {before after : List (String × SqlValue)}
    {name column : String} {v : SqlValue} (hcells : row.cells = before ++ (name, v) :: after)
    (hname : sameName name column = true)
    (hbefore : ∀ cell ∈ before, sameName cell.1 column = false) : row.get? column = some v := by
  have hskip : before.find? (fun cell => sameName cell.1 column) = none := by
    rw [List.find?_eq_none]
    intro cell hcell
    rw [hbefore cell hcell]
    exact Bool.false_ne_true
  simp [get?, hcells, List.find?_append, hskip, hname]

/-- Where no name occurs twice, a column finds each cell that has its name. -/
theorem get?_eq_some_iff {row : Row} (names : DistinctNames row.names) {column : String}
    {v : SqlValue} :
    row.get? column = some v ↔ ∃ name, (name, v) ∈ row.cells ∧ sameName name column = true := by
  unfold get?
  rw [Option.map_eq_some_iff]
  constructor
  · rintro ⟨⟨name, w⟩, hfind, rfl⟩
    have hname := List.find?_some hfind
    exact ⟨name, List.mem_of_find?_eq_some hfind, hname⟩
  · rintro ⟨name, hmem, hname⟩
    cases hfind : row.cells.find? (fun cell => sameName cell.1 column) with
    | none => exact absurd hname (List.find?_eq_none.1 hfind _ hmem)
    | some cell =>
      have hcell := List.find?_some hfind
      rw [sameName_comm] at hname
      have heq := names.eq_of_sameName (List.mem_of_find?_eq_some hfind) hmem
        (sameName_trans hcell hname)
      exact ⟨cell, rfl, congrArg Prod.snd heq⟩

/-- Cells under names that occur already are not found. -/
theorem get?_append {row : Row} {cells : List (String × SqlValue)}
    (h : ∀ cell ∈ cells, ∃ known ∈ row.cells, sameName cell.1 known.1 = true) (column : String) :
    (Row.mk (row.cells ++ cells)).get? column = row.get? column := by
  unfold get?
  rw [List.find?_append]
  cases hfind : row.cells.find? (fun cell => sameName cell.1 column) with
  | some cell => rfl
  | none =>
    have hnone : cells.find? (fun cell => sameName cell.1 column) = none := by
      rw [List.find?_eq_none]
      intro cell hcell hname
      obtain ⟨known, hknown, hsame⟩ := h cell hcell
      rw [sameName_comm] at hsame
      exact List.find?_eq_none.1 hfind known hknown (sameName_trans hsame hname)
    rw [hnone]
    rfl

end Row

namespace EntityType
variable {E : EntityType} {row row' : Row}

/-- A row counts by what the columns find in it. -/
theorem populate_congr_row (r : E.Rec) (h : ∀ c ∈ E.columns, c.cell row = c.cell row') :
    E.populate r row = E.populate r row' := by
  unfold populate
  refine List.foldl_ext _ _ _ fun p c hc => ?_
  unfold Populated.take
  rw [h c hc]

end EntityType

namespace Descriptor
variable {E : EntityType} {d : Descriptor E} {row row' : Row}

/-- The cells of a row that columns read, with the ASCII letters of their names in lower case. -/
def mappedCells (d : Descriptor E) (row : Row) : List (List Char × SqlValue) :=
  (row.cells.filter fun cell => d.columnNames.any (sameName cell.1)).map fun cell =>
    (cell.1.toList.map Char.toLower, cell.2)

theorem mem_mappedCells_iff {column : String} (hcolumn : column ∈ d.columnNames) {v : SqlValue} :
    (column.toList.map Char.toLower, v) ∈ d.mappedCells row ↔
      ∃ name, (name, v) ∈ row.cells ∧ sameName name column = true := by
  unfold mappedCells
  rw [List.mem_map]
  constructor
  · rintro ⟨⟨name, w⟩, hcell, heq⟩
    obtain ⟨hname, rfl⟩ := Prod.mk.inj heq
    exact ⟨name, (List.mem_filter.1 hcell).1, sameName_iff.2 hname⟩
  · rintro ⟨name, hcell, hname⟩
    refine ⟨(name, v), List.mem_filter.2 ⟨hcell, ?_⟩, ?_⟩
    · exact List.any_eq_true.2 ⟨column, hcolumn, hname⟩
    · rw [sameName_iff.1 hname]

theorem cell_eq_of_perm (names : DistinctNames row.names) (names' : DistinctNames row'.names)
    (h : (d.mappedCells row).Perm (d.mappedCells row')) {c : Column E} (hc : c ∈ d.columns) :
    c.cell row = c.cell row' := by
  have hcolumn : c.name ∈ d.columnNames := List.mem_map_of_mem hc
  have hget : row.get? c.name = row'.get? c.name := by
    ext v
    rw [Row.get?_eq_some_iff names, Row.get?_eq_some_iff names', ← mem_mappedCells_iff hcolumn,
      ← mem_mappedCells_iff hcolumn, h.mem_iff]
  rw [Column.cell, Column.cell, hget]

/-- Two rows that hold the same values for the columns, in any order, under names in any case and
among any other cells, build and populate alike. Of the cells under one name the first decides:
its value is the one that the column decodes, for the field and for the problem met. So cells under
names that a row has already can be appended without effect. -/
theorem populate_by_name (d : Descriptor E) :
    (∀ row row' : Row, DistinctNames row.names → DistinctNames row'.names →
      (d.mappedCells row).Perm (d.mappedCells row') →
      E.ofRow row = E.ofRow row' ∧ ∀ r, E.populate r row = E.populate r row') ∧
    (∀ c ∈ d.columns, ∀ (row : Row) before name v after,
      row.cells = before ++ (name, v) :: after → sameName name c.name = true →
      (∀ cell ∈ before, sameName cell.1 c.name = false) →
      (∀ a, c.decode v = .ok a →
        c.diagnostic? row = none ∧ ∀ r, (E.populate r row).record c.index = a) ∧
      (∀ problem, c.decode v = .error problem →
        c.diagnostic? row = some ⟨E.name, c.name, problem⟩ ∧
        ∀ r, (E.populate r row).record c.index = c.field.type.zero)) ∧
    (∀ (row : Row) r, (E.populate r row).diagnostics = d.columns.filterMap (·.diagnostic? row)) ∧
    (∀ (row : Row) (cells : List (String × SqlValue)),
      (∀ cell ∈ cells, ∃ known ∈ row.cells, sameName cell.1 known.1 = true) →
      E.ofRow ⟨row.cells ++ cells⟩ = E.ofRow row ∧
      ∀ r, E.populate r ⟨row.cells ++ cells⟩ = E.populate r row) := by
  refine ⟨?_, ?_, fun row r => EntityType.diagnostics_populate row r, ?_⟩
  · intro row row' names names' h
    have hcells : ∀ c ∈ E.columns, c.cell row = c.cell row' := fun c hc =>
      cell_eq_of_perm names names' h hc
    exact ⟨EntityType.populate_congr_row E.initial hcells,
      fun r => EntityType.populate_congr_row r hcells⟩
  · intro c hc row before name v after hcells hname hbefore
    obtain rfl : c.cell row = v := by
      rw [Column.cell, Row.get?_eq_some_of_split hcells hname hbefore, Option.getD_some]
    constructor
    · intro a ha
      refine ⟨Column.diagnostic?_of_decode ha, fun r => ?_⟩
      rw [EntityType.record_populate_column _ r hc, Column.value_of_decode ha]
    · intro problem hproblem
      refine ⟨Column.diagnostic?_of_decode_error hproblem, fun r => ?_⟩
      rw [EntityType.record_populate_column _ r hc, Column.value_of_decode_error hproblem]
  · intro row cells h
    have hcells : ∀ c ∈ E.columns, c.cell ⟨row.cells ++ cells⟩ = c.cell row := by
      intro c _
      rw [Column.cell, Row.get?_append h]
      rfl
    exact ⟨EntityType.populate_congr_row E.initial hcells,
      fun r => EntityType.populate_congr_row r hcells⟩

end Descriptor

namespace Gauge

def shuffled : Row :=
  ⟨[("CLOSED", .long 60), ("remark", .text "late"), ("Open", .bool true), ("level", .int 7),
    ("GAUGE_ID", .text "G2")]⟩

theorem populate_by_name_shuffled :
    gauge.ofRow reopened = gauge.ofRow shuffled ∧
    (gauge.populate closed shuffled).record ⟨1, by decide⟩ = (7 : Int32) ∧
    gauge.populate closed ⟨reopened.cells ++ [("LEVEL", .int 9)]⟩
      = gauge.populate closed reopened := by
  obtain ⟨hrows, hfirst, -, happended⟩ := Descriptor.populate_by_name descriptor
  have names : DistinctNames reopened.names := by
    unfold DistinctNames
    decide
  have names' : DistinctNames shuffled.names := by
    unfold DistinctNames
    decide
  refine ⟨(hrows reopened shuffled names names' (by decide)).1, ?_, ?_⟩
  · have hlevel := hfirst ⟨⟨1, by decide⟩, "level", .integer⟩ (by decide) shuffled
      (shuffled.cells.take 3) "level" (.int 7) (shuffled.cells.drop 4) rfl (by decide) (by decide)
    exact (hlevel.1 (7 : Int32) rfl).2 closed
  · exact (happended reopened [("LEVEL", .int 9)] (by decide)).2 closed

end Gauge
end DataMapper
