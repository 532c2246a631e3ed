import DataMapper.Proofs.Naming
import DataMapper.Proofs.StoredRecord

/-! # Columns of their own

Every mapped field has one column, under its explicit or derived name, and one
column is that of the identifier. The names are not compared with each other,
so a descriptor is also built where two fields clash: they share a cell of every
row, and an update assigns the identifier column if one of them identifies the
entity. Where no fields clash, each is read from a cell of its own.
-/
namespace DataMapper

namespace Row

def place? (row : Row) (name : String) : Option Nat :=
  row.cells.findIdx? fun cell => sameName cell.1 name

theorem get?_eq_place? (row : Row) (name : String) :
    row.get? name = (row.place? name).bind fun i => row.cells[i]?.map Prod.snd := by
  rw [get?, place?, List.find?_eq_bind_findIdx?_getElem?, Option.map_bind]
  rfl

/-- Two names have a cell in common exactly if they are the same. -/
theorem exists_place?_iff {a b : String} :
    (∃ (row : Row) (i : Nat), row.place? a = some i ∧ row.place? b = some i) ↔
      sameName a b = true := by
  constructor
  · rintro ⟨row, i, ha, hb⟩
    obtain ⟨hi, hcell, -⟩ := List.findIdx?_eq_some_iff_getElem.1 ha
    obtain ⟨hi', hcell', -⟩ := List.findIdx?_eq_some_iff_getElem.1 hb
    rw [sameName_comm] at hcell
    exact sameName_trans hcell hcell'
  · intro h
    exact ⟨⟨[(a, .null)]⟩, 0, by simp [place?], by simp [place?, h]⟩

theorem place?_congr (row : Row) {a b : String} (h : sameName a b = true) :
    row.place? a = row.place? b := by
  have hcells : (fun cell : String × SqlValue => sameName cell.1 a)
      = fun cell => sameName cell.1 b := by
    funext cell
    exact sameName_congr_right h cell.1
  rw [place?, place?, hcells]

end Row

def Column.Clashes {E : EntityType} (a b : Column E) : Prop :=
  a.field.Clash E.name a.kind b.field b.kind ∨ b.field.Clash E.name b.kind a.field a.kind

namespace Descriptor
variable {E : EntityType} {d : Descriptor E}

/-- Whatever values are wanted for the columns, some row has them in their cells. -/
def Independent (d : Descriptor E) : Prop :=
  ∀ value : Column E → SqlValue, ∃ row, ∀ c ∈ d.columns, c.cell row = value c

theorem independent_iff : d.Independent ↔ DistinctNames d.columnNames := by
  constructor
  · intro h
    refine List.pairwise_map.2 ?_
    refine E.columns_pairwise_lt.imp_of_mem ?_
    intro a b ha hb hlt
    cases hsame : sameName a.name b.name with
    | false => rfl
    | true =>
      -- a row cannot have a value for one of the two columns and NULL for the other
      obtain ⟨row, hrow⟩ := h fun c => if c = a then .bool true else .null
      have hne : b ≠ a := by
        rintro rfl
        exact absurd hlt (Nat.lt_irrefl _)
      have hcell : a.cell row = b.cell row := by
        unfold Column.cell
        rw [Row.get?_eq_place?, Row.get?_eq_place?, row.place?_congr hsame]
      rw [hrow a ha, hrow b hb] at hcell
      simp [hne] at hcell
  · intro names value
    refine ⟨d.rowOf (d.columns.map value), ?_⟩
    intro c hc
    have hget : (d.rowOf (d.columns.map value)).get? c.name = some (value c) :=
      Row.get?_zip_map value names hc
    rw [Column.cell, hget]
    rfl

/-- The names differ whatever the case of their letters: that of the identifier column is no
other's, no column is listed twice, and no two fields are read from one cell of a row. -/
structure OwnNames (d : Descriptor E) : Prop where
  distinct : DistinctNames d.columnNames
  idColumn : (d.columns.filter fun c => sameName c.name d.idColumn.name) = [d.idColumn]
  updateColumns : ∀ name ∈ d.updateColumns, sameName name d.idColumn.name = false
  columnNames : d.columnNames.Nodup
  place : d.columns.Pairwise fun a b =>
    ∀ (row : Row) i, row.place? a.name = some i → row.place? b.name ≠ some i

theorem ownNames_iff : d.OwnNames ↔ DistinctNames d.columnNames := by
  constructor
  · exact OwnNames.distinct
  · intro names
    refine ⟨names, ?_, ?_, ?_, ?_⟩
    · rw [← d.filter_isId]
      refine List.filter_congr ?_
      intro c hc
      exact sameName_idColumn names hc
    · intro name hname
      obtain ⟨c, hc, rfl⟩ := List.mem_map.1 hname
      obtain ⟨hmem, hid⟩ := mem_dataColumns_iff.1 hc
      rw [sameName_idColumn names hmem, hid]
    · refine names.imp ?_
      rintro a b hab rfl
      rw [sameName_self] at hab
      cases hab
    · refine (List.pairwise_map.1 names).imp ?_
      intro a b hab row i ha hb
      rw [Row.exists_place?_iff.1 ⟨row, i, ha, hb⟩] at hab
      cases hab

theorem sameName_iff_clashes {a b : Column E} (ha : a ∈ d.columns) (hb : b ∈ d.columns)
    (hne : a ≠ b) : sameName a.name b.name = true ↔ a.Clashes b := by
  have hid : ¬ (a.field.isId = true ∧ b.field.isId = true) := by
    rintro ⟨haid, hbid⟩
    exact hne ((eq_idColumn_of_isId ha haid).trans (eq_idColumn_of_isId hb hbid).symm)
  rw [(EntityType.mem_columns_iff_role.1 ha).2, (EntityType.mem_columns_iff_role.1 hb).2]
  exact Field.sameName_columnName_iff hid

def ClashFree (d : Descriptor E) : Prop :=
  ∀ a ∈ d.columns, ∀ b ∈ d.columns, a ≠ b → ¬ a.Clashes b

theorem distinctNames_iff_clashFree : DistinctNames d.columnNames ↔ d.ClashFree := by
  constructor
  · intro names a ha b hb hne hclash
    exact hne (names.eq_of_sameName ha hb ((sameName_iff_clashes ha hb hne).2 hclash))
  · intro h
    refine List.pairwise_map.2 (E.columns_pairwise_lt.imp_of_mem ?_)
    intro a b ha hb hlt
    have hne : a ≠ b := by
      rintro rfl
      exact absurd hlt (Nat.lt_irrefl _)
    exact Bool.eq_false_iff.2 fun hsame =>
      h a ha b hb hne ((sameName_iff_clashes (d := d) ha hb hne).1 hsame)

theorem exists_updateColumns_iff :
    (∃ name ∈ d.updateColumns, sameName name d.idColumn.name = true) ↔
      ∃ c ∈ d.dataColumns, c.Clashes d.idColumn := by
  obtain ⟨hmem, hid⟩ := d.idColumn_mem
  have hiff : ∀ c ∈ d.dataColumns,
      sameName c.name d.idColumn.name = true ↔ c.Clashes d.idColumn := by
    intro c hc
    obtain ⟨hcolumn, hother⟩ := mem_dataColumns_iff.1 hc
    refine sameName_iff_clashes hcolumn hmem ?_
    rintro rfl
    rw [hid] at hother
    cases hother
  constructor
  · rintro ⟨name, hname, hsame⟩
    obtain ⟨c, hc, rfl⟩ := List.mem_map.1 hname
    exact ⟨c, hc, (hiff c hc).1 hsame⟩
  · rintro ⟨c, hc, hclash⟩
    exact ⟨c.name, List.mem_map_of_mem hc, (hiff c hc).2 hclash⟩

/-- The columns are the mapped fields in declared order, each under its explicit or derived name,
and one of them is the identifier's. Two of them share their name and a cell of some row exactly if
their fields clash, and an update assigns a column of the identifier's name exactly if a field
clashes with that of the identifier. So the names differ, with all that follows, exactly if no
fields clash, and exactly then any values can stand in the columns. -/
theorem columns_own_iff (d : Descriptor E) :
    (∀ c : Column E, c ∈ d.columns ↔
      c.field.role = .mapped c.kind ∧ c.name = c.field.columnName E.name c.kind) ∧
    (d.columns.Pairwise fun a b => a.index < b.index) ∧
    d.columns.filter Column.isId = [d.idColumn] ∧
    (∀ a ∈ d.columns, ∀ b ∈ d.columns, a ≠ b →
      (sameName a.name b.name = true ↔ a.Clashes b) ∧
      ((∃ (row : Row) (i : Nat), row.place? a.name = some i ∧ row.place? b.name = some i) ↔
        a.Clashes b)) ∧
    ((∃ name ∈ d.updateColumns, sameName name d.idColumn.name = true) ↔
      ∃ c ∈ d.dataColumns, c.Clashes d.idColumn) ∧
    (d.OwnNames ↔ d.ClashFree) ∧
    (d.Independent ↔ d.ClashFree) := by
  refine ⟨fun _ => EntityType.mem_columns_iff_role, E.columns_pairwise_lt, d.filter_isId, ?_,
    exists_updateColumns_iff, ownNames_iff.trans distinctNames_iff_clashFree,
    independent_iff.trans distinctNames_iff_clashFree⟩
  intro a ha b hb hne
  have hiff := sameName_iff_clashes ha hb hne
  exact ⟨hiff, Row.exists_place?_iff.trans hiff⟩

end Descriptor

namespace Gauge

theorem columns_own_gauge :
    descriptor.ClashFree ∧ descriptor.OwnNames ∧ descriptor.Independent := by
  obtain ⟨-, -, -, hclash, -, hown, hindependent⟩ := Descriptor.columns_own_iff descriptor
  have hfree : descriptor.ClashFree := by
    intro a ha b hb hne h
    exact hne (distinctNames.eq_of_sameName ha hb ((hclash a ha b hb hne).1.2 h))
  exact ⟨hfree, hown.2 hfree, hindependent.2 hfree⟩

end Gauge

namespace Widget

def widget : EntityType where
  name := "Widget"
  fields := [
    { name := "id", type := .option .string },
    { name := "widgetId", type := .string }]
  identifier r := r ⟨0, by decide⟩

def descriptor : Descriptor widget where
  table := "widget"
  idColumn := ⟨⟨0, by decide⟩, "widget_id", .string⟩
  filter_isId := by decide

/-- A descriptor is built although two columns have one name, and an update assigns the
identifier column. -/
theorem columns_shared_widget :
    Descriptor.build widget none = .ok descriptor ∧
    descriptor.columnNames = ["widget_id", "widget_id"] ∧
    ¬ DistinctNames descriptor.columnNames ∧
    ∀ r, (descriptor.update r).sql = "UPDATE widget SET widget_id=? WHERE widget_id = ?" := by
  have hnames : descriptor.columnNames = ["widget_id", "widget_id"] := by decide
  refine ⟨rfl, hnames, ?_, fun _ => rfl⟩
  rw [hnames, DistinctNames]
  decide

end Widget
end DataMapper
