import DataMapper.Descriptor.Change
import DataMapper.Proofs.Identifier
import DataMapper.Proofs.RoundTrip

/-! # Records in a table

The statements of a descriptor are those of a table with the same columns. A
row that such an insertion or update leaves holds the values of the record, and
a reply that shows the row reads back as the record.
-/
namespace DataMapper

section Distinct
variable {α : Type} {name : α → String} {cs : List α}

theorem DistinctNames.eq_of_sameName (names : DistinctNames (cs.map name)) {a b : α} (ha : a ∈ cs)
    (hb : b ∈ cs) (h : sameName (name a) (name b) = true) : a = b := by
  have hne := List.pairwise_map.1 names
  have hforth : cs.Pairwise fun a b => sameName (name a) (name b) = true → a = b := by
    refine hne.imp ?_
    intro a b hab hsame
    rw [hab] at hsame
    cases hsame
  have hback : cs.Pairwise fun a b => sameName (name b) (name a) = true → b = a := by
    refine hne.imp ?_
    intro a b hab hsame
    rw [sameName_comm, hab] at hsame
    cases hsame
  exact hforth.forall_of_forall_of_flip (fun _ _ _ => rfl) hback ha hb h

theorem DistinctNames.filter (names : DistinctNames (cs.map name)) (p : α → Bool) :
    DistinctNames ((cs.filter p).map name) :=
  List.Pairwise.sublist (List.filter_sublist.map name) names

theorem Row.get?_zip_map (value : α → SqlValue) (names : DistinctNames (cs.map name)) {c : α}
    (hc : c ∈ cs) : (Row.mk ((cs.map name).zip (cs.map value))).get? (name c) = some (value c) := by
  have hvalues : List.Forall₂ (fun c v => v = value c) cs (cs.map value) :=
    List.forall₂_map_right_iff.2 (List.forall₂_same.2 fun _ _ => rfl)
  obtain ⟨v, hget, rfl⟩ := Row.get?_zip name hvalues names hc
  exact hget

namespace StoredRow
variable (value : α → SqlValue) (stored : StoredRow)

theorem assign_of_mem (names : DistinctNames (cs.map name)) {c : α} (hc : c ∈ cs) :
    stored.assign (cs.map name) (cs.map value) (name c) = value c := by
  simp only [assign, Row.get?_zip_map value names hc, Option.getD_some]

theorem assign_of_forall_ne (values : List SqlValue) {other : String}
    (h : ∀ c ∈ cs, sameName (name c) other = false) :
    stored.assign (cs.map name) values other = stored other := by
  -- every cell of the assignment has the name of a listed column
  have hnone : (Row.mk ((cs.map name).zip values)).get? other = none := by
    unfold Row.get?
    rw [Option.map_eq_none_iff, List.find?_eq_none]
    intro cell hcell
    obtain ⟨c, hc, hname⟩ := List.mem_map.1 (List.of_mem_zip hcell).1
    rw [← hname, h c hc]
    exact Bool.false_ne_true
  simp only [assign, hnone, Option.getD_none]

end StoredRow
end Distinct

namespace Descriptor
variable {E : EntityType} {d : Descriptor E} {kept : E.Keeping}

def schema (d : Descriptor E) : Schema where
  table := d.table
  columns := d.columnNames
  key := d.idColumn.name

theorem eq_idColumn_of_isId {c : Column E} (hc : c ∈ d.columns) (h : c.isId = true) :
    c = d.idColumn := by
  have hmem : c ∈ E.columns.filter Column.isId := List.mem_filter.2 ⟨hc, h⟩
  rw [d.filter_isId] at hmem
  exact List.mem_singleton.1 hmem

theorem mem_dataColumns_iff {c : Column E} :
    c ∈ d.dataColumns ↔ c ∈ d.columns ∧ c.isId = false := by
  unfold dataColumns
  rw [List.mem_filter, Bool.not_eq_true']
  rfl

section Named
variable (names : DistinctNames d.columnNames)
include names

theorem sameName_idColumn {c : Column E} (hc : c ∈ d.columns) :
    sameName c.name d.idColumn.name = c.isId := by
  obtain ⟨hmem, hid⟩ := d.idColumn_mem
  cases h : c.isId with
  | true => rw [eq_idColumn_of_isId hc h, sameName_self]
  | false =>
    cases hsame : sameName c.name d.idColumn.name with
    | false => rfl
    | true =>
      rw [names.eq_of_sameName hc hmem hsame, hid] at h
      cases h

theorem others_schema : d.schema.others = d.updateColumns := by
  change (d.columns.map Column.name).filter _ = d.dataColumns.map Column.name
  rw [List.filter_map]
  refine congrArg (List.map Column.name) (List.filter_congr ?_)
  intro c hc
  exact congrArg Bool.not (sameName_idColumn names hc)

theorem update_eq (r : E.Rec) : d.update r = ⟨d.schema.updateSql, d.updateValues r⟩ := by
  have hset : ",".intercalate (d.schema.others.map (· ++ "=?")) = d.setClause := by
    rw [others_schema names]
    rfl
  have hsql : (d.update r).sql = d.schema.updateSql := by
    unfold Schema.updateSql
    simp only [update, idMatches, hset, String.append_assoc]
    rfl
  rw [← hsql]
  rfl

end Named

theorem insert_eq (r : E.Rec) : d.insert r false = ⟨d.schema.insertSql, d.insertValues r⟩ := by
  have hvalues : ",".intercalate (d.schema.columns.map fun _ => "?") = d.placeholders := by
    change ",".intercalate ((d.columns.map Column.name).map fun _ => "?") = _
    rw [List.map_map]
    rfl
  have hverb (rest : String) : "INSERT INTO" ++ (" " ++ rest) = "INSERT INTO " ++ rest :=
    String.append_assoc.symm
  have hsql : (d.insert r false).sql = d.schema.insertSql := by
    unfold Schema.insertSql
    simp only [insert, hvalues, Bool.false_eq_true, if_false, String.append_assoc, hverb]
    rfl
  rw [← hsql]
  rfl

theorem length_insertValues (r : E.Rec) :
    (d.insertValues r).length = d.schema.columns.length := by
  simp [insertValues, schema, columnNames]

theorem deleteById_eq (v : SqlValue) : d.deleteById v = ⟨d.schema.deleteSql, [v]⟩ := by
  have hsql : (d.deleteById v).sql = d.schema.deleteSql := by
    unfold Schema.deleteSql
    simp only [deleteById, idMatches, String.append_assoc]
    rfl
  rw [← hsql]
  rfl

theorem selectById_eq (v : SqlValue) : d.selectById v = ⟨d.schema.selectSql, [v]⟩ := by
  have hsql : (d.selectById v).sql = d.schema.selectSql := by
    unfold Schema.selectSql
    simp only [selectById, selectFrom, selectList, idMatches, String.append_assoc]
    rfl
  rw [← hsql]
  rfl

def Stores (d : Descriptor E) (stored : StoredRow) (r : E.Rec) : Prop :=
  ∀ c ∈ d.columns, stored c.name = c.read r

theorem Stores.key {stored : StoredRow} {r : E.Rec} (h : d.Stores stored r) :
    stored d.idColumn.name = d.idColumn.read r :=
  h d.idColumn d.idColumn_mem.1

theorem Stores.map_columns {stored : StoredRow} {r : E.Rec} (h : d.Stores stored r) :
    d.schema.columns.map stored = d.insertValues r := by
  change (d.columns.map Column.name).map stored = d.columns.map (·.read r)
  rw [List.map_map]
  exact List.map_congr_left h

section Named
variable (names : DistinctNames d.columnNames)
include names

theorem stores_inserted (r : E.Rec) : d.Stores (d.schema.inserted (d.insertValues r)) r := by
  intro c hc
  exact StoredRow.assign_of_mem (·.read r) .nulls names hc

theorem inserted_key (r : E.Rec) :
    d.schema.inserted (d.insertValues r) d.schema.key = d.idColumn.read r :=
  (stores_inserted names r).key

theorem assign_others_idColumn (values : List SqlValue) (stored : StoredRow) :
    stored.assign d.schema.others values d.idColumn.name = stored d.idColumn.name := by
  rw [others_schema names]
  refine StoredRow.assign_of_forall_ne stored values ?_
  intro c hc
  obtain ⟨hmem, hid⟩ := mem_dataColumns_iff.1 hc
  rw [sameName_idColumn names hmem, hid]

theorem updated_idColumn (v : SqlValue) (values : List SqlValue) (stored : StoredRow) :
    d.schema.updated v values stored d.idColumn.name = stored d.idColumn.name := by
  unfold Schema.updated
  split
  · exact assign_others_idColumn names values stored
  · rfl

/-- An update of the row of a record's identifier leaves the values of the record. -/
theorem stores_assign_others {stored : StoredRow} {r : E.Rec}
    (hkey : stored d.idColumn.name = d.idColumn.read r) :
    d.Stores (stored.assign d.schema.others (d.dataColumns.map (·.read r))) r := by
  intro c hc
  cases hid : c.isId with
  | true =>
    obtain rfl := eq_idColumn_of_isId hc hid
    rw [assign_others_idColumn names, hkey]
  | false =>
    rw [others_schema names]
    exact StoredRow.assign_of_mem (·.read r) stored (names.filter _)
      (mem_dataColumns_iff.2 ⟨hc, hid⟩)

/-- A reply that shows the row of a record is read as the record. -/
theorem ofRow_of_shows (storable : d.StorableAs kept)
    {stored : StoredRow} {r : E.Rec} {row : Row} (h : d.Stores stored r)
    (hrow : d.schema.Shows stored row) : (E.ofRow row).record = d.restored kept r := by
  obtain ⟨values, hvalues, rfl⟩ := hrow
  rw [h.map_columns] at hvalues
  exact record_ofRow_rowOf names storable hvalues

end Named
end Descriptor
end DataMapper
