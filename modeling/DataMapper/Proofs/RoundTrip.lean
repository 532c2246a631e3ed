import DataMapper.Proofs.Population
import DataMapper.Proofs.Storable
import Mathlib.Data.List.Forall2

/-! # Records read back from their own rows

The row that pairs the columns of a descriptor with the values a record binds
gives the record back: no problem is met, dates lose the part below the second,
and unmapped fields are as in a new record. The values may stand in any of
their database forms.
-/
namespace DataMapper

/-- No two names agree up to the case of ASCII letters. -/
def DistinctNames (names : List String) : Prop :=
  names.Pairwise fun a b => sameName a b = false

/-- In a row of distinct names each name finds the value it was paired with. -/
theorem Row.get?_zip {α : Type} (name : α → String) {rel : α → SqlValue → Prop} {cs : List α}
    {values : List SqlValue} (h : List.Forall₂ rel cs values) (names : DistinctNames (cs.map name))
    {c : α} (hc : c ∈ cs) :
    ∃ v, (Row.mk ((cs.map name).zip values)).get? (name c) = some v ∧ rel c v := by
  induction h with
  | nil => simp at hc
  | @cons a v cs values hav _ ih =>
    obtain ⟨ha, hrest⟩ := List.pairwise_cons.1 names
    rcases List.mem_cons.1 hc with rfl | hc
    · exact ⟨v, by simp [get?], hav⟩
    · have hne : sameName (name a) (name c) = false := ha (name c) (List.mem_map_of_mem hc)
      obtain ⟨w, hw, hcw⟩ := ih hrest hc
      exact ⟨w, by simpa [get?, List.find?_cons, hne] using hw, hcw⟩

/-- What becomes of the value of each field when it is stored and read back. -/
abbrev EntityType.Keeping (E : EntityType) : Type :=
  (i : E.Index) → E.fields[i].type.Carrier → E.fields[i].type.Carrier

namespace Descriptor
variable {E : EntityType}

def StorableAs (d : Descriptor E) (kept : E.Keeping) : Prop :=
  ∀ c ∈ d.columns, Storable E.fields[c.index].type (kept c.index)

def rowOf (d : Descriptor E) (values : List SqlValue) : Row :=
  ⟨d.columnNames.zip values⟩

/-- What a record becomes when it is written and read back: mapped fields are as their types keep
them, and the others as in a new record. -/
def restored (_ : Descriptor E) (kept : E.Keeping) (r : E.Rec) : E.Rec :=
  fun i => if (E.column? i).isSome then kept i (r i) else E.initial i

variable {d : Descriptor E} {kept : E.Keeping}

theorem restored_column (r : E.Rec) {c : Column E} (hc : c ∈ d.columns) :
    d.restored kept r c.index = kept c.index (r c.index) := by
  simp [restored, EntityType.mem_columns_iff.1 hc]

theorem restored_unmapped (r : E.Rec) {i : E.Index} (hi : ∀ c ∈ d.columns, c.index ≠ i) :
    d.restored kept r i = E.initial i := by
  simp [restored, EntityType.column?_eq_none_iff.2 hi]

section Written
variable (names : DistinctNames d.columnNames) (storable : d.StorableAs kept)
  {r : E.Rec} {values : List SqlValue}
  (hv : List.Forall₂ SqlValue.DatabaseForm (d.insertValues r) values)
include names storable hv

theorem decode_rowOf {c : Column E} (hc : c ∈ d.columns) :
    c.decode (c.cell (d.rowOf values)) = .ok (kept c.index (r c.index)) := by
  have hpaired : List.Forall₂ (fun c v => (Column.read c r).DatabaseForm v) d.columns values :=
    List.forall₂_map_left_iff.1 hv
  obtain ⟨v, hget, hform⟩ := Row.get?_zip Column.name hpaired names hc
  have hcell : c.cell (d.rowOf values) = v := by
    unfold Column.cell
    rw [show (d.rowOf values).get? c.name = some v from hget]
    rfl
  rw [hcell]
  exact (storable c hc).decode_bind (EntityType.kind_of_mem_columns hc) hform

theorem diagnostics_ofRow_rowOf : (E.ofRow (d.rowOf values)).diagnostics = [] := by
  rw [EntityType.ofRow, EntityType.diagnostics_populate, List.filterMap_eq_nil_iff]
  intro c hc
  exact Column.diagnostic?_of_decode (decode_rowOf names storable hv hc)

theorem record_ofRow_rowOf : (E.ofRow (d.rowOf values)).record = d.restored kept r := by
  funext i
  cases hi : E.column? i with
  | none =>
    have hne := EntityType.column?_eq_none_iff.1 hi
    have hfill : (E.ofRow (d.rowOf values)).record i = E.initial i :=
      EntityType.record_populate_unmapped _ _ hne
    rw [hfill, restored_unmapped r hne]
  | some c =>
    obtain rfl := EntityType.index_of_column? hi
    have hc : c ∈ d.columns := EntityType.mem_columns_iff.2 hi
    have hfill : (E.ofRow (d.rowOf values)).record c.index = c.value (d.rowOf values) :=
      EntityType.record_populate_column _ _ hc
    rw [hfill, restored_column r hc, Column.value_of_decode (decode_rowOf names storable hv hc)]

end Written

theorem read_restored (storable : d.StorableAs kept) (r : E.Rec) {c : Column E}
    (hc : c ∈ d.columns) : c.read (d.restored kept r) = c.read r := by
  unfold Column.read
  rw [restored_column r hc]
  exact (storable c hc).bind_kept (r c.index)

theorem insertValues_restored (storable : d.StorableAs kept) (r : E.Rec) :
    d.insertValues (d.restored kept r) = d.insertValues r := by
  refine List.map_congr_left ?_
  intro c hc
  exact read_restored storable r hc

/-- Reading the row of a record back meets no problem, keeps every mapped field apart from the part
of dates below the second, leaves every other field as in a new record, and binds the same values
again. -/
theorem ofRow_rowOf (d : Descriptor E) (names : DistinctNames d.columnNames)
    (storable : ∀ c ∈ d.columns, Storable E.fields[c.index].type (kept c.index))
    (r : E.Rec) {values : List SqlValue}
    (hv : List.Forall₂ SqlValue.DatabaseForm (d.insertValues r) values) :
    (E.ofRow (d.rowOf values)).diagnostics = [] ∧
    (∀ c ∈ d.columns, (E.ofRow (d.rowOf values)).record c.index = kept c.index (r c.index)) ∧
    (∀ i, (∀ c ∈ d.columns, c.index ≠ i) → (E.ofRow (d.rowOf values)).record i = E.initial i) ∧
    d.insertValues (E.ofRow (d.rowOf values)).record = d.insertValues r := by
  have hrecord := record_ofRow_rowOf names storable hv
  refine ⟨diagnostics_ofRow_rowOf names storable hv, ?_, ?_, ?_⟩
  · intro c hc
    rw [hrecord, restored_column r hc]
  · intro i hi
    rw [hrecord, restored_unmapped r hi]
  · rw [hrecord, insertValues_restored storable r]

end Descriptor

namespace Gauge

def gauge : EntityType where
  name := "Gauge"
  fields := [
    { name := "id", type := .option .string },
    { name := "level", type := .int },
    { name := "open", type := .bool },
    { name := "closed_date", type := .option .date },
    { name := "note", type := .string, exclusion? := some .transient }]
  identifier r := r ⟨0, by decide⟩
  initial
    | ⟨0, _⟩ => none
    | ⟨1, _⟩ => (0 : Int32)
    | ⟨2, _⟩ => false
    | ⟨3, _⟩ => none
    | ⟨4, _⟩ => "new"

def kept : (i : gauge.Index) → gauge.fields[i].type.Carrier → gauge.fields[i].type.Carrier
  | ⟨0, _⟩ => Option.map id
  | ⟨1, _⟩ => id
  | ⟨2, _⟩ => id
  | ⟨3, _⟩ => Option.map Instant.wholeSecond
  | ⟨4, _⟩ => id

theorem storable : (i : gauge.Index) → Storable gauge.fields[i].type (kept i)
  | ⟨0, _⟩ => .option .string
  | ⟨1, _⟩ => .plain .int
  | ⟨2, _⟩ => .plain .bool
  | ⟨3, _⟩ => .option .date
  | ⟨4, _⟩ => .plain .string

def descriptor : Descriptor gauge where
  table := "gauge"
  idColumn := ⟨⟨0, by decide⟩, "gauge_id", .string⟩
  filter_isId := by decide

theorem distinctNames : DistinctNames descriptor.columnNames := by
  unfold DistinctNames
  decide

/-- A gauge that was closed one nanosecond before the start of 1970. -/
def closed : gauge.Rec
  | ⟨0, _⟩ => some "G1"
  | ⟨1, _⟩ => (-3 : Int32)
  | ⟨2, _⟩ => true
  | ⟨3, _⟩ => some ({ seconds := -1, nanos := 999999999 } : Instant)
  | ⟨4, _⟩ => "by hand"

/-- The number comes back wider and the flag as a number. -/
theorem closed_databaseForm :
    List.Forall₂ SqlValue.DatabaseForm (descriptor.insertValues closed)
      [.text "G1", .long (-3), .int 1, .long (-1)] :=
  .cons (.same _) (.cons (.widened _) (.cons (.intFlag true) (.cons (.same _) .nil)))

theorem ofRow_rowOf_closed :
    (gauge.ofRow (descriptor.rowOf [.text "G1", .long (-3), .int 1, .long (-1)])).diagnostics = [] ∧
    (gauge.ofRow (descriptor.rowOf [.text "G1", .long (-3), .int 1, .long (-1)])).record
      ⟨3, by decide⟩ = some ({ seconds := -1 } : Instant) ∧
    (gauge.ofRow (descriptor.rowOf [.text "G1", .long (-3), .int 1, .long (-1)])).record
      ⟨4, by decide⟩ = "new" := by
  obtain ⟨hproblems, hmapped, hunmapped, -⟩ := Descriptor.ofRow_rowOf descriptor distinctNames
    (fun c _ => storable c.index) closed closed_databaseForm
  refine ⟨hproblems, ?_, ?_⟩
  · exact hmapped ⟨⟨3, by decide⟩, "closed", .date⟩ (by decide)
  · exact hunmapped ⟨4, by decide⟩ (by decide)

end Gauge
end DataMapper
