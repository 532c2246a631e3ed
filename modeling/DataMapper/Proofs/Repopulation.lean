import DataMapper.Proofs.RoundTrip

/-! # Records populated again and again

Populating settles every mapped field, by its value or by the zero value of its
type, and touches no other field. So nothing of an earlier row survives a later
one, and of several rows only the last counts.
-/
namespace DataMapper.EntityType
variable {E : EntityType}

/-- Populates one record with each row in turn; the diagnostics are those of the last row. -/
def populateEach (E : EntityType) (p : Populated E) (rows : List Row) : Populated E :=
  rows.foldl (fun p row => E.populate p.record row) p

/-- Records that agree on the unmapped fields are populated alike. -/
theorem populate_congr (row : Row) {r r' : E.Rec} (h : ∀ i, E.column? i = none → r i = r' i) :
    E.populate r row = E.populate r' row := by
  have hrecord : (E.populate r row).record = (E.populate r' row).record := by
    funext i
    cases hi : E.column? i with
    | none =>
      have hne := column?_eq_none_iff.1 hi
      rw [record_populate_unmapped row r hne, record_populate_unmapped row r' hne]
      exact h i hi
    | some c =>
      obtain rfl := index_of_column? hi
      have hc : c ∈ E.columns := mem_columns_iff.2 hi
      rw [record_populate_column row r hc, record_populate_column row r' hc]
  have hdiagnostics : (E.populate r row).diagnostics = (E.populate r' row).diagnostics := by
    rw [diagnostics_populate, diagnostics_populate]
  calc E.populate r row
      = ⟨(E.populate r row).record, (E.populate r row).diagnostics⟩ := rfl
    _ = ⟨(E.populate r' row).record, (E.populate r' row).diagnostics⟩ := by
      rw [hrecord, hdiagnostics]
    _ = E.populate r' row := rfl

theorem record_populateEach_unmapped (p : Populated E) (rows : List Row) {i : E.Index}
    (hi : E.column? i = none) : (E.populateEach p rows).record i = p.record i := by
  induction rows generalizing p with
  | nil => rfl
  | cons row rows ih =>
    have hrest := ih (E.populate p.record row)
    have hfirst := record_populate_unmapped row p.record (column?_eq_none_iff.1 hi)
    exact hrest.trans hfirst

theorem populateEach_concat (p : Populated E) (rows : List Row) (row : Row) :
    E.populateEach p (rows ++ [row]) = E.populate p.record row := by
  have hlast : E.populateEach p (rows ++ [row])
      = E.populate (E.populateEach p rows).record row := by
    unfold populateEach
    rw [List.foldl_append]
    rfl
  rw [hlast]
  apply populate_congr
  intro i hi
  exact record_populateEach_unmapped p rows hi

/-- Populating overwrites exactly the mapped fields, each from its own column alone, and names the
columns that could not be decoded, in order. Of several rows only the last counts, and a new record
populated with a row is the record built from the row. -/
theorem populate_overwrites (E : EntityType) (r : E.Rec) (row : Row) :
    (∀ c ∈ E.columns, (E.populate r row).record c.index = c.value row) ∧
    (∀ i, E.column? i = none → (E.populate r row).record i = r i) ∧
    (E.populate r row).diagnostics = E.columns.filterMap (·.diagnostic? row) ∧
    (∀ rows problems, E.populateEach ⟨r, problems⟩ (rows ++ [row]) = E.populate r row) ∧
    E.populate E.initial row = E.ofRow row := by
  refine ⟨?_, ?_, diagnostics_populate row r, ?_, rfl⟩
  · intro c hc
    exact record_populate_column row r hc
  · intro i hi
    exact record_populate_unmapped row r (column?_eq_none_iff.1 hi)
  · intro rows problems
    exact populateEach_concat ⟨r, problems⟩ rows row

end DataMapper.EntityType

namespace DataMapper.Gauge

def reopened : Row :=
  ⟨[("gauge_id", .text "G2"), ("level", .int 7), ("open", .bool true), ("closed", .long 60)]⟩

def garbled : Row :=
  ⟨[("LEVEL", .text "low"), ("open", .long 1)]⟩

theorem populate_overwrites_garbled :
    (gauge.populateEach ⟨closed, []⟩ [reopened, garbled]).record ⟨1, by decide⟩ = (0 : Int32) ∧
    (gauge.populateEach ⟨closed, []⟩ [reopened, garbled]).record ⟨4, by decide⟩ = "by hand" ∧
    (gauge.populateEach ⟨closed, []⟩ [reopened, garbled]).diagnostics
      = [⟨"Gauge", "level", .wrongType "integer" "text"⟩] := by
  obtain ⟨hmapped, hunmapped, hproblems, hlast, -⟩ :=
    EntityType.populate_overwrites gauge closed garbled
  have hrows : gauge.populateEach ⟨closed, []⟩ [reopened, garbled]
      = gauge.populate closed garbled := hlast [reopened] []
  rw [hrows]
  refine ⟨?_, ?_, ?_⟩
  · exact hmapped ⟨⟨1, by decide⟩, "level", .integer⟩ (by decide)
  · exact hunmapped ⟨4, by decide⟩ (by decide)
  · rw [hproblems]
    decide

end DataMapper.Gauge
