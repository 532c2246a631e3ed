import DataMapper.Descriptor
import DataMapper.Entity.Population

/-! # What populating leaves in each field

A mapped field ends with the value of its own column, whatever the record held
before; every other field is untouched. The columns of an entity type belong to
distinct fields, so no later column overwrites an earlier one.
-/
namespace DataMapper

namespace Column
variable {E : EntityType} (c : Column E) (row : Row)

/-- The value decoded from a row, or the zero value of the field's type. -/
def value : c.field.type.Carrier :=
  match c.decode (c.cell row) with
  | .ok v => v
  | .error _ => c.field.type.zero

def diagnostic? : Option Diagnostic :=
  match c.decode (c.cell row) with
  | .ok _ => none
  | .error problem => some ⟨E.name, c.name, problem⟩

variable {c row}

theorem value_of_decode {v : c.field.type.Carrier} (h : c.decode (c.cell row) = .ok v) :
    c.value row = v := by
  simp [value, h]

theorem diagnostic?_of_decode {v : c.field.type.Carrier} (h : c.decode (c.cell row) = .ok v) :
    c.diagnostic? row = none := by
  simp [diagnostic?, h]

theorem value_of_decode_error {problem : Problem} (h : c.decode (c.cell row) = .error problem) :
    c.value row = c.field.type.zero := by
  simp [value, h]

theorem diagnostic?_of_decode_error {problem : Problem}
    (h : c.decode (c.cell row) = .error problem) :
    c.diagnostic? row = some ⟨E.name, c.name, problem⟩ := by
  simp [diagnostic?, h]

end Column

/-- Taking a column over sets its own field, and adds at most the problem of this column. -/
theorem Populated.take_eq {E : EntityType} (row : Row) (p : Populated E) (c : Column E) :
    p.take row c = ⟨p.record.set c.index (c.value row),
      p.diagnostics ++ (c.diagnostic? row).toList⟩ := by
  unfold take Column.write Column.value Column.diagnostic?
  cases c.decode (c.cell row) with
  | ok v => simp [pure, bind, Except.pure, Except.bind]
  | error problem => rfl

namespace EntityType
variable {E : EntityType} (row : Row)

theorem diagnostics_foldl_take (cs : List (Column E)) (p : Populated E) :
    (cs.foldl (Populated.take row) p).diagnostics
      = p.diagnostics ++ cs.filterMap (·.diagnostic? row) := by
  induction cs generalizing p with
  | nil => simp
  | cons c cs ih =>
    rw [List.foldl_cons, ih, Populated.take_eq, List.append_assoc]
    cases h : c.diagnostic? row <;> simp [h]

theorem record_foldl_take_of_forall_ne (cs : List (Column E)) (p : Populated E) {i : E.Index}
    (h : ∀ c ∈ cs, c.index ≠ i) : (cs.foldl (Populated.take row) p).record i = p.record i := by
  induction cs generalizing p with
  | nil => rfl
  | cons c cs ih =>
    have hc : i ≠ c.index := (h c List.mem_cons_self).symm
    have hrest := ih (p.take row c) fun c' hc' => h c' (List.mem_cons_of_mem c hc')
    rw [List.foldl_cons, hrest, Populated.take_eq]
    exact Record.set_of_ne p.record hc _

theorem record_foldl_take_of_mem {cs : List (Column E)} (p : Populated E)
    (hcs : cs.Pairwise fun a b => a.index < b.index) {c : Column E} (hc : c ∈ cs) :
    (cs.foldl (Populated.take row) p).record c.index = c.value row := by
  induction cs generalizing p with
  | nil => simp at hc
  | cons a cs ih =>
    obtain ⟨ha, hrest⟩ := List.pairwise_cons.1 hcs
    rcases List.mem_cons.1 hc with rfl | hc
    · -- nothing after the column itself writes to its field
      have hne : ∀ b ∈ cs, b.index ≠ c.index := by
        intro b hb h
        exact Fin.ne_of_lt (ha b hb) h.symm
      rw [List.foldl_cons, record_foldl_take_of_forall_ne row cs _ hne, Populated.take_eq]
      exact Record.set_same p.record c.index _
    · exact ih _ hrest hc

variable (r : E.Rec)

theorem record_populate_column {c : Column E} (hc : c ∈ E.columns) :
    (E.populate r row).record c.index = c.value row :=
  record_foldl_take_of_mem row _ E.columns_pairwise_lt hc

theorem record_populate_unmapped {i : E.Index} (h : ∀ c ∈ E.columns, c.index ≠ i) :
    (E.populate r row).record i = r i :=
  record_foldl_take_of_forall_ne row E.columns _ h

theorem diagnostics_populate :
    (E.populate r row).diagnostics = E.columns.filterMap (·.diagnostic? row) := by
  unfold populate
  rw [diagnostics_foldl_take]
  rfl

variable {row r}

theorem mem_columns_iff {c : Column E} : c ∈ E.columns ↔ E.column? c.index = some c := by
  constructor
  · intro h
    obtain ⟨i, -, hi⟩ := List.mem_filterMap.1 h
    rwa [index_of_column? hi]
  · intro h
    exact List.mem_filterMap.2 ⟨c.index, List.mem_finRange _, h⟩

theorem column?_eq_none_iff {i : E.Index} : E.column? i = none ↔ ∀ c ∈ E.columns, c.index ≠ i := by
  constructor
  · intro h c hc hi
    rw [mem_columns_iff, hi, h] at hc
    cases hc
  · intro h
    cases hi : E.column? i with
    | none => rfl
    | some c =>
      have hc : c ∈ E.columns := List.mem_filterMap.2 ⟨i, List.mem_finRange _, hi⟩
      exact absurd (index_of_column? hi) (h c hc)

/-- Rows that give every column the same value populate a record alike. -/
theorem record_populate_congr {row row' : Row} (r : E.Rec)
    (h : ∀ c ∈ E.columns, c.value row = c.value row') :
    (E.populate r row).record = (E.populate r row').record := by
  funext i
  cases hi : E.column? i with
  | none =>
    have hne := column?_eq_none_iff.1 hi
    rw [record_populate_unmapped row r hne, record_populate_unmapped row' r hne]
  | some c =>
    obtain rfl := index_of_column? hi
    have hc : c ∈ E.columns := mem_columns_iff.2 hi
    rw [record_populate_column row r hc, record_populate_column row' r hc, h c hc]

theorem mem_columns_iff_role {c : Column E} :
    c ∈ E.columns ↔
      c.field.role = .mapped c.kind ∧ c.name = c.field.columnName E.name c.kind := by
  rw [mem_columns_iff]
  constructor
  · intro h
    unfold column? at h
    split at h
    · next kind hrole =>
      have hkind : kind = c.kind := congrArg Column.kind (Option.some.inj h)
      have hname : c.field.columnName E.name kind = c.name :=
        congrArg Column.name (Option.some.inj h)
      rw [← hkind]
      exact ⟨hrole, hname.symm⟩
    · cases h
  · rintro ⟨hrole, hname⟩
    have hrole' : (E.fields.get c.index).role = .mapped c.kind := hrole
    unfold column?
    rw [hrole']
    exact congrArg (fun name => some (Column.mk c.index name c.kind)) hname.symm

theorem kind_of_mem_columns {c : Column E} (hc : c ∈ E.columns) :
    c.field.type.capabilities.kind = .ok c.kind :=
  Field.kind_of_role (mem_columns_iff_role.1 hc).1

end EntityType
end DataMapper
