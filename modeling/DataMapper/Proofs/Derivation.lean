import DataMapper.Proofs.Placeholder
import DataMapper.Proofs.StoredRecord
import Mathlib.Data.List.FinRange

/-! # Descriptors derived from declared fields

Every declared field is excluded, unmappable or mapped, by its flags and the
capabilities of its type alone. The columns are the mapped fields and the
diagnostics are the unmappable ones, each once and in declared order, and a
descriptor exists for exactly one identifier among the mapped fields. All lists
of a descriptor are of these columns.
-/
namespace DataMapper

namespace Capabilities

def classifiable (c : Capabilities) : Bool :=
  c.text || c.date || c.fromText || c.identifiableEnum || c.integer || c.long || c.boolean

def refusal (c : Capabilities) : Problem :=
  if c.plainEnum then .enumWithoutIds else .unsupportedType

theorem kind_eq_error_iff {c : Capabilities} {problem : Problem} :
    c.kind = .error problem ↔ c.classifiable = false ∧ problem = c.refusal := by
  unfold Capabilities.kind classifiable refusal
  grind

end Capabilities

namespace Field
variable {f : Field}

def isExcluded (f : Field) : Bool :=
  f.exclusion?.isSome || f.type.capabilities.collection

def isUnmappable (f : Field) : Bool :=
  !f.isExcluded && !f.type.capabilities.classifiable

def isMapped (f : Field) : Bool :=
  !f.isExcluded && f.type.capabilities.classifiable

/-- Exactly one of the classes holds of a field, and its role is that of the class. -/
inductive HasClass (f : Field) : Role → Prop
  | excluded (why : Exclusion) (h : f.isExcluded = true) (hu : f.isUnmappable = false)
      (hm : f.isMapped = false) : HasClass f (.excluded why)
  | unmappable (h : f.isExcluded = false) (hu : f.isUnmappable = true)
      (hm : f.isMapped = false) : HasClass f (.unmappable f.type.capabilities.refusal)
  | mapped (kind : ColumnKind) (h : f.isExcluded = false) (hu : f.isUnmappable = false)
      (hm : f.isMapped = true) : HasClass f (.mapped kind)

theorem hasClass_role (f : Field) : f.HasClass f.role := by
  unfold role
  cases hexclusion : f.exclusion? with
  | some why =>
    have h : f.isExcluded = true := by simp [isExcluded, hexclusion]
    exact .excluded why h (by simp [isUnmappable, h]) (by simp [isMapped, h])
  | none =>
    cases hcollection : f.type.capabilities.collection with
    | true =>
      have h : f.isExcluded = true := by simp [isExcluded, hcollection]
      exact .excluded .collection h (by simp [isUnmappable, h]) (by simp [isMapped, h])
    | false =>
      have h : f.isExcluded = false := by simp [isExcluded, hexclusion, hcollection]
      cases hkind : f.type.capabilities.kind with
      | error problem =>
        obtain ⟨hnone, rfl⟩ := Capabilities.kind_eq_error_iff.1 hkind
        exact .unmappable h (by simp [isUnmappable, h, hnone]) (by simp [isMapped, hnone])
      | ok kind =>
        cases hsome : f.type.capabilities.classifiable with
        | true =>
          exact .mapped kind h (by simp [isUnmappable, hsome]) (by simp [isMapped, h, hsome])
        | false =>
          rw [Capabilities.kind_eq_error_iff.2 ⟨hsome, rfl⟩] at hkind
          cases hkind

end Field

namespace EntityType
variable {E : EntityType}

theorem isSome_column? (i : E.Index) : (E.column? i).isSome = (E.fields.get i).isMapped := by
  have hclass := (E.fields.get i).hasClass_role
  unfold column?
  generalize (E.fields.get i).role = role at hclass
  cases hclass with
  | excluded _ _ _ hm => exact hm.symm
  | unmappable _ _ hm => exact hm.symm
  | mapped _ _ _ hm => exact hm.symm

/-- The columns belong to the mapped fields, each to one, in declared order. -/
theorem map_index_columns (E : EntityType) : E.columns.map Column.index
    = (List.finRange E.fields.length).filter fun i => (E.fields.get i).isMapped := by
  unfold columns
  induction List.finRange E.fields.length with
  | nil => rfl
  | cons i is ih =>
    rw [List.filter_cons, ← isSome_column? i, ← ih]
    cases hi : E.column? i with
    | none =>
      rw [List.filterMap_cons_none hi]
      rfl
    | some c =>
      rw [List.filterMap_cons_some hi, List.map_cons, index_of_column? hi]
      rfl

theorem diagnostics_eq (E : EntityType) : E.diagnostics
    = (E.fields.filter Field.isUnmappable).map fun f =>
        ⟨E.name, f.name, f.type.capabilities.refusal⟩ := by
  unfold diagnostics
  induction E.fields with
  | nil => rfl
  | cons f fs ih =>
    have hclass := f.hasClass_role
    generalize hrole : f.role = role at hclass
    cases hclass with
    | excluded why _ hu => simpa [hrole, hu] using ih
    | unmappable _ hu => simpa [hrole, hu] using ih
    | mapped kind _ hu => simpa [hrole, hu] using ih

/-- Counting mapped fields is counting columns. -/
theorem countP_columns (E : EntityType) (p : Field → Bool) :
    E.columns.countP (fun c => p c.field) = E.fields.countP fun f => f.isMapped && p f := by
  calc E.columns.countP (fun c => p c.field)
      = (E.columns.map Column.index).countP fun i => p (E.fields.get i) := by
        rw [List.countP_map]
        rfl
    _ = (List.finRange E.fields.length).countP fun i =>
          (E.fields.get i).isMapped && p (E.fields.get i) := by
        rw [map_index_columns, List.countP_filter]
        refine List.countP_congr fun i _ => ?_
        rw [Bool.and_comm]
    _ = ((List.finRange E.fields.length).map E.fields.get).countP fun f => f.isMapped && p f := by
        rw [List.countP_map]
        rfl
    _ = E.fields.countP fun f => f.isMapped && p f := by rw [List.map_get_finRange]

structure Partitioned (E : EntityType) : Prop where
  oneClass : ∀ f ∈ E.fields, [f.isExcluded, f.isUnmappable, f.isMapped].count true = 1
  columns : E.columns.map Column.index
    = (List.finRange E.fields.length).filter fun i => (E.fields.get i).isMapped
  diagnostics : E.diagnostics = (E.fields.filter Field.isUnmappable).map fun f =>
    ⟨E.name, f.name, f.type.capabilities.refusal⟩

theorem partitioned (E : EntityType) : E.Partitioned where
  oneClass f _ := by
    have hclass := f.hasClass_role
    generalize f.role = role at hclass
    cases hclass with
    | excluded _ h hu hm => simp [h, hu, hm]
    | unmappable h hu hm => simp [h, hu, hm]
    | mapped _ h hu hm => simp [h, hu, hm]
  columns := E.map_index_columns
  diagnostics := E.diagnostics_eq

/-- How many of the mapped fields are named `id`. -/
def identifiers (E : EntityType) : Nat :=
  E.fields.countP fun f => f.isMapped && f.name == "id"

theorem length_filter_isId (E : EntityType) :
    (E.columns.filter Column.isId).length = E.identifiers := by
  rw [← List.countP_eq_length_filter]
  exact E.countP_columns Field.isId

end EntityType

inductive Text.Lists (separator : String) : List String → String → Prop
  | nil : Lists separator [] ""
  | single (text : String) : Lists separator [text] text
  | cons (text : String) {next : String} {texts : List String} {list : String}
      (h : Lists separator (next :: texts) list) :
      Lists separator (text :: next :: texts) (text ++ separator ++ list)

theorem Text.lists_intercalate (separator : String) (texts : List String) :
    Lists separator texts (separator.intercalate texts) := by
  induction texts with
  | nil => exact .nil
  | cons text texts ih =>
    cases texts with
    | nil => exact .single text
    | cons next texts =>
      rw [String.intercalate_cons_cons]
      exact .cons text ih

namespace Descriptor
variable {E : EntityType}

/-- All that a descriptor lists is its columns, in their order: all of them, or all but the one of
the identifier. -/
structure Describes (d : Descriptor E) : Prop where
  columns : d.columns.length = E.fields.countP Field.isMapped
  selectList : Text.Lists ", " (d.columns.map (·.name)) d.selectList
  tableSelectList :
    Text.Lists ", " (d.columns.map fun c => d.table ++ "." ++ c.name) d.tableSelectList
  insertList : Text.Lists "," (d.columns.map (·.name)) d.insertList
  placeholders : Text.Lists "," (List.replicate d.columns.length "?") d.placeholders ∧
    Placeholder.count d.placeholders = d.columns.length
  updates : ∃ before after, d.columns = before ++ d.idColumn :: after ∧
    d.updateColumns = (before ++ after).map (·.name) ∧
    Text.Lists "," ((before ++ after).map (·.name ++ "=?")) d.setClause ∧
    (before ++ after).length + 1 = d.columns.length
  idColumn : d.idColumn ∈ d.columns ∧ ∀ c ∈ d.columns, c.field.name = "id" ↔ c = d.idColumn

theorem exists_columns_eq (d : Descriptor E) : ∃ before after,
    d.columns = before ++ d.idColumn :: after ∧ d.dataColumns = before ++ after := by
  obtain ⟨before, after, hcolumns, hbefore, hid, hafter⟩ :=
    List.filter_eq_cons_iff.1 d.filter_isId
  refine ⟨before, after, hcolumns, ?_⟩
  have hrest : ∀ cs : List (Column E), (∀ c ∈ cs, ¬ c.isId = true) →
      cs.filter (fun c => !c.isId) = cs := by
    intro cs hcs
    rw [List.filter_eq_self]
    intro c hc
    rw [Bool.not_eq_true', ← Bool.not_eq_true]
    exact hcs c hc
  unfold dataColumns
  rw [hcolumns, List.filter_append, List.filter_cons_of_neg (by simp [hid]),
    hrest before hbefore, hrest after (List.filter_eq_nil_iff.1 hafter)]

theorem describes (d : Descriptor E) : d.Describes where
  columns := by
    have hcount := E.countP_columns fun _ => true
    simp only [Bool.and_true, List.countP_true] at hcount
    exact hcount
  selectList := Text.lists_intercalate ", " _
  tableSelectList := by
    have hnames : (d.columnNames.map fun name => d.table ++ "." ++ name)
        = d.columns.map fun c => d.table ++ "." ++ c.name := List.map_map
    rw [← hnames]
    exact Text.lists_intercalate ", " _
  insertList := Text.lists_intercalate "," _
  placeholders := by
    refine ⟨?_, ?_⟩
    · rw [← List.map_const']
      exact Text.lists_intercalate "," _
    · have hcount := Placeholder.count_intercalate_placeholders d.columnNames
      rw [columnNames, List.map_map, List.length_map] at hcount
      exact hcount
  updates := by
    obtain ⟨before, after, hcolumns, hdata⟩ := d.exists_columns_eq
    have hnames : d.updateColumns = (before ++ after).map (·.name) := by rw [updateColumns, hdata]
    refine ⟨before, after, hcolumns, hnames, ?_, ?_⟩
    · have hlists := Text.lists_intercalate "," (d.updateColumns.map (· ++ "=?"))
      rw [hnames, List.map_map] at hlists
      unfold setClause
      rw [hnames, List.map_map]
      exact hlists
    · rw [hcolumns]
      simp only [List.length_append, List.length_cons, Nat.add_assoc]
  idColumn := by
    refine ⟨d.idColumn_mem.1, fun c hc => ⟨fun hname => ?_, ?_⟩⟩
    · exact eq_idColumn_of_isId hc (beq_iff_eq.2 hname)
    · rintro rfl
      exact beq_iff_eq.1 d.idColumn_mem.2

theorem exists_build_iff {override? : Option String} :
    (∃ d, build E override? = .ok d) ↔ E.identifiers = 1 := by
  rw [← E.length_filter_isId, List.length_eq_one_iff]
  constructor
  · rintro ⟨d, -⟩
    exact ⟨d.idColumn, d.filter_isId⟩
  · rintro ⟨c, hc⟩
    exact ⟨_, build_of_filter_isId hc override?⟩

theorem build_of_identifiers_eq_zero (h : E.identifiers = 0) (override? : Option String) :
    build E override? = .error (.mapping (.noIdentifier E.name)) := by
  rw [← E.length_filter_isId, List.length_eq_zero_iff] at h
  unfold build
  split
  · rfl
  · next hone => rw [h] at hone; cases hone
  · next hmany => rw [h] at hmany; cases hmany

theorem build_of_one_lt_identifiers (h : 1 < E.identifiers) (override? : Option String) :
    build E override? = .error (.mapping (.manyIdentifiers E.name)) := by
  rw [← E.length_filter_isId] at h
  unfold build
  split
  · next hnone => rw [hnone] at h; cases h
  · next hone => rw [hone] at h; exact absurd h (Nat.lt_irrefl 1)
  · rfl

/-- A field is excluded, unmappable or mapped, and has no trace, one diagnostic or one column for
it, in declared order. There is a descriptor exactly for one identifier among the mapped fields,
whatever the columns are called and whatever table is asked for, and what it lists are the
columns. -/
theorem derivation (E : EntityType) (override? : Option String) :
    E.Partitioned ∧
    ((∃ d, build E override? = .ok d) ↔ E.identifiers = 1) ∧
    (E.identifiers = 0 → build E override? = .error (.mapping (.noIdentifier E.name))) ∧
    (1 < E.identifiers → build E override? = .error (.mapping (.manyIdentifiers E.name))) ∧
    ∀ d, build E override? = .ok d → d.Describes := by
  refine ⟨E.partitioned, exists_build_iff, ?_, ?_, fun d _ => d.describes⟩
  · intro hnone
    exact build_of_identifiers_eq_zero hnone override?
  · intro hmany
    exact build_of_one_lt_identifiers hmany override?

end Descriptor

namespace Invoice

def invoice : EntityType where
  name := "SalesInvoice"
  fields := [
    { name := "id", type := .option .string },
    .manyToMany "tags",
    { name := "mood", type := .enumeration { plainEnum := true } () [] fun _ => "" },
    { name := "issued_date", type := .date, column? := some "issued" },
    { name := "lines", type := .list String },
    Field.markTransient { name := "id", type := .long }]
  identifier r := r ⟨0, by decide⟩

theorem derivation_invoice :
    (∃ d, Descriptor.build invoice (some "bills") = .ok d) ∧
    invoice.columns.map Column.index = [⟨0, by decide⟩, ⟨3, by decide⟩] ∧
    invoice.diagnostics = [⟨"SalesInvoice", "mood", .enumWithoutIds⟩] := by
  obtain ⟨hparts, hbuild, -⟩ := Descriptor.derivation invoice (some "bills")
  refine ⟨hbuild.2 (by decide), ?_, ?_⟩
  · rw [hparts.columns]
    decide
  · rw [hparts.diagnostics]
    decide

end Invoice
end DataMapper
