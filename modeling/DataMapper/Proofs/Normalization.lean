import DataMapper.Proofs.Decoding
import DataMapper.Proofs.StoredRecord

/-! # Loading settles in one step

Whatever a row holds, the record built from it is built again from the row of
its own values: what could be read is read back as it is, and what fell back to
the zero value of its type stays there. Nothing new goes wrong on the way.
-/
namespace DataMapper

/-- Types whose values are read back as they are once they have been read from a row. Of a type
built from text this is asked of the values that it is built to, and its zero value may be written
as a text that is refused; an enumeration may share ids, but not the id of an earlier constant for
its zero value. -/
inductive FieldType.Settling : FieldType → Prop
  | string : Settling .string
  | int : Settling .int
  | long : Settling .long
  | bool : Settling .bool
  | date : Settling .date
  | ofText {α : Type} {capabilities : Capabilities} {zero : α} {write : α → String}
      {read : String → Except String α} (hread : ∀ s a, read s = .ok a → read (write a) = .ok a)
      (hzero : ∀ a, read (write zero) = .ok a → a = zero) :
      Settling (.ofText capabilities zero write read)
  | enumeration {α : Type} {capabilities : Capabilities} {zero : α} {constants : List α}
      {ident : α → String} (hzero : constants.find? (fun a => ident a == ident zero) = some zero) :
      Settling (.enumeration capabilities zero constants ident)
  | option {t : FieldType} (h : Settling t) : Settling t.option

theorem Cell.parse_eq_ok_iff {α : Type} {read : String → Except String α} {cell : Cell} {a : α} :
    Cell.parse read cell = .ok a ↔ ∃ s, cell = .text s ∧ read s = .ok a := by
  constructor
  · intro h
    cases cell with
    | text s =>
      cases hread : read s with
      | ok b =>
        rw [parse_text hread] at h
        cases h
        exact ⟨s, rfl, hread⟩
      | error reason =>
        rw [parse_rejected hread] at h
        cases h
    | null | date | int | long | bool => cases h
  · rintro ⟨s, rfl, hread⟩
    exact parse_text hread

theorem Cell.lookup_eq_ok_iff {α : Type} {constants : List α} {ident : α → String} {cell : Cell}
    {a : α} : Cell.lookup constants ident cell = .ok a ↔
      ∃ s, cell = .text s ∧ constants.find? (fun b => ident b == s) = some a := by
  constructor
  · intro h
    cases cell with
    | text s =>
      cases hfind : constants.find? (fun b => ident b == s) with
      | some b =>
        rw [lookup_text hfind] at h
        cases h
        exact ⟨s, rfl, hfind⟩
      | none =>
        rw [lookup_unknown hfind] at h
        cases h
    | null | date | int | long | bool => cases h
  · rintro ⟨s, rfl, hfind⟩
    exact lookup_text hfind

/-- A text that a column hands on as a text is handed on as it is. -/
theorem ColumnKind.eq_of_toCell_text {kind : ColumnKind} {s s' : String}
    (h : kind.toCell (.text s) = .ok (.text s')) : s' = s := by
  have hsame := (toCell_text (takesText_of_toCell h) s).symm.trans h
  cases hsame
  rfl

namespace FieldType
variable {kind : ColumnKind} {v : SqlValue}

theorem decode_eq_ok_iff {t : FieldType} {a : t.Carrier} :
    t.decode kind v = .ok a ↔ ∃ cell, kind.toCell v = .ok cell ∧ t.ofCell kind cell = .ok a := by
  cases hcell : kind.toCell v with
  | error problem => simp [decode_of_toCell_error hcell]
  | ok cell => simp [decode_of_toCell hcell]

/-- What is built from text is built from the text that the column hands on. -/
theorem decode_ofText_eq_ok_iff {α : Type} {capabilities : Capabilities} {zero a : α}
    {write : α → String} {read : String → Except String α} :
    (ofText capabilities zero write read).decode kind v = .ok a ↔
      ∃ s, kind.toCell v = .ok (.text s) ∧ read s = .ok a := by
  refine decode_eq_ok_iff.trans ⟨?_, ?_⟩
  · rintro ⟨cell, hcell, ha⟩
    obtain ⟨s, rfl, hread⟩ := Cell.parse_eq_ok_iff.1 ha
    exact ⟨s, hcell, hread⟩
  · rintro ⟨s, hcell, hread⟩
    exact ⟨_, hcell, Cell.parse_text hread⟩

theorem decode_enumeration_eq_ok_iff {α : Type} {capabilities : Capabilities} {zero a : α}
    {constants : List α} {ident : α → String} :
    (enumeration capabilities zero constants ident).decode kind v = .ok a ↔
      ∃ s, kind.toCell v = .ok (.text s) ∧ constants.find? (fun b => ident b == s) = some a := by
  refine decode_eq_ok_iff.trans ⟨?_, ?_⟩
  · rintro ⟨cell, hcell, ha⟩
    obtain ⟨s, rfl, hfind⟩ := Cell.lookup_eq_ok_iff.1 ha
    exact ⟨s, hcell, hfind⟩
  · rintro ⟨s, hcell, hfind⟩
    exact ⟨_, hcell, Cell.lookup_text hfind⟩

theorem decode_option_null (t : FieldType) (kind : ColumnKind) :
    t.option.decode kind .null = .ok none := by
  rw [decode_of_toCell kind.toCell_null]
  rfl

theorem decode_option_of_ne_null (t : FieldType) (hv : v ≠ .null) :
    t.option.decode kind v = (t.decode kind v).map some := by
  cases hcell : kind.toCell v with
  | error problem =>
    rw [decode_of_toCell_error hcell, decode_of_toCell_error hcell]
    rfl
  | ok cell =>
    have hne : cell ≠ .null := by
      rintro rfl
      cases ColumnKind.gives_of_toCell hcell hv
    rw [decode_of_toCell hcell, decode_of_toCell hcell]
    exact ofCell_option_of_ne_null t kind hne

theorem exists_of_decode_option (t : FieldType) (hv : v ≠ .null) {a : t.option.Carrier}
    (ha : t.option.decode kind v = .ok a) : ∃ b, t.decode kind v = .ok b ∧ a = some b := by
  rw [decode_option_of_ne_null t hv] at ha
  cases hb : t.decode kind v with
  | error problem =>
    rw [hb] at ha
    cases ha
  | ok b =>
    rw [hb] at ha
    cases ha
    exact ⟨b, rfl, rfl⟩

/-- A date is read back as the second that it lies in. -/
theorem decode_date_bind (a : Instant) :
    date.decode .date (date.bind a) = .ok a.wholeSecond :=
  (Storable.plain .date).decode_bind rfl (.same (date.bind a))

/-- A date that was read begins a second. -/
theorem wholeSecond_of_decode {a : Instant} (h : date.decode .date v = .ok a) :
    a.wholeSecond = a := by
  obtain ⟨cell, hcell, ha⟩ := decode_eq_ok_iff.1 h
  cases cell with
  | date t =>
    cases ha
    have hv : v ≠ .null := by
      rintro rfl
      cases hcell
    have hmakes := ColumnKind.date.toCell_makes hv
    rw [hcell] at hmakes
    cases hmakes with
    | cell _ finds =>
      obtain ⟨l, -, -, hholds⟩ := finds trivial
      cases hholds with
      | date hnanos => simp only [Instant.wholeSecond, ← hnanos]
  | null | text | int | long | bool => cases ha

namespace Settling
variable {t : FieldType}

/-- A value that was read is written as something that reads back as it. -/
theorem decode_bind (h : t.Settling) (hk : t.capabilities.kind = .ok kind) {a : t.Carrier}
    (ha : t.decode kind v = .ok a) :
    t.decode kind (t.bind a) = .ok a ∧ (v ≠ .null → t.bind a ≠ .null) := by
  induction h with
  | string | int | long | bool =>
    cases hk
    exact ⟨rfl, fun _ hnull => by cases hnull⟩
  | date =>
    cases hk
    have hread := decode_date_bind a
    rw [wholeSecond_of_decode ha] at hread
    exact ⟨hread, fun _ hnull => by cases hnull⟩
  | ofText hread =>
    obtain ⟨s, hcell, hs⟩ := decode_ofText_eq_ok_iff.1 ha
    have htext := ColumnKind.takesText_of_toCell hcell
    refine ⟨decode_ofText_eq_ok_iff.2 ⟨_, ColumnKind.toCell_text htext _, hread s a hs⟩, ?_⟩
    exact fun _ hnull => by cases hnull
  | @enumeration α capabilities zero constants ident =>
    obtain ⟨s, hcell, hs⟩ := decode_enumeration_eq_ok_iff.1 ha
    have htext := ColumnKind.takesText_of_toCell hcell
    have hid := List.find?_some hs
    rw [← beq_iff_eq.1 hid] at hs
    refine ⟨decode_enumeration_eq_ok_iff.2 ⟨_, ColumnKind.toCell_text htext _, hs⟩, ?_⟩
    exact fun _ hnull => by cases hnull
  | @option t _ ih =>
    by_cases hv : v = .null
    · subst hv
      rw [decode_option_null] at ha
      cases ha
      exact ⟨decode_option_null t kind, fun hne => absurd rfl hne⟩
    · obtain ⟨b, hb, rfl⟩ := exists_of_decode_option t hv ha
      obtain ⟨hread, hne⟩ := ih hk hb
      -- An optional value that is there is not written as NULL, which would read back as none.
      have hwritten : t.option.decode kind (t.bind b) = .ok (some b) := by
        rw [decode_option_of_ne_null t (hne hv), hread]
        rfl
      exact ⟨hwritten, fun _ => hne hv⟩

/-- The zero value is written as something that reads back as it, or cannot be read. -/
theorem eq_zero (h : t.Settling) (hk : t.capabilities.kind = .ok kind) {a : t.Carrier}
    (ha : t.decode kind (t.bind t.zero) = .ok a) : a = t.zero := by
  cases h with
  | string | int | long | bool =>
    cases hk
    cases ha
    rfl
  | date =>
    cases hk
    have hread := (decode_date_bind FieldType.date.zero).symm.trans ha
    cases hread
    rfl
  | ofText _ hzero =>
    obtain ⟨s, hcell, hs⟩ := decode_ofText_eq_ok_iff.1 ha
    obtain rfl := ColumnKind.eq_of_toCell_text hcell
    exact hzero a hs
  | enumeration hzero =>
    obtain ⟨s, hcell, hs⟩ := decode_enumeration_eq_ok_iff.1 ha
    obtain rfl := ColumnKind.eq_of_toCell_text hcell
    exact Option.some.inj (hs.symm.trans hzero)
  | @option t =>
    have hnone : t.option.decode kind .null = .ok a := ha
    rw [decode_option_null] at hnone
    cases hnone
    rfl

end Settling
end FieldType

namespace Column
variable {E : EntityType} {c : Column E}

/-- What a record holds after a row was read is what it holds after its own value is read. -/
theorem value_of_cell_eq_bind (hc : c ∈ E.columns) (h : c.field.type.Settling) {row row' : Row}
    (hcell : c.cell row' = c.field.type.bind (c.value row)) : c.value row' = c.value row := by
  have hk := EntityType.kind_of_mem_columns hc
  cases hread : c.decode (c.cell row) with
  | ok a =>
    have hvalue := value_of_decode hread
    rw [hvalue] at hcell ⊢
    refine value_of_decode ?_
    rw [hcell]
    exact (h.decode_bind hk hread).1
  | error problem =>
    have hvalue := value_of_decode_error hread
    rw [hvalue] at hcell ⊢
    unfold value
    rw [hcell]
    cases hagain : c.decode (c.field.type.bind c.field.type.zero) with
    | ok a => exact h.eq_zero hk hagain
    | error problem' => rfl

theorem diagnostic?_of_cell_eq_bind (hc : c ∈ E.columns) (h : c.field.type.Settling)
    {row row' : Row} (hcell : c.cell row' = c.field.type.bind (c.value row))
    (hnone : c.diagnostic? row = none) : c.diagnostic? row' = none := by
  cases hread : c.decode (c.cell row) with
  | ok a =>
    rw [value_of_decode hread] at hcell
    refine diagnostic?_of_decode (v := a) ?_
    rw [hcell]
    exact (h.decode_bind (EntityType.kind_of_mem_columns hc) hread).1
  | error problem =>
    rw [diagnostic?_of_decode_error hread] at hnone
    cases hnone

end Column

/-- The columns with a problem, in order. -/
theorem EntityType.columns_diagnosed {E : EntityType} (r : E.Rec) (row : Row) :
    (E.populate r row).diagnostics.map (·.column)
      = (E.columns.filter fun c => (c.diagnostic? row).isSome).map (·.name) := by
  rw [diagnostics_populate]
  induction E.columns with
  | nil => rfl
  | cons c cs ih =>
    cases h : c.decode (c.cell row) with
    | ok a => simpa [Column.diagnostic?, h] using ih
    | error problem => simpa [Column.diagnostic?, h] using ih

/-- A row without a problem where another has none has its problems among those of the other. -/
theorem EntityType.columns_diagnosed_sublist {E : EntityType} {row row' : Row}
    (h : ∀ c ∈ E.columns, c.diagnostic? row = none → c.diagnostic? row' = none) (r r' : E.Rec) :
    ((E.populate r' row').diagnostics.map (·.column)).Sublist
      ((E.populate r row).diagnostics.map (·.column)) := by
  rw [columns_diagnosed, columns_diagnosed]
  refine List.Sublist.map Column.name ?_
  -- `List.monotone_filter_right` would ask this of all columns there could be.
  have hfewer : E.columns.filter (fun c => (c.diagnostic? row').isSome)
      = (E.columns.filter fun c => (c.diagnostic? row).isSome).filter
          fun c => (c.diagnostic? row').isSome := by
    rw [List.filter_filter]
    refine List.filter_congr fun c hc => ?_
    cases hnone : c.diagnostic? row with
    | none =>
      rw [h c hc hnone]
      rfl
    | some diagnostic => rw [Option.isSome_some, Bool.and_true]
  rw [hfewer]
  exact List.filter_sublist

namespace Descriptor
variable {E : EntityType}

def settledRow (d : Descriptor E) (row : Row) : Row :=
  d.rowOf (d.insertValues (E.ofRow row).record)

theorem cell_settledRow {d : Descriptor E} (names : DistinctNames d.columnNames) (row : Row)
    {c : Column E} (hc : c ∈ d.columns) :
    c.cell (d.settledRow row) = c.field.type.bind (c.value row) := by
  have hget : (d.settledRow row).get? c.name = some (c.read (E.ofRow row).record) :=
    Row.get?_zip_map (fun c : Column E => c.read (E.ofRow row).record) names hc
  have hfill : (E.ofRow row).record c.index = c.value row :=
    EntityType.record_populate_column row E.initial hc
  rw [Column.cell, hget, Option.getD_some, Column.read, hfill]

/-- The record built from any row is built again from the row it is written as, and only columns
with a problem in the first row have one in the second. So the row that a record is written as
stays the same from then on. -/
theorem ofRow_settledRow (d : Descriptor E) (names : DistinctNames d.columnNames)
    (settling : ∀ c ∈ d.columns, c.field.type.Settling) (row : Row) :
    (E.ofRow (d.settledRow row)).record = (E.ofRow row).record ∧
    ((E.ofRow (d.settledRow row)).diagnostics.map (·.column)).Sublist
      ((E.ofRow row).diagnostics.map (·.column)) ∧
    d.settledRow (d.settledRow row) = d.settledRow row := by
  have hrecord : (E.ofRow (d.settledRow row)).record = (E.ofRow row).record := by
    refine EntityType.record_populate_congr E.initial fun c hc => ?_
    exact Column.value_of_cell_eq_bind hc (settling c hc) (cell_settledRow names row hc)
  refine ⟨hrecord, ?_, ?_⟩
  · refine EntityType.columns_diagnosed_sublist (fun c hc hnone => ?_) E.initial E.initial
    exact Column.diagnostic?_of_cell_eq_bind hc (settling c hc) (cell_settledRow names row hc) hnone
  · exact congrArg (fun r => d.rowOf (d.insertValues r)) hrecord

end Descriptor

namespace Account

def sku : FieldType :=
  .ofText { fromText := true } "" id fun s =>
    if "SKU-".toList.isPrefixOf s.toList then .ok s else .error (s ++ " is not a SKU")

inductive Tier where
  | basic
  | gold
  | vip
deriving DecidableEq

def Tier.id : Tier → String
  | basic => "basic"
  | gold | vip => "gold"

def tier : FieldType :=
  .enumeration { plainEnum := true, identifiableEnum := true } Tier.basic [.basic, .gold, .vip]
    Tier.id

theorem settling_sku : sku.Settling := by
  refine .ofText ?_ ?_
  · intro s a h
    have hread := h
    split at hread
    · cases hread
      exact h
    · cases hread
  · intro a h
    cases h

theorem settling_tier : tier.Settling :=
  .enumeration (by decide)

def account : EntityType where
  name := "Account"
  fields := [
    { name := "id", type := sku.option },
    { name := "code", type := sku },
    { name := "visits", type := .int },
    { name := "tier", type := tier },
    { name := "opened_date", type := .option .date }]
  identifier r := r ⟨0, by decide⟩

def descriptor : Descriptor account where
  table := "account"
  idColumn := ⟨⟨0, by decide⟩, "account_id", .fromText⟩
  filter_isId := by decide

theorem settling : (i : account.Index) → (account.fields.get i).type.Settling
  | ⟨0, _⟩ => .option settling_sku
  | ⟨1, _⟩ => settling_sku
  | ⟨2, _⟩ => .int
  | ⟨3, _⟩ => settling_tier
  | ⟨4, _⟩ => .option .date

def garbled : Row :=
  ⟨[("account_id", .int 7), ("visits", .long 3000000000), ("TIER", .text "gold"),
    ("opened", .text " -1 ")]⟩

/-- Of the three problems with the row, only the one with the code can come back. -/
theorem ofRow_settledRow_garbled :
    (account.ofRow (descriptor.settledRow garbled)).record = (account.ofRow garbled).record ∧
    ((account.ofRow (descriptor.settledRow garbled)).diagnostics.map (·.column)).Sublist
      ["account_id", "code", "visits"] := by
  have names : DistinctNames descriptor.columnNames := by
    unfold DistinctNames
    decide
  have hdiagnosed : (account.ofRow garbled).diagnostics.map (·.column)
      = ["account_id", "code", "visits"] := by decide
  obtain ⟨hrecord, hproblems, -⟩ :=
    Descriptor.ofRow_settledRow descriptor names (fun c _ => settling c.index) garbled
  rw [hdiagnosed] at hproblems
  exact ⟨hrecord, hproblems⟩

end Account
end DataMapper
