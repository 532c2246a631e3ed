import DataMapper.Field.Type

/-! # Field types that survive storage

A storable field type gets back from the database what it wrote, apart from
dates, which lose the part below the second. A database may give a value back
in another form than it was bound, and every kind of column reads both forms
alike.
-/
namespace DataMapper

/-- The forms in which a bound value comes back: as it was, a 32-bit integer as a 64-bit one, and
a flag as the number 0 or 1. -/
inductive SqlValue.DatabaseForm : SqlValue → SqlValue → Prop
  | same (v : SqlValue) : DatabaseForm v v
  | widened (i : Int32) : DatabaseForm (.int i) (.long i.toInt64)
  | intFlag (b : Bool) : DatabaseForm (.bool b) (.int (if b then 1 else 0))
  | longFlag (b : Bool) : DatabaseForm (.bool b) (.long (if b then 1 else 0))

def ColumnKind.TakesText : ColumnKind → Prop
  | string | fromText | identifiableEnum => True
  | _ => False

theorem ColumnKind.toCell_text {kind : ColumnKind} (h : kind.TakesText) (s : String) :
    kind.toCell (.text s) = .ok (.text s) := by
  cases kind <;> first | rfl | exact h.elim

theorem ColumnKind.toCell_widened (i : Int32) :
    ColumnKind.integer.toCell (.long i.toInt64) = .ok (.int i) := by
  have h : Narrow.int32? i.toInt64.toInt = some i := by
    rw [Int32.toInt_toInt64, Narrow.int32?_toInt]
  simp only [toCell, h]

theorem ColumnKind.toCell_seconds (t : Instant) :
    ColumnKind.date.toCell (.long t.seconds) = .ok (.date t.wholeSecond) := by
  simp only [toCell, Cell.ofSeconds, Instant.ofSeconds?_seconds]

theorem Cell.parse_text {read : String → Except String α} {s : String} {a : α}
    (h : read s = .ok a) : Cell.parse read (.text s) = .ok a := by
  simp only [parse, h]

theorem Cell.lookup_text {constants : List α} {ident : α → String} {s : String} {a : α}
    (h : constants.find? (fun b => ident b == s) = some a) :
    Cell.lookup constants ident (.text s) = .ok a := by
  simp only [lookup, h]

/-- The storable types without an absent value; a stored `a` comes back as `kept a`. A type built
from text reads what it writes, and an enumeration finds each constant by its id. -/
inductive Storable.Plain : (t : FieldType) → (kept : t.Carrier → t.Carrier) → Prop
  | string : Plain .string id
  | int : Plain .int id
  | long : Plain .long id
  | bool : Plain .bool id
  | date : Plain .date Instant.wholeSecond
  | ofText {α : Type} {capabilities : Capabilities} {kind : ColumnKind} {zero : α}
      {write : α → String} {read : String → Except String α}
      (hkind : capabilities.kind = .ok kind) (htext : kind.TakesText)
      (hread : ∀ a, read (write a) = .ok a) :
      Plain (.ofText capabilities zero write read) id
  | enumeration {α : Type} {capabilities : Capabilities} {kind : ColumnKind} {zero : α}
      {constants : List α} {ident : α → String}
      (hkind : capabilities.kind = .ok kind) (htext : kind.TakesText)
      (hfind : ∀ a, constants.find? (fun b => ident b == ident a) = some a) :
      Plain (.enumeration capabilities zero constants ident) id

inductive Storable : (t : FieldType) → (kept : t.Carrier → t.Carrier) → Prop
  | plain {t : FieldType} {kept : t.Carrier → t.Carrier} (h : Storable.Plain t kept) :
      Storable t kept
  | option {t : FieldType} {kept : t.Carrier → t.Carrier} (h : Storable.Plain t kept) :
      Storable t.option (Option.map kept)

namespace Storable
variable {t : FieldType} {kept : t.Carrier → t.Carrier} {kind : ColumnKind} {v : SqlValue}

theorem Plain.bind_kept (h : Plain t kept) (a : t.Carrier) : t.bind (kept a) = t.bind a := by
  cases h with
  | string | int | long | bool | date | ofText | enumeration => rfl

/-- The column hands on a cell that is present, and the type builds the value from it. -/
theorem Plain.exists_cell (h : Plain t kept) (hk : t.capabilities.kind = .ok kind) {a : t.Carrier}
    (hv : (t.bind a).DatabaseForm v) :
    ∃ cell, kind.toCell v = .ok cell ∧ cell ≠ .null ∧ t.ofCell kind cell = .ok (kept a) := by
  cases h with
  | string =>
    cases hk
    cases hv
    exact ⟨.text a, rfl, by simp, rfl⟩
  | int =>
    cases hk
    cases hv with
    | same => exact ⟨.int a, rfl, by simp, rfl⟩
    | widened => exact ⟨.int a, ColumnKind.toCell_widened a, by simp, rfl⟩
  | long =>
    cases hk
    cases hv
    exact ⟨.long a, rfl, by simp, rfl⟩
  | bool =>
    cases hk
    refine ⟨.bool a, ?_, by simp, rfl⟩
    cases hv with
    | same => rfl
    | intFlag => cases a <;> rfl
    | longFlag => cases a <;> rfl
  | date =>
    cases hk
    cases hv
    exact ⟨.date (Instant.wholeSecond a), ColumnKind.toCell_seconds a, by simp, rfl⟩
  | @ofText α capabilities kind' zero write read hkind htext hread =>
    obtain rfl : kind' = kind := Except.ok.inj (hkind.symm.trans hk)
    cases hv
    exact ⟨.text (write a), ColumnKind.toCell_text htext _, by simp, Cell.parse_text (hread a)⟩
  | @enumeration α capabilities kind' zero constants ident hkind htext hfind =>
    obtain rfl : kind' = kind := Except.ok.inj (hkind.symm.trans hk)
    cases hv
    exact ⟨.text (ident a), ColumnKind.toCell_text htext _, by simp, Cell.lookup_text (hfind a)⟩

theorem bind_kept (h : Storable t kept) (a : t.Carrier) : t.bind (kept a) = t.bind a := by
  cases h with
  | plain h => exact h.bind_kept a
  | option h =>
    cases a with
    | none => rfl
    | some a => exact h.bind_kept a

/-- Reading undoes writing, whatever form the value comes back in. -/
theorem decode_bind (h : Storable t kept) (hk : t.capabilities.kind = .ok kind) {a : t.Carrier}
    (hv : (t.bind a).DatabaseForm v) : kind.toCell v >>= t.ofCell kind = .ok (kept a) := by
  cases h with
  | plain h =>
    obtain ⟨cell, hcell, -, hread⟩ := h.exists_cell hk hv
    rw [hcell]
    exact hread
  | @option t kept h =>
    have hk' : t.capabilities.kind = .ok kind := hk
    cases a with
    | none =>
      cases hv
      change kind.toCell .null >>= t.option.ofCell kind = _
      rw [ColumnKind.toCell_null]
      rfl
    | some a =>
      obtain ⟨cell, hcell, hne, hread⟩ := h.exists_cell hk' hv
      rw [hcell]
      change t.option.ofCell kind cell = _
      rw [FieldType.ofCell_option_of_ne_null t kind hne, hread]
      rfl

end Storable
end DataMapper
