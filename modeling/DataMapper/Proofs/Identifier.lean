import DataMapper.Operation
import DataMapper.Proofs.StoredTable

/-! # Identifiers as keys

An identifier reaches the database in two ways: as the value of its column when
a record is written, and as its text when a record is looked up. For columns of
text and of integers both ways bind values that are equal in a condition.
-/
namespace DataMapper

def Decimal.number? (s : String) : Option Int64 :=
  (readInt s.toList).bind Narrow.int64?

theorem Decimal.number?_ofInt (l : Int64) : number? (ofInt l.toInt) = some l := by
  rw [number?, readInt_ofInt]
  exact Narrow.int64?_toInt l

/-- An integer is shown as the text that stands for it. -/
theorem SqlValue.number?_display {v : SqlValue} {l : Int64} (h : v.asLong = some l) :
    Decimal.number? v.display = some l := by
  cases v with
  | int i =>
    obtain rfl : i.toInt64 = l := Option.some.inj h
    rw [display, ← Int32.toInt_toInt64]
    exact Decimal.number?_ofInt i.toInt64
  | long m =>
    obtain rfl : m = l := Option.some.inj h
    exact Decimal.number?_ofInt m
  | null | bool _ | text _ => cases h

def ColumnKind.holdsIntegers : ColumnKind → Bool
  | integer | long => true
  | _ => false

theorem Descriptor.bindId_eq {E : EntityType} (d : Descriptor E) (id : String) :
    d.bindId id = if d.idColumn.kind.holdsIntegers then
      ((Decimal.number? id).map SqlValue.long).getD (.text id) else .text id := by
  unfold bindId Decimal.number?
  cases d.idColumn.kind with
  | integer | long => cases (Decimal.readInt id.toList).bind Narrow.int64? <;> rfl
  | string | date | fromText | identifiableEnum | boolean => rfl

/-- Kinds of columns in which an identifier is found by its text. -/
def ColumnKind.Identifying : ColumnKind → Prop
  | date | boolean => False
  | _ => True

inductive KeyForm : ColumnKind → SqlValue → Prop
  | text {kind : ColumnKind} (h : kind.TakesText) (s : String) : KeyForm kind (.text s)
  | int (i : Int32) : KeyForm .integer (.int i)
  | long (l : Int64) : KeyForm .long (.long l)

namespace Storable
variable {t : FieldType} {kept : t.Carrier → t.Carrier} {kind : ColumnKind}

theorem Plain.keyForm (h : Plain t kept) (hk : t.capabilities.kind = .ok kind)
    (hid : kind.Identifying) (a : t.Carrier) : KeyForm kind (t.bind a) := by
  cases h with
  | string =>
    cases hk
    exact .text (show ColumnKind.string.TakesText from trivial) a
  | int =>
    cases hk
    exact .int a
  | long =>
    cases hk
    exact .long a
  | bool =>
    cases hk
    exact hid.elim
  | date =>
    cases hk
    exact hid.elim
  | @ofText α capabilities kind' zero write read hkind htext hread =>
    obtain rfl : kind' = kind := Except.ok.inj (hkind.symm.trans hk)
    exact .text htext (write a)
  | @enumeration α capabilities kind' zero constants ident hkind htext hfind =>
    obtain rfl : kind' = kind := Except.ok.inj (hkind.symm.trans hk)
    exact .text htext (ident a)

theorem keyForm (h : Storable t kept) (hk : t.capabilities.kind = .ok kind)
    (hid : kind.Identifying) {a : t.Carrier} (ha : t.bind a ≠ .null) : KeyForm kind (t.bind a) := by
  cases h with
  | plain h => exact h.keyForm hk hid a
  | @option t kept h =>
    cases a with
    | none => exact absurd rfl ha
    | some a => exact h.keyForm hk hid a

end Storable

namespace KeyForm
variable {kind : ColumnKind} {v w w' : SqlValue}

theorem display_inj (hv : KeyForm kind v) (hw : KeyForm kind w) : v.display = w.display ↔ v = w := by
  refine ⟨fun h => ?_, fun h => by rw [h]⟩
  cases hv with
  | text htext s =>
    cases hw with
    | text _ t => exact congrArg SqlValue.text h
    | int j => exact htext.elim
    | long m => exact htext.elim
  | int i =>
    cases hw with
    | text htext t => exact htext.elim
    | int j => rw [Int32.toInt_inj.1 (Decimal.ofInt_inj.1 h)]
  | long l =>
    cases hw with
    | text htext t => exact htext.elim
    | long m => rw [Int64.toInt_inj.1 (Decimal.ofInt_inj.1 h)]

/-- A key equals another in a condition only if they are the same, in whatever form the second is
given. -/
theorem equals_iff (hv : KeyForm kind v) (hw : KeyForm kind w) (h : w.DatabaseForm w') :
    v.equals w' = true ↔ v = w := by
  cases hv with
  | text htext s =>
    cases hw with
    | text _ t =>
      cases h
      simp [SqlValue.equals]
    | int j => exact htext.elim
    | long m => exact htext.elim
  | int i =>
    cases hw with
    | text htext t => exact htext.elim
    | int j =>
      have hequals : (SqlValue.int i).equals w' = (i.toInt64 == j.toInt64) := by cases h <;> rfl
      rw [hequals, beq_iff_eq, SqlValue.int.injEq, ← Int32.toInt_inj, ← Int64.toInt_inj,
        Int32.toInt_toInt64, Int32.toInt_toInt64]
  | long l =>
    cases hw with
    | text htext t => exact htext.elim
    | long m =>
      cases h
      simp [SqlValue.equals, SqlValue.asLong]

/-- The text of a key is bound as the key itself or, for integers of 32 bits, as the wider one. -/
theorem databaseForm_bindId {E : EntityType} {d : Descriptor E} (h : KeyForm d.idColumn.kind w) :
    w.DatabaseForm (d.bindId w.display) := by
  rw [d.bindId_eq]
  generalize d.idColumn.kind = kind at h
  cases h with
  | text htext s => cases kind <;> first | exact .same _ | exact htext.elim
  | int i =>
    have hnumber : Decimal.number? (SqlValue.int i).display = some i.toInt64 :=
      SqlValue.number?_display rfl
    rw [hnumber]
    exact .widened i
  | long l =>
    have hnumber : Decimal.number? (SqlValue.long l).display = some l :=
      SqlValue.number?_display rfl
    rw [hnumber]
    exact .same _

end KeyForm
end DataMapper
