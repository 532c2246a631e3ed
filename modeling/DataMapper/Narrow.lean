/-! # Narrowing integers to a fixed width

Each function gives the word that holds the integer exactly, and nothing when
there is none. For signed words the ranges have names.
-/
namespace DataMapper.Narrow

def int32? (i : Int) : Option Int32 :=
  if -2147483648 ≤ i ∧ i ≤ 2147483647 then some (Int32.ofInt i) else none

def int64? (i : Int) : Option Int64 :=
  if -9223372036854775808 ≤ i ∧ i ≤ 9223372036854775807 then some (Int64.ofInt i) else none

def uint32? (n : Nat) : Option UInt32 :=
  if n < UInt32.size then some (UInt32.ofNat n) else none

def uint64? (n : Nat) : Option UInt64 :=
  if n < UInt64.size then some (UInt64.ofNat n) else none

theorem toInt_of_int32? {i : Int} {w : Int32} (h : int32? i = some w) : w.toInt = i := by
  unfold int32? at h
  split at h
  · cases h
    rw [Int32.toInt_ofInt_of_le] <;> omega
  · cases h

theorem toInt_of_int64? {i : Int} {w : Int64} (h : int64? i = some w) : w.toInt = i := by
  unfold int64? at h
  split at h
  · cases h
    rw [Int64.toInt_ofInt_of_le] <;> omega
  · cases h

theorem int32?_toInt (w : Int32) : int32? w.toInt = some w := by
  have h1 := w.le_toInt
  have h2 := w.toInt_lt
  simp only [int32?, Int32.ofInt_toInt]
  rw [if_pos]
  omega

theorem int32?_eq_some_iff {i : Int} {w : Int32} : int32? i = some w ↔ w.toInt = i :=
  ⟨toInt_of_int32?, fun h => h ▸ int32?_toInt w⟩

theorem int64?_toInt (w : Int64) : int64? w.toInt = some w := by
  have h1 := w.le_toInt
  have h2 := w.toInt_lt
  simp only [int64?, Int64.ofInt_toInt]
  rw [if_pos]
  omega

theorem int64?_eq_some_iff {i : Int} {w : Int64} : int64? i = some w ↔ w.toInt = i :=
  ⟨toInt_of_int64?, fun h => h ▸ int64?_toInt w⟩

def IsInt32 (n : Int) : Prop :=
  -2147483648 ≤ n ∧ n ≤ 2147483647
deriving Decidable

def IsInt64 (n : Int) : Prop :=
  -9223372036854775808 ≤ n ∧ n ≤ 9223372036854775807
deriving Decidable

theorem int32?_eq_none_iff {n : Int} : int32? n = none ↔ ¬IsInt32 n := by
  simp [int32?, IsInt32]

theorem int64?_eq_none_iff {n : Int} : int64? n = none ↔ ¬IsInt64 n := by
  simp [int64?, IsInt64]

theorem exists_int32?_iff {n : Int} : (∃ i, int32? n = some i) ↔ IsInt32 n := by
  simp [int32?, IsInt32]

theorem exists_int64?_iff {n : Int} : (∃ l, int64? n = some l) ↔ IsInt64 n := by
  simp [int64?, IsInt64]

theorem IsInt32.isInt64 {n : Int} (h : IsInt32 n) : IsInt64 n := by
  unfold IsInt32 at h
  unfold IsInt64
  omega

end DataMapper.Narrow
