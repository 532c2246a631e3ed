import DataMapper.SqlValue

/-! # Rows

A row lists column names with their values in select order. Names are looked
up without regard to the case of ASCII letters, and the first match counts.
-/
namespace DataMapper

/-- Equality of names up to the case of ASCII letters. -/
def sameName (a b : String) : Bool :=
  a.toList.map Char.toLower == b.toList.map Char.toLower

theorem sameName_iff {a b : String} :
    sameName a b = true ↔ a.toList.map Char.toLower = b.toList.map Char.toLower := by
  simp [sameName]

@[simp] theorem sameName_self (a : String) : sameName a a = true := by
  simp [sameName]

theorem sameName_comm (a b : String) : sameName a b = sameName b a := by
  unfold sameName
  exact Bool.beq_comm

theorem sameName_congr_right {a b : String} (h : sameName a b = true) (c : String) :
    sameName c a = sameName c b := by
  rw [sameName_iff] at h
  rw [sameName, sameName, h]

theorem sameName_trans {a b c : String} (h : sameName a b = true) (h' : sameName b c = true) :
    sameName a c = true :=
  (sameName_congr_right h' a).symm.trans h

structure Row where
  cells : List (String × SqlValue) := []
deriving DecidableEq

namespace Row

def push (r : Row) (column : String) (value : SqlValue) : Row :=
  ⟨r.cells ++ [(column, value)]⟩

def get? (r : Row) (column : String) : Option SqlValue :=
  (r.cells.find? fun cell => sameName cell.1 column).map (·.2)

def first? (r : Row) : Option SqlValue :=
  r.cells.head?.map (·.2)

def size (r : Row) : Nat :=
  r.cells.length

theorem get?_push (r : Row) (name column : String) (value : SqlValue) :
    (r.push name value).get? column
      = (r.get? column).or (if sameName name column then some value else none) := by
  simp only [get?, push, List.find?_append, Option.map_or]
  congr 1
  by_cases h : sameName name column <;> simp [h]

end Row
end DataMapper
