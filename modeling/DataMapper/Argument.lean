import DataMapper.Failure
import DataMapper.Text.Blank

/-! # Checks of arguments

Checks made on arguments before any statement is built. Each gives its
argument back when it holds.
-/
namespace DataMapper.Argument

def present (value : Option α) (name : String) : Except Failure α :=
  match value with
  | some a => .ok a
  | none => .error (.invalidArgument (.required name))

def text (value name : String) : Except Failure String :=
  if Text.isBlank value then .error (.invalidArgument (.required name)) else .ok value

def nonEmpty (values : List α) (name : String) : Except Failure (List α) :=
  if values.isEmpty then .error (.invalidArgument (.emptyList name)) else .ok values

theorem text_eq_ok_iff {value name t : String} :
    text value name = .ok t ↔ Text.isBlank value = false ∧ t = value := by
  unfold text
  cases Text.isBlank value <;> simp [eq_comm]

theorem nonEmpty_eq_ok_iff {values : List α} {name : String} {vs : List α} :
    nonEmpty values name = .ok vs ↔ values ≠ [] ∧ vs = values := by
  unfold nonEmpty
  cases values <;> simp [eq_comm]

theorem bind_eq_ok_iff {x : Except Failure α} {f : α → Except Failure β} {b : β} :
    x >>= f = .ok b ↔ ∃ a, x = .ok a ∧ f a = .ok b := by
  cases x <;> simp [bind, Except.bind]

/-- What comes after a check is reached with the argument as it is. -/
theorem text_bind_eq_ok_iff {value name : String} {f : String → Except Failure α} {a : α} :
    text value name >>= f = .ok a ↔ Text.isBlank value = false ∧ f value = .ok a := by
  simp only [bind_eq_ok_iff, text_eq_ok_iff, and_assoc, exists_and_left, exists_eq_left]

theorem nonEmpty_bind_eq_ok_iff {values : List β} {name : String}
    {f : List β → Except Failure α} {a : α} :
    nonEmpty values name >>= f = .ok a ↔ values ≠ [] ∧ f values = .ok a := by
  simp only [bind_eq_ok_iff, nonEmpty_eq_ok_iff, and_assoc, exists_and_left, exists_eq_left]

end DataMapper.Argument
