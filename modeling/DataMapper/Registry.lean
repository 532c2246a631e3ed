import DataMapper.Descriptor
import DataMapper.Argument

/-! # The registry

A registry keeps, for every entity type of a catalog, an optional table name
set beforehand and the descriptor once it has been built. A descriptor that was
built stays; a failure leaves no trace.
-/
namespace DataMapper

structure Slot (E : EntityType) where
  override? : Option String := none
  descriptor? : Option (Descriptor E) := none

namespace Slot
variable {E : EntityType}

/-- The cached descriptor, built on first use. -/
def resolve (slot : Slot E) : Except Failure (Descriptor E) × Slot E :=
  match slot.descriptor? with
  | some d => (.ok d, slot)
  | none =>
    match Descriptor.build E slot.override? with
    | .ok d => (.ok d, { slot with descriptor? := some d })
    | .error e => (.error e, slot)

/-- Accepted once, before the type is first resolved, for a name that is not blank. -/
def setTable (slot : Slot E) (name : String) : Except Failure Unit × Slot E :=
  match Argument.text name "table_name" with
  | .error e => (.error e, slot)
  | .ok name =>
    if slot.descriptor?.isSome then (.error (.invalidArgument (.tableInUse E.name)), slot)
    else match slot.override? with
      | some table => (.error (.invalidArgument (.tableAlreadySet E.name table)), slot)
      | none => (.ok (), { slot with override? := some name })

theorem resolve_snd_of_error {slot : Slot E} {e : Failure} (h : slot.resolve.1 = .error e) :
    slot.resolve.2 = slot := by
  unfold resolve at h ⊢
  split <;> rename_i hd
  · rfl
  · rw [hd] at h
    split <;> rename_i hb <;> simp_all

theorem setTable_snd_of_error {slot : Slot E} {name : String} {e : Failure}
    (h : (slot.setTable name).1 = .error e) : (slot.setTable name).2 = slot := by
  unfold setTable at h ⊢
  cases hn : Argument.text name "table_name" with
  | error e' => rfl
  | ok n =>
    rw [hn] at h
    cases hd : slot.descriptor?.isSome <;> cases ho : slot.override? <;> simp_all

end Slot

def Registry {ι : Type} (catalog : ι → EntityType) : Type :=
  (i : ι) → Slot (catalog i)

namespace Registry
variable {ι : Type} {catalog : ι → EntityType}

def empty : Registry catalog :=
  fun _ => {}

def set [DecidableEq ι] (reg : Registry catalog) (i : ι) (slot : Slot (catalog i)) :
    Registry catalog :=
  fun j => if h : j = i then h ▸ slot else reg j

@[simp] theorem set_same [DecidableEq ι] (reg : Registry catalog) (i : ι)
    (slot : Slot (catalog i)) : reg.set i slot i = slot := by
  simp [set]

theorem set_of_ne [DecidableEq ι] (reg : Registry catalog) {i j : ι} (h : j ≠ i)
    (slot : Slot (catalog i)) : reg.set i slot j = reg j := by
  simp [set, h]

end Registry
end DataMapper
