import DataMapper.Operation
import DataMapper.Registry

/-! # Data access objects

A data access object works on one entity type. It remembers the descriptor from
the first time that the registry resolves it, and runs operations on a
connection.
-/
namespace DataMapper

structure Dao (E : EntityType) where
  descriptor? : Option (Descriptor E) := none

namespace Dao
variable {E : EntityType}

/-- The remembered descriptor, else the one of the registry. -/
def resolve (dao : Dao E) (slot : Slot E) : Except Failure (Descriptor E) × Dao E × Slot E :=
  match dao.descriptor? with
  | some d => (.ok d, dao, slot)
  | none =>
    match slot.resolve with
    | (.ok d, slot) => (.ok d, ⟨some d⟩, slot)
    | (.error e, slot) => (.error e, dao, slot)

/-- Runs an operation; at most one statement reaches the connection. -/
def run {σ : Type} (conn : Connection σ) {answer : Answer} (op : Operation E answer)
    (dao : Dao E) (slot : Slot E) (s : σ) :
    Except Failure (answer.Value E) × Dao E × Slot E × σ :=
  match op.prepare conn.delayedInsert with
  | .error e => (.error e, dao, slot, s)
  | .ok (.ready statement) =>
    let (reply, s) := Operation.perform conn statement s
    (reply, dao, slot, s)
  | .ok (.mapped build) =>
    match dao.resolve slot with
    | (.error e, dao, slot) => (.error e, dao, slot, s)
    | (.ok d, dao, slot) =>
      match build d with
      | .error e => (.error e, dao, slot, s)
      | .ok statement =>
        let (reply, s) := Operation.perform conn statement s
        (reply, dao, slot, s)

/-- A short description, which tells whether the descriptor is known. -/
def summary (dao : Dao E) : String :=
  "GenericDao \x7b entity: " ++ Text.quote E.name ++ ", resolved: "
    ++ (if dao.descriptor?.isSome then "true" else "false") ++ ", .. \x7d"

end Dao
end DataMapper
