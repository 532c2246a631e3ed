import DataMapper.Dao

/-! # Sessions

A session is one registry, one connection and any number of data access objects
for each entity type, told apart by numbers. Every number stands for a new
object until it is used.
-/
namespace DataMapper

structure Session {ι : Type} (catalog : ι → EntityType) (σ : Type) where
  registry : Registry catalog := .empty
  daos : (i : ι) → Nat → Dao (catalog i) := fun _ _ => {}
  state : σ

inductive Step {ι : Type} (catalog : ι → EntityType) where
  | setTable (i : ι) (name : String)
  | resolve (i : ι)
  /-- Resolves the descriptor through an object. -/
  | descriptor (i : ι) (dao : Nat)
  /-- Puts a new object in the place of an old one. -/
  | renew (i : ι) (dao : Nat)
  /-- Puts a copy of an object in the place of another. -/
  | copy (i : ι) (source target : Nat)
  | run (i : ι) (dao : Nat) (answer : Answer) (op : Operation (catalog i) answer)

namespace Step
variable {ι : Type} {catalog : ι → EntityType}

def entity : Step catalog → ι
  | setTable i _ | resolve i | descriptor i _ | renew i _ | copy i _ _ | run i _ _ _ => i

/-- What a successful step gives. -/
def Reply : Step catalog → Type
  | setTable .. | renew .. | copy .. => Unit
  | resolve i | descriptor i _ => Descriptor (catalog i)
  | run i _ answer _ => answer.Value (catalog i)

end Step

namespace Session
variable {ι σ : Type} {catalog : ι → EntityType} [DecidableEq ι]

def setSlot (s : Session catalog σ) (i : ι) (slot : Slot (catalog i)) : Session catalog σ :=
  { s with registry := s.registry.set i slot }

def setDao (s : Session catalog σ) (i : ι) (number : Nat) (dao : Dao (catalog i)) :
    Session catalog σ :=
  { s with
    daos := fun j => if h : j = i then h ▸ (fun n => if n = number then dao else s.daos i n)
      else s.daos j }

def step (conn : Connection σ) (s : Session catalog σ) :
    (step : Step catalog) → Except Failure step.Reply × Session catalog σ
  | .setTable i name =>
    let (answer, slot) := (s.registry i).setTable name
    (answer, s.setSlot i slot)
  | .resolve i =>
    let (answer, slot) := (s.registry i).resolve
    (answer, s.setSlot i slot)
  | .descriptor i n =>
    let (answer, dao, slot) := (s.daos i n).resolve (s.registry i)
    (answer, (s.setSlot i slot).setDao i n dao)
  | .renew i n => (.ok (), s.setDao i n {})
  | .copy i source target => (.ok (), s.setDao i target (s.daos i source))
  | .run i n _ op =>
    let (answer, dao, slot, state) := (s.daos i n).run conn op (s.registry i) s.state
    (answer, { (s.setSlot i slot).setDao i n dao with state })

end Session
end DataMapper
