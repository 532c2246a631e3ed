import DataMapper.Proofs.Identifier
import DataMapper.Proofs.Resolution
import DataMapper.Proofs.StoredRecord

/-! # Identifiers bound in two ways

What writes a record binds its identifier as the identifier column does. What
looks a record up binds the text of the identifier, as a number where the
column holds integers and as it is everywhere else. So a record is found again
by an integer in a column of integers and by a text in any other column, but
not by a date or a flag.
-/
namespace DataMapper

namespace SqlValue

def Same (v w : SqlValue) : Prop :=
  v = w ∨ ∃ l, v.asLong = some l ∧ w.asLong = some l

variable {v : SqlValue} {s : String} {l : Int64}

theorem same_text_iff : v.Same (.text s) ↔ v = .text s := by
  simp [Same, asLong]

theorem same_long_iff : v.Same (.long l) ↔ v.asLong = some l := by
  constructor
  · rintro (rfl | ⟨m, hv, hm⟩)
    · rfl
    · rw [hv]
      exact hm.symm
  · intro h
    exact .inr ⟨l, h, rfl⟩

theorem equals_text_iff : v.equals (.text s) = true ↔ v = .text s := by
  cases v <;> simp [equals, asLong]

theorem equals_long_iff : v.equals (.long l) = true ↔ v.asLong = some l := by
  cases v <;> simp [equals, asLong]

end SqlValue

/-- The values that are bound again for their own texts: where the column holds integers these and
the texts that stand for none, and everywhere else the texts. -/
def ColumnKind.Rebinds (kind : ColumnKind) (v : SqlValue) : Prop :=
  if kind.holdsIntegers then v.asLong.isSome ∨ ∃ s, v = .text s ∧ Decimal.number? s = none
  else ∃ s, v = .text s

theorem KeyForm.rebinds {kind : ColumnKind} {v : SqlValue} (h : KeyForm kind v) :
    kind.Rebinds v := by
  cases h with
  | text htext s => cases kind <;> first | exact ⟨s, rfl⟩ | exact htext.elim
  | int i => exact .inl rfl
  | long l => exact .inl rfl

namespace Descriptor
variable {E : EntityType}

theorem same_bindId_iff (d : Descriptor E) (v : SqlValue) :
    v.Same (d.bindId v.display) ↔ d.idColumn.kind.Rebinds v := by
  rw [bindId_eq, ColumnKind.Rebinds]
  cases d.idColumn.kind.holdsIntegers with
  | false =>
    simp only [Bool.false_eq_true, if_false, SqlValue.same_text_iff]
    constructor
    · intro h
      exact ⟨_, h⟩
    · rintro ⟨s, rfl⟩
      rfl
  | true =>
    simp only [if_true]
    cases hnumber : Decimal.number? v.display with
    | none =>
      rw [Option.map_none, Option.getD_none, SqlValue.same_text_iff]
      constructor
      · intro h
        exact .inr ⟨_, h, hnumber⟩
      · rintro (h | ⟨s, rfl, -⟩)
        · obtain ⟨l, hl⟩ := Option.isSome_iff_exists.1 h
          rw [SqlValue.number?_display hl] at hnumber
          cases hnumber
        · rfl
    | some l =>
      rw [Option.map_some, Option.getD_some, SqlValue.same_long_iff]
      constructor
      · intro h
        exact .inl (by simp [h])
      · rintro (h | ⟨s, rfl, hnone⟩)
        · obtain ⟨m, hm⟩ := Option.isSome_iff_exists.1 h
          rw [SqlValue.number?_display hm] at hnumber
          rw [hm, hnumber]
        · exact absurd (hnone.symm.trans hnumber) (by simp)

/-- A stored value equals the parameter for a text in a condition exactly if both are the same. -/
theorem equals_bindId_iff (d : Descriptor E) (v : SqlValue) (id : String) :
    v.equals (d.bindId id) = true ↔ v.Same (d.bindId id) := by
  rw [bindId_eq]
  split
  · cases Decimal.number? id with
    | none => exact SqlValue.equals_text_iff.trans SqlValue.same_text_iff.symm
    | some l => exact SqlValue.equals_long_iff.trans SqlValue.same_long_iff.symm
  · exact SqlValue.equals_text_iff.trans SqlValue.same_text_iff.symm

end Descriptor

def EntityType.idPlace (E : EntityType) : Nat :=
  E.columns.findIdx Column.isId

theorem Descriptor.getElem?_idPlace {E : EntityType} (d : Descriptor E) :
    E.columns[E.idPlace]? = some d.idColumn := by
  rw [EntityType.idPlace, ← List.find?_eq_getElem?_findIdx, ← List.head?_filter, d.filter_isId]
  rfl

namespace Dao
variable {E : EntityType}

def params {answer : Answer} (delayed : Bool) (op : Operation E answer) (dao : Dao E)
    (slot : Slot E) : Except Failure (List SqlValue) :=
  (dao.plan delayed op slot).1.map (·.params)

/-- What writes a record binds `v` for its identifier: in an insertion at the place of the
identifier column, in an update after all other values, and alone in an increment. -/
structure WritesId (dao : Dao E) (slot : Slot E) (r : E.Rec) (v : SqlValue) : Prop where
  insert : ∀ delayed, (dao.params delayed (.insert r) slot).map (·[E.idPlace]?) = .ok (some v)
  insertDelayed : ∀ delayed,
    (dao.params delayed (.insertDelayed r) slot).map (·[E.idPlace]?) = .ok (some v)
  update : ∀ delayed, (dao.params delayed (.update r) slot).map (·.getLast?) = .ok (some v)
  incrementBy : ∀ delayed field amount, Text.isBlank field = false →
    dao.params delayed (.incrementBy r field amount) slot = .ok [v]

structure LooksUpId (dao : Dao E) (slot : Slot E) (id : String) (w : SqlValue) : Prop where
  load : ∀ delayed, dao.params delayed (.load id) slot = .ok [w]
  findByIds : ∀ delayed before after,
    (dao.params delayed (.findByIds (before ++ id :: after)) slot).map (·[before.length]?)
      = .ok (some w)
  deleteById : ∀ delayed, dao.params delayed (.deleteById id) slot = .ok [w]

section Resolved
variable {d : Descriptor E} {dao : Dao E} {slot : Slot E} (hd : (dao.resolve slot).1 = .ok d)
include hd

theorem params_of_resolve {answer : Answer} {delayed : Bool} {op : Operation E answer}
    {build : Descriptor E → Except Failure Statement} {statement : Statement}
    (hprepare : op.prepare delayed = .ok (.mapped build)) (hbuild : build d = .ok statement) :
    dao.params delayed op slot = .ok statement.params := by
  rw [params, plan_of_resolve hd hprepare, hbuild]
  rfl

theorem writesId {r : E.Rec} {id : String} (hid : E.identifier r = some id) :
    dao.WritesId slot r (d.idColumn.read r) := by
  have hplace : (d.insertValues r)[E.idPlace]? = some (d.idColumn.read r) := by
    rw [Descriptor.insertValues, List.getElem?_map, show d.columns = E.columns from rfl,
      d.getElem?_idPlace]
    rfl
  refine ⟨?_, ?_, ?_, ?_⟩
  · intro delayed
    have hprepare : (Operation.insert r).prepare delayed
        = .ok (.mapped fun d => .ok (d.insert r false)) := Operation.requireId_bind hid _
    rw [params_of_resolve hd hprepare rfl]
    exact congrArg Except.ok hplace
  · intro delayed
    have hprepare : (Operation.insertDelayed r).prepare delayed
        = .ok (.mapped fun d => .ok (d.insert r delayed)) := Operation.requireId_bind hid _
    rw [params_of_resolve hd hprepare rfl]
    exact congrArg Except.ok hplace
  · intro delayed
    have hprepare : (Operation.update r).prepare delayed
        = .ok (.mapped fun d => .ok (d.update r)) := Operation.requireId_bind hid _
    rw [params_of_resolve hd hprepare rfl]
    exact congrArg Except.ok List.getLast?_concat
  · intro delayed field amount hfield
    have hprepare : (Operation.incrementBy r field amount).prepare delayed
        = .ok (.mapped fun d => d.increment field amount (d.idColumn.read r)) := Operation.requireId_bind hid _
    exact params_of_resolve hd hprepare (Descriptor.increment_eq_ok_iff.2 ⟨hfield, rfl⟩)

theorem looksUpId (id : String) : dao.LooksUpId slot id (d.bindId id) := by
  refine ⟨?_, ?_, ?_⟩
  · intro delayed
    have hprepare : (Operation.load (E := E) id).prepare delayed
        = .ok (.mapped fun d => .ok (d.selectById (d.bindId id))) := rfl
    exact params_of_resolve hd hprepare rfl
  · intro delayed before after
    have hprepare : (Operation.findByIds (E := E) (before ++ id :: after)).prepare delayed
        = .ok (.mapped fun d => d.selectByIds ((before ++ id :: after).map d.bindId)) := rfl
    rw [params_of_resolve hd hprepare (Descriptor.selectByIds_eq_ok_iff.2 ⟨by simp, rfl⟩)]
    simp [Except.map]
  · intro delayed
    have hprepare : (Operation.deleteById (E := E) id).prepare delayed
        = .ok (.mapped fun d => .ok (d.deleteById (d.bindId id))) := rfl
    exact params_of_resolve hd hprepare rfl

/-- A record is looked up by the value that it was written with, and found in whatever row stores
it, exactly if the identifier column binds the value again for its text. Texts and integers are
bound again in columns of their own kind. -/
theorem looksUpId_written_iff {r : E.Rec} {v : SqlValue} (hv : d.idColumn.read r = v)
    (hid : E.identifier r = some v.display) :
    dao.WritesId slot r v ∧ dao.LooksUpId slot v.display (d.bindId v.display) ∧
    (v.Same (d.bindId v.display) ↔ d.idColumn.kind.Rebinds v) ∧
    (∀ stored, d.Stores stored r →
      (d.schema.keyed (d.bindId v.display) stored = true ↔ d.idColumn.kind.Rebinds v)) ∧
    (∀ kept : d.idColumn.field.type.Carrier → d.idColumn.field.type.Carrier,
      Storable d.idColumn.field.type kept → d.idColumn.kind.Identifying → v ≠ .null →
        d.idColumn.kind.Rebinds v) := by
  subst hv
  refine ⟨writesId hd hid, looksUpId hd _, d.same_bindId_iff _, ?_, ?_⟩
  · intro stored hstored
    have hkeyed : d.schema.keyed (d.bindId (d.idColumn.read r).display) stored
        = (d.idColumn.read r).equals (d.bindId (d.idColumn.read r).display) :=
      congrArg (SqlValue.equals · _) hstored.key
    rw [hkeyed, d.equals_bindId_iff, d.same_bindId_iff]
  · intro kept hstorable hkind hne
    exact (hstorable.keyForm (EntityType.kind_of_mem_columns d.idColumn_mem.1) hkind hne).rebinds

end Resolved
end Dao

namespace Gauge

theorem looksUpId_closed :
    (Dao.mk (some descriptor)).WritesId {} closed (.text "G1") ∧
    (Dao.mk (some descriptor)).LooksUpId {} "G1" (.text "G1") := by
  have hresolve : ((Dao.mk (some descriptor)).resolve {}).1 = .ok descriptor := rfl
  have hread : descriptor.idColumn.read closed = .text "G1" := rfl
  obtain ⟨hwrites, hlooksUp, -⟩ := Dao.looksUpId_written_iff hresolve hread rfl
  exact ⟨hwrites, hlooksUp⟩

end Gauge

namespace Ticket

def ticket : EntityType where
  name := "Ticket"
  table? := some "tickets"
  fields := [{ name := "id", type := .date }]
  identifier r := some (SqlValue.ofInstant (r ⟨0, by decide⟩)).display

def descriptor : Descriptor ticket where
  table := "tickets"
  idColumn := ⟨⟨0, by decide⟩, "ticket_id", .date⟩
  filter_isId := by decide

def issued : ticket.Rec
  | ⟨0, _⟩ => ({ seconds := 1700000000, nanos := 999000000 } : Instant)

/-- The ticket is written with a number and looked up by its text. -/
theorem looksUpId_issued :
    Descriptor.build ticket none = .ok descriptor ∧
    ticket.identifier issued = some (descriptor.idColumn.read issued).display ∧
    (Dao.mk (some descriptor)).WritesId {} issued (.long 1700000000) ∧
    (Dao.mk (some descriptor)).LooksUpId {} "1700000000" (.text "1700000000") ∧
    ¬ (SqlValue.long 1700000000).Same (.text "1700000000") := by
  have hresolve : ((Dao.mk (some descriptor)).resolve {}).1 = .ok descriptor := rfl
  have hid : ticket.identifier issued = some (descriptor.idColumn.read issued).display := rfl
  refine ⟨rfl, hid, Dao.writesId hresolve hid, Dao.looksUpId hresolve _, ?_⟩
  rw [SqlValue.same_text_iff]
  simp

end Ticket
end DataMapper
