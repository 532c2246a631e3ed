import DataMapper.Proofs.Lookup
import Mathlib.Algebra.Ring.Int.Defs

/-! # Increments add up

An increment is sent as the text `f=f + n` or `f=f - n`, the sign apart from the
magnitude. Read as an expression in `f`, the right-hand side gives the value of
the field changed by the amount, also for zero and for the least amount, whose
magnitude is no amount of the same width. So the texts that a series of calls
sends, read one after the other, add up to the sum of the amounts.
-/
namespace DataMapper

inductive Adjustment (E : EntityType) where
  | increment (record : E.Rec)
  | decrement (record : E.Rec)
  | incrementBy (record : E.Rec) (amount : Int32)

namespace Adjustment
variable {E : EntityType}

def record : Adjustment E → E.Rec
  | increment r | decrement r | incrementBy r _ => r

def amount : Adjustment E → Int
  | increment _ => 1
  | decrement _ => -1
  | incrementBy _ amount => amount.toInt

def operation (field : String) : Adjustment E → Operation E .affected
  | increment r => .increment r field
  | decrement r => .decrement r field
  | incrementBy r amount => .incrementBy r field amount

def step : Adjustment E → Int32
  | increment _ => 1
  | decrement _ => -1
  | incrementBy _ amount => amount

theorem toInt_step (a : Adjustment E) : a.step.toInt = a.amount := by
  cases a <;> rfl

theorem prepare_operation (delayed : Bool) (field : String) (a : Adjustment E) :
    (a.operation field).prepare delayed
      = Operation.prepareIncrement a.record field a.step := by
  cases a <;> rfl

def isAccepted (a : Adjustment E) : Bool :=
  (E.identifier a.record).isSome

end Adjustment

namespace Text

/-- What ` + n` or ` - n` makes of a value. -/
def changed? (x : Int) : List Char → Option Int
  | ' ' :: '+' :: ' ' :: digits => (Decimal.readNat digits).map fun n : Nat => x + n
  | ' ' :: '-' :: ' ' :: digits => (Decimal.readNat digits).map fun n : Nat => x - n
  | _ => none

/-- The value of `f + n` or `f - n` where `f` has the value `x`. -/
def value? (f : String) (x : Int) (text : String) : Option Int :=
  (text.toList.dropPrefix? f.toList).bind (changed? x)

theorem value?_append (f : String) (x : Int) (text : String) :
    value? f x (f ++ text) = changed? x text.toList := by
  have hdrop : (f ++ text).toList.dropPrefix? f.toList = some text.toList := by
    rw [List.dropPrefix?_eq_some_iff]
    exact ⟨f.toList, String.toList_append, beq_self_eq_true f.toList⟩
  rw [value?, hdrop, Option.bind_some]

end Text

theorem Decimal.readNat_ofNat (n : Nat) : readNat (ofNat n).toList = some n := by
  rw [ofNat, String.toList_ofList, readNat_toDigits]

namespace Descriptor
variable {E : EntityType}

/-- The sign and the magnitude of a step make up its amount. -/
theorem changed?_signedStep (x : Int) (amount : Int32) :
    Text.changed? x (" " ++ signedStep amount).toList = some (x + amount.toInt) := by
  have hread := Decimal.readNat_ofNat amount.toInt.natAbs
  unfold signedStep
  generalize (Decimal.ofNat amount.toInt.natAbs) = digits at hread
  by_cases hneg : amount.toInt < 0
  · have htext : (" " ++ ("- " ++ digits)).toList = ' ' :: '-' :: ' ' :: digits.toList := by
      simp only [String.toList_append]
      rfl
    have hsum : x - amount.toInt.natAbs = x + amount.toInt := by omega
    rw [if_pos hneg, htext, Text.changed?, hread, Option.map_some, hsum]
  · have htext : (" " ++ ("+ " ++ digits)).toList = ' ' :: '+' :: ' ' :: digits.toList := by
      simp only [String.toList_append]
      rfl
    have hsum : x + amount.toInt.natAbs = x + amount.toInt := by omega
    rw [if_neg hneg, htext, Text.changed?, hread, Option.map_some, hsum]

example : signedStep (-2147483648) = "- 2147483648" := by decide

def assignment (d : Descriptor E) (field : String) (a : Adjustment E) (change : String) :
    Statement :=
  ⟨"UPDATE " ++ d.table ++ " SET " ++ field ++ "=" ++ (field ++ change) ++ " WHERE "
    ++ d.idColumn.name ++ " = ?", [d.idColumn.read a.record]⟩

theorem increment_eq_assignment (d : Descriptor E) {field : String}
    (hfield : Text.isBlank field = false) (a : Adjustment E) :
    d.increment field a.step (d.idColumn.read a.record)
      = .ok (d.assignment field a (" " ++ signedStep a.step)) := by
  have hsql : "UPDATE " ++ d.table ++ " SET " ++ field ++ "=" ++ field ++ " "
        ++ signedStep a.step ++ " WHERE " ++ d.idMatches
      = "UPDATE " ++ d.table ++ " SET " ++ field ++ "=" ++ (field ++ (" " ++ signedStep a.step))
        ++ " WHERE " ++ d.idColumn.name ++ " = ?" := by
    simp only [idMatches, String.append_assoc]
  exact increment_eq_ok_iff.2 ⟨hfield, congrArg (Statement.mk · _) hsql⟩

end Descriptor

namespace Dao
variable {E : EntityType} {σ : Type} (conn : Connection σ)

def callsEach {answer : Answer} : List (Operation E answer) → Dao E → Slot E → σ →
    List Connection.Call
  | [], _, _, _ => []
  | op :: ops, dao, slot, s =>
    dao.calls conn op slot s ++
      callsEach ops (dao.run conn op slot s).2.1 (dao.run conn op slot s).2.2.1
        (dao.run conn op slot s).2.2.2

variable (dao : Dao E) (slot : Slot E) (s : σ) {d : Descriptor E}

/-- No operation forgets a descriptor that was resolved. -/
theorem resolve_run {answer : Answer} (hd : (dao.resolve slot).1 = .ok d)
    (op : Operation E answer) :
    ((dao.run conn op slot s).2.1.resolve (dao.run conn op slot s).2.2.1).1 = .ok d := by
  have hrun := dao.run_dao_slot conn op slot s
  by_cases hop : op.NeedsDescriptor
  · obtain ⟨build, -, hplan⟩ := plan_of_needsDescriptor conn.delayedInsert hop dao slot
    obtain ⟨hdao, hslot⟩ := Prod.ext_iff.1 (hrun.trans (congrArg Prod.snd hplan))
    simp only at hdao hslot
    rw [hdao, hslot]
    exact dao.resolve_resolve slot hd
  · have hplan := plan_snd_of_not_needsDescriptor conn.delayedInsert hop dao slot
    obtain ⟨hdao, hslot⟩ := Prod.ext_iff.1 (hrun.trans hplan)
    simp only at hdao hslot
    rw [hdao, hslot]
    exact hd

section Resolved
variable {field : String} (hd : (dao.resolve slot).1 = .ok d)
  (hfield : Text.isBlank field = false)
include hd hfield

theorem calls_adjustment (a : Adjustment E) :
    dao.calls conn (a.operation field) slot s = if a.isAccepted then
      [.execute (d.assignment field a (" " ++ Descriptor.signedStep a.step))] else [] := by
  have hprepare := a.prepare_operation conn.delayedInsert field
  unfold Adjustment.isAccepted
  cases hid : E.identifier a.record with
  | none =>
    have hrefused : (dao.plan conn.delayedInsert (a.operation field) slot).1
        = .error (.invalidArgument (.required "entity.id")) := by
      rw [plan, hprepare, Operation.prepareIncrement, Operation.requireId, hid]
      rfl
    exact dao.calls_of_plan_error conn (a.operation field) slot s hrefused
  | some id =>
    have hmapped := hprepare.trans (Operation.requireId_bind hid _)
    exact dao.calls_of_resolve conn slot s hd hmapped (d.increment_eq_assignment hfield a)

/-- Accepted calls are sent one by one, whatever the replies are. -/
theorem callsEach_adjustments (as : List (Adjustment E)) :
    dao.callsEach conn (as.map (·.operation field)) slot s
      = (as.filter Adjustment.isAccepted).map fun a =>
          .execute (d.assignment field a (" " ++ Descriptor.signedStep a.step)) := by
  induction as generalizing dao slot s with
  | nil => rfl
  | cons a as ih =>
    have hnext := dao.resolve_run conn slot s hd (a.operation field)
    rw [List.map_cons, callsEach, ih _ _ _ hnext, dao.calls_adjustment conn slot s hd hfield]
    cases haccepted : a.isAccepted with
    | true =>
      rw [List.filter_cons_of_pos haccepted]
      rfl
    | false =>
      rw [List.filter_cons_of_neg (by simp [haccepted])]
      rfl

end Resolved
end Dao

/-- Changes that are read one after the other add up. -/
theorem Text.foldlM_value?_changes {E : EntityType} (field : String) (as : List (Adjustment E))
    (x : Int) :
    (as.map fun a => field ++ (" " ++ Descriptor.signedStep a.step)).foldlM (Text.value? field) x
      = some (x + (as.map Adjustment.amount).sum) := by
  induction as generalizing x with
  | nil => simp
  | cons a as ih =>
    have hstep : Text.value? field x (field ++ (" " ++ Descriptor.signedStep a.step))
        = some (x + a.amount) := by
      rw [Text.value?_append, Descriptor.changed?_signedStep, a.toInt_step]
    rw [List.map_cons, List.foldlM_cons, hstep, Option.bind_eq_bind, Option.bind_some, ih,
      List.map_cons, List.sum_cons, Int.add_assoc]

namespace Dao
variable {E : EntityType} {σ : Type} (conn : Connection σ) (dao : Dao E) (slot : Slot E) (s : σ)
  {d : Descriptor E} {field : String}

/-- Of a series of calls those for identified records are sent, each as an assignment of the field
to the field with a change that binds the identifier and nothing else. Whatever value the field
starts with, evaluating the right-hand sides one after the other adds the amounts of these calls to
it. -/
theorem increments_add_up (hd : (dao.resolve slot).1 = .ok d)
    (hfield : Text.isBlank field = false) (as : List (Adjustment E)) :
    let accepted := as.filter fun a => (E.identifier a.record).isSome
    ∃ changes : List String, changes.length = accepted.length ∧
      dao.callsEach conn (as.map (·.operation field)) slot s
        = List.zipWith (fun a change => .execute (d.assignment field a change))
            accepted changes ∧
      ∀ x, (changes.map (field ++ ·)).foldlM (Text.value? field) x
        = some (x + (accepted.map Adjustment.amount).sum) := by
  intro accepted
  refine ⟨accepted.map fun a => " " ++ Descriptor.signedStep a.step, List.length_map _, ?_, ?_⟩
  · rw [List.zipWith_map_right, List.zipWith_self]
    exact dao.callsEach_adjustments conn slot s hd hfield as
  · intro x
    rw [List.map_map]
    exact Text.foldlM_value?_changes field accepted x

end Dao

namespace Gauge

def adjustments : List (Adjustment gauge) :=
  [.incrementBy closed (-2147483648), .increment gauge.initial, .increment closed,
    .incrementBy closed 0, .decrement closed]

theorem increments_add_up_closed :
    ∃ changes : List String, changes.length = 4 ∧
      (Dao.mk (some descriptor)).callsEach silent (adjustments.map (·.operation "level")) {} ()
        = List.zipWith (fun a change => .execute (descriptor.assignment "level" a change))
            [.incrementBy closed (-2147483648), .increment closed, .incrementBy closed 0,
              .decrement closed] changes ∧
      (changes.map ("level" ++ ·)).foldlM (Text.value? "level") 5 = some (-2147483643) := by
  have hresolve : ((Dao.mk (some descriptor)).resolve {}).1 = .ok descriptor := rfl
  have hfield : Text.isBlank "level" = false := rfl
  obtain ⟨changes, hlength, hcalls, hsum⟩ :=
    Dao.increments_add_up silent _ {} () hresolve hfield adjustments
  exact ⟨changes, hlength, hcalls, hsum 5⟩

end Gauge
end DataMapper
