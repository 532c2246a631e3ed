import Mathlib.Data.List.DropRight
import DataMapper.Proofs.Rendering

/-! # The query that calls ask for

Criteria are built by calls, some of which replace what earlier ones set. The
effective query of a list of calls is read off the list: what came last and what
came after it. It is what the calls build, and the statement of a query shows it:
two lists of calls give one statement exactly when they ask for one query.
-/
namespace DataMapper

def Filter.ofConditions (conditions : List Condition) : Filter :=
  conditions.foldl add {}

@[simp] theorem Filter.ofConditions_eq (conditions : List Condition) :
    ofConditions conditions = ⟨conditions⟩ := by
  induction conditions using List.reverseRecOn with
  | nil => rfl
  | append_singleton conditions c ih =>
    rw [ofConditions] at ih ⊢
    rw [List.foldl_concat, ih, add]

namespace Criteria

inductive Call where
  | ofFilter (conditions : List Condition)
  | withFilter (conditions : List Condition)
  | eq (column : String) (value : SqlValue)
  | orderBy (term : OrderTerm)
  | within (window : Window)
  | first
  | page (number size : UInt64)
deriving DecidableEq

namespace Call

@[simp] def apply (c : Criteria) : Call → Criteria
  | ofFilter conditions => .ofFilter (.ofConditions conditions)
  | withFilter conditions => c.withFilter (.ofConditions conditions)
  | eq column value => c.eq column value
  | orderBy term => c.orderBy term
  | within window => c.within window
  | first => c.within .first
  | page number size => c.page number size

@[simp] def conditions? : Call → Option (List Condition)
  | ofFilter conditions | withFilter conditions => some conditions
  | _ => none

@[simp] def equality? : Call → Option Condition
  | eq column value => some (.compare column .eq value)
  | _ => none

@[simp] def term? : Call → Option OrderTerm
  | orderBy term => some term
  | _ => none

@[simp] def window? : Call → Option Window
  | within window => some window
  | first => some ⟨0, 1⟩
  | page number size => some (.ofPage number size)
  | _ => none

@[simp] def startsOver : Call → Bool
  | ofFilter _ => true
  | _ => false

@[simp] def names : Call → List String
  | ofFilter conditions | withFilter conditions => conditions.map Condition.column
  | eq column _ => [column]
  | orderBy term => [term.column]
  | within _ | first | page .. => []

/-- No name of the call holds a blank. It may hold anything else, and be a keyword. -/
def Plain (call : Call) : Prop :=
  ∀ name ∈ call.names, ' ' ∉ name.toList

instance (call : Call) : Decidable call.Plain :=
  inferInstanceAs (Decidable (∀ name ∈ call.names, _))

end Call

def ofCalls (calls : List Call) : Criteria :=
  calls.foldl Call.apply {}

def current (calls : List Call) : List Call :=
  calls.rtakeWhile fun call => !call.startsOver

def currentConditions (calls : List Call) : List Condition :=
  (calls.filterMap Call.conditions?).getLast?.getD []
    ++ (calls.rtakeWhile fun call => call.conditions?.isNone).filterMap Call.equality?

/-- The query that calls ask for: its conditions, and of the current calls the sort terms in order
and the last window. -/
def effective (calls : List Call) : Criteria where
  filter := ⟨currentConditions calls⟩
  order := (current calls).filterMap Call.term?
  window? := ((current calls).filterMap Call.window?).getLast?

theorem current_concat (calls : List Call) (call : Call) :
    current (calls ++ [call]) = if call.startsOver then [] else current calls ++ [call] := by
  rw [current, List.rtakeWhile_concat, current]
  cases call.startsOver <;> rfl

theorem currentConditions_concat (calls : List Call) (call : Call) :
    currentConditions (calls ++ [call])
      = call.conditions?.getD (currentConditions calls ++ call.equality?.toList) := by
  cases call <;> simp [currentConditions]

/-- What one more call does to the effective query is what it does to criteria. -/
theorem effective_concat (calls : List Call) (call : Call) :
    effective (calls ++ [call]) = call.apply (effective calls) := by
  unfold effective
  rw [current_concat, currentConditions_concat]
  cases call with
  | ofFilter conditions => simp [ofFilter]
  | withFilter conditions => simp [withFilter]
  | eq column value => simp [eq, Filter.compare, Filter.add]
  | orderBy term => simp [orderBy]
  | within window => simp [within]
  | first => simp [within, Window.first]
  | page number size => simp [page, within]

theorem ofCalls_eq_effective (calls : List Call) : ofCalls calls = effective calls := by
  induction calls using List.reverseRecOn with
  | nil => rfl
  | append_singleton calls call ih =>
    rw [effective_concat, ← ih, ofCalls, List.foldl_concat]
    rfl

theorem Plain.apply {c : Criteria} (hc : c.Plain) {call : Call} (h : call.Plain) :
    (call.apply c).Plain := by
  obtain ⟨hconditions, hterms⟩ := hc
  cases call with
  | ofFilter conditions =>
    refine ⟨fun x hx => ?_, by simp [ofFilter]⟩
    exact h x.column (List.mem_map_of_mem (by simpa [ofFilter] using hx))
  | withFilter conditions =>
    refine ⟨fun x hx => ?_, hterms⟩
    exact h x.column (List.mem_map_of_mem (by simpa [withFilter] using hx))
  | eq column value =>
    refine ⟨fun x hx => ?_, hterms⟩
    obtain hx | hx := List.mem_append.1 hx
    · exact hconditions x hx
    · obtain rfl := List.mem_singleton.1 hx
      exact h column (List.mem_singleton_self column)
  | orderBy term =>
    refine ⟨hconditions, fun t ht => ?_⟩
    obtain ht | ht := List.mem_append.1 ht
    · exact hterms t ht
    · obtain rfl := List.mem_singleton.1 ht
      exact h t.column (List.mem_singleton_self t.column)
  | within | first | page => exact ⟨hconditions, hterms⟩

theorem plain_ofCalls {calls : List Call} (h : ∀ call ∈ calls, call.Plain) :
    (ofCalls calls).Plain := by
  induction calls using List.reverseRecOn with
  | nil => exact ⟨by simp [ofCalls], by simp [ofCalls]⟩
  | append_singleton calls call ih =>
    obtain ⟨hcalls, hcall⟩ := List.forall_mem_append.1 h
    rw [ofCalls, List.foldl_concat]
    exact (ih hcalls).apply (hcall call (List.mem_singleton_self call))

def clauses (c : Criteria) : List String :=
  (if c.filter.conditions = [] then [] else
    ["WHERE " ++ " AND ".intercalate (c.filter.conditions.map Condition.sql)])
  ++ (if c.order = [] then [] else
    ["ORDER BY " ++ ", ".intercalate (c.order.map OrderTerm.sql)])
  ++ (c.window?.map Window.sql).toList

end Criteria

namespace Descriptor
variable {E : EntityType} (d : Descriptor E)

theorem sql_selectCriteria (c : Criteria) :
    (d.selectCriteria c).sql = " ".intercalate (d.selectFrom :: c.clauses) := by
  obtain ⟨⟨conditions⟩, order, window?⟩ := c
  rw [selectCriteria, selectWithin, Statement.joinClauses]
  cases conditions <;> cases order <;> cases window? <;>
    simp [Criteria.clauses, Criteria.orderSql, Filter.sql, Filter.isEmpty, Window.sql,
      d.selectFrom_ne_empty]

/-- Two lists of calls give one statement exactly when they ask for one query. The text has one
clause for each part of the query that is not empty, and nothing for the others. -/
theorem selectCriteria_ofCalls {calls calls' : List Criteria.Call}
    (h : ∀ call ∈ calls, call.Plain) (h' : ∀ call ∈ calls', call.Plain) :
    (d.selectCriteria (.ofCalls calls) = d.selectCriteria (.ofCalls calls') ↔
      Criteria.effective calls = Criteria.effective calls') ∧
    (d.selectCriteria (.ofCalls calls)).sql
      = " ".intercalate (d.selectFrom :: (Criteria.effective calls).clauses) := by
  rw [d.selectCriteria_inj (Criteria.plain_ofCalls h) (Criteria.plain_ofCalls h'),
    sql_selectCriteria, Criteria.ofCalls_eq_effective, Criteria.ofCalls_eq_effective]
  exact ⟨Iff.rfl, rfl⟩

end Descriptor

namespace Gauge
open Criteria (Call)

def replaced : List Call :=
  [.page 9 9, .ofFilter [.isNull "note"], .withFilter [.compare "AND" .le (.int 7)],
    .eq "IS" (.text "?"), .orderBy ⟨"ORDER", .desc⟩, .page 2 25, .first]

def direct : List Call :=
  [.ofFilter [.compare "AND" .le (.int 7), .compare "IS" .eq (.text "?")],
    .orderBy ⟨"ORDER", .desc⟩, .within ⟨0, 1⟩]

/-- Names may be keywords. -/
theorem selectCriteria_replaced :
    (∀ call ∈ replaced, call.Plain) ∧ (∀ call ∈ direct, call.Plain) ∧
    descriptor.selectCriteria (.ofCalls replaced) = descriptor.selectCriteria (.ofCalls direct) ∧
    (descriptor.selectCriteria (.ofCalls replaced)).sql =
      "SELECT gauge_id, level, open, closed FROM gauge WHERE AND <= ? AND IS = ? " ++
        "ORDER BY ORDER DESC LIMIT 0,1" := by
  have hreplaced : ∀ call ∈ replaced, call.Plain := by decide
  have hdirect : ∀ call ∈ direct, call.Plain := by decide
  obtain ⟨hiff, htext⟩ := descriptor.selectCriteria_ofCalls hreplaced hdirect
  refine ⟨hreplaced, hdirect, hiff.2 (by decide), htext.trans (by decide)⟩

end Gauge
end DataMapper
