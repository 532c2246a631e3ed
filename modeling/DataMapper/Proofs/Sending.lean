import DataMapper.Dao

/-! # What an operation sends

An operation is first planned: its arguments are checked, the descriptor is
resolved and the statement is built. Every failure on the way is one of the
argument, the mapping or the operation itself. Only a planned statement is
sent, and then once; a failure after that is one of data access and names the
statement.
-/
namespace DataMapper

def Failure.BeforeSending : Failure → Prop
  | invalidArgument _ | mapping _ | unsupported _ => True
  | dataAccess .. | configuration _ => False

def CheckedWith {α : Type u} (P : α → Prop) : Except Failure α → Prop
  | .ok a => P a
  | .error e => e.BeforeSending

abbrev Checked {α : Type u} (x : Except Failure α) : Prop :=
  CheckedWith (fun _ => True) x

namespace CheckedWith
variable {α : Type u} {β : Type u} {P : α → Prop} {Q : β → Prop}

theorem bind {x : Except Failure α} {f : α → Except Failure β} (hx : CheckedWith P x)
    (hf : ∀ a, P a → CheckedWith Q (f a)) : CheckedWith Q (x >>= f) := by
  cases x with
  | ok a => exact hf a hx
  | error e => exact hx

theorem map {x : Except Failure α} {f : α → β} (hx : CheckedWith P x) (hf : ∀ a, P a → Q (f a)) :
    CheckedWith Q (x.map f) := by
  cases x with
  | ok a => exact hf a hx
  | error e => exact hx

theorem beforeSending {x : Except Failure α} (hx : CheckedWith P x) {e : Failure}
    (he : x = .error e) : e.BeforeSending := by
  subst he
  exact hx

end CheckedWith

theorem checked_mapM {α β : Type} {f : α → Except Failure β} (hf : ∀ a, Checked (f a))
    (as : List α) : Checked (as.mapM f) := by
  induction as with
  | nil => exact trivial
  | cons a as ih =>
    rw [List.mapM_cons]
    refine (hf a).bind fun b _ => ih.bind fun bs _ => ?_
    exact trivial

namespace Argument

theorem checked_present {α : Type} (value : Option α) (name : String) :
    Checked (present value name) := by
  cases value <;> exact trivial

theorem checked_text (value name : String) : Checked (text value name) := by
  unfold text
  split <;> exact trivial

theorem checked_nonEmpty {α : Type} (values : List α) (name : String) :
    Checked (nonEmpty values name) := by
  unfold nonEmpty
  split <;> exact trivial

end Argument

namespace Descriptor
variable {E : EntityType} (d : Descriptor E)

theorem checked_build (E : EntityType) (override? : Option String) :
    Checked (build E override?) := by
  unfold build
  split <;> exact trivial

theorem checked_selectSingle (c : Criteria) : Checked (d.selectSingle c) := by
  have h : Checked (singleWindow c) := by
    unfold singleWindow
    split
    · exact trivial
    · split <;> exact trivial
  exact h.map fun _ _ => trivial

theorem checked_selectByText (condition : String) : Checked (d.selectByText condition) :=
  (Argument.checked_text condition "where").bind fun _ _ => trivial

theorem checked_findByText (condition : String) : Checked (d.findByText condition) :=
  (d.checked_selectByText condition).bind fun _ _ => trivial

theorem checked_selectByField (field : String) (value : SqlValue) :
    Checked (d.selectByField field value) :=
  (Argument.checked_text field "field").bind fun _ _ => trivial

theorem checked_selectByFieldPaged (field : String) (value : SqlValue) (orderBy : String)
    (page count : UInt32) : Checked (d.selectByFieldPaged field value orderBy page count) :=
  (Argument.checked_text field "field").bind fun _ _ =>
    (Argument.checked_text orderBy "order_by").bind fun _ _ => trivial

theorem checked_fieldEquals (field : String) : Checked (fieldEquals field) :=
  (Argument.checked_text field "field").bind fun _ _ => trivial

theorem checked_selectByFields (fields : List String) (values : List SqlValue) :
    Checked (d.selectByFields fields values) := by
  refine (Argument.checked_nonEmpty fields "fields").bind fun fields _ => ?_
  refine (Argument.checked_nonEmpty values "values").bind fun values _ => ?_
  split
  · exact trivial
  · exact (checked_mapM checked_fieldEquals fields).bind fun _ _ => trivial

theorem checked_selectByIds (ids : List SqlValue) : Checked (d.selectByIds ids) :=
  (Argument.checked_nonEmpty ids "ids").bind fun _ _ => trivial

theorem checked_increment (field : String) (amount : Int32) (id : SqlValue) :
    Checked (d.increment field amount id) :=
  (Argument.checked_text field "field").bind fun _ _ => trivial

end Descriptor

def Prepared.Checked {E : EntityType} : Prepared E → Prop
  | .ready _ => True
  | .mapped build => ∀ d, DataMapper.Checked (build d)

namespace Operation
variable {E : EntityType}

theorem checked_requireId (r : E.Rec) : Checked (requireId r) :=
  Argument.checked_present _ _

theorem checked_prepareIncrement (r : E.Rec) (field : String) (amount : Int32) :
    CheckedWith Prepared.Checked (prepareIncrement r field amount) :=
  (checked_requireId r).bind fun _ _ d => d.checked_increment field amount _

theorem checked_prepareAggregate (f : Descriptor.Aggregate) (field : String) (c : Criteria) :
    CheckedWith Prepared.Checked (prepareAggregate (E := E) f field c) :=
  (Argument.checked_text field "field").bind fun _ _ _ => trivial

theorem checked_prepare (delayed : Bool) {answer : Answer} (op : Operation E answer) :
    CheckedWith Prepared.Checked (op.prepare delayed) := by
  cases op with
  | load | list | deleteById | count => exact fun _ => trivial
  | find c => exact fun d => d.checked_selectSingle c
  | findMatching filter window? => exact fun d => d.checked_selectSingle { filter, window? }
  | findByText condition => exact fun d => d.checked_findByText condition
  | findByField field value => exact fun d => d.checked_selectByField field value
  | findByFields fields values => exact fun d => d.checked_selectByFields fields values
  | findByIds ids => exact fun d => d.checked_selectByIds _
  | listByText condition => exact fun d => d.checked_selectByText condition
  | listByField | listByFieldOrdered | listByFieldPaged =>
    exact fun d => d.checked_selectByFieldPaged _ _ _ _ _
  | insert r | insertDelayed r | update r => exact (checked_requireId r).bind fun _ _ _ => trivial
  | delete => exact trivial
  | increment r field => exact checked_prepareIncrement r field 1
  | decrement r field => exact checked_prepareIncrement r field (-1)
  | incrementBy r field amount => exact checked_prepareIncrement r field amount
  | countSql text => exact (Argument.checked_text text "sql").bind fun _ _ => trivial
  | minInt | maxInt | minLong | maxLong => exact checked_prepareAggregate _ _ _

end Operation

/-! ## Planning and sending -/

namespace Connection

def Call.statement : Call → Statement
  | .execute statement | .query statement => statement

end Connection

def Answer.call : Answer → Statement → Connection.Call
  | affected => .execute
  | _ => .query

@[simp] theorem Answer.statement_call (answer : Answer) (statement : Statement) :
    (answer.call statement).statement = statement := by
  cases answer <;> rfl

namespace Dao
variable {E : EntityType} {σ : Type} {answer : Answer}

theorem checked_slot_resolve (slot : Slot E) : Checked slot.resolve.1 := by
  unfold Slot.resolve
  split
  · exact trivial
  · split
    · exact trivial
    · next e he => exact (Descriptor.checked_build E slot.override?).beforeSending he

theorem checked_resolve (dao : Dao E) (slot : Slot E) : Checked (dao.resolve slot).1 := by
  unfold resolve
  split
  · exact trivial
  · split
    · exact trivial
    · next e slot' h =>
      exact (checked_slot_resolve slot).beforeSending (congrArg Prod.fst h)

/-- The statement that an operation is about to send, or the failure that comes before, with the
object and the slot after the descriptor was resolved. -/
def plan (delayed : Bool) (op : Operation E answer) (dao : Dao E) (slot : Slot E) :
    Except Failure Statement × Dao E × Slot E :=
  match op.prepare delayed with
  | .error e => (.error e, dao, slot)
  | .ok (.ready statement) => (.ok statement, dao, slot)
  | .ok (.mapped build) =>
    ((dao.resolve slot).1 >>= build, (dao.resolve slot).2.1, (dao.resolve slot).2.2)

theorem checked_plan (delayed : Bool) (op : Operation E answer) (dao : Dao E) (slot : Slot E) :
    Checked (dao.plan delayed op slot).1 := by
  have h := op.checked_prepare delayed
  unfold plan
  cases hp : op.prepare delayed with
  | error e => exact h.beforeSending hp
  | ok prepared =>
    rw [hp] at h
    cases prepared with
    | ready statement => exact trivial
    | mapped build => exact (checked_resolve dao slot).bind fun d _ => h d

variable (conn : Connection σ) (op : Operation E answer) (dao : Dao E) (slot : Slot E) (s : σ)

theorem run_of_plan_error {e : Failure} (h : (dao.plan conn.delayedInsert op slot).1 = .error e) :
    dao.run conn op slot s =
      (.error e, (dao.plan conn.delayedInsert op slot).2.1,
        (dao.plan conn.delayedInsert op slot).2.2, s) := by
  unfold run
  unfold plan at h ⊢
  cases hp : op.prepare conn.delayedInsert with
  | error e' => rw [hp] at h; cases h; rfl
  | ok prepared =>
    rw [hp] at h
    cases prepared with
    | ready statement => cases h
    | mapped build =>
      rcases hr : dao.resolve slot with ⟨resolved, dao', slot'⟩
      simp only [hr] at h ⊢
      cases resolved with
      | error e' => cases h; rfl
      | ok d =>
        have hb : build d = .error e := h
        simp only [hb]

theorem run_of_plan_ok {statement : Statement}
    (h : (dao.plan conn.delayedInsert op slot).1 = .ok statement) :
    let sent : Except Failure (answer.Value E) × σ := Operation.perform conn statement s
    dao.run conn op slot s =
      (sent.1, (dao.plan conn.delayedInsert op slot).2.1,
        (dao.plan conn.delayedInsert op slot).2.2, sent.2) := by
  unfold run
  unfold plan at h ⊢
  cases hp : op.prepare conn.delayedInsert with
  | error e => rw [hp] at h; cases h
  | ok prepared =>
    rw [hp] at h
    cases prepared with
    | ready st => cases h; rfl
    | mapped build =>
      rcases hr : dao.resolve slot with ⟨resolved, dao', slot'⟩
      simp only [hr] at h ⊢
      cases resolved with
      | error e => cases h
      | ok d =>
        have hb : build d = .ok statement := h
        simp only [hb]

theorem perform_logged (statement : Statement) (before : List Connection.Call) :
    let sent : Except Failure (answer.Value E) × σ := Operation.perform conn statement s
    Operation.perform conn.logged statement (before, s) =
      (sent.1, before ++ [answer.call statement], sent.2) := by
  cases answer <;> rfl

def calls : List Connection.Call :=
  (dao.run conn.logged op slot ([], s)).2.2.2.1

theorem calls_of_plan_error {e : Failure} (h : (dao.plan conn.delayedInsert op slot).1 = .error e) :
    dao.calls conn op slot s = [] := by
  unfold calls
  rw [dao.run_of_plan_error conn.logged op slot _ h]

theorem calls_of_plan_ok {statement : Statement}
    (h : (dao.plan conn.delayedInsert op slot).1 = .ok statement) :
    dao.calls conn op slot s = [answer.call statement] := by
  unfold calls
  rw [dao.run_of_plan_ok conn.logged op slot _ h, perform_logged]
  rfl

theorem run_logged (before : List Connection.Call) :
    dao.run conn.logged op slot (before, s) =
      ((dao.run conn op slot s).1, (dao.run conn op slot s).2.1, (dao.run conn op slot s).2.2.1,
        before ++ dao.calls conn op slot s, (dao.run conn op slot s).2.2.2) := by
  cases h : (dao.plan conn.delayedInsert op slot).1 with
  | error e =>
    rw [dao.run_of_plan_error conn.logged op slot _ h, dao.run_of_plan_error conn op slot s h,
      dao.calls_of_plan_error conn op slot s h, List.append_nil]
    rfl
  | ok statement =>
    rw [dao.run_of_plan_ok conn.logged op slot _ h, dao.run_of_plan_ok conn op slot s h,
      dao.calls_of_plan_ok conn op slot s h, perform_logged]
    rfl

theorem perform_eq_error {statement : Statement} {e : Failure}
    (h : (Operation.perform conn statement s : Except Failure (answer.Value E) × σ).1 = .error e) :
    ∃ fault, e = .dataAccess statement fault := by
  rcases hr : (answer.send conn statement s : Except ConnectionFault (answer.Value E) × σ) with
    ⟨reply, t⟩
  simp only [Operation.perform, hr] at h
  cases reply with
  | ok a => cases h
  | error fault =>
    cases h
    exact ⟨fault, rfl⟩

/-- An operation sends nothing, and leaves the database alone, exactly when it fails for its
arguments, the mapping or the operation itself. Otherwise it sends one statement, and a failure is
one of data access that names this statement and may be retried. -/
theorem run_calls :
    (dao.calls conn op slot s = [] ↔
      ∃ e, (dao.run conn op slot s).1 = .error e ∧ e.BeforeSending) ∧
    (dao.calls conn op slot s = [] → (dao.run conn op slot s).2.2.2 = s) ∧
    (dao.calls conn op slot s ≠ [] → ∃ call, dao.calls conn op slot s = [call] ∧
      ∀ e, (dao.run conn op slot s).1 = .error e →
        e.isRetriable = true ∧ ∃ fault, e = .dataAccess call.statement fault) := by
  cases h : (dao.plan conn.delayedInsert op slot).1 with
  | error e =>
    have hcalls := dao.calls_of_plan_error conn op slot s h
    have hrun := dao.run_of_plan_error conn op slot s h
    have he := (dao.checked_plan conn.delayedInsert op slot).beforeSending h
    rw [hcalls, hrun]
    exact ⟨⟨fun _ => ⟨e, rfl, he⟩, fun _ => rfl⟩, fun _ => rfl, fun hne => absurd rfl hne⟩
  | ok statement =>
    have hcalls := dao.calls_of_plan_ok conn op slot s h
    have hrun := dao.run_of_plan_ok conn op slot s h
    rw [hcalls, hrun]
    refine ⟨⟨fun hnil => absurd hnil (by simp), ?_⟩, fun hnil => absurd hnil (by simp), ?_⟩
    · rintro ⟨e, he, hbefore⟩
      obtain ⟨fault, rfl⟩ := perform_eq_error conn s he
      exact hbefore.elim
    · intro _
      refine ⟨answer.call statement, rfl, ?_⟩
      intro e he
      obtain ⟨fault, rfl⟩ := perform_eq_error conn s he
      rw [Answer.statement_call]
      exact ⟨rfl, fault, rfl⟩

end Dao
end DataMapper
